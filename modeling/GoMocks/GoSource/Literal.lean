/-!
# Go source — literals

The numbers, runes and strings of Go. Each scanner takes the longest literal of its kind off the
front of a text and gives what follows it.

* `scanNumber`: integers, floating-point and imaginary numbers.
* `scanRune`, `scanString`, `scanRawString`: text between quotes.
-/

namespace GoMocks.GoSource.Literal

/-! ### Digits -/

/-- A digit of a number to the base of two. -/
def isBinaryDigit (c : Char) : Bool :=
  c == '0' || c == '1'

/-- A digit of a number to the base of eight. -/
def isOctalDigit (c : Char) : Bool :=
  '0' ≤ c && c ≤ '7'

/-- A digit of a number to the base of sixteen. -/
def isHexDigit (c : Char) : Bool :=
  c.isDigit || ('a' ≤ c && c ≤ 'f') || ('A' ≤ c && c ≤ 'F')

/-- Digits behind a first one; underscores may stand between them. -/
def digitsTail (isDigit : Char → Bool) : List Char → List Char
  | '_' :: c :: rest => if isDigit c then digitsTail isDigit rest else '_' :: c :: rest
  | c :: rest        => if isDigit c then digitsTail isDigit rest else c :: rest
  | []               => []

/-- At least one digit. -/
def digits (isDigit : Char → Bool) : List Char → Option (List Char)
  | c :: rest => if isDigit c then some (digitsTail isDigit rest) else none
  | []        => none

/-- One of some characters. -/
def oneOf (allowed : List Char) : List Char → Option (List Char)
  | c :: rest => if allowed.contains c then some rest else none
  | []        => none

/-- Something that may be missing. -/
def optional (scan : List Char → Option (List Char)) (cs : List Char) : List Char :=
  (scan cs).getD cs

/-! ### Numbers -/

/-- An integer with a base: `0x`, `0b` or `0o`, perhaps an underscore, and digits. -/
def basedInteger (letters : List Char) (isDigit : Char → Bool) (cs : List Char) :
    Option (List Char) := do
  let cs ← oneOf ['0'] cs
  let cs ← oneOf letters cs
  digits isDigit (optional (oneOf ['_']) cs)

/-- An octal integer written with a leading zero alone. -/
def legacyOctal (cs : List Char) : Option (List Char) := do
  let cs ← oneOf ['0'] cs
  digits isOctalDigit (optional (oneOf ['_']) cs)

/-- A decimal integer; the first digit of a longer one is not zero. -/
def decimalInteger : List Char → Option (List Char)
  | '0' :: rest => some rest
  | cs          => digits Char.isDigit cs

/-- An exponent of ten, or of two behind a hexadecimal number. -/
def exponent (letters : List Char) (cs : List Char) : Option (List Char) := do
  let cs ← oneOf letters cs
  digits Char.isDigit (optional (oneOf ['+', '-']) cs)

/-- Digits, a point and perhaps more digits, with or without an exponent. -/
def pointFloat (cs : List Char) : Option (List Char) := do
  let cs ← digits Char.isDigit cs
  let cs ← oneOf ['.'] cs
  return optional (exponent ['e', 'E']) (optional (digits Char.isDigit) cs)

/-- Digits and an exponent. -/
def exponentFloat (cs : List Char) : Option (List Char) := do
  exponent ['e', 'E'] (← digits Char.isDigit cs)

/-- A point and digits, with or without an exponent. -/
def fractionFloat (cs : List Char) : Option (List Char) := do
  let cs ← oneOf ['.'] cs
  let cs ← digits Char.isDigit cs
  return optional (exponent ['e', 'E']) cs

/-- The digits of a hexadecimal floating-point number, with a point or without. -/
def hexMantissa (cs : List Char) : Option (List Char) :=
  match oneOf ['.'] cs with
  | some rest => digits isHexDigit rest
  | none => do
    let cs ← digits isHexDigit (optional (oneOf ['_']) cs)
    match oneOf ['.'] cs with
    | some rest => return optional (digits isHexDigit) rest
    | none      => return cs

/-- A hexadecimal floating-point number; its exponent is never missing. -/
def hexFloat (cs : List Char) : Option (List Char) := do
  let cs ← oneOf ['0'] cs
  let cs ← oneOf ['x', 'X'] cs
  exponent ['p', 'P'] (← hexMantissa cs)

/-- The kinds of numbers. -/
inductive NumberKind
  | integer | float | imaginary
  deriving DecidableEq, Repr, Inhabited

/-- The forms of a number with their kinds. -/
def plainForms : List (NumberKind × (List Char → Option (List Char))) :=
  [(.integer, basedInteger ['x', 'X'] isHexDigit), (.integer, basedInteger ['b', 'B'] isBinaryDigit),
    (.integer, basedInteger ['o', 'O'] isOctalDigit), (.integer, legacyOctal),
    (.integer, decimalInteger), (.float, pointFloat), (.float, exponentFloat),
    (.float, fractionFloat), (.float, hexFloat)]

/-- A number, or any decimal digits, with an `i` behind it. -/
def imaginary (scan : List Char → Option (List Char)) (cs : List Char) : Option (List Char) := do
  oneOf ['i'] (← scan cs)

/-- All forms of numbers, imaginary ones included. -/
def forms : List (NumberKind × (List Char → Option (List Char))) :=
  plainForms ++ (.imaginary, imaginary (digits Char.isDigit)) ::
    plainForms.map fun form => (.imaginary, imaginary form.2)

/-- The scan that leaves the shorter rest; of two equal ones the first. -/
def longer (best next : Option (NumberKind × List Char)) : Option (NumberKind × List Char) :=
  match best, next with
  | some b, some n => if n.2.length < b.2.length then some n else some b
  | some b, none   => some b
  | none,   n      => n

/-- The longest number at the front of a text. -/
def scanNumber (cs : List Char) : Option (NumberKind × List Char) :=
  (forms.map fun form => (form.2 cs).map (form.1, ·)).foldl longer none

/-! ### Runes and strings -/

/-- Exactly some number of characters of a class. -/
def exactly (isMember : Char → Bool) : Nat → List Char → Option (List Char)
  | 0,     cs        => some cs
  | n + 1, c :: rest => if isMember c then exactly isMember n rest else none
  | _ + 1, []        => none

/-- What may follow a backslash between single quotes. -/
def runeEscape : List Char → Option (List Char)
  | 'x' :: rest => exactly isHexDigit 2 rest
  | 'u' :: rest => exactly isHexDigit 4 rest
  | 'U' :: rest => exactly isHexDigit 8 rest
  | c :: rest   =>
    if "abfnrtv\\'\"".toList.contains c then some rest
    else exactly isOctalDigit 3 (c :: rest)
  | []          => none

/-- A character between single quotes. -/
def scanRune (cs : List Char) : Option (List Char) := do
  let cs ← oneOf ['\''] cs
  match cs with
  | '\\' :: rest => oneOf ['\''] (← runeEscape rest)
  | '\'' :: _    => none
  | _ :: rest    => oneOf ['\''] rest
  | []           => none

/-- What may follow a backslash between double quotes. -/
def stringEscape : List Char → Option (List Char)
  | 'x' :: rest => exactly isHexDigit 2 rest
  | 'u' :: rest => exactly isHexDigit 4 rest
  | 'U' :: rest => exactly isHexDigit 8 rest
  | _ :: rest   => some rest
  | []          => none

/-- The characters of a string up to its closing quote. Each turn passes over at least one. -/
def stringTail : Nat → List Char → Option (List Char)
  | 0, _ => none
  | fuel + 1, cs =>
    match cs with
    | '"' :: rest  => some rest
    | '\n' :: _    => none
    | '\\' :: rest => do stringTail fuel (← stringEscape rest)
    | _ :: rest    => stringTail fuel rest
    | []           => none

/-- Text between double quotes, on one line. -/
def scanString (cs : List Char) : Option (List Char) := do
  let cs ← oneOf ['"'] cs
  stringTail (cs.length + 1) cs

/-- The quote of raw strings. -/
def rawQuote : Char := '\x60'

/-- Text between raw quotes, over any number of lines. -/
def scanRawString (cs : List Char) : Option (List Char) := do
  let cs ← oneOf [rawQuote] cs
  match cs.dropWhile (· != rawQuote) with
  | _ :: rest => return rest
  | []        => none

end GoMocks.GoSource.Literal
