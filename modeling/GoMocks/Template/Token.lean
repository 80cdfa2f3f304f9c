import GoMocks.Error
import GoMocks.Text.Hexadecimal

/-!
# Templates — tokens

The words, literals and signs between the markers of a template, and the blank control written at
its markers: `-` removes all blanks beyond the marker, `+` keeps them.
-/

namespace GoMocks.Template

/-- What a marker says about the blanks beyond it. -/
inductive BlankControl
  | standard | remove | keep
  deriving DecidableEq, Repr, Inhabited

/-- A token between two markers. -/
inductive Token
  | word   (name : String)
  | number (n : Nat)
  | text   (s : String)
  | sign   (s : String)
  deriving DecidableEq, Repr, Inhabited

namespace Token

/-- May a word begin with the character? -/
def isWordStart (c : Char) : Bool :=
  c.isAlpha || c == '_'

/-- May a word have the character in it? -/
def isWordPart (c : Char) : Bool :=
  c.isAlphanum || c == '_'

/-- The character that a letter stands for behind a backslash. -/
def escapeOf? (c : Char) : Option Char :=
  match c with
  | 'b'  => some '\x08'
  | 'f'  => some '\x0c'
  | 'n'  => some '\n'
  | 'r'  => some '\r'
  | 't'  => some '\t'
  | '"'  => some '"'
  | '\'' => some '\''
  | '\\' => some '\\'
  | '/'  => some '/'
  | _    => none

/-- The text of a literal up to its closing quote, and what follows the quote. -/
def scanText (quote : Char) : List Char → Option (List Char × List Char)
  | [] => none
  | '\\' :: 'u' :: a :: b :: c :: d :: rest => do
    let escaped ← Text.hexChar? [a, b, c, d]
    let (cs, rest) ← scanText quote rest
    return (escaped :: cs, rest)
  | '\\' :: c :: rest => do
    let escaped ← escapeOf? c
    let (cs, rest) ← scanText quote rest
    return (escaped :: cs, rest)
  | c :: rest =>
    if c = quote then some ([], rest)
    else do
      let (cs, rest) ← scanText quote rest
      return (c :: cs, rest)

/-- The signs of expressions. Of two that fit, the longer one comes first. -/
def signs : List String :=
  ["==", "!=", ".", ",", "(", ")", "[", "]", "|"]

/-- The number some digits write. -/
def decimal (digits : List Char) : Nat :=
  digits.foldl (fun n c => 10 * n + (c.toNat - '0'.toNat)) 0

/-- The first token of a text that begins with no blank, and what follows it. -/
def scan (cs : List Char) : Option (Token × List Char) :=
  match cs with
  | [] => none
  | c :: rest =>
    if isWordStart c then
      some (.word (.ofList (c :: rest.takeWhile isWordPart)), rest.dropWhile isWordPart)
    else if c.isDigit then
      some (.number (decimal (cs.takeWhile Char.isDigit)), cs.dropWhile Char.isDigit)
    else if c = '"' || c = '\'' then
      (scanText c rest).map fun (s, rest) => (.text (.ofList s), rest)
    else
      (signs.find? (·.toList.isPrefixOf cs)).map fun s => (.sign s, cs.drop s.length)

/-- The closing marker at the head of a text, with its blank control. -/
def closing? (marker : List Char) (cs : List Char) : Option (BlankControl × List Char) :=
  if marker.isPrefixOf cs then some (.standard, cs.drop marker.length)
  else if ('-' :: marker).isPrefixOf cs then some (.remove, cs.drop (marker.length + 1))
  else if ('+' :: marker).isPrefixOf cs then some (.keep, cs.drop (marker.length + 1))
  else none

/-- May the character stand between tokens and mean nothing? -/
def isGapChar (c : Char) : Bool :=
  [' ', '\t', '\n', '\r', '\x0c'].contains c

/-- All tokens up to the closing marker, the blank control of the marker, and what follows it. At
most `fuel` tokens are read. -/
def scanAll (marker : List Char) :
    Nat → List Char → Except TemplateFault (List Token × BlankControl × List Char)
  | 0, _ => throw .malformed
  | fuel + 1, cs =>
    let cs := cs.dropWhile isGapChar
    match closing? marker cs with
    | some (control, rest) => return ([], control, rest)
    | none =>
      match scan cs with
      | none => throw .malformed
      | some (token, rest) => do
        let (tokens, control, rest) ← scanAll marker fuel rest
        return (token :: tokens, control, rest)

end Token

end GoMocks.Template
