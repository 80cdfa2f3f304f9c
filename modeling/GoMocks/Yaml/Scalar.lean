import GoMocks.Text.Blank
import GoMocks.Text.Hexadecimal

/-!
# YAML — scalars

Texts of a YAML document: plain ones, those between quotes, and blocks of lines. A text may go over
several lines. Outside of blocks the break between two lines counts as a space, and of several
breaks in a row the first one does not count.

* `Scalar.scanPlain`, `scanSingleQuoted`, `scanDoubleQuoted`, `scanBlock`: the text at the head of a
  document, and what follows it.
-/

namespace GoMocks.Yaml

/-- A text, and whether it stands without quotes on a line of the document. -/
structure Scalar where
  text  : String
  plain : Bool
  deriving DecidableEq, Repr, Inhabited

namespace Scalar

/-- A blank inside a line. -/
def isGap (c : Char) : Bool :=
  c == ' ' || c == '\t'

/-- Does a blank, a line break or nothing follow? -/
def endsWord (cs : List Char) : Bool :=
  cs.head?.all fun c => isGap c || c == '\n'

/-! ### Line breaks -/

/-- What a text between quotes or a plain one is made of. -/
inductive Glyph
  | blank (c : Char)
  | lineBreak
  /-- A line break behind a backslash. -/
  | hiddenBreak
  | other (c : Char)
  deriving DecidableEq, Repr, Inhabited

/-- What a character is inside of quotes. -/
def Glyph.ofChar (c : Char) : Glyph :=
  if isGap c then .blank c else if c = '\n' then .lineBreak else .other c

/-- The text of some blanks and line breaks. Blanks beside a line break do not count. -/
def gapText (gap : List Glyph) : List Char :=
  let breaks := gap.count .lineBreak
  if gap.head? = some .hiddenBreak then .replicate breaks '\n'
  else if breaks = 0 then gap.filterMap fun g => match g with | .blank c => some c | _ => none
  else if breaks = 1 then [' ']
  else .replicate (breaks - 1) '\n'

/-- The text of some glyphs behind a gap. -/
def joinLines (gap : List Glyph) : List Glyph → List Char
  | []                   => gapText gap
  | .other c :: rest     => gapText gap ++ c :: joinLines [] rest
  | .hiddenBreak :: rest => gapText gap ++ joinLines [.hiddenBreak] rest
  | g :: rest            => joinLines (gap ++ [g]) rest

/-! ### Quotes -/

/-- The glyphs up to a single quote, and what follows it. A quote in the text is written twice. -/
def singleQuoted : List Char → Option (List Glyph × List Char)
  | [] => none
  | '\'' :: '\'' :: rest => do
    let (glyphs, rest) ← singleQuoted rest
    return (.other '\'' :: glyphs, rest)
  | '\'' :: rest => some ([], rest)
  | c :: rest => do
    let (glyphs, rest) ← singleQuoted rest
    return (.ofChar c :: glyphs, rest)

/-- The character that a letter stands for behind a backslash. -/
def escapeOf? (c : Char) : Option Char :=
  match c with
  | '0'  => some '\x00'
  | 'a'  => some '\x07'
  | 'b'  => some '\x08'
  | 't'  => some '\t'
  | '\t' => some '\t'
  | 'n'  => some '\n'
  | 'v'  => some '\x0b'
  | 'f'  => some '\x0c'
  | 'r'  => some '\r'
  | 'e'  => some '\x1b'
  | ' '  => some ' '
  | '"'  => some '"'
  | '/'  => some '/'
  | '\\' => some '\\'
  | 'N'  => some '\u0085'
  | '_'  => some '\u00a0'
  | 'L'  => some '\u2028'
  | 'P'  => some '\u2029'
  | _    => none

/-- The glyphs up to a double quote, and what follows it. -/
def doubleQuoted : List Char → Option (List Glyph × List Char)
  | [] => none
  | '"' :: rest => some ([], rest)
  | '\\' :: '\n' :: rest => do
    let (glyphs, rest) ← doubleQuoted rest
    return (.hiddenBreak :: glyphs, rest)
  | '\\' :: 'x' :: a :: b :: rest => do
    let c ← Text.hexChar? [a, b]
    let (glyphs, rest) ← doubleQuoted rest
    return (.other c :: glyphs, rest)
  | '\\' :: 'u' :: a :: b :: c :: d :: rest => do
    let c ← Text.hexChar? [a, b, c, d]
    let (glyphs, rest) ← doubleQuoted rest
    return (.other c :: glyphs, rest)
  | '\\' :: 'U' :: a :: b :: c :: d :: e :: f :: g :: h :: rest => do
    let c ← Text.hexChar? [a, b, c, d, e, f, g, h]
    let (glyphs, rest) ← doubleQuoted rest
    return (.other c :: glyphs, rest)
  | '\\' :: c :: rest => do
    let c ← escapeOf? c
    let (glyphs, rest) ← doubleQuoted rest
    return (.other c :: glyphs, rest)
  | c :: rest => do
    let (glyphs, rest) ← doubleQuoted rest
    return (.ofChar c :: glyphs, rest)

/-- The scalar of glyphs between quotes. -/
def ofGlyphs (glyphs : List Glyph) : Scalar :=
  ⟨.ofList (joinLines [] glyphs), false⟩

/-- A text between single quotes, and what follows it. -/
def scanSingleQuoted (cs : List Char) : Option (Scalar × List Char) :=
  (singleQuoted cs).map fun s => (ofGlyphs s.1, s.2)

/-- A text between double quotes, and what follows it. -/
def scanDoubleQuoted (cs : List Char) : Option (Scalar × List Char) :=
  (doubleQuoted cs).map fun s => (ofGlyphs s.1, s.2)

/-! ### Plain text -/

/-- The characters that end plain text between braces. -/
def flowSigns : List Char :=
  [',', '[', ']', '\x7b', '\x7d']

/-- The characters that plain text does not begin with. -/
def indicators : List Char :=
  ['-', '?', ':', '#', '&', '*', '!', '|', '>', '\'', '"', '%', '@', '`'] ++ flowSigns

/-- May plain text begin here? -/
def startsPlain (flow : Bool) : List Char → Bool
  | [] => false
  | c :: rest =>
    !isGap c && c != '\n' && (!indicators.contains c ||
      (c == '-' && !(rest.head?.any isGap)) || (!flow && (c == '?' || c == ':') && !endsWord rest))

/-- Does plain text end before the character, by what stands before and behind it? -/
def endsPlain (flow : Bool) (before c : Char) (rest : List Char) : Bool :=
  c == '\n' || (c == '#' && isGap before) || (c == ':' && endsWord rest) ||
    (flow && (flowSigns.contains c || (c == ':' && rest.head?.any flowSigns.contains)))

/-- The plain text of one line, behind a character, and what follows it. It goes on to a colon that
ends a word, and to a comment. -/
def plainLine (flow : Bool) (before : Char) : List Char → List Char × List Char
  | [] => ([], [])
  | c :: rest =>
    if endsPlain flow before c rest then ([], c :: rest)
    else
      let (text, rest) := plainLine flow c rest
      (c :: text, rest)

/-- The text without the blanks at its end. -/
def trimGaps (text : List Char) : List Char :=
  (text.reverse.dropWhile isGap).reverse

/-- Does the line say where the document ends? -/
def isMarker (cs : List Char) : Bool :=
  ("---".toList.isPrefixOf cs || "...".toList.isPrefixOf cs) && endsWord (cs.drop 3)

/-- The line breaks and blanks before the next line that is not empty: the number of the breaks,
the column of its first character, and the rest from there on. -/
def nextLine (breaks column : Nat) : List Char → Nat × Nat × List Char
  | '\n' :: rest => nextLine (breaks + 1) 0 rest
  | ' ' :: rest  => nextLine breaks (column + 1) rest
  | rest         => (breaks, column, rest)

/-- Goes on with plain text on the lines that follow, as long as they are indented as far as is
asked for. At most `fuel` lines are read. -/
def plainLines (flow : Bool) (indent : Nat) (text : List Char) (rest : List Char) :
    Nat → List Char × List Char
  | 0 => (text, rest)
  | fuel + 1 =>
    let (breaks, column, next) := nextLine 0 0 rest
    if breaks = 0 || column < indent || next.head?.all (fun c => c == '#' || isGap c) ||
        (column = 0 && isMarker next) then (text, rest)
    else
      let (line, next) := plainLine flow '\n' next
      if line.isEmpty then (text, rest)
      else
        let gap := gapText (.replicate breaks .lineBreak)
        plainLines flow indent (text ++ gap ++ trimGaps line) next fuel

/-- Plain text at the head of a document, and what follows it. -/
def scanPlain (flow : Bool) (indent : Nat) (cs : List Char) : Scalar × List Char :=
  let (line, rest) := plainLine flow ' ' cs
  let (text, rest) := plainLines flow indent (trimGaps line) rest rest.length
  (⟨.ofList text, true⟩, rest)

/-! ### Blocks of lines -/

/-- Which line breaks at the end of a block belong to it. -/
inductive Chomping
  | one | none | all
  deriving DecidableEq, Repr, Inhabited

/-- The chomping and the indentation that stand behind the sign of a block, and what follows. -/
def blockHeader : List Char → Chomping × Option Nat × List Char
  | '-' :: c :: rest => if '1' ≤ c && c ≤ '9' then (.none, digit c, rest) else (.none, .none, c :: rest)
  | '+' :: c :: rest => if '1' ≤ c && c ≤ '9' then (.all, digit c, rest) else (.all, .none, c :: rest)
  | c :: rest =>
    if '1' ≤ c && c ≤ '9' then
      match rest with
      | '-' :: rest => (.none, digit c, rest)
      | '+' :: rest => (.all, digit c, rest)
      | rest        => (.one, digit c, rest)
    else if c = '-' then (.none, .none, rest)
    else if c = '+' then (.all, .none, rest)
    else (.one, .none, c :: rest)
  | [] => (.one, .none, [])
where
  digit (c : Char) : Option Nat := some (c.toNat - '0'.toNat)

/-- The lines of a text, each with its line break if it has one. -/
def linesOf (cs : List Char) : List (List Char × Bool) :=
  match cs.splitOn '\n' with
  | []    => []
  | lines =>
    let whole := lines.dropLast.map fun line => (line, true)
    match lines.getLast? with
    | some [] | Option.none => whole
    | some line             => whole ++ [(line, false)]

/-- The columns that a line is indented by. -/
def indentOf (line : List Char) : Nat :=
  (line.takeWhile (· == ' ')).length

/-- Does the line hold nothing but the blanks of an indentation? -/
def isEmptyLine (line : List Char) : Bool :=
  line.all (· == ' ')

/-- Is the line empty, or no part of the indentation of a block? -/
def isBreak (indent : Nat) (line : List Char) : Bool :=
  isEmptyLine line && line.length ≤ indent

/-- The text of the lines of a block, behind a line with its breaks. A folded block turns the break
between two lines into a space, where none of them is indented further. -/
def blockText (folded : Bool) (indent : Nat) (started indented : Bool) (breaks : Nat) :
    List (List Char × Bool) → List Char × Nat
  | [] => ([], breaks)
  | (line, ended) :: rest =>
    let next := if ended then 1 else 0
    if isBreak indent line then blockText folded indent started indented (breaks + next) rest
    else
      let content := line.drop indent
      let further := content.head?.any isGap
      let gap : List Char :=
        if folded && started && !indented && !further then
          if breaks = 1 then [' '] else .replicate (breaks - 1) '\n'
        else .replicate breaks '\n'
      let (text, last) := blockText folded indent true further next rest
      (gap ++ content ++ text, last)

/-- A block of lines below a mapping in some column, behind its sign; and the lines that follow. -/
def scanBlock (folded : Bool) (column : Nat) (cs : List Char) : Option (Scalar × List Char) := do
  let (chomping, asked, rest) := blockHeader cs
  let rest := rest.dropWhile isGap
  let rest := if rest.head? = some '#' then rest.dropWhile (· != '\n') else rest
  if rest.head?.any (· != '\n') then Option.none
  else
    let lines := linesOf rest.tail
    let leading := lines.takeWhile fun l => isEmptyLine l.1
    let first := (lines.drop leading.length).head?.map fun l => indentOf l.1
    let found := (leading.map fun l => indentOf l.1).foldl max (first.getD 0)
    let indent := match asked with
      | some n      => column + n
      | Option.none => max found (column + 1)
    let block := lines.takeWhile fun l => isBreak indent l.1 || indent ≤ indentOf l.1
    let after := lines.drop block.length
    let (text, breaks) := blockText folded indent false false 0 block
    let last : List Char := match chomping with
      | .one  => if text.isEmpty then [] else .replicate (min breaks 1) '\n'
      | .none => []
      | .all  => .replicate breaks '\n'
    let after := after.flatMap fun l => l.1 ++ if l.2 then ['\n'] else []
    return (⟨.ofList (text ++ last), false⟩, after)

end Scalar

end GoMocks.Yaml
