import GoMocks.Template.Token
import GoMocks.Text.Blank

/-!
# Templates — pieces

A template is cut at its markers into text, outputs and statements. Statements and comments leave
no trace of their lines: blanks between the start of a line and the marker are dropped, and so is
the newline right behind it, unless the markers say otherwise.
-/

namespace GoMocks.Template

/-- A part of a template: text, the tokens of an output, or the tokens of a statement. -/
inductive Piece
  | text (s : String)
  | output (tokens : List Token)
  | statement (tokens : List Token)
  deriving DecidableEq, Repr, Inhabited

/-- What an opening marker opens. -/
inductive Marker
  | output | statement | comment
  deriving DecidableEq, Repr, Inhabited

namespace Piece

/-- The text up to the first opening marker, and the marker with what follows it. -/
def splitAtMarker : List Char → List Char × Option (Marker × List Char)
  | '\x7b' :: '\x7b' :: rest => ([], some (.output, rest))
  | '\x7b' :: '%' :: rest    => ([], some (.statement, rest))
  | '\x7b' :: '#' :: rest    => ([], some (.comment, rest))
  | c :: rest                =>
    let (front, found) := splitAtMarker rest
    (c :: front, found)
  | []                       => ([], none)

/-- The blank control written behind an opening marker, and what follows it. -/
def openingControl : List Char → BlankControl × List Char
  | '-' :: rest => (.remove, rest)
  | '+' :: rest => (.keep, rest)
  | rest        => (.standard, rest)

/-- Does the character end a line? -/
def isNewline (c : Char) : Bool :=
  c == '\n' || c == '\r'

/-- Is the end of the text only blanks behind the start of a line? A text without a newline
continues the line before it. -/
def endsInLineStart (lineStart : Bool) (text : List Char) : Bool :=
  match (text.reverse.dropWhile fun c => Text.isBlank c && !isNewline c).head? with
  | none   => lineStart
  | some c => isNewline c

/-- The text without the blanks of its last line. -/
def dropIndent (text : List Char) : List Char :=
  (text.reverse.dropWhile fun c => Text.isBlank c && !isNewline c).reverse

/-- The text before a marker, after the blank control of the marker. Outputs keep the indent of
their line. -/
def lead (marker : Marker) (control : BlankControl) (lineStart : Bool) (text : List Char) :
    List Char :=
  match control with
  | .remove   => (text.reverse.dropWhile Text.isBlank).reverse
  | .keep     => text
  | .standard =>
    if marker != .output && endsInLineStart lineStart text then dropIndent text else text

/-- What follows a closing marker after its blank control, and whether a new line starts there. -/
def tail (marker : Marker) (control : BlankControl) (rest : List Char) : List Char × Bool :=
  match control with
  | .remove =>
    (rest.dropWhile Text.isBlank, endsInLineStart false (rest.takeWhile Text.isBlank))
  | .keep => (rest, false)
  | .standard =>
    if marker = .output then (rest, false)
    else
      match rest with
      | '\r' :: '\n' :: rest => (rest, true)
      | '\r' :: rest         => (rest, true)
      | '\n' :: rest         => (rest, true)
      | rest                 => (rest, false)

/-- What follows a comment, and the blank control of its closing marker. -/
def skipComment : List Char → Option (BlankControl × List Char)
  | '-' :: '#' :: '\x7d' :: rest => some (.remove, rest)
  | '+' :: '#' :: '\x7d' :: rest => some (.keep, rest)
  | '#' :: '\x7d' :: rest        => some (.standard, rest)
  | _ :: rest                    => skipComment rest
  | []                           => none

/-- A text piece, unless it is empty. -/
def ofText (text : List Char) : List Piece :=
  if text.isEmpty then [] else [.text (.ofList text)]

/-- Cuts a template that starts at the start of a line or not. At most `fuel` markers are read. -/
def cut (lineStart : Bool) : Nat → List Char → Except TemplateFault (List Piece)
  | 0, _ => throw .malformed
  | fuel + 1, cs =>
    match splitAtMarker cs with
    | (front, none) => return ofText front
    | (front, some (marker, rest)) => do
      let (control, inside) := openingControl rest
      let before := ofText (lead marker control lineStart front)
      match marker with
      | .comment =>
        match skipComment inside with
        | none => throw .malformed
        | some (control, rest) =>
          let (rest, lineStart) := tail marker control rest
          return before ++ (← cut lineStart fuel rest)
      | .output =>
        let (tokens, control, rest) ← Token.scanAll ['\x7d', '\x7d'] (inside.length + 1) inside
        let (rest, lineStart) := tail marker control rest
        return before ++ .output tokens :: (← cut lineStart fuel rest)
      | .statement =>
        let (tokens, control, rest) ← Token.scanAll ['%', '\x7d'] (inside.length + 1) inside
        let (rest, lineStart) := tail marker control rest
        return before ++ .statement tokens :: (← cut lineStart fuel rest)

/-- The pieces of a template. -/
def ofTemplate (source : String) : Except TemplateFault (List Piece) :=
  cut true (source.length + 1) source.toList

end Piece

end GoMocks.Template
