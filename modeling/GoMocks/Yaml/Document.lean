import GoMocks.Yaml.Sequence

/-!
# YAML — documents

A document that is one mapping or one sequence of texts. Other documents are not read.

* `Document.parse?`: the document of a source text.
-/

namespace GoMocks.Yaml

open Scalar (endsWord)

/-- What a document says. -/
inductive Document
  | mapping (entries : Mapping)
  | sequence (items : List Scalar)
  deriving DecidableEq, Repr, Inhabited

namespace Document

/-- The text with every line break written in one way. -/
def unifyBreaks : List Char → List Char
  | '\r' :: '\n' :: rest => '\n' :: unifyBreaks rest
  | '\r' :: rest         => '\n' :: unifyBreaks rest
  | '\u0085' :: rest     => '\n' :: unifyBreaks rest
  | c :: rest            => c :: unifyBreaks rest
  | []                   => []

/-- May the character stand in a document? -/
def isPrintable (c : Char) : Bool :=
  let n := c.toNat
  n == 0x09 || n == 0x0a || n == 0x0d || (0x20 ≤ n && n ≤ 0x7e) || n == 0x85 ||
    (0xa0 ≤ n && n ≤ 0xd7ff) || (0xe000 ≤ n && n ≤ 0xfffd) || 0x10000 ≤ n

/-- What was read, if nothing of the document is left behind it. -/
def whole? {α : Type} (found : Option (α × List Char)) : Option α := do
  let (a, rest) ← found
  if isEnd (← restOfLine? rest) then some a else none

/-- The mapping between braces, or the sequence between brackets, that is all of a text. -/
def scanFlow? (cs : List Char) : Option Document :=
  match cs with
  | '\x7b' :: rest => (whole? (scanFlowEntries? (rest.length + 1) rest)).map .mapping
  | '[' :: rest    => (whole? (scanFlowItems? (rest.length + 1) rest)).map .sequence
  | _              => none

/-- The document that begins on the first line with content. Without content it is an empty
mapping. -/
def scanRoot? (cs : List Char) : Option Document :=
  if isEnd cs then some (.mapping [])
  else
    let lines := nextContent cs
    let column := columnOf lines
    match lines.drop column with
    | '\x7b' :: rest => scanFlow? ('\x7b' :: rest)
    | '[' :: rest    => scanFlow? ('[' :: rest)
    | first =>
      if (afterDash? first).isSome then (scanItems? column (cs.length + 1) cs).map .sequence
      else (scanEntries? column (cs.length + 1) cs).map .mapping

/-- The document of a source text. It may begin with a mark of the byte order, and with three
dashes on a line that may go on with braces or brackets. -/
def parse? (source : String) : Option Document := do
  let cs := source.toList
  if !cs.all isPrintable then none
  else
    let cs := unifyBreaks (if cs.head? = some '\ufeff' then cs.tail else cs)
    let first := nextContent cs
    if "---".toList.isPrefixOf first && endsWord (first.drop 3) then
      match restOfLine? (first.drop 3) with
      | some rest => scanRoot? rest
      | none      => scanFlow? ((first.drop 3).dropWhile Scalar.isGap)
    else scanRoot? cs

end Document

end GoMocks.Yaml
