import GoMocks.Yaml.Mapping

/-!
# YAML — sequences

Sequences of texts: one behind a dash on each line, or all of them between brackets.

* `scanItems?`: the texts that stand on the lines of a document.
* `scanFlowItems?`: the texts between brackets.
-/

namespace GoMocks.Yaml

open Scalar (endsWord)

/-- What follows the dash of an item. -/
def afterDash? : List Char → Option (List Char)
  | '-' :: rest => if endsWord rest then some rest else none
  | _           => none

/-- The items behind dashes in some column, up to the end of the document. At most `fuel` items are
read. -/
def scanItems? (column : Nat) : Nat → List Char → Option (List Scalar)
  | 0, _ => none
  | fuel + 1, cs =>
    if isEnd cs then some []
    else do
      let line := nextContent cs
      if columnOf line != column then none
      else
        let (value, rest) ← scanEntryValue? column (← afterDash? (line.drop column))
        return value :: (← scanItems? column fuel rest)

/-- The items up to the closing bracket, and what follows it. Each is written out. At most `fuel`
items are read. -/
def scanFlowItems? : Nat → List Char → Option (List Scalar × List Char)
  | 0, _ => none
  | fuel + 1, cs =>
    match nextToken cs with
    | ']' :: rest     => some ([], rest)
    | ',' :: _        => none
    | '\x7d' :: _     => none
    | cs => do
      let (item, rest) ← scanFlowValue? cs
      match nextToken rest with
      | ',' :: rest => do
        let (items, rest) ← scanFlowItems? fuel rest
        return (item :: items, rest)
      | ']' :: rest => some ([item], rest)
      | _           => none

end GoMocks.Yaml
