import GoMocks.Yaml.Scalar

/-!
# YAML — mappings

Mappings from texts to texts: a key and a value on each line, or all of them between braces.

* `scanEntries?`: the entries that stand on the lines of a document.
* `scanFlowEntries?`: the entries between braces.
-/

namespace GoMocks.Yaml

open Scalar (isGap endsWord isMarker)

/-- The keys of a mapping with their values. -/
abbrev Mapping := List (String × Scalar)

/-- The value that is not written. -/
def Scalar.missing : Scalar := ⟨"", true⟩

/-! ### Lines -/

/-- What follows the current line, if only blanks and a comment are left on it. -/
def restOfLine? (cs : List Char) : Option (List Char) :=
  match cs.dropWhile isGap with
  | []           => some []
  | '\n' :: rest => some rest
  | '#' :: rest  => some (rest.dropWhile (· != '\n')).tail
  | _            => none

/-- Passes over empty lines and comments, from the beginning of a line on. At most `fuel` lines are
passed over. -/
def dropIdleLines : Nat → List Char → List Char
  | 0, cs => cs
  | fuel + 1, cs =>
    match cs.dropWhile (· == ' ') with
    | []           => []
    | '\n' :: rest => dropIdleLines fuel rest
    | '#' :: rest  => dropIdleLines fuel (rest.dropWhile (· != '\n')).tail
    | _            => cs

/-- The text from the next line on that is neither empty nor a comment. -/
def nextContent (cs : List Char) : List Char :=
  dropIdleLines (cs.length + 1) cs

/-- The columns that the first line of a text is indented by. -/
def columnOf (cs : List Char) : Nat :=
  (cs.takeWhile (· == ' ')).length

/-- Is there nothing left of the document? -/
def isEnd (cs : List Char) : Bool :=
  let cs := nextContent cs
  cs.isEmpty ||
    ("...".toList.isPrefixOf cs && (restOfLine? (cs.drop 3)).any fun rest =>
      (nextContent rest).isEmpty)

/-! ### Block mappings -/

/-- A key up to its colon, and what follows the colon. A key stands on one line. -/
def scanKey? (flow : Bool) (cs : List Char) : Option (String × List Char) :=
  let quoted (s : Option (Scalar × List Char)) : Option (String × List Char) := do
    let (key, rest) ← s
    match rest.dropWhile isGap with
    | ':' :: after =>
      if (flow || endsWord after) && !(cs.take (cs.length - rest.length)).contains '\n' then
        some (key.text, after)
      else none
    | _ => none
  match cs with
  | '\'' :: rest => quoted (Scalar.scanSingleQuoted rest)
  | '"' :: rest  => quoted (Scalar.scanDoubleQuoted rest)
  | _ =>
    if Scalar.startsPlain flow cs then
      match Scalar.plainLine flow ' ' cs with
      | (key, ':' :: after) =>
        if endsWord after then some (.ofList (Scalar.trimGaps key), after) else none
      | _ => none
    else none

/-- A value that begins here, below a mapping in some column, and the lines that follow it. -/
def scanValue? (column : Nat) (cs : List Char) : Option (Scalar × List Char) := do
  match cs with
  | '|' :: rest => Scalar.scanBlock false column rest
  | '>' :: rest => Scalar.scanBlock true column rest
  | '\'' :: rest =>
    let (value, rest) ← Scalar.scanSingleQuoted rest
    return (value, ← restOfLine? rest)
  | '"' :: rest =>
    let (value, rest) ← Scalar.scanDoubleQuoted rest
    return (value, ← restOfLine? rest)
  | _ =>
    if Scalar.startsPlain false cs then
      let (value, rest) := Scalar.scanPlain false (column + 1) cs
      return (value, ← restOfLine? rest)
    else none

/-- The value behind the colon of a key in some column, and the lines that follow it. A value may
stand on the next line, if that is indented further. -/
def scanEntryValue? (column : Nat) (cs : List Char) : Option (Scalar × List Char) :=
  match restOfLine? cs with
  | none => scanValue? column (cs.dropWhile isGap)
  | some rest =>
    let next := nextContent rest
    if column < columnOf next then scanValue? column (next.dropWhile (· == ' '))
    else some (.missing, rest)

/-- The entries of a block mapping in some column, up to the end of the document. At most `fuel`
entries are read. -/
def scanEntries? (column : Nat) : Nat → List Char → Option Mapping
  | 0, _ => none
  | fuel + 1, cs =>
    if isEnd cs then some []
    else do
      let line := nextContent cs
      if columnOf line != column || (column == 0 && isMarker line) then none
      else
        let (key, rest) ← scanKey? false (line.drop column)
        let (value, rest) ← scanEntryValue? column rest
        return (key, value) :: (← scanEntries? column fuel rest)

/-! ### Flow mappings -/

/-- Passes over blanks, line breaks and comments. At most `fuel` lines are passed over. -/
def dropFlowGaps : Nat → List Char → List Char
  | 0, cs => cs
  | fuel + 1, cs =>
    match restOfLine? cs with
    | some (c :: rest) => dropFlowGaps fuel (c :: rest)
    | some []          => []
    | none             => cs.dropWhile isGap

/-- What follows behind blanks, newlines and comments. -/
def nextToken (cs : List Char) : List Char :=
  dropFlowGaps (cs.length + 1) cs

/-- A value between braces, and what follows it. It may be missing. -/
def scanFlowValue? (cs : List Char) : Option (Scalar × List Char) :=
  match cs with
  | '\'' :: rest => Scalar.scanSingleQuoted rest
  | '"' :: rest  => Scalar.scanDoubleQuoted rest
  | ',' :: _     => some (.missing, cs)
  | '\x7d' :: _  => some (.missing, cs)
  | _            => if Scalar.startsPlain true cs then some (Scalar.scanPlain true 0 cs) else none

/-- An entry between braces, and what follows it. -/
def scanFlowEntry? (cs : List Char) : Option ((String × Scalar) × List Char) :=
  match scanKey? true cs with
  | some (key, rest) => do
    let (value, rest) ← scanFlowValue? (nextToken rest)
    return ((key, value), rest)
  | none => do
    let (key, rest) ← scanFlowValue? cs
    return ((key.text, .missing), rest)

/-- The entries up to the closing brace, and what follows it. At most `fuel` entries are read. -/
def scanFlowEntries? : Nat → List Char → Option (Mapping × List Char)
  | 0, _ => none
  | fuel + 1, cs =>
    match nextToken cs with
    | '\x7d' :: rest => some ([], rest)
    | cs => do
      let (entry, rest) ← scanFlowEntry? cs
      match nextToken rest with
      | ',' :: rest => do
        let (entries, rest) ← scanFlowEntries? fuel rest
        return (entry :: entries, rest)
      | '\x7d' :: rest => some ([entry], rest)
      | _ => none

end GoMocks.Yaml
