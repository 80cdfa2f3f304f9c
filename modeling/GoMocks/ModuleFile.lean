import GoMocks.Error
import GoMocks.ImportPath
import GoMocks.Path
import GoMocks.Text.Blank

/-!
# Module files

The `go.mod` file of a module: its path, the modules it requires, and the replacements of others.
It has one directive on a line, or several of one verb between parentheses, and comments that begin
with two slashes.

* `GoModule.parse`: what a module file says.
* `GoModule.packageDir?`, `GoModule.importPath?`: the directories of a module and the import paths
  of its packages.
-/

namespace GoMocks

/-- What a module is replaced by: a directory, or another module. -/
inductive Replacement
  | directory (dir : Path)
  | module (path version : String)
  deriving DecidableEq, Repr, Inhabited

/-- A module, as its module file describes it. -/
structure GoModule where
  path         : String := ""
  dir          : Path
  /-- The required modules and their versions; a module has one version. -/
  requirements : List (String × String) := []
  /-- The replaced modules, in the order of the file. -/
  replacements : List (String × Replacement) := []
  deriving DecidableEq, Repr, Inhabited

namespace GoModule

/-- The name of a module file. -/
def fileName : String := "go.mod"

/-! ### Directives -/

/-- Can the character stand in a path? -/
def isPathChar (c : Char) : Bool :=
  !Text.isBlank c && c != '"'

/-- Passes over a quote. -/
def dropQuote : List Char → List Char
  | '"' :: rest => rest
  | rest        => rest

/-- Passes over blanks. -/
def dropBlanks (cs : List Char) : List Char :=
  cs.dropWhile Text.isBlank

/-- A path that may stand in quotes, and what follows it. -/
def scanPath (cs : List Char) : Option (List Char × List Char) :=
  let cs := dropQuote cs
  match cs.takeWhile isPathChar with
  | []   => none
  | path => some (path, dropQuote (cs.dropWhile isPathChar))

/-- A word behind at least one blank, and what follows it. -/
def scanNextWord (cs : List Char) : Option (List Char × List Char) :=
  match cs with
  | [] => none
  | c :: _ =>
    let rest := dropBlanks cs
    if !Text.isBlank c || rest.isEmpty then none
    else some (rest.takeWhile (!Text.isBlank ·), rest.dropWhile (!Text.isBlank ·))

/-- The path of a `module` directive. -/
def moduleDirective? (line : List Char) : Option String := do
  let rest ← Text.afterFront? "module".toList line
  if rest.head?.any Text.isBlank then
    let (path, _) ← scanPath (dropBlanks rest)
    return .ofList path
  else none

/-- The path and the version that a requirement names. -/
def requirement? (line : List Char) : Option (String × String) := do
  let (path, rest) ← scanPath line
  let (version, _) ← scanNextWord rest
  return (.ofList path, .ofList version)

/-- The path and the version behind an arrow; the version may be missing. -/
def target? (cs : List Char) : Option (String × Option String) := do
  let rest ← Text.afterFront? "=>".toList (dropBlanks cs)
  let (path, rest) ← scanPath (dropBlanks rest)
  return (.ofList path, (scanNextWord rest).map fun word => .ofList word.1)

/-- A word behind blanks may be passed over on the way to an arrow. Where the arrow touches the
word, the word ends at the last place that leaves an arrow. -/
def targetBehindVersion? (cs : List Char) : Option (String × Option String) :=
  match scanNextWord cs with
  | none => target? cs
  | some (word, rest) =>
    let cuts := (List.range word.length).reverse.map fun n => word.drop (n + 1) ++ rest
    match cuts.findSome? target? with
    | some target => some target
    | none        => target? cs

/-- The replaced path and what replaces it. The path goes as far as it leaves an arrow behind
it. -/
def replacement? (line : List Char) : Option (String × String × Option String) :=
  let line := dropQuote line
  let word := line.takeWhile isPathChar
  (List.range word.length).reverse.findSome? fun n =>
    let rest := line.drop (n + 1)
    let found := match targetBehindVersion? (dropQuote rest) with
      | some target => some target
      | none        => targetBehindVersion? rest
    found.map fun (path, version) => (.ofList (word.take (n + 1)), path, version)

/-- The verbs whose directives matter, and all others. -/
inductive Verb
  | require | replace | other
  deriving DecidableEq, Repr, Inhabited

/-- Sets the version of a required module. -/
def require (m : GoModule) (path version : String) : GoModule :=
  { m with requirements := m.requirements.filter (·.1 != path) ++ [(path, version)] }

/-- Enters a replacement. A target without a version is a directory, seen from the module's
own. -/
def replace (m : GoModule) (old path : String) (version : Option String) : GoModule :=
  let target := match version with
    | some version => .module path version
    | none         => .directory (m.dir.child path)
  { m with replacements := m.replacements ++ [(old, target)] }

/-- Takes a directive in; one that does not have the form of its verb says nothing. -/
def apply (m : GoModule) (verb : Verb) (line : List Char) : GoModule :=
  match verb with
  | .require =>
    match requirement? line with
    | some (path, version) => m.require path version
    | none                 => m
  | .replace =>
    match replacement? line with
    | some (old, path, version) => m.replace old path version
    | none                      => m
  | .other => m

/-! ### Lines -/

/-- The line without its comment. -/
def dropComment : List Char → List Char
  | '/' :: '/' :: _ => []
  | c :: rest       => c :: dropComment rest
  | []              => []

/-- The lines of a module file without comments and blanks, the empty ones left out. -/
def contentLines (content : String) : List (List Char) :=
  (content.toList.splitOn '\n' |>.map fun line => Text.trimChars Text.isBlank (dropComment line))
    |>.filter (!·.isEmpty)

/-- The verb a line begins with, and the rest of the line. -/
def splitVerb (line : List Char) : Verb × List Char :=
  let verb := line.takeWhile (!Text.isBlank ·)
  let rest := dropBlanks (line.dropWhile (!Text.isBlank ·))
  (if verb = "require".toList then .require
    else if verb = "replace".toList then .replace
    else .other, rest)

/-- Reads a line, outside of parentheses or between those of a verb. -/
def readLine (state : Option Verb × GoModule) (line : List Char) : Option Verb × GoModule :=
  match state with
  | (some verb, m) => if line = [')'] then (none, m) else (some verb, m.apply verb line)
  | (none, m) =>
    match moduleDirective? line with
    | some path => (none, { m with path })
    | none =>
      let (verb, rest) := splitVerb line
      if rest = ['('] then (some verb, m) else (none, m.apply verb rest)

/-- The module a module file in some directory describes. -/
def parse (content : String) (dir : Path) : Except Error GoModule :=
  let (_, m) := (contentLines content).foldl readLine (none, { dir })
  if m.path.isEmpty then throw (.load (dir.child fileName).text .noModuleDirective) else return m

/-! ### Packages and directories -/

/-- Does an import path name the module or one of its packages? -/
def contains (m : GoModule) (path : String) : Bool :=
  (ImportPath.within? path m.path).isSome

/-- The directory of a package that lies at `rest` below a module in `dir`. -/
def below (dir : Path) (rest : String) : Path :=
  ((ImportPath.elements rest).filter (!·.isEmpty)).foldl Path.child dir

/-- The directory of a package of the module. -/
def packageDir? (m : GoModule) (path : String) : Option Path :=
  (ImportPath.within? path m.path).map (below m.dir)

/-- The import path of a directory of the module. -/
def importPath? (m : GoModule) (dir : Path) : Option String :=
  (dir.relativeTo? m.dir).map fun rest =>
    rest.components.foldl (fun path c => path ++ "/" ++ c.text) m.path

end GoModule

end GoMocks
