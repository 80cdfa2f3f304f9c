import GoMocks.Dependency
import GoMocks.SourceFiles

/-!
# Package patterns

A pattern names packages of the main module: by a directory, or by an import path. With `/...` at
its end it names every package at or below that directory.

* `FileTree.goFileNames`: the source files of a directory.
* `FileTree.packageDirs`: the directories with source files at or below a place.
* `GoModule.matchedDirs`: the directories that a pattern names.
-/

namespace GoMocks

namespace Pattern

/-- The pattern of all packages at or below the root. -/
def everywhere : String := "..."

/-- The directory or import path in front of the dots, if the pattern ends in dots. -/
def recursiveBase? (pattern : String) : Option String :=
  if pattern = everywhere then some "."
  else (Text.beforeEnd? "/...".toList pattern.toList).map .ofList

/-- Does the pattern also match what lies below a directory? -/
def isRecursive (pattern : String) : Bool :=
  (recursiveBase? pattern).isSome

/-- The directory or import path that a pattern begins with. -/
def base (pattern : String) : String :=
  (recursiveBase? pattern).getD pattern

/-- Is this a directory rather than an import path? -/
def isDirectory (base : String) : Bool :=
  base == "." || base == ".." || "./".toList.isPrefixOf base.toList ||
    "../".toList.isPrefixOf base.toList || (Path.mk base).isAbsolute

end Pattern

namespace FileTree

/-- Does a file lie at the place? -/
def fileAt (t : FileTree) (l : Location) : Bool :=
  match t.entry? l with
  | some (.file _) => true
  | _              => false

/-- Does a directory lie at the place? -/
def directoryAt (t : FileTree) (l : Location) : Bool :=
  match t.entry? l with
  | some .directory => true
  | _               => false

/-- The names of the Go source files of a directory, in order. -/
def goFileNames (t : FileTree) (l : Location) : List String :=
  (t.namesAt l).filter fun name => isGoSource name && t.fileAt (l ++ [name])

/-- Are a directory and all below it no part of the packages around it? Hidden directories, test
data, vendored packages and modules of their own are not. -/
def isApart (t : FileTree) (l : Location) (name : String) : Bool :=
  name.toList.head? == some '.' || name.toList.head? == some '_' || name == "testdata" ||
    name == "vendor" || t.fileAt (l ++ [name, GoModule.fileName])

/-- The names of the directories in a directory that belong to the packages around them. -/
def subdirectories (t : FileTree) (l : Location) : List String :=
  (t.namesAt l).filter fun name => t.directoryAt (l ++ [name]) && !t.isApart l name

/-- The directories with source files among a directory and those some levels below it. A
directory stands before those below it. -/
def packageDirsWithin (t : FileTree) : Nat → Location → List Location
  | 0, _ => []
  | levels + 1, l =>
    (if (t.goFileNames l).isEmpty then [] else [l]) ++
      (t.subdirectories l).flatMap fun name => packageDirsWithin t levels (l ++ [name])

/-- The number of names on the longest way in a tree. -/
def depth (t : FileTree) : Nat :=
  (t.entries.map (·.1.length)).foldl max 0

/-- The directories with source files among a directory and all below it. -/
def packageDirs (t : FileTree) (l : Location) : List Location :=
  t.packageDirsWithin (t.depth + 1) l

end FileTree

namespace GoModule

/-- The directory that a pattern begins at. -/
def baseDir (m : GoModule) (root : Path) (pattern : String) : Except LoadFault Path :=
  let base := Pattern.base pattern
  if Pattern.isDirectory base then return root.join ⟨base⟩
  else
    match m.packageDir? base with
    | some dir => return dir
    | none     => throw (.outsideModule m.path)

/-- The place that a pattern begins at: a directory of the module. -/
def basePlace (m : GoModule) (t : FileTree) (root : Path) (pattern : String) :
    Except LoadFault Location := do
  let dir ← m.baseDir root pattern
  match t.find dir with
  | .ok (l, .directory) =>
    if l.path.startsWith m.dir then return l
    else throw (.directoryOutsideModule l.path m.path)
  | _ => throw (.directoryNotFound dir)

/-- The directories that a pattern names. Names are texts here: a directory whose name is none, which a
recursive pattern takes in whatever that name begins with, does not occur. -/
def matchedDirs (m : GoModule) (t : FileTree) (root : Path) (pattern : String) :
    Except LoadFault (List Location) := do
  let l ← m.basePlace t root pattern
  if Pattern.isRecursive pattern then return t.packageDirs l
  else if (t.goFileNames l).isEmpty then throw (.noGoFiles l.path)
  else return [l]

end GoModule

end GoMocks
