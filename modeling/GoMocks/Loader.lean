import GoMocks.MethodSet
import GoMocks.Pattern
import GoMocks.Resolver
import GoMocks.StandardLibrary

/-!
# The loader

A loader reads the packages of a module and of its dependencies, each of them once: a package that
was found is kept, and so is the fact that one was not found.

* `FileTree.readPackage`, `readDependency`: a package that was asked for, whose sources must all be
  sound, and one that is only imported, whose other sources are passed over.
* `Loader.find`: the package of an import path.
* `Loader.loadPackages`: the packages that patterns name.
-/

namespace GoMocks

open GoSource (SourceFile)

/-! ### Reading the sources of a package -/

namespace FileTree

/-- The paths of the Go source files of a directory. -/
def goFiles (t : FileTree) (dir : Path) : Except Error (List Path) :=
  match t.find dir with
  | .error fault          => throw (.io dir fault)
  | .ok (_, .file _)      => throw (.io dir .notDirectory)
  | .ok (l, .directory)   => return (t.goFileNames l).map dir.child

/-- The source file of a path. -/
def readSource (t : FileTree) (file : Path) : Except Error SourceFile :=
  match t.readText file with
  | .error fault => throw (.io file fault)
  | .ok source   => SourceFile.parse file source

/-- Two sources of one directory that belong to different packages. -/
def mixedPackages (dir : Path) (path : String) (first second : SourceFile) : Error :=
  .load path (.mixedPackages first.package (first.path.fileName?.getD "") second.package
    (second.path.fileName?.getD "") dir)

/-- Enters a source file behind those of its package, unless no build takes it in. -/
def addSource (t : FileTree) (dir : Path) (path : String) (files : List SourceFile) (file : Path) :
    Except Error (List SourceFile) := do
  let source ← t.readSource file
  if source.buildIgnored then return files
  else
    match files with
    | [] => return [source]
    | first :: _ =>
      if first.package = source.package then return files ++ [source]
      else throw (mixedPackages dir path first source)

/-- Enters a source file if it can be entered. -/
def addSound (t : FileTree) (dir : Path) (path : String) (files : List SourceFile)
    (file : Path) : List SourceFile :=
  match t.addSource dir path files file with
  | .ok files => files
  | .error _  => files

/-- The package of some sources, if there are any. -/
def packageOf? (module : String) (dir : Path) (path : String) :
    List SourceFile → Option SourcePackage
  | []             => none
  | first :: files =>
    some
      { package :=
          { name := first.package, path, module, dir
            files := (first :: files).map (·.path) }
        files   := first :: files }

/-- The package in a directory. All of its sources have to be sound. -/
def readPackage (t : FileTree) (module : String) (dir : Path) (path : String) :
    Except Error (Option SourcePackage) := do
  let files ← t.goFiles dir
  return packageOf? module dir path (← files.foldlM (t.addSource dir path) [])

/-- The package in a directory, without the sources that are not sound. -/
def readDependency (t : FileTree) (module : String) (dir : Path) (path : String) :
    Option SourcePackage := do
  let files ← (t.goFiles dir).toOption
  packageOf? module dir path (files.foldl (t.addSound dir path) [])

end FileTree

namespace StandardLibrary

/-- The file that a package that is built in is said to have. -/
def file (path : String) : Path :=
  (Path.child ⟨directory⟩ path).child (ImportPath.guessedName path ++ ".go")

/-- A package that is built in. -/
def package? (path : String) : Option SourcePackage := do
  let source ← source? path
  let file ← (SourceFile.parse (file path) source).toOption
  FileTree.packageOf? "" (Path.child ⟨directory⟩ path) path [file]

end StandardLibrary

/-! ### Loaders -/

/-- A module, the directory that patterns are seen from, and the packages found so far. -/
structure Loader where
  module : GoModule
  root   : Path
  env    : Environment
  /-- What was found for each import path; the first entry of a path counts. -/
  found  : List (String × Option SourcePackage) := []

/-- A computation that may find packages and may fail; what was found before a failure stays. -/
abbrev LoaderM := ExceptT Error (StateM Loader)

namespace Loader

/-- A loader for the module that a directory belongs to. -/
def ofDirectory (t : FileTree) (env : Environment) (dir : Path) : Except Error Loader := do
  let module ← GoModule.find t dir
  match t.canonical dir with
  | .ok root     => return { module, root, env }
  | .error fault => throw (.io dir fault)

/-- The package of an import path, as the file tree has it. Packages of the main module are never
those that are built in. -/
def read (t : FileTree) (module : GoModule) (env : Environment) (path : String) :
    Option SourcePackage :=
  let builtIn := if module.contains path then none else StandardLibrary.package? path
  match builtIn with
  | some p => some p
  | none   => do
    let dir ← module.locate? t env path
    t.readDependency module.path dir path

/-- Keeps what was found for an import path. -/
def keep (loader : Loader) (path : String) (p : Option SourcePackage) : Loader :=
  { loader with found := (path, p) :: loader.found }

/-- The package of an import path: what was found before, or else what is read now. -/
def find (t : FileTree) (path : String) : StateM Loader (Option SourcePackage) := do
  let loader ← get
  match loader.found.lookup path with
  | some p => return p
  | none =>
    let p := read t loader.module loader.env path
    set (loader.keep path p)
    return p

/-- The outcome of an inquiry into the packages that the loader finds. -/
def answer {α : Type} (t : FileTree) (inquiry : Inquiry α) : LoaderM α :=
  ExceptT.mk (inquiry.answerIn (find t))

/-! ### The packages that patterns name -/

/-- Reads the package in a directory that a pattern names, and keeps it. A directory without
sources for a build is passed over where the pattern names more than one. -/
def loadDirectory (t : FileTree) (pattern : String) (l : Location) :
    LoaderM (Option Package) := do
  let loader ← get
  match loader.module.importPath? l.path with
  | none => throw (.load pattern (.noImportPath l.path))
  | some path =>
    match ← liftM (t.readPackage loader.module.path l.path path) with
    | some p =>
      set (loader.keep path (some p))
      return some p.package
    | none =>
      if Pattern.isRecursive pattern then return none
      else throw (.load pattern (.noBuildableGoFiles l.path))

/-- The packages that a pattern names. -/
def loadPattern (t : FileTree) (pattern : String) : LoaderM (List Package) := do
  let loader ← get
  match loader.module.matchedDirs t loader.root pattern with
  | .error fault => throw (.load pattern fault)
  | .ok dirs     => return (← dirs.mapM (loadDirectory t pattern)).filterMap id

/-- The first failure among some outcomes, or all of their packages. -/
def collect (outcomes : List (Except Error (List Package))) : Except Error (List Package) := do
  return sortByKey Package.path (← outcomes.mapM id).flatten

/-- The packages that patterns name, in the order of their import paths. Every pattern is
attempted, also behind one that fails. -/
def loadPackages (t : FileTree) (patterns : List String) : LoaderM (List Package) :=
  ExceptT.mk do return collect (← patterns.mapM fun pattern => (loadPattern t pattern).run)

/-! ### Questions -/

/-- The interfaces of a package that is loaded. -/
def interfaces (t : FileTree) (path : String) : LoaderM (List Interface) := do
  match ← liftM (find t path) with
  | none   => throw (.load path .notLoaded)
  | some p => answer t p.interfaces

/-- The declared name of a package, or the one that its path suggests. -/
def packageName (t : FileTree) (path : String) : StateM Loader String :=
  (Lookup.packageName path).answerIn (find t)

/-- What a loader knows about packages and declared types. -/
def symbols (t : FileTree) : Symbols Loader where
  packageName path loader := (packageName t path).run loader
  underlying n loader     := (answer t n.underlying).run.run loader

end Loader

end GoMocks
