import GoMocks.Environment
import GoMocks.FileTree

/-!
# Dependencies

Where the sources of the main module and of the packages it imports lie.

* `GoModule.find`: the module that a directory belongs to.
* `GoModule.locate?`: the directory of an imported package.
-/

namespace GoMocks.GoModule

/-! ### The main module -/

/-- The directories from a place up to the root. -/
def wayUp (l : Location) : List Location :=
  (List.range (l.length + 1)).reverse.map l.take

/-- The path of the module file in a directory. -/
def fileIn (dir : Path) : Path :=
  dir.child fileName

/-- The module whose directory is the nearest one, from a directory upwards. -/
def find (t : FileTree) (dir : Path) : Except Error GoModule :=
  match t.find dir with
  | .error fault => throw (.io dir fault)
  | .ok (l, _) =>
    match (wayUp l).find? fun m => t.isFile (fileIn m.path) with
    | none => throw (.load l.path.text .noModuleFile)
    | some m =>
      match t.readText (fileIn m.path) with
      | .error fault => throw (.io (fileIn m.path) fault)
      | .ok content  => parse content m.path

/-! ### Imported packages -/

/-- The directory of a package of a replaced module. -/
def replacedDir? (m : GoModule) (env : Environment) (path : String) : Option Path := do
  let ((_, target), rest) ← ImportPath.longestMatch? m.replacements (·.1) path
  match target with
  | .directory dir         => return below dir rest
  | .module module version => return below (← env.cacheDir? module version) rest

/-- The directory of a package among those that the module brings along. -/
def vendoredDir (m : GoModule) (path : String) : Path :=
  below (m.dir.child "vendor") path

/-- The directory of a package of a required module. -/
def requiredDir? (m : GoModule) (env : Environment) (path : String) : Option Path := do
  let ((module, version), rest) ← ImportPath.longestMatch? m.requirements (·.1) path
  return below (← env.cacheDir? module version) rest

/-- The directory of a package of the standard library. -/
def standardDir? (t : FileTree) (env : Environment) (path : String) : Option Path :=
  if ImportPath.isStandard path then
    (env.goRoots.find? fun root => t.isDirectory (root.child "src")).map fun root =>
      below (root.child "src") path
  else none

/-- The directories that a package of another module may lie in, the first choice first. -/
def dependencyDirs (m : GoModule) (t : FileTree) (env : Environment) (path : String) : List Path :=
  [m.replacedDir? env path, some (m.vendoredDir path), m.requiredDir? env path,
    standardDir? t env path].filterMap id

/-- The directory of a package, if it is there. A package of the main module lies nowhere else. -/
def locate? (m : GoModule) (t : FileTree) (env : Environment) (path : String) : Option Path :=
  match m.packageDir? path with
  | some dir => if t.isDirectory dir then some dir else none
  | none     => (m.dependencyDirs t env path).find? t.isDirectory

end GoMocks.GoModule
