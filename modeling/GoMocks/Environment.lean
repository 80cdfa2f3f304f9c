import GoMocks.ImportPath
import GoMocks.ModuleFile

/-!
# The environment

The variables that say where modules and the standard library lie.

* `Environment.moduleCache?`: the directory that downloaded modules are kept in.
* `Environment.cacheDir?`: the directory of one version of a module.
-/

namespace GoMocks

/-- The variables of the environment, as far as they are set. -/
structure Environment where
  home       : Option String := none
  goModCache : Option String := none
  goPath     : Option String := none
  goRoot     : Option String := none
  deriving DecidableEq, Repr, Inhabited

namespace Environment

/-- The value of a variable that is set and not empty. -/
def value? (setting? : Option String) : Option String :=
  setting?.filter (!·.isEmpty)

/-- The first of the paths between colons. -/
def firstPath (paths : String) : Path :=
  ⟨.ofList (paths.toList.takeWhile (· != ':'))⟩

/-- The directory of downloaded modules: the one that is set, or else the usual one below the Go
path or the home directory. -/
def moduleCache? (env : Environment) : Option Path :=
  match value? env.goModCache, value? env.goPath with
  | some cache, _      => some ⟨cache⟩
  | none,       some p => some (((firstPath p).child "pkg").child "mod")
  | none,       none   => env.home.map fun home => ((Path.child ⟨home⟩ "go").child "pkg").child "mod"

/-- The directory of a version of a module, below that of all downloaded modules. -/
def cacheDir? (env : Environment) (module version : String) : Option Path :=
  env.moduleCache?.map fun cache =>
    GoModule.below cache (ImportPath.escaped module ++ "@" ++ ImportPath.escaped version)

/-- The directories that the Go distribution may lie in, the first choice first. -/
def goRoots (env : Environment) : List Path :=
  ((value? env.goRoot).map Path.mk).toList ++ [⟨"/usr/local/go"⟩, ⟨"/usr/lib/go"⟩]

end Environment

end GoMocks
