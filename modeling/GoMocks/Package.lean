import GoMocks.Path

/-!
# Packages

A loaded Go package, as far as the mocks of its interfaces depend on it.
-/

namespace GoMocks

/-- A package of Go, by its name, its import path and its files. -/
structure Package where
  /-- The name in the package clause. -/
  name   : String
  /-- The import path. -/
  path   : String
  /-- The path of the module it belongs to. -/
  module : String
  dir    : Path
  /-- The source files, sorted. -/
  files  : List Path
  deriving Inhabited, DecidableEq

end GoMocks
