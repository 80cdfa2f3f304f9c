import GoMocks.GoSource.File
import GoMocks.Package

/-!
# Packages with their sources

A package together with its parsed files, and the index of the types it declares.
-/

namespace GoMocks

/-- A package and its source files, in the order of their names. -/
structure SourcePackage where
  package : Package
  files   : List GoSource.SourceFile

namespace SourcePackage

/-- The type declarations with the files they stand in, in the order of the sources. -/
def declarations (p : SourcePackage) : List (GoSource.SourceFile × GoSource.TypeSpec) :=
  p.files.flatMap fun file => file.types.map fun spec => (file, spec)

/-- The declaration of a type; of several of one name the first one counts. -/
def declaration? (p : SourcePackage) (name : String) :
    Option (GoSource.SourceFile × GoSource.TypeSpec) :=
  p.declarations.find? (·.2.name == name)

/-- Does the package declare a type of this name? -/
def declares (p : SourcePackage) (name : String) : Bool :=
  (p.declaration? name).isSome

end SourcePackage

end GoMocks
