import GoMocks.Error
import GoMocks.Text.Blank

/-!
# Configuration

The settings of a run. Each has a default; those that name something must not be blank, and the
output directory is one directory next to the source file.
-/

namespace GoMocks

/-- The settings of a run, with their defaults. -/
structure Config where
  /-- The import path of the package that mocks build on. -/
  runtime       : String := "goa.design/clue/mock"
  /-- The directory, next to each source file, that the mocks go to. -/
  outputDir     : String := "mocks"
  /-- What the name of a mock package begins with. -/
  packagePrefix : String := "mock"
  /-- A template to use instead of the one that belongs to the tool. -/
  template      : Option Path := none
  deriving DecidableEq, Repr, Inhabited

namespace Config

/-- The name of the configuration file. -/
def fileName : String := ".mockgen.yaml"

/-- The settings that must not be blank, under their names in the configuration file. -/
def requiredFields (config : Config) : List (String × String) :=
  [("runtime", config.runtime), ("output_dir", config.outputDir),
    ("package_prefix", config.packagePrefix)]

/-- Is the text the name of a directory, and no longer path? -/
def isDirectoryName (text : String) : Bool :=
  match (Path.mk text).components with
  | [.normal _] => true
  | _           => false

/-- Refuses a blank setting, and an output directory that is not one name. -/
def validate (config : Config) : Except Error Unit :=
  match config.requiredFields.find? fun field => (Text.trim field.2).isEmpty with
  | some (field, _) => throw (.config (.emptyField field))
  | none =>
    if isDirectoryName config.outputDir then return
    else throw (.config (.outputDirNotSingle config.outputDir))

end Config

end GoMocks
