import GoMocks.Path
import GoMocks.Text.Quoted

/-!
# Errors

What can go wrong between a package pattern and a published mock, as causes, and the message of
each cause.

* `Error.isLoad`: the causes that stop a run before anything is generated from the sources.
* `Error.message`: the one place where the wording is.
-/

namespace GoMocks

/-- Why packages cannot be loaded. -/
inductive LoadFault
  | noModuleFile
  | noModuleDirective
  | outsideModule (module : String)
  | directoryNotFound (dir : Path)
  | directoryOutsideModule (dir : Path) (module : String)
  | noGoFiles (dir : Path)
  | noBuildableGoFiles (dir : Path)
  | noImportPath (dir : Path)
  | mixedPackages (first firstFile second secondFile : String) (dir : Path)
  | notLoaded
  deriving DecidableEq, Repr, Inhabited

/-- The text of a fault in loading. -/
def LoadFault.message : LoadFault → String
  | noModuleFile      => "no go.mod found in this directory or any parent"
  | noModuleDirective => "missing module directive"
  | outsideModule module => "package is outside the main module " ++ module
  | directoryNotFound dir => "directory " ++ dir.text ++ " not found"
  | directoryOutsideModule dir module =>
    "directory " ++ dir.text ++ " is outside the main module " ++ module
  | noGoFiles dir => "no Go files in " ++ dir.text
  | noBuildableGoFiles dir => "no buildable Go files in " ++ dir.text
  | noImportPath dir => "cannot derive import path of " ++ dir.text
  | mixedPackages first firstFile second secondFile dir =>
    "found packages " ++ first ++ " (" ++ firstFile ++ ") and " ++ second ++ " (" ++ secondFile ++
      ") in " ++ dir.text
  | notLoaded => "package is not loaded"

/-- Why the type a name stands for cannot be found. -/
inductive ResolutionFault
  | unknown
  | unknownPredeclared
  | notDeclaredType
  | stillNamed
  | packageNotFound (path : String)
  | noSuchType (name package : String)
  | undeclaredName (file : Path)
  | noSuchImport (ident : String) (file : Path)
  deriving DecidableEq, Repr, Inhabited

/-- The text of a fault in finding a type. -/
def ResolutionFault.message : ResolutionFault → String
  | unknown                 => "unknown"
  | unknownPredeclared      => "unknown predeclared type"
  | notDeclaredType         => "not a declared type"
  | stillNamed              => "underlying type is still a named type"
  | packageNotFound path    => "package " ++ path ++ " not found"
  | noSuchType name package => "no type " ++ name ++ " in package " ++ package
  | undeclaredName file     => "undeclared name in " ++ file.text
  | noSuchImport ident file => "no import named " ++ ident ++ " in " ++ file.text

/-- Why a type cannot be used in a mock. -/
inductive SupportFault
  | unexportedType (name : String)
  | unexportedLength (name : String)
  | constraintWithoutZero
  | typeSetWithoutZero
  | lengthNotConstant
  | argumentsOnPlainType
  | notNamed
  | definitionCycle
  | embedsItself
  /-- More levels of embedding than are followed. This is no answer of the tool, which has no limit: it
  follows them on, and where they have no end it comes to no answer. -/
  | tooDeep
  deriving DecidableEq, Repr, Inhabited

/-- The text of a fault with a type that is not supported. -/
def SupportFault.message : SupportFault → String
  | unexportedType name   => "type " ++ name ++ " is not exported"
  | unexportedLength name => "array length " ++ name ++ " is not exported"
  | constraintWithoutZero => "constraint interfaces have no zero value"
  | typeSetWithoutZero    => "type sets have no zero value"
  | lengthNotConstant     => "array length must be a literal or a constant"
  | argumentsOnPlainType  => "type arguments on a non-generic type"
  | notNamed              => "not a named type"
  | definitionCycle       => "type definition cycle"
  | embedsItself          => "interface embeds itself"
  | tooDeep               => "embedded too deeply"

/-- Why a file or directory cannot be read or written. -/
inductive IoFault
  | notFound | alreadyExists | isDirectory | notDirectory | invalidData
  deriving DecidableEq, Repr, Inhabited

/-- The text of a fault of the file system. -/
def IoFault.message : IoFault → String
  | notFound      => "no such file or directory"
  | alreadyExists => "file exists"
  | isDirectory   => "is a directory"
  | notDirectory  => "not a directory"
  | invalidData   => "stream did not contain valid text"

/-- Why a template cannot be used. -/
inductive TemplateFault
  | unreadable | malformed | failed
  /-- A width that no text can be filled to. This is no answer of the tool, which stops where it comes
  to such a width. -/
  | tooWide
  deriving DecidableEq, Repr, Inhabited

/-- The wording of a fault. -/
def TemplateFault.message : TemplateFault → String
  | unreadable => "cannot read the template"
  | malformed  => "the template is malformed"
  | failed     => "the template cannot be rendered"
  | tooWide    => "formatting argument out of range"

/-- Why a configuration is refused. -/
inductive ConfigFault
  | malformed
  | emptyField (field : String)
  | outputDirNotSingle (value : String)
  deriving DecidableEq, Repr, Inhabited

/-- The text of a fault in the settings. -/
def ConfigFault.message : ConfigFault → String
  | malformed => "Failed to parse .mockgen.yaml"
  | emptyField field => field ++ " must not be empty"
  | outputDirNotSingle value =>
    "output_dir must be a single directory name, got " ++ Text.quoted value

/-- A failure, with what it happened to. -/
inductive Error
  | load (pattern : String) (fault : LoadFault)
  | malformedSource (file : Path)
  | missingPackageClause (file : Path)
  | unresolvedType (type : String) (fault : ResolutionFault)
  | unsupportedType (type : String) (fault : SupportFault)
  | nameCollision (interface name : String)
  | inInterface (package interface : String) (file : Path) (line : Nat) (cause : Error)
  | template (fault : TemplateFault)
  | io (path : Path) (fault : IoFault)
  | config (fault : ConfigFault)
  | other (text : String)
  deriving DecidableEq, Repr, Inhabited

namespace Error

/-- Did the failure happen while packages were loaded? -/
def isLoad : Error → Bool
  | load .. | malformedSource _ | missingPackageClause _ => true
  | _                                                    => false

/-- Does the tool come to this answer? It comes to none where it follows levels without end, and where
it fills a text to a width past the limit. -/
def isAnswer : Error → Bool
  | unsupportedType _ .tooDeep | template .tooWide => false
  | inInterface _ _ _ _ cause                      => cause.isAnswer
  | _                                              => true

/-- The text of an error, with what it is about in front. -/
def message : Error → String
  | load pattern fault => "Load error: " ++ pattern ++ ": " ++ fault.message
  | malformedSource file => "Syntax error: " ++ file.text ++ ": malformed source"
  | missingPackageClause file => "Syntax error: " ++ file.text ++ ":1:1: missing package clause"
  | unresolvedType type fault => "Unresolved type " ++ type ++ ": " ++ fault.message
  | unsupportedType type fault => "Unsupported type " ++ type ++ ": " ++ fault.message
  | nameCollision interface name =>
    "Name collision: generated identifier " ++ name ++ " for " ++ interface ++
      " is already in use"
  | inInterface package interface file line cause =>
    package ++ "." ++ interface ++ " (" ++ file.text ++ ":" ++ toString line ++ "): " ++
      cause.message
  | template fault => "Template error: " ++ fault.message
  | io path fault => "IO error: " ++ path.text ++ ": " ++ fault.message
  | config fault => "Config error: " ++ fault.message
  | other text => text

end Error

end GoMocks
