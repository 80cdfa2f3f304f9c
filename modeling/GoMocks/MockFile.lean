import GoMocks.ImportTable

/-!
# Mock files

What a file of mocks says, with every name and type already chosen: its header, its imports, and
for each mocked interface the pieces of source its declarations are put together from.
-/

namespace GoMocks

/-- What is the same for all mock files of a run. -/
structure MockOptions where
  /-- The name and the version of the tool, and the command line, for the header. -/
  tool          : String
  version       : String
  command       : String
  /-- The import path of the package the mocks build on. -/
  runtime       : String
  /-- What the name of a mock package begins with. -/
  packagePrefix : String
  /-- The directory of the mock package, below that of the source package. -/
  outputDir     : String
  deriving Inhabited, DecidableEq

/-- The mock of one method. -/
structure MockMethod where
  name         : String
  /-- The type of its handlers, plain, with type parameters, and with type arguments. -/
  funcType     : String
  funcTypeDecl : String
  funcTypeRef  : String
  adder        : String
  setter       : String
  parameters   : String
  results      : String
  /-- The parameters in parentheses, and the results. -/
  signature    : String
  callArgs     : String
  zeroResults  : String
  hasResults   : Bool
  deriving Inhabited, DecidableEq

/-- The mock of one interface. -/
structure MockInterface where
  name        : String
  constructor : String
  /-- The type parameters and the type arguments in brackets, or nothing. -/
  typeParams  : String
  typeArgs    : String
  typeRef     : String
  /-- The interface, as the mock file refers to it. -/
  sourceRef   : String
  /-- What the constructor makes. -/
  newValue    : String
  /-- The blanks behind `m` that align it with `_` and the interface. -/
  varPadding  : String
  /-- The width of the longest handler type with its type parameters. -/
  alignment   : Nat
  methods     : List MockMethod
  deriving Inhabited, DecidableEq

/-- The mocks of the interfaces of one source file. -/
structure MockFile where
  tool         : String
  version      : String
  command      : String
  /-- The name and the import path of the mock package. -/
  name         : String
  path         : String
  source       : Import
  standard     : List Import
  external     : List Import
  internal     : List Import
  /-- The names of the runtime package and of the testing package. -/
  mockIdent    : String
  testingIdent : String
  interfaces   : List MockInterface
  deriving Inhabited, DecidableEq

/-- The imports in groups, none of them empty. -/
def MockFile.importGroups (file : MockFile) : List (List Import) :=
  [file.standard, file.external, file.internal].filter (!·.isEmpty)

end GoMocks
