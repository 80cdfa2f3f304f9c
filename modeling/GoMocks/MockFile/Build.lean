import GoMocks.MockFile
import GoMocks.MockFile.Names
import GoMocks.Package
import GoMocks.Resolver

/-!
# Mock files — how they are built

A mock file is built in two rounds. The first one writes every type, so that all imports are
known; the second one chooses names that hide none of them and puts the mocks together.
-/

namespace GoMocks

/-- Parameters as a list; a type stands only behind the last of the names that share it. -/
def namedParts : List (String × String) → List String
  | [] => []
  | [(name, type)] => [name ++ " " ++ type]
  | (name, type) :: (next, nextType) :: rest =>
    (if nextType = type then name else name ++ " " ++ type) :: namedParts ((next, nextType) :: rest)

/-- Names with their types, separated by commas. -/
def joinNamed (values : List (String × String)) : String :=
  ", ".intercalate (namedParts values)

namespace MockFile

variable {σ : Type}

/-- Marks a failure with the interface it happened in. -/
def inInterface {α : Type} (package : Package) (i : Interface) (action : ResolverM σ α) :
    ResolverM σ α :=
  tryCatch action fun cause => throw (.inInterface package.path i.name i.file i.line cause)

/-- The first round: writes every type of an interface, and the zero values of its results. -/
def writeTypes (symbols : Symbols σ) (i : Interface) : ResolverM σ Unit := do
  i.typeParams.forM fun p => discard (Resolver.name symbols p.constraint)
  i.methods.forM fun method => do
    (method.signature.params ++ method.signature.results).forM fun v =>
      discard (Resolver.name symbols v.type)
    method.signature.results.forM fun r => discard (Resolver.zero symbols r.type)

/-- The result part of a signature, from the names and texts of the results. -/
def resultPart (named : Bool) (results : List (String × String)) : String :=
  if named then "(" ++ joinNamed results ++ ")"
  else
    match results with
    | []       => ""
    | [single] => single.2
    | _        => "(" ++ ", ".intercalate (results.map (·.2)) ++ ")"

/-- The arguments that hand the parameters on. -/
def callArguments (variadic : Bool) : List String → List String
  | []           => []
  | [name]       => [if variadic then name ++ "..." else name]
  | name :: rest => name :: callArguments variadic rest

/-- The mock of a method. No parameter or result has one of the `taken` names. -/
def buildMethod (symbols : Symbols σ) (i : Interface) (method : Method)
    (typeParams typeArgs : String) (taken : List String) : ResolverM σ MockMethod := do
  let ⟨params, results, variadic⟩ := method.signature
  let paramNames := chooseNames 'a' taken 0 (params.map Value.name)
  let paramTypes ← params.mapM fun p => Resolver.name symbols p.type
  let paramTypes := if variadic then markVariadic paramTypes else paramTypes
  let named := results.any fun r => !r.name.isEmpty
  let resultNames :=
    if named then chooseNames 'r' (paramNames.reverse ++ taken) 0 (results.map Value.name)
    else results.map fun _ => ""
  let resultTypes ← results.mapM fun r => Resolver.name symbols r.type
  let parameters := joinNamed (paramNames.zip paramTypes)
  let resultText := resultPart named (resultNames.zip resultTypes)
  let zeros ← results.mapM fun r => Resolver.zero symbols r.type
  let funcType := handlerName i method
  return {
    name         := method.name
    funcType
    funcTypeDecl := funcType ++ typeParams
    funcTypeRef  := funcType ++ typeArgs
    adder        := "Add" ++ method.name
    setter       := "Set" ++ method.name
    parameters
    results      := resultText
    signature    := "(" ++ parameters ++ ")" ++ if resultText.isEmpty then "" else " " ++ resultText
    callArgs     := ", ".intercalate (callArguments variadic paramNames)
    zeroResults  := ", ".intercalate zeros
    hasResults   := !results.isEmpty }

/-- The mock of an interface, under the identifiers of its package and of the runtime package. -/
def buildInterface (symbols : Symbols σ) (i : Interface) (source runtime : Import)
    (reserved : List String) : ResolverM σ MockInterface := do
  checkMethodNames i
  checkTypeParamNames i reserved
  let paramNames := i.typeParams.map TypeParam.name
  let constraints ← i.typeParams.mapM fun p => Resolver.name symbols p.constraint
  let typeParams := bracketed ((paramNames.zip constraints).map fun p => p.1 ++ " " ++ p.2)
  let typeArgs := bracketed paramNames
  let methods ← i.methods.mapM fun method =>
    buildMethod symbols i method typeParams typeArgs (reserved ++ paramNames)
  let typeRef := i.name ++ typeArgs
  let sourceRef := source.ident ++ "." ++ i.name ++ typeArgs
  return {
    name        := i.name
    constructor := "New" ++ i.name
    typeParams
    typeArgs
    typeRef
    sourceRef
    newValue    := "&" ++ typeRef ++ "\x7b" ++ runtime.ident ++ ".New(), t\x7d"
    varPadding  := .ofList (.replicate (sourceRef.length + 1) ' ')
    alignment   := (methods.map (·.funcTypeDecl.length)).foldl max 0
    methods }

/-- The mocks of the interfaces that one file of a package declares. -/
def build (symbols : Symbols σ) (package : Package) (interfaces : List Interface)
    (options : MockOptions) : ResolverM σ MockFile := do
  let testing ← Resolver.importPackage symbols "testing"
  let runtime ← Resolver.importPackage symbols options.runtime
  let source ← Resolver.importPackage symbols package.path
  checkFileNames interfaces
  interfaces.forM fun i => inInterface package i (writeTypes symbols i)
  let reserved := (← get).imports.identifiers ++ interfaces.flatMap declaredNames
  let mocks ← interfaces.mapM fun i =>
    inInterface package i (buildInterface symbols i source runtime reserved)
  let imports := (← get).imports
  return {
    tool         := options.tool
    version      := options.version
    command      := options.command
    name         := options.packagePrefix ++ package.name
    path         := package.path ++ "/" ++ options.outputDir
    source
    standard     := imports.sorted .standard
    external     := imports.sorted .external
    internal     := imports.sorted .internal
    mockIdent    := runtime.ident
    testingIdent := testing.ident
    interfaces   := mocks }

end MockFile

/-- The mocks of the interfaces that one file of a package declares, and the state of knowledge
after it was asked for their types. -/
def mockFile {σ : Type} (symbols : Symbols σ) (package : Package) (interfaces : List Interface)
    (options : MockOptions) (state : σ) : Except Error MockFile × σ :=
  let (result, resolver) :=
    (MockFile.build symbols package interfaces options).run (.ofModule package.module state)
  (result, resolver.state)

end GoMocks
