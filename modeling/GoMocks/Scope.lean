import GoMocks.GoType.Predeclared
import GoMocks.GoType.Text
import GoMocks.ImportPath
import GoMocks.Lookup

/-!
# Scopes

The names that a declaration sees: its type parameters, the types of its package, the predeclared
types and the imports of its file.

* `Scope.importPath`: the package that an identifier stands for.
* `Scope.typeOf`: the type that an expression stands for.
-/

namespace GoMocks

open GoSource (TypeExpr FunctionExpr ParamExpr FieldExpr InterfaceElem UnionTerm LengthExpr)

/-- What surrounds a declaration. -/
structure Scope where
  package    : SourcePackage
  file       : GoSource.SourceFile
  typeParams : List String

namespace Scope

/-! ### Names -/

/-- The paths of the imports that go by a name, or by none. -/
def importsNamed (scope : Scope) (name : Option String) : List String :=
  (scope.file.imports.filter (·.name == name)).map (·.path)

/-- The first of some packages that has a name by its declaration. -/
def firstOfName (name : String) : List String → Inquiry (Option String)
  | [] => return none
  | path :: rest => do
    if (← Inquiry.packageName path) = name then return some path else firstOfName name rest

/-- The first of some packages that declares a type. -/
def firstDeclaring (name : String) : List String → Inquiry (Option String)
  | [] => return none
  | path :: rest => do
    if (← Inquiry.find path).any (·.declares name) then return some path
    else firstDeclaring name rest

/-- The package that an identifier stands for: the import of this name, or else an import without
a name whose path suggests it, or else one whose package declares it. -/
def importPath (scope : Scope) (ident : String) : Inquiry String := do
  let unnamed := scope.importsNamed none
  match (scope.importsNamed (some ident)).head? with
  | some path => return path
  | none =>
    match unnamed.find? (ImportPath.guessedName · == ident) with
    | some path => return path
    | none =>
      match ← firstOfName ident unnamed with
      | some path => return path
      | none => throw (.unresolvedType ident (.noSuchImport ident scope.file.path))

/-- The type that a name stands for. A type parameter hides the types of the package, these hide
the predeclared ones, and last come the packages that are imported without a qualifier. -/
def typeNamed (scope : Scope) (name : String) : Inquiry GoType := do
  if name ∈ scope.typeParams then return .parameter name
  else if scope.package.declares name then
    return .named ⟨some scope.package.package.path, name, []⟩
  else
    match GoType.predeclared? name with
    | some t => return t
    | none =>
      match ← firstDeclaring name (scope.importsNamed (some ".")) with
      | some path => return .named ⟨some path, name, []⟩
      | none => throw (.unresolvedType name (.undeclaredName scope.file.path))

/-- The type that a name of an import stands for. -/
def qualifiedType (scope : Scope) (package name : String) : Inquiry GoType := do
  let path ← scope.importPath package
  if path = "unsafe" ∧ name = "Pointer" then return .basic .unsafePointer
  else return .named ⟨some path, name, []⟩

/-- The length of an array type. Any expression but a literal and a constant's name is refused. -/
def length (scope : Scope) : LengthExpr → Inquiry ArrayLength
  | .literal text           => return .literal text
  | .name name              => return .constant scope.package.package.path name
  | .qualified package name => return .constant (← scope.importPath package) name
  | .other text             => throw (.unsupportedType ("[" ++ text ++ "]") .lengthNotConstant)

/-! ### Types -/

/-- The values that parameters of one type stand for. -/
def values (names : List String) (type : GoType) : List Value :=
  match names with
  | []    => [⟨"", type⟩]
  | names => names.map fun name => ⟨name, type⟩

/-- The fields that names of one type stand for. -/
def fields (names : List String) (type : GoType) (tag : Option String) : List Field :=
  match names with
  | []    => [⟨none, type, tag⟩]
  | names => names.map fun name => ⟨some name, type, tag⟩

/-- A type set; a single term without a tilde is a plain type. -/
def typeOfTerms : List Term → GoType
  | [⟨false, t⟩] => t
  | terms        => .union terms

/-- Gives a declared type its arguments. -/
def instantiate (base : GoType) (arguments : Inquiry (List GoType)) : Inquiry GoType := do
  match base with
  | .named ⟨package, name, _⟩ => return .named ⟨package, name, ← arguments⟩
  | t                         => throw (.unsupportedType t.text .argumentsOnPlainType)

mutual

/-- The type that an expression stands for. -/
def typeOf (scope : Scope) : TypeExpr → Inquiry GoType
  | .name name              => scope.typeNamed name
  | .qualified package name => scope.qualifiedType package name
  | .generic base arguments => do
    instantiate (← scope.typeOf base) (scope.typesOf arguments)
  | .pointer elem           => return .pointer (← scope.typeOf elem)
  | .slice elem             => return .slice (← scope.typeOf elem)
  | .array length elem      => do
    let length ← scope.length length
    return .array length (← scope.typeOf elem)
  | .map key value          => do
    let key ← scope.typeOf key
    return .map key (← scope.typeOf value)
  | .channel direction elem => return .channel direction (← scope.typeOf elem)
  | .function signature     => return .function (← scope.signatureOf signature)
  | .struct fields          => return .struct (← scope.fieldsOf fields)
  | .interface elems        => do
    let (methods, embeds) ← scope.elemsOf elems
    return .interface methods embeds
  | .union terms            => return .union (← scope.termsOf terms)

/-- The types that some expressions stand for. -/
def typesOf (scope : Scope) : List TypeExpr → Inquiry (List GoType)
  | []      => return []
  | t :: ts => do
    let t ← scope.typeOf t
    return t :: (← scope.typesOf ts)

/-- The signature that a function type writes. -/
def signatureOf (scope : Scope) : FunctionExpr → Inquiry Signature
  | ⟨params, results⟩ => do
    let variadic := params.getLast?.any (·.variadic)
    let params ← scope.valuesOf params
    return ⟨params, ← scope.valuesOf results, variadic⟩

/-- The values that parameters stand for. -/
def valuesOf (scope : Scope) : List ParamExpr → Inquiry (List Value)
  | []                    => return []
  | ⟨names, t, _⟩ :: rest => do
    let t ← scope.typeOf t
    return values names t ++ (← scope.valuesOf rest)

/-- The fields that rows of fields stand for. -/
def fieldsOf (scope : Scope) : List FieldExpr → Inquiry (List Field)
  | []                      => return []
  | ⟨names, t, tag⟩ :: rest => do
    let t ← scope.typeOf t
    return fields names t tag ++ (← scope.fieldsOf rest)

/-- The methods and the embedded types of an interface type. -/
def elemsOf (scope : Scope) : List InterfaceElem → Inquiry (List MethodSpec × List GoType)
  | []                              => return ([], [])
  | .method name signature :: rest => do
    let signature ← scope.signatureOf signature
    let (methods, embeds) ← scope.elemsOf rest
    return (⟨name, signature⟩ :: methods, embeds)
  | .embed terms :: rest            => do
    let terms ← scope.termsOf terms
    let (methods, embeds) ← scope.elemsOf rest
    return (methods, typeOfTerms terms :: embeds)

/-- The terms that a type set writes. -/
def termsOf (scope : Scope) : List UnionTerm → Inquiry (List Term)
  | []                 => return []
  | ⟨tilde, t⟩ :: rest => do
    let t ← scope.typeOf t
    return ⟨tilde, t⟩ :: (← scope.termsOf rest)

end

end Scope

end GoMocks
