import GoMocks.Definition
import GoMocks.Interface
import GoMocks.KeyOrder

/-!
# Method sets

The methods of an interface are its own ones and those of the interfaces it embeds, one of each
name. An interface that embeds anything but interfaces is a constraint.

* `MethodSet.merge`: the methods of two sets; of two with one name the first one counts.
* `NamedType.methodSet`: the method set of a declared type.
* `SourcePackage.interfaces`: the interfaces that a package declares.
-/

namespace GoMocks

/-- Methods with different names, and whether they come with a type set. -/
structure MethodSet where
  methods      : List Method := []
  isConstraint : Bool := false
  deriving Inhabited, DecidableEq

namespace MethodSet

/-- The set of a type that is no interface. -/
def constraint : MethodSet := ⟨[], true⟩

/-- Enters a method, unless there is one of its name. -/
def insert (set : MethodSet) (m : Method) : MethodSet :=
  if set.methods.any (·.name == m.name) then set
  else { set with methods := set.methods ++ [m] }

/-- Enters methods one after the other. -/
def insertAll (set : MethodSet) (methods : List Method) : MethodSet :=
  methods.foldl insert set

/-- Enters the methods of another set. -/
def merge (set other : MethodSet) : MethodSet :=
  { set with isConstraint := set.isConstraint || other.isConstraint }.insertAll other.methods

/-- The set of the methods that an interface type itself has. -/
def ofSpecs (specs : List MethodSpec) : MethodSet :=
  ({} : MethodSet).insertAll (specs.map fun m => ⟨m.name, m.signature⟩)

/-- The methods in the order of their names. -/
def sorted (set : MethodSet) : List Method :=
  sortByKey Method.name set.methods

end MethodSet

/-- The method set of a predeclared name. -/
def predeclaredMethodSet (name : String) : MethodSet :=
  if name = "any" then {}
  else
    match name, GoType.predeclaredUnderlying? name with
    | "error", some (.interface methods _) => .ofSpecs methods
    | _,       _                           => .constraint

mutual

/-- The method set of a type, by the method sets of the names in it. -/
def GoType.methodSetBy (named : NamedType → Inquiry MethodSet) : GoType → Inquiry MethodSet
  | .named ⟨none, name, _⟩    => return predeclaredMethodSet name
  | .named n                  => named n
  | .interface methods embeds => embedAll named (.ofSpecs methods) embeds
  | _                         => return .constraint

/-- A method set with those of embedded types, one after the other. -/
def embedAll (named : NamedType → Inquiry MethodSet) (set : MethodSet) :
    List GoType → Inquiry MethodSet
  | []      => return set
  | t :: ts => do embedAll named (set.merge (← t.methodSetBy named)) ts

end

namespace NamedType

/-- The method set of a declared type, where no name is followed through more than some number of
levels, and none of those that are being followed already. A name that is being followed is an answer
of the tool. The levels are not: the tool counts none, and where they run out here it goes on. -/
def methodSetWithin : Nat → List String → NamedType → Inquiry MethodSet
  | 0, _, n => throw (.unsupportedType n.text .tooDeep)
  | levels + 1, followed, n => do
    if n.text ∈ followed then throw (.unsupportedType n.text .embedsItself)
    else (← n.definition).methodSetBy (methodSetWithin levels (n.text :: followed))

/-- The number of levels that embedded names are followed through. The tool has no such limit. This
one is more than there are names in memory, so that it is reached where type arguments grow without
end and nowhere else, and there the tool comes to no answer. -/
def embeddingLimit : Nat := UInt64.size

/-- The method set of a declared type. -/
def methodSet (n : NamedType) : Inquiry MethodSet :=
  n.methodSetWithin embeddingLimit []

end NamedType

/-- The method set of a type, with names followed through some number of levels. -/
def GoType.methodSetWithin (levels : Nat) (t : GoType) : Inquiry MethodSet :=
  t.methodSetBy (NamedType.methodSetWithin levels [])

/-- The method set of a type. -/
def GoType.methodSet (t : GoType) : Inquiry MethodSet :=
  t.methodSetWithin NamedType.embeddingLimit

namespace NamedType

/-- The methods that a name stands for, in the order of their names, where names are followed
through some number of levels. -/
def methodsWithin (levels : Nat) (n : NamedType) : Inquiry (List Method) :=
  return (← (GoType.named n).methodSetWithin levels).sorted

/-- The methods that a name stands for, in the order of their names. -/
def methods (n : NamedType) : Inquiry (List Method) :=
  n.methodsWithin embeddingLimit

end NamedType

/-! ### The interfaces of a package -/

namespace SourcePackage

/-- The name that a declaration stands for, if that name is one of an interface. -/
def interfaceName? (scope : Scope) (t : GoSource.TypeExpr) : Inquiry (Option NamedType) :=
  tryCatch
    (do
      match ← scope.typeOf t with
      | .named n =>
        match ← n.underlying with
        | .interface .. => return some n
        | _             => return none
      | _ => return none)
    fun _ => return none

/-- The method set of a declaration: of the interface it writes, or of the one it names. -/
def declaredMethodSet? (scope : Scope) (t : GoSource.TypeExpr) : Inquiry (Option MethodSet) := do
  match t with
  | .interface _ => return some (← (← scope.typeOf t).methodSet)
  | .name _ | .qualified .. | .generic .. =>
    match ← interfaceName? scope t with
    | some n => return some (← n.methodSet)
    | none   => return none
  | _ => return none

/-- The type parameters of a declaration. -/
def typeParams (scope : Scope) (spec : GoSource.TypeSpec) : Inquiry (List TypeParam) :=
  spec.typeParams.mapM fun p => return ⟨p.name, ← scope.typeOf p.constraint⟩

/-- The interface that a declaration declares, if it declares one. -/
def interface? (p : SourcePackage) (file : GoSource.SourceFile) (spec : GoSource.TypeSpec) :
    Inquiry (Option Interface) := do
  let scope := p.scope file spec
  match ← declaredMethodSet? scope spec.type with
  | none => return none
  | some set =>
    return some
      { name         := spec.name
        file         := file.path
        line         := spec.line
        exported     := isExported spec.name
        typeParams   := ← typeParams scope spec
        methods      := set.sorted
        isConstraint := set.isConstraint }

/-- The interface that a declaration declares. A failure counts for exported names alone. -/
def listedInterface? (p : SourcePackage) (file : GoSource.SourceFile) (spec : GoSource.TypeSpec) :
    Inquiry (Option Interface) :=
  tryCatch (p.interface? file spec) fun cause =>
    if isExported spec.name then
      throw (.inInterface p.package.path spec.name file.path spec.line cause)
    else return none

/-- The interfaces that a package declares, in the order of the sources. -/
def interfaces (p : SourcePackage) : Inquiry (List Interface) := do
  return (← p.declarations.mapM fun d => p.listedInterface? d.1 d.2).filterMap id

end SourcePackage

end GoMocks
