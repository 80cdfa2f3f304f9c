import GoMocks.GoType.Predeclared
import GoMocks.Proofs.GoSource.Literal
import GoMocks.Proofs.GoType.Parts

/-!
# Go types — types that Go can write

A value of `GoType` holds arbitrary texts and nests type sets anywhere. The types of Go programs do
not.

* `GoType.Lexical`: the names in the type are identifiers, the lengths of arrays integers, and the
  tags of fields string literals.
* `GoType.WellFormed`: besides, type sets are only embedded in interfaces, and the like.
* `GoType.unnamed`: the type without the names of parameters and results.
-/

namespace GoMocks

open GoSource (IsInteger IsString)

/-! ### Names and literals -/

/-- The names and literals of a type, those of the types in it left out, are ones. -/
def GoType.LexicalHere : GoType → Prop
  | .named n                    => isIdentifier n.name
  | .parameter name             => isIdentifier name
  | .array (.literal text) _    => IsInteger text
  | .array (.constant _ name) _ => isIdentifier name
  | .struct fields              =>
    ∀ f ∈ fields, (∀ name ∈ f.name, isIdentifier name) ∧ ∀ tag ∈ f.tag, IsString tag
  | .interface methods _        => ∀ m ∈ methods, isIdentifier m.name
  | _                           => True

instance (t : GoType) : Decidable t.LexicalHere := by
  unfold GoType.LexicalHere
  split <;> infer_instance

/-- All names in the type are identifiers, all lengths that are no constants are integers, and all
tags are string literals. -/
def GoType.Lexical (t : GoType) : Prop :=
  ∀ u ∈ t.parts, u.LexicalHere

instance (t : GoType) : Decidable t.Lexical := by
  unfold GoType.Lexical
  infer_instance

/-! ### Type sets and embedding -/

/-- Is it a type set? -/
def GoType.isUnion : GoType → Bool
  | .union _ => true
  | _        => false

/-- A type that is written as a name, perhaps with arguments. -/
def GoType.isReference : GoType → Bool
  | .basic _ | .named _ | .parameter _ => true
  | _                                  => false

/-- A type that can be embedded in a struct. -/
def GoType.isEmbeddable : GoType → Bool
  | .pointer elem => elem.isReference
  | t             => t.isReference

/-- A type whose zero value may be written as a literal of the type: a declared one, an array or a
struct. -/
def GoType.hasBody : GoType → Bool
  | .named _ | .array _ _ | .struct _ => true
  | _                                 => false

/-- The types of the parameters and results. -/
def Signature.types (s : Signature) : List GoType :=
  (s.params ++ s.results).map Value.type

/-- The types directly in a type, except those that are embedded in an interface. -/
def GoType.elements : GoType → List GoType
  | .basic _ | .parameter _                                 => []
  | .named n                                                => n.arguments
  | .pointer elem | .slice elem | .array _ elem | .channel _ elem => [elem]
  | .map key value                                          => [key, value]
  | .function signature                                     => signature.types
  | .struct fields                                          => fields.map Field.type
  | .interface methods _                                    =>
    methods.flatMap fun m => m.signature.types
  | .union terms                                            => terms.map Term.type

/-- Only a signature with parameters is variadic. -/
def Signature.Shaped (s : Signature) : Prop :=
  s.variadic → s.params ≠ []

/-- The type is put together as Go allows it; the types in it are left out. -/
def GoType.ShapedHere : GoType → Prop
  | .named n             => n.package = none → n.name ∈ predeclaredInterfaces
  | .parameter name      => predeclared? name = none
  | .function signature  => signature.Shaped
  | .struct fields       => ∀ f ∈ fields, f.name = none → f.type.isEmbeddable
  | .interface methods _ => ∀ m ∈ methods, m.signature.Shaped
  | .union terms         => (∃ t ∈ terms, t.tilde) ∨ 2 ≤ terms.length
  | _                    => True

instance (s : Signature) : Decidable s.Shaped := by
  unfold Signature.Shaped
  infer_instance

instance (t : GoType) : Decidable t.ShapedHere := by
  unfold GoType.ShapedHere
  split <;> infer_instance

/-- A type that Go can write: parameters do not go by predeclared names, the only types without a
package are the predeclared ones, what is embedded in a struct is a name or a pointer to one, only
signatures with parameters are variadic, and type sets are only embedded in interfaces, where they
have a tilde or several terms. -/
structure GoType.WellFormed (t : GoType) : Prop where
  lexical  : t.Lexical
  shaped   : ∀ u ∈ t.parts, u.ShapedHere
  no_union : t.isUnion = false ∧ ∀ u ∈ t.parts, ∀ e ∈ u.elements, e.isUnion = false

instance (t : GoType) : Decidable t.WellFormed :=
  decidable_of_iff (t.Lexical ∧ (∀ u ∈ t.parts, u.ShapedHere) ∧
      t.isUnion = false ∧ ∀ u ∈ t.parts, ∀ e ∈ u.elements, e.isUnion = false)
    ⟨fun ⟨hl, hs, hu⟩ => ⟨hl, hs, hu⟩, fun ⟨hl, hs, hu⟩ => ⟨hl, hs, hu⟩⟩

/-! ### Names of parameters and results -/

mutual

/-- The type without the names of parameters and results. -/
def GoType.unnamed : GoType → GoType
  | .basic kind           => .basic kind
  | .named n              => .named n.unnamed
  | .parameter name       => .parameter name
  | .pointer elem         => .pointer elem.unnamed
  | .slice elem           => .slice elem.unnamed
  | .array length elem    => .array length elem.unnamed
  | .map key value        => .map key.unnamed value.unnamed
  | .channel dir elem     => .channel dir elem.unnamed
  | .function signature   => .function signature.unnamed
  | .struct fields        => .struct (unnamedFields fields)
  | .interface methods es => .interface (unnamedMethods methods) (unnamedTypes es)
  | .union terms          => .union (unnamedTerms terms)

/-- The types without the names of parameters and results. -/
def unnamedTypes : List GoType → List GoType
  | []      => []
  | t :: ts => t.unnamed :: unnamedTypes ts

/-- A declared type whose arguments have no names of parameters. -/
def NamedType.unnamed : NamedType → NamedType
  | ⟨package, name, arguments⟩ => ⟨package, name, unnamedTypes arguments⟩

/-- The signature without the names of its parameters and results. -/
def Signature.unnamed : Signature → Signature
  | ⟨params, results, variadic⟩ => ⟨unnamedValues params, unnamedValues results, variadic⟩

/-- The values without their names. -/
def unnamedValues : List Value → List Value
  | []             => []
  | ⟨_, t⟩ :: rest => ⟨"", t.unnamed⟩ :: unnamedValues rest

/-- The fields, without the names of parameters in their types. -/
def unnamedFields : List Field → List Field
  | []                     => []
  | ⟨name, t, tag⟩ :: rest => ⟨name, t.unnamed, tag⟩ :: unnamedFields rest

/-- The methods without the names of their parameters. -/
def unnamedMethods : List MethodSpec → List MethodSpec
  | []                => []
  | ⟨name, s⟩ :: rest => ⟨name, s.unnamed⟩ :: unnamedMethods rest

/-- The terms, without the names of parameters in their types. -/
def unnamedTerms : List Term → List Term
  | []                 => []
  | ⟨tilde, t⟩ :: rest => ⟨tilde, t.unnamed⟩ :: unnamedTerms rest

end

end GoMocks
