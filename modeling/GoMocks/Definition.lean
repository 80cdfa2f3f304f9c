import GoMocks.GoType.Substitution
import GoMocks.Scope

/-!
# Definitions of declared types

A declared type stands for the type behind its name, with its type arguments applied. That type may
be a name again; its own definition follows, up to some number of steps.

* `NamedType.definition`: the type behind the name.
* `NamedType.underlying`: the first type on the chain of definitions that is not a name.
-/

namespace GoMocks

/-- The names of the type parameters of a declaration. -/
def GoSource.TypeSpec.paramNames (spec : GoSource.TypeSpec) : List String :=
  spec.typeParams.map (·.name)

/-- What a declaration of a package sees. -/
def SourcePackage.scope (p : SourcePackage) (file : GoSource.SourceFile)
    (spec : GoSource.TypeSpec) : Scope :=
  ⟨p, file, spec.paramNames⟩

namespace NamedType

/-- The package of a name and its declaration there. -/
def declaration (n : NamedType) :
    Inquiry (SourcePackage × GoSource.SourceFile × GoSource.TypeSpec) := do
  match n.package with
  | none => throw (.unresolvedType n.text .notDeclaredType)
  | some path =>
    match ← Inquiry.find path with
    | none => throw (.unresolvedType n.text (.packageNotFound path))
    | some p =>
      match p.declaration? n.name with
      | none              => throw (.unresolvedType n.text (.noSuchType n.name path))
      | some (file, spec) => return (p, file, spec)

/-- The type that a name is declared as, with the type arguments in place of the parameters. -/
def definition (n : NamedType) : Inquiry GoType := do
  let (p, file, spec) ← n.declaration
  let t ← (p.scope file spec).typeOf spec.type
  return t.substitute (.ofNames spec.paramNames n.arguments)

/-- The type at the end of the chain of definitions, if it takes fewer than some number of
steps. -/
def underlyingWithin : Nat → NamedType → Inquiry GoType
  | 0, n => throw (.unsupportedType n.text .definitionCycle)
  | steps + 1, n => do
    match n.package with
    | none =>
      match GoType.predeclaredUnderlying? n.name with
      | some t => return t
      | none   => throw (.unresolvedType n.text .unknownPredeclared)
    | some _ =>
      match ← n.definition with
      | .named next => underlyingWithin steps next
      | t           => return t

/-- The number of names on a chain of definitions that are followed. -/
def chainLimit : Nat := 33

/-- The type that a declared type is, with all names on the way followed. -/
def underlying (n : NamedType) : Inquiry GoType :=
  n.underlyingWithin chainLimit

end NamedType

end GoMocks
