import GoMocks.GoType

/-!
# Go types — substitution

A generic declaration is instantiated by replacing its type parameters, all at once, by the type
arguments. `GoType.parameters` lists the type parameters that occur in a type.
-/

namespace GoMocks

/-- What each type parameter stands for; the first entry of a name counts. -/
abbrev TypeArguments := List (String × GoType)

/-- Pairs parameter names with arguments as far as both go. Of two parameters with one name the
later one counts. -/
def TypeArguments.ofNames (names : List String) (arguments : List GoType) : TypeArguments :=
  (names.zip arguments).reverse

mutual

/-- Replaces the type parameters that stand for something, leaving the others. -/
def GoType.substitute (σ : TypeArguments) : GoType → GoType
  | .parameter name         => (σ.lookup name).getD (.parameter name)
  | .basic kind             => .basic kind
  | .named n                => .named (n.substitute σ)
  | .pointer elem           => .pointer (elem.substitute σ)
  | .slice elem             => .slice (elem.substitute σ)
  | .array length elem      => .array length (elem.substitute σ)
  | .map key value          => .map (key.substitute σ) (value.substitute σ)
  | .channel direction elem => .channel direction (elem.substitute σ)
  | .function signature     => .function (signature.substitute σ)
  | .struct fields          => .struct (substituteFields σ fields)
  | .interface methods es   => .interface (substituteMethods σ methods) (substituteTypes σ es)
  | .union terms            => .union (substituteTerms σ terms)

/-- Puts arguments in place in all types of a list. -/
def substituteTypes (σ : TypeArguments) : List GoType → List GoType
  | []      => []
  | t :: ts => t.substitute σ :: substituteTypes σ ts

/-- Puts arguments in place in the arguments of a declared type. -/
def NamedType.substitute (σ : TypeArguments) : NamedType → NamedType
  | ⟨package, name, arguments⟩ => ⟨package, name, substituteTypes σ arguments⟩

/-- Puts arguments in place in parameters and results. -/
def Signature.substitute (σ : TypeArguments) : Signature → Signature
  | ⟨params, results, variadic⟩ =>
    ⟨substituteValues σ params, substituteValues σ results, variadic⟩

/-- Puts arguments in place in the types of values. -/
def substituteValues (σ : TypeArguments) : List Value → List Value
  | []                => []
  | ⟨name, t⟩ :: rest => ⟨name, t.substitute σ⟩ :: substituteValues σ rest

/-- Puts arguments in place in the types of fields. -/
def substituteFields (σ : TypeArguments) : List Field → List Field
  | []                     => []
  | ⟨name, t, tag⟩ :: rest => ⟨name, t.substitute σ, tag⟩ :: substituteFields σ rest

/-- Puts arguments in place in the signatures of methods. -/
def substituteMethods (σ : TypeArguments) : List MethodSpec → List MethodSpec
  | []                => []
  | ⟨name, s⟩ :: rest => ⟨name, s.substitute σ⟩ :: substituteMethods σ rest

/-- Puts arguments in place in the types of terms. -/
def substituteTerms (σ : TypeArguments) : List Term → List Term
  | []                 => []
  | ⟨tilde, t⟩ :: rest => ⟨tilde, t.substitute σ⟩ :: substituteTerms σ rest

end

/-! ### The parameters of a type -/

mutual

/-- The type parameters that occur in a type, from left to right. -/
def GoType.parameters : GoType → List String
  | .parameter name       => [name]
  | .basic _              => []
  | .named n              => n.parameters
  | .pointer elem         => elem.parameters
  | .slice elem           => elem.parameters
  | .array _ elem         => elem.parameters
  | .map key value        => key.parameters ++ value.parameters
  | .channel _ elem       => elem.parameters
  | .function signature   => signature.parameters
  | .struct fields        => fieldParameters fields
  | .interface methods es => methodParameters methods ++ typeParameters es
  | .union terms          => termParameters terms

/-- The type parameters that occur in some types. -/
def typeParameters : List GoType → List String
  | []      => []
  | t :: ts => t.parameters ++ typeParameters ts

/-- The type parameters that occur in the arguments of a declared type. -/
def NamedType.parameters : NamedType → List String
  | ⟨_, _, arguments⟩ => typeParameters arguments

/-- The type parameters that occur in parameters and results. -/
def Signature.parameters : Signature → List String
  | ⟨params, results, _⟩ => valueParameters params ++ valueParameters results

/-- The type parameters that occur in the types of values. -/
def valueParameters : List Value → List String
  | []             => []
  | ⟨_, t⟩ :: rest => t.parameters ++ valueParameters rest

/-- The type parameters that occur in the types of fields. -/
def fieldParameters : List Field → List String
  | []                => []
  | ⟨_, t, _⟩ :: rest => t.parameters ++ fieldParameters rest

/-- The type parameters that occur in the signatures of methods. -/
def methodParameters : List MethodSpec → List String
  | []             => []
  | ⟨_, s⟩ :: rest => s.parameters ++ methodParameters rest

/-- The type parameters that occur in the types of terms. -/
def termParameters : List Term → List String
  | []             => []
  | ⟨_, t⟩ :: rest => t.parameters ++ termParameters rest

end

end GoMocks
