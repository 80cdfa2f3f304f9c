import GoMocks.Resolver

/-!
# Resolving types — texts without a memory

What a type is written as when nothing is remembered and nothing is entered anywhere: every package
stands under an identifier that is given beforehand.

* `Rendering`: a text, or the failure to write one, with the packages it refers to on the way.
* `GoType.rendering`: the text of a type.
* `GoType.zeroRendering`: the text of its zero value, where declared types are defined by a
  function.
-/

namespace GoMocks

/-- An outcome, and the packages that are referred to until it is there. -/
structure Rendering (α : Type) where
  outcome  : Except Error α
  packages : List String

namespace Rendering

variable {α β : Type}

/-- Goes on with the result, if there is one. -/
def bind (x : Rendering α) (f : α → Rendering β) : Rendering β :=
  match x.outcome with
  | .ok a    => ⟨(f a).outcome, x.packages ++ (f a).packages⟩
  | .error e => ⟨.error e, x.packages⟩

instance : Monad Rendering where
  pure a := ⟨.ok a, []⟩
  bind   := bind

/-- The failure that refers to no package. -/
def fail (e : Error) : Rendering α :=
  ⟨.error e, []⟩

/-- The identifier of a package. -/
def identifier (ident : String → String) (package : String) : Rendering String :=
  ⟨.ok (ident package), [package]⟩

/-- A name of a package, behind the identifier of the package. -/
def qualified (ident : String → String) (package name : String) : Rendering String := do
  return (← identifier ident package) ++ "." ++ name

@[simp]
theorem pure_eq (a : α) : (pure a : Rendering α) = ⟨.ok a, []⟩ := rfl

/-- A rendering behind a success. -/
theorem bind_ok {x : Rendering α} {a : α} (f : α → Rendering β) (h : x.outcome = .ok a) :
    x >>= f = ⟨(f a).outcome, x.packages ++ (f a).packages⟩ := by
  show x.bind f = _
  rw [bind, h]

/-- A failure ends a rendering. -/
theorem bind_error {x : Rendering α} {e : Error} (f : α → Rendering β)
    (h : x.outcome = .error e) : x >>= f = ⟨.error e, x.packages⟩ := by
  show x.bind f = _
  rw [bind, h]

end Rendering

open Resolver (channelText typesSignature braced fieldText termText basicZero)

/-- The length of an array type; a constant has to be exported. -/
def ArrayLength.rendering (ident : String → String) (length : ArrayLength) (elem : GoType) :
    Rendering String :=
  match length with
  | .literal text => return text
  | .constant package name =>
    if isExported name then .qualified ident package name
    else .fail (.unsupportedType (GoType.array length elem).text (.unexportedLength name))

/-- The name of a declared type without its arguments; it has to be exported, unless it is
predeclared. -/
def NamedType.baseRendering (ident : String → String) (n : NamedType) : Rendering String :=
  match n.package with
  | none => return n.name
  | some package =>
    if isExported n.name then .qualified ident package n.name
    else .fail (.unsupportedType n.text (.unexportedType n.name))

mutual

/-- The text of a type, every package under its identifier. -/
def GoType.rendering (ident : String → String) : GoType → Rendering String
  | .basic .unsafePointer => .qualified ident "unsafe" "Pointer"
  | .basic kind           => return kind.name
  | .named n              => n.rendering ident
  | .parameter name       => return name
  | .pointer elem         => return "*" ++ (← elem.rendering ident)
  | .slice elem           => return "[]" ++ (← elem.rendering ident)
  | .array length elem    => do
    let length ← length.rendering ident elem
    let elem ← elem.rendering ident
    return "[" ++ length ++ "]" ++ elem
  | .map key value        => do
    let key ← key.rendering ident
    let value ← value.rendering ident
    return "map[" ++ key ++ "]" ++ value
  | .channel direction elem => do
    let text ← elem.rendering ident
    return channelText direction elem text
  | .function signature   => return "func" ++ (← signature.rendering ident)
  | .struct fields        => return braced "struct" (← fieldRenderings ident fields)
  | .interface methods embeds => do
    let methods ← methodRenderings ident methods
    let embeds ← typeRenderings ident embeds
    return braced "interface" (methods ++ embeds)
  | .union terms          => return " | ".intercalate (← termRenderings ident terms)

/-- The renderings of some types. -/
def typeRenderings (ident : String → String) : List GoType → Rendering (List String)
  | []      => return []
  | t :: ts => do
    let text ← t.rendering ident
    return text :: (← typeRenderings ident ts)

/-- The rendering of a declared type with its arguments. -/
def NamedType.rendering (ident : String → String) : NamedType → Rendering String
  | ⟨package, name, arguments⟩ => do
    let base ← NamedType.baseRendering ident ⟨package, name, arguments⟩
    return base ++ bracketed (← typeRenderings ident arguments)

/-- The rendering of parameters and results. -/
def Signature.rendering (ident : String → String) : Signature → Rendering String
  | ⟨params, results, variadic⟩ => do
    let params ← valueRenderings ident params
    let results ← valueRenderings ident results
    return typesSignature params results variadic

/-- The renderings of the types of values. -/
def valueRenderings (ident : String → String) : List Value → Rendering (List String)
  | []             => return []
  | ⟨_, t⟩ :: rest => do
    let text ← t.rendering ident
    return text :: (← valueRenderings ident rest)

/-- The renderings of fields, with their names and tags. -/
def fieldRenderings (ident : String → String) : List Field → Rendering (List String)
  | []                     => return []
  | ⟨name, t, tag⟩ :: rest => do
    let text ← t.rendering ident
    return fieldText name text tag :: (← fieldRenderings ident rest)

/-- The renderings of methods, each behind its name. -/
def methodRenderings (ident : String → String) : List MethodSpec → Rendering (List String)
  | []                => return []
  | ⟨name, s⟩ :: rest => do
    let text ← s.rendering ident
    return (name ++ text) :: (← methodRenderings ident rest)

/-- The renderings of terms, each behind its tilde. -/
def termRenderings (ident : String → String) : List Term → Rendering (List String)
  | []                 => return []
  | ⟨tilde, t⟩ :: rest => do
    let text ← t.rendering ident
    return termText tilde text :: (← termRenderings ident rest)

end

/-! ### Zero values -/

/-- The zero value of a type that is no reference to a declared one. -/
def GoType.plainZeroRendering (ident : String → String) (t : GoType) : Rendering String :=
  match t with
  | .basic kind           => return basicZero kind
  | .parameter name       => return "*new(" ++ name ++ ")"
  | .array .. | .struct _ => return (← t.rendering ident) ++ "\x7b\x7d"
  | .union _              => .fail (.unsupportedType t.text .typeSetWithoutZero)
  | .named _              => .fail (.unresolvedType t.text .stillNamed)
  | .pointer _ | .slice _ | .map .. | .channel .. | .function _ | .interface .. => return "nil"

/-- The zero value of a type that is declared as another one. -/
def GoType.definedZeroRendering (ident : String → String) (t : GoType) :
    Except Error GoType → Rendering String
  | .error e => .fail e
  | .ok u =>
    match u with
    | .array .. | .struct _ => return (← t.rendering ident) ++ "\x7b\x7d"
    | .union _              => .fail (.unsupportedType t.text .constraintWithoutZero)
    | .named _              => .fail (.unresolvedType t.text .stillNamed)
    | u                     => u.plainZeroRendering ident

/-- The zero value of a type, where a function says what declared types are defined as. -/
def GoType.zeroRendering (ident : String → String) (define : NamedType → Except Error GoType)
    (t : GoType) : Rendering String :=
  match t with
  | .named ⟨none, base, _⟩ =>
    if base ∈ predeclaredInterfaces then return "nil"
    else .fail (.unresolvedType t.text .unknownPredeclared)
  | .named n => t.definedZeroRendering ident (define n)
  | t        => t.plainZeroRendering ident

/-- The zero value of a type that is no name is plain. -/
theorem GoType.zeroRendering_of_ne (ident : String → String)
    (define : NamedType → Except Error GoType) {t : GoType} (h : ∀ n, t ≠ .named n) :
    t.zeroRendering ident define = t.plainZeroRendering ident := by
  cases t with
  | named n => exact absurd rfl (h n)
  | _ => rfl

/-- Only the definition of the type itself counts for its zero value. -/
theorem GoType.zeroRendering_congr (ident : String → String)
    {f g : NamedType → Except Error GoType} {t : GoType} (h : ∀ n, t = .named n → f n = g n) :
    t.zeroRendering ident f = t.zeroRendering ident g := by
  cases t with
  | named n =>
    obtain ⟨package, name, arguments⟩ := n
    cases package with
    | none => rfl
    | some package => simp only [zeroRendering, h _ rfl]
  | _ => rfl

end GoMocks
