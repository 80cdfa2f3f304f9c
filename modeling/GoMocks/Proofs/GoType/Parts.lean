import GoMocks.Proofs.Resolver.Rendering
import Mathlib

/-!
# Go types — the types and the packages in a type

* `GoType.parts`: the types that occur in a type, itself included, in the order they are written
  in.
* `GoType.packages`: the packages that a type mentions.
* `mentions_rendering`: the text of a type refers to these packages, in this order.
-/

namespace GoMocks

mutual

/-- The types that occur in a type, from left to right, a type before the types in it. -/
def GoType.parts : GoType → List GoType
  | .basic kind           => [.basic kind]
  | .parameter name       => [.parameter name]
  | .named n              => .named n :: n.parts
  | .pointer elem         => .pointer elem :: elem.parts
  | .slice elem           => .slice elem :: elem.parts
  | .array length elem    => .array length elem :: elem.parts
  | .map key value        => .map key value :: (key.parts ++ value.parts)
  | .channel dir elem     => .channel dir elem :: elem.parts
  | .function signature   => .function signature :: signature.parts
  | .struct fields        => .struct fields :: fieldParts fields
  | .interface methods es => .interface methods es :: (methodParts methods ++ typeParts es)
  | .union terms          => .union terms :: termParts terms

/-- The parts of some types. -/
def typeParts : List GoType → List GoType
  | []      => []
  | t :: ts => t.parts ++ typeParts ts

/-- The parts of the arguments of a declared type. -/
def NamedType.parts : NamedType → List GoType
  | ⟨_, _, arguments⟩ => typeParts arguments

/-- The parts of parameters and results. -/
def Signature.parts : Signature → List GoType
  | ⟨params, results, _⟩ => valueParts params ++ valueParts results

/-- The parts of the types of values. -/
def valueParts : List Value → List GoType
  | []             => []
  | ⟨_, t⟩ :: rest => t.parts ++ valueParts rest

/-- The parts of the types of fields. -/
def fieldParts : List Field → List GoType
  | []                => []
  | ⟨_, t, _⟩ :: rest => t.parts ++ fieldParts rest

/-- The parts of the signatures of methods. -/
def methodParts : List MethodSpec → List GoType
  | []             => []
  | ⟨_, s⟩ :: rest => s.parts ++ methodParts rest

/-- The parts of the types of terms. -/
def termParts : List Term → List GoType
  | []             => []
  | ⟨_, t⟩ :: rest => t.parts ++ termParts rest

end

/-- A type is a part of itself. -/
theorem GoType.self_mem_parts (t : GoType) : t ∈ t.parts := by
  cases t <;> exact List.mem_cons_self

/-- The package that a type mentions itself: the one that declares it, or the constant that is its
length. -/
def GoType.package? : GoType → Option String
  | .basic .unsafePointer           => some "unsafe"
  | .named n                        => n.package
  | .array (.constant package _) _  => some package
  | _                               => none

/-- The packages that the types of a list mention. -/
def mentionedPackages (types : List GoType) : List String :=
  types.filterMap GoType.package?

/-- The packages that a type mentions anywhere. -/
def GoType.packages (t : GoType) : List String :=
  mentionedPackages t.parts

theorem mentionedPackages_append (types rest : List GoType) :
    mentionedPackages (types ++ rest) = mentionedPackages types ++ mentionedPackages rest :=
  List.filterMap_append

/-! ### The packages that a rendering refers to -/

/-- If there is a result, these are the packages that were referred to. -/
def Rendering.Mentions {α : Type} (x : Rendering α) (paths : List String) : Prop :=
  ∀ a, x.outcome = .ok a → x.packages = paths

namespace Rendering.Mentions

variable {α β : Type} {x : Rendering α} {f : α → Rendering β} {paths rest : List String}

theorem pure (a : α) : (Pure.pure a : Rendering α).Mentions [] := fun _ _ => rfl

/-- Nothing is claimed of a failure. -/
theorem fail (e : Error) : (Rendering.fail e : Rendering α).Mentions paths := nofun

theorem bind (hx : x.Mentions paths) (hf : ∀ a, (f a).Mentions rest) :
    (x >>= f).Mentions (paths ++ rest) := by
  intro b hb
  cases hout : x.outcome with
  | error e =>
    rw [bind_error f hout] at hb
    exact nomatch hb
  | ok a =>
    rw [bind_ok f hout] at hb ⊢
    exact congrArg₂ _ (hx a hout) (hf a b hb)

/-- A result may be changed without a reference to a package. -/
theorem map (hx : x.Mentions paths) (g : α → β) :
    (do return g (← x) : Rendering β).Mentions paths :=
  List.append_nil paths ▸ hx.bind fun a => pure (g a)

theorem qualified (ident : String → String) (package name : String) :
    (Rendering.qualified ident package name).Mentions [package] :=
  fun _ _ => rfl

end Rendering.Mentions

open Rendering (Mentions)

/-- The length of an array mentions the package of its constant. -/
theorem mentions_length (ident : String → String) (length : ArrayLength) (elem : GoType) :
    (length.rendering ident elem).Mentions (GoType.array length elem).package?.toList := by
  cases length with
  | literal text => exact .pure text
  | constant package name =>
    simp only [ArrayLength.rendering]
    split
    · exact .qualified ident package name
    · exact .fail _

/-- A name mentions its package. -/
theorem mentions_base (ident : String → String) (n : NamedType) :
    (n.baseRendering ident).Mentions n.package.toList := by
  obtain ⟨package, name, arguments⟩ := n
  cases package with
  | none => exact .pure name
  | some package =>
    simp only [NamedType.baseRendering]
    split
    · exact .qualified ident package name
    · exact .fail _

/-- The package of a type, then those of the others. -/
theorem mentionedPackages_cons (t : GoType) (types : List GoType) :
    mentionedPackages (t :: types) = t.package?.toList ++ mentionedPackages types := by
  cases h : t.package? <;> simp [mentionedPackages, h]

mutual

/-- **The text of a type refers to the packages that the type mentions.** -/
theorem mentions_rendering (ident : String → String) :
    (t : GoType) → (t.rendering ident).Mentions t.packages
  | .basic kind => by
    cases kind with
    | unsafePointer => exact .qualified ident "unsafe" "Pointer"
    | _ => exact .pure _
  | .parameter name => .pure name
  | .named ⟨package, name, arguments⟩ => by
    rw [GoType.packages, GoType.parts, mentionedPackages_cons]
    exact (mentions_base ident ⟨package, name, arguments⟩).bind fun _ =>
      (mentions_typeRenderings ident arguments).map _
  | .pointer elem => (mentions_rendering ident elem).map _
  | .slice elem => (mentions_rendering ident elem).map _
  | .array length elem => by
    rw [GoType.packages, GoType.parts, mentionedPackages_cons]
    exact (mentions_length ident length elem).bind fun _ => (mentions_rendering ident elem).map _
  | .map key value => by
    rw [GoType.packages, GoType.parts, mentionedPackages_cons, mentionedPackages_append]
    exact (mentions_rendering ident key).bind fun _ => (mentions_rendering ident value).map _
  | .channel _ elem => (mentions_rendering ident elem).map _
  | .function signature => (mentions_signature ident signature).map _
  | .struct fields => (mentions_fieldRenderings ident fields).map _
  | .interface methods embeds => by
    rw [GoType.packages, GoType.parts, mentionedPackages_cons, mentionedPackages_append]
    exact (mentions_methodRenderings ident methods).bind fun _ =>
      (mentions_typeRenderings ident embeds).map _
  | .union terms => (mentions_termRenderings ident terms).map _

theorem mentions_typeRenderings (ident : String → String) :
    (ts : List GoType) → (typeRenderings ident ts).Mentions (mentionedPackages (typeParts ts))
  | [] => .pure []
  | t :: ts => by
    rw [typeParts, mentionedPackages_append]
    exact (mentions_rendering ident t).bind fun _ => (mentions_typeRenderings ident ts).map _

theorem mentions_signature (ident : String → String) :
    (s : Signature) → (s.rendering ident).Mentions (mentionedPackages s.parts)
  | ⟨params, results, _⟩ => by
    rw [Signature.parts, mentionedPackages_append]
    exact (mentions_valueRenderings ident params).bind fun _ =>
      (mentions_valueRenderings ident results).map _

theorem mentions_valueRenderings (ident : String → String) :
    (vs : List Value) → (valueRenderings ident vs).Mentions (mentionedPackages (valueParts vs))
  | [] => .pure []
  | ⟨_, t⟩ :: vs => by
    rw [valueParts, mentionedPackages_append]
    exact (mentions_rendering ident t).bind fun _ => (mentions_valueRenderings ident vs).map _

theorem mentions_fieldRenderings (ident : String → String) :
    (fs : List Field) → (fieldRenderings ident fs).Mentions (mentionedPackages (fieldParts fs))
  | [] => .pure []
  | ⟨_, t, _⟩ :: fs => by
    rw [fieldParts, mentionedPackages_append]
    exact (mentions_rendering ident t).bind fun _ => (mentions_fieldRenderings ident fs).map _

theorem mentions_methodRenderings (ident : String → String) :
    (ms : List MethodSpec) →
      (methodRenderings ident ms).Mentions (mentionedPackages (methodParts ms))
  | [] => .pure []
  | ⟨_, s⟩ :: ms => by
    rw [methodParts, mentionedPackages_append]
    exact (mentions_signature ident s).bind fun _ => (mentions_methodRenderings ident ms).map _

theorem mentions_termRenderings (ident : String → String) :
    (ts : List Term) → (termRenderings ident ts).Mentions (mentionedPackages (termParts ts))
  | [] => .pure []
  | ⟨_, t⟩ :: ts => by
    rw [termParts, mentionedPackages_append]
    exact (mentions_rendering ident t).bind fun _ => (mentions_termRenderings ident ts).map _

end

/-! ### The packages of zero values -/

/-- The zero value of a type refers to the packages of the type, or to none. -/
theorem mentions_plainZero (ident : String → String) (t : GoType) :
    (t.plainZeroRendering ident).Mentions t.packages ∨
      (t.plainZeroRendering ident).Mentions [] := by
  cases t with
  | array | struct => exact .inl ((mentions_rendering ident _).map _)
  | union | named  => exact .inr (.fail _)
  | _              => exact .inr (.pure _)

/-- The zero value of a defined type mentions the packages of the type, or none. -/
theorem mentions_definedZero (ident : String → String) (t : GoType)
    (definition : Except Error GoType) :
    (t.definedZeroRendering ident definition).Mentions t.packages ∨
      (t.definedZeroRendering ident definition).Mentions [] := by
  cases definition with
  | error e => exact .inr (.fail e)
  | ok u =>
    cases u with
    | array | struct => exact .inl ((mentions_rendering ident t).map _)
    | union | named  => exact .inr (.fail _)
    | _              => exact .inr (.pure _)

/-- **The zero value of a type refers to no packages but those of the type**, however declared types
are defined. -/
theorem packages_zeroRendering_subset {ident : String → String} {t : GoType}
    {define : NamedType → Except Error GoType} {text : String}
    (h : (t.zeroRendering ident define).outcome = .ok text) :
    (t.zeroRendering ident define).packages ⊆ t.packages := by
  have hmentions : (t.zeroRendering ident define).Mentions t.packages ∨
      (t.zeroRendering ident define).Mentions [] := by
    cases t with
    | named n =>
      obtain ⟨_ | package, base, arguments⟩ := n
      · rw [GoType.zeroRendering]
        split
        · exact .inr (.pure _)
        · exact .inr (.fail _)
      · exact mentions_definedZero ident _ _
    | _ => exact mentions_plainZero ident _
  rcases hmentions with hm | hm
  · rw [hm text h]
    exact List.Subset.refl _
  · rw [hm text h]
    exact List.nil_subset _

end GoMocks
