import GoMocks.Proofs.GoType.Substitution

/-!
# Go types — substitution at once

Substitution replaces all type parameters of a type at once. So one substitution after another is a
single one, by arguments that are put together from both.

* `TypeArguments.Composes`, `andThen`: the arguments of one substitution after another.
* `SubstitutesAtOnce`: the laws of substitution, for anything that has type parameters.
* `substitutesAtOnce`: types and signatures obey them.
-/

namespace GoMocks

namespace TypeArguments

variable {σ τ υ : TypeArguments} {x : String}

/-- Do the arguments give each parameter of the first ones what it stands for there, after the
second, and each other parameter of the second ones what it stands for there? -/
def Composes (σ τ υ : TypeArguments) : Prop :=
  ∀ x, υ.lookup x =
    match σ.lookup x with
    | some t => some (t.substitute τ)
    | none   => τ.lookup x

/-- The arguments of one substitution after another. -/
def andThen (σ τ : TypeArguments) : TypeArguments :=
  σ.map (fun e => (e.1, e.2.substitute τ)) ++ τ

/-- One substitution after the other is a composition of the two. -/
theorem composes_andThen (σ τ : TypeArguments) : Composes σ τ (σ.andThen τ) := by
  intro x
  rw [andThen, List.lookup_append, lookup_map]
  cases σ.lookup x <;> rfl

/-- What a parameter stands for after both substitutions. -/
theorem Composes.substitute_image (h : Composes σ τ υ) (x : String) :
    (σ.image x).substitute τ = υ.image x := by
  rw [image, image, h x]
  cases σ.lookup x with
  | some t => rfl
  | none => rw [Option.getD_none, GoType.substitute]

/-- A parameter of the image was left as it is, or is one of a type put in. -/
theorem mem_imageParameters_iff {names : List String} :
    x ∈ σ.imageParameters names ↔
      (x ∈ names ∧ σ.lookup x = none) ∨
        ∃ y ∈ names, ∃ t, σ.lookup y = some t ∧ x ∈ t.parameters := by
  have himage (y : String) : x ∈ (σ.image y).parameters ↔
      (y = x ∧ σ.lookup y = none) ∨ ∃ t, σ.lookup y = some t ∧ x ∈ t.parameters := by
    rw [image]
    cases σ.lookup y with
    | some t => simp
    | none => simp [GoType.parameters, eq_comm]
  rw [imageParameters, List.mem_flatMap]
  constructor
  · rintro ⟨y, hy, hx⟩
    rcases (himage y).mp hx with ⟨rfl, hnone⟩ | hsome
    · exact .inl ⟨hy, hnone⟩
    · exact .inr ⟨y, hy, hsome⟩
  · rintro (⟨hx, hnone⟩ | ⟨y, hy, hsome⟩)
    · exact ⟨x, hx, (himage x).mpr (.inl ⟨rfl, hnone⟩)⟩
    · exact ⟨y, hy, (himage y).mpr (.inr hsome)⟩

end TypeArguments

/-- The laws of a substitution that replaces all type parameters at once. -/
structure SubstitutesAtOnce {α : Type} (substitute : TypeArguments → α → α)
    (parameters : α → List String) : Prop where
  /-- One substitution after another is a single one. -/
  composes : ∀ σ τ υ, TypeArguments.Composes σ τ υ → ∀ a,
    substitute τ (substitute σ a) = substitute υ a
  /-- What has no parameter that stands for something stays what it is. -/
  unchanged : ∀ σ a, (∀ x ∈ parameters a, σ.lookup x = none) → substitute σ a = a
  /-- The parameters that are left, and those of what is put in. -/
  parameters_iff : ∀ σ a x, x ∈ parameters (substitute σ a) ↔
    (x ∈ parameters a ∧ σ.lookup x = none) ∨
      ∃ y ∈ parameters a, ∃ t, σ.lookup y = some t ∧ x ∈ t.parameters

/-- The laws follow from what a substitution does to each parameter. -/
theorem SubstitutesAtOnce.of_images {α : Type} {substitute : TypeArguments → α → α}
    {parameters : α → List String}
    (hcompose : ∀ {σ τ υ : TypeArguments} (a : α),
      (∀ x ∈ parameters a, (σ.image x).substitute τ = υ.image x) →
      substitute τ (substitute σ a) = substitute υ a)
    (hnil : ∀ a, substitute [] a = a)
    (hparameters : ∀ (σ : TypeArguments) a,
      parameters (substitute σ a) = σ.imageParameters (parameters a)) :
    SubstitutesAtOnce substitute parameters where
  composes σ τ υ h a := hcompose a fun x _ => h.substitute_image x
  unchanged σ a h := by
    have hsame : substitute [] (substitute σ a) = substitute [] a :=
      hcompose a fun x hx => by
        rw [GoType.substitute_nil, TypeArguments.image, h x hx]
        rfl
    rwa [hnil, hnil] at hsame
  parameters_iff σ a x := by rw [hparameters, TypeArguments.mem_imageParameters_iff]

/-- **Types and signatures are substituted in at once.** For any two lists of arguments there are
some that do at once what these do one after the other. What has no parameter among those that are
replaced stays the same. The parameters of the result are those that are not replaced, and those of
what the others stand for. -/
theorem substitutesAtOnce :
    (∀ σ τ : TypeArguments, TypeArguments.Composes σ τ (σ.andThen τ)) ∧
      SubstitutesAtOnce GoType.substitute GoType.parameters ∧
      SubstitutesAtOnce Signature.substitute Signature.parameters :=
  ⟨TypeArguments.composes_andThen,
    .of_images GoType.substitute_substitute GoType.substitute_nil GoType.parameters_substitute,
    .of_images Signature.substitute_substitute Signature.substitute_nil
      Signature.parameters_substitute⟩

/-- Two parameters that stand for each other, and one that then stands for a type it occurs in. -/
theorem substitutesAtOnce_swap :
    let σ : TypeArguments := [("K", .parameter "V"), ("V", .parameter "K")]
    let τ : TypeArguments := [("K", .slice (.parameter "K"))]
    let υ : TypeArguments := [("V", .slice (.parameter "K")), ("K", .parameter "V")]
    let t : GoType := .map (.parameter "K") (.slice (.parameter "V"))
    let s : Signature := ⟨[⟨"key", .parameter "K"⟩], [⟨"", .parameter "T"⟩], false⟩
    (TypeArguments.Composes σ τ υ ∧ (t.substitute σ).substitute τ = t.substitute υ ∧
      t.substitute υ = .map (.parameter "V") (.slice (.slice (.parameter "K")))) ∧
    ((∀ x ∈ (GoType.parameter "T").parameters, σ.lookup x = none) ∧
      (GoType.parameter "T").substitute σ = .parameter "T") ∧
    (s.substitute σ).substitute τ = s.substitute υ ∧
    "V" ∈ (s.substitute σ).parameters ∧ "T" ∈ (s.substitute σ).parameters := by
  intro σ τ υ t s
  obtain ⟨-, htypes, hsignatures⟩ := substitutesAtOnce
  -- the swap moves only `K` and `V`
  have hcomposes : TypeArguments.Composes σ τ υ := by
    intro x
    rcases eq_or_ne x "V" with rfl | hV
    · rfl
    · rcases eq_or_ne x "K" with rfl | hK
      · rfl
      · have hV : (x == "V") = false := beq_eq_false_iff_ne.mpr hV
        have hK : (x == "K") = false := beq_eq_false_iff_ne.mpr hK
        simp [σ, τ, υ, List.lookup_cons, hV, hK]
  have hunchanged : ∀ x ∈ (GoType.parameter "T").parameters, σ.lookup x = none := by
    decide
  have hparameters : s.parameters = ["K", "T"] := rfl
  refine ⟨⟨hcomposes, htypes.composes σ τ υ hcomposes t, rfl⟩,
    ⟨hunchanged, htypes.unchanged σ _ hunchanged⟩, hsignatures.composes σ τ υ hcomposes s,
    (hsignatures.parameters_iff σ s "V").mpr (.inr ?_),
    (hsignatures.parameters_iff σ s "T").mpr (.inl ⟨by simp [hparameters], rfl⟩)⟩
  exact ⟨"K", by simp [hparameters], .parameter "V", rfl, by simp [GoType.parameters]⟩

end GoMocks
