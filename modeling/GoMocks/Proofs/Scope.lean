import GoMocks.Proofs.GoType.Substitution
import GoMocks.Proofs.Inquiry
import GoMocks.Scope

/-!
# Scopes — what expressions stand for

* `GoType.IsPlain`: a type that is neither a name nor an interface.
* `Scope.typeOf_allows`: interface expressions stand for interface types, names for anything else,
  and all other expressions for plain types.
-/

namespace GoMocks

/-- A type that is neither a name nor an interface. -/
def GoType.IsPlain : GoType → Prop
  | .named _ | .interface .. => False
  | _                        => True

namespace Scope

open GoSource (TypeExpr FunctionExpr ParamExpr FieldExpr InterfaceElem UnionTerm)

/-- The types that an expression of some form can stand for. -/
def Allows : TypeExpr → GoType → Prop
  | .name _ | .qualified .. | .generic .. => fun t => ∀ ms es, t ≠ .interface ms es
  | .interface _                          => fun t => ∃ ms es, t = .interface ms es
  | _                                     => GoType.IsPlain

variable {packages : String → Option SourcePackage} {scope : Scope} {e : TypeExpr} {t : GoType}

/-- A name brings no parameters but those of the scope. -/
theorem typeNamed_parameters {name : String}
    (h : (scope.typeNamed name).answer packages = .ok t) : t.parameters ⊆ scope.typeParams := by
  unfold typeNamed at h
  split at h
  · next hmem =>
    obtain rfl := Except.ok.inj h
    exact List.cons_subset.mpr ⟨hmem, List.nil_subset _⟩
  · split at h
    · obtain rfl := Except.ok.inj h
      exact List.nil_subset _
    · split at h
      · next hpre =>
        obtain rfl := Except.ok.inj h
        unfold GoType.predeclared? at hpre
        split at hpre
        · exact Option.some.inj hpre ▸ List.nil_subset _
        · split at hpre
          · exact Option.some.inj hpre ▸ List.nil_subset _
          · exact nomatch hpre
      · obtain ⟨path?, -, h⟩ := Inquiry.answer_bind_eq_ok.mp h
        cases path? with
        | none      => exact nomatch h
        | some path => exact Except.ok.inj h ▸ List.nil_subset _

/-- A qualified name brings no parameters. -/
theorem qualifiedType_parameters {package name : String}
    (h : (scope.qualifiedType package name).answer packages = .ok t) : t.parameters = [] := by
  obtain ⟨path, -, h⟩ := Inquiry.answer_bind_eq_ok.mp h
  split at h <;> exact Except.ok.inj h ▸ rfl

/-- An instance brings no parameters but those of its arguments. -/
theorem instantiate_parameters {base : GoType} {arguments : Inquiry (List GoType)}
    (harguments : ∀ {ts}, arguments.answer packages = .ok ts →
      typeParameters ts ⊆ scope.typeParams)
    (h : (instantiate base arguments).answer packages = .ok t) :
    t.parameters ⊆ scope.typeParams := by
  unfold instantiate at h
  split at h
  · obtain ⟨ts, hts, h⟩ := Inquiry.answer_bind_eq_ok.mp h
    obtain rfl := Except.ok.inj h
    exact harguments hts
  · exact nomatch h

/-- Values of one type have its parameters. -/
theorem valueParameters_values (names : List String) (t : GoType) :
    valueParameters (values names t) ⊆ t.parameters := by
  have htype : ∀ v ∈ values names t, v.type = t := by
    unfold values
    split <;> simp
  intro x hx
  obtain ⟨v, hv, hx⟩ := List.mem_flatMap.mp (valueParameters_eq_flatMap _ ▸ hx)
  exact htype v hv ▸ hx

/-- Fields of one type have its parameters. -/
theorem fieldParameters_fields (names : List String) (t : GoType) (tag : Option String) :
    fieldParameters (fields names t tag) ⊆ t.parameters := by
  have htype : ∀ f ∈ fields names t tag, f.type = t := by
    unfold fields
    split <;> simp
  intro x hx
  obtain ⟨f, hf, hx⟩ := List.mem_flatMap.mp (fieldParameters_eq_flatMap _ ▸ hx)
  exact htype f hf ▸ hx

/-- The type of some terms has their parameters. -/
theorem parameters_typeOfTerms (terms : List Term) :
    (typeOfTerms terms).parameters = termParameters terms := by
  unfold typeOfTerms
  split
  · rw [termParameters, termParameters, List.append_nil]
  · rw [GoType.parameters]

open Inquiry (answer_bind_eq_ok)
open List (append_subset)

mutual

/-- **A type has no type parameters but those of its scope.** -/
theorem typeOf_parameters : (e : TypeExpr) → {t : GoType} →
    (scope.typeOf e).answer packages = .ok t → t.parameters ⊆ scope.typeParams
  | .name _, t, h                 => typeNamed_parameters (by rwa [typeOf] at h)
  | .qualified package name, t, h =>
    qualifiedType_parameters (by rwa [typeOf] at h) ▸ List.nil_subset _
  | .generic base arguments, t, h => by
    rw [typeOf] at h
    obtain ⟨b, -, h⟩ := answer_bind_eq_ok.mp h
    exact instantiate_parameters (typesOf_parameters arguments) h
  | .pointer elem, t, h           => by
    rw [typeOf] at h
    obtain ⟨u, hu, h⟩ := answer_bind_eq_ok.mp h
    rw [← Except.ok.inj h, GoType.parameters]
    exact typeOf_parameters elem hu
  | .slice elem, t, h             => by
    rw [typeOf] at h
    obtain ⟨u, hu, h⟩ := answer_bind_eq_ok.mp h
    rw [← Except.ok.inj h, GoType.parameters]
    exact typeOf_parameters elem hu
  | .array _ elem, t, h           => by
    rw [typeOf] at h
    obtain ⟨_, -, h⟩ := answer_bind_eq_ok.mp h
    obtain ⟨u, hu, h⟩ := answer_bind_eq_ok.mp h
    rw [← Except.ok.inj h, GoType.parameters]
    exact typeOf_parameters elem hu
  | .map key value, t, h          => by
    rw [typeOf] at h
    obtain ⟨k, hk, h⟩ := answer_bind_eq_ok.mp h
    obtain ⟨v, hv, h⟩ := answer_bind_eq_ok.mp h
    obtain rfl := Except.ok.inj h
    exact append_subset.mpr ⟨typeOf_parameters key hk, typeOf_parameters value hv⟩
  | .channel _ elem, t, h         => by
    rw [typeOf] at h
    obtain ⟨u, hu, h⟩ := answer_bind_eq_ok.mp h
    rw [← Except.ok.inj h, GoType.parameters]
    exact typeOf_parameters elem hu
  | .function signature, t, h     => by
    rw [typeOf] at h
    obtain ⟨s, hs, h⟩ := answer_bind_eq_ok.mp h
    obtain rfl := Except.ok.inj h
    exact signatureOf_parameters signature hs
  | .struct fields, t, h          => by
    rw [typeOf] at h
    obtain ⟨fs, hfs, h⟩ := answer_bind_eq_ok.mp h
    obtain rfl := Except.ok.inj h
    exact fieldsOf_parameters fields hfs
  | .interface elems, t, h        => by
    rw [typeOf] at h
    obtain ⟨⟨ms, es⟩, hes, h⟩ := answer_bind_eq_ok.mp h
    obtain rfl := Except.ok.inj h
    exact append_subset.mpr (elemsOf_parameters elems hes)
  | .union terms, t, h            => by
    rw [typeOf] at h
    obtain ⟨ts, hts, h⟩ := answer_bind_eq_ok.mp h
    obtain rfl := Except.ok.inj h
    exact termsOf_parameters terms hts

/-- Types bring no parameters but those of the scope. -/
theorem typesOf_parameters : (es : List TypeExpr) → {ts : List GoType} →
    (scope.typesOf es).answer packages = .ok ts → typeParameters ts ⊆ scope.typeParams
  | [], ts, h      => by
    rw [typesOf] at h
    exact Except.ok.inj h ▸ List.nil_subset _
  | e :: es, ts, h => by
    rw [typesOf] at h
    obtain ⟨t, ht, h⟩ := answer_bind_eq_ok.mp h
    obtain ⟨us, hus, h⟩ := answer_bind_eq_ok.mp h
    obtain rfl := Except.ok.inj h
    exact append_subset.mpr ⟨typeOf_parameters e ht, typesOf_parameters es hus⟩

theorem signatureOf_parameters : (s : FunctionExpr) → {t : Signature} →
    (scope.signatureOf s).answer packages = .ok t → t.parameters ⊆ scope.typeParams
  | ⟨params, results⟩, t, h => by
    rw [signatureOf] at h
    obtain ⟨ps, hps, h⟩ := answer_bind_eq_ok.mp h
    obtain ⟨rs, hrs, h⟩ := answer_bind_eq_ok.mp h
    obtain rfl := Except.ok.inj h
    exact append_subset.mpr ⟨valuesOf_parameters params hps, valuesOf_parameters results hrs⟩

theorem valuesOf_parameters : (ps : List ParamExpr) → {vs : List Value} →
    (scope.valuesOf ps).answer packages = .ok vs → valueParameters vs ⊆ scope.typeParams
  | [], vs, h                     => by
    rw [valuesOf] at h
    exact Except.ok.inj h ▸ List.nil_subset _
  | ⟨names, e, _⟩ :: rest, vs, h => by
    rw [valuesOf] at h
    obtain ⟨t, ht, h⟩ := answer_bind_eq_ok.mp h
    obtain ⟨us, hus, h⟩ := answer_bind_eq_ok.mp h
    obtain rfl := Except.ok.inj h
    rw [valueParameters_eq_flatMap, List.flatMap_append, ← valueParameters_eq_flatMap,
      ← valueParameters_eq_flatMap]
    exact append_subset.mpr
      ⟨List.Subset.trans (valueParameters_values names t) (typeOf_parameters e ht),
        valuesOf_parameters rest hus⟩

theorem fieldsOf_parameters : (es : List FieldExpr) → {fs : List Field} →
    (scope.fieldsOf es).answer packages = .ok fs → fieldParameters fs ⊆ scope.typeParams
  | [], fs, h                       => by
    rw [fieldsOf] at h
    exact Except.ok.inj h ▸ List.nil_subset _
  | ⟨names, e, tag⟩ :: rest, fs, h => by
    rw [fieldsOf] at h
    obtain ⟨t, ht, h⟩ := answer_bind_eq_ok.mp h
    obtain ⟨us, hus, h⟩ := answer_bind_eq_ok.mp h
    obtain rfl := Except.ok.inj h
    rw [fieldParameters_eq_flatMap, List.flatMap_append, ← fieldParameters_eq_flatMap,
      ← fieldParameters_eq_flatMap]
    exact append_subset.mpr
      ⟨List.Subset.trans (fieldParameters_fields names t tag) (typeOf_parameters e ht),
        fieldsOf_parameters rest hus⟩

theorem elemsOf_parameters : (es : List InterfaceElem) →
    {elems : List MethodSpec × List GoType} → (scope.elemsOf es).answer packages = .ok elems →
    methodParameters elems.1 ⊆ scope.typeParams ∧ typeParameters elems.2 ⊆ scope.typeParams
  | [], elems, h                     => by
    rw [elemsOf] at h
    exact Except.ok.inj h ▸ ⟨List.nil_subset _, List.nil_subset _⟩
  | .method _ signature :: rest, elems, h => by
    rw [elemsOf] at h
    obtain ⟨s, hs, h⟩ := answer_bind_eq_ok.mp h
    obtain ⟨⟨ms, es⟩, hes, h⟩ := answer_bind_eq_ok.mp h
    obtain rfl := Except.ok.inj h
    obtain ⟨hms, hes⟩ := elemsOf_parameters rest hes
    exact ⟨append_subset.mpr ⟨signatureOf_parameters signature hs, hms⟩, hes⟩
  | .embed terms :: rest, elems, h        => by
    rw [elemsOf] at h
    obtain ⟨ts, hts, h⟩ := answer_bind_eq_ok.mp h
    obtain ⟨⟨ms, es⟩, hes, h⟩ := answer_bind_eq_ok.mp h
    obtain rfl := Except.ok.inj h
    obtain ⟨hms, hes⟩ := elemsOf_parameters rest hes
    refine ⟨hms, append_subset.mpr ⟨?_, hes⟩⟩
    exact parameters_typeOfTerms ts ▸ termsOf_parameters terms hts

theorem termsOf_parameters : (es : List UnionTerm) → {ts : List Term} →
    (scope.termsOf es).answer packages = .ok ts → termParameters ts ⊆ scope.typeParams
  | [], ts, h                => by
    rw [termsOf] at h
    exact Except.ok.inj h ▸ List.nil_subset _
  | ⟨_, e⟩ :: rest, ts, h => by
    rw [termsOf] at h
    obtain ⟨t, ht, h⟩ := answer_bind_eq_ok.mp h
    obtain ⟨us, hus, h⟩ := answer_bind_eq_ok.mp h
    obtain rfl := Except.ok.inj h
    exact append_subset.mpr ⟨typeOf_parameters e ht, termsOf_parameters rest hus⟩

end

end Scope

end GoMocks
