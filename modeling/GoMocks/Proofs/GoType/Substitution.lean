import GoMocks.GoType.Substitution
import Mathlib

/-!
# Go types — laws of substitution

* `TypeArguments.image`: what a parameter stands for, or the parameter itself.
* `GoType.substitute_nil`: where no parameter stands for anything, a type stays what it is.
* `GoType.substitute_substitute`: one substitution after another is one of all parameters at once.
* `GoType.parameters_substitute`: the parameters of a type that was substituted in are those of the
  images of its parameters.
* `TypeArguments.image_ofNames_map`, `exists_mem_image_ofNames`: what the parameters of a
  declaration stand for.
-/

namespace GoMocks

namespace TypeArguments

variable {σ : TypeArguments} {names : List String} {arguments : List GoType} {x : String}

@[simp]
theorem ofNames_nil (names : List String) : ofNames names [] = [] := by
  rw [ofNames, List.zip_nil_right, List.reverse_nil]

/-- What a parameter stands for, or the parameter itself. -/
def image (σ : TypeArguments) (name : String) : GoType :=
  (σ.lookup name).getD (.parameter name)

/-- Changing the arguments changes what the parameters stand for. -/
theorem ofNames_map (names : List String) (f : GoType → GoType) (arguments : List GoType) :
    ofNames names (arguments.map f) = (ofNames names arguments).map fun e => (e.1, f e.2) := by
  rw [ofNames, ofNames, List.map_reverse, List.zip_map_right]
  rfl

/-- Looking up in changed arguments changes what is found. -/
theorem lookup_map (f : GoType → GoType) (σ : TypeArguments) (x : String) :
    (σ.map fun e => (e.1, f e.2)).lookup x = (σ.lookup x).map f := by
  induction σ with
  | nil => rfl
  | cons e rest ih =>
    rw [List.map_cons, List.lookup_cons, List.lookup_cons, ih]
    cases x == e.1 <;> rfl

/-- A parameter that is assigned a type is found. -/
theorem exists_lookup_of_mem (h : x ∈ σ.map Prod.fst) : ∃ t, σ.lookup x = some t := by
  cases hl : σ.lookup x with
  | some t => exact ⟨t, rfl⟩
  | none =>
    obtain ⟨e, he, rfl⟩ := List.mem_map.mp h
    exact absurd (List.lookup_eq_none_iff.mp hl e he) (by simp)

/-- With enough arguments every parameter is assigned one. -/
theorem map_fst_ofNames (h : names.length ≤ arguments.length) :
    (ofNames names arguments).map Prod.fst = names.reverse := by
  rw [ofNames, List.map_reverse, List.map_fst_zip h]

/-- Each parameter stands for an argument, where there are as many of them. -/
theorem exists_lookup_ofNames (h : names.length ≤ arguments.length) (hx : x ∈ names) :
    ∃ t ∈ arguments, (ofNames names arguments).lookup x = some t := by
  obtain ⟨t, ht⟩ := exists_lookup_of_mem (σ := ofNames names arguments)
    (by rwa [map_fst_ofNames h, List.mem_reverse])
  have hmem : (x, t) ∈ ofNames names arguments := by
    obtain ⟨_, _, hσ, -⟩ := List.lookup_eq_some_iff.mp ht
    rw [hσ]
    simp
  rw [ofNames, List.mem_reverse] at hmem
  exact ⟨t, (List.of_mem_zip hmem).2, ht⟩

/-- With enough arguments a parameter stands for one of them. -/
theorem exists_mem_image_ofNames (h : names.length ≤ arguments.length) (hx : x ∈ names) :
    (ofNames names arguments).image x ∈ arguments := by
  obtain ⟨t, ht, hl⟩ := exists_lookup_ofNames h hx
  rwa [image, hl]

/-- The images of changed arguments are the changed images. -/
theorem image_ofNames_map (h : names.length ≤ arguments.length) (hx : x ∈ names)
    (f : GoType → GoType) :
    (ofNames names (arguments.map f)).image x = f ((ofNames names arguments).image x) := by
  obtain ⟨t, -, hl⟩ := exists_lookup_ofNames h hx
  rw [image, image, ofNames_map, lookup_map, hl]
  rfl

/-- Parameters that are their own arguments stand for themselves. -/
theorem image_ofNames_parameter (hx : x ∈ names) :
    (ofNames names (names.map .parameter)).image x = .parameter x := by
  obtain ⟨t, -, hl⟩ := exists_lookup_ofNames (List.length_map ..).ge hx
  rw [image, hl, Option.getD_some]
  obtain ⟨_, _, hσ, -⟩ := List.lookup_eq_some_iff.mp hl
  have hmem : (x, t) ∈ ofNames names (names.map .parameter) := by simp [hσ]
  rw [ofNames, List.mem_reverse, ← List.map_prod_left_eq_zip] at hmem
  obtain ⟨a, -, ha⟩ := List.mem_map.mp hmem
  obtain ⟨rfl, rfl⟩ := Prod.mk.inj ha
  rfl

end TypeArguments

/-! ### Parts of a type -/

/-- Types are substituted in one by one. -/
theorem substituteTypes_eq_map (σ : TypeArguments) :
    ∀ ts, substituteTypes σ ts = ts.map (·.substitute σ)
  | []      => by rw [substituteTypes, List.map_nil]
  | t :: ts => by rw [substituteTypes, substituteTypes_eq_map σ ts, List.map_cons]

theorem substituteMethods_eq_map (σ : TypeArguments) :
    ∀ ms, substituteMethods σ ms = ms.map fun m => ⟨m.name, m.signature.substitute σ⟩
  | []           => by rw [substituteMethods, List.map_nil]
  | ⟨_, _⟩ :: ms => by rw [substituteMethods, substituteMethods_eq_map σ ms, List.map_cons]

theorem typeParameters_eq_flatMap : ∀ ts, typeParameters ts = ts.flatMap GoType.parameters
  | []      => by rw [typeParameters, List.flatMap_nil]
  | t :: ts => by rw [typeParameters, typeParameters_eq_flatMap ts, List.flatMap_cons]

theorem valueParameters_eq_flatMap : ∀ vs, valueParameters vs = vs.flatMap (·.type.parameters)
  | []           => by rw [valueParameters, List.flatMap_nil]
  | ⟨_, _⟩ :: vs => by rw [valueParameters, valueParameters_eq_flatMap vs, List.flatMap_cons]

theorem fieldParameters_eq_flatMap : ∀ fs, fieldParameters fs = fs.flatMap (·.type.parameters)
  | []              => by rw [fieldParameters, List.flatMap_nil]
  | ⟨_, _, _⟩ :: fs => by rw [fieldParameters, fieldParameters_eq_flatMap fs, List.flatMap_cons]

theorem methodParameters_eq_flatMap :
    ∀ ms, methodParameters ms = ms.flatMap (·.signature.parameters)
  | []           => by rw [methodParameters, List.flatMap_nil]
  | ⟨_, _⟩ :: ms => by rw [methodParameters, methodParameters_eq_flatMap ms, List.flatMap_cons]

/-! ### No substitution -/

mutual

/-- Without arguments a type stays as it is. -/
@[simp]
theorem GoType.substitute_nil : (t : GoType) → t.substitute [] = t
  | .parameter _      => by rw [GoType.substitute, List.lookup_nil, Option.getD_none]
  | .basic _          => by rw [GoType.substitute]
  | .named n          => by rw [GoType.substitute, n.substitute_nil]
  | .pointer elem     => by rw [GoType.substitute, elem.substitute_nil]
  | .slice elem       => by rw [GoType.substitute, elem.substitute_nil]
  | .array _ elem     => by rw [GoType.substitute, elem.substitute_nil]
  | .map key value    => by rw [GoType.substitute, key.substitute_nil, value.substitute_nil]
  | .channel _ elem   => by rw [GoType.substitute, elem.substitute_nil]
  | .function s       => by rw [GoType.substitute, s.substitute_nil]
  | .struct fields    => by rw [GoType.substitute, substituteFields_nil fields]
  | .interface ms es  => by rw [GoType.substitute, substituteMethods_nil ms, substituteTypes_nil es]
  | .union terms      => by rw [GoType.substitute, substituteTerms_nil terms]

theorem substituteTypes_nil : (ts : List GoType) → substituteTypes [] ts = ts
  | []      => by rw [substituteTypes]
  | t :: ts => by rw [substituteTypes, t.substitute_nil, substituteTypes_nil ts]

theorem NamedType.substitute_nil : (n : NamedType) → n.substitute [] = n
  | ⟨_, _, arguments⟩ => by rw [NamedType.substitute, substituteTypes_nil arguments]

theorem Signature.substitute_nil : (s : Signature) → s.substitute [] = s
  | ⟨params, results, _⟩ => by
    rw [Signature.substitute, substituteValues_nil params, substituteValues_nil results]

theorem substituteValues_nil : (vs : List Value) → substituteValues [] vs = vs
  | []           => by rw [substituteValues]
  | ⟨_, t⟩ :: vs => by rw [substituteValues, t.substitute_nil, substituteValues_nil vs]

theorem substituteFields_nil : (fs : List Field) → substituteFields [] fs = fs
  | []              => by rw [substituteFields]
  | ⟨_, t, _⟩ :: fs => by rw [substituteFields, t.substitute_nil, substituteFields_nil fs]

theorem substituteMethods_nil : (ms : List MethodSpec) → substituteMethods [] ms = ms
  | []           => by rw [substituteMethods]
  | ⟨_, s⟩ :: ms => by rw [substituteMethods, s.substitute_nil, substituteMethods_nil ms]

theorem substituteTerms_nil : (ts : List Term) → substituteTerms [] ts = ts
  | []           => by rw [substituteTerms]
  | ⟨_, t⟩ :: ts => by rw [substituteTerms, t.substitute_nil, substituteTerms_nil ts]

end

/-! ### One substitution after another -/

variable {σ τ υ : TypeArguments}

open List (forall_mem_append)

mutual

/-- **One substitution after another is one of all parameters at once**, where it is for each
parameter of the type. -/
theorem GoType.substitute_substitute : (t : GoType) →
    (∀ x ∈ t.parameters, (σ.image x).substitute τ = υ.image x) →
    (t.substitute σ).substitute τ = t.substitute υ
  | .parameter x, h      => by
    rw [GoType.substitute, GoType.substitute]
    exact h x (.head _)
  | .basic _, _          => by rw [GoType.substitute, GoType.substitute, GoType.substitute]
  | .named n, h          => by
    rw [GoType.substitute, GoType.substitute, GoType.substitute, n.substitute_substitute h]
  | .pointer elem, h     => by
    rw [GoType.substitute, GoType.substitute, GoType.substitute, elem.substitute_substitute h]
  | .slice elem, h       => by
    rw [GoType.substitute, GoType.substitute, GoType.substitute, elem.substitute_substitute h]
  | .array _ elem, h     => by
    rw [GoType.substitute, GoType.substitute, GoType.substitute, elem.substitute_substitute h]
  | .map key value, h    => by
    obtain ⟨hkey, hvalue⟩ := forall_mem_append.mp h
    rw [GoType.substitute, GoType.substitute, GoType.substitute, key.substitute_substitute hkey,
      value.substitute_substitute hvalue]
  | .channel _ elem, h   => by
    rw [GoType.substitute, GoType.substitute, GoType.substitute, elem.substitute_substitute h]
  | .function s, h       => by
    rw [GoType.substitute, GoType.substitute, GoType.substitute, s.substitute_substitute h]
  | .struct fields, h    => by
    rw [GoType.substitute, GoType.substitute, GoType.substitute, substituteFields_fields fields h]
  | .interface ms es, h  => by
    obtain ⟨hms, hes⟩ := forall_mem_append.mp h
    rw [GoType.substitute, GoType.substitute, GoType.substitute, substituteMethods_methods ms hms,
      substituteTypes_types es hes]
  | .union terms, h      => by
    rw [GoType.substitute, GoType.substitute, GoType.substitute, substituteTerms_terms terms h]

theorem substituteTypes_types : (ts : List GoType) →
    (∀ x ∈ typeParameters ts, (σ.image x).substitute τ = υ.image x) →
    substituteTypes τ (substituteTypes σ ts) = substituteTypes υ ts
  | [], _      => by rw [substituteTypes, substituteTypes, substituteTypes]
  | t :: ts, h => by
    obtain ⟨ht, hts⟩ := forall_mem_append.mp h
    rw [substituteTypes, substituteTypes, substituteTypes, t.substitute_substitute ht,
      substituteTypes_types ts hts]

theorem NamedType.substitute_substitute : (n : NamedType) →
    (∀ x ∈ n.parameters, (σ.image x).substitute τ = υ.image x) →
    (n.substitute σ).substitute τ = n.substitute υ
  | ⟨_, _, arguments⟩, h => by
    rw [NamedType.substitute, NamedType.substitute, NamedType.substitute,
      substituteTypes_types arguments h]

theorem Signature.substitute_substitute : (s : Signature) →
    (∀ x ∈ s.parameters, (σ.image x).substitute τ = υ.image x) →
    (s.substitute σ).substitute τ = s.substitute υ
  | ⟨params, results, _⟩, h => by
    obtain ⟨hparams, hresults⟩ := forall_mem_append.mp h
    rw [Signature.substitute, Signature.substitute, Signature.substitute,
      substituteValues_values params hparams, substituteValues_values results hresults]

theorem substituteValues_values : (vs : List Value) →
    (∀ x ∈ valueParameters vs, (σ.image x).substitute τ = υ.image x) →
    substituteValues τ (substituteValues σ vs) = substituteValues υ vs
  | [], _           => by rw [substituteValues, substituteValues, substituteValues]
  | ⟨_, t⟩ :: vs, h => by
    obtain ⟨ht, hvs⟩ := forall_mem_append.mp h
    rw [substituteValues, substituteValues, substituteValues, t.substitute_substitute ht,
      substituteValues_values vs hvs]

theorem substituteFields_fields : (fs : List Field) →
    (∀ x ∈ fieldParameters fs, (σ.image x).substitute τ = υ.image x) →
    substituteFields τ (substituteFields σ fs) = substituteFields υ fs
  | [], _              => by rw [substituteFields, substituteFields, substituteFields]
  | ⟨_, t, _⟩ :: fs, h => by
    obtain ⟨ht, hfs⟩ := forall_mem_append.mp h
    rw [substituteFields, substituteFields, substituteFields, t.substitute_substitute ht,
      substituteFields_fields fs hfs]

theorem substituteMethods_methods : (ms : List MethodSpec) →
    (∀ x ∈ methodParameters ms, (σ.image x).substitute τ = υ.image x) →
    substituteMethods τ (substituteMethods σ ms) = substituteMethods υ ms
  | [], _           => by rw [substituteMethods, substituteMethods, substituteMethods]
  | ⟨_, s⟩ :: ms, h => by
    obtain ⟨hs, hms⟩ := forall_mem_append.mp h
    rw [substituteMethods, substituteMethods, substituteMethods, s.substitute_substitute hs,
      substituteMethods_methods ms hms]

theorem substituteTerms_terms : (ts : List Term) →
    (∀ x ∈ termParameters ts, (σ.image x).substitute τ = υ.image x) →
    substituteTerms τ (substituteTerms σ ts) = substituteTerms υ ts
  | [], _           => by rw [substituteTerms, substituteTerms, substituteTerms]
  | ⟨_, t⟩ :: ts, h => by
    obtain ⟨ht, hts⟩ := forall_mem_append.mp h
    rw [substituteTerms, substituteTerms, substituteTerms, t.substitute_substitute ht,
      substituteTerms_terms ts hts]

end

/-! ### The parameters that are left -/

/-- The parameters of what some parameters stand for. -/
def TypeArguments.imageParameters (σ : TypeArguments) (names : List String) : List String :=
  names.flatMap fun x => (σ.image x).parameters

theorem TypeArguments.imageParameters_append (σ : TypeArguments) (names names' : List String) :
    σ.imageParameters (names ++ names') = σ.imageParameters names ++ σ.imageParameters names' :=
  List.flatMap_append

/-- The parameters that are left where each one is given an argument are those of the arguments. -/
theorem TypeArguments.imageParameters_ofNames {names params : List String}
    {arguments : List GoType} (hnames : names ⊆ params)
    (hlength : params.length ≤ arguments.length) :
    (ofNames params arguments).imageParameters names ⊆ typeParameters arguments := by
  intro x hx
  obtain ⟨y, hy, hx⟩ := List.mem_flatMap.mp hx
  rw [typeParameters_eq_flatMap]
  exact List.mem_flatMap.mpr ⟨_, exists_mem_image_ofNames hlength (hnames hy), hx⟩

mutual

/-- **The parameters of a type that was substituted in** are those of what its parameters stand
for. -/
theorem GoType.parameters_substitute (σ : TypeArguments) :
    (t : GoType) → (t.substitute σ).parameters = σ.imageParameters t.parameters
  | .parameter x      => by
    rw [GoType.substitute, GoType.parameters, TypeArguments.imageParameters, List.flatMap_singleton]
    rfl
  | .basic _          => by rw [GoType.substitute]; rfl
  | .named n          => by
    rw [GoType.substitute, GoType.parameters, GoType.parameters, n.parameters_substitute]
  | .pointer elem     => by
    rw [GoType.substitute, GoType.parameters, GoType.parameters, elem.parameters_substitute]
  | .slice elem       => by
    rw [GoType.substitute, GoType.parameters, GoType.parameters, elem.parameters_substitute]
  | .array _ elem     => by
    rw [GoType.substitute, GoType.parameters, GoType.parameters, elem.parameters_substitute]
  | .map key value    => by
    rw [GoType.substitute, GoType.parameters, GoType.parameters, key.parameters_substitute,
      value.parameters_substitute, TypeArguments.imageParameters_append]
  | .channel _ elem   => by
    rw [GoType.substitute, GoType.parameters, GoType.parameters, elem.parameters_substitute]
  | .function s       => by
    rw [GoType.substitute, GoType.parameters, GoType.parameters, s.parameters_substitute]
  | .struct fields    => by
    rw [GoType.substitute, GoType.parameters, GoType.parameters, fieldParameters_substitute]
  | .interface ms es  => by
    rw [GoType.substitute, GoType.parameters, GoType.parameters, methodParameters_substitute,
      typeParameters_substitute, TypeArguments.imageParameters_append]
  | .union terms      => by
    rw [GoType.substitute, GoType.parameters, GoType.parameters, termParameters_substitute]

theorem typeParameters_substitute (σ : TypeArguments) :
    (ts : List GoType) → typeParameters (substituteTypes σ ts) =
      σ.imageParameters (typeParameters ts)
  | []      => by rw [substituteTypes]; rfl
  | t :: ts => by
    rw [substituteTypes, typeParameters, typeParameters, t.parameters_substitute,
      typeParameters_substitute σ ts, TypeArguments.imageParameters_append]

theorem NamedType.parameters_substitute (σ : TypeArguments) :
    (n : NamedType) → (n.substitute σ).parameters = σ.imageParameters n.parameters
  | ⟨_, _, arguments⟩ => by
    rw [NamedType.substitute, NamedType.parameters, NamedType.parameters,
      typeParameters_substitute σ arguments]

theorem Signature.parameters_substitute (σ : TypeArguments) :
    (s : Signature) → (s.substitute σ).parameters = σ.imageParameters s.parameters
  | ⟨params, results, _⟩ => by
    rw [Signature.substitute, Signature.parameters, Signature.parameters,
      valueParameters_substitute σ params, valueParameters_substitute σ results,
      TypeArguments.imageParameters_append]

theorem valueParameters_substitute (σ : TypeArguments) :
    (vs : List Value) → valueParameters (substituteValues σ vs) =
      σ.imageParameters (valueParameters vs)
  | []           => by rw [substituteValues]; rfl
  | ⟨_, t⟩ :: vs => by
    rw [substituteValues, valueParameters, valueParameters, t.parameters_substitute,
      valueParameters_substitute σ vs, TypeArguments.imageParameters_append]

theorem fieldParameters_substitute (σ : TypeArguments) :
    (fs : List Field) → fieldParameters (substituteFields σ fs) =
      σ.imageParameters (fieldParameters fs)
  | []              => by rw [substituteFields]; rfl
  | ⟨_, t, _⟩ :: fs => by
    rw [substituteFields, fieldParameters, fieldParameters, t.parameters_substitute,
      fieldParameters_substitute σ fs, TypeArguments.imageParameters_append]

theorem methodParameters_substitute (σ : TypeArguments) :
    (ms : List MethodSpec) → methodParameters (substituteMethods σ ms) =
      σ.imageParameters (methodParameters ms)
  | []           => by rw [substituteMethods]; rfl
  | ⟨_, s⟩ :: ms => by
    rw [substituteMethods, methodParameters, methodParameters, s.parameters_substitute,
      methodParameters_substitute σ ms, TypeArguments.imageParameters_append]

theorem termParameters_substitute (σ : TypeArguments) :
    (ts : List Term) → termParameters (substituteTerms σ ts) =
      σ.imageParameters (termParameters ts)
  | []           => by rw [substituteTerms]; rfl
  | ⟨_, t⟩ :: ts => by
    rw [substituteTerms, termParameters, termParameters, t.parameters_substitute,
      termParameters_substitute σ ts, TypeArguments.imageParameters_append]

end

end GoMocks
