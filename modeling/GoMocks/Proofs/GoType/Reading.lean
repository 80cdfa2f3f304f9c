import GoMocks.Proofs.GoType.ReadBack
import GoMocks.Proofs.GoType.Spelling
import GoMocks.Proofs.GoType.WellFormed

/-!
# Go types — every spelling is read back

If identifiers tell packages apart, a text that spells a well-formed type is read as this type, but
for the names of parameters and results. So the text can spell no other one.

* `Reader.reads_type`: the reading of a spelling, by induction over the type.
* `GoType.unnamed_eq_of_spells`: two types with a spelling in common differ in names of parameters
  and results only.
-/

namespace GoMocks

open Resolver Filter

/-- The basic type that is written like a declared type of the package `unsafe`. -/
def NamedType.unsafePointer : NamedType :=
  ⟨some "unsafe", "Pointer", []⟩

/-- Packages go by identifiers, and a function tells the package behind each. -/
structure Legible (goesBy : String → String → Prop) (pathOf : String → String) : Prop where
  identifier : ∀ {path ident}, goesBy path ident → isIdentifier ident
  path       : ∀ {path ident}, goesBy path ident → pathOf ident = path

/-- What has to hold of every type in a type, for the type to be read back. -/
structure GoType.ReadableHere (t : GoType) : Prop where
  lexical  : t.LexicalHere
  shaped   : t.ShapedHere
  no_union : ∀ u ∈ t.elements, u.isUnion = false
  safe     : t ≠ .named .unsafePointer

namespace Reader

variable {goesBy : String → String → Prop} {pathOf : String → String} {x : String}
  {xs : List String}

/-! ### Names -/

theorem typeNamed_basic (kind : BasicKind) (h : kind ≠ .unsafePointer) :
    typeNamed none kind.name [] = .basic kind := by
  cases kind <;> first | exact absurd rfl h | rfl

theorem typeNamed_parameter {name : String} (h : GoType.predeclared? name = none) :
    typeNamed none name [] = .parameter name := by
  rw [typeNamed, h, Option.getD_none]

theorem typeNamed_predeclared {name : String} (h : name ∈ predeclaredInterfaces)
    (ts : List GoType) : typeNamed none name ts = .named ⟨none, name, ts⟩ := by
  cases ts with
  | cons t ts => rfl
  | nil =>
    simp only [predeclaredInterfaces, List.mem_cons, List.not_mem_nil, or_false] at h
    rcases h with rfl | rfl | rfl <;> rfl

theorem typeNamed_declared {n : NamedType} {path : String} (hp : n.package = some path)
    (h : n ≠ .unsafePointer) : typeNamed (some path) n.name n.arguments = .named n := by
  obtain ⟨package, name, ts⟩ := n
  cases hp
  rw [typeNamed.eq_def]
  split
  · simp_all [NamedType.unsafePointer]
  · contradiction
  · rfl

/-- A depth that is enough for the types in a type leaves one for the type. -/
theorem eventually_readType {t : GoType}
    (h : ∀ᶠ n in atTop, ReadsType (typeBy pathOf n (readType pathOf n)) x t) :
    ∀ᶠ n in atTop, ReadsType (readType pathOf n) x t := by
  obtain ⟨N, hN⟩ := eventually_atTop.mp h
  refine eventually_atTop.mpr ⟨N + 1, fun n hn => ?_⟩
  obtain ⟨m, rfl⟩ := Nat.exists_eq_add_of_le' (Nat.le_of_add_left_le hn)
  exact hN m (by omega)

/-- What can be embedded does not look like a name with a type behind it. -/
theorem not_labelledNext_of_embeddable (hl : Legible goesBy pathOf) {t : GoType}
    (hx : t.Spells goesBy x) (ht : t.isEmbeddable) (hlex : t.LexicalHere) {p : List Char}
    (hp : EndsType p) : labelledNext (x.toList ++ p) = false := by
  have hreference : t.isReference → labelledNext (x.toList ++ p) = false := by
    intro ht
    obtain ⟨ys, ⟨w, hw, rfl⟩ | ⟨ident, w, hident, rfl⟩⟩ :=
      GoType.cases_of_spells_reference (fun _ _ => hl.identifier) hx ht hlex
    · exact not_labelledNext_plain (.of_isIdentifier hw) hp
    · exact not_labelledNext_qualified (.of_isIdentifier hident) w p
  cases t with
  | pointer elem =>
    obtain ⟨y, -, rfl⟩ := hx
    exact not_labelledNext_pointer y p
  | _ => exact hreference ht

theorem reads_basic (hl : Legible goesBy pathOf) {kind : BasicKind}
    (hx : (GoType.basic kind).Spells goesBy x) :
    ∀ᶠ n in atTop, ReadsType (readType pathOf n) x (.basic kind) := by
  refine eventually_readType (.of_forall fun n => ?_)
  obtain ⟨rfl, ident, hident, rfl⟩ | ⟨hkind, rfl⟩ := GoType.cases_of_spells_basic hx
  · have h : ReadsType (typeBy pathOf n (readType pathOf n)) (ident ++ "." ++ "Pointer" ++ _) _ :=
      readsType_qualified (hl.identifier hident) (by decide) .nil (Nat.zero_le _)
    rw [hl.path hident] at h
    simpa [bracketed_nil, typeNamed] using h
  · have h : ReadsType (typeBy pathOf n (readType pathOf n)) (kind.name ++ _) _ :=
      readsType_plain kind.isIdentifier_name .nil (Nat.zero_le _)
    simpa only [bracketed_nil, String.append_empty, typeNamed_basic kind hkind] using h

theorem reads_parameter {name : String} (h : (GoType.parameter name).ReadableHere) :
    ∀ᶠ n in atTop, ReadsType (readType pathOf n) name (.parameter name) := by
  refine eventually_readType (.of_forall fun n => ?_)
  have hplain : ReadsType (typeBy pathOf n (readType pathOf n)) (name ++ _) _ :=
    readsType_plain h.lexical .nil (Nat.zero_le _)
  simpa only [bracketed_nil, String.append_empty, typeNamed_parameter h.shaped] using hplain

/-- A declared type is read, if its arguments are. -/
theorem reads_named (hl : Legible goesBy pathOf) {package : Option String} {name base : String}
    {ts us : List GoType} (hbase : SpellsBase goesBy package name base)
    (h : (GoType.named ⟨package, name, ts⟩).ReadableHere) (hnil : us = [] → ts = [])
    (hus : ∀ᶠ n in atTop, List.Forall₂ (ReadsType (readType pathOf n)) xs us) :
    ∀ᶠ n in atTop,
      ReadsType (readType pathOf n) (base ++ bracketed xs) (.named ⟨package, name, us⟩) := by
  refine eventually_readType ?_
  filter_upwards [hus, eventually_ge_atTop xs.length] with n hus hn
  cases package with
  | none =>
    obtain rfl : base = name := hbase
    rw [← typeNamed_predeclared (h.shaped rfl)]
    exact readsType_plain h.lexical hus hn
  | some path =>
    obtain ⟨ident, hident, rfl⟩ := hbase
    -- the basic type would be read, if the arguments were lost
    have hsafe : (⟨some path, name, us⟩ : NamedType) ≠ .unsafePointer := by
      intro heq
      obtain ⟨hp, hname, rfl⟩ := (NamedType.mk.injEq ..).mp heq
      exact h.safe (by rw [hp, hname, hnil rfl, NamedType.unsafePointer])
    have hread : ReadsType (typeBy pathOf n (readType pathOf n)) _ _ :=
      readsType_qualified (hl.identifier hident) h.lexical hus hn
    rwa [hl.path hident, typeNamed_declared rfl hsafe] at hread

/-- The text of a length is read back. -/
theorem run_length (hl : Legible goesBy pathOf) {length : ArrayLength} {l : String} {elem : GoType}
    (hlength : length.Spells goesBy l) (h : (GoType.array length elem).ReadableHere) :
    (∀ q, (arrayLength pathOf).run (l.toList ++ ']' :: q) = some (length, ']' :: q)) ∧
      ∀ q, ¬ [']'] <+: l.toList ++ q := by
  have hword : ∀ {w : String} (q : List Char), IsWord w → ¬ [']'] <+: w.toList ++ q := by
    intro w q hw hprefix
    obtain ⟨c, cs, hcs, hc⟩ := hw.head_not_sign
    obtain rfl : ']' = c := by simpa [hcs] using hprefix
    exact hc (by decide)
  cases length with
  | literal text =>
    obtain rfl : l = text := hlength
    have hl : IsWord l := GoSource.IsInteger.isWord h.lexical
    exact ⟨run_arrayLength_literal hl, fun q => hword q hl⟩
  | constant path name =>
    obtain ⟨ident, hident, rfl⟩ := hlength
    have hi : IsWord ident := .of_isIdentifier (hl.identifier hident)
    refine ⟨fun q => ?_, fun q => ?_⟩
    · rw [run_arrayLength_constant hi (.of_isIdentifier h.lexical), hl.path hident]
    · simpa using hword (".".toList ++ (name.toList ++ q)) hi

/-! ### The reading of a spelling -/

theorem length_unnamedTypes (ts : List GoType) : (unnamedTypes ts).length = ts.length := by
  induction ts with
  | nil => rfl
  | cons t ts ih => simp [unnamedTypes, ih]

/-- The methods and the embedded types of an interface are told apart again. -/
theorem interfaceOf_append (methods : List MethodSpec) (embeds : List GoType) :
    interfaceOf (methods.map .inl ++ embeds.map .inr) = .interface methods embeds := by
  simp [interfaceOf, List.filterMap_append, List.filterMap_map, Function.comp_def]

/-- A type set with a tilde or several terms is no plain type. -/
theorem typeOfTerms_unnamed {terms : List Term} (h : (GoType.union terms).ShapedHere) :
    Scope.typeOfTerms (unnamedTerms terms) = .union (unnamedTerms terms) := by
  match terms, h with
  | [], h                    => exact absurd h (by simp [GoType.ShapedHere])
  | [⟨false, t⟩], h          => exact absurd h (by simp [GoType.ShapedHere])
  | [⟨true, t⟩], _           => rfl
  | ⟨a, _⟩ :: ⟨_, _⟩ :: _, _ => cases a <;> rfl

/-- A union has at least one term. -/
theorem ne_nil_of_spellTerms {terms : List Term} (hxs : SpellTerms goesBy terms xs)
    (h : (GoType.union terms).ShapedHere) : xs ≠ [] := by
  rintro rfl
  match terms, hxs with
  | [], _           => exact absurd h (by simp [GoType.ShapedHere])
  | ⟨_, _⟩ :: _, hxs =>
    obtain ⟨_, _, _, _, heq⟩ := hxs
    cases heq

/-- A plain type is the only term of the type set that is embedded. -/
theorem readsBefore_plain {type : Reader GoType} {t : GoType} {n : Nat} (h : ReadsType type x t)
    (hn : 1 ≤ n) : ReadsBefore EndsMember (member n type) x (.inr t) := by
  have hterm : ReadsBefore EndsType (term type) x ⟨false, t⟩ := by
    simpa [termText] using readsBefore_term false h
  have hembed := readsBefore_embed (.cons hterm .nil) (List.cons_ne_nil _ _) hn
    (by simpa using h.not_method)
  rwa [String.intercalate_singleton] at hembed

mutual

/-- **A spelling is read back.** With a bound that is large enough, the text is read as the type
without the names of its parameters and results. -/
theorem reads_type (hl : Legible goesBy pathOf) : (t : GoType) → {x : String} →
    t.Spells goesBy x → (∀ u ∈ t.parts, u.ReadableHere) → t.isUnion = false →
      ∀ᶠ n in atTop, ReadsType (readType pathOf n) x t.unnamed
  -- a type is read once the depth is that of its parts and one more, hence at all large depths
  | .basic kind, x, hx, _, _ => reads_basic hl hx
  | .parameter name, x, hx, ht, _ => by
    obtain rfl : x = name := hx
    exact reads_parameter (ht _ List.mem_cons_self)
  | .named ⟨package, name, ts⟩, x, hx, ht, _ => by
    obtain ⟨base, ys, hbase, hys, rfl⟩ := hx
    obtain ⟨hhere, hts⟩ := List.forall_mem_cons.mp ht
    refine reads_named hl hbase hhere (fun hnil => ?_) (reads_types hl ts hys hts hhere.no_union)
    simpa [hnil] using (length_unnamedTypes ts).symm
  | .pointer elem, x, hx, ht, _ => by
    obtain ⟨y, hy, rfl⟩ := hx
    obtain ⟨hhere, ht⟩ := List.forall_mem_cons.mp ht
    refine eventually_readType ?_
    filter_upwards [reads_type hl elem hy ht (hhere.no_union _ List.mem_cons_self)] with n h
    exact readsType_pointer h
  | .slice elem, x, hx, ht, _ => by
    obtain ⟨y, hy, rfl⟩ := hx
    obtain ⟨hhere, ht⟩ := List.forall_mem_cons.mp ht
    refine eventually_readType ?_
    filter_upwards [reads_type hl elem hy ht (hhere.no_union _ List.mem_cons_self)] with n h
    exact readsType_slice h
  | .array length elem, x, hx, ht, _ => by
    obtain ⟨l, y, hlength, hy, rfl⟩ := hx
    obtain ⟨hhere, ht⟩ := List.forall_mem_cons.mp ht
    obtain ⟨hrun, hclose⟩ := run_length hl hlength hhere
    refine eventually_readType ?_
    filter_upwards [reads_type hl elem hy ht (hhere.no_union _ List.mem_cons_self)] with n h
    exact readsType_array hrun hclose h
  | .map key value, x, hx, ht, _ => by
    obtain ⟨k, v, hk, hv, rfl⟩ := hx
    obtain ⟨hhere, ht⟩ := List.forall_mem_cons.mp ht
    obtain ⟨hkey, hvalue⟩ := List.forall_mem_append.mp ht
    refine eventually_readType ?_
    filter_upwards [reads_type hl key hk hkey (hhere.no_union _ (by simp [GoType.elements])),
      reads_type hl value hv hvalue (hhere.no_union _ (by simp [GoType.elements]))] with n hk hv
    exact readsType_map hk hv
  | .channel direction elem, x, hx, ht, _ => by
    obtain ⟨y, hy, rfl⟩ := hx
    obtain ⟨hhere, ht⟩ := List.forall_mem_cons.mp ht
    refine eventually_readType ?_
    filter_upwards [reads_type hl elem hy ht (hhere.no_union _ List.mem_cons_self)] with n h
    exact readsType_channel direction elem h
  | .function signature, x, hx, ht, _ => by
    obtain ⟨y, hy, rfl⟩ := hx
    obtain ⟨hhere, ht⟩ := List.forall_mem_cons.mp ht
    obtain ⟨ps, rs, rfl, h⟩ := reads_signature hl signature hy ht hhere.no_union hhere.shaped
    refine eventually_readType ?_
    filter_upwards [h] with n h
    exact readsType_function h
  | .struct fields, x, hx, ht, _ => by
    obtain ⟨ys, hys, rfl⟩ := hx
    obtain ⟨hhere, ht⟩ := List.forall_mem_cons.mp ht
    refine eventually_readType ?_
    filter_upwards [reads_fields hl fields hys ht hhere.no_union hhere.lexical hhere.shaped,
      eventually_ge_atTop ys.length] with n h hn
    exact readsType_struct h hn
  | .interface methods embeds, x, hx, ht, _ => by
    obtain ⟨ys, zs, hys, hzs, rfl⟩ := hx
    obtain ⟨hhere, ht⟩ := List.forall_mem_cons.mp ht
    obtain ⟨hmethods, hembeds⟩ := List.forall_mem_append.mp ht
    refine eventually_readType ?_
    filter_upwards [reads_methods hl methods hys hmethods hhere.no_union hhere.lexical hhere.shaped,
      reads_embeds hl embeds hzs hembeds, eventually_ge_atTop (ys ++ zs).length] with n hm he hn
    rw [GoType.unnamed, ← interfaceOf_append]
    exact readsType_interface (List.rel_append hm he) hn
  | .union terms, x, _, _, hunion => nomatch hunion

/-- Texts of types are read back. -/
theorem reads_types (hl : Legible goesBy pathOf) : (ts : List GoType) → {xs : List String} →
    SpellTypes goesBy ts xs → (∀ u ∈ typeParts ts, u.ReadableHere) →
      (∀ t ∈ ts, t.isUnion = false) →
        ∀ᶠ n in atTop, List.Forall₂ (ReadsType (readType pathOf n)) xs (unnamedTypes ts)
  | [], xs, hxs, _, _ => by
    obtain rfl := hxs
    exact .of_forall fun _ => .nil
  | t :: ts, xs, hxs, ht, hunion => by
    obtain ⟨y, ys, hy, hys, rfl⟩ := hxs
    obtain ⟨ht, hts⟩ := List.forall_mem_append.mp ht
    obtain ⟨hunion, hunions⟩ := List.forall_mem_cons.mp hunion
    filter_upwards [reads_type hl t hy ht hunion, reads_types hl ts hys hts hunions] with n h hs
    exact .cons h hs

/-- The text of a signature is read back. -/
theorem reads_signature (hl : Legible goesBy pathOf) : (s : Signature) → {x : String} →
    s.Spells goesBy x → (∀ u ∈ s.parts, u.ReadableHere) → (∀ t ∈ s.types, t.isUnion = false) →
      s.Shaped → ∃ ps rs, x = typesSignature ps rs s.variadic ∧
        ∀ᶠ n in atTop, ReadsBefore EndsType (signature n (readType pathOf n))
          (typesSignature ps rs s.variadic) s.unnamed
  | ⟨params, results, variadic⟩, x, hx, ht, hunion, hshaped => by
    obtain ⟨ps, rs, hps, hrs, rfl⟩ := hx
    obtain ⟨hparams, hresults⟩ := List.forall_mem_append.mp ht
    refine ⟨ps, rs, rfl, ?_⟩
    have hne : variadic → ps ≠ [] := by
      rintro hv rfl
      cases params with
      | nil => exact hshaped hv rfl
      | cons v vs =>
        obtain ⟨_, _⟩ := v
        obtain ⟨_, _, _, _, heq⟩ := hps
        exact nomatch heq
    have hunion : (∀ v ∈ params, v.type.isUnion = false) ∧
        ∀ v ∈ results, v.type.isUnion = false := by
      simpa [Signature.types, or_imp, forall_and] using hunion
    filter_upwards [reads_values hl params hps hparams hunion.1,
      reads_values hl results hrs hresults hunion.2, eventually_ge_atTop ps.length,
      eventually_ge_atTop rs.length] with n hp hr hn hm
    exact readsBefore_signature hp hr hn hm hne

theorem reads_values (hl : Legible goesBy pathOf) : (vs : List Value) → {xs : List String} →
    SpellValues goesBy vs xs → (∀ u ∈ valueParts vs, u.ReadableHere) →
      (∀ v ∈ vs, v.type.isUnion = false) →
        ∀ᶠ n in atTop, List.Forall₂ (ReadsValue (readType pathOf n)) xs (unnamedValues vs)
  | [], xs, hxs, _, _ => by
    obtain rfl := hxs
    exact .of_forall fun _ => .nil
  | ⟨name, t⟩ :: vs, xs, hxs, ht, hunion => by
    obtain ⟨y, ys, hy, hys, rfl⟩ := hxs
    obtain ⟨ht, hts⟩ := List.forall_mem_append.mp ht
    obtain ⟨hunion, hunions⟩ := List.forall_mem_cons.mp hunion
    filter_upwards [reads_type hl t hy ht hunion, reads_values hl vs hys hts hunions] with n h hs
    exact .cons ⟨rfl, h⟩ hs

theorem reads_fields (hl : Legible goesBy pathOf) : (fs : List Field) → {xs : List String} →
    SpellFields goesBy fs xs → (∀ u ∈ fieldParts fs, u.ReadableHere) →
      (∀ t ∈ fs.map Field.type, t.isUnion = false) → (GoType.struct fs).LexicalHere →
        (GoType.struct fs).ShapedHere →
          ∀ᶠ n in atTop, List.Forall₂ (ReadsBefore EndsMember (field (readType pathOf n))) xs
            (unnamedFields fs)
  | [], xs, hxs, _, _, _, _ => by
    obtain rfl := hxs
    exact .of_forall fun _ => .nil
  | ⟨name, t, tag⟩ :: fs, xs, hxs, ht, hunion, hlex, hshaped => by
    obtain ⟨y, ys, hy, hys, rfl⟩ := hxs
    obtain ⟨ht, hts⟩ := List.forall_mem_append.mp ht
    obtain ⟨hunion, hunions⟩ := List.forall_mem_cons.mp hunion
    obtain ⟨⟨hname, htag⟩, hlex⟩ := List.forall_mem_cons.mp hlex
    obtain ⟨hembed, hshaped⟩ := List.forall_mem_cons.mp hshaped
    have hhere : t.LexicalHere := (ht t (t.self_mem_parts)).lexical
    filter_upwards [reads_type hl t hy ht hunion,
      reads_fields hl fs hys hts hunions hlex hshaped] with n h hs
    refine .cons (readsBefore_field h (fun w hw => .of_isIdentifier (hname w hw)) htag ?_) hs
    exact fun hnone p hp => not_labelledNext_of_embeddable hl hy (hembed hnone) hhere hp

theorem reads_methods (hl : Legible goesBy pathOf) : (ms : List MethodSpec) →
    {xs : List String} → SpellMethods goesBy ms xs → (∀ u ∈ methodParts ms, u.ReadableHere) →
      (∀ t ∈ ms.flatMap fun m => m.signature.types, t.isUnion = false) →
        (∀ m ∈ ms, isIdentifier m.name) → (∀ m ∈ ms, m.signature.Shaped) →
          ∀ᶠ n in atTop, List.Forall₂ (ReadsBefore EndsMember (member n (readType pathOf n))) xs
            ((unnamedMethods ms).map .inl)
  | [], xs, hxs, _, _, _, _ => by
    obtain rfl := hxs
    exact .of_forall fun _ => .nil
  | ⟨name, s⟩ :: ms, xs, hxs, ht, hunion, hlex, hshaped => by
    obtain ⟨y, ys, hy, hys, rfl⟩ := hxs
    obtain ⟨ht, hts⟩ := List.forall_mem_append.mp ht
    obtain ⟨hunion, hunions⟩ := List.forall_mem_append.mp hunion
    obtain ⟨hname, hlex⟩ := List.forall_mem_cons.mp hlex
    obtain ⟨hshape, hshaped⟩ := List.forall_mem_cons.mp hshaped
    obtain ⟨ps, rs, rfl, h⟩ := reads_signature hl s hy ht hunion hshape
    filter_upwards [h, reads_methods hl ms hys hts hunions hlex hshaped] with n h hs
    exact .cons (readsBefore_method hname h) hs

theorem reads_embeds (hl : Legible goesBy pathOf) : (ts : List GoType) → {xs : List String} →
    SpellTypes goesBy ts xs → (∀ u ∈ typeParts ts, u.ReadableHere) →
      ∀ᶠ n in atTop, List.Forall₂ (ReadsBefore EndsMember (member n (readType pathOf n))) xs
        ((unnamedTypes ts).map .inr)
  | [], xs, hxs, _ => by
    obtain rfl := hxs
    exact .of_forall fun _ => .nil
  | t :: ts, xs, hxs, ht => by
    obtain ⟨y, ys, hy, hys, rfl⟩ := hxs
    obtain ⟨ht, hts⟩ := List.forall_mem_append.mp ht
    have hs := reads_embeds hl ts hys hts
    -- a type set that is embedded is read term by term, any other type as the only term
    cases t with
    | union terms =>
      obtain ⟨zs, hzs, rfl⟩ := hy
      obtain ⟨hhere, ht⟩ := List.forall_mem_cons.mp ht
      filter_upwards [hs, reads_terms hl terms hzs ht hhere.no_union,
        eventually_ge_atTop zs.length] with n hs h hn
      refine .cons ?_ hs
      rw [GoType.unnamed, ← typeOfTerms_unnamed hhere.shaped]
      exact readsBefore_embed h.1 (ne_nil_of_spellTerms hzs hhere.shaped) hn h.2
    | _ =>
      filter_upwards [hs, reads_type hl _ hy ht rfl, eventually_ge_atTop 1] with n hs h hn
      exact .cons (readsBefore_plain h hn) hs

theorem reads_terms (hl : Legible goesBy pathOf) : (ts : List Term) → {xs : List String} →
    SpellTerms goesBy ts xs → (∀ u ∈ termParts ts, u.ReadableHere) →
      (∀ t ∈ ts.map Term.type, t.isUnion = false) →
        ∀ᶠ n in atTop,
          List.Forall₂ (ReadsBefore EndsType (term (readType pathOf n))) xs (unnamedTerms ts) ∧
            ∀ x ∈ xs, ∀ p, EndsType p → methodNext (x.toList ++ p) = false
  | [], xs, hxs, _, _ => by
    obtain rfl := hxs
    exact .of_forall fun _ => ⟨.nil, nofun⟩
  | ⟨tilde, t⟩ :: ts, xs, hxs, ht, hunion => by
    obtain ⟨y, ys, hy, hys, rfl⟩ := hxs
    obtain ⟨ht, hts⟩ := List.forall_mem_append.mp ht
    obtain ⟨hunion, hunions⟩ := List.forall_mem_cons.mp hunion
    filter_upwards [reads_type hl t hy ht hunion, reads_terms hl ts hys hts hunions] with n h hs
    exact ⟨.cons (readsBefore_term tilde h) hs.1,
      List.forall_mem_cons.mpr ⟨fun p => not_method_term tilde h, hs.2⟩⟩

end

end Reader

/-- **No text spells two types.** If packages go by identifiers that tell them apart, and a text
spells two types that Go can write, these types differ only in the names of parameters and results
of signatures; the declared type that is written like a basic one has to be left out. -/
theorem GoType.unnamed_eq_of_spells {goesBy : String → String → Prop} {pathOf : String → String}
    (hl : Legible goesBy pathOf) {s t : GoType} {x : String} (hs : s.Spells goesBy x)
    (ht : t.Spells goesBy x) (hws : s.WellFormed) (hwt : t.WellFormed)
    (hss : .named .unsafePointer ∉ s.parts) (hst : .named .unsafePointer ∉ t.parts) :
    s.unnamed = t.unnamed := by
  have hreads : ∀ {u : GoType}, u.Spells goesBy x → u.WellFormed →
      .named .unsafePointer ∉ u.parts →
        ∀ᶠ n in atTop, Reader.ReadsType (Reader.readType pathOf n) x u.unnamed := by
    intro u hx hw hsafe
    refine Reader.reads_type hl u hx (fun v hv => ?_) hw.no_union.1
    exact ⟨hw.lexical v hv, hw.shaped v hv, hw.no_union.2 v hv, fun heq => hsafe (heq ▸ hv)⟩
  -- some bound is large enough for both
  obtain ⟨n, hns, hnt⟩ := ((hreads hs hws hss).and (hreads ht hwt hst)).exists
  have hrun := (hns.run [] .nil).symm.trans (hnt.run [] .nil)
  exact congrArg Prod.fst (Option.some.inj hrun)

end GoMocks
