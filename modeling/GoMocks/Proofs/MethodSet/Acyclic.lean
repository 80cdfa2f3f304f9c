import GoMocks.Proofs.MethodSet.Keys
import GoMocks.Proofs.MethodSet.Walk

/-!
# Method sets — walks that end

A walk follows each declaration once where no declaration leads back to itself, and each name once
in any case. So it needs no more levels than there are declarations, or names that it can reach.

* `Acyclic`, `Resolves`: no declaration leads back to itself, and all names that are reached have
  definitions.
* `methodSetWithin_succeeds`: then a walk with more levels than declarations succeeds.
* `methodSetWithin_eq`: among finitely many names, walks with enough levels have one outcome.
* `methodSetWithin_failure`: such a walk fails where it comes to a name again or to one without a
  definition.
* `not_cyclic_of_acc`, `acc_of_leadsOn`: where every way ends, nothing leads back to itself, and
  every way ends among items that lead to later ones only.
-/

namespace GoMocks

open Relation (ReflTransGen TransGen)

variable {packages : String → Option SourcePackage} {n m m' : NamedType} {t : GoType}

/-! ### Ways that end -/

section

variable {α : Type} {r : α → α → Prop} {a : α}

/-- Where every way ends, nothing leads back to itself. -/
theorem not_cyclic_of_acc (hacc : Acc (fun b a => r a b) a) :
    ∀ b, ReflTransGen r a b → ¬ TransGen r b b := by
  induction hacc with
  | intro a _ ih =>
    intro b hb hcycle
    rcases ReflTransGen.cases_head_iff.mp hb with rfl | ⟨c, hc, hb⟩
    · obtain ⟨c, hc, hback⟩ := TransGen.head'_iff.mp hcycle
      exact ih c hc a hback hcycle
    · exact ih c hc b hb hcycle

/-- Each item leads to later ones only. -/
def LeadsOn (r : α → α → Prop) : List α → Prop
  | []        => True
  | a :: rest => (∀ b, r a b → b ∈ rest) ∧ LeadsOn r rest

/-- A list in which each item leads only to later ones is well founded, and closed under the
relation. -/
theorem acc_of_leadsOn {as : List α} (h : LeadsOn r as) :
    ∀ a ∈ as, Acc (fun b a => r a b) a ∧ ∀ b, ReflTransGen r a b → b ∈ as := by
  induction as with
  | nil => exact nofun
  | cons a rest ih =>
    obtain ⟨hlater, hrest⟩ := h
    have hacc : Acc (fun b a => r a b) a := ⟨a, fun b hb => (ih hrest b (hlater b hb)).1⟩
    refine List.forall_mem_cons.mpr ⟨⟨hacc, fun b hb => ?_⟩, fun c hc =>
      ⟨(ih hrest c hc).1, fun b hb => .tail a ((ih hrest c hc).2 b hb)⟩⟩
    rcases ReflTransGen.cases_head_iff.mp hb with rfl | ⟨c, hc, hb⟩
    · exact .head rest
    · exact .tail a ((ih hrest c (hlater c hc)).2 b hb)

end

/-! ### Names that lead on -/

/-- Among the types that a name reaches, an instance of one declaration leads to one of the
other. -/
def DeclarationLeadsTo (packages : String → Option SourcePackage) (n : NamedType)
    (d e : Option String × String) : Prop :=
  ∃ m m' : NamedType, m.key = d ∧ m'.key = e ∧ Reaches packages (.named n) (.named m) ∧
    TransGen (LeadsTo packages) (.named m) (.named m')

/-- Among the types that a name reaches, no declaration leads back to itself. -/
def Acyclic (packages : String → Option SourcePackage) (n : NamedType) : Prop :=
  ∀ d, ¬ TransGen (DeclarationLeadsTo packages n) d d

/-- All names that a name reaches have definitions, the predeclared ones aside. -/
def Resolves (packages : String → Option SourcePackage) (n : NamedType) : Prop :=
  ∀ m path, m.package = some path → Reaches packages (.named n) (.named m) →
    ∃ t, m.definition.answer packages = .ok t

/-! ### Names that are being followed -/

/-- On its way from one name to another a walk came through some names, of different
declarations. -/
structure Follows (packages : String → Option SourcePackage) (n : NamedType)
    (chain : List NamedType) (m : NamedType) : Prop where
  reaches : Reaches packages (.named n) (.named m)
  reached : ∀ c ∈ chain, Reaches packages (.named n) (.named c)
  defined : ∀ c ∈ chain, ∃ t, c.definition.answer packages = .ok t
  leads   : ∀ c ∈ chain, TransGen (LeadsTo packages) (.named c) (.named m)
  nodup   : (chain.map NamedType.key).Nodup

namespace Follows

variable {chain : List NamedType}

theorem nil (h : Reaches packages (.named n) (.named m)) : Follows packages n [] m :=
  ⟨h, nofun, nofun, nofun, List.nodup_nil⟩

/-- Every name that was followed leads, by its declaration, to the name at the end. -/
theorem declarationLeadsTo (h : Follows packages n chain m) {c : NamedType} (hc : c ∈ chain) :
    DeclarationLeadsTo packages n c.key m.key :=
  ⟨c, m, rfl, rfl, h.reached c hc, h.leads c hc⟩

/-- A walk comes to no declaration a second time. -/
theorem key_not_mem (hacyclic : Acyclic packages n) (h : Follows packages n chain m) :
    m.key ∉ chain.map NamedType.key := by
  intro hm
  obtain ⟨c, hc, hkey⟩ := List.mem_map.mp hm
  exact hacyclic m.key (.single (hkey ▸ h.declarationLeadsTo hc))

/-- Without a cycle the name at the end was not followed before. -/
theorem text_not_mem (hacyclic : Acyclic packages n) (hplain : PlainNames packages)
    (h : Follows packages n chain m) (ht : m.definition.answer packages = .ok t) :
    m.text ∉ chain.map NamedType.text := by
  intro hm
  obtain ⟨c, hc, htext⟩ := List.mem_map.mp hm
  obtain ⟨u, hu⟩ := h.defined c hc
  exact h.key_not_mem hacyclic
    (List.mem_map.mpr ⟨c, hc, NamedType.key_eq_of_text_eq hplain hu ht htext⟩)

/-- The walk goes on to a name that the definition reaches. -/
theorem cons (hacyclic : Acyclic packages n) (h : Follows packages n chain m)
    (ht : m.definition.answer packages = .ok t) (hm' : Reaches packages t (.named m')) :
    Follows packages n (m :: chain) m' := by
  have hstep : LeadsTo packages (.named m) t := .definition ht
  have hnext : TransGen (LeadsTo packages) (.named m) (.named m') := .head' hstep hm'
  exact
    { reaches := (h.reaches.tail hstep).trans hm'
      reached := List.forall_mem_cons.mpr ⟨h.reaches, h.reached⟩
      defined := List.forall_mem_cons.mpr ⟨⟨t, ht⟩, h.defined⟩
      leads   := List.forall_mem_cons.mpr ⟨hnext, fun c hc => (h.leads c hc).trans hnext⟩
      nodup   := List.nodup_cons.mpr ⟨h.key_not_mem hacyclic, h.nodup⟩ }

/-- A walk comes through no more names than there are declarations. -/
theorem length_le {paths : List String} (hpaths : ∀ path, packages path ≠ none → path ∈ paths)
    (h : Follows packages n chain m) : chain.length ≤ (declaredKeys packages paths).length := by
  rw [← List.length_map NamedType.key]
  refine h.nodup.length_le_of_subset fun d hd => ?_
  obtain ⟨c, hc, rfl⟩ := List.mem_map.mp hd
  obtain ⟨u, hu⟩ := h.defined c hc
  exact NamedType.key_mem_declaredKeys hpaths hu

end Follows

/-- A walk with enough levels for the declarations that are not being followed succeeds. -/
theorem methodSetWithin_succeeds {paths : List String} {path : String}
    (hpaths : ∀ path, packages path ≠ none → path ∈ paths) (hplain : PlainNames packages)
    (hresolves : Resolves packages n) (hacyclic : Acyclic packages n) {levels : Nat}
    {chain : List NamedType} (hm : m.package = some path) (h : Follows packages n chain m)
    (hlevels : (declaredKeys packages paths).length < levels + chain.length) :
    ∃ set, (m.methodSetWithin levels (chain.map NamedType.text)).answer packages = .ok set := by
  induction levels generalizing chain m path with
  | zero =>
    -- without a level left the walk would have come through more declarations than there are
    exact absurd (h.length_le hpaths) (by omega)
  | succ levels ih =>
    obtain ⟨t, ht⟩ := hresolves m path hm h.reaches
    obtain ⟨set, hset⟩ := methodSetBy_succeeds (t := t)
      (f := NamedType.methodSetWithin levels (m.text :: chain.map NamedType.text))
      fun m' path' hm' hreaches =>
        ih hm' (h.cons hacyclic ht hreaches)
          (by rw [List.length_cons]; omega)
    exact ⟨set, NamedType.methodSetWithin_succ_eq_ok.mpr
      ⟨h.text_not_mem hacyclic hplain ht, t, ht, hset⟩⟩

/-! ### Names that lead back to themselves -/

/-- Among finitely many names, walks with a level for each name that is not being followed have one
outcome. -/
theorem methodSetWithin_eq {reached : List NamedType}
    (hreached : ∀ m, Reaches packages (.named n) (.named m) → m ∈ reached)
    {levels levels' : Nat} {followed : List String} (hnodup : followed.Nodup)
    (hsub : followed ⊆ reached.map NamedType.text)
    (hlevels : reached.length < levels + followed.length)
    (hlevels' : reached.length < levels' + followed.length)
    (hm : Reaches packages (.named n) (.named m)) :
    (m.methodSetWithin levels followed).answer packages =
      (m.methodSetWithin levels' followed).answer packages := by
  have hlength : followed.length ≤ reached.length := by
    simpa using hnodup.length_le_of_subset hsub
  induction levels generalizing levels' followed m with
  | zero => omega
  | succ levels ih =>
    obtain ⟨levels', rfl⟩ := Nat.exists_eq_add_one_of_ne_zero (n := levels') (by omega)
    by_cases hmem : m.text ∈ followed
    · rw [NamedType.answer_of_mem hmem, NamedType.answer_of_mem hmem]
    · rw [NamedType.answer_of_not_mem hmem, NamedType.answer_of_not_mem hmem]
      cases ht : m.definition.answer packages with
      | error e => rfl
      | ok t =>
        -- the name is followed now, and all that are followed stay among those that are reached
        refine methodSetBy_congr fun m' _ _ hm' => ?_
        have hreaches := (hm.tail (.definition ht)).trans hm'
        have hsub' : m.text :: followed ⊆ reached.map NamedType.text :=
          List.cons_subset.mpr ⟨List.mem_map_of_mem (hreached m hm), hsub⟩
        have hnodup' := List.nodup_cons.mpr ⟨hmem, hnodup⟩
        exact ih hnodup' hsub' (by rw [List.length_cons]; omega) (by rw [List.length_cons]; omega)
          hreaches (by simpa using hnodup'.length_le_of_subset hsub')

/-- A walk fails at a name that it has come to again, or that has no definition. -/
def FailsAt (packages : String → Option SourcePackage) (n : NamedType) (e : Error) : Prop :=
  ∃ m : NamedType, Reaches packages (.named n) (.named m) ∧
    (e = .unsupportedType m.text .embedsItself ∨ m.definition.answer packages = .error e)

/-- A walk with a level for each name that is not being followed does not run out of levels. -/
theorem methodSetWithin_failure {reached : List NamedType}
    (hreached : ∀ m, Reaches packages (.named n) (.named m) → m ∈ reached)
    {levels : Nat} {followed : List String} (hnodup : followed.Nodup)
    (hsub : followed ⊆ reached.map NamedType.text)
    (hlevels : reached.length < levels + followed.length)
    (hm : Reaches packages (.named n) (.named m)) {e : Error}
    (h : (m.methodSetWithin levels followed).answer packages = .error e) :
    FailsAt packages n e := by
  have hlength : followed.length ≤ reached.length := by
    simpa using hnodup.length_le_of_subset hsub
  induction levels generalizing followed m e with
  | zero => omega
  | succ levels ih =>
    by_cases hmem : m.text ∈ followed
    · rw [NamedType.answer_of_mem hmem] at h
      exact ⟨m, hm, .inl (Except.error.inj h).symm⟩
    · rw [NamedType.answer_of_not_mem hmem] at h
      cases ht : m.definition.answer packages with
      | error e' =>
        rw [ht] at h
        obtain rfl : e' = e := Except.error.inj h
        exact ⟨m, hm, .inr ht⟩
      | ok t =>
        rw [ht] at h
        -- the name is followed now, and all that are followed stay among those that are reached
        refine methodSetBy_failure (P := FailsAt packages n) (fun m' _ _ hm' e' he' => ?_) h
        have hreaches := (hm.tail (.definition ht)).trans hm'
        have hsub' : m.text :: followed ⊆ reached.map NamedType.text :=
          List.cons_subset.mpr ⟨List.mem_map_of_mem (hreached m hm), hsub⟩
        have hnodup' := List.nodup_cons.mpr ⟨hmem, hnodup⟩
        exact ih hnodup' hsub' (by rw [List.length_cons]; omega) hreaches he'
          (by simpa using hnodup'.length_le_of_subset hsub')

/-! ### Listed types -/

/-- Types that every step stays among are all that is reached. -/
theorem Reaches.mem_of_closed {types : List GoType} {u : GoType}
    (hclosed : ∀ t ∈ types, ∀ u ∈ t.steps packages, u ∈ types) (ht : t ∈ types)
    (h : Reaches packages t u) : u ∈ types := by
  induction h with
  | refl => exact ht
  | tail _ hstep ih => exact hclosed _ ih _ (leadsTo_iff.mp hstep)

/-- Does every step lead to types that are listed further on? -/
def goesOn (packages : String → Option SourcePackage) : List GoType → Bool
  | []        => true
  | t :: rest => (t.steps packages).all (· ∈ rest) && goesOn packages rest

/-- The test is sound: each type leads only to later ones. -/
theorem leadsOn_of_goesOn {types : List GoType} (h : goesOn packages types = true) :
    LeadsOn (LeadsTo packages) types := by
  induction types with
  | nil => trivial
  | cons t rest ih =>
    rw [goesOn, Bool.and_eq_true, List.all_eq_true] at h
    exact ⟨fun u hu => of_decide_eq_true (h.1 u (leadsTo_iff.mp hu)), ih h.2⟩

/-- Types that pass the test are well founded, and lead nowhere else. -/
theorem acc_of_goesOn {types : List GoType} (h : goesOn packages types = true) :
    ∀ t ∈ types, Acc (fun u t => LeadsTo packages t u) t ∧
      ∀ u, Reaches packages t u → u ∈ types :=
  acc_of_leadsOn (leadsOn_of_goesOn h)

/-- Where each declaration is reached as one type only, and each type leads to later ones, there is
no cycle. -/
theorem acyclic_of_goesOn {types : List GoType} (hgoes : goesOn packages types = true)
    (hn : .named n ∈ types)
    (hsingle : ∀ t ∈ types, ∀ u ∈ types, t.key? ≠ none → t.key? = u.key? → t = u) :
    Acyclic packages n := by
  obtain ⟨hacc, hmem⟩ := acc_of_goesOn hgoes _ hn
  have hname : ∀ m m' : NamedType, Reaches packages (.named n) (.named m) →
      Reaches packages (.named n) (.named m') → m.key = m'.key → m = m' := fun m m' hm hm' hkey =>
    GoType.named.inj
      (hsingle _ (hmem _ hm) _ (hmem _ hm') (Option.some_ne_none _) (congrArg some hkey))
  -- ways between declarations can be joined, as each declaration is met as one type only
  have hpath : ∀ {d e}, TransGen (DeclarationLeadsTo packages n) d e →
      DeclarationLeadsTo packages n d e := by
    intro d e h
    induction h with
    | single h => exact h
    | tail _ hstep ih =>
      obtain ⟨m, m₁, hm, hm₁, hreach, hway⟩ := ih
      obtain ⟨m₂, m', hm₂, hm', hreach', hway'⟩ := hstep
      obtain rfl := hname m₁ m₂ (hreach.trans hway.to_reflTransGen) hreach' (hm₁.trans hm₂.symm)
      exact ⟨m, m', hm, hm', hreach, hway.trans hway'⟩
  intro d hd
  obtain ⟨m, m', hm, hm', hreach, hway⟩ := hpath hd
  obtain rfl := hname m m' hreach (hreach.trans hway.to_reflTransGen) (hm.trans hm'.symm)
  exact not_cyclic_of_acc hacc _ hreach hway

end GoMocks
