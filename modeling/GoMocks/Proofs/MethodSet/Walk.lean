import GoMocks.Proofs.MethodSet.Embedding
import GoMocks.Proofs.Scope

/-!
# Method sets — the walk

`methodSetWithin` walks through definitions and embeddings and keeps the names it is following. A
walk that comes to its end has met what a search in depth meets.

* `rel_methodSetBy`: what holds between the outcomes for names holds between those for types.
* `Explains`: a method set holds the methods that a search in depth meets first, and is marked when
  a type set is reachable.
* `explains_methodSetWithin`: every walk that succeeds explains its outcome.
* `methodSetWithin_of_le`: more levels and fewer names on the way change no success.
-/

namespace GoMocks

open NamedType (exists_package_of_definition)

variable {packages : String → Option SourcePackage} {f g : NamedType → Inquiry MethodSet}
  {t : GoType} {n : NamedType} {set : MethodSet}

namespace GoType

/-- Induction over the types that interface types embed. -/
theorem embed_induction {P : GoType → Prop} (name : ∀ n, P (.named n))
    (interface : ∀ methods embeds, (∀ t ∈ embeds, P t) → P (.interface methods embeds))
    (plain : ∀ t, t.IsPlain → P t) : ∀ t, P t
  | .named n => name n
  | .interface methods embeds =>
    interface methods embeds fun t _ => embed_induction name interface plain t
  | .basic _ | .parameter _ | .pointer _ | .slice _ | .array .. | .map .. | .channel ..
  | .function _ | .struct _ | .union _ => plain _ trivial

theorem IsPlain.isTypeSet (ht : t.IsPlain) : t.IsTypeSet := by
  cases t with
  | named | interface => exact ht.elim
  | _ => exact trivial

attribute [local simp] methodSetBy

theorem methodSetBy_plain (ht : t.IsPlain) : t.methodSetBy f = pure .constraint := by
  cases t with
  | named | interface => exact ht.elim
  | _ => simp

theorem methodSetBy_predeclared (name : String) (arguments : List GoType) :
    methodSetBy f (.named ⟨none, name, arguments⟩) = pure (predeclaredMethodSet name) := by
  simp

theorem methodSetBy_declared {path : String} (hp : n.package = some path) :
    methodSetBy f (.named n) = f n := by
  obtain ⟨_, name, arguments⟩ := n
  subst hp
  simp

theorem methodSetBy_interface (methods : List MethodSpec) (embeds : List GoType) :
    methodSetBy f (.interface methods embeds) = embedAll f (.ofSpecs methods) embeds := by
  simp

end GoType

@[simp]
theorem embedAll_nil (set : MethodSet) : embedAll f set [] = pure set := by
  simp only [embedAll]

theorem embedAll_cons (set : MethodSet) (t : GoType) (ts : List GoType) :
    embedAll f set (t :: ts) = t.methodSetBy f >>= fun s => embedAll f (set.merge s) ts := by
  simp only [embedAll]

open GoType (methodSetBy_plain methodSetBy_predeclared methodSetBy_declared methodSetBy_interface)

/-! ### Two walks side by side -/

/-- What holds between the outcomes for the names that a type reaches holds between the outcomes for
the type, when it holds of equal successes and of what follows on related outcomes. -/
theorem rel_methodSetBy {R : Except Error MethodSet → Except Error MethodSet → Prop}
    (hpure : ∀ s, R (.ok s) (.ok s))
    (hbind : ∀ {x y k k'}, R x y → (∀ s, R (k s) (k' s)) → R (x >>= k) (y >>= k'))
    (hnamed : ∀ n path, n.package = some path → Reaches packages t (.named n) →
      R ((f n).answer packages) ((g n).answer packages)) :
    R ((t.methodSetBy f).answer packages) ((t.methodSetBy g).answer packages) := by
  induction t using GoType.embed_induction with
  | name n =>
    obtain ⟨_ | path, name, arguments⟩ := n
    · rw [methodSetBy_predeclared, methodSetBy_predeclared]
      exact hpure _
    · rw [methodSetBy_declared rfl, methodSetBy_declared rfl]
      exact hnamed _ path rfl .refl
  | plain t ht =>
    rw [methodSetBy_plain ht, methodSetBy_plain ht]
    exact hpure _
  | interface methods embeds ih =>
    rw [methodSetBy_interface, methodSetBy_interface]
    have hembeds : ∀ t ∈ embeds,
        R ((t.methodSetBy f).answer packages) ((t.methodSetBy g).answer packages) :=
      fun t ht => ih t ht fun n path hp hn =>
        hnamed n path hp (reaches_interface.mpr (.inr ⟨t, ht, hn⟩))
    clear ih hnamed
    -- the embedded types are entered into a set that grows, so the induction is on any set
    generalize MethodSet.ofSpecs methods = set
    induction embeds generalizing set with
    | nil => rw [embedAll_nil, embedAll_nil]; exact hpure _
    | cons t ts ih =>
      obtain ⟨ht, hts⟩ := List.forall_mem_cons.mp hembeds
      rw [embedAll_cons, embedAll_cons, Inquiry.answer_bind, Inquiry.answer_bind]
      exact hbind ht fun s => ih hts (set.merge s)

/-- Two ways to follow names that agree on those reached give the same methods. -/
theorem methodSetBy_congr
    (hnamed : ∀ n path, n.package = some path → Reaches packages t (.named n) →
      (f n).answer packages = (g n).answer packages) :
    (t.methodSetBy f).answer packages = (t.methodSetBy g).answer packages :=
  rel_methodSetBy (fun _ => rfl) (fun hx hk => hx ▸ congrArg _ (funext hk)) hnamed

/-- A way to follow names that succeeds more often gives the same methods. -/
theorem methodSetBy_mono
    (hnamed : ∀ n s, (f n).answer packages = .ok s → (g n).answer packages = .ok s)
    (h : (t.methodSetBy f).answer packages = .ok set) :
    (t.methodSetBy g).answer packages = .ok set := by
  refine rel_methodSetBy (R := fun x y => ∀ s, x = .ok s → y = .ok s) (fun _ _ => id) ?_
    (fun n _ _ _ => hnamed n) set h
  rintro (_ | a) y k k' hxy hk s hs
  · exact nomatch hs
  · rw [hxy a rfl]
    exact hk a s hs

/-- Methods are had where every name that is reached can be followed. -/
theorem methodSetBy_succeeds
    (hnamed : ∀ n path, n.package = some path → Reaches packages t (.named n) →
      ∃ s, (f n).answer packages = .ok s) :
    ∃ s, (t.methodSetBy f).answer packages = .ok s := by
  -- success is a relation that looks at one side only
  refine rel_methodSetBy (R := fun x _ => ∃ s, x = .ok s) (g := f) (fun s => ⟨s, rfl⟩) ?_ hnamed
  rintro _ _ k _ ⟨a, rfl⟩ hk
  exact hk a

/-- What holds of the failures for the names that a type reaches holds of those for the type. -/
theorem methodSetBy_failure {P : Error → Prop}
    (hnamed : ∀ n path, n.package = some path → Reaches packages t (.named n) →
      ∀ e, (f n).answer packages = .error e → P e) {e : Error}
    (h : (t.methodSetBy f).answer packages = .error e) : P e := by
  refine rel_methodSetBy (R := fun x _ => ∀ e, x = .error e → P e) (g := f) (fun _ _ => nofun) ?_
    hnamed e h
  rintro (_ | a) _ k _ hx hk e he
  · exact hx e he
  · exact hk a e he

namespace NamedType

/-- A name that is being followed embeds itself. -/
theorem answer_of_mem {levels : Nat} {followed : List String} (h : n.text ∈ followed) :
    (n.methodSetWithin (levels + 1) followed).answer packages =
      .error (.unsupportedType n.text .embedsItself) := by
  rw [methodSetWithin, if_pos h, Inquiry.answer_throw]

/-- Another name is defined, and its definition followed one level deeper. -/
theorem answer_of_not_mem {levels : Nat} {followed : List String} (h : n.text ∉ followed) :
    (n.methodSetWithin (levels + 1) followed).answer packages =
      n.definition.answer packages >>= fun t =>
        (t.methodSetBy (methodSetWithin levels (n.text :: followed))).answer packages := by
  rw [methodSetWithin, if_neg h, Inquiry.answer_bind]

/-- A walk from a declared type succeeds when the name is not being followed and the walk from its
definition succeeds. -/
theorem methodSetWithin_succ_eq_ok {levels : Nat} {followed : List String} :
    (n.methodSetWithin (levels + 1) followed).answer packages = .ok set ↔
      n.text ∉ followed ∧ ∃ t, n.definition.answer packages = .ok t ∧
        (t.methodSetBy (methodSetWithin levels (n.text :: followed))).answer packages =
          .ok set := by
  by_cases h : n.text ∈ followed
  · rw [answer_of_mem h]
    exact ⟨nofun, fun ⟨h', _⟩ => absurd h h'⟩
  · rw [methodSetWithin, if_neg h, Inquiry.answer_bind_eq_ok, and_iff_right h]

/-- **More levels and fewer names on the way change no success.** -/
theorem methodSetWithin_of_le {levels levels' : Nat} {followed followed' : List String}
    (hlevels : levels ≤ levels') (hfollowed : followed' ⊆ followed)
    (h : (n.methodSetWithin levels followed).answer packages = .ok set) :
    (n.methodSetWithin levels' followed').answer packages = .ok set := by
  induction levels generalizing levels' followed followed' n set with
  | zero => exact nomatch h
  | succ levels ih =>
    obtain ⟨levels', rfl⟩ := Nat.exists_eq_add_one_of_ne_zero (Nat.ne_zero_of_lt hlevels)
    obtain ⟨hn, t, ht, h⟩ := methodSetWithin_succ_eq_ok.mp h
    refine methodSetWithin_succ_eq_ok.mpr ⟨fun hn' => hn (hfollowed hn'), t, ht, ?_⟩
    exact methodSetBy_mono
      (fun m s hm => ih (Nat.le_of_succ_le_succ hlevels) (List.cons_subset_cons _ hfollowed) hm) h

end NamedType

/-! ### What a walk has met -/

/-- A method set holds the methods that a search in depth meets first, and is marked when a type set
is reachable. -/
structure Explains (packages : String → Option SourcePackage) (t : GoType) (set : MethodSet) :
    Prop where
  listing : ∃ l, set.Holds l ∧ ∀ rest l', DepthFirst packages rest l' →
    DepthFirst packages (t :: rest) (l ++ l')
  marked  : set.isConstraint = true ↔ ∃ u, Reaches packages t u ∧ u.IsTypeSet

namespace Explains

theorem typeSet (ht : t.IsTypeSet) : Explains packages t .constraint where
  listing := ⟨[], .empty true, fun _ _ h => .typeSet ht h⟩
  marked  := ⟨fun _ => ⟨t, .refl, ht⟩, fun _ => rfl⟩

theorem name (hn : ¬ (GoType.named n).IsTypeSet) (ht : LeadsTo packages (.named n) t)
    (h : Explains packages t set) : Explains packages (.named n) set where
  listing :=
    let ⟨l, hl, hd⟩ := h.listing
    ⟨l, hl, fun rest l' h' => .name ht (hd rest l' h')⟩
  marked := by
    rw [h.marked]
    simp only [ht.reaches_iff, or_and_right, exists_or, exists_eq_left', hn, false_or]

/-- The sets of embedded types, entered one after the other. -/
theorem embedAll {embeds : List GoType} {set' : MethodSet} {l : List Method} (hl : set.Holds l)
    (hembeds : ∀ t ∈ embeds, ∀ s, (t.methodSetBy f).answer packages = .ok s →
      Explains packages t s)
    (h : (embedAll f set embeds).answer packages = .ok set') :
    (∃ l', set'.Holds (l ++ l') ∧ ∀ rest l'', DepthFirst packages rest l'' →
      DepthFirst packages (embeds ++ rest) (l' ++ l'')) ∧
    (set'.isConstraint = true ↔
      set.isConstraint = true ∨ ∃ t ∈ embeds, ∃ u, Reaches packages t u ∧ u.IsTypeSet) := by
  induction embeds generalizing set l with
  | nil =>
    obtain rfl : set = set' := Except.ok.inj h
    exact ⟨⟨[], by simpa using hl, fun _ _ h => h⟩, by simp⟩
  | cons t ts ih =>
    rw [embedAll_cons, Inquiry.answer_bind_eq_ok] at h
    obtain ⟨s, hs, h⟩ := h
    obtain ⟨ht, hts⟩ := List.forall_mem_cons.mp hembeds
    obtain ⟨⟨l₁, hl₁, hd₁⟩, hm₁⟩ := ht s hs
    obtain ⟨⟨l₂, hl₂, hd₂⟩, hm₂⟩ := ih (hl.merge hl₁) hts h
    refine ⟨⟨l₁ ++ l₂, by simpa using hl₂, fun rest l'' h'' => ?_⟩, ?_⟩
    · rw [List.append_assoc]
      exact hd₁ _ _ (hd₂ rest l'' h'')
    · rw [hm₂, MethodSet.merge_isConstraint, Bool.or_eq_true, hm₁, List.exists_mem_cons_iff,
        or_assoc]

/-- What is embedded explains itself, then the interface does. -/
theorem interface {methods : List MethodSpec} {embeds : List GoType}
    (hembeds : ∀ t ∈ embeds, ∀ s, (t.methodSetBy f).answer packages = .ok s →
      Explains packages t s)
    (h : (GoMocks.embedAll f (.ofSpecs methods) embeds).answer packages = .ok set) :
    Explains packages (.interface methods embeds) set := by
  obtain ⟨⟨l, hl, hd⟩, hm⟩ := embedAll (.ofSpecs methods) hembeds h
  refine ⟨⟨_, hl, fun rest l' h' => ?_⟩, ?_⟩
  · rw [List.append_assoc]
    exact .interface (hd rest l' h')
  · rw [hm, MethodSet.ofSpecs_isConstraint]
    simp only [reaches_interface, or_and_right, exists_or, exists_eq_left', GoType.IsTypeSet,
      false_or, Bool.false_eq_true]
    exact ⟨fun ⟨t, ht, u, hu, h⟩ => ⟨u, ⟨t, ht, hu⟩, h⟩,
      fun ⟨u, ⟨t, ht, hu⟩, h⟩ => ⟨t, ht, u, hu, h⟩⟩

/-- An interface that embeds nothing has its own methods. -/
theorem ofSpecs (methods : List MethodSpec) :
    Explains packages (.interface methods []) (.ofSpecs methods) :=
  .interface (f := NamedType.methodSet) nofun rfl

end Explains

theorem predeclaredMethodSet_of_ne {name : String} (hany : name ≠ "any") (herror : name ≠ "error") :
    predeclaredMethodSet name = .constraint := by
  unfold predeclaredMethodSet
  rw [if_neg hany]
  split
  · exact absurd rfl herror
  · rfl

/-- A predeclared name has the methods of its table. -/
theorem explains_predeclared (name : String) (arguments : List GoType) :
    Explains packages (.named ⟨none, name, arguments⟩) (predeclaredMethodSet name) := by
  by_cases hany : name = "any"
  · subst hany
    exact .name (fun h => h.2 rfl) (.predeclared rfl) (.ofSpecs [])
  · by_cases herror : name = "error"
    · subst herror
      exact .name (fun h => h.1 rfl) (.predeclared rfl) (.ofSpecs _)
    · exact predeclaredMethodSet_of_ne hany herror ▸ .typeSet ⟨herror, hany⟩

/-- A walk through a type explains its outcome, if the walks from names do. -/
theorem explains_methodSetBy
    (hnamed : ∀ n s, (f n).answer packages = .ok s → Explains packages (.named n) s)
    (h : (t.methodSetBy f).answer packages = .ok set) : Explains packages t set := by
  induction t using GoType.embed_induction generalizing set with
  | name n =>
    obtain ⟨_ | path, name, arguments⟩ := n
    · rw [methodSetBy_predeclared] at h
      exact Except.ok.inj h ▸ explains_predeclared name arguments
    · rw [methodSetBy_declared rfl] at h
      exact hnamed _ set h
  | plain t ht =>
    rw [methodSetBy_plain ht] at h
    exact Except.ok.inj h ▸ .typeSet ht.isTypeSet
  | interface methods embeds ih =>
    rw [methodSetBy_interface] at h
    exact .interface (fun t ht s => ih t ht) h

/-- **A walk that succeeds explains its outcome.** -/
theorem explains_methodSetWithin {levels : Nat} {followed : List String}
    (h : (n.methodSetWithin levels followed).answer packages = .ok set) :
    Explains packages (.named n) set := by
  induction levels generalizing followed n set with
  | zero => exact nomatch h
  | succ levels ih =>
    obtain ⟨-, t, ht, h⟩ := NamedType.methodSetWithin_succ_eq_ok.mp h
    -- a name with a package is no type set itself: its mark comes from its definition
    have hn : ¬ (GoType.named n).IsTypeSet := by
      obtain ⟨path, hp⟩ := exists_package_of_definition ht
      obtain ⟨_, name, arguments⟩ := n
      subst hp
      exact id
    exact .name hn (.definition ht) (explains_methodSetBy (fun m s hm => ih hm) h)

end GoMocks
