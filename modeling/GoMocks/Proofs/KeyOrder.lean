import Mathlib
import GoMocks.KeyOrder

/-!
# Lists in order of a key — what they hold

* `sortByKey_strict`: the keys of a sorted list go up strictly.
* `mem_sortByKey`: sorting keeps the items, when no two of them have one key.
* `mem_sortByKey_iff`: of several items with one key it keeps the last one.
* `InOrder.eq_of_mem_iff`: there is one list in order for some items.
* `sortByKey_map`: items that are changed and keep their keys are sorted as they were.
-/

namespace GoMocks

variable {α : Type} {key : α → String}

/-- The keys go up strictly. -/
def InOrder (key : α → String) (items : List α) : Prop :=
  items.Pairwise fun a b => key a < key b

theorem mem_insertByKey_sub {a b : α} {items : List α} (h : b ∈ insertByKey key a items) :
    b = a ∨ b ∈ items := by
  induction items with
  | nil => simpa [insertByKey] using h
  | cons c rest ih =>
    rw [insertByKey] at h
    split at h
    · exact List.mem_cons.mp h
    · split at h
      · rcases List.mem_cons.mp h with rfl | h
        · exact .inr (.head _)
        · exact (ih h).imp_right (List.mem_cons_of_mem c)
      · exact (List.mem_cons.mp h).imp_right (List.mem_cons_of_mem c)

/-- Inserting keeps the order. -/
theorem InOrder.insertByKey {items : List α} (h : InOrder key items) (a : α) :
    InOrder key (insertByKey key a items) := by
  induction items with
  | nil => exact List.pairwise_singleton _ _
  | cons b rest ih =>
    obtain ⟨hb, hrest⟩ := List.pairwise_cons.mp h
    rw [GoMocks.insertByKey]
    split
    · next hab =>
      refine List.pairwise_cons.mpr ⟨fun c hc => ?_, h⟩
      rcases List.mem_cons.mp hc with rfl | hc
      · exact hab
      · exact hab.trans (hb c hc)
    · next hab =>
      split
      · next hba =>
        refine List.pairwise_cons.mpr ⟨fun c hc => ?_, ih hrest⟩
        rcases mem_insertByKey_sub hc with rfl | hc
        · exact hba
        · exact hb c hc
      · next hba =>
        have heq : key a = key b := le_antisymm (not_lt.mp hba) (not_lt.mp hab)
        exact List.pairwise_cons.mpr ⟨fun c hc => heq ▸ hb c hc, hrest⟩

/-- **Sorting puts the keys in strict order.** -/
theorem sortByKey_strict (key : α → String) (items : List α) :
    InOrder key (sortByKey key items) := by
  suffices h : ∀ sorted, InOrder key sorted →
      InOrder key (items.foldl (fun sorted a => insertByKey key a sorted) sorted) from
    h [] .nil
  induction items with
  | nil => exact fun _ h => h
  | cons a rest ih => exact fun sorted h => ih _ (h.insertByKey a)

theorem mem_sortByKey_sub {b : α} {items : List α} (h : b ∈ sortByKey key items) : b ∈ items := by
  suffices hsub : ∀ sorted, b ∈ items.foldl (fun sorted a => insertByKey key a sorted) sorted →
      b ∈ items ∨ b ∈ sorted by
    simpa using hsub [] h
  clear h
  induction items with
  | nil => exact fun _ h => .inr h
  | cons a rest ih =>
    intro sorted h
    rcases ih _ h with h | h
    · exact .inl (.tail _ h)
    · rcases mem_insertByKey_sub h with rfl | h
      · exact .inl (.head _)
      · exact .inr h

/-- A new key is inserted beside the others. -/
theorem mem_insertByKey {a b : α} {items : List α} (hnew : ∀ c ∈ items, key c ≠ key a) :
    b ∈ insertByKey key a items ↔ b = a ∨ b ∈ items := by
  induction items with
  | nil => simp [insertByKey]
  | cons c rest ih =>
    obtain ⟨hc, hrest⟩ := List.forall_mem_cons.mp hnew
    rw [insertByKey]
    split
    · exact List.mem_cons
    · next hac =>
      have hlt : key c < key a := lt_of_le_of_ne (not_lt.mp hac) hc
      rw [if_pos hlt, List.mem_cons, ih hrest, List.mem_cons]
      exact or_left_comm

/-- Sorting keeps the items, when no two of them have one key. -/
theorem mem_sortByKey {items : List α} (hkeys : (items.map key).Nodup) {b : α} :
    b ∈ sortByKey key items ↔ b ∈ items := by
  suffices h : ∀ sorted, (∀ a ∈ items, ∀ c ∈ sorted, key c ≠ key a) →
      (b ∈ items.foldl (fun sorted a => insertByKey key a sorted) sorted ↔
        b ∈ items ∨ b ∈ sorted) by
    simpa [sortByKey] using h [] (by simp)
  induction items with
  | nil => simp
  | cons a rest ih =>
    intro sorted hnew
    obtain ⟨ha, hrest⟩ := List.nodup_cons.mp (List.map_cons ▸ hkeys)
    have hsorted : ∀ c ∈ sorted, key c ≠ key a := hnew a (.head _)
    rw [List.foldl_cons, ih hrest, mem_insertByKey hsorted, List.mem_cons]
    · tauto
    · intro d hd c hc
      rcases (mem_insertByKey hsorted).mp hc with rfl | hc
      · exact fun heq => ha (List.mem_map.mpr ⟨d, hd, heq.symm⟩)
      · exact hnew d (.tail _ hd) c hc

/-- An item takes the place of the one with its key. -/
theorem InOrder.mem_insertByKey {items : List α} (h : InOrder key items) {a b : α} :
    b ∈ GoMocks.insertByKey key a items ↔ b = a ∨ b ∈ items ∧ key b ≠ key a := by
  induction items with
  | nil => simp [GoMocks.insertByKey]
  | cons c rest ih =>
    obtain ⟨hc, hrest⟩ := List.pairwise_cons.mp h
    rw [GoMocks.insertByKey]
    split
    · next hac =>
      have hne : ∀ d ∈ c :: rest, key d ≠ key a := fun d hd => by
        rcases List.mem_cons.mp hd with rfl | hd
        · exact hac.ne'
        · exact (hac.trans (hc d hd)).ne'
      rw [List.mem_cons, and_iff_left_of_imp (hne b)]
    · next hac =>
      split
      · next hca =>
        rw [List.mem_cons, ih hrest, List.mem_cons, or_and_right, or_left_comm]
        refine or_congr_right (or_congr_left (Iff.symm (and_iff_left_of_imp ?_)))
        rintro rfl
        exact hca.ne
      · next hca =>
        have heq : key c = key a := le_antisymm (not_lt.mp hac) (not_lt.mp hca)
        rw [List.mem_cons, List.mem_cons]
        refine or_congr_right ⟨fun hb => ⟨.inr hb, fun e => ?_⟩, fun ⟨hb, hne⟩ => ?_⟩
        · exact absurd (hc b hb) (by rw [e, heq]; exact lt_irrefl _)
        · exact hb.resolve_left fun e => hne (e ▸ heq)

/-- **Of several items with one key the last one counts.** -/
theorem mem_sortByKey_iff {items : List α} {a : α} :
    a ∈ sortByKey key items ↔ items.reverse.find? (key · == key a) = some a := by
  induction items using List.reverseRecOn with
  | nil => simp [sortByKey]
  | append_singleton items b ih =>
    have hconcat : sortByKey key (items ++ [b]) = insertByKey key b (sortByKey key items) := by
      rw [sortByKey, List.foldl_append]
      rfl
    rw [hconcat, (sortByKey_strict key items).mem_insertByKey, ih, List.reverse_concat,
      List.find?_cons]
    split
    · next hb =>
      have hb : key b = key a := by simpa using hb
      rw [Option.some.injEq]
      exact ⟨fun h => (h.resolve_right fun h => h.2 hb.symm).symm, fun h => .inl h.symm⟩
    · next hb =>
      have hb : key b ≠ key a := by simpa using hb
      refine ⟨fun h => ?_, fun h => .inr ⟨h, hb.symm⟩⟩
      rcases h with rfl | h
      · exact absurd rfl hb
      · exact h.1

/-- Sorting keeps the items, when those with one key are the same. -/
theorem mem_sortByKey_of_injective {items : List α}
    (hkeys : ∀ a ∈ items, ∀ b ∈ items, key a = key b → a = b) {a : α} :
    a ∈ sortByKey key items ↔ a ∈ items := by
  refine ⟨mem_sortByKey_sub, fun ha => mem_sortByKey_iff.mpr ?_⟩
  cases hfind : items.reverse.find? (key · == key a) with
  | none => simpa using List.find?_eq_none.mp hfind a (List.mem_reverse.mpr ha)
  | some b =>
    have hb : b ∈ items := List.mem_reverse.mp (List.mem_of_find?_eq_some hfind)
    have hkey : key b = key a := by simpa using List.find?_some hfind
    rw [hkeys b hb a ha hkey]

/-- Items decide the list that has them in order. -/
theorem InOrder.eq_of_mem_iff {as bs : List α} (ha : InOrder key as) (hb : InOrder key bs)
    (h : ∀ a, a ∈ as ↔ a ∈ bs) : as = bs := by
  have hnodup : ∀ {items : List α}, InOrder key items → items.Nodup := fun hitems =>
    List.Pairwise.imp (fun hlt => ne_of_apply_ne key hlt.ne) hitems
  refine List.Perm.eq_of_pairwise (fun a b _ _ hab hba => absurd hab (lt_asymm hba)) ha hb ?_
  exact (List.perm_ext_iff_of_nodup (hnodup ha) (hnodup hb)).mpr h

/-- A change that keeps the keys can be made before or after an insertion. -/
theorem insertByKey_map {f : α → α} (hf : ∀ a, key (f a) = key a) (a : α) (items : List α) :
    insertByKey key (f a) (items.map f) = (insertByKey key a items).map f := by
  induction items with
  | nil => rfl
  | cons b rest ih =>
    rw [List.map_cons, insertByKey, insertByKey, hf, hf, ih]
    split
    · rfl
    · split <;> rfl

/-- Items that are changed and keep their keys are sorted as they were. -/
theorem sortByKey_map {f : α → α} (hf : ∀ a, key (f a) = key a) (items : List α) :
    sortByKey key (items.map f) = (sortByKey key items).map f := by
  suffices h : ∀ sorted : List α,
      (items.map f).foldl (fun sorted a => insertByKey key a sorted) (sorted.map f) =
        (items.foldl (fun sorted a => insertByKey key a sorted) sorted).map f from h []
  induction items with
  | nil => exact fun _ => rfl
  | cons a rest ih =>
    intro sorted
    rw [List.map_cons, List.foldl_cons, List.foldl_cons, insertByKey_map hf, ih]

end GoMocks
