import GoMocks.ImportTable
import GoMocks.Proofs.FreshName

/-!
# The import table — looking up and choosing identifiers

What a lookup in an import table finds, and which alias the search comes to.

* `ImportTable.find?_eq_none_iff`, `ImportTable.find?_of_mem`: an identifier is free exactly when no
  entry goes by it; where no two entries share one, it leads back to its entry.
* `ImportTable.freshAlias?_eq_some`: the search for an alias always ends, at the first number whose
  alias is admitted. The aliases of a name are all different, so more of them than there are
  entries cannot all be taken.
-/

namespace GoMocks.ImportTable

variable {table : ImportTable}

/-! ### Lookups -/

/-- Going through a list class by class leaves nothing out and counts nothing twice. -/
theorem perm_classes {α : Type} (c : α → ImportClass) (l : List α) :
    (l.filter (c · == .standard) ++ l.filter (c · == .external) ++
      l.filter (c · == .internal)).Perm l := by
  induction l with
  | nil => rfl
  | cons a l ih =>
    cases h : c a with
    | standard => simpa [h] using ih
    | external =>
      simp only [List.filter_cons, h, List.append_assoc] at ih ⊢
      exact List.perm_middle.trans (ih.cons a)
    | internal =>
      simp only [List.filter_cons, h] at ih ⊢
      exact List.perm_middle.trans (ih.cons a)

/-- The lists of the classes hold each entry once. -/
theorem all_perm (table : ImportTable) : table.all.Perm table.entries :=
  perm_classes table.classOf table.entries

theorem mem_all {i : Import} : i ∈ table.all ↔ i ∈ table.entries :=
  table.all_perm.mem_iff

theorem mem_bucket {i : Import} {k : ImportClass} :
    i ∈ table.bucket k ↔ i ∈ table.entries ∧ table.classOf i = k := by
  simp [bucket]

theorem mem_identifiers {s : String} :
    s ∈ table.identifiers ↔ ∃ i ∈ table.entries, i.ident = s := by
  simp [identifiers, mem_all]

/-- The identifiers are those of the entries, in another order. -/
theorem identifiers_perm (table : ImportTable) :
    table.identifiers.Perm (table.entries.map Import.ident) :=
  table.all_perm.map _

/-- A table has as many identifiers as entries. -/
theorem length_identifiers (table : ImportTable) : table.identifiers.length = table.size := by
  simpa [size] using table.identifiers_perm.length_eq

/-- Nothing is found under an identifier that is free. -/
theorem find?_eq_none_iff {s : String} : table.find? s = none ↔ s ∉ table.identifiers := by
  simp [find?, identifiers]

/-- What is found is an entry with that identifier. -/
theorem find?_eq_some {s : String} {i : Import} (h : table.find? s = some i) :
    i ∈ table.entries ∧ i.ident = s :=
  ⟨mem_all.mp (List.mem_of_find?_eq_some h), by simpa using List.find?_some h⟩

/-- With distinct identifiers an entry is found under its own. -/
theorem find?_of_mem {i : Import} (hn : (table.entries.map Import.ident).Nodup)
    (hi : i ∈ table.entries) : table.find? i.ident = some i := by
  cases h : table.find? i.ident with
  | none => exact absurd (mem_identifiers.mpr ⟨i, hi, rfl⟩) (find?_eq_none_iff.mp h)
  | some j =>
    obtain ⟨hj, e⟩ := find?_eq_some h
    rw [List.inj_on_of_nodup_map hn hj hi e]

/-- A path may take an identifier that is free or its own. -/
theorem admits_iff {path ident : String} :
    table.admits path ident = true ↔ ∀ i, table.find? ident = some i → i.path = path := by
  cases h : table.find? ident <;> simp [admits, h]

/-! ### Aliases -/

/-- Different numbers give different aliases. -/
theorem aliasOf_injective (name : String) : (aliasOf name).Injective := fun _ _ h =>
  Nat.repr_injective ((String.append_right_inj name).mp h)

/-- An alias differs from the name it is made of. -/
theorem aliasOf_ne (name : String) (n : Nat) : aliasOf name n ≠ name := by
  intro h
  have hl := congrArg String.length h
  have hn : 0 < (toString n).length := Nat.length_repr_pos
  simp only [aliasOf, String.length_append] at hl
  omega

/-- The identifiers a package of some name may come to, in the order they are tried. -/
def candidate (name : String) : Nat → String
  | 0     => name
  | n + 1 => aliasOf name (n + 1)

/-- No candidate is tried twice. -/
theorem candidate_injective (name : String) : (candidate name).Injective := by
  rintro (_ | m) (_ | n) h
  · rfl
  · exact (aliasOf_ne name _ h.symm).elim
  · exact (aliasOf_ne name _ h).elim
  · exact aliasOf_injective name h

/-- Names that include the aliases `1` to `n` of a name are at least `n`. -/
theorem le_length_of_aliases {name : String} {taken : List String} {n : Nat}
    (h : ∀ m < n, aliasOf name (m + 1) ∈ taken) : n ≤ taken.length :=
  le_length_of_injective ((aliasOf_injective name).comp Nat.succ_injective) h

/-- Among one more alias than there are entries, one is admitted for any package. -/
theorem exists_admits (table : ImportTable) (path name : String) :
    ∃ n ≤ table.size, table.admits path (aliasOf name (n + 1)) = true := by
  by_contra hno
  simp only [not_exists, not_and, Bool.not_eq_true] at hno
  have h : ∀ m < table.size + 1, aliasOf name (m + 1) ∈ table.identifiers := fun m hm => by
    by_contra hfree
    have := hno m (by omega)
    rw [admits, find?_eq_none_iff.mpr hfree] at this
    cases this
  have := le_length_of_aliases h
  rw [length_identifiers] at this
  omega

/-- The search stops at the first alias that is admitted. -/
theorem freshAlias?_eq_some {path name : String} {n : Nat} (hn : n ≤ table.size)
    (ha : table.admits path (aliasOf name (n + 1)) = true)
    (hmin : ∀ m < n, table.admits path (aliasOf name (m + 1)) = false) :
    table.freshAlias? path name = some (aliasOf name (n + 1)) := by
  rw [freshAlias?, List.find?_map, Option.map_eq_some_iff]
  refine ⟨n, List.find?_range_eq_some.mpr ⟨ha, List.mem_range.mpr (by omega), fun m hm => ?_⟩, rfl⟩
  simp [hmin m hm]

/-- The search for an alias always ends, at the first alias that is admitted. -/
theorem freshAlias?_spec (table : ImportTable) (path name : String) :
    ∃ n, table.freshAlias? path name = some (aliasOf name (n + 1)) ∧
      table.admits path (aliasOf name (n + 1)) = true ∧
      ∀ m < n, table.admits path (aliasOf name (m + 1)) = false := by
  have hex : ∃ n, table.admits path (aliasOf name (n + 1)) = true := by
    obtain ⟨n, -, h⟩ := table.exists_admits path name
    exact ⟨n, h⟩
  have hle : Nat.find hex ≤ table.size := by
    obtain ⟨n, hn, h⟩ := table.exists_admits path name
    exact (Nat.find_min' hex h).trans hn
  have hmin : ∀ m < Nat.find hex, table.admits path (aliasOf name (m + 1)) = false := fun m hm => by
    simpa using Nat.find_min hex hm
  exact ⟨_, freshAlias?_eq_some hle (Nat.find_spec hex) hmin, Nat.find_spec hex, hmin⟩

end GoMocks.ImportTable
