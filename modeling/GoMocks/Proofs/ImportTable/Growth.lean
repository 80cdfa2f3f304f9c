import GoMocks.Proofs.ImportTable.Alias

/-!
# The import table — how it grows

Imports are added one after the other, each under the declared name of its package (`addAll`).

* `FirstFree`: the identifier a newcomer is given: its name if that is free, or else the alias with
  the least number that is free.
* `add_cases`: an import that is added is there already, or comes behind all others under the first
  free identifier.
* `Sound`: where the name is a function of the path, there is one entry of each path, under an
  identifier of its own. It also keeps what made each alias necessary (`Settled`): this is why
  `add_of_mem` leads back to the entry of a path, whatever was added in between.
* `Sound.add`: an import that is added keeps a table sound.
-/

namespace GoMocks.ImportTable

variable {table : ImportTable}

/-! ### One import -/

/-- The identifier of a newcomer, where some identifiers are taken. -/
def FirstFree (taken : List String) (name ident : String) : Prop :=
  name ∉ taken ∧ ident = name ∨
    name ∈ taken ∧ ∃ n ≥ 1, ident = aliasOf name n ∧ aliasOf name n ∉ taken ∧
      ∀ m ≥ 1, m < n → aliasOf name m ∈ taken

/-- The first free candidate is free. -/
theorem FirstFree.not_mem {taken : List String} {name ident : String}
    (h : FirstFree taken name ident) : ident ∉ taken := by
  rcases h with ⟨h, rfl⟩ | ⟨-, n, -, rfl, h, -⟩ <;> exact h

/-- An identifier that is not admitted belongs to another package. -/
theorem exists_of_not_admits {path ident : String} (h : table.admits path ident = false) :
    ∃ i ∈ table.entries, i.ident = ident ∧ i.path ≠ path := by
  cases hf : table.find? ident with
  | none => simp [admits, hf] at h
  | some i =>
    obtain ⟨hi, e⟩ := find?_eq_some hf
    exact ⟨i, hi, e, by simpa [admits, hf] using h⟩

/-- What adding an import can do: the entry of its package is there already, or it is inserted
under the first free identifier. -/
theorem add_cases (table : ImportTable) {c : Import} (hc : c.localName = none) :
    (∃ i ∈ table.entries, i.path = c.path ∧ table.add c = (i, table)) ∨
      ∃ i, i.path = c.path ∧ i.name = c.name ∧ FirstFree table.identifiers c.name i.ident ∧
        table.add c = (i, table.insert i) := by
  cases hf : table.find? c.name with
  | none =>
    have hfree := find?_eq_none_iff.mp hf
    exact .inr ⟨c, rfl, rfl, .inl ⟨hfree, by simp [Import.ident, hc]⟩, by simp [add, hf]⟩
  | some i =>
    obtain ⟨hi, hin⟩ := find?_eq_some hf
    by_cases hp : i.path = c.path
    · exact .inl ⟨i, hi, hp, by simp [add, hf, hp]⟩
    -- the name is taken by another package, so an alias is looked for
    obtain ⟨n, hn, ha, hmin⟩ := table.freshAlias?_spec c.path c.name
    cases hg : table.find? (aliasOf c.name (n + 1)) with
    | some j =>
      -- the alias is taken too, but by the package itself
      exact .inl ⟨j, (find?_eq_some hg).1, admits_iff.mp ha j hg, by simp [add, hf, hp, hn, hg]⟩
    | none =>
      refine .inr ⟨{ c with localName := some (aliasOf c.name (n + 1)) }, rfl, rfl,
        .inr ⟨mem_identifiers.mpr ⟨i, hi, hin⟩, n + 1, by omega, rfl,
          find?_eq_none_iff.mp hg, fun m hm hmn => ?_⟩, by simp [add, hf, hp, hn, hg]⟩
      obtain ⟨k, rfl⟩ : ∃ k, m = k + 1 := ⟨m - 1, by omega⟩
      obtain ⟨j, hj, e, -⟩ := exists_of_not_admits (hmin k (by omega))
      exact mem_identifiers.mpr ⟨j, hj, e⟩

/-- Adding keeps the entries. -/
theorem add_extends (table : ImportTable) {c : Import} (hc : c.localName = none) :
    table.entries <+: (table.add c).2.entries := by
  rcases table.add_cases hc with ⟨i, -, -, e⟩ | ⟨i, -, -, -, e⟩ <;> rw [e]
  exact List.prefix_append _ _

/-- The answer to an addition is an entry for the path. -/
theorem add_fst_mem (table : ImportTable) {c : Import} (hc : c.localName = none) :
    (table.add c).1 ∈ (table.add c).2.entries ∧ (table.add c).1.path = c.path := by
  rcases table.add_cases hc with ⟨i, hi, hp, e⟩ | ⟨i, hp, -, -, e⟩ <;> rw [e]
  · exact ⟨hi, hp⟩
  · exact ⟨by simp [insert], hp⟩

@[simp]
theorem add_module (table : ImportTable) (c : Import) : (table.add c).2.module = table.module := by
  simp only [add]
  split
  · rfl
  · split
    · rfl
    · split <;> rfl

/-- No two entries go by one identifier, whatever is added. -/
theorem add_nodup {c : Import} (hc : c.localName = none)
    (hn : (table.entries.map Import.ident).Nodup) :
    ((table.add c).2.entries.map Import.ident).Nodup := by
  rcases table.add_cases hc with ⟨i, -, -, e⟩ | ⟨i, -, -, hfree, e⟩ <;> rw [e]
  · exact hn
  · have hi := hfree.not_mem
    rw [table.identifiers_perm.mem_iff] at hi
    simpa [insert, List.nodup_append, hn] using fun j hj hij => hi (List.mem_map.mpr ⟨j, hj, hij⟩)

/-! ### One entry for each path -/

/-- The entry goes by the name of its package, or that name and all smaller aliases are taken. -/
def Settled (table : ImportTable) (i : Import) : Prop :=
  i.ident = i.name ∨
    i.name ∈ table.identifiers ∧ ∃ n, i.ident = aliasOf i.name (n + 1) ∧
      ∀ m < n, aliasOf i.name (m + 1) ∈ table.identifiers

/-- A table whose packages are named by their paths, each with one entry and an identifier of its
own. -/
structure Sound (nameOf : String → String) (table : ImportTable) : Prop where
  identifiers_nodup : (table.entries.map Import.ident).Nodup
  paths_nodup       : (table.entries.map Import.path).Nodup
  named             : ∀ i ∈ table.entries, i.name = nameOf i.path
  settled           : ∀ i ∈ table.entries, table.Settled i

variable {nameOf : String → String}

/-- The empty table is sound. -/
theorem Sound.empty (module : String) : Sound nameOf ⟨module, []⟩ := by
  constructor <;> simp

/-- A sound table has one entry for a path. -/
theorem Sound.eq_of_path (h : table.Sound nameOf) {i j : Import} (hi : i ∈ table.entries)
    (hj : j ∈ table.entries) (e : i.path = j.path) : i = j :=
  List.inj_on_of_nodup_map h.paths_nodup hi hj e

/-- An identifier of another entry is not admitted for a path that has one. -/
theorem Sound.not_admits (h : table.Sound nameOf) {i : Import} (hi : i ∈ table.entries)
    {s : String} (hs : s ∈ table.identifiers) (hne : i.ident ≠ s) :
    table.admits i.path s = false := by
  obtain ⟨j, hj, rfl⟩ := mem_identifiers.mp hs
  rw [← Bool.not_eq_true, admits_iff, find?_of_mem h.identifiers_nodup hj]
  intro hp
  exact hne (by rw [h.eq_of_path hi hj (hp j rfl).symm])

/-- A package that has an entry keeps it: adding it again changes nothing. -/
theorem Sound.add_of_mem (h : table.Sound nameOf) {i c : Import} (hi : i ∈ table.entries)
    (hp : c.path = i.path) (hn : c.name = i.name) : table.add c = (i, table) := by
  rcases h.settled i hi with hid | ⟨hid, n, hin, hmin⟩
  · have hf : table.find? c.name = some i := by
      rw [hn, ← hid, find?_of_mem h.identifiers_nodup hi]
    simp [add, hf, hp]
  · obtain ⟨j, hj, hji⟩ := mem_identifiers.mp hid
    have hf : table.find? c.name = some j := by
      rw [hn, ← hji, find?_of_mem h.identifiers_nodup hj]
    have hne : j.path ≠ c.path := fun e => by
      rw [h.eq_of_path hj hi (e.trans hp), hin] at hji
      exact aliasOf_ne _ _ hji
    -- the search passes over the smaller aliases, which belong to other entries
    have hfresh : table.freshAlias? c.path c.name = some i.ident := by
      rw [hn, hp, hin]
      refine freshAlias?_eq_some ?_ ?_ fun m hm => h.not_admits hi (hmin m hm) ?_
      · exact (le_length_of_aliases hmin).trans_eq table.length_identifiers
      · rw [admits_iff, ← hin, find?_of_mem h.identifiers_nodup hi]
        rintro _ ⟨⟩
        rfl
      · rw [hin]
        intro e
        have := aliasOf_injective _ e
        omega
    simp [add, hf, hne, hfresh, find?_of_mem h.identifiers_nodup hi]

theorem Settled.mono {table' : ImportTable} {i : Import}
    (hs : table.identifiers ⊆ table'.identifiers) (h : table.Settled i) : table'.Settled i := by
  rcases h with h | ⟨hid, n, hn, hmin⟩
  · exact .inl h
  · exact .inr ⟨hs hid, n, hn, fun m hm => hs (hmin m hm)⟩

/-- An entry under the first free candidate is settled. -/
theorem FirstFree.settled {i : Import} (h : FirstFree table.identifiers i.name i.ident) :
    table.Settled i := by
  rcases h with ⟨-, h⟩ | ⟨hid, n, hn, h, -, hmin⟩
  · exact .inl h
  · obtain ⟨k, rfl⟩ : ∃ k, n = k + 1 := ⟨n - 1, by omega⟩
    exact .inr ⟨hid, k, h, fun m hm => hmin (m + 1) (by omega) (by omega)⟩

theorem identifiers_insert_subset (table : ImportTable) (i : Import) :
    table.identifiers ⊆ (table.insert i).identifiers := by
  intro s hs
  obtain ⟨j, hj, e⟩ := mem_identifiers.mp hs
  exact mem_identifiers.mpr ⟨j, by simp [insert, hj], e⟩

/-- Adding keeps the entries settled. -/
theorem settled_add {c : Import} (hc : c.localName = none)
    (h : ∀ i ∈ table.entries, table.Settled i) :
    ∀ i ∈ (table.add c).2.entries, (table.add c).2.Settled i := by
  rcases table.add_cases hc with ⟨i, -, -, e⟩ | ⟨i, -, hin, hfree, e⟩ <;> rw [e]
  · exact h
  · intro j hj
    refine Settled.mono (table.identifiers_insert_subset i) ?_
    rcases List.mem_append.mp hj with hj | hj
    · exact h j hj
    · rw [List.mem_singleton.mp hj]
      exact FirstFree.settled (hin ▸ hfree)

/-- The number of an alias is less than that of the entries: the name and all smaller aliases belong
to other entries. -/
theorem Settled.ident_cases {i : Import} (h : table.Settled i) (hi : i ∈ table.entries) :
    i.ident = i.name ∨ ∃ n, 1 ≤ n ∧ n < table.size ∧ i.ident = aliasOf i.name n := by
  rcases h with h | ⟨hid, n, hn, hmin⟩
  · exact .inl h
  have htaken : ∀ m < n + 2, candidate i.name m ∈ table.identifiers := by
    rintro (_ | m) hm
    · exact hid
    · rcases Nat.lt_succ_iff_lt_or_eq.mp (Nat.lt_of_succ_lt_succ hm) with hm | rfl
      · exact hmin m hm
      · exact mem_identifiers.mpr ⟨i, hi, hn⟩
  have hle := le_length_of_injective (candidate_injective i.name) htaken
  rw [length_identifiers] at hle
  exact .inr ⟨n + 1, by omega, by omega, hn⟩

/-- A newcomer of a path that has no entry is inserted under the first free identifier. -/
theorem add_of_not_mem (table : ImportTable) {c : Import} (hc : c.localName = none)
    (hp : c.path ∉ table.entries.map Import.path) :
    ∃ i, i.path = c.path ∧ i.name = c.name ∧ FirstFree table.identifiers c.name i.ident ∧
      table.add c = (i, table.insert i) := by
  rcases table.add_cases hc with ⟨i, hi, e, -⟩ | h
  · exact absurd (List.mem_map.mpr ⟨i, hi, e⟩) hp
  · exact h

theorem Sound.add (h : table.Sound nameOf) {c : Import} (hc : c.localName = none)
    (hn : c.name = nameOf c.path) : (table.add c).2.Sound nameOf := by
  by_cases hp : c.path ∈ table.entries.map Import.path
  · obtain ⟨i, hi, e⟩ := List.mem_map.mp hp
    rw [h.add_of_mem hi e.symm (by rw [hn, h.named i hi, e])]
    exact h
  · have hnodup := add_nodup hc h.identifiers_nodup
    have hsettled := settled_add hc h.settled
    obtain ⟨i, hip, hin, -, e⟩ := table.add_of_not_mem hc hp
    rw [e] at hnodup hsettled ⊢
    refine ⟨hnodup, ?_, ?_, hsettled⟩
    · rw [← hip] at hp
      simpa [insert, List.nodup_append, h.paths_nodup] using
        fun j hj e => hp (List.mem_map.mpr ⟨j, hj, e⟩)
    · intro j hj
      rcases List.mem_append.mp hj with hj | hj
      · exact h.named j hj
      · rw [List.mem_singleton.mp hj, hin, hip, hn]

end GoMocks.ImportTable
