import GoMocks.Proofs.ImportTable.Growth

/-!
# The import table — sequences of imports

* `afterAdding`: the table of a file after a sequence of imports.
* `Sound.addAll`: it has one entry for each path that was added (`mem_paths_addAll`).
* `afterAdding_stable`: identifiers are pairwise distinct and entries stay; where names are a
  function of the path, a path keeps its identifier, which was the first free one when the path was
  added for the first time, and the import lists are strictly sorted.
-/

namespace GoMocks.ImportTable

variable {table : ImportTable} {nameOf : String → String}

/-- Adds imports one after the other. -/
def addAll (table : ImportTable) (calls : List Import) : ImportTable :=
  calls.foldl (fun table c => (table.add c).2) table

/-- The table of a file of some module, after some imports were added. -/
def afterAdding (module : String) (calls : List Import) : ImportTable :=
  addAll ⟨module, []⟩ calls

@[simp]
theorem addAll_nil (table : ImportTable) : table.addAll [] = table := rfl

@[simp]
theorem addAll_cons (table : ImportTable) (c : Import) (calls : List Import) :
    table.addAll (c :: calls) = (table.add c).2.addAll calls := rfl

@[simp]
theorem addAll_append (table : ImportTable) (calls rest : List Import) :
    table.addAll (calls ++ rest) = (table.addAll calls).addAll rest :=
  List.foldl_append

@[simp]
theorem addAll_module (table : ImportTable) (calls : List Import) :
    (table.addAll calls).module = table.module := by
  induction calls generalizing table with
  | nil => rfl
  | cons c calls ih => rw [addAll_cons, ih, add_module]

theorem addAll_extends {calls : List Import} (hplain : ∀ c ∈ calls, c.localName = none) :
    table.entries <+: (table.addAll calls).entries := by
  induction calls generalizing table with
  | nil => exact List.prefix_rfl
  | cons c calls ih =>
    have hc := hplain c List.mem_cons_self
    exact (table.add_extends hc).trans (ih fun d hd => hplain d (List.mem_cons_of_mem c hd))

theorem addAll_nodup {calls : List Import} (hplain : ∀ c ∈ calls, c.localName = none)
    (hn : (table.entries.map Import.ident).Nodup) :
    ((table.addAll calls).entries.map Import.ident).Nodup := by
  induction calls generalizing table with
  | nil => exact hn
  | cons c calls ih =>
    have hc := hplain c List.mem_cons_self
    exact ih (fun d hd => hplain d (List.mem_cons_of_mem c hd)) (add_nodup hc hn)

theorem settled_addAll {calls : List Import} (hplain : ∀ c ∈ calls, c.localName = none)
    (h : ∀ i ∈ table.entries, table.Settled i) :
    ∀ i ∈ (table.addAll calls).entries, (table.addAll calls).Settled i := by
  induction calls generalizing table with
  | nil => exact h
  | cons c calls ih =>
    have hc := hplain c List.mem_cons_self
    exact ih (fun d hd => hplain d (List.mem_cons_of_mem c hd)) (settled_add hc h)

theorem Sound.addAll {calls : List Import} (h : table.Sound nameOf)
    (hcalls : ∀ c ∈ calls, c.localName = none ∧ c.name = nameOf c.path) :
    (table.addAll calls).Sound nameOf := by
  induction calls generalizing table with
  | nil => exact h
  | cons c calls ih =>
    obtain ⟨hc, hn⟩ := hcalls c List.mem_cons_self
    exact ih (h.add hc hn) fun d hd => hcalls d (List.mem_cons_of_mem c hd)

/-- An import brings in its own path and no other. -/
theorem mem_paths_add {c : Import} (hc : c.localName = none) {p : String} :
    p ∈ (table.add c).2.entries.map Import.path ↔
      p ∈ table.entries.map Import.path ∨ p = c.path := by
  rcases table.add_cases hc with ⟨i, hi, hp, e⟩ | ⟨i, hp, -, -, e⟩
  · rw [e, ← hp]
    exact ⟨.inl, fun h => h.elim id fun e => List.mem_map.mpr ⟨i, hi, e.symm⟩⟩
  · rw [e, ← hp]
    simp [insert, eq_comm]

/-- The paths of the table are those it had and those added. -/
theorem mem_paths_addAll {calls : List Import} (hplain : ∀ c ∈ calls, c.localName = none)
    {p : String} :
    p ∈ (table.addAll calls).entries.map Import.path ↔
      p ∈ table.entries.map Import.path ∨ p ∈ calls.map Import.path := by
  induction calls generalizing table with
  | nil => simp
  | cons c calls ih =>
    have hc := hplain c List.mem_cons_self
    rw [addAll_cons, ih fun d hd => hplain d (List.mem_cons_of_mem c hd), mem_paths_add hc,
      List.map_cons, List.mem_cons, or_assoc]

/-- There is one entry for each path that was added. -/
theorem paths_perm_dedup {module : String} {calls : List Import}
    (hplain : ∀ c ∈ calls, c.localName = none) (h : (afterAdding module calls).Sound nameOf) :
    ((afterAdding module calls).all.map Import.path).Perm (calls.map Import.path).dedup := by
  refine ((afterAdding module calls).all_perm.map _).trans ?_
  rw [List.perm_ext_iff_of_nodup h.paths_nodup (List.nodup_dedup _)]
  intro p
  simp [afterAdding, mem_paths_addAll hplain, -List.mem_map]

/-! ### The import lists -/

theorem mem_sorted {i : Import} {k : ImportClass} :
    i ∈ table.sorted k ↔ i ∈ table.entries ∧ ImportClass.of i.path table.module = k := by
  rw [sorted, List.mem_mergeSort, mem_bucket, classOf]

/-- Where no path has two entries, the import lists are strictly sorted. -/
theorem sorted_strict (h : (table.entries.map Import.path).Nodup) (k : ImportClass) :
    (table.sorted k).Pairwise fun i j => i.path < j.path := by
  have hle : (table.sorted k).Pairwise fun i j => i.path ≤ j.path := by
    have hd : (table.sorted k).Pairwise fun i j => decide (i.path ≤ j.path) = true :=
      List.pairwise_mergeSort
        (fun a b c hab hbc => by simp only [decide_eq_true_eq] at *; exact hab.trans hbc)
        (fun a b => by simpa using le_total a.path b.path) (table.bucket k)
    exact hd.imp fun hij => of_decide_eq_true hij
  have hne : (table.sorted k).Pairwise fun i j => i.path ≠ j.path := by
    rw [← List.pairwise_map (R := (· ≠ ·)) (f := Import.path)]
    exact (((table.bucket k).mergeSort_perm _).map Import.path).nodup_iff.mpr
      (h.sublist (List.filter_sublist.map _))
  exact (hle.and hne).imp fun hij => lt_of_le_of_ne hij.1 hij.2

/-! ### A whole sequence -/

/-- **Identifiers are distinct and stay.** Along every sequence of imports without a preset alias,
no two entries go by one identifier and no call touches an entry that is there. Where the name of a
package is a function of its path, there is one entry of each path; every call for a path is
answered by that entry, hence by one identifier, and it is the first one that was free at the first
call; and each import list holds the entries of its class, strictly sorted by path. -/
theorem afterAdding_stable (module : String) (calls : List Import)
    (hplain : ∀ c ∈ calls, c.localName = none) :
    (∀ before c after, calls = before ++ c :: after →
      ((afterAdding module before).add c).2.identifiers.Nodup ∧
      (afterAdding module before).entries <+: ((afterAdding module before).add c).2.entries) ∧
    ∀ nameOf : String → String, (∀ c ∈ calls, c.name = nameOf c.path) →
      ((afterAdding module calls).all.map Import.path).Perm (calls.map Import.path).dedup ∧
      (afterAdding module calls).size = (calls.map Import.path).dedup.length ∧
      (∀ before c after, calls = before ++ c :: after →
        (((afterAdding module before).add c).1 ∈ (afterAdding module calls).all ∧
          ((afterAdding module before).add c).1.path = c.path) ∧
        (c.path ∉ before.map Import.path →
          FirstFree (afterAdding module before).identifiers c.name
            ((afterAdding module before).add c).1.ident)) ∧
      (∀ before c between c' after, calls = before ++ c :: (between ++ c' :: after) →
        c'.path = c.path →
          ((afterAdding module (before ++ c :: between)).add c').1.ident =
            ((afterAdding module before).add c).1.ident) ∧
      (∀ i ∈ (afterAdding module calls).all, ∀ k,
        i ∈ (afterAdding module calls).sorted k ↔ ImportClass.of i.path module = k) ∧
      ∀ k, ((afterAdding module calls).sorted k).Pairwise fun i j => i.path < j.path := by
  refine ⟨?_, fun nameOf hname => ?_⟩
  · rintro before c after rfl
    have hc := hplain c (by simp)
    refine ⟨?_, add_extends _ hc⟩
    rw [(identifiers_perm _).nodup_iff]
    exact add_nodup hc (addAll_nodup (fun d hd => hplain d (by simp [hd])) List.nodup_nil)
  have hsound : (afterAdding module calls).Sound nameOf :=
    (Sound.empty module).addAll fun c hc => ⟨hplain c hc, hname c hc⟩
  have hperm := paths_perm_dedup hplain hsound
  -- the answer to a call is the entry of its path at the end
  have hanswer : ∀ before c after, calls = before ++ c :: after →
      ((afterAdding module before).add c).1 ∈ (afterAdding module calls).entries ∧
        ((afterAdding module before).add c).1.path = c.path := by
    rintro before c after rfl
    obtain ⟨hm, hp⟩ := add_fst_mem (afterAdding module before) (hplain c (by simp))
    refine ⟨?_, hp⟩
    have hrest : ((afterAdding module before).add c).2.entries <+:
        (afterAdding module (before ++ c :: after)).entries := by
      simp only [afterAdding, addAll_append, addAll_cons]
      exact addAll_extends fun d hd => hplain d (by simp [hd])
    exact hrest.subset hm
  refine ⟨hperm, ?_, fun before c after e => ⟨?_, ?_⟩, ?_, ?_, ?_⟩
  · simpa [all_perm _ |>.length_eq, size] using hperm.length_eq
  · obtain ⟨hm, hp⟩ := hanswer before c after e
    exact ⟨mem_all.mpr hm, hp⟩
  · intro hnew
    subst e
    have hp : c.path ∉ (afterAdding module before).entries.map Import.path := by
      rw [afterAdding, mem_paths_addAll fun d hd => hplain d (by simp [hd])]
      simpa using hnew
    obtain ⟨i, -, -, hfree, e⟩ := add_of_not_mem _ (hplain c (by simp)) hp
    rwa [e]
  · intro before c between c' after e hp
    obtain ⟨hm, hpath⟩ := hanswer before c _ e
    obtain ⟨hm', hpath'⟩ := hanswer (before ++ c :: between) c' after (by rw [e]; simp)
    rw [hsound.eq_of_path hm' hm (by rw [hpath', hpath, hp])]
  · intro i hi k
    rw [mem_sorted, afterAdding, addAll_module]
    exact ⟨fun h => h.2, fun h => ⟨mem_all.mp hi, h⟩⟩
  · exact sorted_strict hsound.paths_nodup

/-- The two packages that call themselves `log` and the one that looks like an alias of them. -/
theorem afterAdding_stable_log :
    let log1 : Import := ⟨"example.com/app/log1", "log1", none⟩
    let log : Import := ⟨"log", "log", none⟩
    let custom : Import := ⟨"example.org/log", "log", none⟩
    (afterAdding "example.com/app" [log1, log, custom, log1, custom]).size = 3 ∧
      FirstFree (afterAdding "example.com/app" [log1, log]).identifiers "log"
        ((afterAdding "example.com/app" [log1, log]).add custom).1.ident ∧
      ((afterAdding "example.com/app" [log1, log, custom, log1]).add custom).1.ident =
        ((afterAdding "example.com/app" [log1, log]).add custom).1.ident := by
  intro log1 log custom
  have h := (afterAdding_stable "example.com/app" [log1, log, custom, log1, custom]
    (by decide)).2 (fun p => if p = "example.com/app/log1" then "log1" else "log") (by decide)
  obtain ⟨-, hsize, hfirst, hsame, -⟩ := h
  refine ⟨hsize.trans (by decide), (hfirst [log1, log] custom [log1, custom] rfl).2 (by decide), ?_⟩
  exact hsame [log1, log] custom [log1] custom [] rfl rfl

end GoMocks.ImportTable
