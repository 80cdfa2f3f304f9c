import GoMocks.Proofs.Pattern

/-!
# Patterns — all directories below a place

A pattern that ends in dots is answered by a walk. Whether a directory is listed depends on its own
Go sources and on the names of the directories that lead to it from the base, which is exempt. The
walk enters a directory before those below it and takes these by name, so it lists no directory
twice.

* `Location.Before`: the order of a walk.
* `FileTree.isApart_eq_false_iff`: the directories that a walk enters.
* `FileTree.packageDirs_before`: a walk lists directories in this order.
* `GoModule.matchedDirs_recursive`: the directories that a pattern with dots matches.
-/

namespace GoMocks

namespace Location

/-- A place comes before those below it, and of two ways that part, the one that goes on by the
smaller name comes first. -/
def Before (l m : Location) : Prop :=
  (∃ name rest, m = l ++ name :: rest) ∨
    ∃ front a as b bs, l = front ++ a :: as ∧ m = front ++ b :: bs ∧ a < b

/-- No location comes before itself. -/
theorem not_before_self (l : Location) : ¬ l.Before l := by
  rintro (⟨name, rest, h⟩ | ⟨front, a, as, b, bs, rfl, h, hab⟩)
  · simp at h
  · obtain ⟨rfl, -⟩ := List.cons.inj (List.append_cancel_left h)
    exact lt_irrefl a hab

end Location

namespace FileTree

variable {t : FileTree} {l : Location} {name : String}

/-- A walk enters a directory unless its name or a module file in it sets it apart. -/
theorem isApart_eq_false_iff :
    t.isApart l name = false ↔
      name.toList.head? ≠ some '.' ∧ name.toList.head? ≠ some '_' ∧ name ≠ "testdata" ∧
        name ≠ "vendor" ∧ ∀ content, t.entry? (l ++ [name, GoModule.fileName]) ≠
          some (.file content) := by
  have hmodule : t.fileAt (l ++ [name, GoModule.fileName]) = false ↔
      ∀ content, t.entry? (l ++ [name, GoModule.fileName]) ≠ some (.file content) := by
    rw [← Bool.not_eq_true, fileAt_iff, not_exists]
  simp only [isApart, Bool.or_eq_false_iff, hmodule, beq_eq_false_iff_ne, ne_eq, and_assoc]

/-- Subdirectories are listed in order. -/
theorem subdirectories_inOrder (t : FileTree) (l : Location) :
    (t.subdirectories l).Pairwise (· < ·) :=
  List.Pairwise.filter _ (sortByKey_strict id _)

/-- The directories of packages are listed in order. -/
theorem packageDirsWithin_before (t : FileTree) (levels : Nat) (l : Location) :
    (t.packageDirsWithin levels l).Pairwise Location.Before := by
  induction levels generalizing l with
  | zero => exact .nil
  | succ levels ih =>
    have hbelow : ∀ {name m}, m ∈ t.packageDirsWithin levels (l ++ [name]) →
        ∃ rest, m = l ++ name :: rest := by
      intro name m hm
      obtain ⟨rest, rfl, -⟩ := mem_packageDirsWithin.mp hm
      exact ⟨rest, by simp⟩
    rw [packageDirsWithin]
    refine List.pairwise_append.mpr ⟨?_, List.pairwise_flatMap.mpr ⟨fun name _ => ih _, ?_⟩, ?_⟩
    · split
      · exact .nil
      · exact List.pairwise_singleton _ _
    · refine (subdirectories_inOrder t l).imp fun {a b} hab m hm m' hm' => ?_
      obtain ⟨as, rfl⟩ := hbelow hm
      obtain ⟨bs, rfl⟩ := hbelow hm'
      exact .inr ⟨l, a, as, b, bs, rfl, rfl, hab⟩
    · intro m hm m' hm'
      obtain ⟨name, -, hm'⟩ := List.mem_flatMap.mp hm'
      obtain ⟨rest, rfl⟩ := hbelow hm'
      split at hm
      · cases hm
      · exact List.mem_singleton.mp hm ▸ .inl ⟨name, rest, rfl⟩

/-- **A walk lists a directory before those below it, and siblings by name.** -/
theorem packageDirs_before (t : FileTree) (l : Location) :
    (t.packageDirs l).Pairwise Location.Before :=
  packageDirsWithin_before t _ l

end FileTree

namespace GoModule

variable {m : GoModule} {t : FileTree} {root dir : Path} {pattern : String} {l : Location}

/-- **The directories that a pattern with dots matches.** If its base is a directory of the module,
these are the directories at or below the base that hold a Go source themselves and are reached from
there by directories none of which is hidden, test data, vendored, or a module of its own. Whether
those on the way hold Go sources does not matter. Each is listed once, before those below it, and
siblings by name. -/
theorem matchedDirs_recursive (hrecursive : Pattern.isRecursive pattern = true)
    (hdir : m.baseDir root pattern = .ok dir) (hfind : t.find dir = .ok (l, .directory))
    (hmodule : l.path.startsWith m.dir = true) :
    ∃ ls, m.matchedDirs t root pattern = .ok ls ∧
      (∀ d, d ∈ ls ↔ ∃ names, d = l ++ names ∧
        (∃ file content, isGoSource file = true ∧ t.entry? (d ++ [file]) = some (.file content)) ∧
        ∀ front name back, names = front ++ name :: back →
          t.entry? (l ++ front ++ [name]) = some .directory ∧
            name.toList.head? ≠ some '.' ∧ name.toList.head? ≠ some '_' ∧ name ≠ "testdata" ∧
            name ≠ "vendor" ∧
            ∀ content, t.entry? (l ++ front ++ [name, GoModule.fileName]) ≠
              some (.file content)) ∧
      ls.Nodup ∧ ls.Pairwise Location.Before := by
  have hbase : m.basePlace t root pattern = .ok l :=
    basePlace_eq_ok_iff.mpr ⟨dir, hdir, hfind, hmodule⟩
  have hbefore := FileTree.packageDirs_before t l
  refine ⟨t.packageDirs l, matchedDirs_eq_ok_iff.mpr ⟨l, hbase, by rw [if_pos hrecursive]⟩,
    fun d => ?_, hbefore.imp fun {a b} hab => ?_, hbefore⟩
  · have hsource : t.goFileNames d ≠ [] ↔ ∃ file content, isGoSource file = true ∧
        t.entry? (d ++ [file]) = some (.file content) := by
      simp only [← FileTree.mem_goFileNames, exists_and_left]
      exact ⟨List.exists_mem_of_ne_nil _, fun ⟨_, hfile⟩ => List.ne_nil_of_mem hfile⟩
    rw [FileTree.mem_packageDirs]
    refine exists_congr fun names => and_congr_right fun _ => ?_
    rw [hsource, and_comm]
    simp only [FileTree.Reaches, FileTree.isApart_eq_false_iff]
  · rintro rfl
    exact Location.not_before_self a hab

/-- A module with a directory of each kind that is left out, and a directory without Go sources
above one with a source. -/
def sortedTree : FileTree where
  entries :=
    [(["m"], .directory), (["m", "go.mod"], .file "module m\n".toUTF8),
      (["m", "m.go"], .file "package m\n".toUTF8),
      (["m", "vendor"], .directory), (["m", "vendor", "v.go"], .file "package v\n".toUTF8),
      (["m", "docs"], .directory), (["m", "docs", "z"], .directory),
      (["m", "docs", "z", "z.go"], .file "package z\n".toUTF8),
      (["m", "n"], .directory), (["m", "n", "go.mod"], .file "module n\n".toUTF8),
      (["m", "n", "n.go"], .file "package n\n".toUTF8),
      (["m", "_old"], .directory), (["m", "_old", "o.go"], .file "package old\n".toUTF8),
      (["m", "a"], .directory), (["m", "a", "a_test.go"], .file "package a\n".toUTF8),
      (["m", "b"], .directory), (["m", "b", "b.go"], .file "package b\n".toUTF8)]
  current := ["m"]

/-- The walk from the module's own directory, which may have a module file. -/
theorem matchedDirs_recursive_module :
    let m : GoModule := { path := "m", dir := ⟨"/m"⟩ }
    Pattern.isRecursive "./..." = true ∧ m.baseDir ⟨"/m"⟩ "./..." = .ok ⟨"/m/."⟩ ∧
      sortedTree.find ⟨"/m/."⟩ = .ok (["m"], .directory) ∧ (Location.path ["m"]).startsWith m.dir = true ∧
      ∃ ls, m.matchedDirs sortedTree ⟨"/m"⟩ "./..." = .ok ls ∧
        ls = [["m"], ["m", "b"], ["m", "docs", "z"]] ∧ ls.Nodup ∧ ls.Pairwise Location.Before := by
  intro m
  have hdir : m.baseDir ⟨"/m"⟩ "./..." = .ok ⟨"/m/."⟩ := by decide +kernel
  have hfind : sortedTree.find ⟨"/m/."⟩ = .ok (["m"], .directory) := by rfl
  have hmodule : (Location.path ["m"]).startsWith m.dir = true := by decide +kernel
  obtain ⟨ls, hls, -, hnodup, hbefore⟩ :=
    matchedDirs_recursive (t := sortedTree) (by decide +kernel) hdir hfind hmodule
  have hlist : m.matchedDirs sortedTree ⟨"/m"⟩ "./..." =
      .ok [["m"], ["m", "b"], ["m", "docs", "z"]] := by decide +kernel
  exact ⟨by decide +kernel, hdir, hfind, hmodule, ls, hls,
    Except.ok.inj (hls.symm.trans hlist), hnodup, hbefore⟩

end GoModule

end GoMocks
