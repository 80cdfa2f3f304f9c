import GoMocks.Pattern
import GoMocks.Proofs.FileTree

/-!
# Patterns — the directories they match

A pattern matches directories with Go sources: the one it begins at, and where it ends in dots all
those below it that are reached by directories which are not apart.

* `FileTree.mem_goFileNames`: the Go sources of a directory.
* `FileTree.mem_packageDirs`: the directories with Go sources below a place.
* `GoModule.matchedDirs_eq_ok_iff`: the directories that a pattern matches.
-/

namespace GoMocks

namespace FileTree

variable {t : FileTree} {l m : Location} {name : String}

theorem fileAt_iff : t.fileAt l = true ↔ ∃ content, t.entry? l = some (.file content) := by
  rw [fileAt]
  rcases t.entry? l with _ | ⟨content⟩ | _ <;> simp

theorem directoryAt_iff : t.directoryAt l = true ↔ t.entry? l = some .directory := by
  rw [directoryAt]
  rcases t.entry? l with _ | ⟨content⟩ | _ <;> simp

/-- The Go sources of a directory are its files with a name for it. -/
theorem mem_goFileNames :
    name ∈ t.goFileNames l ↔
      isGoSource name = true ∧ ∃ content, t.entry? (l ++ [name]) = some (.file content) := by
  rw [goFileNames, List.mem_filter, mem_namesAt, Bool.and_eq_true, fileAt_iff]
  refine ⟨And.right, fun h => ⟨?_, h⟩⟩
  obtain ⟨-, content, h⟩ := h
  simp [h]

/-- The names on the way from a place to one below it are directories, none of them apart. -/
def Reaches (t : FileTree) (l : Location) (names : List String) : Prop :=
  ∀ a name b, names = a ++ name :: b →
    t.entry? (l ++ a ++ [name]) = some .directory ∧ t.isApart (l ++ a) name = false

theorem reaches_nil : t.Reaches l [] := fun a name b h => absurd h (by simp)

/-- The first step of a way down. -/
theorem reaches_cons {names : List String} :
    t.Reaches l (name :: names) ↔
      name ∈ t.subdirectories l ∧ t.Reaches (l ++ [name]) names := by
  have hmem : name ∈ t.subdirectories l ↔
      t.entry? (l ++ [name]) = some .directory ∧ t.isApart l name = false := by
    rw [subdirectories, List.mem_filter, mem_namesAt, Bool.and_eq_true, directoryAt_iff,
      Bool.not_eq_true']
    exact ⟨And.right, fun h => ⟨by simp [h.1], h⟩⟩
  rw [hmem]
  constructor
  · refine fun h => ⟨by simpa using h [] name names rfl, fun a n b e => ?_⟩
    simpa using h (name :: a) n b (by simp [e])
  · rintro ⟨hname, hnames⟩ a n b e
    cases a with
    | nil =>
      obtain ⟨rfl, -⟩ := List.cons.inj e
      simpa using hname
    | cons s a =>
      obtain ⟨rfl, hrest⟩ := List.cons.inj e
      simpa using hnames a n b hrest

/-- The directories of packages that are few enough steps below. -/
theorem mem_packageDirsWithin {levels : Nat} :
    m ∈ t.packageDirsWithin levels l ↔
      ∃ names, m = l ++ names ∧ names.length < levels ∧ t.Reaches l names ∧
        t.goFileNames m ≠ [] := by
  -- the walk lists its own directory, if it holds sources, before those below it
  induction levels generalizing l with
  | zero => simp [packageDirsWithin]
  | succ levels ih =>
    rw [packageDirsWithin, List.mem_append]
    constructor
    · rintro (h | h)
      · by_cases hl : (t.goFileNames l).isEmpty = true
        · rw [if_pos hl] at h
          exact nomatch h
        · rw [if_neg hl, List.mem_singleton] at h
          subst h
          exact ⟨[], by simp, by simp, reaches_nil, by simpa using hl⟩
      · obtain ⟨name, hname, hm⟩ := List.mem_flatMap.mp h
        obtain ⟨names, rfl, hlength, hreaches, hgo⟩ := ih.mp hm
        refine ⟨name :: names, by simp, by simpa using hlength,
          reaches_cons.mpr ⟨hname, hreaches⟩, hgo⟩
    · rintro ⟨names, rfl, hlength, hreaches, hgo⟩
      cases names with
      | nil =>
        rw [List.append_nil] at hgo ⊢
        exact .inl (by simp [hgo])
      | cons name names =>
        obtain ⟨hname, hreaches⟩ := reaches_cons.mp hreaches
        refine .inr (List.mem_flatMap.mpr ⟨name, hname, ih.mpr ⟨names, by simp, ?_, hreaches, hgo⟩⟩)
        simpa using hlength

/-- No entry lies deeper than the tree. -/
theorem length_le_depth (h : t.entry? l ≠ none) : l.length ≤ t.depth := by
  rcases eq_or_ne l [] with rfl | hl
  · exact Nat.zero_le _
  have hmem : ∃ e ∈ t.entries, e.1 = l := by
    by_contra hnone
    exact h ((entry?_eq_none hl).mpr fun e he heq => hnone ⟨e, he, heq⟩)
  obtain ⟨e, he, rfl⟩ := hmem
  have hmax : ∀ (ns : List Nat) (a : Nat), a ≤ ns.foldl max a ∧ ∀ n ∈ ns, n ≤ ns.foldl max a := by
    intro ns
    induction ns with
    | nil => exact fun a => ⟨le_rfl, nofun⟩
    | cons n ns ih =>
      intro a
      obtain ⟨ha, hns⟩ := ih (max a n)
      refine ⟨(le_max_left a n).trans ha, List.forall_mem_cons.mpr ⟨(le_max_right a n).trans ha, hns⟩⟩
  exact (hmax _ 0).2 _ (List.mem_map_of_mem he)

/-- **The directories with Go sources below a place.** No bound is left on how deep they lie. -/
theorem mem_packageDirs :
    m ∈ t.packageDirs l ↔ ∃ names, m = l ++ names ∧ t.Reaches l names ∧ t.goFileNames m ≠ [] := by
  rw [packageDirs, mem_packageDirsWithin]
  refine exists_congr fun names => and_congr_right fun hm => ?_
  refine ⟨And.right, fun h => ⟨?_, h⟩⟩
  obtain ⟨name, hname⟩ := List.exists_mem_of_ne_nil _ h.2
  obtain ⟨-, content, hentry⟩ := mem_goFileNames.mp hname
  have hdepth : (m ++ [name]).length ≤ t.depth := length_le_depth (by rw [hentry]; exact nofun)
  simp only [hm, List.length_append, List.length_singleton] at hdepth
  omega

/-- What is reached from a directory is a directory. -/
theorem Reaches.directory {names : List String} (h : t.Reaches l names)
    (hl : t.entry? l = some .directory) : t.entry? (l ++ names) = some .directory := by
  rcases List.eq_nil_or_concat names with rfl | ⟨front, name, rfl⟩
  · simpa using hl
  · simpa using (h front name [] (by simp)).1

end FileTree

namespace GoModule

variable {m : GoModule} {t : FileTree} {root : Path} {pattern : String} {l l' : Location}
  {ls : List Location}

/-- The base of a pattern is a directory inside the module. -/
theorem basePlace_eq_ok_iff :
    m.basePlace t root pattern = .ok l ↔
      ∃ dir, m.baseDir root pattern = .ok dir ∧ t.find dir = .ok (l, .directory) ∧
        l.path.startsWith m.dir = true := by
  rw [basePlace]
  cases m.baseDir root pattern with
  | error fault => exact ⟨nofun, fun ⟨_, h, _⟩ => nomatch h⟩
  | ok dir =>
    simp only [bind, Except.bind, Except.ok.injEq, exists_eq_left']
    rcases t.find dir with fault | ⟨l', content | _⟩
    · exact ⟨nofun, fun h => nomatch h.1⟩
    · exact ⟨nofun, fun h => nomatch h.1⟩
    · dsimp only
      split
      · next hin =>
        refine ⟨fun h => ?_, fun h => ?_⟩
        · obtain rfl := Except.ok.inj h
          exact ⟨rfl, hin⟩
        · rw [(Prod.mk.inj (Except.ok.inj h.1)).1]
          rfl
      · next hin =>
        refine ⟨nofun, fun h => absurd h.2 ?_⟩
        rwa [← (Prod.mk.inj (Except.ok.inj h.1)).1]

/-- **The directories that a pattern matches**: the one it begins at, or those with Go sources below
it. -/
theorem matchedDirs_eq_ok_iff :
    m.matchedDirs t root pattern = .ok ls ↔
      ∃ l, m.basePlace t root pattern = .ok l ∧
        if Pattern.isRecursive pattern = true then ls = t.packageDirs l
        else t.goFileNames l ≠ [] ∧ ls = [l] := by
  rw [matchedDirs]
  cases m.basePlace t root pattern with
  | error fault => exact ⟨nofun, fun ⟨_, h, _⟩ => nomatch h⟩
  | ok l =>
    simp only [bind, Except.bind, Except.ok.injEq, exists_eq_left']
    split
    · exact ⟨fun h => (Except.ok.inj h).symm, fun h => congrArg _ h.symm⟩
    · cases hgo : t.goFileNames l with
      | nil => exact ⟨nofun, fun h => absurd rfl h.1⟩
      | cons name names =>
        exact ⟨fun h => ⟨nofun, (Except.ok.inj h).symm⟩, fun h => congrArg Except.ok h.2.symm⟩

/-- What a pattern matches are directories. -/
theorem directory_of_mem_matchedDirs (h : m.matchedDirs t root pattern = .ok ls) (hl : l ∈ ls) :
    t.entry? l = some .directory := by
  obtain ⟨base, hbase, hls⟩ := matchedDirs_eq_ok_iff.mp h
  obtain ⟨dir, -, hfind, -⟩ := basePlace_eq_ok_iff.mp hbase
  have hdir : t.entry? base = some .directory := FileTree.entry?_of_find hfind
  split at hls
  · subst hls
    obtain ⟨names, rfl, hreaches, -⟩ := FileTree.mem_packageDirs.mp hl
    exact hreaches.directory hdir
  · obtain ⟨-, rfl⟩ := hls
    exact List.mem_singleton.mp hl ▸ hdir

/-- There are Go sources in them. -/
theorem goFileNames_ne_nil_of_mem_matchedDirs (h : m.matchedDirs t root pattern = .ok ls)
    (hl : l ∈ ls) : t.goFileNames l ≠ [] := by
  obtain ⟨base, -, hls⟩ := matchedDirs_eq_ok_iff.mp h
  split at hls
  · subst hls
    obtain ⟨_, rfl, -, hne⟩ := FileTree.mem_packageDirs.mp hl
    exact hne
  · obtain ⟨hne, rfl⟩ := hls
    exact List.mem_singleton.mp hl ▸ hne

end GoModule

end GoMocks
