import GoMocks.Dependency
import GoMocks.Proofs.ModuleFile.Packages

/-!
# Module files — the longest match

Of some module paths the longest one that holds an import path is taken, and of several entries for
it the last.

* `ImportPath.Holds`, `LeavesRest`: a module path holds the import paths that it is followed in by a
  slash, and its own.
* `ImportPath.IsLongestMatch`: the last of the entries with the longest key that holds a path.
* `ImportPath.longestMatch?_eq_some_iff`: it is the one that is found.
* `GoModule.replacedDir?_eq_some_iff`, `requiredDir?_eq_some_iff`: the directories of packages of
  other modules.
* `ImportPath.longestMatch?_longest`: what is found, and where dependencies are sought.
-/

namespace GoMocks

namespace ImportPath

variable {α : Type} {items : List α} {key : α → String} {module path rest rest' : String} {item : α}

/-! ### Holding a path -/

/-- Is the import path the module path, or is the module path followed in it by a slash? -/
def Holds (module path : String) : Prop :=
  path = module ∨ ∃ rest, path = module ++ "/" ++ rest

/-- Is this what the import path has behind the module path? -/
def LeavesRest (module path rest : String) : Prop :=
  (path = module ∧ rest = "") ∨ path = module ++ "/" ++ rest

/-- What is left of a path inside a module. -/
theorem within?_eq_some_iff_leavesRest :
    within? path module = some rest ↔ LeavesRest module path rest :=
  within?_eq_some_iff

/-- A module holds the paths that have something left inside it. -/
theorem holds_iff : Holds module path ↔ ∃ rest, within? path module = some rest := by
  simp only [within?_eq_some_iff_leavesRest]
  constructor
  · rintro (h | ⟨rest, h⟩)
    · exact ⟨"", .inl ⟨h, rfl⟩⟩
    · exact ⟨rest, .inr h⟩
  · rintro ⟨rest, ⟨h, -⟩ | h⟩
    · exact .inl h
    · exact .inr ⟨rest, h⟩

/-- A module holds what leaves a rest. -/
theorem LeavesRest.holds (h : LeavesRest module path rest) : Holds module path :=
  holds_iff.mpr ⟨rest, within?_eq_some_iff_leavesRest.mpr h⟩

/-- The rest is unique. -/
theorem LeavesRest.unique (h : LeavesRest module path rest) (h' : LeavesRest module path rest') :
    rest' = rest := by
  rw [← within?_eq_some_iff_leavesRest] at h h'
  exact Option.some.inj (h'.symm.trans h)

/-! ### The longest match -/

/-- Is the item the last of those with the longest key that holds the path, and what does the path
have behind the key? -/
structure IsLongestMatch (items : List α) (key : α → String) (path : String) (item : α)
    (rest : String) : Prop where
  leaves  : LeavesRest (key item) path rest
  longest : ∀ other ∈ items, Holds (key other) path →
    (key other).utf8ByteSize ≤ (key item).utf8ByteSize
  last    : ∃ front back, items = front ++ item :: back ∧
    ∀ other ∈ back, Holds (key other) path → (key other).utf8ByteSize < (key item).utf8ByteSize

/-- A step keeps a match only if the next one is shorter. -/
theorem laterIfLonger_some (best next : α × String × Nat) :
    laterIfLonger (some best) next = if next.2.2 < best.2.2 then some best else some next := rfl

/-- **A run of steps keeps the last of the longest.** -/
theorem exists_foldl_laterIfLonger {ms : List (α × String × Nat)} (hne : ms ≠ []) :
    ∃ front m back, ms = front ++ m :: back ∧ ms.foldl laterIfLonger none = some m ∧
      (∀ x ∈ front, x.2.2 ≤ m.2.2) ∧ ∀ x ∈ back, x.2.2 < m.2.2 := by
  induction ms using List.reverseRecOn with
  | nil => exact absurd rfl hne
  | append_singleton ms next ih =>
    rw [List.foldl_append, List.foldl_cons, List.foldl_nil]
    rcases eq_or_ne ms [] with rfl | hms
    · exact ⟨[], next, [], rfl, rfl, by simp, by simp⟩
    obtain ⟨front, m, back, rfl, hm, hfront, hback⟩ := ih hms
    rw [hm, laterIfLonger_some]
    by_cases hshorter : next.2.2 < m.2.2
    · refine ⟨front, m, back ++ [next], by simp, by rw [if_pos hshorter], hfront, ?_⟩
      exact List.forall_mem_append.mpr ⟨hback, by simpa using hshorter⟩
    · have hlonger : m.2.2 ≤ next.2.2 := not_lt.mp hshorter
      refine ⟨front ++ m :: back, next, [], rfl, by rw [if_neg hshorter], ?_, by simp⟩
      refine List.forall_mem_append.mpr ⟨fun x hx => (hfront x hx).trans hlonger, ?_⟩
      exact List.forall_mem_cons.mpr ⟨hlonger, fun x hx => (hback x hx).le.trans hlonger⟩

/-- The items whose key holds the path, each with the rest and the length of the key. -/
def matching (items : List α) (key : α → String) (path : String) : List (α × String × Nat) :=
  items.filterMap fun item =>
    (within? path (key item)).map fun rest => (item, rest, (key item).utf8ByteSize)

/-- The longest match is chosen from left to right. -/
theorem longestMatch?_eq (items : List α) (key : α → String) (path : String) :
    longestMatch? items key path =
      ((matching items key path).foldl laterIfLonger none).map fun m => (m.1, m.2.1) := rfl

/-- An item that holds the path matches. -/
theorem exists_mem_matching (hmem : item ∈ items) (hitem : Holds (key item) path) :
    ∃ rest, (item, rest, (key item).utf8ByteSize) ∈ matching items key path := by
  obtain ⟨rest, hwithin⟩ := holds_iff.mp hitem
  exact ⟨rest, List.mem_filterMap.mpr ⟨item, hmem, by rw [hwithin]; rfl⟩⟩

/-- A match is an item that holds the path. -/
theorem holds_of_mem_matching {m : α × String × Nat} (h : m ∈ matching items key path) :
    ∃ item ∈ items, Holds (key item) path := by
  obtain ⟨item, hmem, hmatch⟩ := List.mem_filterMap.mp h
  obtain ⟨rest, hwithin, -⟩ := Option.map_eq_some_iff.mp hmatch
  exact ⟨item, hmem, holds_iff.mpr ⟨rest, hwithin⟩⟩

/-- Nothing is found only where no key holds the path. -/
theorem longestMatch?_eq_none_iff :
    longestMatch? items key path = none ↔ ∀ item ∈ items, ¬ Holds (key item) path := by
  rw [longestMatch?_eq, Option.map_eq_none_iff]
  constructor
  · intro hnone item hmem hitem
    obtain ⟨rest, hmatch⟩ := exists_mem_matching hmem hitem
    obtain ⟨front, m, back, -, hm, -⟩ := exists_foldl_laterIfLonger (List.ne_nil_of_mem hmatch)
    cases hnone.symm.trans hm
  · intro hno
    have hnil : matching items key path = [] := by
      refine List.eq_nil_iff_forall_not_mem.mpr fun m hm => ?_
      obtain ⟨item, hmem, hitem⟩ := holds_of_mem_matching hm
      exact hno item hmem hitem
    rw [hnil]
    rfl

/-- What is found is the last of the longest. -/
theorem isLongestMatch_of_longestMatch? (h : longestMatch? items key path = some (item, rest)) :
    IsLongestMatch items key path item rest := by
  obtain ⟨⟨_, _, size⟩, hm, hitem⟩ := Option.map_eq_some_iff.mp h
  obtain ⟨rfl, rfl⟩ := Prod.mk.inj hitem
  have hne : matching items key path ≠ [] := fun hnil => by
    change (matching items key path).foldl laterIfLonger none = _ at hm
    rw [hnil] at hm
    cases hm
  obtain ⟨front, m, back, hmatching, hm', hfront, hback⟩ := exists_foldl_laterIfLonger hne
  obtain rfl := Option.some.inj (hm'.symm.trans hm)
  -- back from the matches to the items; what was skipped on the way does not match
  obtain ⟨before, behind, rfl, rfl, hbehind⟩ := List.filterMap_eq_append_iff.mp hmatching
  obtain ⟨skipped, found, after, rfl, hskipped, hfound, rfl⟩ :=
    List.filterMap_eq_cons_iff.mp hbehind
  obtain ⟨_, hrest, hmatch⟩ := Option.map_eq_some_iff.mp hfound
  obtain ⟨rfl, hpair⟩ := Prod.mk.inj hmatch
  obtain ⟨rfl, rfl⟩ := Prod.mk.inj hpair
  have hshorter : ∀ other ∈ after, Holds (key other) path →
      (key other).utf8ByteSize < (key found).utf8ByteSize := fun other hmem hother => by
    obtain ⟨_, hmem⟩ := exists_mem_matching hmem hother
    exact hback _ hmem
  refine ⟨within?_eq_some_iff_leavesRest.mp hrest, fun other hmem hother => ?_,
    before ++ skipped, after, by simp, hshorter⟩
  simp only [List.mem_append, List.mem_cons] at hmem
  rcases hmem with hmem | hmem | rfl | hmem
  · obtain ⟨_, hmem⟩ := exists_mem_matching hmem hother
    exact hfront _ hmem
  · obtain ⟨_, hwithin⟩ := holds_iff.mp hother
    have hnone := hskipped other hmem
    rw [hwithin] at hnone
    cases hnone
  · exact le_rfl
  · exact (hshorter other hmem hother).le

/-- An item that comes first is followed by shorter ones only, so one as long is the same. -/
theorem eq_of_shorter_behind {item' : α} {back back' between : List α}
    (hback : ∀ other ∈ back, Holds (key other) path →
      (key other).utf8ByteSize < (key item).utf8ByteSize)
    (hitem' : Holds (key item') path) (hle : (key item).utf8ByteSize ≤ (key item').utf8ByteSize)
    (heq : item :: back = between ++ item' :: back') : item' = item := by
  cases between with
  | nil => exact (List.cons.inj heq).1.symm
  | cons first between =>
    have hmem : item' ∈ back := by simp [(List.cons.inj heq).2]
    exact absurd (hback item' hmem hitem') hle.not_gt

/-- No two items are the last of the longest, and the path has one rest behind the key. -/
theorem IsLongestMatch.unique {item' : α} (h : IsLongestMatch items key path item rest)
    (h' : IsLongestMatch items key path item' rest') : item' = item ∧ rest' = rest := by
  obtain ⟨front, back, hitems, hback⟩ := h.last
  obtain ⟨front', back', hitems', hback'⟩ := h'.last
  have hle := h.longest item' (by simp [hitems']) h'.leaves.holds
  have hle' := h'.longest item (by simp [hitems]) h.leaves.holds
  obtain rfl : item' = item := by
    rcases List.append_eq_append_iff.mp (hitems.symm.trans hitems') with
      ⟨between, -, heq⟩ | ⟨between, -, heq⟩
    · exact eq_of_shorter_behind hback h'.leaves.holds hle' heq
    · exact (eq_of_shorter_behind hback' h.leaves.holds hle heq).symm
  exact ⟨rfl, h.leaves.unique h'.leaves⟩

/-- **The last of the items with the longest key that holds the path is found.** -/
theorem longestMatch?_eq_some_iff :
    longestMatch? items key path = some (item, rest) ↔
      IsLongestMatch items key path item rest := by
  refine ⟨isLongestMatch_of_longestMatch?, fun h => ?_⟩
  cases hfound : longestMatch? items key path with
  | none =>
    obtain ⟨front, back, hitems, -⟩ := h.last
    exact absurd h.leaves.holds (longestMatch?_eq_none_iff.mp hfound item (by simp [hitems]))
  | some found =>
    obtain ⟨hitem, hrest⟩ := h.unique (isLongestMatch_of_longestMatch? hfound)
    exact congrArg some (Prod.ext hitem hrest)

end ImportPath

/-! ### Dependencies -/

/-- The directory that a replaced module is read from. -/
def Replacement.dir? (env : Environment) : Replacement → Option Path
  | .directory dir       => some dir
  | .module path version => env.cacheDir? path version

namespace GoModule

open ImportPath (IsLongestMatch longestMatch? longestMatch?_eq_some_iff)

variable {m : GoModule} {t : FileTree} {env : Environment} {path : String} {dir : Path}

/-- Does the directory lie at the rest of the path, below the directory of the entry with the longest
module path that holds it? -/
def LiesInLongest {α : Type} (entries : List (String × α)) (dirOf? : String × α → Option Path)
    (path : String) (dir : Path) : Prop :=
  ∃ entry rest base, IsLongestMatch entries Prod.fst path entry rest ∧
    dirOf? entry = some base ∧ dir = below base rest

/-- The directory below that of the entry that is found. -/
theorem bind_longestMatch?_eq_some_iff {α : Type} {entries : List (String × α)}
    (dirOf? : String × α → Option Path) :
    ((longestMatch? entries Prod.fst path).bind fun found =>
        (dirOf? found.1).map (below · found.2)) = some dir ↔
      LiesInLongest entries dirOf? path dir := by
  rw [Option.bind_eq_some_iff]
  constructor
  · rintro ⟨⟨entry, rest⟩, hfound, hdir⟩
    obtain ⟨base, hbase, rfl⟩ := Option.map_eq_some_iff.mp hdir
    exact ⟨entry, rest, base, longestMatch?_eq_some_iff.mp hfound, hbase, rfl⟩
  · rintro ⟨entry, rest, base, hlongest, hbase, rfl⟩
    exact ⟨(entry, rest), longestMatch?_eq_some_iff.mpr hlongest,
      Option.map_eq_some_iff.mpr ⟨base, hbase, rfl⟩⟩

/-- A package of a replaced module lies in what the longest of the replaced ones stands for. -/
theorem replacedDir?_eq_some_iff :
    m.replacedDir? env path = some dir ↔
      LiesInLongest m.replacements (·.2.dir? env) path dir := by
  have hbind : m.replacedDir? env path =
      (longestMatch? m.replacements Prod.fst path).bind fun found =>
        (found.1.2.dir? env).map (below · found.2) := by
    refine Option.bind_congr fun ⟨⟨_, target⟩, rest⟩ _ => ?_
    cases target with
    | directory base => rfl
    | module new version => exact Option.map_eq_bind.symm
  rw [hbind]
  exact bind_longestMatch?_eq_some_iff fun entry => Replacement.dir? env entry.2

/-- A package of a required module lies in the version of the longest of the required ones. -/
theorem requiredDir?_eq_some_iff :
    m.requiredDir? env path = some dir ↔
      LiesInLongest m.requirements (fun entry => env.cacheDir? entry.1 entry.2) path dir := by
  have hbind : m.requiredDir? env path =
      (longestMatch? m.requirements Prod.fst path).bind fun found =>
        (env.cacheDir? found.1.1 found.1.2).map (below · found.2) := by
    exact Option.bind_congr fun _ _ => Option.map_eq_bind.symm
  rw [hbind]
  exact bind_longestMatch?_eq_some_iff fun entry => env.cacheDir? entry.1 entry.2

/-- Where the directory of an imported package may lie. -/
theorem locate?_cases (h : m.locate? t env path = some dir) :
    m.packageDir? path = some dir ∨ m.contains path = false ∧
      (m.replacedDir? env path = some dir ∨ m.vendoredDir path = dir ∨
        m.requiredDir? env path = some dir ∨ standardDir? t env path = some dir) := by
  rw [locate?] at h
  cases hpackage : m.packageDir? path with
  | some own =>
    simp only [hpackage, Option.ite_none_right_eq_some] at h
    exact .inl h.2
  | none =>
    simp only [hpackage] at h
    have hcontains : m.contains path = false := by
      simpa [packageDir?, contains] using hpackage
    refine .inr ⟨hcontains, ?_⟩
    simpa [dependencyDirs, eq_comm] using List.mem_of_find?_eq_some h

end GoModule

/-- **An import path is matched with the longest module path that holds it**, if there is one, and
with the last of the entries for it. The rest behind the module path is the only one. A module path
holds no path that goes on behind it without a slash. So a package of a replaced module lies in the
one with the longest path among the replaced modules, and one of a required module in that with the
longest path among the required ones. A dependency that is located lies in one of these, among the
packages that the module brings along, or in the standard library. -/
theorem ImportPath.longestMatch?_longest :
    (∀ {α : Type} (items : List α) (key : α → String) (path : String),
      (longestMatch? items key path = none ↔ ∀ item ∈ items, ¬ Holds (key item) path) ∧
      (∀ item rest, longestMatch? items key path = some (item, rest) ↔
        IsLongestMatch items key path item rest) ∧
      ∀ item rest, IsLongestMatch items key path item rest →
        ∀ rest', LeavesRest (key item) path rest' → rest' = rest) ∧
    (∀ module suffix, suffix ≠ "" → suffix.toList.head? ≠ some '/' →
      ¬ Holds module (module ++ suffix)) ∧
    ∀ (m : GoModule) (env : Environment) (path : String) (dir : Path),
      (m.replacedDir? env path = some dir ↔
        GoModule.LiesInLongest m.replacements (·.2.dir? env) path dir) ∧
      (m.requiredDir? env path = some dir ↔
        GoModule.LiesInLongest m.requirements (fun e => env.cacheDir? e.1 e.2) path dir) ∧
      ∀ t, m.locate? t env path = some dir →
        m.packageDir? path = some dir ∨ m.contains path = false ∧
          (m.replacedDir? env path = some dir ∨ m.vendoredDir path = dir ∨
            m.requiredDir? env path = some dir ∨ GoModule.standardDir? t env path = some dir) := by
  refine ⟨fun items key path => ⟨longestMatch?_eq_none_iff, fun item rest =>
    longestMatch?_eq_some_iff, fun item rest h rest' h' => h.leaves.unique h'⟩,
    fun module suffix hne hslash hholds => ?_, fun m env path dir =>
      ⟨GoModule.replacedDir?_eq_some_iff, GoModule.requiredDir?_eq_some_iff,
        fun t => GoModule.locate?_cases⟩⟩
  have hcontains := (GoModule.contains_iff { path := module, dir := ⟨""⟩ } _).mpr hholds
  rw [GoModule.not_contains_append hne hslash] at hcontains
  cases hcontains

/-- Two entries for the longest module path, and one for a path that goes on without a slash. -/
theorem ImportPath.longestMatch?_longest_nested :
    let m : GoModule := {
      path := "example.com/app", dir := ⟨"/app"⟩
      replacements := [("example.com/a", .directory ⟨"/a"⟩),
        ("example.com/a/b", .directory ⟨"/old"⟩), ("example.com/a/b", .directory ⟨"/new"⟩),
        ("example.com/a/bc", .directory ⟨"/bc"⟩)] }
    let t : FileTree := { entries := [(["new"], .directory), (["new", "c"], .directory)] }
    let path := "example.com/a/b/c"
    (longestMatch? m.replacements Prod.fst path =
        some (("example.com/a/b", .directory ⟨"/new"⟩), "c") ∧
      IsLongestMatch m.replacements Prod.fst path ("example.com/a/b", .directory ⟨"/new"⟩) "c" ∧
      LeavesRest "example.com/a/b" path "c" ∧
      ∀ rest, LeavesRest "example.com/a/b" path rest → rest = "c") ∧
    ¬ Holds "example.com/a/b" ("example.com/a/b" ++ "c") ∧
    GoModule.LiesInLongest m.replacements (·.2.dir? {}) path ⟨"/new/c"⟩ ∧
    m.locate? t {} path = some ⟨"/new/c"⟩ ∧ m.contains path = false := by
  intro m t path
  obtain ⟨hmatch, hborder, hdependency⟩ := longestMatch?_longest
  obtain ⟨-, hsome, hunique⟩ := hmatch m.replacements Prod.fst path
  obtain ⟨hreplaced, -, hlocate⟩ := hdependency m {} path ⟨"/new/c"⟩
  have hfound : longestMatch? m.replacements Prod.fst path =
      some (("example.com/a/b", .directory ⟨"/new"⟩), "c") := by decide
  have hlongest := (hsome _ _).mp hfound
  have hlocated : m.locate? t {} path = some ⟨"/new/c"⟩ := by decide
  have hother : m.packageDir? path ≠ some ⟨"/new/c"⟩ := by decide
  exact ⟨⟨hfound, hlongest, hlongest.leaves, hunique _ _ hlongest⟩,
    hborder _ _ (by decide) (by decide), hreplaced.mp (by decide), hlocated,
    ((hlocate t hlocated).resolve_left hother).1⟩

/-- What is replaced comes first. A package is read from the replaced module, although the path of
one that is required and downloaded holds it too and is longer. -/
theorem GoModule.locate?_in_shorter :
    let short := "r.io/a"
    let long := "r.io/a/b"
    let m : GoModule := {
      path := "m", dir := ⟨"/m"⟩
      replacements := [(short, .directory ⟨"/m/./a"⟩)]
      requirements := [(short, "v0.0.0"), (long, "v1.0.0")] }
    let env : Environment := { goModCache := some "/cache" }
    let t : FileTree := { entries := [["m"], ["m", "a"], ["m", "a", "b"], ["m", "a", "b", "c"],
      ["cache"], ["cache", "r.io"], ["cache", "r.io", "a"], ["cache", "r.io", "a", "b@v1.0.0"],
      ["cache", "r.io", "a", "b@v1.0.0", "c"]].map (·, .directory) }
    let path := "r.io/a/b/c"
    parse "module m\nrequire r.io/a v0.0.0\nrequire r.io/a/b v1.0.0\nreplace r.io/a => ./a\n" m.dir =
        .ok m ∧
      (short.utf8ByteSize < long.utf8ByteSize ∧ ImportPath.Holds short path ∧
        ImportPath.Holds long path) ∧
      (m.requiredDir? env path = some ⟨"/cache/r.io/a/b@v1.0.0/c"⟩ ∧
        t.isDirectory ⟨"/cache/r.io/a/b@v1.0.0/c"⟩ = true) ∧
      m.replacedDir? env path = some ⟨"/m/./a/b/c"⟩ ∧
      m.locate? t env path = some ⟨"/m/./a/b/c"⟩ := by
  intro short long m env t path
  have hshort : ImportPath.Holds short path := .inr ⟨"b/c", by decide⟩
  have hlong : ImportPath.Holds long path := .inr ⟨"c", by decide⟩
  exact ⟨by decide +kernel, ⟨by decide, hshort, hlong⟩, ⟨by decide +kernel, by decide +kernel⟩,
    by decide +kernel, by decide +kernel⟩

end GoMocks
