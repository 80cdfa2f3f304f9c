import GoMocks.Proofs.Loading.History

/-!
# Loading — patterns together and alone

Patterns are loaded one after the other, and what each of them comes to is what it comes to alone.
So the packages are the union of those of the patterns, and only the directories matter that the
patterns name, not how they are spelled, in which order, and how often.

* `Loader.Names`: a pattern names a directory by a path that leads there, or by its import path;
  `Loader.Respells`: two patterns name the same directory.
* `Loader.basePlace_of_names`: it begins at this directory, if that is one of the module.
* `Loader.mem_outcome_loadPackages`: the packages that patterns name together.
* `Loader.loadPackages_union`: patterns together and alone.
-/

namespace GoMocks

theorem exceptMap_eq_ok_iff {ε α β : Type} {x : Except ε α} {f : α → β} {b : β} :
    x.map f = .ok b ↔ ∃ a, x = .ok a ∧ f a = b := by
  cases x with
  | error e => exact ⟨nofun, fun ⟨_, h, _⟩ => nomatch h⟩
  | ok a    => exact ⟨fun h => ⟨a, rfl, Except.ok.inj h⟩, fun ⟨_, h, hb⟩ =>
      congrArg _ (Except.ok.inj h ▸ hb)⟩

theorem exceptMap_eq_error_iff {ε α β : Type} {x : Except ε α} {f : α → β} {e : ε} :
    x.map f = .error e ↔ x = .error e := by
  cases x with
  | error e' =>
    exact ⟨fun h => congrArg _ (Except.error.inj h), fun h => congrArg _ (Except.error.inj h)⟩
  | ok a     => exact ⟨nofun, nofun⟩

variable {t : FileTree}

/-! ### Where patterns begin -/

namespace FileTree

/-- A relative path is followed from the place it is joined to. -/
theorem IsSound.place_join (h : t.IsSound) {r : Location} (hr : t.entry? r ≠ none) {q : String}
    (hq : (Path.mk q).isAbsolute = false) :
    t.place (r.path.join ⟨q⟩) = t.walk r (Path.mk q).parts := by
  have hproper : r.IsProper := h.proper hr
  have hchild : r.path.join ⟨q⟩ = Location.path (r ++ [q]) :=
    Path.path_child hq fun s hs =>
      let hs : IsFileName s := hproper s (List.mem_of_getLast? hs)
      ⟨hs.ne_nil, hs.getLast?_ne⟩
  have htext : (Location.path (r ++ [q])).text.isEmpty = false := by
    simp [← String.toList_eq_nil_iff, Path.toList_path]
  have hparts : (Location.path (r ++ [q])).parts = r.map String.toList ++ (Path.mk q).parts := by
    rw [Path.parts_path (by simp), List.flatMap_append,
      List.flatMap_congr fun s hs => List.splitOn_eq_singleton (hproper s hs).2.2,
      ← List.map_eq_flatMap, Path.parts, hq]
    simp
  have hwalk : t.walk [] (r.map String.toList) = .ok r :=
    (walk_names_eq_ok_iff hproper).mpr ⟨rfl, fun a b hab hb => h.ancestor hr hab hb⟩
  rw [hchild, place, htext, if_neg (by simp), start, if_pos (Path.isAbsolute_path _), hparts,
    walk_append, hwalk]
  rfl

end FileTree

/-- Of proper locations, one path starts with the other when the location lies above. -/
theorem Path.startsWith_path {l r : Location} (hl : l.IsProper) (hr : r.IsProper) :
    l.path.startsWith r.path = true ↔ r <+: l := by
  rw [startsWith, components_path hl, components_path hr, List.isPrefixOf_iff_prefix,
    List.cons_prefix_cons, and_iff_right rfl,
    List.prefix_map_iff_of_injective fun a b h => by simpa using h]

namespace Loader

variable {env : Environment} {dir : Path} {loader : Loader} {pattern pattern' : String}
  {patterns patterns' : List String} {l r d : Location}

/-- A loader for the module in the directory `d`, which looks at patterns from the place `r`. -/
structure Placed (t : FileTree) (loader : Loader) (r d : Location) : Prop where
  root   : loader.root = r.path
  entry  : t.entry? r ≠ none
  dir    : loader.module.dir = d.path
  proper : d.IsProper

/-- A loader has the module found from its directory. -/
theorem find_of_ofDirectory (h : ofDirectory t env dir = .ok loader) :
    GoModule.find t dir = .ok loader.module ∧
      ∃ r e, t.find dir = .ok (r, e) ∧ loader.root = r.path := by
  obtain ⟨m, hm, h⟩ := exceptBind_eq_ok.mp h
  cases hroot : t.canonical dir with
  | error fault => rw [hroot] at h; exact nomatch h
  | ok root =>
    rw [hroot] at h
    obtain rfl := Except.ok.inj h
    obtain ⟨⟨r, e⟩, hfind, hr⟩ := exceptBind_eq_ok.mp hroot
    exact ⟨hm, r, e, hfind, (Except.ok.inj hr).symm⟩

/-- In a sound tree the module of a loader has a place. -/
theorem exists_placed (ht : t.IsSound) (h : ofDirectory t env dir = .ok loader) :
    ∃ r d, Placed t loader r d := by
  obtain ⟨hm, r, e, hfind, hroot⟩ := find_of_ofDirectory h
  obtain ⟨d, hdir, hd⟩ := GoModule.exists_dir_of_find ht hm
  exact ⟨r, d, hroot, by simp [FileTree.entry?_of_find hfind], hdir, hd⟩

/-- A pattern names a directory, alone or with all below it, by a path that leads there or by the
one that it is imported by. -/
def Names (t : FileTree) (loader : Loader) (pattern : String) (l : Location) : Prop :=
  t.directoryAt l = true ∧
    if Pattern.isDirectory (Pattern.base pattern) = true then
      t.walk (if (Path.mk (Pattern.base pattern)).isAbsolute = true then []
        else loader.root.location) (Path.mk (Pattern.base pattern)).parts = .ok l
    else loader.module.importPath? l.path = some (Pattern.base pattern)

/-- **A pattern begins at the directory that it names**, if this is one of the module. -/
theorem basePlace_of_names (ht : t.IsSound) (hplaced : Placed t loader r d)
    (h : Names t loader pattern l) :
    loader.module.basePlace t loader.root pattern =
      if d <+: l then .ok l
      else .error (.directoryOutsideModule l.path loader.module.path) := by
  obtain ⟨hdirectory, h⟩ := h
  have hentry : t.entry? l = some .directory := FileTree.directoryAt_iff.mp hdirectory
  have hl : l.IsProper := ht.proper (by simp [hentry])
  have hr : r.path.location = r := (Path.leadsTo_path (ht.proper hplaced.entry)).location_eq
  -- the base is a path, absolute or below the root, or the import path of a directory
  have hplace : ∃ dir, loader.module.baseDir loader.root pattern = .ok dir ∧ t.place dir = .ok l := by
    rw [GoModule.baseDir]
    split at h
    · next hdirectory =>
      refine ⟨_, if_pos hdirectory, ?_⟩
      by_cases habsolute : (Path.mk (Pattern.base pattern)).isAbsolute = true
      · rw [if_pos habsolute] at h
        rw [Path.join, habsolute, Bool.true_or, if_pos rfl, FileTree.place, FileTree.start,
          if_pos habsolute, h]
        refine if_neg fun hempty => ?_
        have hbase : Pattern.base pattern = "" := by simpa using hempty
        simp [hbase, Path.isAbsolute] at habsolute
      · rw [if_neg habsolute, hplaced.root, hr] at h
        rw [hplaced.root, ht.place_join hplaced.entry (by simpa using habsolute), h]
    · next hdirectory =>
      have hpackage := GoModule.packageDir?_of_importPath? hplaced.dir hplaced.proper hl h
      rw [if_neg hdirectory, hpackage]
      refine ⟨l.path, rfl, (FileTree.place_eq_ok_iff (Path.leadsTo_path hl)).mpr ⟨rfl, ?_⟩⟩
      exact fun a b hab hb => ht.ancestor (by simp [hentry]) hab hb
  obtain ⟨dir, hbase, hplace⟩ := hplace
  have hfind : t.find dir = .ok (l, .directory) := by
    rw [FileTree.find, hplace]
    simp only [bind, Except.bind, hentry]
    rfl
  have hbelow := Path.startsWith_path hl hplaced.proper
  rw [← hplaced.dir] at hbelow
  rw [GoModule.basePlace, hbase]
  simp only [bind, Except.bind, hfind, hbelow]
  rfl

/-! ### Spellings -/

/-- Two spellings of a pattern: the same text, or two that name one directory, both of them alone or
both with all below it. -/
def Respells (t : FileTree) (loader : Loader) (pattern pattern' : String) : Prop :=
  pattern = pattern' ∨ Pattern.isRecursive pattern = Pattern.isRecursive pattern' ∧
    ∃ l, Names t loader pattern l ∧ Names t loader pattern' l

instance (t : FileTree) (loader : Loader) (pattern : String) (l : Location) :
    Decidable (Names t loader pattern l) :=
  @instDecidableAnd _ _ inferInstance instDecidableIte

theorem Respells.matchedDirs_iff (ht : t.IsSound) (hplaced : Placed t loader r d)
    (h : Respells t loader pattern pattern') (ls : List Location) :
    loader.module.matchedDirs t loader.root pattern = .ok ls ↔
      loader.module.matchedDirs t loader.root pattern' = .ok ls := by
  obtain rfl | ⟨hrecursive, l, hl, hl'⟩ := h
  · rfl
  · rw [GoModule.matchedDirs_eq_ok_iff, GoModule.matchedDirs_eq_ok_iff, hrecursive,
      basePlace_of_names ht hplaced hl, basePlace_of_names ht hplaced hl']

theorem Respells.isRecursive (h : Respells t loader pattern pattern') :
    Pattern.isRecursive pattern = Pattern.isRecursive pattern' :=
  h.elim (congrArg _) (·.1)

/-- Each directory that a pattern matches can be loaded. -/
def Loads (t : FileTree) (loader : Loader) (pattern : String) : Prop :=
  ∃ ls, loader.module.matchedDirs t loader.root pattern = .ok ls ∧
    ∀ l ∈ ls, ∃ p?, packageIn t loader.module pattern l = .ok p?

theorem Respells.loads_iff (ht : t.IsSound) (hplaced : Placed t loader r d)
    (h : Respells t loader pattern pattern') : Loads t loader pattern ↔ Loads t loader pattern' := by
  refine exists_congr fun ls => and_congr (h.matchedDirs_iff ht hplaced ls) ?_
  simp only [packageIn_eq_ok_iff, h.isRecursive]

/-! ### What loading comes to -/

/-- What is loaded are the named packages, sorted by path. -/
theorem outcome_eq_ok_iff {ps : List Package} :
    loader.outcome (loadPackages t patterns) = .ok ps ↔
      ∃ sources, namedPackages t loader.module loader.root patterns = .ok sources ∧
        sortByKey Package.path (sources.map (·.package)) = ps := by
  rw [outcome_loadPackages, exceptMap_eq_ok_iff]

/-- Loading succeeds when every pattern loads. -/
theorem exists_outcome_iff : (∃ ps, loader.outcome (loadPackages t patterns) = .ok ps) ↔
    ∀ pattern ∈ patterns, Loads t loader pattern := by
  refine Iff.trans ?_ exists_namedPackages_iff
  simp only [outcome_eq_ok_iff]
  exact ⟨fun ⟨_, sources, h, _⟩ => ⟨sources, h⟩, fun ⟨sources, h⟩ => ⟨_, sources, h, rfl⟩⟩

/-- One import path belongs to one package of the module. -/
theorem LoadedFrom.eq_of_path {p q : SourcePackage} {l' : Location} (ht : t.IsSound)
    (hplaced : Placed t loader r d) (hp : LoadedFrom t loader.module l p)
    (hq : LoadedFrom t loader.module l' q) (h : p.package.path = q.package.path) : p = q := by
  have hl : l.IsProper := ht.proper (by simp [hp.directory])
  have hl' : l'.IsProper := ht.proper (by simp [hq.directory])
  obtain rfl : l = l' := GoModule.eq_of_importPath? hplaced.dir hplaced.proper hl hl' hp.path
    (h ▸ hq.path)
  have hread := hq.read
  rw [← h, hp.read] at hread
  exact Option.some.inj (Except.ok.inj hread)

/-- What was kept is found. -/
theorem Keeps.lookup {loader' : Loader} {p : SourcePackage} {ps : List SourcePackage}
    (h : Keeps t ps loader loader') (ht : t.IsSound) (hplaced : Placed t loader r d) (hp : p ∈ ps) :
    loader'.found.lookup p.package.path = some (some p) := by
  rw [h.eq, lookup_keepAll]
  cases hfind : ps.reverse.find? (·.package.path == p.package.path) with
  | none => simpa using List.find?_eq_none.mp hfind p (List.mem_reverse.mpr hp)
  | some q =>
    have hq : q ∈ ps := List.mem_reverse.mp (List.mem_of_find?_eq_some hfind)
    have hpath : q.package.path = p.package.path := by simpa using List.find?_some hfind
    obtain ⟨_, hloaded⟩ := h.loaded p hp
    obtain ⟨_, hloaded'⟩ := h.loaded q hq
    rw [hloaded'.eq_of_path ht hplaced hloaded hpath]

/-- **The packages that patterns name**, each in a directory that one of them matches. -/
theorem mem_outcome_loadPackages (ht : t.IsSound) (hplaced : Placed t loader r d)
    {ps : List Package} (h : loader.outcome (loadPackages t patterns) = .ok ps) {p : Package} :
    p ∈ ps ↔ ∃ l source, Matches t loader.module loader.root patterns l ∧
      LoadedFrom t loader.module l source ∧ source.package = p := by
  obtain ⟨sources, hnamed, rfl⟩ := outcome_eq_ok_iff.mp h
  have hinjective : ∀ p ∈ sources.map (·.package), ∀ q ∈ sources.map (·.package),
      p.path = q.path → p = q := by
    refine List.forall_mem_map.mpr fun p hp => List.forall_mem_map.mpr fun q hq hpath => ?_
    obtain ⟨_, -, hp⟩ := (mem_namedPackages hnamed).mp hp
    obtain ⟨_, -, hq⟩ := (mem_namedPackages hnamed).mp hq
    rw [hp.eq_of_path ht hplaced hq hpath]
  rw [mem_sortByKey_of_injective hinjective, List.mem_map]
  simp only [mem_namedPackages hnamed]
  exact ⟨fun ⟨source, ⟨l, hl, hloaded⟩, hp⟩ => ⟨l, source, hl, hloaded, hp⟩,
    fun ⟨l, source, hl, hloaded, hp⟩ => ⟨source, ⟨l, hl, hloaded⟩, hp⟩⟩

/-- Packages are given in the order of their paths. -/
theorem inOrder_outcome_loadPackages {ps : List Package}
    (h : loader.outcome (loadPackages t patterns) = .ok ps) : InOrder Package.path ps := by
  obtain ⟨sources, -, rfl⟩ := outcome_eq_ok_iff.mp h
  exact sortByKey_strict _ _

/-- Patterns of which each has another spelling among others match what these match. -/
theorem matches_of_respells (ht : t.IsSound) (hplaced : Placed t loader r d)
    (h : ∀ pattern ∈ patterns, ∃ pattern' ∈ patterns', Respells t loader pattern pattern')
    (hl : Matches t loader.module loader.root patterns l) :
    Matches t loader.module loader.root patterns' l := by
  obtain ⟨pattern, hpattern, ls, hls, hl⟩ := hl
  obtain ⟨pattern', hpattern', hspelt⟩ := h pattern hpattern
  exact ⟨pattern', hpattern', ls, (hspelt.matchedDirs_iff ht hplaced ls).mp hls, hl⟩

/-- Other spellings of the same patterns come to the same list. -/
theorem outcome_eq_ok_of_respells (ht : t.IsSound) (hplaced : Placed t loader r d)
    (h : ∀ pattern ∈ patterns, ∃ pattern' ∈ patterns', Respells t loader pattern pattern')
    (h' : ∀ pattern' ∈ patterns', ∃ pattern ∈ patterns, Respells t loader pattern' pattern)
    {ps : List Package} (hps : loader.outcome (loadPackages t patterns) = .ok ps) :
    loader.outcome (loadPackages t patterns') = .ok ps := by
  have hloads : ∀ pattern' ∈ patterns', Loads t loader pattern' := by
    intro pattern' hpattern'
    obtain ⟨pattern, hpattern, hspelt⟩ := h' pattern' hpattern'
    exact (hspelt.loads_iff ht hplaced).mpr (exists_outcome_iff.mp ⟨ps, hps⟩ pattern hpattern)
  obtain ⟨ps', hps'⟩ := exists_outcome_iff.mpr hloads
  have hmem : ∀ p, p ∈ ps' ↔ p ∈ ps := by
    intro p
    rw [mem_outcome_loadPackages ht hplaced hps', mem_outcome_loadPackages ht hplaced hps]
    refine exists_congr fun l => exists_congr fun source => and_congr_left fun _ => ?_
    exact ⟨matches_of_respells ht hplaced h', matches_of_respells ht hplaced h⟩
  rw [hps', (inOrder_outcome_loadPackages hps').eq_of_mem_iff
    (inOrder_outcome_loadPackages hps) hmem]

/-- What a loader has found makes no difference. -/
theorem outcome_loadPackages_found (found : List (String × Option SourcePackage)) :
    ({ loader with found } : Loader).outcome (loadPackages t patterns) =
      loader.outcome (loadPackages t patterns) := by
  rw [outcome_loadPackages, outcome_loadPackages]

/-- A pattern alone comes to the packages that are read for it. -/
theorem outcome_singleton (t : FileTree) (loader : Loader) (pattern : String) :
    loader.outcome (loadPackages t [pattern]) =
      (packagesOf t loader.module loader.root pattern).map
        fun ps => sortByKey Package.path (ps.map (·.package)) := by
  rw [outcome_loadPackages, namedPackages, List.mapM_cons, List.mapM_nil]
  cases packagesOf t loader.module loader.root pattern with
  | error e => rfl
  | ok ps   =>
    exact congrArg (fun ps : List SourcePackage =>
      Except.ok (sortByKey Package.path (ps.map (·.package)))) (List.append_nil ps)

/-- The first pattern that fails alone decides how loading fails. -/
theorem outcome_eq_error_iff {e : Error} :
    loader.outcome (loadPackages t patterns) = .error e ↔
      ∃ front pattern back, patterns = front ++ pattern :: back ∧
        (∀ before ∈ front, ∃ ps, loader.outcome (loadPackages t [before]) = .ok ps) ∧
        loader.outcome (loadPackages t [pattern]) = .error e := by
  have hok : ∀ pattern, (∃ ps, loader.outcome (loadPackages t [pattern]) = .ok ps) ↔
      ∃ ps, packagesOf t loader.module loader.root pattern = .ok ps := by
    intro pattern
    simp only [outcome_singleton, exceptMap_eq_ok_iff]
    exact ⟨fun ⟨_, qs, h, _⟩ => ⟨qs, h⟩, fun ⟨qs, h⟩ => ⟨_, qs, h, rfl⟩⟩
  have herror : ∀ pattern, loader.outcome (loadPackages t [pattern]) = .error e ↔
      packagesOf t loader.module loader.root pattern = .error e := fun pattern => by
    rw [outcome_singleton, exceptMap_eq_error_iff]
  have hnamed : namedPackages t loader.module loader.root patterns = .error e ↔
      patterns.mapM (packagesOf t loader.module loader.root) = .error e :=
    exceptMap_eq_error_iff
  rw [outcome_loadPackages, exceptMap_eq_error_iff, hnamed, exceptMapM_eq_error_iff]
  simp only [hok, herror]

/-- Patterns are attempted one after the other. -/
theorem loader_loadPackages (t : FileTree) (patterns : List String) (loader : Loader) :
    ((loadPackages t patterns).run.run loader).2 =
      patterns.foldl (fun loader pattern => ((loadPattern t pattern).run.run loader).2) loader := by
  rw [run_loadPackages]
  dsimp only
  induction patterns generalizing loader with
  | nil => rfl
  | cons pattern patterns ih =>
    rw [List.mapM_cons, StateT.run_bind, List.foldl_cons, ← ih]
    rfl

/-- **Patterns together come to what they come to alone.** Loading succeeds if each pattern does so
for a new loader, and the packages are then those of all patterns, in the strict order of the paths
that they are imported by; other spellings, in any order and however often, come to the same list.
It fails as the first pattern does that fails alone. Every pattern is attempted in both cases: the
packages of each one that succeeds are found afterwards. -/
theorem loadPackages_union (ht : t.IsSound) {env : Environment} {dir : Path} {first : Loader}
    (hfirst : ofDirectory t env dir = .ok first) (found : List (String × Option SourcePackage))
    (patterns : List String) :
    let loader : Loader := { first with found }
    let load := fun patterns => loader.outcome (loadPackages t patterns)
    let alone := fun pattern => first.outcome (loadPackages t [pattern])
    let after := ((loadPackages t patterns).run.run loader).2
    ((∃ ps, load patterns = .ok ps) ↔ ∀ pattern ∈ patterns, ∃ ps, alone pattern = .ok ps) ∧
    (∀ ps, load patterns = .ok ps → InOrder Package.path ps ∧
      ∀ p, p ∈ ps ↔ ∃ pattern ∈ patterns, ∃ qs, alone pattern = .ok qs ∧ p ∈ qs) ∧
    (∀ patterns',
      (∀ pattern ∈ patterns, ∃ pattern' ∈ patterns', Respells t first pattern pattern') →
      (∀ pattern' ∈ patterns', ∃ pattern ∈ patterns, Respells t first pattern' pattern) →
      ∀ ps, load patterns = .ok ps ↔ load patterns' = .ok ps) ∧
    (∀ e, load patterns = .error e ↔ ∃ front pattern back, patterns = front ++ pattern :: back ∧
      (∀ before ∈ front, ∃ ps, alone before = .ok ps) ∧ alone pattern = .error e) ∧
    after = patterns.foldl (fun loader pattern => ((loadPattern t pattern).run.run loader).2)
      loader ∧
    ∀ pattern ∈ patterns, ∀ qs, alone pattern = .ok qs → ∀ p ∈ qs,
      ∃ source, after.found.lookup p.path = some (some source) ∧ source.package = p := by
  obtain ⟨r, d, hplaced⟩ := exists_placed ht hfirst
  intro loader load alone after
  have hload : ∀ patterns, load patterns = first.outcome (loadPackages t patterns) :=
    fun patterns => outcome_loadPackages_found found
  have hsingle : ∀ pattern, (∃ ps, alone pattern = .ok ps) ↔ Loads t first pattern := fun pattern =>
    exists_outcome_iff.trans (by simp)
  refine ⟨?_, fun ps hps => ⟨?_, fun p => ?_⟩, fun patterns' h h' ps => ?_, fun e => ?_,
    loader_loadPackages t patterns loader, fun pattern hpattern qs hqs p hp => ?_⟩
  · rw [hload, exists_outcome_iff]
    simp only [hsingle]
  · exact inOrder_outcome_loadPackages hps
  · rw [hload] at hps
    have hloads := exists_outcome_iff.mp ⟨ps, hps⟩
    rw [mem_outcome_loadPackages ht hplaced hps]
    constructor
    · rintro ⟨l, source, ⟨pattern, hpattern, ls, hls, hl⟩, hsource, rfl⟩
      obtain ⟨qs, hqs⟩ := (hsingle pattern).mpr (hloads pattern hpattern)
      refine ⟨pattern, hpattern, qs, hqs, (mem_outcome_loadPackages ht hplaced hqs).mpr ?_⟩
      exact ⟨l, source, ⟨pattern, List.mem_singleton_self _, ls, hls, hl⟩, hsource, rfl⟩
    · rintro ⟨pattern, hpattern, qs, hqs, hp⟩
      obtain ⟨l, source, ⟨_, hmem, hmatched⟩, hsource⟩ :=
        (mem_outcome_loadPackages ht hplaced hqs).mp hp
      obtain rfl := List.mem_singleton.mp hmem
      exact ⟨l, source, ⟨_, hpattern, hmatched⟩, hsource⟩
  · rw [hload, hload]
    exact ⟨outcome_eq_ok_of_respells ht hplaced h h', outcome_eq_ok_of_respells ht hplaced h' h⟩
  · rw [hload]
    exact outcome_eq_error_iff
  · have hplaced : Placed t loader r d :=
      ⟨hplaced.root, hplaced.entry, hplaced.dir, hplaced.proper⟩
    obtain ⟨sources, hkeeps, hall, -⟩ := keeps_loadPackages t patterns loader
    -- what the pattern gives alone is sorted; kept are the sources, in the order of reading
    have hqs' : ∃ qs', packagesOf t first.module first.root pattern = .ok qs' ∧
        sortByKey Package.path (qs'.map (·.package)) = qs := by
      rw [← exceptMap_eq_ok_iff, ← outcome_singleton]
      exact hqs
    obtain ⟨qs', hof, rfl⟩ := hqs'
    obtain ⟨source, hsource, rfl⟩ := List.mem_map.mp (mem_sortByKey_sub hp)
    exact ⟨source, hkeeps.lookup ht hplaced (hall pattern hpattern qs' hof hsource), rfl⟩

/-- From inside of one package, all packages in two spellings. -/
theorem loadPackages_union_store :
    ∃ first ps, storeTree.IsSound ∧ ofDirectory storeTree {} ⟨"/m/x"⟩ = .ok first ∧
      first.outcome (loadPackages storeTree ["../go-io", "./...", "m/go-io"]) = .ok ps ∧
      ps.map Package.path = ["m/go-io", "m/x"] ∧
      first.outcome (loadPackages storeTree ["m/x/...", "/m/x/../go-io"]) = .ok ps := by
  have hsound : storeTree.IsSound := by decide +kernel
  have hpaths : (loads storeTree ⟨"/m/x"⟩ ["../go-io", "./...", "m/go-io"]).map
      (List.map Package.path) = .ok ["m/go-io", "m/x"] := by decide +kernel
  have hnames : (ofDirectory storeTree {} ⟨"/m/x"⟩).map (fun first => decide <|
      (∀ pattern ∈ ["../go-io", "m/go-io", "/m/x/../go-io"],
        Names storeTree first pattern ["m", "go-io"]) ∧
      ∀ pattern ∈ ["./...", "m/x/..."], Names storeTree first pattern ["m", "x"]) = .ok true := by
    decide +kernel
  obtain ⟨ps, hps, hpaths⟩ := exceptMap_eq_ok_iff.mp hpaths
  obtain ⟨first, hfirst, hload⟩ := exceptBind_eq_ok.mp hps
  rw [hfirst] at hnames
  obtain ⟨hio, hall⟩ := of_decide_eq_true (Except.ok.inj hnames)
  have hspelt : ∀ pattern ∈ ["../go-io", "./...", "m/go-io"],
      ∃ pattern' ∈ ["m/x/...", "/m/x/../go-io"], Respells storeTree first pattern pattern' := by
    refine List.forall_mem_cons.mpr ⟨⟨_, .tail _ (.head _), .inr ⟨by decide, _, hio _ ?_, hio _ ?_⟩⟩,
      List.forall_mem_cons.mpr ⟨⟨_, .head _, .inr ⟨by decide, _, hall _ ?_, hall _ ?_⟩⟩,
      List.forall_mem_singleton.mpr ⟨_, .tail _ (.head _),
        .inr ⟨by decide, _, hio _ ?_, hio _ ?_⟩⟩⟩⟩ <;> simp
  have hspelt' : ∀ pattern' ∈ ["m/x/...", "/m/x/../go-io"],
      ∃ pattern ∈ ["../go-io", "./...", "m/go-io"], Respells storeTree first pattern' pattern := by
    refine List.forall_mem_cons.mpr ⟨⟨_, .tail _ (.head _),
      .inr ⟨by decide, _, hall _ ?_, hall _ ?_⟩⟩, List.forall_mem_singleton.mpr
      ⟨_, .head _, .inr ⟨by decide, _, hio _ ?_, hio _ ?_⟩⟩⟩ <;> simp
  have hunion := loadPackages_union hsound hfirst first.found ["../go-io", "./...", "m/go-io"]
  exact ⟨first, ps, hsound, hfirst, hload, hpaths,
    (hunion.2.2.1 ["m/x/...", "/m/x/../go-io"] hspelt hspelt' ps).mp hload⟩

end Loader

end GoMocks
