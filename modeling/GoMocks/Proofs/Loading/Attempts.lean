import GoMocks.Proofs.Loading

/-!
# Loading — every pattern is attempted

A pattern that fails neither stops those behind it nor changes what they come to. The outcome is the
first failure, or else all packages, and the packages of every pattern that succeeds are kept in
both cases.

* `Loader.Keeps`: what an attempt changes: packages are kept, each as it was read in its directory.
* `Loader.outcome_loadPackages`: what loading comes to.
* `Loader.keeps_loadPackages`: what it keeps.
* `Loader.run_loadPackages_eq_ok_iff`: when it succeeds, and what it comes to and keeps then.
-/

namespace GoMocks

variable {ε α β : Type} {f : α → Except ε β} {as : List α}

/-- A list of steps fails with the first failure among them. -/
theorem exceptMapM_eq_error_iff {e : ε} :
    as.mapM f = .error e ↔
      ∃ front a back, as = front ++ a :: back ∧ (∀ b ∈ front, ∃ c, f b = .ok c) ∧
        f a = .error e := by
  induction as with
  | nil => exact ⟨nofun, fun ⟨_, _, _, h, _⟩ => absurd h (by simp)⟩
  | cons a as ih =>
    rw [List.mapM_cons]
    cases ha : f a with
    -- the head fails: whatever the witness says, its front is empty
    | error e' =>
      refine ⟨fun h => ⟨[], a, as, rfl, nofun, ha.trans (congrArg _ (Except.error.inj h))⟩, ?_⟩
      rintro ⟨front, b, back, heq, hfront, hb⟩
      cases front with
      | nil =>
        obtain ⟨rfl, -⟩ := List.cons.inj heq
        exact congrArg _ (Except.error.inj (ha.symm.trans hb))
      | cons c front =>
        obtain ⟨rfl, -⟩ := List.cons.inj heq
        obtain ⟨c, hc⟩ := hfront a (.head _)
        exact nomatch ha.symm.trans hc
    | ok c =>
      have hrest : (as.mapM f >>= fun cs => pure (c :: cs)) = .error e ↔ as.mapM f = .error e := by
        cases as.mapM f with
        | error e' => exact Iff.rfl
        | ok cs    => exact ⟨nofun, nofun⟩
      refine hrest.trans (ih.trans ⟨?_, ?_⟩)
      · rintro ⟨front, b, back, rfl, hfront, hb⟩
        exact ⟨a :: front, b, back, rfl, List.forall_mem_cons.mpr ⟨⟨c, ha⟩, hfront⟩, hb⟩
      · rintro ⟨front, b, back, heq, hfront, hb⟩
        cases front with
        | nil =>
          obtain ⟨rfl, -⟩ := List.cons.inj heq
          exact nomatch ha.symm.trans hb
        | cons d front =>
          obtain ⟨rfl, rfl⟩ := List.cons.inj heq
          exact ⟨front, b, back, rfl, (List.forall_mem_cons.mp hfront).2, hb⟩

namespace Loader

variable {t : FileTree} {loader loader₁ loader₂ : Loader} {module : GoModule} {pattern : String}
  {l : Location} {p : SourcePackage} {ps qs : List SourcePackage}

/-! ### What an attempt keeps -/

/-- Packages were kept, each of them as it was read in a directory, and nothing else was changed. -/
structure Keeps (t : FileTree) (ps : List SourcePackage) (loader loader' : Loader) : Prop where
  eq     : loader' = loader.keepAll ps
  loaded : ∀ p ∈ ps, ∃ l, LoadedFrom t loader.module l p

theorem Keeps.nil (t : FileTree) (loader : Loader) : Keeps t [] loader loader := ⟨rfl, nofun⟩

theorem Keeps.append (h : Keeps t ps loader loader₁) (h' : Keeps t qs loader₁ loader₂) :
    Keeps t (ps ++ qs) loader loader₂ := by
  obtain ⟨rfl, hps⟩ := h
  obtain ⟨rfl, hqs⟩ := h'
  refine ⟨(keepAll_append ..).symm, fun p hp => ?_⟩
  rcases List.mem_append.mp hp with hp | hp
  · exact hps p hp
  · simpa using hqs p hp

/-- The package of a directory is loaded from it. -/
theorem loadedFrom_of_packageIn (hl : t.entry? l = some .directory)
    (h : packageIn t module pattern l = .ok (some p)) : LoadedFrom t module l p := by
  obtain ⟨path, hpath, hread, -⟩ := packageIn_eq_ok_iff.mp h
  obtain ⟨_, _, -, -, hof⟩ := FileTree.readPackage_eq_ok_iff.mp hread
  obtain ⟨-, -, rfl, -⟩ := FileTree.packageOf?_eq_some hof
  exact ⟨hpath, hread, hl⟩

/-! ### Attempts -/

/-- Loading directories gives the package of each, and keeps what it loads. -/
theorem attempt_loadDirectories (pattern : String) {ls : List Location}
    (hls : ∀ l ∈ ls, t.entry? l = some .directory) (loader : Loader) :
    ∃ ps, Keeps t ps loader ((ls.mapM (loadDirectory t pattern)).run.run loader).2 ∧
      ((ls.mapM (loadDirectory t pattern)).run.run loader).1 =
        (ls.mapM (packageIn t loader.module pattern)).map (List.map (Option.map (·.package))) ∧
      ∀ found, ls.mapM (packageIn t loader.module pattern) = .ok found →
        ps = found.filterMap id := by
  induction ls generalizing loader with
  | nil =>
    refine ⟨[], .nil t loader, rfl, fun found h => ?_⟩
    obtain rfl := Except.ok.inj h
    rfl
  | cons l ls ih =>
    obtain ⟨hl, hls⟩ := List.forall_mem_cons.mp hls
    rw [List.mapM_cons, List.mapM_cons, run_bind, run_loadDirectory]
    cases hp : packageIn t loader.module pattern l with
    | error e => exact ⟨[], .nil t loader, rfl, nofun⟩
    | ok p? =>
      obtain ⟨ps, hkeeps, houtcome, hfound⟩ := ih hls (loader.keepAll p?.toList)
      rw [module_keepAll] at houtcome hfound
      -- a package is kept as soon as it is read, so also when a later directory fails
      have hfirst : Keeps t p?.toList loader (loader.keepAll p?.toList) := by
        refine ⟨rfl, fun p hmem => ⟨l, ?_⟩⟩
        obtain rfl := Option.mem_toList.mp hmem
        exact loadedFrom_of_packageIn hl hp
      have hboth := hfirst.append hkeeps
      refine ⟨p?.toList ++ ps, ?_⟩
      dsimp only
      rw [run_bind]
      rcases hrun : (ls.mapM (loadDirectory t pattern)).run.run (loader.keepAll p?.toList) with
        ⟨e | found, loader'⟩ <;> rw [hrun] at houtcome hboth <;>
        cases hrest : ls.mapM (packageIn t loader.module pattern) <;>
        rw [hrest] at houtcome hfound <;> cases houtcome
      · exact ⟨hboth, rfl, nofun⟩
      · refine ⟨hboth, rfl, fun found h => ?_⟩
        obtain rfl := Except.ok.inj h
        rw [hfound _ rfl]
        cases p? <;> rfl

/-- A pattern is matched, then its directories are loaded. -/
theorem run_loadPattern (t : FileTree) (pattern : String) (loader : Loader) :
    (loadPattern t pattern).run.run loader =
      match loader.module.matchedDirs t loader.root pattern with
      | .error fault => (.error (.load pattern fault), loader)
      | .ok dirs     =>
        (dirs.mapM (loadDirectory t pattern) >>= fun found => pure (found.filterMap id)
          : LoaderM (List Package)).run.run loader := by
  rw [loadPattern, run_bind]
  change (match loader.module.matchedDirs t loader.root pattern with
    | .error fault => throw _
    | .ok dirs     => _ : LoaderM (List Package)).run.run loader = _
  cases loader.module.matchedDirs t loader.root pattern <;> rfl

/-- Loading a pattern gives its packages, and keeps what it loads. -/
theorem attempt_loadPattern (t : FileTree) (pattern : String) (loader : Loader) :
    ∃ ps, Keeps t ps loader ((loadPattern t pattern).run.run loader).2 ∧
      ((loadPattern t pattern).run.run loader).1 =
        (packagesOf t loader.module loader.root pattern).map (List.map (·.package)) ∧
      ∀ qs, packagesOf t loader.module loader.root pattern = .ok qs → ps = qs := by
  rw [run_loadPattern, packagesOf]
  cases hdirs : loader.module.matchedDirs t loader.root pattern with
  | error fault => exact ⟨[], .nil t loader, rfl, fun _ h => by cases h⟩
  | ok dirs =>
    obtain ⟨ps, hkeeps, houtcome, hfound⟩ := attempt_loadDirectories pattern
      (fun l hl => GoModule.directory_of_mem_matchedDirs hdirs hl) loader
    refine ⟨ps, ?_⟩
    dsimp only
    rw [run_bind]
    rcases hmap : (dirs.mapM (loadDirectory t pattern)).run.run loader with ⟨e | found, loader'⟩ <;>
      rw [hmap] at houtcome hkeeps <;>
      cases hrest : dirs.mapM (packageIn t loader.module pattern) <;>
      rw [hrest] at houtcome hfound <;> cases houtcome
    · exact ⟨hkeeps, rfl, fun _ h => by cases h⟩
    · refine ⟨hkeeps, congrArg Except.ok ?_, fun qs h => ?_⟩
      · rw [List.filterMap_map, List.map_filterMap]
        rfl
      · exact (hfound _ rfl).trans (Except.ok.inj h)

/-- What patterns come to one after the other, and all that they keep. -/
theorem attempt_loadPatterns (t : FileTree) (patterns : List String) (loader : Loader) :
    ∃ ps, Keeps t ps loader
        ((patterns.mapM fun pattern => (loadPattern t pattern).run).run loader).2 ∧
      ((patterns.mapM fun pattern => (loadPattern t pattern).run).run loader).1 =
        patterns.map (fun pattern => (packagesOf t loader.module loader.root pattern).map
          (List.map (·.package))) ∧
      (∀ pattern ∈ patterns, ∀ qs, packagesOf t loader.module loader.root pattern = .ok qs →
        qs ⊆ ps) ∧
      ∀ qs, namedPackages t loader.module loader.root patterns = .ok qs → ps = qs := by
  induction patterns generalizing loader with
  | nil => exact ⟨[], .nil t loader, rfl, nofun, fun qs h => Except.ok.inj h⟩
  | cons pattern patterns ih =>
    obtain ⟨ps, hkeeps, houtcome, hpackages⟩ := attempt_loadPattern t pattern loader
    rw [List.mapM_cons, StateT.run_bind]
    rcases hrun : (loadPattern t pattern).run.run loader with ⟨outcome, loader₁⟩
    rw [hrun] at hkeeps houtcome
    obtain ⟨qs, hrest, houtcomes, hall, hnamed⟩ := ih loader₁
    -- a pattern adds packages, so the ones behind it see the same module and root
    have hsame : loader₁.module = loader.module ∧ loader₁.root = loader.root := by
      obtain rfl : loader₁ = loader.keepAll ps := hkeeps.eq
      exact ⟨module_keepAll .., root_keepAll ..⟩
    rw [hsame.1, hsame.2] at houtcomes hall hnamed
    refine ⟨ps ++ qs, hkeeps.append hrest, ?_, List.forall_mem_cons.mpr ⟨fun rs hrs => ?_, ?_⟩,
      fun rs hrs => ?_⟩
    · exact (congrArg₂ List.cons houtcome houtcomes :)
    · rw [hpackages rs hrs]
      exact List.subset_append_left ..
    · exact fun pattern hpattern rs hrs p hp =>
        List.mem_append_right _ (hall pattern hpattern rs hrs hp)
    · rw [namedPackages, List.mapM_cons] at hrs
      obtain ⟨pss, hpss, hrs⟩ := exceptBind_eq_ok.mp hrs
      obtain ⟨ps', hps, hpss⟩ := exceptBind_eq_ok.mp hpss
      obtain ⟨qss, hqss, hpss⟩ := exceptBind_eq_ok.mp hpss
      obtain rfl := Except.ok.inj hpss
      obtain rfl := Except.ok.inj hrs
      rw [hpackages ps' hps, hnamed qss.flatten (exceptBind_eq_ok.mpr ⟨qss, hqss, rfl⟩),
        List.flatten_cons]

/-- Patterns are loaded one by one, and the packages collected. -/
theorem run_loadPackages (t : FileTree) (patterns : List String) (loader : Loader) :
    (loadPackages t patterns).run.run loader =
      (collect ((patterns.mapM fun pattern => (loadPattern t pattern).run).run loader).1,
        ((patterns.mapM fun pattern => (loadPattern t pattern).run).run loader).2) := by
  change ((patterns.mapM fun pattern => (loadPattern t pattern).run) >>= _ : StateM _ _).run
    loader = _
  rw [StateT.run_bind]
  rfl

/-- **What loading comes to depends on the file tree and the module alone.** It is the first failure
among the patterns, or all packages that they name in the order of their import paths. -/
theorem outcome_loadPackages (t : FileTree) (patterns : List String) (loader : Loader) :
    loader.outcome (loadPackages t patterns) =
      (namedPackages t loader.module loader.root patterns).map
        fun ps => sortByKey Package.path (ps.map (·.package)) := by
  obtain ⟨-, -, houtcomes, -⟩ := attempt_loadPatterns t patterns loader
  have hcollect : ∀ patterns : List String, (patterns.map fun pattern =>
      (packagesOf t loader.module loader.root pattern).map (List.map (·.package))).mapM id =
      (patterns.mapM (packagesOf t loader.module loader.root)).map
        (List.map (List.map (·.package))) := by
    intro patterns
    induction patterns with
    | nil => rfl
    | cons pattern patterns ih =>
      rw [List.map_cons, List.mapM_cons, List.mapM_cons, ih]
      cases packagesOf t loader.module loader.root pattern with
      | error e => rfl
      | ok ps   => cases patterns.mapM (packagesOf t loader.module loader.root) <;> rfl
  rw [outcome, run_loadPackages, houtcomes, collect, hcollect, namedPackages]
  cases patterns.mapM (packagesOf t loader.module loader.root) with
  | error e => rfl
  | ok pss  => exact congrArg (fun ps => Except.ok (sortByKey Package.path ps)) List.map_flatten.symm

/-- **The packages of every pattern that succeeds are kept**, also behind one that fails, and no
others if all of them succeed. -/
theorem keeps_loadPackages (t : FileTree) (patterns : List String) (loader : Loader) :
    ∃ ps, Keeps t ps loader ((loadPackages t patterns).run.run loader).2 ∧
      (∀ pattern ∈ patterns, ∀ qs, packagesOf t loader.module loader.root pattern = .ok qs →
        qs ⊆ ps) ∧
      ∀ qs, namedPackages t loader.module loader.root patterns = .ok qs → ps = qs := by
  obtain ⟨ps, hkeeps, -, hall⟩ := attempt_loadPatterns t patterns loader
  rw [run_loadPackages]
  exact ⟨ps, hkeeps, hall⟩

/-- **Loading succeeds with the packages that the patterns name**, in the order of their import
paths, and keeps them. -/
theorem run_loadPackages_eq_ok_iff {patterns : List String} {packages : List Package} :
    (loadPackages t patterns).run.run loader = (.ok packages, loader₁) ↔
      ∃ ps, namedPackages t loader.module loader.root patterns = .ok ps ∧
        packages = sortByKey Package.path (ps.map (·.package)) ∧ loader₁ = loader.keepAll ps := by
  have houtcome := outcome_loadPackages t patterns loader
  obtain ⟨ps, ⟨hloader, -⟩, -, hnamed⟩ := keeps_loadPackages t patterns loader
  rw [outcome] at houtcome
  rw [Prod.ext_iff, houtcome, hloader]
  cases hps : namedPackages t loader.module loader.root patterns with
  | error e => exact iff_of_false (by simp [Except.map]) (by simp)
  | ok qs =>
    obtain rfl := hnamed qs hps
    simp [Except.map, eq_comm]

end Loader

end GoMocks
