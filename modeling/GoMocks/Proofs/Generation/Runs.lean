import GoMocks.Proofs.Generation.Effects
import GoMocks.Proofs.Loading.Attempts
import GoMocks.Proofs.MethodSet.Listing
import GoMocks.Proofs.MockFile.Simulation
import GoMocks.Proofs.ModuleFile

/-!
# Generation — whole runs

A run begins when its packages are loaded. From then on every package that it comes to is the one
that was loaded, its sources are where they were found, and no two mock files have one place.

* `Run`, `runOf`: what a run works on; `generate_eq`: generating mock files is such a run.
* `runOf_eq_ok_iff`: what a run begins with.
* `Run.Sound`: what holds of a run at its start; `sound_of_runOf` derives it from the loading.
* `Run.Sound.listing_eq`: the interfaces of a package that a run comes to are those of the package
  that was loaded.
* `Run.Sound.leaves`: all that a run leaves behind.
-/

namespace GoMocks

/-- What a run works on. -/
structure Run where
  settings : RunSettings
  start    : Generation
  packages : List Package

/-- What a request comes to, once everything is loaded that is needed before the first mock file. -/
def runOf (refusals : Refusals) (t : FileTree) (env : Environment) (request : Request) :
    Except Error Run := do
  let (packages, loader, template) ← request.prepare t env
  return { settings := { options := request.options, template, refusals }
           start := { tree := t, loader }, packages }

namespace Run

/-- The visits of a run to its packages. -/
def visits (run : Run) : List Generation.Visit :=
  Generation.visits run.settings run.start run.packages

/-- The turns of a run, one for each mock file. -/
def turns (run : Run) : List Generation.Turn :=
  Generation.turns run.settings run.start run.packages

/-- The run after its last package. -/
def last (run : Run) : Generation :=
  run.packages.foldl (Generation.addPackage run.settings) run.start

end Run

/-- Generating mock files is a run, unless something that is needed before is missing. -/
theorem generate_eq (refusals : Refusals) (t : FileTree) (env : Environment) (request : Request) :
    generate refusals t env request =
      match runOf refusals t env request with
      | .error e => (t, .error e)
      | .ok run  => (run.last.tree, .ok run.last.report) := by
  rw [generate, runOf]
  rcases request.prepare t env with e | ⟨packages, loader, template⟩ <;> rfl

/-- A generation that reports is a run, with its last tree and report. -/
theorem generate_eq_ok_iff {refusals : Refusals} {t t' : FileTree} {env : Environment}
    {request : Request} {report : Report} :
    generate refusals t env request = (t', .ok report) ↔
      ∃ run, runOf refusals t env request = .ok run ∧ run.last.tree = t' ∧
        run.last.report = report := by
  rw [generate_eq]
  cases runOf refusals t env request with
  | error e => exact ⟨fun h => (nomatch (Prod.mk.inj h).2), fun ⟨_, h, _⟩ => nomatch h⟩
  | ok run =>
    refine ⟨fun h => ?_, ?_⟩
    · obtain ⟨htree, hreport⟩ := Prod.mk.inj h
      exact ⟨run, rfl, htree, Except.ok.inj hreport⟩
    · rintro ⟨_, ⟨⟩, rfl, rfl⟩
      rfl

/-- A directory name that was accepted is one name. -/
theorem Config.isDirectoryName_of_validate {config : Config} (h : config.validate = .ok ()) :
    Config.isDirectoryName config.outputDir = true := by
  rw [validate] at h
  split at h
  · exact nomatch h
  · split at h
    · assumption
    · exact nomatch h

/-- **What a run begins with**: the packages that the patterns name, and the loader that keeps
them. -/
theorem runOf_eq_ok_iff {refusals : Refusals} {t : FileTree} {env : Environment} {request : Request}
    {run : Run} :
    runOf refusals t env request = .ok run ↔
      request.config.validate = .ok () ∧ ∃ template first ps,
        request.template t = .ok template ∧ Loader.ofDirectory t env request.root = .ok first ∧
        Loader.namedPackages t first.module first.root request.patterns = .ok ps ∧
        run = { settings := { options := request.options, template, refusals }
                start    := { tree := t, loader := first.keepAll ps }
                packages := sortByKey Package.path (ps.map (·.package)) } := by
  rw [runOf, Request.prepare, exceptBind_eq_ok]
  constructor
  · rintro ⟨⟨packages, loader, template⟩, hprepare, h⟩
    obtain ⟨_, hconfig, hprepare⟩ := exceptBind_eq_ok.mp hprepare
    obtain ⟨first, hfirst, hprepare⟩ := exceptBind_eq_ok.mp hprepare
    rcases hload : (Loader.loadPackages t request.patterns).run.run first with ⟨found, loader'⟩
    rw [hload] at hprepare
    obtain ⟨packages', hfound, hrest⟩ := exceptBind_eq_ok.mp hprepare
    obtain ⟨template', htemplate, hresult⟩ := exceptBind_eq_ok.mp hrest
    obtain ⟨rfl, hlast⟩ := Prod.mk.inj (Except.ok.inj hresult)
    obtain ⟨rfl, rfl⟩ := Prod.mk.inj hlast
    obtain ⟨ps, hps, rfl, rfl⟩ := Loader.run_loadPackages_eq_ok_iff.mp (hfound ▸ hload)
    exact ⟨hconfig, template', first, ps, htemplate, hfirst, hps, (Except.ok.inj h).symm⟩
  · rintro ⟨hconfig, template, first, ps, htemplate, hfirst, hps, rfl⟩
    have hload := Loader.run_loadPackages_eq_ok_iff.mpr ⟨ps, hps, rfl, rfl⟩
    refine ⟨(_, first.keepAll ps, template), ?_, rfl⟩
    refine exceptBind_eq_ok.mpr ⟨(), hconfig, exceptBind_eq_ok.mpr ⟨first, hfirst, ?_⟩⟩
    rw [hload]
    exact exceptBind_eq_ok.mpr ⟨_, rfl, exceptBind_eq_ok.mpr ⟨template, htemplate, rfl⟩⟩

/-- A run starts from the given tree with an empty report, under the options requested. -/
theorem of_runOf {refusals : Refusals} {t : FileTree} {env : Environment} {request : Request}
    {run : Run} (h : runOf refusals t env request = .ok run) :
    run.start.tree = t ∧ run.start.report = {} ∧ run.settings.options = request.options ∧
      run.settings.refusals = refusals := by
  obtain ⟨-, _, _, _, -, -, -, rfl⟩ := runOf_eq_ok_iff.mp h
  exact ⟨rfl, rfl, rfl, rfl⟩

/-- A run of one package with one mock file is over after its turn. -/
theorem Run.last_of_turns {run : Run} {package : Package} {turn : Generation.Turn}
    (hpackages : run.packages = [package]) (hturns : run.turns = [turn]) :
    run.last = turn.after run.settings := by
  have hturn : Generation.Visit.turns run.settings ⟨run.start, package⟩ = [turn] := by
    rw [← hturns, turns, hpackages]
    exact (List.append_nil _).symm
  rw [last, hpackages]
  exact (Generation.addPackage_eq ..).trans (Generation.foldl_addFile_of_turnsOf hturn)

namespace Generation

variable {settings : RunSettings} {g : Generation} {visit : Visit}

/-- The package of an import path, as it is found between two steps. -/
def packages (g : Generation) : String → Option SourcePackage :=
  g.loader.packages g.tree

/-! ### The loader along a run -/

theorem extends_source (settings : RunSettings) (t : FileTree) (loader : Loader)
    (package : Package) (interfaces : List Interface) :
    loader.Extends (source settings t loader package interfaces).2 := by
  rw [snd_source]
  exact mockFile_keeps
    (fun path s h => h.trans (Loader.extends_answerIn t (Lookup.packageName path) s))
    (fun n s h => h.trans (Loader.extends_answerIn t n.underlying.run s)) (.refl loader)

theorem extends_addFile (settings : RunSettings) (package : Package) (g : Generation)
    (group : Path × List Interface) :
    g.loader.Extends (addFile settings package g group).loader := by
  simp only [addFile_eq, loader_addOutcome]
  exact extends_source settings g.tree g.loader package group.2

theorem extends_listed (g : Generation) (package : Package) :
    g.loader.Extends (listed g package).1.loader := by
  have h := Loader.extends_interfaces g.tree package.path g.loader
  rw [listed]
  rcases hrun : (Loader.interfaces g.tree package.path).run.run g.loader with ⟨e | is, loader⟩ <;>
    rw [hrun] at h <;> exact h

/-- What was found at the start of a run is found all along it. -/
theorem extends_visit {packages : List Package} (h : visit ∈ visits settings g packages) :
    g.loader.Extends visit.before.loader ∧
      ∀ turn ∈ visit.turns settings, g.loader.Extends turn.before.loader :=
  (invariant_visits (fun g' => g.loader.Extends g'.loader)
    (fun visit _ h => h.trans (extends_listed visit.before visit.package))
    (fun _ _ _ turn _ h => h.trans (extends_addFile settings turn.package turn.before turn.group))
    (.refl g.loader)).1 visit h

end Generation

namespace Run

open Generation (Visit Turn)

variable {run : Run} {visit : Visit} {turn : Turn}

theorem mem_turns :
    turn ∈ run.turns ↔ ∃ visit ∈ run.visits, turn ∈ visit.turns run.settings :=
  List.mem_flatMap

/-- What holds of a run at its start: the tree is sound, and each package is one that was loaded
in a directory of the tree, where no other package was. -/
structure Sound (run : Run) : Prop where
  tree      : run.start.tree.IsSound
  outputDir : Config.isDirectoryName run.settings.options.outputDir = true
  order     : InOrder Package.path run.packages
  loaded    : ∀ package ∈ run.packages, ∃ l p,
    Loader.LoadedFrom run.start.tree run.start.loader.module l p ∧ p.package = package ∧
      run.start.loader.found.lookup package.path = some (some p)

section

variable {refusals : Refusals} {t : FileTree} {env : Environment} {request : Request}

/-- The packages of a run are packages that its patterns name, as they were loaded. -/
theorem exists_of_mem_packages (h : runOf refusals t env request = .ok run) {package : Package}
    (hpackage : package ∈ run.packages) :
    ∃ l p, Loader.Matches t run.start.loader.module run.start.loader.root request.patterns l ∧
      Loader.LoadedFrom t run.start.loader.module l p ∧ p.package = package ∧
      run.start.loader.found.lookup package.path = some (some p) := by
  obtain ⟨-, _, first, ps, -, -, hps, rfl⟩ := runOf_eq_ok_iff.mp h
  obtain ⟨p, hfind, rfl⟩ : ∃ p, ps.reverse.find? (·.package.path == package.path) = some p ∧
      p.package = package := by
    have hfind := mem_sortByKey_iff.mp hpackage
    rw [← List.map_reverse, List.find?_map] at hfind
    obtain ⟨p, hp, hpackage⟩ := Option.map_eq_some_iff.mp hfind
    exact ⟨p, hp, hpackage⟩
  obtain ⟨l, hmatches, hloaded⟩ :=
    (Loader.mem_namedPackages hps).mp (List.mem_reverse.mp (List.mem_of_find?_eq_some hfind))
  rw [Loader.module_keepAll, Loader.root_keepAll]
  exact ⟨l, p, hmatches, hloaded, rfl, by rw [Loader.lookup_keepAll, hfind]⟩

/-- The directory of the module. -/
theorem exists_moduleDir (ht : t.IsSound) (h : runOf refusals t env request = .ok run) :
    ∃ r : Location, run.start.loader.module.dir = r.path ∧ r.IsProper := by
  obtain ⟨-, _, first, _, -, hfirst, -, rfl⟩ := runOf_eq_ok_iff.mp h
  obtain ⟨module, hmodule, hfirst⟩ := exceptBind_eq_ok.mp hfirst
  obtain ⟨r, hdir, hr⟩ := GoModule.exists_dir_of_find ht hmodule
  refine ⟨r, ?_, hr⟩
  rw [Loader.module_keepAll, ← hdir]
  cases hroot : t.canonical request.root <;> rw [hroot] at hfirst
  · cases hfirst
  · exact (congrArg (·.module.dir) (Except.ok.inj hfirst)).symm

/-- **What is loaded from a directory that a pattern matches is a package of the run**, since no
other directory has the same import path. -/
theorem mem_packages_of_matches (ht : t.IsSound) (h : runOf refusals t env request = .ok run)
    {l : Location} {p : SourcePackage}
    (hmatches : Loader.Matches t run.start.loader.module run.start.loader.root request.patterns l)
    (hloaded : Loader.LoadedFrom t run.start.loader.module l p) :
    p.package ∈ run.packages ∧ run.start.loader.found.lookup p.package.path = some (some p) := by
  obtain ⟨r, hdir, hr⟩ := exists_moduleDir ht h
  obtain ⟨-, _, first, ps, -, -, hps, rfl⟩ := runOf_eq_ok_iff.mp h
  rw [Loader.module_keepAll] at hloaded hdir
  rw [Loader.module_keepAll, Loader.root_keepAll] at hmatches
  have hproper : ∀ {l : Location}, t.entry? l = some .directory → l.IsProper :=
    fun hl => ht.proper (by simp [hl])
  -- two matched directories of one import path are one directory
  have hunique : ∀ q ∈ ps, q.package.path = p.package.path → q = p := by
    intro q hq hpath
    obtain ⟨l', -, hloaded'⟩ := (Loader.mem_namedPackages hps).mp hq
    obtain rfl := GoModule.eq_of_importPath? hdir hr (hproper hloaded.directory)
      (hproper hloaded'.directory) hloaded.path (hpath ▸ hloaded'.path)
    have hread := hloaded'.read
    rw [hpath, hloaded.read] at hread
    exact (Option.some.inj (Except.ok.inj hread)).symm
  have hfind : ps.reverse.find? (·.package.path == p.package.path) = some p := by
    have hmem : p ∈ ps.reverse :=
      List.mem_reverse.mpr ((Loader.mem_namedPackages hps).mpr ⟨l, hmatches, hloaded⟩)
    cases hfind : ps.reverse.find? (·.package.path == p.package.path) with
    | none => exact absurd (List.find?_eq_none.mp hfind p hmem) (by simp)
    | some q =>
      rw [hunique q (List.mem_reverse.mp (List.mem_of_find?_eq_some hfind))
        (by simpa using List.find?_some hfind)]
  constructor
  · refine mem_sortByKey_iff.mpr ?_
    rw [← List.map_reverse, List.find?_map]
    exact congrArg (Option.map _) hfind
  · rw [Loader.lookup_keepAll, hfind]

/-- **A run is sound from its start**, on a sound tree. -/
theorem sound_of_runOf (ht : t.IsSound) (h : runOf refusals t env request = .ok run) :
    run.Sound := by
  have hloaded := fun package => @exists_of_mem_packages run refusals t env request h package
  obtain ⟨hconfig, _, first, ps, -, -, -, rfl⟩ := runOf_eq_ok_iff.mp h
  refine ⟨ht, Config.isDirectoryName_of_validate hconfig, sortByKey_strict _ _,
    fun package hpackage => ?_⟩
  obtain ⟨l, p, -, hp⟩ := hloaded package hpackage
  exact ⟨l, p, hp⟩

end

namespace Sound

/-- What was found at the start of a run is what is found all along it. -/
theorem packages_of_found (hvisit : visit ∈ run.visits) {path : String} {p? : Option SourcePackage}
    (h : run.start.loader.found.lookup path = some p?) :
    visit.before.packages path = p? ∧
      ∀ turn ∈ visit.turns run.settings, turn.before.packages path = p? := by
  obtain ⟨hbefore, hturns⟩ := Generation.extends_visit hvisit
  refine ⟨?_, fun turn hturn => ?_⟩
  · rw [Generation.packages, Loader.packages, hbefore.found path p? h]
    rfl
  · rw [Generation.packages, Loader.packages, (hturns turn hturn).found path p? h]
    rfl

/-- The package that a run comes to is the one that was loaded. -/
theorem package (h : run.Sound) (hvisit : visit ∈ run.visits) :
    ∃ l p, Loader.LoadedFrom run.start.tree run.start.loader.module l p ∧
      p.package = visit.package ∧ visit.before.packages visit.package.path = some p := by
  have hmem : visit.package ∈ run.packages := by
    rw [← Generation.map_package_visits run.settings run.start run.packages]
    exact List.mem_map_of_mem hvisit
  obtain ⟨l, p, hloaded, hp, hfound⟩ := h.loaded _ hmem
  exact ⟨l, p, hloaded, hp, (packages_of_found hvisit hfound).1⟩

/-- **The interfaces of a package that a run comes to** are those of the package that was loaded. -/
theorem listing_eq {p : SourcePackage}
    (hp : visit.before.packages visit.package.path = some p) :
    visit.listing = p.interfaces.answer visit.before.packages :=
  Loader.outcome_interfaces visit.before.tree visit.before.loader hp

/-- An interface lies in a source file of its package's directory. -/
theorem file_of_listing (h : run.Sound) (hvisit : visit ∈ run.visits) :
    ∃ l : Location, visit.package.dir = l.path ∧ run.start.tree.entry? l = some .directory ∧
      ∀ is, visit.listing = .ok is → ∀ i ∈ is, ∃ name ∈ run.start.tree.goFileNames l,
        i.file = (l ++ [name]).path := by
  obtain ⟨l, p, hloaded, hp, hfound⟩ := h.package hvisit
  refine ⟨l, hp ▸ hloaded.dir, hloaded.directory, fun is his i hi => ?_⟩
  rw [listing_eq hfound] at his
  obtain ⟨d, hd, hi⟩ := SourcePackage.declaration_of_mem_interfaces his hi
  obtain ⟨file, hfile, hd⟩ := List.mem_flatMap.mp hd
  obtain ⟨spec, -, rfl⟩ := List.mem_map.mp hd
  obtain ⟨name, hname, hpath⟩ := hloaded.source h.tree hfile
  exact ⟨name, hname, (SourcePackage.of_interface_eq_some hi).1.trans hpath⟩

/-- The turns of a package have their source files in its directory. -/
theorem stands (h : run.Sound) (hvisit : visit ∈ run.visits) :
    ∃ l : Location, visit.package.dir = l.path ∧ ∀ turn ∈ visit.turns run.settings,
      ∃ name, isGoSource name = true ∧ turn.Stands run.start.tree l name := by
  obtain ⟨l, hdir, hl, hfiles⟩ := h.file_of_listing hvisit
  refine ⟨l, hdir, fun turn hturn => ?_⟩
  cases hlisting : visit.listing with
  | error e =>
    rw [Visit.turns_of_error hlisting] at hturn
    exact nomatch hturn
  | ok is =>
    have hgroup : turn.group ∈ groupByFile (is.filter (·.eligibility.isEligible)) := by
      rw [← Visit.groups_of_ok run.settings hlisting]
      exact List.mem_map_of_mem hturn
    -- a group has an interface, which was declared in its source file
    obtain ⟨file, hfile, hgroup⟩ := List.mem_map.mp hgroup
    obtain ⟨i, hi, rfl⟩ := List.mem_map.mp (List.mem_eraseDups.mp hfile)
    obtain ⟨name, hname, hpath⟩ := hfiles is hlisting i (List.mem_of_mem_filter hi)
    obtain ⟨hgo, content, hentry⟩ := FileTree.mem_goFileNames.mp hname
    have hsource : turn.source = i.file := (congrArg Prod.fst hgroup).symm
    exact ⟨name, hgo, hsource.trans hpath, hl, content, hentry⟩

/-- Different packages lie in different directories. -/
theorem dirs (h : run.Sound) : run.packages.Pairwise fun p q => p.path ≠ q.path ∧ p.dir ≠ q.dir := by
  refine h.order.imp_of_mem fun {p q} hp hq hlt => ⟨hlt.ne, fun hdir => hlt.ne ?_⟩
  obtain ⟨l, p, hl, rfl, -⟩ := h.loaded p hp
  obtain ⟨m, q, hm, rfl, -⟩ := h.loaded q hq
  have hpath := hl.path
  rw [← hl.dir, hdir, hm.dir, hm.path] at hpath
  exact (Option.some.inj hpath).symm

/-- No two visits of a sound run are of the same directory. -/
theorem visits_pairwise (h : run.Sound) :
    run.visits.Pairwise fun v w => v.package.dir ≠ w.package.dir := by
  have hdirs := h.dirs
  rw [← Generation.map_package_visits run.settings run.start run.packages] at hdirs
  exact (List.pairwise_map.mp hdirs).imp And.right

/-- **No two mock files have one place.** -/
theorem places (h : run.Sound) : (run.turns.map (Turn.place run.settings)).Nodup := by
  have hplace : ∀ {turn : Turn} {l : Location} {name : String},
      turn.Stands run.start.tree l name →
        turn.place run.settings = l ++ [run.settings.directoryName, name] :=
    fun hturn => hturn.place_eq h.tree h.outputDir
  rw [turns, Generation.turns, List.map_flatMap, List.nodup_flatMap]
  constructor
  · intro visit hvisit
    obtain ⟨l, -, hturns⟩ := h.stands hvisit
    have hsources : (visit.turns run.settings).Pairwise fun a b => a.source ≠ b.source := by
      have hnodup := sources_groupByFile_nodup (Generation.listed visit.before visit.package).2
      rw [← Generation.map_group_turnsOf run.settings visit.package
        (Generation.listed visit.before visit.package).1 (groupByFile _), List.map_map] at hnodup
      exact List.pairwise_map.mp hnodup
    -- in one package: places with the same last name have the same source
    refine List.pairwise_map.mpr (hsources.imp_of_mem fun {a b} ha hb hne heq => hne ?_)
    obtain ⟨name, -, ha⟩ := hturns a ha
    obtain ⟨name', -, hb⟩ := hturns b hb
    rw [hplace ha, hplace hb] at heq
    obtain rfl : name = name' := by simpa using heq
    exact ha.source.trans hb.source.symm
  -- in two packages: their directories are different
  · refine h.visits_pairwise.imp_of_mem fun {v w} hv hw hne place hpv hpw => hne ?_
    obtain ⟨l, hl, hv⟩ := h.stands hv
    obtain ⟨m, hm, hw⟩ := h.stands hw
    obtain ⟨a, ha, rfl⟩ := List.mem_map.mp hpv
    obtain ⟨b, hb, heq⟩ := List.mem_map.mp hpw
    obtain ⟨name, -, ha⟩ := hv a ha
    obtain ⟨name', -, hb⟩ := hw b hb
    rw [hplace ha, hplace hb] at heq
    obtain rfl : m = l := (List.append_inj' heq rfl).1
    exact hl.trans hm.symm

/-- Every turn of a sound run is of a Go file beside which its output goes. -/
theorem turn_stands (h : run.Sound) (hturn : turn ∈ run.turns) :
    ∃ l name, isGoSource name = true ∧ turn.Stands run.start.tree l name := by
  obtain ⟨visit, hvisit, hturn⟩ := mem_turns.mp hturn
  obtain ⟨l, -, hturns⟩ := h.stands hvisit
  exact ⟨l, hturns turn hturn⟩

/-- **All that a run leaves behind.** -/
theorem leaves (h : run.Sound) :
    Generation.Takes.Leaves run.settings run.start.tree run.turns run.last.tree :=
  (Generation.takes_turns run.settings run.start run.packages).leaves h.tree h.outputDir
    (fun turn hturn => by
      obtain ⟨l, name, -, hstands⟩ := h.turn_stands hturn
      exact ⟨l, name, hstands⟩) h.places

end Sound

/-! ### A project at hand -/

/-- The text of a template that declares a type for each mock. -/
def outlineText : String :=
  "package \x7b\x7b name \x7d\x7d\n\x7b% for i in interfaces %\x7d\ntype \x7b\x7b i.name \x7d\x7d int\n\x7b% endfor %\x7d\n"

/-- A module in `/m` with a template, and directories with the names and texts of their files. The
module is called like the package of tests, which is then no package that is built in. -/
def project (dirs : List (String × List (String × String))) : FileTree where
  entries := (["m"], .directory) :: (["m", "go.mod"], .file "module testing\n".toUTF8) ::
    (["m", "t"], .file outlineText.toUTF8) ::
    dirs.flatMap fun dir => (["m", dir.1], .directory) ::
      dir.2.map fun file => (["m", dir.1, file.1], .file file.2.toUTF8)
  current := ["m"]

/-- Asks for the mocks of all packages of the module. -/
def everything : Request :=
  ⟨⟨"/m"⟩, ["./..."], { template := some ⟨"/m/t"⟩ }, "gomocks gen ./..."⟩

/-- A source file with an interface by itself. -/
def doerAlone : FileTree :=
  project [("x", [("a.go", "package x\ntype Doer interface { Do() }\n")])]

/-- A package with two source files, and one whose interface embeds a name that nothing declares. -/
def sample : FileTree :=
  project
    [("x",
        [("a.go", "package x\ntype Doer interface { Do() }\ntype silent interface { Do() }\n"),
          ("b.go", "package x\ntype Closer interface { Close() }\n")]),
      ("y", [("c.go", "package y\ntype Broken interface { Missing }\n")])]

/-- What is reported of it. -/
def sampleReport : Report where
  written := [⟨"/m/x/mocks/a.go"⟩, ⟨"/m/x/mocks/b.go"⟩]
  skipped := [⟨"testing/x", "silent", .unexported⟩]
  errors  := [.inInterface "testing/y" "Broken" ⟨"/m/y/c.go"⟩ 2
    (.unresolvedType "Missing" (.undeclaredName ⟨"/m/y/c.go"⟩))]

/-- The sample tree is sound. -/
theorem sample_isSound : sample.IsSound := by
  decide +kernel

/-- A report comes with a tree. -/
theorem exists_generate {refusals : Refusals} {t : FileTree} {env : Environment} {request : Request}
    {report : Report} (h : (generate refusals t env request).2 = .ok report) :
    ∃ t', generate refusals t env request = (t', .ok report) :=
  ⟨(generate refusals t env request).1, by rw [← h]⟩

/-- What is generated for the sample tree. -/
theorem generate_sample :
    ∃ t, generate .none sample {} everything = (t, .ok sampleReport) :=
  exists_generate (by decide +kernel)

end Run

end GoMocks
