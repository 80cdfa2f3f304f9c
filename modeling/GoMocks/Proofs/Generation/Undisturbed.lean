import GoMocks.Proofs.Generation.Additions

/-!
# Generation — two runs side by side

A second run finds what the first one has written. As long as nothing that is needed has changed for
it, it makes the same mock files, finds them unchanged, and leaves everything as it is.

* `Generation.Turn.code_eq`: the packages that its interfaces lead to make the difference for a mock
  file.
* `Run.Undisturbed`: two runs, the first of which does not get in the way of the second.
* `Run.Undisturbed.unchanged`: the step lemma, what becomes of a mock file in the second run.
* `Run.Undisturbed.last`: what the second run comes to.
-/

namespace GoMocks

/-- Packages that are the same have the same imports. -/
theorem Closed.congr {packages packages' : String → Option SourcePackage} {kept : String → Prop}
    (h : Closed packages kept) (hsame : ∀ path, kept path → packages' path = packages path) :
    Closed packages' kept :=
  ⟨fun path p hpath hp => h.own path p hpath (hsame path hpath ▸ hp),
    fun path p hpath hp => h.imports path p hpath (hsame path hpath ▸ hp)⟩

namespace Generation

variable {settings : RunSettings} {turn turn' : Turn} {visit visit' : Visit}

/-- The source of a mock file depends on the packages that its interfaces lead to alone. -/
theorem Turn.code_eq {kept : String → Prop} (hname : turn'.package.name = turn.package.name)
    (hpath : turn'.package.path = turn.package.path)
    (hmodule : turn'.package.module = turn.package.module)
    (hinterfaces : turn'.interfaces = turn.interfaces) (hclosed : Closed turn.before.packages kept)
    (hsame : ∀ path, kept path → turn'.before.packages path = turn.before.packages path)
    (hkept : MockFile.MentionsOnly kept turn.package turn.interfaces settings.options) :
    turn'.code settings = turn.code settings := by
  have hmock := Loader.mockFile_eq hclosed hsame hkept
  rw [code, code, Generation.source, Generation.source, hinterfaces,
    mockFile_package _ hname hpath hmodule]
  dsimp only
  rw [hmock]

/-- A package is visited again, and the same interfaces can be mocked. -/
structure Visit.Repeats (visit visit' : Visit) : Prop where
  name     : visit'.package.name = visit.package.name
  path     : visit'.package.path = visit.package.path
  module   : visit'.package.module = visit.package.module
  eligible : visit'.eligible = visit.eligible

/-- A visit without eligible interfaces has no turn. -/
theorem Visit.turns_of_eligible (h : visit.eligible = .ok []) : visit.turns settings = [] := by
  rw [turns, listed_eq, h]
  rfl

theorem Visit.exists_listing_iff :
    (∃ interfaces, visit.listing = .ok interfaces) ↔ ∃ interfaces, visit.eligible = .ok interfaces := by
  rw [eligible]
  cases visit.listing <;> simp [Except.map]

/-- The interfaces of a turn are among those of its package. -/
theorem Visit.mem_listing_of_turn (hturn : turn ∈ visit.turns settings) {is : List Interface}
    (his : visit.listing = .ok is) {i : Interface} (hi : i ∈ turn.interfaces) : i ∈ is := by
  have hgroup : turn.group ∈ groupByFile (is.filter (·.eligibility.isEligible)) := by
    rw [← Visit.groups_of_ok settings his]
    exact List.mem_map_of_mem hturn
  obtain ⟨file, -, hgroup⟩ := List.mem_map.mp hgroup
  rw [← (Prod.mk.inj hgroup).2] at hi
  exact List.mem_of_mem_filter (List.mem_of_mem_filter hi)

/-- Two visits of one package have turns for the same source files. -/
theorem Visit.Repeats.exists_turn (h : visit.Repeats visit') (hturn' : turn' ∈ visit'.turns settings) :
    ∃ turn ∈ visit.turns settings, turn.group = turn'.group ∧
      turn'.package.name = turn.package.name ∧ turn'.package.path = turn.package.path ∧
      turn'.package.module = turn.package.module := by
  have hgroups := Visit.groups_of_eligible settings h.eligible
  obtain ⟨turn, hturn, hgroup⟩ := List.mem_map.mp (hgroups ▸ List.mem_map_of_mem hturn')
  rw [package_of_mem_turnsOf hturn']
  refine ⟨turn, hturn, hgroup, ?_⟩
  rw [package_of_mem_turnsOf hturn]
  exact ⟨h.name, h.path, h.module⟩

end Generation

namespace Run

open Generation (Visit Turn)

variable {run again : Run} {visit visit' : Visit} {turn turn' : Turn} {dirs : Location → Prop}
  {package : Package}

/-- Is everything as it was at the start of a run? -/
def AsAtStart (run : Run) (g : Generation) : Prop :=
  g.tree = run.start.tree ∧ g.packages = run.start.packages

/-- Two runs of one request, the second of them on the tree that the first one left behind. The
first one wrote in some directories, where neither of them finds anything to be mocked. All that is
needed is the same all along. -/
structure Undisturbed (run again : Run) (dirs : Location → Prop) : Prop where
  sound      : run.Sound
  start      : run.start.report = {}
  errors     : run.last.report.errors = []
  soundAgain : again.Sound
  settings   : again.settings = run.settings
  tree       : again.start.tree = run.last.tree
  module     : again.start.loader.module = run.start.loader.module
  report     : again.start.report = {}
  packages   : ∀ package : Package, ¬ dirs package.dir.location →
    (package ∈ again.packages ↔ package ∈ run.packages)
  quiet      : ∀ visit ∈ run.visits, dirs visit.package.dir.location → visit.eligible = .ok []
  quietAgain : ∀ visit ∈ again.visits, dirs visit.package.dir.location → visit.eligible = .ok []
  closed     : Closed run.start.packages (run.Needs dirs)
  along      : ∀ path, run.Needs dirs path → ∀ visit ∈ run.visits,
    visit.before.packages path = run.start.packages path ∧
      ∀ turn ∈ visit.turns run.settings, turn.before.packages path = run.start.packages path
  found      : ∀ path, run.Needs dirs path →
    again.start.packages path = run.start.packages path

/-- The packages of a run are those it visits. -/
theorem exists_visit : package ∈ run.packages ↔ ∃ visit ∈ run.visits, visit.package = package := by
  rw [← Generation.map_package_visits run.settings run.start run.packages, List.mem_map]
  rfl

theorem Needs.of_visit (hvisit : visit ∈ run.visits) (hdirs : ¬ dirs visit.package.dir.location) :
    run.Needs dirs visit.package.path :=
  .package (exists_visit.mpr ⟨visit, hvisit, rfl⟩) hdirs

/-- The import path and the module of a package, by its directory. -/
theorem Sound.importPath? (h : run.Sound) (hpackage : package ∈ run.packages) :
    run.start.loader.module.importPath? package.dir.location.path = some package.path ∧
      package.module = run.start.loader.module.path := by
  obtain ⟨l, p, hloaded, rfl, -⟩ := h.loaded package hpackage
  have hproper : l.IsProper := h.tree.proper (by simp [hloaded.directory])
  rw [hloaded.dir, (Path.leadsTo_path hproper).location_eq]
  exact ⟨hloaded.path, hloaded.module_eq⟩

namespace Undisturbed

variable (h : run.Undisturbed again dirs)
include h

/-- The interfaces of a package outside of the directories are found among the packages that are
needed. -/
theorem interfaces_within (hvisit : visit ∈ run.visits) (hdirs : ¬ dirs visit.package.dir.location) :
    ∃ p, visit.before.packages visit.package.path = some p ∧
      p.interfaces.Within visit.before.packages (run.Needs dirs)
        (fun is => ∀ i ∈ is, i.MentionsOnly (run.Needs dirs)) fun _ => True := by
  obtain ⟨-, p, -, -, hp⟩ := h.sound.package hvisit
  have hclosed : Closed visit.before.packages (run.Needs dirs) :=
    h.closed.congr fun path hpath => (h.along path hpath visit hvisit).1
  exact ⟨p, hp, SourcePackage.interfaces_within hclosed (Needs.of_visit hvisit hdirs) hp⟩

/-- Outside of the directories the same interfaces are listed. -/
theorem listing_eq (hvisit : visit ∈ run.visits) (hpackage : visit'.package = visit.package)
    (hdirs : ¬ dirs visit.package.dir.location) (hstart : again.AsAtStart visit'.before) :
    visit'.listing = visit.listing := by
  obtain ⟨p, hp, hwithin⟩ := h.interfaces_within hvisit hdirs
  have hsame : ∀ path, run.Needs dirs path →
      visit'.before.packages path = visit.before.packages path := fun path hpath => by
    rw [hstart.2, h.found path hpath, (h.along path hpath visit hvisit).1]
  have hp' : visit'.before.packages visit'.package.path = some p := by
    rw [hpackage, hsame _ (Needs.of_visit hvisit hdirs), hp]
  rw [Sound.listing_eq hp, Sound.listing_eq hp']
  exact hwithin.answer_eq hsame

/-- Each visit of the second run repeats one of the first, if there is anything to be mocked. -/
theorem exists_repeats (hvisit' : visit' ∈ again.visits) (hstart : again.AsAtStart visit'.before)
    (hne : visit'.eligible ≠ .ok []) :
    ∃ visit ∈ run.visits, ¬ dirs visit.package.dir.location ∧ visit.Repeats visit' := by
  have hdirs : ¬ dirs visit'.package.dir.location := fun hdirs =>
    hne (h.quietAgain visit' hvisit' hdirs)
  obtain ⟨visit, hvisit, hpackage⟩ :=
    exists_visit.mp ((h.packages _ hdirs).mp (exists_visit.mpr ⟨visit', hvisit', rfl⟩))
  rw [← hpackage] at hdirs
  have hlisting := h.listing_eq hvisit hpackage.symm hdirs hstart
  exact ⟨visit, hvisit, hdirs, by rw [hpackage], by rw [hpackage], by rw [hpackage],
    by rw [Visit.eligible, Visit.eligible, hlisting]⟩

/-- A mock file of the first run depends on what is needed alone. -/
theorem mentionsOnly (hvisit : visit ∈ run.visits) (hdirs : ¬ dirs visit.package.dir.location)
    (hturn : turn ∈ visit.turns run.settings) :
    MockFile.MentionsOnly (run.Needs dirs) turn.package turn.interfaces run.settings.options := by
  obtain ⟨p, hp, hwithin⟩ := h.interfaces_within hvisit hdirs
  obtain ⟨is, his⟩ := ((errors_eq_nil_iff h.start).mp h.errors).1 visit hvisit
  refine ⟨.testing, .runtime, ?_, fun i hi => ?_⟩
  · rw [Generation.package_of_mem_turnsOf hturn]
    exact Needs.of_visit hvisit hdirs
  · exact hwithin.of_eq_ok (Sound.listing_eq hp ▸ his) i (Visit.mem_listing_of_turn hturn his hi)

/-- Each turn of the second run has one of the first run beside it. -/
theorem exists_turn (hvisit' : visit' ∈ again.visits) (hstart : again.AsAtStart visit'.before)
    (hturn' : turn' ∈ visit'.turns run.settings) (hbefore : again.AsAtStart turn'.before) :
    ∃ turn ∈ run.turns, turn.output run.settings = turn'.output run.settings ∧
      turn'.code run.settings = turn.code run.settings := by
  have hne : visit'.eligible ≠ .ok [] := fun he => by
    rw [Visit.turns_of_eligible he] at hturn'
    cases hturn'
  obtain ⟨visit, hvisit, hdirs, hrepeats⟩ := h.exists_repeats hvisit' hstart hne
  obtain ⟨turn, hturn, hgroup, hname, hpath, hmodule⟩ := hrepeats.exists_turn hturn'
  obtain ⟨hsource, hinterfaces⟩ := Prod.mk.inj hgroup
  have halong := fun path hpath => (h.along path hpath visit hvisit).2 turn hturn
  refine ⟨turn, mem_turns.mpr ⟨visit, hvisit, hturn⟩, congrArg (outputPath · _) hsource,
    Turn.code_eq hname hpath hmodule hinterfaces.symm (h.closed.congr halong) (fun path hpath => ?_)
      (h.mentionsOnly hvisit hdirs hturn)⟩
  rw [hbefore.2, h.found path hpath, halong path hpath]

/-- **What becomes of a mock file in the second run**: it is found unchanged, and so everything
stays as it was at the start. -/
theorem unchanged (hvisit' : visit' ∈ again.visits) (hstart : again.AsAtStart visit'.before)
    (hturn' : turn' ∈ visit'.turns again.settings) (hbefore : again.AsAtStart turn'.before) :
    turn'.outcome again.settings = .ok .unchanged ∧
      again.AsAtStart (turn'.after again.settings) ∧
      ∃ turn ∈ run.turns, turn.output run.settings = turn'.output again.settings := by
  rw [h.settings] at hturn' ⊢
  obtain ⟨turn, hturn, houtput, hsame⟩ := h.exists_turn hvisit' hstart hturn' hbefore
  obtain ⟨outcome, houtcome⟩ := ((errors_eq_nil_iff h.start).mp h.errors).2 turn hturn
  obtain ⟨code, hcode, hentry⟩ := h.sound.entry_of_published hturn houtcome
  have hcode' : turn'.code run.settings = .ok code := hsame.trans hcode
  -- the mock file of the first run is still there
  have hheld : turn'.before.tree.publish run.settings.refusals (turn'.output run.settings)
      code.toUTF8 = (turn'.before.tree, .ok .unchanged) := by
    refine if_pos ?_
    rw [hbefore.1, h.tree, ← houtput]
    exact (h.sound.leaves.sound.holds_iff (h.sound.output hturn)).mpr hentry
  have htree : (turn'.after run.settings).tree = turn'.before.tree := by
    rw [turn'.tree_after, hcode']
    exact congrArg Prod.fst hheld
  refine ⟨?_, ⟨htree.trans hbefore.1, ?_⟩, turn, hturn, houtput⟩
  · rw [Turn.outcome_of_code hcode', hheld]
  · rw [← hbefore.2, Generation.packages, htree, Turn.loader_after, Generation.packages_source]
    rfl

/-- **Everything stays as it was all along the second run.** -/
theorem asAtStart :
    (∀ visit' ∈ again.visits, again.AsAtStart visit'.before ∧
        ∀ turn' ∈ visit'.turns again.settings, again.AsAtStart turn'.before) ∧
      again.AsAtStart again.last :=
  Generation.invariant_visits again.AsAtStart
    (fun _ _ hbefore => ⟨(Visit.tree_listed _ _).trans hbefore.1,
      (Generation.packages_listed _ _).trans hbefore.2⟩)
    (fun _ hvisit' hstart _ hturn' hbefore => (h.unchanged hvisit' hstart hturn' hbefore).2.1)
    ⟨rfl, rfl⟩

/-- A second run finds each of its outputs as the first left it. -/
theorem outcome (hturn' : turn' ∈ again.turns) :
    turn'.outcome again.settings = .ok .unchanged ∧
      ∃ turn ∈ run.turns, turn.output run.settings = turn'.output again.settings := by
  obtain ⟨visit', hvisit', hturn'⟩ := mem_turns.mp hturn'
  obtain ⟨hstart, hbefore⟩ := h.asAtStart.1 visit' hvisit'
  obtain ⟨houtcome, -, hturn⟩ := h.unchanged hvisit' hstart hturn' (hbefore turn' hturn')
  exact ⟨houtcome, hturn⟩

/-- A second run lists every package it visits. -/
theorem listing (hvisit' : visit' ∈ again.visits) :
    ∃ interfaces, visit'.listing = .ok interfaces := by
  rw [Visit.exists_listing_iff]
  by_cases hne : visit'.eligible = .ok []
  · exact ⟨[], hne⟩
  · obtain ⟨visit, hvisit, -, hrepeats⟩ :=
      h.exists_repeats hvisit' (h.asAtStart.1 visit' hvisit').1 hne
    rw [hrepeats.eligible, ← Visit.exists_listing_iff]
    exact ((errors_eq_nil_iff h.start).mp h.errors).1 visit hvisit

/-- Each visit of the first run is repeated in the second one, if there was anything to be mocked. -/
theorem exists_repeated (hvisit : visit ∈ run.visits) (hne : visit.eligible ≠ .ok []) :
    ∃ visit' ∈ again.visits, visit'.eligible = visit.eligible := by
  have hdirs : ¬ dirs visit.package.dir.location := fun hdirs => hne (h.quiet visit hvisit hdirs)
  obtain ⟨visit', hvisit', hpackage⟩ :=
    exists_visit.mp ((h.packages _ hdirs).mpr (exists_visit.mpr ⟨visit, hvisit, rfl⟩))
  have hlisting := h.listing_eq hvisit hpackage hdirs (h.asAtStart.1 visit' hvisit').1
  exact ⟨visit', hvisit', by rw [Visit.eligible, Visit.eligible, hlisting]⟩

/-- Each mock file of the first run has its turn in the second one. -/
theorem exists_again (hturn : turn ∈ run.turns) :
    ∃ turn' ∈ again.turns, turn'.output again.settings = turn.output run.settings := by
  obtain ⟨visit, hvisit, hturn⟩ := mem_turns.mp hturn
  have hne : visit.eligible ≠ .ok [] := fun he => by
    rw [Visit.turns_of_eligible he] at hturn
    cases hturn
  obtain ⟨visit', hvisit', heligible⟩ := h.exists_repeated hvisit hne
  have hgroups := Visit.groups_of_eligible run.settings heligible
  obtain ⟨turn', hturn', hgroup⟩ := List.mem_map.mp (hgroups ▸ List.mem_map_of_mem hturn)
  refine ⟨turn', mem_turns.mpr ⟨visit', hvisit', h.settings ▸ hturn'⟩, ?_⟩
  rw [h.settings]
  exact congrArg (outputPath · _) (Prod.mk.inj hgroup).1

/-- **The second run changes nothing**, and finds unchanged just what the first one published. -/
theorem last :
    again.last.tree = run.last.tree ∧ again.last.report.errors = [] ∧
      again.last.report.written = [] ∧
      again.last.report.unchanged.Perm (run.last.report.written ++ run.last.report.unchanged) := by
  refine ⟨h.asAtStart.2.1.trans h.tree, (errors_eq_nil_iff h.report).mpr
    ⟨fun _ => h.listing, fun turn' hturn' => ⟨_, (h.outcome hturn').1⟩⟩, ?_, ?_⟩
  · rw [again.written_eq h.report, outputs, List.filter_eq_nil_iff.mpr, List.map_nil]
    exact fun turn' hturn' => by simp [(h.outcome hturn').1]
  · rw [again.unchanged_eq h.report, run.written_eq h.start, run.unchanged_eq h.start]
    refine (List.perm_ext_iff_of_nodup (List.nodup_append.mp h.soundAgain.published_nodup).2.1
      h.sound.published_nodup).mpr fun output => ?_
    rw [List.mem_append, mem_outputs, mem_outputs, mem_outputs]
    constructor
    · rintro ⟨turn', hturn', -, rfl⟩
      obtain ⟨turn, hturn, houtput⟩ := (h.outcome hturn').2
      obtain ⟨outcome, houtcome⟩ := ((errors_eq_nil_iff h.start).mp h.errors).2 turn hturn
      cases outcome with
      | written   => exact .inl ⟨turn, hturn, houtcome, houtput⟩
      | unchanged => exact .inr ⟨turn, hturn, houtcome, houtput⟩
    · intro hmem
      obtain ⟨turn, hturn, rfl⟩ : ∃ turn ∈ run.turns, turn.output run.settings = output := by
        rcases hmem with ⟨turn, hturn, -, houtput⟩ | ⟨turn, hturn, -, houtput⟩ <;>
          exact ⟨turn, hturn, houtput⟩
      obtain ⟨turn', hturn', houtput⟩ := h.exists_again hturn
      exact ⟨turn', hturn', (h.outcome hturn').1, houtput⟩

end Undisturbed

end Run

end GoMocks
