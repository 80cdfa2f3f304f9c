import GoMocks.Proofs.Generation.Undisturbed
import GoMocks.Proofs.Loading.History

/-!
# Generation — a request that is run again

A request is run again on the tree that its first run left behind. The packages outside of the
directories that were written in are loaded as before, and so is all that they import, if it does not
lie there.

* `Run.loaded_again`: the packages that the second run has in common with the first one.
* `Run.packages_start`: what a run finds at its start.
* `Run.exists_run_again`: when there is a second run.
* `Run.undisturbed_again`: when the first run does not get in its way.
-/

namespace GoMocks

/-- The template depends on the text of its file alone. -/
theorem Request.template_congr {request : Request} {t t' : FileTree}
    (h : ∀ file, request.config.template = some file → t'.readText file = t.readText file) :
    request.template t' = request.template t := by
  rw [template, template]
  split
  · rfl
  · next file hfile => rw [h file hfile]

namespace Run

variable {run again : Run} {dirs : Location → Prop} {refusals : Refusals} {t t₁ : FileTree}
  {env : Environment} {request : Request} {path : String}

/-! ### What is loaded again -/

/-- The module is found again, and patterns are seen from the same directory. -/
theorem loader_again (ht : t.IsSound) (ht₁ : t₁.IsSound) (hadds : t.Adds dirs t₁)
    (hrun : runOf refusals t env request = .ok run)
    (hagain : runOf refusals t₁ env request = .ok again) :
    again.start.loader.module = run.start.loader.module ∧
      again.start.loader.root = run.start.loader.root := by
  obtain ⟨-, _, first, _, -, hfirst, -, rfl⟩ := runOf_eq_ok_iff.mp hrun
  obtain ⟨-, _, first₁, _, -, hfirst₁, -, rfl⟩ := runOf_eq_ok_iff.mp hagain
  obtain rfl := Except.ok.inj ((hadds.ofDirectory ht ht₁ hfirst).symm.trans hfirst₁)
  simp

/-- A run that starts has matched each of its patterns, and looked for a package in each directory.
-/
theorem exists_matchedDirs (hrun : runOf refusals t env request = .ok run) {pattern : String}
    (hpattern : pattern ∈ request.patterns) :
    ∃ ls, run.start.loader.module.matchedDirs t run.start.loader.root pattern = .ok ls ∧
      ∀ l ∈ ls, ∃ p?, Loader.packageIn t run.start.loader.module pattern l = .ok p? := by
  obtain ⟨-, _, first, ps, -, -, hps, rfl⟩ := runOf_eq_ok_iff.mp hrun
  rw [Loader.module_keepAll, Loader.root_keepAll]
  exact Loader.exists_namedPackages_iff.mp ⟨ps, hps⟩ pattern hpattern

/-- What is loaded for a request outside of some directories is loaded again, when there are
additions in these directories. -/
theorem loaded_again (ht : t.IsSound) (ht₁ : t₁.IsSound) (hadds : t.Adds dirs t₁)
    (hrun : runOf refusals t env request = .ok run)
    (hagain : runOf refusals t₁ env request = .ok again) {package : Package}
    (hdirs : ¬ dirs package.dir.location) :
    package ∈ again.packages ↔ package ∈ run.packages := by
  obtain ⟨hmodule, hroot⟩ := loader_again ht ht₁ hadds hrun hagain
  have hmatched := fun pattern (hpattern : pattern ∈ request.patterns) =>
    (exists_matchedDirs hrun hpattern).imp fun _ => And.left
  constructor <;> intro hpackage
  · obtain ⟨l, p, hmatches, hloaded, rfl, -⟩ := exists_of_mem_packages hagain hpackage
    rw [hmodule] at hmatches hloaded
    rw [hroot] at hmatches
    rw [hloaded.location ht₁] at hdirs
    exact (mem_packages_of_matches ht hrun ((hadds.matches_iff ht hmatched hdirs).mp hmatches)
      ((hadds.loadedFrom_iff ht ht₁ hdirs).mp hloaded)).1
  · obtain ⟨l, p, hmatches, hloaded, rfl, -⟩ := exists_of_mem_packages hrun hpackage
    rw [hloaded.location ht] at hdirs
    have hmatches := hadds.matches_of_matches ht hmatches
    have hloaded := (hadds.loadedFrom_iff ht ht₁ hdirs).mpr hloaded
    rw [← hmodule] at hmatches hloaded
    rw [← hroot] at hmatches
    exact (mem_packages_of_matches ht₁ hagain hmatches hloaded).1

/-! ### What is found again -/

/-- **A run finds at its start what would be read**, whatever it has loaded. -/
theorem packages_start (ht : t.IsSound) (hrun : runOf refusals t env request = .ok run) :
    run.start.packages = Loader.read t run.start.loader.module env ∧ run.start.loader.env = env := by
  obtain ⟨-, _, first, _, -, hfirst, hps, rfl⟩ := runOf_eq_ok_iff.mp hrun
  obtain ⟨hpackages, -, henv⟩ := Loader.packages_of_loadPackages ht hfirst
    (Loader.run_loadPackages_eq_ok_iff.mpr ⟨_, hps, rfl, rfl⟩)
  refine ⟨?_, henv⟩
  rw [Loader.module_keepAll]
  exact hpackages

/-- What a package needs that is needed is needed as well. -/
theorem closed_needs (ht : t.IsSound) (hrun : runOf refusals t env request = .ok run) :
    Closed run.start.packages (run.Needs dirs) := by
  refine ⟨fun path p hpath hp => ?_, fun path p hpath hp file hfile i hi =>
    .imported hpath hp hfile hi⟩
  rw [(packages_start ht hrun).1] at hp
  rwa [Loader.path_of_read hp]

/-- A package that is looked up elsewhere is found again. -/
theorem packages_again (ht : t.IsSound) (ht₁ : run.last.tree.IsSound)
    (hrun : runOf refusals t env request = .ok run)
    (hadds : t.Adds run.last.report.WroteIn run.last.tree)
    (hagain : runOf refusals run.last.tree env request = .ok again)
    (hmodule : again.start.loader.module = run.start.loader.module)
    (hpath : run.LooksElsewhere path) :
    again.start.packages path = run.start.packages path := by
  obtain ⟨hpackages, henv⟩ := packages_start ht hrun
  obtain ⟨rfl, -⟩ := of_runOf hrun
  rw [(packages_start ht₁ hagain).1, hpackages, hmodule, ← henv]
  exact hpath.read_eq ht hadds (.refl _)

/-- A request can be run again, if the template reads the same and what a pattern now matches in the
directories with additions can be loaded. -/
theorem exists_run_again (ht : t.IsSound) (ht₁ : t₁.IsSound) (hadds : t.Adds dirs t₁)
    (hrun : runOf refusals t env request = .ok run)
    (htemplate : request.template t₁ = request.template t)
    (hloads : ∀ pattern ∈ request.patterns, ∀ ls,
      run.start.loader.module.matchedDirs t₁ run.start.loader.root pattern = .ok ls →
      ∀ l ∈ ls, dirs l → ∃ p?, Loader.packageIn t₁ run.start.loader.module pattern l = .ok p?) :
    ∃ again, runOf refusals t₁ env request = .ok again ∧ again.settings = run.settings := by
  obtain ⟨hconfig, template, first, ps, hread, hfirst, hps, rfl⟩ := runOf_eq_ok_iff.mp hrun
  rw [Loader.module_keepAll, Loader.root_keepAll] at hloads
  obtain ⟨ps₁, hps₁⟩ := hadds.exists_namedPackages ht ht₁ hps hloads
  exact ⟨_, runOf_eq_ok_iff.mpr ⟨hconfig, template, first, ps₁, htemplate.trans hread,
    hadds.ofDirectory ht ht₁ hfirst, hps₁, rfl⟩, rfl⟩

/-- **The first run does not get in the way of the second one**, if there is nothing to be mocked in
the directories that it wrote in, and all that is needed lies elsewhere. -/
theorem undisturbed_again (ht : t.IsSound) (hrun : runOf refusals t env request = .ok run)
    (herrors : run.last.report.errors = [])
    (hagain : runOf refusals run.last.tree env request = .ok again)
    (hsettings : again.settings = run.settings)
    (hquiet : ∀ visit ∈ run.visits, run.last.report.WroteIn visit.package.dir.location →
      visit.eligible = .ok [])
    (hquietAgain : ∀ visit ∈ again.visits, run.last.report.WroteIn visit.package.dir.location →
      visit.eligible = .ok [])
    (helsewhere : ∀ path, run.Needs run.last.report.WroteIn path → run.LooksElsewhere path) :
    run.Undisturbed again run.last.report.WroteIn := by
  obtain ⟨rfl, hstart, -⟩ := of_runOf hrun
  have hsound := sound_of_runOf ht hrun
  have hadds := adds hsound hstart herrors
  have ht₁ := hsound.leaves.sound
  obtain ⟨htree, hreport, -⟩ := of_runOf hagain
  obtain ⟨hmodule, -⟩ := loader_again ht ht₁ hadds hrun hagain
  exact ⟨hsound, hstart, herrors, sound_of_runOf ht₁ hagain, hsettings, htree, hmodule, hreport,
    fun _ hdirs => loaded_again ht ht₁ hadds hrun hagain hdirs, hquiet, hquietAgain,
    closed_needs ht hrun,
    fun path hpath => packages_along hsound hstart herrors (helsewhere path hpath),
    fun path hpath => packages_again ht ht₁ hrun hadds hagain hmodule (helsewhere path hpath)⟩

end Run

end GoMocks
