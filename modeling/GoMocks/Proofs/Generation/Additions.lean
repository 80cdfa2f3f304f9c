import GoMocks.Proofs.Dependency
import GoMocks.Proofs.Generation.Frame

/-!
# Generation — what a run adds, and what it needs

A run without errors adds mock files to the tree. It finds its packages as they were at the start all
the time, as long as they do not lie where it writes.

* `Run.adds`: what a run adds to the tree, from each moment to the end.
* `Run.Needs`: the import paths that mock files depend on: those of the packages that are loaded, and
  what these import.
* `Run.packages_along`: a package that is looked up elsewhere is the same all along the run.
-/

namespace GoMocks

/-- Was a file written in the directory? -/
def Report.WroteIn (report : Report) (l : Location) : Prop :=
  ∃ path ∈ report.written, path.location.dropLast = l

instance (report : Report) : DecidablePred report.WroteIn :=
  fun l => inferInstanceAs (Decidable (∃ path ∈ report.written, path.location.dropLast = l))

namespace Run

open Generation (Visit Turn)

variable {run : Run} {visit : Visit} {turn : Turn} {path : String}

/-! ### What a run adds -/

/-- In a run without errors a file that is not found as it is, is written. -/
theorem written_of_no_errors (hstart : run.start.report = {})
    (herrors : run.last.report.errors = []) (hturn : turn ∈ run.turns)
    (h : turn.outcome run.settings ≠ .ok .unchanged) :
    turn.outcome run.settings = .ok .written := by
  obtain ⟨outcome, houtcome⟩ := ((errors_eq_nil_iff hstart).mp herrors).2 turn hturn
  cases outcome with
  | written => exact houtcome
  | unchanged => exact absurd houtcome h

/-- A turn of a run without errors adds a Go source, in a directory that is written to. -/
theorem adds_turn (hsound : run.Sound) (hstart : run.start.report = {})
    (herrors : run.last.report.errors = []) (hturn : turn ∈ run.turns) :
    turn.before.tree.Adds run.last.report.WroteIn (turn.after run.settings).tree := by
  have hleaves := hsound.leaves.turn turn hturn
  have hwrote : turn.outcome run.settings = .ok .written →
      run.last.report.WroteIn (turn.place run.settings).dropLast := by
    intro houtcome
    refine ⟨turn.output run.settings, ?_, rfl⟩
    rw [run.written_eq hstart]
    exact mem_outputs.mpr ⟨turn, hturn, houtcome, rfl⟩
  refine ⟨hleaves.keeps, fun m => ?_⟩
  rcases hleaves.changes m with hsame | ⟨hnone, hmade, rfl⟩ | ⟨rfl, hwritten⟩
  · exact .inl hsame
  · refine .inr (.inl ⟨hwrote (written_of_no_errors hstart herrors hturn fun hunchanged => ?_), hnone,
      hmade⟩)
    rw [hleaves.unchanged hunchanged, hnone] at hmade
    cases hmade
  · obtain ⟨code, -, hentry⟩ := hleaves.published _ hwritten
    obtain ⟨d, name, hgo, hstands⟩ := hsound.turn_stands hturn
    have hplace := hstands.place_eq hsound.tree hsound.outputDir
    have hdropLast := hwrote hwritten
    rw [hplace] at hdropLast hentry ⊢
    refine .inr (.inr ⟨d ++ [run.settings.directoryName], name, ?_, hgo, by simp, _, hentry⟩)
    simpa [List.dropLast_append_of_ne_nil] using hdropLast

/-- **What a run without errors adds to the tree**: Go sources in the directories that it wrote in,
from the start to each moment, and from there to the end. -/
theorem adds_along (hsound : run.Sound) (hstart : run.start.report = {})
    (herrors : run.last.report.errors = []) :
    run.start.tree.Adds run.last.report.WroteIn run.last.tree ∧ ∀ visit ∈ run.visits,
      run.start.tree.Adds run.last.report.WroteIn visit.before.tree ∧
      ∀ turn ∈ visit.turns run.settings,
        run.start.tree.Adds run.last.report.WroteIn turn.before.tree ∧
          (turn.after run.settings).tree.Adds run.last.report.WroteIn run.last.tree := by
  refine Generation.relates_visits
    (R := fun g g' => g.tree.Adds run.last.report.WroteIn g'.tree) (fun g => .refl _ g.tree)
    (fun h h' => h.trans h') (fun g package => ?_) fun visit hvisit turn hturn => ?_
  · rw [Visit.tree_listed]
    exact .refl _ _
  · exact adds_turn hsound hstart herrors (mem_turns.mpr ⟨visit, hvisit, hturn⟩)

/-- A run without errors only adds mock files, and those in the directories it reports. -/
theorem adds (hsound : run.Sound) (hstart : run.start.report = {})
    (herrors : run.last.report.errors = []) :
    run.start.tree.Adds run.last.report.WroteIn run.last.tree :=
  (adds_along hsound hstart herrors).1

/-! ### What a run needs -/

/-- The import paths that the mock files of a run depend on: those that every mock file refers to,
those of the packages outside of some directories, and all that a package imports that is needed. -/
inductive Needs (run : Run) (dirs : Location → Prop) : String → Prop
  | testing : Needs run dirs "testing"
  | runtime : Needs run dirs run.settings.options.runtime
  | package {package : Package} (h : package ∈ run.packages)
      (hdirs : ¬ dirs package.dir.location) : Needs run dirs package.path
  | imported {path : String} {p : SourcePackage} {file : GoSource.SourceFile}
      {i : GoSource.ImportSpec} (h : Needs run dirs path) (hp : run.start.packages path = some p)
      (hfile : file ∈ p.files) (hi : i ∈ file.imports) : Needs run dirs i.path

/-- Import paths that hold all that is needed. -/
structure HoldsNeeds (run : Run) (dirs : Location → Prop) (paths : List String) : Prop where
  testing  : "testing" ∈ paths
  runtime  : run.settings.options.runtime ∈ paths
  packages : ∀ package ∈ run.packages, ¬ dirs package.dir.location → package.path ∈ paths
  imported : ∀ path ∈ paths, ∀ p ∈ run.start.packages path, ∀ file ∈ p.files, ∀ i ∈ file.imports,
    i.path ∈ paths

instance (run : Run) (dirs : Location → Prop) [DecidablePred dirs] (paths : List String) :
    Decidable (run.HoldsNeeds dirs paths) :=
  decidable_of_iff
    ("testing" ∈ paths ∧ run.settings.options.runtime ∈ paths ∧
      (∀ package ∈ run.packages, ¬ dirs package.dir.location → package.path ∈ paths) ∧
      ∀ path ∈ paths, ∀ p ∈ run.start.packages path, ∀ file ∈ p.files, ∀ i ∈ file.imports,
        i.path ∈ paths)
    ⟨fun ⟨ht, hr, hp, hi⟩ => ⟨ht, hr, hp, hi⟩, fun ⟨ht, hr, hp, hi⟩ => ⟨ht, hr, hp, hi⟩⟩

/-- What a run needs is among the packages it holds. -/
theorem HoldsNeeds.mem {dirs : Location → Prop} {paths : List String}
    (h : run.HoldsNeeds dirs paths) (hneeds : run.Needs dirs path) : path ∈ paths := by
  induction hneeds with
  | testing => exact h.testing
  | runtime => exact h.runtime
  | package hpackage hdirs => exact h.packages _ hpackage hdirs
  | imported _ hp hfile hi ih => exact h.imported _ ih _ hp _ hfile _ hi

theorem HoldsNeeds.mono {dirs dirs' : Location → Prop} {paths : List String}
    (h : run.HoldsNeeds dirs paths) (hdirs : ∀ l, dirs l → dirs' l) : run.HoldsNeeds dirs' paths where
  testing  := h.testing
  runtime  := h.runtime
  packages := fun package hpackage hn => h.packages package hpackage fun hd => hn (hdirs _ hd)
  imported := h.imported

end Run

/-! ### What is found along a run -/

namespace Loader

variable {t t' : FileTree} {m : GoModule} {env : Environment} {path : String} {p : SourcePackage}

/-- A package that is read has the import path that it was asked for by. -/
theorem path_of_read (h : read t m env path = some p) : p.package.path = path := by
  have hbuiltIn : ∀ {p}, StandardLibrary.package? path = some p → p.package.path = path := by
    intro p hp
    obtain ⟨source, -, hp⟩ := Option.bind_eq_some_iff.mp hp
    obtain ⟨file, -, hp⟩ := Option.bind_eq_some_iff.mp hp
    exact (FileTree.packageOf?_eq_some hp).2.2.1
  have hread : ∀ {p}, (do t.readDependency m.path (← m.locate? t env path) path) = some p →
      p.package.path = path := by
    intro p hp
    obtain ⟨dir, -, hp⟩ := Option.bind_eq_some_iff.mp hp
    obtain ⟨files, -, hp⟩ := Option.bind_eq_some_iff.mp hp
    exact (FileTree.packageOf?_eq_some hp).2.2.1
  rw [read] at h
  split at h
  · next hp =>
    obtain rfl := Option.some.inj h
    split at hp
    · cases hp
    · exact hbuiltIn hp
  · exact hread h

/-- What is looked up is the same in another tree, if it would be read the same. -/
theorem packages_eq_of_read {loader : Loader}
    (h : read t' loader.module loader.env path = read t loader.module loader.env path) :
    loader.packages t' path = loader.packages t path := by
  rw [packages, packages, h]

end Loader

namespace Generation

variable {settings : RunSettings} {turn : Turn}

/-- What is asked for a mock file does not change what would be found. -/
theorem packages_source (settings : RunSettings) (t : FileTree) (loader : Loader)
    (package : Package) (interfaces : List Interface) :
    (source settings t loader package interfaces).2.packages t = loader.packages t := by
  rw [snd_source]
  exact Loader.packages_mockFile t loader package interfaces settings.options

theorem packages_listed (g : Generation) (package : Package) :
    (listed g package).1.packages = g.packages := by
  have h := Loader.packages_interfaces g.tree package.path g.loader
  rw [packages, Visit.tree_listed, listed]
  rcases hrun : (Loader.interfaces g.tree package.path).run.run g.loader with ⟨e | is, loader⟩ <;>
    rw [hrun] at h <;> exact h

/-- A turn leaves what is looked up as it was, if it would be read the same afterwards. -/
theorem packages_after {path : String}
    (h : Loader.read (turn.after settings).tree turn.before.loader.module turn.before.loader.env path =
      Loader.read turn.before.tree turn.before.loader.module turn.before.loader.env path) :
    (turn.after settings).packages path = turn.before.packages path := by
  have hextends : turn.before.loader.Extends (turn.after settings).loader :=
    extends_addFile settings turn.package turn.before turn.group
  rw [← hextends.module, ← hextends.env] at h
  rw [packages, Loader.packages_eq_of_read h, Turn.loader_after, packages_source]
  rfl

end Generation

namespace Run

open Generation (Visit Turn)

variable {run : Run} {path : String}

/-- An import path of the run does not lead to a directory that it writes in. -/
def LooksElsewhere (run : Run) (path : String) : Prop :=
  run.start.loader.module.LooksElsewhere run.start.loader.env run.last.report.WroteIn run.start.tree
    run.last.tree path

instance (run : Run) (path : String) : Decidable (run.LooksElsewhere path) :=
  inferInstanceAs (Decidable (run.start.loader.module.LooksElsewhere _ _ _ _ _))

/-- **A package that is looked up elsewhere is the same all along the run.** -/
theorem packages_along (hsound : run.Sound) (hstart : run.start.report = {})
    (herrors : run.last.report.errors = []) (hpath : run.LooksElsewhere path) :
    ∀ visit ∈ run.visits, visit.before.packages path = run.start.packages path ∧
      ∀ turn ∈ visit.turns run.settings,
        turn.before.packages path = run.start.packages path := by
  have hadds := adds_along hsound hstart herrors
  refine (Generation.invariant_visits (fun g => g.packages path = run.start.packages path)
    (fun visit _ h => ?_) (fun visit hvisit _ turn hturn h => ?_) rfl).1
  · rw [Generation.packages_listed, h]
  · obtain ⟨hbefore, hafter⟩ := (hadds.2 visit hvisit).2 turn hturn
    have hturn' := adds_turn hsound hstart herrors (mem_turns.mpr ⟨visit, hvisit, hturn⟩)
    have hextends := (Generation.extends_visit hvisit).2 turn hturn
    refine (Generation.packages_after ?_).trans h
    rw [hextends.module, hextends.env,
      hpath.read_eq hsound.tree (hbefore.trans hturn') hafter.keeps,
      hpath.read_eq hsound.tree hbefore (hturn'.trans hafter).keeps]

end Run

end GoMocks
