import GoMocks.Proofs.Generation.Declarations
import GoMocks.Proofs.Loader

/-!
# Generation — packages and source files by turns

A run comes to one package after the other, and in a package to one source file after the other.
What it reports and what it leaves behind is put together from these turns.

* `Visit`, `Turn`: a package and a source file that a run comes to, each with the state before.
* `Turn.report_after`: a turn adds one entry to the report.
* `invariant_visits`: what holds all along a run; `relates_visits`: from each moment to the end.
* `report_foldl_addPackage`: a run adds the entries of all its visits.
* `takes_turns`: it changes the tree in its turns alone.
-/

namespace GoMocks

/-! ### Reports are put together -/

namespace Report

instance : Append Report where
  append r r' := ⟨r.written ++ r'.written, r.unchanged ++ r'.unchanged, r.skipped ++ r'.skipped,
    r.errors ++ r'.errors⟩

/-- Reports one after the other. -/
def join (reports : List Report) : Report :=
  ⟨reports.flatMap written, reports.flatMap unchanged, reports.flatMap skipped,
    reports.flatMap errors⟩

/-- The one entry for a mock file. -/
def entry (output : Path) : Except Error PublishOutcome → Report
  | .ok .written   => { written := [output] }
  | .ok .unchanged => { unchanged := [output] }
  | .error e       => { errors := [e] }

@[simp]
theorem written_append (r r' : Report) : (r ++ r').written = r.written ++ r'.written := rfl

@[simp]
theorem unchanged_append (r r' : Report) : (r ++ r').unchanged = r.unchanged ++ r'.unchanged := rfl

@[simp]
theorem skipped_append (r r' : Report) : (r ++ r').skipped = r.skipped ++ r'.skipped := rfl

@[simp]
theorem errors_append (r r' : Report) : (r ++ r').errors = r.errors ++ r'.errors := rfl

theorem ext' {r r' : Report} (hw : r.written = r'.written) (hu : r.unchanged = r'.unchanged)
    (hs : r.skipped = r'.skipped) (he : r.errors = r'.errors) : r = r' := by
  cases r
  cases r'
  simp_all

theorem append_assoc (r r' r'' : Report) : r ++ r' ++ r'' = r ++ (r' ++ r'') :=
  ext' (List.append_assoc ..) (List.append_assoc ..) (List.append_assoc ..) (List.append_assoc ..)

theorem append_join_nil (r : Report) : r ++ join [] = r :=
  ext' (List.append_nil _) (List.append_nil _) (List.append_nil _) (List.append_nil _)

theorem join_cons (r : Report) (rs : List Report) : join (r :: rs) = r ++ join rs := rfl

end Report

namespace Generation

variable {settings : RunSettings} {package : Package} {g : Generation}

/-! ### Turns -/

/-- A source file that a run comes to, with its interfaces that can be mocked. -/
structure Turn where
  before     : Generation
  package    : Package
  source     : Path
  interfaces : List Interface

namespace Turn

/-- The source file of a turn with its interfaces. -/
def group (turn : Turn) : Path × List Interface :=
  (turn.source, turn.interfaces)

/-- Where the mock file goes. -/
def output (settings : RunSettings) (turn : Turn) : Path :=
  outputPath turn.source settings.options.outputDir

/-- The source of the mock file. -/
def code (settings : RunSettings) (turn : Turn) : Except Error String :=
  (Generation.source settings turn.before.tree turn.before.loader turn.package turn.interfaces).1

/-- What becomes of the mock file. -/
def outcome (settings : RunSettings) (turn : Turn) : Except Error PublishOutcome := do
  let code ← turn.code settings
  (turn.before.tree.publish settings.refusals (turn.output settings) code.toUTF8).2

/-- What has been done once the turn is over. -/
def after (settings : RunSettings) (turn : Turn) : Generation :=
  addFile settings turn.package turn.before turn.group

theorem after_mk (settings : RunSettings) (g : Generation) (package : Package)
    (group : Path × List Interface) :
    (Turn.mk g package group.1 group.2).after settings = addFile settings package g group := rfl

/-- What is reported of the mock file. -/
def report (settings : RunSettings) (turn : Turn) : Report :=
  .entry (turn.output settings) (turn.outcome settings)

theorem report_addOutcome (g : Generation) (output : Path) (outcome : Except Error PublishOutcome) :
    (g.addOutcome output outcome).report = g.report ++ Report.entry output outcome := by
  rcases outcome with e | _ | _ <;> exact Report.ext' (by simp [addOutcome, addError, Report.entry])
    (by simp [addOutcome, addError, Report.entry]) (by simp [addOutcome, addError, Report.entry])
    (by simp [addOutcome, addError, Report.entry])

/-- **A turn adds one entry to the report.** -/
theorem report_after (settings : RunSettings) (turn : Turn) :
    (turn.after settings).report = turn.before.report ++ turn.report settings := by
  rw [after, addFile_eq, report_addOutcome]
  rfl

end Turn

/-- The turns of groups of interfaces, one after the other. -/
def turnsOf (settings : RunSettings) (package : Package) :
    Generation → List (Path × List Interface) → List Turn
  | _, []            => []
  | g, group :: rest =>
    ⟨g, package, group.1, group.2⟩ :: turnsOf settings package (addFile settings package g group) rest

/-- Adding files adds the reports of their turns. -/
theorem report_foldl_addFile (settings : RunSettings) (package : Package) (g : Generation)
    (groups : List (Path × List Interface)) :
    (groups.foldl (addFile settings package) g).report =
      g.report ++ .join ((turnsOf settings package g groups).map (Turn.report settings)) := by
  induction groups generalizing g with
  | nil => exact (Report.append_join_nil _).symm
  | cons group rest ih =>
    have hstep := Turn.report_after settings ⟨g, package, group.1, group.2⟩
    rw [Turn.after_mk] at hstep
    rw [List.foldl_cons, ih, turnsOf, List.map_cons, Report.join_cons, ← Report.append_assoc, hstep]

/-- The turns of a package are of the given groups, in their order. -/
theorem map_group_turnsOf (settings : RunSettings) (package : Package) (g : Generation)
    (groups : List (Path × List Interface)) :
    (turnsOf settings package g groups).map Turn.group = groups := by
  induction groups generalizing g with
  | nil => rfl
  | cons group rest ih => rw [turnsOf, List.map_cons, ih]; rfl

/-- The turns of a package are of that package. -/
theorem package_of_mem_turnsOf {groups : List (Path × List Interface)} {turn : Turn}
    (h : turn ∈ turnsOf settings package g groups) : turn.package = package := by
  induction groups generalizing g with
  | nil => exact nomatch h
  | cons group rest ih =>
    rcases List.mem_cons.mp h with rfl | h
    · rfl
    · exact ih h

/-- A single turn is all that is done for the groups of interfaces. -/
theorem foldl_addFile_of_turnsOf {groups : List (Path × List Interface)} {turn : Turn}
    (h : turnsOf settings package g groups = [turn]) :
    groups.foldl (addFile settings package) g = turn.after settings := by
  cases groups with
  | nil => cases h
  | cons group rest =>
    rw [turnsOf, List.cons_eq_cons] at h
    obtain ⟨rfl, hrest⟩ := h
    cases rest with
    | nil => rw [List.foldl_cons, List.foldl_nil, Turn.after_mk]
    | cons => cases hrest

/-! ### Visits -/

/-- A package that a run comes to. -/
structure Visit where
  before  : Generation
  package : Package

/-- The packages that a run comes to, one after the other. -/
def visits (settings : RunSettings) : Generation → List Package → List Visit
  | _, []              => []
  | g, package :: rest => ⟨g, package⟩ :: visits settings (addPackage settings g package) rest

namespace Visit

/-- The interfaces of the package. -/
def listing (visit : Visit) : Except Error (List Interface) :=
  visit.before.loader.outcome (Loader.interfaces visit.before.tree visit.package.path)

/-- Those of them that can be mocked. -/
def eligible (visit : Visit) : Except Error (List Interface) :=
  visit.listing.map (·.filter (·.eligibility.isEligible))

/-- The turns of its source files with an interface that can be mocked. -/
def turns (settings : RunSettings) (visit : Visit) : List Turn :=
  let eligible := listed visit.before visit.package
  turnsOf settings visit.package eligible.1 (groupByFile eligible.2)

/-- What is reported of the package. -/
def report (settings : RunSettings) (visit : Visit) : Report :=
  match visit.listing with
  | .error e       => { errors := [e] }
  | .ok interfaces =>
    { skipped := skippedOf visit.package interfaces } ++
      .join ((visit.turns settings).map (Turn.report settings))

/-- A package whose listing fails gives no interface and one error. -/
theorem listed_of_error {visit : Visit} {e : Error} (h : visit.listing = .error e) :
    (listed visit.before visit.package).2 = [] ∧
      (listed visit.before visit.package).1.report = visit.before.report ++ { errors := [e] } := by
  rw [listing, Loader.outcome] at h
  rw [listed]
  rcases hrun : (Loader.interfaces visit.before.tree visit.package.path).run.run
    visit.before.loader with ⟨e' | is, loader⟩ <;> rw [hrun] at h
  · obtain rfl := Except.error.inj h
    exact ⟨rfl, Report.ext' (List.append_nil _).symm (List.append_nil _).symm
      (List.append_nil _).symm rfl⟩
  · cases h

/-- A package that is listed gives its eligible interfaces and the reasons of the others. -/
theorem listed_of_ok {visit : Visit} {interfaces : List Interface}
    (h : visit.listing = .ok interfaces) :
    (listed visit.before visit.package).2 = interfaces.filter (·.eligibility.isEligible) ∧
      (listed visit.before visit.package).1.report =
        visit.before.report ++ { skipped := skippedOf visit.package interfaces } := by
  rw [listing, Loader.outcome] at h
  rw [listed]
  rcases hrun : (Loader.interfaces visit.before.tree visit.package.path).run.run
    visit.before.loader with ⟨e' | is, loader⟩ <;> rw [hrun] at h
  · cases h
  · obtain rfl := Except.ok.inj h
    exact ⟨rfl, Report.ext' (List.append_nil _).symm (List.append_nil _).symm rfl
      (List.append_nil _).symm⟩

/-- Listing leaves the tree as it is. -/
theorem tree_listed (g : Generation) (package : Package) :
    (listed g package).1.tree = g.tree := by
  rw [listed]
  split <;> rfl

/-- A package whose interfaces cannot be listed has no turns. -/
theorem turns_of_error {visit : Visit} {e : Error} (h : visit.listing = .error e) :
    visit.turns settings = [] := by
  rw [turns, (listed_of_error h).1]
  rfl

/-- Otherwise it has one for each source file with an interface that can be mocked. -/
theorem groups_of_ok (settings : RunSettings) {visit : Visit} {interfaces : List Interface}
    (h : visit.listing = .ok interfaces) :
    (visit.turns settings).map Turn.group =
      groupByFile (interfaces.filter (·.eligibility.isEligible)) := by
  rw [turns, (listed_of_ok h).1]
  exact map_group_turnsOf ..

theorem listed_eq (visit : Visit) :
    (listed visit.before visit.package).2 = visit.eligible.toOption.getD [] := by
  rw [eligible]
  cases h : visit.listing with
  | error e => exact (listed_of_error h).1
  | ok interfaces => exact (listed_of_ok h).1

/-- Where the same interfaces can be mocked, the same groups have their turns. -/
theorem groups_of_eligible (settings : RunSettings) {visit visit' : Visit}
    (h : visit'.eligible = visit.eligible) :
    (visit'.turns settings).map Turn.group = (visit.turns settings).map Turn.group := by
  rw [turns, turns, map_group_turnsOf, map_group_turnsOf, listed_eq, listed_eq, h]

/-- **A visit adds its entries to the report.** -/
theorem report_after (settings : RunSettings) (visit : Visit) :
    (addPackage settings visit.before visit.package).report =
      visit.before.report ++ visit.report settings := by
  rw [addPackage_eq, report_foldl_addFile, report]
  cases h : visit.listing with
  | error e =>
    obtain ⟨heligible, hreport⟩ := listed_of_error h
    rw [heligible, hreport]
    exact Report.append_join_nil _
  | ok interfaces =>
    rw [(listed_of_ok h).2, Report.append_assoc]
    rfl

end Visit

/-- All turns of a run. -/
def turns (settings : RunSettings) (g : Generation) (packages : List Package) : List Turn :=
  (visits settings g packages).flatMap (Visit.turns settings)

/-- **A run reports what its visits report.** -/
theorem report_foldl_addPackage (settings : RunSettings) (g : Generation)
    (packages : List Package) :
    (packages.foldl (addPackage settings) g).report =
      g.report ++ .join ((visits settings g packages).map (Visit.report settings)) := by
  induction packages generalizing g with
  | nil => exact (Report.append_join_nil _).symm
  | cons package rest ih =>
    rw [List.foldl_cons, ih, visits, List.map_cons, Report.join_cons, ← Report.append_assoc]
    exact congrArg (· ++ _) (Visit.report_after settings ⟨g, package⟩)

/-- The visits are of the given packages, in their order. -/
theorem map_package_visits (settings : RunSettings) (g : Generation) (packages : List Package) :
    (visits settings g packages).map Visit.package = packages := by
  induction packages generalizing g with
  | nil => rfl
  | cons package rest ih => rw [visits, List.map_cons, ih]

/-! ### Invariants -/

/-- What every turn keeps holds before each of them and after the last one. -/
theorem invariant_turnsOf (I : Generation → Prop) {groups : List (Path × List Interface)}
    (hstep : ∀ turn ∈ turnsOf settings package g groups, I turn.before → I (turn.after settings))
    (h : I g) :
    (∀ turn ∈ turnsOf settings package g groups, I turn.before) ∧
      I (groups.foldl (addFile settings package) g) := by
  induction groups generalizing g with
  | nil => exact ⟨nofun, h⟩
  | cons group rest ih =>
    obtain ⟨hfirst, hrest⟩ := List.forall_mem_cons.mp hstep
    obtain ⟨hturns, hlast⟩ := ih hrest (hfirst h)
    exact ⟨List.forall_mem_cons.mpr ⟨h, hturns⟩, hlast⟩

/-- **What every listing and every turn keep holds all along a run.** -/
theorem invariant_visits (I : Generation → Prop) {packages : List Package}
    (hlisted : ∀ visit ∈ visits settings g packages,
      I visit.before → I (listed visit.before visit.package).1)
    (hturn : ∀ visit ∈ visits settings g packages, I visit.before →
      ∀ turn ∈ visit.turns settings, I turn.before → I (turn.after settings))
    (h : I g) :
    (∀ visit ∈ visits settings g packages,
        I visit.before ∧ ∀ turn ∈ visit.turns settings, I turn.before) ∧
      I (packages.foldl (addPackage settings) g) := by
  induction packages generalizing g with
  | nil => exact ⟨nofun, h⟩
  | cons package rest ih =>
    obtain ⟨hlistedFirst, hlistedRest⟩ := List.forall_mem_cons.mp hlisted
    obtain ⟨hturnFirst, hturnRest⟩ := List.forall_mem_cons.mp hturn
    obtain ⟨hturns, hafter⟩ := invariant_turnsOf I (hturnFirst h) (hlistedFirst h)
    rw [← addPackage_eq] at hafter
    obtain ⟨hvisits, hlast⟩ := ih hlistedRest hturnRest hafter
    exact ⟨List.forall_mem_cons.mpr ⟨⟨h, hturns⟩, hvisits⟩, hlast⟩

/-! ### From each moment to the end -/

section

variable {R : Generation → Generation → Prop} (hrefl : ∀ g, R g g)
  (htrans : ∀ {g g' g''}, R g g' → R g' g'' → R g g'')

include hrefl htrans

/-- What each turn relates, all turns of a package relate: what was before them to each moment, and
each moment to what is after them. -/
theorem relates_turnsOf {groups : List (Path × List Interface)}
    (hturn : ∀ turn ∈ turnsOf settings package g groups, R turn.before (turn.after settings)) :
    R g (groups.foldl (addFile settings package) g) ∧
      ∀ turn ∈ turnsOf settings package g groups, R g turn.before ∧
        R (turn.after settings) (groups.foldl (addFile settings package) g) := by
  induction groups generalizing g with
  | nil => exact ⟨hrefl g, nofun⟩
  | cons group rest ih =>
    obtain ⟨hfirst, hrest⟩ := List.forall_mem_cons.mp hturn
    obtain ⟨hlast, hturns⟩ := ih hrest
    exact ⟨htrans hfirst hlast, List.forall_mem_cons.mpr ⟨⟨hrefl g, hlast⟩,
      fun turn h => ⟨htrans hfirst (hturns turn h).1, (hturns turn h).2⟩⟩⟩

/-- **What each listing and each turn relate, a run relates**: its start to each moment, and each
moment to its end. -/
theorem relates_visits {packages : List Package} (hlisted : ∀ g package, R g (listed g package).1)
    (hturn : ∀ visit ∈ visits settings g packages, ∀ turn ∈ visit.turns settings,
      R turn.before (turn.after settings)) :
    R g (packages.foldl (addPackage settings) g) ∧
      ∀ visit ∈ visits settings g packages, R g visit.before ∧
        ∀ turn ∈ visit.turns settings, R g turn.before ∧
          R (turn.after settings) (packages.foldl (addPackage settings) g) := by
  induction packages generalizing g with
  | nil => exact ⟨hrefl g, nofun⟩
  | cons package rest ih =>
    obtain ⟨hfirst, hrest⟩ := List.forall_mem_cons.mp hturn
    obtain ⟨hpackage, hturns⟩ := relates_turnsOf hrefl htrans hfirst
    rw [← addPackage_eq] at hpackage hturns
    obtain ⟨hlast, hvisits⟩ := ih hrest
    have hlist := hlisted g package
    have hstep := htrans hlist hpackage
    refine ⟨htrans hstep hlast, List.forall_mem_cons.mpr ⟨⟨hrefl g, fun turn h => ?_⟩,
      fun visit h => ?_⟩⟩
    · obtain ⟨hbefore, hafter⟩ := hturns turn h
      exact ⟨htrans hlist hbefore, htrans hafter hlast⟩
    · obtain ⟨hbefore, hmore⟩ := hvisits visit h
      exact ⟨htrans hstep hbefore, fun turn h' =>
        ⟨htrans hstep (hmore turn h').1, (hmore turn h').2⟩⟩

end

/-! ### The tree -/

/-- Turns that are taken one after the other, from one tree to another. -/
inductive Takes (settings : RunSettings) : FileTree → List Turn → FileTree → Prop
  | nil (t : FileTree) : Takes settings t [] t
  | cons {turn : Turn} {rest : List Turn} {t : FileTree}
      (h : Takes settings (turn.after settings).tree rest t) :
      Takes settings turn.before.tree (turn :: rest) t

theorem Takes.append {t t' t'' : FileTree} {turns turns' : List Turn}
    (h : Takes settings t turns t') (h' : Takes settings t' turns' t'') :
    Takes settings t (turns ++ turns') t'' := by
  induction h with
  | nil => exact h'
  | cons _ ih => exact .cons (ih h')

/-- The turns of a package lead from the tree before them to the tree after them. -/
theorem takes_turnsOf (settings : RunSettings) (package : Package) (g : Generation)
    (groups : List (Path × List Interface)) :
    Takes settings g.tree (turnsOf settings package g groups)
      (groups.foldl (addFile settings package) g).tree := by
  induction groups generalizing g with
  | nil => exact .nil _
  | cons group rest ih =>
    exact @Takes.cons _ ⟨g, package, group.1, group.2⟩ _ _ (ih (addFile settings package g group))

/-- **A run changes the tree in its turns alone.** -/
theorem takes_turns (settings : RunSettings) (g : Generation) (packages : List Package) :
    Takes settings g.tree (turns settings g packages)
      (packages.foldl (addPackage settings) g).tree := by
  induction packages generalizing g with
  | nil => exact .nil _
  | cons package rest ih =>
    have hvisit : Takes settings g.tree (Visit.turns settings ⟨g, package⟩)
        (addPackage settings g package).tree := by
      rw [addPackage_eq, ← Visit.tree_listed g package]
      exact takes_turnsOf ..
    exact hvisit.append (ih _)

end Generation

end GoMocks
