import GoMocks.Proofs.Generation.Frame

/-!
# Generation — failures and what they hold up

A failure in one source file does not hold up another one, with one exception: an exported
declaration that fails holds up its whole package.

* `Run.exists_turn`: where the interfaces of a package can be listed, each of its source files that
  declares one to be mocked has its turn, with just these interfaces.
* `Run.isolation`: the source files that a run publishes mock files for, whatever the others declare.
* `Run.isolation_fails`: one file that holds up another.
-/

namespace GoMocks

namespace Run

open Generation (Visit Turn)

variable {visit : Visit} {p : SourcePackage}

/-- **Each source file with an interface to be mocked has its turn**, where the interfaces of the
package can be listed, and the turn is about the interfaces that the file declares. -/
theorem exists_turn (run : Run) {packages : String → Option SourcePackage} {interfaces : List Interface}
    (hlisting : visit.listing = .ok interfaces) (hp : visit.listing = p.interfaces.answer packages)
    {d : GoSource.SourceFile × GoSource.TypeSpec} (hd : d ∈ p.declarations) {i : Interface}
    (hi : (p.interface? d.1 d.2).answer packages = .ok (some i))
    (heligible : i.eligibility.isEligible = true) :
    ∃ turn ∈ visit.turns run.settings, turn.source = d.1.path ∧
      ∀ j, j ∈ turn.interfaces ↔ j.eligibility.isEligible = true ∧ ∃ d' ∈ p.declarations,
        d'.1.path = d.1.path ∧ (p.interface? d'.1 d'.2).answer packages = .ok (some j) := by
  have his : p.interfaces.answer packages = .ok interfaces := hp.symm.trans hlisting
  have hmem : i ∈ interfaces.filter (·.eligibility.isEligible) :=
    List.mem_filter.mpr ⟨SourcePackage.mem_of_interfaces hd hi his, heligible⟩
  have hfile : i.file = d.1.path := (SourcePackage.of_interface_eq_some hi).1
  have hgroup : (d.1.path, (interfaces.filter (·.eligibility.isEligible)).filter
      (·.file == d.1.path)) ∈ (visit.turns run.settings).map Turn.group := by
    rw [Visit.groups_of_ok run.settings hlisting]
    exact List.mem_map.mpr ⟨d.1.path,
      List.mem_eraseDups.mpr (List.mem_map.mpr ⟨i, hmem, hfile⟩), rfl⟩
  obtain ⟨turn, hturn, hgroup⟩ := List.mem_map.mp hgroup
  obtain ⟨hsource, hinterfaces⟩ := Prod.mk.inj hgroup
  refine ⟨turn, hturn, hsource, fun j => ?_⟩
  -- the group is the filter by source file, and an interface bears the file that declares it
  rw [hinterfaces, List.mem_filter, List.mem_filter, beq_iff_eq]
  constructor
  · rintro ⟨⟨hj, hjeligible⟩, hjfile⟩
    obtain ⟨d', hd', hj'⟩ := SourcePackage.declaration_of_mem_interfaces his hj
    exact ⟨hjeligible, d', hd', (SourcePackage.of_interface_eq_some hj').1.symm.trans hjfile, hj'⟩
  · rintro ⟨hjeligible, d', hd', hpath, hj⟩
    exact ⟨⟨SourcePackage.mem_of_interfaces hd' hj his, hjeligible⟩,
      (SourcePackage.of_interface_eq_some hj).1.trans hpath⟩

/-- **Failures do not spread from one source file to another**, unless an exported declaration fails:
then that is all that is reported of the package. Otherwise every source file of the package that
declares an interface to be mocked has its turn with just these interfaces, whatever the other files
of the run declare. If a source is made for it and the system lets it be published, its output is
reported as written or unchanged and holds that source; if not, the error is reported. -/
theorem isolation {refusals : Refusals} {t t' : FileTree} {env : Environment} {request : Request}
    {report : Report} (ht : t.IsSound)
    (h : generate refusals t env request = (t', .ok report)) :
    ∃ run, runOf refusals t env request = .ok run ∧ ∀ visit ∈ run.visits, ∃ p,
      let packages := visit.before.packages
      p.package = visit.package ∧ packages p.package.path = some p ∧
      ((∃ d ∈ p.declarations, isExported d.2.name = true ∧ ∃ cause,
          (p.interface? d.1 d.2).answer packages = .error cause ∧
          visit.report run.settings =
            { errors := [.inInterface p.package.path d.2.name d.1.path d.2.line cause] }) ∨
        ∀ d ∈ p.declarations, ∀ i, (p.interface? d.1 d.2).answer packages = .ok (some i) →
          i.eligibility.isEligible = true →
          ∃ turn ∈ visit.turns run.settings, turn.source = d.1.path ∧
            (∀ j, j ∈ turn.interfaces ↔ j.eligibility.isEligible = true ∧ ∃ d' ∈ p.declarations,
              d'.1.path = d.1.path ∧ (p.interface? d'.1 d'.2).answer packages = .ok (some j)) ∧
            let output := outputPath d.1.path request.config.outputDir
            (∀ code outcome, turn.code run.settings = .ok code →
              (turn.before.tree.publish refusals output code.toUTF8).2 = .ok outcome →
              output ∈ report.written ++ report.unchanged ∧ t'.read output = .ok code.toUTF8) ∧
            ∀ e, turn.outcome run.settings = .error e → e ∈ report.errors) := by
  obtain ⟨run, hrun, rfl, rfl⟩ := generate_eq_ok_iff.mp h
  obtain ⟨rfl, hstart, hoptions, hrefusals⟩ := of_runOf hrun
  have hsound := sound_of_runOf ht hrun
  refine ⟨run, hrun, fun visit hvisit => ?_⟩
  obtain ⟨_, p, -, hpackage, hp⟩ := hsound.package hvisit
  refine ⟨p, hpackage, hpackage ▸ hp, ?_⟩
  have hlisting := Sound.listing_eq hp
  cases his : visit.listing with
  | error e =>
    obtain ⟨d, hd, hexported, cause, hcause, rfl⟩ :=
      SourcePackage.exists_of_interfaces_error (hlisting.symm.trans his)
    exact .inl ⟨d, hd, hexported, cause, hcause, by rw [Visit.report, his]⟩
  | ok interfaces =>
    refine .inr fun d hd i hi heligible => ?_
    obtain ⟨turn, hturn, hsource, hinterfaces⟩ :=
      run.exists_turn his hlisting hd hi heligible
    have hmem : turn ∈ run.turns := mem_turns.mpr ⟨visit, hvisit, hturn⟩
    have houtput : turn.output run.settings = outputPath d.1.path request.config.outputDir := by
      rw [Turn.output, hsource, hoptions]
      rfl
    refine ⟨turn, hturn, hsource, hinterfaces, fun code outcome hcode hpublish => ?_,
      fun e he => (mem_errors hstart).mpr ⟨visit, hvisit, .inr ⟨turn, hturn, he⟩⟩⟩
    -- a publication that would succeed is the turn's own outcome
    rw [← houtput, ← hrefusals, ← Turn.outcome_of_code hcode] at hpublish
    obtain ⟨code', hcode', hentry⟩ := hsound.entry_of_published hmem hpublish
    obtain rfl := Except.ok.inj (hcode.symm.trans hcode')
    rw [← houtput, run.written_eq hstart, run.unchanged_eq hstart, List.mem_append]
    refine ⟨?_, (hsound.leaves.sound.read_eq_ok_iff (hsound.output hmem)).mpr hentry⟩
    cases outcome with
    | written   => exact .inl (mem_outputs.mpr ⟨turn, hmem, hpublish, rfl⟩)
    | unchanged => exact .inr (mem_outputs.mpr ⟨turn, hmem, hpublish, rfl⟩)

/-- The interface of the first source file. -/
def doer : Interface :=
  ⟨"Doer", ⟨"/m/x/a.go"⟩, 2, true, [], [⟨"Do", default⟩], false⟩

/-- Two files are published although another package cannot be listed. The first of them comes of a
turn of its own, about the interface that its source declares. -/
theorem isolation_sample :
    ∃ t run, sample.IsSound ∧ generate .none sample {} everything = (t, .ok sampleReport) ∧
      runOf .none sample {} everything = .ok run ∧
      ∃ visit ∈ run.visits, ∃ turn ∈ visit.turns run.settings,
        turn.source = ⟨"/m/x/a.go"⟩ ∧ doer ∈ turn.interfaces ∧
        ⟨"/m/x/mocks/a.go"⟩ ∈ sampleReport.written ++ sampleReport.unchanged ∧ ∃ code,
          turn.code run.settings = .ok code ∧ t.read ⟨"/m/x/mocks/a.go"⟩ = .ok code.toUTF8 := by
  -- the first visit of the run finds the interface, and all of its turns are published
  have hcheck : (runOf .none sample {} everything).toOption.any fun run =>
      run.visits.head?.any fun visit =>
        (visit.before.packages visit.package.path).any (fun p => p.declarations.any fun d =>
          d.1.path = ⟨"/m/x/a.go"⟩ ∧
            (p.interface? d.1 d.2).answer visit.before.packages = .ok (some doer)) &&
        decide ((visit.report run.settings).errors = []) &&
        (visit.turns run.settings).all fun turn => turn.outcome run.settings = .ok .written := by
    decide +kernel
  obtain ⟨t, ht⟩ := generate_sample
  obtain ⟨run, hrun, hvisits⟩ := isolation sample_isSound ht
  obtain ⟨-, -, hoptions, hrefusals⟩ := of_runOf hrun
  rw [hrun, show (Except.ok run : Except Error Run).toOption = some run from rfl] at hcheck
  simp only [Option.any_some, Option.any_eq_true, Bool.and_eq_true, List.all_eq_true,
    List.any_eq_true, decide_eq_true_eq] at hcheck
  obtain ⟨visit, hhead, ⟨⟨p, hp, d, hd, hpath, hi⟩, hnone⟩, hwritten⟩ := hcheck
  have hvisit := List.mem_of_mem_head? hhead
  obtain ⟨p', hpackage, hp', hvisit'⟩ := hvisits visit hvisit
  obtain rfl : p' = p := Option.some.inj (hp'.symm.trans (hpackage ▸ hp))
  rcases hvisit' with ⟨_, _, _, _, _, hreport⟩ | hturns
  · rw [hreport] at hnone
    cases hnone
  obtain ⟨turn, hturn, hsource, hinterfaces, hpublished, -⟩ := hturns d hd doer hi rfl
  have houtput : outputPath d.1.path everything.config.outputDir = ⟨"/m/x/mocks/a.go"⟩ := by
    rw [hpath]
    decide +kernel
  have houtcome := hwritten turn hturn
  cases hcode : turn.code run.settings with
  | error e =>
    rw [Turn.outcome, hcode] at houtcome
    cases houtcome
  | ok code =>
    have hsame : turn.output run.settings = outputPath d.1.path everything.config.outputDir := by
      rw [Turn.output, hsource, hoptions]
      rfl
    rw [Turn.outcome_of_code hcode, hrefusals, hsame] at houtcome
    obtain ⟨hmem, hread⟩ := hpublished code .written hcode houtcome
    rw [houtput] at hmem hread
    exact ⟨t, run, sample_isSound, ht, hrun, visit, hvisit, turn, hturn, hsource.trans hpath,
      (hinterfaces doer).mpr ⟨rfl, d, hd, rfl, hi⟩, hmem, code, hcode, hread⟩

/-- A source file with an interface beside one whose interface embeds a name that nothing
declares. -/
def doerBesideBroken : FileTree :=
  project
    [("x",
      [("a.go", "package x\ntype Doer interface { Do() }\n"),
        ("b.go", "package x\ntype Broken interface { Missing }\n")])]

/-- **A file that holds up another one.** By itself `a.go` is published. Beside `b.go` it is not,
and what is reported is the failure of `b.go`, although its interface is found there, and the mock
file of that interface could be published. -/
theorem isolation_fails :
    (generate .none doerAlone {} everything).2 =
      .ok { written := [⟨"/m/x/mocks/a.go"⟩] } ∧
    (generate .none doerBesideBroken {} everything).2 =
      .ok { errors := [.inInterface "testing/x" "Broken" ⟨"/m/x/b.go"⟩ 2
        (.unresolvedType "Missing" (.undeclaredName ⟨"/m/x/b.go"⟩))] } ∧
    ((runOf .none doerBesideBroken {} everything).map fun run => run.packages.map fun package =>
      (run.start.loader.packages run.start.tree package.path).map fun p => p.declarations.map fun d =>
        ((p.interface? d.1 d.2).answer (run.start.loader.packages run.start.tree)).toOption) =
      .ok [some [some (some doer), none]] ∧
    ((runOf .none doerBesideBroken {} everything).map fun run => run.packages.map fun package =>
      (Generation.addFile run.settings package run.start (doer.file, [doer])).report) =
      .ok [{ written := [⟨"/m/x/mocks/a.go"⟩] }] := by
  decide +kernel

end Run

end GoMocks
