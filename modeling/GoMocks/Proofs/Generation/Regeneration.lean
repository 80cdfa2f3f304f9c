import GoMocks.Proofs.Generation.Embedded

/-!
# Generation — running again

A second run of the same request finds what the first one has written, and leaves it alone, unless
the written files get in its way: as sources of a package, as packages that are looked up, or as the
template.

* `Run.regeneration`: what a second run comes to.
* `Run.regeneration_fails`: written files that get in its way.
-/

namespace GoMocks.Run

open Generation (Visit Turn)
open Template (ofLines)

variable {refusals : Refusals} {t t₁ : FileTree} {env : Environment} {request : Request}
  {report : Report}

/-- **A second run changes nothing**, unless what the first one wrote gets in its way. Take a run
without errors, by the embedded template or by one that reads the same afterwards. Suppose of each
mock file in a directory that was written to, and that a pattern matches now, that it is legible and
that the sources which were there before are no obstacle, and that nothing that is needed is looked up
in such a directory. Then a second run leaves the tree as it is, and reports as unchanged what the
first one published. With the embedded template, a mock file is legible if a source can hold it. -/
theorem regeneration (ht : t.IsSound) (h : generate refusals t env request = (t₁, .ok report))
    (herrors : report.errors = [])
    (htemplate : ∀ file, request.config.template = some file → t₁.readText file = t.readText file) :
    ∃ run, runOf refusals t env request = .ok run ∧
      ((∀ turn ∈ run.turns, run.Rematches request.patterns (turn.directory run.settings) →
          turn.Legible request run.settings ∧ run.IsClear turn) →
        (∀ path, run.Needs report.WroteIn path → run.LooksElsewhere path) →
        ∃ report', generate refusals t₁ env request = (t₁, .ok report') ∧
          report'.errors = [] ∧ report'.written = [] ∧
          report'.unchanged.Perm (report.written ++ report.unchanged)) := by
  obtain ⟨run, hrun, rfl, rfl⟩ := generate_eq_ok_iff.mp h
  refine ⟨run, hrun, fun hlegible helsewhere => ?_⟩
  have hfits : ∀ turn ∈ run.turns, run.Rematches request.patterns (turn.directory run.settings) →
      turn.Reads run.settings ∧ run.IsClear turn := fun turn hturn hmatched =>
    (hlegible turn hturn hmatched).imp_left (reads_of_legible hrun)
  obtain ⟨again, hagain, hsettings⟩ :=
    loads_again ht hrun herrors hfits (Request.template_congr htemplate)
  obtain ⟨htree, hnone, hwritten, hunchanged⟩ := (undisturbed_again ht hrun herrors hagain hsettings
    (quiet ht hrun herrors hfits) (quiet_again ht hrun herrors hfits hagain) helsewhere).last
  exact ⟨_, generate_eq_ok_iff.mpr ⟨again, hagain, htree, rfl⟩, hnone, hwritten, hunchanged⟩

/-! ### Two runs at hand -/

/-- Import paths that hold all that the mock file of this source file needs. -/
def doerNeeds : List String :=
  ["testing", "goa.design/clue/mock", "testing/x"]

/-- The run comes to one mock file, which goes to a new directory and has a property, together with
the tree that it leads to. -/
def OneMock (run : Run) (P : Turn → FileTree → Prop) : Prop :=
  run.packages.length = 1 ∧ run.turns.length = 1 ∧ ∀ turn ∈ run.turns, turn.before.report = {} ∧
    turn.output run.settings = ⟨"/m/x/mocks/a.go"⟩ ∧
    run.start.tree.goFileNames (turn.directory run.settings) = [] ∧
    ∃ file ∈ (turn.file run.settings).toOption, file.FitsWidth ∧
      let published := turn.before.tree.publish run.settings.refusals (turn.output run.settings)
        (ofLines (file.lines file.groupViews)).toUTF8
      published.2 = .ok .written ∧ P turn published.1

instance (run : Run) (P : Turn → FileTree → Prop) [∀ turn t, Decidable (P turn t)] :
    Decidable (run.OneMock P) := by
  unfold OneMock
  infer_instance

/-- What the run for a source file by itself comes to. -/
theorem exists_generate_of_oneMock {P : Turn → FileTree → Prop}
    (hrun : runOf .none doerAlone {} request = .ok run) (h : run.embedded.OneMock P) :
    ∃ turn t₁, run.embedded.turns = [turn] ∧ run.embedded.IsClear turn ∧
      generate .none doerAlone {} request.withoutTemplate =
        (t₁, .ok { written := [⟨"/m/x/mocks/a.go"⟩] }) ∧ P turn t₁ := by
  obtain ⟨hpackage, hturn, hplain⟩ := h
  obtain ⟨package, hpackage⟩ := List.length_eq_one_iff.mp hpackage
  obtain ⟨turn, hturn⟩ := List.length_eq_one_iff.mp hturn
  rw [hturn, List.forall_mem_singleton] at hplain
  obtain ⟨hreport, houtput, hnew, file, hfile, hwidth, hwritten, hP⟩ := hplain
  have hclear : run.embedded.IsClear turn := by
    rw [IsClear, hnew]
    exact nofun
  have hgenerate := generate_of_turn (runOf_withoutTemplate hrun) rfl hpackage hturn
    (toOption_eq_some_iff.mp hfile) hwidth
  dsimp only at hgenerate
  rw [hreport, hwritten, houtput] at hgenerate
  rw [houtput] at hP
  exact ⟨turn, _, hturn, hclear, hgenerate, hP⟩

/-- The mock file of a source file is found unchanged in a second run. -/
theorem regeneration_sample :
    ∃ t₁ report', doerAlone.IsSound ∧
      generate .none doerAlone {} everything.withoutTemplate =
        (t₁, .ok { written := [⟨"/m/x/mocks/a.go"⟩] }) ∧
      t₁.packageDirs ["m"] = [["m", "x"], ["m", "x", "mocks"]] ∧
      generate .none t₁ {} everything.withoutTemplate = (t₁, .ok report') ∧ report'.errors = [] ∧
      report'.written = [] ∧ report'.unchanged.Perm [⟨"/m/x/mocks/a.go"⟩] := by
  have hsound : doerAlone.IsSound := by decide +kernel
  have hcheck : ∃ run ∈ (runOf .none doerAlone {} everything).toOption,
      run.embedded.HoldsNeeds (fun _ => False) doerNeeds ∧ run.embedded.OneMock fun turn t₁ =>
        (isIdentifier (turn.mockPackage run.settings) ∧ '\n' ∉ run.settings.options.command.toList ∧
          (∀ i ∈ (MockFile.lastResolver (Loader.symbols turn.before.tree) turn.package
            turn.interfaces run.settings.options
              (.ofModule turn.package.module turn.before.loader)).imports.entries, i.Writable) ∧
          ∀ i ∈ turn.interfaces, i.Writable ∧ i.NamesParameters turn.before.packages) ∧
        t₁.packageDirs ["m"] = [["m", "x"], ["m", "x", "mocks"]] ∧
        ∀ path ∈ doerNeeds, run.start.loader.module.LooksElsewhere run.start.loader.env
          (Report.WroteIn { written := [⟨"/m/x/mocks/a.go"⟩] }) run.start.tree t₁ path := by
    decide +kernel
  obtain ⟨run, hrun, hneeds, hmock⟩ := hcheck
  have hrun := toOption_eq_some_iff.mp hrun
  obtain ⟨turn, t₁, hturn, hclear, hgenerate, ⟨hname, hcommand, himports, hinterfaces⟩, hdirs,
    helsewhere⟩ := exists_generate_of_oneMock hrun hmock
  obtain ⟨run', hrun', hagain⟩ := regeneration hsound hgenerate rfl nofun
  obtain rfl : run.embedded = run' := Except.ok.inj ((runOf_withoutTemplate hrun).symm.trans hrun')
  have hlegible : turn.Legible everything.withoutTemplate run.embedded.settings := by
    refine ⟨hname, hcommand, fun file hfile i hi => ?_, fun i hi => (hinterfaces i hi).1,
      fun i hi => (hinterfaces i hi).2⟩
    obtain ⟨-, -, hmock⟩ := MockFile.of_mockFile_eq_ok hfile
    exact himports i (hmock.mem_imports.mp hi)
  obtain ⟨_, hlast, htree, hreport⟩ := generate_eq_ok_iff.mp hgenerate
  obtain rfl := Except.ok.inj (hrun'.symm.trans hlast)
  have hlooks : ∀ path, run.embedded.Needs (Report.WroteIn { written := [⟨"/m/x/mocks/a.go"⟩] }) path →
      run.embedded.LooksElsewhere path := by
    intro path hpath
    rw [LooksElsewhere, htree, hreport]
    exact helsewhere path ((hneeds.mono fun _ => False.elim).mem hpath)
  obtain ⟨report', hreport'⟩ := hagain (by simpa [hturn] using fun _ => ⟨hlegible, hclear⟩) hlooks
  exact ⟨_, report', hsound, hgenerate, hdirs, hreport'⟩

/-- The source file with an interface, with more entries beside it. -/
def doerWith (entries : List (Location × Entry)) : FileTree :=
  { doerAlone with entries := doerAlone.entries ++ entries }

/-- Another package in the directory of the mock file. -/
def crowded : FileTree :=
  doerWith [(["m", "x", "mocks"], .directory),
    (["m", "x", "mocks", "extra.go"], .file "package other\n".toUTF8)]

/-- A source in the directory of the mock file that names a type of the mock file. -/
def waiting : FileTree :=
  doerWith [(["m", "x", "mocks"], .directory),
    (["m", "x", "mocks", "extra.go"], .file
      "package mockx\ntype again interface \x7b Do(d Doer) \x7d\ntype Again = again\n".toUTF8)]

/-- A template that declares an interface. -/
def growing : FileTree :=
  doerWith [(["m", "u"],
    .file "package \x7b\x7b name \x7d\x7d\ntype Again interface \x7b Do() \x7d\n".toUTF8)]

/-- A template that spells signatures, and a source that has a type from the mock package. -/
def circular : FileTree :=
  doerWith [(["m", "a"], .directory),
    (["m", "a", "a.go"], .file
      "package a\nimport \"testing/x/mocks\"\ntype User interface { Use(t mocks.T) }\n".toUTF8),
    (["m", "u"], .file
      "package \x7b\x7b name \x7d\x7d\n\x7b% for i in interfaces %\x7d\x7b% for m in i.methods %\x7d// \x7b\x7b m.signature \x7d\x7d\n\x7b% endfor %\x7d\x7b% endfor %\x7d".toUTF8)]

/-- A template in the place of the mock file, for a mock file that is a template itself. -/
def replaced : FileTree :=
  doerWith [(["m", "x", "mocks"], .directory),
    (["m", "x", "mocks", "a.go"], .file
      "package \x7b\x7b name \x7d\x7d\n// \x7b\x7b \"\x7b\" \x7d\x7d\x7b 1 \x7d\x7d\n".toUTF8)]

/-- Asks for mocks by a template. -/
def withTemplate (file : String) (patterns : List String) : Request :=
  { everything with patterns, config := { template := some ⟨file⟩ } }

/-- Asks for mocks in packages whose names begin with a digit. -/
def numbered : Request :=
  { everything with config := { everything.config with packagePrefix := "9" } }

/-- What the embedded template writes into a package without a name is in the way of a second run. -/
theorem exists_numbered : ∃ t₁,
    generate .none doerAlone {} numbered.withoutTemplate =
      (t₁, .ok { written := [⟨"/m/x/mocks/a.go"⟩] }) ∧
    ∀ t₂ report, generate .none t₁ {} numbered.withoutTemplate ≠ (t₂, .ok report) := by
  have hsound : doerAlone.IsSound := by decide +kernel
  have hcheck : ∃ run ∈ (runOf .none doerAlone {} numbered).toOption,
      run.embedded.OneMock fun turn t₁ =>
        ((turn.mockPackage run.settings).toList = ['9', 'x'] ∧
          '\n' ∉ run.settings.options.tool.toList ∧ '\n' ∉ run.settings.options.version.toList ∧
            '\n' ∉ run.settings.options.command.toList) ∧
        turn.directory run.settings = ["m", "x", "mocks"] ∧
        run.start.loader.module.matchedDirs t₁ run.start.loader.root "./..." =
          .ok [["m", "x"], ["m", "x", "mocks"]] := by
    decide +kernel
  obtain ⟨run, hrun, hmock⟩ := hcheck
  have hrun := toOption_eq_some_iff.mp hrun
  obtain ⟨turn, t₁, hturn, -, hgenerate, ⟨hname, htool, hversion, hcommand⟩, hdirectory, hdirs⟩ :=
    exists_generate_of_oneMock hrun hmock
  have hrun' := runOf_withoutTemplate hrun
  refine ⟨t₁, hgenerate, fun t₂ report hagain => ?_⟩
  obtain ⟨again, hagain, -⟩ := generate_eq_ok_iff.mp hagain
  obtain ⟨_, hlast, rfl, hreport⟩ := generate_eq_ok_iff.mp hgenerate
  obtain rfl := Except.ok.inj (hrun'.symm.trans hlast)
  -- the second run matches the mock's directory, and `9x` is no name a clause could have
  have hmatched : turn.directory run.embedded.settings ∈ [["m", "x"], ["m", "x", "mocks"]] :=
    List.mem_cons_of_mem _ (List.mem_singleton.mpr hdirectory)
  have hmem : turn ∈ run.embedded.turns := hturn ▸ List.mem_singleton_self turn
  obtain ⟨path, code, source, hcode, hparse⟩ := exists_parse_of_again hsound hrun'
    (by rw [hreport]) hagain hmem ⟨"./...", List.mem_singleton_self _, _, hdirs, hmatched⟩
  rw [Turn.parse_of_unnamed (template_of_runOf hrun' rfl) htool hversion hcommand hname (by decide)
    (by decide) (by decide) hcode path] at hparse
  cases hparse

/-- The reports of a run and of the one after it. -/
def twice (t : FileTree) (request : Request) : Except Error Report × Except Error Report :=
  let first := generate .none t {} request
  (first.2, (generate .none first.1 {} request).2)

/-- **Runs that get in the way of the next one.** The mock file of the embedded template belongs to a
package whose name is none, and cannot be read; it joins a source of another package, which cannot be
loaded then; it declares a type that an interface of its package has waited for; it declares an
interface, which is mocked in turn; it tells the name of a package that could only be guessed before;
it replaces the template. -/
theorem regeneration_fails :
    (doerAlone.IsSound ∧ ∃ t₁,
        generate .none doerAlone {} numbered.withoutTemplate =
          (t₁, .ok { written := [⟨"/m/x/mocks/a.go"⟩] }) ∧
        ∀ t₂ report, generate .none t₁ {} numbered.withoutTemplate ≠ (t₂, .ok report)) ∧
      (crowded.IsSound ∧ twice crowded everything =
        (.ok { written := [⟨"/m/x/mocks/a.go"⟩] },
          .error (.load "testing/x/mocks"
            (.mixedPackages "mockx" "a.go" "other" "extra.go" ⟨"/m/x/mocks"⟩)))) ∧
      (waiting.IsSound ∧ twice waiting everything =
        (.ok { written := [⟨"/m/x/mocks/a.go"⟩] },
          .ok { written := [⟨"/m/x/mocks/mocks/extra.go"⟩], unchanged := [⟨"/m/x/mocks/a.go"⟩],
                skipped := [⟨"testing/x/mocks", "again", .unexported⟩] })) ∧
      (growing.IsSound ∧ twice growing (withTemplate "/m/u" ["./..."]) =
        (.ok { written := [⟨"/m/x/mocks/a.go"⟩] },
          .ok { written := [⟨"/m/x/mocks/mocks/a.go"⟩], unchanged := [⟨"/m/x/mocks/a.go"⟩] })) ∧
      (circular.IsSound ∧ twice circular (withTemplate "/m/u" ["./..."]) =
        (.ok { written := [⟨"/m/a/mocks/a.go"⟩, ⟨"/m/x/mocks/a.go"⟩] },
          .ok { written := [⟨"/m/a/mocks/a.go"⟩], unchanged := [⟨"/m/x/mocks/a.go"⟩] })) ∧
      (replaced.IsSound ∧ twice replaced (withTemplate "/m/x/mocks/a.go" ["./x"]) =
        (.ok { written := [⟨"/m/x/mocks/a.go"⟩] }, .ok { written := [⟨"/m/x/mocks/a.go"⟩] })) := by
  refine ⟨⟨by decide +kernel, exists_numbered⟩, ?_⟩
  and_intros <;> decide +kernel

end GoMocks.Run
