import GoMocks.Proofs.Generation.Sources
import GoMocks.Proofs.MockFile.Rendering
import GoMocks.Proofs.MockFile.Sources

/-!
# Generation — mock files of the embedded template

What the template that belongs to the tool writes can be read again, if a Go source can hold it.

* `Generation.Turn.Writable`: what is asked of a mock file.
* `Generation.Turn.reads_of_writable`: then it is a source of the mock package without interfaces.
-/

namespace GoMocks

open GoSource (SourceFile)
open Template (ofLines)

/-- Does the type go by an identifier, if it is defined as a type parameter? -/
def GoType.namesParameter (packages : String → Option SourcePackage) : GoType → Bool
  | .named n =>
    match n.underlying.answer packages with
    | .ok (.parameter name) => isIdentifier name
    | _                     => true
  | _ => true

/-- Where a result is defined as a type parameter, this goes by an identifier. -/
def Interface.NamesParameters (packages : String → Option SourcePackage) (i : Interface) : Prop :=
  ∀ m ∈ i.methods, ∀ v ∈ m.signature.results, v.type.namesParameter packages

instance (packages : String → Option SourcePackage) (i : Interface) :
    Decidable (i.NamesParameters packages) :=
  inferInstanceAs (Decidable (∀ m ∈ i.methods, ∀ v ∈ m.signature.results,
    v.type.namesParameter packages))

/-- An interface that names its parameters tells them in the mock file. -/
theorem Interface.NamesParameters.tells {packages : String → Option SourcePackage} {i : Interface}
    (h : i.NamesParameters packages) (hw : i.Writable) :
    MockFile.TellsParameters (.ofPackages packages) i := by
  intro m hm v hv name hreaches
  have hv' := h m hm v hv
  have hlexical := ((hw.methods m hm).2 v (List.mem_append_right _ hv)).2.1
  generalize v.type = t at *
  cases hreaches with
  | refl => exact (hlexical _ (GoType.self_mem_parts _)).lexical
  | @told n state u htold =>
    have htold : n.underlying.answer packages = .ok (.parameter name) := htold
    simpa [GoType.namesParameter, htold] using hv'

namespace Generation.Turn

variable {settings : RunSettings} {turn : Turn}

/-- The mock file, before it is rendered. -/
def file (settings : RunSettings) (turn : Turn) : Except Error MockFile :=
  (mockFile (Loader.symbols turn.before.tree) turn.package turn.interfaces settings.options
    turn.before.loader).1

/-- With the embedded template, the source of a mock file is its lines. -/
theorem code_eq_ok_iff (htemplate : MockFile.template = .ok settings.template) {code : String} :
    turn.code settings = .ok code ↔ ∃ file, turn.file settings = .ok file ∧ file.FitsWidth ∧
      ofLines (file.lines file.groupViews) = code := by
  have hcode : turn.code settings = (turn.file settings).bind fun file =>
      (file.render settings.template).mapError .template := rfl
  rw [hcode, Except.ok.inj (htemplate.symm.trans MockFile.template_eq)]
  refine exceptBind_eq_ok.trans (exists_congr fun file => and_congr_right fun _ => ?_)
  by_cases hwidth : file.FitsWidth
  · rw [MockFile.render_template file hwidth]
    simp [Except.mapError, hwidth]
  · rw [MockFile.render_template_of_wide file hwidth]
    simp [Except.mapError, hwidth]

/-- A Go source can hold the mock file: its package has a name, its header is one of comments, its
imports can be written, and so can the interfaces. -/
structure Writable (settings : RunSettings) (turn : Turn) : Prop where
  package    : isIdentifier (turn.mockPackage settings)
  command    : '\n' ∉ settings.options.command.toList
  imports    : ∀ file, turn.file settings = .ok file → ∀ i ∈ file.imports, i.Writable
  interfaces : ∀ i ∈ turn.interfaces, i.Writable
  parameters : ∀ i ∈ turn.interfaces,
    i.NamesParameters (turn.before.packages)

/-- **What the embedded template writes is read again**: the mock file is a source of the mock
package, and it declares no interface. -/
theorem reads_of_writable (htemplate : MockFile.template = .ok settings.template)
    (htool : '\n' ∉ settings.options.tool.toList)
    (hversion : '\n' ∉ settings.options.version.toList) (h : turn.Writable settings) :
    turn.Reads settings := by
  intro code hcode
  obtain ⟨file, hfile, -, rfl⟩ := (code_eq_ok_iff htemplate).mp hcode
  obtain ⟨htools, hversions, hcommand, hname⟩ := MockFile.header_of_mockFile hfile
  have hknown : (mockFile (.ofPackages turn.before.packages) turn.package turn.interfaces
      settings.options ()).1 = .ok file :=
    (Loader.mockFile_ofPackages ..).symm.trans hfile
  obtain ⟨-, -, hmock⟩ := MockFile.of_mockFile_eq_ok hknown
  obtain ⟨source, hparse, hpackage, hbuilt, hconcrete⟩ := hmock.exists_source
    (MockFile.faithful_lastResolver ..) (h.imports file hfile) h.interfaces
    (fun i hi => (h.parameters i hi).tells (h.interfaces i hi)) (by rw [hname]; exact h.package)
    (htools ▸ htool) (hversions ▸ hversion) (hcommand ▸ h.command) (turn.output settings)
  exact ⟨source, hparse, hpackage.trans hname, hbuilt, hconcrete⟩

/-- A mock file cannot be read again if the name of its package begins with no letter. -/
theorem parse_of_unnamed (htemplate : MockFile.template = .ok settings.template)
    (htool : '\n' ∉ settings.options.tool.toList)
    (hversion : '\n' ∉ settings.options.version.toList)
    (hcommand : '\n' ∉ settings.options.command.toList) {c : Char} {cs : List Char}
    (hname : (turn.mockPackage settings).toList = c :: cs) (hc : Text.isIdentifierStart c = false)
    (hblank : GoSource.Token.isGapChar c = false) (hslash : c ≠ '/') {code : String}
    (hcode : turn.code settings = .ok code) (path : Path) :
    SourceFile.parse path code = .error (.malformedSource path) := by
  obtain ⟨file, hfile, -, rfl⟩ := (code_eq_ok_iff htemplate).mp hcode
  obtain ⟨htools, hversions, hcommands, hnames⟩ := MockFile.header_of_mockFile hfile
  obtain ⟨front, newline, comments, hfront, hmark, -, hheader⟩ :=
    MockFile.exists_headerFront file (htools ▸ htool) (hversions ▸ hversion) (hcommands ▸ hcommand)
  have hfileName : file.name.toList = c :: cs := by rw [hnames]; exact hname
  obtain ⟨rest, hsource⟩ : ∃ rest, (ofLines (file.lines file.groupViews)).toList =
      front ++ ("package".toList ++ ([' '] ++ c :: rest)) := by
    rw [MockFile.lines, List.append_assoc, Template.ofLines_append, String.toList_append, hheader,
      hfileName]
    exact ⟨cs ++ '\n' :: (ofLines (MockFile.importLines file.groupViews ++
      file.interfaces.flatMap (MockFile.interfaceLines file))).toList, by simp⟩
  exact SourceFile.parse_of_unnamed path hfront hmark hc hblank hslash hsource

/-- The mock file can be read again. With the embedded template it can if a source can hold it. -/
def Legible (request : Request) (settings : RunSettings) (turn : Turn) : Prop :=
  match request.config.template with
  | none   => turn.Writable settings
  | some _ => turn.Reads settings

end Generation.Turn

/-- The request without a template of its own. -/
def Request.withoutTemplate (request : Request) : Request :=
  { request with config := { request.config with template := none } }

namespace Run

open Generation (Turn)

variable {refusals : Refusals} {t : FileTree} {env : Environment} {request : Request} {run : Run}
  {turn : Turn}

/-- A request without a template gets the embedded one. -/
theorem template_of_runOf (hrun : runOf refusals t env request = .ok run)
    (h : request.config.template = none) : MockFile.template = .ok run.settings.template := by
  obtain ⟨-, template, _, _, htemplate, -, -, rfl⟩ := runOf_eq_ok_iff.mp hrun
  simp only [Request.template, h] at htemplate
  rw [MockFile.template_eq] at htemplate ⊢
  exact congrArg Except.ok (Except.ok.inj htemplate)

/-- The text of a legible turn is read back. -/
theorem reads_of_legible (hrun : runOf refusals t env request = .ok run)
    (h : turn.Legible request run.settings) : turn.Reads run.settings := by
  rw [Turn.Legible] at h
  cases hfile : request.config.template with
  | some file => simpa only [hfile] using h
  | none =>
    simp only [hfile] at h
    obtain ⟨-, -, hoptions, -⟩ := of_runOf hrun
    have htool : '\n' ∉ Tool.name.toList := by decide +kernel
    have hversion : '\n' ∉ Tool.version.toList := by decide +kernel
    exact Turn.reads_of_writable (template_of_runOf hrun hfile) (hoptions ▸ htool)
      (hoptions ▸ hversion) h

/-- The run by the embedded template. -/
def embedded (run : Run) : Run :=
  { run with settings :=
      { run.settings with template := Template.Node.joinedAll MockFile.templateNodes } }

/-- Without its template, a request comes to the same run by the embedded template. -/
theorem runOf_withoutTemplate (hrun : runOf refusals t env request = .ok run) :
    runOf refusals t env request.withoutTemplate = .ok run.embedded := by
  obtain ⟨hconfig, _, first, ps, -, hfirst, hps, rfl⟩ := runOf_eq_ok_iff.mp hrun
  have hvalid : request.withoutTemplate.config.validate = .ok () := by
    rw [Config.validate] at hconfig ⊢
    exact hconfig
  have htemplate : request.withoutTemplate.template t =
      .ok (Template.Node.joinedAll MockFile.templateNodes) := by
    rw [Request.template]
    exact congrArg (Except.mapError _) MockFile.template_eq
  exact runOf_eq_ok_iff.mpr ⟨hvalid, _, first, ps, htemplate, hfirst, hps, rfl⟩

/-- A run of one package, with one mock file that the embedded template writes. -/
theorem generate_of_turn {package : Package} {file : MockFile}
    (hrun : runOf refusals t env request = .ok run) (h : request.config.template = none)
    (hpackage : run.packages = [package]) (hturn : run.turns = [turn])
    (hfile : turn.file run.settings = .ok file) (hwidth : file.FitsWidth) :
    let published := turn.before.tree.publish run.settings.refusals (turn.output run.settings)
      (ofLines (file.lines file.groupViews)).toUTF8
    generate refusals t env request =
      (published.1, .ok (turn.before.report ++ .entry (turn.output run.settings) published.2)) := by
  intro published
  have hcode := (Turn.code_eq_ok_iff (template_of_runOf hrun h)).mpr ⟨file, hfile, hwidth, rfl⟩
  rw [generate_eq, hrun]
  dsimp only
  rw [last_of_turns hpackage hturn, Turn.report_after, Turn.tree_after, Turn.report,
    Turn.outcome_of_code hcode, hcode]

end Run

end GoMocks
