import GoMocks.Config
import GoMocks.Loader
import GoMocks.MockFile.Build
import GoMocks.MockFile.Render
import GoMocks.Publish
import GoMocks.Tool

/-!
# Generation

A run loads the packages that its patterns name, and publishes one mock file for each of their
source files with an interface that can be mocked. Nothing is published unless all packages are
loaded; from then on every source file is attempted, and a report says what became of it.

* `groupByFile`: the interfaces of a package by their source files.
* `Generation.addPackage`: publishes the mock files of a package.
* `generate`: a whole run.
-/

namespace GoMocks

/-- What a run is asked for. -/
structure Request where
  /-- The directory that patterns are seen from. -/
  root     : Path
  patterns : List String
  config   : Config
  /-- The command line, for the headers of the mock files. -/
  command  : String
  deriving Inhabited

/-- An interface without a mock. -/
structure Skipped where
  /-- The import path of its package. -/
  package   : String
  interface : String
  reason    : Eligibility
  deriving DecidableEq, Repr, Inhabited

/-- What became of the source files and interfaces of a run. -/
structure Report where
  written   : List Path := []
  /-- The mock files that held the same source before. -/
  unchanged : List Path := []
  skipped   : List Skipped := []
  errors    : List Error := []
  deriving DecidableEq, Repr, Inhabited

/-- The interfaces by their source files, in the order of the list. -/
def groupByFile (interfaces : List Interface) : List (Path × List Interface) :=
  (interfaces.map Interface.file).eraseDups.map fun file =>
    (file, interfaces.filter (·.file == file))

/-- What is the same for all mock files of a run. -/
structure RunSettings where
  options  : MockOptions
  template : List Template.Node
  /-- What the system refuses. -/
  refusals : Refusals := .none

/-- A run between two steps. -/
structure Generation where
  tree   : FileTree
  loader : Loader
  report : Report := {}

namespace Generation

/-! ### Reports -/

/-- Enters an error behind those of the report. -/
def addError (g : Generation) (e : Error) : Generation :=
  { g with report := { g.report with errors := g.report.errors ++ [e] } }

/-- Enters interfaces that were passed over. -/
def addSkipped (g : Generation) (skipped : List Skipped) : Generation :=
  { g with report := { g.report with skipped := g.report.skipped ++ skipped } }

/-- Enters what publishing a mock file came to. -/
def addOutcome (g : Generation) (output : Path) : Except Error PublishOutcome → Generation
  | .ok .written   => { g with report := { g.report with written := g.report.written ++ [output] } }
  | .ok .unchanged =>
    { g with report := { g.report with unchanged := g.report.unchanged ++ [output] } }
  | .error e       => g.addError e

/-! ### Mock files -/

/-- The source of the mock file for some interfaces of a package, and the loader afterwards. -/
def source (settings : RunSettings) (t : FileTree) (loader : Loader) (package : Package)
    (interfaces : List Interface) : Except Error String × Loader :=
  let (mock, loader) := mockFile (Loader.symbols t) package interfaces settings.options loader
  (mock.bind fun file => (file.render settings.template).mapError .template, loader)

/-- Publishes the mock file for the interfaces of one source file. -/
def addFile (settings : RunSettings) (package : Package) (g : Generation)
    (group : Path × List Interface) : Generation :=
  let output := outputPath group.1 settings.options.outputDir
  let (code, loader) := source settings g.tree g.loader package group.2
  match code with
  | .error e => { g with loader }.addError e
  | .ok code =>
    let (tree, outcome) := g.tree.publish settings.refusals output code.toUTF8
    { g with tree, loader }.addOutcome output outcome

/-- The interfaces of a package that cannot be mocked, with the reasons. -/
def skippedOf (package : Package) (interfaces : List Interface) : List Skipped :=
  (interfaces.filter (!·.eligibility.isEligible)).map fun i => ⟨package.path, i.name, i.eligibility⟩

/-- Publishes the mock files of a package. -/
def addPackage (settings : RunSettings) (g : Generation) (package : Package) : Generation :=
  let (interfaces, loader) := (Loader.interfaces g.tree package.path).run.run g.loader
  let g := { g with loader }
  match interfaces with
  | .error e => g.addError e
  | .ok interfaces =>
    (groupByFile (interfaces.filter (·.eligibility.isEligible))).foldl (addFile settings package)
      (g.addSkipped (skippedOf package interfaces))

end Generation

/-! ### Runs -/

namespace Request

/-- The template that mock files are written by. -/
def template (request : Request) (t : FileTree) : Except Error (List Template.Node) :=
  match request.config.template with
  | none => MockFile.template.mapError .template
  | some file =>
    match t.readText file with
    | .error _   => throw (.template .unreadable)
    | .ok source => (Template.parse source).mapError .template

/-- What a request says about its mock files. -/
def options (request : Request) : MockOptions where
  tool          := Tool.name
  version       := Tool.version
  command       := request.command
  runtime       := request.config.runtime
  packagePrefix := request.config.packagePrefix
  outputDir     := request.config.outputDir

/-- Everything that is needed before the first mock file: the packages, the loader that holds
them, and the template. -/
def prepare (request : Request) (t : FileTree) (env : Environment) :
    Except Error (List Package × Loader × List Template.Node) := do
  request.config.validate
  let loader ← Loader.ofDirectory t env request.root
  let (packages, loader) := (Loader.loadPackages t request.patterns).run.run loader
  return (← packages, loader, ← request.template t)

end Request

/-- Generates the mock files of all packages that the patterns of a request name. Where a failure
among the errors of the report is no answer (`Error.isAnswer`), the tool comes to no report. -/
def generate (refusals : Refusals) (t : FileTree) (env : Environment) (request : Request) :
    FileTree × Except Error Report :=
  match request.prepare t env with
  | .error e => (t, .error e)
  | .ok (packages, loader, template) =>
    let settings := { options := request.options, template, refusals }
    let g := packages.foldl (Generation.addPackage settings) { tree := t, loader }
    (g.tree, .ok g.report)

end GoMocks
