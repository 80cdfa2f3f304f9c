import GoMocks.Config
import GoMocks.FileTree
import GoMocks.Yaml.Document

/-!
# The configuration file

A file in the directory of a run may set each part of the configuration once, and nothing else. It
does so by name, or in the order of the names. What it does not set keeps its default. An empty file
sets nothing.

* `Config.ofMapping?`, `Config.ofSequence?`: the configuration that a file sets.
* `Config.load`: the configuration in a directory.
-/

namespace GoMocks.Config

/-- The ways of writing that there is no value. -/
def nullTexts : List String :=
  ["", "~", "null", "Null", "NULL"]

/-- Is the value a plain one that stands for nothing? -/
def isNull (value : Yaml.Scalar) : Bool :=
  value.plain && nullTexts.contains value.text

/-- Sets the part of the configuration that goes by a key. -/
def set? (config : Config) (key : String) (value : Yaml.Scalar) : Option Config :=
  match key with
  | "runtime"        => some { config with runtime := value.text }
  | "output_dir"     => some { config with outputDir := value.text }
  | "package_prefix" => some { config with packagePrefix := value.text }
  | "template"       =>
    some { config with template := if isNull value then none else some ⟨value.text⟩ }
  | _                => none

/-- The configuration that some entries set. No key may be set twice. -/
def ofMapping? (entries : Yaml.Mapping) : Option Config :=
  if (entries.map (·.1)).Nodup then entries.foldlM (fun config e => config.set? e.1 e.2) {} else none

/-- The names that `set?` knows, in their order. -/
def keys : List String :=
  ["runtime", "output_dir", "package_prefix", "template"]

/-- The configuration that some values set, each of them what stands in its place among the
names. -/
def ofSequence? (values : List Yaml.Scalar) : Option Config :=
  if values.length ≤ keys.length then ofMapping? (keys.zip values) else none

/-- The settings of a document, unless it is none of settings. -/
def ofDocument? : Yaml.Document → Option Config
  | .mapping entries => ofMapping? entries
  | .sequence values => ofSequence? values

/-- The configuration that a file sets. -/
def parse? (source : String) : Option Config := do
  if (Text.trim source).isEmpty then some {}
  else ofDocument? (← Yaml.Document.parse? source)

/-- The configuration, with its template seen from a directory. -/
def seenFrom (config : Config) (dir : Path) : Config :=
  { config with template := config.template.map dir.join }

/-- The configuration that the file in a directory sets, if there is one. -/
def load (t : FileTree) (dir : Path) : Except Error (Option Config) := do
  let file := dir.child fileName
  if !t.contains file then return none
  else
    match t.readText file with
    | .error fault => throw (.io file fault)
    | .ok source =>
      match parse? source with
      | none => throw (.config .malformed)
      | some config =>
        config.validate
        return some (config.seenFrom dir)

/-- The configuration in a directory; without a file all defaults hold. -/
def loadOrDefault (t : FileTree) (dir : Path) : Except Error Config :=
  return (← load t dir).getD {}

end GoMocks.Config
