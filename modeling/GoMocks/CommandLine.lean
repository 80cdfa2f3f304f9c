import GoMocks.ConfigFile
import GoMocks.Generation
import GoMocks.ShellWords

/-!
# The command line

The tool is told on its command line to generate mocks or to say its version. It answers with an
exit code, with lines on the standard output, and with diagnostics.

* `Command.parse?`: what the arguments ask for.
* `CommandLine.run`: what the tool does about it.
-/

namespace GoMocks

/-- What the tool may be asked for. -/
inductive Command
  | generate (debug : Bool) (root : String) (patterns : List String)
  | version
  | help
  deriving DecidableEq, Repr, Inhabited

namespace Command

/-- The arguments of the `gen` command that were read so far. -/
structure GenArguments where
  debug    : Bool := false
  root     : Option String := none
  patterns : List String := []
  deriving DecidableEq, Repr, Inhabited

/-- Does the argument look like an option? A lone `-` does not. -/
def isOption (arg : String) : Bool :=
  arg.toList.head? == some '-' && arg != "-"

/-- Enters the root directory. It is given once, and it is not empty. -/
def GenArguments.setRoot? (args : GenArguments) (root : String) : Option GenArguments :=
  if args.root.isSome || root.isEmpty then none else some { args with root := some root }

/-- Enters patterns behind those that are there. -/
def GenArguments.addPatterns (args : GenArguments) (patterns : List String) : GenArguments :=
  { args with patterns := args.patterns ++ patterns }

/-- The command of the arguments; at least one pattern has to be given. -/
def GenArguments.toCommand? (args : GenArguments) : Option Command :=
  if args.patterns.isEmpty then none
  else some (.generate args.debug (args.root.getD ".") args.patterns)

/-- Reads the arguments of the `gen` command. Options may stand between patterns; behind `--` all
arguments are patterns. -/
def parseGen? (args : GenArguments) : List String → Option Command
  | [] => args.toCommand?
  | "--" :: rest => (args.addPatterns rest).toCommand?
  | "--debug" :: rest => if args.debug then none else parseGen? { args with debug := true } rest
  | "--root" :: root :: rest => do
    if isOption root then none else parseGen? (← args.setRoot? root) rest
  | "--help" :: _ => some .help
  | "-h" :: _ => some .help
  | arg :: rest =>
    match Text.afterFront? "--root=".toList arg.toList with
    | some root => do parseGen? (← args.setRoot? (.ofList root)) rest
    | none => if isOption arg then none else parseGen? (args.addPatterns [arg]) rest

/-- What the arguments ask for, if they are well formed. -/
def parse? : List String → Option Command
  | "gen" :: rest         => parseGen? {} rest
  | ["version"]           => some .version
  | ["version", "--"]     => some .version
  | "version" :: "-h" :: _     => some .help
  | "version" :: "--help" :: _ => some .help
  | "-h" :: _             => some .help
  | "--help" :: _         => some .help
  | ["help"]              => some .help
  | ["help", "gen"]       => some .help
  | ["help", "version"]   => some .help
  | ["help", "help"]      => some .help
  | _                     => none

end Command

/-- The outcome of a call of the tool. -/
structure Outcome where
  /-- The files afterwards. -/
  tree        : FileTree
  exitCode    : Nat := 0
  /-- The lines of the standard output. -/
  output      : List String := []
  /-- The lines of the diagnostics. -/
  diagnostics : List String := []

namespace CommandLine

/-- The exit codes of a failure and of arguments that are not understood. -/
def failureCode : Nat := 1
/-- The exit code for arguments that cannot be understood. -/
def usageCode : Nat := 2

/-- How to call the tool. -/
def usage : List String :=
  ["Usage: mockgen gen [--debug] [--root <DIRECTORY>] <PACKAGES>...", "       mockgen version"]

/-- The failure of a whole run. -/
def failed (t : FileTree) (e : Error) : Outcome where
  tree        := t
  exitCode    := failureCode
  diagnostics := ["Error: " ++ e.message]

/-- What is said about the files that were published. -/
def reportLines (report : Report) : List String :=
  report.written.map (fun file => "✓ Generated: " ++ file.text) ++
    report.unchanged.map fun file => "✓ " ++ file.text ++ ": up to date"

/-- The outcome of a run with a report. The first failure is told, and the number of several. -/
def reported (t : FileTree) (report : Report) : Outcome :=
  match report.errors with
  | [] => { tree := t, output := reportLines report }
  | e :: others =>
    { tree        := t
      exitCode    := failureCode
      output      := reportLines report
      diagnostics :=
        (if others.isEmpty then []
          else [toString report.errors.length ++ " files failed to generate"]) ++
          ["Error: " ++ e.message] }

/-- Generates mocks with the configuration in the root directory. -/
def runGenerate (t : FileTree) (env : Environment) (root : Path) (patterns : List String)
    (command : String) : Outcome :=
  match Config.loadOrDefault t root with
  | .error e => failed t e
  | .ok config =>
    match generate .none t env { root, patterns, config, command } with
    | (t, .error e)    => failed t e
    | (t, .ok report) => reported t report

/-- The command line as it is put into the headers of mock files. -/
def recorded (args : List String) : String :=
  ShellWords.join (Tool.name :: args)

/-- What the tool does when it is called with some arguments. -/
def run (t : FileTree) (env : Environment) (args : List String) : Outcome :=
  match Command.parse? args with
  | none          => { tree := t, exitCode := usageCode, diagnostics := usage }
  | some .help    => { tree := t, output := usage }
  | some .version => { tree := t, output := [Tool.name ++ " " ++ Tool.version] }
  | some (.generate _ root patterns) => runGenerate t env ⟨root⟩ patterns (recorded args)

end CommandLine

end GoMocks
