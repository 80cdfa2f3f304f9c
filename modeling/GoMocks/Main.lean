import GoMocks.CommandLine

/-!
# The program

Reads the files that a run may need from the disk, leaves the run to the library, and puts what has
changed back on the disk.
-/

namespace GoMocks.Program

/-- The place of an absolute path without detours. -/
def locationOf (path : String) : Location :=
  (Path.mk path).parts.foldl Location.step []

/-- Enters a directory and those around it. -/
def enterDirectory (t : FileTree) (l : Location) : FileTree :=
  (t.makeDirectories (fun _ => none) l.path).1

/-- Enters a file or a directory, and all that lies below it. Links are passed over. -/
partial def scan (t : FileTree) (l : Location) : IO FileTree := do
  let here ← IO.FS.realPath l.path.text
  if (← here.isDir) then
    let mut t := enterDirectory t l
    for entry in ← here.readDir do
      if (← entry.path.symlinkMetadata).type != .symlink then
        t ← scan t (l ++ [entry.fileName])
    return t
  else return (enterDirectory t l.dropLast).put l (.file (← IO.FS.readBinFile here))

/-- Enters what a path leads to, if there is anything. -/
def scanIfThere (t : FileTree) (path : Path) : IO FileTree := do
  try scan t (locationOf (← IO.FS.realPath path.text).toString) catch _ => return t

/-- Enters the nearest directory upwards that holds a module file. -/
def scanModule (t : FileTree) (l : Location) : IO FileTree := do
  for dir in GoModule.wayUp l do
    let withFile ← scanIfThere t (GoModule.fileIn dir.path)
    if withFile.isFile (GoModule.fileIn dir.path) then return ← scanIfThere withFile dir.path
  return t

/-- The directories that the packages of other modules lie in. -/
def dependencyRoots (m : GoModule) (env : Environment) : List Path :=
  m.replacements.filterMap (fun r => m.replacedDir? env r.1) ++
    m.requirements.filterMap (fun r => m.requiredDir? env r.1) ++
    env.goRoots.map fun root => root.child "src"

/-- The files that a run in some root directory may need. -/
def scanFor (t : FileTree) (env : Environment) (root : Path) : IO FileTree := do
  let mut t ← scanIfThere t (root.child Config.fileName)
  try
    let l := locationOf (← IO.FS.realPath root.text).toString
    t ← scanModule (enterDirectory t l) l
  catch _ => pure ()
  match GoModule.find t root with
  | .ok m    => for dir in dependencyRoots m env do t ← scanIfThere t dir
  | .error _ => pure ()
  match Config.loadOrDefault t root with
  | .ok config => for file in config.template do t ← scanIfThere t file
  | .error _   => pure ()
  return t

/-- Puts what is new in a file tree on the disk. A file takes its place as a whole. -/
def writeChanges (before after : FileTree) : IO Unit :=
  for (l, entry) in after.entries.reverse do
    match entry with
    | .directory    => if !before.directoryAt l then IO.FS.createDirAll l.path.text
    | .file content =>
      if !before.holds l.path content then
        let temporary := (Location.path (l.dropLast ++ [FileTree.temporaryName 0])).text
        IO.FS.writeBinFile temporary content
        IO.FS.rename temporary l.path.text

/-- The variables that are set. -/
def readEnvironment : IO Environment := do
  return {
    home       := ← IO.getEnv "HOME"
    goModCache := ← IO.getEnv "GOMODCACHE"
    goPath     := ← IO.getEnv "GOPATH"
    goRoot     := ← IO.getEnv "GOROOT" }

end GoMocks.Program

open GoMocks in
/-- The tool, with the arguments of its command line. -/
def main (args : List String) : IO UInt32 := do
  let env ← Program.readEnvironment
  let here := Program.locationOf (← IO.FS.realPath ".").toString
  let empty : FileTree := { Program.enterDirectory {} here with current := here }
  let before ← match Command.parse? args with
    | some (.generate _ root _) => Program.scanFor empty env ⟨root⟩
    | _                         => pure empty
  let outcome := CommandLine.run before env args
  Program.writeChanges before outcome.tree
  outcome.output.forM IO.println
  outcome.diagnostics.forM IO.eprintln
  return UInt32.ofNat outcome.exitCode
