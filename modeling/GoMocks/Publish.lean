import GoMocks.FileTree
import GoMocks.FreshName

/-!
# Publishing a file

A file is published as a whole or not at all: its bytes are written to a temporary file in the same
directory, which then takes the place of the file. A file that holds the bytes already is left
alone.

The system may refuse each step. `publish` takes the refusals as an argument, so that what is left
behind can be said for all of them.
-/

namespace GoMocks

/-- The steps that a system may refuse. -/
inductive PublishStep
  | makeDirectory (place : Location)
  | makeTemporary
  | write
  | flush
  | setPermissions
  | rename
  deriving DecidableEq, Repr, Inhabited

/-- What publishing did to the file. -/
inductive PublishOutcome
  | written
  /-- The file held the same bytes before. -/
  | unchanged
  deriving DecidableEq, Repr, Inhabited

/-- What a system refuses. -/
abbrev Refusals := PublishStep → Option IoFault

/-- A system that refuses nothing. -/
def Refusals.none : Refusals := fun _ => .none

namespace FileTree

/-- The `n`-th name for a temporary file. -/
def temporaryName (n : Nat) : String :=
  ".mockgen-" ++ toString n ++ ".tmp"

/-- A place in a directory where nothing lies, for a temporary file. -/
def temporaryPlace? (t : FileTree) (dir : Location) : Option Location :=
  (firstFresh? (t.namesAt dir) temporaryName).map fun name => dir ++ [name]

/-- The directory that a file is to lie in. -/
def directoryOf (p : Path) : Path :=
  match p.parent? with
  | some dir => if dir.text.isEmpty then ⟨"."⟩ else dir
  | none     => ⟨"."⟩

/-- The place that a file may take by its path. A directory keeps its place, and a path that ends
with a slash names no file. -/
def filePlace (t : FileTree) (p : Path) : Except IoFault Location :=
  if p.text.toList.getLast? = some '/' then throw .notDirectory
  else do
    let l ← t.place p
    match t.entry? l with
    | some .directory => throw .isDirectory
    | _               => return l

/-- The first of some steps that is refused. -/
def refused? (refusals : Refusals) (steps : List PublishStep) : Option IoFault :=
  steps.findSome? refusals

/-- Moves the bytes to their place by way of the temporary file, which is gone afterwards in any
case. -/
def replace (refusals : Refusals) (t : FileTree) (temporary : Location) (p : Path)
    (content : ByteArray) : FileTree × Except Error PublishOutcome :=
  let filled := t.put temporary (.file content)
  match refused? refusals [.write, .flush, .setPermissions] with
  | some fault => (filled.take temporary, .error (.io temporary.path fault))
  | none =>
    match refusals .rename with
    | some fault => (filled.take temporary, .error (.io p fault))
    | none =>
      match filled.filePlace p with
      | .error fault => (filled.take temporary, .error (.io p fault))
      | .ok l        => ((filled.take temporary).put l (.file content), .ok .written)

/-- Does the path lead to a file of just these bytes? -/
def holds (t : FileTree) (p : Path) (content : ByteArray) : Bool :=
  match t.read p with
  | .ok found => found.data == content.data
  | .error _  => false

/-- Publishes bytes at a path. The directories on the way are made as needed. -/
def publish (refusals : Refusals) (t : FileTree) (p : Path) (content : ByteArray) :
    FileTree × Except Error PublishOutcome :=
  if t.holds p content then (t, .ok .unchanged)
  else
    let dir := directoryOf p
    match t.makeDirectories (fun l => refusals (.makeDirectory l)) dir with
    | (t, .error fault) => (t, .error (.io dir fault))
    | (t, .ok _) =>
      match refusals .makeTemporary, t.place dir with
      | some fault, _ => (t, .error (.io dir fault))
      | none, .error fault => (t, .error (.io dir fault))
      | none, .ok l =>
        match t.temporaryPlace? l with
        | some temporary => t.replace refusals temporary p content
        | none           => (t, .error (.io dir .alreadyExists))

end FileTree

end GoMocks
