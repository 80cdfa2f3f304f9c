import GoMocks.Error
import GoMocks.KeyOrder
import GoMocks.Path

/-!
# File trees

What lies in a file system: files and directories, each at a place that is given by the names on
the way from the root. There are no links, so every name leads to one place.

* `FileTree.entry?`: what lies at a place. All other questions come down to it.
* `FileTree.place`: the place a path leads to. Every part of a path is looked up in a directory
  that is there, so the last one alone may be missing.
* `FileTree.read`, `readText`, `names`: the bytes and the text of a file, the names in a directory.
* `FileTree.put`, `take`, `makeDirectories`: the changes.
-/

namespace GoMocks

/-- The names on the way from the root to a place. -/
abbrev Location := List String

namespace Location

/-- The path of a place, from the root on and without detours. -/
def path (l : Location) : Path :=
  ⟨"/" ++ "/".intercalate l⟩

/-- The place that one part of a path leads to. The root is its own parent. -/
def step (l : Location) (part : List Char) : Location :=
  if Path.idle part then l
  else if part = ['.', '.'] then l.dropLast
  else l ++ [.ofList part]

/-- The name of a place in a directory, if it lies directly in it. -/
def nameIn? : Location → Location → Option String
  | [],     [name] => some name
  | a :: l, b :: m => if a = b then nameIn? l m else none
  | _,      _      => none

end Location

/-- What lies at a place. -/
inductive Entry
  | file (content : ByteArray)
  | directory

/-- A file system, seen from one of its directories. The root is always there. -/
structure FileTree where
  entries : List (Location × Entry) := []
  /-- The directory that relative paths begin at. -/
  current : Location := []

namespace FileTree

/-- What lies at a place. -/
def entry? (t : FileTree) (l : Location) : Option Entry :=
  if l = [] then some .directory else t.entries.lookup l

/-- Puts something at a place, instead of what was there. -/
def put (t : FileTree) (l : Location) (e : Entry) : FileTree :=
  { t with entries := (l, e) :: t.entries.filter (·.1 != l) }

/-- Takes away what lies at a place. -/
def take (t : FileTree) (l : Location) : FileTree :=
  { t with entries := t.entries.filter (·.1 != l) }

/-! ### Paths -/

/-- Follows the parts of a path. Each of them has to be looked up in a directory. -/
def walk (t : FileTree) (l : Location) : List (List Char) → Except IoFault Location
  | [] => return l
  | part :: rest =>
    match t.entry? l with
    | none            => throw .notFound
    | some (.file _)  => throw .notDirectory
    | some .directory => t.walk (l.step part) rest

/-- Where a path begins. -/
def start (t : FileTree) (p : Path) : Location :=
  if p.isAbsolute then [] else t.current

/-- The place a path leads to, whether something lies there or not. -/
def place (t : FileTree) (p : Path) : Except IoFault Location :=
  if p.text.isEmpty then throw .notFound else t.walk (t.start p) p.parts

/-- The place a path leads to and what lies there. -/
def find (t : FileTree) (p : Path) : Except IoFault (Location × Entry) := do
  let l ← t.place p
  match t.entry? l with
  | some e => return (l, e)
  | none   => throw .notFound

/-- Does the path lead to something? -/
def contains (t : FileTree) (p : Path) : Bool :=
  match t.find p with
  | .ok _    => true
  | .error _ => false

/-- Does a path lead to a file? -/
def isFile (t : FileTree) (p : Path) : Bool :=
  match t.find p with
  | .ok (_, .file _) => true
  | _                => false

/-- Does a path lead to a directory? -/
def isDirectory (t : FileTree) (p : Path) : Bool :=
  match t.find p with
  | .ok (_, .directory) => true
  | _                   => false

/-- The path of the place that a path leads to. -/
def canonical (t : FileTree) (p : Path) : Except IoFault Path := do
  return (← t.find p).1.path

/-! ### Contents -/

/-- The bytes of a file. -/
def read (t : FileTree) (p : Path) : Except IoFault ByteArray := do
  match (← t.find p).2 with
  | .file content => return content
  | .directory    => throw .isDirectory

/-- The text of a file. -/
def readText (t : FileTree) (p : Path) : Except IoFault String := do
  match String.fromUTF8? (← t.read p) with
  | some text => return text
  | none      => throw .invalidData

/-- The names of what lies directly in a place, in order. -/
def namesAt (t : FileTree) (l : Location) : List String :=
  sortTexts (t.entries.filterMap fun e => l.nameIn? e.1)

/-- The names in a directory, in order. -/
def names (t : FileTree) (p : Path) : Except IoFault (List String) := do
  match ← t.find p with
  | (l, .directory) => return t.namesAt l
  | (_, .file _)    => throw .notDirectory

/-! ### Directories -/

/-- Makes the directories that are missing on the way, as far as none is refused. A file at the
end of the way, or behind a directory that was made just now, stands where a directory should; any
other file bars the way. -/
def makeWay (refusal : Location → Option IoFault) (t : FileTree) (made : Bool) (l : Location) :
    List (List Char) → FileTree × Except IoFault Unit
  | [] => (t, .ok ())
  | part :: rest =>
    let l := l.step part
    match t.entry? l with
    | some .directory => makeWay refusal t made l rest
    | some (.file _)  =>
      (t, .error (if rest.isEmpty || made then .alreadyExists else .notDirectory))
    | none =>
      match refusal l with
      | some fault => (t, .error fault)
      | none       => makeWay refusal (t.put l .directory) true l rest

/-- Makes the directory of a path and those on the way to it, as far as they are missing. -/
def makeDirectories (refusal : Location → Option IoFault) (t : FileTree) (p : Path) :
    FileTree × Except IoFault Unit :=
  makeWay refusal t false (t.start p) p.parts

end FileTree

end GoMocks
