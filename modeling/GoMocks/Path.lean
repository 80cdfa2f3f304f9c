/-!
# File paths

A path is a text whose parts are separated by slashes. It is kept as it was written: `.` parts,
`..` parts and repeated slashes stay where they are, and only `Path.components` reads past them.

* `components`: the parts that matter, in order.
* `parent?`, `fileName?`: the path without its last component, and that component.
* `join`: an absolute second path replaces the first.
* `relativeTo?`: the rest of a path behind the components of another one.
-/

namespace GoMocks

/-- A path as it is written. -/
structure Path where
  text : String
  deriving DecidableEq, Repr, Inhabited

namespace Path

/-- What one part of a path stands for. -/
inductive Component
  | root
  | current
  | parent
  | normal (name : String)
  deriving DecidableEq, Repr, Inhabited

/-- How a component is written. -/
def Component.text : Component → String
  | root        => "/"
  | current     => "."
  | parent      => ".."
  | normal name => name

/-- Does the path begin at the root? -/
def isAbsolute (p : Path) : Bool :=
  p.text.toList.head? == some '/'

/-- The parts behind the leading slash, as they are written. -/
def parts (p : Path) : List (List Char) :=
  (if p.isAbsolute then p.text.toList.tail else p.text.toList).splitOn '/'

/-- A part that says nothing: an empty one, or a `.` that does not open a relative path. -/
def idle (part : List Char) : Bool :=
  part == [] || part == ['.']

/-- The component a part stands for, if it is not idle. -/
def componentOf? (part : List Char) : Option Component :=
  if idle part then none
  else if part = ['.', '.'] then some .parent
  else some (.normal (.ofList part))

/-- Does the path begin with a `.` part that counts? -/
def opensHere (p : Path) : Bool :=
  !p.isAbsolute && p.parts.head? == some ['.']

/-- The root of an absolute path, the `.` that opens a relative one, and the parts that are not
idle. -/
def components (p : Path) : List Component :=
  (if p.isAbsolute then [.root] else if p.opensHere then [.current] else []) ++
    p.parts.filterMap componentOf?

/-- The path of given parts, absolute or not. -/
def ofParts (absolute : Bool) (ps : List (List Char)) : Path :=
  ⟨(if absolute then "/" else "") ++ .ofList (['/'].intercalate ps)⟩

/-- The parts without the idle ones at the end. -/
def trimIdleEnd (ps : List (List Char)) : List (List Char) :=
  (ps.reverse.dropWhile idle).reverse

/-- The path without its last component; neither the root nor the empty path has one. -/
def parent? (p : Path) : Option Path :=
  if p.opensHere then
    match trimIdleEnd p.parts.tail with
    | [] => some ⟨""⟩
    | ps => some (ofParts false (['.'] :: trimIdleEnd ps.dropLast))
  else
    match trimIdleEnd p.parts with
    | [] => none
    | ps => some (ofParts p.isAbsolute (trimIdleEnd ps.dropLast))

/-- The last component, if it is a name. -/
def fileName? (p : Path) : Option String :=
  match p.components.getLast? with
  | some (.normal name) => some name
  | _                   => none

/-- An absolute path stands for itself; any other is put behind a slash. -/
def join (p q : Path) : Path :=
  if q.isAbsolute || p.text.isEmpty then q
  else if p.text.toList.getLast? = some '/' then ⟨p.text ++ q.text⟩
  else ⟨p.text ++ "/" ++ q.text⟩

/-- Joins one more name. -/
def child (p : Path) (name : String) : Path :=
  p.join ⟨name⟩

/-- Drops as many parts that are not idle, and the idle ones before each of them. -/
def dropParts : Nat → List (List Char) → List (List Char)
  | 0, ps => ps
  | n + 1, ps => dropParts n (ps.dropWhile idle).tail

/-- What is left of a path behind the components of `base`, if it begins with them. -/
def relativeTo? (p base : Path) : Option Path :=
  let skipped := base.components
  if !skipped.isPrefixOf p.components then none
  else if skipped.isEmpty then
    some <|
      if p.opensHere then ofParts false (['.'] :: trimIdleEnd p.parts.tail)
      else ofParts p.isAbsolute (trimIdleEnd p.parts)
  else
    let named := (skipped.filter fun c => c != .root && c != .current).length
    some (ofParts false (trimIdleEnd ((dropParts named p.parts).dropWhile idle)))

/-- Do the components of a path begin with those of another? -/
def startsWith (p base : Path) : Bool :=
  base.components.isPrefixOf p.components

end Path

/-- `<directory of the source>/<output directory>/<file name of the source>` -/
def outputPath (source : Path) (outputDir : String) : Path :=
  let dir := (source.parent?.getD ⟨"."⟩).child outputDir
  match source.fileName? with
  | some name => dir.child name
  | none      => dir

end GoMocks
