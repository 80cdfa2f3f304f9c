import GoMocks.Text.Affix
import GoMocks.Text.Alphanumeric

/-!
# Import paths

An import path is a list of elements between slashes. This module says which packages lie in a
module, how paths are classed, what name a package is guessed to have, and how a path is spelled
in the module cache.

* `within?`: the part of a path below a module path, where it is one.
* `longestMatch?`: the entry of a list whose module path is the longest that holds a package.
* `ImportClass.of`: standard library, other modules, or the main module.
-/

namespace GoMocks

namespace ImportPath

/-- The elements between the slashes. -/
def elements (path : String) : List String :=
  (path.toList.splitOn '/').map .ofList

/-- What follows the module path and a slash, or nothing where the path is the module path
itself. -/
def within? (path module : String) : Option String :=
  if path = module then some ""
  else
    match Text.afterFront? module.toList path.toList with
    | some ('/' :: rest) => some (.ofList rest)
    | _                  => none

/-- Keeps the better of the match found so far and a later one that is at least as long. -/
def laterIfLonger {α : Type} (best : Option (α × String × Nat)) (next : α × String × Nat) :
    Option (α × String × Nat) :=
  match best with
  | some (a, rest, n) => if next.2.2 < n then some (a, rest, n) else some next
  | none              => some next

/-- The last of the items with the longest key among those whose key is the path or is followed
in it by a slash, together with the rest of the path. -/
def longestMatch? {α : Type} (items : List α) (key : α → String) (path : String) :
    Option (α × String) :=
  let matching := items.filterMap fun item =>
    (within? path (key item)).map fun rest => (item, rest, (key item).utf8ByteSize)
  (matching.foldl laterIfLonger none).map fun m => (m.1, m.2.1)

/-- Paths of the standard library have no dot in their first element. -/
def isStandard (path : String) : Bool :=
  !(path.toList.takeWhile (· != '/')).contains '.'

/-- Is the element a major version, `v` and digits? -/
def isMajorVersion (elem : String) : Bool :=
  match elem.toList with
  | 'v' :: digits => !digits.isEmpty && digits.all Char.isDigit
  | _             => false

/-- The element a package is named after: the last one, or the one before a major version. -/
def namingElement (path : String) : String :=
  match (elements path).reverse with
  | last :: before :: _ => if isMajorVersion last then before else last
  | [last]              => last
  | []                  => ""

/-- The name a package is taken to have when its source is not at hand: its naming element without
a leading `go-`, up to the first character that no name has. -/
def guessedName (path : String) : String :=
  let elem := (namingElement path).toList
  let stem := (Text.afterFront? "go-".toList elem).getD elem
  .ofList (stem.takeWhile fun c => Text.isAlphanumeric c || c == '_')

/-- The spelling of one character in the module cache. -/
def cacheSpelling (c : Char) : List Char :=
  if c.isUpper then ['!', c.toLower] else [c]

/-- The spelling of a path or a version in the module cache, where no two names differ in case
alone: a capital becomes `!` and its small letter. -/
def escaped (path : String) : String :=
  .ofList (path.toList.flatMap cacheSpelling)

end ImportPath

/-- Where an imported package comes from. -/
inductive ImportClass
  | standard | external | internal
  deriving DecidableEq, Repr, Inhabited

/-- A path of the main module is internal: the module path itself, or one that goes on behind it with
a slash. Any other is external if its first element has a dot, and standard if not. -/
def ImportClass.of (path module : String) : ImportClass :=
  if !module.isEmpty && (path == module ||
      (Text.afterFront? module.toList path.toList).any (·.head? == some '/')) then .internal
  else if ImportPath.isStandard path then .standard
  else .external

end GoMocks
