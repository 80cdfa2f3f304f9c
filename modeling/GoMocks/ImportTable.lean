import GoMocks.ImportPath
import GoMocks.Text.Quoted

/-!
# The import table of a file

Every package a file refers to has an entry with the identifier the file knows it by. A package
whose name is taken by another one is given the first free alias `name1`, `name2`, …; entries never
change once they are there.

* `ImportTable.add`: the entry of a package, made on the first call.
* `ImportTable.freshAlias?`: the search for an alias. One more number than there are entries is
  enough, since each number that is passed over is the identifier of an entry.
-/

namespace GoMocks

/-- One import of a file. -/
structure Import where
  path      : String
  name      : String
  localName : Option String
  deriving DecidableEq, Repr, Inhabited

namespace Import

/-- The identifier the file knows the package by. -/
def ident (i : Import) : String :=
  i.localName.getD i.name

/-- The import spec, as the file writes it. -/
def spec (i : Import) : String :=
  match i.localName with
  | some name => name ++ " " ++ Text.quoted i.path
  | none      => Text.quoted i.path

end Import

/-- The imports of a file of some module, in the order they were added. -/
structure ImportTable where
  module  : String
  entries : List Import := []
  deriving DecidableEq, Repr, Inhabited

namespace ImportTable

/-- The class of an import, seen from the module of the file. -/
def classOf (table : ImportTable) (i : Import) : ImportClass :=
  .of i.path table.module

/-- The imports of one class, in the order they were added. -/
def bucket (table : ImportTable) (c : ImportClass) : List Import :=
  table.entries.filter (table.classOf · == c)

/-- All imports, class by class. -/
def all (table : ImportTable) : List Import :=
  table.bucket .standard ++ table.bucket .external ++ table.bucket .internal

/-- The identifiers in use, class by class. -/
def identifiers (table : ImportTable) : List String :=
  table.all.map Import.ident

/-- The imports of one class, sorted by path. -/
def sorted (table : ImportTable) (c : ImportClass) : List Import :=
  (table.bucket c).mergeSort fun i j => decide (i.path ≤ j.path)

/-- The number of imports. -/
def size (table : ImportTable) : Nat :=
  table.entries.length

/-- The import an identifier refers to. -/
def find? (table : ImportTable) (ident : String) : Option Import :=
  table.all.find? (·.ident == ident)

/-- Enters an import behind the others. -/
def insert (table : ImportTable) (i : Import) : ImportTable :=
  { table with entries := table.entries ++ [i] }

/-- Is the identifier free, or does it refer to the package already? -/
def admits (table : ImportTable) (path ident : String) : Bool :=
  (table.find? ident).all (·.path == path)

/-- The `n`-th alias of a name. -/
def aliasOf (name : String) (n : Nat) : String :=
  name ++ toString n

/-- The first of the aliases `name1`, `name2`, … that is free or refers to the package already. -/
def freshAlias? (table : ImportTable) (path name : String) : Option String :=
  ((List.range (table.size + 1)).map fun n => aliasOf name (n + 1)).find? (table.admits path)

/-- The entry of a package and the table that holds it: the entry that is there, or else the
candidate, under a fresh alias if its name is taken. -/
def add (table : ImportTable) (candidate : Import) : Import × ImportTable :=
  match table.find? candidate.name with
  | none => (candidate, table.insert candidate)
  | some existing =>
    if existing.path = candidate.path then (existing, table)
    else
      let fresh := (table.freshAlias? candidate.path candidate.name).getD candidate.name
      match table.find? fresh with
      | some found => (found, table)
      | none =>
        let renamed := { candidate with localName := some fresh }
        (renamed, table.insert renamed)

end ImportTable

end GoMocks
