/-!
# Templates — values

The values a template works with. A name that is bound to nothing has the value `undefined`, which
prints as nothing, counts as false and is an empty list in a loop.
-/

namespace GoMocks.Template

/-- A value of a template. -/
inductive Value where
  | undefined
  | none
  | bool (b : Bool)
  | int  (n : Int)
  | text (s : String)
  | list (items : List Value)
  | map  (entries : List (String × Value))

namespace Value

instance : Inhabited Value := ⟨.undefined⟩

/-- Does the value count as true in a condition? -/
def isTrue : Value → Bool
  | undefined | none => false
  | bool b           => b
  | int n            => n != 0
  | text s           => !s.isEmpty
  | list items       => !items.isEmpty
  | map entries      => !entries.isEmpty

mutual

/-- The text of a value in the output. -/
def print : Value → String
  | undefined   => ""
  | none        => "none"
  | bool b      => if b then "true" else "false"
  | int n       => toString n
  | text s      => s
  | list items  => "[" ++ ", ".intercalate (printAll items) ++ "]"
  | map entries => "\x7b" ++ ", ".intercalate (printEntries entries) ++ "\x7d"

/-- The texts of some values. -/
def printAll : List Value → List String
  | []      => []
  | v :: vs => v.print :: printAll vs

/-- The texts of entries, each with its key. -/
def printEntries : List (String × Value) → List String
  | []               => []
  | (key, v) :: rest => ("\"" ++ key ++ "\": " ++ v.print) :: printEntries rest

end

/-- The number a value counts as beside another number: a truth value is 0 or 1. -/
def asInt? : Value → Option Int
  | bool b => some (if b then 1 else 0)
  | int n  => some n
  | _      => Option.none

mutual

/-- Are two values equal? -/
def same : Value → Value → Bool
  | undefined,  undefined  => true
  | none,       none       => true
  | text s,     text t     => s == t
  | list items, list other => sameAll items other
  | map es,     map fs     => sameEntries es fs
  | v,          w          => v.asInt?.isSome && v.asInt? == w.asInt?

/-- Are two lists of values the same? -/
def sameAll : List Value → List Value → Bool
  | [],      []      => true
  | v :: vs, w :: ws => v.same w && sameAll vs ws
  | _,       _       => false

/-- Are two lists of entries the same, with their keys in the same order? -/
def sameEntries : List (String × Value) → List (String × Value) → Bool
  | [],               []               => true
  | (k, v) :: es, (l, w) :: fs => k == l && v.same w && sameEntries es fs
  | _,                _                => false

end

/-- The entry of a map; any other value has none. -/
def member (v : Value) (key : String) : Value :=
  match v with
  | map entries => (entries.lookup key).getD undefined
  | _           => undefined

/-- The item of a list, counted from the end where the index is negative, or the entry of a map. -/
def item (v : Value) (index : Value) : Value :=
  match v, index with
  | list items, .int n    =>
    if 0 ≤ n then items.getD n.toNat undefined
    else if n.natAbs ≤ items.length then items.getD (items.length - n.natAbs) undefined
    else undefined
  | map _,      .text key => v.member key
  | _,          _         => undefined

/-- The items a loop runs over: those of a list, the keys of a map and the characters of a text.
Numbers and truth values have none. -/
def items? : Value → Option (List Value)
  | undefined | none => some []
  | list items       => some items
  | text s           => some (s.toList.map fun c => text (.ofList [c]))
  | map entries      => some (entries.map fun e => text e.1)
  | bool _ | int _   => Option.none

end Value

end GoMocks.Template
