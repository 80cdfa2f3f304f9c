/-!
# Lists in order of a key

Lists whose items go up strictly by a key, so that there is one item of each key.

* `insertByKey`: enters an item, in place of the one with the same key.
* `sortByKey`: enters all items of a list, one after the other.
-/

namespace GoMocks

variable {α : Type}

/-- Enters an item into a list in order of its key, in place of the one with the same key. -/
def insertByKey (key : α → String) (a : α) : List α → List α
  | [] => [a]
  | b :: rest =>
    if key a < key b then a :: b :: rest
    else if key b < key a then b :: insertByKey key a rest
    else a :: rest

/-- The items in order of a key; of several with one key the last one counts. -/
def sortByKey (key : α → String) (items : List α) : List α :=
  items.foldl (fun sorted a => insertByKey key a sorted) []

/-- The texts in order, each of them once. -/
def sortTexts (texts : List String) : List String :=
  sortByKey id texts

end GoMocks
