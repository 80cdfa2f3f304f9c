import GoMocks.GoType

/-!
# Go types — the predeclared names

The types every file sees without an import: the basic types and the three predeclared interfaces
`error`, `any` and `comparable`, which stay references to a name without a package.
-/

namespace GoMocks

/-- The predeclared interfaces. -/
def predeclaredInterfaces : List String :=
  ["error", "any", "comparable"]

namespace GoType

/-- A reference to a predeclared name. -/
def ofPredeclaredName (name : String) : GoType :=
  .named ⟨none, name, []⟩

/-- The predeclared type of a name. -/
def predeclared? (name : String) : Option GoType :=
  match BasicKind.ofName? name with
  | some kind => some (.basic kind)
  | none      => if name ∈ predeclaredInterfaces then some (ofPredeclaredName name) else none

/-- What a predeclared interface stands for: `error` has its one method, the others have none. -/
def predeclaredUnderlying? (name : String) : Option GoType :=
  if name = "error" then
    some (.interface [⟨"Error", ⟨[], [⟨"", .basic .string⟩], false⟩⟩] [])
  else if name = "any" || name = "comparable" then some (.interface [] [])
  else none

end GoType

end GoMocks
