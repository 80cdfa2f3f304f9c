import GoMocks.Error
import GoMocks.FreshName
import GoMocks.GoType.Predeclared
import GoMocks.Interface

/-!
# Mock files — names

The names a mock file declares, the collisions that are refused, and the names its methods give to
their parameters and results.

* `declaredNames`: the types and functions of one mock.
* `checkFileNames`, `checkMethodNames`, `checkTypeParamNames`: the three kinds of collision.
* `chooseNames`: names for parameters or results that hide nothing the method refers to.
-/

namespace GoMocks.MockFile

/-- The names the method bodies use for themselves. -/
def bodyNames : List String :=
  ["_", "m", "f", "t", "nil", "true", "false", "new", "iota"]

/-- The names of the predeclared types. -/
def predeclaredNames : List String :=
  BasicKind.predeclared.map BasicKind.name ++ predeclaredInterfaces

/-- The name of the type of a method's handlers. -/
def handlerName (i : Interface) (m : Method) : String :=
  i.name ++ m.name ++ "Func"

/-- The types and functions that the mock of an interface declares. -/
def declaredNames (i : Interface) : List String :=
  i.name :: ("New" ++ i.name) :: i.methods.map (handlerName i)

/-- The methods that the mock of an interface declares. -/
def declaredMethods (i : Interface) : List String :=
  "HasMore" :: i.methods.flatMap fun m => [m.name, "Add" ++ m.name, "Set" ++ m.name]

/-! ### Collisions -/

/-- The first name that stands in front of the list, or earlier in it. -/
def firstRepeated? : List String → List (String × String) → Option (String × String)
  | _,    []                   => none
  | seen, (owner, name) :: rest =>
    if seen.contains name then some (owner, name) else firstRepeated? (name :: seen) rest

/-- No two declarations of the file have one name. -/
def checkFileNames (interfaces : List Interface) : Except Error Unit :=
  match firstRepeated? [] (interfaces.flatMap fun i => (declaredNames i).map (i.name, ·)) with
  | some (owner, name) => throw (.nameCollision owner name)
  | none               => return

/-- No method of the interface has a name that its mock needs for a method of its own. -/
def checkMethodNames (i : Interface) : Except Error Unit :=
  let names := i.methods.map Method.name
  let needed := "HasMore" :: names.flatMap fun name => ["Add" ++ name, "Set" ++ name]
  match needed.find? names.contains with
  | some name => throw (.nameCollision i.name name)
  | none      => return

/-- No type parameter hides a name that the bodies use, or one that the file imports or
declares. -/
def checkTypeParamNames (i : Interface) (reserved : List String) : Except Error Unit :=
  match (i.typeParams.map TypeParam.name).find? fun name =>
      bodyNames.contains name || reserved.contains name with
  | some name => throw (.nameCollision i.name name)
  | none      => return

/-! ### Parameters and results -/

/-- The names no parameter may have: none at all, those of the bodies, the predeclared types, and
others that are given. -/
def forbiddenNames (taken : List String) : List String :=
  "" :: bodyNames ++ predeclaredNames ++ taken

/-- The replacements of a name at some place: `a0`, then `a0_1`, `a0_2`, … -/
def replacement (letter : Char) (place : Nat) : Nat → String
  | 0     => letter.toString ++ toString place
  | n + 1 => letter.toString ++ toString place ++ "_" ++ toString (n + 1)

/-- The declared name if it may be kept, and otherwise the first replacement that is free. -/
def chooseName (letter : Char) (place : Nat) (declared : String) (taken : List String) : String :=
  let forbidden := forbiddenNames taken
  if forbidden.contains declared then
    (firstFresh? forbidden (replacement letter place)).getD declared
  else declared

/-- Names for parameters or results from some place on. A name that is chosen is taken for the
later ones. -/
def chooseNames (letter : Char) (taken : List String) : Nat → List String → List String
  | _,     []               => []
  | place, declared :: rest =>
    let name := chooseName letter place declared taken
    name :: chooseNames letter (name :: taken) (place + 1) rest

end GoMocks.MockFile
