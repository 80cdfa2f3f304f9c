import GoMocks.GoType

/-!
# Go source — type expressions

Types as a source writes them, before their names are looked up, and the declarations of a file.
-/

namespace GoMocks.GoSource

/-- The length of an array: an integer, a name, a name of an import, or any other expression. -/
inductive LengthExpr
  | literal   (text : String)
  | name      (name : String)
  | qualified (package name : String)
  | other     (text : String)
  deriving DecidableEq, Repr, Inhabited

mutual

/-- A type, as it is written. -/
inductive TypeExpr where
  | name      (name : String)
  | qualified (package name : String)
  | generic   (base : TypeExpr) (arguments : List TypeExpr)
  | pointer   (elem : TypeExpr)
  | slice     (elem : TypeExpr)
  | array     (length : LengthExpr) (elem : TypeExpr)
  | map       (key value : TypeExpr)
  | channel   (direction : ChannelDirection) (elem : TypeExpr)
  | function  (signature : FunctionExpr)
  | struct    (fields : List FieldExpr)
  | interface (elems : List InterfaceElem)
  | union     (terms : List UnionTerm)

/-- Parameters and results, as they are written. -/
structure FunctionExpr where
  params  : List ParamExpr
  results : List ParamExpr

/-- Parameters that share a type: `a, b int`, `int` or `rest ...string`. -/
structure ParamExpr where
  names    : List String
  type     : TypeExpr
  variadic : Bool

/-- Fields that share a type and a tag; an embedded field has no name. -/
structure FieldExpr where
  names : List String
  type  : TypeExpr
  tag   : Option String

/-- A method of an interface type, or an embedded type or type set. -/
inductive InterfaceElem where
  | method (name : String) (signature : FunctionExpr)
  | embed  (terms : List UnionTerm)

/-- A term of a type set, as it is written. -/
structure UnionTerm where
  tilde : Bool
  type  : TypeExpr

end

instance : Inhabited TypeExpr := ⟨.name ""⟩

/-- The type that some terms write together: a single one without a tilde is a plain type. -/
def TypeExpr.ofTerms : List UnionTerm → TypeExpr
  | [⟨false, t⟩] => t
  | terms        => .union terms

/-- A type parameter with its constraint. -/
structure TypeParamSpec where
  name       : String
  constraint : TypeExpr

/-- A type declaration. -/
structure TypeSpec where
  name       : String
  typeParams : List TypeParamSpec
  type       : TypeExpr
  /-- The line the name stands on. -/
  line       : Nat

/-- An import declaration. Its name, if it has one, may be `.` or `_`. -/
structure ImportSpec where
  name : Option String
  path : String
  deriving DecidableEq, Repr, Inhabited

end GoMocks.GoSource
