import GoMocks.GoType
import GoMocks.Identifier
import GoMocks.Path

/-!
# Interfaces

An interface declaration with its full method set, and the rule that says whether it can be mocked:
it is exported, it is no type constraint, and other packages can implement every method of it.
-/

namespace GoMocks

/-- A type parameter of a generic declaration. -/
structure TypeParam where
  name       : String
  constraint : GoType
  deriving Inhabited, DecidableEq

/-- A method of an interface's method set. -/
structure Method where
  name      : String
  signature : Signature
  deriving Inhabited, DecidableEq

/-- Can other packages call the method? -/
def Method.isExported (m : Method) : Bool :=
  GoMocks.isExported m.name

/-- An interface type declaration. -/
structure Interface where
  name        : String
  /-- The source file that declares it. -/
  file        : Path
  /-- The line of the declaration, counted from 1. -/
  line        : Nat
  exported    : Bool
  typeParams  : List TypeParam
  /-- The declared and the promoted methods, sorted by name. -/
  methods     : List Method
  /-- Does it carry a type set, so that no value has it as its type? -/
  isConstraint : Bool
  deriving Inhabited, DecidableEq

/-- The outcome of the rule for one interface. -/
inductive Eligibility
  | eligible
  | unexported
  | constraint
  | noExportedMethods
  /-- Some methods are exported, and those named here are not. -/
  | unexportedMethods (names : List String)
  deriving DecidableEq, Repr, Inhabited

namespace Eligibility

/-- Can the interface be mocked? -/
def isEligible (e : Eligibility) : Bool :=
  e == .eligible

/-- Why an interface can be mocked, or why it cannot. -/
def message : Eligibility → String
  | eligible                => "eligible"
  | unexported              => "interface is not exported"
  | constraint              => "interface is a type constraint"
  | noExportedMethods       => "interface has no exported methods"
  | unexportedMethods names => "interface has unexported methods: " ++ ", ".intercalate names

end Eligibility

/-- Exported, no constraint, and at least one exported method and no other one. The first
condition that fails is the reason. -/
def Interface.eligibility (i : Interface) : Eligibility :=
  if !i.exported then .unexported
  else if i.isConstraint then .constraint
  else if !i.methods.any Method.isExported then .noExportedMethods
  else
    match (i.methods.filter fun m => !m.isExported).map Method.name with
    | []    => .eligible
    | names => .unexportedMethods names

end GoMocks
