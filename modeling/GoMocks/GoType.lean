/-!
# Go types

The types a Go program writes: basic types, references to declared types, type parameters and the
eight type constructors, together with the type sets of constraints.

* `GoType`, and beside it the parts it is built from: `Value` (a parameter or result), `Signature`,
  `Field`, `MethodSpec` and `Term`.
* `GoType.same_iff`: two types are the same exactly when they are equal, so equality of types is
  decidable. The names of parameters and results count.
-/

namespace GoMocks

/-- The basic types. `byte` and `uint8` are kept apart, and so are `rune` and `int32`. -/
inductive BasicKind
  | bool | string
  | int | int8 | int16 | int32 | int64
  | uint | uint8 | uint16 | uint32 | uint64 | uintptr
  | float32 | float64 | complex64 | complex128
  | byte | rune
  | unsafePointer
  deriving DecidableEq, Repr, Inhabited

namespace BasicKind

/-- The name of the type inside the package that declares it. -/
def name : BasicKind → String
  | bool          => "bool"
  | string        => "string"
  | int           => "int"
  | int8          => "int8"
  | int16         => "int16"
  | int32         => "int32"
  | int64         => "int64"
  | uint          => "uint"
  | uint8         => "uint8"
  | uint16        => "uint16"
  | uint32        => "uint32"
  | uint64        => "uint64"
  | uintptr       => "uintptr"
  | float32       => "float32"
  | float64       => "float64"
  | complex64     => "complex64"
  | complex128    => "complex128"
  | byte          => "byte"
  | rune          => "rune"
  | unsafePointer => "Pointer"

/-- The basic types every file sees without an import. -/
def predeclared : List BasicKind :=
  [bool, string, int, int8, int16, int32, int64, uint, uint8, uint16, uint32, uint64, uintptr,
    float32, float64, complex64, complex128, byte, rune]

/-- The predeclared basic type of a name. -/
def ofName? (s : String) : Option BasicKind :=
  predeclared.find? (·.name == s)

/-- Is it one of the complex numbers? -/
def isComplex (k : BasicKind) : Bool :=
  k == complex64 || k == complex128

end BasicKind

/-- The direction of a channel type. -/
inductive ChannelDirection
  | both | send | receive
  deriving DecidableEq, Repr, Inhabited

/-- The length of an array type: a literal, or a constant of some package. -/
inductive ArrayLength
  | literal (text : String)
  | constant (package name : String)
  deriving DecidableEq, Repr, Inhabited

mutual

/-- A Go type. A named type without a package is predeclared. -/
inductive GoType where
  | basic     (kind : BasicKind)
  | named     (name : NamedType)
  | parameter (name : String)
  | pointer   (elem : GoType)
  | slice     (elem : GoType)
  | array     (length : ArrayLength) (elem : GoType)
  | map       (key value : GoType)
  | channel   (direction : ChannelDirection) (elem : GoType)
  | function  (signature : Signature)
  | struct    (fields : List Field)
  | interface (methods : List MethodSpec) (embeds : List GoType)
  | union     (terms : List Term)

/-- A reference to a declared type: the import path of its package, its name and its type
arguments. -/
structure NamedType where
  package   : Option String
  name      : String
  arguments : List GoType

/-- A parameter or a result; its name is empty when it has none. -/
structure Value where
  name : String
  type : GoType

/-- A function signature. When it is variadic the type of the last parameter is the element type
of `...T`. -/
structure Signature where
  params   : List Value
  results  : List Value
  variadic : Bool

/-- A struct field; an embedded field has no name. -/
structure Field where
  name : Option String
  type : GoType
  tag  : Option String

/-- A method written in an interface type. -/
structure MethodSpec where
  name      : String
  signature : Signature

/-- A term of a type set: `T`, or `~T` when it has a tilde. -/
structure Term where
  tilde : Bool
  type  : GoType

end

instance : Inhabited GoType := ⟨.basic .bool⟩
instance : Inhabited NamedType := ⟨none, "", []⟩
instance : Inhabited Signature := ⟨[], [], false⟩

/-! ### Equality -/

mutual

/-- Are two types written with the same constructors, names and tags throughout? -/
def GoType.same : GoType → GoType → Bool
  | .basic k,        .basic l        => k == l
  | .named m,        .named n        => m.same n
  | .parameter a,    .parameter b    => a == b
  | .pointer s,      .pointer t      => s.same t
  | .slice s,        .slice t        => s.same t
  | .array m s,      .array n t      => m == n && s.same t
  | .map k v,        .map l w        => k.same l && v.same w
  | .channel d s,    .channel e t    => d == e && s.same t
  | .function s,     .function t     => s.same t
  | .struct fs,      .struct gs      => sameFields fs gs
  | .interface ms s, .interface ns t => sameMethods ms ns && sameTypes s t
  | .union s,        .union t        => sameTerms s t
  | _,               _               => false

/-- Are two lists of types the same, type by type? -/
def sameTypes : List GoType → List GoType → Bool
  | [],      []      => true
  | s :: ss, t :: ts => s.same t && sameTypes ss ts
  | _,       _       => false

/-- Are the declared types the same, with the same arguments? -/
def NamedType.same : NamedType → NamedType → Bool
  | ⟨p, m, ss⟩, ⟨q, n, ts⟩ => p == q && m == n && sameTypes ss ts

/-- Are the parameters, the results and the dots the same? -/
def Signature.same : Signature → Signature → Bool
  | ⟨ps, rs, v⟩, ⟨qs, ss, w⟩ => sameValues ps qs && sameValues rs ss && v == w

/-- Are two lists of values the same, their names included? -/
def sameValues : List Value → List Value → Bool
  | [],           []           => true
  | ⟨m, s⟩ :: vs, ⟨n, t⟩ :: ws => m == n && s.same t && sameValues vs ws
  | _,            _            => false

/-- Are two lists of fields the same, their tags included? -/
def sameFields : List Field → List Field → Bool
  | [],              []              => true
  | ⟨m, s, a⟩ :: fs, ⟨n, t, b⟩ :: gs => m == n && s.same t && a == b && sameFields fs gs
  | _,               _               => false

/-- Are two lists of methods the same, in the same order? -/
def sameMethods : List MethodSpec → List MethodSpec → Bool
  | [],           []           => true
  | ⟨m, s⟩ :: ms, ⟨n, t⟩ :: ns => m == n && s.same t && sameMethods ms ns
  | _,            _            => false

/-- Are two lists of terms the same, in the same order? -/
def sameTerms : List Term → List Term → Bool
  | [],           []           => true
  | ⟨a, s⟩ :: ss, ⟨b, t⟩ :: ts => a == b && s.same t && sameTerms ss ts
  | _,            _            => false

end

mutual

/-- The test on types is equality. -/
theorem GoType.same_iff : (s t : GoType) → (s.same t = true ↔ s = t)
  | .basic k,        t => by cases t <;> simp [GoType.same]
  | .named n,        t => by cases t <;> simp [GoType.same, n.same_iff]
  | .parameter a,    t => by cases t <;> simp [GoType.same]
  | .pointer s,      t => by cases t <;> simp [GoType.same, s.same_iff]
  | .slice s,        t => by cases t <;> simp [GoType.same, s.same_iff]
  | .array n s,      t => by cases t <;> simp [GoType.same, s.same_iff]
  | .map k v,        t => by cases t <;> simp [GoType.same, k.same_iff, v.same_iff]
  | .channel d s,    t => by cases t <;> simp [GoType.same, s.same_iff]
  | .function s,     t => by cases t <;> simp [GoType.same, s.same_iff]
  | .struct fs,      t => by cases t <;> simp [GoType.same, sameFields_iff fs]
  | .interface ms s, t => by cases t <;> simp [GoType.same, sameMethods_iff ms, sameTypes_iff s]
  | .union ts,       t => by cases t <;> simp [GoType.same, sameTerms_iff ts]

theorem sameTypes_iff : (ss ts : List GoType) → (sameTypes ss ts = true ↔ ss = ts)
  | [],      ts => by cases ts <;> simp [sameTypes]
  | s :: ss, ts => by cases ts <;> simp [sameTypes, s.same_iff, sameTypes_iff ss]

/-- The test on named types is equality. -/
theorem NamedType.same_iff : (m n : NamedType) → (m.same n = true ↔ m = n)
  | ⟨p, m, ss⟩, ⟨q, n, ts⟩ => by simp [NamedType.same, sameTypes_iff ss, and_assoc]

/-- The test on signatures is equality. -/
theorem Signature.same_iff : (s t : Signature) → (s.same t = true ↔ s = t)
  | ⟨ps, rs, v⟩, ⟨qs, ss, w⟩ => by
    simp [Signature.same, sameValues_iff ps, sameValues_iff rs, and_assoc]

theorem sameValues_iff : (vs ws : List Value) → (sameValues vs ws = true ↔ vs = ws)
  | [],           ws           => by cases ws <;> simp [sameValues]
  | ⟨m, s⟩ :: vs, []           => by simp [sameValues]
  | ⟨m, s⟩ :: vs, ⟨n, t⟩ :: ws => by simp [sameValues, s.same_iff, sameValues_iff vs]

theorem sameFields_iff : (fs gs : List Field) → (sameFields fs gs = true ↔ fs = gs)
  | [],              gs              => by cases gs <;> simp [sameFields]
  | ⟨m, s, a⟩ :: fs, []              => by simp [sameFields]
  | ⟨m, s, a⟩ :: fs, ⟨n, t, b⟩ :: gs => by
    simp [sameFields, s.same_iff, sameFields_iff fs, and_assoc]

theorem sameMethods_iff : (ms ns : List MethodSpec) → (sameMethods ms ns = true ↔ ms = ns)
  | [],           ns           => by cases ns <;> simp [sameMethods]
  | ⟨m, s⟩ :: ms, []           => by simp [sameMethods]
  | ⟨m, s⟩ :: ms, ⟨n, t⟩ :: ns => by simp [sameMethods, s.same_iff, sameMethods_iff ms]

theorem sameTerms_iff : (ss ts : List Term) → (sameTerms ss ts = true ↔ ss = ts)
  | [],           ts           => by cases ts <;> simp [sameTerms]
  | ⟨a, s⟩ :: ss, []           => by simp [sameTerms]
  | ⟨a, s⟩ :: ss, ⟨b, t⟩ :: ts => by simp [sameTerms, s.same_iff, sameTerms_iff ss]

end

instance : DecidableEq GoType := fun s t => decidable_of_iff _ (s.same_iff t)
instance : DecidableEq Signature := fun s t => decidable_of_iff _ (s.same_iff t)
instance : DecidableEq NamedType := fun m n => decidable_of_iff _ (m.same_iff n)

end GoMocks
