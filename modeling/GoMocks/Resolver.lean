import GoMocks.Error
import GoMocks.GoType.Predeclared
import GoMocks.GoType.Text
import GoMocks.Identifier
import GoMocks.ImportTable

/-!
# Resolving types for a file

A resolver writes types as the Go source of one file, with every package under the identifier the
file knows it by, and it writes the literal of their zero values. Packages that a type needs are
entered into the import table on the way. Texts that were written once are kept and given again.

* `Symbols`: what is known about packages and declared types; answers may change its state.
* `Resolver.name`, `Resolver.zero`: the text of a type and of its zero value.
* `Resolver.importPackage`: the import of a package.
-/

namespace GoMocks

/-- Knowledge about packages and declared types. Each question is asked in a state, which the
answer may change, as when a package is read for the first time. -/
structure Symbols (σ : Type) where
  /-- The declared name of a package. -/
  packageName : String → σ → String × σ
  /-- The type a declared type is defined as, type arguments applied. -/
  underlying  : NamedType → σ → Except Error GoType × σ

/-- The import table of the file, the texts written so far, and the state of the knowledge. -/
structure Resolver (σ : Type) where
  imports : ImportTable
  names   : List (GoType × String) := []
  zeros   : List (GoType × String) := []
  state   : σ

/-- A computation that may enter imports and may fail; what was entered before a failure stays. -/
abbrev ResolverM (σ : Type) := ExceptT Error (StateM (Resolver σ))

namespace Resolver

variable {σ : Type}

/-- A resolver for a file of a module, with an empty import table. -/
def ofModule (module : String) (state : σ) : Resolver σ where
  imports := ⟨module, []⟩
  state

/-- Enters the import of a package under its declared name. -/
def importPackage (symbols : Symbols σ) (path : String) : ResolverM σ Import := do
  let resolver ← get
  let (name, state) := symbols.packageName path resolver.state
  let (entry, imports) := resolver.imports.add ⟨path, name, none⟩
  set { resolver with imports, state }
  return entry

/-- The type a declared type is defined as. -/
def underlying (symbols : Symbols σ) (named : NamedType) : ResolverM σ GoType := do
  let resolver ← get
  let (answer, state) := symbols.underlying named resolver.state
  set { resolver with state }
  answer

/-- A name of a package, behind the identifier of the package. -/
def qualified (symbols : Symbols σ) (package name : String) : ResolverM σ String := do
  return (← importPackage symbols package).ident ++ "." ++ name

/-- The text of a type that was written before, or else the text written now. -/
def rememberedName (t : GoType) (write : ResolverM σ String) : ResolverM σ String := do
  match (← get).names.lookup t with
  | some text => return text
  | none =>
    let text ← write
    modify fun r => { r with names := (t, text) :: r.names }
    return text

/-- The zero value of a type that was written before, or else the one written now. -/
def rememberedZero (t : GoType) (write : ResolverM σ String) : ResolverM σ String := do
  match (← get).zeros.lookup t with
  | some text => return text
  | none =>
    let text ← write
    modify fun r => { r with zeros := (t, text) :: r.zeros }
    return text

/-- The length of an array type; a constant has to be exported. -/
def lengthText (symbols : Symbols σ) (length : ArrayLength) (elem : GoType) : ResolverM σ String :=
  match length with
  | .literal text => return text
  | .constant package name =>
    if isExported name then qualified symbols package name
    else throw (.unsupportedType (GoType.array length elem).text (.unexportedLength name))

/-- The name of a declared type without its arguments; it has to be exported, unless it is
predeclared. -/
def namedBase (symbols : Symbols σ) (named : NamedType) : ResolverM σ String :=
  match named.package with
  | none => return named.name
  | some package =>
    if isExported named.name then qualified symbols package named.name
    else throw (.unsupportedType named.text (.unexportedType named.name))

/-- Parentheses keep the arrow of a receiving channel away from the `chan` before it. -/
def channelText (direction : ChannelDirection) (elem : GoType) (text : String) : String :=
  match direction, elem with
  | .both,    .channel .receive _ => "chan (" ++ text ++ ")"
  | .both,    _                   => "chan " ++ text
  | .send,    _                   => "chan<- " ++ text
  | .receive, _                   => "<-chan " ++ text

/-- A signature without names, from the texts of its types. -/
def typesSignature (params results : List String) (variadic : Bool) : String :=
  "(" ++ ", ".intercalate (if variadic then markVariadic params else params) ++ ")" ++
    match results with
    | []       => ""
    | [single] => " " ++ single
    | _        => " (" ++ ", ".intercalate results ++ ")"

/-- A list of members between braces; without members the braces close at once. -/
def braced (keyword : String) (members : List String) : String :=
  if members.isEmpty then keyword ++ "\x7b\x7d"
  else keyword ++ "\x7b " ++ "; ".intercalate members ++ " \x7d"

/-- A struct field, from the text of its type. -/
def fieldText (name : Option String) (type : String) (tag : Option String) : String :=
  (match name with | some name => name ++ " " ++ type | none => type) ++
    (match tag with | some tag => " " ++ tag | none => "")

/-- A term of a type set, from the text of its type. -/
def termText (tilde : Bool) (type : String) : String :=
  (if tilde then "~" else "") ++ type

mutual

/-- Writes a type, from the remembered texts of its parts. -/
def write (symbols : Symbols σ) : GoType → ResolverM σ String
  | .basic .unsafePointer => qualified symbols "unsafe" "Pointer"
  | .basic kind           => return kind.name
  | .named n              => writeNamed symbols n
  | .parameter name       => return name
  | .pointer elem         => return "*" ++ (← rememberedName elem (write symbols elem))
  | .slice elem           => return "[]" ++ (← rememberedName elem (write symbols elem))
  | .array length elem    => do
    let length ← lengthText symbols length elem
    let elem ← rememberedName elem (write symbols elem)
    return "[" ++ length ++ "]" ++ elem
  | .map key value        => do
    let key ← rememberedName key (write symbols key)
    let value ← rememberedName value (write symbols value)
    return "map[" ++ key ++ "]" ++ value
  | .channel direction elem => do
    let text ← rememberedName elem (write symbols elem)
    return channelText direction elem text
  | .function signature   => return "func" ++ (← writeSignature symbols signature)
  | .struct fields        => return braced "struct" (← writeFields symbols fields)
  | .interface methods embeds => do
    let methods ← writeMethods symbols methods
    let embeds ← writeTypes symbols embeds
    return braced "interface" (methods ++ embeds)
  | .union terms          => return " | ".intercalate (← writeTerms symbols terms)

/-- The texts of some types. -/
def writeTypes (symbols : Symbols σ) : List GoType → ResolverM σ (List String)
  | []      => return []
  | t :: ts => do
    let text ← rememberedName t (write symbols t)
    return text :: (← writeTypes symbols ts)

/-- The text of a declared type with its arguments. -/
def writeNamed (symbols : Symbols σ) : NamedType → ResolverM σ String
  | ⟨package, name, arguments⟩ => do
    let base ← namedBase symbols ⟨package, name, arguments⟩
    return base ++ bracketed (← writeTypes symbols arguments)

/-- The text of parameters and results. -/
def writeSignature (symbols : Symbols σ) : Signature → ResolverM σ String
  | ⟨params, results, variadic⟩ => do
    let params ← writeValues symbols params
    let results ← writeValues symbols results
    return typesSignature params results variadic

/-- The texts of the types of values. -/
def writeValues (symbols : Symbols σ) : List Value → ResolverM σ (List String)
  | []             => return []
  | ⟨_, t⟩ :: rest => do
    let text ← rememberedName t (write symbols t)
    return text :: (← writeValues symbols rest)

/-- The texts of fields, with their names and tags. -/
def writeFields (symbols : Symbols σ) : List Field → ResolverM σ (List String)
  | []                     => return []
  | ⟨name, t, tag⟩ :: rest => do
    let text ← rememberedName t (write symbols t)
    return fieldText name text tag :: (← writeFields symbols rest)

/-- The texts of methods, each behind its name. -/
def writeMethods (symbols : Symbols σ) : List MethodSpec → ResolverM σ (List String)
  | []                => return []
  | ⟨name, s⟩ :: rest => do
    let text ← writeSignature symbols s
    return (name ++ text) :: (← writeMethods symbols rest)

/-- The texts of terms, each behind its tilde. -/
def writeTerms (symbols : Symbols σ) : List Term → ResolverM σ (List String)
  | []                 => return []
  | ⟨tilde, t⟩ :: rest => do
    let text ← rememberedName t (write symbols t)
    return termText tilde text :: (← writeTerms symbols rest)

end

/-- The text of a type. -/
def name (symbols : Symbols σ) (t : GoType) : ResolverM σ String :=
  rememberedName t (write symbols t)

/-! ### Zero values -/

/-- The zero literal of a basic type. -/
def basicZero (k : BasicKind) : String :=
  match k with
  | .bool          => "false"
  | .string        => "\"\""
  | .unsafePointer => "nil"
  | k              => if k.isComplex then "0+0i" else "0"

/-- The zero value of a type that is no reference to a declared one. -/
def writePlainZero (symbols : Symbols σ) (t : GoType) : ResolverM σ String :=
  match t with
  | .basic kind            => return basicZero kind
  | .parameter name        => return "*new(" ++ name ++ ")"
  | .array .. | .struct _  => return (← name symbols t) ++ "\x7b\x7d"
  | .union _               => throw (.unsupportedType t.text .typeSetWithoutZero)
  | .named _               => throw (.unresolvedType t.text .stillNamed)
  | .pointer _ | .slice _ | .map .. | .channel .. | .function _ | .interface .. => return "nil"

/-- The zero value of a type. Arrays and structs take the literal of the type itself, every other
declared type the zero value of what it is defined as. -/
def writeZero (symbols : Symbols σ) (t : GoType) : ResolverM σ String :=
  match t with
  | .named ⟨none, base, _⟩ =>
    if base ∈ predeclaredInterfaces then return "nil"
    else throw (.unresolvedType t.text .unknownPredeclared)
  | .named n => do
    match ← underlying symbols n with
    | .array .. | .struct _ => return (← name symbols t) ++ "\x7b\x7d"
    | .union _              => throw (.unsupportedType t.text .constraintWithoutZero)
    | .named _              => throw (.unresolvedType t.text .stillNamed)
    | u                     => rememberedZero u (writePlainZero symbols u)
  | t => writePlainZero symbols t

/-- The literal of a type's zero value. -/
def zero (symbols : Symbols σ) (t : GoType) : ResolverM σ String :=
  rememberedZero t (writeZero symbols t)

end Resolver

end GoMocks
