import GoMocks.GoSource.Grammar

/-!
# Go source — types

The rules for types: names with type arguments, the type constructors, parameter lists, struct
fields, interface elements and type parameters.
-/

namespace GoMocks.GoSource

open GoSource.Parser

/-- A list of parameters is first read as entries, each with what it could be on its own. -/
inductive ParamEntry
  /-- A single name: a type, unless a later entry makes it the name of a parameter. -/
  | bare (name : String)
  | named (name : String) (type : TypeExpr)
  | unnamed (type : TypeExpr)
  | variadic (name : Option String) (type : TypeExpr)

namespace ParamEntry

/-- The number of names that may share a type. -/
def sharedNames : Nat := 9

/-- Names that are the types of parameters without a name. -/
def types (names : List String) : List ParamExpr :=
  names.map fun n => ⟨[], .name n, false⟩

/-- Names in front of a type. As many as may share it do, and those before them are types. -/
def share (names : List String) (type : TypeExpr) : List ParamExpr :=
  let others := names.length - sharedNames
  types (names.take others) ++ [⟨names.drop others, type, false⟩]

/-- The parameters some entries mean. Single names right before a named entry share its type. -/
def group (pending : List String) : List ParamEntry → List ParamExpr
  | []                    => types pending
  | .bare n :: rest       => group (pending ++ [n]) rest
  | .named n t :: rest    => share (pending ++ [n]) t ++ group [] rest
  | .unnamed t :: rest    => types pending ++ ⟨[], t, false⟩ :: group [] rest
  | .variadic n t :: rest => types pending ++ ⟨n.toList, t, true⟩ :: group [] rest

end ParamEntry

namespace Grammar

/-- The arrow of channel types. -/
def arrow : Parser Unit := sign "<-"

/-- A term of a type set. -/
def unionTerm (g : Grammar) (nl : Bool) : Parser UnionTerm := do
  if ← atSign "~" then
    sign "~"
    return ⟨true, ← g.type nl⟩
  else return ⟨false, ← g.type nl⟩

/-- Terms with bars between them. -/
def typeTerms (g : Grammar) (nl : Bool) : Parser (List UnionTerm) :=
  sepBy1 (unionTerm g nl) (unlessEnded nl (sign "|"))

/-- Type arguments between brackets. -/
def typeArguments (g : Grammar) : Parser (List TypeExpr) := do
  sign "["
  let arguments ← openCommaList (TypeExpr.ofTerms <$> typeTerms g false)
  sign "]"
  return arguments

/-- The name behind a dot. -/
def selected (nl : Bool) : Parser String :=
  unlessEnded nl (sign "." *> name)

/-- A name, perhaps of another package, perhaps with type arguments. -/
def typeName (g : Grammar) (nl : Bool) : Parser TypeExpr := do
  let first ← name
  let base ← match ← optional (selected nl) with
    | some second => pure (TypeExpr.qualified first second)
    | none        => pure (TypeExpr.name first)
  match ← optional (unlessEnded nl (typeArguments g)) with
  | some arguments => return .generic base arguments
  | none           => return base

/-- The length some tokens write. -/
def lengthOf (tokens : List Token) : LengthExpr :=
  let literalNames := ["nil", "true", "false", "iota"]
  match tokens with
  | [t] =>
    if t.kind == .integer then .literal t.text
    else if t.kind == .name && !literalNames.contains t.text then .name t.text
    else .other t.text
  | [a, dot, b] =>
    if a.kind == .name && dot.text == "." && b.kind == .name && !literalNames.contains a.text then
      .qualified a.text b.text
    else .other (Token.spanText tokens)
  | _ => .other (Token.spanText tokens)

/-- A slice or an array type. -/
def bracketType (g : Grammar) (nl : Bool) : Parser TypeExpr := do
  sign "["
  if ← atSign "]" then
    sign "]"
    return .slice (← g.type nl)
  else
    let (_, tokens) ← spanned (g.value .inner)
    sign "]"
    return .array (lengthOf tokens) (← g.type nl)

/-- Wraps a type into channel types of one direction. -/
def channels (direction : ChannelDirection) : Nat → TypeExpr → TypeExpr
  | 0,     t => t
  | n + 1, t => .channel direction (channels direction n t)

/-- A channel type that begins with `chan`. An arrow binds to a `chan` behind it, so a sending
channel of channels needs parentheses. -/
def channelType (g : Grammar) (nl : Bool) : Parser TypeExpr := do
  keyword "chan"
  let taken ← many (arrow *> keyword "chan")
  if ← atSign "<-" then
    arrow
    return channels .send (taken.length + 1) (← g.type nl)
  else return .channel .both (channels .receive taken.length (← g.type nl))

/-- A channel type that begins with an arrow. -/
def receiveType (g : Grammar) (nl : Bool) : Parser TypeExpr := do
  arrow
  keyword "chan"
  return .channel .receive (← g.type nl)

/-! ### Functions -/

/-- A type behind dots, perhaps with a name in front. -/
def variadicParam (g : Grammar) : Parser ParamEntry := do
  let n ← optional name
  sign "..."
  return .variadic n (← g.type false)

/-- Is the list or the entry at its end? -/
def atEntryEnd : Parser Unit := do
  unless (← atSign ",") || (← atSign ")") do failure

/-- A name by itself. -/
def bareParam : Parser ParamEntry := do
  let n ← name
  atEntryEnd
  return .bare n

/-- A name with a type behind it. -/
def namedParam (g : Grammar) : Parser ParamEntry := do
  let n ← name
  let t ← g.type false
  atEntryEnd
  return .named n t

/-- A parameter, as far as it is known without its neighbours. -/
def paramEntry (g : Grammar) : Parser ParamEntry :=
  variadicParam g <|> bareParam <|> namedParam g <|> .unnamed <$> g.type false

/-- Parameters between parentheses. -/
def paramList (g : Grammar) : Parser (List ParamExpr) := do
  sign "("
  let entries ← optional (commaList (paramEntry g))
  discard <| optional (sign ",")
  sign ")"
  return ParamEntry.group [] (entries.getD [])

/-- Results: a parameter list, or one type that does not begin with a parenthesis. -/
def results (g : Grammar) (nl : Bool) : Parser (List ParamExpr) := do
  if ← atSign "(" then paramList g
  else return [⟨[], ← g.type nl, false⟩]

/-- Parameters and results. -/
def signature (g : Grammar) (nl : Bool) : Parser FunctionExpr := do
  let params ← paramList g
  let found ← optional (unlessEnded nl (results g nl))
  return ⟨params, found.getD []⟩

/-! ### Structs and interfaces -/

/-- A member is at its end before a terminator or the closing brace. -/
def atMemberEnd : Parser Unit := do
  let t ← peek
  unless t.newline || (t.kind == .sign && [";", "\x00", "\x7d"].contains t.text) do failure

/-- The tag of a field, if it has one. -/
def tag : Parser (Option String) :=
  optional (unlessEnded true stringLiteral)

/-- A type, or a pointer to one, in the place of a field. -/
def embeddedField (g : Grammar) : Parser FieldExpr := do
  let star ← optional (sign "*")
  let t ← typeName g true
  let tag ← tag
  atMemberEnd
  return ⟨[], if star.isSome then .pointer t else t, tag⟩

/-- Names of fields with the type and the tag that they share. -/
def namedField (g : Grammar) : Parser FieldExpr := do
  let first ← name
  let more ← many (unlessEnded true (sign ",") *> name)
  let t ← unlessEnded more.isEmpty (g.type true)
  return ⟨first :: more, t, ← tag⟩

/-- A struct with its fields. -/
def structType (g : Grammar) : Parser TypeExpr := do
  keyword "struct"
  return .struct (← members "\x7b" "\x7d" (embeddedField g <|> namedField g))

/-- The name of a method with its signature. -/
def methodElem (g : Grammar) : Parser InterfaceElem := do
  let n ← name
  unless ← atSign "(" do failure
  return .method n (← unlessEnded true (signature g true))

/-- An interface with its methods and embedded types. -/
def interfaceType (g : Grammar) : Parser TypeExpr := do
  keyword "interface"
  let elem := methodElem g <|> .embed <$> typeTerms g true
  return .interface (← members "\x7b" "\x7d" elem)

/-! ### All types -/

/-- A map from one type to another. -/
def mapType (g : Grammar) (nl : Bool) : Parser TypeExpr := do
  keyword "map"
  sign "["
  let key ← g.type false
  sign "]"
  return .map key (← g.type nl)

/-- A type, chosen by its first token. -/
def typeStep (g : Grammar) (nl : Bool) : Parser TypeExpr := do
  let t ← peek
  match t.kind, t.text with
  | .name, _ => typeName g nl
  | .sign, "*" => sign "*" *> .pointer <$> g.type nl
  | .sign, "(" => sign "(" *> g.type false <* sign ")"
  | .sign, "[" => bracketType g nl
  | .sign, "<-" => receiveType g nl
  | .sign, "~" => do return .union [← unionTerm g nl]
  | .keyword, "struct" => structType g
  | .keyword, "interface" => interfaceType g
  | .keyword, "map" => mapType g nl
  | .keyword, "chan" => channelType g nl
  | .keyword, "func" => keyword "func" *> .function <$> signature g nl
  | _, _ => failure

/-- Type parameters between brackets. -/
def typeParams (g : Grammar) : Parser (List TypeParamSpec) := do
  sign "["
  let declared ← openCommaList do
    let names ← commaList name
    let constraint ← TypeExpr.ofTerms <$> typeTerms g false
    return names.map fun n => TypeParamSpec.mk n constraint
  sign "]"
  return declared.flatten

end Grammar

end GoMocks.GoSource
