import GoMocks.GoSource.Types

/-!
# Go source — expressions

The rules for expressions. Nothing is kept of an expression but its shape: only types are modelled,
and expressions matter as far as a source is well formed. Precedence plays no part in that, so an
expression is a row of operands with operators between them.
-/

namespace GoMocks.GoSource.Grammar

open GoSource.Parser

/-- The signs that stand in front of an operand. -/
def unarySigns : List String :=
  ["+", "-", "!", "^", "*", "&", "<-"]

/-- The signs that stand between two operands. -/
def binarySigns : List String :=
  ["*", "/", "%", "<<", ">>", "&", "&^", "+", "-", "|", "^", "==", "!=", "<", "<=", ">", ">=",
    "&&", "||"]

/-- One of some signs. -/
def signOf (signs : List String) : Parser String := do
  return (← token fun t => t.kind == .sign && signs.contains t.text).text

/-! ### Operands -/

/-- An argument; three dots may follow it. -/
def argument (g : Grammar) : Parser Unit := do
  discard <| g.value .inner
  discard <| optional (sign "...")

/-- The first argument of `new` and `make` may be a type. -/
def typeArgument (g : Grammar) : Parser Unit :=
  (do discard <| g.type false
      atEntryEnd) <|> argument g

/-- Arguments between parentheses. -/
def arguments (g : Grammar) (first : Parser Unit) : Parser Unit := do
  sign "("
  discard <| optional do
    first
    discard <| many (sign "," *> argument g)
    optional (sign ",")
  sign ")"

/-- The operand of a conversion between parentheses. -/
def conversion (g : Grammar) : Parser Unit := do
  sign "("
  discard <| g.value .inner
  discard <| optional (sign ",")
  sign ")"

/-- An index, or the bounds of a slice. -/
def indexOrSlice (g : Grammar) : Parser Unit := do
  sign "["
  let low ← optional (g.value .inner)
  if ← atSign ":" then
    sign ":"
    let high ← optional (g.value .inner)
    if high.isSome && (← atSign ":") then
      sign ":"
      discard <| g.value .inner
  else if low.isNone then failure
  sign "]"

/-- Brackets behind an operand; a name with type arguments is again perhaps a type. -/
def brackets (g : Grammar) (shape : Shape) : Parser Shape :=
  (do discard <| typeArguments g
      return if shape == .name || shape == .qualified then .generic else .value) <|>
  (do indexOrSlice g
      return .value)

/-- What a dot leads to: a field, a method, or an asserted type. -/
def selection (g : Grammar) (shape : Shape) : Parser Shape := do
  sign "."
  if ← atSign "(" then
    sign "("
    discard <| g.type false
    sign ")"
    return .value
  else
    discard name
    return if shape == .name then .qualified else .value

/-- May a literal body follow? -/
def takesLiteral (mode : Mode) : Shape → Bool
  | .value                       => false
  | .name | .qualified | .generic => mode.literals
  | .bareType literal            => literal

/-- One step behind an operand, chosen by the next token. -/
def suffix (g : Grammar) (mode : Mode) (shape : Shape) (first : Parser Unit) : Parser Shape := do
  let t ← peek
  if t.kind != .sign then failure
  match t.text, shape with
  | "\x7b", _ =>
    if takesLiteral mode shape then
      g.literal
      return .value
    else failure
  | "(", .bareType _ => conversion g *> return .value
  | _, .bareType _   => failure
  | "(", _           => arguments g first *> return .value
  | "[", _           => brackets g shape
  | ".", _           => selection g shape
  | _, _             => failure

/-- All steps behind an operand, at most some number of them. Braces and brackets that open
something have to be closed; only a dot before the word `type` is left to the statement around. -/
def suffixes (g : Grammar) (mode : Mode) (first : Parser Unit) : Nat → Shape → Parser Shape
  | 0,     shape => return shape
  | n + 1, shape => do
    match ← optional (unlessEnded mode.nl (suffix g mode shape first)) with
    | some next => suffixes g mode (argument g) n next
    | none      => return shape

/-- A type where an expression may stand. -/
def typeOperand (g : Grammar) : Parser Shape := do
  let literal := (← atSign "[") || (← atKeyword "map") || (← atKeyword "struct")
  discard <| g.type false
  return .bareType literal

/-- An array type with as many elements as its literal body has. -/
def countedArray (g : Grammar) : Parser Shape := do
  sign "["
  sign "..."
  sign "]"
  discard <| g.type false
  unless ← atSign "\x7b" do failure
  return .bareType true

/-- A function type, or with a body a function. -/
def functionOperand (g : Grammar) : Parser Shape := do
  keyword "func"
  discard <| signature g false
  if ← atSign "\x7b" then
    g.block
    return .value
  else return .bareType false

/-- Something between parentheses; a type stays one. -/
def parenthesized (g : Grammar) : Parser Shape := do
  sign "("
  let shape ← g.expr .inner
  sign ")"
  match shape with
  | .bareType _ => return .bareType false
  | _           => return .value

/-- An operand without what follows it. -/
def operand (g : Grammar) : Parser Shape := do
  let t ← peek
  match t.kind, t.text with
  | .name, _ => name *> return .name
  | .integer, _ | .number, _ | .rune, _ | .string, _ => token (fun _ => true) *> return .value
  | .sign, "(" => parenthesized g
  | .sign, "[" => countedArray g <|> typeOperand g
  | .keyword, "func" => functionOperand g
  | .keyword, _ => typeOperand g
  | _, _ => failure

/-- An operand with all that follows it. -/
def primary (g : Grammar) (mode : Mode) : Parser Shape := do
  let t ← peek
  let first := if t.text == "new" || t.text == "make" then typeArgument g else argument g
  let shape ← operand g
  fun ts => suffixes g mode first ts.length shape ts

/-- An operand behind its unary operators. A star or an arrow before a type makes a type. -/
def unary (g : Grammar) (mode : Mode) : Parser Shape := do
  let signs ← many (signOf unarySigns)
  match ← primary g mode with
  | .bareType literal =>
    if signs.isEmpty then return .bareType literal
    else if signs.all fun s => s == "*" || s == "<-" then return .bareType false
    else failure
  | shape => return if signs.isEmpty then shape else .value

/-- Operands with operators between them. A type cannot be one of several. -/
def exprStep (g : Grammar) (mode : Mode) : Parser Shape := do
  let first ← unary g mode
  let more ← many do
    discard <| unlessEnded mode.nl (signOf binarySigns)
    unary g mode
  if more.isEmpty then return first
  else if (first :: more).any (· matches .bareType _) then failure
  else return .value

/-! ### Literal bodies -/

/-- An element of a literal, or the key of one. -/
def element (g : Grammar) : Parser Unit := do
  if ← atSign "\x7b" then g.literal else discard <| g.value .inner

/-- An element, perhaps behind its key. -/
def keyedElement (g : Grammar) : Parser Unit := do
  element g
  if ← atSign ":" then
    sign ":"
    element g

/-- The body of a literal. -/
def literalStep (g : Grammar) : Parser Unit := do
  sign "\x7b"
  discard <| optional (commaList (keyedElement g))
  discard <| optional (sign ",")
  sign "\x7d"

/-- One or more expressions, separated by commas: how many there are. -/
def expressions (g : Grammar) (mode : Mode) : Parser Nat := do
  discard <| g.value mode
  let more ← many (unlessEnded mode.nl (sign ",") *> g.value mode)
  return more.length + 1

end GoMocks.GoSource.Grammar
