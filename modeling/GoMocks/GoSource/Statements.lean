import GoMocks.GoSource.Expressions

/-!
# Go source — statements and declarations

The rules for statements, and for the declarations that may stand among them. Of a declaration the
types it declares are kept.
-/

namespace GoMocks.GoSource.Grammar

open GoSource.Parser

/-! ### Declarations -/

/-- What a declared name stands for, behind its type parameters. -/
def typeBody (g : Grammar) : Parser TypeExpr := do
  discard <| optional (sign "=")
  g.type true

/-- A type declaration without its keyword. Brackets behind the name are the length of an array
where they can be one, and type parameters otherwise. -/
def typeSpec (g : Grammar) : Parser TypeSpec := do
  let start ← peek
  let n ← name
  (do return ⟨n, [], ← typeBody g, start.line⟩) <|>
    (do return ⟨n, ← typeParams g, ← typeBody g, start.line⟩)

/-- One specification, or several between parentheses. -/
def specs {α : Type} (spec : Parser α) : Parser (List α) := do
  if ← atSign "(" then members "(" ")" spec else return [← spec]

/-- A declaration of types, alone or between parentheses. -/
def typeDeclaration (g : Grammar) : Parser (List TypeSpec) :=
  keyword "type" *> specs (typeSpec g)

/-- Names that are declared together. Where nothing has to follow them, a newline ends them. -/
def declaredNames (nl : Bool) : Parser Unit :=
  discard <| sepBy1 name (unlessEnded nl (sign ","))

/-- The values of declared names. -/
def initializer (g : Grammar) : Parser Unit :=
  sign "=" *> discard (expressions g .statement)

/-- Variables with a type, with values or with both. -/
def varSpec (g : Grammar) : Parser Unit := do
  declaredNames false
  if ← atSign "=" then initializer g
  else
    discard <| g.type true
    discard <| optional (unlessEnded true (initializer g))

/-- Constants, perhaps without a value and with or without a type. -/
def constSpec (g : Grammar) : Parser Unit := do
  declaredNames true
  discard <| optional <| unlessEnded true do
    if ← atSign "=" then initializer g
    else
      discard <| g.type true
      initializer g

/-- A declaration of variables or constants. -/
def valueDeclaration (g : Grammar) : Parser Unit :=
  (keyword "var" *> discard (specs (varSpec g))) <|>
    (keyword "const" *> discard (specs (constSpec g)))

/-! ### Simple statements -/

/-- What a simple statement turns out to be. -/
inductive SimpleKind
  | expression
  /-- One value is given to one name, so that its type may be switched on. -/
  | definition
  | other
  deriving DecidableEq, Repr, Inhabited

/-- The signs that assign a value to what stands before them. -/
def assignmentSigns : List String :=
  ["=", "+=", "-=", "|=", "^=", "*=", "/=", "%=", "<<=", ">>=", "&=", "&^="]

/-- What may follow the expressions that a simple statement begins with. The values go as far as a
mode of their own lets them. -/
def simpleTail (g : Grammar) (mode : Mode) (count : Nat) : Parser SimpleKind := do
  let t ← token (·.kind == .sign)
  if t.text == ":=" then
    let values ← expressions g mode
    return if values == 1 then .definition else .other
  else if assignmentSigns.contains t.text then
    discard <| expressions g mode
    return .other
  else if count != 1 then failure
  else if t.text == "++" || t.text == "--" then return .other
  else if t.text == "<-" then
    discard <| g.value mode
    return .other
  else failure

/-- An expression, a definition, an assignment, an increment or a send. -/
def simple (g : Grammar) (mode values : Mode) : Parser SimpleKind := do
  let count ← expressions g mode
  match ← optional (unlessEnded mode.nl (simpleTail g values count)) with
  | some kind => return kind
  | none      => if count == 1 then return .expression else failure

/-- A simple statement that no block can follow: behind a sign, a brace opens a literal. -/
def initial (g : Grammar) : Parser SimpleKind :=
  simple g .header .inner

/-! ### Statement lists -/

/-- A label without a statement, at the end of a list. -/
def emptyLabel : Parser Unit := do
  discard name
  unlessEnded true (sign ":")

/-- Statements with terminators between them; the last one may be a label alone. -/
def statements (g : Grammar) : Parser Unit :=
  (do discard <| sepBy1 g.statement terminator
      discard <| optional (terminator *> optional emptyLabel)) <|>
    discard (optional emptyLabel)

/-- Statements between braces. -/
def blockStep (g : Grammar) : Parser Unit :=
  sign "\x7b" *> statements g <* sign "\x7d"

/-! ### Statements with blocks -/

/-- A simple statement and a semicolon, if they stand before what follows. -/
def headerStart (g : Grammar) : Parser Unit :=
  discard <| optional (initial g *> sign ";")

/-- A condition with its block, and what is done otherwise. -/
def ifStatement (g : Grammar) : Parser Unit := do
  keyword "if"
  headerStart g
  discard <| g.value .header
  g.block
  discard <| optional <| unlessEnded true do
    keyword "else"
    if ← atKeyword "if" then g.statement else g.block

/-- The values that a loop ranges over, perhaps with names for them. -/
def rangeClause (g : Grammar) : Parser Unit := do
  discard <| optional (expressions g .header *> signOf ["=", ":="])
  keyword "range"
  discard <| g.value .header

/-- The three parts of a loop; any of them may be missing. -/
def forClause (g : Grammar) : Parser Unit := do
  discard <| optional (initial g)
  sign ";"
  discard <| optional (g.value .inner)
  sign ";"
  discard <| optional (simple g .header .header)

/-- A loop, with one of the headers of loops or with none. -/
def forStatement (g : Grammar) : Parser Unit := do
  keyword "for"
  (g.block) <|> (rangeClause g *> g.block) <|> (forClause g *> g.block) <|>
    (discard (g.value .header) *> g.block)

/-- The cases of a switch or a select, each with its statements. -/
def cases (g : Grammar) (label : Parser Unit) : Parser Unit := do
  sign "\x7b"
  discard <| many do
    (keyword "case" *> label) <|> keyword "default"
    sign ":"
    statements g
  sign "\x7d"

/-- The word `type` where the type of a value is switched on. -/
def typeGuard : Parser Unit := do
  sign "."
  sign "("
  keyword "type"
  sign ")"

/-- A switch on the type of a value. -/
def typeSwitch (g : Grammar) : Parser Unit := do
  headerStart g
  let kind ← initial g
  if kind == .other then failure
  typeGuard
  cases g (discard (commaList (g.type false)))

/-- A switch on a value, or on conditions. -/
def expressionSwitch (g : Grammar) : Parser Unit := do
  headerStart g
  discard <| optional (g.value .header)
  cases g (discard (expressions g .inner))

/-- A switch of one of the two kinds. -/
def switchStatement (g : Grammar) : Parser Unit := do
  keyword "switch"
  expressionSwitch g <|> typeSwitch g

/-- What a select waits for: a send, or a value that is received. -/
def communication (g : Grammar) : Parser Unit := do
  let count ← expressions g .inner
  if ← atSign "<-" then
    if count == 1 then sign "<-" *> discard (g.value .inner) else failure
  else if (← atSign "=") || (← atSign ":=") then
    discard <| signOf ["=", ":="]
    discard <| g.value .inner
  else unless count == 1 do failure

/-- A choice between communications. -/
def selectStatement (g : Grammar) : Parser Unit :=
  keyword "select" *> cases g (communication g)

/-! ### All statements -/

/-- A statement behind a label. -/
def labeled (g : Grammar) : Parser Unit :=
  emptyLabel *> g.statement

/-- A simple statement of its own. A name before a colon is none, but a label. -/
def simpleStatement (g : Grammar) : Parser Unit := do
  discard <| simple g .statement .statement
  if ← atSign ":" then failure

/-- A jump; a label may follow its keyword. -/
def jump (word : String) : Parser Unit := do
  keyword word
  discard <| optional (unlessEnded true name)

/-- A statement, chosen by its first token. -/
def statementStep (g : Grammar) : Parser Unit := do
  let t ← peek
  match t.kind, t.text with
  | .keyword, "type" => discard (typeDeclaration g)
  | .keyword, "var" | .keyword, "const" => valueDeclaration g
  | .keyword, "return" => do
    keyword "return"
    discard <| optional (unlessEnded true (expressions g .statement))
  | .keyword, "go" => keyword "go" *> discard (g.value .statement)
  | .keyword, "defer" => keyword "defer" *> discard (g.value .statement)
  | .keyword, "if" => ifStatement g
  | .keyword, "for" => forStatement g
  | .keyword, "switch" => switchStatement g
  | .keyword, "select" => selectStatement g
  | .keyword, "fallthrough" => keyword "fallthrough"
  | .keyword, "break" => jump "break"
  | .keyword, "continue" => jump "continue"
  | .keyword, "goto" => keyword "goto" *> discard name
  | .sign, "\x7b" => g.block
  | .sign, ";" => sign ";"
  | _, _ => labeled g <|> simpleStatement g

/-- All rules, each written with the others. -/
def step (g : Grammar) : Grammar where
  type := typeStep g
  expr := exprStep g
  literal := literalStep g
  block := blockStep g
  statement := statementStep g

end GoMocks.GoSource.Grammar
