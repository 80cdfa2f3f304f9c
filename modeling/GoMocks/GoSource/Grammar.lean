import GoMocks.GoSource.Token
import GoMocks.GoSource.TypeExpr

/-!
# Go source — the frame of the grammar

A parser takes something off the front of the tokens or refuses. Types, expressions and statements
contain each other, so each of their rules is written with the others as arguments (`Grammar`);
`Grammar.ofDepth` nests the rules into each other to a given depth, which the number of tokens
bounds.

A newline ends a type, an expression or a statement wherever a terminator may stand. Rules that
may be followed by one take a flag that says so; between brackets of any kind it is off, and
newlines are blanks there.
-/

namespace GoMocks.GoSource

/-- What takes something off the front of some tokens, or refuses. -/
abbrev Parser (α : Type) := StateT (List Token) Option α

namespace Parser

variable {α : Type}

/-- The next token. -/
def peek : Parser Token := fun ts =>
  match ts with
  | t :: _ => some (t, ts)
  | []     => none

/-- Takes the next token if it passes a test. -/
def token (test : Token → Bool) : Parser Token := fun ts =>
  match ts with
  | t :: rest => if test t then some (t, rest) else none
  | []        => none

/-- Takes a given sign. -/
def sign (s : String) : Parser Unit :=
  discard <| token fun t => t.kind == .sign && t.text == s

/-- Takes a given keyword. -/
def keyword (s : String) : Parser Unit :=
  discard <| token fun t => t.kind == .keyword && t.text == s

/-- A name that is no keyword. -/
def name : Parser String := do
  return (← token fun t => t.kind == .name).text

/-- A string literal, as it is written. -/
def stringLiteral : Parser String := do
  return (← token fun t => t.kind == .string).text

/-- Is the next token a given sign? -/
def atSign (s : String) : Parser Bool := do
  let t ← peek
  return t.kind == .sign && t.text == s

/-- Is the next token a given keyword? -/
def atKeyword (s : String) : Parser Bool := do
  let t ← peek
  return t.kind == .keyword && t.text == s

/-- Does a terminator end the construct here, if it may? -/
def ended (nl : Bool) : Parser Bool := do
  return nl && (← peek).newline

/-- A parser for the rest of a construct, refused where a terminator ends it. -/
def unlessEnded (nl : Bool) (p : Parser α) : Parser α := do
  if ← ended nl then failure else p

/-- As many as there are, up to a number. -/
def upTo (p : Parser α) : Nat → Parser (List α)
  | 0     => return []
  | n + 1 => (do return (← p) :: (← upTo p n)) <|> pure []

/-- As many as there are. -/
def many (p : Parser α) : Parser (List α) := fun ts =>
  upTo p ts.length ts

/-- One or more, with something between two of them. -/
def sepBy1 (p : Parser α) (separator : Parser Unit) : Parser (List α) := do
  return (← p) :: (← many (separator *> p))

/-- One or more, separated by commas. -/
def commaList (p : Parser α) : Parser (List α) :=
  sepBy1 p (sign ",")

/-- One or more, separated by commas; one more comma may follow. -/
def openCommaList (p : Parser α) : Parser (List α) :=
  commaList p <* optional (sign ",")

/-- A newline or a semicolon. A newline counts once. -/
def terminator : Parser Unit := fun ts =>
  match ts with
  | t :: rest =>
    if t.newline then some ((), { t with newline := false } :: rest)
    else if t.kind == .sign && (t.text == ";" || t.text == "\x00") then some ((), rest)
    else none
  | [] => none

/-- Members between braces or parentheses, each but the last with a terminator behind it. -/
def members (opening closing : String) (p : Parser α) : Parser (List α) := do
  sign opening
  let found ← optional (sepBy1 p terminator <* optional terminator)
  sign closing
  return found.getD []

/-- The tokens that a parser takes, beside its result. -/
def spanned (p : Parser α) : Parser (α × List Token) := fun ts =>
  match p ts with
  | some (a, rest) => some ((a, ts.take (ts.length - rest.length)), rest)
  | none           => none

end Parser

/-- What an expression is able to become. A bare type is none yet: it has to be converted to, or
to be given a literal body. -/
inductive Shape
  | value
  /-- A name, a name of a package, or a name with type arguments: perhaps a type. -/
  | name
  | qualified
  | generic
  /-- A type, and whether a literal body may follow it. -/
  | bareType (literal : Bool)
  deriving DecidableEq, Repr, Inhabited

/-- How far an expression may go: a newline may end it, and a brace behind a name may open a
literal and not a block. -/
structure Mode where
  nl       : Bool
  literals : Bool
  deriving DecidableEq, Repr, Inhabited

namespace Mode

/-- Between brackets. -/
def inner : Mode := ⟨false, true⟩

/-- In a statement of its own. -/
def statement : Mode := ⟨true, true⟩

/-- Between the keyword and the block of a statement. -/
def header : Mode := ⟨false, false⟩

end Mode

/-- The rules that others refer to. -/
structure Grammar where
  type      : Bool → Parser TypeExpr
  expr      : Mode → Parser Shape
  /-- A list of elements between braces. -/
  literal   : Parser Unit
  block     : Parser Unit
  statement : Parser Unit

namespace Grammar

/-- The grammar that refuses everything. -/
def empty : Grammar where
  type _ := failure
  expr _ := failure
  literal := failure
  block := failure
  statement := failure

/-- The rules nested into each other to some depth. -/
def ofDepth (step : Grammar → Grammar) : Nat → Grammar
  | 0     => empty
  | n + 1 => step {
      type := fun nl ts => (ofDepth step n).type nl ts
      expr := fun mode ts => (ofDepth step n).expr mode ts
      literal := fun ts => (ofDepth step n).literal ts
      block := fun ts => (ofDepth step n).block ts
      statement := fun ts => (ofDepth step n).statement ts }

/-- An expression that is no bare type. -/
def value (g : Grammar) (mode : Mode) : Parser Shape := do
  match ← g.expr mode with
  | .bareType _ => failure
  | shape       => return shape

end Grammar

end GoMocks.GoSource
