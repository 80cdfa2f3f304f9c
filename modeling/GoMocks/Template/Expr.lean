import GoMocks.Template.Token
import GoMocks.Template.Value

/-!
# Templates — expressions

Literals, names, members, items, comparisons, the three logical operators and filters. A filter
binds tighter than a comparison, and a comparison tighter than `not`, `and` and `or`.
-/

namespace GoMocks.Template

/-- An expression of a template. -/
inductive Expr where
  | literal   (v : Value)
  | variable  (name : String)
  | member    (e : Expr) (name : String)
  | item      (e index : Expr)
  | equal     (a b : Expr)
  | different (a b : Expr)
  | both      (a b : Expr)
  | either    (a b : Expr)
  | negation  (e : Expr)
  | filter    (name : String) (e : Expr) (arguments : List Expr)

namespace Expr

/-- The words that are literals. -/
def constant? : String → Option Value
  | "true"  | "True"  => some (.bool true)
  | "false" | "False" => some (.bool false)
  | "none"  | "None"  => some .none
  | _                 => none

mutual

/-- The operands of `or`. -/
def parse : Nat → List Token → Except TemplateFault (Expr × List Token)
  | 0, _ => throw .malformed
  | fuel + 1, ts => do
    let (e, ts) ← parseAnd fuel ts
    parseOrTail fuel e ts

/-- Goes on with `or`, as long as there is one. -/
def parseOrTail : Nat → Expr → List Token → Except TemplateFault (Expr × List Token)
  | 0, _, _ => throw .malformed
  | fuel + 1, e, .word "or" :: ts => do
    let (f, ts) ← parseAnd fuel ts
    parseOrTail fuel (.either e f) ts
  | _ + 1, e, ts => return (e, ts)

/-- Operands with `and` between them. -/
def parseAnd : Nat → List Token → Except TemplateFault (Expr × List Token)
  | 0, _ => throw .malformed
  | fuel + 1, ts => do
    let (e, ts) ← parseNot fuel ts
    parseAndTail fuel e ts

/-- Goes on with `and`, as long as there is one. -/
def parseAndTail : Nat → Expr → List Token → Except TemplateFault (Expr × List Token)
  | 0, _, _ => throw .malformed
  | fuel + 1, e, .word "and" :: ts => do
    let (f, ts) ← parseNot fuel ts
    parseAndTail fuel (.both e f) ts
  | _ + 1, e, ts => return (e, ts)

/-- An operand, perhaps behind `not`. -/
def parseNot : Nat → List Token → Except TemplateFault (Expr × List Token)
  | 0, _ => throw .malformed
  | fuel + 1, .word "not" :: ts => do
    let (e, ts) ← parseNot fuel ts
    return (.negation e, ts)
  | fuel + 1, ts => do
    let (e, ts) ← parseFiltered fuel ts
    parseCompareTail fuel e ts

/-- Goes on with a comparison, as long as there is one. -/
def parseCompareTail : Nat → Expr → List Token → Except TemplateFault (Expr × List Token)
  | 0, _, _ => throw .malformed
  | fuel + 1, e, .sign "==" :: ts => do
    let (f, ts) ← parseFiltered fuel ts
    parseCompareTail fuel (.equal e f) ts
  | fuel + 1, e, .sign "!=" :: ts => do
    let (f, ts) ← parseFiltered fuel ts
    parseCompareTail fuel (.different e f) ts
  | _ + 1, e, ts => return (e, ts)

/-- An operand with its members and items, and the filters behind them. -/
def parseFiltered : Nat → List Token → Except TemplateFault (Expr × List Token)
  | 0, _ => throw .malformed
  | fuel + 1, ts => do
    let (e, ts) ← parsePrimary fuel ts
    let (e, ts) ← parsePostfix fuel e ts
    parseFilters fuel e ts

/-- A literal, a name, or an expression between parentheses. -/
def parsePrimary : Nat → List Token → Except TemplateFault (Expr × List Token)
  | 0, _ => throw .malformed
  | _ + 1, .number n :: ts => return (.literal (.int n), ts)
  | _ + 1, .text s :: ts => return (.literal (.text s), ts)
  | fuel + 1, .sign "(" :: ts => do
    match ← parse fuel ts with
    | (e, .sign ")" :: ts) => return (e, ts)
    | _ => throw .malformed
  | _ + 1, .word w :: ts => return (((constant? w).map .literal).getD (.variable w), ts)
  | _ + 1, _ => throw .malformed

/-- Goes on with members and items. -/
def parsePostfix : Nat → Expr → List Token → Except TemplateFault (Expr × List Token)
  | 0, _, _ => throw .malformed
  | fuel + 1, e, .sign "." :: .word name :: ts => parsePostfix fuel (.member e name) ts
  | _ + 1, _, .sign "." :: _ => throw .malformed
  | fuel + 1, e, .sign "[" :: ts => do
    match ← parse fuel ts with
    | (index, .sign "]" :: ts) => parsePostfix fuel (.item e index) ts
    | _ => throw .malformed
  | _ + 1, e, ts => return (e, ts)

/-- Goes on with filters. -/
def parseFilters : Nat → Expr → List Token → Except TemplateFault (Expr × List Token)
  | 0, _, _ => throw .malformed
  | fuel + 1, e, .sign "|" :: .word name :: .sign "(" :: ts => do
    let (arguments, ts) ← parseArguments fuel ts
    parseFilters fuel (.filter name e arguments) ts
  | fuel + 1, e, .sign "|" :: .word name :: ts => parseFilters fuel (.filter name e []) ts
  | _ + 1, _, .sign "|" :: _ => throw .malformed
  | _ + 1, e, ts => return (e, ts)

/-- The arguments up to the closing parenthesis; a comma may stand behind the last one. -/
def parseArguments : Nat → List Token → Except TemplateFault (List Expr × List Token)
  | 0, _ => throw .malformed
  | _ + 1, .sign ")" :: ts => return ([], ts)
  | fuel + 1, ts => do
    match ← parse fuel ts with
    | (e, .sign ")" :: ts) => return ([e], ts)
    | (e, .sign "," :: ts) =>
      let (es, ts) ← parseArguments fuel ts
      return (e :: es, ts)
    | _ => throw .malformed

end

/-- The expression some tokens write, all of them. Each token is passed by at most eight of the
parsers above. -/
def ofTokens (ts : List Token) : Except TemplateFault Expr := do
  match ← parse (8 * ts.length + 8) ts with
  | (e, []) => return e
  | _       => throw .malformed

/-! ### Values of expressions -/

/-- Names and what they stand for; the first entry of a name counts. -/
abbrev Bindings := List (String × Value)

/-- Only what is not undefined has members and items. -/
def defined (v : Value) (part : Value) : Except TemplateFault Value :=
  match v with
  | .undefined => throw .failed
  | _          => return part

/-- The greatest width that a text can be filled to: widths are kept in 16 bits. -/
def widthLimit : Nat := 65535

/-- The text with blanks behind it up to a width, counted in characters. -/
def filled (s : String) (width : Nat) : String :=
  s ++ .ofList (.replicate (width - s.length) ' ')

/-- Fills a text with blanks up to a width. The width must be within the limit, whether the text is
shorter or not. -/
def pad (s : String) (width : Nat) : Except TemplateFault String :=
  if width ≤ widthLimit then return filled s width else throw .tooWide

/-- The one filter there is, `pad` with a width, applies to texts. -/
def applyFilter (name : String) (v : Value) (arguments : List Value) :
    Except TemplateFault Value :=
  match name, v, arguments with
  | "pad", .text s, [width] =>
    match width.asInt? with
    | some n => if 0 ≤ n then return .text (← pad s n.toNat) else throw .failed
    | none   => throw .failed
  | _, _, _ => throw .failed

mutual

/-- The value of an expression. `and` and `or` give the operand that decides. -/
def eval (env : Bindings) : Expr → Except TemplateFault Value
  | .literal v        => return v
  | .variable name    => return (env.lookup name).getD .undefined
  | .member e name    => do
    let v ← eval env e
    defined v (v.member name)
  | .item e index     => do
    let v ← eval env e
    let i ← eval env index
    defined v (v.item i)
  | .equal a b        => return .bool ((← eval env a).same (← eval env b))
  | .different a b    => return .bool (!(← eval env a).same (← eval env b))
  | .both a b         => do
    let v ← eval env a
    if v.isTrue then eval env b else return v
  | .either a b       => do
    let v ← eval env a
    if v.isTrue then return v else eval env b
  | .negation e       => return .bool (!(← eval env e).isTrue)
  | .filter name e es => do
    let v ← eval env e
    let arguments ← evalAll env es
    applyFilter name v arguments

/-- The values of some expressions. -/
def evalAll (env : Bindings) : List Expr → Except TemplateFault (List Value)
  | []      => return []
  | e :: es => return (← eval env e) :: (← evalAll env es)

end

end Expr

end GoMocks.Template
