import GoMocks.Template.Expr
import GoMocks.Template.Piece

/-!
# Templates — statements

The tree of a template: text, outputs, conditions and loops, how it is read from the pieces of a
template, and what it renders to.

* `Template.parse`: the tree of a template.
* `Template.render`: its text, with names bound to values.
-/

namespace GoMocks.Template

/-- A part of a template. -/
inductive Node where
  | text        (s : String)
  | output      (e : Expr)
  | conditional (e : Expr) (yes no : List Node)
  | loop        (name : String) (e : Expr) (body empty : List Node)

namespace Node

/-- The words a loop variable cannot have as its name. -/
def fixedNames : List String :=
  ["true", "True", "false", "False", "none", "None", "loop", "self"]

/-- The statement that ends a list of nodes: its word and its other tokens. -/
abbrev Ending := Option (String × List Token)

/-- The words that end a list of nodes. -/
def endingWords : List String :=
  ["elif", "else", "endif", "endfor"]

mutual

/-- Takes nodes off the front of the pieces, up to a statement that starts none. -/
def parseNodes : Nat → List Piece → Except TemplateFault (List Node × Ending × List Piece)
  | 0, _ => throw .malformed
  | _ + 1, [] => return ([], none, [])
  | fuel + 1, .text s :: ps => do
    let (nodes, ending, ps) ← parseNodes fuel ps
    return (.text s :: nodes, ending, ps)
  | fuel + 1, .output tokens :: ps => do
    let e ← Expr.ofTokens tokens
    let (nodes, ending, ps) ← parseNodes fuel ps
    return (.output e :: nodes, ending, ps)
  | fuel + 1, .statement (.word "if" :: tokens) :: ps => do
    let (node, ps) ← parseConditional fuel tokens ps
    let (nodes, ending, ps) ← parseNodes fuel ps
    return (node :: nodes, ending, ps)
  | fuel + 1, .statement (.word "for" :: .word name :: .word "in" :: tokens) :: ps => do
    if fixedNames.contains name then throw .malformed
    let e ← Expr.ofTokens tokens
    let (body, ending, ps) ← parseNodes fuel ps
    let (empty, ps) ← parseLoopEnd fuel ending ps
    let (nodes, ending, ps) ← parseNodes fuel ps
    return (.loop name e body empty :: nodes, ending, ps)
  | _ + 1, .statement (.word w :: tokens) :: ps =>
    if endingWords.contains w then return ([], some (w, tokens), ps) else throw .malformed
  | _ + 1, .statement _ :: _ => throw .malformed

/-- A condition, from the tokens of the test on. -/
def parseConditional : Nat → List Token → List Piece → Except TemplateFault (Node × List Piece)
  | 0, _, _ => throw .malformed
  | fuel + 1, tokens, ps => do
    let e ← Expr.ofTokens tokens
    let (yes, ending, ps) ← parseNodes fuel ps
    match ending with
    | some ("endif", []) => return (.conditional e yes [], ps)
    | some ("elif", tokens) =>
      let (no, ps) ← parseConditional fuel tokens ps
      return (.conditional e yes [no], ps)
    | some ("else", []) =>
      match ← parseNodes fuel ps with
      | (no, some ("endif", []), ps) => return (.conditional e yes no, ps)
      | _ => throw .malformed
    | _ => throw .malformed

/-- What a loop does without items, up to its end. -/
def parseLoopEnd : Nat → Ending → List Piece → Except TemplateFault (List Node × List Piece)
  | 0, _, _ => throw .malformed
  | _ + 1, some ("endfor", []), ps => return ([], ps)
  | fuel + 1, some ("else", []), ps => do
    match ← parseNodes fuel ps with
    | (empty, some ("endfor", []), ps) => return (empty, ps)
    | _ => throw .malformed
  | _ + 1, _, _ => throw .malformed

end

/-- What a loop tells its body about the item it is at. -/
def loopState (length index : Nat) : Value :=
  .map [("first", .bool (index == 0)), ("last", .bool (index + 1 == length)),
    ("index", .int (index + 1)), ("index0", .int index), ("length", .int length)]

/-- The bindings of a loop's body at each of its items. -/
def loopBindings (env : Expr.Bindings) (name : String) (items : List Value) :
    List Expr.Bindings :=
  items.zipIdx.map fun (v, i) => (name, v) :: ("loop", loopState items.length i) :: env

mutual

/-- The text of a node. -/
def render (env : Expr.Bindings) : Node → Except TemplateFault String
  | .text s => return s
  | .output e => return (← e.eval env).print
  | .conditional e yes no => do
    if (← e.eval env).isTrue then renderAll env yes else renderAll env no
  | .loop name e body empty => do
    match (← e.eval env).items? with
    | none => throw .failed
    | some [] => renderAll env empty
    | some items =>
      return String.join (← (loopBindings env name items).mapM fun env => renderAll env body)

/-- What some nodes write, one after the other. -/
def renderAll (env : Expr.Bindings) : List Node → Except TemplateFault String
  | []      => return ""
  | n :: ns => return (← render env n) ++ (← renderAll env ns)

end

end Node

/-- The tree of a template. -/
def parse (source : String) : Except TemplateFault (List Node) := do
  let pieces ← Piece.ofTemplate source
  match ← Node.parseNodes (2 * pieces.length + 2) pieces with
  | (nodes, none, _) => return nodes
  | _                => throw .malformed

/-- The text of a template with names bound to values. -/
def render (template : List Node) (context : Expr.Bindings) : Except TemplateFault String :=
  Node.renderAll context template

end GoMocks.Template
