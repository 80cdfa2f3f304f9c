import GoMocks.Error
import GoMocks.GoSource.Statements
import GoMocks.Text.Affix
import GoMocks.Text.Blank

/-!
# Go source — files

A file is a row of declarations and statements. Its package clause, its imports and the types it
declares at the top are kept.

* `SourceFile.parse`: what a source declares. The whole source has to be well formed, the bodies
  of functions included.
-/

namespace GoMocks.GoSource

/-- A source file, as far as its declarations matter. -/
structure SourceFile where
  path         : Path
  package      : String
  imports      : List ImportSpec
  types        : List TypeSpec
  /-- Does a constraint before the package clause keep the file out of every build? -/
  buildIgnored : Bool

/-- An item at the top of a file. -/
inductive TopLevel
  | package (name : String)
  | imports (specs : List ImportSpec)
  | types (specs : List TypeSpec)
  | function
  | statement

/-- Items that may close a file without a terminator. -/
def TopLevel.closesFile : TopLevel → Bool
  | package _ | imports _ | function => true
  | types _ | statement              => false

namespace Grammar

open GoSource.Parser

/-- The text between the quotes of a string literal. -/
def unquoted (literal : String) : String :=
  .ofList (Text.trimChars (fun c => c == '"' || c == Literal.rawQuote) literal.toList)

/-- A path, perhaps with a name or a dot in front. -/
def importSpec : Parser ImportSpec := do
  let n ← optional (name <|> (sign "." *> pure "."))
  return ⟨n, unquoted (← stringLiteral)⟩

/-- The signature of a function, and its body if it has one. -/
def functionRest (g : Grammar) : Parser Unit := do
  discard <| signature g true
  discard <| optional (unlessEnded true g.block)

/-- A function or a method; a body may be missing. -/
def functionDeclaration (g : Grammar) : Parser Unit := do
  keyword "func"
  if ← atSign "(" then
    discard <| paramList g
    discard name
  else
    discard name
    discard <| optional (typeParams g)
  functionRest g

/-- An item, chosen by its first token. -/
def topLevel (g : Grammar) : Parser TopLevel := do
  let t ← peek
  match t.kind, t.text with
  | .keyword, "package" => keyword "package" *> .package <$> name
  | .keyword, "import" => keyword "import" *> .imports <$> specs importSpec
  | .keyword, "type" => .types <$> typeDeclaration g
  | .keyword, "func" =>
    (functionDeclaration g *> pure .function) <|> (g.statement *> pure .statement)
  | _, _ => g.statement *> pure .statement

/-- All items with the comments before them and before their terminators, at most some number of
items. -/
def items (g : Grammar) : Nat → Parser (List (List String × TopLevel))
  | 0 => failure
  | n + 1 => do
    let start ← peek
    if start.kind == .eof then return []
    let item ← topLevel g
    let behind ← peek
    if behind.kind == .eof && !behind.newline then
      if item.closesFile then return [(start.comments, item)] else failure
    terminator
    let next ← if behind.newline then pure [] else pure behind.comments
    let rest ← items g n
    return (start.comments, item) :: match rest with
      | (comments, item) :: rest => (next ++ comments, item) :: rest
      | []                       => []

end Grammar

/-- Does a comment keep its file out of every build? -/
def isIgnoreConstraint (comment : String) : Bool :=
  let cs := Text.trimChars Text.isBlank comment.toList
  match Text.afterFront? "//go:build".toList cs with
  | some rest => Text.trimChars Text.isBlank rest == "ignore".toList
  | none =>
    match Text.afterFront? "// +build".toList cs with
    | some rest => (Text.words (.ofList rest)).contains "ignore"
    | none      => false

/-- Takes an item into a file. Comments count up to the package clause. -/
def SourceFile.add (file : SourceFile) (item : List String × TopLevel) : SourceFile :=
  let file :=
    if file.package.isEmpty && item.1.any isIgnoreConstraint then { file with buildIgnored := true }
    else file
  match item.2 with
  | .package name  => { file with package := name }
  | .imports specs => { file with imports := file.imports ++ specs }
  | .types specs   => { file with types := file.types ++ specs }
  | _              => file

/-- The items of a source. No rule is nested deeper into others than four times per token. -/
def topLevelItems? (source : String) : Option (List (List String × TopLevel)) := do
  let tokens ← Token.scanAll source
  let g := Grammar.ofDepth Grammar.step (4 * tokens.length)
  let (items, _) ← Grammar.items g (tokens.length + 1) tokens
  return items

/-- What a source file declares. -/
def SourceFile.parse (path : Path) (source : String) : Except Error SourceFile :=
  match topLevelItems? source with
  | none => throw (.malformedSource path)
  | some items =>
    let file := items.foldl SourceFile.add ⟨path, "", [], [], false⟩
    if file.package.isEmpty then throw (.missingPackageClause path) else return file

end GoMocks.GoSource
