import GoMocks.GoSource.Types
import GoMocks.Proofs.GoSource.Literal

/-!
# Go source — types as they are printed

A type is printed as a row of lexemes. A text lays a row of lexemes out when it has them in order,
with blanks wherever it likes and with at least one where two lexemes would run together.

* `TypeExpr.lexemes`: the lexemes of a type. An element of a channel that is a channel itself stands
  between parentheses.
* `TypeExpr.Printable`: the types whose lexemes a Go source may contain.
* `LaidOut`: the texts that lay some lexemes out; `TypeExpr.print` is the shortest one for a type
  (`TypeExpr.laidOut_print`).
-/

namespace GoMocks.GoSource

/-! ### Lexemes -/

/-- The keywords of types, of declarations and of some statements. -/
def lexemeKeywords : List String :=
  ["chan", "func", "if", "import", "interface", "map", "package", "return", "struct", "type", "var"]

/-- The signs of types, of declarations and of some statements. -/
def lexemeSigns : List String :=
  ["!=", "&", "(", ")", "*", "+", ",", ".", "...", ":=", ";", "<-", "=", "[", "]", "\x7b", "|",
    "\x7d", "~"]

/-- A token without its place. -/
inductive Lexeme
  | name (text : String)
  | integer (text : String)
  | number (text : String)
  | string (text : String)
  | keyword (text : String) (h : text ∈ lexemeKeywords := by decide)
  | sign (text : String) (h : text ∈ lexemeSigns := by decide)

namespace Lexeme

/-- What a token of the lexeme is. -/
def kind : Lexeme → TokenKind
  | name _      => .name
  | integer _   => .integer
  | number _    => .number
  | string _    => .string
  | keyword _ _ => .keyword
  | sign _ _    => .sign

/-- The text that the lexeme is written as. -/
def text : Lexeme → String
  | name text | integer text | number text | string text | keyword text _ | sign text _ => text

/-- Is the text what it is meant to be? -/
def isToken : Lexeme → Bool
  | name text    => isIdentifier text
  | integer text => decide (IsInteger text)
  | number text  => decide (IsNumber text)
  | string text  => decide (IsString text)
  | keyword _ _  => true
  | sign _ _     => true

/-- Would the lexeme go on with a character that stands right behind it? Numbers end in front of
blanks, commas and closing brackets, and a zero ends in front of a plus. -/
def runsInto (l : Lexeme) (c : Char) : Bool :=
  match l with
  | name _ | keyword _ _ => Text.isIdentifierPart c
  | integer text         => !(Literal.numberEnds.contains c || (text == "0" && c == '+'))
  | number _             => !Literal.numberEnds.contains c
  | string _             => false
  | sign text _          =>
    (text == "." && (c == '.' || c.isDigit)) ||
      ((text == "*" || text == "=" || text == "|") && (c == '=' || c == '|')) ||
      (text == "&" && ['&', '^', '='].contains c) || (text == "+" && ['+', '='].contains c)

/-- Lexemes in a row, with the same lexeme between two. -/
def separated (separator : Lexeme) (items : List (List Lexeme)) : List Lexeme :=
  [separator].intercalate items

/-- Lexemes between parentheses. -/
def inParens (ls : List Lexeme) : List Lexeme := .sign "(" :: (ls ++ [.sign ")"])

/-- Lexemes between brackets. -/
def inBrackets (ls : List Lexeme) : List Lexeme := .sign "[" :: (ls ++ [.sign "]"])

/-- Lexemes between braces. -/
def inBraces (ls : List Lexeme) : List Lexeme := .sign "\x7b" :: (ls ++ [.sign "\x7d"])

end Lexeme

open Lexeme (separated inParens inBrackets inBraces)

/-! ### The lexemes of a type -/

/-- The lexemes of a length; an expression of another form has none. -/
def LengthExpr.lexemes : LengthExpr → List Lexeme
  | .literal text        => [.integer text]
  | .name n              => [.name n]
  | .qualified package n => [.name package, .sign ".", .name n]
  | .other _             => []

/-- Is it a channel type? -/
def TypeExpr.isChannel : TypeExpr → Bool
  | .channel _ _ => true
  | _            => false

/-- What stands in front of the element of a channel. -/
def channelStart : ChannelDirection → List Lexeme
  | .both    => [.keyword "chan"]
  | .send    => [.keyword "chan", .sign "<-"]
  | .receive => [.sign "<-", .keyword "chan"]

/-- A parameter that has neither a name nor dots. -/
def ParamExpr.isBare (p : ParamExpr) : Bool :=
  p.names.isEmpty && !p.variadic

mutual

/-- The lexemes a type is printed as. -/
def TypeExpr.lexemes : TypeExpr → List Lexeme
  | .name n              => [.name n]
  | .qualified package n => [.name package, .sign ".", .name n]
  | .generic base arguments =>
    base.lexemes ++ inBrackets (separated (.sign ",") (typeItems arguments))
  | .pointer elem        => .sign "*" :: elem.lexemes
  | .slice elem          => .sign "[" :: .sign "]" :: elem.lexemes
  | .array length elem   => inBrackets length.lexemes ++ elem.lexemes
  | .map key value       => .keyword "map" :: (inBrackets key.lexemes ++ value.lexemes)
  | .channel direction elem =>
    channelStart direction ++ if elem.isChannel then inParens elem.lexemes else elem.lexemes
  | .function signature  => .keyword "func" :: signature.lexemes
  | .struct fields       =>
    .keyword "struct" :: inBraces (separated (.sign ";") (fieldItems fields))
  | .interface elems     =>
    .keyword "interface" :: inBraces (separated (.sign ";") (elemItems elems))
  | .union terms         => separated (.sign "|") (termItems terms)

/-- Parameters and results. One result alone needs no parentheses, and no result needs any. -/
def FunctionExpr.lexemes : FunctionExpr → List Lexeme
  | ⟨params, results⟩ =>
    let found := separated (.sign ",") (paramItems results)
    inParens (separated (.sign ",") (paramItems params)) ++
      if results.isEmpty || (results.length == 1 && results.all ParamExpr.isBare) then found
      else inParens found

/-- Each name but the last, and the last name with the type. -/
def ParamExpr.items : ParamExpr → List (List Lexeme)
  | ⟨names, type, variadic⟩ =>
    let dots := if variadic then [.sign "..."] else []
    names.dropLast.map ([.name ·]) ++ [names.getLast?.toList.map .name ++ dots ++ type.lexemes]

/-- The names of fields, their type and their tag. -/
def FieldExpr.lexemes : FieldExpr → List Lexeme
  | ⟨names, type, tag⟩ =>
    separated (.sign ",") (names.map ([.name ·])) ++ type.lexemes ++ tag.toList.map .string

/-- The lexemes of a method or of an embedded type. -/
def InterfaceElem.lexemes : InterfaceElem → List Lexeme
  | .method n signature => .name n :: signature.lexemes
  | .embed terms        => separated (.sign "|") (termItems terms)

/-- The lexemes of a term, with its tilde in front. -/
def UnionTerm.lexemes : UnionTerm → List Lexeme
  | ⟨tilde, type⟩ => (if tilde then [.sign "~"] else []) ++ type.lexemes

/-- The lexemes of each type. -/
def typeItems : List TypeExpr → List (List Lexeme)
  | []      => []
  | t :: ts => t.lexemes :: typeItems ts

/-- The lexemes of the parameters, one after the other. -/
def paramItems : List ParamExpr → List (List Lexeme)
  | []      => []
  | p :: ps => p.items ++ paramItems ps

/-- The lexemes of each row of fields. -/
def fieldItems : List FieldExpr → List (List Lexeme)
  | []      => []
  | f :: fs => f.lexemes :: fieldItems fs

/-- The lexemes of each element of an interface. -/
def elemItems : List InterfaceElem → List (List Lexeme)
  | []      => []
  | e :: es => e.lexemes :: elemItems es

/-- The lexemes of each term. -/
def termItems : List UnionTerm → List (List Lexeme)
  | []      => []
  | t :: ts => t.lexemes :: termItems ts

end

/-! ### The lexemes of declarations and values -/

/-- The rows of a block that declares a struct and other types. -/
def typeBlockRows (name : String) (ps : List Lexeme) (fieldRows declRows : List (List Lexeme)) :
    List (List Lexeme) :=
  [.keyword "type", .sign "("] :: (.name name :: (ps ++ [.keyword "struct", .sign "\x7b"])) ::
    (fieldRows ++ [.sign "\x7d"] :: (declRows ++ [[.sign ")"]]))

/-- The lines of a function: its front and its signature, then its body. -/
def functionRows (front signature : List Lexeme) (body : List (List Lexeme)) :
    List (List Lexeme) :=
  (.keyword "func" :: (front ++ (signature ++ [.sign "\x7b"]))) :: (body ++ [[.sign "\x7d"]])

/-- Names behind dots. -/
def selections (names : List String) : List Lexeme :=
  names.flatMap fun n => [.sign ".", .name n]

namespace Lexeme

/-- Separators stand in front of all items but the first. -/
theorem separated_cons (s : Lexeme) (item : List Lexeme) (items : List (List Lexeme)) :
    separated s (item :: items) = item ++ (items.map (s :: ·)).flatten := by
  induction items generalizing item with
  | nil => simp [separated]
  | cons next items ih =>
    have hnext := ih next
    simp_all [separated, List.intercalate]

@[simp]
theorem separated_nil (s : Lexeme) : separated s [] = [] := rfl

@[simp]
theorem separated_singleton (s : Lexeme) (item : List Lexeme) : separated s [item] = item := by
  simp [separated]

/-- Each item is a part of the separated row. -/
theorem length_le_separated {s : Lexeme} {item : List Lexeme} {items : List (List Lexeme)}
    (h : item ∈ items) : item.length ≤ (separated s items).length := by
  cases items with
  | nil => cases h
  | cons first items =>
    rw [separated_cons, List.length_append]
    rcases List.mem_cons.mp h with rfl | h
    · exact Nat.le_add_right _ _
    · have hmem : s :: item ∈ items.map (s :: ·) := List.mem_map_of_mem h
      have hle := (List.sublist_flatten_of_mem hmem).length_le
      rw [List.length_cons] at hle
      omega

end Lexeme

/-! ### Printable types -/

/-- Names that are no lengths of arrays, but literals. -/
def literalNames : List String :=
  ["nil", "true", "false", "iota"]

/-- Is the length a literal or a name that can be read back? -/
def LengthExpr.isPrintable : LengthExpr → Bool
  | .literal _           => true
  | .name n              => !literalNames.contains n
  | .qualified package _ => !literalNames.contains package
  | .other _             => false

namespace TypeExpr

/-- A name alone, perhaps of another package. -/
def isPlainName : TypeExpr → Bool
  | .name _ | .qualified _ _ => true
  | _                        => false

/-- A name, with type arguments or without. -/
def isNamed : TypeExpr → Bool
  | .name _ | .qualified _ _ | .generic _ _ => true
  | _                                       => false

/-- A type that a struct may embed. -/
def isEmbeddable : TypeExpr → Bool
  | .pointer elem => elem.isNamed
  | t             => t.isNamed

/-- A type that the body of a literal may stand behind. -/
def takesBody : TypeExpr → Bool
  | .name _ | .qualified _ _ | .generic _ _ | .array _ _ | .struct _ => true
  | _                                                                => false

end TypeExpr

/-- Either all parameters have names or none has. -/
def sameStyle (params : List ParamExpr) : Bool :=
  params.all (·.names.isEmpty) || params.all (!·.names.isEmpty)

mutual

/-- May a source contain the type as it is printed? -/
def TypeExpr.isPrintable : TypeExpr → Bool
  | .name _ | .qualified _ _ => true
  | .generic base arguments  => base.isPlainName && !arguments.isEmpty && typesPrintable arguments
  | .pointer elem            => elem.isPrintable
  | .slice elem              => elem.isPrintable
  | .array length elem       => length.isPrintable && elem.isPrintable
  | .map key value           => key.isPrintable && value.isPrintable
  | .channel _ elem          => elem.isPrintable
  | .function signature      => signature.isPrintable
  | .struct fields           => fieldsPrintable fields
  | .interface elems         => elemsPrintable elems
  | .union _                 => false

/-- Can the parameters and the results be read back? -/
def FunctionExpr.isPrintable : FunctionExpr → Bool
  | ⟨params, results⟩ =>
    sameStyle params && paramsPrintable params && (sameStyle results && paramsPrintable results)

/-- Dots leave room for one name. Only so many names may share a type. -/
def ParamExpr.isPrintable : ParamExpr → Bool
  | ⟨names, type, variadic⟩ =>
    names.length ≤ (if variadic then 1 else ParamEntry.sharedNames) && type.isPrintable

/-- Can the fields be read back? Those without names have to be embeddable. -/
def FieldExpr.isPrintable : FieldExpr → Bool
  | ⟨names, type, _⟩ => (!names.isEmpty || type.isEmbeddable) && type.isPrintable

/-- Can the method or the embedded type be read back? -/
def InterfaceElem.isPrintable : InterfaceElem → Bool
  | .method _ signature => signature.isPrintable
  | .embed terms        => !terms.isEmpty && termsPrintable terms

/-- Can the term be read back? -/
def UnionTerm.isPrintable : UnionTerm → Bool
  | ⟨_, type⟩ => type.isNamed && type.isPrintable

/-- Can all types be read back? -/
def typesPrintable : List TypeExpr → Bool
  | []      => true
  | t :: ts => t.isPrintable && typesPrintable ts

/-- Can all parameters be read back? -/
def paramsPrintable : List ParamExpr → Bool
  | []      => true
  | p :: ps => p.isPrintable && paramsPrintable ps

/-- Can all fields be read back? -/
def fieldsPrintable : List FieldExpr → Bool
  | []      => true
  | f :: fs => f.isPrintable && fieldsPrintable fs

/-- Can all elements of an interface be read back? -/
def elemsPrintable : List InterfaceElem → Bool
  | []      => true
  | e :: es => e.isPrintable && elemsPrintable es

/-- Can all terms be read back? -/
def termsPrintable : List UnionTerm → Bool
  | []      => true
  | t :: ts => t.isPrintable && termsPrintable ts

end

/-- Parameters are printable when each of them is. -/
theorem paramsPrintable_iff {ps : List ParamExpr} :
    paramsPrintable ps ↔ ∀ p ∈ ps, p.isPrintable := by
  induction ps <;> simp_all [paramsPrintable]

/-- The type has a form that Go knows, and each lexeme is what it is meant to be: names are
identifiers, lengths of arrays are integers, tags are strings. -/
structure TypeExpr.Printable (e : TypeExpr) : Prop where
  form   : e.isPrintable
  tokens : e.lexemes.all Lexeme.isToken

instance (e : TypeExpr) : Decidable e.Printable :=
  decidable_of_iff (e.isPrintable ∧ e.lexemes.all Lexeme.isToken)
    ⟨fun h => ⟨h.1, h.2⟩, fun h => ⟨h.form, h.tokens⟩⟩

/-! ### Layout -/

/-- May the character stand between lexemes? Newlines may not, since they end declarations. -/
def isLexemeGap (c : Char) : Bool :=
  c == ' ' || c == '\t'

/-- The text has the lexemes in order, with blanks around them, and none runs into what stands
behind it. -/
inductive LaidOut : List Lexeme → List Char → Prop
  | nil {gap : List Char} (hgap : gap.all isLexemeGap) : LaidOut [] gap
  | cons {gap text : List Char} {l : Lexeme} {ls : List Lexeme} (hgap : gap.all isLexemeGap)
      (hends : ∀ c ∈ text.head?, l.runsInto c = false) (h : LaidOut ls text) :
      LaidOut (l :: ls) (gap ++ l.text.toList ++ text)

/-- A blank stands only where two lexemes would run together. -/
def Lexeme.join : List Lexeme → List Char
  | []      => []
  | l :: ls =>
    let behind := join ls
    l.text.toList ++ if behind.head?.any l.runsInto then ' ' :: behind else behind

/-- The shortest text that lays the lexemes of a type out. -/
def TypeExpr.print (e : TypeExpr) : String :=
  .ofList (Lexeme.join e.lexemes)

/-- Blanks and newlines end every lexeme. -/
theorem Lexeme.runsInto_of_mem (l : Lexeme) {c : Char} (hc : c ∈ [' ', '\n']) :
    l.runsInto c = false := by
  have hword : Text.isIdentifierPart ' ' = false ∧ Text.isIdentifierPart '\n' = false := by decide
  simp only [List.mem_cons, List.not_mem_nil, or_false] at hc
  rcases hc with rfl | rfl <;> cases l <;> simp [runsInto, Literal.numberEnds, hword]

theorem LaidOut.gap_append {ls : List Lexeme} {gap text : List Char} (h : LaidOut ls text)
    (hgap : gap.all isLexemeGap) : LaidOut ls (gap ++ text) := by
  cases h with
  | nil hbehind => exact .nil (by rw [List.all_append, hgap, hbehind]; rfl)
  | cons hbehind hends h =>
    rw [← List.append_assoc, ← List.append_assoc]
    exact .cons (by rw [List.all_append, hgap, hbehind]; rfl) hends h

theorem LaidOut.blank_cons {ls : List Lexeme} {text : List Char} (h : LaidOut ls text) :
    LaidOut ls (' ' :: text) :=
  have hspace : [' '].all isLexemeGap := by decide
  h.gap_append hspace

/-- Lexemes joined by blanks are laid out. -/
theorem laidOut_join (ls : List Lexeme) : LaidOut ls (Lexeme.join ls) := by
  induction ls with
  | nil => exact .nil rfl
  | cons l ls ih =>
    rw [Lexeme.join]
    split
    · exact @LaidOut.cons [] _ _ _ rfl (by simp [l.runsInto_of_mem]) ih.blank_cons
    · next h =>
      refine @LaidOut.cons [] _ _ _ rfl (fun c hc => ?_) ih
      rw [Option.mem_def] at hc
      simpa [hc] using h

/-- A type is printed so that no two lexemes run together. -/
theorem TypeExpr.laidOut_print (e : TypeExpr) : LaidOut e.lexemes e.print.toList := by
  rw [print, String.toList_ofList]
  exact laidOut_join e.lexemes

end GoMocks.GoSource
