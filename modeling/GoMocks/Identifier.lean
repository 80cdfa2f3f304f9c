import GoMocks.Text.Identifier
import GoMocks.Text.Uppercase

/-!
# Go identifiers

What an identifier looks like, which words are keywords, and which names other packages can see.
-/

namespace GoMocks

/-- The words that are never names. -/
def goKeywords : List String :=
  ["break", "case", "chan", "const", "continue", "default", "defer", "else", "fallthrough", "for",
    "func", "go", "goto", "if", "import", "interface", "map", "package", "range", "return",
    "select", "struct", "switch", "type", "var"]

/-- A letter or underscore, followed by letters, digits and underscores; keywords count. -/
def isIdentifierShaped (name : String) : Bool :=
  match name.toList with
  | []      => false
  | c :: cs => Text.isIdentifierStart c && cs.all Text.isIdentifierPart

/-- Can the text be a name? -/
def isIdentifier (name : String) : Bool :=
  isIdentifierShaped name && !goKeywords.contains name

/-- A name that begins with an upper-case letter can be used outside its package. -/
def isExported (name : String) : Bool :=
  name.toList.head?.any Text.isUppercase

end GoMocks
