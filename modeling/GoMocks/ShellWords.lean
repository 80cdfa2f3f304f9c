import GoMocks.Text.Blank

/-!
# Shell words

A command line as one text, with the arguments that a shell would take apart between single
quotes.
-/

namespace GoMocks.ShellWords

/-- Would a shell take the argument apart, or drop it? -/
def needsQuotes (word : List Char) : Bool :=
  word.isEmpty || word.any fun c => Text.isBlank c || c == '\'' || c == '"'

/-- A single quote cannot stand between single quotes: it closes them, stands behind a backslash
and opens them again. -/
def escapeQuote (c : Char) : List Char :=
  if c = '\'' then ['\'', '\\', '\'', '\''] else [c]

/-- An argument, between single quotes where it needs them. -/
def quote (word : List Char) : List Char :=
  if needsQuotes word then '\'' :: word.flatMap escapeQuote ++ ['\''] else word

/-- The arguments, separated by spaces. -/
def join (words : List String) : String :=
  " ".intercalate (words.map fun w => .ofList (quote w.toList))

end GoMocks.ShellWords
