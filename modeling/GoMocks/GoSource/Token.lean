import GoMocks.GoSource.Literal
import GoMocks.Identifier

/-!
# Go source — tokens

A Go source is cut into tokens. Each token knows what stands before it: the blanks and comments
since the last token, and whether a newline is among the blanks, since a newline may end a
statement. Newlines inside comments do not count.

* `Token.scanAll`: the tokens of a source, closed by an `eof` token.
* `Token.spanText`: the source of some tokens in a row.
-/

namespace GoMocks.GoSource

/-- What a token is. Signs are operators and punctuation; a NUL character counts as one, since it
ends a statement. -/
inductive TokenKind
  | name | keyword | sign
  | integer | number | rune | string
  | eof
  deriving DecidableEq, Repr, Inhabited

/-- A token with its place, and with what stands before it. -/
structure Token where
  kind     : TokenKind
  text     : String
  /-- The blanks and comments before it, as they are written. -/
  gap      : String
  /-- Is there a newline among the blanks before it? -/
  newline  : Bool
  /-- The comments before it. -/
  comments : List String
  /-- The line it starts on, counted from 1. -/
  line     : Nat
  deriving DecidableEq, Repr, Inhabited

namespace Token

/-- The signs, the longer ones before their beginnings. -/
def signs : List (List Char) :=
  ["...", "&^=", "<<=", ">>=", "&^", "&&", "&=", "||", "|=", "<<", "<=", "<-", ">>", ">=", "==",
    "!=", ":=", "++", "+=", "--", "-=", "*=", "/=", "%=", "^=", ".", "&", "|", "<", ">", "=", "!",
    ":", "+", "-", "*", "/", "%", "^", "~", "(", ")", "[", "]", "\x7b", "\x7d", ",", ";",
    "\x00"].map String.toList

/-- The kind of a word. -/
def wordKind (word : String) : TokenKind :=
  if goKeywords.contains word then .keyword else .name

/-- The kind of the token at the front of a text that begins with no blank and no comment, and
what follows the token. -/
def scan (cs : List Char) : Option (TokenKind × List Char) :=
  match cs with
  | [] => none
  | c :: rest =>
    if Text.isIdentifierStart c then
      some (wordKind (.ofList (cs.takeWhile Text.isIdentifierPart)),
        rest.dropWhile Text.isIdentifierPart)
    else if c = '"' then (Literal.scanString cs).map (.string, ·)
    else if c = Literal.rawQuote then (Literal.scanRawString cs).map (.string, ·)
    else if c = '\'' then (Literal.scanRune cs).map (.rune, ·)
    else
      match Literal.scanNumber cs with
      | some (.integer, rest) => some (.integer, rest)
      | some (_, rest)        => some (.number, rest)
      | none => (signs.find? (·.isPrefixOf cs)).map fun s => (.sign, cs.drop s.length)

/-- A comment in the form of a block, behind its opening. -/
def blockCommentTail : List Char → Option (List Char)
  | '*' :: '/' :: rest => some rest
  | _ :: rest          => blockCommentTail rest
  | []                 => none

/-- What follows the comment at the front of a text, if there is a comment. A block that is not
closed is none. -/
def skipComment : List Char → Option (List Char)
  | '/' :: '/' :: rest => some (rest.dropWhile (· != '\n'))
  | '/' :: '*' :: rest => blockCommentTail rest
  | _                  => none

/-- May the character stand between tokens and mean nothing? No blank beyond ASCII may. -/
def isGapChar (c : Char) : Bool :=
  c == ' ' || ('\t' ≤ c && c ≤ '\r')

/-- What stands before a token, and the text from the token on. -/
structure Gap where
  newline  : Bool
  comments : List String
  rest     : List Char

/-- Passes over blanks and comments, at most `fuel` runs of them. -/
def skipGap : Nat → List Char → Gap
  | 0, cs => ⟨false, [], cs⟩
  | fuel + 1, cs =>
    let rest := cs.dropWhile isGapChar
    let newline := (cs.takeWhile isGapChar).contains '\n'
    match skipComment rest with
    | none => ⟨newline, [], rest⟩
    | some behind =>
      let gap := skipGap fuel behind
      ⟨newline || gap.newline, .ofList (rest.take (rest.length - behind.length)) :: gap.comments,
        gap.rest⟩

/-- The tokens of a text that starts on some line, at most `fuel` of them. -/
def scanFrom (line : Nat) : Nat → List Char → Option (List Token)
  | 0, _ => none
  | fuel + 1, cs =>
    let gap := skipGap (cs.length + 1) cs
    let skipped := cs.take (cs.length - gap.rest.length)
    let start := line + skipped.count '\n'
    let token (kind : TokenKind) (text : List Char) : Token :=
      ⟨kind, .ofList text, .ofList skipped, gap.newline, gap.comments, start⟩
    match gap.rest with
    | [] => some [token .eof []]
    | _ :: _ => do
      let (kind, rest) ← scan gap.rest
      let text := gap.rest.take (gap.rest.length - rest.length)
      let tokens ← scanFrom (start + text.count '\n') fuel rest
      return token kind text :: tokens

/-- The mark some editors put in front of a text. -/
def byteOrderMark : Char := '\ufeff'

/-- The tokens of a source. -/
def scanAll (source : String) : Option (List Token) :=
  let cs := match source.toList with
    | c :: rest => if c = byteOrderMark then rest else c :: rest
    | []        => []
  scanFrom 1 (cs.length + 1) cs

/-- The source of some tokens in a row, from the first to the last. -/
def spanText : List Token → String
  | []          => ""
  | first :: ts => first.text ++ String.join (ts.map fun t => t.gap ++ t.text)

end Token

end GoMocks.GoSource
