import GoMocks.Text.Printable

/-!
# Text — quoted text

Text between double quotes. A backslash, a double quote and the usual control characters have
escapes of two characters; every other character that is not printable is written by its number,
`\u{200b}`.
-/

namespace GoMocks.Text

/-- The written form of one character between double quotes. -/
def escapeChar (c : Char) : List Char :=
  if c = '\x00' then ['\\', '0']
  else if c = '\t' then ['\\', 't']
  else if c = '\n' then ['\\', 'n']
  else if c = '\r' then ['\\', 'r']
  else if c = '"' then ['\\', '"']
  else if c = '\\' then ['\\', '\\']
  else if isPrintable c then [c]
  else ['\\', 'u', '\x7b'] ++ Nat.toDigits 16 c.toNat ++ ['\x7d']

/-- The text between double quotes. -/
def quoted (s : String) : String :=
  .ofList ('"' :: s.toList.flatMap escapeChar ++ ['"'])

end GoMocks.Text
