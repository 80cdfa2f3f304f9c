/-!
# Text — hexadecimal numbers
-/

namespace GoMocks.Text

/-- The value of a hexadecimal digit. -/
def hexDigit? (c : Char) : Option Nat :=
  if c.isDigit then some (c.toNat - '0'.toNat)
  else if 'a' ≤ c && c ≤ 'f' then some (c.toNat - 'a'.toNat + 10)
  else if 'A' ≤ c && c ≤ 'F' then some (c.toNat - 'A'.toNat + 10)
  else none

/-- The number some hexadecimal digits write. -/
def hexNumber? (digits : List Char) : Option Nat :=
  digits.foldlM (fun n c => (hexDigit? c).map (16 * n + ·)) 0

/-- The character whose number some hexadecimal digits write. -/
def hexChar? (digits : List Char) : Option Char := do
  let n ← hexNumber? digits
  if n.isValidChar then some (Char.ofNat n) else none

end GoMocks.Text
