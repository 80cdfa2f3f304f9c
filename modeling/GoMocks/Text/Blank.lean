/-!
# Text — blanks

The Unicode property *White_Space*, and the two operations that go by it: cutting the blanks off
both ends, and splitting a text into the words between them.
-/

namespace GoMocks.Text

/-- Has the character the property *White_Space*? -/
def isBlank (c : Char) : Bool :=
  let n := c.toNat
  (0x09 ≤ n && n ≤ 0x0d) || n == 0x20 || n == 0x85 || n == 0xa0 || n == 0x1680 ||
    (0x2000 ≤ n && n ≤ 0x200a) || n == 0x2028 || n == 0x2029 || n == 0x202f || n == 0x205f ||
    n == 0x3000

/-- Cuts the characters of a class off both ends. -/
def trimChars (p : Char → Bool) (cs : List Char) : List Char :=
  ((cs.dropWhile p).reverse.dropWhile p).reverse

/-- The text without the blanks at its ends. -/
def trim (s : String) : String :=
  .ofList (trimChars isBlank s.toList)

/-- The maximal runs of characters that are not blank. -/
def words (s : String) : List String :=
  (s.toList.splitOnP isBlank |>.filter (· ≠ [])).map .ofList

end GoMocks.Text
