/-!
# Text — character tables

A Unicode property as a sorted list of stretches of code points. A stretch with step 2 holds every
other code point, as in the alphabets where capitals and small letters alternate.
-/

namespace GoMocks.Text

/-- The code points `first`, `first + step`, … up to `last`. -/
structure CharStretch where
  first : Nat
  last  : Nat
  step  : Nat

/-- Is the code point in the stretch? -/
def CharStretch.contains (s : CharStretch) (n : Nat) : Bool :=
  s.first ≤ n && n ≤ s.last && (n - s.first) % s.step == 0

/-- Stretches in increasing order, no two of which overlap. -/
abbrev CharTable := List CharStretch

/-- The search stops at the first stretch that ends at the code point or behind it. -/
def CharTable.contains (table : CharTable) (c : Char) : Bool :=
  match table.find? (c.toNat ≤ ·.last) with
  | some s => s.contains c.toNat
  | none   => false

end GoMocks.Text
