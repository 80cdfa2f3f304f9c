import GoMocks.Identifier
import Mathlib

/-!
# Go identifiers — where they end

An identifier ends in front of every sign that stands around types, so it can be taken off the
front of a text.

* `signs`: the signs, and the blank.
* `IsWord`, `EndsWord`: words, and what ends them.
* `IsWord.takeWhile_append`, `IsWord.dropWhile_append`: a word in front of a text that ends it is
  found again.
-/

namespace GoMocks

open Text (isIdentifierStart isIdentifierPart)

/-! ### Characters below 128 -/

/-- Of the ASCII characters, letters, digits and underscores stand in identifiers. -/
theorem isIdentifierPart_of_ascii {c : Char} (h : c.val < 0x80) :
    isIdentifierPart c = (c.isAlpha || c == '_' || c.isDigit) := by
  simp [isIdentifierPart, isIdentifierStart, h]

/-- A digit can stand in an identifier. -/
theorem isIdentifierPart_of_isDigit {c : Char} (h : c.isDigit) : isIdentifierPart c := by
  have hascii : c.val < 0x80 := by
    simp only [Char.isDigit, Bool.and_eq_true, decide_eq_true_eq] at h
    exact UInt32.lt_of_le_of_lt h.2 (by decide)
  rw [isIdentifierPart_of_ascii hascii, h, Bool.or_true]

/-- No identifier starts with a digit. -/
theorem not_isDigit_of_isIdentifierStart {c : Char} (h : isIdentifierStart c) :
    c.isDigit = false := by
  refine Bool.eq_false_iff.mpr fun hdigit => ?_
  simp only [Char.isDigit, ge_iff_le, Bool.and_eq_true, decide_eq_true_eq,
    UInt32.le_iff_toNat_le] at hdigit
  have hascii : c.val < 0x80 := by
    rw [UInt32.lt_iff_toNat_lt]
    exact Nat.lt_of_le_of_lt hdigit.2 (by decide)
  simp only [isIdentifierStart, if_pos hascii, Char.isAlpha, Char.isUpper, Char.isLower, ge_iff_le,
    Bool.or_eq_true, Bool.and_eq_true, decide_eq_true_eq, UInt32.le_iff_toNat_le, beq_iff_eq] at h
  rcases h with (h | h) | rfl
  · exact absurd (h.1.trans hdigit.2) (by decide)
  · exact absurd (h.1.trans hdigit.2) (by decide)
  · exact absurd hdigit.2 (by decide)

/-- The signs that stand around types and the names in them, and the blank. -/
def signs : List Char :=
  [' ', '.', ',', ';', '*', '~', '|', '<', '-', '(', ')', '[', ']', '\x7b', '\x7d', '"', '\x60']

/-- No sign stands in an identifier. -/
theorem isIdentifierPart_of_mem_signs {c : Char} (h : c ∈ signs) : isIdentifierPart c = false := by
  have hsigns : signs.all fun c => c.val < 0x80 && !(c.isAlpha || c == '_' || c.isDigit) := by
    decide
  obtain ⟨hascii, hpart⟩ : c.val < 0x80 ∧ (c.isAlpha || c == '_' || c.isDigit) = false := by
    simpa using List.all_eq_true.mp hsigns c h
  rw [isIdentifierPart_of_ascii hascii, hpart]

/-! ### Words -/

/-- A text of letters, digits and underscores that is not empty. -/
def IsWord (w : String) : Prop :=
  w.toList ≠ [] ∧ ∀ c ∈ w.toList, isIdentifierPart c

/-- A word in front of the text would end there. -/
def EndsWord (p : List Char) : Prop :=
  ∀ c ∈ p.head?, c ∈ signs

/-- An identifier begins with a letter or an underscore. -/
theorem head_of_isIdentifier {name : String} (h : isIdentifier name) :
    ∃ c cs, name.toList = c :: cs ∧ isIdentifierStart c := by
  obtain ⟨hshaped, -⟩ := Bool.and_eq_true_iff.mp h
  rw [isIdentifierShaped] at hshaped
  cases hname : name.toList with
  | nil => exact nomatch hname ▸ hshaped
  | cons c cs =>
    simp only [hname, Bool.and_eq_true] at hshaped
    exact ⟨c, cs, rfl, hshaped.1⟩

/-- Behind the first character of an identifier, more characters of one can stand. -/
theorem isIdentifierShaped_append {w v : String} (h : isIdentifierShaped w)
    (hv : v.toList.all isIdentifierPart) : isIdentifierShaped (w ++ v) := by
  rw [isIdentifierShaped] at h ⊢
  rw [String.toList_append]
  cases hw : w.toList with
  | nil => exact nomatch hw ▸ h
  | cons c cs =>
    simp only [hw, Bool.and_eq_true] at h
    simp only [List.cons_append, List.all_append, Bool.and_eq_true]
    exact ⟨h.1, h.2, hv⟩

/-- An identifier is no keyword. -/
theorem not_mem_goKeywords_of_isIdentifier {name : String} (h : isIdentifier name) :
    name ∉ goKeywords := by
  obtain ⟨-, hkeyword⟩ := Bool.and_eq_true_iff.mp h
  simpa using hkeyword

namespace IsWord

variable {w : String} {p : List Char}

theorem of_isIdentifier (h : isIdentifier w) : IsWord w := by
  obtain ⟨hshaped, -⟩ := Bool.and_eq_true_iff.mp h
  rw [isIdentifierShaped] at hshaped
  cases hname : w.toList with
  | nil => exact nomatch hname ▸ hshaped
  | cons c cs =>
    simp only [hname, Bool.and_eq_true, List.all_eq_true] at hshaped
    rw [IsWord, hname]
    exact ⟨nofun,
      List.forall_mem_cons.mpr ⟨by simp [isIdentifierPart, hshaped.1], hshaped.2⟩⟩

theorem of_mem_goKeywords (h : w ∈ goKeywords) : IsWord w := by
  have hall : goKeywords.all fun w => w.toList ≠ [] ∧ w.toList.all isIdentifierPart := by decide
  have hw := List.all_eq_true.mp hall w h
  simp only [decide_eq_true_eq, List.all_eq_true] at hw
  exact hw

theorem ne_empty (h : IsWord w) : w ≠ "" := by
  rintro rfl
  exact h.1 rfl

/-- The first character of a word is no sign. -/
theorem head_not_sign (h : IsWord w) : ∃ c cs, w.toList = c :: cs ∧ c ∉ signs := by
  obtain ⟨hne, hall⟩ := h
  obtain ⟨c, cs, hcs⟩ := List.exists_cons_of_ne_nil hne
  refine ⟨c, cs, hcs, fun hsign => ?_⟩
  have hpart := hall c (by simp [hcs])
  exact nomatch (isIdentifierPart_of_mem_signs hsign).symm.trans hpart

theorem takeWhile_append (h : IsWord w) (hp : EndsWord p) :
    (w.toList ++ p).takeWhile isIdentifierPart = w.toList := by
  rw [List.takeWhile_append_of_pos h.2]
  cases p with
  | nil => simp
  | cons c p => simp [isIdentifierPart_of_mem_signs (hp c rfl)]

theorem dropWhile_append (h : IsWord w) (hp : EndsWord p) :
    (w.toList ++ p).dropWhile isIdentifierPart = p := by
  rw [List.dropWhile_append_of_pos h.2]
  cases p with
  | nil => rfl
  | cons c p => simp [isIdentifierPart_of_mem_signs (hp c rfl)]

end IsWord

end GoMocks
