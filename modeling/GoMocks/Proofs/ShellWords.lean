import GoMocks.ShellWords
import Mathlib

/-!
# Shell words — taken apart again

A shell takes a command line apart at its blanks. Quotes and backslashes keep characters from being
read so.

* `ShellWords.split`: the words of a command line.
* `ShellWords.IsKept`: a word that is quoted where it has to be.
* `ShellWords.split_join_iff`: joined words are taken apart into the same words, exactly when all of
  them are kept.
-/

namespace GoMocks.ShellWords

/-! ### Splitting -/

/-- What a character stands between. -/
inductive Quoting
  | bare | single | double
  deriving DecidableEq

/-- Does the character separate words? -/
def separates (c : Char) : Bool :=
  c == ' ' || c == '\t' || c == '\n'

/-- Does a backslash between double quotes quote the character? Any other backslash stands for
itself there. -/
def isSpecial (c : Char) : Bool :=
  c == '$' || c == '`' || c == '"' || c == '\\'

/-- The words of a text, behind what was read of a word so far. No quote is left open, and no
backslash is the last character. A newline behind a backslash is passed over. -/
def splitFrom : Quoting → Option (List Char) → List Char → Option (List (List Char))
  | .bare, word, []   => some word.toList
  | .single, _, []    => none
  | .double, _, []    => none
  | .bare, word, c :: cs =>
    if separates c then (splitFrom .bare none cs).map (word.toList ++ ·)
    else if c = '\'' then splitFrom .single (some (word.getD [])) cs
    else if c = '"' then splitFrom .double (some (word.getD [])) cs
    else if c = '\\' then
      match cs with
      | []      => none
      | d :: cs => splitFrom .bare (if d = '\n' then word else some (word.getD [] ++ [d])) cs
    else splitFrom .bare (some (word.getD [] ++ [c])) cs
  | .single, word, c :: cs =>
    if c = '\'' then splitFrom .bare word cs else splitFrom .single (some (word.getD [] ++ [c])) cs
  | .double, word, c :: cs =>
    if c = '"' then splitFrom .bare word cs
    else if c = '\\' then
      match cs with
      | []      => none
      | d :: cs =>
        if d = '\n' then splitFrom .double word cs
        else if isSpecial d then splitFrom .double (some (word.getD [] ++ [d])) cs
        else splitFrom .double (some (word.getD [] ++ [c, d])) cs
    else splitFrom .double (some (word.getD [] ++ [c])) cs

/-- The words of a command line. -/
def split (line : String) : Option (List String) :=
  (splitFrom .bare none line.toList).map (·.map .ofList)

/-- A word that no shell changes: it is put between quotes, or it has no backslash. -/
def IsKept (word : String) : Prop :=
  needsQuotes word.toList ∨ '\\' ∉ word.toList

instance (word : String) : Decidable (IsKept word) :=
  inferInstanceAs (Decidable (_ ∨ _))

section Reading

variable {quoting : Quoting} {word : Option (List Char)} {w u cs : List Char} {c : Char}
  {ws : List (List Char)}

attribute [local simp] splitFrom

/-! ### Single characters -/

/-- A separator ends the word. -/
theorem splitFrom_separator (hc : separates c) :
    splitFrom .bare word (c :: cs) = (splitFrom .bare none cs).map (word.toList ++ ·) := by
  cases cs <;> simp [hc]

/-- A quote opens a quoted part. -/
theorem splitFrom_quote :
    splitFrom .bare word ('\'' :: cs) = splitFrom .single (some (word.getD [])) cs := by
  cases cs <;> simp [separates]

/-- A backslash keeps the next character as it is. -/
theorem splitFrom_backslash (d : Char) (hd : d ≠ '\n') :
    splitFrom .bare word ('\\' :: d :: cs) = splitFrom .bare (some (word.getD [] ++ [d])) cs := by
  simp [separates, hd]

/-- What is no blank does not separate words. -/
theorem separates_of_isBlank (h : Text.isBlank c = false) : separates c = false := by
  by_contra hc
  simp only [separates, Bool.not_eq_false, Bool.or_eq_true, beq_iff_eq] at hc
  rcases hc with (rfl | rfl) | rfl <;> cases h

/-- A bare character that is read as it stands. -/
theorem splitFrom_plain (hc : needsQuotes [c] = false) (hslash : c ≠ '\\') :
    splitFrom .bare word (c :: cs) = splitFrom .bare (some (word.getD [] ++ [c])) cs := by
  obtain ⟨⟨hblank, hsingle⟩, hdouble⟩ : (Text.isBlank c = false ∧ c ≠ '\'') ∧ c ≠ '"' := by
    simpa [needsQuotes] using hc
  have hseparates := separates_of_isBlank hblank
  cases cs <;> simp [hseparates, hsingle, hdouble, hslash]

/-- A word needs quotes for one of its characters. -/
theorem needsQuotes_cons :
    needsQuotes (c :: w) = false ↔ needsQuotes [c] = false ∧ (w = [] ∨ needsQuotes w = false) := by
  cases w <;> simp [needsQuotes]

/-! ### Words that are kept -/

/-- A word between single quotes is read as it was. -/
theorem splitFrom_single (w u cs : List Char) :
    splitFrom .single (some u) (w.flatMap escapeQuote ++ '\'' :: cs) =
      splitFrom .bare (some (u ++ w)) cs := by
  induction w generalizing u with
  | nil => simp
  | cons c w ih =>
    by_cases hc : c = '\''
    · -- the quotes are closed, and opened again behind a quoted one
      subst hc
      have hescape : ('\'' :: w).flatMap escapeQuote ++ '\'' :: cs =
          '\'' :: '\\' :: '\'' :: '\'' :: (w.flatMap escapeQuote ++ '\'' :: cs) := rfl
      have hclosed (cs : List Char) : splitFrom .single (some u) ('\'' :: cs) =
          splitFrom .bare (some u) cs := by simp
      rw [hescape, hclosed, splitFrom_backslash _ (by decide), splitFrom_quote, Option.getD_some,
        Option.getD_some, ih, List.append_assoc]
      rfl
    · simp [escapeQuote, hc, ih]

/-- A word without quotes, blanks and backslashes is read as it stands. -/
theorem splitFrom_word (h : w = [] ∨ needsQuotes w = false) (hslash : '\\' ∉ w) (u cs : List Char) :
    splitFrom .bare (some u) (w ++ cs) = splitFrom .bare (some (u ++ w)) cs := by
  induction w generalizing u with
  | nil => simp
  | cons c w ih =>
    obtain ⟨hc, hw⟩ := needsQuotes_cons.mp (h.resolve_left (List.cons_ne_nil c w))
    obtain ⟨hne, hmore⟩ := List.ne_and_not_mem_of_not_mem_cons hslash
    rw [List.cons_append, splitFrom_plain hc (Ne.symm hne), Option.getD_some, ih hw hmore,
      List.append_assoc]
    rfl

/-- A kept word is read as it was. -/
theorem splitFrom_kept (h : needsQuotes w ∨ '\\' ∉ w) (cs : List Char) :
    splitFrom .bare none (quote w ++ cs) = splitFrom .bare (some w) cs := by
  by_cases hquotes : needsQuotes w
  · rw [quote, if_pos hquotes, List.cons_append, List.cons_append, List.append_assoc, splitFrom_quote]
    exact splitFrom_single w [] cs
  · rw [Bool.not_eq_true] at hquotes
    have hslash := h.resolve_left (by simp [hquotes])
    rw [quote, if_neg (by simp [hquotes])]
    cases w with
    | nil => cases hquotes
    | cons c w =>
      obtain ⟨hc, hw⟩ := needsQuotes_cons.mp hquotes
      obtain ⟨hne, hmore⟩ := List.ne_and_not_mem_of_not_mem_cons hslash
      rw [List.cons_append, splitFrom_plain hc (Ne.symm hne)]
      exact splitFrom_word hw hmore [c] cs

/-! ### Words that are not kept -/

/-- What was read of a word stays at its front. -/
theorem splitFrom_isPrefix (h : splitFrom quoting (some u) cs = some ws) :
    ∃ v rest, ws = (u ++ v) :: rest := by
  have hgrows {u x : List Char} {ws : List (List Char)} (h : ∃ v rest, ws = (u ++ x ++ v) :: rest) :
      ∃ v rest, ws = (u ++ v) :: rest := by
    obtain ⟨v, rest, rfl⟩ := h
    exact ⟨x ++ v, rest, by rw [List.append_assoc]⟩
  generalize hword : some u = word at h
  fun_induction splitFrom quoting word cs generalizing u ws with
  | case1 =>
    subst hword
    obtain rfl := Option.some.inj h
    exact ⟨[], [], by simp⟩
  | case2 | case3 | case7 | case13 => cases h
  | case4 =>
    subst hword
    obtain ⟨rest, -, rfl⟩ := Option.map_eq_some_iff.mp h
    exact ⟨[], rest, by simp⟩
  | case5 _ _ _ ih | case6 _ _ _ _ ih =>
    subst hword
    exact ih rfl h
  | case8 word d cs _ _ _ ih =>
    subst hword
    by_cases hd : d = '\n'
    · simp only [hd, if_true] at ih h
      exact ih rfl h
    · simp only [hd, if_false] at ih h
      exact hgrows (ih rfl h)
  | case10 _ _ ih | case12 _ _ ih | case14 _ _ _ ih => exact ih hword h
  | case9 _ _ _ _ _ _ _ ih | case11 _ _ _ _ ih | case15 _ _ _ _ _ _ ih | case16 _ _ _ _ _ _ ih
  | case17 _ _ _ _ _ ih =>
    subst hword
    exact hgrows (ih rfl h)

/-- A bare word with a backslash loses it, or goes on behind a blank. -/
theorem splitFrom_lost (hw : w = [] ∨ needsQuotes w = false) (hcs : cs = [] ∨ cs.head? = some ' ')
    (h : splitFrom .bare (some u) (w ++ cs) = some ws) :
    ∃ v rest, ws = (u ++ v) :: rest ∧
      (' ' ∈ v ∨ v.length ≤ w.length ∧ ('\\' ∈ w → v.length < w.length)) := by
  obtain ⟨n, hn⟩ : ∃ n, w.length = n := ⟨_, rfl⟩
  -- a backslash takes the next character with it, so the induction is on the length
  induction n using Nat.strongRecOn generalizing w u with
  | ind n ih =>
  cases w with
  | nil =>
    cases cs with
    | nil =>
      obtain rfl := Option.some.inj h
      exact ⟨[], [], by simp, .inr ⟨Nat.le_refl _, by simp⟩⟩
    | cons blank cs =>
      obtain rfl : blank = ' ' := by simpa using hcs
      rw [List.nil_append, splitFrom_separator rfl] at h
      obtain ⟨rest, -, rfl⟩ := Option.map_eq_some_iff.mp h
      exact ⟨[], rest, by simp, .inr ⟨Nat.le_refl _, by simp⟩⟩
  | cons c w =>
    obtain ⟨hc, hmore⟩ := needsQuotes_cons.mp (hw.resolve_left (List.cons_ne_nil c w))
    rw [List.length_cons] at hn
    by_cases hslash : c = '\\'
    · subst hslash
      cases w with
      | nil =>
        cases cs with
        | nil => cases h
        | cons blank cs =>
          -- the backslash quotes the blank between two words
          obtain rfl : blank = ' ' := by simpa using hcs
          rw [List.singleton_append, splitFrom_backslash _ (by decide)] at h
          obtain ⟨v, rest, rfl⟩ := splitFrom_isPrefix h
          exact ⟨' ' :: v, rest, by simp, .inl (List.mem_cons_self ..)⟩
      | cons d w =>
        obtain ⟨hd, hbehind⟩ := needsQuotes_cons.mp (hmore.resolve_left (List.cons_ne_nil d w))
        have hnewline : d ≠ '\n' := by
          rintro rfl
          cases hd
        rw [List.cons_append, List.cons_append, splitFrom_backslash _ hnewline] at h
        rw [List.length_cons] at hn
        obtain ⟨v, rest, rfl, hv⟩ := ih w.length (by omega) hbehind h rfl
        refine ⟨d :: v, rest, by simp, hv.imp (List.mem_cons_of_mem d) fun ⟨hle, _⟩ => ?_⟩
        simp only [List.length_cons]
        omega
    · rw [List.cons_append, splitFrom_plain hc hslash] at h
      obtain ⟨v, rest, rfl, hv⟩ := ih w.length (by omega) hmore h rfl
      refine ⟨c :: v, rest, by simp, hv.imp (List.mem_cons_of_mem c) fun ⟨hle, hlt⟩ => ?_⟩
      simp only [List.length_cons, List.mem_cons, Ne.symm hslash, false_or]
      exact ⟨by omega, fun h => Nat.succ_lt_succ (hlt h)⟩

/-- A word begins with its first character. -/
theorem splitFrom_none (hc : needsQuotes [c] = false) (hnewline : cs.head? ≠ some '\n') :
    splitFrom .bare none (c :: cs) = splitFrom .bare (some []) (c :: cs) := by
  by_cases hslash : c = '\\'
  · subst hslash
    cases cs with
    | nil => rfl
    | cons d cs =>
      have hd : d ≠ '\n' := by simpa using hnewline
      rw [splitFrom_backslash d hd, splitFrom_backslash d hd]
      rfl
  · rw [splitFrom_plain hc hslash, splitFrom_plain hc hslash]
    rfl

/-- A word that is not kept is no word of the text that it begins. -/
theorem splitFrom_not_kept (hquotes : needsQuotes w = false) (hslash : '\\' ∈ w)
    (hcs : cs = [] ∨ cs.head? = some ' ') : splitFrom .bare none (w ++ cs) ≠ some (w :: ws) := by
  intro h
  cases w with
  | nil => cases hquotes
  | cons c w =>
    obtain ⟨hc, hmore⟩ := needsQuotes_cons.mp hquotes
    have hnewline : (w ++ cs).head? ≠ some '\n' := by
      cases w with
      | nil => rcases hcs with rfl | hblank <;> simp_all
      | cons d w =>
        rintro ⟨⟩
        obtain ⟨hd, -⟩ := needsQuotes_cons.mp (hmore.resolve_left (List.cons_ne_nil _ w))
        cases hd
    rw [List.cons_append, splitFrom_none hc hnewline] at h
    obtain ⟨v, rest, heq, hv⟩ := splitFrom_lost (.inr hquotes) hcs h
    obtain ⟨rfl, -⟩ := List.cons_eq_cons.mp heq
    -- a word with a blank would stand between quotes, and a shorter word is another one
    rcases hv with hblank | ⟨-, hshorter⟩
    · have hany : needsQuotes (c :: w) := by
        rw [needsQuotes, Bool.or_eq_true, List.any_eq_true]
        exact .inr ⟨' ', hblank, rfl⟩
      rw [hquotes] at hany
      cases hany
    · exact Nat.lt_irrefl _ (hshorter hslash)

/-- The first of the quoted words stands in front. -/
theorem intercalate_quote (w : List Char) (words : List (List Char)) :
    ∃ behind, [' '].intercalate ((w :: words).map quote) = quote w ++ behind ∧
      (behind = [] ∧ words = [] ∨ behind = ' ' :: [' '].intercalate (words.map quote)) := by
  cases words with
  | nil => exact ⟨[], by simp, .inl ⟨rfl, rfl⟩⟩
  | cons next words =>
    exact ⟨_, by rw [List.map_cons, List.map_cons, List.intercalate_cons_cons, List.append_assoc]; rfl,
      .inr rfl⟩

/-- Quoted words are split again when each is quoted or has no backslash. -/
theorem splitFrom_joined_iff (words : List (List Char)) :
    splitFrom .bare none ([' '].intercalate (words.map quote)) = some words ↔
      ∀ w ∈ words, needsQuotes w ∨ '\\' ∉ w := by
  induction words with
  | nil => simp
  | cons w words ih =>
    obtain ⟨behind, htext, hbehind⟩ := intercalate_quote w words
    rw [htext, List.forall_mem_cons, ← ih]
    by_cases hw : needsQuotes w ∨ '\\' ∉ w
    · rw [splitFrom_kept hw, and_iff_right hw]
      rcases hbehind with ⟨rfl, rfl⟩ | rfl
      · simp
      · rw [splitFrom_separator rfl]
        simp
    · obtain ⟨hquotes, hslash⟩ : needsQuotes w = false ∧ '\\' ∈ w := by simpa using hw
      have hblank : behind = [] ∨ behind.head? = some ' ' := by
        rcases hbehind with ⟨rfl, -⟩ | rfl
        · exact .inl rfl
        · exact .inr rfl
      rw [quote, if_neg (by simp [hquotes])]
      exact iff_of_false (splitFrom_not_kept hquotes hslash hblank) fun h => hw h.1

end Reading

/-- **Joined words are taken apart again**, exactly when all of them are kept. -/
theorem split_join_iff (words : List String) :
    split (join words) = some words ↔ ∀ word ∈ words, IsKept word := by
  have htext : (join words).toList = [' '].intercalate ((words.map String.toList).map quote) := by
    simp [join, Function.comp_def]
  have hwords {found : List (List Char)} : found.map String.ofList = words ↔
      found = words.map String.toList := by
    constructor
    · rintro rfl
      simp [Function.comp_def]
    · rintro rfl
      simp [Function.comp_def]
  rw [split, htext, Option.map_eq_some_iff]
  simp only [hwords, exists_eq_right, splitFrom_joined_iff, List.forall_mem_map]
  rfl

example : split "a 'b c'd \"e\\\"f\\g\" h\\ i" = some ["a", "b cd", "e\"f\\g", "h i"] := by decide +kernel

end GoMocks.ShellWords
