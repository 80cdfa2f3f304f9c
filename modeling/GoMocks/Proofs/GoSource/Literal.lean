import GoMocks.GoSource.Token
import GoMocks.Proofs.Identifier

/-!
# Go source — literals that stand alone

Texts that are one literal and nothing else, as they stand between the brackets of an array type
and behind the type of a struct field.

* `IsInteger`: an integer literal. Its characters are letters, digits and underscores
  (`IsInteger.isWord`), so that it ends where the next sign begins.
* `IsString`: a string literal. Whatever is written behind it, the same literal is read in front of
  that (`IsString.scan_append`).
-/

namespace GoMocks.GoSource

/-- The text is one integer literal. -/
def IsInteger (text : String) : Prop :=
  Token.scan text.toList = some (.integer, [])

/-- The text is one number literal that is no integer. -/
def IsNumber (text : String) : Prop :=
  Token.scan text.toList = some (.number, [])

/-- The text is one string literal, of either kind. -/
def IsString (text : String) : Prop :=
  Token.scan text.toList = some (.string, [])

instance (text : String) : Decidable (IsInteger text) := by unfold IsInteger; infer_instance
instance (text : String) : Decidable (IsNumber text) := by unfold IsNumber; infer_instance
instance (text : String) : Decidable (IsString text) := by unfold IsString; infer_instance

namespace Literal

open Text (isIdentifierPart)

/-- Characters that may stand behind a number. -/
def numberEnds : List Char :=
  [' ', '\t', '\n', ',', ')', ']', '\x7d']

/-! ### Integers are words -/

/-- What the scan takes off the front of a text are characters of identifiers. -/
def TakesWords (scan : List Char → Option (List Char)) : Prop :=
  ∀ cs rest, scan cs = some rest → ∃ lead, cs = lead ++ rest ∧ ∀ c ∈ lead, isIdentifierPart c

namespace TakesWords

variable {scan : List Char → Option (List Char)}

theorem bind {next : List Char → Option (List Char)} (h : TakesWords scan)
    (hn : TakesWords next) : TakesWords fun cs => scan cs >>= next := by
  intro cs rest heq
  obtain ⟨mid, hmid, hrest⟩ := Option.bind_eq_some_iff.mp heq
  obtain ⟨lead, rfl, hlead⟩ := h cs mid hmid
  obtain ⟨lead', rfl, hlead'⟩ := hn mid rest hrest
  exact ⟨lead ++ lead', by simp, fun c hc => (List.mem_append.mp hc).elim (hlead c) (hlead' c)⟩

theorem oneOf {allowed : List Char} (h : allowed.all isIdentifierPart) :
    TakesWords (oneOf allowed) := by
  intro cs rest heq
  cases cs with
  | nil => cases heq
  | cons c cs =>
    rw [Literal.oneOf] at heq
    split at heq
    · next hc =>
      cases heq
      exact ⟨[c], rfl, by simpa using List.all_eq_true.mp h c (by simpa using hc)⟩
    · cases heq

theorem optional (h : TakesWords scan) : TakesWords fun cs => some (Literal.optional scan cs) := by
  intro cs rest heq
  obtain rfl := Option.some.inj heq
  rw [Literal.optional]
  cases hs : scan cs with
  | none      => exact ⟨[], rfl, by simp⟩
  | some rest => exact h cs rest hs

end TakesWords

variable {isDigit : Char → Bool}

theorem takesWords_digitsTail (h : ∀ c, isDigit c → isIdentifierPart c) :
    TakesWords fun cs => some (digitsTail isDigit cs) := by
  intro cs rest heq
  obtain rfl := Option.some.inj heq
  fun_induction digitsTail isDigit cs with
  | case1 c cs hc ih =>
    obtain ⟨lead, hcs, hlead⟩ := ih rfl
    exact ⟨'_' :: c :: lead, by simp [← hcs], by simpa [h c hc] using ⟨by decide, hlead⟩⟩
  | case3 c cs _ hc ih =>
    obtain ⟨lead, hcs, hlead⟩ := ih rfl
    exact ⟨c :: lead, by simp [← hcs], by simpa [h c hc] using hlead⟩
  | case2 | case4 | case5 => exact ⟨[], rfl, by simp⟩

theorem takesWords_digits (h : ∀ c, isDigit c → isIdentifierPart c) :
    TakesWords (digits isDigit) := by
  intro cs rest heq
  cases cs with
  | nil => cases heq
  | cons c cs =>
    rw [digits] at heq
    split at heq
    · next hc =>
      obtain ⟨lead, rfl, hlead⟩ := takesWords_digitsTail h cs rest heq
      exact ⟨c :: lead, rfl, by simpa [h c hc] using hlead⟩
    · cases heq

/-- A hexadecimal digit can stand in an identifier. -/
theorem isIdentifierPart_of_isHexDigit {c : Char} (h : isHexDigit c) : isIdentifierPart c := by
  have hrange : (48 ≤ c.val.toNat ∧ c.val.toNat ≤ 57) ∨ (97 ≤ c.val.toNat ∧ c.val.toNat ≤ 102) ∨
      (65 ≤ c.val.toNat ∧ c.val.toNat ≤ 70) := by
    simpa [isHexDigit, Char.isDigit, Char.le_def, UInt32.le_iff_toNat_le, or_assoc] using h
  have hascii : c.val < 0x80 := by
    rw [UInt32.lt_iff_toNat_lt]
    exact Nat.lt_of_le_of_lt (by omega : c.val.toNat ≤ 102) (by decide)
  rw [isIdentifierPart_of_ascii hascii]
  simp only [Char.isAlpha, Char.isUpper, Char.isLower, Char.isDigit, ge_iff_le,
    UInt32.le_iff_toNat_le]
  have hnat : c.toNat = c.val.toNat := rfl
  rcases hrange with h | h | h <;> simp <;> omega

theorem isHexDigit_of_isDigit {c : Char} (h : c.isDigit) : isHexDigit c := by
  simp [isHexDigit, h]

theorem isHexDigit_of_isOctalDigit {c : Char} (h : isOctalDigit c) : isHexDigit c := by
  refine isHexDigit_of_isDigit ?_
  simp only [isOctalDigit, Char.le_def, UInt32.le_iff_toNat_le, Bool.and_eq_true,
    decide_eq_true_eq] at h
  simp only [Char.isDigit, ge_iff_le, UInt32.le_iff_toNat_le, Bool.and_eq_true, decide_eq_true_eq]
  exact ⟨h.1, h.2.trans (by decide)⟩

theorem isHexDigit_of_isBinaryDigit {c : Char} (h : isBinaryDigit c) : isHexDigit c := by
  obtain rfl | rfl : c = '0' ∨ c = '1' := by simpa [isBinaryDigit] using h
  all_goals decide

theorem takesWords_basedInteger {letters : List Char} (hl : letters.all isIdentifierPart)
    (hd : ∀ c, isDigit c → isHexDigit c) : TakesWords (basedInteger letters isDigit) :=
  (TakesWords.oneOf (by decide)).bind <| (TakesWords.oneOf hl).bind <|
    (TakesWords.oneOf (by decide)).optional.bind <|
      takesWords_digits fun c hc => isIdentifierPart_of_isHexDigit (hd c hc)

theorem takesWords_legacyOctal : TakesWords legacyOctal :=
  (TakesWords.oneOf (by decide)).bind <| (TakesWords.oneOf (by decide)).optional.bind <|
    takesWords_digits fun _ hc => isIdentifierPart_of_isHexDigit (isHexDigit_of_isOctalDigit hc)

theorem takesWords_decimalInteger : TakesWords decimalInteger := by
  intro cs rest heq
  unfold decimalInteger at heq
  split at heq
  · cases heq
    exact ⟨['0'], rfl, List.all_eq_true.mp (by decide)⟩
  · refine takesWords_digits (fun c hc => ?_) _ rest heq
    exact isIdentifierPart_of_isHexDigit (isHexDigit_of_isDigit hc)

/-- The number that is taken has one of the forms. -/
theorem exists_form_of_scanNumber {cs rest : List Char} {kind : NumberKind}
    (h : scanNumber cs = some (kind, rest)) :
    ∃ scan, (kind, scan) ∈ forms ∧ scan cs = some rest := by
  have hfold : ∀ (found : List (Option (NumberKind × List Char))) (best n),
      found.foldl longer best = some n → best = some n ∨ some n ∈ found := by
    intro found
    induction found with
    | nil => exact fun best n h => .inl h
    | cons o found ih =>
      intro best n h
      rcases ih _ n h with h | h
      · -- the longer one of two is one of the two
        unfold longer at h
        split at h
        · split at h <;> simp_all
        · simp_all
        · exact .inr (by simp [h])
      · exact .inr (List.mem_cons_of_mem o h)
  obtain h | h := hfold _ none _ h
  · cases h
  · obtain ⟨⟨k, scan⟩, hmem, hscan⟩ := List.mem_map.mp h
    obtain ⟨rest', hrest, heq⟩ := Option.map_eq_some_iff.mp hscan
    cases heq
    exact ⟨scan, hmem, hrest⟩

theorem takesWords_of_integer {scan : List Char → Option (List Char)}
    (h : (NumberKind.integer, scan) ∈ forms) : TakesWords scan := by
  simp only [forms, plainForms, List.mem_append, List.mem_cons, List.map_cons, List.map_nil,
    Prod.mk.injEq, reduceCtorEq, false_and, true_and, List.not_mem_nil, or_false] at h
  rcases h with rfl | rfl | rfl | rfl | rfl
  · exact takesWords_basedInteger (by decide) fun _ hc => hc
  · exact takesWords_basedInteger (by decide) fun _ hc => isHexDigit_of_isBinaryDigit hc
  · exact takesWords_basedInteger (by decide) fun _ hc => isHexDigit_of_isOctalDigit hc
  · exact takesWords_legacyOctal
  · exact takesWords_decimalInteger

/-! ### Strings end where they end -/

variable {cs rest : List Char}

theorem exactly_append {isMember : Char → Bool} {n : Nat} (h : exactly isMember n cs = some rest)
    (q : List Char) : exactly isMember n (cs ++ q) = some (rest ++ q) := by
  fun_induction exactly isMember n cs <;> simp_all [exactly]

theorem stringEscape_append (h : stringEscape cs = some rest) (q : List Char) :
    stringEscape (cs ++ q) = some (rest ++ q) := by
  unfold stringEscape at h
  split at h
  · exact exactly_append h q
  · exact exactly_append h q
  · exact exactly_append h q
  · simp_all [stringEscape]
  · cases h

theorem stringTail_append {n m : Nat} (h : stringTail n cs = some rest) (hm : n ≤ m)
    (q : List Char) : stringTail m (cs ++ q) = some (rest ++ q) := by
  induction n generalizing m cs with
  | zero => cases h
  | succ n ih =>
    obtain ⟨m, rfl⟩ := Nat.exists_eq_add_of_le' (Nat.le_of_add_left_le hm)
    have hm : n ≤ m := by omega
    unfold stringTail at h
    split at h
    · cases h
      rfl
    · cases h
    · next tail =>
      obtain ⟨behind, hb, hrest⟩ := Option.bind_eq_some_iff.mp h
      have hescape : stringEscape (tail ++ q) = some (behind ++ q) := stringEscape_append hb q
      simpa [stringTail, hescape] using ih hrest hm
    · simp_all [stringTail]
    · cases h

theorem scanRawString_append {body : List Char} (h : rawQuote ∉ body) (q : List Char) :
    scanRawString (rawQuote :: (body ++ rawQuote :: q)) = some q := by
  have hdrop : (body ++ rawQuote :: q).dropWhile (· != rawQuote) = rawQuote :: q := by
    rw [List.dropWhile_append_of_pos]
    · simp
    · intro c hc
      exact bne_iff_ne.mpr fun heq => h (heq ▸ hc)
  simp [scanRawString, oneOf, hdrop]

/-- A raw string that ends with the text has no quote in between. -/
theorem exists_body_of_scanRawString (h : scanRawString (rawQuote :: cs) = some []) :
    ∃ body, cs = body ++ [rawQuote] ∧ rawQuote ∉ body := by
  simp only [scanRawString, oneOf, List.contains_cons, BEq.rfl, Bool.true_or, if_true,
    Option.bind_eq_bind, Option.bind_some] at h
  cases hd : cs.dropWhile (· != rawQuote) with
  | nil => simp [hd] at h
  | cons d ds =>
    obtain rfl : ds = [] := by simpa [hd] using h
    -- what stops the scan is a quote
    obtain rfl : d = rawQuote := by
      simpa [hd] using List.head_dropWhile_not (l := cs) (· != rawQuote) (by simp [hd])
    refine ⟨cs.takeWhile (· != rawQuote), ?_, fun hmem => ?_⟩
    · rw [← hd, List.takeWhile_append_dropWhile]
    · simpa using List.mem_takeWhile_imp hmem

end Literal

/-! ### Literals as tokens -/

variable {text : String}

theorem Token.wordKind_ne (word : String) :
    Token.wordKind word ≠ .integer ∧ Token.wordKind word ≠ .number := by
  rw [Token.wordKind]
  split_ifs <;> exact ⟨TokenKind.noConfusion, TokenKind.noConfusion⟩

/-- Of the scans of a token, only that of a number gives one. -/
theorem Token.scanNumber_of_scan {kind : TokenKind} (hkind : kind = .integer ∨ kind = .number)
    (h : Token.scan cs = some (kind, rest)) :
    ∃ found, Literal.scanNumber cs = some (found, rest) ∧
      (kind = .integer → found = .integer) := by
  revert h
  fun_cases Token.scan cs with
  | case1 => exact nofun
  | case2 =>
    intro h
    rcases hkind with rfl | rfl
    · exact absurd (congrArg Prod.fst (Option.some.inj h)) (Token.wordKind_ne _).1
    · exact absurd (congrArg Prod.fst (Option.some.inj h)) (Token.wordKind_ne _).2
  | case3 | case4 | case5 => rcases hkind with rfl | rfl <;> simp
  | case6 _ _ _ _ _ _ _ hnumber => rcases hkind with rfl | rfl <;> simp [hnumber]
  | case7 | case8 => rcases hkind with rfl | rfl <;> simp_all

/-- An integer is a word that is not empty. -/
theorem IsInteger.isWord (h : IsInteger text) :
    text.toList ≠ [] ∧ ∀ c ∈ text.toList, Text.isIdentifierPart c := by
  rw [IsInteger] at h
  obtain ⟨found, hnumber, hinteger⟩ := Token.scanNumber_of_scan (.inl rfl) h
  obtain rfl := hinteger rfl
  obtain ⟨scan, hmem, hscan⟩ := Literal.exists_form_of_scanNumber hnumber
  obtain ⟨lead, hlead, hword⟩ := Literal.takesWords_of_integer hmem _ _ hscan
  rw [List.append_nil] at hlead
  refine ⟨?_, hlead ▸ hword⟩
  intro hnil
  rw [hnil] at h
  cases h

/-- A string stands between double quotes, where a backslash takes the meaning of the next
character, or between raw quotes. -/
theorem IsString.cases (h : IsString text) :
    (∃ cs, text.toList = '"' :: cs ∧ Literal.stringTail (cs.length + 1) cs = some []) ∨
      ∃ body, text.toList = Literal.rawQuote :: (body ++ [Literal.rawQuote]) ∧
        Literal.rawQuote ∉ body := by
  rw [IsString, Token.scan.eq_def] at h
  cases hcs : text.toList with
  | nil => exact nomatch hcs ▸ h
  | cons c cs =>
    simp only [hcs] at h
    split_ifs at h with _ hquote hraw
    · rw [Token.wordKind] at h
      split_ifs at h <;> exact nomatch congrArg (Option.map Prod.fst) h
    · subst hquote
      obtain ⟨rest, hrest, heq⟩ := Option.map_eq_some_iff.mp h
      cases heq
      exact .inl ⟨cs, rfl, hrest⟩
    · subst hraw
      obtain ⟨rest, hrest, heq⟩ := Option.map_eq_some_iff.mp h
      cases heq
      obtain ⟨body, rfl, hbody⟩ := Literal.exists_body_of_scanRawString hrest
      exact .inr ⟨body, rfl, hbody⟩
    · simp at h
    · split at h <;> simp at h

/-- Between double quotes, most characters stand for themselves. -/
theorem IsString.of_plain (h : ∀ c ∈ text.toList, c ∉ ['"', '\\', '\n']) :
    IsString ("\"" ++ text ++ "\"") := by
  have htail : ∀ (cs : List Char) (n : Nat), (∀ c ∈ cs, c ∉ ['"', '\\', '\n']) → cs.length < n →
      Literal.stringTail n (cs ++ ['"']) = some [] := by
    intro cs
    induction cs with
    | nil =>
      intro n _ hn
      obtain ⟨n, rfl⟩ := Nat.exists_eq_add_of_le' hn
      rfl
    | cons c cs ih =>
      intro n hcs hn
      obtain ⟨hc, hcs⟩ := List.forall_mem_cons.mp hcs
      obtain ⟨n, rfl⟩ := Nat.exists_eq_add_of_le' (Nat.one_le_of_lt hn)
      simp only [List.mem_cons, List.not_mem_nil, or_false, not_or] at hc
      rw [List.cons_append, Literal.stringTail]
      · exact ih n hcs (Nat.lt_of_succ_lt_succ hn)
      all_goals simp_all
  have hscan : Literal.scanString ('"' :: (text.toList ++ ['"'])) = some [] :=
    htail text.toList _ h (by simp)
  have hstart : Text.isIdentifierStart '"' = false := by decide
  simp [IsString, Token.scan, hstart, hscan]

/-- A string begins with a quote. -/
theorem IsString.head (h : IsString text) :
    ∃ c cs, text.toList = c :: cs ∧ (c = '"' ∨ c = Literal.rawQuote) := by
  obtain ⟨cs, hcs, -⟩ | ⟨body, hbody, -⟩ := h.cases
  · exact ⟨_, cs, hcs, .inl rfl⟩
  · exact ⟨_, _, hbody, .inr rfl⟩

/-- A string is read in front of every text. -/
theorem IsString.scan_append (h : IsString text) (q : List Char) :
    Token.scan (text.toList ++ q) = some (.string, q) := by
  obtain ⟨cs, hcs, htail⟩ | ⟨body, hbody, hmem⟩ := h.cases
  · have hscan : Literal.scanString ('"' :: (cs ++ q)) = some q :=
      Literal.stringTail_append htail (by simp) q
    have hstart : Text.isIdentifierStart '"' = false := by decide
    simp [hcs, Token.scan, hstart, hscan]
  · have hscan := Literal.scanRawString_append hmem q
    have hstart : Text.isIdentifierStart Literal.rawQuote = false := by decide
    have hne : Literal.rawQuote ≠ '"' := by decide
    simp [hbody, Token.scan, hstart, hne, hscan]

end GoMocks.GoSource
