import GoMocks.Proofs.GoSource.Printing
import GoMocks.Proofs.GoSource.Parsing

/-!
# Go source — the tokens of a layout
-/

namespace GoMocks.GoSource

namespace Literal

/-! ### Numbers end where a bracket closes -/

/-- A number that stands in front of the text ends there. -/
def EndsNumber (q : List Char) : Prop :=
  ∀ c ∈ q.head?, c ∈ numberEnds

/-- What stands behind the end of a number makes no difference. -/
def Stops (scan : List Char → Option (List Char)) : Prop :=
  ∀ cs q, EndsNumber q → scan (cs ++ q) = (scan cs).map (· ++ q)

namespace Stops

variable {scan next : List Char → Option (List Char)}

theorem bind (h : Stops scan) (hn : Stops next) : Stops fun cs => scan cs >>= next := by
  intro cs q hq
  simp only [h cs q hq]
  cases scan cs with
  | none      => rfl
  | some rest => exact hn rest q hq

theorem oneOf {allowed : List Char} (h : numberEnds.all (!allowed.contains ·)) :
    Stops (oneOf allowed) := by
  intro cs q hq
  cases cs with
  | nil =>
    cases q with
    | nil => rfl
    | cons c q =>
      have hc := List.all_eq_true.mp h c (hq c rfl)
      simp_all [Literal.oneOf]
  | cons c cs =>
    simp only [List.cons_append, Literal.oneOf]
    split <;> rfl

theorem optional (h : Stops scan) : Stops fun cs => some (Literal.optional scan cs) := by
  intro cs q hq
  simp only [Literal.optional, h cs q hq]
  cases scan cs <;> rfl

end Stops

variable {isDigit : Char → Bool}

/-- A class of digits that neither an underscore nor the end of a number is in. -/
def IsDigitClass (isDigit : Char → Bool) : Prop :=
  ('_' :: numberEnds).all (!isDigit ·)

instance (isDigit : Char → Bool) : Decidable (IsDigitClass isDigit) :=
  inferInstanceAs (Decidable (_ = true))

/-- No digit ends a number. -/
theorem IsDigitClass.eq_false {c : Char} (h : IsDigitClass isDigit) (hc : c ∈ '_' :: numberEnds) :
    isDigit c = false := by
  simpa using List.all_eq_true.mp h c hc

theorem digitsTail_cons {c : Char} (hc : c ≠ '_') (cs : List Char) :
    digitsTail isDigit (c :: cs) = if isDigit c then digitsTail isDigit cs else c :: cs := by
  rw [digitsTail.eq_def]
  split <;> simp_all

theorem stops_digitsTail (h : IsDigitClass isDigit) :
    Stops fun cs => some (digitsTail isDigit cs) := by
  intro cs q hq
  have hhead (c : Char) (rest : List Char) (hqc : q = c :: rest) : isDigit c = false ∧ c ≠ '_' := by
    have hc := hq c (by simp [hqc])
    refine ⟨h.eq_false (List.mem_cons_of_mem _ hc), ?_⟩
    rintro rfl
    exact absurd hc (by decide)
  have hunderscore : isDigit '_' = false := h.eq_false (List.mem_cons_self ..)
  refine congrArg some ?_
  fun_induction digitsTail isDigit cs with
  | case1 c cs hc ih => simp [digitsTail, hc, ih]
  | case2 c cs hc => simp [digitsTail, hc]
  | case3 c cs hne hc ih =>
    have hc' : c ≠ '_' := fun heq => by simp [heq, hunderscore] at hc
    rw [List.cons_append, digitsTail_cons hc', if_pos hc, ih]
  | case4 c cs hne hc =>
    rw [List.cons_append]
    -- a trailing underscore is read only before a digit, which `q` does not begin with
    by_cases hc' : c = '_'
    · obtain rfl : cs = [] := by
        cases cs with
        | nil => rfl
        | cons d cs => exact absurd rfl (hne d cs hc')
      subst hc'
      cases q with
      | nil => simp [digitsTail, hunderscore]
      | cons d q => simp [digitsTail, (hhead d q rfl).1]
    · rw [digitsTail_cons hc', if_neg hc]
      rfl
  | case5 =>
    cases q with
    | nil => rfl
    | cons d q =>
      obtain ⟨hd, hne⟩ := hhead d q rfl
      simp [digitsTail_cons hne, hd]

theorem stops_digits (h : IsDigitClass isDigit) : Stops (digits isDigit) := by
  intro cs q hq
  cases cs with
  | nil =>
    cases q with
    | nil => rfl
    | cons c q =>
      have hc : isDigit c = false := h.eq_false (List.mem_cons_of_mem _ (hq c rfl))
      simp [digits, hc]
  | cons c cs =>
    rw [List.cons_append, digits, digits]
    split
    · exact stops_digitsTail h cs q hq
    · rfl

theorem isDigitClass_isHexDigit : IsDigitClass isHexDigit := by decide

theorem isDigitClass_isOctalDigit : IsDigitClass isOctalDigit := by decide

theorem isDigitClass_isBinaryDigit : IsDigitClass isBinaryDigit := by decide

theorem isDigitClass_isDigit : IsDigitClass Char.isDigit := by decide

theorem stops_basedInteger {letters : List Char} (hl : numberEnds.all (!letters.contains ·))
    (hd : IsDigitClass isDigit) : Stops (basedInteger letters isDigit) :=
  (Stops.oneOf (by decide)).bind <| (Stops.oneOf hl).bind <|
    (Stops.oneOf (by decide)).optional.bind (stops_digits hd)

theorem stops_legacyOctal : Stops legacyOctal :=
  (Stops.oneOf (by decide)).bind <| (Stops.oneOf (by decide)).optional.bind <|
    stops_digits isDigitClass_isOctalDigit

theorem stops_decimalInteger : Stops decimalInteger := by
  intro cs q hq
  have hdigits := stops_digits isDigitClass_isDigit cs q hq
  cases cs with
  | nil =>
    cases q with
    | nil => rfl
    | cons c q =>
      have hc : c ≠ '0' := by
        rintro rfl
        exact absurd (hq '0' rfl) (by decide)
      rw [List.nil_append, decimalInteger.eq_def]
      split
      · next heq => exact absurd (List.cons.inj heq).1 hc
      · exact hdigits
  | cons c cs =>
    rw [List.cons_append] at hdigits ⊢
    by_cases hc : c = '0'
    · subst hc
      rfl
    · rw [decimalInteger.eq_def, decimalInteger.eq_def]
      simpa [hc] using hdigits

theorem stops_exponent {letters : List Char} (hl : numberEnds.all (!letters.contains ·)) :
    Stops (exponent letters) :=
  (Stops.oneOf hl).bind <| (Stops.oneOf (by decide)).optional.bind <|
    stops_digits isDigitClass_isDigit

theorem stops_pointFloat : Stops pointFloat :=
  (stops_digits isDigitClass_isDigit).bind <| (Stops.oneOf (by decide)).bind <|
    (stops_digits isDigitClass_isDigit).optional.bind (stops_exponent (by decide)).optional

theorem stops_exponentFloat : Stops exponentFloat :=
  (stops_digits isDigitClass_isDigit).bind (stops_exponent (by decide))

theorem stops_fractionFloat : Stops fractionFloat :=
  (Stops.oneOf (by decide)).bind <| (stops_digits isDigitClass_isDigit).bind <|
    (stops_exponent (by decide)).optional

theorem stops_hexMantissa : Stops hexMantissa := by
  have hpoint : Stops (oneOf ['.']) := .oneOf (by decide)
  have hdigits := stops_digits isDigitClass_isHexDigit
  intro cs q hq
  rw [hexMantissa, hexMantissa, hpoint cs q hq]
  cases oneOf ['.'] cs with
  | some rest => exact hdigits rest q hq
  | none =>
    have hunderscore : Stops (oneOf ['_']) := .oneOf (by decide)
    have hlead : digits isHexDigit (optional (oneOf ['_']) (cs ++ q)) =
        (digits isHexDigit (optional (oneOf ['_']) cs)).map (· ++ q) :=
      hunderscore.optional.bind hdigits cs q hq
    simp only [Option.map_none, hlead]
    cases digits isHexDigit (optional (oneOf ['_']) cs) with
    | none => rfl
    | some rest =>
      simp only [Option.map_some, Option.bind_eq_bind, Option.bind_some, hpoint rest q hq]
      cases oneOf ['.'] rest with
      | none      => rfl
      | some rest => exact hdigits.optional rest q hq

theorem stops_hexFloat : Stops hexFloat :=
  (Stops.oneOf (by decide)).bind <| (Stops.oneOf (by decide)).bind <|
    stops_hexMantissa.bind (stops_exponent (by decide))

theorem stops_plainForms : ∀ form ∈ plainForms, Stops form.2 := by
  simp only [plainForms, List.mem_cons, List.not_mem_nil, or_false, forall_eq_or_imp, forall_eq]
  exact ⟨stops_basedInteger (by decide) isDigitClass_isHexDigit,
    stops_basedInteger (by decide) isDigitClass_isBinaryDigit,
    stops_basedInteger (by decide) isDigitClass_isOctalDigit, stops_legacyOctal,
    stops_decimalInteger, stops_pointFloat, stops_exponentFloat, stops_fractionFloat,
    stops_hexFloat⟩

/-- Every form of number stops where a number ends. -/
theorem stops_forms : ∀ form ∈ forms, Stops form.2 := by
  have himaginary {scan : List Char → Option (List Char)} (h : Stops scan) :
      Stops (imaginary scan) :=
    h.bind (.oneOf (by decide))
  intro form hform
  rcases List.mem_append.mp hform with hform | hform
  · exact stops_plainForms form hform
  · rcases List.mem_cons.mp hform with rfl | hform
    · exact himaginary (stops_digits isDigitClass_isDigit)
    · obtain ⟨plain, hplain, rfl⟩ := List.mem_map.mp hform
      exact himaginary (stops_plainForms plain hplain)

/-- A number is read in front of its end as it is alone. -/
theorem scanNumber_append {cs q : List Char} (hq : EndsNumber q) :
    scanNumber (cs ++ q) = (scanNumber cs).map fun n => (n.1, n.2 ++ q) := by
  have hlonger (best next : Option (NumberKind × List Char)) :
      longer (best.map fun n => (n.1, n.2 ++ q)) (next.map fun n => (n.1, n.2 ++ q)) =
        (longer best next).map fun n => (n.1, n.2 ++ q) := by
    cases best <;> cases next <;> simp [longer]
    split <;> rfl
  have hfold (found : List (Option (NumberKind × List Char))) (best) :
      (found.map (Option.map fun n => (n.1, n.2 ++ q))).foldl longer
        (Option.map (fun n => (n.1, n.2 ++ q)) best) =
        (found.foldl longer best).map fun n => (n.1, n.2 ++ q) := by
    induction found generalizing best with
    | nil => rfl
    | cons next found ih => rw [List.map_cons, List.foldl_cons, List.foldl_cons, hlonger, ih]
  have hforms : (forms.map fun form => (form.2 (cs ++ q)).map (form.1, ·)) =
      (forms.map fun form => (form.2 cs).map (form.1, ·)).map
        (Option.map fun n => (n.1, n.2 ++ q)) := by
    rw [List.map_map]
    refine List.map_congr_left fun form hform => ?_
    simp [stops_forms form hform cs q hq, Function.comp_def]
  rw [scanNumber, hforms]
  exact hfold _ none

/-! ### What is no number -/

/-- A digit, perhaps behind a point, begins the text. -/
def StartsNumber (cs : List Char) : Prop :=
  (∃ c rest, cs = c :: rest ∧ c.isDigit) ∨ ∃ c rest, cs = '.' :: c :: rest ∧ c.isDigit

/-- What begins with digits starts a number. -/
theorem startsNumber_of_digits {cs rest : List Char} (h : digits Char.isDigit cs = some rest) :
    StartsNumber cs := by
  cases cs with
  | nil => cases h
  | cons c cs =>
    rw [digits] at h
    split at h
    · exact .inl ⟨c, cs, rfl, ‹_›⟩
    · cases h

theorem startsNumber_of_bind {scan next : List Char → Option (List Char)} {cs rest : List Char}
    (h : ∀ rest, scan cs = some rest → StartsNumber cs) (heq : scan cs >>= next = some rest) :
    StartsNumber cs := by
  obtain ⟨mid, hmid, -⟩ := Option.bind_eq_some_iff.mp heq
  exact h mid hmid

theorem startsNumber_of_zero {cs rest : List Char} (h : oneOf ['0'] cs = some rest) :
    StartsNumber cs := by
  cases cs with
  | nil => cases h
  | cons c cs =>
    rw [oneOf] at h
    split at h
    · next hc =>
      obtain rfl : c = '0' := by simpa using hc
      exact .inl ⟨'0', cs, rfl, rfl⟩
    · cases h

/-- What a form of number scans starts a number. -/
theorem startsNumber_of_plainForms :
    ∀ form ∈ plainForms, ∀ cs rest, form.2 cs = some rest → StartsNumber cs := by
  simp only [plainForms, List.mem_cons, List.not_mem_nil, or_false, forall_eq_or_imp, forall_eq]
  have hzero (next : List Char → Option (List Char)) (cs rest : List Char) :
      oneOf ['0'] cs >>= next = some rest → StartsNumber cs :=
    startsNumber_of_bind fun _ => startsNumber_of_zero
  have hdigits (next : List Char → Option (List Char)) (cs rest : List Char) :
      digits Char.isDigit cs >>= next = some rest → StartsNumber cs :=
    startsNumber_of_bind fun _ => startsNumber_of_digits
  -- the two left are the decimal integer, in two alternatives, and the form that begins with a
  -- point
  refine ⟨hzero _, hzero _, hzero _, hzero _, ?_, hdigits _, hdigits _, ?_, hzero _⟩
  · intro cs rest h
    rw [decimalInteger.eq_def] at h
    split at h
    · next tail => exact .inl ⟨'0', tail, rfl, rfl⟩
    · exact startsNumber_of_digits h
  · intro cs rest h
    obtain ⟨tail, hpoint, h⟩ := Option.bind_eq_some_iff.mp h
    obtain ⟨_, hdigits, -⟩ := Option.bind_eq_some_iff.mp h
    cases cs with
    | nil => cases hpoint
    | cons c cs =>
      rw [oneOf] at hpoint
      split at hpoint
      · next hc =>
        obtain rfl : c = '.' := by simpa using hc
        cases hpoint
        cases tail with
        | nil => cases hdigits
        | cons d tail =>
          rw [digits] at hdigits
          split at hdigits
          · exact .inr ⟨d, tail, rfl, ‹_›⟩
          · cases hdigits
      · cases hpoint

/-- What is scanned as a number starts one. -/
theorem startsNumber_of_scanNumber {cs rest : List Char} {kind : NumberKind}
    (h : scanNumber cs = some (kind, rest)) : StartsNumber cs := by
  obtain ⟨scan, hmem, hscan⟩ := exists_form_of_scanNumber h
  rcases List.mem_append.mp hmem with hmem | hmem
  · exact startsNumber_of_plainForms _ hmem cs rest hscan
  · rcases List.mem_cons.mp hmem with heq | hmem
    · cases heq
      exact startsNumber_of_bind (fun _ => startsNumber_of_digits) hscan
    · obtain ⟨plain, hplain, heq⟩ := List.mem_map.mp hmem
      cases heq
      exact startsNumber_of_bind (startsNumber_of_plainForms plain hplain cs) hscan

end Literal

/-! ### Lexemes as tokens -/

section Lexemes

variable {w : String} {text : List Char}

/-- A word is scanned whole when the text behind ends it. -/
theorem scan_word (h : isIdentifierShaped w)
    (hends : ∀ c ∈ text.head?, Text.isIdentifierPart c = false) :
    Token.scan (w.toList ++ text) = some (Token.wordKind w, text) := by
  rw [isIdentifierShaped] at h
  cases hw : w.toList with
  | nil => simp [hw] at h
  | cons c cs =>
    simp only [hw, Bool.and_eq_true, List.all_eq_true] at h
    obtain ⟨hstart, hpart⟩ := h
    have hc : Text.isIdentifierPart c := by simp [Text.isIdentifierPart, hstart]
    have hstop : text.takeWhile Text.isIdentifierPart = [] ∧
        text.dropWhile Text.isIdentifierPart = text := by
      cases text with
      | nil => exact ⟨rfl, rfl⟩
      | cons d text => simp [hends d rfl]
    have htake : (c :: cs ++ text).takeWhile Text.isIdentifierPart = c :: cs := by
      rw [List.takeWhile_append_of_pos (by simpa [hc] using hpart), hstop.1, List.append_nil]
    have hdrop : (cs ++ text).dropWhile Text.isIdentifierPart = text := by
      rw [List.dropWhile_append_of_pos hpart, hstop.2]
    rw [List.cons_append] at htake ⊢
    rw [Token.scan, if_pos hstart, htake, hdrop, ← hw, String.ofList_toList]

/-- A number is read in front of its end as it is alone. -/
theorem scan_numeral {kind : TokenKind} (hkind : kind = .integer ∨ kind = .number)
    (h : Token.scan w.toList = some (kind, [])) (hends : Literal.EndsNumber text) :
    Token.scan (w.toList ++ text) = some (kind, text) := by
  cases hw : w.toList with
  | nil => simp [hw, Token.scan] at h
  | cons c cs =>
    rw [hw, Token.scan] at h
    rw [List.cons_append, Token.scan, ← List.cons_append, Literal.scanNumber_append hends]
    -- the first character is the same, and so is the branch
    split_ifs at h ⊢
    · rw [Token.wordKind] at h
      rcases hkind with rfl | rfl <;> split_ifs at h <;> simp at h
    · rcases hkind with rfl | rfl <;> simp at h
    · rcases hkind with rfl | rfl <;> simp at h
    · rcases hkind with rfl | rfl <;> simp at h
    · rcases hkind with rfl | rfl <;> split at h <;> simp_all

/-- A zero ends in front of a plus. -/
theorem scan_zero (rest : List Char) :
    Token.scan ('0' :: '+' :: rest) = some (.integer, '+' :: rest) := by
  have hnumber : Literal.scanNumber ('0' :: '+' :: rest) = some (.integer, '+' :: rest) := by
    cases rest <;> rfl
  have hclass : Text.isIdentifierStart '0' = false := by decide
  have hraw : '0' ≠ Literal.rawQuote := by decide
  simp [Token.scan, hnumber, hclass, hraw]

/-- A sign is read if no longer one begins the text. -/
theorem scan_of_find (c : Char) (behind : List Char)
    (hc : !Text.isIdentifierStart c && !(['"', Literal.rawQuote, '\''].contains c))
    (hnumber : ¬ Literal.StartsNumber (c :: (behind ++ text)))
    (hfind : Token.signs.find? (·.isPrefixOf (c :: (behind ++ text))) = some (c :: behind)) :
    Token.scan (c :: (behind ++ text)) = some (.sign, text) := by
  have hnone : Literal.scanNumber (c :: (behind ++ text)) = none := by
    cases hscan : Literal.scanNumber (c :: (behind ++ text)) with
    | none   => rfl
    | some n => exact absurd (Literal.startsNumber_of_scanNumber hscan) hnumber
  obtain ⟨hstart, hquote, hraw, hrune⟩ : Text.isIdentifierStart c = false ∧ c ≠ '"' ∧
      c ≠ Literal.rawQuote ∧ c ≠ '\'' := by
    simpa using hc
  simp [Token.scan, hstart, hquote, hraw, hrune, hnone, hfind]

/-- What starts with no digit, and with no dot before a digit, is no number. -/
theorem not_startsNumber {c d : Char} {rest : List Char} (hc : c.isDigit = false)
    (hd : c = '.' → d.isDigit = false) : ¬ Literal.StartsNumber (c :: d :: rest) := by
  rintro (⟨c', rest', heq, h⟩ | ⟨d', rest', heq, h⟩)
  · cases heq
    simp [hc] at h
  · cases heq
    simp [hd rfl] at h

theorem not_startsNumber_singleton {c : Char} (hc : c.isDigit = false) :
    ¬ Literal.StartsNumber [c] := by
  rintro (⟨c', rest', heq, h⟩ | ⟨d', rest', heq, h⟩)
  · cases heq
    simp [hc] at h
  · cases heq

/-- The signs of one character. -/
def singleSigns : List Char :=
  ['&', '(', ')', '*', '+', ',', '.', ';', '=', '[', ']', '\x7b', '|', '\x7d', '~']

/-- Does the character make a longer sign with the one before it? -/
def goesOn (c d : Char) : Bool :=
  (c == '.' && d == '.') || ((c == '*' || c == '=' || c == '|') && (d == '=' || d == '|')) ||
    (c == '&' && ['&', '^', '='].contains d) || (c == '+' && ['+', '='].contains d)

/-- A sign of one character is found when the next character does not lengthen it. -/
theorem find_single {c : Char} (hc : c ∈ singleSigns)
    (hends : ∀ d ∈ text.head?, goesOn c d = false) :
    Token.signs.find? (·.isPrefixOf (c :: text)) = some [c] := by
  simp only [singleSigns, List.mem_cons, List.not_mem_nil, or_false] at hc
  cases text with
  | nil =>
    rcases hc with rfl | rfl | rfl | rfl | rfl | rfl | rfl | rfl | rfl | rfl | rfl | rfl | rfl | rfl |
      rfl <;> decide
  | cons d text =>
    have hd := hends d rfl
    rcases hc with rfl | rfl | rfl | rfl | rfl | rfl | rfl | rfl | rfl | rfl | rfl | rfl | rfl | rfl |
      rfl <;>
      simp_all [goesOn, Token.signs, List.isPrefixOf, List.find?, beq_false_of_ne, Ne.symm]

/-- A sign of one character is scanned. -/
theorem scan_single {c : Char} (hc : c ∈ singleSigns)
    (hends : ∀ d ∈ text.head?, (c = '.' → d.isDigit = false) ∧ goesOn c d = false) :
    Token.scan (c :: text) = some (.sign, text) := by
  have hall : singleSigns.all fun c => !Text.isIdentifierStart c &&
      !(['"', Literal.rawQuote, '\''].contains c) && !c.isDigit := by decide
  obtain ⟨hstart, hdigit⟩ := Bool.and_eq_true_iff.mp (List.all_eq_true.mp hall c hc)
  refine scan_of_find c [] hstart ?_ (find_single hc fun d hd => ?_)
  · cases text with
    | nil => exact not_startsNumber_singleton (by simpa using hdigit)
    | cons d text => exact not_startsNumber (by simpa using hdigit) (hends d rfl).1
  · exact (hends d hd).2

/-- When a sign runs into a character. -/
theorem runsInto_singleton {c d : Char} (hs : String.singleton c ∈ lexemeSigns)
    (h : (Lexeme.sign (.singleton c) hs).runsInto d = false) :
    (c = '.' → d.isDigit = false) ∧ goesOn c d = false := by
  have hsign (c' : Char) : (String.singleton c == String.singleton c') = (c == c') := by
    simp [← String.toList_inj]
  have hsigns : "." = String.singleton '.' ∧ "*" = String.singleton '*' ∧
      "=" = String.singleton '=' ∧ "|" = String.singleton '|' ∧ "&" = String.singleton '&' ∧
      "+" = String.singleton '+' := by decide
  obtain ⟨hdot, hstar, hequal, hbar, hand, hplus⟩ := hsigns
  simp only [Lexeme.runsInto, hdot, hstar, hequal, hbar, hand, hplus, hsign] at h
  simp only [goesOn]
  grind

/-- A sign is scanned whole when the text behind does not lengthen it. -/
theorem scan_sign {s : String} (hs : s ∈ lexemeSigns)
    (hends : ∀ c ∈ text.head?, (Lexeme.sign s hs).runsInto c = false) :
    Token.scan (s.toList ++ text) = some (.sign, text) := by
  have hsingle {c : Char} (hc : c ∈ singleSigns) (heq : s = .singleton c) :
      Token.scan (c :: text) = some (.sign, text) := by
    subst heq
    exact scan_single hc fun d hd => runsInto_singleton hs (hends d hd)
  have hmem := hs
  simp only [lexemeSigns, List.mem_cons, List.not_mem_nil, or_false] at hmem
  rcases hmem with rfl | rfl | rfl | rfl | rfl | rfl | rfl | rfl | rfl | rfl | rfl | rfl | rfl |
    rfl | rfl | rfl | rfl | rfl | rfl
  case inl =>
    exact scan_of_find '!' ['='] (by decide) (not_startsNumber (by decide) fun _ => by decide)
      (by simp [Token.signs, List.isPrefixOf, List.find?])
  case inr.inr.inr.inr.inr.inr.inr.inr.inl =>
    exact scan_of_find '.' ['.', '.'] (by decide)
      (not_startsNumber (by decide) fun _ => by decide)
      (by simp [Token.signs, List.isPrefixOf])
  case inr.inr.inr.inr.inr.inr.inr.inr.inr.inl =>
    exact scan_of_find ':' ['='] (by decide) (not_startsNumber (by decide) fun _ => by decide)
      (by simp [Token.signs, List.isPrefixOf, List.find?])
  case inr.inr.inr.inr.inr.inr.inr.inr.inr.inr.inr.inl =>
    exact scan_of_find '<' ['-'] (by decide)
      (not_startsNumber (by decide) fun _ => by decide)
      (by simp [Token.signs, List.isPrefixOf, List.find?])
  all_goals exact hsingle (by decide) (by decide)

theorem Lexeme.scan_append {l : Lexeme} (h : l.isToken)
    (hends : ∀ c ∈ text.head?, l.runsInto c = false) :
    Token.scan (l.text.toList ++ text) = some (l.kind, text) := by
  cases l with
  | name n =>
    obtain ⟨hshaped, hkeyword⟩ := Bool.and_eq_true_iff.mp h
    rw [Lexeme.text, scan_word hshaped hends, Token.wordKind, if_neg (by simpa using hkeyword)]
    rfl
  | keyword k hk =>
    have hall : lexemeKeywords.all fun k => isIdentifierShaped k && goKeywords.contains k := by
      decide
    have hword := List.all_eq_true.mp hall k hk
    rw [Bool.and_eq_true] at hword
    rw [Lexeme.text, scan_word hword.1 hends, Token.wordKind, if_pos hword.2]
    rfl
  | integer n =>
    -- `0+` begins no number, though `+` may stand in an exponent
    by_cases hplus : n = "0" ∧ text.head? = some '+'
    · obtain ⟨rfl, hhead⟩ := hplus
      obtain ⟨rest, rfl⟩ := List.head?_eq_some_iff.mp hhead
      exact scan_zero rest
    · refine scan_numeral (.inl rfl) (of_decide_eq_true h : IsInteger n) fun c hc => ?_
      have hc' := hends c hc
      rw [Option.mem_def] at hc
      simp_all [runsInto]
      by_contra hno
      obtain ⟨rfl, rfl⟩ := hc' hno
      exact hplus rfl rfl
  | number n =>
    refine scan_numeral (.inr rfl) (of_decide_eq_true h : IsNumber n) fun c hc => ?_
    simpa [runsInto] using hends c hc
  | string text => exact IsString.scan_append (of_decide_eq_true h) _
  | sign s hs => exact scan_sign hs hends

/-! ### First characters -/

/-- No character of an identifier stands in a gap. -/
theorem not_isGapChar_of_isIdentifierPart {c : Char} (h : Text.isIdentifierPart c) :
    Token.isGapChar c = false ∧ c ≠ '/' := by
  constructor
  · cases hgap : Token.isGapChar c with
    | false => rfl
    | true =>
      have hrange : c = ' ' ∨ (9 ≤ c.val.toNat ∧ c.val.toNat ≤ 13) := by
        simpa [Token.isGapChar, Char.le_def, UInt32.le_iff_toNat_le] using hgap
      rcases hrange with rfl | hrange
      · exact absurd h (by decide)
      · have hascii : c.val < 0x80 := by
          rw [UInt32.lt_iff_toNat_lt]
          exact Nat.lt_of_le_of_lt hrange.2 (by decide)
        rw [isIdentifierPart_of_ascii hascii] at h
        simp only [Char.isAlpha, Char.isUpper, Char.isLower, Char.isDigit, ge_iff_le,
          UInt32.le_iff_toNat_le, Bool.or_eq_true, Bool.and_eq_true, decide_eq_true_eq,
          beq_iff_eq] at h
        rcases h with ((h | h) | rfl) | h
        · exact absurd (h.1.trans hrange.2) (by decide)
        · exact absurd (h.1.trans hrange.2) (by decide)
        · exact absurd hrange.2 (by decide)
        · exact absurd (h.1.trans hrange.2) (by decide)
  · rintro rfl
    exact absurd h (by decide)

/-- A number begins with a digit or a point. -/
theorem IsNumber.exists_cons (h : IsNumber w) :
    ∃ c cs, w.toList = c :: cs ∧ Token.isGapChar c = false ∧ c ≠ '/' := by
  obtain ⟨_, hnumber, -⟩ := Token.scanNumber_of_scan (.inr rfl) h
  obtain ⟨c, cs, heq, hdigit⟩ | ⟨c, cs, heq, -⟩ := Literal.startsNumber_of_scanNumber hnumber
  · exact ⟨c, cs, heq, not_isGapChar_of_isIdentifierPart (isIdentifierPart_of_isDigit hdigit)⟩
  · exact ⟨'.', _, heq, by decide, by decide⟩

/-- No lexeme begins with a gap. -/
theorem Lexeme.exists_cons_text {l : Lexeme} (h : l.isToken) :
    ∃ c cs, l.text.toList = c :: cs ∧ Token.isGapChar c = false ∧ c ≠ '/' := by
  have hword {w : String} (hw : IsWord w) :
      ∃ c cs, w.toList = c :: cs ∧ Token.isGapChar c = false ∧ c ≠ '/' := by
    obtain ⟨c, cs, hcs⟩ := List.exists_cons_of_ne_nil hw.1
    exact ⟨c, cs, hcs, not_isGapChar_of_isIdentifierPart (hw.2 c (by simp [hcs]))⟩
  cases l with
  | name n => exact hword (.of_isIdentifier h)
  | integer text => exact hword (of_decide_eq_true h : IsInteger text).isWord
  | number text => exact (of_decide_eq_true h : IsNumber text).exists_cons
  | keyword k hk =>
    have hall : lexemeKeywords.all goKeywords.contains := by decide
    have hk : k ∈ goKeywords := by simpa using List.all_eq_true.mp hall k hk
    exact hword (.of_mem_goKeywords hk)
  | string text =>
    obtain ⟨c, cs, hcs, hquote⟩ := (of_decide_eq_true h : IsString text).head
    refine ⟨c, cs, hcs, ?_⟩
    rcases hquote with rfl | rfl <;> decide
  | sign s hs =>
    have hall : lexemeSigns.all fun s =>
        s.toList.head?.any fun c => !Token.isGapChar c && c != '/' := by decide
    have hs := List.all_eq_true.mp hall s hs
    cases hcs : s.toList with
    | nil => simp [hcs] at hs
    | cons c cs => exact ⟨c, cs, hcs, by simpa [hcs] using hs⟩

/-! ### Blanks and comments -/

/-- What may stand between tokens: blanks, and comments up to the ends of their lines. Is there a
newline among the blanks? -/
inductive IsGap : List Char → Bool → List String → Prop
  | nil : IsGap [] false []
  | blank {c : Char} {gap : List Char} {newline : Bool} {comments : List String}
      (hc : Token.isGapChar c) (h : IsGap gap newline comments) :
      IsGap (c :: gap) ('\n' == c || newline) comments
  | comment {text gap : List Char} {newline : Bool} {comments : List String} (htext : '\n' ∉ text)
      (h : IsGap ('\n' :: gap) newline comments) :
      IsGap ('/' :: '/' :: (text ++ '\n' :: gap)) newline
        (.ofList ('/' :: '/' :: text) :: comments)

theorem IsGap.blanks_append {blanks gap : List Char} {newline : Bool} {comments : List String}
    (hblanks : blanks.all Token.isGapChar) (h : IsGap gap newline comments) :
    IsGap (blanks ++ gap) (blanks.contains '\n' || newline) comments := by
  induction blanks with
  | nil => exact h
  | cons c blanks ih =>
    obtain ⟨hc, hblanks⟩ := Bool.and_eq_true_iff.mp hblanks
    rw [List.contains_cons, Bool.or_assoc]
    exact .blank hc (ih hblanks)

/-- Blanks are a gap. -/
theorem IsGap.of_blanks {blanks : List Char} (h : blanks.all Token.isGapChar) :
    IsGap blanks (blanks.contains '\n') [] := by
  have hgap := IsGap.blanks_append h .nil
  rwa [List.append_nil, Bool.or_false] at hgap

/-- A blank is skipped, and a line break noted. -/
theorem skipGap_blank {c : Char} (hc : Token.isGapChar c) (fuel : Nat) (cs : List Char) :
    Token.skipGap (fuel + 1) (c :: cs) =
      let gap := Token.skipGap (fuel + 1) cs
      ⟨'\n' == c || gap.newline, gap.comments, gap.rest⟩ := by
  rw [Token.skipGap, Token.skipGap, List.takeWhile_cons_of_pos hc, List.dropWhile_cons_of_pos hc]
  dsimp only
  split
  · rw [List.contains_cons]
  · rw [List.contains_cons, Bool.or_assoc]

/-- A comment is skipped to the end of its line, and kept. -/
theorem skipGap_comment {text : List Char} (htext : '\n' ∉ text) (fuel : Nat) (cs : List Char) :
    Token.skipGap (fuel + 1) ('/' :: '/' :: (text ++ '\n' :: cs)) =
      let gap := Token.skipGap fuel ('\n' :: cs)
      ⟨gap.newline, .ofList ('/' :: '/' :: text) :: gap.comments, gap.rest⟩ := by
  have hline : (text ++ '\n' :: cs).dropWhile (· != '\n') = '\n' :: cs := by
    rw [List.dropWhile_append_of_pos fun c hc => by simpa using ne_of_mem_of_not_mem hc htext]
    simp
  have hcomment : Token.skipComment ('/' :: '/' :: (text ++ '\n' :: cs)) = some ('\n' :: cs) := by
    rw [Token.skipComment, hline]
  have hlength : ('/' :: '/' :: (text ++ '\n' :: cs)).length - ('\n' :: cs).length =
      ('/' :: '/' :: text).length := by
    simp
    omega
  have hskip : Token.skipGap (fuel + 1) ('/' :: '/' :: (text ++ '\n' :: cs)) =
      ⟨false || (Token.skipGap fuel ('\n' :: cs)).newline,
        .ofList (('/' :: '/' :: (text ++ '\n' :: cs)).take
          (('/' :: '/' :: (text ++ '\n' :: cs)).length - ('\n' :: cs).length)) ::
            (Token.skipGap fuel ('\n' :: cs)).comments,
        (Token.skipGap fuel ('\n' :: cs)).rest⟩ := by
    have hslash : Token.isGapChar '/' = false := by decide
    rw [Token.skipGap, List.takeWhile_cons_of_neg (by simp [hslash]),
      List.dropWhile_cons_of_neg (by simp [hslash]), hcomment]
    rfl
  rw [hskip, hlength, ← List.cons_append, ← List.cons_append, List.take_left]
  rfl

/-- Blanks and comments are passed over up to a character of another kind. -/
theorem IsGap.skipGap {gap : List Char} {newline : Bool} {comments : List String}
    (h : IsGap gap newline comments) {cs : List Char}
    (hcs : ∀ c ∈ cs.head?, Token.isGapChar c = false ∧ c ≠ '/') {fuel : Nat}
    (hfuel : gap.length < fuel) : Token.skipGap fuel (gap ++ cs) = ⟨newline, comments, cs⟩ := by
  induction h generalizing fuel with
  | nil =>
    obtain ⟨fuel, rfl⟩ := Nat.exists_eq_add_of_le' (Nat.one_le_of_lt hfuel)
    cases cs with
    | nil => rfl
    | cons c cs =>
      obtain ⟨hc, hslash⟩ := hcs c rfl
      -- the lexeme behind a gap starts no comment: its first character is not a slash
      have hcomment : Token.skipComment (c :: cs) = none := by
        rw [Token.skipComment.eq_def]
        split
        · next heq => exact absurd (List.cons.inj heq).1 hslash
        · next heq => exact absurd (List.cons.inj heq).1 hslash
        · rfl
      simp [Token.skipGap, hc, hcomment]
  | blank hc h ih =>
    rw [List.length_cons] at hfuel
    obtain ⟨fuel, rfl⟩ := Nat.exists_eq_add_of_le' (Nat.one_le_of_lt hfuel)
    rw [List.cons_append, skipGap_blank hc, ih (by omega)]
  | comment htext h ih =>
    simp only [List.length_cons, List.length_append] at hfuel ih
    obtain ⟨fuel, rfl⟩ := Nat.exists_eq_add_of_le' (Nat.one_le_of_lt hfuel)
    have hrest := @ih fuel (by omega)
    rw [List.cons_append] at hrest
    simp only [List.cons_append, List.append_assoc]
    rw [skipGap_comment htext, hrest]

/-! ### Rows of tokens -/

/-- The text is cut into the tokens, with any fuel beyond its length. -/
def Scans (line : Nat) (text : List Char) (ts : List Token) : Prop :=
  ∀ fuel, text.length < fuel → Token.scanFrom line fuel text = some ts

section Scans

variable {gap text : List Char} {newline : Bool} {comments : List String} {ts : List Token}

/-- A text without a byte order mark is scanned from its first line. -/
theorem scanAll_eq {source : String} (hmark : ∀ c ∈ source.toList.head?, c ≠ Token.byteOrderMark) :
    Token.scanAll source = Token.scanFrom 1 (source.toList.length + 1) source.toList := by
  rw [Token.scanAll]
  cases hcs : source.toList with
  | nil => rfl
  | cons c cs => simp only [if_neg (hmark c (by simp [hcs]))]

/-- What can be scanned is what the scanner gives. -/
theorem Scans.scanAll {source : String} (h : Scans 1 source.toList ts)
    (hmark : ∀ c ∈ source.toList.head?, c ≠ Token.byteOrderMark) : Token.scanAll source = some ts := by
  rw [scanAll_eq hmark]
  exact h _ (Nat.lt_succ_self _)

/-- A lexeme is cut off together with what stands before it, whatever comes behind it. -/
theorem scanFrom_append {l : Lexeme} (hl : l.isToken) (hgap : IsGap gap newline comments)
    (hends : ∀ c ∈ text.head?, l.runsInto c = false) (line fuel : Nat) :
    Token.scanFrom line (fuel + 1) (gap ++ (l.text.toList ++ text)) =
      (Token.scanFrom (line + gap.count '\n' + l.text.toList.count '\n') fuel text).map
        (⟨l.kind, l.text, .ofList gap, newline, comments, line + gap.count '\n'⟩ :: ·) := by
  obtain ⟨c, cs, hcons, hc⟩ := Lexeme.exists_cons_text hl
  have hskip : Token.skipGap ((gap ++ (l.text.toList ++ text)).length + 1)
      (gap ++ (l.text.toList ++ text)) = ⟨newline, comments, l.text.toList ++ text⟩ :=
    hgap.skipGap (by rw [hcons]; rintro _ ⟨⟩; exact hc) (by simp)
  have hscan := Lexeme.scan_append hl hends
  rw [Token.scanFrom, hskip]
  simp only [hcons, List.cons_append] at hscan ⊢
  have htake : (c :: (cs ++ text)).take (cs.length + text.length + 1 - text.length) = c :: cs := by
    have hlength : cs.length + text.length + 1 - text.length = (c :: cs).length := by
      rw [List.length_cons]
      omega
    rw [hlength, ← List.cons_append, List.take_left]
  simp [hscan, htake, ← hcons, Option.map_eq_bind]

/-- A lexeme is cut off together with what stands before it. -/
theorem Scans.cons {l : Lexeme} (hl : l.isToken) (hgap : IsGap gap newline comments)
    (hends : ∀ c ∈ text.head?, l.runsInto c = false) {line : Nat}
    (h : Scans (line + gap.count '\n' + l.text.toList.count '\n') text ts) :
    Scans line (gap ++ (l.text.toList ++ text))
      (⟨l.kind, l.text, .ofList gap, newline, comments, line + gap.count '\n'⟩ :: ts) := by
  intro fuel hfuel
  obtain ⟨c, cs, hcons, -⟩ := Lexeme.exists_cons_text hl
  simp only [List.length_append, hcons, List.length_cons] at hfuel
  obtain ⟨fuel, rfl⟩ := Nat.exists_eq_add_of_le' (Nat.one_le_of_lt hfuel)
  rw [scanFrom_append hl hgap hends, h fuel (by omega)]
  rfl

/-- What does not begin as a word is none. -/
theorem kind_ne_name_of_scan {c : Char} {cs rest : List Char} {kind : TokenKind}
    (hc : Text.isIdentifierStart c = false) (h : Token.scan (c :: cs) = some (kind, rest)) :
    kind ≠ .name := by
  have hliteral {α : Type} {found : Option α} {left : α → List Char} {literal : TokenKind}
      (h : found.map (fun a => (literal, left a)) = some (kind, rest)) (hne : literal ≠ .name) :
      kind ≠ .name := by
    obtain ⟨_, -, h⟩ := Option.map_eq_some_iff.mp h
    exact (Prod.mk.inj h).1 ▸ hne
  rw [Token.scan, if_neg (by simp [hc])] at h
  split at h
  · exact hliteral h (by decide)
  split at h
  · exact hliteral h (by decide)
  split at h
  · exact hliteral h (by decide)
  split at h
  · cases h
    decide
  · cases h
    decide
  · exact hliteral h (by decide)

/-- What does not begin as a word is cut into tokens of which the first is no name, if it is cut into
tokens at all. -/
theorem exists_first_of_scanFrom {c : Char} {cs : List Char} (hgap : IsGap gap newline comments)
    (hc : Text.isIdentifierStart c = false) (hblank : Token.isGapChar c = false) (hslash : c ≠ '/')
    {line fuel : Nat} (h : Token.scanFrom line fuel (gap ++ c :: cs) = some ts) :
    ∃ t more, ts = t :: more ∧ t.kind ≠ .name := by
  cases fuel with
  | zero => cases h
  | succ fuel =>
    have hskip : Token.skipGap ((gap ++ c :: cs).length + 1) (gap ++ c :: cs) =
        ⟨newline, comments, c :: cs⟩ :=
      hgap.skipGap (by rintro _ ⟨⟩; exact ⟨hblank, hslash⟩) (by simp)
    rw [Token.scanFrom, hskip] at h
    obtain ⟨⟨kind, rest⟩, hscan, h⟩ := Option.bind_eq_some_iff.mp h
    obtain ⟨more, -, h⟩ := Option.bind_eq_some_iff.mp h
    cases h
    exact ⟨_, _, rfl, kind_ne_name_of_scan hc hscan⟩

/-- A gap alone is scanned as the end of the file. -/
theorem IsGap.scans_eof (hgap : IsGap gap newline comments) (line : Nat) :
    Scans line gap [⟨.eof, "", .ofList gap, newline, comments, line + gap.count '\n'⟩] := by
  intro fuel hfuel
  obtain ⟨fuel, rfl⟩ := Nat.exists_eq_add_of_le' (Nat.one_le_of_lt hfuel)
  have hskip : Token.skipGap (gap.length + 1) (gap ++ []) = ⟨newline, comments, []⟩ :=
    hgap.skipGap (by simp) (Nat.lt_succ_self gap.length)
  rw [List.append_nil] at hskip
  rw [Token.scanFrom, hskip]
  simp

/-- A gap between lexemes stays in its line. -/
theorem isGapChar_of_isLexemeGap (h : gap.all isLexemeGap) :
    gap.all Token.isGapChar ∧ gap.contains '\n' = false := by
  rw [List.all_eq_true] at h
  constructor
  · refine List.all_eq_true.mpr fun c hc => ?_
    obtain rfl | rfl : c = ' ' ∨ c = '\t' := by simpa [isLexemeGap] using h c hc
    all_goals decide
  · refine Bool.eq_false_iff.mpr fun hmem => ?_
    exact absurd (h '\n' (by simpa using hmem)) (by decide)

/-- A newline behind the lexeme ends it. -/
theorem Lexeme.runsInto_append (l : Lexeme) (hends : ∀ c ∈ text.head?, l.runsInto c = false)
    {rest : List Char} (hrest : ∀ c ∈ rest.head?, c = '\n') :
    ∀ c ∈ (text ++ rest).head?, l.runsInto c = false := by
  cases text with
  | nil =>
    intro c hc
    obtain rfl := hrest c hc
    exact l.runsInto_of_mem (by simp)
  | cons d text => exact hends

/-- A layout on a line of its own is cut into tokens that spell its lexemes. -/
theorem LaidOut.scans {ls : List Lexeme} (h : LaidOut ls text) (hls : ∀ l ∈ ls, l.isToken)
    {rest : List Char} (hrest : ∀ c ∈ rest.head?, c = '\n') (line : Nat) :
    ∃ ts line' blanks, List.Forall₂ Token.Spells ts ls ∧ blanks.all isLexemeGap ∧
      ∀ later, Scans line' (blanks ++ rest) later → Scans line (text ++ rest) (ts ++ later) := by
  induction h generalizing line with
  | @nil gap hgap => exact ⟨[], line, gap, .nil, hgap, fun later hlater => hlater⟩
  | @cons gap text l ls hgap hends h ih =>
    have hl : l.isToken := hls l (List.mem_cons_self ..)
    obtain ⟨hgap', hnewline⟩ := isGapChar_of_isLexemeGap hgap
    have hends' := l.runsInto_append hends hrest
    obtain ⟨ts, line', blanks, hts, hblanks, hscans⟩ :=
      ih (fun l hl => hls l (List.mem_cons_of_mem _ hl))
        (line + gap.count '\n' + l.text.toList.count '\n')
    have hgap'' := IsGap.of_blanks hgap'
    rw [hnewline] at hgap''
    refine ⟨⟨l.kind, l.text, .ofList gap, false, [], line + gap.count '\n'⟩ :: ts, line', blanks,
      .cons ⟨rfl, rfl, rfl⟩ hts, hblanks, fun later hlater => ?_⟩
    rw [List.append_assoc, List.append_assoc]
    exact Scans.cons hl hgap'' hends' (hscans later hlater)

end Scans

end Lexemes

end GoMocks.GoSource
