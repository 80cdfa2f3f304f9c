import GoMocks.Proofs.GoSource.Literal

/-!
# Text — lists between commas

A list of Go types and values, cut at its commas. Commas between brackets and in string literals
belong to the items.

* `splitCommas`: the items of a list.
* `Sealed`: a text that is one item wherever it stands. It opens and closes its own brackets and
  string literals, and has commas only in these.
* `splitCommas_intercalate`: a list of such texts is cut into these.
-/

namespace GoMocks.Text

open GoSource (IsString)
open GoSource.Literal (rawQuote exactly isHexDigit stringEscape stringTail)

/-- Is a place in a string literal, and what does the next character mean there? -/
inductive Quote
  | outside | text | escaped | raw
  deriving DecidableEq, Repr

/-- A place in a text: the number of open brackets before it, and the string literal around it. -/
structure Place where
  depth : Nat
  quote : Quote
  deriving DecidableEq, Repr

/-- Does the character open a bracket? -/
def isOpening (c : Char) : Bool :=
  c == '(' || c == '[' || c == '\x7b'

/-- Does the character close a bracket? -/
def isClosing (c : Char) : Bool :=
  c == ')' || c == ']' || c == '\x7d'

namespace Place

/-- The place behind a character. -/
def after (p : Place) (c : Char) : Place :=
  match p.quote with
  | .outside =>
    if isOpening c then ⟨p.depth + 1, .outside⟩
    else if isClosing c then ⟨p.depth - 1, .outside⟩
    else if c = '"' then ⟨p.depth, .text⟩
    else if c = rawQuote then ⟨p.depth, .raw⟩
    else p
  | .text =>
    if c = '"' then ⟨p.depth, .outside⟩
    else if c = '\\' then ⟨p.depth, .escaped⟩
    else p
  | .escaped => ⟨p.depth, .text⟩
  | .raw => if c = rawQuote then ⟨p.depth, .outside⟩ else p

/-- Does the list go on behind the character? -/
def splits (p : Place) (c : Char) : Bool :=
  p.depth == 0 && p.quote == .outside && c == ','

end Place

/-- The texts between the commas that stand outside brackets and string literals. -/
def splitFrom (p : Place) : List Char → List (List Char)
  | []      => [[]]
  | c :: cs =>
    if p.splits c then [] :: splitFrom p cs
    else (splitFrom (p.after c) cs).modifyHead (c :: ·)

/-- One blank less at the front. -/
def dropBlank : List Char → List Char
  | ' ' :: cs => cs
  | cs        => cs

/-- The items of a list, without the blanks behind the commas. Without any text there is none. -/
def splitCommas (text : String) : List String :=
  if text.isEmpty then []
  else
    match splitFrom ⟨0, .outside⟩ text.toList with
    | []            => []
    | first :: rest => (first :: rest.map dropBlank).map .ofList

/-! ### Passing over a text -/

/-- The place behind a text, unless the list goes on somewhere in it. -/
def passes (p : Place) : List Char → Option Place
  | []      => some p
  | c :: cs => if p.splits c then none else passes (p.after c) cs

variable {p p' : Place} {w v cs : List Char} {x y : String}

theorem passes_append (p : Place) (w v : List Char) :
    passes p (w ++ v) = (passes p w).bind (passes · v) := by
  induction w generalizing p with
  | nil => rfl
  | cons c w ih =>
    simp only [List.cons_append, passes]
    split
    · rfl
    · exact ih _

theorem splitFrom_append (h : passes p w = some p') (cs : List Char) :
    splitFrom p (w ++ cs) = (splitFrom p' cs).modifyHead (w ++ ·) := by
  induction w generalizing p with
  | nil =>
    obtain rfl := Option.some.inj h
    rw [List.nil_append]
    cases splitFrom p cs <;> rfl
  | cons c w ih =>
    rw [passes] at h
    split at h
    · cases h
    · next hsplits =>
      rw [List.cons_append, splitFrom, if_neg hsplits, ih h]
      cases splitFrom p' cs <;> rfl

/-! ### Sealed texts -/

/-- Behind the text the place is as before it, and the list does not go on in it. -/
def SealedAt (d : Nat) (x : String) : Prop :=
  passes ⟨d, .outside⟩ x.toList = some ⟨d, .outside⟩

/-- The text belongs to one item wherever it stands. -/
def Sealed (x : String) : Prop :=
  ∀ d, SealedAt d x

/-- Inside brackets the text belongs to one item. -/
def Inner (x : String) : Prop :=
  ∀ d, SealedAt (d + 1) x

theorem SealedAt.append {d : Nat} (h : SealedAt d x) (h' : SealedAt d y) : SealedAt d (x ++ y) := by
  rw [SealedAt] at h h' ⊢
  rw [String.toList_append, passes_append, h, Option.bind_some, h']

/-- Texts sealed at a depth are so with separators between them. -/
theorem SealedAt.intercalate {d : Nat} {separator : String} (hs : SealedAt d separator)
    {xs : List String} (h : ∀ x ∈ xs, SealedAt d x) : SealedAt d (separator.intercalate xs) := by
  induction xs with
  | nil => exact rfl
  | cons x xs ih =>
    obtain ⟨hx, hxs⟩ := List.forall_mem_cons.mp h
    cases xs with
    | nil => simpa using hx
    | cons y ys =>
      rw [String.intercalate_cons_cons]
      exact (hx.append hs).append (ih hxs)

/-- A sealed text may stand in brackets. -/
theorem Sealed.inner (h : Sealed x) : Inner x := fun d => h (d + 1)

theorem Sealed.append (h : Sealed x) (h' : Sealed y) : Sealed (x ++ y) :=
  fun d => (h d).append (h' d)

theorem Sealed.intercalate {separator : String} (hs : Sealed separator) {xs : List String}
    (h : ∀ x ∈ xs, Sealed x) : Sealed (separator.intercalate xs) :=
  fun d => .intercalate (hs d) fun x hx => h x hx d

/-- Inside brackets an item can be a list. -/
theorem Inner.list {xs : List String} (h : ∀ x ∈ xs, Sealed x) : Inner (", ".intercalate xs) :=
  fun d => .intercalate (show SealedAt (d + 1) ", " from rfl) fun x hx => h x hx (d + 1)

/-- Characters that mean nothing to a list. -/
def isNeutral (c : Char) : Bool :=
  !(isOpening c || isClosing c || c == '"' || c == rawQuote || c == ',')

theorem passes_neutral (h : w.all isNeutral) (d : Nat) :
    passes ⟨d, .outside⟩ w = some ⟨d, .outside⟩ := by
  induction w with
  | nil => rfl
  | cons c w ih =>
    simp only [List.all_cons, Bool.and_eq_true] at h
    obtain ⟨hc, hw⟩ := h
    simp only [isNeutral, Bool.not_eq_true', Bool.or_eq_false_iff, beq_eq_false_iff_ne] at hc
    obtain ⟨⟨⟨⟨ho, hcl⟩, hq⟩, hr⟩, hcomma⟩ := hc
    have hsplits : Place.splits ⟨d, .outside⟩ c = false := by simp [Place.splits, hcomma]
    have hafter : Place.after ⟨d, .outside⟩ c = ⟨d, .outside⟩ := by
      simp [Place.after, ho, hcl, hq, hr]
    rw [passes, hsplits, hafter]
    exact ih hw

/-- A text without brackets, quotes and commas is sealed. -/
theorem Sealed.of_neutral (h : x.toList.all isNeutral) : Sealed x :=
  passes_neutral h

theorem isNeutral_of_isIdentifierPart {c : Char} (h : isIdentifierPart c) : isNeutral c := by
  have hsign : c ∉ signs := fun hmem => nomatch (isIdentifierPart_of_mem_signs hmem).symm.trans h
  simp only [signs, List.mem_cons, List.not_mem_nil, or_false, not_or] at hsign
  simp [isNeutral, isOpening, isClosing, rawQuote, hsign]

theorem Sealed.of_isWord (h : IsWord x) : Sealed x :=
  .of_neutral (List.all_eq_true.mpr fun c hc => isNeutral_of_isIdentifierPart (h.2 c hc))

theorem Sealed.of_isIdentifier (h : isIdentifier x) : Sealed x :=
  .of_isWord (.of_isIdentifier h)

/-- Brackets around a text seal it. -/
theorem Inner.sealed {o c : String} (h : Inner x)
    (ho : ∃ a, o.toList = [a] ∧ isOpening a) (hc : ∃ b, c.toList = [b] ∧ isClosing b) :
    Sealed (o ++ x ++ c) := by
  obtain ⟨a, ha, hopening⟩ := ho
  obtain ⟨b, hb, hclosing⟩ := hc
  intro d
  have hne : a ≠ ',' ∧ b ≠ ',' ∧ isOpening b = false := by
    simp only [isOpening, isClosing, Bool.or_eq_true, beq_iff_eq] at hopening hclosing
    rcases hopening with (rfl | rfl) | rfl <;> rcases hclosing with (rfl | rfl) | rfl <;> decide
  have hopen : passes ⟨d, .outside⟩ [a] = some ⟨d + 1, .outside⟩ := by
    simp [passes, Place.splits, Place.after, hne, hopening]
  have hclose : passes ⟨d + 1, .outside⟩ [b] = some ⟨d, .outside⟩ := by
    simp [passes, Place.splits, Place.after, hne, hclosing]
  have hinner : passes ⟨d + 1, .outside⟩ x.toList = some ⟨d + 1, .outside⟩ := h d
  rw [SealedAt, String.toList_append, String.toList_append, ha, hb, passes_append, passes_append,
    hopen, Option.bind_some, hinner, Option.bind_some, hclose]

theorem Sealed.parens (h : Inner x) : Sealed ("(" ++ x ++ ")") :=
  h.sealed ⟨'(', rfl, rfl⟩ ⟨')', rfl, rfl⟩

theorem Sealed.brackets (h : Inner x) : Sealed ("[" ++ x ++ "]") :=
  h.sealed ⟨'[', rfl, rfl⟩ ⟨']', rfl, rfl⟩

theorem Sealed.braces (h : Inner x) : Sealed ("\x7b" ++ x ++ "\x7d") :=
  h.sealed ⟨'\x7b', rfl, rfl⟩ ⟨'\x7d', rfl, rfl⟩

/-! ### String literals -/

/-- Hexadecimal digits mean nothing to a string literal. -/
theorem exists_exactly {n : Nat} {rest : List Char} (h : exactly isHexDigit n cs = some rest)
    (d : Nat) : ∃ lead, cs = lead ++ rest ∧ passes ⟨d, .text⟩ lead = some ⟨d, .text⟩ := by
  induction n generalizing cs with
  | zero =>
    obtain rfl := Option.some.inj h
    exact ⟨[], rfl, rfl⟩
  | succ n ih =>
    cases cs with
    | nil => cases h
    | cons c cs =>
      rw [exactly] at h
      split at h
      · next hc =>
        obtain ⟨lead, rfl, hlead⟩ := ih h
        have hne : c ≠ '"' ∧ c ≠ '\\' := by
          constructor <;> rintro rfl <;> exact absurd hc (by decide)
        refine ⟨c :: lead, rfl, ?_⟩
        simpa [passes, Place.splits, Place.after, hne] using hlead
      · cases h

/-- What a backslash takes with it leads back into the literal. -/
theorem exists_stringEscape {rest : List Char} (h : stringEscape cs = some rest) (d : Nat) :
    ∃ lead, cs = lead ++ rest ∧ passes ⟨d, .escaped⟩ lead = some ⟨d, .text⟩ := by
  have hescape : ∀ (c : Char) lead, passes ⟨d, .escaped⟩ (c :: lead) = passes ⟨d, .text⟩ lead := by
    intro c lead
    simp [passes, Place.splits, Place.after]
  unfold stringEscape at h
  split at h
  · obtain ⟨lead, rfl, hlead⟩ := exists_exactly h d
    exact ⟨_ :: lead, rfl, (hescape _ lead).trans hlead⟩
  · obtain ⟨lead, rfl, hlead⟩ := exists_exactly h d
    exact ⟨_ :: lead, rfl, (hescape _ lead).trans hlead⟩
  · obtain ⟨lead, rfl, hlead⟩ := exists_exactly h d
    exact ⟨_ :: lead, rfl, (hescape _ lead).trans hlead⟩
  · obtain rfl := Option.some.inj h
    exact ⟨[_], rfl, hescape _ []⟩
  · cases h

/-- A literal is passed as a text, whatever stands in it. -/
theorem exists_stringTail {n : Nat} {rest : List Char} (h : stringTail n cs = some rest) (d : Nat) :
    ∃ lead, cs = lead ++ rest ∧ passes ⟨d, .text⟩ lead = some ⟨d, .outside⟩ := by
  induction n generalizing cs with
  | zero => cases h
  | succ n ih =>
    unfold stringTail at h
    split at h
    · obtain rfl := Option.some.inj h
      exact ⟨['"'], rfl, by simp [passes, Place.splits, Place.after]⟩
    · cases h
    · obtain ⟨behind, hescape, hrest⟩ := Option.bind_eq_some_iff.mp h
      obtain ⟨escape, rfl, hpasses⟩ := exists_stringEscape hescape d
      obtain ⟨lead, rfl, hlead⟩ := ih hrest
      refine ⟨'\\' :: (escape ++ lead), by simp, ?_⟩
      simp [passes, Place.splits, Place.after, passes_append, hpasses, hlead]
    · next c tail hquote _ hbackslash =>
      obtain ⟨lead, rfl, hlead⟩ := ih h
      refine ⟨c :: lead, rfl, ?_⟩
      have hne : c ≠ '"' ∧ c ≠ '\\' := by
        constructor
        · rintro rfl
          exact hquote rfl
        · rintro rfl
          exact hbackslash rfl
      simpa [passes, Place.splits, Place.after, hne] using hlead
    · cases h

/-- A string literal is sealed, whatever is written in it. -/
theorem Sealed.of_isString (h : IsString x) : Sealed x := by
  intro d
  rw [SealedAt]
  obtain ⟨cs, hcs, htail⟩ | ⟨body, hbody, hraw⟩ := h.cases
  · obtain ⟨lead, hlead, hpasses⟩ := exists_stringTail htail d
    rw [List.append_nil] at hlead
    rw [hcs, hlead]
    simpa [passes, Place.splits, Place.after, isOpening, isClosing] using hpasses
  · have hpasses : ∀ body : List Char, rawQuote ∉ body →
        passes ⟨d, .raw⟩ body = some ⟨d, .raw⟩ := by
      intro body hraw
      induction body with
      | nil => rfl
      | cons c body ih =>
        rw [List.mem_cons, not_or] at hraw
        have hne : c ≠ rawQuote := fun heq => hraw.1 heq.symm
        simpa [passes, Place.splits, Place.after, hne] using ih hraw.2
    have hquote : passes ⟨d, .outside⟩ [rawQuote] = some ⟨d, .raw⟩ := by
      simp [passes, Place.splits, Place.after, isOpening, isClosing, rawQuote]
    have hclose : passes ⟨d, .raw⟩ [rawQuote] = some ⟨d, .outside⟩ := by
      simp [passes, Place.splits, Place.after]
    rw [hbody, ← List.singleton_append, passes_append, hquote, Option.bind_some, passes_append,
      hpasses body hraw, Option.bind_some, hclose]

/-! ### Lists of sealed texts -/

/-- A list of sealed texts is cut in front of each comma between them. -/
theorem splitFrom_intercalate (x : String) (xs : List String) (h : ∀ y ∈ x :: xs, Sealed y) :
    splitFrom ⟨0, .outside⟩ (", ".intercalate (x :: xs)).toList =
      x.toList :: xs.map fun y => ' ' :: y.toList := by
  induction xs generalizing x with
  | nil =>
    have hx := splitFrom_append (h x List.mem_cons_self 0) []
    simpa [splitFrom] using hx
  | cons y ys ih =>
    obtain ⟨hx, hys⟩ := List.forall_mem_cons.mp h
    have hcut : ∀ cs, splitFrom ⟨0, .outside⟩ (", ".toList ++ cs) =
        [] :: (splitFrom ⟨0, .outside⟩ cs).modifyHead (' ' :: ·) := fun cs => rfl
    -- behind the first text the place is that of the beginning, so its comma cuts
    rw [String.intercalate_cons_cons, String.append_assoc, String.toList_append,
      splitFrom_append (hx 0), String.toList_append, hcut, ih y hys]
    simp

/-- **A list is cut into its items.** The items of a list of sealed texts, none of which is empty,
are these texts. -/
theorem splitCommas_intercalate {xs : List String} (h : ∀ x ∈ xs, Sealed x ∧ x ≠ "") :
    splitCommas (", ".intercalate xs) = xs := by
  cases xs with
  | nil => rfl
  | cons x xs =>
    have hsplit := splitFrom_intercalate x xs fun y hy => (h y hy).1
    have hnonempty : ", ".intercalate (x :: xs) ≠ "" := by
      intro hempty
      rw [hempty] at hsplit
      obtain ⟨hx, -⟩ := List.cons.inj hsplit
      exact (h x List.mem_cons_self).2 (String.toList_eq_nil_iff.mp hx.symm)
    rw [splitCommas, if_neg (by simpa using hnonempty), hsplit]
    simp [dropBlank, Function.comp_def]

end GoMocks.Text
