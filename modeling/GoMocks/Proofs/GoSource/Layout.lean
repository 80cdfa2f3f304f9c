import GoMocks.Proofs.GoSource.Rows

/-!
# Go source — texts of lexemes

The text of a type is put together from the texts of its parts. Each part is laid out wherever it
stands, as long as nothing behind it runs on with it.

* `Lays`: the text is laid out as the lexemes, in front of any text that ends words.
* `Lays.append`, `Lays.sign_append`, `Lays.intercalate`: texts in a row, behind a sign, and in a list.
-/

namespace GoMocks.GoSource

open Lexeme (separated inParens inBrackets inBraces)

/-- The character ends names and keywords, and makes no longer sign with what stands before it. -/
def EndsWords (c : Char) : Prop :=
  Text.isIdentifierPart c = false ∧ c ≠ '=' ∧ c ≠ '|'

/-- Blanks, brackets, commas and semicolons end words, and so do dots and arrows. -/
def wordEnds : List Char :=
  [' ', ',', '.', ';', '<', '(', ')', '[', ']', '\x7b', '\x7d']

/-- A word in front of the text would end there. -/
def Stops (x : String) : Prop :=
  ∀ c ∈ x.toList.head?, EndsWords c

/-- A text that begins with the end of a word stops words. -/
theorem Stops.of_head {x : String} {c : Char} (h : x.toList.head? = some c) (hc : c ∈ wordEnds) :
    Stops x := by
  have hall : wordEnds.all fun c => !Text.isIdentifierPart c && (c != '=' && c != '|') := by decide
  have hends := List.all_eq_true.mp hall c hc
  intro d hd
  obtain rfl : c = d := Option.some.inj (h.symm.trans hd)
  simpa [EndsWords] using hends

theorem Stops.append {x y : String} (hx : Stops x) (hy : Stops y) : Stops (x ++ y) := by
  intro c hc
  rw [String.toList_append] at hc
  cases hcs : x.toList with
  | nil => exact hy c (by simpa [hcs] using hc)
  | cons d cs => exact hx c (by simpa [hcs] using hc)

/-- Signs that some text goes on with, or that go on with the sign before them. -/
def openSigns : List String :=
  ["&", "+", ".", "=", "|"]

/-- The text has the lexemes, in front of all texts that end words, and it goes on with no sign
before it. -/
structure Lays (x : String) (ls : List Lexeme) : Prop where
  laidOut : ∀ (behind : List Lexeme) (text : List Char), (∀ c ∈ text.head?, EndsWords c) →
    LaidOut behind text → LaidOut (ls ++ behind) (x.toList ++ text)
  head    : ∀ c ∈ x.toList.head?, c ≠ '=' ∧ c ≠ '|'
  tokens  : ∀ l ∈ ls, l.isToken

namespace Lays

variable {x y : String} {xs : List String} {l : Lexeme} {ls ls₁ ls₂ : List Lexeme}
  {items : List (List Lexeme)} {s : String}

/-! ### Single lexemes -/

/-- No gap stands before a lexeme. -/
theorem laidOut_cons {text : List Char} (hends : ∀ c ∈ text.head?, l.runsInto c = false)
    (h : LaidOut ls text) : LaidOut (l :: ls) (l.text.toList ++ text) :=
  @LaidOut.cons [] text l ls rfl hends h

theorem head_of_isIdentifierPart (h : ∀ c ∈ x.toList.head?, Text.isIdentifierPart c) :
    ∀ c ∈ x.toList.head?, c ≠ '=' ∧ c ≠ '|' := by
  intro c hc
  constructor <;> rintro rfl <;> exact absurd (h _ hc) (by decide)

/-- An identifier lays out its name. -/
theorem name (h : isIdentifier x) : Lays x [.name x] where
  laidOut _ _ hends hlaid := laidOut_cons (fun c hc => (hends c hc).1) hlaid
  head := head_of_isIdentifierPart fun c hc =>
    (IsWord.of_isIdentifier h).2 c (List.mem_of_mem_head? hc)
  tokens := by simpa [Lexeme.isToken] using h

/-- A keyword lays out itself. -/
theorem keyword (hs : s ∈ lexemeKeywords) : Lays s [.keyword s hs] where
  laidOut _ _ hends hlaid := laidOut_cons (fun c hc => (hends c hc).1) hlaid
  head := by
    have hall : lexemeKeywords.all fun s => s.toList.head?.all fun c => c != '=' && c != '|' := by
      decide
    have hhead := List.all_eq_true.mp hall s hs
    intro c hc
    rw [Option.mem_def] at hc
    simpa [hc] using hhead
  tokens := by simp [Lexeme.isToken]

/-- A literal lays out itself. -/
theorem string (h : IsString x) : Lays x [.string x] where
  laidOut _ _ _ hlaid := laidOut_cons (fun _ _ => rfl) hlaid
  head := by
    obtain ⟨c, cs, hcs, hquote⟩ := h.head
    rw [hcs]
    rintro _ ⟨⟩
    rcases hquote with rfl | rfl <;> decide
  tokens := by simpa [Lexeme.isToken] using h

theorem empty : Lays "" [] where
  laidOut _ _ _ hlaid := hlaid
  head := by simp
  tokens := by simp

/-! ### Texts in a row -/

/-- What stands behind the first text ends its words. -/
theorem append (hx : Lays x ls₁) (hy : Lays y ls₂) (hends : Stops y) :
    Lays (x ++ y) (ls₁ ++ ls₂) where
  laidOut behind text htext hlaid := by
    rw [String.toList_append, List.append_assoc, List.append_assoc]
    refine hx.laidOut _ _ ?_ (hy.laidOut _ _ htext hlaid)
    cases hcs : y.toList with
    | nil => exact htext
    | cons c cs =>
      rw [Stops, hcs] at hends
      exact hends
  head := by
    cases hcs : x.toList with
    | nil => simpa [String.toList_append, hcs] using hy.head
    | cons c cs => simpa [String.toList_append, hcs] using hx.head
  tokens := List.forall_mem_append.mpr ⟨hx.tokens, hy.tokens⟩

/-- A sign goes on with none of the words behind it. -/
theorem sign_append (hs : s ∈ lexemeSigns) (hfree : s ∉ openSigns) (h : Lays y ls) :
    Lays (s ++ y) (.sign s hs :: ls) where
  laidOut behind text htext hlaid := by
    rw [String.toList_append, List.append_assoc]
    refine laidOut_cons (fun c hc => ?_) (h.laidOut _ _ htext hlaid)
    have hc : c ≠ '=' ∧ c ≠ '|' := by
      cases hcs : y.toList with
      | nil =>
        rw [hcs] at hc
        exact (htext c hc).2
      | cons d cs =>
        rw [hcs] at hc
        exact h.head c (by rwa [hcs])
    simp only [openSigns, List.mem_cons, List.not_mem_nil, or_false, not_or] at hfree
    simp [Lexeme.runsInto, hfree, hc]
  head := by
    have hall : lexemeSigns.all fun s =>
        s ∈ openSigns ∨ s.toList.head?.any fun c => c != '=' && c != '|' := by
      decide
    have hhead := List.all_eq_true.mp hall s hs
    intro c hc
    cases hcs : s.toList with
    | nil => simp [hcs, hfree] at hhead
    | cons d cs =>
      obtain rfl : d = c := by simpa [String.toList_append, hcs] using hc
      simpa [hcs, hfree] using hhead
  tokens := List.forall_mem_cons.mpr ⟨rfl, h.tokens⟩

/-- A sign that runs into nothing lays out itself. -/
theorem sign (hs : s ∈ lexemeSigns) (hfree : s ∉ openSigns) : Lays s [.sign s hs] := by
  simpa using sign_append hs hfree empty

theorem blank_append (h : Lays y ls) : Lays (" " ++ y) ls where
  laidOut behind text htext hlaid := by
    rw [String.toList_append, List.append_assoc]
    exact (h.laidOut _ _ htext hlaid).blank_cons
  head := by simp [String.toList_append]
  tokens := h.tokens

theorem blanks_append (n : Nat) (h : Lays y ls) :
    Lays (.ofList (List.replicate n ' ') ++ y) ls := by
  induction n with
  | zero => simpa using h
  | succ n ih =>
    simpa [List.replicate_succ, String.ofList_cons, String.append_assoc] using ih.blank_append

/-- The sign for an address in front of a name, or of anything that does not go on with it. -/
theorem address (h : Lays y ls) (hhead : ∀ c ∈ y.toList.head?, c ∉ ['&', '^', '='])
    (hne : y ≠ "") : Lays ("&" ++ y) (.sign "&" :: ls) where
  laidOut behind text htext hlaid := by
    rw [String.toList_append, List.append_assoc]
    refine laidOut_cons (fun c hc => ?_) (h.laidOut _ _ htext hlaid)
    obtain ⟨d, cs, hcs⟩ := List.exists_cons_of_ne_nil (String.toList_eq_nil_iff.not.mpr hne)
    rw [hcs] at hc hhead
    simpa [Lexeme.runsInto] using hhead c hc
  head := by simp [String.toList_append]
  tokens := List.forall_mem_cons.mpr ⟨rfl, h.tokens⟩

/-- A word and what stands behind a blank. -/
theorem append_blank (hx : Lays x ls₁) (hy : Lays y ls₂) : Lays (x ++ (" " ++ y)) (ls₁ ++ ls₂) :=
  hx.append hy.blank_append (.of_head (c := ' ') (by simp [String.toList_append]) (by decide))

/-- A name of a package, behind the name of the package. -/
theorem qualified (hx : isIdentifier x) (hy : isIdentifier y) :
    Lays (x ++ "." ++ y) [.name x, .sign ".", .name y] where
  laidOut behind text htext hlaid := by
    have hdot : ∀ c ∈ ('.' :: (y.toList ++ text)).head?, Text.isIdentifierPart c = false := by
      rintro _ ⟨⟩
      decide
    have hname : ∀ c ∈ (y.toList ++ text).head?, (Lexeme.sign ".").runsInto c = false := by
      obtain ⟨c, cs, hcs, hstart⟩ := head_of_isIdentifier hy
      rw [hcs]
      rintro _ ⟨⟩
      have hne : c ≠ '.' := by
        rintro rfl
        exact absurd hstart (by decide)
      simp [Lexeme.runsInto, hne, not_isDigit_of_isIdentifierStart hstart]
    rw [String.toList_append, String.toList_append, List.append_assoc, List.append_assoc]
    exact laidOut_cons hdot (laidOut_cons hname ((name hy).laidOut _ _ htext hlaid))
  head := by
    obtain ⟨c, cs, hcs, -⟩ := head_of_isIdentifier hx
    simpa [String.toList_append, hcs] using (name hx).head
  tokens := by simp [Lexeme.isToken, hx, hy]

/-! ### Brackets and lists -/

theorem parens (h : Lays x ls) : Lays ("(" ++ x ++ ")") (inParens ls) := by
  rw [String.append_assoc]
  exact sign_append _ (by decide) (h.append (sign _ (by decide)) (.of_head rfl (by decide)))

theorem brackets_append (hx : Lays x ls₁) (hy : Lays y ls₂) :
    Lays ("[" ++ x ++ "]" ++ y) (inBrackets ls₁ ++ ls₂) := by
  have hclosing : Lays ("]" ++ y) (.sign "]" :: ls₂) := hy.sign_append _ (by decide)
  have htext : "[" ++ x ++ "]" ++ y = "[" ++ (x ++ ("]" ++ y)) := by simp [← String.toList_inj]
  have hls : inBrackets ls₁ ++ ls₂ = .sign "[" :: (ls₁ ++ .sign "]" :: ls₂) := by simp [inBrackets]
  rw [htext, hls]
  exact sign_append _ (by decide) (hx.append hclosing
    (.of_head (c := ']') (by simp [String.toList_append]) (by decide)))

theorem brackets (h : Lays x ls) : Lays ("[" ++ x ++ "]") (inBrackets ls) := by
  simpa using h.brackets_append empty

/-- An integer ends in front of a bracket. -/
theorem integer_brackets_append (h : IsInteger x) (hy : Lays y ls) :
    Lays ("[" ++ x ++ "]" ++ y) (inBrackets [.integer x] ++ ls) := by
  have hclosing : Lays ("]" ++ y) (.sign "]" :: ls) := hy.sign_append _ (by decide)
  have htext : "[" ++ x ++ "]" ++ y = "[" ++ (x ++ ("]" ++ y)) := by simp [← String.toList_inj]
  have htail : Lays (x ++ ("]" ++ y)) (.integer x :: .sign "]" :: ls) := by
    refine ⟨fun behind text htext hlaid => ?_, ?_, ?_⟩
    · have hends : ∀ c ∈ (("]" ++ y).toList ++ text).head?,
          (Lexeme.integer x).runsInto c = false := by
        rw [String.toList_append]
        rintro _ ⟨⟩
        rfl
      rw [String.toList_append, List.append_assoc]
      exact laidOut_cons hends (hclosing.laidOut _ _ htext hlaid)
    · obtain ⟨c, cs, hcs⟩ := List.exists_cons_of_ne_nil h.isWord.1
      have hx : ∀ c ∈ x.toList.head?, Text.isIdentifierPart c := fun c hc =>
        h.isWord.2 c (List.mem_of_mem_head? hc)
      simpa [String.toList_append, hcs] using head_of_isIdentifierPart hx
    · exact List.forall_mem_cons.mpr ⟨by simp [Lexeme.isToken, h], hclosing.tokens⟩
  rw [htext]
  exact sign_append (s := "[") _ (by decide) htail

/-- A bar, with a blank on each side. -/
theorem bar_append (h : Lays y ls) : Lays (" | " ++ y) (.sign "|" :: ls) where
  laidOut behind text htext hlaid := by
    have hbar : ∀ c ∈ (' ' :: (y.toList ++ text)).head?, (Lexeme.sign "|").runsInto c = false := by
      rintro _ ⟨⟩
      decide
    rw [String.toList_append, List.append_assoc]
    exact (laidOut_cons hbar (h.laidOut _ _ htext hlaid).blank_cons).blank_cons
  head := by simp [String.toList_append]
  tokens := List.forall_mem_cons.mpr ⟨rfl, h.tokens⟩

/-- Texts with a separator between two of them. -/
theorem intercalate {separator : String} {c : Char} (hs : separator.toList.head? = some c)
    (hc : c ∈ wordEnds) (hl : ∀ y ls, Lays y ls → Lays (separator ++ y) (l :: ls))
    (h : List.Forall₂ Lays xs items) :
    Lays (separator.intercalate xs) (Lexeme.separated l items) := by
  induction h with
  | nil => exact empty
  | @cons x item xs items hx hxs ih =>
    cases hxs with
    | nil => simpa using hx
    | @cons next item' xs items _ _ =>
      have hstops : Stops (separator ++ separator.intercalate (next :: xs)) := by
        refine .of_head (c := c) ?_ hc
        rw [String.toList_append, List.head?_append, hs, Option.some_or]
      have hrest := hx.append (hl _ _ ih) hstops
      rwa [String.intercalate_cons_cons, String.append_assoc, Lexeme.separated_cons, List.map_cons,
        List.flatten_cons, List.cons_append, ← Lexeme.separated_cons]

/-- Items laid out with commas between them. -/
theorem commas (h : List.Forall₂ Lays xs items) :
    Lays (", ".intercalate xs) (Lexeme.separated (.sign ",") items) :=
  intercalate rfl (by decide)
    (fun _ _ hy => sign_append (s := ",") _ (by decide) hy.blank_append) h

theorem semicolons (h : List.Forall₂ Lays xs items) :
    Lays ("; ".intercalate xs) (Lexeme.separated (.sign ";") items) :=
  intercalate rfl (by decide)
    (fun _ _ hy => sign_append (s := ";") _ (by decide) hy.blank_append) h

theorem bars (h : List.Forall₂ Lays xs items) :
    Lays (" | ".intercalate xs) (Lexeme.separated (.sign "|") items) :=
  intercalate rfl (by decide) (fun _ _ hy => hy.bar_append) h

end Lays

/-! ### Fixed texts -/

/-- The text has the lexemes in order, with blanks around them. None runs into what stands behind
it, and the last one is closed if nothing does. -/
def hasLexemes (closed : Lexeme → Bool) : List Lexeme → List Char → Bool
  | [], cs => cs.all isLexemeGap
  | l :: ls, cs =>
    let text := cs.dropWhile isLexemeGap
    let rest := text.drop l.text.toList.length
    l.text.toList.isPrefixOf text && rest.head?.elim (closed l) (!l.runsInto ·) &&
      hasLexemes closed ls rest

/-- A text that has some lexemes lays them out before what no last lexeme runs into. -/
theorem laidOut_of_hasLexemes {closed : Lexeme → Bool} {P : Char → Prop}
    (hclosed : ∀ l, closed l → ∀ c, P c → l.runsInto c = false) {ls : List Lexeme} {cs : List Char}
    (h : hasLexemes closed ls cs) {behind : List Lexeme} {text : List Char}
    (htext : ∀ c ∈ text.head?, P c) (hlaid : LaidOut behind text) :
    LaidOut (ls ++ behind) (cs ++ text) := by
  induction ls generalizing cs with
  | nil => exact hlaid.gap_append h
  | cons l ls ih =>
    obtain ⟨⟨hword, hends⟩, hrest⟩ : (l.text.toList <+: cs.dropWhile isLexemeGap ∧ _) ∧ _ := by
      simpa only [hasLexemes, Bool.and_eq_true, List.isPrefixOf_iff_prefix] using h
    obtain ⟨rest, heq⟩ := hword
    rw [← heq, List.drop_left] at hends hrest
    have hsplit : cs = cs.takeWhile isLexemeGap ++ l.text.toList ++ rest := by
      rw [List.append_assoc, heq, List.takeWhile_append_dropWhile]
    rw [hsplit, List.append_assoc]
    refine .cons List.all_takeWhile (fun c hc => ?_) (ih hrest)
    cases rest with
    | nil => exact hclosed l hends c (htext c hc)
    | cons d rest =>
      obtain rfl : d = c := Option.some.inj hc
      simpa using hends

/-- The lexeme runs into no text that ends words. -/
def Lexeme.endsInWord : Lexeme → Bool
  | .integer _ | .number _ => false
  | .sign s _              => !openSigns.contains s
  | _                      => true

/-- The lexeme runs into no text that does not go on with signs. -/
def Lexeme.endsInSign : Lexeme → Bool
  | .sign s _ => !openSigns.contains s
  | .string _ => true
  | _         => false

/-- The text has the lexemes, and it goes on with no sign before it. -/
def isFixed (closed : Lexeme → Bool) (x : String) (ls : List Lexeme) : Bool :=
  hasLexemes closed ls x.toList && x.toList.head?.all (fun c => c != '=' && c != '|') &&
    ls.all Lexeme.isToken

/-- A fixed text lays out its lexemes. -/
theorem Lays.fixed {x : String} {ls : List Lexeme} (h : isFixed Lexeme.endsInWord x ls) :
    Lays x ls := by
  obtain ⟨⟨hlexemes, hhead⟩, htokens⟩ : (_ ∧ _) ∧ ∀ l ∈ ls, l.isToken := by
    simpa only [isFixed, Bool.and_eq_true, List.all_eq_true] using h
  refine ⟨fun behind text => laidOut_of_hasLexemes (fun l hl c hc => ?_) hlexemes, fun c hc => ?_,
    htokens⟩
  · cases l <;> simp_all [Lexeme.endsInWord, openSigns, Lexeme.runsInto, EndsWords]
  · rw [Option.mem_def] at hc
    simpa [hc] using hhead

/-- The text has the lexemes, in front of any text that does not go on with signs. -/
structure Opens (x : String) (ls : List Lexeme) : Prop where
  laidOut : ∀ (behind : List Lexeme) (text : List Char), (∀ c ∈ text.head?, c ≠ '=' ∧ c ≠ '|') →
    LaidOut behind text → LaidOut (ls ++ behind) (x.toList ++ text)
  head    : ∀ c ∈ x.toList.head?, c ≠ '=' ∧ c ≠ '|'
  tokens  : ∀ l ∈ ls, l.isToken

/-- A fixed text that ends in a sign opens what follows it. -/
theorem Opens.fixed {x : String} {ls : List Lexeme} (h : isFixed Lexeme.endsInSign x ls) :
    Opens x ls := by
  obtain ⟨⟨hlexemes, hhead⟩, htokens⟩ : (_ ∧ _) ∧ ∀ l ∈ ls, l.isToken := by
    simpa only [isFixed, Bool.and_eq_true, List.all_eq_true] using h
  refine ⟨fun behind text => laidOut_of_hasLexemes (fun l hl c hc => ?_) hlexemes, fun c hc => ?_,
    htokens⟩
  · cases l <;> simp_all [Lexeme.endsInSign, openSigns, Lexeme.runsInto]
  · rw [Option.mem_def] at hc
    simpa [hc] using hhead

/-- An opening in front of a text. -/
theorem Opens.append {x y : String} {ls₁ ls₂ : List Lexeme} (hx : Opens x ls₁) (hy : Lays y ls₂) :
    Lays (x ++ y) (ls₁ ++ ls₂) where
  laidOut behind text htext hlaid := by
    rw [String.toList_append, List.append_assoc, List.append_assoc]
    refine hx.laidOut _ _ (fun c hc => ?_) (hy.laidOut _ _ htext hlaid)
    cases hcs : y.toList with
    | nil => exact (htext c (by simpa [hcs] using hc)).2
    | cons d cs => exact hy.head c (by simpa [hcs] using hc)
  head := by
    cases hcs : x.toList with
    | nil => simpa [String.toList_append, hcs] using hy.head
    | cons c cs => simpa [String.toList_append, hcs] using hx.head
  tokens := List.forall_mem_append.mpr ⟨hx.tokens, hy.tokens⟩

/-! ### Texts in front of few others -/

/-- The lexeme runs into no text that ends numbers. -/
def Lexeme.endsInNumber : Lexeme → Bool
  | .sign s _ => !openSigns.contains s
  | _         => true

/-- The text has the lexemes, in front of all texts that end numbers. -/
structure Closes (x : String) (ls : List Lexeme) : Prop where
  laidOut : ∀ (behind : List Lexeme) (text : List Char),
    (∀ c ∈ text.head?, c ∈ Literal.numberEnds) → LaidOut behind text →
      LaidOut (ls ++ behind) (x.toList ++ text)
  tokens  : ∀ l ∈ ls, l.isToken

namespace Closes

variable {x y : String} {xs : List String} {ls ls₁ ls₂ : List Lexeme} {items : List (List Lexeme)}

/-- What ends a number ends words. -/
theorem endsWords_of_mem {c : Char} (h : c ∈ Literal.numberEnds) : EndsWords c := by
  have hall : Literal.numberEnds.all fun c =>
      !Text.isIdentifierPart c && (c != '=' && c != '|') := by decide
  simpa [EndsWords] using List.all_eq_true.mp hall c h

theorem of_lays (h : Lays x ls) : Closes x ls where
  laidOut behind text htext := h.laidOut behind text fun c hc => endsWords_of_mem (htext c hc)
  tokens := h.tokens

theorem fixed (h : isFixed Lexeme.endsInNumber x ls) : Closes x ls := by
  obtain ⟨⟨hlexemes, -⟩, htokens⟩ : (_ ∧ _) ∧ ∀ l ∈ ls, l.isToken := by
    simpa only [isFixed, Bool.and_eq_true, List.all_eq_true] using h
  refine ⟨fun behind text => laidOut_of_hasLexemes (fun l hl c hc => ?_) hlexemes, htokens⟩
  have hends := endsWords_of_mem hc
  cases l <;> simp_all [Lexeme.endsInNumber, openSigns, Lexeme.runsInto, EndsWords]

theorem commas (h : List.Forall₂ Closes xs items) :
    Closes (", ".intercalate xs) (Lexeme.separated (.sign ",") items) := by
  induction h with
  | nil => exact .of_lays .empty
  | @cons x item xs items hx hxs ih =>
    cases hxs with
    | nil => simpa using hx
    | @cons next item' xs items _ _ =>
      rw [Lexeme.separated_cons, List.map_cons, List.flatten_cons, List.cons_append,
        ← Lexeme.separated_cons, String.intercalate_cons_cons]
      refine ⟨fun behind text htext hlaid => ?_,
        List.forall_mem_append.mpr ⟨hx.tokens, List.forall_mem_cons.mpr ⟨rfl, ih.tokens⟩⟩⟩
      have hrest := (ih.laidOut behind text htext hlaid).blank_cons
      have hcomma := Lays.laidOut_cons (l := .sign ",") (fun c hc => by
        obtain rfl : ' ' = c := Option.some.inj hc
        rfl) hrest
      have hall := hx.laidOut _ _ (fun c hc => by
        obtain rfl : ',' = c := Option.some.inj hc
        decide) hcomma
      simpa [String.toList_append, Lexeme.text] using hall

end Closes

/-- A word in front of a text, with a blank between them. -/
theorem Lays.append_closes {x y : String} {ls₁ ls₂ : List Lexeme} (hx : Lays x ls₁)
    (hy : Closes y ls₂) : Closes (x ++ (" " ++ y)) (ls₁ ++ ls₂) where
  laidOut behind text htext hlaid := by
    have hrest := (hy.laidOut behind text htext hlaid).blank_cons
    have hall := hx.laidOut _ _ (fun c hc => by
      obtain rfl : ' ' = c := Option.some.inj hc
      exact Closes.endsWords_of_mem (by decide)) hrest
    simpa [String.toList_append] using hall
  tokens := List.forall_mem_append.mpr ⟨hx.tokens, hy.tokens⟩

/-! ### Texts of rows -/

/-- The text is laid out as a row of something. -/
def HasLayout {α : Type} (R : α → List Lexeme → Prop) (x : String) : Prop :=
  ∃ a ls, R a ls ∧ Lays x ls

/-- Where each text of a list is laid out, they are laid out as a list. -/
theorem exists_rows {α : Type} {R : α → List Lexeme → Prop} {xs : List String}
    (h : ∀ x ∈ xs, HasLayout R x) :
    ∃ values items, List.Forall₂ R values items ∧ List.Forall₂ Lays xs items := by
  induction xs with
  | nil => exact ⟨[], [], .nil, .nil⟩
  | cons x xs ih =>
    obtain ⟨⟨a, ls, ha, hx⟩, hxs⟩ := List.forall_mem_cons.mp h
    obtain ⟨values, items, hvalues, hitems⟩ := ih hxs
    exact ⟨a :: values, ls :: items, .cons ha hvalues, .cons hx hitems⟩

namespace HasLayout

variable {x y n : String} {xs : List String}

/-! ### Parameters and results -/

/-- A name alone is a type, unless an entry behind it says otherwise. -/
theorem entry_name (h : isIdentifier n) : HasLayout ParamEntry.Row n :=
  ⟨_, _, .bare n, .name h⟩

theorem entry (h : HasLayout TypeExpr.Row x) : HasLayout ParamEntry.Row x := by
  obtain ⟨e, ls, he, hx⟩ := h
  by_cases hname : ∃ n, e = .name n
  · obtain ⟨n, rfl⟩ := hname
    cases he
    exact ⟨_, _, .bare n, hx⟩
  · exact ⟨_, _, .unnamed he fun n heq => hname ⟨n, heq⟩, hx⟩

theorem entry_named (hn : isIdentifier n) (h : HasLayout TypeExpr.Row x) :
    HasLayout ParamEntry.Row (n ++ " " ++ x) := by
  obtain ⟨e, ls, he, hx⟩ := h
  rw [String.append_assoc]
  exact ⟨_, _, .named n he, (Lays.name hn).append_blank hx⟩

theorem entry_dots (h : HasLayout TypeExpr.Row x) : HasLayout ParamEntry.Row ("..." ++ x) := by
  obtain ⟨e, ls, he, hx⟩ := h
  exact ⟨_, _, .variadic none he, hx.sign_append _ (by decide)⟩

theorem entry_named_dots (hn : isIdentifier n) (h : HasLayout TypeExpr.Row x) :
    HasLayout ParamEntry.Row (n ++ " " ++ ("..." ++ x)) := by
  obtain ⟨e, ls, he, hx⟩ := h
  rw [String.append_assoc]
  exact ⟨_, _, .variadic (some n) he,
    (Lays.name hn).append_blank (hx.sign_append _ (by decide))⟩

theorem params (h : ∀ x ∈ xs, HasLayout ParamEntry.Row x) :
    HasLayout ParamsRow ("(" ++ ", ".intercalate xs ++ ")") := by
  obtain ⟨entries, items, hentries, hitems⟩ := exists_rows h
  exact ⟨_, _, .mk hentries, (Lays.commas hitems).parens⟩

theorem function_none (h : HasLayout ParamsRow x) : HasLayout FunctionExpr.Row x := by
  obtain ⟨params, ls, hparams, hx⟩ := h
  exact ⟨_, _, .none hparams, hx⟩

theorem function_single (h : HasLayout ParamsRow x) (hy : HasLayout TypeExpr.Row y) :
    HasLayout FunctionExpr.Row (x ++ (" " ++ y)) := by
  obtain ⟨params, ls, hparams, hx⟩ := h
  obtain ⟨e, rs, he, hy⟩ := hy
  exact ⟨_, _, .single hparams he, hx.append_blank hy⟩

theorem function_list (h : HasLayout ParamsRow x) (hy : HasLayout ParamsRow y) :
    HasLayout FunctionExpr.Row (x ++ (" " ++ y)) := by
  obtain ⟨params, ls, hparams, hx⟩ := h
  obtain ⟨results, rs, hresults, hy⟩ := hy
  exact ⟨_, _, .list hparams hresults, hx.append_blank hy⟩

end HasLayout

end GoMocks.GoSource
