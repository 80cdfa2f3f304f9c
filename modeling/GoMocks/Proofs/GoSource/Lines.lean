import GoMocks.Proofs.GoSource.Parsing
import GoMocks.Proofs.GoSource.Scanning

/-!
# Go source — lines

Members of a declaration stand on lines of their own. The first token of each line knows about the
newline in front of it, and a newline takes the place of a semicolon.

* `LinesLaidOut`: lines that hold rows of lexemes, with blank lines and comments between them.
* `LinesLaidOut.scanAll`: they are cut into rows of tokens that spell the lexemes.
* `members_lines`: members on lines of their own are read one after the other.
-/

namespace GoMocks.GoSource

open GoSource.Parser

/-! ### Lines of lexemes -/

/-- Each row of lexemes stands on a line of its own. Other lines are blank or hold a comment. -/
inductive LinesLaidOut : List String → List (List Lexeme) → Prop
  | nil : LinesLaidOut [] []
  | blank {line : String} {lines : List String} {rows : List (List Lexeme)}
      (hline : line.toList.all isLexemeGap) (h : LinesLaidOut lines rows) :
      LinesLaidOut (line :: lines) rows
  | comment {blanks text : List Char} {line : String} {lines : List String}
      {rows : List (List Lexeme)} (hline : line.toList = blanks ++ '/' :: '/' :: text)
      (hblanks : blanks.all isLexemeGap) (htext : '\n' ∉ text) (h : LinesLaidOut lines rows) :
      LinesLaidOut (line :: lines) rows
  | row {line : String} {lines : List String} {l : Lexeme} {ls : List Lexeme}
      {rows : List (List Lexeme)} (hline : LaidOut (l :: ls) line.toList)
      (htokens : ∀ l' ∈ l :: ls, l'.isToken) (h : LinesLaidOut lines rows) :
      LinesLaidOut (line :: lines) ((l :: ls) :: rows)

theorem LinesLaidOut.append {lines more : List String} {rows behind : List (List Lexeme)}
    (h : LinesLaidOut lines rows) (h' : LinesLaidOut more behind) :
    LinesLaidOut (lines ++ more) (rows ++ behind) := by
  induction h with
  | nil => exact h'
  | blank hline _ ih => exact .blank hline ih
  | comment hline hblanks htext _ ih => exact .comment hline hblanks htext ih
  | row hline htokens _ ih => exact .row hline htokens ih

/-- The tokens spell the lexemes, and the first of them stands on a new line. -/
inductive SpellLine : List Token → List Lexeme → Prop
  | mk {t : Token} {ts : List Token} {l : Lexeme} {ls : List Lexeme} (hkind : t.kind = l.kind)
      (htext : t.text = l.text) (hnewline : t.newline = true)
      (h : List.Forall₂ Token.Spells ts ls) : SpellLine (t :: ts) (l :: ls)

/-- A line has one token for each lexeme. -/
theorem SpellLine.length_eq {ts : List Token} {ls : List Lexeme} (h : SpellLine ts ls) :
    ts.length = ls.length := by
  cases h with
  | mk _ _ _ h => rw [List.length_cons, List.length_cons, h.length_eq]

/-- No row is longer than all lines together. -/
theorem length_le_of_mem_rows {tss : List (List Token)} {rows : List (List Lexeme)}
    (h : List.Forall₂ SpellLine tss rows) {row : List Lexeme} (hrow : row ∈ rows) :
    row.length ≤ tss.flatten.length := by
  obtain ⟨ts, hts, hspells⟩ : ∃ ts ∈ tss, SpellLine ts row := by
    induction h with
    | nil => cases hrow
    | cons hline _ ih =>
      rcases List.mem_cons.mp hrow with rfl | hrow
      · exact ⟨_, List.mem_cons_self .., hline⟩
      · obtain ⟨ts, hts, hspells⟩ := ih hrow
        exact ⟨ts, List.mem_cons_of_mem _ hts, hspells⟩
  rw [← hspells.length_eq]
  exact (List.sublist_flatten_of_mem hts).length_le

/-- A block taken apart: its first line, the lines inside, and the closing token on a line of its
own. -/
theorem exists_of_spellLines {tss : List (List Token)} {first closing : Lexeme} {ls : List Lexeme}
    {rows : List (List Lexeme)}
    (h : List.Forall₂ SpellLine tss ((first :: ls) :: (rows ++ [[closing]]))) :
    ∃ word ts lines close, tss = (word :: ts) :: (lines ++ [[close]]) ∧
      (word.kind = first.kind ∧ word.text = first.text ∧ word.newline = true) ∧
      List.Forall₂ Token.Spells ts ls ∧ List.Forall₂ SpellLine lines rows ∧
      (close.kind = closing.kind ∧ close.text = closing.text) ∧ close.newline = true := by
  obtain ⟨wordLine, _, hword, hbehind, rfl⟩ := List.forall₂_cons_right_iff.mp h
  obtain ⟨lines, _, rfl, hlines, hlast⟩ := exists_append_of_forall₂ hbehind
  obtain ⟨closeLine, _, hclose, ⟨⟩, rfl⟩ := List.forall₂_cons_right_iff.mp hlast
  cases hword with
  | @mk word ts _ _ hkind htext hnewline hspells =>
  cases hclose with
  | @mk close _ _ _ hcloseKind hcloseText hcloseNewline hnil =>
  cases hnil
  exact ⟨word, ts, lines, close, rfl, ⟨hkind, htext, hnewline⟩, hspells, hlines,
    ⟨hcloseKind, hcloseText⟩, hcloseNewline⟩

/-- What stands between the last token of a line and its end. -/
def EndsRow (behind : List Char) : Prop :=
  ∀ gap, (∃ comments, IsGap ('\n' :: gap) true comments) →
    ∃ comments, IsGap (behind ++ '\n' :: gap) true comments

section Scanning

variable {behind line text : List Char} {l : Lexeme} {ls : List Lexeme} {lines : List String}
  {rows : List (List Lexeme)}

theorem EndsRow.of_blanks (h : behind.all isLexemeGap) : EndsRow behind := by
  rintro gap ⟨comments, hgap⟩
  have hblanks := hgap.blanks_append (isGapChar_of_isLexemeGap h).1
  rw [Bool.or_true] at hblanks
  exact ⟨comments, hblanks⟩

theorem EndsRow.of_comment {blanks : List Char} (hblanks : blanks.all isLexemeGap)
    (htext : '\n' ∉ text) : EndsRow (blanks ++ '/' :: '/' :: text) := by
  rintro gap ⟨comments, hgap⟩
  have hcomment := (IsGap.comment htext hgap).blanks_append (isGapChar_of_isLexemeGap hblanks).1
  rw [Bool.or_true] at hcomment
  rw [List.append_assoc]
  exact ⟨_, hcomment⟩

/-- A line without tokens belongs to the gap around it. -/
theorem EndsRow.append_line (h : EndsRow behind) (hline : EndsRow line) :
    EndsRow (behind ++ '\n' :: line) := by
  rintro gap hgap
  obtain ⟨comments, hrest⟩ := hline gap hgap
  rw [List.append_assoc]
  exact h _ ⟨comments, .blank (by decide) hrest⟩

/-- **Lines are cut into rows of tokens.** -/
theorem LinesLaidOut.scans (h : LinesLaidOut lines rows) (hbehind : EndsRow behind) (start : Nat) :
    ∃ tss eof, List.Forall₂ SpellLine tss rows ∧ eof.kind = .eof ∧ eof.newline = true ∧
      Scans start (behind ++ (lines.flatMap ('\n' :: ·.toList) ++ ['\n'])) (tss.flatten ++ [eof]) := by
  induction h generalizing behind start with
  | nil =>
    obtain ⟨comments, hgap⟩ := hbehind [] ⟨[], .blank (by decide) .nil⟩
    exact ⟨[], _, .nil, rfl, rfl, hgap.scans_eof start⟩
  | blank hline h ih =>
    obtain ⟨tss, eof, htss, hkind, hnewline, hscans⟩ :=
      ih (hbehind.append_line (.of_blanks hline)) start
    exact ⟨tss, eof, htss, hkind, hnewline, by simpa using hscans⟩
  -- lines without lexemes join the gap behind the row above
  | comment hline hblanks htext h ih =>
    obtain ⟨tss, eof, htss, hkind, hnewline, hscans⟩ :=
      ih (hbehind.append_line (.of_comment hblanks htext)) start
    exact ⟨tss, eof, htss, hkind, hnewline, by simpa [hline] using hscans⟩
  | @row line lines l ls rows hline htokens h ih =>
    have hrest : ∀ c ∈ (lines.flatMap ('\n' :: ·.toList) ++ ['\n']).head?, c = '\n' := by
      cases lines <;> simp
    generalize heq : line.toList = cs at hline
    cases hline with
    | @cons blanks text _ _ hblanks hends hlaid =>
    obtain ⟨htoken, hls⟩ := List.forall_mem_cons.mp htokens
    have hline : IsGap ('\n' :: blanks) true [] :=
      .blank (by decide) (.of_blanks (isGapChar_of_isLexemeGap hblanks).1)
    -- the line break before a row lies in the gap of its first lexeme
    obtain ⟨comments, hgap⟩ := hbehind blanks ⟨[], hline⟩
    obtain ⟨ts, start', after, hts, hafter, hscans⟩ := hlaid.scans hls hrest
      (start + (behind ++ '\n' :: blanks).count '\n' + l.text.toList.count '\n')
    obtain ⟨tss, eof, htss, hkind, hnewline, hlater⟩ := ih (.of_blanks hafter) start'
    have hfirst := Scans.cons htoken hgap (l.runsInto_append hends hrest) (hscans _ hlater)
    exact ⟨_ :: tss, eof, .cons (.mk rfl rfl rfl hts) htss, hkind, hnewline, by simpa [heq] using hfirst⟩

/-- Lines behind a package clause are cut into its tokens and their own. Blanks and comments may stand
in front of the clause. -/
theorem LinesLaidOut.scanAll (h : LinesLaidOut lines rows) {front : List Char} {newline : Bool}
    {comments : List String} (hfront : IsGap front newline comments)
    (hmark : ∀ c ∈ front.head?, c ≠ Token.byteOrderMark) {name : String} (hname : isIdentifier name)
    {source : String} (hsource : source.toList = front ++ ("package ".toList ++ (name.toList ++
      (lines.flatMap ('\n' :: ·.toList) ++ ['\n'])))) :
    ∃ word clause tss eof, (word.kind = .keyword ∧ word.text = "package" ∧ word.comments = comments) ∧
      (clause.kind = .name ∧ clause.text = name) ∧ List.Forall₂ SpellLine tss rows ∧
      (eof.kind = .eof ∧ eof.newline = true) ∧
      Token.scanAll source = some (word :: clause :: (tss.flatten ++ [eof])) := by
  have hend : ∀ c ∈ (lines.flatMap ('\n' :: ·.toList) ++ ['\n']).head?, c = '\n' := by
    cases lines <;> simp
  have hclause : (Lexeme.name name).isToken := hname
  have hword : (Lexeme.keyword "package").isToken := rfl
  have hspace : IsGap [' '] false [] := .of_blanks rfl
  obtain ⟨tss, eof, htss, hkind, hnewline, hlater⟩ := h.scans (.of_blanks (List.all_nil ..))
    (1 + front.count '\n' + "package".toList.count '\n' + [' '].count '\n' + name.toList.count '\n')
  have hscans : Scans 1 _ _ :=
    .cons hword hfront (by simp [Lexeme.runsInto_of_mem]) <|
      .cons hclause hspace (fun c hc => Lexeme.runsInto_of_mem _ (by simp [hend c hc])) hlater
  have hsource : source.toList = front ++ ("package".toList ++ ([' '] ++ (name.toList ++
      ([] ++ (lines.flatMap ('\n' :: ·.toList) ++ ['\n']))))) := by
    rw [hsource]
    simp
  refine ⟨_, _, tss, eof, ⟨rfl, rfl, rfl⟩, ⟨rfl, rfl⟩, htss, ⟨hkind, hnewline⟩,
    (hsource ▸ hscans).scanAll ?_⟩
  rw [hsource]
  cases front with
  | nil => simp [Token.byteOrderMark]
  | cons c front => simpa using hmark

end Scanning

/-! ### Members on lines -/

/-- A name, or the sign that closes the lines. -/
def StartsMember (closing : String) (t : Token) : Prop :=
  t.kind = .name ∨ t.IsSign closing

/-- The first token of the next line. -/
def EndsLine (starts : Token → Prop) (t : Token) : Prop :=
  t.newline = true ∧ starts t

/-- The tokens are read as a member that begins on a new line, up to the next line. -/
inductive LineItem {α : Type} (starts : Token → Prop) (p : Parser α) : List Token → α → Prop
  | mk {t : Token} {ts : List Token} {a : α} (hstarts : starts t) (hnewline : t.newline = true)
      (h : ∀ next rest, EndsLine starts next →
        p ({ t with newline := false } :: (ts ++ next :: rest)) = some (a, next :: rest)) :
      LineItem starts p (t :: ts) a

section Members

variable {α : Type} {p : Parser α} {starts : Token → Prop} {opening closing : String}
  {ts rest final : List Token} {t close : Token} {tss : List (List Token)} {values as : List α}
  {a : α} {n : Nat} {l : Lexeme} {ls : List Lexeme} {rows : List (List Lexeme)}

/-- A row on one line is an item if its parser takes it up to the next line. -/
theorem LineItem.of_takes (hstarts : ∀ t : Token, t.kind = l.kind → t.text = l.text → starts t)
    (h : Takes (EndsLine starts) p (l :: ls) a) (hts : SpellLine ts (l :: ls)) :
    LineItem starts p ts a := by
  cases hts with
  | @mk t ts _ _ hkind htext hnewline hts =>
  exact .mk (hstarts t hkind htext) hnewline fun next rest hnext =>
    h ({ t with newline := false } :: ts) next rest (.cons ⟨hkind, htext, rfl⟩ hts) hnext

/-- Rows that are read one by one make items, a line each. -/
theorem lineItems_of_takes (h : List.Forall₂ (fun row a => Takes (EndsLine starts) p row a ∧
      ∃ l ls, row = l :: ls ∧ ∀ t : Token, t.kind = l.kind → t.text = l.text → starts t) rows values)
    (htss : List.Forall₂ SpellLine tss rows) : List.Forall₂ (LineItem starts p) tss values := by
  induction h generalizing tss with
  | nil =>
    cases htss
    exact .nil
  | cons hrow _ ih =>
    obtain ⟨ts, more, hts, hmore, rfl⟩ := List.forall₂_cons_right_iff.mp htss
    obtain ⟨htakes, l, ls, rfl, hstarts⟩ := hrow
    exact .cons (.of_takes hstarts htakes hts) (ih hmore)

/-- No item is read where none begins. -/
theorem upTo_of_none (h : p ts = none) (n : Nat) : upTo p (n + 1) ts = some ([], ts) :=
  congrArg (Option.orElse · _) (bind_of_eq_none h)

/-- One item is read, then the items behind it. -/
theorem upTo_of_some (h : p ts = some (a, rest)) (hmore : upTo p n rest = some (as, final)) :
    upTo p (n + 1) ts = some (a :: as, final) := by
  have hrun : (do return (← p) :: (← upTo p n) : Parser (List α)) ts = some (a :: as, final) :=
    (bind_of_eq_some h).trans (bind_of_eq_some hmore)
  exact congrArg (Option.orElse · _) hrun

theorem optional_of_eq_some (h : p ts = some (a, rest)) :
    optional p ts = some (some a, rest) := by
  have hsome : (some <$> p) ts = some (some a, rest) := congrArg (Option.bind · _) h
  exact congrArg (Option.orElse · _) hsome

theorem sign_of_isSign {s : String} (h : t.IsSign s) : sign s (t :: ts) = some ((), ts) :=
  discard_token_of_pos (by simp [h.1, h.2]) ts

/-- A newline ends a member. -/
theorem terminator_newline (h : t.newline = true) :
    terminator (t :: ts) = some ((), { t with newline := false } :: ts) :=
  if_pos h

/-- Behind each item stands a token on a line of its own. -/
theorem endsLine_of_lineItems (h : List.Forall₂ (LineItem starts p) tss values)
    (hclose : EndsLine starts close) (rest : List Token) :
    ∃ next behind, tss.flatten ++ close :: rest = next :: behind ∧ EndsLine starts next := by
  cases h with
  | nil => exact ⟨close, rest, rfl, hclose⟩
  | cons hitem _ =>
    obtain ⟨hstarts, hnewline, -⟩ := hitem
    exact ⟨_, _, rfl, hnewline, hstarts⟩

/-- Each item has at least one token. -/
theorem length_le_of_lineItems (h : List.Forall₂ (LineItem starts p) tss values) :
    tss.length ≤ tss.flatten.length := by
  induction h with
  | nil => exact Nat.le_refl 0
  | cons hitem _ ih =>
    cases hitem
    simp only [List.length_cons, List.flatten_cons, List.length_append]
    omega

theorem upTo_lines (h : List.Forall₂ (LineItem starts p) tss values)
    (hclose : EndsLine starts close) (hstop : p ({ close with newline := false } :: rest) = none)
    (hn : tss.length < n) :
    upTo (terminator *> p) n (tss.flatten ++ close :: rest) = some (values, close :: rest) := by
  induction h generalizing n with
  | nil =>
    obtain ⟨n, rfl⟩ := Nat.exists_eq_add_of_le' (Nat.one_le_of_lt hn)
    have hrun : (terminator *> p) (close :: rest) = none :=
      (bind_of_eq_some (terminator_newline hclose.1)).trans hstop
    exact upTo_of_none hrun n
  | @cons ts a tss values hitem hitems ih =>
    obtain ⟨n, rfl⟩ := Nat.exists_eq_add_of_le' (Nat.one_le_of_lt hn)
    have hmore := ih (Nat.lt_of_succ_lt_succ hn)
    obtain ⟨next, behind, heq, hnext⟩ := endsLine_of_lineItems hitems hclose rest
    rw [List.flatten_cons, List.append_assoc]
    rw [heq] at hmore ⊢
    obtain ⟨-, hnewline, hrun⟩ := hitem
    exact upTo_of_some ((bind_of_eq_some (terminator_newline hnewline)).trans (hrun next behind hnext))
      hmore

/-- **Items on lines of their own are read one after the other.** The newline in front of the first
one does not matter to it. -/
theorem sepBy1_lines (h : List.Forall₂ (LineItem starts p) tss values) (hne : tss ≠ [])
    (hfirst : ∀ t ts, starts t → p (t :: ts) = p ({ t with newline := false } :: ts))
    (hclose : EndsLine starts close) (hstop : p ({ close with newline := false } :: rest) = none) :
    sepBy1 p terminator (tss.flatten ++ close :: rest) = some (values, close :: rest) := by
  cases h with
  | nil => exact absurd rfl hne
  | @cons ts a tss values hitem hitems =>
    obtain ⟨next, behind, heq, hnext⟩ := endsLine_of_lineItems hitems hclose rest
    have hmany : many (terminator *> p) (next :: behind) = some (values, close :: rest) := by
      rw [← heq]
      refine upTo_lines hitems hclose hstop ?_
      have hlength := length_le_of_lineItems hitems
      simp only [List.length_append, List.length_cons]
      omega
    obtain ⟨hstarts, -, hrun⟩ := hitem
    rw [List.flatten_cons, List.append_assoc, heq]
    exact (bind_of_eq_some ((hfirst _ _ hstarts).trans (hrun next behind hnext))).trans
      (bind_of_eq_some hmany)

/-- Members between braces or parentheses, on lines of their own. -/
theorem members_lines (hopening : t.IsSign opening)
    (h : List.Forall₂ (LineItem starts p) tss values) (hne : tss ≠ [])
    (hfirst : ∀ t ts, starts t → p (t :: ts) = p ({ t with newline := false } :: ts))
    (hclose : EndsLine starts close) (hclosing : close.IsSign closing)
    (hstop : p ({ close with newline := false } :: rest) = none) :
    members opening closing p (t :: (tss.flatten ++ close :: rest)) = some (values, rest) := by
  have hend : optional terminator (close :: rest) =
      some (some (), { close with newline := false } :: rest) :=
    optional_of_eq_some (terminator_newline hclose.1)
  have hfound : (sepBy1 p terminator <* optional terminator) (tss.flatten ++ close :: rest) =
      some (values, { close with newline := false } :: rest) :=
    (bind_of_eq_some (sepBy1_lines h hne hfirst hclose hstop)).trans (bind_of_eq_some hend)
  exact (bind_of_eq_some (sign_of_isSign hopening)).trans
    ((bind_of_eq_some (optional_of_eq_some hfound)).trans
      (bind_of_eq_some (sign_of_isSign hclosing)))

end Members

end GoMocks.GoSource
