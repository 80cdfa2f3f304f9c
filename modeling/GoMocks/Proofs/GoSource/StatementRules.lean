import GoMocks.Proofs.GoSource.Items
import GoMocks.Proofs.GoSource.ValueRules

/-!
# Go source — the rules for statements

A statement stands on a line of its own, or on more lines if there is a block or a list of
declarations in it. The next line begins with another statement, or with the brace that closes the
block.

* `ReadsStatement`: rows of lexemes are read as a statement; `HoldsStatements`: lines that hold such
  rows.
* `block_lines`: statements between braces are read one after the other.
* `ReadsStatement.value`, `ReadsStatement.returned` and the others: the forms of statements.
-/

namespace GoMocks.GoSource

open GoSource.Parser GoSource.Grammar
open Lexeme (separated inParens inBrackets inBraces)

/-- A token that a statement of some forms begins with, or the brace behind the last one. -/
def StartsStatement (t : Token) : Prop :=
  t.kind = .name ∨ (t.kind = .keyword ∧ t.text ∈ ["if", "return", "var"]) ∨ t.IsSign "\x7d"

/-- Rows of lexemes on lines of their own are read as a statement. -/
structure ReadsStatement (rows : List (List Lexeme)) : Prop where
  starts : rows ≠ []
  reads (d : Nat) {tss : List (List Token)} (htss : List.Forall₂ SpellLine tss rows)
    (hd : tss.flatten.length + 4 ≤ d) :
    LineItem StartsStatement (nested d).statement tss.flatten ()

section Rules

variable {g : Grammar} {d n : Nat} {F : Token → Prop} {e : TypeExpr} {ls ls₁ ls₂ : List Lexeme}
  {items : List (List Lexeme)} {l : Lexeme} {mode : Mode}

/-- A statement is read alike on a line of its own. -/
theorem statement_newline (d : Nat) {t : Token} (h : StartsStatement t) (ts : List Token) :
    (nested (d + 2)).statement (t :: ts) =
      (nested (d + 2)).statement ({ t with newline := false } :: ts) := by
  obtain ⟨kind, text, gap, newline, comments, line⟩ := t
  obtain rfl | ⟨rfl, h⟩ | ⟨rfl, rfl⟩ := h
  · rfl
  · simp only [List.mem_cons, List.not_mem_nil, or_false] at h
    rcases h with rfl | rfl | rfl
    · rfl
    · rfl
    · rfl
  · rfl

/-- A closing brace starts no statement. -/
theorem statement_brace (d : Nat) {t : Token} (h : t.IsSign "\x7d") (ts : List Token) :
    (nested (d + 2)).statement (t :: ts) = none := by
  obtain ⟨kind, text, gap, newline, comments, line⟩ := t
  obtain ⟨rfl, rfl⟩ := h
  rfl

/-! ### Blocks -/

/-- Blocks of rows are read as statements, one block after the other. -/
theorem exists_lineItems_of_readsStatement {blocks : List (List (List Lexeme))}
    {tss : List (List Token)} (h : ∀ rows ∈ blocks, ReadsStatement rows)
    (htss : List.Forall₂ SpellLine tss blocks.flatten) (hd : tss.flatten.length + 4 ≤ d) :
    ∃ groups units, groups.flatten = tss.flatten ∧ groups.length = blocks.length ∧
      List.Forall₂ (LineItem StartsStatement (nested d).statement) groups units := by
  induction blocks generalizing tss with
  | nil =>
    cases htss
    exact ⟨[], [], rfl, rfl, .nil⟩
  | cons rows blocks ih =>
    obtain ⟨hrows, hblocks⟩ := List.forall_mem_cons.mp h
    obtain ⟨tss₁, tss₂, rfl, h₁, h₂⟩ := exists_append_of_forall₂ htss
    rw [List.flatten_append, List.length_append] at hd
    obtain ⟨groups, units, hflatten, hlength, hitems⟩ := ih hblocks h₂ (by omega)
    exact ⟨tss₁.flatten :: groups, () :: units, by simp [hflatten], by simp [hlength],
      .cons (hrows.reads d h₁ (by omega)) hitems⟩

/-- **Statements between braces are read one after the other**, each on lines of its own. -/
theorem block_lines {blocks : List (List (List Lexeme))} {tss : List (List Token)}
    (h : ∀ rows ∈ blocks, ReadsStatement rows) (hne : blocks ≠ [])
    (htss : List.Forall₂ SpellLine tss blocks.flatten) (hd : tss.flatten.length + 5 ≤ d)
    {opening close : Token} {rest : List Token} (hopening : opening.IsSign "\x7b")
    (hnewline : close.newline = true) (hclosing : close.IsSign "\x7d") :
    (nested d).block (opening :: (tss.flatten ++ close :: rest)) = some ((), rest) := by
  obtain ⟨d, rfl⟩ := Nat.exists_eq_add_of_le' (show 3 ≤ d by omega)
  obtain ⟨groups, units, hflatten, hlength, hitems⟩ :=
    exists_lineItems_of_readsStatement h htss (d := d + 2) (by omega)
  have hgroups : groups ≠ [] := by
    rintro rfl
    exact hne (List.length_eq_zero_iff.mp hlength.symm)
  have hclose : EndsLine StartsStatement close := ⟨hnewline, .inr (.inr hclosing)⟩
  have hbrace : ({ close with newline := false } : Token).IsSign "\x7d" := hclosing
  have hlist : sepBy1 (nested (d + 2)).statement terminator (groups.flatten ++ close :: rest) =
      some (units, close :: rest) :=
    sepBy1_lines hitems hgroups (fun t ts ht => statement_newline d ht ts) hclose
      (statement_brace d hbrace rest)
  have hlabel : optional emptyLabel ({ close with newline := false } :: rest) =
      some (none, { close with newline := false } :: rest) := by
    obtain ⟨kind, text, gap, newline, comments, line⟩ := close
    obtain ⟨rfl, rfl⟩ := hclosing
    rfl
  -- the line break before the brace ends the last statement, and no label follows
  have hend : optional (terminator *> optional emptyLabel) (close :: rest) =
      some (some none, { close with newline := false } :: rest) :=
    optional_of_eq_some ((bind_of_eq_some (terminator_newline hnewline)).trans hlabel)
  have hstatements : statements (nested (d + 2)) (tss.flatten ++ close :: rest) =
      some ((), { close with newline := false } :: rest) := by
    have hrun : (do
        discard <| sepBy1 (nested (d + 2)).statement terminator
        discard <| optional (terminator *> optional emptyLabel) : Parser Unit)
          (tss.flatten ++ close :: rest) = some ((), { close with newline := false } :: rest) := by
      rw [← hflatten]
      exact (bind_of_eq_some (congrArg (Option.bind · _) hlist)).trans
        (congrArg (Option.bind · _) hend)
    exact congrArg (Option.orElse · _) hrun
  have hinside : (sign "\x7b" *> statements (nested (d + 2)))
      (opening :: (tss.flatten ++ close :: rest)) = some ((), { close with newline := false } :: rest) :=
    (bind_of_eq_some (sign_of_isSign hopening)).trans hstatements
  exact (bind_of_eq_some hinside).trans (bind_of_eq_some (sign_of_isSign hbrace))

/-! ### Lists of values -/

/-- Values with commas between them are expressions. -/
theorem takes_expressions (hne : items ≠ [])
    (hitems : ∀ item ∈ items, ∃ shape, Takes (EndsValue mode) (g.value mode) item shape)
    (hF : ∀ t, F t → EndsValue mode t ∧ ((mode.nl && t.newline) = false → ¬ t.IsSign ",")) :
    Takes F (expressions g mode) (separated (.sign ",") items) items.length := by
  have hstop : Refuses F (unlessEnded mode.nl (sign ",") *> g.value mode) [] := by
    refine Refuses.seqRight (refuses_unlessEnded_of_lead fun t rest ht hline => ?_)
    have hrefuses : Refuses (· = t) (sign ",") [] :=
      refuses_sign (by rintro _ rfl; exact (hF _ ht).2 hline)
    exact hrefuses [] t rest .nil rfl
  have hcomma {t : Token} (ht : t.Spells (.sign ",")) : EndsValue mode t :=
    ht.isSign.endsValue (by decide)
  obtain ⟨item, items, rfl⟩ := List.exists_cons_of_ne_nil hne
  obtain ⟨⟨shape, hitem⟩, hitems⟩ := List.forall_mem_cons.mp hitems
  choose! shapeOf hshapes using hitems
  have hmany : Takes F (many (unlessEnded mode.nl (sign ",") *> g.value mode))
      (items.map (.sign "," :: ·)).flatten (items.map shapeOf) := by
    refine takes_many (G := EndsValue mode) ?_ (by simp) (fun i hi t ht => ?_)
      (fun t ht => (hF t ht).1) hstop
    · rw [List.forall₂_map_left_iff, List.forall₂_map_right_iff, List.forall₂_same]
      exact fun i hi => Takes.seqRight (takes_sign _).unlessEnded (hshapes i hi)
    · obtain ⟨i, -, rfl⟩ := List.mem_map.mp hi
      exact hcomma ht
  have hlength : (items.map shapeOf).length + 1 = (item :: items).length := by simp
  rw [Lexeme.separated_cons, ← hlength]
  refine Takes.bind (Takes.discard (hitem.mono fun t ht => ?_)) (Takes.bind_pure hmany)
  -- the first item ends at a comma, or where the list does
  cases items with
  | nil => exact (hF t ht).1
  | cons next items => exact hcomma ht

/-- One value is a list of expressions. -/
theorem takes_expression (h : ∃ shape, Takes (EndsValue mode) (g.value mode) ls shape)
    (hF : ∀ t, F t → EndsValue mode t ∧ ((mode.nl && t.newline) = false → ¬ t.IsSign ",")) :
    Takes F (expressions g mode) ls 1 := by
  have hread : Takes F (expressions g mode) (separated (.sign ",") [ls]) [ls].length :=
    takes_expressions (by simp) (by simpa using h) hF
  simpa using hread

/-- Values in a statement of their own, up to the end of the line. -/
theorem takes_expressions_line {starts : Token → Prop} (hne : items ≠ [])
    (hitems : ∀ item ∈ items, IsValue item) (hd : (separated (.sign ",") items).length ≤ d) :
    Takes (EndsLine starts) (expressions (nested d) .statement) (separated (.sign ",") items)
      items.length := by
  refine takes_expressions hne (fun item hitem => ?_) fun t ht => ?_
  · have hle := Lexeme.length_le_separated (s := .sign ",") hitem
    exact (hitems item hitem).reads d .statement rfl (by omega)
  · have hline : (Mode.statement.nl && t.newline) = true := ht.1
    exact ⟨⟨fun h => absurd hline (by simp [h]), fun h => absurd hline (by simp [h])⟩,
      fun h => absurd hline (by simp [h])⟩

/-- A value that ends its line is a list of expressions. -/
theorem takes_expression_line {starts : Token → Prop} (h : IsValue ls) (hd : ls.length ≤ d) :
    Takes (EndsLine starts) (expressions (nested d) .statement) ls 1 := by
  have hread : Takes (EndsLine starts) (expressions (nested d) .statement)
      (separated (.sign ",") [ls]) [ls].length :=
    takes_expressions_line (by simp) (by simpa using h) (by simpa using hd)
  simpa using hread

/-! ### Statements on one line -/

theorem Lexeme.not_colon (l : Lexeme) : ¬ (l.kind = .sign ∧ l.text = ":") := by
  rintro ⟨hkind, htext⟩
  cases l with
  | sign s hs =>
    obtain rfl : s = ":" := htext
    exact absurd hs (by decide)
  | _ => cases hkind

/-- No label stands in front of a statement of these forms. -/
theorem not_colon_of_leads {t : Token} (h : Leads (EndsLine StartsStatement) ls t) :
    ¬ t.IsSign ":" := by
  cases ls with
  | cons l ls => exact h.not_isSign l.not_colon
  | nil =>
    rintro ⟨hkind, htext⟩
    obtain ⟨-, hname | ⟨hkeyword, -⟩ | hbrace⟩ := h
    · simp [hkind] at hname
    · simp [hkind] at hkeyword
    · exact absurd (htext.symm.trans hbrace.2) (by decide)

/-- A row that is read as a statement is one. -/
theorem ReadsStatement.of_row
    (hstarts : l.kind = .name ∨ (l.kind = .keyword ∧ l.text ∈ ["if", "return", "var"]))
    (h : ∀ d, (l :: ls).length ≤ d →
      Takes (EndsLine StartsStatement) (statementStep (nested d)) (l :: ls) ()) :
    ReadsStatement [l :: ls] where
  starts := by simp
  reads d tss htss hd := by
    obtain ⟨ts, _, hline, ⟨⟩, rfl⟩ := List.forall₂_cons_right_iff.mp htss
    rw [List.flatten_cons, List.flatten_nil, List.append_nil] at hd ⊢
    rw [hline.length_eq] at hd
    obtain ⟨d, rfl⟩ := Nat.exists_eq_add_of_le' (show 1 ≤ d by omega)
    refine .of_takes (fun t hkind htext => ?_) (h d (by omega)) hline
    rw [← hkind, ← htext] at hstarts
    exact hstarts.imp id .inl

/-- A value that a name begins is a statement. -/
theorem ReadsStatement.value {n : String} (h : IsValue (.name n :: ls)) :
    ReadsStatement [.name n :: ls] := by
  refine .of_row (.inl rfl) fun d hd => Yields.peek fun t ht => ?_
  have hlabel : Refuses (EndsLine StartsStatement) (labeled (nested d)) (.name n :: ls) := by
    have hcolon : Refuses (EndsLine StartsStatement) (unlessEnded true (sign ":")) ls :=
      Refuses.unlessEnded (refuses_sign fun t ht => not_colon_of_leads ht)
    exact Refuses.seqRight (Takes.bind (Takes.discard takes_name) hcolon)
  have hvalues : Takes (EndsLine StartsStatement) (expressions (nested d) .statement) (.name n :: ls)
      1 := takes_expression_line h hd
  have htail : Refuses (EndsLine StartsStatement)
      (unlessEnded true (simpleTail (nested d) .statement 1)) [] :=
    refuses_unlessEnded_of_lead fun t rest ht hline => absurd ht.1 (by simpa using hline)
  have hsimple : Takes (EndsLine StartsStatement) (simple (nested d) .statement .statement)
      (.name n :: ls) .expression :=
    Takes.bind_last hvalues (Passes.bind htail.optional (Takes.pure _))
  have hstatement : Takes (EndsLine StartsStatement) (simpleStatement (nested d)) (.name n :: ls) () :=
    Takes.bind_last (Takes.discard hsimple)
      (Passes.bind (passes_atSign_false fun t ht => not_colon_of_leads ht) (Takes.pure _))
  simp only [ht.1, Lexeme.kind]
  exact hlabel.orElse hstatement

/-- Values, or none, are returned. -/
theorem ReadsStatement.returned (hitems : ∀ item ∈ items, IsValue item) :
    ReadsStatement [.keyword "return" :: separated (.sign ",") items] := by
  refine .of_row (.inr ⟨rfl, by simp [Lexeme.text]⟩) fun d hd => Yields.peek fun t ht => ?_
  rw [List.length_cons] at hd
  have hreturn : Takes (EndsLine StartsStatement) (do
      keyword "return"
      discard <| optional (unlessEnded true (expressions (nested d) .statement)))
      (.keyword "return" :: separated (.sign ",") items) () := by
    refine Takes.bind (takes_keyword (by decide)) ?_
    cases items with
    | nil =>
      have hnone : Refuses (EndsLine StartsStatement)
          (unlessEnded true (expressions (nested d) .statement)) [] :=
        refuses_unlessEnded_of_lead fun t rest ht hline => absurd ht.1 (by simpa using hline)
      exact hnone.optional.discard.takes
    | cons item items =>
      have hvalues : Takes (EndsLine StartsStatement) (expressions (nested d) .statement) _ _ :=
        takes_expressions_line (by simp) hitems (by omega)
      refine Takes.discard (Takes.optional (hvalues.unlessEnded_of_ne_nil ?_))
      obtain ⟨l, behind, rfl, -⟩ := (hitems item (List.mem_cons_self ..)).starts
      simp [Lexeme.separated_cons]
  simp only [ht.1, ht.2.1, Lexeme.kind, Lexeme.text]
  exact hreturn

/-! ### Declarations of variables -/

/-- The rows of variables with their values: a name, or a name with its type. -/
inductive VarRow : List Lexeme → Prop
  | plain (n : String) {ls : List Lexeme} (h : IsValue ls) : VarRow (.name n :: .sign "=" :: ls)
  | typed (n : String) {e : TypeExpr} {row ls : List Lexeme} (he : e.Row row) (h : IsValue ls) :
      VarRow (.name n :: (row ++ .sign "=" :: ls))

/-- The row of a variable is read. -/
theorem takes_varSpec (h : VarRow ls) (hd : ls.length ≤ d) :
    Takes (EndsLine (StartsMember ")")) (varSpec (nested d)) ls () := by
  have hinitializer {ls : List Lexeme} (h : IsValue ls) (hd : ls.length ≤ d) :
      Takes (EndsLine (StartsMember ")")) (initializer (nested d)) (.sign "=" :: ls) () := by
    have hvalues : Takes (EndsLine (StartsMember ")")) (expressions (nested d) .statement) ls 1 :=
      takes_expression_line h hd
    exact Takes.seqRight (takes_sign _) (Takes.discard hvalues)
  have hnames (n : String) {F : Token → Prop} (hF : ∀ t, F t → ¬ t.IsSign ",") :
      Takes F (declaredNames false) [.name n] () := by
    have hstop : Refuses F (unlessEnded false (sign ",")) [] :=
      Refuses.unlessEnded (refuses_sign hF)
    have hlist : Takes F (sepBy1 name (unlessEnded false (sign ",")))
        (separated (.sign ",") [[.name n]]) [n] :=
      takes_sepBy1 (G := fun _ => True) (.cons takes_name .nil) (by simp)
        (fun F => (takes_sign _).unlessEnded) (by simp) (by simp) hstop
    rw [Lexeme.separated_singleton] at hlist
    exact Takes.discard hlist
  cases h with
  | @plain n ls h =>
    rw [List.length_cons, List.length_cons] at hd
    have hname : Takes (Leads (EndsLine (StartsMember ")")) (.sign "=" :: ls)) (declaredNames false)
        [.name n] () :=
      hnames n fun t ht => ht.isSign.not_isSign (by decide)
    exact Takes.bind hname (Passes.bind (passes_atSign (by decide)) (hinitializer h (by omega)))
  | @typed n e row ls he h =>
    rw [List.length_cons, List.length_append, List.length_cons] at hd
    -- with a type, the name ends where a type starts, not at the equals sign
    have hstart {t : Token} (ht : Leads (EndsLine (StartsMember ")")) (row ++ .sign "=" :: ls) t) :
        StartsType t := he.startsType_of_leads_append ht
    have htype : Takes (Token.Spells · (.sign "=")) ((nested d).type true) row e :=
      ((reads_nested d).type true he (by omega)).mono fun t ht => ht.isSign.endsType (by decide)
    refine Takes.bind (hnames n fun t ht => (hstart ht).not_isSign (by decide)) ?_
    refine Passes.bind (passes_atSign_false fun t ht => (hstart ht).not_isSign (by decide)) ?_
    have hvalues : Takes (EndsLine (StartsMember ")"))
        (unlessEnded true (initializer (nested d))) (.sign "=" :: ls) () :=
      (hinitializer h (by omega)).unlessEnded
    exact Takes.bind (Takes.discard htype) (Takes.discard hvalues.optional)

/-- A declaration of variables, each on a line of its own. -/
theorem ReadsStatement.variables {rows : List (List Lexeme)} (hne : rows ≠ [])
    (hrows : ∀ row ∈ rows, VarRow row) :
    ReadsStatement ([.keyword "var", .sign "("] :: (rows ++ [[.sign ")"]])) where
  starts := by simp
  reads d tss htss hd := by
    obtain ⟨word, _, lines, close, rfl, ⟨hkind, htext, hline⟩, hspells, hlines, hclosing,
      hcloseLine⟩ := exists_of_spellLines htss
    obtain ⟨opening, _, hopening, ⟨⟩, rfl⟩ := List.forall₂_cons_right_iff.mp hspells
    obtain ⟨d, rfl⟩ := Nat.exists_eq_add_of_le' (show 1 ≤ d by omega)
    have hclosing : close.IsSign ")" := hclosing
    have hlength : ∀ row ∈ rows, row.length ≤ d := by
      intro row hrow
      have hle := length_le_of_mem_rows hlines hrow
      simp only [List.flatten_cons, List.flatten_append, List.length_append, List.length_cons] at hd
      omega
    have hitems : List.Forall₂ (LineItem (StartsMember ")") (varSpec (nested d))) lines
        (rows.map fun _ => ()) := by
      refine lineItems_of_takes ?_ hlines
      rw [List.forall₂_map_right_iff, List.forall₂_same]
      refine fun row hrow => ⟨takes_varSpec (hrows row hrow) (hlength row hrow), ?_⟩
      cases hrows row hrow <;> exact ⟨_, _, rfl, fun t hkind _ => .inl hkind⟩
    have hlinesNe : lines ≠ [] := by
      rintro rfl
      cases hlines
      exact hne rfl
    refine .mk (.inr (.inl ⟨hkind, by simp [htext, Lexeme.text]⟩)) hline fun next rest _ => ?_
    -- one variable to a line; the bracket on a line of its own ends the last
    have hmembers : members "(" ")" (varSpec (nested d))
        (opening :: (lines.flatten ++ close :: next :: rest)) =
          some (rows.map fun _ => (), next :: rest) := by
      refine members_lines hopening.isSign hitems hlinesNe (fun t ts ht => ?_)
        ⟨hcloseLine, .inr hclosing⟩ hclosing ?_
      · obtain ⟨kind, text, gap, newline, comments, line⟩ := t
        obtain rfl | ⟨rfl, rfl⟩ := ht <;> rfl
      · obtain ⟨kind, text, gap, newline, comments, line⟩ := close
        obtain ⟨rfl, rfl⟩ := hclosing
        rfl
    obtain ⟨kind, text, gap, newline, comments, line⟩ := word
    obtain ⟨rfl, rfl⟩ : kind = .keyword ∧ text = "var" := ⟨hkind, htext⟩
    obtain ⟨kind, text, gap', newline, comments', line'⟩ := opening
    obtain ⟨rfl, rfl, rfl⟩ := hopening
    have hspecs : specs (varSpec (nested d)) (⟨.sign, "(", gap', false, comments', line'⟩ ::
        (lines.flatten ++ close :: next :: rest)) = some (rows.map fun _ => (), next :: rest) :=
      hmembers
    have hread : discard (specs (varSpec (nested d))) (⟨.sign, "(", gap', false, comments', line'⟩ ::
        (lines.flatten ++ close :: next :: rest)) = some ((), next :: rest) :=
      congrArg (Option.bind · _) hspecs
    have hstatement (ts : List Token) :
        (nested (d + 1)).statement (⟨.keyword, "var", gap, false, comments, line⟩ :: ts) =
          valueDeclaration (nested d) (⟨.keyword, "var", gap, false, comments, line⟩ :: ts) := rfl
    have hdeclaration {ts : List Token}
        (h : discard (specs (varSpec (nested d))) ts = some ((), next :: rest)) :
        valueDeclaration (nested d) (⟨.keyword, "var", gap, false, comments, line⟩ :: ts) =
          some ((), next :: rest) := congrArg (Option.orElse · _) h
    rw [hstatement]
    exact hdeclaration (by simpa [Lexeme.kind, Lexeme.text] using hread)

/-! ### Conditional statements -/

/-- A name alone is an operand, unless something goes on with it. -/
theorem takes_unary_name {n : String} (hsuffix : ∀ first,
      Refuses F (unlessEnded mode.nl (suffix g mode .name first)) []) :
    Takes F (unary g mode) [.name n] .name := by
  have hprimary : Takes F (primary g mode) ([.name n] ++ []) .name :=
    TakesBefore.takes (takesBefore_primary takes_operand_name fun first _ m _ =>
      (passes_suffixes (hsuffix first) m).takes.before_nil)
  have hunary : Takes F (unary g mode) ([] ++ [.name n]) (shapeBehind [] .name) :=
    takes_unary (by simp [areTypeSigns]) (fun t ht hkind => by simp [ht.1, Lexeme.kind] at hkind)
      hprimary
  exact hunary

/-- In the header of a statement, a brace behind a name opens a block. -/
theorem refuses_suffix_brace {first : Parser Unit} :
    Refuses (Token.Spells · (.sign "\x7b"))
      (unlessEnded Mode.header.nl (suffix g .header .name first)) [] := by
  refine Refuses.unlessEnded (Yields.peek fun t ht => ?_)
  obtain ⟨hkind, htext, -⟩ := ht
  simp only [hkind, htext, Lexeme.kind, Lexeme.text]
  exact refuses_failure

/-- Two names that are compared, in front of a block. -/
theorem takes_value_unequal (n n' : String) :
    Takes (Token.Spells · (.sign "\x7b")) ((nested (d + 1)).value .header)
      [.name n, .sign "!=", .name n'] .value := by
  have hexpr : Takes (Token.Spells · (.sign "\x7b")) (exprStep (nested d) .header)
      [.name n, .sign "!=", .name n'] .value := by
    show Takes _ _ ([.name n] ++ .sign "!=" :: [.name n']) _
    refine takes_exprStep_binary (by decide) (by decide)
      (takes_unary_name fun first => ?_) (takes_unary_name fun first => refuses_suffix_brace)
      (by simp) (by simp) fun t ht _ _ => ?_
    · refine refuses_suffix_of_ends fun t ht _ s hs => ht.isSign.not_isSign ?_
      rintro rfl
      exact absurd hs (by decide)
    · rw [ht.2.1]
      decide
  have hread : Takes (Token.Spells · (.sign "\x7b")) ((nested (d + 1)).expr .header) _ .value := hexpr
  exact Reads.takes_value hread (by simp)

/-- A name is defined in the header of a statement. -/
theorem takes_headerStart (n : String) (h : IsValue ls) (hd : ls.length ≤ d + 1) :
    Takes F (headerStart (nested (d + 1))) (.name n :: .sign ":=" :: (ls ++ [.sign ";"])) () := by
  have hname : Takes (Token.Spells · (.sign ":=")) (expressions (nested (d + 1)) .header) [.name n]
      1 := by
    have hitem : Takes (EndsValue .header) ((nested (d + 1)).expr .header) [.name n] .name :=
      takes_exprStep (fun t ht => ht)
        (takes_unary_name fun first => refuses_suffix_of_ends fun t ht => ht.operand)
    exact takes_expression ⟨_, Reads.takes_value hitem (by simp)⟩ fun t ht =>
      ⟨Token.IsSign.endsValue ht.isSign (by decide), fun _ => ht.isSign.not_isSign (by decide)⟩
  have hvalues : Takes (Token.Spells · (.sign ";")) (expressions (nested (d + 1)) .inner) ls 1 :=
    takes_expression (h.reads (d + 1) .inner rfl hd) fun t ht =>
      ⟨Token.IsSign.endsValue ht.isSign (by decide), fun _ => ht.isSign.not_isSign (by decide)⟩
  have htail : Takes (Token.Spells · (.sign ";")) (simpleTail (nested (d + 1)) .inner 1)
      (.sign ":=" :: ls) .definition := by
    rintro _ t rest (_ | @⟨sign, _, ts, _, ⟨hkind, htext, -⟩, hts⟩) ht
    have htoken : token (·.kind == .sign) (sign :: (ts ++ t :: rest)) = some (sign, ts ++ t :: rest) :=
      if_pos (by simp [hkind, Lexeme.kind])
    have hdefines : (sign.text == ":=") = true := by simp [htext, Lexeme.text]
    refine (bind_of_eq_some htoken).trans ((congrFun (if_pos hdefines) _).trans ?_)
    exact (bind_of_eq_some (hvalues ts t rest hts ht)).trans rfl
  have hinitial : Takes (Token.Spells · (.sign ";")) (initial (nested (d + 1)))
      ([.name n] ++ .sign ":=" :: ls) .definition :=
    Takes.bind hname (Takes.bind_last (Takes.optional htail.unlessEnded) (Takes.pure _))
  have hstart : Takes F (initial (nested (d + 1)) *> sign ";")
      ((.name n :: .sign ":=" :: ls) ++ [.sign ";"]) () :=
    Takes.seqRight hinitial (takes_sign _)
  exact Takes.discard hstart.optional

/-- A block that is entered if a value was found, which is defined in its header. -/
theorem ReadsStatement.ifFound (n : String) (h : IsValue ls) {blocks : List (List (List Lexeme))}
    (hblocks : ∀ rows ∈ blocks, ReadsStatement rows) (hne : blocks ≠ []) :
    ReadsStatement ((.keyword "if" :: ((.name n :: .sign ":=" :: (ls ++ [.sign ";"])) ++
      ([.name n, .sign "!=", .name "nil"] ++ [.sign "\x7b"]))) ::
        (blocks.flatten ++ [[.sign "\x7d"]])) where
  starts := by simp
  reads d tss htss hd := by
    obtain ⟨word, _, lines, close, rfl, ⟨hkind, htext, hline⟩, hspells, hlines, hclosing,
      hcloseLine⟩ := exists_of_spellLines htss
    have hlength := hspells.length_eq
    obtain ⟨ts₁, _, rfl, h₁, hbehind⟩ := exists_append_of_forall₂ hspells
    obtain ⟨ts₂, _, rfl, h₂, hbrace⟩ := exists_append_of_forall₂ hbehind
    obtain ⟨opening, _, hopening, ⟨⟩, rfl⟩ := List.forall₂_cons_right_iff.mp hbrace
    simp only [List.flatten_cons, List.flatten_append, List.length_append, List.length_cons,
      List.length_nil, List.flatten_nil] at hd hlength
    obtain ⟨d, rfl⟩ := Nat.exists_eq_add_of_le' (show 2 ≤ d by omega)
    refine .mk (.inr (.inl ⟨hkind, by simp [htext, Lexeme.text]⟩)) hline fun next rest hnext => ?_
    have hheader : headerStart (nested (d + 1)) (ts₁ ++ (ts₂ ++ opening ::
        (lines.flatten ++ close :: next :: rest))) = some ((), ts₂ ++ opening ::
          (lines.flatten ++ close :: next :: rest)) :=
      Takes.before (F := (Token.Spells · (.sign "\x7b"))) (takes_headerStart n h (by omega))
        ts₁ ts₂ opening _ h₁ h₂ hopening
    have hvalue := takes_value_unequal (d := d) n "nil" ts₂ opening
      (lines.flatten ++ close :: next :: rest) h₂ hopening
    have hblock : (nested (d + 1)).block (opening :: (lines.flatten ++ close :: next :: rest)) =
        some ((), next :: rest) :=
      block_lines hblocks hne hlines (by omega) hopening.isSign hcloseLine hclosing
    -- the statement behind is on a new line, so no `else` is looked for
    have helse : optional (unlessEnded true (do
        keyword "else"
        if ← atKeyword "if" then (nested (d + 1)).statement else (nested (d + 1)).block))
        (next :: rest) = some (none, next :: rest) := by
      obtain ⟨kind, text, gap, newline, comments, line⟩ := next
      obtain rfl : newline = true := hnext.1
      rfl
    have hread : (do
        headerStart (nested (d + 1))
        discard <| (nested (d + 1)).value .header
        (nested (d + 1)).block
        discard <| optional <| unlessEnded true do
          keyword "else"
          if ← atKeyword "if" then (nested (d + 1)).statement else (nested (d + 1)).block :
        Parser Unit) (ts₁ ++ (ts₂ ++ opening :: (lines.flatten ++ close :: next :: rest))) =
          some ((), next :: rest) :=
      (bind_of_eq_some hheader).trans <| (bind_of_eq_some (congrArg (Option.bind · _) hvalue)).trans <|
        (bind_of_eq_some hblock).trans (congrArg (Option.bind · _) helse)
    obtain ⟨kind, text, gap, newline, comments, line⟩ := word
    obtain ⟨rfl, rfl⟩ : kind = .keyword ∧ text = "if" := ⟨hkind, htext⟩
    have hstatement : (nested (d + 2)).statement (⟨.keyword, "if", gap, false, comments, line⟩ ::
        (ts₁ ++ (ts₂ ++ opening :: (lines.flatten ++ close :: next :: rest)))) =
          some ((), next :: rest) := hread
    simpa using hstatement

end Rules

/-! ### Lines of statements -/

/-- The lines hold statements, and at least one. -/
def HoldsStatements (lines : List String) : Prop :=
  ∃ blocks, blocks ≠ [] ∧ (∀ rows ∈ blocks, ReadsStatement rows) ∧
    LinesLaidOut lines blocks.flatten

namespace HoldsStatements

variable {lines more : List String}

/-- Lines laid out in the rows of a statement hold statements. -/
theorem of_rows {rows : List (List Lexeme)} (h : ReadsStatement rows)
    (hlines : LinesLaidOut lines rows) : HoldsStatements lines :=
  ⟨[rows], by simp, by simpa using h, by simpa using hlines⟩

theorem append (h : HoldsStatements lines) (h' : HoldsStatements more) :
    HoldsStatements (lines ++ more) := by
  obtain ⟨blocks, hne, hblocks, hlines⟩ := h
  obtain ⟨blocks', -, hblocks', hmore⟩ := h'
  refine ⟨blocks ++ blocks', by simp [hne], List.forall_mem_append.mpr ⟨hblocks, hblocks'⟩, ?_⟩
  rw [List.flatten_append]
  exact hlines.append hmore

end HoldsStatements

end GoMocks.GoSource
