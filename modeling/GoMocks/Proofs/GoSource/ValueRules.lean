import GoMocks.GoSource.Statements
import GoMocks.Proofs.GoSource.RoundTrip

/-!
# Go source — the rules for values

Nothing is kept of a value, but it has to be well formed. A value is an operand with selections,
calls and the like behind it, and the values in these are read by rules that are nested less deep.

* `IsValue`: the lexemes are read as a value, wherever literals may stand.
* `Continues`: what stands behind an operand goes on with it.
* `IsValue.call`, `IsValue.composite` and the others: the forms of values.
-/

namespace GoMocks.GoSource

open GoSource.Parser GoSource.Grammar
open Lexeme (separated inParens inBrackets inBraces)

/-- The lexemes are read as an expression that is no bare type, where literals may stand. The first
of them is no brace. -/
structure IsValue (ls : List Lexeme) : Prop where
  reads (d : Nat) (mode : Mode) (hmode : mode.literals) (hd : ls.length ≤ d) :
    ∃ shape, Takes (EndsValue mode) ((nested d).value mode) ls shape
  starts : ∃ l behind, ls = l :: behind ∧ ¬ (l.kind = .sign ∧ l.text = "\x7b")

/-- The lexemes are an argument: a value, perhaps with dots behind it. -/
inductive IsArgument : List Lexeme → Prop
  | value {ls : List Lexeme} (h : IsValue ls) : IsArgument ls
  | dots {ls : List Lexeme} (h : IsValue ls) : IsArgument (ls ++ [.sign "..."])

/-- The lexemes go on with an operand of one shape, and make one of another shape of it. -/
def Continues (d : Nat) (mode : Mode) (first : Parser Unit) (shape : Shape) (ls : List Lexeme)
    (final : Shape) : Prop :=
  ∀ m, ls.length ≤ m →
    TakesBefore (EndsValue mode) (suffixes (nested d) mode first m shape) ls [] final

section Rules

variable {g : Grammar} {d n : Nat} {F : Token → Prop} {e : TypeExpr} {ls ls₁ ls₂ : List Lexeme}
  {items : List (List Lexeme)} {l : Lexeme} {first : Parser Unit} {shape next final : Shape}
  {mode : Mode}

/-! ### Expressions -/

/-- What every depth reads as an expression is a value. -/
theorem IsValue.of_exprStep (hstarts : ∃ l behind, ls = l :: behind ∧
      ¬ (l.kind = .sign ∧ l.text = "\x7b"))
    (h : ∀ d mode, mode.literals → ls.length ≤ d + 1 →
      ∃ shape, (∀ literal, shape ≠ .bareType literal) ∧
        Takes (EndsValue mode) (exprStep (nested d) mode) ls shape) : IsValue ls where
  reads d mode hmode hd := by
    obtain ⟨l, behind, rfl, -⟩ := hstarts
    obtain ⟨d, rfl⟩ := Nat.exists_eq_add_of_le' (Nat.one_le_of_lt hd)
    obtain ⟨shape, hshape, hexpr⟩ := h d mode hmode hd
    have hread : Takes (EndsValue mode) ((nested (d + 1)).expr mode) (l :: behind) shape := hexpr
    exact ⟨shape, Reads.takes_value hread hshape⟩
  starts := hstarts

/-- An operand with all that goes on with it, without a sign in front. -/
theorem IsValue.of_primary (hlead : ∃ l behind, ls = l :: behind ∧
      ¬ (l.kind = .sign ∧ (l.text ∈ unarySigns ∨ l.text = "\x7b")))
    (h : ∀ d mode, mode.literals → ls.length ≤ d + 1 →
      ∃ shape, (∀ literal, shape ≠ .bareType literal) ∧
        Takes (EndsValue mode) (primary (nested d) mode) ls shape) : IsValue ls := by
  obtain ⟨l, behind, rfl, hl⟩ := hlead
  refine .of_exprStep ⟨l, behind, rfl, fun h => hl ⟨h.1, .inr h.2⟩⟩ fun d mode hmode hd => ?_
  obtain ⟨shape, hshape, hprimary⟩ := h d mode hmode hd
  have hsign (t : Token) (ht : t.Spells l) (hkind : t.kind = .sign) : t.text ∉ unarySigns :=
    fun hmem => hl ⟨ht.1.symm.trans hkind, .inl (ht.2.1 ▸ hmem)⟩
  have hunary : Takes (EndsValue mode) (unary (nested d) mode) ([] ++ l :: behind)
      (shapeBehind [] shape) := takes_unary (by simp [areTypeSigns]) hsign hprimary
  rw [shapeBehind_nil] at hunary
  exact ⟨shape, hshape, takes_exprStep (fun t ht => ht) hunary⟩

/-- A sign in front makes a value of a value. -/
theorem IsValue.of_sign {s : String} (hs : s ∈ lexemeSigns) (hsign : s ∈ unarySigns)
    (hlead : ∃ l behind, ls = l :: behind ∧ l.kind ≠ .sign)
    (h : ∀ d mode, mode.literals → ls.length ≤ d →
      Takes (EndsValue mode) (primary (nested d) mode) ls .value) : IsValue (.sign s hs :: ls) := by
  obtain ⟨l, behind, rfl, hl⟩ := hlead
  refine .of_exprStep ⟨_, _, rfl, ?_⟩ fun d mode hmode hd => ⟨.value, by simp, ?_⟩
  · rintro ⟨-, rfl⟩
    exact absurd hsign (by decide)
  · have hunary : Takes (EndsValue mode) (unary (nested d) mode) ([.sign s hs] ++ l :: behind) .value :=
      takes_unary_value (by simpa [Lexeme.kind, Lexeme.text] using hsign)
        (fun t ht hkind => absurd (ht.1.symm.trans hkind) hl)
        (h d mode hmode (Nat.le_of_succ_le_succ hd))
    exact takes_exprStep (fun t ht => ht) hunary

/-- A name is a value where it has to be one. -/
theorem IsValue.name (n : String) : IsValue [.name n] :=
  .of_primary ⟨_, _, rfl, by simp [Lexeme.kind]⟩ fun d mode _ _ => ⟨.name, by simp,
    takes_primary_operand (fun t ht => ht.operand) takes_operand_name⟩

/-- A literal is a value. -/
theorem IsValue.constant (hl : l.kind ∈ [.integer, .number, .string]) : IsValue [l] :=
  .of_primary ⟨_, _, rfl, fun h => absurd hl (by simp [h.1])⟩ fun d mode _ _ => ⟨.value, by simp,
    takes_primary_operand (fun t ht => ht.operand) (takes_operand_constant hl)⟩

/-- The sum of two constants. -/
theorem IsValue.sum {l' : Lexeme} (hl : l.kind ∈ [.integer, .number, .string])
    (hl' : l'.kind ∈ [.integer, .number, .string]) : IsValue [l, .sign "+", l'] := by
  have hconstant {l : Lexeme} {F : Token → Prop} (hl : l.kind ∈ [.integer, .number, .string])
      (d : Nat) (mode : Mode) (hF : ∀ t, F t → EndsOperand mode t) :
      Takes F (unary (nested d) mode) [l] .value := by
    have hne : l.kind ≠ .sign := fun h => absurd hl (by simp [h])
    have hread : Takes F (unary (nested d) mode) ([] ++ [l]) (shapeBehind [] .value) :=
      takes_unary (by simp [areTypeSigns]) (fun t ht hkind => absurd (ht.1.symm.trans hkind) hne)
        (takes_primary_operand hF (takes_operand_constant hl))
    exact hread
  refine .of_exprStep ⟨_, _, rfl, fun h => absurd hl (by simp [h.1])⟩ fun d mode _ _ =>
    ⟨.value, by simp, ?_⟩
  show Takes (EndsValue mode) _ ([l] ++ .sign "+" :: [l']) _
  refine takes_exprStep_binary (by decide) (by decide)
    (hconstant hl d mode fun t ht => ?_) (hconstant hl' d mode fun t ht => ht.operand) (by simp)
    (by simp) fun t ht => ht.operator
  exact fun _ s hs => ht.isSign.not_isSign (by rintro rfl; exact absurd hs (by decide))

/-! ### What goes on with an operand -/

theorem Continues.nil : Continues d mode first shape [] shape :=
  fun m _ => (takes_suffixes_nil (fun _ ht => ht.operand) m).before_nil

/-- One suffix, then the suffixes behind it. -/
theorem Continues.cons (hne : ls₁ ≠ [])
    (h : ∀ F, Takes F (suffix (nested d) mode shape first) ls₁ next)
    (hrest : Continues d mode (argument (nested d)) next ls₂ final) :
    Continues d mode first shape (ls₁ ++ ls₂) final := by
  intro m hm
  have hpos := List.length_pos_iff.mpr hne
  rw [List.length_append] at hm
  obtain ⟨m, rfl⟩ := Nat.exists_eq_add_of_le' (show 1 ≤ m by omega)
  exact takesBefore_suffixes_cons (h _) hne (hrest m (by omega))

/-- One suffix. -/
theorem Continues.last (hne : ls ≠ [])
    (h : ∀ F, Takes F (suffix (nested d) mode shape first) ls final) :
    Continues d mode first shape ls final := by
  simpa using Continues.cons hne h .nil

/-- An operand with its suffixes is a primary expression. -/
theorem Continues.takes_primary (h : ∀ first, IsFirst (nested d) first →
      Continues d mode first shape ls₂ final)
    (hoperand : Takes (Leads (EndsValue mode) ls₂) (operand (nested d)) ls₁ shape) :
    Takes (EndsValue mode) (primary (nested d) mode) (ls₁ ++ ls₂) final := by
  rw [← List.append_nil ls₂] at hoperand
  exact TakesBefore.takes (takesBefore_primary hoperand h)

/-- A name with its suffixes is a primary expression. -/
theorem Continues.takes_primary_name {n : String} (h : ∀ first, IsFirst (nested d) first →
      Continues d mode first .name ls final) :
    Takes (EndsValue mode) (primary (nested d) mode) (.name n :: ls) final := by
  have hprimary : Takes (EndsValue mode) (primary (nested d) mode) ([.name n] ++ ls) final :=
    Continues.takes_primary h takes_operand_name
  exact hprimary

/-- Selectors, then the suffixes behind them. -/
theorem Continues.select {names : List String} (hne : names ≠ [])
    (hshape : ∀ literal, shape ≠ .bareType literal)
    (hrest : ∀ shape, (∀ literal, shape ≠ .bareType literal) →
      Continues d mode (argument (nested d)) shape ls final) :
    Continues d mode first shape (selections names ++ ls) final := by
  induction names generalizing shape first with
  | nil => exact absurd rfl hne
  | cons n names ih =>
    have hnext (literal : Bool) :
        (if shape == .name then Shape.qualified else .value) ≠ .bareType literal := by
      split <;> simp
    rw [selections, List.flatMap_cons, List.append_assoc]
    refine .cons (by simp) (fun F => takes_suffix_select hshape) ?_
    cases names with
    | nil => exact hrest _ hnext
    | cons next names => exact ih (by simp) hnext

/-! ### Arguments and elements -/

theorem takes_argument (h : IsArgument ls) (hd : ls.length ≤ d) :
    Takes (EndsItem ")") (argument (nested d)) ls () := by
  have hvalue {ls : List Lexeme} {F : Token → Prop} (h : IsValue ls) (hd : ls.length ≤ d)
      (hF : ∀ t, F t → EndsValue .inner t) :
      Takes F (discard ((nested d).value .inner)) ls () := by
    obtain ⟨shape, hread⟩ := h.reads d .inner rfl hd
    exact Takes.discard (hread.mono hF)
  cases h with
  | value h =>
    have hdots : Refuses (EndsItem ")") (sign "...") [] :=
      refuses_sign fun t ht => EndsItem.not_isSign ht (by decide) (by decide)
    exact Takes.bind_last (hvalue h hd fun t ht => EndsItem.endsValue ht (by decide))
      hdots.optional.discard.takes
  | dots h =>
    rw [List.length_append] at hd
    refine Takes.bind (hvalue h (by omega) fun t ht => ?_) (Takes.discard (takes_sign _).optional)
    exact ht.isSign.endsValue (by decide)

theorem refuses_argument : Refuses F (argument (nested d)) [.sign ")"] :=
  have hexpr : Refuses F ((nested d).expr .inner) [.sign ")"] :=
    (reads_nested d).noExpr (by decide) (by decide)
  Refuses.bind (Yields.map hexpr.bind)

theorem takes_arguments_nil :
    Takes F (arguments (nested d) (argument (nested d))) (inParens []) () :=
  Takes.bind (takes_sign (by decide)) <|
    Passes.bind (Passes.discard (Refuses.optional (Refuses.bind refuses_argument))) (takes_sign _)

/-- The first argument of a call may be read in its own way. -/
theorem takes_arguments_cons {item : List Lexeme} (hitem : Takes (EndsItem ")") first item ())
    (hitems : ∀ item ∈ items, IsArgument item ∧ item.length ≤ d) :
    Takes F (arguments (nested d) first) (inParens (separated (.sign ",") (item :: items))) () := by
  have hcomma : Refuses (Token.Spells · (.sign ")")) (sign ",") [] :=
    refuses_sign fun t ht => ht.isSign.not_isSign (by decide)
  have hmore : Takes (Token.Spells · (.sign ")")) (many (sign "," *> argument (nested d)))
      (items.map (.sign "," :: ·)).flatten (items.map fun _ => ()) := by
    refine takes_many (G := EndsItem ")") ?_ (by simp) (fun i hi t ht => ?_)
      (fun t ht => .inr ht.isSign) hcomma.seqRight
    · rw [List.forall₂_map_left_iff, List.forall₂_map_right_iff, List.forall₂_same]
      exact fun i hi => Takes.seqRight (takes_sign _) (takes_argument (hitems i hi).1 (hitems i hi).2)
    · obtain ⟨i, -, rfl⟩ := List.mem_map.mp hi
      exact .inl ht.isSign
  have hlead {t : Token} (ht : Leads (Token.Spells · (.sign ")"))
      (items.map (Lexeme.sign "," :: ·)).flatten t) : EndsItem ")" t := by
    cases items with
    | nil => exact .inr ht.isSign
    | cons i items => exact .inl ht.isSign
  rw [Lexeme.separated_cons]
  have hlist : Takes (Token.Spells · (.sign ")")) (do
      first
      discard <| many (sign "," *> argument (nested d))
      optional (sign ",")) (item ++ (items.map (Lexeme.sign "," :: ·)).flatten) none :=
    Takes.bind (hitem.mono fun t => hlead) (Takes.bind_last (Takes.discard hmore)
      hcomma.optional.takes)
  exact Takes.bind (takes_sign (by decide)) (Takes.bind (Takes.discard hlist.optional)
    (takes_sign _))

theorem takes_arguments (hitems : ∀ item ∈ items, IsArgument item ∧ item.length ≤ d) :
    Takes F (arguments (nested d) (argument (nested d))) (inParens (separated (.sign ",") items))
      () := by
  cases items with
  | nil => exact takes_arguments_nil
  | cons item items =>
    obtain ⟨⟨hitem, hd⟩, hitems⟩ := List.forall_mem_cons.mp hitems
    exact takes_arguments_cons (takes_argument hitem hd) hitems

/-- The first argument of `new` may be a type. -/
theorem takes_arguments_new (h : e.Row ls) (hd : ls.length ≤ d) :
    Takes F (arguments (nested d) (typeArgument (nested d))) (inParens ls) () := by
  have htype : Takes (EndsItem ")") (typeArgument (nested d)) ls () := by
    have hread : Takes (EndsItem ")") ((nested d).type false) ls e :=
      ((reads_nested d).type false h hd).mono fun t ht => ht.endsType (by decide)
    exact Takes.orElse (Takes.bind_last (Takes.discard hread)
      (Reads.passes_atEntryEnd fun t ht => ht).takes)
  have hread : Takes F (arguments (nested d) (typeArgument (nested d)))
      (inParens (separated (.sign ",") [ls])) () := takes_arguments_cons htype (by simp)
  rwa [Lexeme.separated_singleton] at hread

/-- A value is an element of a composite literal. -/
theorem takes_keyedElement (h : IsValue ls) (hd : ls.length ≤ d) :
    Takes (EndsItem "\x7d") (keyedElement (nested d)) ls () := by
  obtain ⟨shape, hread⟩ := h.reads d .inner rfl hd
  obtain ⟨l, behind, rfl, hl⟩ := h.starts
  have hread : Takes (EndsItem "\x7d") ((nested d).value .inner) (l :: behind) shape :=
    hread.mono fun t ht => ht.endsValue (by decide)
  have helement : Takes (EndsItem "\x7d") (element (nested d)) (l :: behind) () :=
    Passes.bind (passes_atSign_false fun t ht => ht.not_isSign hl) (Takes.discard hread)
  refine Takes.bind_last helement (Passes.bind (passes_atSign_false fun t ht => ?_) (Takes.pure _))
  exact EndsItem.not_isSign ht (by decide) (by decide)

/-- The body of a literal, with its elements. -/
theorem takes_literalStep (hitems : ∀ item ∈ items, IsValue item ∧ item.length ≤ d) :
    Takes F (literalStep (nested d)) (inBraces (separated (.sign ",") items)) () := by
  have hcomma : Refuses (Token.Spells · (.sign "\x7d")) (sign ",") [] :=
    refuses_sign fun t ht => ht.isSign.not_isSign (by decide)
  refine Takes.bind (takes_sign (by decide)) ?_
  cases items with
  | nil =>
    -- no element: the closing brace starts no expression
    have hexpr : Refuses F ((nested d).expr .inner) [.sign "\x7d"] :=
      (reads_nested d).noExpr (by decide) (by decide)
    have helement : Refuses F (keyedElement (nested d)) [.sign "\x7d"] :=
      Refuses.bind (Passes.bind (passes_atSign_false fun t ht => ht.isSign.not_isSign (by decide))
        (Yields.map hexpr.bind))
    refine Passes.bind (Passes.discard (Refuses.optional helement.bind)) ?_
    have hcomma : Refuses F (sign ",") [.sign "\x7d"] :=
      refuses_sign fun t ht => ht.isSign.not_isSign (by decide)
    exact Passes.bind (Passes.discard hcomma.optional) (takes_sign _)
  | cons item items =>
    have helements : List.Forall₂ (Takes (EndsItem "\x7d") (keyedElement (nested d)))
        (item :: items) ((item :: items).map fun _ => ()) := by
      rw [List.forall₂_map_right_iff, List.forall₂_same]
      exact fun i hi => takes_keyedElement (hitems i hi).1 (hitems i hi).2
    have hlist : Takes (Token.Spells · (.sign "\x7d")) (sepBy1 (keyedElement (nested d)) (sign ","))
        (separated (.sign ",") (item :: items)) _ :=
      takes_sepBy1 helements (by simp) (fun F => takes_sign _) (fun t ht => .inl ht.isSign)
        (fun t ht => .inr ht.isSign) hcomma
    refine Takes.bind (Takes.discard (Takes.optional hlist)) ?_
    exact Takes.bind_nil (Takes.discard hcomma.optional.takes) (takes_sign _)

/-! ### Steps behind an operand -/

theorem takes_suffix_call (hshape : ∀ literal, shape ≠ .bareType literal)
    (h : Takes F (arguments g first) (inParens ls) ()) :
    Takes F (suffix g mode shape first) (inParens ls) .value := by
  refine Yields.peek fun t ht => ?_
  have hcall : Takes F (do arguments g first; return Shape.value) (inParens ls) .value :=
    Takes.bind_pure h
  obtain ⟨hkind, htext, -⟩ := ht
  simp only [hkind, htext, Lexeme.kind, Lexeme.text]
  cases shape with
  | bareType literal => exact absurd rfl (hshape literal)
  | _ => exact hcall

/-- A dot and a type between parentheses assert that a value has the type. -/
theorem Reads.takes_suffix_assert (hg : Reads g n) (hshape : ∀ literal, shape ≠ .bareType literal)
    (h : e.Row ls) (hn : ls.length ≤ n) :
    Takes F (suffix g mode shape first) (.sign "." :: inParens ls) .value := by
  refine Yields.peek fun t ht => ?_
  have htype : Takes (Token.Spells · (.sign ")")) (g.type false) ls e :=
    (hg.type false h hn).mono fun t ht => ht.isSign.endsType (by decide)
  have hselection : Takes F (selection g shape) (.sign "." :: inParens ls) .value :=
    Takes.bind (takes_sign (by decide)) <| Passes.bind (passes_atSign (by decide)) <|
      Takes.bind (takes_sign (by decide)) <| Takes.bind (Takes.discard htype) <|
        Takes.bind_pure (takes_sign _)
  obtain ⟨hkind, htext, -⟩ := ht
  simp only [hkind, htext, Lexeme.kind, Lexeme.text]
  cases shape with
  | bareType literal => exact absurd rfl (hshape literal)
  | _ => exact hselection

theorem takes_suffix_literal (hshape : takesLiteral mode shape)
    (h : Takes F g.literal (inBraces ls) ()) :
    Takes F (suffix g mode shape first) (inBraces ls) .value := by
  refine Yields.peek fun t ht => ?_
  have hliteral : Takes F (do g.literal; return Shape.value) (inBraces ls) .value :=
    Takes.bind_pure h
  obtain ⟨hkind, htext, -⟩ := ht
  simp only [hkind, htext, Lexeme.kind, Lexeme.text, hshape]
  exact hliteral

/-! ### Forms of values -/

/-- A call of what is selected from a name. -/
theorem IsValue.call (n : String) {names : List String} (hne : names ≠ [])
    (hitems : ∀ item ∈ items, IsArgument item) :
    IsValue (.name n :: (selections names ++ inParens (separated (.sign ",") items))) := by
  refine .of_primary ⟨_, _, rfl, by simp [Lexeme.kind]⟩ fun d mode _ hd => ⟨.value, by simp, ?_⟩
  have hlength (item : List Lexeme) (hitem : item ∈ items) : item.length ≤ d := by
    have hle := Lexeme.length_le_separated (s := .sign ",") hitem
    simp only [inParens, List.length_cons, List.length_append] at hd
    omega
  exact Continues.takes_primary_name fun first _ => .select hne (by simp) fun shape hshape =>
    .last (by simp [inParens]) fun F => takes_suffix_call hshape <|
      takes_arguments fun item hitem => ⟨hitems item hitem, hlength item hitem⟩

/-- A call of a function that a variable turns out to be. -/
theorem IsValue.asserted (n : String) (h : e.Row ls) (hitems : ∀ item ∈ items, IsArgument item) :
    IsValue (.name n :: .sign "." :: (inParens ls ++ inParens (separated (.sign ",") items))) := by
  refine .of_primary ⟨_, _, rfl, by simp [Lexeme.kind]⟩ fun d mode _ hd => ⟨.value, by simp, ?_⟩
  have hlength (item : List Lexeme) (hitem : item ∈ items) : item.length ≤ d := by
    have hle := Lexeme.length_le_separated (s := .sign ",") hitem
    simp only [inParens, List.length_cons, List.length_append] at hd
    omega
  have hls : ls.length ≤ d := by
    simp only [inParens, List.length_cons, List.length_append] at hd
    omega
  refine Continues.takes_primary_name fun first _ => ?_
  have hassert : Continues d mode first .name
      ((.sign "." :: inParens ls) ++ inParens (separated (.sign ",") items)) .value :=
    .cons (by simp) (fun F => (reads_nested d).takes_suffix_assert (by simp) h hls) <|
      .last (by simp [inParens]) fun F => takes_suffix_call (by simp) <|
        takes_arguments fun item hitem => ⟨hitems item hitem, hlength item hitem⟩
  exact hassert

/-- The zero value of a type, behind a new pointer to one. -/
theorem IsValue.new (n : String) :
    IsValue (.sign "*" :: .name "new" :: inParens [.name n]) := by
  refine .of_sign (by decide) (by decide) ⟨_, _, rfl, by simp [Lexeme.kind]⟩ fun d mode _ hd => ?_
  have hlength : [Lexeme.name n].length ≤ d := by
    simp only [inParens, List.length_cons, List.length_append] at hd ⊢
    omega
  refine Continues.takes_primary_name fun first hfirst => ?_
  refine .last (by simp [inParens]) fun F => takes_suffix_call (by simp) ?_
  rcases hfirst with rfl | rfl
  · exact takes_arguments_new (.name n) hlength
  · have hitem : IsArgument [.name n] := .value (.name n)
    have hread : Takes F (arguments (nested d) (argument (nested d)))
        (inParens (separated (.sign ",") [[.name n]])) () :=
      takes_arguments (by simpa using ⟨hitem, hlength⟩)
    rwa [Lexeme.separated_singleton] at hread

/-- The literal of a type. -/
theorem takes_primary_composite (hmode : mode.literals) (h : e.Row ls) (he : e.takesBody)
    (hitems : ∀ item ∈ items, IsValue item)
    (hd : (ls ++ inBraces (separated (.sign ",") items)).length ≤ d + 1) :
    Takes (EndsValue mode) (primary (nested d) mode)
      (ls ++ inBraces (separated (.sign ",") items)) .value := by
  have hpos := List.length_pos_iff.mpr h.ne_nil
  simp only [inBraces, List.length_append, List.length_cons] at hd
  obtain ⟨d, rfl⟩ := Nat.exists_eq_add_of_le' (show 1 ≤ d by omega)
  have hbody (shape : Shape) (hshape : takesLiteral mode shape) (first : Parser Unit) :
      Continues (d + 1) mode first shape (inBraces (separated (.sign ",") items)) .value := by
    refine .last (by simp [inBraces]) fun F => takes_suffix_literal hshape ?_
    have hread : Takes F (literalStep (nested d)) (inBraces (separated (.sign ",") items)) () := by
      refine takes_literalStep fun item hitem => ⟨hitems item hitem, ?_⟩
      have hle := Lexeme.length_le_separated (s := .sign ",") hitem
      omega
    exact hread
  have htype := (reads_nested (d + 1)).takes_typeOperand h (by omega)
  have hbrace (t : Token) (ht : Leads (EndsValue mode) (inBraces (separated (.sign ",") items)) t) :
      EndsType false t := ht.isSign.endsType (by decide)
  -- named types grow out of a name by suffixes; the others are operands, and the body is one more
  -- suffix
  cases h with
  | name n => exact Continues.takes_primary_name fun first _ => hbody .name hmode first
  | qualified package n =>
    have hselect (first : Parser Unit) : Continues (d + 1) mode first .name
        ([.sign ".", .name n] ++ inBraces (separated (.sign ",") items)) .value :=
      .cons (by simp) (fun F => takes_suffix_select (by simp)) (hbody .qualified hmode _)
    exact Continues.takes_primary_name fun first _ => hselect first
  | @generic base arguments rows hbase hne hrows =>
    have hrow : ∀ row ∈ rows, row.length ≤ d + 1 := by
      intro row hrow
      have hle := Lexeme.length_add_two_le hrow
      rw [List.length_append] at hd
      omega
    have hbrackets {shape : Shape} (hshape : shape = .name ∨ shape = .qualified)
        (first : Parser Unit) : Continues (d + 1) mode first shape
          (inBrackets (separated (.sign ",") rows) ++ inBraces (separated (.sign ",") items))
          .value :=
      .cons (by simp [inBrackets])
        (fun F => (reads_nested _).takes_suffix_brackets hshape hne hrows hrow)
        (hbody .generic hmode _)
    rw [List.append_assoc]
    cases base with
    | name n => exact Continues.takes_primary_name fun first _ => hbrackets (.inl rfl) first
    | qualified package n =>
      have hselect (first : Parser Unit) : Continues (d + 1) mode first .name
          ([.sign ".", .name n] ++ (inBrackets (separated (.sign ",") rows) ++
            inBraces (separated (.sign ",") items))) .value :=
        .cons (by simp) (fun F => takes_suffix_select (by simp)) (hbrackets (.inr rfl) _)
      exact Continues.takes_primary_name fun first _ => hselect first
    | _ => simp [TypeExpr.isPlainName] at hbase
  | @array length elem row hlength hrow =>
    refine Continues.takes_primary (fun first _ => hbody (.bareType true) rfl first) ?_
    simp only [inBrackets, List.cons_append, List.append_assoc] at htype ⊢
    exact takes_operand_bracket (fun t ht => LengthExpr.not_isSign_of_leads hlength ht)
      (htype.mono hbrace)
  | struct hfields =>
    exact Continues.takes_primary (fun first _ => hbody (.bareType true) rfl first)
      (takes_operand_keyword _ (by decide) (htype.mono hbrace))
  | _ => simp [TypeExpr.takesBody, channels] at he

/-- A composite literal is a value. -/
theorem IsValue.composite (h : e.Row ls) (he : e.takesBody)
    (hitems : ∀ item ∈ items, IsValue item) :
    IsValue (ls ++ inBraces (separated (.sign ",") items)) := by
  refine .of_primary ?_ fun d mode hmode hd =>
    ⟨.value, by simp, takes_primary_composite hmode h he hitems hd⟩
  have hword {l : Lexeme} {behind : List Lexeme} (heq : ls = l :: behind)
      (hl : ¬ (l.kind = .sign ∧ (l.text ∈ unarySigns ∨ l.text = "\x7b"))) :
      ∃ l more, ls ++ inBraces (separated (.sign ",") items) = l :: more ∧
        ¬ (l.kind = .sign ∧ (l.text ∈ unarySigns ∨ l.text = "\x7b")) :=
    ⟨l, _, by rw [heq]; rfl, hl⟩
  cases hnamed : e.isNamed with
  | true =>
    obtain ⟨n, rest, heq, -⟩ := h.exists_name_cons hnamed
    exact hword heq (by simp [Lexeme.kind])
  | false =>
    cases h with
    | array => exact hword rfl (by simp [Lexeme.text, unarySigns])
    | struct => exact hword rfl (by simp [Lexeme.kind])
    | name | qualified | generic => cases hnamed
    | _ => simp [TypeExpr.takesBody, channels] at he

/-- A pointer to a new value of a declared type. -/
theorem IsValue.address (h : e.Row ls) (he : e.isNamed) (hitems : ∀ item ∈ items, IsValue item) :
    IsValue (.sign "&" :: (ls ++ inBraces (separated (.sign ",") items))) := by
  refine .of_sign (by decide) (by decide) ?_ fun d mode hmode hd =>
    takes_primary_composite hmode h ?_ hitems (Nat.le_succ_of_le hd)
  · obtain ⟨n, rest, rfl, -⟩ := h.exists_name_cons he
    exact ⟨_, _, rfl, by simp [Lexeme.kind]⟩
  · cases e <;> first | rfl | simp [TypeExpr.isNamed] at he

end Rules

end GoMocks.GoSource
