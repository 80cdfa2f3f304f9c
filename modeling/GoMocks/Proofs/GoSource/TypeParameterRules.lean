import GoMocks.GoSource.Statements
import GoMocks.Proofs.GoSource.ExpressionRules

/-!
# Go source — the rules for type parameters

Behind the name of a declared type, brackets hold the length of an array if they can, and type
parameters otherwise. A name and the type behind it are an expression where the type goes on with a
star and another name.

* `Reads.misses_exprStep_typeParam`: the name of a type parameter and its constraint are no
  expression, unless the terms of the constraint are factors (`areFactors`).
* `Reads.takes_typeParams`: type parameters are read.
* `typeSpec_generic`: a declaration whose brackets hold no length is generic.
-/

namespace GoMocks.GoSource

open GoSource.Parser GoSource.Grammar
open Lexeme (separated inParens inBrackets inBraces)

section Rules

variable {g : Grammar} {n : Nat} {F : Token → Prop} {e : TypeExpr} {ls ls₁ ls₂ : List Lexeme}
  {l : Lexeme} {s : String} {first : Parser Unit} {shape next final : Shape}

/-! ### Operations -/

/-- An operator and what stands behind it. -/
def operation (g : Grammar) : Parser Shape := do
  discard <| unlessEnded Mode.inner.nl (signOf binarySigns)
  unary g .inner

/-- A binary sign and an operand are one operation. -/
theorem takes_operation (hs : s ∈ lexemeSigns) (hmem : s ∈ binarySigns)
    (h : Takes F (unary g .inner) ls shape) : Takes F (operation g) (.sign s hs :: ls) shape :=
  Takes.bind (Takes.discard (Yields.unlessEnded (takes_signOf (by simp [Lexeme.kind]) hmem))) h

theorem refuses_operation (h : ∀ t, Leads F ls t → t.kind = .sign → t.text ∉ binarySigns) :
    Refuses F (operation g) ls := by
  have hrefuses : Refuses F (discard (unlessEnded Mode.inner.nl (signOf binarySigns))) ls :=
    Yields.map (refuses_signOf h).unlessEnded
  exact hrefuses.bind

theorem refuses_unary (hs : s ∈ lexemeSigns) (hmem : s ∈ "~" :: closings) :
    Refuses F (unary g .inner) (.sign s hs :: ls) := by
  have hstop : Refuses F (signOf unarySigns) (.sign s hs :: ls) :=
    refuses_signOf fun t ht _ => by
      simp only [closings, List.mem_cons, List.not_mem_nil, or_false] at hmem
      rcases hmem with rfl | rfl | rfl | rfl <;> simp [ht.2.1, Lexeme.text, unarySigns]
  have hoperand : Refuses F (operand g) (.sign s hs :: ls) := by
    refine Yields.peek fun t ht => ?_
    simp only [closings, List.mem_cons, List.not_mem_nil, or_false] at hmem
    rcases hmem with rfl | rfl | rfl | rfl <;> simp only [ht.1, ht.2.1, Lexeme.kind, Lexeme.text] <;>
      exact refuses_failure
  refine Passes.bind hstop.many (Refuses.bind ?_)
  exact Yields.peek fun t ht => hoperand.bind

/-- No expression begins with a sign that closes. -/
theorem refuses_exprStep_closing (hs : s ∈ closings) (hmem : s ∈ lexemeSigns) :
    Refuses F (exprStep g .inner) (.sign s hmem :: ls) :=
  (refuses_unary hmem (List.mem_cons_of_mem _ hs)).bind

/-! ### Lengths behind a name -/

/-- A name that is indexed. -/
def Shape.indexed (shape : Shape) : LengthExpr → Shape
  | .literal _ => .value
  | _          => if shape == .name || shape == .qualified then .generic else .value

theorem Shape.indexed_ne_bareType (shape : Shape) (length : LengthExpr) (literal : Bool) :
    shape.indexed length ≠ .bareType literal := by
  have hname : (if shape == .name || shape == .qualified then Shape.generic else .value) ≠
      .bareType literal := by
    split <;> simp
  cases length with
  | literal text => simp [indexed]
  | _ => exact hname

theorem Shape.foldl_indexed_ne_bareType (lengths : List LengthExpr) (literal : Bool) :
    lengths.foldl Shape.indexed .name ≠ .bareType literal := by
  cases lengths using List.reverseRecOn with
  | nil => simp
  | append_singleton lengths length => simp [Shape.indexed_ne_bareType]

/-- Behind a value, brackets are an index or a slice. -/
theorem suffix_brackets (hshape : ∀ literal, shape ≠ .bareType literal) {found : Option Shape}
    (h : Yields F (brackets g shape) (.sign "[" :: ls) found) :
    Yields F (suffix g .inner shape first) (.sign "[" :: ls) found := by
  refine Yields.peek fun t ht => ?_
  obtain ⟨hkind, htext, -⟩ := ht
  simp only [hkind, htext, Lexeme.kind, Lexeme.text]
  cases shape with
  | bareType literal => exact absurd rfl (hshape literal)
  | _ => exact h

namespace Reads

/-- A length is read as an index. -/
theorem takes_indexOrSlice (hg : Reads g n) (hn : 0 < n) {length : LengthExpr}
    (h : length.isPrintable) : Takes F (indexOrSlice g) (inBrackets length.lexemes) () := by
  obtain ⟨shape, hshape, hexpr⟩ := hg.length h hn
  have hvalue : Takes (Leads F [.sign "]"]) (g.value .inner) length.lexemes shape :=
    (takes_value hexpr hshape).mono fun t ht => .inr ht.isSign
  refine Takes.bind (takes_sign _) (Takes.bind hvalue.optional ?_)
  refine Passes.bind (passes_atSign_false fun t ht => ht.isSign.not_isSign (by decide)) ?_
  exact takes_sign _

/-- A length behind a name is a type argument, or an index. -/
theorem takes_suffix_length (hg : Reads g n) (hn : 3 ≤ n) {length : LengthExpr}
    (h : length.isPrintable) (hshape : ∀ literal, shape ≠ .bareType literal) :
    Takes F (suffix g .inner shape first) (inBrackets length.lexemes) (shape.indexed length) := by
  have hargument {argument : TypeExpr} (hrow : argument.Row length.lexemes)
      (hlength : length.lexemes.length ≤ n) : Takes F (brackets g shape) (inBrackets length.lexemes)
        (if shape == .name || shape == .qualified then .generic else .value) := by
    have harguments : Takes F (typeArguments g) (inBrackets (separated (.sign ",") [length.lexemes]))
        [argument] :=
      hg.takes_typeArguments (by simp) (.cons hrow .nil) (by simpa using hlength)
    rw [Lexeme.separated_singleton] at harguments
    exact Takes.orElse (Takes.bind_pure (Takes.discard harguments))
  refine suffix_brackets hshape ?_
  cases length with
  | literal text =>
    refine Refuses.orElse (Refuses.bind (Yields.map (hg.refuses_typeArguments fun t ht => ?_))) ?_
    · simp [NoType, ht.1, Lexeme.kind]
    · exact Takes.bind_pure (hg.takes_indexOrSlice (by omega) h)
  | name n => exact hargument (.name n) (by simp [LengthExpr.lexemes]; omega)
  | qualified package n => exact hargument (.qualified package n) hn
  | other text => simp [LengthExpr.isPrintable] at h

/-- A slice behind a name is neither. -/
theorem refuses_suffix_slice (hg : Reads g n) (hshape : ∀ literal, shape ≠ .bareType literal) :
    Refuses F (suffix g .inner shape first) (.sign "[" :: .sign "]" :: ls) := by
  have hexpr : Refuses F (g.value .inner) (.sign "]" :: ls) := (hg.noExpr (by decide) _).bind
  have hrefuses : Refuses F (typeArguments g) (.sign "[" :: .sign "]" :: ls) :=
    hg.refuses_typeArguments fun t ht =>
      have hends : EndsType false t := ht.isSign.endsType (by decide)
      hends.noType (Bool.false_and _)
  have harguments : Refuses F (discard (typeArguments g)) (.sign "[" :: .sign "]" :: ls) :=
    Yields.map hrefuses
  refine suffix_brackets hshape (Refuses.orElse harguments.bind ?_)
  · refine Refuses.bind (Takes.bind (takes_sign _) (Passes.bind hexpr.optional ?_))
    refine Passes.bind (passes_atSign_false fun t ht => ht.isSign.not_isSign (by decide)) ?_
    exact refuses_failure

end Reads

/-- Lengths in brackets. -/
def bracketedLengths (lengths : List LengthExpr) : List Lexeme :=
  (lengths.map fun length => inBrackets length.lexemes).flatten

/-- Lengths in brackets are read as indices, one after the other. -/
theorem Reads.takesBefore_lengths (hg : Reads g n) (hn : 3 ≤ n) {lengths : List LengthExpr}
    (h : ∀ length ∈ lengths, length.isPrintable)
    (hstop : ∀ shape first, (∀ literal, shape ≠ .bareType literal) →
      Refuses F (suffix g .inner shape first) ls)
    (hshape : ∀ literal, shape ≠ .bareType literal) {m : Nat}
    (hm : (bracketedLengths lengths).length ≤ m) :
    TakesBefore F (suffixes g .inner first m shape) (bracketedLengths lengths) ls
      (lengths.foldl Shape.indexed shape) := by
  induction lengths generalizing shape first m with
  | nil => exact (passes_suffixes (hstop _ _ hshape).unlessEnded m).takesBefore
  | cons length lengths ih =>
    obtain ⟨hlength, hlengths⟩ := List.forall_mem_cons.mp h
    have heq : bracketedLengths (length :: lengths) =
        inBrackets length.lexemes ++ bracketedLengths lengths := rfl
    rw [heq] at hm ⊢
    simp only [inBrackets, List.length_append, List.length_cons] at hm
    obtain ⟨m, rfl⟩ := Nat.exists_eq_add_of_le' (show 1 ≤ m by omega)
    refine takesBefore_suffixes_cons (hg.takes_suffix_length hn hlength hshape) (by simp [inBrackets])
      (ih hlengths (shape.indexed_ne_bareType length) ?_)
    omega

/-- What stands behind the lengths that a row of a type begins with: a pointer, a slice, or the first
lexeme of another type. Only with a pointer the type may be a factor. -/
inductive BehindLengths (factor : Bool) : List Lexeme → Prop
  | star {elem : TypeExpr} {row : List Lexeme} (h : elem.Row row)
      (hfactor : elem.isOperand = factor) : BehindLengths factor (.sign "*" :: row)
  | slice (row : List Lexeme) (hfactor : factor = false) :
      BehindLengths factor (.sign "[" :: .sign "]" :: row)
  | other {l : Lexeme} (row : List Lexeme) (hl : l.kind = .sign → l.text = "<-")
      (hfactor : factor = false) : BehindLengths factor (l :: row)

/-- A row of a type consists of lengths in brackets and another type behind them. -/
theorem TypeExpr.Row.exists_lengths (h : e.Row ls) :
    ∃ (lengths : List LengthExpr) (behind : List Lexeme),
      ls = bracketedLengths lengths ++ behind ∧ (∀ length ∈ lengths, length.isPrintable) ∧
        BehindLengths e.isFactor behind := by
  obtain ⟨n, hn⟩ : ∃ n, ls.length = n := ⟨_, rfl⟩
  induction n using Nat.strongRecOn generalizing e ls with
  | ind n ih =>
    cases h with
    | pointer h => exact ⟨[], _, rfl, by simp, .star h rfl⟩
    | slice h => exact ⟨[], _, rfl, by simp, .slice _ rfl⟩
    | @array length elem row hlength h =>
      obtain ⟨lengths, behind, rfl, hlengths, hbehind⟩ := ih row.length (by
        simp [← hn, inBrackets]
        omega) h rfl
      exact ⟨length :: lengths, behind, by simp [bracketedLengths],
        List.forall_mem_cons.mpr ⟨hlength, hlengths⟩, hbehind⟩
    | generic hbase hne h =>
      obtain ⟨n, row, heq, -⟩ := (TypeExpr.Row.generic hbase hne h).exists_name_cons rfl
      exact ⟨[], _, heq, by simp, .other row (by simp [Lexeme.kind]) rfl⟩
    | receive h => exact ⟨[], _, rfl, by simp, .other _ (by simp [Lexeme.text]) rfl⟩
    | _ => exact ⟨[], _, rfl, by simp, .other _ (by simp [Lexeme.kind]) rfl⟩

/-- A name with lengths behind it, and what the rest is not part of. -/
theorem Reads.takesBefore_unary_lengths (hg : Reads g n) (hn : 3 ≤ n) (name : String)
    {lengths : List LengthExpr} (h : ∀ length ∈ lengths, length.isPrintable)
    (hstop : ∀ shape first, (∀ literal, shape ≠ .bareType literal) →
      Refuses F (suffix g .inner shape first) ls) :
    TakesBefore F (unary g .inner) (.name name :: bracketedLengths lengths) ls
      (lengths.foldl Shape.indexed .name) := by
  have hprimary : TakesBefore F (primary g .inner) ([.name name] ++ bracketedLengths lengths) ls
      (lengths.foldl Shape.indexed .name) :=
    takesBefore_primary takes_operand_name fun first _ m hm =>
      hg.takesBefore_lengths hn h hstop (by simp) hm
  have hsigns : Passes F (many (signOf unarySigns))
      (.name name :: (bracketedLengths lengths ++ ls)) [] :=
    Refuses.many (refuses_signOf fun t ht hkind => by simp [ht.1, Lexeme.kind] at hkind)
  have hshape := Shape.foldl_indexed_ne_bareType lengths
  rw [← List.nil_append (Lexeme.name name :: bracketedLengths lengths)]
  refine TakesBefore.bind_before hsigns.takesBefore ?_
  rw [← List.append_nil (Lexeme.name name :: bracketedLengths lengths)]
  refine TakesBefore.bind_before hprimary ?_
  generalize lengths.foldl Shape.indexed .name = shape at hshape
  cases shape with
  | bareType literal => exact absurd rfl (hshape literal)
  | _ => exact (passes_pure _).takesBefore

/-- Before a star, a name with lengths is an operand. -/
theorem Reads.takesBefore_unary_star (hg : Reads g n) (hn : 3 ≤ n) (name : String)
    {lengths : List LengthExpr} (h : ∀ length ∈ lengths, length.isPrintable) :
    TakesBefore F (unary g .inner) (.name name :: bracketedLengths lengths) (.sign "*" :: ls)
      (lengths.foldl Shape.indexed .name) :=
  hg.takesBefore_unary_lengths hn name h fun shape first hshape =>
    refuses_suffix fun t ht s hs hsign => by
      rw [← hsign.2, ht.2.1] at hs
      simp [Lexeme.text, operandSigns] at hs

/-- A row behind a bar is shorter than all of them with their bars. -/
theorem Lexeme.length_lt_of_mem_bars {items : List (List Lexeme)} (h : ls ∈ items) :
    ls.length < (items.map (.sign "|" :: ·)).flatten.length := by
  have hsublist := List.sublist_flatten_of_mem (List.mem_map_of_mem (f := (.sign "|" :: ·)) h)
  exact Nat.lt_of_succ_le hsublist.length_le

/-! ### Terms behind a name -/

/-- The operations that some terms behind a factor are read as. They go up to a tilde. -/
theorem Reads.exists_operations (hg : Reads g n) {terms : List UnionTerm}
    {items : List (List Lexeme)} (h : List.Forall₂ UnionTerm.Row terms items)
    (hn : ∀ item ∈ items, item.length ≤ n) (hF : ∀ t, F t → EndsItem "]" t) :
    ∃ (taken : List (List Lexeme)) (left : List Lexeme) (shapes : List Shape),
      (items.map (.sign "|" :: ·)).flatten = taken.flatten ++ left ∧
      List.Forall₂ (fun item shape => Takes EndsTerm (operation g) item shape) taken shapes ∧
      (∀ item ∈ taken, ∃ row, item = .sign "|" :: row) ∧ Refuses F (operation g) left ∧
      (left = [] ∨ ∃ row, left = .sign "|" :: row) ∧
      ((∃ literal, .bareType literal ∈ shapes) ∨ left ≠ [] ∨
        terms.all fun term => !term.tilde && term.type.isOperand) := by
  induction h with
  | nil =>
    refine ⟨[], [], [], rfl, .nil, by simp, refuses_operation fun t ht _ => ?_, .inl rfl, by simp⟩
    obtain ⟨-, htext⟩ | ⟨-, htext⟩ := hF t ht <;> simp [htext, binarySigns]
  | @cons term item terms items hterm _ ih =>
    obtain ⟨hitem, hitems⟩ := List.forall_mem_cons.mp hn
    obtain ⟨tilde, h⟩ := hterm
    cases tilde with
    | true =>
      -- no operand begins with a tilde, so the operations end in front of the bar
      refine ⟨[], _, [], rfl, .nil, by simp, ?_, .inr ⟨_, rfl⟩, .inr (.inl (by simp))⟩
      exact Takes.bind (Takes.discard (Yields.unlessEnded (takes_signOf rfl (by decide))))
        (refuses_unary _ (by decide))
    | false =>
      obtain ⟨shape, hunary, hshape⟩ := hg.exists_takes_unary h hitem
      obtain ⟨taken, left, shapes, heq, hshapes, hbars, hstop, hleft, hcases⟩ := ih hitems
      refine ⟨_ :: taken, left, shape :: shapes, ?_,
        .cons (takes_operation _ (by decide) hunary) hshapes,
        List.forall_mem_cons.mpr ⟨⟨_, rfl⟩, hbars⟩, hstop, hleft, ?_⟩
      · simp [heq]
      · rcases hcases with ⟨literal, hmem⟩ | hne | hall
        · exact .inl ⟨literal, List.mem_cons_of_mem _ hmem⟩
        · exact .inr (.inl hne)
        · by_cases hoperand : ∃ literal, shape = .bareType literal
          · obtain ⟨literal, rfl⟩ := hoperand
            exact .inl ⟨literal, List.mem_cons_self ..⟩
          · have hterm := Bool.of_not_eq_false (mt hshape.mpr hoperand)
            exact .inr (.inr (by simpa [hterm] using hall))

/-- Behind a factor, a star and bars are operators. -/
theorem takesBefore_operations {row left : List Lexeme} {taken : List (List Lexeme)}
    {shapes : List Shape} (hunary : Takes EndsTerm (unary g .inner) row shape)
    (h : List.Forall₂ (fun item shape => Takes EndsTerm (operation g) item shape) taken shapes)
    (hbars : ∀ item ∈ taken, ∃ row, item = .sign "|" :: row)
    (hstop : Refuses F (operation g) left) (hleft : left = [] ∨ ∃ row, left = .sign "|" :: row)
    (hF : ∀ t, F t → EndsItem "]" t) :
    TakesBefore F (many (operation g)) (.sign "*" :: row ++ taken.flatten) left
      (shape :: shapes) := by
  have hstar := takes_operation (s := "*") (by decide) (by decide) hunary
  refine takesBefore_many (.cons hstar h) ?_ ?_ ?_ hstop
  · refine List.forall_mem_cons.mpr ⟨by simp, fun item hitem => ?_⟩
    obtain ⟨row, rfl⟩ := hbars item hitem
    simp
  · intro item hitem t ht
    obtain ⟨row, rfl⟩ := hbars item hitem
    exact .inr ht.isSign
  · intro t ht
    rcases hleft with rfl | ⟨row, rfl⟩
    · exact .inl (hF t ht)
    · exact .inr ht.isSign

/-- Operands with operators between them, none of which is a bare type. -/
theorem takesBefore_exprStep (hshape : ∀ literal, shape ≠ .bareType literal) {left : List Lexeme}
    {shapes : List Shape} (hunary : TakesBefore F (unary g .inner) ls₁ (ls₂ ++ left) shape)
    (hmany : TakesBefore F (many (operation g)) ls₂ left shapes)
    (hshapes : ∀ literal, .bareType literal ∉ shapes) :
    TakesBefore F (exprStep g .inner) (ls₁ ++ ls₂) left
      (if shapes.isEmpty then shape else .value) := by
  have hnone : ∀ found ∈ shape :: shapes, ∀ literal, found ≠ .bareType literal := by
    refine List.forall_mem_cons.mpr ⟨hshape, ?_⟩
    rintro _ hmem literal rfl
    exact hshapes literal hmem
  refine hunary.bind_before ?_
  rw [← List.append_nil ls₂]
  refine TakesBefore.bind_before hmany ?_
  cases shapes with
  | nil => exact (passes_pure _).takesBefore
  | cons next shapes =>
    rw [if_neg (by simp), if_neg]
    · exact (passes_pure _).takesBefore
    · rw [List.any_eq_true]
      rintro ⟨found, hmem, hfound⟩
      have hne := hnone found hmem
      cases found <;> simp_all

/-- A bare type makes an expression fail that has operators. -/
theorem misses_exprStep (hshape : ∀ literal, shape ≠ .bareType literal) {left : List Lexeme}
    {shapes : List Shape} (hunary : TakesBefore F (unary g .inner) ls₁ (ls₂ ++ left) shape)
    (hmany : TakesBefore F (many (operation g)) ls₂ left shapes)
    (hmiss : (∃ literal, .bareType literal ∈ shapes) ∨ ∀ t, Leads F left t → ¬ t.IsSign s) :
    Misses F (exprStep g .inner) s (ls₁ ++ (ls₂ ++ left)) := by
  by_cases hbare : ∃ literal, .bareType literal ∈ shapes
  · -- a type that is no value is no operand
    obtain ⟨literal, hmem⟩ := hbare
    refine Refuses.misses (hunary.bind (hmany.bind ?_))
    have hne : shapes.isEmpty = false := by
      cases shapes with
      | nil => simp at hmem
      | cons => rfl
    simp only [hne, Bool.false_eq_true, if_false]
    rw [if_pos (List.any_eq_true.mpr ⟨_, List.mem_cons_of_mem _ hmem, rfl⟩)]
    exact refuses_failure
  · have htakes := takesBefore_exprStep hshape hunary hmany fun literal hmem => hbare ⟨literal, hmem⟩
    rw [← List.append_assoc]
    exact htakes.misses (hmiss.resolve_left hbare)

/-- A name with lengths behind it is an expression that goes up to an arrow, to a tilde or to the
brackets of a slice. -/
theorem Reads.misses_exprStep_name (hg : Reads g n) (hn : 3 ≤ n) (name : String)
    {lengths : List LengthExpr} {behind : List Lexeme}
    (hprintable : ∀ length ∈ lengths, length.isPrintable)
    (hlead : (∃ row, behind = .sign "[" :: .sign "]" :: row) ∨
      ∃ l row, behind = l :: row ∧ (l.kind = .sign → l.text ∈ ["<-", "~"])) :
    Misses F (exprStep g .inner) "]" (.name name :: (bracketedLengths lengths ++ behind)) := by
  have hends {t : Token} (ht : Leads F behind t) (hsign : t.kind = .sign) :
      t.text ∈ ["[", "<-", "~"] := by
    rcases hlead with ⟨row, rfl⟩ | ⟨l, row, rfl, hl⟩
    · simp [ht.2.1, Lexeme.text]
    · rw [ht.2.1]
      exact List.mem_cons_of_mem _ (hl (ht.1.symm.trans hsign))
  -- of the three signs, only a bracket can go on with a name, and these brackets hold nothing
  have hsuffix (shape : Shape) (first : Parser Unit)
      (hshape : ∀ literal, shape ≠ .bareType literal) :
      Refuses F (suffix g .inner shape first) behind := by
    rcases hlead with ⟨row, rfl⟩ | ⟨l, row, rfl, hl⟩
    · exact hg.refuses_suffix_slice hshape
    · refine refuses_suffix fun t ht s hs hsign => ?_
      have htext := hl (ht.1.symm.trans hsign.1)
      rw [← ht.2.1, hsign.2] at htext
      simp only [List.mem_cons, List.not_mem_nil, or_false] at hs htext
      rcases htext with rfl | rfl <;> simp [operandSigns] at hs
  have hoperation : Refuses F (operation g) behind :=
    refuses_operation fun t ht hsign hmem => by
      have htext := hends ht hsign
      simp only [List.mem_cons, List.not_mem_nil, or_false] at htext
      rcases htext with htext | htext | htext <;> simp [htext, binarySigns] at hmem
  have hname := hg.takesBefore_unary_lengths hn name hprintable hsuffix
  rw [← List.cons_append]
  rw [← List.nil_append behind] at hname ⊢
  refine misses_exprStep (Shape.foldl_indexed_ne_bareType lengths) hname
    hoperation.many.takesBefore (.inr fun t ht hsign => ?_)
  have htext := hends ht hsign.1
  simp [hsign.2] at htext

/-- Behind a name and a star, an expression goes up to the end only if all terms are operands. -/
theorem Reads.misses_exprStep_star (hg : Reads g n) (hn : 3 ≤ n) (name : String)
    {lengths : List LengthExpr} (hprintable : ∀ length ∈ lengths, length.isPrintable)
    {elem : TypeExpr} {row : List Lexeme} (helem : elem.Row row) (hrow : row.length ≤ n)
    {terms : List UnionTerm} {items : List (List Lexeme)}
    (hitems : List.Forall₂ UnionTerm.Row terms items) (hlengths : ∀ item ∈ items, item.length ≤ n)
    (hF : ∀ t, F t → EndsItem "]" t ∧ (elem.isOperand →
      (terms.all fun term => !term.tilde && term.type.isOperand) → ¬ t.IsSign "]")) :
    Misses F (exprStep g .inner) "]" (.name name :: (bracketedLengths lengths ++
      (.sign "*" :: row ++ (items.map (.sign "|" :: ·)).flatten))) := by
  obtain ⟨shape, hunary, hshape⟩ := hg.exists_takes_unary helem hrow
  obtain ⟨taken, left, shapes, heq, hshapes, hbars, hstop, hleft, hcases⟩ :=
    hg.exists_operations hitems hlengths fun t ht => (hF t ht).1
  have hmany := takesBefore_operations hunary hshapes hbars hstop hleft fun t ht => (hF t ht).1
  rw [heq, ← List.append_assoc (.sign "*" :: row), ← List.cons_append]
  refine misses_exprStep (Shape.foldl_indexed_ne_bareType lengths)
    (hg.takesBefore_unary_star hn name hprintable) hmany ?_
  by_cases hbare : ∃ literal, .bareType literal ∈ shape :: shapes
  · exact .inl hbare
  refine .inr fun t ht hsign => ?_
  rcases hleft with rfl | ⟨row, rfl⟩
  · -- all terms were taken, so that they are operands
    have hoperand : elem.isOperand := Bool.of_not_eq_false fun hno => hbare <| by
      obtain ⟨literal, rfl⟩ := hshape.mpr hno
      exact ⟨literal, List.mem_cons_self ..⟩
    have hrest : ¬ ∃ literal, .bareType literal ∈ shapes :=
      fun h => hbare (h.imp fun _ => List.mem_cons_of_mem _)
    exact (hF t ht).2 hoperand ((hcases.resolve_left hrest).resolve_left (by simp)) hsign
  · exact absurd hsign (ht.isSign.not_isSign (by decide))

/-- The name of a type parameter and its constraint are an expression only if the terms are
factors. -/
theorem Reads.misses_exprStep_typeParam (hg : Reads g n) (name : String) {terms : List UnionTerm}
    {items : List (List Lexeme)} (hne : terms ≠ []) (h : List.Forall₂ UnionTerm.Row terms items)
    (hn : (separated (.sign "|") items).length + 3 ≤ n + 1)
    (hF : ∀ t, F t → EndsItem "]" t ∧ (areFactors terms → ¬ t.IsSign "]")) :
    Misses F (exprStep g .inner) "]" (.name name :: separated (.sign "|") items) := by
  cases h with
  | nil => exact absurd rfl hne
  | @cons term item terms items hterm hitems =>
  rw [Lexeme.separated_cons] at hn ⊢
  rw [List.length_append] at hn
  have hpos := List.length_pos_iff.mpr hterm.ne_nil
  obtain ⟨tilde, h⟩ := hterm
  cases tilde with
  -- no expression goes on with a tilde
  | true =>
    have hnone : ∀ length ∈ ([] : List LengthExpr), length.isPrintable := by simp
    exact hg.misses_exprStep_name (by omega) name hnone
      (.inr ⟨_, _, rfl, fun _ => by simp [Lexeme.text]⟩)
  | false =>
    simp only [Bool.false_eq_true, if_false, List.nil_append] at hn hpos ⊢
    obtain ⟨lengths, behind, rfl, hprintable, hbehind⟩ := h.exists_lengths
    rw [List.append_assoc]
    -- behind the lengths the first type decides: only a pointer goes on as a product
    cases hbehind with
    | @star elem row helem hfactor =>
      simp only [List.length_append, List.length_cons] at hn
      refine hg.misses_exprStep_star (by omega) name hprintable helem (by omega) hitems
        (fun item hitem => ?_) fun t ht => ⟨(hF t ht).1, fun hoperand hall => (hF t ht).2 ?_⟩
      · have hlt := Lexeme.length_lt_of_mem_bars hitem
        omega
      · simp [areFactors, ← hfactor, hoperand, hall]
    | slice row => exact hg.misses_exprStep_name (by omega) name hprintable (.inl ⟨_, rfl⟩)
    | @other l row hl =>
      exact hg.misses_exprStep_name (by omega) name hprintable
        (.inr ⟨l, _, rfl, fun hkind => by simp [hl hkind]⟩)

/-- Operands behind bars are operations. -/
theorem Reads.exists_operand_operations (hg : Reads g n) {terms : List UnionTerm}
    {items : List (List Lexeme)} (h : List.Forall₂ UnionTerm.Row terms items)
    (hn : ∀ item ∈ items, item.length ≤ n)
    (hoperands : terms.all fun term => !term.tilde && term.type.isOperand) :
    ∃ shapes, List.Forall₂ (fun item shape => Takes EndsTerm (operation g) item shape)
        (items.map (.sign "|" :: ·)) shapes ∧ ∀ literal, .bareType literal ∉ shapes := by
  induction h with
  | nil => exact ⟨[], .nil, by simp⟩
  | @cons term item terms items hterm _ ih =>
    obtain ⟨hitem, hitems⟩ := List.forall_mem_cons.mp hn
    obtain ⟨tilde, h⟩ := hterm
    simp only [List.all_cons, Bool.and_eq_true, Bool.not_eq_true'] at hoperands
    obtain ⟨⟨rfl, hoperand⟩, hmore⟩ := hoperands
    obtain ⟨shape, hunary, hshape⟩ := hg.exists_takes_unary h hitem
    obtain ⟨shapes, hshapes, hnone⟩ := ih hitems hmore
    refine ⟨shape :: shapes, .cons (takes_operation _ (by decide) hunary) hshapes,
      fun literal hmem => ?_⟩
    rcases List.mem_cons.mp hmem with rfl | hmem
    · simpa [hoperand] using hshape.mp ⟨literal, rfl⟩
    · exact hnone literal hmem

/-- The name of a type parameter and a constraint whose terms are factors are an expression. -/
theorem Reads.takes_exprStep_factors (hg : Reads g n) (name : String) {terms : List UnionTerm}
    {items : List (List Lexeme)} (h : List.Forall₂ UnionTerm.Row terms items)
    (hn : (separated (.sign "|") items).length + 2 ≤ n) (hfactors : areFactors terms) :
    Takes (EndsItem "]") (exprStep g .inner) (.name name :: separated (.sign "|") items) .value := by
  cases h with
  | nil => cases hfactors
  | @cons term item terms items hterm hitems =>
  obtain ⟨tilde, h⟩ := hterm
  simp only [areFactors, Bool.and_eq_true, Bool.not_eq_true'] at hfactors
  obtain ⟨⟨rfl, hfactor⟩, hmore⟩ := hfactors
  simp only [Bool.false_eq_true, if_false, List.nil_append] at hn ⊢
  rw [Lexeme.separated_cons, List.length_append] at hn
  obtain ⟨lengths, behind, rfl, hprintable, hbehind⟩ := h.exists_lengths
  cases hbehind with
  | slice row hnone => exact absurd hfactor (by simp [hnone])
  | other row hl hnone => exact absurd hfactor (by simp [hnone])
  | @star elem row helem heq =>
  simp only [List.length_append, List.length_cons] at hn
  have hlengths : ∀ row ∈ items, row.length ≤ n := by
    intro row hrow
    have hlt := Lexeme.length_lt_of_mem_bars hrow
    omega
  obtain ⟨shape, hunary, hshape⟩ := hg.exists_takes_unary helem (by omega)
  obtain ⟨shapes, hshapes, hnone⟩ := hg.exists_operand_operations hitems hlengths hmore
  have hbars : ∀ item ∈ items.map (Lexeme.sign "|" :: ·), ∃ row, item = .sign "|" :: row := by
    simp
  have hstop : Refuses (EndsItem "]") (operation g) [] := by
    refine refuses_operation fun t ht _ => ?_
    obtain ⟨-, htext⟩ | ⟨-, htext⟩ := ht <;> simp [htext, binarySigns]
  -- the name times the first term, and the other terms behind their bars
  have hmany := takesBefore_operations hunary hshapes hbars hstop (.inl rfl) fun _ ht => ht
  have hexpr := (takesBefore_exprStep (Shape.foldl_indexed_ne_bareType lengths)
    (hg.takesBefore_unary_star (by omega) name hprintable) hmany fun literal hmem => ?_).takes
  · simpa [Lexeme.separated_cons] using hexpr
  · rcases List.mem_cons.mp hmem with rfl | hmem
    · simpa [heq, hfactor] using hshape.mp ⟨literal, rfl⟩
    · exact hnone literal hmem

/-! ### Type parameters -/

/-- A constraint begins with a type or a tilde. -/
theorem UnionTerm.Row.not_isSign_of_leads {term : UnionTerm} (h : term.Row ls) {t : Token}
    (ht : Leads F (ls ++ ls₂) t) (hs : s ∉ ["*", "[", "<-", "~"]) : ¬ t.IsSign s := by
  simp only [List.mem_cons, List.not_mem_nil, or_false, not_or] at hs
  obtain ⟨tilde, h⟩ := h
  cases tilde with
  | true => exact ht.isSign.not_isSign (Ne.symm hs.2.2.2)
  | false => exact (h.startsType_of_leads_append ht).not_isSign (by simp [hs])

/-- Names and their constraint are read as type parameters. -/
theorem Reads.takes_typeParam (hg : Reads g n) {param : TypeParamSpec} (h : param.Row ls)
    (hn : ls.length ≤ n) :
    Takes (EndsItem "]") (do
      let names ← commaList Parser.name
      let constraint ← TypeExpr.ofTerms <$> typeTerms g false
      return names.map fun n => TypeParamSpec.mk n constraint) ls [param] := by
  obtain ⟨name, hne, h⟩ := h
  rw [List.length_cons] at hn
  have hterms : Takes (EndsItem "]") (TypeExpr.ofTerms <$> typeTerms g false) _ _ :=
    Takes.map (hg.takes_typeTerms hne h (by omega) fun t ht =>
      ⟨ht.endsType (by decide), ht.not_isSign (by decide) (by decide)⟩)
  cases h with
  | nil => exact absurd rfl hne
  | @cons term item terms items hterm _ =>
    have hcomma : Refuses (Leads (EndsItem "]") (separated (.sign "|") (item :: items))) (sign ",")
        [] := by
      refine refuses_sign fun t ht => ?_
      rw [Lexeme.separated_cons] at ht
      exact hterm.not_isSign_of_leads ht (by decide)
    have hnames : Takes (Leads (EndsItem "]") (separated (.sign "|") (item :: items)))
        (commaList Parser.name) [.name name] [name] := by
      rw [← Lexeme.separated_singleton (.sign ",") [.name name]]
      exact takes_sepBy1 (G := fun _ => True) (.cons takes_name .nil) (by simp)
        (fun F => takes_sign _) (by simp) (by simp) hcomma
    exact Takes.bind hnames (Takes.bind_pure hterms)

/-- Type parameters, each with a constraint of its own. -/
theorem Reads.takes_typeParams (hg : Reads g n) {params : List TypeParamSpec}
    {items : List (List Lexeme)} (hne : params ≠ [])
    (h : List.Forall₂ TypeParamSpec.Row params items)
    (hn : (separated (.sign ",") items).length ≤ n) :
    Takes F (typeParams g) (inBrackets (separated (.sign ",") items)) params := by
  have hclosing : Refuses (Token.Spells · (.sign "]")) (sign ",") [] :=
    refuses_sign fun t ht => ht.isSign.not_isSign (by decide)
  have hitems : List.Forall₂ (fun item declared => Takes (EndsItem "]") (do
      let names ← commaList Parser.name
      let constraint ← TypeExpr.ofTerms <$> typeTerms g false
      return names.map fun n => TypeParamSpec.mk n constraint) item declared) items
      (params.map ([·])) := by
    rw [List.forall₂_map_right_iff]
    exact (forall₂_mem_right h).flip.imp fun item param hparam =>
      hg.takes_typeParam hparam.1 ((Lexeme.length_le_separated hparam.2).trans hn)
  have hflatten : params = (params.map ([·])).flatten := by simp [← List.flatMap_def]
  rw [hflatten]
  refine Takes.bind (takes_sign (by decide)) (Takes.bind ?_ (Takes.bind_pure (takes_sign _)))
  rw [← List.append_nil (separated _ _)]
  refine Takes.seqLeft ?_ hclosing.optional.takes
  refine takes_sepBy1 (G := EndsItem "]") hitems ?_ (fun F => takes_sign _)
    (fun t ht => .inl ht.isSign) (fun t ht => .inr ht.isSign) hclosing
  rintro rfl
  cases h
  exact hne rfl

/-- Type parameters are no array type, unless there is only one and its constraint may be read as
the rest of an expression. -/
theorem Reads.refuses_typeStep_typeParams (hg : Reads g n) {nl : Bool} {name : String}
    {terms : List UnionTerm} {items more : List (List Lexeme)} (hne : terms ≠ [])
    (h : List.Forall₂ UnionTerm.Row terms items)
    (hn : (separated (.sign "|") items).length + 3 ≤ n)
    (hsingle : areFactors terms → more ≠ []) :
    Refuses F (typeStep g nl)
      (inBrackets (separated (.sign ",") ((.name name :: separated (.sign "|") items) :: more)) ++
        ls) := by
  have hitems : inBrackets (separated (.sign ",") ((.name name :: separated (.sign "|") items) ::
      more)) ++ ls = .sign "[" :: ((.name name :: separated (.sign "|") items) ++
        ((more.map (.sign "," :: ·)).flatten ++ (.sign "]" :: ls))) := by
    simp [Lexeme.separated_cons, inBrackets]
  rw [hitems]
  refine Yields.peek fun t ht => ?_
  simp only [ht.1, ht.2.1, Lexeme.kind, Lexeme.text]
  refine Takes.bind (takes_sign _) (Passes.bind (passes_atSign_false fun t ht => ?_) ?_)
  · exact ht.not_isSign (by simp [Lexeme.kind])
  have hexpr : Misses F (g.expr .inner) "]" ((.name name :: separated (.sign "|") items) ++
      ((more.map (.sign "," :: ·)).flatten ++ (.sign "]" :: ls))) := by
    refine Misses.append (hg.noLength name hne h hn fun t ht => ?_)
    cases more with
    | nil => exact ⟨.inr ht.isSign, fun hfactors => absurd rfl (hsingle hfactors)⟩
    | cons next more => exact ⟨.inl ht.isSign, fun _ => ht.isSign.not_isSign (by decide)⟩
  have hvalue : Misses F (g.value .inner) "]" ((.name name :: separated (.sign "|") items) ++
      ((more.map (.sign "," :: ·)).flatten ++ (.sign "]" :: ls))) :=
    hexpr.bind fun shape ts => by cases shape <;> first | exact .inl rfl | exact .inr ⟨_, rfl⟩
  exact hvalue.bind_spanned fun x => Refuses.bind (refuses_sign fun t ht => ht)

/-! ### Declarations -/

/-- Without a sign in front, the body of a declaration is what the type yields. -/
theorem yields_typeBody {found : Option TypeExpr} (h : Yields F (g.type true) (l :: ls) found)
    (hl : ¬ (l.kind = .sign ∧ l.text = "=")) : Yields F (typeBody g) (l :: ls) found := by
  have hequal : Refuses F (sign "=") (l :: ls) := refuses_sign fun t ht => ht.not_isSign hl
  exact Passes.bind hequal.optional.discard h

section Spec

variable {start : Token} {ts rest behind : List Token} {params : List TypeParamSpec}

/-- A name and a type are a declaration without parameters. -/
theorem typeSpec_plain (hstart : start.kind = .name) (h : typeBody g ts = some (e, rest)) :
    typeSpec g (start :: ts) = some (⟨start.text, [], e, start.line⟩, rest) := by
  obtain ⟨kind, text, gap, newline, comments, line⟩ := start
  subst hstart
  have hbody : (do return TypeSpec.mk text [] (← typeBody g) line : Parser TypeSpec) ts =
      some (⟨text, [], e, line⟩, rest) := congrArg (Option.bind · _) h
  exact congrArg (Option.orElse · _) hbody

/-- A declaration whose brackets hold no length is generic. -/
theorem typeSpec_generic (hstart : start.kind = .name) (hbody : typeBody g ts = none)
    (hparams : typeParams g ts = some (params, rest)) (h : typeBody g rest = some (e, behind)) :
    typeSpec g (start :: ts) = some (⟨start.text, params, e, start.line⟩, behind) := by
  obtain ⟨kind, text, gap, newline, comments, line⟩ := start
  subst hstart
  have hplain : (do return TypeSpec.mk text [] (← typeBody g) line : Parser TypeSpec) ts = none :=
    congrArg (Option.bind · _) hbody
  have hgeneric : (do return TypeSpec.mk text (← typeParams g) (← typeBody g) line :
      Parser TypeSpec) ts = some (⟨text, params, e, line⟩, behind) :=
    (congrArg (Option.bind · _) hparams).trans (congrArg (Option.bind · _) h)
  exact (congrArg (Option.orElse · _) hplain).trans hgeneric

end Spec

end Rules

end GoMocks.GoSource
