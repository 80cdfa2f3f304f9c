import GoMocks.Proofs.GoSource.MemberRules

/-!
# Go source — the rules for expressions read rows of types
-/

namespace GoMocks.GoSource

open GoSource.Parser GoSource.Grammar
open Lexeme (separated inParens inBrackets inBraces)

/-- The signs that go on with an operand. -/
def operandSigns : List String :=
  ["\x7b", "(", "[", "."]

/-- A token that goes on with no operand, or that stands on the next line. -/
def EndsOperand (mode : Mode) (t : Token) : Prop :=
  (mode.nl && t.newline) = false → ∀ s ∈ operandSigns, ¬ t.IsSign s

/-- What stands behind a term between brackets. -/
def EndsTerm (t : Token) : Prop :=
  EndsItem "]" t ∨ t.IsSign "|"

theorem EndsTerm.endsOperand {t : Token} {mode : Mode} (h : EndsTerm t) : EndsOperand mode t := by
  intro _ s hs
  have hne : s ≠ "," ∧ s ≠ "]" ∧ s ≠ "|" := by
    simp only [operandSigns, List.mem_cons, List.not_mem_nil, or_false] at hs
    rcases hs with rfl | rfl | rfl | rfl <;> decide
  exact h.elim (·.not_isSign hne.1 hne.2.1) (·.not_isSign hne.2.2.symm)

theorem EndsTerm.endsType {t : Token} {nl : Bool} (h : EndsTerm t) : EndsType nl t :=
  h.elim (·.endsType (by decide)) (·.endsType (by decide))

section Rules

variable {g : Grammar} {n : Nat} {F : Token → Prop} {e : TypeExpr} {ls ls₁ ls₂ : List Lexeme}
  {l : Lexeme} {s : String} {first : Parser Unit} {shape next final : Shape} {mode : Mode}

/-! ### Single tokens -/

/-- A look ahead for a sign tells whether the row begins with it. -/
theorem passes_atSign_lead : Passes F (atSign s) (l :: ls) (l.kind == .sign && l.text == s) :=
  .of_lead fun t rest ⟨hkind, htext, _⟩ =>
    congrArg (fun b => some (b, t :: rest))
      (by rw [hkind, htext] : (t.kind == .sign && t.text == s) = _)

/-- A look ahead for a keyword tells whether the row begins with it. -/
theorem passes_atKeyword_lead :
    Passes F (atKeyword s) (l :: ls) (l.kind == .keyword && l.text == s) :=
  .of_lead fun t rest ⟨hkind, htext, _⟩ =>
    congrArg (fun b => some (b, t :: rest))
      (by rw [hkind, htext] : (t.kind == .keyword && t.text == s) = _)

/-- One of some signs is read as that sign. -/
theorem takes_signOf {signs : List String} (hkind : l.kind = .sign) (hmem : l.text ∈ signs) :
    Takes F (signOf signs) [l] l.text :=
  .of_token fun t rest ⟨hk, htext, _⟩ => by
    have htoken : token (fun t => t.kind == .sign && signs.contains t.text) (t :: rest) =
        some (t, rest) :=
      if_pos (by simp [hk, hkind, htext, hmem])
    exact (congrArg (Option.bind · _) htoken).trans
      (congrArg (fun text => some (text, rest)) htext)

theorem refuses_signOf {signs : List String}
    (h : ∀ t, Leads F ls t → t.kind = .sign → t.text ∉ signs) : Refuses F (signOf signs) ls :=
  .of_lead fun t rest ht => by
    have htoken : token (fun t => t.kind == .sign && signs.contains t.text) (t :: rest) = none :=
      if_neg (by simpa using h t ht)
    exact congrArg (Option.bind · _) htoken

/-! ### What follows an operand -/

theorem refuses_suffix (h : ∀ t, Leads F ls t → ∀ s ∈ operandSigns, ¬ t.IsSign s) :
    Refuses F (suffix g mode shape first) ls :=
  Yields.peek fun t ht => by
    have hsign := h t ht
    by_cases hkind : t.kind = .sign
    · have htext : ∀ s ∈ operandSigns, t.text ≠ s :=
        fun s hs htext => hsign s hs ⟨hkind, htext⟩
      simp only [hkind]
      refine Yields.pure_bind ?_
      split <;> first | exact refuses_failure | simp_all [operandSigns]
    · simp only [bne_iff_ne, ne_eq, hkind, not_false_eq_true, if_true]
      exact refuses_failure.bind

/-- Nothing goes on with the operand, or it stands on the next line. -/
theorem refuses_suffix_of_ends (hF : ∀ t, F t → EndsOperand mode t) :
    Refuses F (unlessEnded mode.nl (suffix g mode shape first)) [] :=
  refuses_unlessEnded_of_lead fun t rest ht hline =>
    have hrefuses : Refuses (· = t) (suffix g mode shape first) [] :=
      refuses_suffix (by rintro _ rfl; exact hF _ ht hline)
    hrefuses [] t rest .nil rfl

/-- Where no suffix follows, the shape stays as it is. -/
theorem passes_suffixes (h : Refuses F (unlessEnded mode.nl (suffix g mode shape first)) ls)
    (m : Nat) : Passes F (suffixes g mode first m shape) ls shape := by
  cases m with
  | zero   => exact passes_pure _
  | succ m =>
    intro ts t rest hts ht
    exact (congrArg (Option.bind · _) (h.optional ts t rest hts ht)).trans rfl

/-- No suffixes are read where an operand ends. -/
theorem takes_suffixes_nil (hF : ∀ t, F t → EndsOperand mode t) (m : Nat) :
    Takes F (suffixes g mode first m shape) [] shape :=
  (passes_suffixes (refuses_suffix_of_ends hF) m).takes

/-- One suffix and the suffixes behind it are read in turn. -/
theorem takesBefore_suffixes_cons {m : Nat}
    (h : Takes (Leads F (ls₂ ++ ls)) (suffix g mode shape first) ls₁ next) (hne : ls₁ ≠ [])
    (hrest : TakesBefore F (suffixes g mode (argument g) m next) ls₂ ls final) :
    TakesBefore F (suffixes g mode first (m + 1) shape) (ls₁ ++ ls₂) ls final :=
  TakesBefore.bind_before (Takes.before (Takes.optional (Yields.unlessEnded_of_ne_nil h hne))) hrest

/-- Behind a dot, a name selects something. -/
theorem takes_suffix_select (hshape : ∀ literal, shape ≠ .bareType literal) {n : String} :
    Takes F (suffix g mode shape first) [.sign ".", .name n]
      (if shape == .name then .qualified else .value) := by
  refine Yields.peek fun t ht => ?_
  obtain ⟨hkind, htext, -⟩ := ht
  have hselect : Takes F (selection g shape) [.sign ".", .name n]
      (if shape == .name then .qualified else .value) := by
    refine Takes.bind (takes_sign (by decide)) (Passes.bind (passes_atSign_false fun t ht => ?_) ?_)
    · exact ht.not_isSign (by simp [Lexeme.kind])
    · exact Takes.bind_pure (Takes.discard takes_name)
  simp only [hkind, htext, Lexeme.kind, Lexeme.text]
  cases shape with
  | bareType literal => exact absurd rfl (hshape literal)
  | _ => exact hselect

/-- Type arguments behind a name are a suffix. -/
theorem Reads.takes_suffix_brackets (hg : Reads g n) {arguments : List TypeExpr}
    {items : List (List Lexeme)} (hshape : shape = .name ∨ shape = .qualified)
    (hne : arguments ≠ []) (h : List.Forall₂ TypeExpr.Row arguments items)
    (hn : ∀ item ∈ items, item.length ≤ n) :
    Takes F (suffix g mode shape first) (inBrackets (separated (.sign ",") items)) .generic := by
  refine Yields.peek fun t ht => ?_
  obtain ⟨hkind, htext, -⟩ := ht
  have hbrackets : Takes F (brackets g shape) (inBrackets (separated (.sign ",") items))
      .generic := by
    refine Takes.orElse ?_
    rcases hshape with rfl | rfl <;>
      exact Takes.bind_pure (Takes.discard (hg.takes_typeArguments hne h hn))
  simp only [hkind, htext, Lexeme.kind, Lexeme.text]
  rcases hshape with rfl | rfl <;> exact hbrackets

/-! ### Operands -/

/-- A rule for the first argument of a call. Only `new` and `make` take types. -/
def IsFirst (g : Grammar) (first : Parser Unit) : Prop :=
  first = typeArgument g ∨ first = argument g

/-- A primary expression is an operand with its suffixes. -/
theorem takesBefore_primary (hoperand : Takes (Leads F (ls₂ ++ ls)) (operand g) ls₁ shape)
    (hsuffixes : ∀ first, IsFirst g first → ∀ m, ls₂.length ≤ m →
      TakesBefore F (suffixes g mode first m shape) ls₂ ls final) :
    TakesBefore F (primary g mode) (ls₁ ++ ls₂) ls final := by
  intro ts₁ ts₂ t rest h₁ h₂ ht
  obtain ⟨lead, behind, heq, -⟩ := exists_lead (List.rel_append h₁ h₂) ht rest
  rw [List.append_assoc] at heq
  obtain ⟨first, hfirst, hrule⟩ : ∃ first, IsFirst g first ∧
      (if lead.text == "new" || lead.text == "make" then typeArgument g else argument g) = first := by
    split
    · exact ⟨_, .inl rfl, rfl⟩
    · exact ⟨_, .inr rfl, rfl⟩
  have hrest : TakesBefore F (operand g >>= fun shape ts =>
      suffixes g mode first ts.length shape ts) (ls₁ ++ ls₂) ls final := by
    refine TakesBefore.bind_before hoperand.before fun ts₁ ts₂ t rest h₁ h₂ ht => ?_
    refine hsuffixes first hfirst _ ?_ ts₁ ts₂ t rest h₁ h₂ ht
    rw [← h₁.length_eq, List.length_append]
    exact Nat.le_add_right _ _
  have hrun := hrest ts₁ ts₂ t rest h₁ h₂ ht
  rw [heq, ← hrule] at hrun
  rw [heq]
  exact hrun

/-- An operand with nothing behind it. -/
theorem takes_primary_operand (hF : ∀ t, F t → EndsOperand mode t) (h : Takes F (operand g) ls shape) :
    Takes F (primary g mode) ls shape := by
  rw [← List.append_nil ls]
  exact TakesBefore.takes (takesBefore_primary h fun _ _ m _ => (takes_suffixes_nil hF m).before_nil)

theorem takes_operand_name {n : String} : Takes F (operand g) [.name n] .name := by
  refine Yields.peek fun t ht => ?_
  obtain ⟨hkind, htext, -⟩ := ht
  simp only [hkind, htext, Lexeme.kind, Lexeme.text]
  exact Takes.bind_last takes_name (Takes.pure _)

theorem takes_operand_constant (hl : l.kind ∈ [.integer, .number, .string]) :
    Takes F (operand g) [l] .value := by
  refine Yields.peek fun t ht => ?_
  have htake : Takes F (token (fun _ => true) *> (pure .value : Parser Shape)) [l] .value :=
    Takes.of_token fun t rest _ => rfl
  simp only [List.mem_cons, List.not_mem_nil, or_false] at hl
  rcases hl with hl | hl | hl <;>
    · simp only [ht.1, hl]
      exact htake

/-- A qualified name is a primary expression. -/
theorem takes_primary_qualified (hF : ∀ t, F t → EndsOperand mode t) {package n : String} :
    Takes F (primary g mode) [.name package, .sign ".", .name n] .qualified := by
  refine TakesBefore.takes (takesBefore_primary takes_operand_name fun first _ m hm => ?_)
  obtain ⟨m, rfl⟩ := Nat.exists_eq_add_of_le' (Nat.one_le_of_lt hm)
  have hdot : Takes (Leads F ([] ++ [])) (suffix g mode .name first) [.sign ".", .name n]
      .qualified := takes_suffix_select (by simp)
  exact takesBefore_suffixes_cons hdot (by simp) (takes_suffixes_nil hF m).before_nil

/-- A name with type arguments is a primary expression. -/
theorem Reads.takes_primary_generic (hg : Reads g n) (hF : ∀ t, F t → EndsOperand mode t)
    {base : TypeExpr} {arguments : List TypeExpr} {items : List (List Lexeme)}
    (hbase : base.isPlainName) (hne : arguments ≠ [])
    (h : List.Forall₂ TypeExpr.Row arguments items)
    (hn : (inBrackets (separated (.sign ",") items)).length ≤ n) :
    Takes F (primary g mode) (base.lexemes ++ inBrackets (separated (.sign ",") items))
      .generic := by
  have hitem : ∀ item ∈ items, item.length ≤ n := by
    intro item hitem
    have hle := Lexeme.length_add_two_le hitem
    omega
  have hbrackets {shape : Shape} (hshape : shape = .name ∨ shape = .qualified)
      (first : Parser Unit) (m : Nat) :
      TakesBefore F (suffixes g mode first (m + 1) shape)
        (inBrackets (separated (.sign ",") items)) [] .generic := by
    rw [← List.append_nil (inBrackets _)]
    exact takesBefore_suffixes_cons (hg.takes_suffix_brackets hshape hne h hitem)
      (by simp [inBrackets]) (takes_suffixes_nil hF m).before_nil
  cases base with
  | name n =>
    refine TakesBefore.takes (takesBefore_primary takes_operand_name fun first _ m hm => ?_)
    obtain ⟨m, rfl⟩ := Nat.exists_eq_add_of_le' (Nat.one_le_of_lt hm)
    exact hbrackets (.inl rfl) first m
  | qualified package n =>
    simp only [TypeExpr.lexemes, List.cons_append]
    refine TakesBefore.takes (takesBefore_primary takes_operand_name fun first _ m hm => ?_)
    obtain ⟨m, rfl⟩ := Nat.exists_eq_add_of_le' (Nat.one_le_of_lt hm)
    obtain ⟨m, rfl⟩ := Nat.exists_eq_add_of_le' (Nat.one_le_of_lt (Nat.le_of_succ_le_succ hm))
    exact takesBefore_suffixes_cons (takes_suffix_select (by simp)) (by simp)
      (hbrackets (.inr rfl) _ m)
  | _ => simp [TypeExpr.isPlainName] at hbase

/-- May the body of a literal stand behind the type that the lexeme begins? -/
def Lexeme.opensLiteral (l : Lexeme) : Bool :=
  (l.kind == .sign && l.text == "[") || (l.kind == .keyword && l.text == "map") ||
    (l.kind == .keyword && l.text == "struct")

/-- A type that a keyword or a bracket begins is read as a type, which may turn out to be bare. -/
theorem Reads.takes_typeOperand (hg : Reads g n) (h : e.Row ls) (hn : ls.length ≤ n) :
    Takes (EndsType false) (typeOperand g) ls (.bareType (ls.head?.any Lexeme.opensLiteral)) := by
  obtain ⟨l, behind, rfl, -⟩ := h.exists_cons
  exact Passes.bind passes_atSign_lead <| Passes.bind passes_atKeyword_lead <|
    Passes.bind passes_atKeyword_lead <| Takes.bind_pure (Takes.discard (hg.type false h hn))

theorem takes_operand_keyword {k : String} (hk : k ∈ lexemeKeywords) (hne : k ≠ "func")
    (h : Takes F (typeOperand g) (.keyword k hk :: ls) shape) :
    Takes F (operand g) (.keyword k hk :: ls) shape := by
  refine Yields.peek fun t ht => ?_
  obtain ⟨hkind, htext, -⟩ := ht
  simp only [hkind, htext, Lexeme.kind, Lexeme.text]
  exact h

/-- A function type is an operand when no body follows. -/
theorem Reads.takes_functionOperand (hg : Reads g n) {f : FunctionExpr} (h : f.Row ls)
    (hn : ls.length ≤ n) :
    Takes EndsTerm (functionOperand g) (.keyword "func" :: ls) (.bareType false) := by
  have hsignature : Takes EndsTerm (signature g false) ls f :=
    (hg.takes_signature h hn).mono fun t ht => ht.endsType
  refine Takes.bind (takes_keyword (by decide)) (Takes.bind_last (Takes.discard hsignature) ?_)
  refine Passes.bind (passes_atSign_false fun t ht => ?_) (Takes.pure _)
  have hends : EndsOperand .inner t := EndsTerm.endsOperand ht
  exact hends rfl _ (by simp [operandSigns])

/-- A type with nothing in front that an expression has a meaning for of its own. -/
def TypeExpr.isCore : TypeExpr → Bool
  | .pointer _ | .channel .receive _ => false
  | _                                => true

theorem takes_operand_bracket (hdots : ∀ t, Leads F ls t → ¬ t.IsSign "...")
    (h : Takes F (typeOperand g) (.sign "[" :: ls) shape) :
    Takes F (operand g) (.sign "[" :: ls) shape := by
  have hcounted : Refuses F (countedArray g) (.sign "[" :: ls) :=
    Takes.bind (takes_sign (by decide)) (Refuses.bind (refuses_sign hdots))
  refine Yields.peek fun t ht => ?_
  obtain ⟨hkind, htext, -⟩ := ht
  simp only [hkind, htext, Lexeme.kind, Lexeme.text]
  exact hcounted.orElse h

/-- A type without a name in front is an operand. -/
theorem Reads.takes_operand (hg : Reads g n) (h : e.Row ls) (hn : ls.length ≤ n)
    (hnamed : e.isNamed = false) (hcore : e.isCore) :
    ∃ literal, Takes EndsTerm (operand g) ls (.bareType literal) := by
  have htype : Takes EndsTerm (typeOperand g) ls (.bareType (ls.head?.any Lexeme.opensLiteral)) :=
    (hg.takes_typeOperand h hn).mono fun t ht => ht.endsType
  -- the first token chooses the rule
  cases h with
  | slice h => exact ⟨_, takes_operand_bracket (fun t ht => ht.isSign.not_isSign (by decide)) htype⟩
  | @array length elem ls hlength h =>
    simp only [inBrackets, List.cons_append, List.append_assoc] at htype ⊢
    exact ⟨_, takes_operand_bracket (fun t ht => LengthExpr.not_isSign_of_leads hlength ht) htype⟩
  | function h =>
    refine ⟨false, Yields.peek fun t ht => ?_⟩
    obtain ⟨hkind, htext, -⟩ := ht
    simp only [hkind, htext, Lexeme.kind, Lexeme.text]
    rw [List.length_cons] at hn
    exact hg.takes_functionOperand h (by omega)
  | name | qualified | generic => simp [TypeExpr.isNamed] at hnamed
  | pointer | receive => simp [TypeExpr.isCore] at hcore
  | _ => exact ⟨_, takes_operand_keyword _ (by decide) htype⟩

/-! ### Whole expressions -/

/-- Stars and arrows make a value of a name, and leave a bare type one without a body. -/
def shapeBehind (signs : List Lexeme) : Shape → Shape
  | .bareType literal => .bareType (signs.isEmpty && literal)
  | shape             => if signs.isEmpty then shape else .value

theorem shapeBehind_nil (shape : Shape) : shapeBehind [] shape = shape := by
  cases shape <;> rfl

/-- Stars and arrows. -/
def areTypeSigns (signs : List Lexeme) : Prop :=
  ∀ l ∈ signs, l.kind = .sign ∧ (l.text = "*" ∨ l.text = "<-")

/-- Unary signs are read as long as they follow. -/
theorem takes_signs {signs : List Lexeme}
    (hsigns : ∀ l ∈ signs, l.kind = .sign ∧ l.text ∈ unarySigns)
    (hlead : ∀ t, F t → t.kind = .sign → t.text ∉ unarySigns) :
    Takes F (many (signOf unarySigns)) signs (signs.map Lexeme.text) := by
  have hstop : Refuses F (signOf unarySigns) [] := refuses_signOf hlead
  have hitems : List.Forall₂ (fun item text =>
      Takes (fun _ => True) (signOf unarySigns) item text)
      (signs.map ([·])) (signs.map Lexeme.text) := by
    rw [List.forall₂_map_left_iff, List.forall₂_map_right_iff, List.forall₂_same]
    exact fun l hl => takes_signOf (hsigns l hl).1 (hsigns l hl).2
  simpa [← List.flatMap_def] using takes_many hitems (by simp) (fun _ _ _ _ => trivial)
    (fun _ _ => trivial) hstop

/-- A primary expression behind unary signs takes the shape they give it. -/
theorem takes_unary {signs : List Lexeme} (hsigns : areTypeSigns signs)
    (hlead : ∀ t, Leads F ls t → t.kind = .sign → t.text ∉ unarySigns)
    (h : Takes F (primary g mode) ls shape) :
    Takes F (unary g mode) (signs ++ ls) (shapeBehind signs shape) := by
  have hmany := takes_signs (F := Leads F ls) (fun l hl => ⟨(hsigns l hl).1, by
    rcases (hsigns l hl).2 with h | h <;> simp [h, unarySigns]⟩) hlead
  have hall : (signs.map Lexeme.text).all fun s => s == "*" || s == "<-" := by
    simpa using fun l hl => (hsigns l hl).2
  refine Takes.bind hmany (Takes.bind_last h ?_)
  cases signs with
  | nil => cases shape <;> exact Takes.pure _
  | cons l signs =>
    cases shape with
    | bareType literal =>
      simp only [hall]
      exact Takes.pure _
    | _ => exact Takes.pure _

/-- Operators in front of a value make a value. -/
theorem takes_unary_value {signs : List Lexeme}
    (hsigns : ∀ l ∈ signs, l.kind = .sign ∧ l.text ∈ unarySigns)
    (hlead : ∀ t, Leads F ls t → t.kind = .sign → t.text ∉ unarySigns)
    (h : Takes F (primary g mode) ls .value) : Takes F (unary g mode) (signs ++ ls) .value := by
  refine Takes.bind (takes_signs hsigns hlead) (Takes.bind_last h ?_)
  cases signs <;> exact Takes.pure _

/-- A token that goes on with no value, or that stands on the next line. -/
structure EndsValue (mode : Mode) (t : Token) : Prop where
  operand  : EndsOperand mode t
  operator : (mode.nl && t.newline) = false → t.kind = .sign → t.text ∉ binarySigns

theorem Token.IsSign.endsValue {t : Token} (h : t.IsSign s)
    (hs : s ∉ operandSigns ++ binarySigns) : EndsValue mode t := by
  obtain ⟨hoperand, hoperator⟩ := not_or.mp (mt List.mem_append.mpr hs)
  exact ⟨fun _ s' hs' hsign => hoperand (h.2 ▸ hsign.2 ▸ hs'), fun _ _ hmem => hoperator (h.2 ▸ hmem)⟩

theorem EndsItem.endsValue {t : Token} {closing : String} (h : EndsItem closing t)
    (hclosing : closing ∈ closings) : EndsValue mode t := by
  have hall : ∀ s ∈ "," :: closings, s ∉ operandSigns ++ binarySigns := by decide
  exact h.elim (·.endsValue (hall _ (List.mem_cons_self ..)))
    (·.endsValue (hall _ (List.mem_cons_of_mem _ hclosing)))

/-- No operator goes on with the value. -/
theorem refuses_operator (hF : ∀ t, F t → (mode.nl && t.newline) = false → t.kind = .sign →
    t.text ∉ binarySigns) :
    Refuses F (discard (unlessEnded mode.nl (signOf binarySigns))) [] :=
  have hrefuses : Refuses F (unlessEnded mode.nl (signOf binarySigns)) [] :=
    refuses_unlessEnded_of_lead fun t rest ht hline =>
      have hsign : Refuses (· = t) (signOf binarySigns) [] :=
        refuses_signOf (by rintro _ rfl; exact hF _ ht hline)
      hsign [] t rest .nil rfl
  Yields.map hrefuses

/-- An expression without an operator. -/
theorem takes_exprStep (hF : ∀ t, F t → EndsValue mode t) (h : Takes F (unary g mode) ls shape) :
    Takes F (exprStep g mode) ls shape :=
  have hstop : Refuses F (discard (unlessEnded mode.nl (signOf binarySigns))) [] :=
    refuses_operator fun t ht => (hF t ht).operator
  Takes.bind_last h (Passes.bind hstop.bind.many (Takes.pure _))

/-- Two operands with an operator between them. -/
theorem takes_exprStep_binary (hs : s ∈ lexemeSigns) (hoperator : s ∈ binarySigns)
    {left right : Shape} (hleft : Takes (Token.Spells · (.sign s hs)) (unary g mode) ls₁ left)
    (hright : Takes F (unary g mode) ls₂ right) (hleftShape : ∀ literal, left ≠ .bareType literal)
    (hrightShape : ∀ literal, right ≠ .bareType literal)
    (hF : ∀ t, F t → (mode.nl && t.newline) = false → t.kind = .sign → t.text ∉ binarySigns) :
    Takes F (exprStep g mode) (ls₁ ++ .sign s hs :: ls₂) .value := by
  have hsign : Takes (Leads F ls₂) (signOf binarySigns) [.sign s hs] s := takes_signOf rfl hoperator
  have hitem : Takes F (do discard (unlessEnded mode.nl (signOf binarySigns)); unary g mode)
      (.sign s hs :: ls₂) right :=
    Takes.bind (Takes.discard hsign.unlessEnded) hright
  have hmany : TakesBefore F (many do
      discard (unlessEnded mode.nl (signOf binarySigns))
      unary g mode) [Lexeme.sign s hs :: ls₂].flatten [] [right] :=
    takesBefore_many (.cons hitem .nil) (by simp) (by simp) (fun t ht => ht)
      (refuses_operator hF).bind
  rw [List.flatten_cons, List.flatten_nil, List.append_nil] at hmany
  refine Takes.bind hleft (Takes.bind_last hmany.takes ?_)
  cases left with
  | bareType literal => exact absurd rfl (hleftShape literal)
  | _ => cases right with
    | bareType literal => exact absurd rfl (hrightShape literal)
    | _ => exact Takes.pure _

/-- A row of a type consists of stars and arrows and another type behind them. -/
theorem TypeExpr.Row.exists_core (h : e.Row ls) :
    ∃ (signs : List Lexeme) (core : TypeExpr) (behind : List Lexeme), ls = signs ++ behind ∧
      areTypeSigns signs ∧ core.Row behind ∧ core.isCore ∧ core.isNamed = e.isOperand := by
  obtain ⟨n, hn⟩ : ∃ n, ls.length = n := ⟨_, rfl⟩
  induction n generalizing e ls with
  | zero => exact absurd (List.length_eq_zero_iff.mp hn) h.ne_nil
  | succ n ih =>
    have halone (hcore : e.isCore) (hoperand : e.isNamed = e.isOperand) :
        ∃ (signs : List Lexeme) (core : TypeExpr) (behind : List Lexeme), ls = signs ++ behind ∧
          areTypeSigns signs ∧ core.Row behind ∧ core.isCore ∧ core.isNamed = e.isOperand :=
      ⟨[], e, ls, rfl, by simp [areTypeSigns], h, hcore, hoperand⟩
    cases h with
    | pointer h =>
      obtain ⟨signs, core, behind, rfl, hsigns, hcore⟩ := ih h (by simpa using hn)
      refine ⟨.sign "*" :: signs, core, behind, rfl, ?_, hcore⟩
      exact List.forall_mem_cons.mpr ⟨by simp [Lexeme.kind, Lexeme.text], hsigns⟩
    | receive h =>
      obtain ⟨core, hcore⟩ := h.exists_chan
      refine ⟨[.sign "<-"], core, _, rfl, by simp [areTypeSigns, Lexeme.kind, Lexeme.text], hcore, ?_⟩
      rcases hcore.cases_chan with ⟨k, elem, behind, rfl, -⟩ | ⟨k, elem, behind, rfl, -⟩ <;>
        exact ⟨rfl, rfl⟩
    | _ => exact halone rfl rfl

/-- A type that is read as a value begins with no unary sign. -/
theorem TypeExpr.Row.not_unary_of_leads (h : e.Row ls) (hcore : e.isCore) {t : Token}
    (ht : Leads F ls t) (hkind : t.kind = .sign) : t.text ∉ unarySigns := by
  obtain ⟨l, hl, hspells⟩ := Reads.head_of_leads h.ne_nil ht
  have hbracket (hsign : l = .sign "[") : t.text ∉ unarySigns := by
    simp [hspells.2.1, hsign, Lexeme.text, unarySigns]
  have hother (hl : l.kind ≠ .sign) : t.text ∉ unarySigns :=
    absurd (hspells.1.symm.trans hkind) hl
  cases h with
  | pointer | receive => simp [isCore] at hcore
  | slice => exact hbracket (by simpa using hl.symm)
  | array => exact hbracket (by simpa [inBrackets] using hl.symm)
  | generic hbase hne h =>
    obtain ⟨n, rest, heq, -⟩ := (TypeExpr.Row.generic hbase hne h).exists_name_cons rfl
    obtain rfl : Lexeme.name n = l := by simpa [heq] using hl
    exact hother (by simp [Lexeme.kind])
  | _ =>
    obtain rfl := Option.some.inj hl
    exact hother (by simp [Lexeme.kind])

/-- A type is a part of an expression, between brackets: a value where it is a name with stars, and
bare otherwise. -/
theorem Reads.exists_takes_unary (hg : Reads g n) (h : e.Row ls) (hn : ls.length ≤ n) :
    ∃ shape, Takes EndsTerm (unary g .inner) ls shape ∧
      ((∃ literal, shape = .bareType literal) ↔ e.isOperand = false) := by
  obtain ⟨signs, core, behind, rfl, hsigns, hrow, hcore, hoperand⟩ := h.exists_core
  rw [List.length_append] at hn
  have hF (t : Token) : EndsTerm t → EndsOperand .inner t := EndsTerm.endsOperand
  have hwith {shape : Shape} (hshape : Takes EndsTerm (primary g .inner) behind shape) :
      Takes EndsTerm (unary g .inner) (signs ++ behind) (shapeBehind signs shape) :=
    takes_unary hsigns (fun t ht => hrow.not_unary_of_leads hcore ht) hshape
  cases hnamed : core.isNamed with
  | true =>
    have hvalue {shape : Shape} (hshape : ∀ literal, shape ≠ .bareType literal) :
        (∃ literal, shapeBehind signs shape = .bareType literal) ↔ e.isOperand = false := by
      rw [← hoperand, hnamed]
      cases shape <;> cases signs <;> simp_all [shapeBehind]
    cases hrow with
    | name n => exact ⟨_, hwith (takes_primary_operand hF takes_operand_name), hvalue (by simp)⟩
    | qualified package n => exact ⟨_, hwith (takes_primary_qualified hF), hvalue (by simp)⟩
    | generic hbase hne harguments =>
      rw [List.length_append] at hn
      exact ⟨_, hwith (hg.takes_primary_generic hF hbase hne harguments (by omega)), hvalue (by simp)⟩
    | _ => simp [TypeExpr.isNamed, channels] at hnamed
  | false =>
    obtain ⟨literal, htakes⟩ := hg.takes_operand hrow (by omega) hnamed hcore
    exact ⟨_, hwith (takes_primary_operand hF htakes), by simp [shapeBehind, ← hoperand, hnamed]⟩

/-- Every type is read as an expression of some shape. -/
theorem Reads.exists_takes_exprStep (hg : Reads g n) (h : e.Row ls) (hn : ls.length ≤ n) :
    ∃ shape, Takes (EndsItem "]") (exprStep g .inner) ls shape := by
  obtain ⟨shape, htakes, -⟩ := hg.exists_takes_unary h hn
  exact ⟨shape, takes_exprStep (fun t ht => ht.endsValue (by decide)) (htakes.mono fun t ht => .inl ht)⟩

/-- The length of an array is a value, or a name. -/
theorem exists_takes_exprStep_length {length : LengthExpr} (h : length.isPrintable) :
    ∃ shape, (∀ literal, shape ≠ .bareType literal) ∧
      Takes (EndsItem "]") (exprStep g .inner) length.lexemes shape := by
  have hnone : areTypeSigns [] := by simp [areTypeSigns]
  have hF (t : Token) (ht : EndsItem "]" t) : EndsOperand .inner t := EndsTerm.endsOperand (.inl ht)
  have hexpr {shape : Shape} {ls : List Lexeme}
      (hlead : ∀ t, Leads (EndsItem "]") ls t → t.kind ≠ .sign)
      (h : Takes (EndsItem "]") (primary g .inner) ls shape) :
      Takes (EndsItem "]") (exprStep g .inner) ls shape := by
    have hunary := takes_unary hnone (fun t ht hkind => absurd hkind (hlead t ht)) h
    rw [shapeBehind_nil] at hunary
    exact takes_exprStep (fun t ht => ht.endsValue (by decide)) hunary
  cases length with
  | literal text =>
    exact ⟨.value, by simp, hexpr (fun t ht => by simp [ht.1, Lexeme.kind])
      (takes_primary_operand hF (takes_operand_constant (by simp [Lexeme.kind])))⟩
  | name n =>
    exact ⟨.name, by simp, hexpr (fun t ht => by simp [ht.1, Lexeme.kind])
      (takes_primary_operand hF takes_operand_name)⟩
  | qualified package n =>
    exact ⟨.qualified, by simp, hexpr (fun t ht => by simp [ht.1, Lexeme.kind])
      (takes_primary_qualified hF)⟩
  | other text => simp [LengthExpr.isPrintable] at h

end Rules

end GoMocks.GoSource
