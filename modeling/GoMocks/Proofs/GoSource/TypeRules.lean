import GoMocks.GoSource.Expressions
import GoMocks.Proofs.GoSource.Parsing
import GoMocks.Proofs.GoSource.Rows

/-!
# Go source — the rules for types read rows of types
-/

namespace GoMocks.GoSource

open GoSource.Parser GoSource.Grammar
open Lexeme (separated inParens inBrackets inBraces)

/-! ### What stands before and behind a type -/

/-- A token that a type begins with. -/
def StartsType (t : Token) : Prop :=
  t.newline = false ∧ (t.kind = .name ∨
    (t.kind = .keyword ∧ t.text ∈ ["chan", "func", "interface", "map", "struct"]) ∨
    (t.kind = .sign ∧ t.text ∈ ["*", "[", "<-"]))

/-- The signs that may stand behind a type. -/
def typeEnds : List String :=
  [",", ")", "]", "\x7d", ";", "|", "=", "\x7b"]

/-- A token that may stand behind a type; on the next line, where one ends the type, a name. -/
def EndsType (nl : Bool) (t : Token) : Prop :=
  t.kind = .eof ∨ t.kind = .string ∨ (t.kind = .sign ∧ t.text ∈ typeEnds) ∨
    (nl ∧ t.newline ∧ t.kind = .name)

/-- The signs that close something. -/
def closings : List String :=
  [")", "]", "\x7d"]

/-- A token that no type begins with. -/
def NoType (t : Token) : Prop :=
  t.kind ≠ .name ∧ t.kind ≠ .keyword ∧ (t.kind = .sign → t.text ∉ ["*", "(", "[", "<-", "~"])

/-- A comma, or what closes a list. -/
def EndsItem (closing : String) (t : Token) : Prop :=
  t.IsSign "," ∨ t.IsSign closing

section Leads

variable {t : Token} {s : String} {l : Lexeme} {nl : Bool}

theorem StartsType.not_isSign (h : StartsType t) (hs : s ∉ ["*", "[", "<-"]) : ¬ t.IsSign s := by
  rintro ⟨hkind, rfl⟩
  obtain ⟨-, h | ⟨h, -⟩ | ⟨-, h⟩⟩ := h
  · simp [hkind] at h
  · simp [hkind] at h
  · exact hs h

/-- Only the signs that end types end them. -/
theorem EndsType.not_isSign (h : EndsType nl t) (hs : s ∉ typeEnds) :
    ¬ t.IsSign s := by
  rintro ⟨hkind, rfl⟩
  obtain h | h | ⟨-, h⟩ | ⟨-, -, h⟩ := h
  · simp [hkind] at h
  · simp [hkind] at h
  · exact hs h
  · simp [hkind] at h

/-- Where the type does not end with the line, no other one begins behind it. -/
theorem EndsType.noType (h : EndsType nl t) (hline : (nl && t.newline) = false) : NoType t := by
  obtain h | h | ⟨hkind, h⟩ | ⟨hnl, hnewline, -⟩ := h
  · simp [NoType, h]
  · simp [NoType, h]
  · refine ⟨by simp [hkind], by simp [hkind], fun _ => ?_⟩
    simp only [typeEnds, List.mem_cons, List.not_mem_nil, or_false] at h
    rcases h with h | h | h | h | h | h | h | h <;> simp [h]
  · simp [hnl, hnewline] at hline

theorem Token.Spells.isSign {hs : s ∈ lexemeSigns} (h : t.Spells (.sign s hs)) : t.IsSign s :=
  ⟨h.1, h.2.1⟩

theorem Token.Spells.not_isSign (h : t.Spells l) (hl : ¬ (l.kind = .sign ∧ l.text = s)) :
    ¬ t.IsSign s :=
  fun ⟨hkind, htext⟩ => hl ⟨h.1.symm.trans hkind, h.2.1.symm.trans htext⟩

theorem Token.IsSign.not_isSign {s' : String} (h : t.IsSign s) (hs : s ≠ s') : ¬ t.IsSign s' :=
  fun h' => hs (h.2.symm.trans h'.2)

theorem Token.IsSign.endsType (h : t.IsSign s) (hs : s ∈ typeEnds) :
    EndsType nl t :=
  .inr (.inr (.inl ⟨h.1, h.2 ▸ hs⟩))

theorem EndsItem.endsType {closing : String} (h : EndsItem closing t)
    (hs : closing ∈ typeEnds) : EndsType nl t :=
  h.elim (·.endsType (by decide)) (·.endsType hs)

theorem EndsItem.not_isSign {closing : String} (h : EndsItem closing t) (hcomma : s ≠ ",")
    (hs : s ≠ closing) : ¬ t.IsSign s :=
  h.elim (·.not_isSign hcomma.symm) (·.not_isSign hs.symm)

/-- A token that spells the start of a type starts one. -/
theorem Lexeme.Starts.startsType {e : TypeExpr} (h : l.Starts e) (ht : t.Spells l) :
    StartsType t := by
  obtain ⟨hkind, htext, hnewline⟩ := ht
  refine ⟨hnewline, ?_⟩
  cases l <;> cases hc : e.isChannel <;> cases hb : e.isBracketed <;>
    simp_all [Lexeme.Starts, Lexeme.kind, Lexeme.text]

section

variable {e : TypeExpr} {F : Token → Prop} {ls behind : List Lexeme}

/-- The first token of a row spells the start of its type. -/
theorem TypeExpr.Row.exists_starts_of_leads (h : e.Row ls) (ht : Leads F (ls ++ behind) t) :
    ∃ l : Lexeme, l.Starts e ∧ t.Spells l := by
  obtain ⟨l, rest, rfl, hl⟩ := h.exists_cons
  exact ⟨l, hl, ht⟩

theorem TypeExpr.Row.startsType_of_leads_append (h : e.Row ls) (ht : Leads F (ls ++ behind) t) :
    StartsType t :=
  have ⟨_, hl, hspells⟩ := h.exists_starts_of_leads ht
  hl.startsType hspells

theorem TypeExpr.Row.startsType_of_leads (h : e.Row ls) (ht : Leads F ls t) : StartsType t :=
  have ht : Leads F (ls ++ []) t := by rwa [List.append_nil]
  h.startsType_of_leads_append ht

/-- The row of a type without brackets begins with no bracket. -/
theorem TypeExpr.Row.not_bracket_of_leads (h : e.Row ls) (hb : e.isBracketed = false)
    (ht : Leads F (ls ++ behind) t) : ¬ t.IsSign "[" := by
  obtain ⟨l, hl, hkind, htext, -⟩ := h.exists_starts_of_leads ht
  cases l <;> simp_all [Lexeme.Starts, Lexeme.kind, Lexeme.text, Token.IsSign]
  grind

/-- Types that are not named do not begin with a name. -/
theorem TypeExpr.Row.not_name_of_leads (h : e.Row ls) (hn : e.isNamed = false)
    (ht : Leads F (ls ++ behind) t) : t.kind ≠ .name := by
  obtain ⟨l, hl, hkind, -⟩ := h.exists_starts_of_leads ht
  cases l <;> simp_all [Lexeme.Starts, Lexeme.kind]

end

/-- A length begins with a name or an integer. -/
theorem LengthExpr.not_isSign_of_leads {length : LengthExpr} (h : length.isPrintable)
    {F : Token → Prop} {ls : List Lexeme} (ht : Leads F (length.lexemes ++ ls) t) :
    ¬ t.IsSign s := by
  cases length with
  | other text => simp [isPrintable] at h
  | _ => exact Token.Spells.not_isSign ht (by simp [Lexeme.kind])

end Leads

/-! ### Grammars that read types -/

/-- The rules of the grammar read rows of at most so many lexemes. -/
structure Reads (g : Grammar) (n : Nat) : Prop where
  type (nl : Bool) {e : TypeExpr} {ls : List Lexeme} (he : e.Row ls) (hn : ls.length ≤ n) :
    Takes (EndsType nl) (g.type nl) ls e
  parens {F : Token → Prop} (nl : Bool) {e : TypeExpr} {ls : List Lexeme} (he : e.Row ls)
    (hn : (inParens ls).length ≤ n) : Takes F (g.type nl) (inParens ls) e
  noType (nl : Bool) {F : Token → Prop} {ls : List Lexeme} (h : ∀ t, Leads F ls t → NoType t) :
    Refuses F (g.type nl) ls
  /-- In brackets, a type may be read as an expression. -/
  expr {e : TypeExpr} {ls : List Lexeme} (he : e.Row ls) (hn : ls.length < n) :
    ∃ shape, Takes (EndsItem "]") (g.expr .inner) ls shape
  length {length : LengthExpr} (h : length.isPrintable) (hn : 0 < n) :
    ∃ shape, (∀ literal, shape ≠ .bareType literal) ∧
      Takes (EndsItem "]") (g.expr .inner) length.lexemes shape
  /-- Type arguments are no array type, since no type stands behind them. -/
  noArray (nl : Bool) {arguments : List TypeExpr} {items : List (List Lexeme)}
    (h : List.Forall₂ TypeExpr.Row arguments items) (hne : arguments ≠ [])
    (hn : (inBrackets (separated (.sign ",") items)).length ≤ n) :
    Refuses (EndsItem ")") (g.type nl) (inBrackets (separated (.sign ",") items))
  /-- No expression begins with a closing bracket. -/
  noExpr {F : Token → Prop} {ls : List Lexeme} {s : String} (hs : s ∈ closings)
    (hmem : s ∈ lexemeSigns) : Refuses F (g.expr .inner) (.sign s hmem :: ls)
  /-- A type parameter is no length of an array, unless its constraint may be read as the rest of an
  expression. -/
  noLength {F : Token → Prop} (name : String) {terms : List UnionTerm} {items : List (List Lexeme)}
    (hne : terms ≠ []) (h : List.Forall₂ UnionTerm.Row terms items)
    (hn : (separated (.sign "|") items).length + 3 ≤ n)
    (hF : ∀ t, F t → EndsItem "]" t ∧ (areFactors terms → ¬ t.IsSign "]")) :
    Misses F (g.expr .inner) "]" (.name name :: separated (.sign "|") items)

section Rules

variable {g : Grammar} {n : Nat} {F : Token → Prop} {nl : Bool} {e : TypeExpr} {ls : List Lexeme}

theorem Lexeme.length_add_two_le {item : List Lexeme} {items : List (List Lexeme)}
    (h : item ∈ items) :
    item.length + 2 ≤ (inBrackets (separated (.sign ",") items)).length := by
  have hle := Lexeme.length_le_separated (s := .sign ",") h
  simp only [inBrackets, List.length_cons, List.length_append, List.length_nil]
  omega

namespace Reads

/-! ### Names -/

theorem takes_unionTerm (hg : Reads g n) {term : UnionTerm} (h : term.Row ls)
    (hn : ls.length ≤ n) : Takes (EndsType nl) (unionTerm g nl) ls term := by
  obtain ⟨tilde, h⟩ := h
  rw [List.length_append] at hn
  cases tilde with
  | true =>
    refine Passes.bind (passes_atSign (by decide)) (Takes.bind (takes_sign (by decide)) ?_)
    exact Takes.bind_pure (hg.type nl h (by omega))
  | false =>
    refine Passes.bind (passes_atSign_false fun t ht => ?_) (Takes.bind_pure (hg.type nl h ?_))
    · exact (h.startsType_of_leads ht).not_isSign (by decide)
    · exact (Nat.le_add_left ..).trans hn

theorem takes_typeTerms (hg : Reads g n) {terms : List UnionTerm} {items : List (List Lexeme)}
    (hne : terms ≠ []) (h : List.Forall₂ UnionTerm.Row terms items)
    (hn : (separated (.sign "|") items).length ≤ n)
    (hF : ∀ t, F t → EndsType nl t ∧ ¬ t.IsSign "|") :
    Takes F (typeTerms g nl) (separated (.sign "|") items) terms := by
  have hstop : Refuses F (sign "|") [] := refuses_sign fun t ht => (hF t ht).2
  refine takes_sepBy1 (G := EndsType nl) ?_ ?_
    (fun F => (takes_sign (by decide)).unlessEnded) (fun t ht => ht.isSign.endsType (by decide))
    (fun t ht => (hF t ht).1) hstop.unlessEnded
  · refine (forall₂_mem_right h).flip.imp fun item term hitem => ?_
    exact hg.takes_unionTerm hitem.1 ((Lexeme.length_le_separated hitem.2).trans hn)
  · rintro rfl
    cases h
    exact hne rfl

theorem takes_typeArguments (hg : Reads g n) {arguments : List TypeExpr}
    {items : List (List Lexeme)} (hne : arguments ≠ [])
    (h : List.Forall₂ TypeExpr.Row arguments items) (hn : ∀ item ∈ items, item.length ≤ n) :
    Takes F (typeArguments g) (inBrackets (separated (.sign ",") items)) arguments := by
  have hitem : ∀ a item, a.Row item → item.length ≤ n →
      Takes (EndsItem "]") (TypeExpr.ofTerms <$> typeTerms g false) item a := by
    intro a item ha hlength
    have hterms : Takes (EndsItem "]") (typeTerms g false) (separated (.sign "|") [item])
        [⟨false, a⟩] :=
      hg.takes_typeTerms (by simp) (.cons (.mk false ha) .nil) (by simpa using hlength) fun t ht =>
        ⟨ht.endsType (by decide), ht.not_isSign (by decide) (by decide)⟩
    rw [Lexeme.separated_singleton] at hterms
    exact hterms.map
  have hclosing : Refuses (Token.Spells · (.sign "]")) (sign ",") [] :=
    refuses_sign fun t ht => ht.isSign.not_isSign (by decide)
  refine Takes.bind (takes_sign (by decide)) (Takes.bind ?_ (Takes.bind_pure (takes_sign _)))
  rw [← List.append_nil (separated _ _)]
  refine Takes.seqLeft ?_ hclosing.optional.takes
  refine takes_sepBy1 (G := EndsItem "]") ?_ ?_ (fun F => takes_sign _)
    (fun t ht => .inl ht.isSign) (fun t ht => .inr ht.isSign) hclosing
  · exact (forall₂_mem_right h).flip.imp fun item a ha => hitem a item ha.1 (hn item ha.2)
  · rintro rfl
    cases h
    exact hne rfl

/-- Behind a name, only a dot and brackets are part of the type. -/
theorem takes_typeName (hg : Reads g n) (he : e.isNamed) (h : e.Row ls)
    (hn : ls.length ≤ n + 1) (hdot : ∀ t, F t → ¬ t.IsSign ".")
    (hF : e.isPlainName → ∀ t, F t → ¬ t.IsSign "[") : Takes F (typeName g nl) ls e := by
  have hselected (ls : List Lexeme) (h : ∀ t, Leads F ls t → ¬ t.IsSign ".") :
      Passes F (optional (selected nl)) ls none :=
    (Refuses.seqRight (refuses_sign h)).unlessEnded.optional
  have hselect (ls : List Lexeme) (n : String) :
      Takes (Leads F ls) (optional (selected nl)) [.sign ".", .name n] (some n) :=
    Takes.optional (Yields.unlessEnded (Takes.seqRight (takes_sign (by decide)) takes_name))
  have hplain (h : ∀ t, F t → ¬ t.IsSign "[") :
      Passes F (optional (unlessEnded nl (typeArguments g))) [] none :=
    have hsign : Refuses F (sign "[") [] := refuses_sign h
    hsign.bind.unlessEnded.optional
  -- what follows the name is looked at twice: for a point, then for a bracket
  cases h with
  | name n =>
    refine Takes.bind_last takes_name (Passes.bind (hselected [] hdot) (Yields.pure_bind ?_))
    exact Passes.bind (hplain (hF rfl)) (Takes.pure _)
  | qualified package n =>
    refine Takes.bind takes_name (Takes.bind_last (hselect [] n) (Yields.pure_bind ?_))
    exact Passes.bind (hplain (hF rfl)) (Takes.pure _)
  | @generic base arguments items hbase hne h =>
    rw [List.length_append] at hn
    have hitem : ∀ item ∈ items, item.length ≤ n := by
      intro item hitem
      have hle := Lexeme.length_add_two_le hitem
      omega
    have hbrackets : Takes F (optional (unlessEnded nl (typeArguments g)))
        (inBrackets (separated (.sign ",") items)) (some arguments) :=
      Takes.optional (hg.takes_typeArguments hne h hitem).unlessEnded
    cases base with
    | name n =>
      refine Takes.bind takes_name (Passes.bind (hselected _ fun t ht => ?_) ?_)
      · exact ht.isSign.not_isSign (by decide)
      · exact Yields.pure_bind (Takes.bind_last hbrackets (Takes.pure _))
    | qualified package n =>
      simp only [TypeExpr.lexemes, List.cons_append]
      refine Takes.bind takes_name (Takes.bind (hselect _ n) (Yields.pure_bind ?_))
      exact Takes.bind_last hbrackets (Takes.pure _)
    | _ => simp [TypeExpr.isPlainName] at hbase
  | _ => simp [TypeExpr.isNamed, channels] at he

/-! ### Type constructors -/

/-- An expression that is no bare type is a value. -/
theorem takes_value {mode : Mode} {shape : Shape} {ls : List Lexeme}
    (h : Takes F (g.expr mode) ls shape) (hshape : ∀ literal, shape ≠ .bareType literal) :
    Takes F (g.value mode) ls shape := by
  refine Takes.bind_last h ?_
  cases shape with
  | bareType literal => exact absurd rfl (hshape literal)
  | _ => exact Takes.pure _

/-- The length of an array is that of its tokens. -/
theorem lengthOf_eq {length : LengthExpr} (h : length.isPrintable) {ts : List Token}
    (hts : List.Forall₂ Token.Spells ts length.lexemes) : lengthOf ts = length := by
  cases length with
  | literal text =>
    obtain ⟨t, _, ⟨hkind, htext, -⟩, ⟨⟩, rfl⟩ := List.forall₂_cons_right_iff.mp hts
    simp [lengthOf, hkind, htext, Lexeme.kind, Lexeme.text]
  | name n =>
    obtain ⟨t, _, ⟨hkind, htext, -⟩, ⟨⟩, rfl⟩ := List.forall₂_cons_right_iff.mp hts
    simp_all [lengthOf, LengthExpr.isPrintable, literalNames, Lexeme.kind, Lexeme.text]
  | qualified package n =>
    obtain ⟨a, _, ⟨hakind, hatext, -⟩, h₁, rfl⟩ := List.forall₂_cons_right_iff.mp hts
    obtain ⟨dot, _, ⟨-, hdot, -⟩, h₂, rfl⟩ := List.forall₂_cons_right_iff.mp h₁
    obtain ⟨b, _, ⟨hbkind, hbtext, -⟩, ⟨⟩, rfl⟩ := List.forall₂_cons_right_iff.mp h₂
    simp_all [lengthOf, LengthExpr.isPrintable, literalNames, Lexeme.kind, Lexeme.text]
  | other text => simp [LengthExpr.isPrintable] at h

theorem takes_sliceType (hg : Reads g n) (h : e.Row ls) (hn : ls.length ≤ n) :
    Takes (EndsType nl) (bracketType g nl) (.sign "[" :: .sign "]" :: ls) (.slice e) := by
  refine Takes.bind (takes_sign (by decide)) (Passes.bind (passes_atSign (by decide)) ?_)
  exact Takes.bind (takes_sign (by decide)) (Takes.bind_pure (hg.type nl h hn))

/-- An array is read. -/
theorem takes_arrayType (hg : Reads g n) {length : LengthExpr} (hlength : length.isPrintable)
    (h : e.Row ls) (hn : ls.length < n) :
    Takes (EndsType nl) (bracketType g nl) (inBrackets length.lexemes ++ ls) (.array length e) := by
  obtain ⟨shape, hshape, hexpr⟩ := hg.length hlength (Nat.zero_lt_of_lt hn)
  simp only [inBrackets, List.cons_append, List.append_assoc]
  refine Takes.bind (takes_sign (by decide)) (Passes.bind (passes_atSign_false fun t ht => ?_) ?_)
  · exact LengthExpr.not_isSign_of_leads hlength ht
  refine Takes.spanned (a := shape) ((takes_value hexpr hshape).mono ?_) fun ts hts => ?_
  · exact fun t ht => .inr ht.isSign
  · dsimp only
    rw [lengthOf_eq hlength hts]
    exact Takes.bind (takes_sign (by decide)) (Takes.bind_pure (hg.type nl h (by omega)))

theorem takes_mapType (hg : Reads g n) {key value : TypeExpr} {ks vs : List Lexeme}
    (hkey : key.Row ks) (hvalue : value.Row vs) (hn : ks.length + vs.length ≤ n) :
    Takes (EndsType nl) (mapType g nl) (.keyword "map" :: (inBrackets ks ++ vs))
      (.map key value) := by
  have htype := (hg.type false hkey (by omega)).mono
    (F := Leads (EndsType nl) (.sign "]" :: vs)) fun t ht => ht.isSign.endsType (by decide)
  simp only [inBrackets, List.cons_append, List.append_assoc]
  refine Takes.bind (takes_keyword (by decide)) (Takes.bind (takes_sign (by decide)) ?_)
  refine Takes.bind htype (Takes.bind (takes_sign (by decide)) ?_)
  exact Takes.bind_pure (hg.type nl hvalue (by omega))

/-! ### Channels -/

/-- The element of a channel, in parentheses or not. -/
theorem takes_element (hg : Reads g n) (h : e.ElementRow ls) (hn : ls.length ≤ n) :
    Takes (EndsType nl) (g.type nl) ls e := by
  cases h with
  | bare h   => exact hg.type nl h hn
  | parens h => exact hg.parens nl h hn

/-- What is known of the first lexeme is known of the token that leads. -/
theorem head_of_leads (hne : ls ≠ []) {t : Token} (ht : Leads F ls t) :
    ∃ l ∈ ls.head?, t.Spells l := by
  obtain ⟨l, behind, rfl⟩ := List.exists_cons_of_ne_nil hne
  exact ⟨l, rfl, ht⟩

/-- Nested channels that receive are counted. -/
theorem takesBefore_channelPairs (k : Nat) (hstop : Refuses F (arrow *> keyword "chan") ls) :
    TakesBefore F (many (arrow *> keyword "chan")) (channelPairs k) ls (.replicate k ⟨⟩) := by
  have hpair : Takes (fun _ => True) (arrow *> keyword "chan") (channelStart .receive) ⟨⟩ :=
    Takes.seqRight (takes_sign _) (takes_keyword _)
  refine takesBefore_many (G := fun _ => True) ?_ ?_ (by simp) (by simp) hstop
  · exact List.forall₂_iff_get.mpr ⟨by simp, fun i _ _ => by simpa using hpair⟩
  · simp [channelStart]

/-- A channel of both directions is read. -/
theorem takes_channelType_both (hg : Reads g n) (k : Nat) (h : e.ElementRow ls)
    (hn : ls.length ≤ n) (harrow : ∀ l ∈ ls.head?, ¬ (l.kind = .sign ∧ l.text = "<-")) :
    Takes (EndsType nl) (channelType g nl) (.keyword "chan" :: (channelPairs k ++ ls))
      (.channel .both (channels .receive k e)) := by
  have hlead {t : Token} (ht : Leads (EndsType nl) ls t) : ¬ t.IsSign "<-" := by
    obtain ⟨l, hl, hspells⟩ := head_of_leads h.ne_nil ht
    exact hspells.not_isSign (harrow l hl)
  have hstop : Refuses (EndsType nl) (arrow *> keyword "chan") ls :=
    (refuses_sign fun t ht => hlead ht).seqRight
  refine Takes.bind (takes_keyword (by decide)) ((takesBefore_channelPairs k hstop).bind ?_)
  refine Passes.bind (passes_atSign_false fun t ht => hlead ht) ?_
  rw [List.length_replicate]
  exact Takes.bind_pure (hg.takes_element h hn)

/-- A sending channel is read. -/
theorem takes_channelType_send (hg : Reads g n) (k : Nat) (h : e.ElementRow ls)
    (hn : ls.length ≤ n) (hchan : ∀ l ∈ ls.head?, ¬ (l.kind = .keyword ∧ l.text = "chan")) :
    Takes (EndsType nl) (channelType g nl)
      (.keyword "chan" :: (channelPairs k ++ .sign "<-" :: ls)) (channels .send (k + 1) e) := by
  have hstop : Refuses (EndsType nl) (arrow *> keyword "chan") (.sign "<-" :: ls) := by
    refine Takes.seqRight (takes_sign _) (refuses_keyword fun t ht => ?_)
    obtain ⟨l, hl, hkind, htext, -⟩ := head_of_leads h.ne_nil ht
    rw [hkind, htext]
    exact hchan l hl
  refine Takes.bind (takes_keyword (by decide)) ((takesBefore_channelPairs k hstop).bind ?_)
  refine Passes.bind (passes_atSign _) (Takes.bind (takes_sign _) ?_)
  rw [List.length_replicate]
  exact Takes.bind_pure (hg.takes_element h hn)

/-- A receiving channel is read. -/
theorem takes_receiveType (hg : Reads g n) (h : e.ElementRow ls) (hn : ls.length ≤ n) :
    Takes (EndsType nl) (receiveType g nl) (.sign "<-" :: .keyword "chan" :: ls)
      (.channel .receive e) := by
  refine Takes.bind (takes_sign (by decide)) (Takes.bind (takes_keyword (by decide)) ?_)
  exact Takes.bind_pure (hg.takes_element h hn)

end Reads

end Rules

end GoMocks.GoSource
