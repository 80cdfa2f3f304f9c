import GoMocks.Proofs.GoSource.ParameterRules

/-!
# Go source — the rules for structs and interfaces read rows of types
-/

namespace GoMocks.GoSource

open GoSource.Parser GoSource.Grammar
open Lexeme (separated inParens inBrackets inBraces)

/-- What stands behind a member: a semicolon, the closing brace, or a name on the next line. -/
def EndsMember (t : Token) : Prop :=
  t.IsSign ";" ∨ t.IsSign "\x7d" ∨ (t.newline ∧ t.kind = .name)

section Leads

variable {t : Token} {s : String}

theorem EndsMember.endsType (h : EndsMember t) : EndsType true t := by
  obtain h | h | ⟨hnewline, hkind⟩ := h
  · exact h.endsType (by decide)
  · exact h.endsType (by decide)
  · exact .inr (.inr (.inr ⟨rfl, hnewline, hkind⟩))

theorem EndsMember.not_isSign (h : EndsMember t) (hs : s ∉ [";", "\x7d"]) : ¬ t.IsSign s := by
  simp only [List.mem_cons, List.not_mem_nil, or_false, not_or] at hs
  obtain h | h | ⟨-, hkind⟩ := h
  · exact h.not_isSign (Ne.symm hs.1)
  · exact h.not_isSign (Ne.symm hs.2)
  · exact fun hsign => by simp [hsign.1] at hkind

theorem EndsMember.kind_ne_string (h : EndsMember t) : t.kind ≠ .string := by
  obtain h | h | ⟨-, hkind⟩ := h
  · simp [h.1]
  · simp [h.1]
  · simp [hkind]

theorem StartsType.kind_ne_string (h : StartsType t) : t.kind ≠ .string := by
  obtain ⟨-, h | ⟨h, -⟩ | ⟨h, -⟩⟩ := h <;> simp [h]

end Leads

section Rules

variable {g : Grammar} {n : Nat} {F : Token → Prop} {e : TypeExpr}
  {ls behind : List Lexeme}

/-! ### Parts of fields -/

/-- The end of a member is seen where one ends. -/
theorem passes_atMemberEnd : Passes EndsMember atMemberEnd [] () :=
  .of_lead fun t rest ht => by
    have htest : (t.newline || (t.kind == .sign && [";", "\x00", "\x7d"].contains t.text)) = true := by
      obtain ⟨hkind, htext⟩ | ⟨hkind, htext⟩ | ⟨hnewline, -⟩ := ht
      · simp [hkind, htext]
      · simp [hkind, htext]
      · simp [hnewline]
    exact congrFun (if_pos htest : ite _ (Pure.pure () : Parser Unit) failure = _) (t :: rest)

/-- No member ends in the middle of a row. -/
theorem refuses_atMemberEnd (h : ∀ t, Leads F ls t → t.newline = false ∧ ¬ t.IsSign ";" ∧
    ¬ t.IsSign "\x00" ∧ ¬ t.IsSign "\x7d") : Refuses F atMemberEnd ls :=
  .of_lead fun t rest ht => by
    have htest : (t.newline || (t.kind == .sign && [";", "\x00", "\x7d"].contains t.text)) = false := by
      have := h t ht
      simp_all [Token.IsSign]
    have hne := Bool.eq_false_iff.mp htest
    exact congrFun (if_neg hne : ite _ (Pure.pure () : Parser Unit) failure = _) (t :: rest)

theorem takes_tag {tag : Option String} (hF : ∀ t, F t → t.kind ≠ .string) :
    Takes F Grammar.tag (tag.toList.map .string) tag := by
  cases tag with
  | none =>
    have hrefuses : Refuses F stringLiteral [] := refuses_stringLiteral hF
    exact hrefuses.unlessEnded.optional.takes
  | some text => exact Takes.optional (Yields.unlessEnded takes_stringLiteral)

/-- Without a literal there is no tag. -/
theorem passes_tag (h : ∀ t, Leads F ls t → t.kind ≠ .string) : Passes F Grammar.tag ls none :=
  (refuses_stringLiteral h).unlessEnded.optional

/-- A tag, or what stands behind a member. -/
theorem leads_tag {tag : Option String} {t : Token}
    (ht : Leads EndsMember (tag.toList.map .string) t) : t.kind = .string ∨ EndsMember t := by
  cases tag with
  | none      => exact .inr ht
  | some text => exact .inl ht.1

theorem leads_tag_endsType {tag : Option String} {t : Token}
    (ht : Leads EndsMember (tag.toList.map .string) t) : EndsType true t :=
  (leads_tag ht).elim (fun h => .inr (.inl h)) (·.endsType)

theorem leads_tag_not_isSign {tag : Option String} {t : Token} {s : String}
    (ht : Leads EndsMember (tag.toList.map .string) t) (hs : s ∉ [";", "\x7d"]) : ¬ t.IsSign s :=
  (leads_tag ht).elim (fun h hsign => by simp [hsign.1] at h) (·.not_isSign hs)

namespace Reads

/-! ### Embedded fields -/

/-- An embedded field is read with its tag. -/
theorem takes_embeddedField (hg : Reads g n) {tag : Option String} (hembed : e.isEmbeddable)
    (h : e.Row ls) (hn : ls.length ≤ n) :
    Takes EndsMember (embeddedField g) (ls ++ tag.toList.map .string) ⟨[], e, tag⟩ := by
  have hname {e : TypeExpr} {ls : List Lexeme} (he : e.isNamed) (h : e.Row ls)
      (hn : ls.length ≤ n) :
      Takes (Leads EndsMember (tag.toList.map .string)) (typeName g true) ls e :=
    hg.takes_typeName he h (by omega) (fun t ht => leads_tag_not_isSign ht (by decide))
      fun _ t ht => leads_tag_not_isSign ht (by decide)
  have hbehind (field : Option String → FieldExpr) :
      Takes EndsMember (do
        let tag ← Grammar.tag
        atMemberEnd
        return field tag) (tag.toList.map .string) (field tag) := by
    refine Takes.bind_last (takes_tag fun t ht => ?_) (Passes.bind passes_atMemberEnd (Takes.pure _))
    exact EndsMember.kind_ne_string ht
  cases hnamed : e.isNamed with
  | true =>
    refine Passes.bind (Refuses.optional (refuses_sign fun t ht => ?_)) ?_
    · obtain ⟨name, rest, heq, -⟩ := h.exists_name_cons hnamed
      rw [heq] at ht
      exact ht.not_isSign (by simp [Lexeme.kind])
    · exact Takes.bind (hname hnamed h hn) (hbehind _)
  | false =>
    cases h with
    | pointer h =>
      rw [List.length_cons] at hn
      rw [List.cons_append]
      refine Takes.bind (Takes.optional (takes_sign (by decide))) ?_
      exact Takes.bind (hname hembed h (by omega)) (hbehind _)
    | _ => simp_all [TypeExpr.isEmbeddable, TypeExpr.isNamed, channels]

/-! ### Fields with names -/

/-- A name is the type alone if what stands behind it is no part of one. -/
theorem yields_typeName_bind {β : Type} {k : TypeExpr → Parser β} {name : String}
    {next : Option β} (hdot : ∀ t, Leads F ls t → ¬ t.IsSign ".")
    (harguments : Refuses F (typeArguments g) ls) (hk : Yields F (k (.name name)) ls next) :
    Yields F (typeName g true >>= k) (.name name :: ls) next := by
  have hselected : Refuses F (selected true) ls := (refuses_sign hdot).seqRight.unlessEnded
  refine Yields.bind_assoc (Takes.bind takes_name ?_)
  refine Yields.bind_assoc (Passes.bind hselected.optional ?_)
  refine Yields.bind_assoc (Yields.pure_bind ?_)
  exact Yields.bind_assoc (Passes.bind harguments.unlessEnded.optional hk)

/-- What stands behind the type of an embedded field is neither a comma nor another type. -/
theorem refuses_tag_bind {β : Type} {k : Option String → Parser β}
    (hlead : ∀ t, Leads F ls t → t.Spells (.sign ",") ∨ StartsType t) :
    Refuses F (do
      let tag ← Grammar.tag
      atMemberEnd
      k tag) ls := by
  have hsign {t : Token} {s : String} (ht : Leads F ls t) (hs : s ∉ [",", "*", "[", "<-"]) :
      ¬ t.IsSign s := by
    rw [List.mem_cons, not_or] at hs
    exact (hlead t ht).elim (fun h => h.isSign.not_isSign (Ne.symm hs.1)) (·.not_isSign hs.2)
  refine Passes.bind (passes_tag fun t ht => ?_) (Refuses.bind (refuses_atMemberEnd fun t ht => ?_))
  · exact (hlead t ht).elim (fun h => by simp [h.1, Lexeme.kind]) (·.kind_ne_string)
  · exact ⟨(hlead t ht).elim (·.2.2) (·.1), hsign ht (by decide), hsign ht (by decide),
      hsign ht (by decide)⟩

/-- A name with more names or a type behind it is no embedded field. -/
theorem refuses_embeddedField {name : String}
    (hlead : ∀ t, Leads F ls t → t.Spells (.sign ",") ∨ StartsType t)
    (harguments : Refuses F (typeArguments g) ls) :
    Refuses F (embeddedField g) (.name name :: ls) := by
  refine Passes.bind (Refuses.optional (refuses_sign fun t ht => ?_)) ?_
  · exact ht.not_isSign (by simp [Lexeme.kind])
  · refine yields_typeName_bind (fun t ht => ?_) harguments (refuses_tag_bind hlead)
    exact (hlead t ht).elim (·.isSign.not_isSign (by decide)) (·.not_isSign (by decide))

/-- The length of an array may be read as the type argument of the name before it. -/
theorem refuses_embeddedField_array (hg : Reads g n) {name : String} {length : TypeExpr}
    (hlength : length.Row ls) (hn : ls.length + 3 ≤ n)
    (hlead : ∀ t, Leads F behind t → StartsType t) :
    Refuses F (embeddedField g) (.name name :: (inBrackets ls ++ behind)) := by
  have hname : Takes (Leads F behind) (typeName g true) (.name name :: inBrackets ls)
      (.generic (.name name) [length]) := by
    have hrow : (TypeExpr.generic (.name name) [length]).Row
        ((TypeExpr.name name).lexemes ++ inBrackets (separated (.sign ",") [ls])) :=
      .generic rfl (by simp) (.cons hlength .nil)
    rw [Lexeme.separated_singleton] at hrow
    refine hg.takes_typeName rfl hrow ?_ (fun t ht => (hlead t ht).not_isSign (by decide)) ?_
    · simp [inBrackets]
      omega
    · simp [TypeExpr.isPlainName]
  refine Passes.bind (Refuses.optional (refuses_sign fun t ht => ?_)) ?_
  · exact ht.not_isSign (by simp [Lexeme.kind])
  · exact Takes.bind hname (refuses_tag_bind fun t ht => .inr (hlead t ht))

/-- The names of a field, its type and its tag are read. -/
theorem takes_namedField (hg : Reads g n) {name : String} {more : List String}
    {tag : Option String} (h : e.Row ls) (hn : ls.length ≤ n) :
    Takes EndsMember (namedField g)
      (.name name :: ((more.map fun n => [.sign ",", .name n]).flatten ++
        (ls ++ tag.toList.map .string)))
      ⟨name :: more, e, tag⟩ := by
  have hmore : Takes (Leads EndsMember (ls ++ tag.toList.map .string))
      (many (unlessEnded true (sign ",") *> Parser.name))
      (more.map fun n => [.sign ",", .name n]).flatten more := by
    have hstop : Refuses (Leads EndsMember (ls ++ tag.toList.map .string)) (sign ",") [] :=
      refuses_sign fun t ht => (h.startsType_of_leads_append ht).not_isSign (by decide)
    refine takes_many (G := fun _ => True) ?_ (by simp) (fun _ _ _ _ => trivial)
      (fun _ _ => trivial) hstop.unlessEnded.seqRight
    rw [List.forall₂_map_left_iff, List.forall₂_same]
    exact fun n _ => Takes.seqRight (Yields.unlessEnded (takes_sign (by decide))) takes_name
  have htype : Takes (Leads EndsMember (tag.toList.map .string))
      (unlessEnded more.isEmpty (g.type true)) ls e :=
    Yields.unlessEnded_of_ne_nil ((hg.type true h hn).mono fun t ht => leads_tag_endsType ht)
      h.ne_nil
  refine Takes.bind takes_name (Takes.bind hmore (Takes.bind htype ?_))
  refine Takes.bind_pure (takes_tag fun t ht => ?_)
  exact EndsMember.kind_ne_string ht

/-- No type arguments stand between these brackets. -/
theorem refuses_typeArguments (hg : Reads g n) (h : ∀ t, Leads F ls t → NoType t) :
    Refuses F (typeArguments g) (.sign "[" :: ls) := by
  have hterm : Refuses F (unionTerm g false) ls := by
    refine Passes.bind (passes_atSign_false fun t ht hsign => ?_) (hg.noType false h).bind
    exact (h t ht).2.2 hsign.1 (by simp [hsign.2])
  have hitem : Refuses F (TypeExpr.ofTerms <$> typeTerms g false) ls := Yields.map hterm.bind
  exact Takes.bind (takes_sign (by decide)) (Refuses.bind (Refuses.seqLeft hitem.bind))

/-- A field with names is not read as an embedded one. -/
theorem refuses_embeddedField_named (hg : Reads g n) {name : String} {more : List String}
    (h : e.Row ls) (hn : ls.length + 1 ≤ n) :
    Refuses F (embeddedField g) (.name name ::
      ((more.map fun n => [.sign ",", .name n]).flatten ++ (ls ++ behind))) := by
  have hbracket {ls : List Lexeme} (hlead : ∀ t, Leads F ls t → ¬ t.IsSign "[") :
      Refuses F (typeArguments g) ls :=
    Refuses.bind (refuses_sign hlead)
  cases more with
  -- a comma follows, which no embedded field has
  | cons second more =>
    exact refuses_embeddedField (fun t ht => .inl ht) <|
      hbracket fun t ht => ht.isSign.not_isSign (by decide)
  | nil =>
    have hstart (t : Token) (ht : Leads F (ls ++ behind) t) : StartsType t :=
      h.startsType_of_leads_append ht
    have hrefuses (harguments : Refuses F (typeArguments g) (ls ++ behind)) :
        Refuses F (embeddedField g) (.name name :: (ls ++ behind)) :=
      refuses_embeddedField (fun t ht => .inr (hstart t ht)) harguments
    -- only a type in brackets can be taken for type arguments of the name
    cases hb : e.isBracketed with
    | false => exact hrefuses (hbracket fun t ht => h.not_bracket_of_leads hb ht)
    | true =>
      cases h with
      | slice h =>
        -- `[]` holds no type
        refine hrefuses (hg.refuses_typeArguments fun t ht => ?_)
        exact (ht.isSign.endsType (by decide)).noType (Bool.false_and _)
      | @array length elem ls hlength h =>
        have hstart' (t : Token) (ht : Leads F (ls ++ behind) t) : StartsType t :=
          h.startsType_of_leads_append ht
        have hne := List.length_pos_iff.mpr h.ne_nil
        simp only [List.length_append, inBrackets, List.length_cons] at hn
        rw [List.append_assoc]
        cases length with
        | literal text =>
          refine hrefuses (hg.refuses_typeArguments fun t ht => ?_)
          simp [NoType, ht.1, Lexeme.kind]
        -- the length reads as a type argument; the element type behind the bracket ends no field
        | name n =>
          exact hg.refuses_embeddedField_array (.name n)
            (by simp [LengthExpr.lexemes] at hn ⊢; omega) hstart'
        | qualified package n =>
          exact hg.refuses_embeddedField_array (.qualified package n)
            (by simp [LengthExpr.lexemes] at hn ⊢; omega) hstart'
        | other text => simp [LengthExpr.isPrintable] at hlength
      | _ => simp [TypeExpr.isBracketed, channels] at hb

theorem takes_field (hg : Reads g n) {f : FieldExpr} (h : f.Row ls) (hn : ls.length ≤ n) :
    Takes EndsMember (embeddedField g <|> namedField g) ls f := by
  cases h with
  | embedded tag hembed h =>
    rw [List.length_append] at hn
    exact (hg.takes_embeddedField hembed h (by omega)).orElse
  | named name more tag h =>
    simp only [List.length_cons, List.length_append] at hn
    exact Refuses.orElse (hg.refuses_embeddedField_named h (by omega))
      (hg.takes_namedField h (by omega))

/-- No member begins with the closing brace. -/
theorem refuses_name_closing : Refuses F Parser.name [.sign "\x7d"] :=
  refuses_name fun t ht => by simp [ht.1, Lexeme.kind]

theorem takes_structType (hg : Reads g n) {fields : List FieldExpr} {items : List (List Lexeme)}
    (h : List.Forall₂ FieldExpr.Row fields items)
    (hn : (separated (.sign ";") items).length ≤ n) :
    Takes F (structType g) (.keyword "struct" :: inBraces (separated (.sign ";") items))
      (.struct fields) := by
  have hfields : List.Forall₂ (fun item f =>
      Takes EndsMember (embeddedField g <|> namedField g) item f) items fields :=
    (forall₂_mem_right h).flip.imp fun item f hf =>
      hg.takes_field hf.1 ((Lexeme.length_le_separated hf.2).trans hn)
  have hstar : Refuses F (sign "*") [.sign "\x7d"] :=
    refuses_sign fun t ht => ht.isSign.not_isSign (by decide)
  have hembedded : Refuses F (embeddedField g) [.sign "\x7d"] :=
    Passes.bind hstar.optional (Refuses.bind refuses_name_closing.bind)
  refine Takes.bind (takes_keyword (by decide)) (Takes.bind_pure ?_)
  exact takes_members hfields (fun t ht => ht.imp (·.isSign) fun h => .inl h.isSign)
    (hembedded.orElse refuses_name_closing.bind)

/-! ### Interfaces -/

/-- A method of an interface is read with its signature. -/
theorem takes_methodElem (hg : Reads g n) {name : String} {signature : FunctionExpr}
    (h : signature.Row ls) (hn : ls.length ≤ n) :
    Takes EndsMember (methodElem g) (.name name :: ls) (.method name signature) := by
  have hsignature : Takes EndsMember (Grammar.signature g true) ls signature :=
    (hg.takes_signature h hn).mono fun t ht => ht.endsType
  obtain ⟨behind, rfl⟩ := h.exists_parens
  refine Takes.bind takes_name (Passes.bind (passes_atSign (by decide)) ?_)
  exact Takes.bind_pure (Yields.unlessEnded hsignature)

/-- A type or a term is no method, since no parenthesis stands behind its first name. -/
theorem refuses_methodElem {terms : List UnionTerm} {items : List (List Lexeme)} (hne : terms ≠ [])
    (h : List.Forall₂ UnionTerm.Row terms items) :
    Refuses EndsMember (methodElem g) (separated (.sign "|") items) := by
  cases h with
  | nil => exact absurd rfl hne
  | @cons term item terms items hterm _ =>
    rw [Lexeme.separated_cons]
    obtain ⟨tilde, h⟩ := hterm
    cases tilde with
    | true => exact Refuses.bind (refuses_name fun t ht => by simp [ht.1, Lexeme.kind])
    | false =>
      simp only [Bool.false_eq_true, if_false, List.nil_append]
      cases hnamed : TypeExpr.isNamed _ with
      | false => exact Refuses.bind (refuses_name fun t ht => h.not_name_of_leads hnamed ht)
      | true =>
        obtain ⟨n, rest, heq, hrest⟩ := h.exists_name_cons hnamed
        simp only [heq, List.cons_append]
        refine Takes.bind takes_name
          (Passes.bind (passes_atSign_false fun t ht => ?_) refuses_failure.bind)
        rcases hrest with rfl | ⟨s, hs, rest, rfl, hmem⟩
        · cases items with
          | nil => exact EndsMember.not_isSign ht (by decide)
          | cons item items => exact ht.isSign.not_isSign (by decide)
        · refine ht.isSign.not_isSign ?_
          rintro rfl
          simp at hmem

theorem takes_elem (hg : Reads g n) {elem : InterfaceElem} (h : elem.Row ls)
    (hn : ls.length ≤ n) :
    Takes EndsMember (methodElem g <|> .embed <$> typeTerms g true) ls elem := by
  cases h with
  | method name h =>
    rw [List.length_cons] at hn
    exact (hg.takes_methodElem h (by omega)).orElse
  | embed hne h =>
    refine Refuses.orElse (refuses_methodElem hne h) (Takes.map ?_)
    exact hg.takes_typeTerms hne h hn fun t ht => ⟨ht.endsType, ht.not_isSign (by decide)⟩

theorem takes_interfaceType (hg : Reads g n) {elems : List InterfaceElem}
    {items : List (List Lexeme)} (h : List.Forall₂ InterfaceElem.Row elems items)
    (hn : (separated (.sign ";") items).length ≤ n) :
    Takes F (interfaceType g) (.keyword "interface" :: inBraces (separated (.sign ";") items))
      (.interface elems) := by
  have helems : List.Forall₂ (fun item e =>
      Takes EndsMember (methodElem g <|> .embed <$> typeTerms g true) item e) items elems :=
    (forall₂_mem_right h).flip.imp fun item e he =>
      hg.takes_elem he.1 ((Lexeme.length_le_separated he.2).trans hn)
  have hterm : Refuses F (unionTerm g true) [.sign "\x7d"] := by
    refine Passes.bind (passes_atSign_false fun t ht => ht.isSign.not_isSign (by decide)) ?_
    exact (hg.noType true fun t ht => by simp [NoType, ht.1, ht.2.1, Lexeme.kind, Lexeme.text]).bind
  refine Takes.bind (takes_keyword (by decide)) (Takes.bind_pure ?_)
  exact takes_members helems (fun t ht => ht.imp (·.isSign) fun h => .inl h.isSign)
    (refuses_name_closing.bind.orElse (Yields.map hterm.bind))

end Reads

end Rules

end GoMocks.GoSource
