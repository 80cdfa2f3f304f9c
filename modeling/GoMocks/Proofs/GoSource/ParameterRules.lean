import GoMocks.Proofs.GoSource.TypeRules

/-!
# Go source — the rules for functions read rows of types
-/

namespace GoMocks.GoSource

open GoSource.Parser GoSource.Grammar
open Lexeme (separated inParens inBrackets)

section Rules

variable {g : Grammar} {n : Nat} {F : Token → Prop} {nl : Bool} {e : TypeExpr} {ls : List Lexeme}

namespace Reads

/-! ### Single entries -/

theorem passes_atEntryEnd (hF : ∀ t, F t → EndsItem ")" t) : Passes F atEntryEnd [] () :=
  .of_lead fun t rest ht => by
    have htest : (t.kind == .sign && t.text == "," || t.kind == .sign && t.text == ")") = true := by
      simpa [EndsItem, Token.IsSign] using hF t ht
    exact congrFun (if_pos htest : ite _ (Pure.pure () : Parser Unit) failure = _) (t :: rest)

/-- No entry ends in the middle of a row. -/
theorem refuses_atEntryEnd
    (h : ∀ t, Leads F ls t → ¬ t.IsSign "," ∧ ¬ t.IsSign ")") : Refuses F atEntryEnd ls :=
  Passes.bind (passes_atSign_false fun t ht => (h t ht).1) <|
    Passes.bind (passes_atSign_false fun t ht => (h t ht).2) refuses_failure

/-- A name alone is an entry that may be a type or a parameter name. -/
theorem takes_paramEntry_bare {n : String} :
    Takes (EndsItem ")") (paramEntry g) [.name n] (.bare n) := by
  have hvariadic : Refuses (EndsItem ")") (variadicParam g) [.name n] := by
    refine Takes.bind_last (Takes.optional takes_name) (Refuses.bind (refuses_sign fun t ht => ?_))
    exact EndsItem.not_isSign ht (by decide) (by decide)
  have hbare : Takes (EndsItem ")") bareParam [.name n] (.bare n) :=
    Takes.bind_last takes_name (Passes.bind (passes_atEntryEnd fun t ht => ht) (Takes.pure _))
  exact hvariadic.orElse hbare.orElse

/-- A name and a type are a named parameter. -/
theorem takes_paramEntry_named (hg : Reads g n) {name : String} (h : e.Row ls)
    (hn : ls.length ≤ n) :
    Takes (EndsItem ")") (paramEntry g) (.name name :: ls) (.named name e) := by
  have hstart {t : Token} (ht : Leads (EndsItem ")") ls t) : StartsType t :=
    h.startsType_of_leads ht
  have hvariadic : Refuses (EndsItem ")") (variadicParam g) (.name name :: ls) := by
    refine Takes.bind (Takes.optional takes_name) (Refuses.bind (refuses_sign fun t ht => ?_))
    exact (hstart ht).not_isSign (by decide)
  have hbare : Refuses (EndsItem ")") bareParam (.name name :: ls) := by
    refine Takes.bind takes_name (Refuses.bind (refuses_atEntryEnd fun t ht => ?_))
    exact ⟨(hstart ht).not_isSign (by decide), (hstart ht).not_isSign (by decide)⟩
  have hnamed : Takes (EndsItem ")") (namedParam g) (.name name :: ls) (.named name e) := by
    refine Takes.bind takes_name (Takes.bind_last ((hg.type false h hn).mono fun t ht => ?_) ?_)
    · exact EndsItem.endsType ht (by decide)
    · exact Passes.bind (passes_atEntryEnd fun t ht => ht) (Takes.pure _)
  exact hvariadic.orElse (hbare.orElse hnamed.orElse)

/-- Dots before the type make a parameter variadic. -/
theorem takes_paramEntry_variadic (hg : Reads g n) (name : Option String) (h : e.Row ls)
    (hn : ls.length ≤ n) :
    Takes (EndsItem ")") (paramEntry g) (name.toList.map .name ++ .sign "..." :: ls)
      (.variadic name e) := by
  have htype : Takes (EndsItem ")") (g.type false) ls e :=
    (hg.type false h hn).mono fun t ht => ht.endsType (by decide)
  refine Takes.orElse ?_
  cases name with
  | none =>
    simp only [Option.toList_none, List.map_nil, List.nil_append]
    refine Passes.bind (Refuses.optional (refuses_name fun t ht => ?_)) ?_
    · simp [ht.1, Lexeme.kind]
    · exact Takes.bind (takes_sign _) (Takes.bind_pure htype)
  | some n =>
    refine Takes.bind (Takes.optional takes_name) (Takes.bind (takes_sign _) ?_)
    exact Takes.bind_pure htype

/-- A name is not the name of a parameter if what stands behind it is no type. -/
theorem refuses_namedParam {name : String}
    (htype : Refuses (EndsItem ")") (g.type false) ls) :
    Refuses (EndsItem ")") (namedParam g) (.name name :: ls) :=
  Takes.bind takes_name htype.bind

/-- A type that is no name is an unnamed parameter. -/
theorem takes_paramEntry_unnamed (hg : Reads g n) (h : e.Row ls) (hn : ls.length ≤ n)
    (hname : ∀ name, e ≠ .name name) :
    Takes (EndsItem ")") (paramEntry g) ls (.unnamed e) := by
  have htype : Takes (EndsItem ")") (ParamEntry.unnamed <$> g.type false) ls (.unnamed e) :=
    Yields.map ((hg.type false h hn).mono fun t ht => ht.endsType (by decide))
  -- the first name of the type is followed by a sign that ends no entry
  have hsplit (name : String) (behind : List Lexeme) (heq : ls = .name name :: behind)
      (hlead : ∀ t, Leads (EndsItem ")") behind t →
        ¬ t.IsSign "..." ∧ ¬ t.IsSign "," ∧ ¬ t.IsSign ")")
      (hrefuses : Refuses (EndsItem ")") (g.type false) behind) :
      Takes (EndsItem ")") (paramEntry g) ls (.unnamed e) := by
    rw [heq] at htype ⊢
    have hvariadic : Refuses (EndsItem ")") (variadicParam g) (.name name :: behind) :=
      Takes.bind (Takes.optional takes_name) (Refuses.bind (refuses_sign fun t ht => (hlead t ht).1))
    have hbare : Refuses (EndsItem ")") bareParam (.name name :: behind) :=
      Takes.bind takes_name (Refuses.bind (refuses_atEntryEnd fun t ht => (hlead t ht).2))
    exact hvariadic.orElse (hbare.orElse ((refuses_namedParam hrefuses).orElse htype))
  have hdot (name : String) (behind : List Lexeme) (heq : ls = .name name :: .sign "." :: behind) :
      Takes (EndsItem ")") (paramEntry g) ls (.unnamed e) := by
    refine hsplit name _ heq (fun t ht => ?_) (hg.noType false fun t ht => ?_)
    · exact ⟨ht.isSign.not_isSign (by decide), ht.isSign.not_isSign (by decide),
        ht.isSign.not_isSign (by decide)⟩
    · simp [NoType, ht.1, ht.2.1, Lexeme.kind, Lexeme.text]
  cases hnamed : e.isNamed with
  | false =>
    have hlead (t : Token) (ht : Leads (EndsItem ")") ls t) : t.kind ≠ .name := by
      rw [← List.append_nil ls] at ht
      exact h.not_name_of_leads hnamed ht
    have hvariadic : Refuses (EndsItem ")") (variadicParam g) ls := by
      refine Passes.bind (refuses_name hlead).optional (Refuses.bind (refuses_sign fun t ht => ?_))
      exact (h.startsType_of_leads ht).not_isSign (by decide)
    exact hvariadic.orElse <| (refuses_name hlead).bind.orElse <|
      (refuses_name hlead).bind.orElse htype
  | true =>
    cases h with
    | name n => exact absurd rfl (hname n)
    | qualified package n => exact hdot package _ rfl
    | @generic base arguments items hbase hne h =>
      cases base with
      | name n =>
        refine hsplit n _ rfl (fun t ht => ?_) (hg.noArray false h hne ?_)
        · exact ⟨ht.isSign.not_isSign (by decide), ht.isSign.not_isSign (by decide),
            ht.isSign.not_isSign (by decide)⟩
        · simp only [TypeExpr.lexemes, List.length_append, List.length_cons] at hn
          omega
      | qualified package n => exact hdot package _ rfl
      | _ => simp [TypeExpr.isPlainName] at hbase
    | _ => simp [TypeExpr.isNamed, channels] at hnamed

/-- Every entry of a list of parameters is read. -/
theorem takes_paramEntry (hg : Reads g n) {entry : ParamEntry} (h : entry.Row ls)
    (hn : ls.length ≤ n) : Takes (EndsItem ")") (paramEntry g) ls entry := by
  cases h with
  | bare n => exact takes_paramEntry_bare
  | named n h =>
    rw [List.length_cons] at hn
    exact hg.takes_paramEntry_named h (by omega)
  | unnamed h hname => exact hg.takes_paramEntry_unnamed h hn hname
  | variadic n h =>
    rw [List.length_append, List.length_cons] at hn
    exact hg.takes_paramEntry_variadic n h (by omega)

/-! ### Parameter lists -/

theorem takes_paramList (hg : Reads g n) {params : List ParamExpr} (h : ParamsRow params ls)
    (hn : ls.length ≤ n) : Takes F (paramList g) ls params := by
  obtain ⟨hitems⟩ := h
  have hclosing : Refuses (Token.Spells · (.sign ")")) (sign ",") [] :=
    refuses_sign fun t ht => ht.isSign.not_isSign (by decide)
  simp only [inParens, List.length_cons, List.length_append] at hn
  refine Takes.bind (takes_sign (by decide)) ?_
  cases hitems with
  | nil =>
    have hrefuses : Refuses F (paramEntry g) [.sign ")"] := by
      have hname : Refuses F name [.sign ")"] := refuses_name fun t ht => by simp [ht.1, Lexeme.kind]
      have htype : Refuses F (g.type false) [.sign ")"] :=
        hg.noType false fun t ht => (ht.isSign.endsType (by decide)).noType (Bool.false_and _)
      have hvariadic : Refuses F (variadicParam g) [.sign ")"] :=
        Passes.bind hname.optional <| Refuses.bind <| refuses_sign fun t ht =>
          ht.isSign.not_isSign (by decide)
      exact hvariadic.orElse (hname.bind.orElse (hname.bind.orElse (Yields.map htype)))
    refine Passes.bind (Refuses.optional hrefuses.bind) ?_
    refine Takes.bind_nil (Takes.discard hclosing.optional.takes) ?_
    exact Takes.bind_pure (takes_sign _)
  | @cons entry item entries items hitem hitems =>
    have hlength : (separated (.sign ",") (item :: items)).length ≤ n := by omega
    have hall := List.Forall₂.cons hitem hitems
    have hentries : List.Forall₂ (fun item entry => Takes (EndsItem ")") (paramEntry g) item entry)
        (item :: items) (entry :: entries) :=
      (forall₂_mem_right hall).flip.imp fun item entry hentry =>
        hg.takes_paramEntry hentry.1 ((Lexeme.length_le_separated hentry.2).trans hlength)
    refine Takes.bind (a := some (entry :: entries)) ?_ ?_
    · exact Takes.optional <| takes_sepBy1 hentries (by simp) (fun F => takes_sign _)
        (fun t ht => .inl ht.isSign) (fun t ht => .inr ht.isSign) hclosing
    · refine Takes.bind_nil (Takes.discard hclosing.optional.takes) ?_
      exact Takes.bind_pure (takes_sign _)

/-! ### Signatures -/

/-- A single result is read without parentheses, since no type begins with one. -/
theorem takes_results_bare (hg : Reads g n) (h : e.Row ls) (hn : ls.length ≤ n) :
    Takes (EndsType nl) (results g nl) ls [⟨[], e, false⟩] := by
  refine Passes.bind (passes_atSign_false fun t ht => ?_) (Takes.bind_pure (hg.type nl h hn))
  exact (h.startsType_of_leads ht).not_isSign (by decide)

theorem takes_results_list (hg : Reads g n) {params : List ParamExpr} (h : ParamsRow params ls)
    (hn : ls.length ≤ n) : Takes (EndsType nl) (results g nl) ls params := by
  have hlist : Takes (EndsType nl) (paramList g) ls params := hg.takes_paramList h hn
  obtain ⟨hitems⟩ := h
  exact Passes.bind (passes_atSign (by decide)) hlist

/-- Nothing stands behind the parameters, or it stands on the next line. -/
theorem refuses_results (hg : Reads g n) : Refuses (EndsType nl) (unlessEnded nl (results g nl)) [] := by
  rintro _ t rest ⟨⟩ ht
  cases hline : nl && t.newline with
  | true => exact congrFun (if_pos hline : ite _ (failure : Parser (List ParamExpr)) _ = _) (t :: rest)
  | false =>
    have hrefuses : Refuses (fun t => NoType t ∧ ¬ t.IsSign "(") (results g nl) [] :=
      Passes.bind (passes_atSign_false fun t ht => ht.2) (Refuses.bind (hg.noType nl fun t ht => ht.1))
    have hended : Refuses _ (unlessEnded nl (results g nl)) [] := hrefuses.unlessEnded
    exact hended [] t rest .nil ⟨ht.noType hline, ht.not_isSign (by decide)⟩

theorem takes_signature (hg : Reads g n) {f : FunctionExpr} (h : f.Row ls) (hn : ls.length ≤ n) :
    Takes (EndsType nl) (signature g nl) ls f := by
  cases h with
  | none h =>
    refine Takes.bind_last (hg.takes_paramList h hn) ?_
    exact Passes.bind hg.refuses_results.optional (Takes.pure _)
  | single h hresult =>
    rw [List.length_append] at hn
    refine Takes.bind (hg.takes_paramList h (by omega)) ?_
    exact Takes.bind_last (Takes.optional (Yields.unlessEnded_of_ne_nil
      (hg.takes_results_bare hresult (by omega)) hresult.ne_nil)) (Takes.pure _)
  | list h hresults =>
    rw [List.length_append] at hn
    have hlist : Takes (EndsType nl) (results g nl) _ _ := hg.takes_results_list hresults (by omega)
    obtain ⟨hitems⟩ := hresults
    refine Takes.bind (hg.takes_paramList h (by omega)) ?_
    exact Takes.bind_last (Takes.optional (Yields.unlessEnded hlist)) (Takes.pure _)

end Reads

end Rules

end GoMocks.GoSource
