import GoMocks.Proofs.GoSource.Items

/-!
# Go source — blocks of type declarations

Types that are declared together stand between parentheses, each on a line of its own. A struct goes
on over more lines.

* `TypeParamsRow`: the lexemes that are read as type parameters; `mayBeLength`: those that may be read
  as the length of an array.
* `FrontReads`: what stands between a name and a type is read, whatever the type is. Type parameters
  are (`Reads.frontReads_typeParams`), and so is a length (`Reads.frontReads_length`).
* `readsItem_types`: a block that declares a struct and other types is read as declaring these.
-/

namespace GoMocks.GoSource

open GoSource.Parser GoSource.Grammar
open Lexeme (separated inParens inBrackets inBraces)

/-! ### Type parameters -/

/-- The lexemes are read as type parameters in brackets, if there are any. -/
inductive TypeParamsRow : List TypeParamSpec → List Lexeme → Prop
  | none : TypeParamsRow [] []
  | brackets {params : List TypeParamSpec} {items : List (List Lexeme)} (hne : params ≠ [])
      (h : List.Forall₂ TypeParamSpec.Row params items) :
      TypeParamsRow params (inBrackets (separated (.sign ",") items))

/-- Behind a name, is the constraint the rest of an expression? -/
def TypeExpr.continuesName : TypeExpr → Bool
  | .union terms => areFactors terms
  | e            => e.isFactor

/-- May the brackets around the type parameters hold the length of an array? -/
def mayBeLength : List TypeParamSpec → Bool
  | [p] => p.constraint.continuesName
  | _   => false

/-- Terms are factors when the type they make continues a name. -/
theorem areFactors_eq {terms : List UnionTerm} {items : List (List Lexeme)}
    (h : List.Forall₂ UnionTerm.Row terms items) :
    areFactors terms = (TypeExpr.ofTerms terms).continuesName := by
  rcases terms with _ | ⟨⟨tilde, e⟩, _ | ⟨next, terms⟩⟩
  · rfl
  · cases tilde with
    | true => rfl
    | false =>
      obtain ⟨ls, _, ⟨hrow⟩, ⟨⟩, rfl⟩ := List.forall₂_cons_left_iff.mp h
      have hunion : ∀ terms, e ≠ .union terms := by
        rintro terms rfl
        rename_i hrow
        cases hrow
      cases e with
      | union terms => exact absurd rfl (hunion terms)
      | _ => simp [areFactors, TypeExpr.ofTerms, TypeExpr.continuesName]
  · cases tilde <;> rfl

/-! ### Declarations -/

section Spec

variable {g : Grammar} {n : Nat} {Q : TypeExpr → TypeSpec → Prop} {params : List TypeParamSpec}
  {ps : List Lexeme} {start first : Token} {ts rest final : List Token} {e : TypeExpr}

/-- Type parameters are no type, unless they may be the length of an array. -/
theorem Reads.refuses_typeBody_typeParams {F : Token → Prop} (hg : Reads g n)
    {items : List (List Lexeme)} (hne : params ≠ []) (h : List.Forall₂ TypeParamSpec.Row params items)
    (hn : (inBrackets (separated (.sign ",") items)).length ≤ n)
    (hlength : mayBeLength params = false) :
    Refuses F (typeBody (Grammar.step g)) (inBrackets (separated (.sign ",") items)) := by
  cases h with
  | nil => exact absurd rfl hne
  | @cons param item params items hparam hmore =>
    cases hparam with
    | @mk terms row name hterms hrow =>
      have hsize : (Lexeme.name name :: separated (.sign "|") row).length + 2 ≤ n :=
        (Lexeme.length_add_two_le (List.mem_cons_self ..)).trans hn
      have hsingle : areFactors terms → items ≠ [] := by
        rintro hfactors rfl
        cases hmore
        rw [mayBeLength, ← areFactors_eq hrow, hfactors] at hlength
        cases hlength
      have hrefuses : Refuses F (typeStep g true) (inBrackets (separated (.sign ",")
          ((.name name :: separated (.sign "|") row) :: items)) ++ []) :=
        hg.refuses_typeStep_typeParams hterms hrow (by rwa [List.length_cons] at hsize) hsingle
      rw [List.append_nil] at hrefuses
      exact yields_typeBody hrefuses (by simp [Lexeme.text])

/-- **A declaration is read with its type parameters**, unless they may be the length of an array. -/
theorem typeSpec_of_row (hg : Reads g n) (h : TypeParamsRow params ps) (hn : ps.length ≤ n)
    (hlength : mayBeLength params = false) (hstart : start.kind = .name)
    (hts : List.Forall₂ Token.Spells ts ps)
    (hbody : typeBody (Grammar.step g) (first :: rest) = some (e, final)) :
    typeSpec (Grammar.step g) (start :: (ts ++ first :: rest)) =
      some (⟨start.text, params, e, start.line⟩, final) := by
  cases h with
  | none =>
    cases hts
    exact typeSpec_plain hstart hbody
  | @brackets _ items hne h =>
    have hrefuses : Refuses (fun _ => True) (typeBody (Grammar.step g))
        (inBrackets (separated (.sign ",") items)) :=
      hg.refuses_typeBody_typeParams hne h hn hlength
    have hparams : Takes (fun _ => True) (typeParams (Grammar.step g))
        (inBrackets (separated (.sign ",") items)) params :=
      hg.step.takes_typeParams hne h (by
        simp only [inBrackets, List.length_cons, List.length_append] at hn
        omega)
    exact typeSpec_generic hstart (hrefuses ts first rest hts trivial)
      (hparams ts first rest hts trivial) hbody

/-! ### What stands in front of a declared type -/

/-- What stands between the name of a declared type and the type is read, whatever the type is. The
declaration comes out as `Q` says. -/
def FrontReads (g : Grammar) (ps : List Lexeme) (Q : TypeExpr → TypeSpec → Prop) : Prop :=
  ∀ (start : Token) (ts : List Token) (e : TypeExpr), start.kind = .name →
    List.Forall₂ Token.Spells ts ps → ∃ spec : TypeSpec, spec.name = start.text ∧ Q e spec ∧
      ∀ (first : Token) (rest final : List Token), ¬ first.IsSign "=" →
        (Grammar.step g).type true (first :: rest) = some (e, final) →
        (Grammar.step (Grammar.step g)).type true (first :: rest) = some (e, final) →
        typeSpec (Grammar.step (Grammar.step g)) (start :: (ts ++ first :: rest)) =
          some (spec, final)

theorem FrontReads.mono {Q' : TypeExpr → TypeSpec → Prop} (h : FrontReads g ps Q)
    (hQ : ∀ e spec, Q e spec → Q' e spec) : FrontReads g ps Q' := by
  intro start ts e hstart hts
  obtain ⟨spec, hname, hspec, hrun⟩ := h start ts e hstart hts
  exact ⟨spec, hname, hQ e spec hspec, hrun⟩

/-- Without a sign in front, the body of a declaration is a type. -/
theorem typeBody_of_type (hfirst : ¬ first.IsSign "=")
    (h : g.type true (first :: rest) = some (e, final)) :
    typeBody g (first :: rest) = some (e, final) := by
  have hequal : Passes (fun t => ¬ t.IsSign "=") (discard (optional (sign "="))) [] () :=
    by
    have hrefuses : Refuses (fun t => ¬ t.IsSign "=") (sign "=") [] := refuses_sign fun _ ht => ht
    exact hrefuses.optional.discard
  exact (bind_of_eq_some (hequal [] first rest .nil hfirst)).trans h

/-- Type parameters are read in front of all types, unless they may be the length of an array. -/
theorem Reads.frontReads_typeParams (hg : Reads g n) (h : TypeParamsRow params ps)
    (hn : ps.length ≤ n) (hlength : mayBeLength params = false) :
    FrontReads g ps fun e spec => spec.typeParams = params ∧ spec.type = e := by
  intro start ts e hstart hts
  refine ⟨⟨start.text, params, e, start.line⟩, rfl, ⟨rfl, rfl⟩,
    fun first rest final hfirst _ hbody => ?_⟩
  exact typeSpec_of_row hg.step h (by omega) hlength hstart hts (typeBody_of_type hfirst hbody)

/-- An array type, with an expression between its brackets. -/
theorem type_array {opening word close : Token} {inner : List Token} {shape : Shape}
    (hopening : opening.IsSign "[") (hword : ¬ word.IsSign "]")
    (hvalue : g.value .inner (word :: (inner ++ close :: rest)) = some (shape, close :: rest))
    (hclosing : close.IsSign "]") (h : g.type true rest = some (e, final)) :
    (Grammar.step g).type true (opening :: word :: (inner ++ close :: rest)) =
      some (.array (lengthOf (word :: inner)) e, final) := by
  have hlength : spanned (g.value .inner) (word :: (inner ++ close :: rest)) =
      some ((shape, word :: inner), close :: rest) := by
    -- the parser keeps the tokens of the length by counting what is left
    have htake : (word :: (inner ++ close :: rest)).take
        ((word :: (inner ++ close :: rest)).length - (close :: rest).length) = word :: inner := by
      rw [← List.cons_append, List.length_append, Nat.add_sub_cancel, List.take_left]
    simp only [spanned, hvalue, htake]
  have harray : (do return TypeExpr.array (lengthOf (word :: inner)) (← g.type true) :
      Parser TypeExpr) rest = some (.array (lengthOf (word :: inner)) e, final) :=
    congrArg (Option.bind · _) h
  have hslice : (word.kind == .sign && word.text == "]") = false := by
    simpa [Token.IsSign] using hword
  have hbrackets : bracketType g true (opening :: word :: (inner ++ close :: rest)) =
      some (.array (lengthOf (word :: inner)) e, final) := by
    refine (bind_of_eq_some (sign_of_isSign hopening)).trans ?_
    refine (bind_of_eq_some (congrArg (fun b => some (b, _)) hslice)).trans ?_
    refine (bind_of_eq_some hlength).trans ?_
    exact (bind_of_eq_some (sign_of_isSign hclosing)).trans harray
  obtain ⟨kind, text, gap, newline, comments, line⟩ := opening
  obtain ⟨rfl, rfl⟩ := hopening
  exact hbrackets

/-- A type parameter that may be the length of an array is one. -/
theorem Reads.frontReads_length (hg : Reads g n) (h : TypeParamsRow params ps)
    (hn : ps.length ≤ n) (hlength : mayBeLength params) :
    FrontReads g ps fun e spec => spec.typeParams = [] ∧ ∃ length, spec.type = .array length e := by
  intro start ts e hstart hts
  cases h with
  | none => cases hlength
  | @brackets _ items hne h =>
  cases h with
  | nil => exact absurd rfl hne
  | @cons param item params items hparam hmore =>
  cases hmore with
  | cons => cases hlength
  | nil =>
  obtain ⟨name, hterms, hrow⟩ := hparam
  rw [Lexeme.separated_singleton, inBrackets] at hts hn
  simp only [List.length_append, List.length_cons, List.cons_append] at hn hts
  obtain ⟨opening, _, hopening, hinner, rfl⟩ := List.forall₂_cons_right_iff.mp hts
  obtain ⟨word, _, hword, hbehind, rfl⟩ := List.forall₂_cons_right_iff.mp hinner
  obtain ⟨inner, _, rfl, hspells, hclose⟩ := exists_append_of_forall₂ hbehind
  obtain ⟨close, _, hclosing, ⟨⟩, rfl⟩ := List.forall₂_cons_right_iff.mp hclose
  -- `[K *int]` is read as a value first, and it is one when all terms are factors
  have hfactors : areFactors _ := (areFactors_eq hrow).trans hlength
  have hvalue : Takes _ ((Grammar.step g).value .inner) _ _ := takes_value
    (hg.takes_exprStep_factors name hrow (by omega) hfactors) (fun _ => by simp)
  refine ⟨⟨start.text, [], .array (lengthOf (word :: inner)) e, start.line⟩, rfl, ⟨rfl, _, rfl⟩,
    fun first rest final hfirst htype _ => ?_⟩
  have harray := type_array hopening.isSign (hword.not_isSign (by simp [Lexeme.kind]))
    (hvalue (word :: inner) close (first :: rest) (.cons hword hspells) (.inr hclosing.isSign))
    hclosing.isSign htype
  have hbody := typeBody_of_type (hopening.isSign.not_isSign (by decide)) harray
  simpa using typeSpec_plain hstart hbody

/-! ### Declarations on lines -/

theorem EndsLine.endsType {closing : String} {t : Token} (h : EndsLine (StartsMember closing) t)
    (hs : closing ∈ typeEnds) : EndsType true t := by
  obtain ⟨hnewline, hkind | hsign⟩ := h
  · exact .inr (.inr (.inr ⟨rfl, hnewline, hkind⟩))
  · exact hsign.endsType hs

/-- A declaration on a line of its own. -/
theorem lineItem_typeSpec (hg : Reads g n) (h : FrontReads g ps Q) {ls : List Lexeme}
    (he : e.Row ls) (hn : ls.length ≤ n) {name : String}
    (hts : SpellLine ts (.name name :: (ps ++ ls))) :
    ∃ spec : TypeSpec, spec.name = name ∧ Q e spec ∧
      LineItem (StartsMember ")") (typeSpec (Grammar.step (Grammar.step g))) ts spec := by
  cases hts with
  | @mk start ts _ _ hkind htext hnewline hts =>
  obtain rfl : start.text = name := htext
  obtain ⟨ts₁, ts₂, rfl, h₁, h₂⟩ := exists_append_of_forall₂ hts
  obtain ⟨spec, hname, hspec, hrun⟩ := h { start with newline := false } ts₁ e hkind h₁
  refine ⟨spec, hname, hspec, .mk (.inl hkind) hnewline fun next rest hnext => ?_⟩
  have htype {g' : Grammar} {m : Nat} (hg' : Reads g' m) (hm : ls.length ≤ m) :
      g'.type true (ts₂ ++ next :: rest) = some (e, next :: rest) :=
    hg'.type true he hm ts₂ next rest h₂ (hnext.endsType (by decide))
  have hlower := htype hg.step (by omega)
  have hupper := htype hg.step.step (by omega)
  obtain ⟨first, behind, heq, hlead⟩ := exists_lead h₂ hnext rest
  rw [heq] at hlower hupper
  rw [List.append_assoc, heq]
  rw [← List.append_nil ls] at hlead
  exact hrun first behind _ ((he.startsType_of_leads_append hlead).not_isSign (by decide))
    hlower hupper

/-- A field on a line of its own. -/
theorem lineItem_field (hg : Reads g n) {f : FieldExpr} {name : String} {ls : List Lexeme}
    (h : f.Row (.name name :: ls)) (hn : (Lexeme.name name :: ls).length ≤ n)
    (hts : SpellLine ts (.name name :: ls)) :
    LineItem (StartsMember "\x7d") (embeddedField g <|> namedField g) ts f := by
  cases hts with
  | @mk start ts _ _ hkind htext hnewline hts =>
  refine .mk (.inl hkind) hnewline fun next rest hnext => ?_
  have hmember : EndsMember next :=
    hnext.2.elim (fun hname => .inr (.inr ⟨hnext.1, hname⟩)) fun hsign => .inr (.inl hsign)
  exact hg.takes_field h hn ({ start with newline := false } :: ts) next rest
    (.cons ⟨hkind, htext, rfl⟩ hts) hmember

/-- A struct whose fields stand on lines of their own. -/
theorem type_struct (hg : Reads g n) {fields : List FieldExpr} {rows : List (List Lexeme)}
    {tss : List (List Token)} (h : List.Forall₂ FieldExpr.Row fields rows) (hne : rows ≠ [])
    (hnames : ∀ row ∈ rows, ∃ name ls, row = .name name :: ls) (hn : ∀ row ∈ rows, row.length ≤ n)
    (htss : List.Forall₂ SpellLine tss rows) {word opening close : Token}
    (hword : word.Spells (.keyword "struct")) (hopening : opening.Spells (.sign "\x7b"))
    (hnewline : close.newline = true) (hclosing : close.IsSign "\x7d") :
    (Grammar.step g).type true (word :: opening :: (tss.flatten ++ close :: rest)) =
      some (.struct fields, rest) := by
  -- one field to a line, by induction on the fields
  have hitems : List.Forall₂ (LineItem (StartsMember "\x7d") (embeddedField g <|> namedField g))
      tss fields := by
    clear hne
    induction h generalizing tss with
    | nil =>
      cases htss
      exact .nil
    | @cons f row fields rows hf _ ih =>
      obtain ⟨ts, more, hts, hmore, rfl⟩ := List.forall₂_cons_right_iff.mp htss
      obtain ⟨⟨name, ls, rfl⟩, hbehind⟩ := List.forall_mem_cons.mp hnames
      obtain ⟨hrow, hrows⟩ := List.forall_mem_cons.mp hn
      exact .cons (lineItem_field hg hf hrow hts) (ih hbehind hrows hmore)
  have hmembers : members "\x7b" "\x7d" (embeddedField g <|> namedField g)
      (opening :: (tss.flatten ++ close :: rest)) = some (fields, rest) := by
    refine members_lines hopening.isSign hitems ?_ (fun t ts ht => ?_) ⟨hnewline, .inr hclosing⟩ hclosing
      ?_
    · rintro rfl
      cases htss
      exact hne rfl
    · obtain ⟨kind, text, gap, newline, comments, line⟩ := t
      obtain rfl | ⟨rfl, rfl⟩ := ht <;> rfl
    · obtain ⟨kind, text, gap, newline, comments, line⟩ := close
      obtain ⟨rfl, rfl⟩ := hclosing
      rfl
  obtain ⟨kind, text, gap, newline, comments, line⟩ := word
  obtain ⟨rfl, rfl, rfl⟩ := hword
  exact congrArg (Option.bind · _) hmembers

/-- A struct, from the line with its name to its closing brace. -/
theorem lineItem_struct (hg : Reads g n) (h : FrontReads g ps Q) {fields : List FieldExpr}
    {rows : List (List Lexeme)} (hfields : List.Forall₂ FieldExpr.Row fields rows) (hne : rows ≠ [])
    (hnames : ∀ row ∈ rows, ∃ name ls, row = .name name :: ls) (hn : ∀ row ∈ rows, row.length ≤ n)
    {name : String} {tss : List (List Token)} {closing : List Token}
    (hts : SpellLine ts (.name name :: (ps ++ [.keyword "struct", .sign "\x7b"])))
    (htss : List.Forall₂ SpellLine tss rows) (hclosing : SpellLine closing [.sign "\x7d"]) :
    ∃ spec : TypeSpec, spec.name = name ∧ Q (.struct fields) spec ∧
      LineItem (StartsMember ")") (typeSpec (Grammar.step (Grammar.step g)))
        (ts ++ (tss.flatten ++ closing)) spec := by
  cases hts with
  | @mk start ts _ _ hkind htext hnewline hts =>
  cases hclosing with
  | @mk close _ _ _ hcloseKind hcloseText hcloseNewline hnil =>
  cases hnil
  obtain rfl : start.text = name := htext
  obtain ⟨ts₁, _, rfl, h₁, h₂⟩ := exists_append_of_forall₂ hts
  obtain ⟨word, _, hword, h₃, rfl⟩ := List.forall₂_cons_right_iff.mp h₂
  obtain ⟨opening, _, hopening, ⟨⟩, rfl⟩ := List.forall₂_cons_right_iff.mp h₃
  obtain ⟨spec, hname, hspec, hrun⟩ :=
    h { start with newline := false } ts₁ (.struct fields) hkind h₁
  refine ⟨spec, hname, hspec, .mk (.inl hkind) hnewline fun next rest hnext => ?_⟩
  have htype {g' : Grammar} {m : Nat} (hg' : Reads g' m) (hm : ∀ row ∈ rows, row.length ≤ m) :
      (Grammar.step g').type true (word :: opening :: (tss.flatten ++ close :: next :: rest)) =
        some (.struct fields, next :: rest) :=
    type_struct hg' hfields hne hnames hm htss hword hopening hcloseNewline ⟨hcloseKind, hcloseText⟩
  have hstruct := hrun word _ _ (hword.not_isSign (by simp [Lexeme.kind])) (htype hg hn)
    (htype hg.step fun row hrow => (hn row hrow).trans (Nat.le_succ n))
  simpa using hstruct

/-- Declarations on lines of their own. -/
theorem exists_lineItems (hg : Reads g n) (h : FrontReads g ps Q)
    {decls : List (String × TypeExpr)} {rows : List (List Lexeme)} {tss : List (List Token)}
    (hdecls : List.Forall₂ (fun d row => ∃ ls, d.2.Row ls ∧ row = .name d.1 :: (ps ++ ls)) decls rows)
    (hn : ∀ row ∈ rows, row.length ≤ n) (htss : List.Forall₂ SpellLine tss rows) :
    ∃ specs, List.Forall₂ (fun d (spec : TypeSpec) => spec.name = d.1 ∧ Q d.2 spec) decls specs ∧
      List.Forall₂ (LineItem (StartsMember ")") (typeSpec (Grammar.step (Grammar.step g))))
        tss specs := by
  induction hdecls generalizing tss with
  | nil =>
    cases htss
    exact ⟨[], .nil, .nil⟩
  | @cons d row decls rows hd _ ih =>
    obtain ⟨ls, hrow, rfl⟩ := hd
    obtain ⟨ts, more, hts, hmore, rfl⟩ := List.forall₂_cons_right_iff.mp htss
    obtain ⟨hlong, hlengths⟩ := List.forall_mem_cons.mp hn
    rw [List.length_cons, List.length_append] at hlong
    obtain ⟨spec, hname, hspec, hitem⟩ := lineItem_typeSpec hg h hrow (by omega) hts
    obtain ⟨specs, hspecs, hitems⟩ := ih hlengths hmore
    exact ⟨spec :: specs, .cons ⟨hname, hspec⟩ hspecs, .cons hitem hitems⟩

/-- Declarations between parentheses, on lines of their own. -/
theorem typeDeclaration_block {tss : List (List Token)} {specs : List TypeSpec}
    (h : List.Forall₂ (LineItem (StartsMember ")") (typeSpec g)) tss specs) (hne : tss ≠ [])
    {word opening close : Token} (hkind : word.kind = .keyword) (htext : word.text = "type")
    (hopening : opening.Spells (.sign "(")) (hnewline : close.newline = true)
    (hclosing : close.IsSign ")") :
    typeDeclaration g (word :: opening :: (tss.flatten ++ close :: rest)) = some (specs, rest) := by
  have hmembers : members "(" ")" (typeSpec g) (opening :: (tss.flatten ++ close :: rest)) =
      some (specs, rest) := by
    refine members_lines hopening.isSign h hne (fun t ts ht => ?_) ⟨hnewline, .inr hclosing⟩
      hclosing ?_
    · obtain ⟨kind, text, gap, newline, comments, line⟩ := t
      obtain rfl | ⟨rfl, rfl⟩ := ht <;> rfl
    · obtain ⟨kind, text, gap, newline, comments, line⟩ := close
      obtain ⟨rfl, rfl⟩ := hclosing
      rfl
  obtain ⟨kind, text, gap, newline, comments, line⟩ := word
  obtain ⟨rfl, rfl⟩ : kind = .keyword ∧ text = "type" := ⟨hkind, htext⟩
  obtain ⟨kind, text, gap, newline, comments, line⟩ := opening
  obtain ⟨rfl, rfl, rfl⟩ := hopening
  exact hmembers

end Spec

/-! ### Blocks -/

/-- **A block of declarations is read back.** A struct and other types that are declared in one block
are read, each as `Q` says that the front between its name and its type comes out. -/
theorem readsItem_types {ps : List Lexeme} {Q : TypeExpr → TypeSpec → Prop} (name : String)
    (hfront : ∀ g n, Reads g n → ps.length ≤ n → FrontReads g ps Q)
    {fields : List FieldExpr} {fieldRows : List (List Lexeme)}
    (hfields : List.Forall₂ FieldExpr.Row fields fieldRows) (hne : fieldRows ≠ [])
    (hnames : ∀ row ∈ fieldRows, ∃ name ls, row = .name name :: ls)
    {decls : List (String × TypeExpr)} {declRows : List (List Lexeme)}
    (hdecls : List.Forall₂ (fun d row => ∃ ls, d.2.Row ls ∧ row = .name d.1 :: (ps ++ ls)) decls
      declRows) :
    ReadsItem (typeBlockRows name ps fieldRows declRows) fun item => ∃ specs, item = .types specs ∧
      List.Forall₂ (fun d (spec : TypeSpec) => spec.name = d.1 ∧ Q d.2 spec)
        ((name, .struct fields) :: decls) specs where
  starts := by simp [typeBlockRows]
  reads d tss htss word ts hts hd := by
    have hlength : ∀ row ∈ typeBlockRows name ps fieldRows declRows, row.length ≤ ts.length + 1 := by
      intro row hrow
      have hle := length_le_of_mem_rows htss hrow
      rwa [hts] at hle
    -- the lines, one after the other
    obtain ⟨wordLine, _, hword, hlater, rfl⟩ := List.forall₂_cons_right_iff.mp htss
    obtain ⟨nameLine, _, hname, hbehind, rfl⟩ := List.forall₂_cons_right_iff.mp hlater
    obtain ⟨fieldLines, _, rfl, hfieldLines, hrest⟩ := exists_append_of_forall₂ hbehind
    obtain ⟨braceLine, _, hbrace, hdeclared, rfl⟩ := List.forall₂_cons_right_iff.mp hrest
    obtain ⟨declLines, _, rfl, hdeclLines, hlast⟩ := exists_append_of_forall₂ hdeclared
    obtain ⟨closeLine, _, hclose, ⟨⟩, rfl⟩ := List.forall₂_cons_right_iff.mp hlast
    cases hword with
    | @mk start _ _ _ hkind htext hline hspells =>
    obtain ⟨opening, _, hopening, ⟨⟩, rfl⟩ := List.forall₂_cons_right_iff.mp hspells
    cases hclose with
    | @mk close _ _ _ hcloseKind hcloseText hcloseLine hnil =>
    cases hnil
    obtain ⟨rfl, rfl⟩ := List.cons.inj hts
    obtain ⟨n, rfl, hn⟩ : ∃ n, d = n + 2 ∧
        ∀ row ∈ typeBlockRows name ps fieldRows declRows, row.length ≤ n :=
      ⟨d - 2, by omega, fun row hrow => (hlength row hrow).trans (by omega)⟩
    have hg := reads_nested n
    have hfirst := hn (.name name :: (ps ++ [.keyword "struct", .sign "\x7b"])) (by
      simp [typeBlockRows])
    rw [List.length_cons, List.length_append] at hfirst
    have hps := hfront (nested n) n hg (by omega)
    obtain ⟨spec, hspecName, hspec, hitem⟩ := lineItem_struct hg hps hfields hne hnames
      (fun row hmem => hn row (by simp [typeBlockRows, hmem])) hname hfieldLines hbrace
    obtain ⟨specs, hspecs, hitems⟩ := exists_lineItems hg hps hdecls
      (fun row hmem => hn row (by simp [typeBlockRows, hmem])) hdeclLines
    refine ⟨by simp [hkind, Lexeme.kind], .types (spec :: specs),
      ⟨_, rfl, .cons ⟨hspecName, hspec⟩ hspecs⟩, by simp, fun next rest _ => ?_⟩
    have hread : typeDeclaration (nested (n + 2)) ({ start with newline := false } :: opening ::
        (((nameLine ++ (fieldLines.flatten ++ braceLine)) :: declLines).flatten ++
          close :: next :: rest)) = some (spec :: specs, next :: rest) :=
      typeDeclaration_block (.cons hitem hitems) (by simp) hkind htext hopening hcloseLine
        ⟨hcloseKind, hcloseText⟩
    obtain ⟨kind, text, gap, newline, comments, line⟩ := start
    obtain ⟨rfl, rfl⟩ : kind = .keyword ∧ text = "type" := ⟨hkind, htext⟩
    have hitem (ts : List Token) :
        topLevel (nested (n + 2)) (⟨.keyword, "type", gap, false, comments, line⟩ :: ts) =
          (typeDeclaration (nested (n + 2)) (⟨.keyword, "type", gap, false, comments, line⟩ :: ts)).bind
            fun found => some (.types found.1, found.2) := rfl
    rw [hitem]
    simpa using congrArg (Option.bind · fun found => some (TopLevel.types found.1, found.2)) hread

end GoMocks.GoSource
