import GoMocks.Proofs.GoSource.TypeBlock
import GoMocks.Proofs.GoType.Rows
import GoMocks.Proofs.MockFile.Rendering
import GoMocks.Proofs.MockFile.Signatures
import GoMocks.Proofs.MockFile.TypeSets

/-!
# Mock files — their types, read back

The types that belong to a mock stand in one block of declarations: a struct, and the types of the
handlers. If the interface has type parameters, each of them has these in brackets behind its name.
Brackets behind a name may hold the length of an array too, and they do so wherever they can.

* `Interface.Writable`: interfaces that a source can hold.
* `Interface.looksLikeLength`: one type parameter alone, which is an expression with its constraint.
* `HandlerMock.hasLayout_signature`: the signature of a handler is laid out as one.
* `exists_typeParams`: type parameters are laid out as such, with the constraints that their texts
  are read as.
* `types_of_mockFile`: how the block is read.
-/

namespace GoMocks

open Resolver
open GoSource (TypeExpr TypeSpec TypeParamSpec FunctionExpr FieldExpr ParamEntry UnionTerm Lexeme
  SourceFile TypeParamsRow Lays HasLayout Stops LinesLaidOut)
open Template (Expr ofLines)

/-! ### Interfaces that a source can hold -/

/-- A source can hold the parameter or result: its name is an identifier, if it has one, and its
type is no type set. -/
def Value.Writable (v : Value) : Prop :=
  (v.name = "" ∨ isIdentifier v.name) ∧ v.type.Writable ∧ v.type.isUnion = false

instance (v : Value) : Decidable v.Writable :=
  inferInstanceAs (Decidable (_ ∧ _))

/-- A writable value has lexical parts. -/
theorem Value.Writable.lexical {v : Value} (h : v.Writable) : v.Lexical :=
  ⟨h.1, fun u hu => (h.2.1 u hu).lexical⟩

/-- A source can hold the interface: its names are identifiers, and a source can hold its
constraints and types. -/
structure Interface.Writable (i : Interface) : Prop where
  name       : isIdentifier i.name
  typeParams : ∀ p ∈ i.typeParams, isIdentifier p.name ∧ p.constraint.Writable
  methods    : ∀ m ∈ i.methods, isIdentifier m.name ∧
    ∀ v ∈ m.signature.params ++ m.signature.results, v.Writable

instance (i : Interface) : Decidable i.Writable :=
  decidable_of_iff (isIdentifier i.name ∧
      (∀ p ∈ i.typeParams, isIdentifier p.name ∧ p.constraint.Writable) ∧
      ∀ m ∈ i.methods, isIdentifier m.name ∧
        ∀ v ∈ m.signature.params ++ m.signature.results, v.Writable)
    ⟨fun ⟨hn, hp, hm⟩ => ⟨hn, hp, hm⟩, fun ⟨hn, hp, hm⟩ => ⟨hn, hp, hm⟩⟩

/-- Is the text between the brackets an expression? It is one for a type parameter alone, whose
constraint goes on behind the name. -/
def Interface.looksLikeLength (i : Interface) : Bool :=
  match i.typeParams with
  | [p] => p.constraint.continuesName
  | _   => false

/-! ### Constraints -/

/-- Embedded in an interface, the text is read as the constraint. -/
def ReadsConstraint (text : String) (constraint : TypeExpr) : Prop :=
  ∃ terms, constraint = .ofTerms terms ∧ ∀ path : Path,
    SourceFile.parse path ("package p\ntype X = " ++ braced "interface" [text] ++ "\n") =
      .ok (SourceFile.declaring path (.interface [.embed terms]))

/-- The terms of a constraint continue a name as the type does. -/
theorem continuesName_of_readAs {t : GoType} {terms : List UnionTerm}
    {items : List (List Lexeme)} (hterms : List.Forall₂ UnionTerm.Row terms items)
    (h : List.Forall₂ (fun (t : Term) term => term.tilde = t.tilde ∧ t.type.ReadAs term.type)
      t.terms terms) : (TypeExpr.ofTerms terms).continuesName = t.continuesName := by
  rw [← GoSource.areFactors_eq hterms, GoType.continuesName]
  generalize t.terms = ts at h
  cases h with
  | nil => rfl
  | cons hfirst hmore =>
    have hall : ∀ {ts : List Term} {terms : List UnionTerm},
        List.Forall₂ (fun (t : Term) term => term.tilde = t.tilde ∧ t.type.ReadAs term.type)
          ts terms →
        (terms.all fun term => !term.tilde && term.type.isOperand) =
          ts.all fun t => !t.tilde && t.type.isOperand := by
      intro ts terms h
      induction h with
      | nil => rfl
      | cons hterm _ ih => rw [List.all_cons, List.all_cons, ih, hterm.1, hterm.2.isOperand]
    simp only [GoSource.areFactors, hfirst.1, hfirst.2.isFactor, hall hmore]

/-- A constraint whose text is laid out as its terms. -/
theorem GoType.HasTerms.exists_typeParam {t : GoType} {x : String} (h : t.HasTerms x)
    {name : String} (hname : isIdentifier name) :
    ∃ (constraint : TypeExpr) (item : List Lexeme),
      TypeParamSpec.Row ⟨name, constraint⟩ item ∧ Lays (name ++ " " ++ x) item ∧
        ReadsConstraint x constraint ∧ constraint.continuesName = t.continuesName := by
  obtain ⟨terms, items, hne, hterms, hx, hread⟩ := h
  have hembed : TypeExpr.Row (.interface [.embed terms]) _ :=
    .interface (.cons (.embed hne hterms) .nil)
  have htext : Lays (braced "interface" [x]) _ := lays_braced (by decide) (.cons hx .nil)
  have hlaid := htext.laidOut [] [] (by simp) (.nil rfl)
  rw [List.append_nil, List.append_nil] at hlaid
  refine ⟨.ofTerms terms, _, .mk name hne hterms, ?_, ⟨terms, rfl, fun path => ?_⟩,
    continuesName_of_readAs hterms hread⟩
  · rw [String.append_assoc]
    exact (Lays.name hname).append_blank hx
  · exact SourceFile.parse_declaration path hembed htext.tokens hlaid

/-! ### Lines -/

/-- A text behind some blanks, on a line of its own. -/
theorem GoSource.LinesLaidOut.row_of_closes {x line : String} {ls : List Lexeme}
    {lines : List String} {rows : List (List Lexeme)} (hx : GoSource.Closes x ls) (hls : ls ≠ [])
    (gap : List Char) (hgap : gap.all GoSource.isLexemeGap) (hline : line.toList = gap ++ x.toList)
    (h : LinesLaidOut lines rows) : LinesLaidOut (line :: lines) (ls :: rows) := by
  have hlaid := (hx.laidOut [] [] (by simp) (.nil rfl)).gap_append hgap
  rw [List.append_nil, List.append_nil, ← hline] at hlaid
  cases ls with
  | nil => exact absurd rfl hls
  | cons l ls => exact .row hlaid hx.tokens h

/-- One line with a row, then the rows behind it. -/
theorem GoSource.LinesLaidOut.row_of_lays {x line : String} {ls : List Lexeme}
    {lines : List String} {rows : List (List Lexeme)} (hx : Lays x ls) (hls : ls ≠ [])
    (gap : List Char) (hgap : gap.all GoSource.isLexemeGap) (hline : line.toList = gap ++ x.toList)
    (h : LinesLaidOut lines rows) : LinesLaidOut (line :: lines) (ls :: rows) :=
  row_of_closes (.of_lays hx) hls gap hgap hline h

namespace MockFile

variable {σ : Type} {symbols : Symbols σ} {goesBy : String → String → Prop} {r : Resolver σ}
  {i : Interface} {m : Method} {mock : MockMethod} {typeParams typeArgs : String}
  {taken params results : List String}

/-! ### Signatures -/

/-- Where each name with its type is laid out as an entry, so are the names that share a type. -/
theorem hasLayout_of_mem_namedParts {values : List (String × String)}
    (h : ∀ v ∈ values, isIdentifier v.1 ∧ HasLayout ParamEntry.Row (v.1 ++ " " ++ v.2)) :
    ∀ x ∈ namedParts values, HasLayout ParamEntry.Row x := by
  induction values using namedParts.induct with
  | case1 => simp [namedParts]
  | case2 name type => simpa [namedParts] using (h _ (List.mem_singleton_self _)).2
  | case3 name type next nextType rest ih =>
    obtain ⟨⟨hname, hentry⟩, hrest⟩ := List.forall_mem_cons.mp h
    rw [namedParts]
    refine List.forall_mem_cons.mpr ⟨?_, ih hrest⟩
    split
    · exact .entry_name hname
    · exact hentry

/-- Named values in parentheses are laid out as parameters. -/
theorem hasLayout_joinNamed {values : List (String × String)}
    (h : ∀ v ∈ values, isIdentifier v.1 ∧ HasLayout ParamEntry.Row (v.1 ++ " " ++ v.2)) :
    HasLayout GoSource.ParamsRow ("(" ++ joinNamed values ++ ")") :=
  .params (hasLayout_of_mem_namedParts h)

/-- The text that is remembered for a type is laid out as a type. -/
theorem hasLayout_of_lookup (hr : Faithful symbols goesBy r) (hq : NamesPackages goesBy)
    {t : GoType} (ht : t.Writable) (hu : t.isUnion = false) {x : String}
    (hx : r.names.lookup t = some x) : HasLayout TypeExpr.Row x :=
  ((t.hasTerms_of_spells hq (hr.names t x hx) ht).hasRow hu).hasLayout

/-- The texts of writable values are laid out. -/
theorem hasLayout_texts (hr : Faithful symbols goesBy r) (hq : NamesPackages goesBy)
    {vs : List Value} (hw : ∀ v ∈ vs, v.Writable) {texts : List String}
    (h : List.Forall₂ (fun v text => r.names.lookup v.type = some text) vs texts) :
    ∀ x ∈ texts, HasLayout TypeExpr.Row x :=
  forall_mem_of_forall₂ h fun v hv _ hx =>
    hasLayout_of_lookup hr hq (hw v hv).2.1 (hw v hv).2.2 hx

/-- The results of a method behind its parameters. -/
theorem hasLayout_resultPart {front : String} (hfront : HasLayout GoSource.ParamsRow front)
    {named : Bool} {values : List (String × String)}
    (h : ∀ v ∈ values, HasLayout TypeExpr.Row v.2)
    (hnamed : named → ∀ v ∈ values, isIdentifier v.1) :
    HasLayout FunctionExpr.Row (front ++
      if (resultPart named values).isEmpty then "" else " " ++ resultPart named values) := by
  cases hempty : (resultPart named values).isEmpty with
  | true => simpa using hfront.function_none
  | false =>
    rw [if_neg (by simp)]
    cases named with
    | true =>
      exact hfront.function_list (hasLayout_joinNamed fun v hv =>
        ⟨hnamed rfl v hv, .entry_named (hnamed rfl v hv) (h v hv)⟩)
    | false =>
      rcases values with _ | ⟨v, _ | ⟨v', values⟩⟩
      · cases hempty
      · exact hfront.function_single (h v (List.mem_singleton_self v))
      · refine hfront.function_list (.params fun x hx => ?_)
        obtain ⟨v, hv, rfl⟩ := List.mem_map.mp hx
        exact (h v hv).entry

/-- **The signature of a handler is laid out as one.** -/
theorem HandlerMock.hasLayout_signature (h : HandlerMock typeParams typeArgs mock)
    (hm : MethodMock r i taken m mock params results) (hr : Faithful symbols goesBy r)
    (hq : NamesPackages goesBy)
    (hw : ∀ v ∈ m.signature.params ++ m.signature.results, v.Writable) :
    HasLayout FunctionExpr.Row mock.signature ∧ Stops mock.signature := by
  obtain ⟨hparamsWritable, hresultsWritable⟩ := List.forall_mem_append.mp hw
  obtain ⟨paramTypes, hparamTypes, hparameters⟩ := hm.parameters
  obtain ⟨resultTypes, hresultTypes, hresults⟩ := hm.results
  have hparamRows := hasLayout_texts hr hq hparamsWritable hparamTypes
  have hfront : HasLayout GoSource.ParamsRow ("(" ++ mock.parameters ++ ")") := by
    rw [hparameters]
    refine hasLayout_joinNamed fun v hv => ?_
    obtain ⟨hname, htext⟩ := List.of_mem_zip hv
    have hident := hm.isIdentifier_params (fun v hv => (hparamsWritable v hv).lexical) _ hname
    refine ⟨hident, ?_⟩
    split at htext
    · exact forall_mem_markVariadic (p := fun x => HasLayout ParamEntry.Row (v.1 ++ " " ++ x))
        (fun x hx => (hparamRows x hx).entry_named hident)
        (fun x hx => (hparamRows x hx).entry_named_dots hident) _ htext
    · exact (hparamRows _ htext).entry_named hident
  rw [h.signature, hresults]
  refine ⟨hasLayout_resultPart hfront (fun v hv => ?_) fun hnamed v hv => ?_, ?_⟩
  · exact hasLayout_texts hr hq hresultsWritable hresultTypes _ (List.of_mem_zip hv).2
  · exact hm.isIdentifier_results (fun v hv => (hresultsWritable v hv).lexical) hnamed _
      (List.of_mem_zip hv).1
  · exact .of_head (c := '(') (by simp [String.toList_append]) (by decide)

/-! ### Type parameters -/

/-- What is read is the type parameter: it has its name, and its constraint is the text that the
resolver gives. -/
def ReadsTypeParam (symbols : Symbols σ) (r : Resolver σ) (p : TypeParam) (q : TypeParamSpec) :
    Prop :=
  q.name = p.name ∧ ∃ text, outcome symbols r (.name p.constraint) = .ok text ∧
    ReadsConstraint text q.constraint

/-- Type parameters with the texts of their constraints are laid out as such. -/
theorem exists_typeParams (hr : Faithful symbols goesBy r) (hq : NamesPackages goesBy)
    {ps : List TypeParam} {texts : List String}
    (h : List.Forall₂ (fun p text => r.names.lookup p.constraint = some text) ps texts)
    (hw : ∀ p ∈ ps, isIdentifier p.name ∧ p.constraint.Writable) :
    ∃ specs items, List.Forall₂ TypeParamSpec.Row specs items ∧
      List.Forall₂ Lays
        (((ps.map TypeParam.name).zip texts).map fun p => p.1 ++ " " ++ p.2) items ∧
      List.Forall₂ (fun p (q : TypeParamSpec) => ReadsTypeParam symbols r p q ∧
        q.constraint.continuesName = p.constraint.continuesName) ps specs := by
  induction h with
  | nil => exact ⟨[], [], .nil, .nil, .nil⟩
  | @cons p text ps texts htext _ ih =>
    obtain ⟨⟨hname, hwritable⟩, hw⟩ := List.forall_mem_cons.mp hw
    obtain ⟨constraint, item, hrow, hlays, hread, hcontinues⟩ :=
      (p.constraint.hasTerms_of_spells hq (hr.names _ _ htext) hwritable).exists_typeParam hname
    obtain ⟨specs, items, hrows, hall, hreads⟩ := ih hw
    exact ⟨⟨p.name, constraint⟩ :: specs, item :: items, .cons hrow hrows, .cons hlays hall,
      .cons ⟨⟨rfl, text, outcome_of_textOf? (c := .name p.constraint) htext, hread⟩, hcontinues⟩
        hreads⟩

/-- The type parameters of a mock, as they stand behind each name that it declares. -/
theorem InterfaceMock.exists_typeParamsRow {reserved : List String} {mockOf : MockInterface}
    (h : InterfaceMock r reserved i mockOf) (hr : Faithful symbols goesBy r)
    (hq : NamesPackages goesBy) (hw : i.Writable) :
    ∃ specs ps, TypeParamsRow specs ps ∧ Lays mockOf.typeParams ps ∧ Stops mockOf.typeParams ∧
      List.Forall₂ (ReadsTypeParam symbols r) i.typeParams specs ∧
      GoSource.mayBeLength specs = i.looksLikeLength := by
  obtain ⟨texts, htexts, htypeParams⟩ := h.typeParams
  obtain ⟨specs, items, hrows, hlays, hreads⟩ := exists_typeParams hr hq htexts hw.typeParams
  have hlength : GoSource.mayBeLength specs = i.looksLikeLength := by
    rw [Interface.looksLikeLength]
    -- a length is read only where there is a single type parameter
    generalize i.typeParams = ps at hreads
    cases hreads with
    | nil => rfl
    | cons hfirst hmore => cases hmore with
      | nil => exact hfirst.2
      | cons _ _ => rfl
  rw [htypeParams]
  have hreads := hreads.imp fun _ _ h => h.1
  cases hrows with
  | nil =>
    rw [List.forall₂_nil_right_iff.mp hlays]
    exact ⟨[], [], .none, .empty, stops_bracketed [], hreads, hlength⟩
  | cons hrow hmore =>
    refine ⟨_, _, .brackets (by simp) (.cons hrow hmore), lays_bracketed ?_ hlays,
      stops_bracketed _, hreads, hlength⟩
    rintro heq
    cases heq ▸ hlays

/-! ### The lines of the block -/

variable {mockOf : MockInterface} {ps : List Lexeme}

/-- No identifier has a line break. -/
theorem newline_not_mem_of_isIdentifier {x : String} (h : isIdentifier x) : '\n' ∉ x.toList :=
  fun hmem => absurd ((IsWord.of_isIdentifier h).2 _ hmem) (by decide)

/-- Type arguments have no line break of their own. -/
theorem newline_not_mem_bracketed {xs : List String} (h : ∀ x ∈ xs, '\n' ∉ x.toList) :
    '\n' ∉ (bracketed xs).toList := by
  have hlist : '\n' ∉ (", ".intercalate xs).toList := by
    induction xs with
    | nil => simp
    | cons x xs ih =>
      obtain ⟨hx, hxs⟩ := List.forall_mem_cons.mp h
      cases xs with
      | nil => simpa using hx
      | cons next xs => simpa [String.intercalate_cons_cons, hx] using ih hxs
  rw [bracketed]
  split
  · simp
  · simpa [String.toList_append] using hlist

/-- A field of the struct that points to a value of another package. -/
theorem exists_field (field name : String) {ident : String} (hfield : isIdentifier field)
    (hident : isIdentifier ident) (hname : isIdentifier name) :
    ∃ f ls, FieldExpr.Row f (.name field :: ls) ∧
      Lays (field ++ (" " ++ ("*" ++ (ident ++ "." ++ name)))) (.name field :: ls) :=
  ⟨_, _, .named field [] none (.pointer (.qualified ident name)), by
    simpa using (Lays.name hfield).append_blank
      ((Lays.qualified hident hname).sign_append (s := "*") _ (by decide))⟩

/-- The type of the handlers of a method, on a line of its own. -/
theorem exists_handlerRow (hps : Lays mockOf.typeParams ps) (hstops : Stops mockOf.typeParams)
    (hname : isIdentifier mock.funcType) (h : HandlerMock mockOf.typeParams typeArgs mock)
    (hsignature : HasLayout FunctionExpr.Row mock.signature ∧ Stops mock.signature) :
    ∃ f ls, TypeExpr.Row (.function f) ls ∧ ∀ {lines rows}, LinesLaidOut lines rows →
      LinesLaidOut ((handlerFront mockOf mock ++ " func" ++ mock.signature) :: lines)
        ((.name mock.funcType :: (ps ++ ls)) :: rows) := by
  obtain ⟨⟨f, ls, hf, hlays⟩, hends⟩ := hsignature
  refine ⟨f, _, .function hf, fun hlines => ?_⟩
  have hfunc : Lays ("func" ++ mock.signature) (.keyword "func" :: ls) :=
    Lays.append (.keyword _) hlays hends
  have hrow := ((Lays.name hname).append hps hstops).append_blank
    (hfunc.blanks_append (mockOf.alignment - mock.funcTypeDecl.length))
  refine .row_of_lays (by simpa using hrow) (by simp) ['\t'] (by decide) ?_ hlines
  -- the blank in front of the keyword stands behind the other ones
  have hblanks (n : Nat) (cs : List Char) :
      List.replicate n ' ' ++ ' ' :: cs = ' ' :: (List.replicate n ' ' ++ cs) := by
    rw [← List.singleton_append, ← List.append_assoc, ← List.replicate_succ', List.replicate_succ,
      List.cons_append]
  simp [handlerFront, Expr.filled, h.funcTypeDecl, hblanks]

/-- The types of the handlers, on lines of their own. -/
theorem exists_handlerRows (hps : Lays mockOf.typeParams ps) (hstops : Stops mockOf.typeParams)
    {mocks : List MockMethod} (h : ∀ mock ∈ mocks, isIdentifier mock.funcType ∧
      HandlerMock mockOf.typeParams typeArgs mock ∧
        HasLayout FunctionExpr.Row mock.signature ∧ Stops mock.signature) :
    ∃ (decls : List (String × TypeExpr)) (rows : List (List Lexeme)),
      List.Forall₂ (fun mock d => d.1 = mock.funcType ∧ ∃ f, d.2 = .function f) mocks decls ∧
      List.Forall₂ (fun d row => ∃ ls, d.2.Row ls ∧ row = .name d.1 :: (ps ++ ls)) decls rows ∧
      LinesLaidOut (mocks.map fun m => handlerFront mockOf m ++ " func" ++ m.signature) rows := by
  induction mocks with
  | nil => exact ⟨[], [], .nil, .nil, .nil⟩
  | cons mock mocks ih =>
    obtain ⟨⟨hname, hhandler, hsignature⟩, h⟩ := List.forall_mem_cons.mp h
    obtain ⟨decls, rows, hdecls, hrows, hlines⟩ := ih h
    obtain ⟨f, ls, hf, hline⟩ := exists_handlerRow hps hstops hname hhandler hsignature
    exact ⟨(mock.funcType, .function f) :: decls, _ :: rows, .cons ⟨rfl, f, rfl⟩ hdecls,
      .cons ⟨ls, hf, rfl⟩ hrows, hline hlines⟩

/-- A struct, and types of functions, on the lines of a block. -/
theorem exists_typeRows {file : MockFile} (hname : isIdentifier mockOf.name)
    (hsource : '\n' ∉ mockOf.sourceRef.toList) (hruntime : isIdentifier file.mockIdent)
    (htesting : isIdentifier file.testingIdent) (hps : Lays mockOf.typeParams ps)
    (hstops : Stops mockOf.typeParams) {rows : List (List Lexeme)}
    (hhandlers : LinesLaidOut (mockOf.methods.map fun m =>
      handlerFront mockOf m ++ " func" ++ m.signature) rows) :
    ∃ fields fieldRows, List.Forall₂ FieldExpr.Row fields fieldRows ∧ fieldRows ≠ [] ∧
      (∀ row ∈ fieldRows, ∃ name ls, row = .name name :: ls) ∧
      LinesLaidOut (typeLines file mockOf)
        (GoSource.typeBlockRows mockOf.name ps fieldRows rows) := by
  obtain ⟨f, ls, hf, hfield⟩ :=
    exists_field "m" "Mock" (by decide) hruntime (by decide)
  obtain ⟨f', ls', hf', hfield'⟩ :=
    exists_field "t" "T" (by decide) htesting (by decide)
  refine ⟨[f, f'], [_, _], .cons hf (.cons hf' .nil), by simp, by simp, ?_⟩
  have hopening : Lays ("type" ++ (" " ++ "(")) _ :=
    Lays.append_blank (.keyword (s := "type") (by decide))
      (.sign (s := "(") (by decide) (by decide))
  have hstruct : Lays ("struct" ++ (" " ++ "\x7b")) _ :=
    Lays.append_blank (.keyword (s := "struct") (by decide))
      (.sign (s := "\x7b") (by decide) (by decide))
  have hbrace : Lays "\x7d" _ := .sign (by decide) (by decide)
  have hclosing : Lays ")" _ := .sign (by decide) (by decide)
  have hlast : LinesLaidOut [")"] [[.sign ")"]] :=
    .row_of_lays hclosing (by simp) [] rfl rfl .nil
  -- the handlers stand behind an empty line, which is left out when there are none
  have hlater : LinesLaidOut (handlerLines mockOf ++ [")"]) (rows ++ [[.sign ")"]]) := by
    refine .append ?_ hlast
    rw [handlerLines]
    split
    · next hempty => rwa [List.isEmpty_iff.mp hempty] at hhandlers
    · exact .blank rfl hhandlers
  have hcomment : '\n' ∉ ' ' :: (mockOf.name.toList ++ (" is a mock of the ".toList ++
      (mockOf.sourceRef.toList ++ " interface.".toList))) := by
    simp [newline_not_mem_of_isIdentifier hname, hsource]
  have hfront := ((Lays.name hname).append hps hstops).append_blank hstruct
  rw [typeLines, structLines, List.append_assoc]
  -- line by line, from the bracket of the block to the brace of the struct
  refine .blank rfl (.row_of_lays hopening (by simp) [] rfl (by decide) ?_)
  refine @LinesLaidOut.comment ['\t'] _ _ _ _ (by simp [String.toList_append]) (by decide)
    hcomment ?_
  refine .row_of_lays (by simpa using hfront) (by simp) ['\t'] (by decide)
    (by simp [String.toList_append]) ?_
  refine .row_of_lays hfield (by simp) ['\t', '\t'] (by decide)
    (by simp [String.toList_append]) ?_
  refine .row_of_lays hfield' (by simp) ['\t', '\t'] (by decide)
    (by simp [String.toList_append]) ?_
  exact .row_of_lays hbrace (by simp) ['\t'] (by decide) (by decide) hlater

/-- Each line begins behind a newline, and the last one ends with one. -/
theorem newline_cons_ofLines (lines : List String) :
    '\n' :: (ofLines lines).toList = lines.flatMap ('\n' :: ·.toList) ++ ['\n'] := by
  induction lines with
  | nil => rfl
  | cons line lines ih => simp [String.toList_append, ← ih]

theorem toList_package_ofLines (lines : List String) : ("package p\n" ++ ofLines lines).toList =
    "package p".toList ++ (lines.flatMap ('\n' :: ·.toList) ++ ['\n']) := by
  rw [← newline_cons_ofLines, String.toList_append]
  rfl

/-! ### The block -/

/-- The lines of the types of a mock stand together in the file. -/
theorem typeLines_infix {file : MockFile} (h : mockOf ∈ file.interfaces)
    (groups : List (List ImportView)) : typeLines file mockOf <:+: file.lines groups := by
  have hinterface : typeLines file mockOf <:+: interfaceLines file mockOf := by
    rw [interfaceLines, List.append_assoc, List.append_assoc]
    exact (List.prefix_append _ _).isInfix
  have hinterfaces :
      interfaceLines file mockOf <:+: file.interfaces.flatMap (interfaceLines file) :=
    List.infix_of_mem_flatten (List.mem_map_of_mem h)
  exact hinterface.trans (hinterfaces.trans (List.suffix_append _ _).isInfix)

/-- The declaration of a type of the mock is read as one with the type parameters of the interface.
If these look like a length, an array is read. -/
def ReadsType (symbols : Symbols σ) (r : Resolver σ) (i : Interface) (e : TypeExpr)
    (spec : TypeSpec) : Prop :=
  if i.looksLikeLength then spec.typeParams = [] ∧ ∃ length, spec.type = .array length e
  else List.Forall₂ (ReadsTypeParam symbols r) i.typeParams spec.typeParams ∧ spec.type = e

theorem forall₂_comp {α β γ : Type} {R : α → β → Prop} {S : β → γ → Prop} {as : List α}
    {bs : List β} {cs : List γ} (h : List.Forall₂ R as bs) (h' : List.Forall₂ S bs cs) :
    List.Forall₂ (Relation.Comp R S) as cs := by
  induction h generalizing cs with
  | nil =>
    cases h'
    exact .nil
  | cons hab _ ih =>
    cases h' with
    | cons hbc h' => exact .cons ⟨_, hab, hbc⟩ (ih h')

/-- The type of handlers has a name that is an identifier. -/
theorem isIdentifier_handlerName (hi : isIdentifier i.name) {m : Method}
    (hm : isIdentifier m.name) : isIdentifier (handlerName i m) := by
  have hfunc : "Func".toList.all Text.isIdentifierPart := by decide
  have hname : m.name.toList.all Text.isIdentifierPart :=
    List.all_eq_true.mpr (IsWord.of_isIdentifier hm).2
  obtain ⟨hshaped, -⟩ := Bool.and_eq_true_iff.mp hi
  have hkeyword : ∀ k ∈ goKeywords, ¬ "Func".toList <:+ k.toList := by decide
  have hno : handlerName i m ∉ goKeywords := fun hmem =>
    hkeyword _ hmem ⟨i.name.toList ++ m.name.toList, by simp [handlerName, String.toList_append]⟩
  rw [isIdentifier, Bool.and_eq_true]
  exact ⟨isIdentifierShaped_append (isIdentifierShaped_append hshaped hname) hfunc,
    by simpa using hno⟩

/-- What stands between the name of a type of the mock and the type is read as type parameters or as
a length. -/
theorem frontReads_typeParams {specs : List TypeParamSpec} (h : TypeParamsRow specs ps)
    (hreads : List.Forall₂ (ReadsTypeParam symbols r) i.typeParams specs)
    (hlength : GoSource.mayBeLength specs = i.looksLikeLength) {g : GoSource.Grammar} {n : Nat}
    (hg : GoSource.Reads g n) (hn : ps.length ≤ n) :
    GoSource.FrontReads g ps (ReadsType symbols r i) := by
  cases hlooks : i.looksLikeLength with
  | true =>
    refine (hg.frontReads_length h hn (hlength.trans hlooks)).mono fun e spec hspec => ?_
    rw [ReadsType, if_pos hlooks]
    exact hspec
  | false =>
    refine (hg.frontReads_typeParams h hn (hlength.trans hlooks)).mono fun e spec hspec => ?_
    rw [ReadsType, if_neg (by simp [hlooks])]
    exact ⟨hspec.1 ▸ hreads, hspec.2⟩

/-- The item declares the types of a mock: a struct and the types of the handlers. -/
def ReadsTypes (symbols : Symbols σ) (r : Resolver σ) (i : Interface)
    (item : GoSource.TopLevel) : Prop :=
  ∃ struct handlers, item = .types (struct :: handlers) ∧ struct.name = i.name ∧
    (∃ fields, ReadsType symbols r i (.struct fields) struct) ∧
    List.Forall₂ (fun m spec => spec.name = handlerName i m ∧
      ∃ f, ReadsType symbols r i (.function f) spec) i.methods handlers

/-- The text of the interface stands on one line. -/
theorem InterfaceMock.newline_not_mem_sourceRef {reserved : List String}
    (h : InterfaceMock r reserved i mockOf) (hw : i.Writable)
    (hident : ∀ entry ∈ r.imports.entries, isIdentifier entry.ident) :
    '\n' ∉ mockOf.sourceRef.toList := by
  obtain ⟨source, hentry, hsourceRef⟩ := h.sourceRef
  have hparams : '\n' ∉ (bracketed (i.typeParams.map TypeParam.name)).toList := by
    refine newline_not_mem_bracketed fun x hx => ?_
    obtain ⟨p, hp, rfl⟩ := List.mem_map.mp hx
    exact newline_not_mem_of_isIdentifier (hw.typeParams p hp).1
  rw [hsourceRef]
  simp [String.toList_append, newline_not_mem_of_isIdentifier (hident source hentry),
    newline_not_mem_of_isIdentifier hw.name, hparams]

/-- The block of types of a mock is read as a struct and the types of the handlers. -/
theorem InterfaceMock.holdsItems_types {reserved : List String} {file : MockFile}
    (h : InterfaceMock r reserved i mockOf) (hr : Faithful symbols goesBy r)
    (hq : NamesPackages goesBy) (hw : i.Writable)
    (hident : ∀ entry ∈ r.imports.entries, isIdentifier entry.ident)
    (hruntime : isIdentifier file.mockIdent) (htesting : isIdentifier file.testingIdent) :
    GoSource.HoldsItems (typeLines file mockOf) [ReadsTypes symbols r i] := by
  obtain ⟨specs, ps, hrow, hps, hstops, hreads, hlength⟩ := h.exists_typeParamsRow hr hq hw
  have hmethods : List.Forall₂ (fun m mock => mock.funcType = handlerName i m ∧
      isIdentifier mock.funcType ∧
        HandlerMock mockOf.typeParams (bracketed (i.typeParams.map TypeParam.name)) mock ∧
        HasLayout FunctionExpr.Row mock.signature ∧ Stops mock.signature)
      i.methods mockOf.methods := by
    refine ((List.forall₂_and_left _ _).mpr
      ⟨hw.methods, GoSource.forall₂_mem_right h.methods⟩).imp ?_
    rintro m mock ⟨⟨hname, hvalues⟩, ⟨params, results, hmethod⟩, hmem⟩
    have hhandler := h.handlers mock hmem
    refine ⟨hmethod.funcType, ?_, hhandler, hhandler.hasLayout_signature hmethod hr hq hvalues⟩
    rw [hmethod.funcType]
    exact isIdentifier_handlerName hw.name hname
  obtain ⟨decls, rows, hdecls, hrows, hlines⟩ := exists_handlerRows hps hstops
    (forall_mem_of_forall₂ hmethods fun _ _ _ hmock => hmock.2)
  obtain ⟨fields, fieldRows, hfields, hne, hnames, hblock⟩ :=
    exists_typeRows (h.name ▸ hw.name) (h.newline_not_mem_sourceRef hw hident) hruntime htesting hps
      hstops hlines
  have hitem := GoSource.readsItem_types mockOf.name
    (fun g n hg hn => frontReads_typeParams hrow hreads hlength hg hn) hfields hne hnames hrows
  refine .of_rows (hitem.mono ?_) hblock
  rintro _ ⟨specs', rfl, hspecs⟩
  obtain ⟨struct, handlers, ⟨hname, hstruct⟩, hhandlers, rfl⟩ :=
    List.forall₂_cons_left_iff.mp hspecs
  refine ⟨struct, handlers, rfl, hname.trans h.name, ⟨fields, hstruct⟩, ?_⟩
  -- from method to mock, from mock to row, from row to the spec that is read
  refine (forall₂_comp hmethods (forall₂_comp hdecls hhandlers)).imp ?_
  rintro m spec ⟨mock, ⟨hfuncType, -⟩, ⟨name, e⟩, ⟨rfl, f, rfl⟩, hspec, hread⟩
  exact ⟨hspec.trans hfuncType, f, hread⟩

/-- The texts that are remembered after everything was asked for spell their types. -/
theorem faithful_lastResolver (symbols : Symbols σ) (package : Package)
    (interfaces : List Interface) (options : MockOptions) (state : σ) :
    let last := lastResolver symbols package interfaces options (.ofModule package.module state)
    Faithful symbols (GoesBy last) last :=
  (faithful_ofModule symbols _ package.module state).after fun i hi => ⟨i, hi, rfl, rfl⟩

/-- The blocks of types of a file are read, one for each interface. -/
theorem FileMock.parse_types {interfaces : List Interface} {file : MockFile}
    (h : FileMock r interfaces file) (hr : Faithful symbols (GoesBy r) r)
    (hident : ∀ ident ∈ file.identifiers, isIdentifier ident ∧ ident ∉ GoSource.literalNames)
    (hwritable : ∀ i ∈ interfaces, i.Writable) (path : Path) :
    List.Forall₂ (fun i mockOf => ∃ struct handlers,
      SourceFile.parse path ("package p\n" ++ ofLines (typeLines file mockOf)) =
          .ok ⟨path, "p", [], struct :: handlers, false⟩ ∧
        struct.name = i.name ∧ (∃ fields, ReadsType symbols r i (.struct fields) struct) ∧
        List.Forall₂ (fun m spec => spec.name = handlerName i m ∧
          ∃ f, ReadsType symbols r i (.function f) spec) i.methods handlers)
      interfaces file.interfaces := by
  have hentry : ∀ entry ∈ r.imports.entries,
      isIdentifier entry.ident ∧ entry.ident ∉ GoSource.literalNames := fun entry hentry =>
    hident _ (h.mem_identifiers.mpr (ImportTable.mem_identifiers.mpr ⟨entry, hentry, rfl⟩))
  have hq : NamesPackages (GoesBy r) := by
    rintro _ _ ⟨entry, hmem, rfl, rfl⟩
    exact hentry entry hmem
  obtain ⟨runtime, hruntime, hmockIdent⟩ := h.runtime
  obtain ⟨testing, htesting, htestingIdent⟩ := h.testing
  refine ((List.forall₂_and_left _ _).mpr ⟨hwritable, h.interfaces⟩).imp ?_
  rintro i mockOf ⟨hw, hinterface⟩
  have hitems := hinterface.holdsItems_types hr hq hw (fun entry he => (hentry entry he).1)
    (hmockIdent ▸ (hentry runtime hruntime).1) (htestingIdent ▸ (hentry testing htesting).1)
  obtain ⟨items, hread, hparse⟩ := SourceFile.parse_lines path .nil (by simp) (by simp)
    (show isIdentifier "p" by decide) hitems (toList_package_ofLines (typeLines file mockOf))
  obtain ⟨_, _, ⟨struct, handlers, rfl, htypes⟩, ⟨⟩, rfl⟩ := List.forall₂_cons_left_iff.mp hread
  exact ⟨struct, handlers, hparse, htypes⟩

/-- **The types of a mock are read back.** Let a file of mocks be built from interfaces that a
source can hold, where packages go by identifiers. For each interface there is a block of types, which
is read as a struct and the types of the handlers in order; the rendered file has it, if the columns
are within the limit. Each type has the type parameters of the interface in order: the same names,
and as constraints what the texts of the resolver say. There is one exception. If the interface has a
single type parameter, and its constraint goes on behind the name as an expression does, all of these
types are read as arrays, and none of them has a type parameter. -/
theorem types_of_mockFile (symbols : Symbols σ) (package : Package) (interfaces : List Interface)
    (options : MockOptions) (state : σ) {file : MockFile}
    (h : (mockFile symbols package interfaces options state).1 = .ok file)
    (hident : ∀ ident ∈ file.identifiers, isIdentifier ident ∧ ident ∉ GoSource.literalNames)
    (hwritable : ∀ i ∈ interfaces, i.Writable) (path : Path) :
    let last := lastResolver symbols package interfaces options (.ofModule package.module state)
    ∃ nodes, template = .ok nodes ∧ List.Forall₂ (fun i mockOf =>
      let block := ofLines (typeLines file mockOf)
      (file.FitsWidth → ∃ front back, render nodes file = .ok (front ++ block ++ back)) ∧
        ∃ struct handlers, SourceFile.parse path ("package p\n" ++ block) =
            .ok ⟨path, "p", [], struct :: handlers, false⟩ ∧
          struct.name = i.name ∧ (∃ fields, ReadsType symbols last i (.struct fields) struct) ∧
          List.Forall₂ (fun m spec => spec.name = handlerName i m ∧
            ∃ f, ReadsType symbols last i (.function f) spec) i.methods handlers)
      interfaces file.interfaces := by
  intro last
  obtain ⟨-, -, hmock⟩ := of_mockFile_eq_ok h
  have hr := faithful_lastResolver symbols package interfaces options state
  have hblocks := hmock.parse_types hr hident hwritable path
  refine ⟨_, template_eq, (GoSource.forall₂_mem_right hblocks).imp ?_⟩
  rintro i mockOf ⟨hblock, hmem⟩
  refine ⟨fun hwidth => ?_, hblock⟩
  obtain ⟨front, back, heq⟩ := typeLines_infix hmem file.groupViews
  rw [render_template file hwidth, ← heq, Template.ofLines_append, Template.ofLines_append]
  exact ⟨_, _, rfl⟩

/-! ### Interfaces at hand -/

/-- An interface with two type parameters, of which one is bound by a type set, and with a method
that shares a type between its parameters. -/
def bag : Interface where
  name         := "Bag"
  file         := ⟨"/m/bag.go"⟩
  line         := 3
  exported     := true
  typeParams   := [⟨"K", .pointer (.basic .int)⟩,
    ⟨"V", .union [⟨true, .basic .string⟩, ⟨false, .named ⟨some "time", "Duration", []⟩⟩]⟩]
  methods      := [⟨"Swap", ⟨[⟨"a", .parameter "K"⟩, ⟨"b", .parameter "K"⟩],
    [⟨"", .parameter "V"⟩, ⟨"", .slice (.parameter "K")⟩], false⟩⟩]
  isConstraint := false

/-- An interface with a single type parameter, which is bound by a pointer type. -/
def keySet : Interface where
  name         := "Set"
  file         := ⟨"/m/x.go"⟩
  line         := 3
  exported     := true
  typeParams   := [⟨"K", .pointer (.basic .int)⟩]
  methods      := [⟨"Get", ⟨[], [⟨"", .parameter "K"⟩], false⟩⟩]
  isConstraint := false

/-- Two type parameters are read as such, and one that looks like a length is read as one. -/
theorem types_of_mockFile_bag :
    bag.looksLikeLength = false ∧ keySet.looksLikeLength = true ∧
      ∃ file bagOf setOf, shopFile [bag, keySet] = .ok file ∧ file.interfaces = [bagOf, setOf] ∧
        bagOf.typeParams = "[K *int, V ~string | time.Duration]" ∧ setOf.typeParams = "[K *int]" ∧
        (∃ struct handler, SourceFile.parse ⟨"/m/bag.go"⟩
            ("package p\n" ++ ofLines (typeLines file bagOf)) =
              .ok ⟨⟨"/m/bag.go"⟩, "p", [], [struct, handler], false⟩ ∧
          handler.name = "BagSwapFunc" ∧ handler.typeParams.map TypeParamSpec.name = ["K", "V"]) ∧
        ∃ struct handler, SourceFile.parse ⟨"/m/bag.go"⟩
            ("package p\n" ++ ofLines (typeLines file setOf)) =
              .ok ⟨⟨"/m/bag.go"⟩, "p", [], [struct, handler], false⟩ ∧
          handler.name = "SetGetFunc" ∧ handler.typeParams = [] := by
  have htexts : (shopFile [bag, keySet]).map (fun file =>
      file.interfaces.map MockInterface.typeParams) =
        .ok ["[K *int, V ~string | time.Duration]", "[K *int]"] := by
    decide +kernel
  have hentries : ∀ ident ∈ (shopResolver [bag, keySet]).imports.identifiers,
      isIdentifier ident ∧ ident ∉ GoSource.literalNames := by
    decide +kernel
  have hwritable : ∀ i ∈ [bag, keySet], i.Writable := by decide +kernel
  have hbag : bag.looksLikeLength = false := rfl
  have hset : keySet.looksLikeLength = true := rfl
  cases hfile : shopFile [bag, keySet] with
  | error e => exact nomatch hfile ▸ htexts
  | ok file =>
    obtain ⟨-, -, hmock⟩ := of_mockFile_eq_ok hfile
    obtain ⟨nodes, -, hall⟩ := types_of_mockFile suggestedNames shop [bag, keySet] shopOptions ()
      hfile (fun ident hident => hentries ident (hmock.mem_identifiers.mp hident)) hwritable
      ⟨"/m/bag.go"⟩
    obtain ⟨bagOf, _, ⟨-, struct, _, hparse, -, -, hhandlers⟩, hmore, hinterfaces⟩ :=
      List.forall₂_cons_left_iff.mp hall
    obtain ⟨setOf, _, ⟨-, struct', _, hparse', -, -, hhandlers'⟩, ⟨⟩, rfl⟩ :=
      List.forall₂_cons_left_iff.mp hmore
    obtain ⟨handler, _, ⟨hname, _, hread⟩, ⟨⟩, rfl⟩ := List.forall₂_cons_left_iff.mp hhandlers
    obtain ⟨handler', _, ⟨hname', _, hread'⟩, ⟨⟩, rfl⟩ := List.forall₂_cons_left_iff.mp hhandlers'
    rw [ReadsType, if_neg (by simp [hbag])] at hread
    rw [ReadsType, if_pos hset] at hread'
    have hparams : handler.typeParams.map TypeParamSpec.name = ["K", "V"] := by
      have hnames : List.Forall₂ (fun (p : TypeParam) (q : TypeParamSpec) => q.name = p.name)
          bag.typeParams handler.typeParams := hread.1.imp fun _ _ h => h.1
      rw [← List.forall₂_eq_eq_eq, List.forall₂_map_left_iff]
      exact (List.forall₂_map_right_iff.mpr hnames.flip)
    obtain ⟨hbagParams, hsetParams⟩ : bagOf.typeParams = "[K *int, V ~string | time.Duration]" ∧
        setOf.typeParams = "[K *int]" := by
      rw [hfile] at htexts
      simpa [hinterfaces] using Except.ok.inj htexts
    exact ⟨hbag, hset, file, bagOf, setOf, rfl, hinterfaces, hbagParams, hsetParams,
      ⟨struct, handler, hparse, hname, hparams⟩, struct', handler', hparse', hname', hread'.1⟩

/-- The constraint of a type parameter may be a pointer where a comma stands behind it, and the
loader lists the interface. The mock is written without the comma: its types are read as arrays, and
not as generic. -/
theorem keySet_read_as_array :
    let declaration : TypeSpec := ⟨"Set", [⟨"K", .pointer (.name "int")⟩],
      .interface [.method "Get" ⟨[], [⟨[], .name "K", false⟩]⟩], 3⟩
    let loader : Loader := { statsLoader with found :=
      [("m/x", some (.ofTypes "m/x" [] [declaration]))] }
    SourceFile.parse ⟨"/m/x.go"⟩
        "package x\n\ntype Set[K *int,] interface \x7b\n\tGet() K\n\x7d\n" =
      .ok ⟨⟨"/m/x.go"⟩, "x", [], [declaration], false⟩ ∧
      loader.outcome (Loader.interfaces {} "m/x") = .ok [keySet] ∧ keySet.eligibility = .eligible ∧
      ∃ file mockOf struct handler, shopFile [keySet] = .ok file ∧ file.interfaces = [mockOf] ∧
        typeLines file mockOf =
          ["", "type (", "\t// Set is a mock of the shop.Set[K] interface.",
            "\tSet[K *int] struct \x7b", "\t\tm *mock.Mock", "\t\tt *testing.T", "\t\x7d", "",
            "\tSetGetFunc[K *int] func() K", ")"] ∧
        SourceFile.parse ⟨"/m/mocks/x.go"⟩ ("package p\n" ++ ofLines (typeLines file mockOf)) =
          .ok ⟨⟨"/m/mocks/x.go"⟩, "p", [], [struct, handler], false⟩ ∧
        struct.name = "Set" ∧ struct.typeParams = [] ∧
          (∃ length fields, struct.type = .array length (.struct fields)) ∧
        handler.name = "SetGetFunc" ∧ handler.typeParams = [] ∧
          ∃ length f, handler.type = .array length (.function f) := by
  intro declaration loader
  refine ⟨by cbv, by decide +kernel, by decide +kernel, ?_⟩
  have hblocks : (shopFile [keySet]).map (fun file => file.interfaces.map (typeLines file)) =
      .ok [["", "type (", "\t// Set is a mock of the shop.Set[K] interface.",
        "\tSet[K *int] struct \x7b", "\t\tm *mock.Mock", "\t\tt *testing.T", "\t\x7d", "",
        "\tSetGetFunc[K *int] func() K", ")"]] := by
    decide +kernel
  have hentries : ∀ ident ∈ (shopResolver [keySet]).imports.identifiers,
      isIdentifier ident ∧ ident ∉ GoSource.literalNames := by
    decide +kernel
  have hlooks : keySet.looksLikeLength := rfl
  obtain ⟨file, hfile, hmock⟩ := exists_shopFile [keySet] (by decide +kernel) (by decide +kernel)
  have hall := hmock.parse_types (faithful_lastResolver suggestedNames shop [keySet] shopOptions ())
    (fun ident hident => hentries ident (hmock.mem_identifiers.mp hident)) (by decide +kernel)
    ⟨"/m/mocks/x.go"⟩
  obtain ⟨mockOf, _, ⟨struct, _, hparse, hname, ⟨fields, hstruct⟩, hhandlers⟩, ⟨⟩, hinterfaces⟩ :=
    List.forall₂_cons_left_iff.mp hall
  obtain ⟨handler, _, ⟨hhandlerName, f, hhandler⟩, ⟨⟩, rfl⟩ :=
    List.forall₂_cons_left_iff.mp hhandlers
  rw [ReadsType, if_pos hlooks] at hstruct hhandler
  obtain ⟨hparams, length, htype⟩ := hstruct
  obtain ⟨hhandlerParams, length', hhandlerType⟩ := hhandler
  rw [hfile] at hblocks
  exact ⟨file, mockOf, struct, handler, hfile, hinterfaces,
    by simpa [hinterfaces] using Except.ok.inj hblocks, hparse, hname, hparams,
    ⟨length, fields, htype⟩, hhandlerName, hhandlerParams, length', f, hhandlerType⟩

end MockFile

end GoMocks
