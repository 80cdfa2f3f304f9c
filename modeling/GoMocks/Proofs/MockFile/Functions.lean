import GoMocks.Proofs.GoSource.FunctionRules
import GoMocks.Proofs.MockFile.TypeBlocks

/-!
# Mock files — their functions, read back

Behind its types, a mock has a constructor, three functions for each method, and one more. Each of
them is read as a function, its statements one after the other.

* `GoSource.holdsItems_function`: a function below a comment.
* `ZeroLiteral.exists_value`: a zero value is read as a value.
* `InterfaceMock.holdsItems_constructor`, `HandlerMock.holdsItems` and the others: the functions of a
  mock.
-/

namespace GoMocks

open Resolver
open GoSource (Closes TypeExpr TypeParamSpec FunctionExpr ParamEntry ParamsRow Lexeme Lays HasLayout Opens
  Stops LinesLaidOut IsValue IsArgument ReadsStatement HoldsStatements HoldsItems TopLevel
  FunctionFront)
open GoSource.Lexeme (separated inParens inBrackets inBraces)

/-! ### Texts of functions -/

namespace GoSource

variable {x y n front sig line : String} {ls fs : List Lexeme} {body lines : List String}

/-- A statement on a line of its own. -/
theorem HoldsStatements.of_row (h : ReadsStatement [ls]) (hx : Closes x ls) (hls : ls ≠ [])
    (gap : List Char) (hgap : gap.all isLexemeGap) (hline : line.toList = gap ++ x.toList) :
    HoldsStatements [line] :=
  .of_rows h (.row_of_closes hx hls gap hgap hline .nil)

/-- A text laid out as a name is laid out as a type. -/
theorem HasLayout.of_named
    (h : HasLayout (fun (e : TypeExpr) ls => e.Row ls ∧ e.isNamed) x) : HasLayout TypeExpr.Row x := by
  obtain ⟨e, ls, ⟨he, -⟩, hx⟩ := h
  exact ⟨e, ls, he, hx⟩

/-- A star in front of a type is laid out as a pointer. -/
theorem HasLayout.pointer (h : HasLayout TypeExpr.Row x) : HasLayout TypeExpr.Row ("*" ++ x) := by
  obtain ⟨e, ls, he, hx⟩ := h
  exact ⟨_, _, .pointer he, hx.sign_append (s := "*") _ (by decide)⟩

/-- A single parameter with its type. -/
theorem HasLayout.param (hn : isIdentifier n) (h : HasLayout TypeExpr.Row x) :
    HasLayout ParamsRow ("(" ++ (n ++ " " ++ x) ++ ")") := by
  have hparams : HasLayout ParamsRow ("(" ++ ", ".intercalate [n ++ " " ++ x] ++ ")") :=
    .params (by simpa using h.entry_named hn)
  simpa using hparams

/-- The name of a method behind its receiver. -/
theorem exists_methodFront (h : HasLayout TypeExpr.Row x) (hn : isIdentifier n) :
    ∃ fs, FunctionFront fs ∧ Lays ("(m *" ++ x ++ ") " ++ n) fs := by
  obtain ⟨params, ls, hparams, hx⟩ := HasLayout.param (n := "m") (by decide) h.pointer
  refine ⟨_, .method hparams n, ?_⟩
  have htext : "(m *" ++ x ++ ") " ++ n = "(" ++ ("m" ++ " " ++ ("*" ++ x)) ++ ")" ++ (" " ++ n) := by
    simp [← String.toList_inj]
  rw [htext]
  exact hx.append_blank (.name hn)

/-- **A function below a comment** is read as one, if its body consists of statements. -/
theorem holdsItems_function {comment : String} (hcomment : '\n' ∉ comment.toList)
    (hfront : FunctionFront fs) (hx : Lays front fs)
    (hsig : HasLayout FunctionExpr.Row sig ∧ Stops sig) (hbody : HoldsStatements body)
    (hline : line = "func " ++ (front ++ sig) ++ " \x7b") :
    HoldsItems ("" :: ("// " ++ comment) :: line :: (body ++ ["\x7d"])) [(· = .function)] := by
  obtain ⟨⟨f, ls, hf, hlays⟩, hstops⟩ := hsig
  obtain ⟨blocks, hne, hblocks, hlines⟩ := hbody
  refine .of_rows (readsItem_function hfront hf hblocks hne) ?_
  have hbrace : Lays "\x7b" _ := .sign (by decide) (by decide)
  have hclosing : Lays "\x7d" _ := .sign (by decide) (by decide)
  have hblank : Stops (" " ++ "\x7b") := .of_head (c := ' ') (by simp) (by decide)
  have hhead := (Lays.keyword (s := "func") (by decide)).append_blank
    (hx.append (hlays.append_blank hbrace) (hstops.append hblank))
  refine .blank rfl (@LinesLaidOut.comment [] (' ' :: comment.toList) _ _ _
    (by simp [String.toList_append]) rfl (by simpa using hcomment) ?_)
  refine .row_of_lays hhead (by simp) [] rfl ?_ (hlines.append
    (.row_of_lays hclosing (by simp) [] rfl (by simp) .nil))
  rw [hline]
  simp [String.toList_append]

/-! ### Fixed texts -/

/-- The front of the call for the next handler. -/
theorem opens_next : Opens "if f := m.m.Next(" [.keyword "if", .name "f", .sign ":=", .name "m",
    .sign ".", .name "m", .sign ".", .name "Next", .sign "("] :=
  .fixed rfl

/-- What stands behind that call. -/
theorem lays_found : Lays "); f != nil \x7b"
    [.sign ")", .sign ";", .name "f", .sign "!=", .name "nil", .sign "\x7b"] :=
  .fixed rfl

theorem opens_new : Opens "*new(" [.sign "*", .name "new", .sign "("] :=
  .fixed rfl

theorem lays_emptyBody : Lays "\x7b\x7d" [.sign "\x7b", .sign "\x7d"] :=
  .fixed rfl

theorem lays_handler : Lays ", f)" [.sign ",", .name "f", .sign ")"] :=
  .fixed rfl

/-- The front of the call of a handler, up to its type. -/
theorem opens_assertion : Opens "f.(" [.name "f", .sign ".", .sign "("] :=
  .fixed rfl

theorem opens_assertedArguments : Opens ")(" [.sign ")", .sign "("] :=
  .fixed rfl

theorem opens_error : Opens "m.t.Error("
    [.name "m", .sign ".", .name "t", .sign ".", .name "Error", .sign "("] :=
  .fixed rfl

theorem opens_add : Opens ("m.m." ++ "Add" ++ "(")
    [.name "m", .sign ".", .name "m", .sign ".", .name "Add", .sign "("] :=
  .fixed rfl

theorem opens_set : Opens ("m.m." ++ "Set" ++ "(")
    [.name "m", .sign ".", .name "m", .sign ".", .name "Set", .sign "("] :=
  .fixed rfl

theorem lays_hasMore : Lays "m.m.HasMore()"
    (.name "m" :: (selections ["m", "HasMore"] ++ inParens (separated (.sign ",") []))) :=
  .fixed rfl

/-- The fields of a new mock, behind the name of the runtime. -/
theorem lays_fields : Lays ".New(), t\x7d"
    [.sign ".", .name "New", .sign "(", .sign ")", .sign ",", .name "t", .sign "\x7d"] :=
  .fixed rfl

theorem opens_body : Opens "\x7b" [.sign "\x7b"] :=
  .fixed rfl

theorem opens_equal : Opens " = " [.sign "="] :=
  .fixed rfl

theorem lays_equalMock : Lays " = m" [.sign "=", .name "m"] :=
  .fixed rfl

theorem lays_var : Lays "var (" [.keyword "var", .sign "("] :=
  .fixed rfl

/-! ### Statements of functions -/

/-- A call with a string in it, between fixed texts. -/
theorem lays_call {opening closing text : String} {ls₁ ls₂ : List Lexeme}
    (hopening : Opens opening ls₁) (htext : IsString text) (hclosing : Lays closing ls₂)
    (hstops : Stops closing) :
    Lays (opening ++ (text ++ closing)) (ls₁ ++ .string text :: ls₂) :=
  hopening.append ((Lays.string htext).append hclosing hstops)

/-- The name of a method between quotes is a string, alone or in a sentence. -/
theorem isString_of_isIdentifier {front behind : String} (hn : isIdentifier n)
    (hfront : ∀ c ∈ front.toList, c ∉ ['"', '\\', '\n'])
    (hbehind : ∀ c ∈ behind.toList, c ∉ ['"', '\\', '\n']) :
    IsString ("\"" ++ (front ++ n ++ behind) ++ "\"") := by
  refine .of_plain fun c hc => ?_
  rw [String.toList_append, String.toList_append] at hc
  rcases List.mem_append.mp hc with hc | hc
  · rcases List.mem_append.mp hc with hc | hc
    · exact hfront c hc
    · have hpart := (IsWord.of_isIdentifier hn).2 c hc
      simp only [List.mem_cons, List.not_mem_nil, or_false, not_or]
      and_intros <;> (rintro rfl; exact absurd hpart (by decide))
  · exact hbehind c hc

/-- Values are returned. -/
theorem HoldsStatements.returned {xs : List String}
    (h : ∀ x ∈ xs, ∃ ls, IsValue ls ∧ Closes x ls) (gap : List Char) (hgap : gap.all isLexemeGap)
    (hline : line.toList = gap ++ ("return " ++ ", ".intercalate xs).toList) :
    HoldsStatements [line] := by
  obtain ⟨items, hvalues, hitems⟩ : ∃ items, (∀ item ∈ items, IsValue item) ∧
      List.Forall₂ Closes xs items := by
    clear hline
    induction xs with
    | nil => exact ⟨[], by simp, .nil⟩
    | cons x xs ih =>
      obtain ⟨⟨ls, hvalue, hx⟩, hxs⟩ := List.forall_mem_cons.mp h
      obtain ⟨items, hvalues, hitems⟩ := ih hxs
      exact ⟨ls :: items, List.forall_mem_cons.mpr ⟨hvalue, hvalues⟩, .cons hx hitems⟩
  have hreturn := (Lays.keyword (s := "return") (by decide)).append_closes (.commas hitems)
  refine .of_row (.returned hvalues) hreturn (by simp) gap hgap ?_
  rw [hline]
  simp [String.toList_append]

/-- A single value is returned. -/
theorem HoldsStatements.returned_value (hvalue : IsValue ls) (hx : Closes x ls) (gap : List Char)
    (hgap : gap.all isLexemeGap) (hline : line.toList = gap ++ ("return " ++ x).toList) :
    HoldsStatements [line] := by
  have hall : ∀ y ∈ [x], ∃ ls, IsValue ls ∧ Closes y ls := by simpa using ⟨_, hvalue, hx⟩
  exact .returned hall gap hgap (by simpa using hline)

/-- The handler is called if there is one. -/
theorem HoldsStatements.ifFound (h : HoldsStatements lines) (hn : isIdentifier n) :
    HoldsStatements
      (("\tif f := m.m.Next(\"" ++ n ++ "\"); f != nil \x7b") :: (lines ++ ["\t\x7d"])) := by
  obtain ⟨blocks, hne, hblocks, hlines⟩ := h
  have htext : IsString ("\"" ++ ("" ++ n ++ "") ++ "\"") :=
    isString_of_isIdentifier hn (by simp) (by simp)
  have hvalue : IsValue (.name "m" :: (selections ["m", "Next"] ++ inParens (separated _
      [[.string ("\"" ++ ("" ++ n ++ "") ++ "\"")]]))) :=
    .call "m" (by simp) (by simpa using .value (.constant (by simp [Lexeme.kind])))
  refine .of_rows (.ifFound "f" hvalue hblocks hne) ?_
  have hcall := lays_call opens_next htext lays_found (.of_head (c := ')') rfl (by decide))
  have hbrace : Lays "\x7d" _ := .sign (by decide) (by decide)
  refine .row_of_lays hcall (by simp) ['\t'] (by decide) ?_ (hlines.append
    (.row_of_lays hbrace (by simp) ['\t'] (by decide) (by simp) .nil))
  simp [String.toList_append]

/-- What is called by a name, between parentheses. -/
theorem HoldsStatements.call {opening closing text : String} {ls₁ ls₂ : List Lexeme}
    (hvalue : IsValue (.name n :: ls)) (hrow : .name n :: ls = ls₁ ++ .string text :: ls₂)
    (hopening : Opens opening ls₁) (htext : IsString text) (hclosing : Lays closing ls₂)
    (hstops : Stops closing)
    (hline : line.toList = ['\t'] ++ (opening ++ (text ++ closing)).toList) :
    HoldsStatements [line] := by
  have hcall := lays_call hopening htext hclosing hstops
  rw [← hrow] at hcall
  exact .of_row (.value hvalue) (.of_lays hcall) (by simp) ['\t'] (by decide) hline

end GoSource

/-! ### Zero values -/

section ZeroValues

variable {σ : Type} {symbols : Symbols σ} {goesBy : String → String → Prop} {t : GoType}
  {x : String}

/-- A zero value is read as a value, unless it goes by a type parameter that is no identifier. -/
theorem ZeroLiteral.exists_value (h : ZeroLiteral symbols goesBy t x) (hq : NamesPackages goesBy)
    (ht : t.Writable) (hu : t.isUnion = false)
    (hparameter : ∀ name, symbols.Reaches t (.parameter name) → isIdentifier name) :
    ∃ ls, IsValue ls ∧ Closes x ls := by
  cases h with
  | nil => exact ⟨_, .name "nil", .of_lays (.name (by decide))⟩
  | basic kind =>
    have hzero : IsValue [.integer "0"] := .constant (by simp [Lexeme.kind])
    cases kind with
    | bool => exact ⟨_, .name "false", .of_lays (.name (by decide))⟩
    | string =>
      exact ⟨_, .constant (by simp [Lexeme.kind]), .of_lays (.string (x := "\"\"") (by decide))⟩
    | unsafePointer => exact ⟨_, .name "nil", .of_lays (.name (by decide))⟩
    | complex64 | complex128 =>
      have hsum : IsValue [.integer "0", _, .number "0i"] :=
        .sum (by simp [Lexeme.kind]) (by simp [Lexeme.kind])
      exact ⟨_, hsum, .fixed rfl⟩
    | _ => exact ⟨_, hzero, .fixed rfl⟩
  | @parameter name hreach =>
    have hclosing : Lays ")" _ := .sign (by decide) (by decide)
    refine ⟨_, .new name, ?_⟩
    rw [String.append_assoc]
    exact .of_lays (GoSource.opens_new.append ((Lays.name (hparameter name hreach)).append hclosing
      (.of_head rfl (by decide))))
  | @composite y hbody hy =>
    obtain ⟨e, ls, ⟨he, hread⟩, hlays⟩ := (t.hasTerms_of_spells hq hy ht).hasRow hu
    have hvalue : IsValue (ls ++ inBraces (separated _ [])) :=
      .composite he (hread.takesBody hbody) (by simp)
    exact ⟨_, hvalue, .of_lays (hlays.append GoSource.lays_emptyBody (.of_head rfl (by decide)))⟩

end ZeroValues

namespace MockFile

variable {σ : Type} {symbols : Symbols σ} {goesBy : String → String → Prop} {r : Resolver σ}
  {i : Interface} {m : Method} {mock : MockMethod} {mockOf : MockInterface} {file : MockFile}
  {typeParams typeArgs : String} {taken params results reserved : List String}

/-! ### References -/

/-- A name with type parameters as its arguments is read as a type, and as one that goes by a
name. -/
theorem hasLayout_reference {e : TypeExpr} (hplain : e.isPlainName) (he : e.Row e.lexemes)
    {x : String} (hx : Lays x e.lexemes) {names : List String}
    (hnames : ∀ n ∈ names, isIdentifier n) :
    HasLayout (fun (e : TypeExpr) ls => e.Row ls ∧ e.isNamed) (x ++ bracketed names) := by
  have hrow : (GoType.parameter "").HasRow (x ++ bracketed names) :=
    .reference rfl hplain he hx fun n hn => ⟨_, _, .name n, .name (hnames n hn)⟩
  obtain ⟨e, ls, ⟨he, hread⟩, hx⟩ := hrow
  exact ⟨e, ls, ⟨he, hread.isNamed⟩, hx⟩

/-- A type of the file itself, with the type parameters of the interface. -/
theorem hasLayout_ownType (hw : i.Writable) {name : String} (hname : isIdentifier name) :
    HasLayout (fun (e : TypeExpr) ls => e.Row ls ∧ e.isNamed)
      (name ++ bracketed (i.typeParams.map TypeParam.name)) := by
  refine hasLayout_reference (e := .name name) rfl (.name name) (.name hname) fun n hn => ?_
  obtain ⟨p, hp, rfl⟩ := List.mem_map.mp hn
  exact (hw.typeParams p hp).1

/-- A word with a capital letter in front makes identifiers of identifiers. -/
theorem isIdentifier_capital_append {front name : String} (hfront : isIdentifierShaped front)
    (hkeyword : ∀ k ∈ goKeywords, ¬ front.toList <+: k.toList) (hname : isIdentifier name) :
    isIdentifier (front ++ name) := by
  have hpart : name.toList.all Text.isIdentifierPart :=
    List.all_eq_true.mpr (IsWord.of_isIdentifier hname).2
  have hno : front ++ name ∉ goKeywords := fun hmem =>
    hkeyword _ hmem ⟨name.toList, by simp [String.toList_append]⟩
  rw [isIdentifier, Bool.and_eq_true]
  exact ⟨isIdentifierShaped_append hfront hpart, by simpa using hno⟩

/-! ### The functions of a method -/

/-- The function that keeps a handler, under the name of the method. -/
theorem holdsItems_registrar {verb name typeRef funcTypeRef : String} (registrar comment : String)
    (hverb : Opens ("m.m." ++ verb ++ "(")
      [.name "m", .sign ".", .name "m", .sign ".", .name verb, .sign "("])
    (hname : isIdentifier name) (hregistrar : isIdentifier registrar)
    (htype : HasLayout TypeExpr.Row typeRef) (hfunc : HasLayout TypeExpr.Row funcTypeRef)
    (hcomment : '\n' ∉ comment.toList) :
    HoldsItems ["", "// " ++ registrar ++ comment,
      "func (m *" ++ typeRef ++ ") " ++ registrar ++ "(f " ++ funcTypeRef ++ ") \x7b",
      "\tm.m." ++ verb ++ "(\"" ++ name ++ "\", f)", "\x7d"] [(· = .function)] := by
  obtain ⟨fs, hfront, hx⟩ := GoSource.exists_methodFront htype hregistrar
  have hsig := (GoSource.HasLayout.param (n := "f") (by decide) hfunc).function_none
  have htext : GoSource.IsString ("\"" ++ ("" ++ name ++ "") ++ "\"") :=
    GoSource.isString_of_isIdentifier hname (by simp) (by simp)
  have hvalue : IsValue (.name "m" :: (GoSource.selections ["m", verb] ++ inParens
      (separated _ [[.string ("\"" ++ ("" ++ name ++ "") ++ "\"")], [.name "f"]]))) :=
    .call "m" (by simp) (by
      simpa using ⟨.value (.constant (by simp [Lexeme.kind])), .value (.name "f")⟩)
  have hbody : HoldsStatements ["\tm.m." ++ verb ++ "(\"" ++ name ++ "\", f)"] :=
    .call hvalue rfl hverb htext GoSource.lays_handler (.of_head (c := ',') rfl (by decide))
      (by simp [String.toList_append])
  have hline : '\n' ∉ (registrar ++ comment).toList := by
    simp [String.toList_append, newline_not_mem_of_isIdentifier hregistrar, hcomment]
  have hall : "// " ++ registrar ++ comment = "// " ++ (registrar ++ comment) := String.append_assoc ..
  rw [hall]
  exact GoSource.holdsItems_function hline hfront hx
    ⟨hsig, .of_head (c := '(') (by simp [String.toList_append]) (by decide)⟩ hbody
    (by simp [← String.toList_inj])

/-- The arguments of a call are read as such, the last one perhaps with dots behind it. -/
theorem exists_arguments (variadic : Bool) {names : List String}
    (h : ∀ n ∈ names, isIdentifier n) :
    ∃ items, (∀ item ∈ items, IsArgument item) ∧
      List.Forall₂ Lays (callArguments variadic names) items := by
  induction names using callArguments.induct with
  | case1 => exact ⟨[], by simp, by simp [callArguments]⟩
  | case2 name =>
    have hname : Lays name [.name name] := .name (h _ (List.mem_singleton_self _))
    have hdots : Lays "..." _ := .sign (by decide) (by decide)
    cases variadic with
    | true =>
      have hlast : IsArgument ([.name name] ++ [_]) := .dots (.name name)
      exact ⟨[_], by simpa using hlast, by
        simpa [callArguments] using hname.append hdots (.of_head (c := '.') rfl (by decide))⟩
    | false =>
      exact ⟨[[.name name]], by simpa using .value (.name name), by simpa [callArguments] using hname⟩
  | case3 name rest hrest ih =>
    obtain ⟨hname, hmore⟩ := List.forall_mem_cons.mp h
    obtain ⟨items, hitems, hlays⟩ := ih hmore
    rw [callArguments]
    · exact ⟨[.name name] :: items,
        List.forall_mem_cons.mpr ⟨.value (.name name), hitems⟩, .cons (.name hname) hlays⟩
    · exact hrest

/-- The call of the next handler is read as a value. -/
theorem exists_delegation {funcTypeRef callArgs : String} {args : List String}
    (hfunc : HasLayout TypeExpr.Row funcTypeRef) {items : List (List Lexeme)}
    (hitems : ∀ item ∈ items, IsArgument item) (hargs : List.Forall₂ Lays args items)
    (hcall : callArgs = ", ".intercalate args) :
    ∃ ls, IsValue (.name "f" :: ls) ∧
      Lays ("f.(" ++ funcTypeRef ++ ")(" ++ callArgs ++ ")") (.name "f" :: ls) := by
  obtain ⟨e, ls, he, hx⟩ := hfunc
  refine ⟨_, .asserted "f" he hitems, ?_⟩
  have hclosing : Lays ")" _ := .sign (by decide) (by decide)
  have hcalled := GoSource.opens_assertedArguments.append ((Lays.commas hargs).append hclosing
    (.of_head rfl (by decide)))
  have hlays := GoSource.opens_assertion.append (hx.append hcalled
    (.of_head (c := ')') (by simp [String.toList_append]) (by decide)))
  simpa [hcall, inParens, String.append_assoc] using hlays

/-- The lines with the call of the next handler hold statements. -/
theorem holdsStatements_call {ls : List Lexeme} (hvalue : IsValue (.name "f" :: ls))
    (hx : Lays ("f.(" ++ mock.funcTypeRef ++ ")(" ++ mock.callArgs ++ ")") (.name "f" :: ls)) :
    HoldsStatements (callLines mock) := by
  rw [callLines]
  cases mock.hasResults with
  | true =>
    refine .returned_value hvalue (.of_lays hx) ['\t', '\t'] (by decide) ?_
    simp [String.toList_append]
  | false =>
    have hrow : ReadsStatement [_ :: separated _ []] := .returned (by simp)
    have hreturn : HoldsStatements ["\t\treturn"] :=
      .of_row hrow (.of_lays (.keyword (by decide))) (by simp) ['\t', '\t'] (by decide) (by simp)
    exact (HoldsStatements.of_row (.value hvalue) (.of_lays hx) (by simp) ['\t', '\t'] (by decide)
      (by simp [String.toList_append])).append hreturn

/-- The results of a method are zero values, which are returned. -/
theorem holdsStatements_method {ls : List Lexeme} (hname : isIdentifier mock.name)
    (hvalue : IsValue (.name "f" :: ls))
    (hx : Lays ("f.(" ++ mock.funcTypeRef ++ ")(" ++ mock.callArgs ++ ")") (.name "f" :: ls))
    {zeros : List String} (hzeros : ∀ x ∈ zeros, ∃ ls, IsValue ls ∧ Closes x ls)
    (hresults : mock.zeroResults = ", ".intercalate zeros) :
    HoldsStatements (("\tif f := m.m.Next(\"" ++ mock.name ++ "\"); f != nil \x7b") ::
      (callLines mock ++ ["\t\x7d"]) ++ ["\tm.t.Helper()"] ++
      ["\tm.t.Error(\"unexpected " ++ mock.name ++ " call\")"] ++ returnLines mock) := by
  have htext : GoSource.IsString ("\"" ++ ("unexpected " ++ mock.name ++ " call") ++ "\"") :=
    GoSource.isString_of_isIdentifier hname (by simp) (by simp)
  have hnone : IsValue (.name "m" :: (GoSource.selections ["t", "Helper"] ++
      inParens (separated _ []))) := .call "m" (by simp) (by simp)
  have hhelper : HoldsStatements ["\tm.t.Helper()"] :=
    .of_row (.value hnone) (x := "m.t.Helper()") (.of_lays (.fixed rfl)) (by simp)
      ['\t'] (by decide) (by simp)
  have hsentence : IsValue (.name "m" :: (GoSource.selections ["t", "Error"] ++ inParens
      (separated _ [[.string ("\"" ++ ("unexpected " ++ mock.name ++ " call") ++ "\"")]]))) :=
    .call "m" (by simp) (by simpa using .value (.constant (by simp [Lexeme.kind])))
  have hclosing : Lays ")" _ := .sign (by decide) (by decide)
  have herror : HoldsStatements ["\tm.t.Error(\"unexpected " ++ mock.name ++ " call\")"] :=
    .call hsentence rfl GoSource.opens_error htext hclosing (.of_head rfl (by decide))
      (by simp [String.toList_append])
  have hfound := ((holdsStatements_call hvalue hx).ifFound hname).append hhelper |>.append herror
  rw [returnLines]
  cases mock.hasResults with
  | false => simpa using hfound
  | true =>
    refine hfound.append (.returned hzeros ['\t'] (by decide) ?_)
    simp [hresults, String.toList_append]

/-! ### The functions of a mock -/

/-- Where the zero value of a result goes by a type parameter, this is an identifier. -/
def TellsParameters (symbols : Symbols σ) (i : Interface) : Prop :=
  ∀ m ∈ i.methods, ∀ v ∈ m.signature.results, ∀ name,
    symbols.Reaches v.type (.parameter name) → isIdentifier name

/-- The functions of a method: two that keep handlers, and the method itself. -/
theorem HandlerMock.holdsItems (h : HandlerMock typeParams
      (bracketed (i.typeParams.map TypeParam.name)) mock)
    (hm : MethodMock r i taken m mock params results) (hr : Faithful symbols goesBy r)
    (hq : NamesPackages goesBy) (hw : i.Writable) (hmem : m ∈ i.methods)
    (hzeros : TellsParameters symbols i) (htype : HasLayout TypeExpr.Row mockOf.typeRef)
    (hsource : '\n' ∉ mockOf.sourceRef.toList) :
    HoldsItems (adderLines mockOf mock ++ setterLines mockOf mock ++ methodLines mockOf mock)
      [(· = .function), (· = .function), (· = .function)] := by
  obtain ⟨hmethod, hvalues⟩ := hw.methods m hmem
  obtain ⟨hparams, hresults⟩ := List.forall_mem_append.mp hvalues
  have hname : isIdentifier mock.name := hm.name ▸ hmethod
  have hfunc : HasLayout TypeExpr.Row mock.funcTypeRef := by
    rw [h.funcTypeRef, hm.funcType]
    exact .of_named (hasLayout_ownType hw (isIdentifier_handlerName hw.name hmethod))
  have hadder := holdsItems_registrar ("Add" ++ mock.name) " adds f to the mocked call sequence."
    GoSource.opens_add hname (isIdentifier_capital_append (by decide) (by decide) hname) htype hfunc
    (by simp)
  have hsetter := holdsItems_registrar ("Set" ++ mock.name)
    " sets f for all calls to the mocked method." GoSource.opens_set hname
    (isIdentifier_capital_append (by decide) (by decide) hname) htype hfunc (by simp)
  -- the method itself
  obtain ⟨fs, hfront, hx⟩ := GoSource.exists_methodFront htype hname
  obtain ⟨items, hitems, hargs⟩ := exists_arguments m.signature.variadic
    (hm.isIdentifier_params fun v hv => (hparams v hv).lexical)
  obtain ⟨ls, hvalue, hcall⟩ := exists_delegation hfunc hitems hargs hm.callArgs
  obtain ⟨texts, htexts, hzeroResults⟩ := hm.zeroResults
  have hbody := holdsStatements_method hname hvalue hcall (forall_mem_of_forall₂ htexts
    fun v hv text hl => (hr.zeros _ _ hl).literal.exists_value hq (hresults v hv).2.1
      (hresults v hv).2.2 (hzeros m hmem v hv)) hzeroResults
  have hcomment : '\n' ∉ (mock.name ++ (" implements the " ++ mockOf.sourceRef ++
      " interface.")).toList := by
    simp [String.toList_append, newline_not_mem_of_isIdentifier hname, hsource]
  have hline : "func (m *" ++ mockOf.typeRef ++ ") " ++ mock.name ++ mock.signature ++ " \x7b" =
      "func " ++ ("(m *" ++ mockOf.typeRef ++ ") " ++ mock.name ++ mock.signature) ++ " \x7b" := by
    simp [← String.toList_inj]
  have hfunction := GoSource.holdsItems_function hcomment hfront hx
    (h.hasLayout_signature hm hr hq hvalues) hbody hline
  rw [adderLines, setterLines, methodLines, h.adder, h.setter]
  refine (hadder.append hsetter).append ?_
  simpa [String.append_assoc] using hfunction

/-- The functions of all methods. -/
theorem InterfaceMock.holdsItems_methods (h : InterfaceMock r reserved i mockOf)
    (hr : Faithful symbols goesBy r) (hq : NamesPackages goesBy) (hw : i.Writable)
    (hident : ∀ entry ∈ r.imports.entries, isIdentifier entry.ident)
    (hzeros : TellsParameters symbols i) :
    HoldsItems (mockOf.methods.flatMap fun m =>
        adderLines mockOf m ++ setterLines mockOf m ++ methodLines mockOf m)
      (mockOf.methods.flatMap fun _ => [(· = .function), (· = .function), (· = .function)]) := by
  refine .flatMap (forall_mem_of_forall₂ (GoSource.forall₂_mem_right h.methods)
    fun m hm mock ⟨⟨params, results, hmethod⟩, hmock⟩ => ?_)
  exact (h.handlers mock hmock).holdsItems hmethod hr hq hw hm hzeros
    (h.typeRef ▸ .of_named (hasLayout_ownType hw hw.name)) (h.newline_not_mem_sourceRef hw hident)

/-- The function that tells whether more calls are expected. -/
theorem holdsItems_hasMore (htype : HasLayout TypeExpr.Row mockOf.typeRef) :
    HoldsItems (hasMoreLines mockOf) [(· = .function)] := by
  obtain ⟨fs, hfront, hx⟩ := GoSource.exists_methodFront htype (n := "HasMore") (by decide)
  have hparams : HasLayout ParamsRow ("(" ++ ", ".intercalate [] ++ ")") := .params (by simp)
  have hsig : HasLayout FunctionExpr.Row ("()" ++ (" " ++ "bool")) :=
    hparams.function_single ⟨_, _, .name "bool", .name (by decide)⟩
  have hcall : IsValue (.name "m" :: (GoSource.selections ["m", "HasMore"] ++
      inParens (separated _ []))) := .call "m" (by simp) (by simp)
  have hbody : HoldsStatements ["\treturn m.m.HasMore()"] :=
    .returned_value hcall (.of_lays GoSource.lays_hasMore) ['\t'] (by decide) (by simp)
  have hcomment : '\n' ∉ "HasMore returns true if the mock has more expected calls.".toList := by
    simp
  exact GoSource.holdsItems_function hcomment hfront hx ⟨hsig, .of_head (c := '(') rfl (by decide)⟩
    hbody (by simp [← String.toList_inj])

/-- What the constructor makes is read as a value. -/
theorem InterfaceMock.exists_newValue (h : InterfaceMock r reserved i mockOf) (hw : i.Writable)
    (hident : ∀ entry ∈ r.imports.entries, isIdentifier entry.ident) :
    ∃ ls, IsValue ls ∧ Lays mockOf.newValue ls := by
  obtain ⟨runtime, hruntime, hnewValue⟩ := h.newValue
  obtain ⟨e, ls, ⟨he, hnamed⟩, hx⟩ := hasLayout_ownType hw hw.name
  have hnew : IsValue (.name runtime.ident :: (GoSource.selections ["New"] ++
      inParens (separated _ []))) := .call runtime.ident (by simp) (by simp)
  have hfields : ∀ item ∈ [_, [.name "t"]], IsValue item :=
    List.forall_mem_cons.mpr ⟨hnew, by simpa using .name "t"⟩
  refine ⟨_, .address he hnamed hfields, ?_⟩
  have hbody := GoSource.opens_body.append ((Lays.name (hident runtime hruntime)).append
    GoSource.lays_fields (.of_head (c := '.') rfl (by decide)))
  have hliteral := hx.append hbody (.of_head (c := '\x7b') (by simp [String.toList_append]) (by decide))
  obtain ⟨c, cs, hcs, hstart⟩ := head_of_isIdentifier hw.name
  have haddress := hliteral.address (fun d hd => ?_) (by simp [← String.toList_inj, hcs])
  · rw [hnewValue, h.typeRef]
    simpa [inBraces, inParens, GoSource.selections, separated, String.append_assoc] using haddress
  · obtain rfl : c = d := by simpa [String.toList_append, hcs] using hd
    simp only [List.mem_cons, List.not_mem_nil, or_false, not_or]
    and_intros <;> (rintro rfl; exact absurd hstart (by decide))

/-- The interface, as the mock file refers to it, is read as a type. -/
theorem InterfaceMock.hasLayout_sourceRef (h : InterfaceMock r reserved i mockOf) (hw : i.Writable)
    (hident : ∀ entry ∈ r.imports.entries, isIdentifier entry.ident) :
    HasLayout TypeExpr.Row mockOf.sourceRef := by
  obtain ⟨source, hsource, hsourceRef⟩ := h.sourceRef
  rw [hsourceRef]
  refine .of_named (hasLayout_reference (e := .qualified source.ident i.name) rfl (.qualified ..)
    (.qualified (hident source hsource) hw.name) fun n hn => ?_)
  obtain ⟨p, hp, rfl⟩ := List.mem_map.mp hn
  exact (hw.typeParams p hp).1

/-- The line of the variable that holds the mock, which may be padded. -/
theorem lays_mockVariable {value : String} {ls : List Lexeme} (hx : Lays value ls) (n : Nat) :
    Lays ("m" ++ (.ofList (List.replicate n ' ') ++ (" = " ++ value)))
      (.name "m" :: .sign "=" :: ls) := by
  refine Lays.append (.name (by decide)) ((GoSource.opens_equal.append hx).blanks_append n) ?_
  cases n with
  | zero => exact .of_head (c := ' ') (by simp [String.toList_append]) (by decide)
  | succ n => exact .of_head (c := ' ') (by simp [List.replicate_succ]) (by decide)

/-- The line of the blank variable, which checks that the mock implements the interface. -/
theorem lays_blankVariable {x : String} {row : List Lexeme} (hx : Lays x row) :
    Lays ("_" ++ (" " ++ (x ++ " = m"))) (.name "_" :: (row ++ [.sign "=", .name "m"])) :=
  (Lays.name (x := "_") (by decide)).append_blank
    (hx.append GoSource.lays_equalMock (.of_head (c := ' ') rfl (by decide)))

/-- **The constructor of a mock** is read as a function. -/
theorem InterfaceMock.holdsItems_constructor (h : InterfaceMock r reserved i mockOf)
    (hr : Faithful symbols goesBy r) (hq : NamesPackages goesBy) (hw : i.Writable)
    (hident : ∀ entry ∈ r.imports.entries, isIdentifier entry.ident)
    (htesting : isIdentifier file.testingIdent) :
    HoldsItems (constructorLines file mockOf) [(· = .function)] := by
  obtain ⟨specs, ps, hrow, hps, hstops, -, -⟩ := h.exists_typeParamsRow hr hq hw
  obtain ⟨ls, hvalue, hx⟩ := h.exists_newValue hw hident
  obtain ⟨e, row, he, hrowText⟩ := h.hasLayout_sourceRef hw hident
  obtain ⟨n, hpadding⟩ := h.varPadding
  have htype : HasLayout TypeExpr.Row mockOf.typeRef :=
    h.typeRef ▸ .of_named (hasLayout_ownType hw hw.name)
  have hconstructor : isIdentifier mockOf.constructor :=
    h.constructor ▸ isIdentifier_capital_append (by decide) (by decide) hw.name
  have hsource := h.newline_not_mem_sourceRef hw hident
  -- the variables, below each other
  have hmock := lays_mockVariable hx n
  have hblank := lays_blankVariable hrowText
  have hvariables : ∀ l ∈ [_, _], GoSource.VarRow l := List.forall_mem_cons.mpr
    ⟨.plain "m" hvalue, List.forall_mem_singleton.mpr (.typed "_" he (.name "m"))⟩
  have hclosing : Lays ")" _ := .sign (by decide) (by decide)
  have hblock : HoldsStatements ["\tvar (", mockFront mockOf ++ " = " ++ mockOf.newValue,
      blankFront mockOf ++ " = m", "\t)"] := by
    refine .of_rows (.variables (by simp) hvariables) ?_
    refine .row_of_lays GoSource.lays_var (by simp) ['\t'] (by decide) (by simp) ?_
    refine .row_of_lays hmock (by simp) ['\t', '\t'] (by decide)
      (by simp [mockFront, hpadding, String.toList_append]) ?_
    refine .row_of_lays hblank (by simp) ['\t', '\t'] (by decide)
      (by simp [blankFront, String.toList_append]) ?_
    exact .row_of_lays hclosing (by simp) ['\t'] (by decide) (by simp) .nil
  have hreturn : HoldsStatements ["\treturn m"] :=
    .returned_value (.name "m") (.of_lays (.name (by decide))) ['\t'] (by decide) (by simp)
  -- the head of the function
  have hparam : HasLayout TypeExpr.Row (file.testingIdent ++ "." ++ "T") :=
    ⟨_, _, .qualified file.testingIdent "T", .qualified htesting (by decide)⟩
  have hsig := (GoSource.HasLayout.param (n := "t") (by decide) hparam.pointer).function_single
    htype.pointer
  have hcomment : '\n' ∉ (mockOf.constructor ++ (" returns a new mock of the " ++ mockOf.sourceRef ++
      " interface.")).toList := by
    simp [String.toList_append, newline_not_mem_of_isIdentifier hconstructor, hsource]
  have hline : "func " ++ mockOf.constructor ++ mockOf.typeParams ++ "(t *" ++ file.testingIdent ++
      ".T) *" ++ mockOf.typeRef ++ " \x7b" =
        "func " ++ (mockOf.constructor ++ mockOf.typeParams ++ ("(" ++ ("t" ++ " " ++ ("*" ++
          (file.testingIdent ++ "." ++ "T"))) ++ ")" ++ (" " ++ ("*" ++ mockOf.typeRef)))) ++
            " \x7b" := by
    simp [← String.toList_inj]
  have hfunction := GoSource.holdsItems_function hcomment (.function mockOf.constructor hrow)
    ((Lays.name hconstructor).append hps hstops)
    ⟨hsig, .of_head (c := '(') (by simp [String.toList_append]) (by decide)⟩
    (hblock.append hreturn) hline
  rw [constructorLines]
  simpa [String.append_assoc] using hfunction

end MockFile

end GoMocks
