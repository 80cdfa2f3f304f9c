import GoMocks.GoSource.File
import GoMocks.Proofs.GoSource.Scanning
import GoMocks.Proofs.GoSource.TypeParameterRules

/-!
# Go source — printed types are read back

The rules for types are nested into each other to some depth, and every depth reads the types that
are printed with no more lexemes than that (`reads_nested`, from `Reads.step`). A declaration is then
read lexeme by lexeme.

* `SourceFile.parse_print`: a file that declares a printed type is read as declaring this type.
-/

namespace GoMocks.GoSource

open GoSource.Parser GoSource.Grammar
open Lexeme (separated inParens inBrackets inBraces)

/-! ### All depths -/

section Step

variable {g : Grammar} {n : Nat} {F : Token → Prop} {nl : Bool} {e : TypeExpr} {ls : List Lexeme}

/-- The first token of a row chooses its rule. -/
theorem Reads.takes_typeStep (hg : Reads g n) (h : e.Row ls) (hn : ls.length ≤ n + 1) :
    Takes (EndsType nl) (typeStep g nl) ls e := by
  refine Yields.peek fun t ht => ?_
  have hname (hnamed : e.isNamed) : Takes (EndsType nl) (typeName g nl) ls e :=
    hg.takes_typeName hnamed h hn (fun t ht => ht.not_isSign (by decide))
      fun _ t ht => ht.not_isSign (by decide)
  -- one case for each shape of type: its first lexeme picks the rule of the grammar
  cases h with
  | name n =>
    simp only [ht.1, Lexeme.kind]
    exact hname rfl
  | qualified package n =>
    simp only [ht.1, Lexeme.kind]
    exact hname rfl
  | generic hbase hne h =>
    obtain ⟨n, ls, heq, -⟩ := (TypeExpr.Row.generic hbase hne h).exists_name_cons rfl
    rw [heq] at ht
    simp only [ht.1, Lexeme.kind]
    exact hname rfl
  | pointer h =>
    rw [List.length_cons] at hn
    simp only [ht.1, ht.2.1, Lexeme.kind, Lexeme.text]
    exact Takes.seqRight (takes_sign _) (Takes.map (hg.type nl h (by omega)))
  | slice h =>
    rw [List.length_cons, List.length_cons] at hn
    simp only [ht.1, ht.2.1, Lexeme.kind, Lexeme.text]
    exact hg.takes_sliceType h (by omega)
  | array hlength h =>
    simp only [inBrackets, List.length_append, List.length_cons] at hn
    simp only [ht.1, ht.2.1, Lexeme.kind, Lexeme.text]
    exact hg.takes_arrayType hlength h (by omega)
  | map hkey hvalue =>
    simp only [inBrackets, List.length_append, List.length_cons] at hn
    simp only [ht.1, ht.2.1, Lexeme.kind, Lexeme.text]
    exact hg.takes_mapType hkey hvalue (by omega)
  | both k h harrow =>
    rw [List.length_cons, List.length_append] at hn
    simp only [ht.1, ht.2.1, Lexeme.kind, Lexeme.text]
    exact hg.takes_channelType_both k h (by omega) harrow
  | send k h hchan =>
    rw [List.length_cons, List.length_append, List.length_cons] at hn
    simp only [ht.1, ht.2.1, Lexeme.kind, Lexeme.text]
    exact hg.takes_channelType_send k h (by omega) hchan
  | receive h =>
    rw [List.length_cons, List.length_cons] at hn
    simp only [ht.1, ht.2.1, Lexeme.kind, Lexeme.text]
    exact hg.takes_receiveType h (by omega)
  | function h =>
    rw [List.length_cons] at hn
    simp only [ht.1, ht.2.1, Lexeme.kind, Lexeme.text]
    exact Takes.seqRight (takes_keyword _) (Takes.map (hg.takes_signature h (by omega)))
  | struct h =>
    simp only [inBraces, List.length_append, List.length_cons] at hn
    simp only [ht.1, ht.2.1, Lexeme.kind, Lexeme.text]
    exact hg.takes_structType h (by omega)
  | interface h =>
    simp only [inBraces, List.length_append, List.length_cons] at hn
    simp only [ht.1, ht.2.1, Lexeme.kind, Lexeme.text]
    exact hg.takes_interfaceType h (by omega)

/-- A type in parentheses is read as that type. -/
theorem Reads.takes_typeStep_parens (hg : Reads g n) (h : e.Row ls)
    (hn : (inParens ls).length ≤ n + 1) : Takes F (typeStep g nl) (inParens ls) e := by
  rw [inParens, List.length_cons, List.length_append] at hn
  refine Yields.peek fun t ht => ?_
  simp only [ht.1, ht.2.1, Lexeme.kind, Lexeme.text]
  have htype : Takes (Token.Spells · (.sign ")")) (g.type false) ls e :=
    (hg.type false h (by omega)).mono fun t ht => ht.isSign.endsType (by decide)
  rw [inParens, ← List.cons_append]
  exact Takes.seqLeft (Takes.seqRight (takes_sign _) htype) (takes_sign _)

/-- A row that begins no type is refused. -/
theorem Reads.refuses_typeStep (h : ∀ t, Leads F ls t → NoType t) :
    Refuses F (typeStep g nl) ls := by
  refine Yields.peek fun t ht => ?_
  obtain ⟨hname, hkeyword, hsign⟩ := h t ht
  split
  case h_12 => exact refuses_failure
  all_goals simp_all

/-- Type arguments are no type. -/
theorem Reads.refuses_typeStep_arguments (hg : Reads g n) {arguments : List TypeExpr}
    {items : List (List Lexeme)} (h : List.Forall₂ TypeExpr.Row arguments items)
    (hne : arguments ≠ []) (hn : (inBrackets (separated (.sign ",") items)).length ≤ n + 1) :
    Refuses (EndsItem ")") (typeStep g nl) (inBrackets (separated (.sign ",") items)) := by
  cases h with
  | nil => exact absurd rfl hne
  | @cons a item more items ha hmore =>
  have hlength := (Lexeme.length_add_two_le (List.mem_cons_self (a := item) (l := items))).trans hn
  obtain ⟨shape, hexpr⟩ := hg.expr ha (by omega)
  have hitems : inBrackets (separated (.sign ",") (item :: items)) =
      .sign "[" :: (item ++ ((items.map (.sign "," :: ·)).flatten ++ [.sign "]"])) := by
    rw [Lexeme.separated_cons, inBrackets, List.append_assoc]
  rw [hitems]
  refine Yields.peek fun t ht => ?_
  simp only [ht.1, ht.2.1, Lexeme.kind, Lexeme.text]
  refine Takes.bind (takes_sign _) (Passes.bind (passes_atSign_false fun t ht => ?_) ?_)
  · exact (ha.startsType_of_leads_append ht).not_isSign (by decide)
  have hitem : Takes (Leads (EndsItem ")") ((items.map (.sign "," :: ·)).flatten ++
      [.sign "]"])) (g.expr .inner) item shape := by
    refine hexpr.mono fun t ht => ?_
    cases items with
    | nil => exact .inr ht.isSign
    | cons b more => exact .inl ht.isSign
  -- a list of types is no length: a bare type is no value, and behind one that is comes no element
  -- type
  cases shape with
  | bareType literal => exact (Refuses.spanned (Takes.bind hitem refuses_failure)).bind
  | _ =>
    refine Takes.spanned (takes_value hitem (by simp)) fun ts _ => ?_
    cases items with
    | nil =>
      simp only [List.map_nil, List.flatten_nil, List.nil_append]
      refine Takes.bind (takes_sign _) (Refuses.bind (hg.noType nl fun t ht => ?_))
      have hends : EndsType false t := EndsItem.endsType ht (by decide)
      exact hends.noType (Bool.false_and _)
    | cons b more =>
      exact Refuses.bind (refuses_sign fun t ht => ht.isSign.not_isSign (by decide))

/-- One level more of the grammar reads types one lexeme longer. -/
theorem Reads.step (hg : Reads g n) : Reads (Grammar.step g) (n + 1) where
  type _ _ _ he hn := hg.takes_typeStep he hn
  parens _ _ _ he hn := hg.takes_typeStep_parens he hn
  noType _ _ _ h := Reads.refuses_typeStep h
  expr he hn := hg.exists_takes_exprStep he (Nat.le_of_lt_succ hn)
  length h _ := exists_takes_exprStep_length h
  noArray _ _ _ h hne hn := hg.refuses_typeStep_arguments h hne hn
  noExpr hs hmem := refuses_exprStep_closing hs hmem
  noLength name _ _ hne h hn hF := hg.misses_exprStep_typeParam name hne h hn hF

/-- All rules, nested into each other to some depth. -/
abbrev Grammar.nested (d : Nat) : Grammar :=
  Grammar.ofDepth Grammar.step d

/-- The grammar of a depth reads every type of at most as many lexemes. -/
theorem reads_nested (n : Nat) : Reads (nested n) n := by
  induction n with
  | zero =>
    exact {
      type := fun nl e ls he hn => absurd he.ne_nil (by simpa using hn)
      parens := fun nl e ls he hn => by simp [inParens] at hn
      noType := fun nl F ls h => refuses_failure
      expr := fun he hn => absurd hn (Nat.not_lt_zero _)
      length := fun h hn => absurd hn (Nat.not_lt_zero _)
      noArray := fun nl arguments items h hne hn => by simp [inBrackets] at hn
      noExpr := fun _ _ => refuses_failure
      noLength := fun name terms items hne h hn hF => by omega }
  | succ n ih => exact ih.step

end Step

/-! ### Declarations -/

section Declaration

variable {g : Grammar} {F : Token → Prop} {e : TypeExpr} {ls : List Lexeme} {ts rest : List Token}

/-- The body of an alias is read behind its sign. -/
theorem takes_typeBody (h : Takes F (g.type true) ls e) :
    Takes F (typeBody g) (.sign "=" :: ls) e :=
  Takes.bind (Takes.discard (takes_sign _).optional) h

/-- A specification without parentheses around it. -/
theorem specs_single {α : Type} {spec : Parser α} {a : α} {start : Token}
    (hstart : ¬ start.IsSign "(") (h : spec (start :: ts) = some (a, rest)) :
    specs spec (start :: ts) = some ([a], rest) := by
  have hopen : atSign "(" (start :: ts) = some (false, start :: ts) :=
    congrArg (fun b => some (b, start :: ts))
      (by simpa [Token.IsSign] using hstart : (start.kind == .sign && start.text == "(") = false)
  rw [specs, bind_of_eq_some hopen]
  exact bind_of_eq_some h

/-- An item on lines of its own. -/
theorem items_succ {n : Nat} {item : TopLevel} {start behind : Token}
    {later : List (List String × TopLevel)} {final : List Token} (hstart : start.kind ≠ .eof)
    (hitem : topLevel g (start :: ts) = some (item, behind :: rest))
    (hbehind : behind.newline = true)
    (hlater : Grammar.items g n ({ behind with newline := false } :: rest) = some (later, final)) :
    Grammar.items g (n + 1) (start :: ts) = some ((start.comments, item) :: later, final) := by
  have hmore : (start.kind == .eof) = false := by simpa using hstart
  have hpeek (t : Token) (rest : List Token) : peek (t :: rest) = some (t, t :: rest) := rfl
  have hterminator : terminator (behind :: rest) =
      some ((), { behind with newline := false } :: rest) := if_pos hbehind
  simp only [Grammar.items, bind, StateT.bind, pure, StateT.pure, Option.bind, hpeek, hmore, hitem,
    hbehind, hterminator, hlater, Bool.not_true, Bool.and_false, Bool.false_eq_true, if_true,
    if_false]
  cases later <;> rfl

theorem items_eof {n : Nat} {eof : Token} (heof : eof.kind = .eof) :
    Grammar.items g (n + 1) (eof :: rest) = some ([], eof :: rest) := by
  obtain ⟨kind, text, gap, newline, comments, line⟩ := eof
  subst heof
  rfl

/-- The tokens of a file that declares one type, on its second line. -/
def declarationTokens (ts : List Token) : List Token :=
  ⟨.keyword, "package", "", false, [], 1⟩ :: ⟨.name, "p", " ", false, [], 1⟩ ::
    ⟨.keyword, "type", "\n", true, [], 2⟩ :: ⟨.name, "X", " ", false, [], 2⟩ ::
    ⟨.sign, "=", " ", false, [], 2⟩ :: ts

/-- The source is cut into the tokens of its first lines and those of the type. -/
theorem scanAll_declaration {text : String} (h : LaidOut ls text.toList)
    (hls : ∀ l ∈ ls, l.isToken) :
    ∃ ts eof, Token.scanAll ("package p\ntype X = " ++ text ++ "\n") =
        some (declarationTokens (ts ++ [eof])) ∧
      List.Forall₂ Token.Spells ts ls ∧ eof.kind = .eof ∧ eof.newline = true := by
  obtain ⟨ts, line, blanks, hts, hblanks, hscans⟩ :=
    h.blank_cons.scans hls (show ∀ c ∈ ['\n'].head?, c = '\n' by simp) 2
  obtain ⟨hgap, -⟩ := isGapChar_of_isLexemeGap hblanks
  have hend : (blanks ++ ['\n']).all Token.isGapChar := by
    rw [List.all_append, hgap]
    rfl
  obtain ⟨eof, heof, hkind, hnewline⟩ : ∃ eof, Scans 2 ((' ' :: text.toList) ++ ['\n'])
      (ts ++ [eof]) ∧ eof.kind = .eof ∧ eof.newline = true :=
    ⟨_, hscans _ ((IsGap.of_blanks hend).scans_eof line), rfl, by simp⟩
  have hspace : IsGap [' '] false [] := .of_blanks rfl
  have hline : IsGap ['\n'] true [] := .of_blanks rfl
  have hblank (l : Lexeme) (rest : List Char) :
      ∀ c ∈ (' ' :: rest).head?, l.runsInto c = false := by
    simp [l.runsInto_of_mem]
  have hsign : (Lexeme.sign "=").isToken := rfl
  have hX : (Lexeme.name "X").isToken := by decide
  have hkeyword : (Lexeme.keyword "type").isToken := rfl
  have hname : (Lexeme.name "p").isToken := by decide
  have hclause : (Lexeme.keyword "package").isToken := rfl
  have hsource : ("package p\ntype X = " ++ text ++ "\n").toList =
      [] ++ ("package".toList ++ ([' '] ++ ("p".toList ++ (['\n'] ++ ("type".toList ++
        ([' '] ++ ("X".toList ++ ([' '] ++ ("=".toList ++
          ((' ' :: text.toList) ++ ['\n'])))))))))) := by
    simp [String.toList_append]
  refine ⟨ts, eof, Scans.scanAll ?_ ?_, hts, hkind, hnewline⟩ <;> rw [hsource]
  · -- one lexeme after the other, from the last to the first
    exact .cons hclause .nil (hblank _ _) <| .cons hname hspace (by simp [Lexeme.runsInto_of_mem]) <|
      .cons hkeyword hline (hblank _ _) <| .cons hX hspace (hblank _ _) <|
      .cons hsign hspace (hblank _ _) heof
  · simp [Token.byteOrderMark]

/-- The items of a file that declares one type. -/
theorem items_declarationTokens {eof : Token} (n : Nat) (heof : eof.kind = .eof)
    (hnewline : eof.newline = true) (hts : List.Forall₂ Token.Spells ts ls)
    (h : Takes (fun t => t.kind = .eof) (g.type true) ls e) :
    Grammar.items g (n + 3) (declarationTokens (ts ++ [eof])) =
      some ([([], .package "p"), ([], .types [⟨"X", [], e, 2⟩])],
        [{ eof with newline := false }]) := by
  have hbody : typeBody g (⟨.sign, "=", " ", false, [], 2⟩ :: (ts ++ [eof])) = some (e, [eof]) :=
    takes_typeBody h (⟨.sign, "=", " ", false, [], 2⟩ :: ts) eof [] (.cons ⟨rfl, rfl, rfl⟩ hts) heof
  have hspec : typeSpec g (⟨.name, "X", " ", false, [], 2⟩ :: ⟨.sign, "=", " ", false, [], 2⟩ ::
      (ts ++ [eof])) = some (⟨"X", [], e, 2⟩, [eof]) := typeSpec_plain rfl hbody
  have hspecs := specs_single (by simp [Token.IsSign]) hspec
  have htype : topLevel g (⟨.keyword, "type", "\n", false, [], 2⟩ ::
      ⟨.name, "X", " ", false, [], 2⟩ :: ⟨.sign, "=", " ", false, [], 2⟩ :: (ts ++ [eof])) =
      some (.types [⟨"X", [], e, 2⟩], [eof]) :=
    congrArg (Option.bind · _) hspecs
  have hdeclaration := items_succ (n := n + 1) (by decide) htype hnewline (items_eof heof)
  exact items_succ (n := n + 2) (by decide) rfl rfl hdeclaration

end Declaration

namespace SourceFile

/-- The file that declares `X` to be a type, on its second line. -/
def declaring (path : Path) (e : TypeExpr) : SourceFile :=
  ⟨path, "p", [], [⟨"X", [], e, 2⟩], false⟩

/-- A laid out type is parsed as the type of its declaration. -/
theorem parse_declaration (path : Path) {e : TypeExpr} {ls : List Lexeme} (h : e.Row ls)
    (hls : ∀ l ∈ ls, l.isToken) {text : String} (htext : LaidOut ls text.toList) :
    parse path ("package p\ntype X = " ++ text ++ "\n") = .ok (declaring path e) := by
  obtain ⟨ts, eof, hscan, hts, heof, hnewline⟩ := scanAll_declaration htext hls
  obtain ⟨n, hn⟩ : ∃ n, (declarationTokens (ts ++ [eof])).length + 1 = n + 3 :=
    ⟨ts.length + 4, by simp [declarationTokens]⟩
  have hdepth : ls.length ≤ 4 * (declarationTokens (ts ++ [eof])).length := by
    rw [← hts.length_eq]
    simp only [declarationTokens, List.length_cons, List.length_append]
    omega
  have htype := (reads_nested (4 * (declarationTokens (ts ++ [eof])).length)).type true h hdepth
  have hitems : topLevelItems? ("package p\ntype X = " ++ text ++ "\n") =
      some [([], .package "p"), ([], .types [⟨"X", [], e, 2⟩])] := by
    rw [topLevelItems?, hscan]
    simp only [Option.bind_eq_bind, Option.bind_some, hn]
    rw [items_declarationTokens n heof hnewline hts (htype.mono fun t ht => .inl ht)]
    rfl
  rw [parse, hitems]
  rfl

/-- **A printed type is read back.** A file that declares a type in the form in which it is printed,
with more blanks between its lexemes or without, declares exactly this type, on its own line and
without type parameters. -/
theorem parse_print (path : Path) {e : TypeExpr} (h : e.Printable) :
    parse path ("package p\ntype X = " ++ e.print ++ "\n") = .ok (declaring path e) ∧
      ∀ text : String, LaidOut e.lexemes text.toList →
        parse path ("package p\ntype X = " ++ text ++ "\n") = .ok (declaring path e) :=
  have hrow : e.Row e.lexemes := e.row_lexemes h.form
  have htokens : ∀ l ∈ e.lexemes, l.isToken := List.all_eq_true.mp h.tokens
  ⟨parse_declaration path hrow htokens e.laidOut_print, fun _ => parse_declaration path hrow htokens⟩

/-- A struct with fields of most kinds, one of them an embedded pointer, and with a tag. -/
theorem parse_print_struct :
    let qualified : TypeExpr := .qualified "p" "T"
    let results : List ParamExpr := [⟨[], .name "int", false⟩, ⟨[], .name "error", false⟩]
    let call : FunctionExpr := ⟨[⟨["x", "y"], .name "int", false⟩, ⟨["rest"], qualified, true⟩], results⟩
    let union : InterfaceElem := .embed [⟨true, .name "int"⟩, ⟨false, qualified⟩]
    let method : InterfaceElem := .method "Get" ⟨[⟨[], .name "int", false⟩], [⟨[], .name "error", false⟩]⟩
    let e : TypeExpr := .struct
      [⟨["a", "b"], .slice (.array (.literal "4") (.array (.qualified "p" "n") (.name "int"))), "\"t\""⟩,
        ⟨[], .pointer (.generic qualified [.name "K", .pointer qualified]), none⟩,
        ⟨["c"], .map (.name "string") (.channel .both (.channel .receive (.function call))), none⟩,
        ⟨["d"], .interface [method, union, .embed [⟨false, .name "B"⟩]], none⟩]
    e.Printable ∧
      parse ⟨"p/x.go"⟩ ("package p\ntype X = " ++ e.print ++ "\n") = .ok (declaring ⟨"p/x.go"⟩ e) := by
  intro qualified results call union method e
  have h : e.Printable := by decide +kernel
  exact ⟨h, (parse_print ⟨"p/x.go"⟩ h).1⟩

set_option maxRecDepth 4000 in
/-- Some types are not read back. A length `nil` is read as a literal and not as a name, and of ten
names in front of a type the first is read as a type of its own. -/
theorem parse_print_fails :
    let counted : TypeExpr := .array (.name "nil") (.name "int")
    let names := ["a", "b", "c", "d", "e", "f", "g", "h", "i", "j"]
    let shared : TypeExpr := .function ⟨[⟨names, .name "int", false⟩], []⟩
    counted.print = "[nil]int" ∧ counted.lexemes.all Lexeme.isToken ∧
      parse ⟨"p/x.go"⟩ ("package p\ntype X = " ++ counted.print ++ "\n") =
        .ok (declaring ⟨"p/x.go"⟩ (.array (.other "nil") (.name "int"))) ∧
      parse ⟨"p/x.go"⟩ ("package p\ntype X = " ++ counted.print ++ "\n") ≠
        .ok (declaring ⟨"p/x.go"⟩ counted) ∧
      shared.print = "func(a,b,c,d,e,f,g,h,i,j int)" ∧ shared.lexemes.all Lexeme.isToken ∧
      parse ⟨"p/x.go"⟩ ("package p\ntype X = " ++ shared.print ++ "\n") =
        .ok (declaring ⟨"p/x.go"⟩ (.function
          ⟨[⟨[], .name "a", false⟩, ⟨names.tail, .name "int", false⟩], []⟩)) ∧
      parse ⟨"p/x.go"⟩ ("package p\ntype X = " ++ shared.print ++ "\n") ≠
        .ok (declaring ⟨"p/x.go"⟩ shared) := by
  intro counted names shared
  have hcounted : parse ⟨"p/x.go"⟩ ("package p\ntype X = " ++ counted.print ++ "\n") =
      .ok (declaring ⟨"p/x.go"⟩ (.array (.other "nil") (.name "int"))) := by cbv
  have hshared : parse ⟨"p/x.go"⟩ ("package p\ntype X = " ++ shared.print ++ "\n") =
      .ok (declaring ⟨"p/x.go"⟩ (.function
        ⟨[⟨[], .name "a", false⟩, ⟨names.tail, .name "int", false⟩], []⟩)) := by cbv
  refine ⟨by decide +kernel, by decide +kernel, hcounted, ?_, by decide +kernel, by decide +kernel,
    hshared, ?_⟩
  · rw [hcounted]
    simp [declaring, counted]
  · rw [hshared]
    simp [declaring, shared, names]

end SourceFile

end GoMocks.GoSource
