import GoMocks.Proofs.MockFile.Parameters
import GoMocks.Proofs.MockFile.Qualifiers
import GoMocks.Proofs.MockFile.ValueLists
import GoMocks.Proofs.Resolver.Unambiguous

/-!
# Mock files — the signatures of methods

The mock of a method is put together from texts: its parameters and results, the arguments that hand
the parameters on, and the zero values of the results. Where all names are identifiers, and lengths
and tags are literals, these texts say what the method takes and gives.

* `MockFile.ReadsBack`: read back, the texts are the names and types of the method.
* `isIdentifier_of_mem_chooseNames`: the names of parameters and results are identifiers.
* `ZeroLiteral.sealed`: a zero value is one item of a list.
* `signatures_of_mockFile`: the texts of every method are read back.
-/

namespace GoMocks

open Resolver
open Text (Sealed splitCommas)

/-- The name of a parameter or result, if it has one, and those in its type are identifiers; lengths
and tags in the type are literals. -/
def Value.Lexical (v : Value) : Prop :=
  (v.name = "" ∨ isIdentifier v.name) ∧ v.type.Lexical

instance (v : Value) : Decidable v.Lexical :=
  inferInstanceAs (Decidable (_ ∧ _))

/-! ### Zero values as items of a list -/

section ZeroValues

variable {σ : Type} {symbols : Symbols σ} {goesBy : String → String → Prop} {t : GoType}
  {x : String}

/-- All types that are told as definitions have lexical names and literals. -/
def Symbols.TellsLexical (symbols : Symbols σ) : Prop :=
  ∀ n s u, (symbols.underlying n s).1 = .ok u → u.Lexical

/-- What a type of lexical parts reaches is of lexical parts. -/
theorem Symbols.Reaches.lexical {u : GoType} (h : symbols.Reaches t u)
    (htold : symbols.TellsLexical) (ht : t.Lexical) : u.Lexical := by
  cases h with
  | refl => exact ht
  | told h => exact htold _ _ _ h

/-- **A zero value is one item of a list.** -/
theorem ZeroLiteral.sealed (h : ZeroLiteral symbols goesBy t x)
    (hq : ∀ path ident, goesBy path ident → isIdentifier ident) (htold : symbols.TellsLexical)
    (ht : t.Lexical) : Sealed x ∧ x ≠ "" := by
  cases h with
  | nil => exact ⟨.of_neutral (by decide), by decide⟩
  | basic kind =>
    refine ⟨?_, by cases kind <;> decide⟩
    cases kind with
    | string => exact .of_isString (by decide)
    | _ => exact .of_neutral (by decide)
  | @parameter name hreach =>
    have hname : isIdentifier name := hreach.lexical htold ht _ (GoType.self_mem_parts _)
    have htext : "*new(" ++ name ++ ")" = "*new" ++ ("(" ++ name ++ ")") := by
      simp [← String.toList_inj]
    rw [htext]
    exact ⟨Sealed.append (.of_neutral (by decide)) (.parens (Sealed.of_isIdentifier hname).inner),
      by simp [← String.toList_inj]⟩
  | @composite y _ hy =>
    have hbraces : Sealed "\x7b\x7d" := Sealed.braces (x := "") fun d => rfl
    exact ⟨(t.sealed_of_spells hq hy ht).append hbraces, by simp⟩

end ZeroValues

namespace MockFile

variable {σ : Type} {symbols : Symbols σ} {goesBy : String → String → Prop} {r : Resolver σ}
  {i : Interface} {m : Method} {mock : MockMethod} {taken params results : List String}

/-! ### Chosen names are identifiers -/

/-- A fresh name is an identifier. -/
theorem isIdentifier_replacement {letter : Char} (h : isIdentifierShaped letter.toString)
    (place n : Nat) : isIdentifier (replacement letter place n) := by
  cases n with
  | zero => exact isIdentifier_aliasOf h place
  | succ n =>
    obtain ⟨hshaped, -⟩ := Bool.and_eq_true_iff.mp (isIdentifier_aliasOf h place)
    exact isIdentifier_aliasOf (isIdentifierShaped_append (v := "_") hshaped (by decide)) (n + 1)

/-- A chosen name is an identifier. -/
theorem isIdentifier_chooseName {letter : Char} (h : isIdentifierShaped letter.toString)
    (place : Nat) {declared : String} (hd : declared = "" ∨ isIdentifier declared)
    (taken : List String) : isIdentifier (chooseName letter place declared taken) := by
  simp only [chooseName, List.contains_eq_mem, decide_eq_true_eq]
  split
  · obtain ⟨n, hn, -⟩ :=
      firstFresh?_spec (replacement_injective letter place) (forbiddenNames taken)
    rw [hn]
    exact isIdentifier_replacement h place n
  · next hfree => exact hd.resolve_left fun hempty => hfree (mem_forbiddenNames.mpr (.inl hempty))

/-- Where the declared names are identifiers, if there are any, the chosen ones are. -/
theorem isIdentifier_of_mem_chooseNames {letter : Char} (h : isIdentifierShaped letter.toString)
    {declared : List String} (hd : ∀ d ∈ declared, d = "" ∨ isIdentifier d) (taken : List String)
    (place : Nat) : ∀ name ∈ chooseNames letter taken place declared, isIdentifier name := by
  induction declared generalizing taken place with
  | nil => exact nofun
  | cons d declared ih =>
    obtain ⟨hhead, hrest⟩ := List.forall_mem_cons.mp hd
    exact List.forall_mem_cons.mpr ⟨isIdentifier_chooseName h place hhead taken, ih hrest _ _⟩

/-! ### Texts of a method -/

/-- Read back, the texts that a mock was put together from are the names that were chosen, the texts
that the resolver gives for the types of parameters and results, and the zero values of the results.
The dots of a variadic method stand at its last parameter alone, and all results have names or
none. -/
structure ReadsBack (symbols : Symbols σ) (r : Resolver σ) (m : Method) (mock : MockMethod)
    (params results : List String) : Prop where
  name           : mock.name = m.name
  params_length  : params.length = m.signature.params.length
  results_length : results.length = m.signature.results.length
  named          : (∀ name ∈ results, name ≠ "") ∨ ∀ name ∈ results, name = ""
  parameters     : ∃ texts,
    List.Forall₂ (fun v text => outcome symbols r (.name v.type) = .ok text) m.signature.params
        texts ∧
      readValues mock.parameters =
        params.zip (texts.mapIdx fun k text =>
          dots m.signature.variadic m.signature.params.length k ++ text)
  results        : ∃ texts,
    List.Forall₂ (fun v text => outcome symbols r (.name v.type) = .ok text) m.signature.results
        texts ∧
      readResults mock.results = results.zip texts
  arguments      : splitCommas mock.callArgs =
    params.mapIdx fun k name => name ++ dots m.signature.variadic m.signature.params.length k
  zeros          : List.Forall₂ (fun v text => outcome symbols r (.zero v.type) = .ok text)
    m.signature.results (splitCommas mock.zeroResults)

theorem forall_mem_of_forall₂ {α β : Type} {R : α → β → Prop} {p : β → Prop} {as : List α}
    {bs : List β} (h : List.Forall₂ R as bs) (hp : ∀ a ∈ as, ∀ b, R a b → p b) :
    ∀ b ∈ bs, p b := by
  induction h with
  | nil => exact nofun
  | cons hab _ ih =>
    obtain ⟨ha, has⟩ := List.forall_mem_cons.mp hp
    exact List.forall_mem_cons.mpr ⟨ha _ hab, ih has⟩

namespace MethodMock

/-- The parameters of a mock method are called by identifiers. -/
theorem isIdentifier_params (h : MethodMock r i taken m mock params results)
    (hlexical : ∀ v ∈ m.signature.params, v.Lexical) : ∀ name ∈ params, isIdentifier name := by
  rw [h.params_eq]
  refine isIdentifier_of_mem_chooseNames (by decide) (fun d hd => ?_) taken 0
  obtain ⟨v, hv, rfl⟩ := List.mem_map.mp hd
  exact (hlexical v hv).1

/-- Named results are called by identifiers. -/
theorem isIdentifier_results (h : MethodMock r i taken m mock params results)
    (hlexical : ∀ v ∈ m.signature.results, v.Lexical) (hnamed : hasNamedResults m) :
    ∀ name ∈ results, isIdentifier name := by
  rw [h.results_eq, if_pos hnamed]
  refine isIdentifier_of_mem_chooseNames (by decide) (fun d hd => ?_) _ 0
  obtain ⟨v, hv, rfl⟩ := List.mem_map.mp hd
  exact (hlexical v hv).1

/-- Results are unnamed where the method does not name them. -/
theorem eq_empty_of_mem_results (h : MethodMock r i taken m mock params results)
    (hnamed : hasNamedResults m = false) : ∀ name ∈ results, name = "" := by
  rw [h.results_eq, hnamed]
  intro name hname
  obtain ⟨v, -, hv⟩ := List.mem_map.mp hname
  exact hv.symm

/-- The mock of a method is read back, where texts spell their types. -/
theorem readsBack (h : MethodMock r i taken m mock params results)
    (hr : Faithful symbols goesBy r) (hq : ∀ path ident, goesBy path ident → isIdentifier ident)
    (hlexical : ∀ v ∈ m.signature.params ++ m.signature.results, v.Lexical)
    (htold : symbols.TellsLexical) : ReadsBack symbols r m mock params results := by
  obtain ⟨hparamsLexical, hresultsLexical⟩ := List.forall_mem_append.mp hlexical
  have hnames : ∀ {vs : List Value} {texts : List String},
      List.Forall₂ (fun v text => r.names.lookup v.type = some text) vs texts →
        List.Forall₂ (fun v text => outcome symbols r (.name v.type) = .ok text) vs texts :=
    fun htexts => htexts.imp fun v text hl => outcome_of_textOf? (c := .name v.type) hl
  refine ⟨h.name, h.params_length, h.results_length, ?named, ?parameters, ?results, ?arguments,
    ?zeros⟩
  case named =>
    cases hnamed : hasNamedResults m with
    | true =>
      refine .inl fun name hname => ?_
      rintro rfl
      exact nomatch h.isIdentifier_results hresultsLexical hnamed "" hname
    | false => exact .inr (h.eq_empty_of_mem_results hnamed)
  case parameters =>
    obtain ⟨texts, htexts, hparameters⟩ := h.parameters
    have hsealed : ∀ text ∈ texts, Sealed text := forall_mem_of_forall₂ htexts
      fun v hv text hl => v.type.sealed_of_spells hq (hr.names _ _ hl) (hparamsLexical v hv).2
    refine ⟨texts, hnames htexts, ?_⟩
    rw [hparameters, markVariadic_eq, ← htexts.length_eq]
    refine readValues_joinNamed fun v hv => ?_
    obtain ⟨hname, htext⟩ := List.of_mem_zip hv
    obtain ⟨k, hk, htext⟩ := List.mem_mapIdx.mp htext
    rw [← htext]
    exact ⟨h.isIdentifier_params hparamsLexical _ hname,
      Sealed.append (sealed_dots _ _ _) (hsealed _ (List.getElem_mem hk))⟩
  case results =>
    obtain ⟨texts, htexts, hresults⟩ := h.results
    obtain ⟨zeros, hzeros, -⟩ := h.zeroResults
    -- a type set has no zero value, so no result is one
    obtain ⟨hunion, -⟩ := (List.forall₂_and_left _ _).mp
      (hzeros.imp fun v text hl => ⟨(hr.zeros _ _ hl).no_union, hl⟩)
    have halone : ∀ text ∈ texts, StandsAlone text := forall_mem_of_forall₂ htexts
      fun v hv text hl =>
        standsAlone_of_spells hq (hr.names _ _ hl) (hresultsLexical v hv).2 (hunion v hv)
    refine ⟨texts, hnames htexts, ?_⟩
    rw [hresults]
    cases hnamed : hasNamedResults m with
    | true =>
      refine readResults_named fun v hv => ?_
      obtain ⟨hname, htext⟩ := List.of_mem_zip hv
      exact ⟨h.isIdentifier_results hresultsLexical hnamed _ hname, (halone _ htext).sealed⟩
    | false =>
      refine readResults_unnamed fun v hv => ?_
      obtain ⟨hname, htext⟩ := List.of_mem_zip hv
      exact ⟨h.eq_empty_of_mem_results hnamed _ hname, halone _ htext⟩
  case arguments =>
    rw [h.callArgs, splitCommas_callArguments _ (h.isIdentifier_params hparamsLexical),
      h.params_length]
  case zeros =>
    obtain ⟨texts, htexts, hzeros⟩ := h.zeroResults
    have hsealed : ∀ text ∈ texts, Sealed text ∧ text ≠ "" := forall_mem_of_forall₂ htexts
      fun v hv text hl => (hr.zeros _ _ hl).literal.sealed hq htold (hresultsLexical v hv).2
    rw [hzeros, Text.splitCommas_intercalate hsealed]
    exact htexts.imp fun v text hl => outcome_of_textOf? (c := .zero v.type) hl

end MethodMock

/-- **The signatures of a mock are those of the interface.** Let the names that are declared, those
in types and the identifiers of imports be Go identifiers, the lengths of arrays integers and the
tags of fields string literals. In a mock file that was built, the interfaces have the mocks of
their methods in order. The parameters, results, arguments and zero values in the mock of a method
are read back as the names that were chosen and the texts that the resolver gives. -/
theorem signatures_of_mockFile (symbols : Symbols σ) (package : Package)
    (interfaces : List Interface) (options : MockOptions) (state : σ) {file : MockFile}
    (h : (mockFile symbols package interfaces options state).1 = .ok file)
    (hident : ∀ ident ∈ file.identifiers, isIdentifier ident)
    (hlexical : ∀ i ∈ interfaces, ∀ m ∈ i.methods,
      ∀ v ∈ m.signature.params ++ m.signature.results, v.Lexical)
    (htold : symbols.TellsLexical) :
    let last := lastResolver symbols package interfaces options (.ofModule package.module state)
    List.Forall₂ (fun i mockOf => List.Forall₂ (fun m mock => ∃ params results,
      MethodMock last i (takenNames last interfaces i) m mock params results ∧
        ReadsBack symbols last m mock params results) i.methods mockOf.methods)
      interfaces file.interfaces := by
  intro last
  obtain ⟨-, -, hmock⟩ := of_mockFile_eq_ok h
  have hr : Faithful symbols (GoesBy last) last :=
    (faithful_ofModule symbols (GoesBy last) package.module state).after
      fun i hi => ⟨i, hi, rfl, rfl⟩
  have hq : ∀ path ident, GoesBy last path ident → isIdentifier ident := by
    rintro _ _ ⟨i, hi, rfl, rfl⟩
    exact hident _ (hmock.mem_identifiers.mpr (ImportTable.mem_identifiers.mpr ⟨i, hi, rfl⟩))
  refine ((List.forall₂_and_left _ _).mpr ⟨hlexical, hmock.interfaces⟩).imp ?_
  rintro i mockOf ⟨hmethods, hinterface⟩
  refine ((List.forall₂_and_left _ _).mpr ⟨hmethods, hinterface.methods⟩).imp ?_
  rintro m mock ⟨hvalues, params, results, hmethod⟩
  exact ⟨params, results, hmethod, hmethod.readsBack hr hq hvalues htold⟩

/-- An interface with a variadic method. Two of its parameters share a type, which is the element
type of the last one too; there are commas in the type of another parameter and in that of a
result. -/
def printer : Interface where
  name         := "Printer"
  file         := ⟨"/printer.go"⟩
  line         := 5
  exported     := true
  typeParams   := []
  methods      := [⟨"Print",
    ⟨[⟨"a", .basic .int⟩, ⟨"b", .basic .int⟩,
        ⟨"m", .function ⟨[⟨"x", .basic .int⟩, ⟨"y", .basic .bool⟩], [], false⟩⟩,
        ⟨"rest", .basic .int⟩],
      [⟨"", .named ⟨some "time", "Time", []⟩⟩,
        ⟨"", .struct [⟨some "A", .basic .int, some "\"a,b\""⟩]⟩], true⟩⟩]
  isConstraint := false

/-- The four parameters, two results, four arguments and two zero values are read back. -/
theorem signatures_of_mockFile_printer :
    ∃ file, shopFile [printer] = .ok file ∧ ∃ mockOf mock params results,
      file.interfaces = [mockOf] ∧ mockOf.methods = [mock] ∧
        mock.parameters = "a, b int, a2 func(int, bool), rest ...int" ∧
        mock.results = "(time.Time, struct\x7b A int \"a,b\" \x7d)" ∧
        ReadsBack suggestedNames (shopResolver [printer]) printer.methods.head! mock params
          results := by
  have htexts : (shopFile [printer]).map (fun file => file.interfaces.map fun i =>
      i.methods.map fun m => (m.parameters, m.results)) =
        .ok [[("a, b int, a2 func(int, bool), rest ...int",
          "(time.Time, struct\x7b A int \"a,b\" \x7d)")]] := by
    decide +kernel
  have hentries : ∀ ident ∈ (shopResolver [printer]).imports.identifiers, isIdentifier ident := by
    decide +kernel
  cases hfile : shopFile [printer] with
  | error e => exact nomatch hfile ▸ htexts
  | ok file =>
    obtain ⟨mockOf, hinterfaces, mock, hmethods, hparameters, hresults⟩ :
        ∃ mockOf, file.interfaces = [mockOf] ∧ ∃ mock, mockOf.methods = [mock] ∧
          mock.parameters = "a, b int, a2 func(int, bool), rest ...int" ∧
          mock.results = "(time.Time, struct\x7b A int \"a,b\" \x7d)" := by
      rw [hfile] at htexts
      simpa using Except.ok.inj htexts
    obtain ⟨-, -, hmock⟩ := of_mockFile_eq_ok hfile
    have htold : suggestedNames.TellsLexical := by
      rintro n s u hu
      obtain rfl := Except.ok.inj hu
      decide
    have hall := signatures_of_mockFile suggestedNames shop [printer] shopOptions () hfile
      (fun ident hident => hentries ident (hmock.mem_identifiers.mp hident)) (by decide +kernel)
      htold
    obtain ⟨hmocks, -⟩ := List.forall₂_cons.mp (hinterfaces ▸ hall)
    obtain ⟨⟨params, results, -, hreads⟩, -⟩ := List.forall₂_cons.mp (hmethods ▸ hmocks)
    exact ⟨file, rfl, mockOf, mock, params, results, hinterfaces, hmethods, hparameters, hresults,
      hreads⟩

end MockFile

end GoMocks
