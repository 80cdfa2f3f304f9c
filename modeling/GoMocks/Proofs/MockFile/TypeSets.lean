import GoMocks.Proofs.Definition.Chain
import GoMocks.Proofs.Loading.History
import GoMocks.Proofs.MockFile.Simulation
import GoMocks.Proofs.Resolver.ZeroValues

/-!
# Mock files — results of constraint types

No value has a constraint as its type, so there is no zero value to return for one. A type set that
is written as such is rejected. But a constraint is declared by an interface, and the type set in it
is one of the types that the interface embeds: it is not looked at, and `nil` is returned.

* `Resolver.outcome_zero_of_union`, `outcome_zero_of_interface`: the zero values of type sets and of
  interfaces, where the definition is told the same in all of a run.
* `NamedType.EndsAsInterface`: a name that is declared by an interface.
* `MockFile.zero_of_constraint`: which constraints are rejected, and what is returned for the
  others.
-/

namespace GoMocks

open NamedType (Leads Stops declares_iff)

variable {packages : String → Option SourcePackage} {t u v : GoType} {n m : NamedType}

/-! ### Zero values in a run -/

namespace Resolver

variable {σ : Type} {symbols : Symbols σ} {module : String} {state : σ} {before : List ResolverCall}

/-- A type is told to be defined as a second one, in every state of a run. -/
def ToldThroughout (symbols : Symbols σ) (first : Resolver σ) (calls : List ResolverCall)
    (t u : GoType) : Prop :=
  ∀ earlier, earlier <+: calls → symbols.definition t (first.after symbols earlier).state = .ok u

/-- **A type set has no zero value**, nor has a name of one. -/
theorem outcome_zero_of_union {terms : List Term}
    (h : ToldThroughout symbols (ofModule module state) before t (.union terms)) :
    ∃ reason, outcome symbols ((ofModule module state).after symbols before) (.zero t) =
      .error (.unsupportedType t.text reason) := by
  have hlast := h before List.prefix_rfl
  -- a text that is remembered would be the zero value of a definition that was told
  have hnone : ((ofModule module state).after symbols before).zeros.lookup t = none := by
    cases hl : ((ofModule module state).after symbols before).zeros.lookup t with
    | none => rfl
    | some text =>
      obtain ⟨_, ⟨earlier, hearlier, rfl⟩, u, hu, hzero⟩ :=
        recalls_after module state before t text hl
      obtain rfl := Except.ok.inj ((h earlier hearlier).symm.trans hu)
      cases hzero
  generalize (ofModule module state).after symbols before = r at hlast hnone ⊢
  simp only [outcome, ResolverCall.perform, zero, run_rememberedZero, hnone]
  cases t with
  | union terms' => exact ⟨.typeSetWithoutZero, rfl⟩
  | named n =>
    obtain ⟨_ | package, name, arguments⟩ := n
    · cases Except.ok.inj hlast
    · have htold : (symbols.underlying ⟨some package, name, arguments⟩ r.state).1 =
        .ok (.union terms) := hlast
      simp only [writeZero, run_bind, run_underlying, htold]
      exact ⟨.constraintWithoutZero, rfl⟩
  | _ => cases Except.ok.inj hlast

/-- **The zero value of an interface is `nil`**, whatever it embeds. -/
theorem outcome_zero_of_interface {methods : List MethodSpec} {embeds : List GoType}
    (h : ToldThroughout symbols (ofModule module state) before t (.interface methods embeds)) :
    outcome symbols ((ofModule module state).after symbols before) (.zero t) = .ok "nil" := by
  obtain ⟨earlier, hearlier, hlacks, hhas⟩ := zero_eq symbols module state before t
  rw [h earlier hearlier] at hlacks hhas
  cases hzero : outcome symbols ((ofModule module state).after symbols before) (.zero t) with
  | error e => exact nomatch hlacks.mp ⟨e, hzero⟩
  | ok text =>
    obtain ⟨v, hv, hv'⟩ := hhas text hzero
    obtain rfl := Except.ok.inj hv
    cases hv'
    rfl

end Resolver

/-! ### The definitions of constraints -/

/-- A name that is declared by an interface, as far as the chain of definitions leads. -/
def NamedType.EndsAsInterface (packages : String → Option SourcePackage) (n : NamedType) : Prop :=
  ∃ k m path p file spec elems, Leads packages k n m ∧ m.package = some path ∧
    packages path = some p ∧ p.declaration? m.name = some (file, spec) ∧
    spec.type = .interface elems

/-- The end of a chain is where its name leads. -/
theorem LeadsTo.of_stops (h : Stops packages n t) : LeadsTo packages (.named n) t := by
  obtain ⟨package, name, arguments⟩ := n
  cases h with
  | error hn hname =>
    obtain rfl : package = none := hn
    obtain rfl : name = "error" := hname
    exact .predeclared rfl
  | empty hn hname =>
    obtain rfl : package = none := hn
    obtain rfl | rfl : name = "any" ∨ name = "comparable" := hname
    · exact .predeclared rfl
    · exact .predeclared rfl
  | declared hn => exact .definition (declares_iff.mp hn)

theorem NamedType.Stops.ne_named (h : Stops packages n t) (l : NamedType) : t ≠ .named l := by
  cases h with
  | error        => exact nofun
  | empty        => exact nofun
  | declared _ h => exact h l

/-- A predeclared name leads to no type set that is written out. -/
theorem not_reaches_union_of_predeclared {name : String} {arguments : List GoType}
    {terms : List Term} :
    ¬ Reaches packages (.named ⟨none, name, arguments⟩) (.union terms) := by
  intro h
  obtain h | ⟨v, hv, h⟩ := reaches_iff.mp h
  · cases h
  · cases hv with
    | definition hd =>
      obtain ⟨_, hpackage⟩ := NamedType.exists_package_of_definition hd
      cases hpackage
    | predeclared hname =>
      have hstops : Stops packages ⟨none, name, arguments⟩ v :=
        (NamedType.stops_iff_of_package_eq_none rfl).mpr hname
      -- both predeclared interfaces embed nothing
      cases hstops with
      | error        => simp [reaches_interface] at h
      | empty        => simp [reaches_interface] at h
      | declared h _ => exact h.package_ne_none rfl

/-- A type that is no name is reached from a name by way of what the name stands for. -/
theorem reaches_of_stops {k : Nat} (hchain : Leads packages k n m) (hstops : Stops packages m u)
    (hv : ∀ l, v ≠ .named l) (h : Reaches packages (.named n) v) : Reaches packages u v := by
  induction hchain with
  | refl n =>
    obtain rfl | ⟨w, hw, h⟩ := reaches_iff.mp h
    · exact absurd rfl (hv n)
    · exact hw.unique (.of_stops hstops) ▸ h
  | @next _ n _ _ hn _ ih =>
    obtain rfl | ⟨w, hw, h⟩ := reaches_iff.mp h
    · exact absurd rfl (hv n)
    · exact ih hstops (hw.unique (.definition (declares_iff.mp hn)) ▸ h)

/-- Behind a name at which the chain stops, no other name is declared. -/
theorem NamedType.Stops.not_declares (h : Stops packages n t) (l : NamedType) :
    ¬ n.Declares packages (.named l) := by
  intro hl
  cases h with
  | error hn       => exact hl.package_ne_none hn
  | empty hn       => exact hl.package_ne_none hn
  | declared hn ht => exact ht l (hn.unique hl)

/-- All chains from a name that lead no further lead to the same name. -/
theorem NamedType.Leads.eq_of_last {k k' : Nat} {m' : NamedType} (h : Leads packages k n m)
    (h' : Leads packages k' n m') (hm : ∀ l, ¬ m.Declares packages (.named l))
    (hm' : ∀ l, ¬ m'.Declares packages (.named l)) : m = m' := by
  induction h generalizing k' with
  | refl n =>
    cases h' with
    | refl      => rfl
    | next hn _ => exact absurd hn (hm _)
  | next hn _ ih =>
    cases h' with
    | refl         => exact absurd hn (hm' _)
    | next hn' hl' =>
      obtain rfl := GoType.named.inj (hn.unique hn')
      exact ih hl' hm

/-- What an interface expression stands for is an interface. -/
theorem Scope.exists_interface_of_typeOf {scope : Scope} {elems : List GoSource.InterfaceElem}
    (h : (scope.typeOf (.interface elems)).answer packages = .ok t) :
    ∃ methods embeds, t = .interface methods embeds := by
  rw [Scope.typeOf] at h
  obtain ⟨⟨methods, embeds⟩, -, h⟩ := Inquiry.answer_bind_eq_ok.mp h
  exact ⟨methods, embeds, (Except.ok.inj h).symm⟩

/-- **A name that is declared by an interface stands for an interface**, where it stands for
anything. -/
theorem NamedType.EndsAsInterface.exists_interface (h : n.EndsAsInterface packages)
    (hu : n.underlying.answer packages = .ok u) :
    ∃ methods embeds, u = .interface methods embeds := by
  obtain ⟨k, m, path, p, file, spec, elems, hchain, hm, hp, hd, hspec⟩ := h
  have hinterface : ∀ t, m.Declares packages t →
      ∃ methods embeds, t = .interface methods embeds := by
    rintro _ ⟨path', p', file', spec', v, hm', hp', hd', hv, rfl⟩
    obtain rfl := Option.some.inj (hm.symm.trans hm')
    obtain rfl := Option.some.inj (hp.symm.trans hp')
    obtain ⟨rfl, rfl⟩ := Prod.mk.inj (Option.some.inj (hd.symm.trans hd'))
    rw [hspec] at hv
    obtain ⟨methods, embeds, rfl⟩ := Scope.exists_interface_of_typeOf hv
    exact ⟨_, _, by rw [GoType.substitute]⟩
  obtain ⟨_, -, l, hl, hstops⟩ := underlyingWithin_eq_ok_iff.mp hu
  -- the chain stops where the interface is declared, as no name is declared there
  obtain rfl := hchain.eq_of_last hl
    (fun l hl => by obtain ⟨_, _, h⟩ := hinterface _ hl; exact nomatch h) hstops.not_declares
  cases hstops with
  | error hn         => exact nomatch hm.symm.trans hn
  | empty hn         => exact nomatch hm.symm.trans hn
  | declared hdecl _ => exact hinterface _ hdecl

/-! ### The knowledge of a loader -/

namespace Loader

variable {tree : FileTree} {loader loader' : Loader}

/-- What a loader tells of a type depends on its packages alone. -/
theorem definition_eq_of_packages (t : GoType) (h : loader'.packages tree = loader.packages tree) :
    (symbols tree).definition t loader' = (symbols tree).definition t loader := by
  cases t with
  | named n =>
    obtain ⟨_ | package, name, arguments⟩ := n
    · rfl
    · have hanswer (loader : Loader) : (symbols tree).definition
          (.named ⟨some package, name, arguments⟩) loader =
            (NamedType.underlying ⟨some package, name, arguments⟩).answer (loader.packages tree) :=
        (run_answer tree _ loader).1
      rw [hanswer, hanswer, h]
  | _ => rfl

/-- The packages of a loader stay what they are through all calls of a resolver. -/
theorem packages_after {r : Resolver Loader} (calls : List ResolverCall) :
    (r.after (symbols tree) calls).state.packages tree = r.state.packages tree := by
  let kept : Loader → Prop := fun s => s.packages tree = r.state.packages tree
  have hname : ∀ path s, kept s → kept ((symbols tree).packageName path s).2 := fun path s hs =>
    (answer_perform tree (.packageName path) s).2.trans hs
  have hunderlying : ∀ n s, kept s → kept ((symbols tree).underlying n s).2 := fun n s hs =>
    (run_answer tree n.underlying s).2.trans hs
  exact Resolver.after_keeps hname hunderlying (Eq.refl (r.state.packages tree)) calls

/-- A loader gives the same definitions throughout. -/
theorem toldThroughout (module : String) (calls : List ResolverCall)
    (h : (symbols tree).definition t loader = .ok u) :
    Resolver.ToldThroughout (symbols tree) (.ofModule module loader) calls t u := by
  intro earlier _
  exact (definition_eq_of_packages t (packages_after earlier)).trans h

/-- A type that leads to a type set is defined as one, or as an interface. -/
theorem union_or_interface {terms : List Term}
    (ht : Reaches (loader.packages tree) t (.union terms))
    (hu : (symbols tree).definition t loader = .ok u) :
    (∃ terms, u = .union terms) ∨ ∃ methods embeds, u = .interface methods embeds := by
  have hreached : Reaches (loader.packages tree) u (.union terms) ∧ ∀ n, u ≠ .named n := by
    cases t with
    | named n =>
      obtain ⟨_ | package, name, arguments⟩ := n
      · exact absurd ht not_reaches_union_of_predeclared
      · have hanswer := (run_answer tree _ loader).1.symm.trans hu
        obtain ⟨_, -, l, hl, hstops⟩ := NamedType.underlyingWithin_eq_ok_iff.mp hanswer
        exact ⟨reaches_of_stops hl hstops nofun ht, hstops.ne_named⟩
    | _ =>
      obtain rfl := Except.ok.inj hu
      exact ⟨ht, nofun⟩
  obtain ⟨hreached, hname⟩ := hreached
  obtain rfl | ⟨v, hv, -⟩ := reaches_iff.mp hreached
  · exact .inl ⟨_, rfl⟩
  · cases hv with
    | embed         => exact .inr ⟨_, _, rfl⟩
    | definition    => exact absurd rfl (hname _)
    | predeclared _ => exact absurd rfl (hname _)

end Loader

namespace MockFile

open Resolver

/-! ### Results of mocks -/

/-- Has a method of the interfaces a result of the type? -/
def HasResult (interfaces : List Interface) (t : GoType) : Prop :=
  ∃ i ∈ interfaces, ∃ m ∈ i.methods, ∃ v ∈ m.signature.results, v.type = t

/-- Every mock returns the text for each result of the type. -/
def ReturnsText (interfaces : List Interface) (file : MockFile) (t : GoType) (text : String) :
    Prop :=
  List.Forall₂ (fun i mockOf => List.Forall₂ (fun m mock => ∃ zeros : List String,
    mock.zeroResults = ", ".intercalate zeros ∧
      List.Forall₂ (fun v zero => v.type = t → zero = text) m.signature.results zeros)
    i.methods mockOf.methods) interfaces file.interfaces

section Results

variable {σ : Type} {symbols : Symbols σ} {package : Package} {interfaces : List Interface}
  {options : MockOptions} {state : σ} {file : MockFile}

/-- The zero value of a result is called for. -/
theorem mem_fileCalls_of_hasResult (h : HasResult interfaces t) :
    .zero t ∈ fileCalls package interfaces options := by
  obtain ⟨i, hi, m, hm, v, hv, rfl⟩ := h
  refine List.mem_append_right _ (List.mem_flatMap.mpr ⟨i, hi, List.mem_append_right _ ?_⟩)
  exact List.mem_flatMap.mpr ⟨m, hm, List.mem_append_right _ (List.mem_map_of_mem hv)⟩

/-- A file is not built if the zero value of a result is refused at the end. -/
theorem exists_error_of_hasResult (h : HasResult interfaces t) {e : Error}
    (he : outcome symbols
      (lastResolver symbols package interfaces options (.ofModule package.module state)) (.zero t) =
        .error e) :
    ∃ e, (mockFile symbols package interfaces options state).1 = .error e := by
  cases hfile : (mockFile symbols package interfaces options state).1 with
  | error e => exact ⟨e, rfl⟩
  | ok file =>
    obtain ⟨hcalls, -, -⟩ := of_mockFile_eq_ok hfile
    obtain ⟨text, htext⟩ := hcalls.textOf? (mem_fileCalls_of_hasResult h) nofun
    cases he.symm.trans (outcome_of_textOf? htext)

/-- A file that is built returns the zero value that is given at the end. -/
theorem returns_of_outcome
    (hfile : (mockFile symbols package interfaces options state).1 = .ok file) {text : String}
    (h : outcome symbols
      (lastResolver symbols package interfaces options (.ofModule package.module state)) (.zero t) =
        .ok text) :
    ReturnsText interfaces file t text := by
  obtain ⟨-, -, hmock⟩ := of_mockFile_eq_ok hfile
  refine hmock.interfaces.imp fun i mockOf hinterface => hinterface.methods.imp ?_
  rintro m mock ⟨_, _, hmethod⟩
  obtain ⟨zeros, hzeros, htext⟩ := hmethod.zeroResults
  refine ⟨zeros, htext, hzeros.imp ?_⟩
  rintro v zero hzero rfl
  exact Except.ok.inj ((outcome_of_textOf? (c := .zero v.type) hzero).symm.trans h)

end Results

/-- **Which constraints are rejected as results.** Take a type that leads to a type set, through
definitions and embeddings, and that a loader can tell the definition of. If it is defined as a type
set, its zero value is refused, whatever the resolver was asked before, and no file is built with a
result of it. Else it is defined as an interface: then the zero value is `nil`, and this is what
every mock in a file returns. A name that is declared by an interface is never refused. -/
theorem zero_of_constraint (tree : FileTree) (loader : Loader) (t u : GoType)
    (hconstraint : ∃ terms, Reaches (loader.packages tree) t (.union terms))
    (htold : (Loader.symbols tree).definition t loader = .ok u) :
    let symbols := Loader.symbols tree
    let refused := ∃ terms, u = .union terms
    (∀ module before,
      let zero := outcome symbols ((ofModule module loader).after symbols before) (.zero t)
      (refused → ∃ reason, zero = .error (.unsupportedType t.text reason)) ∧
        (¬ refused → zero = .ok "nil")) ∧
    (∀ package interfaces options,
      let file := (mockFile symbols package interfaces options loader).1
      (refused → HasResult interfaces t → ∃ e, file = .error e) ∧
        (¬ refused → ∀ f, file = .ok f → ReturnsText interfaces f t "nil")) ∧
    ∀ n, t = .named n → n.EndsAsInterface (loader.packages tree) → ¬ refused := by
  intro symbols refused
  obtain ⟨terms, hreaches⟩ := hconstraint
  have hzero : ∀ module before,
      let zero := outcome symbols ((ofModule module loader).after symbols before) (.zero t)
      (refused → ∃ reason, zero = .error (.unsupportedType t.text reason)) ∧
        (¬ refused → zero = .ok "nil") := by
    intro module before
    have hthroughout := Loader.toldThroughout module before htold
    refine ⟨?_, fun hno => ?_⟩
    · rintro ⟨terms, rfl⟩
      exact outcome_zero_of_union hthroughout
    · obtain hunion | ⟨methods, embeds, rfl⟩ := Loader.union_or_interface hreaches htold
      · exact absurd hunion hno
      · exact outcome_zero_of_interface hthroughout
  refine ⟨hzero, fun package interfaces options => ⟨fun hrefused hresult => ?_, fun hno f hf => ?_⟩,
    ?_⟩
  -- a file asks for the zero values of all results, and `hzero` holds after all that it asks
  · obtain ⟨reason, he⟩ :=
      (hzero package.module (fileCalls package interfaces options)).1 hrefused
    exact exists_error_of_hasResult hresult he
  · exact returns_of_outcome hf
      ((hzero package.module (fileCalls package interfaces options)).2 hno)
  · rintro ⟨_ | package, name, arguments⟩ rfl hends ⟨terms', rfl⟩
    · exact not_reaches_union_of_predeclared hreaches
    · obtain ⟨methods, embeds, h⟩ :=
        hends.exists_interface ((Loader.run_answer tree _ loader).1.symm.trans htold)
      cases h

/-! ### A module at hand -/

/-- A loader that has read a constraint that is declared by an interface, one that is declared by a
type set, and an interface with a method that gives the first one. -/
def statsLoader : Loader where
  module := ⟨"m", ⟨"/m"⟩, [], []⟩
  root   := ⟨"/m"⟩
  env    := {}
  found  :=
    [("testing", some ⟨⟨"testing", "testing", "", ⟨"/testing"⟩, []⟩, []⟩),
      ("m/x", some (.ofTypes "m/x" []
        [⟨"Number", [], .interface [.embed [⟨true, .name "int"⟩, ⟨true, .name "float64"⟩]], 3⟩,
          ⟨"Word", [], .union [⟨true, .name "uint64"⟩], 5⟩,
          ⟨"Stats", [], .interface [.method "Total" ⟨[], [⟨[], .name "Number", false⟩]⟩], 7⟩]))]

/-- The package of the example. -/
def statsPackage : Package :=
  ⟨"x", "m/x", "m", ⟨"/m"⟩, [⟨"/m/x.go"⟩]⟩

/-- A constraint that the package declares as an interface. -/
def number : GoType := .named ⟨some "m/x", "Number", []⟩

/-- A type that the package declares as a type set. -/
def word : GoType := .named ⟨some "m/x", "Word", []⟩

/-- The interface, with a method that gives a type. -/
def stats (result : GoType) : Interface where
  name         := "Stats"
  file         := ⟨"/m/x.go"⟩
  line         := 7
  exported     := true
  typeParams   := []
  methods      := [⟨"Total", ⟨[], [⟨"", result⟩], false⟩⟩]
  isConstraint := false

/-- The sample constraint reaches its union. -/
theorem reaches_number :
    Reaches (statsLoader.packages {}) number
      (.union [⟨true, .basic .int⟩, ⟨true, .basic .float64⟩]) :=
  .head (.definition (t := .interface [] [.union [⟨true, .basic .int⟩, ⟨true, .basic .float64⟩]])
    (by decide +kernel)) (.single (.embed (.head _)))

/-- The sample constraint is defined by its union. -/
theorem definition_number :
    (Loader.symbols {}).definition number statsLoader =
      .ok (.interface [] [.union [⟨true, .basic .int⟩, ⟨true, .basic .float64⟩]]) := by
  decide +kernel

/-- The type set is refused after a successful zero value, and no mock returns it; for the
constraint that is declared by an interface, `nil` is given. -/
theorem zero_of_constraint_stats :
    let symbols := Loader.symbols {}
    let r := (ofModule "m" statsLoader).after symbols [.zero (.pointer word), .zero number]
    (∃ reason, outcome symbols r (.zero word) = .error (.unsupportedType "m/x.Word" reason)) ∧
      (∃ e, (mockFile symbols statsPackage [stats word] shopOptions statsLoader).1 = .error e) ∧
      outcome symbols r (.zero number) = .ok "nil" := by
  intro symbols r
  have hword : (Loader.symbols {}).definition word statsLoader =
      .ok (.union [⟨true, .basic .uint64⟩]) := by
    decide +kernel
  have hreaches : Reaches (statsLoader.packages {}) word
      (.union [⟨true, .basic .uint64⟩]) :=
    .single (.definition (by decide +kernel))
  obtain ⟨hzero, hfile, -⟩ := zero_of_constraint {} statsLoader word _ ⟨_, hreaches⟩ hword
  obtain ⟨hnumber, -, -⟩ :=
    zero_of_constraint {} statsLoader number _ ⟨_, reaches_number⟩ definition_number
  refine ⟨(hzero "m" _).1 ⟨_, rfl⟩, (hfile statsPackage [stats word] shopOptions).1 ⟨_, rfl⟩ ?_,
    (hnumber "m" _).2 nofun⟩
  exact ⟨_, .head _, _, .head _, _, .head _, rfl⟩

/-- The loader lists the interface, whose result is a constraint with two types in it. The file is
built, and the mock returns `nil` for it. -/
theorem number_returned_as_nil :
    Reaches (statsLoader.packages {}) number
        (.union [⟨true, .basic .int⟩, ⟨true, .basic .float64⟩]) ∧
      (statsLoader.outcome (Loader.interfaces {} "m/x")).map
          (List.filter (·.eligibility.isEligible)) = .ok [stats number] ∧
      outcome (Loader.symbols {}) (ofModule "m" statsLoader) (.zero number) = .ok "nil" ∧
      (mockFile (Loader.symbols {}) statsPackage [stats number] shopOptions
          statsLoader).1.map (fun f => f.interfaces.map fun i => i.methods.map fun m =>
            (m.name, m.results, m.zeroResults)) = .ok [[("Total", "x.Number", "nil")]] := by
  refine ⟨reaches_number, ?_, ?_, ?_⟩ <;> decide +kernel

end MockFile

end GoMocks
