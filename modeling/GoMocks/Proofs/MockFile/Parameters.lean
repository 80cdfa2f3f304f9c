import GoMocks.Proofs.MockFile.Build

/-!
# Mock files — the names of parameters and results

A method of a mock refers to its handlers, to packages and to types, all below its parameters and
named results. So none of these may have a name that the method needs for something else.

* `MockFile.Free`: a name that a parameter of some interface's methods may have in a file.
* `MethodNames`: names of the parameters and results of a method that are free and all different.
* `methodNames_of_mockFile`: the mock of every method is written with such names.
-/

namespace GoMocks

/-- Neither blank nor the name of anything that the methods of the interface's mock can refer to:
what their bodies declare or use, a predeclared type, an import or a declaration of the file, and a
type parameter. -/
structure MockFile.Free (file : MockFile) (i : Interface) (name : String) : Prop where
  nonempty    : name ≠ ""
  body        : name ∉ MockFile.bodyNames
  predeclared : name ∉ MockFile.predeclaredNames
  identifier  : name ∉ file.identifiers
  declaration : name ∉ file.declarations
  typeParam   : name ∉ i.typeParams.map TypeParam.name

namespace MockFile

open Resolver

variable {σ : Type} {r : Resolver σ} {interfaces : List Interface} {file : MockFile}
  {i : Interface} {m : Method} {mock : MockMethod} {params results : List String}

/-- The names of parameters and results that were chosen; results without names have none. -/
def chosenNames (m : Method) (params results : List String) : List String :=
  params ++ if hasNamedResults m then results else []

/-- The names that the interface declares for them. -/
def sourceNames (m : Method) : List String :=
  chosenNames m (m.signature.params.map Value.name) (m.signature.results.map Value.name)

/-- Names that were chosen for the parameters and results of a method. They are free and all
different, and a name that the interface declares is kept exactly when it is free and none of the
names that were chosen before it. -/
structure MethodNames (file : MockFile) (i : Interface) (m : Method)
    (params results : List String) : Prop where
  params_length  : params.length = m.signature.params.length
  results_length : results.length = m.signature.results.length
  free           : ∀ name ∈ chosenNames m params results, file.Free i name
  nodup          : (chosenNames m params results).Nodup
  kept_iff       : ∀ k (hs : k < (sourceNames m).length)
    (hc : k < (chosenNames m params results).length),
    (chosenNames m params results)[k] = (sourceNames m)[k] ↔
      file.Free i (sourceNames m)[k] ∧ (sourceNames m)[k] ∉ (chosenNames m params results).take k

/-- The names that are taken by a file and an interface, when those of a method are chosen. -/
def takenNames (r : Resolver σ) (interfaces : List Interface) (i : Interface) : List String :=
  reservedNames r interfaces ++ i.typeParams.map TypeParam.name

/-- What is forbidden to the names of a method is what is not free. -/
theorem FileMock.not_mem_forbiddenNames (h : FileMock r interfaces file) {name : String} :
    name ∉ forbiddenNames (takenNames r interfaces i) ↔ file.Free i name := by
  rw [mem_forbiddenNames, takenNames, reservedNames, ← h.declarations_eq]
  simp only [List.mem_append, ← h.mem_identifiers, not_or]
  constructor
  · rintro ⟨hn, hb, hp, ⟨hi, hd⟩, ht⟩
    exact ⟨hn, hb, hp, hi, hd, ht⟩
  · rintro ⟨hn, hb, hp, hi, hd, ht⟩
    exact ⟨hn, hb, hp, ⟨hi, hd⟩, ht⟩

namespace MethodMock

variable {taken : List String}

/-- Parameters and named results are chosen one after the other. -/
theorem chosen (h : MethodMock r i taken m mock params results) :
    Chosen taken (sourceNames m) (chosenNames m params results) := by
  rw [h.results_eq, sourceNames, chosenNames, chosenNames, h.params_eq]
  cases hasNamedResults m with
  | false => simpa using chosen_chooseNames 'a' taken 0 _
  | true => exact (chosen_chooseNames 'a' taken 0 _).append (chosen_chooseNames 'r' _ 0 _)

theorem params_length (h : MethodMock r i taken m mock params results) :
    params.length = m.signature.params.length := by
  rw [h.params_eq, (chosen_chooseNames ..).length_eq, List.length_map]

theorem results_length (h : MethodMock r i taken m mock params results) :
    results.length = m.signature.results.length := by
  rw [h.results_eq]
  split
  · rw [(chosen_chooseNames ..).length_eq, List.length_map]
  · rw [List.length_map]

end MethodMock

/-- The names that the mock of a method gives are free in the file. -/
theorem FileMock.methodNames (h : FileMock r interfaces file)
    (hm : MethodMock r i (takenNames r interfaces i) m mock params results) :
    MethodNames file i m params results where
  params_length := hm.params_length
  results_length := hm.results_length
  free name hname := h.not_mem_forbiddenNames.mp (hm.chosen.free name hname)
  nodup := hm.chosen.nodup
  kept_iff k hs hc := by rw [hm.chosen.kept_iff hs hc, h.not_mem_forbiddenNames]

/-- **Parameters and results hide nothing.** In a mock file that was built, the mocks of the
interfaces have the mocks of their methods in order. The names that were chosen for the parameters
and results of each, and that its source is written with, are free and all different; a name is only
replaced if it has to be. Whatever is taken, the search for a replacement ends, with the first one
that is not forbidden. -/
theorem methodNames_of_mockFile (symbols : Symbols σ) (package : Package)
    (interfaces : List Interface) (options : MockOptions) (state : σ) :
    let last := lastResolver symbols package interfaces options (.ofModule package.module state)
    (∀ file, (mockFile symbols package interfaces options state).1 = .ok file →
      List.Forall₂ (fun i mockOf => List.Forall₂ (fun m mock => ∃ params results,
        MethodMock last i (takenNames last interfaces i) m mock params results ∧
          MethodNames file i m params results) i.methods mockOf.methods)
        interfaces file.interfaces) ∧
    ∀ letter place taken, ∃ n,
      firstFresh? (forbiddenNames taken) (replacement letter place) =
          some (replacement letter place n) ∧
        replacement letter place n ∉ forbiddenNames taken ∧
        ∀ k < n, replacement letter place k ∈ forbiddenNames taken := by
  refine ⟨fun file hfile => ?_, fun letter place taken =>
    firstFresh?_spec (replacement_injective letter place) _⟩
  obtain ⟨-, -, hmock⟩ := of_mockFile_eq_ok hfile
  refine hmock.interfaces.imp fun i mockOf hinterface => hinterface.methods.imp fun m mock => ?_
  rintro ⟨params, results, hmethod⟩
  exact ⟨params, results, hmethod, hmock.methodNames hmethod⟩

/-- An interface with a method whose parameters are called like a package, not at all, and like the
replacement of the one before; of its results, one is called like the receiver. -/
def clock : Interface where
  name         := "Clock"
  file         := ⟨"/clock.go"⟩
  line         := 5
  exported     := true
  typeParams   := []
  methods      := [⟨"Wait",
    ⟨[⟨"time", .named ⟨some "time", "Time", []⟩⟩, ⟨"", .basic .int⟩, ⟨"a1", .basic .string⟩],
      [⟨"err", .named ⟨none, "error", []⟩⟩, ⟨"m", .basic .bool⟩], false⟩⟩]
  isConstraint := false

/-- The three parameters and one result get other names. -/
theorem methodNames_of_mockFile_clock :
    ∃ file, shopFile [clock] = .ok file ∧ ∃ mockOf mock params results,
      file.interfaces = [mockOf] ∧ mockOf.methods = [mock] ∧
        mock.parameters = "a0 time.Time, a1 int, a2 string" ∧
        mock.results = "(err error, r1 bool)" ∧
        MethodNames file clock clock.methods.head! params results := by
  have htexts : (shopFile [clock]).map (fun file => file.interfaces.map fun i =>
      i.methods.map fun m => (m.parameters, m.results)) =
        .ok [[("a0 time.Time, a1 int, a2 string", "(err error, r1 bool)")]] := by
    decide +kernel
  cases hfile : shopFile [clock] with
  | error e => exact nomatch hfile ▸ htexts
  | ok file =>
    obtain ⟨hall, -⟩ := methodNames_of_mockFile suggestedNames shop [clock] shopOptions ()
    obtain ⟨mockOf, hinterfaces, mock, hmethods, hparameters, hresults⟩ :
        ∃ mockOf, file.interfaces = [mockOf] ∧ ∃ mock, mockOf.methods = [mock] ∧
          mock.parameters = "a0 time.Time, a1 int, a2 string" ∧
          mock.results = "(err error, r1 bool)" := by
      rw [hfile] at htexts
      simpa using Except.ok.inj htexts
    obtain ⟨hmocks, -⟩ := List.forall₂_cons.mp (hinterfaces ▸ hall file hfile)
    obtain ⟨⟨params, results, -, hnames⟩, -⟩ := List.forall₂_cons.mp (hmethods ▸ hmocks)
    exact ⟨file, rfl, mockOf, mock, params, results, hinterfaces, hmethods, hparameters, hresults,
      hnames⟩

end MockFile

end GoMocks
