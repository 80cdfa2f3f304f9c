import GoMocks.MockFile.Build
import GoMocks.Proofs.MockFile.Names
import GoMocks.Proofs.Resolver.Growth

/-!
# Mock files — the two rounds

A mock file is built in two rounds. The first one asks the resolver for every text; whatever the
provider answers, the second one finds all of them there. So it changes nothing, enters no import,
and fails for its checks of names alone.

* `fileCalls`: what the first round asks for, one call after the other.
* `MethodMock`, `InterfaceMock`, `FileMock`: what is said of a mock that was built.
* `build_of_succeeds`: if the calls succeed, the file is built, or a name collides.
* `of_build_eq_ok`: a file that was built has been asked for, checked, and put together like this.
-/

namespace GoMocks

/-- The imports of a mock file, class by class. -/
def MockFile.imports (file : MockFile) : List Import :=
  file.standard ++ file.external ++ file.internal

/-- The identifiers that a mock file knows packages by. -/
def MockFile.identifiers (file : MockFile) : List String :=
  file.imports.map Import.ident

/-- The types and functions that a mock file declares. -/
def MockFile.declarations (file : MockFile) : List String :=
  file.interfaces.flatMap fun i => i.name :: i.constructor :: i.methods.map MockMethod.funcType

namespace MockFile

open Resolver

variable {σ : Type} {symbols : Symbols σ} {r r' : Resolver σ} {package : Package}
  {interfaces : List Interface} {options : MockOptions}

/-! ### What the first round asks for -/

/-- The texts that the mock of a method needs. -/
def methodCalls (m : Method) : List ResolverCall :=
  (m.signature.params ++ m.signature.results).map (fun v => .name v.type) ++
    m.signature.results.map fun v => .zero v.type

/-- The texts that the mock of an interface needs. -/
def interfaceCalls (i : Interface) : List ResolverCall :=
  i.typeParams.map (fun p => .name p.constraint) ++ i.methods.flatMap methodCalls

/-- The packages that every mock file refers to. -/
def packageCalls (package : Package) (options : MockOptions) : List ResolverCall :=
  [.importPackage "testing", .importPackage options.runtime, .importPackage package.path]

/-- The packages and texts that a mock file needs. -/
def fileCalls (package : Package) (interfaces : List Interface) (options : MockOptions) :
    List ResolverCall :=
  packageCalls package options ++ interfaces.flatMap interfaceCalls

/-- Writing the types of an interface is performing its calls. -/
theorem writeTypes_eq (symbols : Symbols σ) (i : Interface) :
    writeTypes symbols i = performAll symbols (interfaceCalls i) := by
  have hmethod : ∀ m : Method, performAll symbols (methodCalls m) = (do
      (m.signature.params ++ m.signature.results).forM fun v =>
        discard (Resolver.name symbols v.type)
      m.signature.results.forM fun v => discard (Resolver.zero symbols v.type)) := fun m => by
    simp only [performAll, methodCalls, List.forM_eq_forM, List.forM_append, List.forM_map]
    rfl
  have hsplit : performAll symbols (interfaceCalls i) = (do
      i.typeParams.forM fun p => discard (Resolver.name symbols p.constraint)
      performAll symbols (i.methods.flatMap methodCalls)) := by
    simp only [performAll, interfaceCalls, List.forM_eq_forM, List.forM_append, List.forM_map]
    rfl
  rw [hsplit, performAll_flatMap]
  simp only [hmethod]
  rfl

/-- An error inside an interface says where it is. -/
theorem run_inInterface {α : Type} (package : Package) (i : Interface) (action : ResolverM σ α)
    (r : Resolver σ) :
    (inInterface package i action).run.run r =
      match action.run.run r with
      | (.ok a, r')    => (.ok a, r')
      | (.error e, r') => (.error (.inInterface package.path i.name i.file i.line e), r') := by
  show ((tryCatch action _ : ExceptT Error (StateM (Resolver σ)) α).run).run r = _
  rw [ExceptT.run_tryCatch, StateT.run_bind]
  rcases action.run.run r with ⟨e | a, r'⟩ <;> rfl

/-- A success inside an interface is one of the action. -/
theorem run_inInterface_eq_ok {α : Type} {i : Interface} {action : ResolverM σ α} {a : α} :
    (inInterface package i action).run.run r = (.ok a, r') ↔ action.run.run r = (.ok a, r') := by
  rw [run_inInterface]
  rcases action.run.run r with ⟨e | a', r₁⟩
  · exact ⟨nofun, nofun⟩
  · exact Iff.rfl

/-- The first round succeeds if all of its calls do. -/
theorem run_firstRound_eq_ok (package : Package) :
    (interfaces.forM fun i => inInterface package i (writeTypes symbols i)).run.run r =
        (.ok (), r') ↔
      Succeeds symbols r (interfaces.flatMap interfaceCalls) ∧
        r' = r.after symbols (interfaces.flatMap interfaceCalls) := by
  simp only [← run_performAll_eq_ok, performAll_flatMap, writeTypes_eq]
  induction interfaces generalizing r with
  | nil => exact Iff.rfl
  | cons i interfaces ih =>
    simp only [List.forM_eq_forM, List.forM_cons, run_bind_eq_ok, run_inInterface_eq_ok] at ih ⊢
    simp only [ih]

/-! ### What the second round puts together -/

/-- Are any results of the method named? -/
def hasNamedResults (m : Method) : Bool :=
  m.signature.results.any fun v => !v.name.isEmpty

/-- The mock of a method, with the names it gives to parameters and results and the texts of their
types. -/
structure MethodMock (r : Resolver σ) (i : Interface) (taken : List String) (m : Method)
    (mock : MockMethod) (params results : List String) : Prop where
  name       : mock.name = m.name
  funcType   : mock.funcType = handlerName i m
  params_eq  : params = chooseNames 'a' taken 0 (m.signature.params.map Value.name)
  results_eq : results = if hasNamedResults m then
      chooseNames 'r' (params.reverse ++ taken) 0 (m.signature.results.map Value.name)
    else m.signature.results.map fun _ => ""
  parameters : ∃ types,
    List.Forall₂ (fun v text => r.names.lookup v.type = some text) m.signature.params types ∧
      mock.parameters = joinNamed
        (params.zip (if m.signature.variadic then markVariadic types else types))
  callArgs   : mock.callArgs = ", ".intercalate (callArguments m.signature.variadic params)
  results    : ∃ types,
    List.Forall₂ (fun v text => r.names.lookup v.type = some text) m.signature.results types ∧
      mock.results = resultPart (hasNamedResults m) (results.zip types)
  zeroResults : ∃ texts,
    List.Forall₂ (fun v text => r.zeros.lookup v.type = some text) m.signature.results texts ∧
      mock.zeroResults = ", ".intercalate texts

/-- The declaration of the type of a method's handlers, with type parameters and its signature, and
what goes by the name of the method. -/
structure HandlerMock (typeParams typeArgs : String) (mock : MockMethod) : Prop where
  funcTypeDecl : mock.funcTypeDecl = mock.funcType ++ typeParams
  funcTypeRef  : mock.funcTypeRef = mock.funcType ++ typeArgs
  adder        : mock.adder = "Add" ++ mock.name
  setter       : mock.setter = "Set" ++ mock.name
  signature    : mock.signature =
    "(" ++ mock.parameters ++ ")" ++ if mock.results.isEmpty then "" else " " ++ mock.results

/-- The mock of an interface, with its type parameters and the mocks of its methods in order. -/
structure InterfaceMock (r : Resolver σ) (reserved : List String) (i : Interface)
    (mock : MockInterface) : Prop where
  name        : mock.name = i.name
  constructor : mock.constructor = "New" ++ i.name
  typeParams  : ∃ texts,
    List.Forall₂ (fun p text => r.names.lookup p.constraint = some text) i.typeParams texts ∧
      mock.typeParams = bracketed
        (((i.typeParams.map TypeParam.name).zip texts).map fun p => p.1 ++ " " ++ p.2)
  typeRef     : mock.typeRef = i.name ++ bracketed (i.typeParams.map TypeParam.name)
  newValue    : ∃ runtime ∈ r.imports.entries,
    mock.newValue = "&" ++ mock.typeRef ++ "\x7b" ++ runtime.ident ++ ".New(), t\x7d"
  varPadding  : ∃ n, mock.varPadding = .ofList (.replicate n ' ')
  sourceRef   : ∃ source ∈ r.imports.entries, mock.sourceRef =
    source.ident ++ "." ++ i.name ++ bracketed (i.typeParams.map TypeParam.name)
  handlers    : ∀ m ∈ mock.methods,
    HandlerMock mock.typeParams (bracketed (i.typeParams.map TypeParam.name)) m
  methods     : List.Forall₂ (fun m mock => ∃ params results,
    MethodMock r i (reserved ++ i.typeParams.map TypeParam.name) m mock params results)
    i.methods mock.methods

/-- The names that no type parameter and no parameter of a file has. -/
def reservedNames (r : Resolver σ) (interfaces : List Interface) : List String :=
  r.imports.identifiers ++ interfaces.flatMap declaredNames

/-- The mock file, with the imports of the resolver and the mocks of its interfaces in order. -/
structure FileMock (r : Resolver σ) (interfaces : List Interface) (file : MockFile) : Prop where
  standard   : file.standard = r.imports.sorted .standard
  external   : file.external = r.imports.sorted .external
  internal   : file.internal = r.imports.sorted .internal
  runtime    : ∃ runtime ∈ r.imports.entries, file.mockIdent = runtime.ident
  testing    : ∃ testing ∈ r.imports.entries, file.testingIdent = testing.ident
  interfaces : List.Forall₂ (InterfaceMock r (reservedNames r interfaces)) interfaces
    file.interfaces

/-- All of some texts are there. -/
def Ready (r : Resolver σ) (calls : List ResolverCall) : Prop :=
  ∀ c ∈ calls, ∃ text, r.textOf? c = some text

/-- Names that have texts are given them. -/
theorem exists_yields_names (symbols : Symbols σ) {vs : List Value}
    (h : ∀ v ∈ vs, ∃ text, r.textOf? (.name v.type) = some text) :
    ∃ texts, Yields r (vs.mapM fun v => Resolver.name symbols v.type) texts ∧
      List.Forall₂ (fun v text => r.names.lookup v.type = some text) vs texts :=
  exists_yields_mapM fun v hv => by
    obtain ⟨text, htext⟩ := h v hv
    exact ⟨text, yields_perform symbols htext, htext⟩

/-- A method whose calls are ready has its mock. -/
theorem exists_buildMethod (symbols : Symbols σ) (i : Interface) {m : Method}
    (h : Ready r (methodCalls m)) (typeParams typeArgs : String) (taken : List String) :
    ∃ mock, Yields r (buildMethod symbols i m typeParams typeArgs taken) mock ∧
      HandlerMock typeParams typeArgs mock ∧
        ∃ params results, MethodMock r i taken m mock params results := by
  obtain ⟨name, params, results, variadic⟩ := m
  have hnames : ∀ v ∈ params ++ results, ∃ text, r.textOf? (.name v.type) = some text :=
    fun v hv => h _ (List.mem_append_left _ (List.mem_map_of_mem hv))
  obtain ⟨paramTypes, hparams, hparamTypes⟩ :=
    exists_yields_names symbols fun v hv => hnames v (List.mem_append_left _ hv)
  obtain ⟨resultTypes, hresults, hresultTypes⟩ :=
    exists_yields_names symbols fun v hv => hnames v (List.mem_append_right _ hv)
  obtain ⟨zeros, hzeros, hzeroTexts⟩ : ∃ texts,
      Yields r (results.mapM fun v => Resolver.zero symbols v.type) texts ∧
        List.Forall₂ (fun v text => r.zeros.lookup v.type = some text) results texts :=
    exists_yields_mapM fun v hv => by
      obtain ⟨text, htext⟩ := h (.zero v.type) (List.mem_append_right _ (List.mem_map_of_mem hv))
      exact ⟨text, yields_perform symbols htext, htext⟩
  exact ⟨_, hparams.bind (hresults.bind (hzeros.bind (.pure _))),
    ⟨rfl, rfl, rfl, rfl, rfl⟩, _, _,
    { name := rfl, funcType := rfl, params_eq := rfl, results_eq := rfl,
      parameters := ⟨paramTypes, hparamTypes, rfl⟩, callArgs := rfl,
      results := ⟨resultTypes, hresultTypes, rfl⟩,
      zeroResults := ⟨zeros, hzeroTexts, rfl⟩ }⟩

/-- An interface whose texts are there is put together if its checks succeed. -/
theorem exists_buildInterface {i : Interface} (h : Ready r (interfaceCalls i)) {source : Import}
    (hsource : source ∈ r.imports.entries) {runtime : Import}
    (hruntime : runtime ∈ r.imports.entries) {reserved : List String}
    (hc : checkInterface i reserved = .ok ()) :
    ∃ mock, Yields r (buildInterface symbols i source runtime reserved) mock ∧
      InterfaceMock r reserved i mock := by
  obtain ⟨hmethodNames, hparamNames⟩ := checkInterface_eq_ok.mp hc
  obtain ⟨constraints, hconstraints, htexts⟩ : ∃ texts,
      Yields r (i.typeParams.mapM fun p => Resolver.name symbols p.constraint) texts ∧
        List.Forall₂ (fun p text => r.names.lookup p.constraint = some text) i.typeParams texts :=
    exists_yields_mapM fun p hp => by
      obtain ⟨text, htext⟩ :=
        h (.name p.constraint) (List.mem_append_left _ (List.mem_map_of_mem hp))
      exact ⟨text, yields_perform symbols htext, htext⟩
  have hready : ∀ m ∈ i.methods, Ready r (methodCalls m) := fun m hm c hc =>
    h c (List.mem_append_right _ (List.mem_flatMap.mpr ⟨m, hm, hc⟩))
  obtain ⟨mocks, hmocks, hall⟩ := exists_yields_mapM fun m hm =>
    exists_buildMethod symbols i (hready m hm) _ _ (reserved ++ i.typeParams.map TypeParam.name)
  obtain ⟨hhandlers, -⟩ := (List.forall₂_and_left _ _).mp (hall.flip.imp fun _ _ hm => hm)
  exact ⟨_, (Yields.lift hmethodNames).bind ((Yields.lift hparamNames).bind
    (hconstraints.bind (hmocks.bind (.pure _)))), {
      name := rfl, constructor := rfl, typeParams := ⟨constraints, htexts, rfl⟩, typeRef := rfl,
      newValue := ⟨runtime, hruntime, rfl⟩, varPadding := ⟨_, rfl⟩,
      sourceRef := ⟨source, hsource, rfl⟩, handlers := hhandlers,
      methods := hall.imp fun _ _ hm => hm.2 }⟩

/-- An interface that does not pass its checks is not built. -/
theorem fails_buildInterface {i : Interface} (source runtime : Import) {reserved : List String}
    {e : Error} (hc : checkInterface i reserved = .error e) :
    Fails r (buildInterface symbols i source runtime reserved) e := by
  rw [checkInterface] at hc
  cases hm : checkMethodNames i with
  | error e' =>
    rw [hm] at hc
    exact (Fails.lift (hm.trans hc)).bind _
  | ok u =>
    rw [hm] at hc
    exact (Yields.lift hm).bind_fails ((Fails.lift hc).bind _)

/-- The second round over interfaces whose texts are there. -/
def secondRound (symbols : Symbols σ) (package : Package) (interfaces : List Interface)
    (source runtime : Import) (reserved : List String) : ResolverM σ (List MockInterface) :=
  interfaces.mapM fun i => inInterface package i (buildInterface symbols i source runtime reserved)

theorem yields_inInterface {α : Type} {i : Interface} {action : ResolverM σ α} {a : α}
    (h : Yields r action a) : Yields r (inInterface package i action) a :=
  run_inInterface_eq_ok.mpr h

theorem fails_inInterface {α : Type} {i : Interface} {action : ResolverM σ α} {e : Error}
    (h : Fails r action e) :
    Fails r (inInterface package i action) (.inInterface package.path i.name i.file i.line e) := by
  rw [Fails, run_inInterface, h]

/-- The second round puts all interfaces together if their checks succeed. -/
theorem exists_secondRound (h : ∀ i ∈ interfaces, Ready r (interfaceCalls i))
    (package : Package) {source runtime : Import} (hsource : source ∈ r.imports.entries)
    (hruntime : runtime ∈ r.imports.entries) {reserved : List String}
    (hc : ∀ i ∈ interfaces, checkInterface i reserved = .ok ()) :
    ∃ mocks, Yields r (secondRound symbols package interfaces source runtime reserved) mocks ∧
      List.Forall₂ (InterfaceMock r reserved) interfaces mocks :=
  exists_yields_mapM fun i hi => by
    obtain ⟨mock, hy, hmock⟩ := exists_buildInterface (h i hi) hsource hruntime (hc i hi)
    exact ⟨mock, yields_inInterface hy, hmock⟩

/-- It fails for a collision if one of them fails. -/
theorem fails_secondRound (h : ∀ i ∈ interfaces, Ready r (interfaceCalls i))
    (package : Package) {source runtime : Import} (hsource : source ∈ r.imports.entries)
    (hruntime : runtime ∈ r.imports.entries) {reserved : List String}
    (hc : ∃ i ∈ interfaces, checkInterface i reserved ≠ .ok ()) :
    ∃ e, Fails r (secondRound symbols package interfaces source runtime reserved) e ∧
      NameCollides e := by
  have hfails : ∀ i e, checkInterface i reserved = .error e →
      ∃ e', Fails r (inInterface package i
        (buildInterface symbols i source runtime reserved)) e' ∧ NameCollides e' := by
    intro i e hcheck
    obtain ⟨name, rfl⟩ := checkInterface_eq_error hcheck
    exact ⟨_, fails_inInterface (fails_buildInterface source runtime hcheck), .inInterface ..⟩
  refine exists_fails_mapM (fun i hi => ?_) ?_
  · cases hcheck : checkInterface i reserved with
    | ok u =>
      obtain ⟨mock, hy, -⟩ := exists_buildInterface (h i hi) hsource hruntime hcheck
      exact .inl ⟨mock, yields_inInterface hy⟩
    | error e => exact .inr (hfails i e hcheck)
  · obtain ⟨i, hi, hne⟩ := hc
    cases hcheck : checkInterface i reserved with
    | ok u => exact absurd hcheck hne
    | error e =>
      obtain ⟨e', he', -⟩ := hfails i e hcheck
      exact ⟨i, hi, e', he'⟩

/-! ### The whole file -/

/-- All names of a file are accepted, with the identifiers of the resolver's imports reserved. -/
def Accepted (r : Resolver σ) (interfaces : List Interface) : Prop :=
  checkFileNames interfaces = .ok () ∧
    ∀ i ∈ interfaces, checkInterface i (reservedNames r interfaces) = .ok ()

instance (r : Resolver σ) (interfaces : List Interface) : Decidable (Accepted r interfaces) :=
  inferInstanceAs (Decidable (_ ∧ _))

/-- The resolver after everything was asked for that a mock file needs. -/
def lastResolver (symbols : Symbols σ) (package : Package) (interfaces : List Interface)
    (options : MockOptions) (r : Resolver σ) : Resolver σ :=
  r.after symbols (fileCalls package interfaces options)

/-- The last resolver has performed the calls of the package, then those of the interfaces. -/
theorem lastResolver_eq (symbols : Symbols σ) (package : Package) (interfaces : List Interface)
    (options : MockOptions) (r : Resolver σ) :
    lastResolver symbols package interfaces options r =
      (r.after symbols (packageCalls package options)).after symbols
        (interfaces.flatMap interfaceCalls) :=
  after_append ..

/-- When all calls succeed, those of each interface are ready at the end. -/
theorem ready_of_succeeds
    (h : Succeeds symbols r (interfaces.flatMap interfaceCalls)) {i : Interface}
    (hi : i ∈ interfaces) :
    Ready (r.after symbols (interfaces.flatMap interfaceCalls)) (interfaceCalls i) := by
  intro c hc
  refine h.textOf? (List.mem_flatMap.mpr ⟨i, hi, hc⟩) fun path => ?_
  rintro rfl
  simp [interfaceCalls, methodCalls] at hc

/-- An import always has its entry. -/
theorem exists_run_importPackage (symbols : Symbols σ) (path : String) (r : Resolver σ) :
    ∃ entry, (importPackage symbols path).run.run r =
        (.ok entry, r.after symbols [.importPackage path]) ∧
      entry ∈ (r.after symbols [.importPackage path]).imports.entries :=
  ⟨_, rfl, (r.imports.add_fst_mem rfl).1⟩

/-- The calls of the package succeed. -/
theorem succeeds_packageCalls (symbols : Symbols σ) (package : Package) (options : MockOptions)
    (r : Resolver σ) : Succeeds symbols r (packageCalls package options) := by
  have himport : ∀ path (r : Resolver σ),
      ∃ text, outcome symbols r (.importPackage path) = .ok text := fun _ _ => ⟨_, rfl⟩
  exact ⟨himport _ _, himport _ _, himport _ _, trivial⟩

/-- The package imports testing, the runtime and its source. -/
theorem exists_run_packageCalls (symbols : Symbols σ) (package : Package) (options : MockOptions)
    (r : Resolver σ) :
    ∃ testing runtime source r₁ r₂ r₃,
      (importPackage symbols "testing").run.run r = (.ok testing, r₁) ∧
      (importPackage symbols options.runtime).run.run r₁ = (.ok runtime, r₂) ∧
      (importPackage symbols package.path).run.run r₂ = (.ok source, r₃) ∧
      r.after symbols (packageCalls package options) = r₃ ∧
      ∀ i ∈ [testing, runtime, source], i ∈ r₃.imports.entries := by
  let r₁ := r.after symbols [.importPackage "testing"]
  let r₂ := r₁.after symbols [.importPackage options.runtime]
  obtain ⟨testing, htesting, hmem₁⟩ := exists_run_importPackage symbols "testing" r
  obtain ⟨runtime, hruntime, hmem₂⟩ := exists_run_importPackage symbols options.runtime r₁
  obtain ⟨source, hsource, hmem₃⟩ := exists_run_importPackage symbols package.path r₂
  refine ⟨testing, runtime, source, _, _, _, htesting, hruntime, hsource, ?_, ?_⟩
  · rw [← after_append, ← after_append]
    rfl
  · have hlast := (Grown.after symbols r₂ [.importPackage package.path]).entries_subset
    have hmid := (Grown.after symbols r₁ [.importPackage options.runtime]).entries_subset
    simpa using ⟨hlast (hmid hmem₁), hlast hmem₂, hmem₃⟩

/-- What comes of a file whose first round succeeds: it is built if its names are accepted, and it
fails for a collision if they are not. -/
theorem build_of_firstRound {last : Resolver σ}
    (hround : (interfaces.forM fun i => inInterface package i (writeTypes symbols i)).run.run
      (r.after symbols (packageCalls package options)) = (.ok (), last))
    (hready : ∀ i ∈ interfaces, Ready last (interfaceCalls i)) :
    (Accepted last interfaces →
      ∃ file, (build symbols package interfaces options).run.run r = (.ok file, last) ∧
        FileMock last interfaces file) ∧
    (¬ Accepted last interfaces →
      ∃ e r', (build symbols package interfaces options).run.run r = (.error e, r') ∧
        NameCollides e) := by
  obtain ⟨testing, runtime, source, r₁, r₂, r₃, htesting, hruntime, hsource, hr₃, hmem⟩ :=
    exists_run_packageCalls symbols package options r
  rw [hr₃] at hround
  rw [build, run_bind_of_ok htesting, run_bind_of_ok hruntime, run_bind_of_ok hsource]
  -- the second round reads what the first one remembered, so the resolver stays `last`
  have hgrown : Grown r₃ last := by
    obtain ⟨-, rfl⟩ := (run_firstRound_eq_ok package).mp hround
    exact .after symbols r₃ _
  have hentry : ∀ i ∈ [testing, runtime, source], i ∈ last.imports.entries := fun i hi =>
    hgrown.entries_subset (hmem i hi)
  have hsourceEntry := hentry source (by simp)
  have hruntimeEntry := hentry runtime (by simp)
  refine ⟨fun ⟨hfile, hinterfaces⟩ => ?_, fun hno => ?_⟩
  · obtain ⟨mocks, hmocks, hall⟩ :=
      exists_secondRound hready package hsourceEntry hruntimeEntry hinterfaces
    rw [run_bind_of_ok (Yields.lift hfile), run_bind_of_ok hround, run_bind_of_ok (run_get last)]
    exact ⟨_, (run_bind_of_ok hmocks _).trans (run_bind_of_ok (run_get last) _),
      ⟨rfl, rfl, rfl, ⟨runtime, hentry _ (by simp), rfl⟩, ⟨testing, hentry _ (by simp), rfl⟩, hall⟩⟩
  · cases hfile : checkFileNames interfaces with
    | error e =>
      obtain ⟨i, -, name, -, rfl⟩ := checkFileNames_eq_error hfile
      exact ⟨_, r₃, (Fails.lift rfl).bind _, .direct ..⟩
    | ok u =>
      obtain ⟨e, he, hcollides⟩ := fails_secondRound hready package hsourceEntry hruntimeEntry (by
        simpa [Accepted, hfile] using hno)
      rw [run_bind_of_ok (Yields.lift rfl), run_bind_of_ok hround, run_bind_of_ok (run_get last)]
      exact ⟨e, last, he.bind _, hcollides⟩

/-- **If all texts can be had, only a name can be in the way.** Where the calls for the packages and
texts of a file succeed, the file is built if its names are accepted, and it fails for a collision
if they are not. -/
theorem build_of_succeeds (h : Succeeds symbols r (fileCalls package interfaces options)) :
    (Accepted (lastResolver symbols package interfaces options r) interfaces →
      ∃ file, (build symbols package interfaces options).run.run r =
          (.ok file, lastResolver symbols package interfaces options r) ∧
        FileMock (lastResolver symbols package interfaces options r) interfaces file) ∧
    (¬ Accepted (lastResolver symbols package interfaces options r) interfaces →
      ∃ e r', (build symbols package interfaces options).run.run r = (.error e, r') ∧
        NameCollides e) := by
  obtain ⟨-, h⟩ := succeeds_append.mp h
  rw [lastResolver_eq]
  exact build_of_firstRound ((run_firstRound_eq_ok package).mpr ⟨h, rfl⟩)
    fun i hi => ready_of_succeeds h hi

/-- A file that was built has asked for everything that it needs, and for nothing else. Its names
were accepted, and it is put together from the texts that are there. -/
theorem of_build_eq_ok {file : MockFile}
    (h : (build symbols package interfaces options).run.run r = (.ok file, r')) :
    Succeeds symbols r (fileCalls package interfaces options) ∧
      r' = lastResolver symbols package interfaces options r ∧
      (interfaces.flatMap declaredNames).Nodup ∧ FileMock r' interfaces file := by
  have hcalls : Succeeds symbols r (fileCalls package interfaces options) := by
    obtain ⟨testing, runtime, source, r₁, r₂, r₃, htesting, hruntime, hsource, hr₃, -⟩ :=
      exists_run_packageCalls symbols package options r
    rw [build, run_bind_of_ok htesting, run_bind_of_ok hruntime, run_bind_of_ok hsource] at h
    obtain ⟨_, r₄, hfile, h⟩ := run_bind_eq_ok.mp h
    obtain ⟨_, _, hround, -⟩ := run_bind_eq_ok.mp h
    rw [run_lift] at hfile
    rw [← (Prod.mk.inj hfile).2, ← hr₃] at hround
    obtain ⟨hround, -⟩ := (run_firstRound_eq_ok package).mp hround
    exact succeeds_append.mpr ⟨succeeds_packageCalls symbols package options r, hround⟩
  refine ⟨hcalls, ?_⟩
  obtain ⟨hbuilt, hfails⟩ := build_of_succeeds hcalls
  by_cases hall : Accepted (lastResolver symbols package interfaces options r) interfaces
  · obtain ⟨file', hfile', hmock⟩ := hbuilt hall
    obtain ⟨hfile, hr'⟩ := Prod.mk.inj (h.symm.trans hfile')
    rw [Except.ok.inj hfile, hr']
    exact ⟨rfl, checkFileNames_eq_ok_iff.mp hall.1, hmock⟩
  · obtain ⟨e, _, he, -⟩ := hfails hall
    exact nomatch (Prod.mk.inj (h.symm.trans he)).1

/-- A mock file is built by an empty resolver. -/
theorem mockFile_eq (symbols : Symbols σ) (package : Package) (interfaces : List Interface)
    (options : MockOptions) (state : σ) :
    mockFile symbols package interfaces options state =
      ((build symbols package interfaces options).run.run (.ofModule package.module state)).map
        id Resolver.state := by
  rw [mockFile, StateT.run]
  generalize (build symbols package interfaces options).run (.ofModule package.module state) = run
  rcases run with ⟨result, resolver⟩
  rfl

/-- A mock file is what its two rounds give, from a resolver without imports. -/
theorem fst_mockFile (symbols : Symbols σ) (package : Package) (interfaces : List Interface)
    (options : MockOptions) (state : σ) :
    (mockFile symbols package interfaces options state).1 =
      ((build symbols package interfaces options).run.run (.ofModule package.module state)).1 := by
  rw [mockFile_eq, Prod.map_fst, id]

/-- What is known afterwards is what the resolver knows. -/
theorem snd_mockFile (symbols : Symbols σ) (package : Package) (interfaces : List Interface)
    (options : MockOptions) (state : σ) :
    (mockFile symbols package interfaces options state).2 =
      ((build symbols package interfaces options).run.run
        (.ofModule package.module state)).2.state := by
  rw [mockFile_eq, Prod.map_snd]

/-- What is known of a mock file that was built. -/
theorem of_mockFile_eq_ok {package : Package} {state : σ} {file : MockFile}
    (h : (mockFile symbols package interfaces options state).1 = .ok file) :
    Succeeds symbols (.ofModule package.module state) (fileCalls package interfaces options) ∧
      (interfaces.flatMap declaredNames).Nodup ∧
      FileMock (lastResolver symbols package interfaces options (.ofModule package.module state))
        interfaces file := by
  rw [fst_mockFile] at h
  obtain ⟨hcalls, hlast, hdeclared, hmock⟩ := of_build_eq_ok (Prod.ext h rfl)
  exact ⟨hcalls, hdeclared, hlast ▸ hmock⟩

/-- A file whose declarations are refused fails, before anything is asked for its interfaces. -/
theorem fst_mockFile_of_error (symbols : Symbols σ) (package : Package) (options : MockOptions)
    (state : σ) {e : Error} (h : checkFileNames interfaces = .error e) :
    (mockFile symbols package interfaces options state).1 = .error e := by
  obtain ⟨testing, runtime, source, r₁, r₂, r₃, htesting, hruntime, hsource, -⟩ :=
    exists_run_packageCalls symbols package options (.ofModule package.module state)
  rw [fst_mockFile, build, run_bind_of_ok htesting, run_bind_of_ok hruntime,
    run_bind_of_ok hsource]
  exact congrArg Prod.fst ((Fails.lift h).bind _)

/-! ### What a file that was built has -/

namespace FileMock

variable {file : MockFile}

/-- The imports of the file are those of the resolver, sorted. -/
theorem imports_perm (h : FileMock r interfaces file) :
    file.imports.Perm r.imports.entries := by
  rw [MockFile.imports, h.standard, h.external, h.internal]
  refine .trans (.append (.append ?_ ?_) ?_) r.imports.all_perm <;> exact List.mergeSort_perm _ _

theorem mem_imports (h : FileMock r interfaces file) {i : Import} :
    i ∈ file.imports ↔ i ∈ r.imports.entries :=
  h.imports_perm.mem_iff

theorem mem_identifiers (h : FileMock r interfaces file) {s : String} :
    s ∈ file.identifiers ↔ s ∈ r.imports.identifiers := by
  simp [MockFile.identifiers, h.mem_imports, ImportTable.mem_identifiers]

/-- A mock file declares what its interfaces need. -/
theorem declarations_eq (h : FileMock r interfaces file) :
    file.declarations = interfaces.flatMap declaredNames := by
  have hinterface : ∀ i mock, InterfaceMock r (reservedNames r interfaces) i mock →
      mock.name :: mock.constructor :: mock.methods.map MockMethod.funcType =
        declaredNames i := by
    intro i mock hmock
    have hmethods : mock.methods.map MockMethod.funcType = i.methods.map (handlerName i) := by
      rw [← List.forall₂_eq_eq_eq, List.forall₂_map_left_iff, List.forall₂_map_right_iff]
      refine hmock.methods.flip.imp ?_
      rintro _ _ ⟨_, _, hm⟩
      exact hm.funcType
    rw [hmock.name, hmock.constructor, hmethods, declaredNames]
  have hall := h.interfaces.imp hinterface
  rw [MockFile.declarations, List.flatMap, List.flatMap]
  congr 1
  rw [← List.forall₂_eq_eq_eq, List.forall₂_map_left_iff, List.forall₂_map_right_iff]
  exact hall.flip

end FileMock

/-! ### A package at hand -/

/-- Every package has the name its path suggests, and every declared type is a struct. -/
def suggestedNames : Symbols Unit :=
  ⟨fun path s => (ImportPath.guessedName path, s), fun _ s => (.ok (.struct []), s)⟩

/-- A package that mocks are asked for. -/
def shop : Package :=
  ⟨"shop", "example.com/shop", "example.com/shop", ⟨"/shop"⟩, []⟩

/-- Options for its mock files. -/
def shopOptions : MockOptions :=
  ⟨"gomocks", "v1", "gomocks gen", "goa.design/clue/mock", "mock", "mocks"⟩

/-- The mock file of some interfaces of the package. -/
def shopFile (interfaces : List Interface) : Except Error MockFile :=
  (mockFile suggestedNames shop interfaces shopOptions ()).1

/-- The resolver after it was asked for everything that the file needs. -/
def shopResolver (interfaces : List Interface) : Resolver Unit :=
  lastResolver suggestedNames shop interfaces shopOptions (.ofModule shop.module ())

/-- The sample file is built when its calls succeed and its names are accepted. -/
theorem exists_shopFile (interfaces : List Interface)
    (hcalls : Succeeds suggestedNames (.ofModule shop.module ())
      (fileCalls shop interfaces shopOptions))
    (haccepted : Accepted (shopResolver interfaces) interfaces) :
    ∃ file, shopFile interfaces = .ok file ∧
      FileMock (shopResolver interfaces) interfaces file := by
  obtain ⟨file, hfile, hmock⟩ := (build_of_succeeds hcalls).1 haccepted
  exact ⟨file, by rw [shopFile, fst_mockFile, hfile], hmock⟩

end MockFile

end GoMocks
