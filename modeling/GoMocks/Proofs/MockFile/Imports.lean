import GoMocks.Proofs.MockFile.Build
import GoMocks.Proofs.Resolver.Packages

/-!
# Mock files — the packages they import

Go takes an import that is not used for an error, and a missing one too. A mock file imports the
packages that its source refers to, and these are the packages that the types of its interfaces
mention.

* `requiredPackages`: the packages that the source of a mock file refers to.
* `imports_of_mockFile`: a mock file that was built imports these, each once and in the list of its
  class; neither zero values nor the second round bring in others.
-/

namespace GoMocks

/-- The packages that the declaration of an interface mentions: in the constraints of its type
parameters and in the types of parameters and results. -/
def Interface.packages (i : Interface) : List String :=
  i.typeParams.flatMap (·.constraint.packages) ++
    i.methods.flatMap fun m => (m.signature.params ++ m.signature.results).flatMap (·.type.packages)

namespace MockFile

open Resolver

variable {σ : Type} {symbols : Symbols σ} {nameOf : String → String} {package : Package}
  {interfaces : List Interface} {options : MockOptions}

/-- The imports of one class. -/
def importsOf (file : MockFile) : ImportClass → List Import
  | .standard => file.standard
  | .external => file.external
  | .internal => file.internal

/-- The packages that the source of a mock file refers to. -/
def requiredPackages (package : Package) (interfaces : List Interface) (options : MockOptions) :
    List String :=
  "testing" :: options.runtime :: package.path :: interfaces.flatMap Interface.packages

/-! ### What the first round brings in -/

/-- The calls for a method name each type before its zero value. -/
theorem namesFirst_methodCalls (m : Method) : NamesFirst (methodCalls m) := by
  intro before t rest heq
  have hmem : ResolverCall.zero t ∈ methodCalls m := by simp [heq]
  obtain ⟨v, hv, rfl⟩ : ∃ v ∈ m.signature.results, v.type = t := by simpa [methodCalls] using hmem
  -- the names stand in front of all zero values
  have hnames : ∀ s, .zero s ∉
      (m.signature.params ++ m.signature.results).map fun v => ResolverCall.name v.type := by simp
  rcases List.append_eq_append_iff.mp heq with ⟨mid, rfl, -⟩ | ⟨mid, hmid, hrest⟩
  · exact List.mem_append_left _ (List.mem_map.mpr ⟨v, List.mem_append_right _ hv, rfl⟩)
  · cases mid with
    | nil =>
      rw [List.append_nil] at hmid
      rw [← hmid]
      exact List.mem_map.mpr ⟨v, List.mem_append_right _ hv, rfl⟩
    | cons c mid =>
      obtain ⟨rfl, -⟩ := List.cons.inj hrest
      exact absurd (hmid ▸ by simp) (hnames v.type)

/-- The calls for a file name each type before its zero value. -/
theorem namesFirst_fileCalls (package : Package) (interfaces : List Interface)
    (options : MockOptions) : NamesFirst (fileCalls package interfaces options) := by
  refine .append (.of_not_zero (by simp [packageCalls])) (.flatMap fun i _ => ?_)
  exact .append (.of_not_zero (by simp)) (.flatMap fun m _ => namesFirst_methodCalls m)

/-- The calls for a file mention the packages it requires. -/
theorem packages_fileCalls (package : Package) (interfaces : List Interface)
    (options : MockOptions) :
    (fileCalls package interfaces options).flatMap ResolverCall.packages =
      requiredPackages package interfaces options := by
  have hmethod : ∀ m : Method, (methodCalls m).flatMap ResolverCall.packages =
      (m.signature.params ++ m.signature.results).flatMap (·.type.packages) := by
    intro m
    simp [methodCalls, List.flatMap_map, ResolverCall.packages]
  have hinterface : ∀ i : Interface, (interfaceCalls i).flatMap ResolverCall.packages =
      i.packages := by
    intro i
    simp only [interfaceCalls, List.flatMap_append, List.flatMap_map, ResolverCall.packages,
      List.flatMap_assoc, hmethod, Interface.packages]
  simp only [fileCalls, List.flatMap_append, List.flatMap_assoc, hinterface]
  rfl

/-- The table after the first round. -/
theorem imports_lastResolver (hname : symbols.NamesBy nameOf) {state : σ}
    (h : Succeeds symbols (.ofModule package.module state) (fileCalls package interfaces options)) :
    (lastResolver symbols package interfaces options (.ofModule package.module state)).imports =
      ImportTable.enter ⟨package.module, []⟩ nameOf
        (requiredPackages package interfaces options) := by
  rw [lastResolver, imports_after_calls hname (good_ofModule ..) h
    (namesFirst_fileCalls package interfaces options),
    packages_fileCalls]
  rfl

/-! ### The import lists -/

/-- The imports of a class are listed as the last table sorts them. -/
theorem FileMock.importsOf {r : Resolver σ} {file : MockFile} (h : FileMock r interfaces file)
    (c : ImportClass) : file.importsOf c = r.imports.sorted c := by
  cases c with
  | standard => exact h.standard
  | external => exact h.external
  | internal => exact h.internal

/-- **A mock file imports what it refers to.** In a mock file that was built, where the declared
name of a package is a function of its path, the import lists have the packages that every mock file
refers to and those that the constraints of type parameters and the types of parameters and results
mention. Each of them is in the list of its class, and there once. When a zero value is written the
table is the same before and after, and what the second round leaves is the table of the first. -/
theorem imports_of_mockFile (symbols : Symbols σ) (nameOf : String → String)
    (hname : ∀ path s, (symbols.packageName path s).1 = nameOf path) (package : Package)
    (interfaces : List Interface) (options : MockOptions) (state : σ) {file : MockFile}
    (h : (mockFile symbols package interfaces options state).1 = .ok file) :
    let first := Resolver.ofModule package.module state
    let calls := fileCalls package interfaces options
    (∀ path, path ∈ file.imports.map Import.path ↔
      path ∈ requiredPackages package interfaces options) ∧
    (file.imports.map Import.path).Nodup ∧
    (∀ c path, path ∈ (file.importsOf c).map Import.path ↔
      path ∈ requiredPackages package interfaces options ∧
        ImportClass.of path package.module = c) ∧
    (∀ before t rest, calls = before ++ .zero t :: rest →
      (first.after symbols (before ++ [.zero t])).imports = (first.after symbols before).imports) ∧
    ((build symbols package interfaces options).run.run first).2.imports =
      (first.after symbols calls).imports := by
  intro first calls
  obtain ⟨hcalls, -, hmock⟩ := of_mockFile_eq_ok h
  change Succeeds symbols first calls at hcalls
  change FileMock (lastResolver symbols package interfaces options first) interfaces file at hmock
  -- the last table is the first one with the paths of the calls entered in their order
  have htable := imports_lastResolver hname hcalls
  have hsound : (lastResolver symbols package interfaces options first).imports.Sound nameOf :=
    htable ▸ (ImportTable.Sound.empty _).enter _
  have hpaths : ∀ path, path ∈
      (lastResolver symbols package interfaces options first).imports.entries.map Import.path ↔
        path ∈ requiredPackages package interfaces options := by
    intro path
    rw [htable, ImportTable.mem_paths_enter]
    simp
  have hmodule : (lastResolver symbols package interfaces options first).imports.module =
      package.module := by
    rw [htable, ImportTable.enter, ImportTable.addAll_module]
  refine ⟨fun path => ?_, ?_, fun c path => ?_, ?_, ?_⟩
  · rw [← hpaths, (hmock.imports_perm.map Import.path).mem_iff]
  · exact (hmock.imports_perm.map Import.path).nodup_iff.mpr hsound.paths_nodup
  · rw [hmock.importsOf, ← hpaths]
    simp only [List.mem_map, ImportTable.mem_sorted, hmodule]
    constructor
    · rintro ⟨i, ⟨hi, hc⟩, rfl⟩
      exact ⟨⟨i, hi, rfl⟩, hc⟩
    · rintro ⟨⟨i, hi, rfl⟩, hc⟩
      exact ⟨i, ⟨hi, hc⟩, rfl⟩
  · intro before t rest heq
    have hfirst : NamesFirst calls := namesFirst_fileCalls package interfaces options
    exact imports_after_zero hname (good_ofModule ..) (heq ▸ hcalls) (heq ▸ hfirst)
  · rw [fst_mockFile] at h
    obtain ⟨-, hlast, -⟩ := of_build_eq_ok (Prod.ext h rfl)
    exact congrArg Resolver.imports hlast

/-- An interface that mentions packages in a constraint, in a length, in a type argument and by the
pointers of package `unsafe`. -/
def index : Interface where
  name         := "Index"
  file         := ⟨"/index.go"⟩
  line         := 5
  exported     := true
  typeParams   := [⟨"K", .named ⟨some "cmp", "Ordered", []⟩⟩]
  methods      := [⟨"Find",
    ⟨[⟨"key", .array (.constant "example.com/shop/limits" "Size") (.parameter "K")⟩],
      [⟨"", .named ⟨some "iter", "Seq", [.named ⟨some "time", "Time", []⟩]⟩⟩,
        ⟨"", .basic .unsafePointer⟩], false⟩⟩]
  isConstraint := false

/-- The zero value of the sequence is a literal of its type, and brings in nothing new. -/
theorem imports_of_mockFile_index :
    ∃ file, shopFile [index] = .ok file ∧ (file.imports.map Import.path).Nodup ∧
      ∀ path, path ∈ file.imports.map Import.path ↔
        path ∈ ["testing", "goa.design/clue/mock", "example.com/shop", "cmp",
          "example.com/shop/limits", "iter", "time", "unsafe"] := by
  obtain ⟨file, hfile, -⟩ := exists_shopFile [index] (by decide +kernel) (by decide +kernel)
  obtain ⟨hpaths, hnodup, -⟩ := imports_of_mockFile suggestedNames ImportPath.guessedName
    (fun _ _ => rfl) shop [index] shopOptions () hfile
  exact ⟨file, hfile, hnodup, hpaths⟩

end MockFile

end GoMocks
