import GoMocks.Proofs.Loader
import GoMocks.Proofs.MethodSet.Footprint
import GoMocks.Proofs.MockFile.Build
import GoMocks.Proofs.Resolver.Simulation

/-!
# Mock files — two providers side by side

A mock file depends on the knowledge about packages only by the answers that it gets, and it asks for
the packages that its interfaces mention alone.

* `MockFile.follows_build`: the two rounds, with two providers that answer alike.
* `mockFile_simulates`: their mock files are the same.
* `mockFile_keeps`: what every answer keeps, the whole file keeps.
* `Loader.mockFile_eq`: loaders that find the same packages, as far as these lead, make the same mock
  file.
-/

namespace GoMocks

variable {kept : String → Prop} {package : Package} {interfaces : List Interface}
  {options : MockOptions}

/-- The packages that every mock file refers to are kept, and those that its interfaces mention. -/
structure MockFile.MentionsOnly (kept : String → Prop) (package : Package)
    (interfaces : List Interface) (options : MockOptions) : Prop where
  testing    : kept "testing"
  runtime    : kept options.runtime
  source     : kept package.path
  interfaces : ∀ i ∈ interfaces, i.MentionsOnly kept

/-- With every package kept, a mock file mentions kept packages only. -/
theorem MockFile.MentionsOnly.all (package : Package) (interfaces : List Interface)
    (options : MockOptions) :
    MockFile.MentionsOnly (fun _ => True) package interfaces options :=
  ⟨trivial, trivial, trivial, fun _ _ => ⟨fun _ _ _ _ _ _ => trivial, fun _ _ _ _ _ _ => trivial⟩⟩

section

variable {σ τ : Type} {symbols : Symbols σ} {symbols' : Symbols τ} {rel : σ → τ → Prop}

namespace MockFile

open Resolver

theorem follows_inInterface {α : Type} {i : Interface} {m : ResolverM σ α}
    {m' : ResolverM τ α} (hm : Resolver.Follows rel m m') :
    Resolver.Follows rel (inInterface package i m) (inInterface package i m') := by
  intro r r' hr
  obtain ⟨heq, hrel⟩ := hm r r' hr
  simp only [run_inInterface]
  rcases hrun : m.run.run r with ⟨out, r₁⟩
  rcases hrun' : m'.run.run r' with ⟨out', r₁'⟩
  rw [hrun, hrun'] at heq hrel
  obtain rfl : out = out' := heq
  cases out with
  | error e => exact ⟨rfl, hrel⟩
  | ok a    => exact ⟨rfl, hrel⟩

theorem follows_names {α : Type} (h : Simulates symbols symbols' kept rel) {items : List α}
    {type : α → GoType} (hitems : ∀ a ∈ items, MentionOnly kept (type a).parts) :
    Resolver.Follows rel (items.forM fun a => discard (Resolver.name symbols (type a)))
      (items.forM fun a => discard (Resolver.name symbols' (type a))) :=
  .forM items fun a ha => (follows_name h (hitems a ha)).bind fun _ => .pure _

/-- The types of the parameters and of the results of a method. -/
theorem mentionOnly_of_method {i : Interface} (hi : i.MentionsOnly kept) {m : Method}
    (hm : m ∈ i.methods) :
    (∀ v ∈ m.signature.params, MentionOnly kept v.type.parts) ∧
      ∀ v ∈ m.signature.results, MentionOnly kept v.type.parts := by
  have hsignature := hi.methods m hm
  obtain ⟨_, params, results, variadic⟩ := m
  exact ⟨mentionOnly_valueParts.mp hsignature.left, mentionOnly_valueParts.mp hsignature.right⟩

theorem follows_writeTypes (h : Simulates symbols symbols' kept rel) {i : Interface}
    (hi : i.MentionsOnly kept) :
    Resolver.Follows rel (writeTypes symbols i) (writeTypes symbols' i) := by
  rw [writeTypes, writeTypes]
  refine (follows_names h hi.typeParams).bind fun _ => .forM _ fun method hmethod => ?_
  obtain ⟨hparams, hresults⟩ := mentionOnly_of_method hi hmethod
  refine (follows_names h fun v hv => ?_).bind fun _ => .forM _ fun v hv => ?_
  · exact (List.mem_append.mp hv).elim (hparams v) (hresults v)
  · exact (follows_zero h (hresults v hv)).bind fun _ => .pure _

theorem follows_buildMethod (h : Simulates symbols symbols' kept rel) {i : Interface}
    (hi : i.MentionsOnly kept) {method : Method} (hmethod : method ∈ i.methods)
    (typeParams typeArgs : String) (taken : List String) :
    Resolver.Follows rel (buildMethod symbols i method typeParams typeArgs taken)
      (buildMethod symbols' i method typeParams typeArgs taken) := by
  obtain ⟨hparams, hresults⟩ := mentionOnly_of_method hi hmethod
  obtain ⟨name, params, results, variadic⟩ := method
  rw [buildMethod, buildMethod]
  refine .bind (.mapM _ fun p hp => follows_name h (hparams p hp)) fun _ => ?_
  refine .bind (.mapM _ fun r hr => follows_name h (hresults r hr)) fun _ => ?_
  exact .bind (.mapM _ fun r hr => follows_zero h (hresults r hr)) fun _ => .pure _

theorem follows_buildInterface (h : Simulates symbols symbols' kept rel) {i : Interface}
    (hi : i.MentionsOnly kept) (source runtime : Import) (reserved : List String) :
    Resolver.Follows rel (buildInterface symbols i source runtime reserved)
      (buildInterface symbols' i source runtime reserved) := by
  rw [buildInterface, buildInterface]
  refine .bind (.lift _) fun _ => .bind (.lift _) fun _ => ?_
  refine .bind (.mapM _ fun p hp => follows_name h (hi.typeParams p hp)) fun _ => ?_
  exact .bind (.mapM _ fun m hm => follows_buildMethod h hi hm _ _ _) fun _ => .pure _

/-- Building a file follows. -/
theorem follows_build (h : Simulates symbols symbols' kept rel)
    (hkept : MentionsOnly kept package interfaces options) :
    Resolver.Follows rel (build symbols package interfaces options)
      (build symbols' package interfaces options) := by
  rw [build, build]
  refine (follows_importPackage h hkept.testing).bind fun testing => ?_
  refine (follows_importPackage h hkept.runtime).bind fun runtime => ?_
  refine (follows_importPackage h hkept.source).bind fun source => ?_
  refine .bind (.lift _) fun _ => ?_
  refine .bind (.forM _ fun i hi =>
    follows_inInterface (follows_writeTypes h (hkept.interfaces i hi))) fun _ => ?_
  refine .get_bind fun r r' himports => ?_
  rw [himports]
  refine .bind (.mapM _ fun i hi => follows_inInterface
    (follows_buildInterface h (hkept.interfaces i hi) source runtime _)) fun mocks => ?_
  refine .get_bind fun r r' himports => ?_
  rw [himports]
  exact .pure _

end MockFile

/-- **Providers that answer alike lead to the same mock file.** -/
theorem mockFile_simulates (h : Resolver.Simulates symbols symbols' kept rel)
    (hkept : MockFile.MentionsOnly kept package interfaces options) {s : σ} {s' : τ}
    (hs : rel s s') :
    (mockFile symbols package interfaces options s).1 =
        (mockFile symbols' package interfaces options s').1 ∧
      rel (mockFile symbols package interfaces options s).2
        (mockFile symbols' package interfaces options s').2 := by
  rw [MockFile.snd_mockFile, MockFile.snd_mockFile, MockFile.fst_mockFile, MockFile.fst_mockFile]
  obtain ⟨hresult, hrelated⟩ := MockFile.follows_build h hkept (.ofModule package.module s)
    (.ofModule package.module s') ⟨rfl, rfl, rfl, hs⟩
  exact ⟨hresult, hrelated.state⟩

/-- What every answer keeps of the knowledge, the whole file keeps. -/
theorem mockFile_keeps {keeps : σ → Prop}
    (hname : ∀ path s, keeps s → keeps (symbols.packageName path s).2)
    (hunderlying : ∀ n s, keeps s → keeps (symbols.underlying n s).2) {s : σ} (hs : keeps s) :
    keeps (mockFile symbols package interfaces options s).2 := by
  have hself : Resolver.Simulates symbols symbols (fun _ => True) fun s s' => s = s' ∧ keeps s :=
    Resolver.simulates_self hname hunderlying
  exact (mockFile_simulates hself (.all package interfaces options) ⟨rfl, hs⟩).2.2

/-- A mock file does not depend on the place of its package and on the names of its sources. -/
theorem mockFile_package (symbols : Symbols σ) {package' : Package}
    (hname : package'.name = package.name) (hpath : package'.path = package.path)
    (hmodule : package'.module = package.module) (s : σ) :
    mockFile symbols package' interfaces options s = mockFile symbols package interfaces options s := by
  simp only [mockFile, MockFile.build, MockFile.inInterface, hname, hpath, hmodule]

end

/-! ### Loaders -/

/-- Knowledge that is complete from the start, where packages are given by a function. -/
def Symbols.ofPackages (packages : String → Option SourcePackage) : Symbols Unit where
  packageName path _ := ((Lookup.packageName path).answer packages, ())
  underlying n _     := (n.underlying.answer packages, ())

namespace Loader

variable {t t' : FileTree} {loader loader' : Loader}

/-- What is asked for a mock file does not change what would be found. -/
theorem packages_mockFile (t : FileTree) (loader : Loader) (package : Package)
    (interfaces : List Interface) (options : MockOptions) :
    (mockFile (symbols t) package interfaces options loader).2.packages t = loader.packages t := by
  have hkeeps : ∀ {α : Type} (m : Lookup α) (s : Loader), s.packages t = loader.packages t →
      ((m.answerIn (find t)).run s).2.packages t = loader.packages t := by
    intro α m s hs
    obtain ⟨s', hrun, hsame⟩ := run_answerIn t m s
    rw [hrun]
    exact hsame.trans hs
  let keeps : Loader → Prop := fun s => s.packages t = loader.packages t
  exact show keeps _ from mockFile_keeps (fun path => hkeeps (Lookup.packageName path))
    (fun n => hkeeps n.underlying.run) rfl

/-- Loaders that find the same packages, where some of them are kept, answer alike. -/
theorem simulates_of_packages {packages packages' : String → Option SourcePackage}
    (hclosed : Closed packages kept) (hsame : ∀ path, kept path → packages' path = packages path) :
    Resolver.Simulates (symbols t) (symbols t') kept fun s s' =>
      s.packages t = packages ∧ s'.packages t' = packages' := by
  have halike : ∀ {α : Type} {P : α → Prop} {m : Lookup α}, m.Within packages kept P →
      Alike (fun s s' => s.packages t = packages ∧ s'.packages t' = packages')
        (m.answerIn (find t)).run (m.answerIn (find t')).run := by
    intro α P m hm s s' hs
    obtain ⟨s₁, hrun, hkeeps⟩ := run_answerIn t m s
    obtain ⟨s₁', hrun', hkeeps'⟩ := run_answerIn t' m s'
    rw [hrun, hrun', hs.1, hs.2]
    exact ⟨(hm.answer_eq hsame).symm, hkeeps.trans hs.1, hkeeps'.trans hs.2⟩
  constructor
  · intro path hpath
    exact halike (m := Lookup.packageName path) (P := fun _ => True)
      ⟨hpath, by cases packages path <;> exact trivial⟩
  · intro n hn
    exact halike (NamedType.underlyingWithin_within hclosed _ hn)

/-- A loader is simulated by the packages it stands for. -/
theorem simulates_ofPackages (t : FileTree) (packages : String → Option SourcePackage) :
    Resolver.Simulates (symbols t) (.ofPackages packages) (fun _ => True) fun s _ =>
      s.packages t = packages := by
  have halike : ∀ {α : Type} (m : Lookup α),
      Alike (fun s _ => s.packages t = packages) (m.answerIn (find t)).run
        fun _ : Unit => (m.answer packages, ()) := by
    intro α m s _ hs
    obtain ⟨s₁, hrun, hkeeps⟩ := run_answerIn t m s
    rw [hrun, hs]
    exact ⟨rfl, hkeeps.trans hs⟩
  exact ⟨fun path _ => halike (Lookup.packageName path), fun n _ => halike n.underlying.run⟩

/-- A mock file is the same where all packages are known from the start. -/
theorem mockFile_ofPackages (t : FileTree) (loader : Loader) (package : Package)
    (interfaces : List Interface) (options : MockOptions) :
    (mockFile (symbols t) package interfaces options loader).1 =
      (mockFile (.ofPackages (loader.packages t)) package interfaces options ()).1 :=
  (mockFile_simulates (simulates_ofPackages t (loader.packages t)) (.all package interfaces options)
    rfl).1

/-- **A mock file depends on the packages that its interfaces lead to alone.** -/
theorem mockFile_eq (hclosed : Closed (loader.packages t) kept)
    (hsame : ∀ path, kept path → loader'.packages t' path = loader.packages t path)
    (hkept : MockFile.MentionsOnly kept package interfaces options) :
    (mockFile (symbols t') package interfaces options loader').1 =
      (mockFile (symbols t) package interfaces options loader).1 :=
  (mockFile_simulates (simulates_of_packages hclosed hsame) hkept ⟨rfl, rfl⟩).1.symm

end Loader

end GoMocks
