import GoMocks.Loader
import GoMocks.Proofs.Inquiry

/-!
# Loaders — what they answer

A loader reads a package when it is first asked for it. What it answers is what the packages say
that it has or would read, and no question changes these.

* `Loader.packages`: the packages that a loader has or would read.
* `Loader.outcome_answer`: an inquiry has the outcome that these packages give.
* `Loader.outcome_interfaces`: so have the interfaces of a package.
* `Loader.Extends`: what was found stays found, whatever is asked.
-/

namespace GoMocks.Loader

variable {α : Type} {t : FileTree} {loader : Loader} {path : String}

/-- The package of an import path, as a loader has found it or would read it. -/
def packages (t : FileTree) (loader : Loader) (path : String) : Option SourcePackage :=
  (loader.found.lookup path).getD (read t loader.module loader.env path)

/-- The outcome of a computation that a loader carries out. -/
def outcome (loader : Loader) (m : LoaderM α) : Except Error α :=
  (m.run.run loader).1

/-- What would be read may as well be kept. -/
theorem packages_keep (h : loader.found.lookup path = none) :
    (loader.keep path (read t loader.module loader.env path)).packages t = loader.packages t := by
  funext q
  rw [packages, packages, keep, List.lookup_cons]
  split
  · next hq => rw [beq_iff_eq.mp hq, h]; rfl
  · rfl

/-- A loader finds the packages it stands for, and goes on standing for them. -/
theorem run_find (t : FileTree) (path : String) (loader : Loader) :
    ∃ loader' : Loader, (find t path).run loader = (loader.packages t path, loader') ∧
      loader'.packages t = loader.packages t := by
  cases h : loader.found.lookup path with
  | some p =>
    refine ⟨loader, ?_, rfl⟩
    simp only [find, packages, h, StateT.run_bind, StateT.run_get, pure_bind, StateT.run_pure]
    rfl
  | none =>
    refine ⟨loader.keep path (read t loader.module loader.env path), ?_, packages_keep h⟩
    simp only [find, packages, h, StateT.run_bind, StateT.run_get, pure_bind, StateT.run_set]
    rfl

/-- A lookup run on a loader gives what the packages answer. -/
theorem run_answerIn (t : FileTree) :
    ∀ (m : Lookup α) (loader : Loader),
      ∃ loader' : Loader, (m.answerIn (find t)).run loader =
        (m.answer (loader.packages t), loader') ∧ loader'.packages t = loader.packages t
  | .done _, loader => ⟨loader, rfl, rfl⟩
  | .ask path next, loader => by
    obtain ⟨loader₁, hfind, h₁⟩ := run_find t path loader
    obtain ⟨loader₂, hnext, h₂⟩ := run_answerIn t (next (loader.packages t path)) loader₁
    refine ⟨loader₂, ?_, h₂.trans h₁⟩
    rw [Lookup.answerIn, StateT.run_bind, hfind, Lookup.answer, ← h₁]
    rw [← h₁] at hnext
    exact hnext

/-- **An inquiry has the outcome that the packages give.** -/
theorem outcome_answer (t : FileTree) (loader : Loader) (inquiry : Inquiry α) :
    loader.outcome (answer t inquiry) = inquiry.answer (loader.packages t) := by
  obtain ⟨_, h, -⟩ := run_answerIn t inquiry.run loader
  exact congrArg Prod.fst h

/-- A package is found first, and its interfaces afterwards. -/
theorem run_interfaces (t : FileTree) (path : String) (loader : Loader) :
    (interfaces t path).run.run loader =
      match (find t path).run loader with
      | (none, loader')   => (.error (.load path .notLoaded), loader')
      | (some p, loader') => (answer t p.interfaces).run.run loader' := by
  rw [interfaces]
  show ((ExceptT.lift (find t path) >>= _).run.run loader) = _
  rw [ExceptT.run_bind_lift, StateT.run_bind]
  rcases (find t path).run loader with ⟨_ | p, loader'⟩ <;> rfl

/-- The interfaces listed for a package are what its source answers. -/
theorem outcome_interfaces (t : FileTree) (loader : Loader) {p : SourcePackage}
    (hp : loader.packages t path = some p) :
    loader.outcome (interfaces t path) = p.interfaces.answer (loader.packages t) := by
  obtain ⟨loader', hfind, h⟩ := run_find t path loader
  rw [outcome, run_interfaces, hfind, hp, ← h, ← outcome_answer]
  rfl

/-- The packages that a loader would find do not change. -/
theorem packages_interfaces (t : FileTree) (path : String) (loader : Loader) :
    ((interfaces t path).run.run loader).2.packages t = loader.packages t := by
  obtain ⟨loader', hfind, h⟩ := run_find t path loader
  rw [run_interfaces, hfind]
  cases loader.packages t path with
  | none => exact h
  | some p =>
    obtain ⟨loader'', hrun, h'⟩ := run_answerIn t p.interfaces.run loader'
    exact (congrArg (fun run => (Prod.snd run).packages t) hrun).trans (h'.trans h)

/-! ### What is found stays found -/

/-- A later state of a loader: what was found before is still found, and nothing else changed. -/
structure Extends (loader loader' : Loader) : Prop where
  module : loader'.module = loader.module
  root   : loader'.root = loader.root
  env    : loader'.env = loader.env
  found  : ∀ path p, loader.found.lookup path = some p → loader'.found.lookup path = some p

namespace Extends

variable {loader' loader'' : Loader}

theorem refl (loader : Loader) : loader.Extends loader := ⟨rfl, rfl, rfl, fun _ _ h => h⟩

theorem trans (h : loader.Extends loader') (h' : loader'.Extends loader'') :
    loader.Extends loader'' :=
  ⟨h'.module.trans h.module, h'.root.trans h.root, h'.env.trans h.env,
    fun path p hp => h'.found path p (h.found path p hp)⟩

theorem keep (h : loader.found.lookup path = none) (p : Option SourcePackage) :
    loader.Extends (loader.keep path p) :=
  ⟨rfl, rfl, rfl, fun q p' hq => by
    rw [Loader.keep, List.lookup_cons]
    split
    · next hpath => exact absurd (h.symm.trans (beq_iff_eq.mp hpath ▸ hq)) (by simp)
    · exact hq⟩

end Extends

/-- Finding a package extends the loader. -/
theorem extends_find (t : FileTree) (path : String) (loader : Loader) :
    loader.Extends ((find t path).run loader).2 := by
  cases h : loader.found.lookup path with
  | some p =>
    simp only [find, h, StateT.run_bind, StateT.run_get, pure_bind, StateT.run_pure]
    exact .refl loader
  | none =>
    simp only [find, h, StateT.run_bind, StateT.run_get, pure_bind, StateT.run_set]
    exact .keep h _

theorem extends_answerIn (t : FileTree) :
    ∀ (m : Lookup α) (loader : Loader), loader.Extends ((m.answerIn (find t)).run loader).2
  | .done _, loader => .refl loader
  | .ask path next, loader => by
    rw [Lookup.answerIn, StateT.run_bind]
    exact (extends_find t path loader).trans (extends_answerIn t (next _) _)

theorem extends_interfaces (t : FileTree) (path : String) (loader : Loader) :
    loader.Extends ((interfaces t path).run.run loader).2 := by
  have hfind := extends_find t path loader
  rw [run_interfaces]
  rcases hrun : (find t path).run loader with ⟨_ | p, loader'⟩ <;> rw [hrun] at hfind
  · exact hfind
  · exact hfind.trans (extends_answerIn t p.interfaces.run loader')

end GoMocks.Loader
