import GoMocks.ImportPath
import GoMocks.SourcePackage

/-!
# Looking packages up

A question about types may need packages that are not known beforehand: which ones shows only in
the course of answering it. A `Lookup` is such a course. It does not say where packages come from.

* `Lookup.answer`: the answer, where packages are given by a function.
* `Lookup.answerIn`: the answer, where finding a package changes a state, as when it is read for the
  first time.
* `Inquiry`: a lookup that may fail.
-/

namespace GoMocks

/-- A computation that asks for packages by their import paths. -/
inductive Lookup (α : Type) where
  | done (answer : α)
  | ask  (path : String) (next : Option SourcePackage → Lookup α)

namespace Lookup

variable {α β σ : Type}

/-- Goes on with the answer. -/
def bind : Lookup α → (α → Lookup β) → Lookup β
  | done a,        f => f a
  | ask path next, f => ask path fun p => (next p).bind f

instance : Monad Lookup where
  pure := done
  bind := bind

/-- The package of an import path. -/
def find (path : String) : Lookup (Option SourcePackage) :=
  ask path done

/-- The declared name of a package, or the one that its path suggests. -/
def packageName (path : String) : Lookup String := do
  match ← find path with
  | some p => return p.package.name
  | none   => return ImportPath.guessedName path

/-- The answer, where packages are given by a function. -/
def answer (packages : String → Option SourcePackage) : Lookup α → α
  | done a        => a
  | ask path next => (next (packages path)).answer packages

/-- The answer, where finding a package may change a state. -/
def answerIn (find : String → StateM σ (Option SourcePackage)) : Lookup α → StateM σ α
  | done a        => return a
  | ask path next => do (next (← find path)).answerIn find

theorem bind_done : ∀ m : Lookup α, m.bind done = m
  | done _        => rfl
  | ask path next => by simp only [bind, bind_done]

/-- Continuing twice is continuing by the continued continuation. -/
theorem bind_assoc {γ : Type} (f : α → Lookup β) (g : β → Lookup γ) :
    ∀ m : Lookup α, (m.bind f).bind g = m.bind fun a => (f a).bind g
  | done _        => rfl
  | ask path next => by simp only [bind, bind_assoc]

instance : LawfulMonad Lookup := LawfulMonad.mk' Lookup
  (fun m => bind_done m)
  (fun _ _ => rfl)
  (fun m f g => bind_assoc f g m)

end Lookup

/-- A lookup that may fail. -/
abbrev Inquiry := ExceptT Error Lookup

namespace Inquiry

variable {α σ : Type}

/-- The package of an import path. -/
def find (path : String) : Inquiry (Option SourcePackage) :=
  ExceptT.lift (Lookup.find path)

/-- The outcome, where packages are given by a function. -/
def answer (packages : String → Option SourcePackage) (inquiry : Inquiry α) : Except Error α :=
  inquiry.run.answer packages

/-- The outcome, where finding a package may change a state. -/
def answerIn (find : String → StateM σ (Option SourcePackage)) (inquiry : Inquiry α) :
    StateM σ (Except Error α) :=
  inquiry.run.answerIn find

/-- The declared name of a package, or the one that its path suggests. -/
def packageName (path : String) : Inquiry String :=
  ExceptT.lift (Lookup.packageName path)

end Inquiry

end GoMocks
