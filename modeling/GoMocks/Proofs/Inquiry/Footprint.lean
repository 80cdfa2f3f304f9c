import GoMocks.Proofs.Inquiry

/-!
# Inquiries — the packages they ask for

Which packages an inquiry asks for shows only in the course of answering it. Where all of them are
among some packages that are kept, the outcome depends on these alone.

* `Lookup.Within`: every package on the way to the answer is kept, and the answer has a property.
* `Inquiry.Within`: the same for an inquiry, with a property of what is found and one of failures.
* `Inquiry.Within.answer_eq`: where the kept packages are the same, the outcome is.
-/

namespace GoMocks

variable {α β : Type} {packages packages' : String → Option SourcePackage} {kept : String → Prop}

/-! ### Lookups -/

namespace Lookup

variable {P Q : α → Prop}

/-- Every package that is asked for on the way to the answer is kept, and the answer has a
property. -/
def Within (packages : String → Option SourcePackage) (kept : String → Prop) (P : α → Prop) :
    Lookup α → Prop
  | done a        => P a
  | ask path next => kept path ∧ (next (packages path)).Within packages kept P

theorem Within.mono (h : ∀ a, P a → Q a) :
    ∀ {m : Lookup α}, m.Within packages kept P → m.Within packages kept Q
  | done _,     hm => h _ hm
  | ask _ next, hm => ⟨hm.1, Within.mono h (m := next _) hm.2⟩

/-- What is asked for in two steps is what each of them asks for. -/
theorem within_bind {R : β → Prop} (f : α → Lookup β) :
    ∀ m : Lookup α, (m >>= f).Within packages kept R ↔
      m.Within packages kept fun a => (f a).Within packages kept R
  | done _     => Iff.rfl
  | ask _ next => and_congr_right fun _ => within_bind f (next _)

/-- A lookup within a set answers as it says. -/
theorem Within.answer : ∀ {m : Lookup α}, m.Within packages kept P → P (m.answer packages)
  | done _,     h => h
  | ask _ next, h => Within.answer (m := next _) h.2

/-- **An answer depends on the packages that are asked for alone.** -/
theorem Within.answer_eq (hkept : ∀ path, kept path → packages' path = packages path) :
    ∀ {m : Lookup α}, m.Within packages kept P → m.answer packages' = m.answer packages
  | done _,        _ => rfl
  | ask path next, h => by
    rw [Lookup.answer, Lookup.answer, hkept path h.1]
    exact Within.answer_eq hkept (m := next _) h.2

end Lookup

/-! ### Inquiries -/

namespace Inquiry

variable {P Q : α → Prop} {R : β → Prop} {E F : Error → Prop}

/-- A property of what is found, and one of failures. -/
def Outcome (P : α → Prop) (E : Error → Prop) : Except Error α → Prop
  | .ok a    => P a
  | .error e => E e

/-- Every package that is asked for is kept, what is found has a property, and so has a failure. -/
def Within (packages : String → Option SourcePackage) (kept : String → Prop) (P : α → Prop)
    (E : Error → Prop) (x : Inquiry α) : Prop :=
  x.run.Within packages kept (Outcome P E)

namespace Within

variable {x : Inquiry α} {f : α → Inquiry β}

theorem mono (hP : ∀ a, P a → Q a) (hE : ∀ e, E e → F e) (h : x.Within packages kept P E) :
    x.Within packages kept Q F := by
  refine Lookup.Within.mono (fun r hr => ?_) h
  cases r with
  | ok a    => exact hP a hr
  | error e => exact hE e hr

theorem pure {a : α} (h : P a) : (Pure.pure a : Inquiry α).Within packages kept P E := h

theorem throw {e : Error} (h : E e) :
    (MonadExcept.throw e : Inquiry α).Within packages kept P E := h

theorem find {path : String} (h : kept path) :
    (Inquiry.find path).Within packages kept (· = packages path) E :=
  ⟨h, rfl⟩

theorem packageName {path : String} (h : kept path) :
    (Inquiry.packageName path).Within packages kept (fun _ => True) E := by
  refine ⟨h, ?_⟩
  cases packages path <;> exact trivial

theorem bind (hx : x.Within packages kept P E)
    (hf : ∀ a, P a → (f a).Within packages kept R E) : (x >>= f).Within packages kept R E := by
  rw [Within, ExceptT.run_bind, Lookup.within_bind]
  refine Lookup.Within.mono (fun r hr => ?_) hx
  cases r with
  | ok a    => exact hf a hr
  | error e => exact hr

theorem tryCatch {handle : Error → Inquiry α} (hx : x.Within packages kept P E)
    (hh : ∀ e, E e → (handle e).Within packages kept P F) :
    (MonadExcept.tryCatch x handle).Within packages kept P F := by
  rw [Within, ExceptT.run_tryCatch, Lookup.within_bind]
  refine Lookup.Within.mono (fun r hr => ?_) hx
  cases r with
  | ok a    => exact hr
  | error e => exact hh e hr

theorem mapM {as : List α} (h : ∀ a ∈ as, (f a).Within packages kept R E) :
    (as.mapM f).Within packages kept (fun bs => ∀ b ∈ bs, R b) E := by
  induction as with
  | nil => exact pure (List.forall_mem_nil _)
  | cons a as ih =>
    obtain ⟨ha, has⟩ := List.forall_mem_cons.mp h
    rw [List.mapM_cons]
    exact ha.bind fun b hb => (ih has).bind fun bs hbs => pure (List.forall_mem_cons.mpr ⟨hb, hbs⟩)

/-! ### What it comes to -/

/-- The answer of an inquiry within a set is as it says. -/
theorem outcome (h : x.Within packages kept P E) : Outcome P E (x.answer packages) :=
  Lookup.Within.answer h

theorem of_eq_ok {a : α} (h : x.Within packages kept P E) (ha : x.answer packages = .ok a) :
    P a := by
  have hout := h.outcome
  rwa [ha] at hout

theorem of_eq_error {e : Error} (h : x.Within packages kept P E)
    (he : x.answer packages = .error e) : E e := by
  have hout := h.outcome
  rwa [he] at hout

/-- **The outcome depends on the packages that are asked for alone.** -/
theorem answer_eq (hkept : ∀ path, kept path → packages' path = packages path)
    (h : x.Within packages kept P E) : x.answer packages' = x.answer packages :=
  Lookup.Within.answer_eq hkept h

end Within

end Inquiry

end GoMocks
