import GoMocks.Proofs.GoType.Parts
import GoMocks.Proofs.Resolver.Growth

/-!
# Resolving types — the packages that calls bring in

A name brings in the packages that its type mentions. A zero value brings in none, once the name of
its type has been written.

* `ResolverCall.packages`: what a call brings in.
* `imports_after_call`, `imports_after_calls`: the table after a call, and after a sequence of them
  that succeed.
* `imports_after_zero`: the table is the same before and after a zero value.
-/

namespace GoMocks

/-- The packages that a call brings in, if the names of types come before their zero values. -/
def ResolverCall.packages : ResolverCall → List String
  | .name t             => t.packages
  | .zero _             => []
  | .importPackage path => [path]

/-- Each zero value is asked for after the name of its type. -/
def NamesFirst (calls : List ResolverCall) : Prop :=
  ∀ before t rest, calls = before ++ .zero t :: rest → ResolverCall.name t ∈ before

namespace NamesFirst

variable {calls rest : List ResolverCall}

theorem left (h : NamesFirst (calls ++ rest)) : NamesFirst calls := by
  rintro before t rest' rfl
  exact h before t (rest' ++ rest) (by simp)

theorem append (h : NamesFirst calls) (h' : NamesFirst rest) : NamesFirst (calls ++ rest) := by
  intro before t after heq
  rcases List.append_eq_append_iff.mp heq with ⟨mid, rfl, hmid⟩ | ⟨mid, hmid, hafter⟩
  · exact List.mem_append_right _ (h' mid t after hmid)
  · cases mid with
    | nil =>
      obtain rfl : calls = before := by simpa using hmid
      exact absurd (h' [] t after hafter.symm) List.not_mem_nil
    | cons c mid =>
      obtain ⟨rfl, -⟩ := List.cons.inj hafter
      exact h before t mid hmid

theorem flatMap {α : Type} {as : List α} {f : α → List ResolverCall}
    (h : ∀ a ∈ as, NamesFirst (f a)) : NamesFirst (as.flatMap f) := by
  induction as with
  | nil => exact fun before t rest heq => absurd heq (by simp)
  | cons a as ih =>
    obtain ⟨ha, has⟩ := List.forall_mem_cons.mp h
    exact ha.append (ih has)

/-- Calls without zero values. -/
theorem of_not_zero (h : ∀ t, .zero t ∉ calls) : NamesFirst calls := by
  rintro before t rest rfl
  exact absurd (by simp) (h t)

end NamesFirst

namespace Resolver

variable {σ : Type} {symbols : Symbols σ} {nameOf : String → String} {r : Resolver σ}

/-- The table after a call that succeeds. -/
theorem imports_after_call (hname : symbols.NamesBy nameOf) (hr : Good symbols nameOf r)
    {c : ResolverCall} (hc : ∃ text, outcome symbols r c = .ok text)
    (hzero : ∀ t, c = .zero t → t.packages ⊆ r.imports.entries.map Import.path) :
    (r.after symbols [c]).imports = r.imports.enter nameOf c.packages := by
  obtain ⟨text, htext⟩ := hc
  obtain ⟨hg, -, define, -, h⟩ := answers_perform hname c r hr
  obtain ⟨hout, himports⟩ := h _ hg.sound.agrees_identOf
  have hok := hout.symm.trans htext
  change (r.after symbols [c]).imports = _ at himports
  rw [himports]
  cases c with
  | name t             => exact congrArg _ (mentions_rendering _ t text hok)
  | importPackage path => rfl
  | zero t =>
    exact hr.sound.enter_of_subset
      (List.Subset.trans (packages_zeroRendering_subset hok) (hzero t rfl))

/-- **The table after calls that succeed** has the packages that the calls bring in. -/
theorem imports_after_calls (hname : symbols.NamesBy nameOf) (hr : Good symbols nameOf r)
    {calls : List ResolverCall} (h : Succeeds symbols r calls) (hfirst : NamesFirst calls) :
    (r.after symbols calls).imports =
      r.imports.enter nameOf (calls.flatMap ResolverCall.packages) := by
  induction calls using List.reverseRecOn with
  | nil => rfl
  | append_singleton calls c ih =>
    obtain ⟨hcalls, hc, -⟩ := succeeds_append.mp h
    have himports := ih hcalls hfirst.left
    obtain ⟨hg, -⟩ := hr.after hname calls
    rw [after_append, imports_after_call hname hg hc, himports, List.flatMap_append,
      ImportTable.enter_append]
    · simp
    · rintro t rfl p hp
      have hmem := hfirst calls t [] rfl
      rw [himports, ImportTable.mem_paths_enter]
      exact .inr (List.mem_flatMap.mpr ⟨_, hmem, hp⟩)

/-- **A zero value brings in no package.** -/
theorem imports_after_zero (hname : symbols.NamesBy nameOf) (hr : Good symbols nameOf r)
    {before rest : List ResolverCall} {t : GoType}
    (h : Succeeds symbols r (before ++ .zero t :: rest))
    (hfirst : NamesFirst (before ++ .zero t :: rest)) :
    (r.after symbols (before ++ [.zero t])).imports = (r.after symbols before).imports := by
  rw [List.append_cons] at h hfirst
  obtain ⟨h, -⟩ := succeeds_append.mp h
  rw [imports_after_calls hname hr h hfirst.left,
    imports_after_calls hname hr (succeeds_append.mp h).1 hfirst.left.left]
  simp [ResolverCall.packages]

end Resolver

end GoMocks
