import GoMocks.FreshName
import Mathlib

/-!
# Fresh names — the search ends

Candidates that are all different cannot all be taken when there are more of them than taken names.

* `le_length_of_injective`: names that include the first candidates are as many as these.
* `firstFresh?_spec`: the search finds the first candidate that is not taken.
-/

namespace GoMocks

/-- Names that include the first `n` of some candidates, all different, are at least `n`. -/
theorem le_length_of_injective {candidate : Nat → String} (hc : candidate.Injective)
    {taken : List String} {n : Nat} (h : ∀ m < n, candidate m ∈ taken) : n ≤ taken.length := by
  have hd : ((List.range n).map candidate).Nodup := List.nodup_range.map hc
  have hs : ((List.range n).map candidate) ⊆ taken := by
    intro s hs
    obtain ⟨m, hm, rfl⟩ := List.mem_map.mp hs
    exact h m (List.mem_range.mp hm)
  simpa using (hd.subperm hs).length_le

/-- The search for a fresh name always ends, at the first candidate that is not taken. -/
theorem firstFresh?_spec {candidate : Nat → String} (hc : candidate.Injective)
    (taken : List String) :
    ∃ n, firstFresh? taken candidate = some (candidate n) ∧ candidate n ∉ taken ∧
      ∀ m < n, candidate m ∈ taken := by
  have hex : ∃ n, candidate n ∉ taken := by
    by_contra hno
    simp only [not_exists, not_not] at hno
    have hle : taken.length + 1 ≤ taken.length := le_length_of_injective hc fun m _ => hno m
    omega
  have hmin : ∀ m < Nat.find hex, candidate m ∈ taken := fun m hm => by
    simpa using Nat.find_min hex hm
  have hle : Nat.find hex ≤ taken.length := le_length_of_injective hc hmin
  refine ⟨Nat.find hex, ?_, Nat.find_spec hex, hmin⟩
  rw [firstFresh?, List.find?_map, Option.map_eq_some_iff]
  refine ⟨_, List.find?_range_eq_some.mpr ⟨?_, List.mem_range.mpr (by omega), fun m hm => ?_⟩, rfl⟩
  · simpa using Nat.find_spec hex
  · simpa using hmin m hm

end GoMocks
