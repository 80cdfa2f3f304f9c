import GoMocks.MethodSet
import GoMocks.Proofs.KeyOrder

/-!
# Method sets — merging

A method set that was filled from a list of methods has the first one of each name.

* `MethodSet.Holds`: a set has the first method of each name of a list, and no other.
* `MethodSet.Holds.merge`: merging sets comes to joining their lists.
* `MethodSet.Holds.mem_sorted`: the methods in order are those that come first in the list.
-/

namespace GoMocks

/-- The methods that an interface type itself has, in the order they are written in. -/
def declaredMethods (specs : List MethodSpec) : List Method :=
  specs.map fun m => ⟨m.name, m.signature⟩

/-- The first method of a name. -/
def firstNamed (name : String) (listing : List Method) : Option Method :=
  listing.find? (·.name == name)

theorem firstNamed_append (name : String) (l l' : List Method) :
    firstNamed name (l ++ l') = (firstNamed name l).or (firstNamed name l') :=
  List.find?_append

/-- The first of a name has that name. -/
theorem name_of_firstNamed {name : String} {l : List Method} {m : Method}
    (h : firstNamed name l = some m) : m.name = name := by
  simpa using List.find?_some h

/-- Of the methods of a name there is a first. -/
theorem exists_firstNamed {name : String} {l : List Method} (h : ∃ m ∈ l, m.name = name) :
    ∃ m, firstNamed name l = some m :=
  Option.isSome_iff_exists.mp (by simpa [firstNamed] using h)

/-- Of methods with different names each one is the first of its name. -/
theorem firstNamed_eq_some_iff {l : List Method} (hl : (l.map Method.name).Nodup) {m : Method} :
    firstNamed m.name l = some m ↔ m ∈ l := by
  refine ⟨fun h => List.mem_of_find?_eq_some h, fun h => ?_⟩
  obtain ⟨m', hm'⟩ := exists_firstNamed ⟨m, h, rfl⟩
  have heq : m' = m :=
    List.inj_on_of_nodup_map hl (List.mem_of_find?_eq_some hm') h (name_of_firstNamed hm')
  exact heq ▸ hm'

namespace MethodSet

variable {set other : MethodSet} {l l' : List Method}

/-- A set has the first method of each name of a list, and no other. -/
structure Holds (set : MethodSet) (listing : List Method) : Prop where
  nodup : (set.methods.map Method.name).Nodup
  first : ∀ name, firstNamed name set.methods = firstNamed name listing

theorem Holds.empty (isConstraint : Bool) : Holds ⟨[], isConstraint⟩ [] :=
  ⟨List.nodup_nil, fun _ => rfl⟩

theorem Holds.insert (h : set.Holds l) (m : Method) : (set.insert m).Holds (l ++ [m]) := by
  unfold MethodSet.insert
  split
  · next hm =>
    obtain ⟨m', hm', hname⟩ : ∃ m' ∈ set.methods, m'.name = m.name := by simpa using hm
    refine ⟨h.nodup, fun name => ?_⟩
    rw [firstNamed_append, h.first]
    by_cases hn : m.name = name
    · obtain ⟨m₀, h₀⟩ := exists_firstNamed ⟨m', hm', hname.trans hn⟩
      rw [← h.first, h₀]; rfl
    · rw [show firstNamed name [m] = none by simp [firstNamed, hn], Option.or_none]
  · next hm =>
    have hnew : m.name ∉ set.methods.map Method.name := by simpa using hm
    refine ⟨?_, fun name => ?_⟩
    · rw [List.map_append]
      exact List.nodup_append.mpr ⟨h.nodup, List.nodup_singleton _, fun a ha b hb =>
        fun hab => hnew (by simpa [hab, List.mem_singleton.mp hb] using ha)⟩
    · rw [firstNamed_append, firstNamed_append, h.first]

theorem Holds.insertAll (h : set.Holds l) (methods : List Method) :
    (set.insertAll methods).Holds (l ++ methods) := by
  induction methods generalizing set l with
  | nil => simpa [MethodSet.insertAll] using h
  | cons m rest ih => simpa [MethodSet.insertAll] using ih (h.insert m)

/-- What follows behind a list counts by its first methods alone. -/
theorem Holds.append (h : set.Holds (l ++ other.methods)) (ho : other.Holds l') :
    set.Holds (l ++ l') :=
  ⟨h.nodup, fun name => by
    rw [h.first, firstNamed_append, firstNamed_append, ho.first]⟩

/-- **Merging sets comes to joining their lists.** -/
theorem Holds.merge (h : set.Holds l) (ho : other.Holds l') :
    (set.merge other).Holds (l ++ l') := by
  have hflag : Holds { set with isConstraint := set.isConstraint || other.isConstraint } l :=
    ⟨h.nodup, h.first⟩
  exact (hflag.insertAll other.methods).append ho

theorem Holds.ofSpecs (specs : List MethodSpec) :
    (MethodSet.ofSpecs specs).Holds (declaredMethods specs) :=
  (Holds.empty false).insertAll (declaredMethods specs)

@[simp]
theorem insert_isConstraint (set : MethodSet) (m : Method) :
    (set.insert m).isConstraint = set.isConstraint := by
  unfold MethodSet.insert
  split <;> rfl

@[simp]
theorem insertAll_isConstraint (set : MethodSet) (methods : List Method) :
    (set.insertAll methods).isConstraint = set.isConstraint := by
  induction methods generalizing set with
  | nil => rfl
  | cons m rest ih => exact (ih (set.insert m)).trans (insert_isConstraint set m)

@[simp]
theorem merge_isConstraint (set other : MethodSet) :
    (set.merge other).isConstraint = (set.isConstraint || other.isConstraint) :=
  insertAll_isConstraint ..

@[simp]
theorem ofSpecs_isConstraint (specs : List MethodSpec) :
    (MethodSet.ofSpecs specs).isConstraint = false :=
  insertAll_isConstraint ..

/-- A set holds the first method of each name. -/
theorem Holds.mem_sorted (h : set.Holds l) {m : Method} :
    m ∈ set.sorted ↔ firstNamed m.name l = some m := by
  rw [sorted, mem_sortByKey h.nodup, ← h.first, firstNamed_eq_some_iff h.nodup]

/-- The names in order are those of the list. -/
theorem Holds.name_mem_sorted (h : set.Holds l) {name : String} :
    name ∈ set.sorted.map Method.name ↔ ∃ m ∈ l, m.name = name := by
  refine ⟨fun hn => ?_, fun hn => ?_⟩
  · obtain ⟨m, hm, rfl⟩ := List.mem_map.mp hn
    exact ⟨m, List.mem_of_find?_eq_some (h.mem_sorted.mp hm), rfl⟩
  · obtain ⟨m, hm⟩ := exists_firstNamed hn
    obtain rfl := name_of_firstNamed hm
    exact List.mem_map.mpr ⟨m, h.mem_sorted.mpr hm, rfl⟩

end MethodSet

end GoMocks
