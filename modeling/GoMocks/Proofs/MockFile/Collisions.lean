import GoMocks.Proofs.MockFile.Build

/-!
# Mock files — when a name collides

The checks look at the declarations of a file, at the methods of an interface and at its type
parameters, each for itself and at different times. Together they ask whether some scope of the
mock file has a name twice, in view of the imports it has in the end.

* `Collision`: the ways in which a scope of the file can have a name twice.
* `nameCollides_iff_collision`: where all texts can be had, a file is refused for a collision
  exactly if there is one, and built exactly if there is none.
-/

namespace GoMocks.MockFile

open Resolver

variable {σ : Type} {symbols : Symbols σ} {r : Resolver σ} {package : Package}
  {interfaces : List Interface} {options : MockOptions}

/-- Some scope of a mock file with the imports of the table has a name twice. -/
inductive Collision (table : ImportTable) (interfaces : List Interface) : Prop
  /-- Two declarations of the file have one name. -/
  | declaration (h : ¬ (interfaces.flatMap declaredNames).Nodup)
  /-- Two methods of a mock have one name. -/
  | method (i : Interface) (hi : i ∈ interfaces) (h : ¬ (declaredMethods i).Nodup)
  /-- A type parameter has a name of the method bodies, of an import, or of a declaration. -/
  | typeParam (i : Interface) (hi : i ∈ interfaces) (p : TypeParam) (hp : p ∈ i.typeParams)
    (h : p.name ∈ bodyNames ∨ p.name ∈ table.identifiers ∨
      p.name ∈ interfaces.flatMap declaredNames)

/-- No scope has a name twice if each scope for itself has none. -/
theorem not_collision_iff {table : ImportTable} :
    ¬ Collision table interfaces ↔ (interfaces.flatMap declaredNames).Nodup ∧
      ∀ i ∈ interfaces, (declaredMethods i).Nodup ∧ ∀ p ∈ i.typeParams,
        p.name ∉ bodyNames ∧ p.name ∉ table.identifiers ∧
          p.name ∉ interfaces.flatMap declaredNames := by
  constructor
  · intro hno
    refine ⟨?_, fun i hi => ⟨?_, fun p hp => ⟨fun h => ?_, fun h => ?_, fun h => ?_⟩⟩⟩
    · by_contra h
      exact hno (.declaration h)
    · by_contra h
      exact hno (.method i hi h)
    · exact hno (.typeParam i hi p hp (.inl h))
    · exact hno (.typeParam i hi p hp (.inr (.inl h)))
    · exact hno (.typeParam i hi p hp (.inr (.inr h)))
  · rintro ⟨hdeclared, hall⟩ (h | ⟨i, hi, h⟩ | ⟨i, hi, p, hp, h⟩)
    · exact h hdeclared
    · exact h (hall i hi).1
    · obtain ⟨hbody, himports, hnames⟩ := (hall i hi).2 p hp
      exact h.elim hbody (Or.rec himports hnames)

instance (table : ImportTable) (interfaces : List Interface) :
    Decidable (Collision table interfaces) :=
  decidable_of_iff _ ((not_congr not_collision_iff.symm).trans not_not)

/-- The names of a file are accepted if none of its scopes has one twice. -/
theorem accepted_iff (hmethods : ∀ i ∈ interfaces, (i.methods.map Method.name).Nodup) :
    Accepted r interfaces ↔ ¬ Collision r.imports interfaces := by
  rw [not_collision_iff, Accepted, checkFileNames_eq_ok_iff]
  refine and_congr_right fun _ => forall₂_congr fun i hi => ?_
  rw [checkInterface_eq_ok_iff (hmethods i hi)]
  simp only [reservedNames, List.mem_append, not_or]

/-- **A file is refused for a collision exactly if there is one.** The methods of each interface
have different names, and every text that the file needs can be had. Then, in view of the imports
that are there in the end, the file is refused for a collision, by itself or for an interface, if
there is one; and it is built, with exactly these imports, if there is none. -/
theorem nameCollides_iff_collision (symbols : Symbols σ) (package : Package)
    (interfaces : List Interface) (options : MockOptions) (state : σ)
    (hmethods : ∀ i ∈ interfaces, (i.methods.map Method.name).Nodup)
    (hcalls : Succeeds symbols (.ofModule package.module state)
      (fileCalls package interfaces options)) :
    let result := (mockFile symbols package interfaces options state).1
    let table :=
      (lastResolver symbols package interfaces options (.ofModule package.module state)).imports
    ((∃ e, result = .error e ∧ NameCollides e) ↔ Collision table interfaces) ∧
      ((∃ file, result = .ok file ∧ ∀ i, i ∈ file.imports ↔ i ∈ table.entries) ↔
        ¬ Collision table interfaces) := by
  intro result table
  have hresult : result = ((build symbols package interfaces options).run.run _).1 :=
    fst_mockFile symbols package interfaces options state
  obtain ⟨hbuilt, hfails⟩ := build_of_succeeds hcalls
  by_cases hcollision : Collision table interfaces
  · obtain ⟨e, r', he, hcollides⟩ := hfails fun h => (accepted_iff hmethods).mp h hcollision
    rw [he] at hresult
    simp only [hresult, hcollision, not_true_eq_false, iff_true, iff_false]
    exact ⟨⟨e, rfl, hcollides⟩, nofun⟩
  · obtain ⟨file, hfile, hmock⟩ := hbuilt ((accepted_iff hmethods).mpr hcollision)
    rw [hfile] at hresult
    simp only [hresult, hcollision, not_false_eq_true, iff_true, iff_false]
    exact ⟨nofun, file, rfl, fun i => hmock.mem_imports⟩

/-- A generic interface with a method that has a parameter of the type parameter, and a result of a
type of the package `time`. -/
def cacheOf (param : String) : Interface where
  name         := "Cache"
  file         := ⟨"/cache.go"⟩
  line         := 5
  exported     := true
  typeParams   := [⟨param, .named ⟨none, "any", []⟩⟩]
  methods      := [⟨"Added",
    ⟨[⟨"key", .parameter param⟩], [⟨"", .named ⟨some "time", "Time", []⟩⟩], false⟩⟩]
  isConstraint := false

/-- A type parameter must not be called like a package that only the result of a method refers
to; another name will do. -/
theorem nameCollides_iff_collision_cache :
    (∃ e, shopFile [cacheOf "time"] = .error e ∧ NameCollides e) ∧
      ∃ file, shopFile [cacheOf "K"] = .ok file := by
  have hmethods : ∀ param, ∀ i ∈ [cacheOf param], (i.methods.map Method.name).Nodup := by
    simp [cacheOf]
  obtain ⟨htime, -⟩ := nameCollides_iff_collision suggestedNames shop [cacheOf "time"]
    shopOptions () (hmethods _) (by decide +kernel)
  obtain ⟨-, hK⟩ := nameCollides_iff_collision suggestedNames shop [cacheOf "K"] shopOptions ()
    (hmethods _) (by decide +kernel)
  obtain ⟨file, hfile, -⟩ := hK.mpr (by decide +kernel)
  exact ⟨htime.mpr (by decide +kernel), file, hfile⟩

end GoMocks.MockFile
