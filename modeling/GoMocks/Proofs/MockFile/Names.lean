import GoMocks.MockFile.Names
import GoMocks.Proofs.FreshName

/-!
# Mock files — checked and chosen names

What the checks of the names of a mock file refuse, and which names they leave to parameters.

* `checkFileNames_eq_ok_iff`, `checkMethodNames_eq_ok_iff`, `checkTypeParamNames_eq_ok_iff`: each
  check accepts exactly the names that no scope of the file has twice. What it refuses, it refuses
  as a collision.
* `Chosen`: names that were chosen one after the other, each declared one kept where it is free.
* `chosen_chooseNames`: so are the names of parameters and results.
-/

namespace GoMocks.MockFile

/-! ### Collisions -/

/-- Nothing is repeated when the names are distinct and new. -/
theorem firstRepeated?_eq_none_iff {seen : List String} {names : List (String × String)} :
    firstRepeated? seen names = none ↔
      (names.map Prod.snd).Nodup ∧ ∀ name ∈ names.map Prod.snd, name ∉ seen := by
  induction names generalizing seen with
  | nil => simp [firstRepeated?]
  | cons entry rest ih =>
    obtain ⟨owner, name⟩ := entry
    rw [firstRepeated?, List.contains_eq_mem]
    by_cases hseen : name ∈ seen
    · simp [hseen]
    · simp only [hseen, decide_false, Bool.false_eq_true, if_false, ih, List.map_cons,
        List.nodup_cons, List.mem_cons, forall_eq_or_imp, not_or, not_false_eq_true, true_and]
      grind

theorem mem_of_firstRepeated? {seen : List String} {names : List (String × String)}
    {entry : String × String} (h : firstRepeated? seen names = some entry) : entry ∈ names := by
  induction names generalizing seen with
  | nil => exact nomatch h
  | cons first rest ih =>
    rw [firstRepeated?] at h
    split at h
    · exact Option.some.inj h ▸ List.mem_cons_self
    · exact List.mem_cons_of_mem _ (ih h)

theorem map_snd_declared (interfaces : List Interface) :
    (interfaces.flatMap fun i => (declaredNames i).map (i.name, ·)).map Prod.snd =
      interfaces.flatMap declaredNames := by
  simp [List.map_flatMap, Function.comp_def]

/-- The declarations of a file are accepted if no two of them have one name. -/
theorem checkFileNames_eq_ok_iff {interfaces : List Interface} :
    checkFileNames interfaces = .ok () ↔ (interfaces.flatMap declaredNames).Nodup := by
  rw [← map_snd_declared, ← and_true (List.Nodup _),
    ← iff_true_intro (show ∀ name ∈ (interfaces.flatMap fun i =>
      (declaredNames i).map (i.name, ·)).map Prod.snd, name ∉ [] from fun _ _ => nofun),
    ← firstRepeated?_eq_none_iff, checkFileNames]
  split
  · next h => rw [h]; exact ⟨nofun, nofun⟩
  · next h => rw [h]; exact ⟨fun _ => rfl, fun _ => rfl⟩

/-- A file is refused for a name that one of its interfaces declares. -/
theorem checkFileNames_eq_error {interfaces : List Interface} {e : Error}
    (h : checkFileNames interfaces = .error e) :
    ∃ i ∈ interfaces, ∃ name ∈ declaredNames i, e = .nameCollision i.name name := by
  rw [checkFileNames] at h
  split at h
  · next hfound =>
    obtain ⟨i, hi, hentry⟩ := List.mem_flatMap.mp (mem_of_firstRepeated? hfound)
    obtain ⟨name, hname, hpair⟩ := List.mem_map.mp hentry
    obtain ⟨rfl, rfl⟩ := Prod.mk.inj hpair
    exact ⟨i, hi, name, hname, (Except.error.inj h).symm⟩
  · exact nomatch h

/-- Declarations that are not accepted are refused as a collision of one of their names. -/
theorem exists_checkFileNames_eq_error {interfaces : List Interface}
    (h : ¬ (interfaces.flatMap declaredNames).Nodup) :
    ∃ i ∈ interfaces, ∃ name ∈ declaredNames i,
      checkFileNames interfaces = .error (.nameCollision i.name name) := by
  cases hfile : checkFileNames interfaces with
  | ok u => exact absurd (checkFileNames_eq_ok_iff.mp hfile) h
  | error e =>
    obtain ⟨i, hi, name, hname, rfl⟩ := checkFileNames_eq_error hfile
    exact ⟨i, hi, name, hname, rfl⟩

/-- The names that the mock of an interface needs for methods of its own. -/
def neededMethods (i : Interface) : List String :=
  "HasMore" :: (i.methods.map Method.name).flatMap fun name => ["Add" ++ name, "Set" ++ name]

/-- No adder is called like a setter. -/
theorem add_ne_set (a b : String) : "Add" ++ a ≠ "Set" ++ b := by
  intro h
  simp [← String.toList_inj] at h

/-- Where the methods of an interface differ, so do the methods that its mock has beside them. -/
theorem neededMethods_nodup {i : Interface} (h : (i.methods.map Method.name).Nodup) :
    (neededMethods i).Nodup := by
  refine List.nodup_cons.mpr ⟨fun hmem => ?_, List.nodup_flatMap.mpr ⟨fun a _ => ?_, ?_⟩⟩
  · obtain ⟨a, -, ha⟩ := List.mem_flatMap.mp hmem
    rcases List.mem_pair.mp ha with ha | ha <;> simp [← String.toList_inj] at ha
  · exact List.pairwise_pair.mpr (add_ne_set a a)
  · refine h.imp fun {a b} hab s ha hb => ?_
    rcases List.mem_pair.mp ha with rfl | rfl <;> rcases List.mem_pair.mp hb with e | e
    · exact hab ((String.append_right_inj _).mp e)
    · exact add_ne_set a b e
    · exact add_ne_set b a e.symm
    · exact hab ((String.append_right_inj _).mp e)

/-- A mock declares the methods of the interface and those it needs. -/
theorem declaredMethods_perm (i : Interface) :
    (declaredMethods i).Perm (i.methods.map Method.name ++ neededMethods i) := by
  have hsplit := List.flatMap_append_perm (i.methods.map Method.name) (fun name => [name])
    fun name => ["Add" ++ name, "Set" ++ name]
  rw [List.flatMap_singleton'] at hsplit
  rw [declaredMethods, neededMethods, ← List.flatMap_map (f := Method.name)
    (g := fun name => [name, "Add" ++ name, "Set" ++ name])]
  exact (hsplit.symm.cons _).trans List.perm_middle.symm

/-- The methods of an interface are accepted if its mock declares no two of one name. -/
theorem checkMethodNames_eq_ok_iff {i : Interface} (h : (i.methods.map Method.name).Nodup) :
    checkMethodNames i = .ok () ↔ (declaredMethods i).Nodup := by
  have hcheck : checkMethodNames i = .ok () ↔
      (neededMethods i).find? (i.methods.map Method.name).contains = none := by
    rw [checkMethodNames, ← neededMethods]
    split
    · next h => rw [h]; exact ⟨nofun, nofun⟩
    · next h => rw [h]; exact ⟨fun _ => rfl, fun _ => rfl⟩
  rw [hcheck, (declaredMethods_perm i).nodup_iff, List.nodup_append', List.find?_eq_none]
  simp only [h, neededMethods_nodup h, true_and, List.contains_eq_mem, decide_eq_true_eq]
  exact ⟨fun hd s hs hn => hd s hn hs, fun hd s hn hs => hd hs hn⟩

/-- The type parameters are accepted if none of them has a name that the bodies use, or one that is
reserved. -/
theorem checkTypeParamNames_eq_ok_iff {i : Interface} {reserved : List String} :
    checkTypeParamNames i reserved = .ok () ↔
      ∀ p ∈ i.typeParams, p.name ∉ bodyNames ∧ p.name ∉ reserved := by
  have hcheck : checkTypeParamNames i reserved = .ok () ↔
      (i.typeParams.map TypeParam.name).find?
        (fun name => bodyNames.contains name || reserved.contains name) = none := by
    rw [checkTypeParamNames]
    split
    · next h => rw [h]; exact ⟨nofun, nofun⟩
    · next h => rw [h]; exact ⟨fun _ => rfl, fun _ => rfl⟩
  rw [hcheck, List.find?_eq_none]
  simp [not_or]

/-- A failure that says that a name is needed twice, by itself or for an interface. -/
inductive NameCollides : Error → Prop
  | direct (interface name : String) : NameCollides (.nameCollision interface name)
  | inInterface (package interface : String) (file : Path) (line : Nat) (owner name : String) :
    NameCollides (.inInterface package interface file line (.nameCollision owner name))

/-- The checks of an interface on its own. -/
def checkInterface (i : Interface) (reserved : List String) : Except Error Unit := do
  checkMethodNames i
  checkTypeParamNames i reserved

/-- An interface passes when its methods and its type parameters do. -/
theorem checkInterface_eq_ok {i : Interface} {reserved : List String} :
    checkInterface i reserved = .ok () ↔
      checkMethodNames i = .ok () ∧ checkTypeParamNames i reserved = .ok () := by
  rw [checkInterface]
  cases checkMethodNames i with
  | error e => exact ⟨nofun, fun h => nomatch h.1⟩
  | ok u => exact ⟨fun h => ⟨rfl, h⟩, fun h => h.2⟩

/-- What the checks of an interface accept. -/
theorem checkInterface_eq_ok_iff {i : Interface} {reserved : List String}
    (h : (i.methods.map Method.name).Nodup) :
    checkInterface i reserved = .ok () ↔ (declaredMethods i).Nodup ∧
      ∀ p ∈ i.typeParams, p.name ∉ bodyNames ∧ p.name ∉ reserved := by
  rw [checkInterface_eq_ok, checkMethodNames_eq_ok_iff h, checkTypeParamNames_eq_ok_iff]

/-- An interface is refused for a collision of names. -/
theorem checkInterface_eq_error {i : Interface} {reserved : List String} {e : Error}
    (h : checkInterface i reserved = .error e) : ∃ name, e = .nameCollision i.name name := by
  rw [checkInterface] at h
  cases hm : checkMethodNames i with
  | error e' =>
    rw [hm] at h
    obtain rfl := Except.error.inj h
    rw [checkMethodNames] at hm
    split at hm
    · exact ⟨_, (Except.error.inj hm).symm⟩
    · exact nomatch hm
  | ok u =>
    rw [hm] at h
    change checkTypeParamNames i reserved = .error e at h
    rw [checkTypeParamNames] at h
    split at h
    · exact ⟨_, (Except.error.inj h).symm⟩
    · exact nomatch h

/-! ### Names for parameters and results -/

/-- What a parameter must not be called. -/
theorem mem_forbiddenNames {name : String} {taken : List String} :
    name ∈ forbiddenNames taken ↔
      name = "" ∨ name ∈ bodyNames ∨ name ∈ predeclaredNames ∨ name ∈ taken := by
  simp [forbiddenNames]

theorem mem_forbiddenNames_cons {name other : String} {taken : List String} :
    name ∈ forbiddenNames (other :: taken) ↔ name = other ∨ name ∈ forbiddenNames taken := by
  simp only [mem_forbiddenNames, List.mem_cons]
  tauto

/-- The replacements of a name are all different. -/
theorem replacement_injective (letter : Char) (place : Nat) :
    (replacement letter place).Injective := by
  have hne : ∀ n : Nat, replacement letter place 0 ≠ replacement letter place (n + 1) := by
    intro n h
    have hl := congrArg String.length h
    simp only [replacement, String.length_append] at hl
    have : "_".length = 1 := rfl
    omega
  rintro (_ | m) (_ | n) h
  · rfl
  · exact absurd h (hne n)
  · exact absurd h.symm (hne m)
  · exact congrArg _ (by simpa using Nat.repr_injective ((String.append_right_inj _).mp h))

/-- A name that is chosen is free, and a declared one is kept exactly if it is. -/
theorem chooseName_spec (letter : Char) (place : Nat) (declared : String) (taken : List String) :
    chooseName letter place declared taken ∉ forbiddenNames taken ∧
      (chooseName letter place declared taken = declared ↔ declared ∉ forbiddenNames taken) := by
  rw [chooseName, List.contains_eq_mem]
  by_cases h : declared ∈ forbiddenNames taken
  · obtain ⟨n, hn, hfree, -⟩ :=
      firstFresh?_spec (replacement_injective letter place) (forbiddenNames taken)
    simp only [h, decide_true, if_true, hn, Option.getD_some, not_true_eq_false, iff_false]
    exact ⟨hfree, fun e => hfree (e ▸ h)⟩
  · simp [h]

/-- Names that were chosen one after the other for declared ones. Each is free when it is chosen,
and each declared name that is free is kept. -/
inductive Chosen : List String → List String → List String → Prop
  | nil (taken : List String) : Chosen taken [] []
  | cons {taken declared names : List String} {d name : String} (free : name ∉ forbiddenNames taken)
      (kept : name = d ↔ d ∉ forbiddenNames taken) (rest : Chosen (name :: taken) declared names) :
    Chosen taken (d :: declared) (name :: names)

/-- The chosen names are chosen one by one. -/
theorem chosen_chooseNames (letter : Char) (taken : List String) (place : Nat)
    (declared : List String) :
    Chosen taken declared (chooseNames letter taken place declared) := by
  induction declared generalizing taken place with
  | nil => exact .nil taken
  | cons d declared ih =>
    obtain ⟨hfree, hkept⟩ := chooseName_spec letter place d taken
    exact .cons hfree hkept (ih _ _)

namespace Chosen

variable {taken declared names declared' names' : List String}

/-- Names chosen behind others, which are taken by then. -/
theorem append (h : Chosen taken declared names)
    (h' : Chosen (names.reverse ++ taken) declared' names') :
    Chosen taken (declared ++ declared') (names ++ names') := by
  induction h with
  | nil taken => exact h'
  | cons free kept rest ih =>
    exact .cons free kept (ih (by simpa using h'))

theorem length_eq (h : Chosen taken declared names) : names.length = declared.length := by
  induction h with
  | nil taken => rfl
  | cons free kept rest ih => simp [ih]

theorem free (h : Chosen taken declared names) : ∀ name ∈ names, name ∉ forbiddenNames taken := by
  induction h with
  | nil taken => exact nofun
  | cons free kept rest ih =>
    rintro name (_ | ⟨_, hmem⟩)
    · exact free
    · exact fun hf => ih name hmem (mem_forbiddenNames_cons.mpr (.inr hf))

theorem nodup (h : Chosen taken declared names) : names.Nodup := by
  induction h with
  | nil taken => exact .nil
  | cons free kept rest ih =>
    exact List.nodup_cons.mpr
      ⟨fun hmem => rest.free _ hmem (mem_forbiddenNames_cons.mpr (.inl rfl)), ih⟩

/-- A declared name is kept exactly when it is free against the names chosen before it. -/
theorem kept_iff (h : Chosen taken declared names) {k : Nat} (hd : k < declared.length)
    (hn : k < names.length) :
    names[k] = declared[k] ↔
      declared[k] ∉ forbiddenNames taken ∧ declared[k] ∉ names.take k := by
  induction h generalizing k with
  | nil taken => exact absurd hd (Nat.not_lt_zero k)
  | cons free kept rest ih =>
    cases k with
    | zero => simpa using kept
    | succ k =>
      simp only [List.getElem_cons_succ, List.take_succ_cons, List.mem_cons, not_or]
      rw [ih (by simpa using hd) (by simpa using hn), mem_forbiddenNames_cons]
      tauto

end Chosen

end GoMocks.MockFile
