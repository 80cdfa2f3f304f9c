import GoMocks.Proofs.Definition
import GoMocks.Proofs.MethodSet.Merging

/-!
# Method sets — definitions and embeddings

Where the methods of a type come from, said without a walk: from the interfaces that it reaches
through definitions and embeddings, and of two methods of one name from the one that a search in
depth meets first.

* `LeadsTo`, `Reaches`: one step from a type to one that it is defined as or embeds, and any number
  of them.
* `DepthFirst`: the methods that a search in depth meets, an interface's own ones before those of
  its embedded types, these in the order they are written in.
* `DepthFirst.unique`, `DepthFirst.acc`: a search in depth meets one list of methods only, and none
  where a type leads back to itself.
* `DepthFirst.exists_name_iff`: it meets the names that the reachable interfaces declare.
-/

namespace GoMocks

open NamedType (exists_package_of_definition)
open Relation (ReflTransGen)

variable {packages : String → Option SourcePackage}

/-- The step from a type to one that it is defined as or embeds. -/
inductive LeadsTo (packages : String → Option SourcePackage) : GoType → GoType → Prop
  | definition {n : NamedType} {t : GoType} (h : n.definition.answer packages = .ok t) :
      LeadsTo packages (.named n) t
  | predeclared {name : String} {arguments : List GoType} {t : GoType}
      (h : GoType.predeclaredUnderlying? name = some t) :
      LeadsTo packages (.named ⟨none, name, arguments⟩) t
  | embed {methods : List MethodSpec} {embeds : List GoType} {t : GoType} (h : t ∈ embeds) :
      LeadsTo packages (.interface methods embeds) t

/-- The types that a type is defined as or embeds. -/
def GoType.steps (packages : String → Option SourcePackage) : GoType → List GoType
  | .named ⟨none, name, _⟩               => (predeclaredUnderlying? name).toList
  | .named ⟨some path, name, arguments⟩ =>
    ((NamedType.definition ⟨some path, name, arguments⟩).answer packages).toOption.toList
  | .interface _ embeds                  => embeds
  | _                                    => []

/-- Any number of definitions and embeddings lead from one type to the other. -/
def Reaches (packages : String → Option SourcePackage) (t u : GoType) : Prop :=
  ReflTransGen (LeadsTo packages) t u

/-- A type that is no interface, or a predeclared one that only constraints can embed. -/
def GoType.IsTypeSet : GoType → Prop
  | .interface ..          => False
  | .named ⟨some _, _, _⟩  => False
  | .named ⟨none, name, _⟩ => name ≠ "error" ∧ name ≠ "any"
  | _                      => True

/-- An interface type that writes a method of a name itself. -/
def GoType.Declares (name : String) : GoType → Prop
  | .interface methods _ => ∃ m ∈ methods, m.name = name
  | _                    => False

/-- The methods that a search in depth meets, with the types that are still to be searched. -/
inductive DepthFirst (packages : String → Option SourcePackage) :
    List GoType → List Method → Prop
  | done : DepthFirst packages [] []
  | interface {methods : List MethodSpec} {embeds rest : List GoType} {l : List Method}
      (h : DepthFirst packages (embeds ++ rest) l) :
      DepthFirst packages (.interface methods embeds :: rest) (declaredMethods methods ++ l)
  | name {n : NamedType} {t : GoType} {rest : List GoType} {l : List Method}
      (ht : LeadsTo packages (.named n) t) (h : DepthFirst packages (t :: rest) l) :
      DepthFirst packages (.named n :: rest) l
  | typeSet {t : GoType} {rest : List GoType} {l : List Method} (ht : t.IsTypeSet)
      (h : DepthFirst packages rest l) : DepthFirst packages (t :: rest) l

/-! ### One step -/

/-- A name leads to one type only. -/
theorem LeadsTo.unique {n : NamedType} {t u : GoType} (ht : LeadsTo packages (.named n) t)
    (hu : LeadsTo packages (.named n) u) : t = u := by
  cases ht with
  | definition h =>
    cases hu with
    | definition h' => exact Except.ok.inj (h.symm.trans h')
    | predeclared _ => obtain ⟨_, hp⟩ := exists_package_of_definition h; exact nomatch hp
  | predeclared h =>
    cases hu with
    | definition h'  => obtain ⟨_, hp⟩ := exists_package_of_definition h'; exact nomatch hp
    | predeclared h' => exact Option.some.inj (h.symm.trans h')

/-- The steps from a type can be listed. -/
theorem leadsTo_iff {t u : GoType} : LeadsTo packages t u ↔ u ∈ t.steps packages := by
  cases t with
  | named n =>
    obtain ⟨_ | path, name, arguments⟩ := n
    · rw [GoType.steps, Option.mem_toList]
      refine ⟨fun h => ?_, .predeclared⟩
      cases h with
      | definition h  => obtain ⟨_, hp⟩ := exists_package_of_definition h; exact nomatch hp
      | predeclared h => exact h
    · rw [GoType.steps, Option.mem_toList]
      cases hd : (NamedType.definition ⟨some path, name, arguments⟩).answer packages with
      | error e =>
        refine ⟨fun h => ?_, nofun⟩
        cases h with
        | definition h => exact nomatch hd.symm.trans h
      | ok v =>
        refine ⟨fun h => ?_, fun h => Option.some.inj h ▸ .definition hd⟩
        exact congrArg some (h.unique (.definition hd)).symm
  | interface methods embeds =>
    exact ⟨fun h => by cases h with | embed h => exact h, .embed⟩
  | _ => exact ⟨nofun, nofun⟩

/-- The only name that stands for a type set and leads on is `comparable`. -/
theorem GoType.IsTypeSet.eq_of_leadsTo {n : NamedType} {t : GoType}
    (hn : (GoType.named n).IsTypeSet) (ht : LeadsTo packages (.named n) t) :
    t = .interface [] [] := by
  cases ht with
  | definition h =>
    obtain ⟨path, hp⟩ := exists_package_of_definition h
    obtain ⟨_, name, arguments⟩ := n
    subst hp
    exact hn.elim
  | predeclared h =>
    obtain ⟨herror, hany⟩ := hn
    rw [GoType.predeclaredUnderlying?, if_neg herror] at h
    split at h
    · exact (Option.some.inj h).symm
    · exact nomatch h

/-- A type reaches itself and what the types it leads to reach. -/
theorem reaches_iff {t u : GoType} :
    Reaches packages t u ↔ t = u ∨ ∃ v, LeadsTo packages t v ∧ Reaches packages v u :=
  ReflTransGen.cases_head_iff

/-- An interface reaches itself and what its embedded types reach. -/
theorem reaches_interface {methods : List MethodSpec} {embeds : List GoType} {u : GoType} :
    Reaches packages (.interface methods embeds) u ↔
      .interface methods embeds = u ∨ ∃ t ∈ embeds, Reaches packages t u := by
  rw [reaches_iff]
  refine or_congr_right ⟨?_, fun ⟨t, ht, h⟩ => ⟨t, .embed ht, h⟩⟩
  rintro ⟨v, hv, h⟩
  cases hv with
  | embed hv => exact ⟨v, hv, h⟩

/-- A name reaches itself and what its definition reaches. -/
theorem LeadsTo.reaches_iff {n : NamedType} {t u : GoType} (ht : LeadsTo packages (.named n) t) :
    Reaches packages (.named n) u ↔ .named n = u ∨ Reaches packages t u := by
  rw [GoMocks.reaches_iff]
  refine or_congr_right ⟨?_, fun h => ⟨t, ht, h⟩⟩
  rintro ⟨v, hv, h⟩
  exact ht.unique hv ▸ h

/-- Behind a type set there is nothing that counts. -/
theorem GoType.IsTypeSet.reaches {t u : GoType} (ht : t.IsTypeSet) (h : Reaches packages t u) :
    u = t ∨ u = .interface [] [] := by
  rcases GoMocks.reaches_iff.mp h with rfl | ⟨v, hv, h⟩
  · exact .inl rfl
  · cases t with
    | named n =>
      obtain rfl := ht.eq_of_leadsTo hv
      rcases reaches_interface.mp h with rfl | ⟨_, hmem, _⟩
      · exact .inr rfl
      · exact nomatch hmem
    | interface => exact ht.elim
    | _ => exact nomatch hv

/-- A type set declares no method. -/
theorem GoType.IsTypeSet.not_declares {t : GoType} (ht : t.IsTypeSet) (name : String) :
    ¬ t.Declares name := by
  cases t with
  | interface => exact ht.elim
  | _         => exact id

/-! ### The search in depth -/

namespace DepthFirst

/-- Depth first, the methods of an interface come before those it embeds. -/
theorem of_interface {methods : List MethodSpec} {embeds rest : List GoType} {l : List Method}
    (h : DepthFirst packages (.interface methods embeds :: rest) l) :
    ∃ l', DepthFirst packages (embeds ++ rest) l' ∧ l = declaredMethods methods ++ l' := by
  cases h with
  | interface h  => exact ⟨_, h, rfl⟩
  | typeSet ht _ => exact ht.elim

/-- **A search in depth meets one list of methods only.** -/
theorem unique {ts : List GoType} {l l' : List Method} (h : DepthFirst packages ts l)
    (h' : DepthFirst packages ts l') : l = l' := by
  induction h generalizing l' with
  | done => cases h'; rfl
  | interface _ ih =>
    obtain ⟨_, hl, rfl⟩ := h'.of_interface
    rw [ih hl]
  | name ht _ ih =>
    cases h' with
    | name ht' h' => exact ih (ht.unique ht' ▸ h')
    | typeSet hn h' =>
      -- `comparable` may be passed over or be looked into, and is empty either way
      obtain rfl := hn.eq_of_leadsTo ht
      exact ih (.interface h')
  | typeSet ht _ ih =>
    cases h' with
    | interface   => exact ht.elim
    | name ht' h' =>
      obtain rfl := ht.eq_of_leadsTo ht'
      obtain ⟨_, hl, rfl⟩ := h'.of_interface
      exact ih hl
    | typeSet _ h' => exact ih h'

/-- **A search in depth meets the names that the reachable interfaces declare.** -/
theorem exists_name_iff {ts : List GoType} {l : List Method} (h : DepthFirst packages ts l)
    {name : String} :
    (∃ m ∈ l, m.name = name) ↔ ∃ t ∈ ts, ∃ u, Reaches packages t u ∧ u.Declares name := by
  induction h with
  | done => simp
  | @interface methods embeds rest l h ih =>
    -- the search goes on with the embedded types, then with the rest
    have hown : (∃ m ∈ declaredMethods methods, m.name = name) ↔
        (GoType.interface methods embeds).Declares name := by
      simp [declaredMethods, GoType.Declares]
    simp only [List.mem_append, or_and_right, exists_or, ih, hown, List.exists_mem_cons_iff,
      reaches_interface, exists_eq_left', or_assoc]
    refine or_congr_right (or_congr_left ⟨?_, ?_⟩)
    · rintro ⟨t, ht, u, hu, hname⟩
      exact ⟨u, ⟨t, ht, hu⟩, hname⟩
    · rintro ⟨u, ⟨t, ht, hu⟩, hname⟩
      exact ⟨t, ht, u, hu, hname⟩
  | @name n t rest l ht h ih =>
    rw [ih]
    simp only [List.exists_mem_cons_iff, ht.reaches_iff, or_and_right, exists_or, exists_eq_left',
      GoType.Declares, false_or]
  | @typeSet t rest l ht h ih =>
    rw [ih, List.exists_mem_cons_iff, or_iff_right]
    rintro ⟨u, hu, hname⟩
    rcases ht.reaches hu with rfl | rfl
    · exact ht.not_declares name hname
    · obtain ⟨_, hm, _⟩ := hname
      exact nomatch hm

/-- A search in depth that comes to its end leaves no endless way behind it. -/
theorem acc {ts : List GoType} {l : List Method} (h : DepthFirst packages ts l) :
    ∀ t ∈ ts, Acc (fun u t => LeadsTo packages t u) t := by
  induction h with
  | done => exact nofun
  | @interface methods embeds rest l h ih =>
    refine List.forall_mem_cons.mpr ⟨⟨_, fun u hu => ?_⟩, fun t ht =>
      ih t (List.mem_append_right _ ht)⟩
    cases hu with
    | embed hu => exact ih u (List.mem_append_left _ hu)
  | @name n t rest l ht h ih =>
    obtain ⟨hacc, hrest⟩ := List.forall_mem_cons.mp ih
    exact List.forall_mem_cons.mpr ⟨⟨_, fun u hu => ht.unique hu ▸ hacc⟩, hrest⟩
  | @typeSet t rest l ht h ih =>
    refine List.forall_mem_cons.mpr ⟨⟨_, fun u hu => ?_⟩, ih⟩
    cases t with
    | named n =>
      obtain rfl := ht.eq_of_leadsTo hu
      exact ⟨_, fun v hv => by cases hv with | embed hv => exact nomatch hv⟩
    | interface => exact ht.elim
    | _         => exact nomatch hu

end DepthFirst

end GoMocks
