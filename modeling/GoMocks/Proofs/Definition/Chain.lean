import GoMocks.Proofs.Loader
import GoMocks.Proofs.MethodSet.Instances

/-!
# Definitions — the chain that is followed

A name is declared as a type, which may be a name again, with the type arguments of the first in its
own. What a name stands for is at the end of this chain.

* `NamedType.Declares`, `Leads`: one step of the chain, and some number of them.
* `NamedType.Stops`, `Stuck`: the names at which it ends, with a type or with an error.
* `NamedType.underlyingWithin_eq_ok_iff`, `underlyingWithin_eq_error_iff`: what a number of steps
  finds.
* `Instantiates.underlyingWithin`, `exists_underlyingWithin`: what an instance of a declaration
  stands for.
* `NamedType.underlying_chain`: the end of the chain is found, if it is near enough.
-/

namespace GoMocks

variable {packages : String → Option SourcePackage} {n n' m m' l : NamedType} {t u : GoType}
  {e : Error} {τ : TypeArguments} {i j k steps : Nat}

namespace NamedType

/-! ### The chain -/

/-- What a name is declared as, with its type arguments in place of the parameters. -/
def Declares (packages : String → Option SourcePackage) (n : NamedType) (t : GoType) : Prop :=
  ∃ path p file spec u, n.package = some path ∧ packages path = some p ∧
    p.declaration? n.name = some (file, spec) ∧
    ((p.scope file spec).typeOf spec.type).answer packages = .ok u ∧
    t = u.substitute (.ofNames spec.paramNames n.arguments)

/-- A number of declarations lead from one name to another. -/
inductive Leads (packages : String → Option SourcePackage) : Nat → NamedType → NamedType → Prop
  | refl (n : NamedType) : Leads packages 0 n n
  | next {k : Nat} {n m l : NamedType} (hn : n.Declares packages (.named m))
      (hm : Leads packages k m l) : Leads packages (k + 1) n l

/-- At this name the chain ends with a type: the interface of a predeclared name, or what the name
is declared as, where that is no name. -/
inductive Stops (packages : String → Option SourcePackage) (n : NamedType) : GoType → Prop
  | error (hn : n.package = none) (hname : n.name = "error") :
      Stops packages n (.interface [⟨"Error", ⟨[], [⟨"", .basic .string⟩], false⟩⟩] [])
  | empty (hn : n.package = none) (hname : n.name = "any" ∨ n.name = "comparable") :
      Stops packages n (.interface [] [])
  | declared {t : GoType} (hn : n.Declares packages t) (ht : ∀ m, t ≠ .named m) :
      Stops packages n t

/-- At this name the chain ends with an error: no type is predeclared by the name, its package or
its declaration is missing, or what is written there is no type. -/
inductive Stuck (packages : String → Option SourcePackage) (n : NamedType) : Error → Prop
  | unknown (hn : n.package = none) (hname : n.name ∉ ["error", "any", "comparable"]) :
      Stuck packages n (.unresolvedType n.text .unknownPredeclared)
  | noPackage {path : String} (hn : n.package = some path) (hp : packages path = none) :
      Stuck packages n (.unresolvedType n.text (.packageNotFound path))
  | noDeclaration {path : String} {p : SourcePackage} (hn : n.package = some path)
      (hp : packages path = some p) (hd : p.declaration? n.name = none) :
      Stuck packages n (.unresolvedType n.text (.noSuchType n.name path))
  | noType {path : String} {p : SourcePackage} {file : GoSource.SourceFile}
      {spec : GoSource.TypeSpec} {e : Error} (hn : n.package = some path)
      (hp : packages path = some p) (hd : p.declaration? n.name = some (file, spec))
      (he : ((p.scope file spec).typeOf spec.type).answer packages = .error e) :
      Stuck packages n e

/-- What a name declares is the answer to its definition. -/
theorem declares_iff : n.Declares packages t ↔ n.definition.answer packages = .ok t :=
  definition_eq_ok_iff.symm

/-- A name declares one type. -/
theorem Declares.unique (h : n.Declares packages t) (h' : n.Declares packages u) : t = u :=
  Except.ok.inj ((declares_iff.mp h).symm.trans (declares_iff.mp h'))

/-- A predeclared name declares nothing. -/
theorem Declares.package_ne_none (h : n.Declares packages t) : n.package ≠ none := by
  obtain ⟨path, _, _, _, _, hn, _⟩ := h
  exact hn ▸ nofun

/-- A name with a package has no definition where the chain is stuck. -/
theorem definition_eq_error_iff {path : String} (hn : n.package = some path) :
    n.definition.answer packages = .error e ↔ Stuck packages n e := by
  rw [definition, Inquiry.answer_bind_eq_error, declaration_eq_error_iff hn]
  constructor
  · rintro ((⟨hp, rfl⟩ | ⟨p, hp, hd, rfl⟩) | ⟨⟨p, file, spec⟩, hd, h⟩)
    · exact .noPackage hn hp
    · exact .noDeclaration hn hp hd
    · obtain ⟨path, hn, hp, hd⟩ := declaration_eq_ok_iff.mp hd
      rcases Inquiry.answer_bind_eq_error.mp h with he | ⟨_, _, h⟩
      · exact .noType hn hp hd he
      · cases h
  · rintro (⟨hn', -⟩ | ⟨hn', hp⟩ | ⟨hn', hp, hd⟩ | ⟨hn', hp, hd, he⟩)
    · cases hn'.symm.trans hn
    · obtain rfl := Option.some.inj (hn'.symm.trans hn)
      exact .inl (.inl ⟨hp, rfl⟩)
    · obtain rfl := Option.some.inj (hn'.symm.trans hn)
      exact .inl (.inr ⟨_, hp, hd, rfl⟩)
    · exact .inr ⟨_, declaration_eq_ok_iff.mpr ⟨_, hn', hp, hd⟩,
        Inquiry.answer_bind_eq_error.mpr (.inl he)⟩

/-- A name without a package stops the chain with what is predeclared by it. -/
theorem stops_iff_of_package_eq_none (hn : n.package = none) :
    Stops packages n t ↔ GoType.predeclaredUnderlying? n.name = some t := by
  unfold GoType.predeclaredUnderlying?
  constructor
  · rintro (⟨-, hname⟩ | ⟨-, hname⟩ | ⟨hd, -⟩)
    · rw [if_pos hname]
    · have herror : n.name ≠ "error" := by rcases hname with hname | hname <;> simp [hname]
      rw [if_neg herror, if_pos (by simpa using hname)]
    · exact absurd hn hd.package_ne_none
  · intro h
    split at h
    · next hname => exact Option.some.inj h ▸ .error hn hname
    · split at h
      · next hname => exact Option.some.inj h ▸ .empty hn (by simpa using hname)
      · exact nomatch h

/-- It is stuck where nothing is. -/
theorem stuck_iff_of_package_eq_none (hn : n.package = none) :
    Stuck packages n e ↔ GoType.predeclaredUnderlying? n.name = none ∧
      e = .unresolvedType n.text .unknownPredeclared := by
  have hname : GoType.predeclaredUnderlying? n.name = none ↔
      n.name ∉ ["error", "any", "comparable"] := by
    rw [GoType.predeclaredUnderlying?]
    split_ifs <;> simp_all
  rw [hname]
  constructor
  · rintro (⟨-, hname⟩ | ⟨hsome, -⟩ | ⟨hsome, -⟩ | ⟨hsome, -⟩)
    · exact ⟨hname, rfl⟩
    all_goals cases hn.symm.trans hsome
  · rintro ⟨hname, rfl⟩
    exact .unknown hn hname

/-- A predeclared name is resolved by its table, whatever the packages. -/
theorem underlyingWithin_of_package_eq_none (hn : n.package = none) :
    (n.underlyingWithin (steps + 1)).answer packages =
      (GoType.predeclaredUnderlying? n.name).elim
        (.error (.unresolvedType n.text .unknownPredeclared)) .ok := by
  obtain ⟨_, name, arguments⟩ := n
  subst hn
  rw [underlyingWithin]
  cases GoType.predeclaredUnderlying? name <;> rfl

/-- What is found within some steps and one more: the type where the chain stops, or what the next
name stands for within one step less. -/
theorem underlyingWithin_succ_eq_ok_iff :
    (n.underlyingWithin (steps + 1)).answer packages = .ok t ↔
      Stops packages n t ∨
        ∃ m, n.Declares packages (.named m) ∧
          (m.underlyingWithin steps).answer packages = .ok t := by
  cases hn : n.package with
  | none =>
    rw [underlyingWithin_of_package_eq_none hn, stops_iff_of_package_eq_none hn,
      or_iff_left fun ⟨_, hm, _⟩ => hm.package_ne_none hn]
    cases GoType.predeclaredUnderlying? n.name <;> simp
  | some path =>
    rw [underlyingWithin_succ_eq_ok hn]
    constructor
    · rintro ⟨u, hu, ⟨m, rfl, h⟩ | ⟨rfl, ht⟩⟩
      · exact .inr ⟨m, declares_iff.mpr hu, h⟩
      · exact .inl (.declared (declares_iff.mpr hu) ht)
    · rintro ((⟨hnone, -⟩ | ⟨hnone, -⟩ | ⟨hu, ht⟩) | ⟨m, hm, h⟩)
      · exact nomatch hnone.symm.trans hn
      · exact nomatch hnone.symm.trans hn
      · exact ⟨t, declares_iff.mp hu, .inr ⟨rfl, ht⟩⟩
      · exact ⟨_, declares_iff.mp hm, .inl ⟨m, rfl, h⟩⟩

/-- Resolution fails where the walk is stuck at once, or goes on to a name that fails. -/
theorem underlyingWithin_succ_eq_error_iff :
    (n.underlyingWithin (steps + 1)).answer packages = .error e ↔
      Stuck packages n e ∨
        ∃ m, n.Declares packages (.named m) ∧
          (m.underlyingWithin steps).answer packages = .error e := by
  cases hn : n.package with
  | none =>
    rw [underlyingWithin_of_package_eq_none hn, stuck_iff_of_package_eq_none hn,
      or_iff_left fun ⟨_, hm, _⟩ => hm.package_ne_none hn]
    cases GoType.predeclaredUnderlying? n.name <;> simp [eq_comm]
  | some path =>
    -- what is no definition is where the chain is stuck, so that only names that follow are left
    rw [← definition_eq_error_iff hn]
    obtain ⟨_, name, arguments⟩ := n
    subst hn
    simp only [underlyingWithin, Inquiry.answer_bind_eq_error, declares_iff]
    refine or_congr_right ⟨?_, ?_⟩
    · rintro ⟨u, hu, h⟩
      cases u with
      | named m => exact ⟨m, hu, h⟩
      | _ => cases h
    · rintro ⟨m, hm, h⟩
      exact ⟨_, hm, h⟩

/-! ### What a number of steps finds -/

/-- The first step of a chain. -/
theorem leads_succ_iff :
    Leads packages (k + 1) n l ↔ ∃ m, n.Declares packages (.named m) ∧ Leads packages k m l :=
  ⟨fun | .next hn hm => ⟨_, hn, hm⟩, fun ⟨_, hn, hm⟩ => .next hn hm⟩

/-- What is at some place of a chain is at its start or after the next name. -/
theorem exists_leads_lt_succ_iff {P : NamedType → Prop} :
    (∃ k < steps + 1, ∃ l, Leads packages k n l ∧ P l) ↔
      P n ∨ ∃ m, n.Declares packages (.named m) ∧ ∃ k < steps, ∃ l, Leads packages k m l ∧ P l := by
  constructor
  · rintro ⟨_ | k, hk, l, hl, h⟩
    · obtain ⟨⟩ := hl
      exact .inl h
    · obtain ⟨m, hm, hl⟩ := leads_succ_iff.mp hl
      exact .inr ⟨m, hm, k, Nat.lt_of_succ_lt_succ hk, l, hl, h⟩
  · rintro (h | ⟨m, hm, k, hk, l, hl, h⟩)
    · exact ⟨0, Nat.succ_pos _, n, .refl n, h⟩
    · exact ⟨k + 1, Nat.succ_lt_succ hk, l, .next hm hl, h⟩

/-- **A number of steps finds the type where the chain stops**, if it takes fewer to come there. -/
theorem underlyingWithin_eq_ok_iff :
    (n.underlyingWithin steps).answer packages = .ok t ↔
      ∃ k < steps, ∃ m, Leads packages k n m ∧ Stops packages m t := by
  induction steps generalizing n with
  | zero           => exact ⟨nofun, fun ⟨_, hk, _⟩ => nomatch hk⟩
  | succ steps ih => rw [underlyingWithin_succ_eq_ok_iff, exists_leads_lt_succ_iff]; simp only [ih]

/-- **It fails where the chain takes as many steps, or is stuck before.** -/
theorem underlyingWithin_eq_error_iff :
    (n.underlyingWithin steps).answer packages = .error e ↔
      (∃ m, Leads packages steps n m ∧ e = .unsupportedType m.text .definitionCycle) ∨
        ∃ k < steps, ∃ m, Leads packages k n m ∧ Stuck packages m e := by
  induction steps generalizing n with
  | zero =>
    rw [underlyingWithin, Inquiry.answer_throw]
    constructor
    · intro h
      exact .inl ⟨n, .refl n, (Except.error.inj h).symm⟩
    · rintro (⟨_, ⟨⟩, rfl⟩ | ⟨_, hk, _⟩)
      · rfl
      · cases hk
  | succ steps ih =>
    -- the error of `n` itself, or one behind its first step
    rw [underlyingWithin_succ_eq_error_iff, exists_leads_lt_succ_iff, or_left_comm]
    refine or_congr_right ?_
    simp only [ih, leads_succ_iff]
    constructor
    · rintro ⟨m, hm, ⟨l, hl, he⟩ | h⟩
      · exact .inl ⟨l, ⟨m, hm, hl⟩, he⟩
      · exact .inr ⟨m, hm, h⟩
    · rintro (⟨l, ⟨m, hm, hl⟩, he⟩ | ⟨m, hm, h⟩)
      · exact ⟨m, hm, .inl ⟨l, hl, he⟩⟩
      · exact ⟨m, hm, .inr h⟩

/-! ### Cycles -/

namespace Leads

theorem trans (h : Leads packages j n m) (h' : Leads packages k m l) :
    Leads packages (j + k) n l := by
  induction h with
  | refl n         => rwa [Nat.zero_add]
  | next hn _ ih => rw [Nat.add_right_comm]; exact .next hn (ih h')

/-- Where a chain takes some steps it takes any fewer. -/
theorem exists_of_le (h : Leads packages k n l) (hj : j ≤ k) : ∃ m, Leads packages j n m := by
  induction h generalizing j with
  | refl n => exact ⟨n, Nat.le_zero.mp hj ▸ .refl n⟩
  | @next k n m l hn _ ih =>
    cases j with
    | zero => exact ⟨n, .refl n⟩
    | succ j =>
      obtain ⟨m', hm'⟩ := ih (Nat.le_of_succ_le_succ hj)
      exact ⟨m', .next hn hm'⟩

/-- A cycle can be gone round any number of times. -/
theorem repeat_cycle (h : Leads packages j m m) : ∀ rounds, Leads packages (rounds * j) m m
  | 0          => by rw [Nat.zero_mul]; exact .refl m
  | rounds + 1 => by rw [Nat.succ_mul]; exact (h.repeat_cycle rounds).trans h

/-- **A chain that comes back to a name takes any number of steps.** -/
theorem exists_of_cycle (h : Leads packages i n m) (hcycle : Leads packages (j + 1) m m) (k : Nat) :
    ∃ l, Leads packages k n l :=
  (h.trans (hcycle.repeat_cycle k)).exists_of_le (by rw [Nat.mul_succ]; omega)

end Leads

/-! ### Chains of instances -/

/-- Each name on the chain has an argument for each parameter of its declaration. -/
def Saturated (packages : String → Option SourcePackage) (n : NamedType) : Prop :=
  ∀ k m, Leads packages k n m → (parameterNames packages m.key).length ≤ m.arguments.length

theorem Saturated.of_next (h : (parameterNames packages n.key).length ≤ n.arguments.length)
    (hnext : ∀ m, n.Declares packages (.named m) → m.Saturated packages) :
    n.Saturated packages := by
  rintro _ l (_ | ⟨hm, hl⟩)
  · exact h
  · exact hnext _ hm _ l hl

/-- The name of a declaration with its own parameters for arguments. -/
def generic (packages : String → Option SourcePackage) (n : NamedType) : NamedType :=
  { n with arguments := (parameterNames packages n.key).map .parameter }

/-- What the parameters of its declaration stand for in a name. -/
def given (packages : String → Option SourcePackage) (n : NamedType) : TypeArguments :=
  .ofNames (parameterNames packages n.key) n.arguments

theorem Saturated.start (h : n.Saturated packages) :
    (parameterNames packages n.key).length ≤ n.arguments.length :=
  h 0 n (.refl n)

theorem Saturated.next (h : n.Saturated packages) (hn : n.Declares packages (.named m)) :
    m.Saturated packages :=
  fun k l hl => h (k + 1) l (.next hn hl)

/-- A name is an instance of its declaration. -/
theorem instantiates_generic (packages : String → Option SourcePackage) (n : NamedType) :
    Instantiates packages (n.given packages) (n.generic packages) n where
  key       := rfl
  arguments := (List.length_map ..).ge
  images    := fun x hx => by
    change x ∈ parameterNames packages n.key at hx
    change ((TypeArguments.ofNames (parameterNames packages n.key)
      ((parameterNames packages n.key).map .parameter)).image x).substitute (n.given packages) =
        (n.given packages).image x
    rw [TypeArguments.image_ofNames_parameter hx, GoType.substitute, TypeArguments.image]

end NamedType

namespace Instantiates

open NamedType

/-- What an instance is declared as is an instance of what the name is declared as. -/
theorem exists_declares (h : Instantiates packages τ n n') (hu : n'.Declares packages u) :
    ∃ t, n.Declares packages t ∧ u = t.substitute τ := by
  cases ht : n.definition.answer packages with
  | ok t => exact ⟨t, declares_iff.mpr ht, hu.unique (declares_iff.mpr (h.definition ht))⟩
  | error e =>
    obtain ⟨e', he'⟩ := h.definition_error ht
    exact nomatch (declares_iff.mp hu).symm.trans he'

/-- The next name of an instance is the next name with types in place, and is an instance of it. -/
theorem next (h : Instantiates packages τ n n') (hsaturated : n'.Saturated packages)
    (hn : n.Declares packages (.named m)) :
    n'.Declares packages (.named (m.substitute τ)) ∧
      Instantiates packages τ m (m.substitute τ) := by
  have hn' : n'.Declares packages (.named (m.substitute τ)) := by
    rw [← GoType.substitute]
    exact declares_iff.mpr (h.definition (declares_iff.mp hn))
  refine ⟨hn', .substitute ?_⟩
  have hlength := (hsaturated.next hn').start
  rwa [m.key_substitute, m.length_arguments_substitute] at hlength

/-- The chain of an instance stops where that of the name does, with types in place. -/
theorem exists_stops (h : Instantiates packages τ n n') (hu : Stops packages n' u) :
    ∃ t, Stops packages n t ∧ u = t.substitute τ := by
  obtain ⟨hpackage, hname⟩ := Prod.mk.inj h.key
  cases hu with
  | error hn hu => exact ⟨_, .error (hpackage ▸ hn) (hname ▸ hu), rfl⟩
  | empty hn hu => exact ⟨_, .empty (hpackage ▸ hn) (hname ▸ hu), rfl⟩
  | declared hn hu =>
    obtain ⟨t, ht, rfl⟩ := h.exists_declares hn
    refine ⟨t, .declared ht fun m hm => ?_, rfl⟩
    subst hm
    exact hu (m.substitute τ) (by rw [GoType.substitute])

/-- A chain that stops goes on stopping under an assignment of types, unless that makes the type a
name. -/
theorem stops (h : Instantiates packages τ n n') (ht : Stops packages n t)
    (hname : ∀ m, t.substitute τ ≠ .named m) : Stops packages n' (t.substitute τ) := by
  obtain ⟨hpackage, hname'⟩ := Prod.mk.inj h.key
  cases ht with
  | error hn ht     => exact .error (hpackage.trans hn) (hname'.trans ht)
  | empty hn ht     => exact .empty (hpackage.trans hn) (hname' ▸ ht)
  | declared hn _ => exact .declared (declares_iff.mpr (h.definition (declares_iff.mp hn))) hname

/-- **An instance stands for what the name stands for, with types in place**, unless that is a
name. -/
theorem underlyingWithin (h : Instantiates packages τ n n') (hsaturated : n'.Saturated packages)
    (ht : (n.underlyingWithin steps).answer packages = .ok t)
    (hname : ∀ m, t.substitute τ ≠ .named m) :
    (n'.underlyingWithin steps).answer packages = .ok (t.substitute τ) := by
  induction steps generalizing n n' with
  | zero => exact nomatch ht
  | succ steps ih =>
    rw [underlyingWithin_succ_eq_ok_iff] at ht ⊢
    rcases ht with ht | ⟨m, hm, ht⟩
    · exact .inl (h.stops ht hname)
    · obtain ⟨hm', hnext⟩ := h.next hsaturated hm
      exact .inr ⟨_, hm', ih hnext (hsaturated.next hm') ht⟩

/-- **What an instance stands for is what the name stands for, with types in place**, or the name
stands for a parameter, and the instance for what is behind a name in its place. -/
theorem exists_underlyingWithin (h : Instantiates packages τ n n')
    (hsaturated : n'.Saturated packages)
    (hu : (n'.underlyingWithin steps).answer packages = .ok u) :
    ∃ t, (n.underlyingWithin steps).answer packages = .ok t ∧
      (u = t.substitute τ ∨ ∃ x m, t = .parameter x ∧ τ.image x = .named m ∧
        (m.underlyingWithin steps).answer packages = .ok u) := by
  induction steps generalizing n n' with
  | zero => exact nomatch hu
  | succ steps ih =>
    rw [underlyingWithin_succ_eq_ok_iff] at hu
    simp only [underlyingWithin_succ_eq_ok_iff (n := n)]
    rcases hu with hu | ⟨m', hm', hu⟩
    · obtain ⟨t, ht, rfl⟩ := h.exists_stops hu
      exact ⟨t, .inl ht, .inl rfl⟩
    · obtain ⟨t, ht, hname⟩ := h.exists_declares hm'
      -- only where the name has stopped at a parameter does its instance go on to another name
      by_cases hparameter : ∃ x, t = .parameter x
      · obtain ⟨x, rfl⟩ := hparameter
        rw [GoType.substitute] at hname
        exact ⟨_, .inl (.declared ht nofun),
          .inr ⟨x, m', rfl, hname.symm, underlyingWithin_of_le (Nat.le_succ steps) hu⟩⟩
      · obtain ⟨m, rfl, rfl⟩ := GoType.exists_named_of_substitute
          (fun x hx => hparameter ⟨x, hx⟩) hname.symm
        obtain ⟨hm', hnext⟩ := h.next hsaturated ht
        obtain ⟨t, hm, hends⟩ := ih hnext (hsaturated.next hm') hu
        refine ⟨t, .inr ⟨m, ht, hm⟩, hends.imp_right ?_⟩
        rintro ⟨x, l, rfl, hl, hu⟩
        exact ⟨x, l, rfl, hl, underlyingWithin_of_le (Nat.le_succ steps) hu⟩

end Instantiates

namespace NamedType

/-- The parameters of what a saturated name declares are those of its arguments. -/
theorem Declares.parameters_subset (h : n.Declares packages t) (hsaturated : n.Saturated packages) :
    t.parameters ⊆ typeParameters n.arguments := by
  obtain ⟨params, u, hu, rfl⟩ := definition_eq_ok_iff_declared.mp (declares_iff.mp h)
  have hlength := hsaturated.start
  rw [parameterNames, hu] at hlength
  rw [GoType.parameters_substitute]
  exact TypeArguments.imageParameters_ofNames (declared?_parameters hu) hlength

/-- No parameters are left but those of the arguments. -/
theorem parameters_underlyingWithin (hsaturated : n.Saturated packages)
    (h : (n.underlyingWithin steps).answer packages = .ok t) :
    t.parameters ⊆ typeParameters n.arguments := by
  induction steps generalizing n with
  | zero => exact nomatch h
  | succ steps ih =>
    rcases underlyingWithin_succ_eq_ok_iff.mp h with (_ | _ | ⟨hn, -⟩) | ⟨m, hm, h⟩
    · exact List.nil_subset _
    · exact List.nil_subset _
    · exact hn.parameters_subset hsaturated
    · have hparameters := hm.parameters_subset hsaturated
      rw [GoType.parameters, m.parameters_eq] at hparameters
      exact List.Subset.trans (ih (hsaturated.next hm) h) hparameters

/-! ### What a name stands for -/

/-- **The end of the chain of definitions is found, if it is near enough.** The chain goes from name
to name, with the type arguments in place at each step. If it stops after at most 32 steps, the type
there is found, which is no name. If it is stuck there, or takes 33 steps, as every chain does that
comes back to a name, there is an error and no type. A loader with these packages answers the same.

Where no name on the chain lacks an argument, no parameters are left but those of the arguments. The
type is then what the declaration stands for with the arguments in place of its parameters, all at
once; or else that is a parameter, a name is the argument, and the type is what this name stands
for. -/
theorem underlying_chain (packages : String → Option SourcePackage) (n : NamedType) :
    let outcome := n.underlying.answer packages
    let generic := (n.generic packages).underlying.answer packages
    let σ := n.given packages
    (∀ t, outcome = .ok t ↔ ∃ k ≤ 32, ∃ m, Leads packages k n m ∧ Stops packages m t) ∧
    (∀ m, outcome ≠ .ok (.named m)) ∧
    (∀ e, outcome = .error e ↔
      (∃ m, Leads packages 33 n m ∧ e = .unsupportedType m.text .definitionCycle) ∨
        ∃ k ≤ 32, ∃ m, Leads packages k n m ∧ Stuck packages m e) ∧
    (∀ i j m, Leads packages i n m → Leads packages (j + 1) m m → ∃ e, outcome = .error e) ∧
    (∀ (t : FileTree) (loader : Loader), loader.packages t = packages →
      loader.outcome (Loader.answer t n.underlying) = outcome) ∧
    (n.Saturated packages →
      (∀ t, outcome = .ok t → t.parameters ⊆ typeParameters n.arguments ∧
        ∃ g, generic = .ok g ∧ (t = g.substitute σ ∨
          ∃ x m, g = .parameter x ∧ σ.image x = .named m ∧
            m.underlying.answer packages = .ok t)) ∧
      ∀ g, generic = .ok g → (∀ m, g.substitute σ ≠ .named m) →
        outcome = .ok (g.substitute σ)) := by
  intro outcome generic σ
  have hok : ∀ t, outcome = .ok t ↔ ∃ k ≤ 32, ∃ m, Leads packages k n m ∧ Stops packages m t := by
    intro t
    simp only [outcome, underlying, chainLimit, underlyingWithin_eq_ok_iff, Nat.lt_succ_iff]
  have herror : ∀ e, outcome = .error e ↔
      (∃ m, Leads packages 33 n m ∧ e = .unsupportedType m.text .definitionCycle) ∨
        ∃ k ≤ 32, ∃ m, Leads packages k n m ∧ Stuck packages m e := by
    intro e
    simp only [outcome, underlying, chainLimit, underlyingWithin_eq_error_iff, Nat.lt_succ_iff]
  refine ⟨hok, fun m hm => ?_, herror, fun i j m hm hcycle => ?_, ?_, fun hsaturated => ⟨?_, ?_⟩⟩
  · obtain ⟨k, -, l, -, hl⟩ := (hok _).mp hm
    cases hl with
    | declared _ hname => exact hname m rfl
  -- a chain that meets a name twice goes on for any number of steps, so past the bound
  · obtain ⟨l, hl⟩ := hm.exists_of_cycle hcycle 33
    exact ⟨_, (herror _).mpr (.inl ⟨l, hl, rfl⟩)⟩
  · rintro t loader rfl
    exact Loader.outcome_answer t loader n.underlying
  · exact fun t ht => ⟨parameters_underlyingWithin hsaturated ht,
      (instantiates_generic packages n).exists_underlyingWithin hsaturated ht⟩
  · exact fun g hg hname =>
      (instantiates_generic packages n).underlyingWithin hsaturated hg hname

end NamedType

open SourcePackage (ofTypes byPath)

/-- A grid is a table of another package with one column type, and two names are defined as each
other. -/
def grids : List SourcePackage :=
  [ofTypes "m/x" [⟨some "y", "m/y"⟩]
    [⟨"Grid", [⟨"T", .name "any"⟩], .generic (.qualified "y" "Table") [.name "T", .name "int"], 5⟩,
     ⟨"Loop", [], .name "Knot", 7⟩,
     ⟨"Knot", [], .name "Loop", 8⟩],
   ofTypes "m/y" []
    [⟨"Table", [⟨"K", .name "any"⟩, ⟨"V", .name "any"⟩],
      .map (.name "K") (.slice (.name "V")), 3⟩]]

namespace NamedType

/-- The rows of a grid are a parameter with the name of a table's. The chain stops at the table, the
rows replace the grid's own parameter there, and two names that are defined as each other are no
types. -/
theorem underlying_chain_grids :
    let packages := byPath grids
    let grid : NamedType := ⟨some "m/x", "Grid", [.pointer (.parameter "V")]⟩
    let t : GoType := .map (.pointer (.parameter "V")) (.slice (.basic .int))
    (∃ k ≤ 32, ∃ m, Leads packages k grid m ∧ Stops packages m t) ∧
      grid.underlying.answer packages = .ok t ∧
      ∃ e, (NamedType.underlying ⟨some "m/x", "Loop", []⟩).answer packages = .error e := by
  intro packages grid t
  let table : NamedType := ⟨some "m/y", "Table", [.pointer (.parameter "V"), .basic .int]⟩
  have hgrid : grid.Declares packages (.named table) := declares_iff.mpr (by decide +kernel)
  have htable : table.Declares packages t := declares_iff.mpr (by decide +kernel)
  -- the chain has two names, the grid and the table
  have hsaturated : grid.Saturated packages := by
    refine .of_next (by decide +kernel) fun m hm => ?_
    obtain rfl := GoType.named.inj (hgrid.unique hm)
    exact .of_next (by decide +kernel) fun m hm => nomatch htable.unique hm
  obtain ⟨hok, -, -, -, -, hinstance⟩ := underlying_chain packages grid
  obtain ⟨-, hgeneric⟩ := hinstance hsaturated
  have ht : grid.underlying.answer packages = .ok t :=
    hgeneric (.map (.parameter "T") (.slice (.basic .int))) (by decide +kernel) nofun
  refine ⟨(hok t).mp ht, ht, ?_⟩
  have hloop : Declares packages ⟨some "m/x", "Loop", []⟩ (.named ⟨some "m/x", "Knot", []⟩) :=
    declares_iff.mpr (by decide +kernel)
  have hknot : Declares packages ⟨some "m/x", "Knot", []⟩ (.named ⟨some "m/x", "Loop", []⟩) :=
    declares_iff.mpr (by decide +kernel)
  obtain ⟨-, -, -, hcycle, -⟩ := underlying_chain packages ⟨some "m/x", "Loop", []⟩
  exact hcycle 0 1 _ (.refl _) (.next hloop (.next hknot (.refl _)))

end NamedType

end GoMocks
