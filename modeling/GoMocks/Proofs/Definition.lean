import GoMocks.Definition
import GoMocks.Proofs.Inquiry

/-!
# Definitions — what they take

* `NamedType.definition_eq_ok_iff`: a name has a definition when its package is found, declares the
  name, and the type it is declared as is one.
* `NamedType.underlyingWithin_of_le`: more steps find what fewer have found.
-/

namespace GoMocks.NamedType

variable {packages : String → Option SourcePackage} {n : NamedType} {t : GoType}

/-- A name is declared when its package is found and has a declaration of it. -/
theorem declaration_eq_ok_iff {p : SourcePackage} {file : GoSource.SourceFile}
    {spec : GoSource.TypeSpec} :
    n.declaration.answer packages = .ok (p, file, spec) ↔
      ∃ path, n.package = some path ∧ packages path = some p ∧
        p.declaration? n.name = some (file, spec) := by
  obtain ⟨_ | path, name, arguments⟩ := n
  · exact ⟨nofun, fun ⟨_, h, _⟩ => nomatch h⟩
  · simp only [declaration, Inquiry.answer_bind_eq_ok, Inquiry.answer_find, Option.some.injEq,
      exists_eq_left', Except.ok.injEq]
    cases packages path with
    | none => simp
    | some q =>
      -- `q` has to become `p` inside the second part before its declarations can be looked at
      have hq : some q = some p ∧ p.declaration? name = some (file, spec) ↔
          q = p ∧ q.declaration? name = some (file, spec) := by
        rw [Option.some.injEq]
        exact and_congr_right fun h => h ▸ Iff.rfl
      rw [hq]
      cases hd : q.declaration? name <;> simp [hd, Prod.ext_iff]

/-- A name with a package is not declared where the package or the declaration is missing. -/
theorem declaration_eq_error_iff {path : String} {e : Error} (hn : n.package = some path) :
    n.declaration.answer packages = .error e ↔
      packages path = none ∧ e = .unresolvedType n.text (.packageNotFound path) ∨
      ∃ p, packages path = some p ∧ p.declaration? n.name = none ∧
        e = .unresolvedType n.text (.noSuchType n.name path) := by
  obtain ⟨_, name, arguments⟩ := n
  subst hn
  simp only [declaration, Inquiry.answer_bind_eq_error, Inquiry.answer_find, Except.ok.injEq,
    exists_eq_left', reduceCtorEq, false_or]
  cases packages path with
  | none   => simp [eq_comm]
  | some p => cases hd : p.declaration? name <;> simp [hd, eq_comm]

/-- **A name has a definition when it is declared as a type.** -/
theorem definition_eq_ok_iff :
    n.definition.answer packages = .ok t ↔
      ∃ path p file spec u, n.package = some path ∧ packages path = some p ∧
        p.declaration? n.name = some (file, spec) ∧
        ((p.scope file spec).typeOf spec.type).answer packages = .ok u ∧
        t = u.substitute (.ofNames spec.paramNames n.arguments) := by
  rw [definition, Inquiry.answer_bind_eq_ok]
  constructor
  · rintro ⟨⟨p, file, spec⟩, hd, h⟩
    obtain ⟨path, hn, hp, hd⟩ := declaration_eq_ok_iff.mp hd
    obtain ⟨u, hu, h⟩ := Inquiry.answer_bind_eq_ok.mp h
    exact ⟨path, p, file, spec, u, hn, hp, hd, hu, (Except.ok.inj h).symm⟩
  · rintro ⟨path, p, file, spec, u, hn, hp, hd, hu, rfl⟩
    exact ⟨(p, file, spec), declaration_eq_ok_iff.mpr ⟨path, hn, hp, hd⟩,
      Inquiry.answer_bind_eq_ok.mpr ⟨u, hu, rfl⟩⟩

/-- Only a name of a package has a definition. -/
theorem exists_package_of_definition (h : n.definition.answer packages = .ok t) :
    ∃ path, n.package = some path :=
  let ⟨path, _, _, _, _, hn, _⟩ := definition_eq_ok_iff.mp h
  ⟨path, hn⟩

/-- What a declared name stands for within a number of steps: its definition, or what the name
there stands for within one step less. -/
theorem underlyingWithin_succ_eq_ok {path : String} (hn : n.package = some path) {steps : Nat} :
    (n.underlyingWithin (steps + 1)).answer packages = .ok t ↔
      ∃ u, n.definition.answer packages = .ok u ∧
        ((∃ m, u = .named m ∧ (m.underlyingWithin steps).answer packages = .ok t) ∨
          u = t ∧ ∀ m, u ≠ .named m) := by
  obtain ⟨_, name, arguments⟩ := n
  subst hn
  simp only [underlyingWithin, Inquiry.answer_bind_eq_ok]
  refine exists_congr fun u => and_congr_right fun _ => ?_
  cases u <;> simp

/-- More steps find what fewer have found. -/
theorem underlyingWithin_of_le {steps steps' : Nat} (hsteps : steps ≤ steps')
    (h : (n.underlyingWithin steps).answer packages = .ok t) :
    (n.underlyingWithin steps').answer packages = .ok t := by
  induction steps generalizing steps' n with
  | zero => exact nomatch h
  | succ steps ih =>
    obtain ⟨steps', rfl⟩ := Nat.exists_eq_add_one_of_ne_zero (Nat.ne_zero_of_lt hsteps)
    obtain ⟨_ | path, name, arguments⟩ := n
    · exact h
    · obtain ⟨u, hu, h⟩ := (underlyingWithin_succ_eq_ok rfl).mp h
      refine (underlyingWithin_succ_eq_ok rfl).mpr ⟨u, hu, h.imp_left ?_⟩
      exact fun ⟨m, hm, h⟩ => ⟨m, hm, ih (Nat.le_of_succ_le_succ hsteps) h⟩

end GoMocks.NamedType
