import GoMocks.Proofs.Definition
import GoMocks.Proofs.MethodSet.Instances

/-!
# Method sets — packages without interfaces

A source file may write none of its types as an interface, and give no other name to a type of another
package. A package of such files has no interfaces, whatever it imports.

* `GoSource.SourceFile.IsConcrete`: what is asked of a file.
* `SourcePackage.typeOf_allowed`: what its declarations stand for.
* `SourcePackage.underlyingWithin_ne_interface`: the chain of definitions stays in the package, and
  does not end at an interface.
* `SourcePackage.interfaces_of_isConcrete`: the package has no interfaces.
-/

namespace GoMocks

namespace GoSource

/-- Does a declaration write something else than an interface, or give another name to a type of its
own package? -/
def TypeSpec.isConcrete (spec : TypeSpec) : Bool :=
  match spec.type with
  | .interface _ | .qualified ..         => false
  | .name name | .generic (.name name) _ =>
    !(spec.paramNames ++ predeclaredInterfaces).contains name
  | .generic ..                          => false
  | _                                    => true

/-- A source that declares no interfaces, and that sees the types of other packages behind the names
of these packages alone. -/
structure SourceFile.IsConcrete (file : SourceFile) : Prop where
  imports : ∀ i ∈ file.imports, i.name ≠ some "."
  types   : ∀ spec ∈ file.types, spec.isConcrete = true

instance (file : SourceFile) : Decidable file.IsConcrete :=
  decidable_of_iff
    ((∀ i ∈ file.imports, i.name ≠ some ".") ∧ ∀ spec ∈ file.types, spec.isConcrete = true)
    ⟨fun ⟨hi, ht⟩ => ⟨hi, ht⟩, fun ⟨hi, ht⟩ => ⟨hi, ht⟩⟩

end GoSource

open GoSource (SourceFile TypeSpec TypeExpr)

namespace SourcePackage

variable {packages : String → Option SourcePackage} {p : SourcePackage} {file : SourceFile}
  {spec : TypeSpec} {t : GoType} {name : String}

/-- None of the files declares an interface. -/
def IsConcrete (p : SourcePackage) : Prop :=
  ∀ file ∈ p.files, file.IsConcrete

/-- A type that such a package may declare: a name of its own, or a type that is neither a name nor
an interface. -/
def Allows (p : SourcePackage) (t : GoType) : Prop :=
  (∃ x arguments, t = .named ⟨some p.package.path, x, arguments⟩) ∨
    t.IsPlain ∧ ∀ x, t ≠ .parameter x

/-- What such a package may declare stays so under a substitution. -/
theorem Allows.substitute (h : p.Allows t) (σ : TypeArguments) : p.Allows (t.substitute σ) := by
  rcases h with ⟨x, arguments, rfl⟩ | ⟨hplain, hparameter⟩
  · exact .inl ⟨x, substituteTypes σ arguments, by rw [GoType.substitute, NamedType.substitute]⟩
  · exact .inr ⟨hplain.substitute hparameter, GoType.substitute_ne_parameter hparameter⟩

/-! ### What declarations stand for -/

/-- Without imports that are seen through, a name that is neither a parameter nor a predeclared
interface is one of the package, or that of a basic type. -/
theorem typeNamed_allowed {scope : Scope} (himports : ∀ i ∈ scope.file.imports, i.name ≠ some ".")
    (hname : name ∉ scope.typeParams ++ predeclaredInterfaces)
    (h : (scope.typeNamed name).answer packages = .ok t) :
    t = .named ⟨some scope.package.package.path, name, []⟩ ∨ ∃ kind, t = .basic kind := by
  obtain ⟨hparams, hpredeclared⟩ := not_or.mp (mt List.mem_append.mpr hname)
  rw [Scope.typeNamed, if_neg hparams] at h
  split at h
  · exact .inl (Except.ok.inj h).symm
  · split at h
    · next hpre =>
      obtain rfl := Except.ok.inj h
      rw [GoType.predeclared?, if_neg hpredeclared] at hpre
      cases hkind : BasicKind.ofName? name with
      | none => rw [hkind] at hpre; cases hpre
      | some kind =>
        rw [hkind] at hpre
        exact .inr ⟨kind, (Option.some.inj hpre).symm⟩
    · have hnone : scope.importsNamed (some ".") = [] := by
        rw [Scope.importsNamed, List.filter_eq_nil_iff.mpr fun i hi => by simp [himports i hi],
          List.map_nil]
      rw [hnone] at h
      cases h

/-- **What a concrete declaration stands for.** -/
theorem typeOf_allowed (hfile : file.IsConcrete) (hspec : spec.isConcrete = true)
    (h : ((p.scope file spec).typeOf spec.type).answer packages = .ok t) : p.Allows t := by
  rw [TypeSpec.isConcrete] at hspec
  have hnamed : ∀ {name u}, (!(spec.paramNames ++ predeclaredInterfaces).contains name) = true →
      ((p.scope file spec).typeNamed name).answer packages = .ok u →
      u = .named ⟨some p.package.path, name, []⟩ ∨ ∃ kind, u = .basic kind :=
    fun hname hu => typeNamed_allowed hfile.imports (by simpa [SourcePackage.scope] using hname) hu
  cases he : spec.type with
  -- a name of the file's own: declared in the package, or of a basic type
  | name name =>
    rw [he, Scope.typeOf] at h
    simp only [he] at hspec
    rcases hnamed hspec h with rfl | ⟨kind, rfl⟩
    · exact .inl ⟨_, _, rfl⟩
    · exact .inr ⟨trivial, nofun⟩
  | generic base arguments =>
    cases base with
    | name name =>
      simp only [he, Scope.typeOf] at h hspec
      obtain ⟨b, hb, h⟩ := Inquiry.answer_bind_eq_ok.mp h
      rcases hnamed hspec hb with rfl | ⟨kind, rfl⟩
      · obtain ⟨ts, -, h⟩ := Inquiry.answer_bind_eq_ok.mp h
        exact .inl ⟨_, _, (Except.ok.inj h).symm⟩
      · cases h
    -- a type literal is no interface, whatever its parts are
    | _ => simp only [he] at hspec; cases hspec
  | qualified | interface => simp only [he] at hspec; cases hspec
  | array length elem =>
    rw [he, Scope.typeOf] at h
    obtain ⟨_, -, h⟩ := Inquiry.answer_bind_eq_ok.mp h
    obtain ⟨_, -, h⟩ := Inquiry.answer_bind_eq_ok.mp h
    exact .inr (Except.ok.inj h ▸ ⟨trivial, nofun⟩)
  | map key value =>
    rw [he, Scope.typeOf] at h
    obtain ⟨_, -, h⟩ := Inquiry.answer_bind_eq_ok.mp h
    obtain ⟨_, -, h⟩ := Inquiry.answer_bind_eq_ok.mp h
    exact .inr (Except.ok.inj h ▸ ⟨trivial, nofun⟩)
  | _ =>
    rw [he, Scope.typeOf] at h
    obtain ⟨_, -, h⟩ := Inquiry.answer_bind_eq_ok.mp h
    exact .inr (Except.ok.inj h ▸ ⟨trivial, nofun⟩)

/-! ### Names of the package -/

theorem spec_of_declaration (h : (file, spec) ∈ p.declarations) : spec ∈ file.types := by
  obtain ⟨_, -, hd⟩ := List.mem_flatMap.mp h
  obtain ⟨_, hspec, hd⟩ := List.mem_map.mp hd
  obtain ⟨rfl, rfl⟩ := Prod.mk.inj hd
  exact hspec

section

variable (hp : packages p.package.path = some p) (hconcrete : p.IsConcrete)
include hp hconcrete

/-- What a name of the package is defined as. -/
theorem definition_allowed {arguments : List GoType}
    (h : (NamedType.definition ⟨some p.package.path, name, arguments⟩).answer packages = .ok t) :
    p.Allows t := by
  obtain ⟨_, q, file, spec, u, ⟨⟩, hq, hd, hu, rfl⟩ := NamedType.definition_eq_ok_iff.mp h
  obtain rfl := Option.some.inj (hp.symm.trans hq)
  have hmem := List.mem_of_find?_eq_some hd
  have hfile := hconcrete file (file_of_declaration hmem)
  exact (typeOf_allowed hfile (hfile.types spec (spec_of_declaration hmem)) hu).substitute _

/-- **A name of the package does not stand for an interface**: the chain of its definitions does not
leave the package. -/
theorem underlyingWithin_ne_interface (steps : Nat) {arguments : List GoType}
    (ms : List MethodSpec) (es : List GoType) :
    (NamedType.underlyingWithin steps ⟨some p.package.path, name, arguments⟩).answer packages ≠
      .ok (.interface ms es) := by
  induction steps generalizing name arguments with
  | zero => exact nofun
  | succ steps ih =>
    intro h
    obtain ⟨u, hu, hstep⟩ := (NamedType.underlyingWithin_succ_eq_ok rfl).mp h
    have hallowed := definition_allowed hp hconcrete hu
    rcases hstep with ⟨m, rfl, hm⟩ | ⟨rfl, -⟩
    · rcases hallowed with ⟨x, arguments', hm'⟩ | ⟨hplain, -⟩
      · obtain rfl := GoType.named.inj hm'
        exact ih hm
      · exact hplain.elim
    · rcases hallowed with ⟨_, _, h'⟩ | ⟨hplain, -⟩
      · cases h'
      · exact hplain.elim

/-- A concrete declaration names no interface. -/
theorem interfaceName?_of_isConcrete (hfile : file.IsConcrete) (hspec : spec.isConcrete = true) :
    (interfaceName? (p.scope file spec) spec.type).answer packages = .ok none := by
  have hnone : ∀ {x : Inquiry (Option NamedType)},
      (∀ n?, x.answer packages = .ok n? → n? = none) →
        (tryCatch x fun _ => return none).answer packages = .ok none := by
    intro x hx
    cases h : x.answer packages with
    | error e => exact Inquiry.answer_tryCatch_of_error _ h
    | ok n?   => exact Inquiry.answer_tryCatch_of_ok _ (hx n? h ▸ h)
  refine hnone fun n? h => ?_
  obtain ⟨t, ht, h⟩ := Inquiry.answer_bind_eq_ok.mp h
  rcases typeOf_allowed hfile hspec ht with ⟨x, arguments, rfl⟩ | ⟨hplain, -⟩
  · obtain ⟨u, hu, h⟩ := Inquiry.answer_bind_eq_ok.mp h
    cases u with
    | interface ms es => exact absurd hu (underlyingWithin_ne_interface hp hconcrete _ ms es)
    | _ => exact (Except.ok.inj h).symm
  · cases t with
    | named | interface => exact hplain.elim
    | _ => exact (Except.ok.inj h).symm

/-- A concrete declaration has no method set. -/
theorem declaredMethodSet?_of_isConcrete (hfile : file.IsConcrete)
    (hspec : spec.isConcrete = true) :
    (declaredMethodSet? (p.scope file spec) spec.type).answer packages = .ok none := by
  have hname := interfaceName?_of_isConcrete hp hconcrete hfile hspec
  rw [TypeSpec.isConcrete] at hspec
  generalize spec.type = e at *
  cases e with
  | interface => cases hspec
  | name | qualified | generic =>
    exact Inquiry.answer_bind_eq_ok.mpr ⟨none, hname, rfl⟩
  | _ => rfl

/-- **A package whose files declare no interfaces has none**, whatever it imports. -/
theorem interfaces_of_isConcrete : p.interfaces.answer packages = .ok [] := by
  have hlisted : ∀ d ∈ p.declarations, (p.listedInterface? d.1 d.2).answer packages = .ok none := by
    intro d hd
    have hfile := hconcrete d.1 (file_of_declaration hd)
    refine Inquiry.answer_tryCatch_of_ok _ (Inquiry.answer_bind_eq_ok.mpr
      ⟨none, ?_, rfl⟩)
    exact declaredMethodSet?_of_isConcrete hp hconcrete hfile
      (hfile.types d.2 (spec_of_declaration hd))
  rw [interfaces, Inquiry.answer_bind]
  cases hfound : (p.declarations.mapM fun d => p.listedInterface? d.1 d.2).answer packages with
  | error e =>
    obtain ⟨d, hd, he⟩ := Inquiry.exists_of_answer_mapM_eq_error hfound
    cases (hlisted d hd).symm.trans he
  | ok found =>
    have hnone : ∀ i ∈ found, i = none := fun i hi => by
      obtain ⟨d, hd, hi⟩ := Inquiry.exists_of_mem_answer_mapM hfound hi
      exact (Except.ok.inj ((hlisted d hd).symm.trans hi)).symm
    exact congrArg Except.ok (List.filterMap_eq_nil_iff.mpr hnone)

end

end SourcePackage

end GoMocks
