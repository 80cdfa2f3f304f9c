import GoMocks.Proofs.Definition
import GoMocks.Proofs.GoType.Parts
import GoMocks.Proofs.Inquiry.Footprint

/-!
# Scopes — the packages that expressions lead to

A scope asks for packages that its file imports, and the types it finds mention these and its own
package. So a set of import paths that is closed under the imports of its packages is never left, by
no chain of definitions either.

* `Closed`: some import paths have with each package its own path and the imports of its files.
* `MentionOnly`: the packages that some types mention are kept.
* `Scope.typeOf_within`, `NamedType.definition_within`, `NamedType.underlying_within`: nothing that is
  asked for, and nothing that is found, leads out of a closed set. Failures are answers of the tool.
-/

namespace GoMocks

open GoSource (TypeExpr FunctionExpr ParamExpr FieldExpr InterfaceElem UnionTerm LengthExpr)

variable {packages : String → Option SourcePackage} {kept : String → Prop}

/-- Some import paths have with each package its own path and those that its files import. -/
structure Closed (packages : String → Option SourcePackage) (kept : String → Prop) : Prop where
  own     : ∀ path p, kept path → packages path = some p → kept p.package.path
  imports : ∀ path p, kept path → packages path = some p →
    ∀ file ∈ p.files, ∀ i ∈ file.imports, kept i.path

/-! ### The packages of types -/

/-- The packages that some types mention themselves are kept. -/
def MentionOnly (kept : String → Prop) (types : List GoType) : Prop :=
  ∀ u ∈ types, ∀ path ∈ u.package?, kept path

namespace MentionOnly

variable {types rest : List GoType} {t : GoType}

theorem nil : MentionOnly kept [] := List.forall_mem_nil _

theorem cons (ht : ∀ path ∈ t.package?, kept path) (h : MentionOnly kept types) :
    MentionOnly kept (t :: types) :=
  List.forall_mem_cons.mpr ⟨ht, h⟩

/-- A type that mentions no package itself. -/
theorem cons_none (ht : t.package? = none) (h : MentionOnly kept types) :
    MentionOnly kept (t :: types) :=
  cons (ht ▸ nofun) h

theorem append (h : MentionOnly kept types) (h' : MentionOnly kept rest) :
    MentionOnly kept (types ++ rest) :=
  List.forall_mem_append.mpr ⟨h, h'⟩

theorem left (h : MentionOnly kept (types ++ rest)) : MentionOnly kept types :=
  (List.forall_mem_append.mp h).1

theorem right (h : MentionOnly kept (types ++ rest)) : MentionOnly kept rest :=
  (List.forall_mem_append.mp h).2

theorem head (h : MentionOnly kept (t :: types)) : ∀ path ∈ t.package?, kept path :=
  (List.forall_mem_cons.mp h).1

theorem tail (h : MentionOnly kept (t :: types)) : MentionOnly kept types :=
  (List.forall_mem_cons.mp h).2

/-- A name of a kept package. -/
theorem named {package : Option String} (name : String) (h : ∀ path ∈ package, kept path) :
    MentionOnly kept (GoType.named ⟨package, name, []⟩).parts :=
  cons h nil

end MentionOnly

/-- Types mention kept packages only when each of them does. -/
theorem mentionOnly_typeParts {ts : List GoType} :
    MentionOnly kept (typeParts ts) ↔ ∀ t ∈ ts, MentionOnly kept t.parts := by
  induction ts with
  | nil => exact iff_of_true .nil (List.forall_mem_nil _)
  | cons t ts ih =>
    rw [List.forall_mem_cons, ← ih]
    exact List.forall_mem_append

theorem mentionOnly_valueParts {vs : List Value} :
    MentionOnly kept (valueParts vs) ↔ ∀ v ∈ vs, MentionOnly kept v.type.parts := by
  induction vs with
  | nil => exact iff_of_true .nil (List.forall_mem_nil _)
  | cons v vs ih =>
    obtain ⟨_, t⟩ := v
    rw [List.forall_mem_cons, ← ih]
    exact List.forall_mem_append

theorem mentionOnly_fieldParts {fs : List Field} :
    MentionOnly kept (fieldParts fs) ↔ ∀ f ∈ fs, MentionOnly kept f.type.parts := by
  induction fs with
  | nil => exact iff_of_true .nil (List.forall_mem_nil _)
  | cons f fs ih =>
    obtain ⟨_, t, _⟩ := f
    rw [List.forall_mem_cons, ← ih]
    exact List.forall_mem_append

/-! ### Substitution -/

/-- What type parameters stand for mentions packages that are kept. -/
theorem mentionOnly_lookup {σ : TypeArguments} (hσ : ∀ e ∈ σ, MentionOnly kept e.2.parts)
    (name : String) :
    MentionOnly kept ((σ.lookup name).getD (.parameter name)).parts := by
  cases h : σ.lookup name with
  | none   => exact .cons_none rfl .nil
  | some t =>
    obtain ⟨_, _, hmem, -⟩ := List.lookup_eq_some_iff.mp h
    exact hσ (name, t) (hmem ▸ by simp)

mutual

/-- A type that is substituted in mentions its own packages and those of what is put in. -/
theorem mentionOnly_substitute {σ : TypeArguments} (hσ : ∀ e ∈ σ, MentionOnly kept e.2.parts) :
    (t : GoType) → MentionOnly kept t.parts → MentionOnly kept (t.substitute σ).parts
  | .parameter name, _ => mentionOnly_lookup hσ name
  | .basic _, h => h
  | .named ⟨_, _, arguments⟩, h => .cons h.head (mentionOnly_substituteTypes hσ arguments h.tail)
  | .pointer elem, h => .cons_none rfl (mentionOnly_substitute hσ elem h.tail)
  | .slice elem, h => .cons_none rfl (mentionOnly_substitute hσ elem h.tail)
  | .array (.literal _) elem, h => .cons_none rfl (mentionOnly_substitute hσ elem h.tail)
  | .array (.constant ..) elem, h => .cons h.head (mentionOnly_substitute hσ elem h.tail)
  | .map key value, h =>
    .cons_none rfl ((mentionOnly_substitute hσ key h.tail.left).append
      (mentionOnly_substitute hσ value h.tail.right))
  | .channel _ elem, h => .cons_none rfl (mentionOnly_substitute hσ elem h.tail)
  | .function s, h => .cons_none rfl (mentionOnly_substituteSignature hσ s h.tail)
  | .struct fields, h => .cons_none rfl (mentionOnly_substituteFields hσ fields h.tail)
  | .interface methods embeds, h =>
    .cons_none rfl ((mentionOnly_substituteMethods hσ methods h.tail.left).append
      (mentionOnly_substituteTypes hσ embeds h.tail.right))
  | .union terms, h => .cons_none rfl (mentionOnly_substituteTerms hσ terms h.tail)

/-- A substitution of types that mention kept packages only keeps types so. -/
theorem mentionOnly_substituteTypes {σ : TypeArguments} (hσ : ∀ e ∈ σ, MentionOnly kept e.2.parts) :
    (ts : List GoType) → MentionOnly kept (typeParts ts) →
      MentionOnly kept (typeParts (substituteTypes σ ts))
  | [], h => h
  | t :: ts, h => (mentionOnly_substitute hσ t h.left).append (mentionOnly_substituteTypes hσ ts h.right)

theorem mentionOnly_substituteSignature {σ : TypeArguments} (hσ : ∀ e ∈ σ, MentionOnly kept e.2.parts) :
    (s : Signature) → MentionOnly kept s.parts → MentionOnly kept (s.substitute σ).parts
  | ⟨params, results, _⟩, h =>
    (mentionOnly_substituteValues hσ params h.left).append
      (mentionOnly_substituteValues hσ results h.right)

theorem mentionOnly_substituteValues {σ : TypeArguments} (hσ : ∀ e ∈ σ, MentionOnly kept e.2.parts) :
    (vs : List Value) → MentionOnly kept (valueParts vs) →
      MentionOnly kept (valueParts (substituteValues σ vs))
  | [], h => h
  | ⟨_, t⟩ :: vs, h =>
    (mentionOnly_substitute hσ t h.left).append (mentionOnly_substituteValues hσ vs h.right)

theorem mentionOnly_substituteFields {σ : TypeArguments} (hσ : ∀ e ∈ σ, MentionOnly kept e.2.parts) :
    (fs : List Field) → MentionOnly kept (fieldParts fs) →
      MentionOnly kept (fieldParts (substituteFields σ fs))
  | [], h => h
  | ⟨_, t, _⟩ :: fs, h =>
    (mentionOnly_substitute hσ t h.left).append (mentionOnly_substituteFields hσ fs h.right)

theorem mentionOnly_substituteMethods {σ : TypeArguments} (hσ : ∀ e ∈ σ, MentionOnly kept e.2.parts) :
    (ms : List MethodSpec) → MentionOnly kept (methodParts ms) →
      MentionOnly kept (methodParts (substituteMethods σ ms))
  | [], h => h
  | ⟨_, s⟩ :: ms, h =>
    (mentionOnly_substituteSignature hσ s h.left).append (mentionOnly_substituteMethods hσ ms h.right)

theorem mentionOnly_substituteTerms {σ : TypeArguments} (hσ : ∀ e ∈ σ, MentionOnly kept e.2.parts) :
    (ts : List Term) → MentionOnly kept (termParts ts) →
      MentionOnly kept (termParts (substituteTerms σ ts))
  | [], h => h
  | ⟨_, t⟩ :: ts, h =>
    (mentionOnly_substitute hσ t h.left).append (mentionOnly_substituteTerms hσ ts h.right)

end

/-- What the parameters of a declaration stand for are its arguments. -/
theorem mentionOnly_ofNames {arguments : List GoType} (h : MentionOnly kept (typeParts arguments))
    (names : List String) : ∀ e ∈ TypeArguments.ofNames names arguments, MentionOnly kept e.2.parts := by
  intro e he
  exact mentionOnly_typeParts.mp h _ (List.of_mem_zip (List.mem_reverse.mp he)).2

/-! ### Names -/

namespace Scope

variable {scope : Scope}

/-- The package of a scope and the imports of its file are kept. -/
structure Within (kept : String → Prop) (scope : Scope) : Prop where
  package : kept scope.package.package.path
  imports : ∀ i ∈ scope.file.imports, kept i.path

/-- The packages that are asked for are kept, and so are those that the types mention that are found.
A failure is an answer of the tool. -/
abbrev LeadsWithin {α : Type} (packages : String → Option SourcePackage) (kept : String → Prop)
    (types : α → List GoType) (x : Inquiry α) : Prop :=
  x.Within packages kept (fun a => MentionOnly kept (types a)) (·.isAnswer = true)

namespace Within

/-- The imports of a scope are kept. -/
theorem of_mem_importsNamed (h : scope.Within kept) {name : Option String} {path : String}
    (hp : path ∈ scope.importsNamed name) : kept path := by
  obtain ⟨i, hi, rfl⟩ := List.mem_map.mp hp
  exact h.imports i (List.mem_filter.mp hi).1

end Within

/-- The first package of a name is one of those asked for. -/
theorem firstOfName_within (name : String) {paths : List String} (h : ∀ path ∈ paths, kept path) :
    (firstOfName name paths).Within packages kept (fun path? => ∀ path ∈ path?, kept path)
      (·.isAnswer = true) := by
  induction paths with
  | nil => exact .pure nofun
  | cons path rest ih =>
    obtain ⟨hpath, hrest⟩ := List.forall_mem_cons.mp h
    refine (Inquiry.Within.packageName hpath).bind fun found _ => ?_
    split
    · exact .pure fun path' hpath' => Option.some.inj hpath' ▸ hpath
    · exact ih hrest

/-- The first package that declares a name is one of those asked for. -/
theorem firstDeclaring_within (name : String) {paths : List String}
    (h : ∀ path ∈ paths, kept path) :
    (firstDeclaring name paths).Within packages kept (fun path? => ∀ path ∈ path?, kept path)
      (·.isAnswer = true) := by
  induction paths with
  | nil => exact .pure nofun
  | cons path rest ih =>
    obtain ⟨hpath, hrest⟩ := List.forall_mem_cons.mp h
    refine (Inquiry.Within.find hpath).bind fun found _ => ?_
    split
    · exact .pure fun path' hpath' => Option.some.inj hpath' ▸ hpath
    · exact ih hrest

/-- An identifier stands for a package that the file imports. -/
theorem importPath_within (h : scope.Within kept) (ident : String) :
    (scope.importPath ident).Within packages kept kept (·.isAnswer = true) := by
  unfold importPath
  split
  · next path hpath => exact .pure (h.of_mem_importsNamed (List.mem_of_mem_head? hpath))
  · dsimp only
    split
    · next path hpath => exact .pure (h.of_mem_importsNamed (List.mem_of_find?_eq_some hpath))
    · refine (firstOfName_within ident fun path => h.of_mem_importsNamed).bind fun path? hpath => ?_
      cases path? with
      | none      => exact .throw rfl
      | some path => exact .pure (hpath path rfl)

/-- A predeclared type mentions no package. -/
theorem mentionOnly_predeclared {name : String} {t : GoType}
    (h : GoType.predeclared? name = some t) : MentionOnly kept t.parts := by
  unfold GoType.predeclared? at h
  split at h
  · next kind hkind =>
    obtain rfl := Option.some.inj h
    refine .cons_none ?_ .nil
    cases kind with
    -- the one basic type that is imported is not predeclared
    | unsafePointer => exact absurd (List.mem_of_find?_eq_some hkind) (by decide)
    | _ => rfl
  · split at h
    · exact Option.some.inj h ▸ .named name nofun
    · exact nomatch h

/-- Resolving a name stays within the packages of the scope. -/
theorem typeNamed_within (h : scope.Within kept) (name : String) :
    LeadsWithin packages kept GoType.parts (scope.typeNamed name) := by
  unfold typeNamed
  split
  · exact .pure (.cons_none rfl .nil)
  · split
    · exact .pure (.named name fun path hpath => Option.some.inj hpath ▸ h.package)
    · split
      · next t ht => exact .pure (mentionOnly_predeclared ht)
      · refine (firstDeclaring_within name fun path => h.of_mem_importsNamed).bind
          fun path? hpath => ?_
        cases path? with
        | none      => exact .throw rfl
        | some path => exact .pure (.named name hpath)

/-- Resolving a qualified name stays within the packages of the scope. -/
theorem qualifiedType_within (h : scope.Within kept) (package name : String) :
    LeadsWithin packages kept GoType.parts (scope.qualifiedType package name) := by
  refine (importPath_within h package).bind fun path hpath => ?_
  split
  · next hunsafe =>
    exact .pure (.cons (fun p hp => Option.some.inj hp ▸ hunsafe.1 ▸ hpath) .nil)
  · exact .pure (.named name fun p hp => Option.some.inj hp ▸ hpath)

/-- The length of an array mentions its package in the array. -/
theorem length_within (h : scope.Within kept) (length : LengthExpr) :
    (scope.length length).Within packages kept
      (fun l => ∀ elem, ∀ path ∈ (GoType.array l elem).package?, kept path) (·.isAnswer = true) := by
  cases length with
  | literal text => exact .pure nofun
  | name name    => exact .pure fun _ path hpath => Option.some.inj hpath ▸ h.package
  | qualified package name =>
    exact (importPath_within h package).bind fun path hpath =>
      .pure fun _ p hp => Option.some.inj hp ▸ hpath
  | other text   => exact .throw rfl

/-! ### Types -/

theorem mentionOnly_values (names : List String) {t : GoType} (h : MentionOnly kept t.parts)
    {rest : List Value} (hrest : MentionOnly kept (valueParts rest)) :
    MentionOnly kept (valueParts (values names t ++ rest)) := by
  refine mentionOnly_valueParts.mpr (List.forall_mem_append.mpr
    ⟨fun v hv => ?_, mentionOnly_valueParts.mp hrest⟩)
  have htype : v.type = t := by
    unfold values at hv
    split at hv
    · exact List.mem_singleton.mp hv ▸ rfl
    · obtain ⟨_, -, rfl⟩ := List.mem_map.mp hv
      rfl
  exact htype ▸ h

theorem mentionOnly_fields (names : List String) {t : GoType} (h : MentionOnly kept t.parts)
    (tag : Option String) {rest : List Field} (hrest : MentionOnly kept (fieldParts rest)) :
    MentionOnly kept (fieldParts (fields names t tag ++ rest)) := by
  refine mentionOnly_fieldParts.mpr (List.forall_mem_append.mpr
    ⟨fun f hf => ?_, mentionOnly_fieldParts.mp hrest⟩)
  have htype : f.type = t := by
    unfold fields at hf
    split at hf
    · exact List.mem_singleton.mp hf ▸ rfl
    · obtain ⟨_, -, rfl⟩ := List.mem_map.mp hf
      rfl
  exact htype ▸ h

theorem mentionOnly_typeOfTerms {terms : List Term} (h : MentionOnly kept (termParts terms)) :
    MentionOnly kept (typeOfTerms terms).parts := by
  unfold typeOfTerms
  split
  · exact h.left
  · exact .cons_none rfl h

/-- A declared type that is given arguments mentions their packages too. -/
theorem instantiate_within {base : GoType} {arguments : Inquiry (List GoType)}
    (hbase : MentionOnly kept base.parts)
    (harguments : LeadsWithin packages kept typeParts arguments) :
    LeadsWithin packages kept GoType.parts (instantiate base arguments) := by
  unfold instantiate
  split
  · exact harguments.bind fun ts hts => .pure (.cons hbase.head hts)
  · exact .throw rfl

mutual

/-- **A type is found among the packages that are kept.** -/
theorem typeOf_within (h : scope.Within kept) :
    (e : TypeExpr) → LeadsWithin packages kept GoType.parts (scope.typeOf e)
  | .name name => by
    rw [typeOf]
    exact typeNamed_within h name
  | .qualified package name => by
    rw [typeOf]
    exact qualifiedType_within h package name
  | .generic base arguments => by
    rw [typeOf]
    exact (typeOf_within h base).bind fun b hb => instantiate_within hb (typesOf_within h arguments)
  | .pointer elem => by
    rw [typeOf]
    exact (typeOf_within h elem).bind fun t ht => .pure (.cons_none rfl ht)
  | .slice elem => by
    rw [typeOf]
    exact (typeOf_within h elem).bind fun t ht => .pure (.cons_none rfl ht)
  | .array length elem => by
    rw [typeOf]
    exact (length_within h length).bind fun l hl =>
      (typeOf_within h elem).bind fun t ht => .pure (.cons (hl t) ht)
  | .map key value => by
    rw [typeOf]
    exact (typeOf_within h key).bind fun k hk =>
      (typeOf_within h value).bind fun v hv => .pure (.cons_none rfl (hk.append hv))
  | .channel _ elem => by
    rw [typeOf]
    exact (typeOf_within h elem).bind fun t ht => .pure (.cons_none rfl ht)
  | .function signature => by
    rw [typeOf]
    exact (signatureOf_within h signature).bind fun s hs => .pure (.cons_none rfl hs)
  | .struct fields => by
    rw [typeOf]
    exact (fieldsOf_within h fields).bind fun fs hfs => .pure (.cons_none rfl hfs)
  | .interface elems => by
    rw [typeOf]
    exact (elemsOf_within h elems).bind fun _ hes => .pure (.cons_none rfl hes)
  | .union terms => by
    rw [typeOf]
    exact (termsOf_within h terms).bind fun ts hts => .pure (.cons_none rfl hts)

/-- Resolving types stays within the packages of the scope. -/
theorem typesOf_within (h : scope.Within kept) :
    (es : List TypeExpr) → LeadsWithin packages kept typeParts (scope.typesOf es)
  | [] => by
    rw [typesOf]
    exact .pure .nil
  | e :: es => by
    rw [typesOf]
    exact (typeOf_within h e).bind fun t ht =>
      (typesOf_within h es).bind fun ts hts => .pure (ht.append hts)

theorem signatureOf_within (h : scope.Within kept) :
    (s : FunctionExpr) → LeadsWithin packages kept Signature.parts (scope.signatureOf s)
  | ⟨params, results⟩ => by
    rw [signatureOf]
    exact (valuesOf_within h params).bind fun ps hps =>
      (valuesOf_within h results).bind fun rs hrs => .pure (hps.append hrs)

theorem valuesOf_within (h : scope.Within kept) :
    (ps : List ParamExpr) → LeadsWithin packages kept valueParts (scope.valuesOf ps)
  | [] => by
    rw [valuesOf]
    exact .pure .nil
  | ⟨names, e, _⟩ :: rest => by
    rw [valuesOf]
    exact (typeOf_within h e).bind fun t ht =>
      (valuesOf_within h rest).bind fun vs hvs => .pure (mentionOnly_values names ht hvs)

theorem fieldsOf_within (h : scope.Within kept) :
    (es : List FieldExpr) → LeadsWithin packages kept fieldParts (scope.fieldsOf es)
  | [] => by
    rw [fieldsOf]
    exact .pure .nil
  | ⟨names, e, tag⟩ :: rest => by
    rw [fieldsOf]
    exact (typeOf_within h e).bind fun t ht =>
      (fieldsOf_within h rest).bind fun fs hfs => .pure (mentionOnly_fields names ht tag hfs)

theorem elemsOf_within (h : scope.Within kept) :
    (es : List InterfaceElem) → LeadsWithin packages kept
      (fun found => methodParts found.1 ++ typeParts found.2) (scope.elemsOf es)
  | [] => by
    rw [elemsOf]
    exact .pure .nil
  | .method _ signature :: rest => by
    rw [elemsOf]
    exact (signatureOf_within h signature).bind fun s hs =>
      (elemsOf_within h rest).bind fun _ hes => .pure ((hs.append hes.left).append hes.right)
  | .embed terms :: rest => by
    rw [elemsOf]
    exact (termsOf_within h terms).bind fun ts hts =>
      (elemsOf_within h rest).bind fun _ hes =>
        .pure (hes.left.append ((mentionOnly_typeOfTerms hts).append hes.right))

theorem termsOf_within (h : scope.Within kept) :
    (ts : List UnionTerm) → LeadsWithin packages kept termParts (scope.termsOf ts)
  | [] => by
    rw [termsOf]
    exact .pure .nil
  | ⟨_, e⟩ :: rest => by
    rw [termsOf]
    exact (typeOf_within h e).bind fun t ht =>
      (termsOf_within h rest).bind fun ts hts => .pure (ht.append hts)

end

end Scope

/-! ### Definitions -/

open Scope (LeadsWithin)

namespace Closed

variable {path : String} {p : SourcePackage}

/-- What a declaration of a package that is kept sees is kept. -/
theorem scope (h : Closed packages kept) (hpath : kept path) (hp : packages path = some p)
    {file : GoSource.SourceFile} (hfile : file ∈ p.files) (spec : GoSource.TypeSpec) :
    (p.scope file spec).Within kept :=
  ⟨h.own path p hpath hp, h.imports path p hpath hp file hfile⟩

end Closed

/-- A declaration stands in a file of the package. -/
theorem SourcePackage.file_of_declaration {p : SourcePackage}
    {d : GoSource.SourceFile × GoSource.TypeSpec} (h : d ∈ p.declarations) : d.1 ∈ p.files := by
  obtain ⟨file, hfile, hd⟩ := List.mem_flatMap.mp h
  obtain ⟨spec, -, rfl⟩ := List.mem_map.mp hd
  exact hfile

namespace NamedType

variable {n : NamedType}

/-- The declaration of a name is found in a package that is kept. -/
theorem declaration_within (h : Closed packages kept) (hn : ∀ path ∈ n.package, kept path) :
    n.declaration.Within packages kept (fun d => (d.1.scope d.2.1 d.2.2).Within kept)
      (·.isAnswer = true) := by
  unfold declaration
  split
  · exact .throw rfl
  · next path hpath =>
    refine (Inquiry.Within.find (hn path hpath)).bind fun p? hp => ?_
    split
    · exact .throw rfl
    · next p hp? =>
      split
      · exact .throw rfl
      · next file spec hd =>
        have hfile := SourcePackage.file_of_declaration (List.mem_of_find?_eq_some hd)
        exact .pure (h.scope (hn path hpath) hp.symm hfile spec)

/-- **A definition is found among the packages that are kept.** -/
theorem definition_within (h : Closed packages kept) (hn : MentionOnly kept (GoType.named n).parts) :
    LeadsWithin packages kept GoType.parts n.definition := by
  refine (declaration_within h hn.head).bind fun d hd => ?_
  refine (Scope.typeOf_within hd _).bind fun t ht => .pure ?_
  obtain ⟨package, name, arguments⟩ := n
  exact mentionOnly_substitute (mentionOnly_ofNames hn.tail _) t ht

theorem mentionOnly_predeclaredUnderlying {name : String} {t : GoType}
    (h : GoType.predeclaredUnderlying? name = some t) : MentionOnly kept t.parts := by
  unfold GoType.predeclaredUnderlying? at h
  split at h
  · exact Option.some.inj h ▸ .cons_none rfl (.cons_none rfl .nil)
  · split at h
    · exact Option.some.inj h ▸ .cons_none rfl .nil
    · exact nomatch h

/-- So is the end of a chain of definitions. -/
theorem underlyingWithin_within (h : Closed packages kept) (steps : Nat)
    (hn : MentionOnly kept (GoType.named n).parts) :
    LeadsWithin packages kept GoType.parts (n.underlyingWithin steps) := by
  induction steps generalizing n with
  | zero => exact .throw rfl
  | succ steps ih =>
    rw [underlyingWithin]
    split
    · split
      · next t ht => exact .pure (mentionOnly_predeclaredUnderlying ht)
      · exact .throw rfl
    · refine (definition_within h hn).bind fun t ht => ?_
      split
      · exact ih ht
      · exact .pure ht

end NamedType

end GoMocks
