import GoMocks.Proofs.MethodSet.Methods

/-!
# Method sets — instances of generic declarations

The walk from an instance of a generic declaration goes the way of the walk from the declaration
itself, with the type arguments in place of the parameters wherever it comes to, and so it finds the
same methods with the arguments in place.

* `declared?`: what a declaration writes, and the type parameters it has.
* `DeclarationEmbeds`, `Instantiable`: what the declarations that one embeds must not do, for its
  instances to go its way.
* `Instance`: one outcome is the other with types in place of parameters.
* `instance_methodSetWithin`: walks from a name and from an instance of it have such outcomes.
* `NamedType.methods_instance`: the methods of an instance are those of the declaration with the
  arguments in place.
* `NamedType.methods_instance_fails`: import paths for which they are not.
-/

namespace GoMocks

open Relation (ReflTransGen TransGen)

variable {packages : String → Option SourcePackage} {n n' m : NamedType} {t u : GoType}
  {names : List String} {τ : TypeArguments}

/-! ### Types in place of parameters -/

/-- A method with types in place of type parameters. -/
def Method.substitute (τ : TypeArguments) (m : Method) : Method :=
  ⟨m.name, m.signature.substitute τ⟩

namespace MethodSet

variable {set other : MethodSet}

/-- A method set with types in place of type parameters. -/
def substitute (τ : TypeArguments) (set : MethodSet) : MethodSet :=
  { set with methods := set.methods.map (·.substitute τ) }

/-- A substitution commutes with inserting a method. -/
theorem insert_substitute (set : MethodSet) (m : Method) :
    (set.insert m).substitute τ = (set.substitute τ).insert (m.substitute τ) := by
  have hnames : (set.substitute τ).methods.any (·.name == (m.substitute τ).name) =
      set.methods.any (·.name == m.name) := by
    rw [substitute, List.any_map]
    rfl
  rw [insert, insert, hnames]
  split
  · rfl
  · rw [substitute, List.map_append]
    rfl

theorem insertAll_substitute (set : MethodSet) (methods : List Method) :
    (set.insertAll methods).substitute τ =
      (set.substitute τ).insertAll (methods.map (·.substitute τ)) := by
  induction methods generalizing set with
  | nil => rfl
  | cons m rest ih =>
    rw [insertAll, List.foldl_cons, ← insertAll, ih, insert_substitute]
    rfl

theorem merge_substitute (set other : MethodSet) :
    (set.merge other).substitute τ = (set.substitute τ).merge (other.substitute τ) :=
  insertAll_substitute ..

theorem ofSpecs_substitute (specs : List MethodSpec) :
    (ofSpecs specs).substitute τ = ofSpecs (substituteMethods τ specs) := by
  rw [ofSpecs, ofSpecs, insertAll_substitute, substituteMethods_eq_map, List.map_map, List.map_map]
  rfl

theorem sorted_substitute (set : MethodSet) :
    (set.substitute τ).sorted = set.sorted.map (·.substitute τ) :=
  sortByKey_map (f := Method.substitute τ) (fun _ => rfl) set.methods

/-- A method set in which no parameters occur but some. -/
def Within (names : List String) (set : MethodSet) : Prop :=
  ∀ m ∈ set.methods, m.signature.parameters ⊆ names

theorem Within.insertAll {methods : List Method} (h : set.Within names)
    (hm : ∀ m ∈ methods, m.signature.parameters ⊆ names) :
    (set.insertAll methods).Within names := by
  induction methods generalizing set with
  | nil => exact h
  | cons m rest ih =>
    obtain ⟨hm, hrest⟩ := List.forall_mem_cons.mp hm
    have hinsert : (set.insert m).Within names := by
      unfold MethodSet.insert
      split
      · exact h
      · exact List.forall_mem_append.mpr ⟨h, List.forall_mem_singleton.mpr hm⟩
    exact ih hinsert hrest

theorem Within.merge (h : set.Within names) (ho : other.Within names) :
    (set.merge other).Within names :=
  Within.insertAll h ho

theorem Within.ofSpecs {specs : List MethodSpec} (h : methodParameters specs ⊆ names) :
    (MethodSet.ofSpecs specs).Within names := by
  refine Within.insertAll nofun fun m hm x hx => h ?_
  obtain ⟨spec, hspec, rfl⟩ := List.mem_map.mp hm
  rw [methodParameters_eq_flatMap]
  exact List.mem_flatMap.mpr ⟨spec, hspec, hx⟩

end MethodSet

/-- No parameter occurs in the method set of a predeclared name. -/
theorem predeclaredMethodSet_closed (τ : TypeArguments) (names : List String) (name : String) :
    (predeclaredMethodSet name).substitute τ = predeclaredMethodSet name ∧
      (predeclaredMethodSet name).Within names := by
  by_cases hany : name = "any"
  · subst hany
    exact ⟨rfl, nofun⟩
  · by_cases herror : name = "error"
    · subst herror
      exact ⟨MethodSet.ofSpecs_substitute _, .ofSpecs (List.nil_subset _)⟩
    · rw [predeclaredMethodSet_of_ne hany herror]
      exact ⟨rfl, nofun⟩

/-! ### What declarations embed -/

/-- The type parameters of a declaration, and the type that it writes. -/
def declared? (packages : String → Option SourcePackage) :
    Option String × String → Option (List String × GoType)
  | (none, _)         => none
  | (some path, name) => do
    let p ← packages path
    let (file, spec) ← p.declaration? name
    let t ← (((p.scope file spec).typeOf spec.type).answer packages).toOption
    return (spec.paramNames, t)

mutual

/-- The types that a type stands for or embeds: itself, or the types of an interface type that are
no interface types. -/
def GoType.embedded : GoType → List GoType
  | .interface _ embeds => embeddedAll embeds
  | t                   => [t]

/-- What some types stand for or embed, one after the other. -/
def embeddedAll : List GoType → List GoType
  | []      => []
  | t :: ts => t.embedded ++ embeddedAll ts

end

/-- The type parameters of a declaration; none where it writes no type. -/
def parameterNames (packages : String → Option SourcePackage) (d : Option String × String) :
    List String :=
  (declared? packages d).elim [] (·.1)

/-- The types that a declaration embeds or is defined as. -/
def embeddedTypes (packages : String → Option SourcePackage) (d : Option String × String) :
    List GoType :=
  (declared? packages d).elim [] (·.2.embedded)

/-- A declaration embeds an instance of another one, or is defined as one. -/
def DeclarationEmbeds (packages : String → Option SourcePackage)
    (d e : Option String × String) : Prop :=
  ∃ m : NamedType, .named m ∈ embeddedTypes packages d ∧ m.key = e

/-- Of the declarations that are reached from one by embedding, none embeds a type parameter or is
defined as one, each embedded name has an argument for each parameter of its declaration, and none
leads back to itself. -/
structure Instantiable (packages : String → Option SourcePackage) (d : Option String × String) :
    Prop where
  noParameter : ∀ e, ReflTransGen (DeclarationEmbeds packages) d e →
    ∀ x, .parameter x ∉ embeddedTypes packages e
  arguments   : ∀ e, ReflTransGen (DeclarationEmbeds packages) d e →
    ∀ m : NamedType, .named m ∈ embeddedTypes packages e →
      (parameterNames packages m.key).length ≤ m.arguments.length
  acyclic     : ∀ e, ReflTransGen (DeclarationEmbeds packages) d e →
    ¬ TransGen (DeclarationEmbeds packages) e e

/-- A declaration may embed one other, which embeds nothing. -/
theorem instantiable_of_embeds_one {d : Option String × String}
    (hd : embeddedTypes packages d = [.named m]) (hm : embeddedTypes packages m.key = [])
    (hlength : (parameterNames packages m.key).length ≤ m.arguments.length) :
    Instantiable packages d := by
  have hon : LeadsOn (DeclarationEmbeds packages) [d, m.key] := by
    refine ⟨?_, ?_, trivial⟩
    · rintro _ ⟨m', hm', rfl⟩
      rw [hd, List.mem_singleton] at hm'
      exact GoType.named.inj hm' ▸ .head _
    · rintro _ ⟨m', hm', rfl⟩
      exact nomatch hm ▸ hm'
  obtain ⟨hacc, hmem⟩ := acc_of_leadsOn hon d (.head _)
  have heither : ∀ e, ReflTransGen (DeclarationEmbeds packages) d e →
      embeddedTypes packages e = [.named m] ∨ embeddedTypes packages e = [] := by
    intro e he
    rcases List.mem_pair.mp (hmem e he) with rfl | rfl
    · exact .inl hd
    · exact .inr hm
  refine ⟨fun e he x hx => ?_, fun e he m' hm' => ?_, not_cyclic_of_acc hacc⟩
  · rcases heither e he with h | h <;> simp [h] at hx
  · rcases heither e he with h | h
    · rw [h, List.mem_singleton] at hm'
      exact GoType.named.inj hm' ▸ hlength
    · exact nomatch h ▸ hm'

theorem toOption_eq_some_iff {ε α : Type} {x : Except ε α} {a : α} :
    x.toOption = some a ↔ x = .ok a := by
  cases x <;> simp [Except.toOption]

/-- A name is defined as what its declaration writes, with its arguments in place. -/
theorem NamedType.definition_eq_ok_iff_declared :
    n.definition.answer packages = .ok t ↔
      ∃ params u, declared? packages n.key = some (params, u) ∧
        t = u.substitute (.ofNames params n.arguments) := by
  rw [definition_eq_ok_iff]
  obtain ⟨_ | path, name, arguments⟩ := n
  · simp [key, declared?]
  · constructor
    · rintro ⟨path', p, file, spec, u, hn, hp, hd, hu, rfl⟩
      obtain rfl := Option.some.inj hn
      refine ⟨spec.paramNames, u, ?_, rfl⟩
      simp [key, declared?, hp, hd, hu, Except.toOption]
    · rintro ⟨params, u, hu, rfl⟩
      simp only [key, declared?, Option.bind_eq_bind, Option.bind_eq_some_iff] at hu
      obtain ⟨p, hp, ⟨file, spec⟩, hd, t, ht, hu⟩ := hu
      obtain ⟨rfl, rfl⟩ := Prod.mk.inj (Option.some.inj hu)
      exact ⟨path, p, file, spec, t, rfl, hp, hd, toOption_eq_some_iff.mp ht, rfl⟩

/-- A declared name has the parameters of its declaration, or none when they cannot be had. -/
theorem parameterNames_eq {path name : String} {p : SourcePackage} {file : GoSource.SourceFile}
    {spec : GoSource.TypeSpec} (hp : packages path = some p)
    (hd : p.declaration? name = some (file, spec)) :
    parameterNames packages (some path, name) = [] ∨
      parameterNames packages (some path, name) = spec.paramNames := by
  cases ht : ((p.scope file spec).typeOf spec.type).answer packages with
  | error e => exact .inl (by simp [parameterNames, declared?, hp, hd, ht, Except.toOption])
  | ok t    => exact .inr (by simp [parameterNames, declared?, hp, hd, ht, Except.toOption])

/-- What a declaration writes has no type parameters but its own. -/
theorem declared?_parameters {d : Option String × String} {params : List String}
    (h : declared? packages d = some (params, t)) : t.parameters ⊆ params := by
  obtain ⟨_ | path, name⟩ := d
  · exact nomatch h
  · simp only [declared?, Option.bind_eq_bind, Option.bind_eq_some_iff] at h
    obtain ⟨p, -, ⟨file, spec⟩, -, u, hu, h⟩ := h
    obtain ⟨rfl, rfl⟩ := Prod.mk.inj (Option.some.inj h)
    exact Scope.typeOf_parameters spec.type (toOption_eq_some_iff.mp hu)

namespace GoType

theorem embedded_interface (methods : List MethodSpec) (embeds : List GoType) :
    (interface methods embeds).embedded = embeds.flatMap embedded := by
  have hall : ∀ ts, embeddedAll ts = ts.flatMap embedded := by
    intro ts
    induction ts with
    | nil          => rw [embeddedAll, List.flatMap_nil]
    | cons t ts ih => rw [embeddedAll, ih, List.flatMap_cons]
  rw [embedded, hall]

theorem embedded_plain (ht : t.IsPlain) : t.embedded = [t] := by
  cases t with
  | named | interface => exact ht.elim
  | _ => rw [embedded]; exact nofun

theorem embedded_named (n : NamedType) : (named n).embedded = [.named n] := by
  rw [embedded]
  exact nofun

theorem IsPlain.substitute (ht : t.IsPlain) (hparameter : ∀ x, t ≠ .parameter x) :
    (t.substitute τ).IsPlain := by
  cases t with
  | named | interface => exact ht.elim
  | parameter x => exact absurd rfl (hparameter x)
  | _ => rw [GoType.substitute]; trivial

/-- Only a parameter can become a parameter. -/
theorem substitute_ne_parameter (ht : ∀ x, t ≠ .parameter x) (x : String) :
    t.substitute τ ≠ .parameter x := by
  cases t with
  | parameter y => exact absurd rfl (ht y)
  | _ => rw [GoType.substitute]; exact nofun

/-- Only a name or a parameter can become a name. -/
theorem exists_named_of_substitute (ht : ∀ x, t ≠ .parameter x) (h : t.substitute τ = .named n) :
    ∃ m, t = .named m ∧ n = m.substitute τ := by
  cases t with
  | parameter y => exact absurd rfl (ht y)
  | named m =>
    rw [GoType.substitute] at h
    exact ⟨m, rfl, (GoType.named.inj h).symm⟩
  | _ => rw [GoType.substitute] at h; exact nomatch h

/-- Where no parameter is embedded, an instance embeds the instances of what is embedded. -/
theorem embedded_substitute (ht : ∀ x, .parameter x ∉ t.embedded) :
    (t.substitute τ).embedded = t.embedded.map (·.substitute τ) := by
  induction t using embed_induction with
  | name n =>
    rw [embedded_named, GoType.substitute, embedded_named, List.map_singleton, GoType.substitute]
  | plain t hplain =>
    rw [embedded_plain hplain] at ht ⊢
    rw [embedded_plain (hplain.substitute fun x hx => ht x (hx ▸ .head _)), List.map_singleton]
  | interface methods embeds ih =>
    rw [embedded_interface] at ht ⊢
    rw [GoType.substitute, embedded_interface, substituteTypes_eq_map, List.flatMap_map,
      List.map_flatMap]
    exact List.flatMap_congr fun t hmem =>
      ih t hmem fun x hx => ht x (List.mem_flatMap.mpr ⟨t, hmem, hx⟩)

/-- What is embedded has no other parameters. -/
theorem parameters_of_mem_embedded (h : u ∈ t.embedded) : u.parameters ⊆ t.parameters := by
  induction t using embed_induction with
  | name n =>
    rw [embedded_named] at h
    exact List.mem_singleton.mp h ▸ List.Subset.refl _
  | plain t hplain =>
    rw [embedded_plain hplain] at h
    exact List.mem_singleton.mp h ▸ List.Subset.refl _
  | interface methods embeds ih =>
    rw [embedded_interface] at h
    obtain ⟨t, ht, hu⟩ := List.mem_flatMap.mp h
    rw [parameters, typeParameters_eq_flatMap]
    exact fun x hx => List.mem_append_right _ (List.mem_flatMap.mpr ⟨t, ht, ih t ht hu hx⟩)

end GoType

/-! ### Walks from a name and from its instance -/

/-- One outcome is the other with types in place of parameters, of which there were no others but
some, or both are failures. -/
inductive Instance (names : List String) (τ : TypeArguments) :
    Except Error MethodSet → Except Error MethodSet → Prop
  | fails (e e' : Error) : Instance names τ (.error e) (.error e')
  | succeeds {set : MethodSet} (h : set.Within names) :
      Instance names τ (.ok set) (.ok (set.substitute τ))

/-- Instances are kept through a continuation that keeps them. -/
theorem Instance.bind {x y : Except Error MethodSet} {k k' : MethodSet → Except Error MethodSet}
    (h : Instance names τ x y)
    (hk : ∀ set : MethodSet, set.Within names → Instance names τ (k set) (k' (set.substitute τ))) :
    Instance names τ (x >>= k) (y >>= k') := by
  cases h with
  | fails e e'  => exact .fails e e'
  | succeeds hs => exact hk _ hs

/-- What the methods in order are, where one outcome is the other's instance. -/
theorem Instance.sorted {x y : Except Error MethodSet} (h : Instance names τ x y) :
    (∀ ms, (x >>= fun set => .ok set.sorted) = .ok ms →
      (y >>= fun set => .ok set.sorted) = .ok (ms.map (·.substitute τ)) ∧
        ∀ m ∈ ms, m.signature.parameters ⊆ names) ∧
    ∀ e, (x >>= fun set => Except.ok set.sorted) = .error e →
      ∃ e', (y >>= fun set => Except.ok set.sorted) = .error e' := by
  cases h with
  | fails e e' => exact ⟨nofun, fun _ _ => ⟨e', rfl⟩⟩
  | @succeeds set hset =>
    refine ⟨fun ms hms => ?_, nofun⟩
    obtain rfl := Except.ok.inj hms
    exact ⟨congrArg Except.ok set.sorted_substitute, fun m hm => hset m (mem_sortByKey_sub hm)⟩

/-- What holds of the walks from the names that a type embeds holds of those from the type. -/
theorem instance_methodSetBy {f g : NamedType → Inquiry MethodSet}
    (hbare : ∀ x, .parameter x ∉ t.embedded) (ht : t.parameters ⊆ names)
    (hnamed : ∀ n path, n.package = some path → .named n ∈ t.embedded →
      Instance names τ ((f n).answer packages) ((g (n.substitute τ)).answer packages)) :
    Instance names τ ((t.methodSetBy f).answer packages)
      (((t.substitute τ).methodSetBy g).answer packages) := by
  induction t using GoType.embed_induction with
  | name n =>
    obtain ⟨_ | path, name, arguments⟩ := n
    · rw [GoType.substitute, NamedType.substitute, GoType.methodSetBy_predeclared,
        GoType.methodSetBy_predeclared]
      obtain ⟨hsame, hwithin⟩ := predeclaredMethodSet_closed τ names name
      have h : Instance names τ _ _ := .succeeds hwithin
      rwa [hsame] at h
    · rw [GoType.substitute, GoType.methodSetBy_declared rfl, GoType.methodSetBy_declared rfl]
      exact hnamed _ path rfl (GoType.embedded_named _ ▸ .head _)
  | plain t hplain =>
    rw [GoType.embedded_plain hplain] at hbare
    rw [GoType.methodSetBy_plain hplain,
      GoType.methodSetBy_plain (hplain.substitute fun x hx => hbare x (hx ▸ .head _))]
    have hnone : MethodSet.constraint.Within names := nofun
    exact .succeeds hnone
  | interface methods embeds ih =>
    rw [GoType.embedded_interface] at hbare hnamed
    rw [GoType.parameters, List.append_subset, typeParameters_eq_flatMap] at ht
    obtain ⟨hmethods, hembeds⟩ := ht
    rw [GoType.substitute, GoType.methodSetBy_interface, GoType.methodSetBy_interface,
      ← MethodSet.ofSpecs_substitute, substituteTypes_eq_map]
    have hwalks : ∀ t ∈ embeds, Instance names τ ((t.methodSetBy f).answer packages)
        (((t.substitute τ).methodSetBy g).answer packages) := fun t hmem =>
      ih t hmem (fun x hx => hbare x (List.mem_flatMap.mpr ⟨t, hmem, hx⟩))
        (fun x hx => hembeds (List.mem_flatMap.mpr ⟨t, hmem, hx⟩))
        fun n path hp hn => hnamed n path hp (List.mem_flatMap.mpr ⟨t, hmem, hn⟩)
    have hset := MethodSet.Within.ofSpecs hmethods
    clear ih hbare hnamed hembeds
    -- the embedded types are entered into a set that grows, so the induction is on any set
    generalize MethodSet.ofSpecs methods = set at hset
    induction embeds generalizing set with
    | nil =>
      rw [List.map_nil, embedAll_nil, embedAll_nil]
      exact .succeeds hset
    | cons t ts ih =>
      obtain ⟨ht, hts⟩ := List.forall_mem_cons.mp hwalks
      rw [List.map_cons, embedAll_cons, embedAll_cons, Inquiry.answer_bind, Inquiry.answer_bind]
      refine ht.bind fun s hs => ?_
      rw [← MethodSet.merge_substitute]
      exact ih hts (set.merge s) (hset.merge hs)

/-- The parameters of a name are those of its arguments. -/
theorem NamedType.parameters_eq (n : NamedType) : n.parameters = typeParameters n.arguments := by
  cases n
  rw [NamedType.parameters]

/-- A substitution leaves what a name refers to. -/
theorem NamedType.key_substitute (n : NamedType) : (n.substitute τ).key = n.key := by
  cases n
  rfl

theorem NamedType.length_arguments_substitute (n : NamedType) :
    (n.substitute τ).arguments.length = n.arguments.length := by
  cases n
  rw [NamedType.substitute, substituteTypes_eq_map, List.length_map]

theorem Signature.variadic_substitute (s : Signature) : (s.substitute τ).variadic = s.variadic := by
  cases s
  rfl

/-- A name is an instance of another one: it refers to the same declaration, and each parameter of
the declaration stands for the other's argument with types in place. -/
structure Instantiates (packages : String → Option SourcePackage) (τ : TypeArguments)
    (n n' : NamedType) : Prop where
  key       : n'.key = n.key
  arguments : (parameterNames packages n.key).length ≤ n.arguments.length
  images    : ∀ x ∈ parameterNames packages n.key,
    ((TypeArguments.ofNames (parameterNames packages n.key) n.arguments).image x).substitute τ =
      (TypeArguments.ofNames (parameterNames packages n.key) n'.arguments).image x

namespace Instantiates

/-- A name with enough arguments is instantiated by a substitution. -/
theorem substitute (h : (parameterNames packages n.key).length ≤ n.arguments.length) :
    Instantiates packages τ n (n.substitute τ) where
  key       := n.key_substitute
  arguments := h
  images    := fun x hx => by
    obtain ⟨_, _, arguments⟩ := n
    rw [NamedType.substitute, substituteTypes_eq_map, TypeArguments.image_ofNames_map h hx]

/-- An instance is defined as the instance of the definition. -/
theorem definition (h : Instantiates packages τ n n') (ht : n.definition.answer packages = .ok t) :
    n'.definition.answer packages = .ok (t.substitute τ) := by
  obtain ⟨params, u, hu, rfl⟩ := NamedType.definition_eq_ok_iff_declared.mp ht
  refine NamedType.definition_eq_ok_iff_declared.mpr ⟨params, u, h.key ▸ hu, ?_⟩
  have himages := h.images
  rw [parameterNames, hu] at himages
  exact u.substitute_substitute fun x hx => himages x (declared?_parameters hu hx)

/-- A name without a definition has none after a substitution. -/
theorem definition_error (h : Instantiates packages τ n n') {e : Error}
    (he : n.definition.answer packages = .error e) :
    ∃ e', n'.definition.answer packages = .error e' := by
  cases hd : n'.definition.answer packages with
  | error e' => exact ⟨e', rfl⟩
  | ok t =>
    obtain ⟨params, u, hu, rfl⟩ := NamedType.definition_eq_ok_iff_declared.mp hd
    have hok := NamedType.definition_eq_ok_iff_declared.mpr ⟨params, u, h.key ▸ hu, rfl⟩
    exact nomatch hok.symm.trans he

end Instantiates

/-- Names of some declarations have these texts. -/
def TextsOf (packages : String → Option SourcePackage) (keys : List (Option String × String))
    (texts : List String) : Prop :=
  ∀ text ∈ texts, ∃ c : NamedType, c.text = text ∧ c.key ∈ keys ∧
    ∃ t, c.definition.answer packages = .ok t

namespace TextsOf

variable {keys : List (Option String × String)} {texts : List String}

theorem not_mem (hplain : PlainNames packages) (h : TextsOf packages keys texts)
    (ht : n.definition.answer packages = .ok t) (hn : n.key ∉ keys) : n.text ∉ texts := by
  intro hmem
  obtain ⟨c, htext, hc, u, hu⟩ := h _ hmem
  exact hn (NamedType.key_eq_of_text_eq hplain hu ht htext ▸ hc)

theorem cons (h : TextsOf packages keys texts) (ht : n.definition.answer packages = .ok t) :
    TextsOf packages (n.key :: keys) (n.text :: texts) :=
  List.forall_mem_cons.mpr ⟨⟨n, rfl, .head _, t, ht⟩, fun text htext =>
    let ⟨c, hc, hkey, hd⟩ := h text htext
    ⟨c, hc, .tail _ hkey, hd⟩⟩

end TextsOf

/-- Without a definition there is no method set, whatever is being followed. -/
theorem methodSetWithin_error (levels : Nat) (followed : List String) {e : Error}
    (he : n.definition.answer packages = .error e) :
    ∃ e', (n.methodSetWithin levels followed).answer packages = .error e' := by
  cases h : (n.methodSetWithin levels followed).answer packages with
  | error e' => exact ⟨e', rfl⟩
  | ok set =>
    cases levels with
    | zero => exact nomatch h
    | succ levels =>
      obtain ⟨-, t, ht, -⟩ := NamedType.methodSetWithin_succ_eq_ok.mp h
      exact nomatch ht.symm.trans he

/-- On its way from one declaration to another a walk came through some declarations. -/
structure Passes (packages : String → Option SourcePackage) (d : Option String × String)
    (keys : List (Option String × String)) (e : Option String × String) : Prop where
  reaches : ReflTransGen (DeclarationEmbeds packages) d e
  leads   : ∀ k ∈ keys, TransGen (DeclarationEmbeds packages) k e

theorem Passes.cons {d e e' : Option String × String} {keys : List (Option String × String)}
    (h : Passes packages d keys e) (he : DeclarationEmbeds packages e e') :
    Passes packages d (e :: keys) e' where
  reaches := h.reaches.tail he
  leads   := List.forall_mem_cons.mpr ⟨.single he, fun k hk => (h.leads k hk).tail he⟩

/-- **The walk from an instance goes the way of the walk from the name**, with the types in place
that it was made with. -/
theorem instance_methodSetWithin {d : Option String × String} (hplain : PlainNames packages)
    (hd : Instantiable packages d) {levels : Nat} {keys : List (Option String × String)}
    {texts texts' : List String} (hkeys : Passes packages d keys n.key)
    (htexts : TextsOf packages keys texts) (htexts' : TextsOf packages keys texts')
    (hn : n.parameters ⊆ names) (h : Instantiates packages τ n n') :
    Instance names τ ((n.methodSetWithin levels texts).answer packages)
      ((n'.methodSetWithin levels texts').answer packages) := by
  induction levels generalizing n n' keys texts texts' with
  | zero => exact .fails _ _
  | succ levels ih =>
    cases ht : n.definition.answer packages with
    | error e =>
      obtain ⟨e', he'⟩ := h.definition_error ht
      obtain ⟨_, hleft⟩ := methodSetWithin_error (levels + 1) texts ht
      obtain ⟨_, hright⟩ := methodSetWithin_error (levels + 1) texts' he'
      rw [hleft, hright]
      exact .fails _ _
    | ok t =>
      have ht' := h.definition ht
      -- no declaration leads back to itself, so neither walk is following a name of this one
      have hnew : n.key ∉ keys := fun hmem =>
        hd.acyclic n.key hkeys.reaches (hkeys.leads _ hmem)
      rw [NamedType.answer_of_not_mem (htexts.not_mem hplain ht hnew), ht,
        NamedType.answer_of_not_mem (htexts'.not_mem hplain ht' (h.key ▸ hnew)), ht']
      obtain ⟨params, u, hu, rfl⟩ := NamedType.definition_eq_ok_iff_declared.mp ht
      have hbare := hd.noParameter _ hkeys.reaches
      rw [embeddedTypes, hu] at hbare
      change ∀ x, .parameter x ∉ u.embedded at hbare
      have hparams : parameterNames packages n.key = params := by rw [parameterNames, hu]; rfl
      have hnotBare : ∀ e ∈ u.embedded, ∀ x, e ≠ .parameter x := fun e he x hx => hbare x (hx ▸ he)
      have hparameters : (u.substitute (.ofNames params n.arguments)).parameters ⊆ names := by
        rw [GoType.parameters_substitute]
        exact List.Subset.trans
          (TypeArguments.imageParameters_ofNames (declared?_parameters hu) (hparams ▸ h.arguments))
          (n.parameters_eq ▸ hn)
      -- from here on, what matters is the type that is defined, and the names that it embeds
      refine instance_methodSetBy (fun x hx => ?_) hparameters fun m path _ hm => ?_
      · rw [GoType.embedded_substitute hbare] at hx
        obtain ⟨e, he, hx⟩ := List.mem_map.mp hx
        exact GoType.substitute_ne_parameter (hnotBare e he) x hx
      · have hmparameters := GoType.parameters_of_mem_embedded hm
        rw [GoType.embedded_substitute hbare] at hm
        obtain ⟨e, he, hm⟩ := List.mem_map.mp hm
        obtain ⟨m₀, rfl, rfl⟩ := GoType.exists_named_of_substitute (hnotBare e he) hm
        have hmem : .named m₀ ∈ embeddedTypes packages n.key := by rwa [embeddedTypes, hu]
        have hembeds : DeclarationEmbeds packages n.key m₀.key := ⟨m₀, hmem, rfl⟩
        refine ih ((NamedType.key_substitute m₀).symm ▸ hkeys.cons hembeds) (htexts.cons ht)
          (h.key ▸ htexts'.cons ht') (List.Subset.trans hmparameters hparameters)
          (.substitute ?_)
        rw [NamedType.key_substitute, NamedType.length_arguments_substitute]
        exact hd.arguments _ hkeys.reaches m₀ hmem

/-! ### The methods of an instance -/

namespace NamedType

/-- **The methods of an instance are those of the declaration with the arguments in place.** A
declaration is given its own parameters, and then some arguments. No declaration that it embeds,
directly or through others, embeds a parameter, lacks an argument or leads back to itself, and there
is no bracket in import paths. Then both have methods or neither has. Those of the instance have the
same names in the same order and the same variadic marks, every parameter is replaced by its
argument, all at once, and only parameters of the arguments are left. -/
theorem methods_instance (packages : String → Option SourcePackage) {path name : String}
    {p : SourcePackage} {file : GoSource.SourceFile} {spec : GoSource.TypeSpec}
    {arguments : List GoType} (hplain : PlainNames packages) (hp : packages path = some p)
    (hd : p.declaration? name = some (file, spec))
    (hinstantiable : Instantiable packages (some path, name))
    (hlength : arguments.length = spec.paramNames.length) :
    let generic : NamedType := ⟨some path, name, spec.paramNames.map .parameter⟩
    let applied : NamedType := ⟨some path, name, arguments⟩
    let τ := TypeArguments.ofNames spec.paramNames arguments
    (∀ ms, generic.methods.answer packages = .ok ms →
      applied.methods.answer packages = .ok (ms.map (·.substitute τ)) ∧
      ∀ m ∈ ms, (m.substitute τ).name = m.name ∧
        (m.substitute τ).signature.variadic = m.signature.variadic ∧
        (m.substitute τ).signature.parameters ⊆ typeParameters arguments) ∧
    ∀ e, generic.methods.answer packages = .error e →
      ∃ e', applied.methods.answer packages = .error e' := by
  intro generic applied τ
  have hinstantiates : Instantiates packages τ generic applied := by
    -- a declaration that writes no type has no parameters to speak of
    rcases parameterNames_eq hp hd with hparams | hparams
    · exact ⟨rfl, hparams ▸ Nat.zero_le _, hparams ▸ List.forall_mem_nil _⟩
    · refine ⟨rfl, hparams ▸ (List.length_map ..).ge, hparams ▸ fun x hx => ?_⟩
      rw [TypeArguments.image_ofNames_parameter hx, GoType.substitute, TypeArguments.image]
  have hown : generic.parameters ⊆ spec.paramNames := by
    rw [generic.parameters_eq, typeParameters_eq_flatMap]
    intro x hx
    simpa [generic, GoType.parameters] using hx
  have hwalk : Instance spec.paramNames τ
      ((GoType.named generic).methodSet.answer packages)
      ((GoType.named applied).methodSet.answer packages) := by
    rw [GoType.methodSet, GoType.methodSetWithin, GoType.methodSetBy_declared rfl, GoType.methodSet,
      GoType.methodSetWithin, GoType.methodSetBy_declared rfl]
    have hstart : Passes packages generic.key [] generic.key := ⟨.refl, List.forall_mem_nil _⟩
    have hnone : TextsOf packages [] [] := List.forall_mem_nil _
    exact instance_methodSetWithin hplain hinstantiable hstart hnone hnone hown hinstantiates
  rw [methods, answer_methodsWithin, methods, answer_methodsWithin]
  obtain ⟨hok, herror⟩ := hwalk.sorted
  refine ⟨fun ms hms => ?_, herror⟩
  obtain ⟨happlied, hwithin⟩ := hok ms hms
  refine ⟨happlied, fun m hm => ⟨rfl, Signature.variadic_substitute _, ?_⟩⟩
  have hleft := TypeArguments.imageParameters_ofNames (hwithin m hm) hlength.ge
  rwa [← Signature.parameters_substitute] at hleft

end NamedType

open SourcePackage (ofTypes byPath mem_of_byPath)

/-- A pair that embeds a source with its own parameters the other way round. -/
def pairs : SourcePackage :=
  ofTypes "m/x" []
    [⟨"Pair", [⟨"K", .name "any"⟩, ⟨"V", .name "any"⟩],
      .interface [.method "Put" ⟨[⟨["k"], .name "K", false⟩, ⟨["vs"], .name "V", true⟩], []⟩,
        .embed [⟨false, .generic (.name "Source") [.name "V", .name "K"]⟩]], 3⟩,
     ⟨"Source", [⟨"K", .name "any"⟩, ⟨"V", .name "any"⟩],
      .interface [.method "Get" ⟨[⟨["k"], .name "K", false⟩], [⟨[], .name "V", false⟩]⟩], 8⟩]

namespace NamedType

/-- The arguments of a pair mention parameters with the names of its own, and go round twice. -/
theorem methods_instance_pairs :
    let packages := byPath [pairs]
    let arguments : List GoType := [.parameter "V", .slice (.parameter "K")]
    (NamedType.methods ⟨some "m/x", "Pair", arguments⟩).answer packages =
      .ok [⟨"Get", ⟨[⟨"k", .slice (.parameter "K")⟩], [⟨"", .parameter "V"⟩], false⟩⟩,
        ⟨"Put", ⟨[⟨"k", .parameter "V"⟩, ⟨"vs", .slice (.parameter "K")⟩], [], true⟩⟩] := by
  intro packages arguments
  have hplain : PlainNames packages := by
    intro path p hp
    obtain ⟨hmem, rfl⟩ := mem_of_byPath hp
    obtain rfl := List.mem_singleton.mp hmem
    decide
  have hinstantiable : Instantiable packages (some "m/x", "Pair") :=
    instantiable_of_embeds_one (m := ⟨some "m/x", "Source", [.parameter "V", .parameter "K"]⟩)
      (by decide +kernel) (by decide +kernel) (by decide +kernel)
  have hlength : arguments.length = 2 := rfl
  exact ((methods_instance packages hplain rfl rfl hinstantiable hlength).1 _ rfl).1

/-- **An import path may make an instance look like what it embeds.** `A` embeds an instance of `B`,
which embeds nothing. `A` has methods, and an instance of it has none. -/
theorem methods_instance_fails :
    let packages := byPath bracketPackages
    let generic : NamedType := ⟨some "m/x", "A", [.parameter "T"]⟩
    let applied : NamedType := ⟨some "m/x", "A", [.named ⟨some "m/k.B[m/r", "s", []⟩]⟩
    Instantiable packages generic.key ∧
      generic.methods.answer packages = .ok [⟨"Close", default⟩, ⟨"Get", default⟩] ∧
      applied.methods.answer packages =
        .error (.unsupportedType "m/x.A[m/k.B[m/r.s]" .embedsItself) := by
  intro packages generic applied
  refine ⟨?_, by decide +kernel, by decide +kernel⟩
  exact instantiable_of_embeds_one
    (m := ⟨some "m/x.A[m/k", "B", [.named ⟨some "m/r", "s", []⟩]⟩)
    (by decide +kernel) (by decide +kernel) (by decide +kernel)

end NamedType

end GoMocks
