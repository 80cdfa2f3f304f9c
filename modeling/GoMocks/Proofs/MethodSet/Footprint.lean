import GoMocks.Proofs.MethodSet.Walk
import GoMocks.Proofs.Scope.Footprint

/-!
# Method sets — the packages that interfaces lead to

The interfaces of a package are found among the packages that it imports, directly or through
others, and mention no others.

* `Interface.MentionsOnly`: the packages that the declaration of an interface mentions are kept.
* `NamedType.methodSetWithin_within`: a walk does not lead out of a closed set of packages.
* `SourcePackage.interfaces_within`: nor does the list of the interfaces of a package.
-/

namespace GoMocks

open Scope (LeadsWithin)

variable {packages : String → Option SourcePackage} {kept : String → Prop} {t : GoType}
  {n : NamedType} {set other : MethodSet}

/-! ### The packages of method sets -/

/-- The packages that some methods mention are kept. -/
def MethodsMention (kept : String → Prop) (methods : List Method) : Prop :=
  ∀ m ∈ methods, MentionOnly kept m.signature.parts

namespace MethodsMention

/-- Methods inserted one by one mention what each of them mentions. -/
theorem insertAll {methods : List Method} (h : MethodsMention kept set.methods)
    (hmethods : MethodsMention kept methods) :
    MethodsMention kept (set.insertAll methods).methods := by
  induction methods generalizing set with
  | nil => exact h
  | cons m ms ih =>
    obtain ⟨hm, hms⟩ := List.forall_mem_cons.mp hmethods
    have hinsert : MethodsMention kept (set.insert m).methods := by
      unfold MethodSet.insert
      split
      · exact h
      · exact List.forall_mem_append.mpr ⟨h, List.forall_mem_singleton.mpr hm⟩
    exact ih hinsert hms

/-- Two method sets joined mention what each of them mentions. -/
theorem merge (h : MethodsMention kept set.methods) (ho : MethodsMention kept other.methods) :
    MethodsMention kept (set.merge other).methods :=
  @insertAll _ { set with isConstraint := set.isConstraint || other.isConstraint } _ h ho

/-- The methods of an interface mention what their signatures mention. -/
theorem ofSpecs {specs : List MethodSpec} (h : MentionOnly kept (methodParts specs)) :
    MethodsMention kept (MethodSet.ofSpecs specs).methods := by
  refine insertAll (List.forall_mem_nil _) ?_
  induction specs with
  | nil          => exact List.forall_mem_nil _
  | cons m ms ih =>
    obtain ⟨name, signature⟩ := m
    exact List.forall_mem_cons.mpr ⟨h.left, ih h.right⟩

theorem sorted (h : MethodsMention kept set.methods) : MethodsMention kept set.sorted :=
  fun m hm => h m (mem_sortByKey_sub hm)

theorem predeclared (name : String) : MethodsMention kept (predeclaredMethodSet name).methods := by
  unfold predeclaredMethodSet
  split
  · exact List.forall_mem_nil _
  · split
    · next h =>
      exact ofSpecs (NamedType.mentionOnly_predeclaredUnderlying h).tail.left
    · exact List.forall_mem_nil _

end MethodsMention

/-! ### Walks -/

/-- A walk through a type asks for packages that are kept alone, if the walks from the names in it
do. -/
theorem methodSetBy_within {E : Error → Prop} {f : NamedType → Inquiry MethodSet}
    (hnamed : ∀ n, MentionOnly kept (GoType.named n).parts →
      (f n).Within packages kept (fun s => MethodsMention kept s.methods) E)
    (ht : MentionOnly kept t.parts) :
    (t.methodSetBy f).Within packages kept (fun s => MethodsMention kept s.methods) E := by
  induction t using GoType.embed_induction with
  | name n =>
    obtain ⟨_ | path, name, arguments⟩ := n
    · rw [GoType.methodSetBy_predeclared]
      exact .pure (.predeclared name)
    · rw [GoType.methodSetBy_declared rfl]
      exact hnamed _ ht
  | plain t hplain =>
    rw [GoType.methodSetBy_plain hplain]
    exact .pure (List.forall_mem_nil _)
  | interface methods embeds ih =>
    rw [GoType.methodSetBy_interface]
    have hembeds : ∀ t ∈ embeds,
        (t.methodSetBy f).Within packages kept (fun s => MethodsMention kept s.methods) E :=
      fun t hmem => ih t hmem (mentionOnly_typeParts.mp ht.tail.right t hmem)
    have hset := MethodsMention.ofSpecs ht.tail.left
    clear ih ht
    -- the embedded types are entered into a set that grows, so the induction is on any set
    generalize MethodSet.ofSpecs methods = set at hset
    induction embeds generalizing set with
    | nil =>
      rw [embedAll_nil]
      exact .pure hset
    | cons t ts ih =>
      obtain ⟨ht, hts⟩ := List.forall_mem_cons.mp hembeds
      rw [embedAll_cons]
      exact ht.bind fun s hs => ih hts _ (hset.merge hs)

/-- What is found has methods of packages that are kept. A failure may be that of a walk without an
end. -/
abbrev LeadsToMethods (packages : String → Option SourcePackage) (kept : String → Prop)
    (x : Inquiry MethodSet) : Prop :=
  x.Within packages kept (fun s => MethodsMention kept s.methods) fun _ => True

/-- **A walk asks for packages that are kept alone.** -/
theorem NamedType.methodSetWithin_within (h : Closed packages kept) (levels : Nat)
    (followed : List String) (hn : MentionOnly kept (GoType.named n).parts) :
    LeadsToMethods packages kept (n.methodSetWithin levels followed) := by
  induction levels generalizing n followed with
  | zero => exact .throw trivial
  | succ levels ih =>
    rw [methodSetWithin]
    split
    · exact .throw trivial
    · refine ((definition_within h hn).mono (fun _ => id) fun _ _ => trivial).bind fun t ht => ?_
      exact methodSetBy_within (fun m hm => ih _ hm) ht

/-- The methods of a type stay within what it leads to. -/
theorem GoType.methodSet_within (h : Closed packages kept) (ht : MentionOnly kept t.parts) :
    LeadsToMethods packages kept t.methodSet :=
  methodSetBy_within (fun _ hm => NamedType.methodSetWithin_within h _ _ hm) ht

/-! ### Interfaces -/

/-- The packages that the declaration of an interface mentions are kept. -/
structure Interface.MentionsOnly (kept : String → Prop) (i : Interface) : Prop where
  typeParams : ∀ param ∈ i.typeParams, MentionOnly kept param.constraint.parts
  methods    : MethodsMention kept i.methods

namespace SourcePackage

variable {scope : Scope} {p : SourcePackage} {file : GoSource.SourceFile} {spec : GoSource.TypeSpec}

/-- Reading the name of an interface stays within the packages of its scope. -/
theorem interfaceName?_within (h : Closed packages kept) (hscope : scope.Within kept)
    (e : GoSource.TypeExpr) :
    (interfaceName? scope e).Within packages kept
      (fun n? => ∀ n ∈ n?, MentionOnly kept (GoType.named n).parts) fun _ => True := by
  refine Inquiry.Within.tryCatch (E := (·.isAnswer = true)) ?_ fun _ _ => .pure nofun
  refine (Scope.typeOf_within hscope e).bind fun t ht => ?_
  split
  · next n =>
    refine (NamedType.underlyingWithin_within h _ ht).bind fun u _ => ?_
    split
    · exact .pure fun m hm => Option.some.inj hm ▸ ht
    · exact .pure nofun
  · exact .pure nofun

/-- The methods of a declaration stay within the packages of its scope. -/
theorem declaredMethodSet?_within (h : Closed packages kept) (hscope : scope.Within kept)
    (e : GoSource.TypeExpr) :
    (declaredMethodSet? scope e).Within packages kept
      (fun set? => ∀ s ∈ set?, MethodsMention kept s.methods) fun _ => True := by
  have htype : (scope.typeOf e).Within packages kept (fun t => MentionOnly kept t.parts)
      fun _ => True := (Scope.typeOf_within hscope e).mono (fun _ => id) fun _ _ => trivial
  have hname := interfaceName?_within h hscope e
  cases e with
  | interface elems =>
    exact htype.bind fun t ht => (GoType.methodSet_within h ht).bind fun s hs =>
      .pure fun s' hs' => Option.some.inj hs' ▸ hs
  | name | qualified | generic =>
    refine hname.bind fun n? hn? => ?_
    cases n? with
    | none => exact .pure nofun
    | some n =>
      exact (NamedType.methodSetWithin_within h _ _ (hn? n rfl)).bind fun s hs =>
        .pure fun s' hs' => Option.some.inj hs' ▸ hs
  | _ => exact .pure nofun

/-- The constraints of a declaration stay within the packages of its scope. -/
theorem typeParams_within (hscope : scope.Within kept) (spec : GoSource.TypeSpec) :
    (typeParams scope spec).Within packages kept
      (fun params => ∀ param ∈ params, MentionOnly kept param.constraint.parts) fun _ => True :=
  .mapM fun _ _ => ((Scope.typeOf_within hscope _).mono (fun _ => id) fun _ _ => trivial).bind
    fun _ ht => .pure ht

/-- A declared interface stays within the packages of its scope. -/
theorem interface?_within (h : Closed packages kept) (hscope : (p.scope file spec).Within kept) :
    (p.interface? file spec).Within packages kept (fun i? => ∀ i ∈ i?, i.MentionsOnly kept)
      fun _ => True := by
  refine (declaredMethodSet?_within h hscope _).bind fun set? hset => ?_
  cases set? with
  | none => exact .pure nofun
  | some set =>
    refine (typeParams_within hscope spec).bind fun params hparams => .pure fun i hi => ?_
    exact Option.some.inj hi ▸ ⟨hparams, (hset set rfl).sorted⟩

/-- **The interfaces of a package are found among the packages that are kept.** -/
theorem interfaces_within {path : String} (h : Closed packages kept) (hpath : kept path)
    (hp : packages path = some p) :
    p.interfaces.Within packages kept (fun is => ∀ i ∈ is, i.MentionsOnly kept) fun _ => True := by
  have hlisted : ∀ d ∈ p.declarations, (p.listedInterface? d.1 d.2).Within packages kept
      (fun i? => ∀ i ∈ i?, i.MentionsOnly kept) fun _ => True := by
    intro d hd
    have hscope := h.scope hpath hp (file_of_declaration hd) d.2
    refine (interface?_within h hscope).tryCatch fun _ _ => ?_
    split
    · exact .throw trivial
    · exact .pure nofun
  refine (Inquiry.Within.mapM hlisted).bind fun is his => .pure fun i hi => ?_
  obtain ⟨i?, hi?, rfl⟩ := List.mem_filterMap.mp hi
  exact his _ hi? i rfl

end SourcePackage

end GoMocks
