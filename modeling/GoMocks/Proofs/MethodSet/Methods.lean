import GoMocks.Proofs.MethodSet.Acyclic
import GoMocks.Proofs.Scope.Footprint

/-!
# Method sets — the methods of a name

What `methods` gives, and when it gives anything.

* `MetFirst`: a method set has the methods that a search in depth meets first, in order, of the
  names that the reachable interfaces declare, and is marked when a type set is reachable.
* `NamedType.methods_met_first`: without cycles the methods of a name are those, and with one there
  are none, at any number of levels that is large enough; the failure is an answer of the tool.
* `NamedType.methods_fail`: declarations without a cycle whose methods cannot be had: a method that
  is not met first has no type, one name cannot be told from another, or a type argument makes a
  cycle.
-/

namespace GoMocks

open GoSource (ImportSpec TypeSpec)
open Relation (TransGen)

variable {packages : String → Option SourcePackage} {n : NamedType} {t : GoType}

/-- A method set has the methods that a search in depth meets first, in order, of the names that the
reachable interfaces declare, and is marked when a type set is reachable. -/
structure MetFirst (packages : String → Option SourcePackage) (n : NamedType) (set : MethodSet)
    (listing : List Method) : Prop where
  met     : ∀ l, DepthFirst packages [.named n] l ↔ l = listing
  inOrder : InOrder Method.name set.sorted
  first   : ∀ m, m ∈ set.sorted ↔ firstNamed m.name listing = some m
  names   : ∀ name, name ∈ set.sorted.map Method.name ↔
    ∃ t, Reaches packages (.named n) t ∧ t.Declares name
  marked  : set.isConstraint = true ↔ ∃ t, Reaches packages (.named n) t ∧ t.IsTypeSet

/-- What explains a method set is what a search in depth meets first. -/
theorem Explains.metFirst {set : MethodSet} (h : Explains packages (.named n) set) :
    ∃ listing, MetFirst packages n set listing := by
  obtain ⟨⟨l, hl, hd⟩, hm⟩ := h
  have hlisting : DepthFirst packages [.named n] l := by simpa using hd [] [] .done
  refine ⟨l, fun l' => ⟨fun h' => h'.unique hlisting, fun h' => h' ▸ hlisting⟩,
    sortByKey_strict _ _, fun m => hl.mem_sorted, fun name => ?_, hm⟩
  rw [hl.name_mem_sorted, hlisting.exists_name_iff]
  simp

/-- A type with a method set leads to nothing without an end. -/
theorem Explains.acc {set : MethodSet} (h : Explains packages t set) :
    Acc (fun u t => LeadsTo packages t u) t := by
  obtain ⟨l, -, hd⟩ := h.listing
  exact (hd [] [] .done).acc t (.head _)

/-- Where a walk comes to a name again or to one without a definition, the tool gives an answer. -/
theorem FailsAt.isAnswer {e : Error} (h : FailsAt packages n e) : e.isAnswer = true := by
  obtain ⟨m, -, rfl | he⟩ := h
  · rfl
  · have hclosed : Closed packages fun _ => True :=
      ⟨fun _ _ _ _ => trivial, fun _ _ _ _ _ _ _ _ => trivial⟩
    exact (NamedType.definition_within hclosed fun _ _ _ _ => trivial).of_eq_error he

/-- A package of one source file. -/
def SourcePackage.ofTypes (path : String) (imports : List ImportSpec) (types : List TypeSpec) :
    SourcePackage :=
  ⟨⟨"x", path, "m", ⟨"/m"⟩, [⟨"/m/x.go"⟩]⟩, [⟨⟨"/m/x.go"⟩, "x", imports, types, false⟩]⟩

/-- The packages of some import paths. -/
def SourcePackage.byPath (found : List SourcePackage) (path : String) : Option SourcePackage :=
  found.find? (·.package.path == path)

/-- A package found by its path is one of them. -/
theorem SourcePackage.mem_of_byPath {found : List SourcePackage} {path : String} {p : SourcePackage}
    (h : byPath found path = some p) : p ∈ found ∧ p.package.path = path :=
  ⟨List.mem_of_find?_eq_some h, by simpa using List.find?_some h⟩

open SourcePackage (ofTypes byPath mem_of_byPath)

namespace NamedType

/-- The methods of a name are those of its set, sorted. -/
theorem answer_methodsWithin (packages : String → Option SourcePackage) (levels : Nat)
    (n : NamedType) :
    (n.methodsWithin levels).answer packages =
      ((GoType.named n).methodSetWithin levels).answer packages >>= fun set =>
        .ok set.sorted := by
  rw [methodsWithin, Inquiry.answer_bind]
  rfl

/-- **Without cycles, the methods of a name are those that are met first.** Where all names that are
reached have definitions and no declaration leads back to itself, any number of levels above that of
the declarations gives the same methods: in order of their names, one of each name that a reachable
interface declares, the one that a search in depth meets first. Where a type that is reached leads
back to itself there are no methods at any number of levels, and where finitely many names are
reached, any number of levels above theirs gives the same failure. `methods` has `embeddingLimit`
levels. -/
theorem methods_met_first (packages : String → Option SourcePackage) (n : NamedType) :
    (∀ paths : List String, (∀ path, packages path ≠ none → path ∈ paths) →
      PlainNames packages → Acyclic packages n → Resolves packages n →
      ∃ set listing, MetFirst packages n set listing ∧
        ∀ levels, (declaredKeys packages paths).length < levels →
          ((GoType.named n).methodSetWithin levels).answer packages = .ok set ∧
          (n.methodsWithin levels).answer packages = .ok set.sorted) ∧
    ((∃ t, Reaches packages (.named n) t ∧ TransGen (LeadsTo packages) t t) →
      (∀ levels, ∃ e, (n.methodsWithin levels).answer packages = .error e) ∧
      ∀ reached : List NamedType,
        (∀ m, Reaches packages (.named n) (.named m) → m ∈ reached) →
        ∃ e, FailsAt packages n e ∧ e.isAnswer = true ∧ ∀ levels, reached.length < levels →
          (n.methodsWithin levels).answer packages = .error e) := by
  refine ⟨fun paths hpaths hplain hacyclic hresolves => ?_, fun ⟨t, ht, hcycle⟩ => ?_⟩
  · have hwalk : ∀ levels, (declaredKeys packages paths).length < levels → ∃ set,
        ((GoType.named n).methodSetWithin levels).answer packages = .ok set := fun levels hl =>
      -- no declaration is entered twice on a way down, so their number bounds the levels
      methodSetBy_succeeds fun m path hm hreaches =>
        methodSetWithin_succeeds hpaths hplain hresolves hacyclic hm (.nil hreaches) (by simpa)
    obtain ⟨set, hset⟩ := hwalk _ (Nat.lt_succ_self _)
    obtain ⟨listing, hlisting⟩ :=
      (explains_methodSetBy (fun m s => explains_methodSetWithin) hset).metFirst
    refine ⟨set, listing, hlisting, fun levels hl => ?_⟩
    have hlevels : ((GoType.named n).methodSetWithin levels).answer packages = .ok set :=
      methodSetBy_mono (fun m s => methodSetWithin_of_le hl (List.Subset.refl _)) hset
    exact ⟨hlevels, by rw [answer_methodsWithin, hlevels]; rfl⟩
  · have herror : ∀ levels, ∃ e, (n.methodsWithin levels).answer packages = .error e := by
      intro levels
      rw [answer_methodsWithin]
      cases hset : ((GoType.named n).methodSetWithin levels).answer packages with
      | error e => exact ⟨e, rfl⟩
      | ok set =>
        -- a walk that ends leaves no endless way behind it
        have hacc := (explains_methodSetBy (fun m s => explains_methodSetWithin) hset).acc
        exact absurd hcycle (not_cyclic_of_acc hacc t ht)
    refine ⟨herror, fun reached hreached => ?_⟩
    obtain ⟨e, he⟩ := herror (reached.length + 1)
    have hfails : FailsAt packages n e := by
      rw [answer_methodsWithin] at he
      cases hset : ((GoType.named n).methodSetWithin (reached.length + 1)).answer packages with
      | ok set   => exact nomatch hset ▸ he
      | error e' =>
        rw [hset] at he
        refine Except.error.inj he ▸ methodSetBy_failure (P := FailsAt packages n)
          (fun m _ _ hm e he => ?_) hset
        exact methodSetWithin_failure hreached List.nodup_nil (List.nil_subset _) (by simp) hm he
    refine ⟨e, hfails, hfails.isAnswer, fun levels hl => ?_⟩
    rw [← he, answer_methodsWithin, answer_methodsWithin]
    refine congrArg (· >>= _) (methodSetBy_congr fun m _ _ hm => ?_)
    exact methodSetWithin_eq hreached List.nodup_nil (List.nil_subset _) (by simpa) (by simp) hm

end NamedType

/-! ### Packages at hand -/

/-- A reader that is a closer, and an interface that embeds itself. -/
def streams : SourcePackage :=
  ofTypes "m/x" []
    [⟨"Closer", [], .interface [.method "Close" ⟨[], []⟩], 3⟩,
     ⟨"Reader", [], .interface [.embed [⟨false, .name "Closer"⟩], .method "Read" ⟨[], []⟩], 7⟩,
     ⟨"Loop", [], .interface [.embed [⟨false, .name "Loop"⟩]], 12⟩]

namespace NamedType

/-- A reader has its own method and that of a closer; a loop has none, nor an end. -/
theorem methods_met_first_streams :
    let packages := byPath [streams]
    let reader : NamedType := ⟨some "m/x", "Reader", []⟩
    let loop : NamedType := ⟨some "m/x", "Loop", []⟩
    (∃ set listing, MetFirst packages reader set listing ∧
      (reader.methodsWithin 4).answer packages = .ok set.sorted) ∧
    ∃ e, FailsAt packages loop e ∧ e.isAnswer = true ∧
      ∀ levels, 1 < levels → (loop.methodsWithin levels).answer packages = .error e := by
  intro packages reader loop
  have hpaths : ∀ path, packages path ≠ none → path ∈ ["m/x"] := by
    intro path h
    obtain ⟨p, hp⟩ := Option.ne_none_iff_exists'.mp h
    obtain ⟨hmem, rfl⟩ := mem_of_byPath hp
    obtain rfl := List.mem_singleton.mp hmem
    exact .head _
  have hplain : PlainNames packages := by
    intro path p hp
    obtain ⟨hmem, rfl⟩ := mem_of_byPath hp
    obtain rfl := List.mem_singleton.mp hmem
    decide
  let types : List GoType :=
    [.named reader, .interface [⟨"Read", default⟩] [.named ⟨some "m/x", "Closer", []⟩],
      .named ⟨some "m/x", "Closer", []⟩, .interface [⟨"Close", default⟩] []]
  have hgoes : goesOn packages types = true := by decide +kernel
  have hnames : ∀ m, .named m ∈ types → m = reader ∨ m = ⟨some "m/x", "Closer", []⟩ := by
    simp [types]
  have hacyclic : Acyclic packages reader :=
    acyclic_of_goesOn hgoes (.head _) (by decide +kernel)
  have hresolves : Resolves packages reader := by
    intro m path _ hm
    rcases hnames m ((acc_of_goesOn hgoes _ (.head _)).2 _ hm) with rfl | rfl
    · exact ⟨_, rfl⟩
    · exact ⟨_, rfl⟩
  refine ⟨?_, ?_⟩
  · obtain ⟨set, listing, hmet, hlevels⟩ :=
      (methods_met_first packages reader).1 ["m/x"] hpaths hplain hacyclic hresolves
    exact ⟨set, listing, hmet, (hlevels 4 (by decide)).2⟩
  · have hstep : LeadsTo packages (.named loop) (.interface [] [.named loop]) := .definition rfl
    have hback : LeadsTo packages (.interface [] [.named loop]) (.named loop) := .embed (.head _)
    obtain ⟨-, hend⟩ := (methods_met_first packages loop).2
      ⟨.named loop, .refl, .tail (.single hstep) hback⟩
    refine hend [loop] fun m hm => ?_
    have hmem : GoType.named m ∈ [.named loop, .interface [] [.named loop]] :=
      hm.mem_of_closed (by decide +kernel) (.head _)
    simpa using hmem

end NamedType

/-- A store with a method of its own in place of one whose parameter has no declared type. -/
def stores : SourcePackage :=
  ofTypes "m/x" []
    [⟨"Store", [], .interface [.method "Get" ⟨[], []⟩, .embed [⟨false, .name "Keyed"⟩]], 3⟩,
     ⟨"Keyed", [], .interface [.method "Get" ⟨[⟨["key"], .name "Missing", false⟩], []⟩], 8⟩]

/-- Two packages, and names of theirs that have one text. -/
def bracketPackages : List SourcePackage :=
  [ofTypes "m/x" [⟨some "k", "m/x.A[m/k"⟩, ⟨some "r", "m/r"⟩]
    [⟨"A", [⟨"T", .name "any"⟩],
      .interface [.embed [⟨false, .generic (.qualified "k" "B") [.qualified "r" "s"]⟩],
        .method "Get" ⟨[], []⟩], 6⟩],
   ofTypes "m/x.A[m/k" []
    [⟨"B", [⟨"T", .name "any"⟩], .interface [.method "Close" ⟨[], []⟩], 3⟩]]

namespace NamedType

/-- A declaration that embeds its type parameter, and one that is its own argument there. -/
def selfArgument : SourcePackage :=
  ofTypes "m/x" []
    [⟨"A", [⟨"T", .name "any"⟩], .interface [.embed [⟨false, .name "T"⟩]], 3⟩,
     ⟨"B", [], .interface [.method "Get" ⟨[], []⟩,
       .embed [⟨false, .generic (.name "A") [.name "B"]⟩]], 7⟩]

/-- **Without a cycle the methods may still be missing.** All names that a store reaches are
declared and none leads back to itself, but a method that is not met first has no type. All that `A`
reaches has a definition, but an import path with a bracket makes another name look like it. And
where no declaration writes a name that leads back to it, a type argument may. -/
theorem methods_fail :
    (let packages := byPath [stores]
      let store : NamedType := ⟨some "m/x", "Store", []⟩
      Acyclic packages store ∧
      (∀ m path, m.package = some path → Reaches packages (.named store) (.named m) →
        ∃ d, m.declaration.answer packages = .ok d) ∧
      store.methods.answer packages =
        .error (.unresolvedType "Missing" (.undeclaredName ⟨"/m/x.go"⟩))) ∧
    (let packages := byPath bracketPackages
      let a : NamedType := ⟨some "m/x", "A", [.named ⟨some "m/k.B[m/r", "s", []⟩]⟩
      Acyclic packages a ∧ Resolves packages a ∧
      a.methods.answer packages =
        .error (.unsupportedType "m/x.A[m/k.B[m/r.s]" .embedsItself)) ∧
    (let packages := byPath [selfArgument]
      let a : NamedType := ⟨some "m/x", "A", []⟩
      let b : NamedType := ⟨some "m/x", "B", []⟩
      a.definition.answer packages = .ok (.interface [] [.parameter "T"]) ∧
      b.definition.answer packages =
        .ok (.interface [⟨"Get", default⟩] [.named ⟨some "m/x", "A", [.named b]⟩]) ∧
      b.methods.answer packages = .error (.unsupportedType "m/x.B" .embedsItself)) := by
  refine ⟨?_, ?_, rfl, rfl, by decide +kernel⟩
  · intro packages store
    -- all that is reached, closed under `goesOn`, so there is no way back to the start
    let types : List GoType :=
      [.named store, .interface [⟨"Get", default⟩] [.named ⟨some "m/x", "Keyed", []⟩],
        .named ⟨some "m/x", "Keyed", []⟩]
    have hgoes : goesOn packages types = true := by decide +kernel
    have hnames : ∀ m, .named m ∈ types → m = store ∨ m = ⟨some "m/x", "Keyed", []⟩ := by
      simp [types]
    refine ⟨acyclic_of_goesOn hgoes (.head _) (by decide +kernel), fun m path _ hm => ?_,
      by decide +kernel⟩
    rcases hnames m ((acc_of_goesOn hgoes _ (.head _)).2 _ hm) with rfl | rfl
    · exact ⟨_, rfl⟩
    · exact ⟨_, rfl⟩
  · intro packages a
    let b : NamedType := ⟨some "m/x.A[m/k", "B", [.named ⟨some "m/r", "s", []⟩]⟩
    let types : List GoType :=
      [.named a, .interface [⟨"Get", default⟩] [.named b], .named b,
        .interface [⟨"Close", default⟩] []]
    have hgoes : goesOn packages types = true := by decide +kernel
    have hnames : ∀ m, .named m ∈ types → m = a ∨ m = b := by
      simp [types]
    refine ⟨acyclic_of_goesOn hgoes (.head _) (by decide +kernel), fun m path _ hm => ?_,
      by decide +kernel⟩
    rcases hnames m ((acc_of_goesOn hgoes _ (.head _)).2 _ hm) with rfl | rfl
    · exact ⟨_, rfl⟩
    · exact ⟨_, rfl⟩

end NamedType

end GoMocks
