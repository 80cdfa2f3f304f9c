import GoMocks.Proofs.GoType.Parts
import GoMocks.Proofs.Resolver.Growth

/-!
# Resolving types — what other packages cannot see

A file writes the types of another package, of which it sees the exported names only. A resolver
refuses a type for the first name in it that it cannot refer to; it does not look at the names that
the type declares itself, those of fields and methods.

* `GoType.references`, `GoType.members`: the names of packages that a type refers to, and those that
  a struct or an interface declares.
* `GoType.rejection?`: the failure for a type that refers to an unexported name.
* `Rejects.bind`: steps put together, where each fails for the first rejection on its way.
* `Resolver.failure_name`: so does the text of a type, whatever was asked before.
* `Resolver.name_exported`: what a text tells about the names in its type.
-/

namespace GoMocks

/-! ### Names that belong to a package -/

/-- The names of packages that a type refers to itself, by its name or its length. -/
def GoType.references : GoType → List String
  | .named ⟨some _, name, _⟩    => [name]
  | .array (.constant _ name) _ => [name]
  | _                           => []

/-- The name of the type that is embedded, perhaps behind a pointer. -/
def GoType.embeddedName? : GoType → Option String
  | .basic kind     => some kind.name
  | .named n        => some n.name
  | .parameter name => some name
  | .pointer elem   => elem.embeddedName?
  | _               => none

/-- The names of the fields of a struct, or of the methods of an interface. -/
def GoType.members : GoType → List String
  | .struct fields       => fields.filterMap fun f => f.name <|> f.type.embeddedName?
  | .interface methods _ => methods.map MethodSpec.name
  | _                    => []

/-- Why a type cannot be written in another package; the types in it are left out. -/
def GoType.rejection? : GoType → Option Error
  | .named ⟨some package, name, arguments⟩ =>
    if isExported name then none
    else some (.unsupportedType (GoType.named ⟨some package, name, arguments⟩).text
      (.unexportedType name))
  | .array (.constant package name) elem =>
    if isExported name then none
    else some (.unsupportedType (GoType.array (.constant package name) elem).text
      (.unexportedLength name))
  | _ => none

/-- The first failure on the way through some types. -/
def firstRejection? (types : List GoType) : Option Error :=
  types.findSome? GoType.rejection?

theorem firstRejection?_append (types rest : List GoType) :
    firstRejection? (types ++ rest) = (firstRejection? types).or (firstRejection? rest) :=
  List.findSome?_append

/-- A type is not rejected for its own names when they are exported. -/
theorem GoType.rejection?_eq_none_iff (t : GoType) :
    t.rejection? = none ↔ ∀ name ∈ t.references, isExported name := by
  cases t with
  | named n =>
    obtain ⟨_ | package, name, arguments⟩ := n <;> simp [rejection?, references]
  | array length elem => cases length <;> simp [rejection?, references]
  | _ => simp [rejection?, references]

/-- A type is rejected for an unexported name that it refers to, and the failure shows both. -/
theorem GoType.rejection?_eq_some {t : GoType} {e : Error} (h : t.rejection? = some e) :
    ∃ name ∈ t.references, isExported name = false ∧
      (e = .unsupportedType t.text (.unexportedType name) ∨
        e = .unsupportedType t.text (.unexportedLength name)) := by
  cases t with
  | named n =>
    obtain ⟨_ | package, name, arguments⟩ := n
    · cases h
    · obtain ⟨hname, rfl⟩ : isExported name = false ∧ _ = e := by simpa [rejection?] using h
      exact ⟨name, by simp [references], hname, .inl rfl⟩
  | array length elem =>
    obtain _ | ⟨package, name⟩ := length
    · cases h
    · obtain ⟨hname, rfl⟩ : isExported name = false ∧ _ = e := by simpa [rejection?] using h
      exact ⟨name, by simp [references], hname, .inr rfl⟩
  | _ => cases h

/-- Types are not rejected when the names they refer to are exported. -/
theorem firstRejection?_eq_none_iff (types : List GoType) :
    firstRejection? types = none ↔ ∀ s ∈ types, ∀ name ∈ s.references, isExported name := by
  simp only [firstRejection?, List.findSome?_eq_none_iff, GoType.rejection?_eq_none_iff]

namespace Resolver

variable {σ α β : Type} {symbols : Symbols σ} {r : Resolver σ} {types rest : List GoType}

/-! ### Computations that reject types -/

/-- Nothing is remembered of a type that would be refused. -/
def Accepting (r : Resolver σ) : Prop :=
  ∀ t text, r.names.lookup t = some text → firstRejection? t.parts = none

/-- The error of an outcome, if it is one. -/
def failure? : Except Error α → Option Error
  | .ok _    => none
  | .error e => some e

/-- From every resolver that remembers nothing it would refuse, the computation leads to another
one, and it fails for the first of the types that has to be refused, if there is one. -/
def Rejects (m : ResolverM σ α) (types : List GoType) : Prop :=
  ∀ r : Resolver σ, Accepting r →
    Accepting (m.run.run r).2 ∧ failure? (m.run.run r).1 = firstRejection? types

theorem Rejects.pure (a : α) : Rejects (pure a : ResolverM σ α) [] := fun _ hr => ⟨hr, rfl⟩

theorem Rejects.bind {m : ResolverM σ α} {f : α → ResolverM σ β} (hm : Rejects m types)
    (hf : ∀ a, Rejects (f a) rest) : Rejects (m >>= f) (types ++ rest) := by
  intro r hr
  obtain ⟨hr₁, hfirst⟩ := hm r hr
  rw [run_bind, firstRejection?_append, ← hfirst]
  cases (m.run.run r).1 with
  | error e => exact ⟨hr₁, rfl⟩
  | ok a =>
    obtain ⟨hr₂, hsecond⟩ := hf a _ hr₁
    exact ⟨hr₂, hsecond⟩

/-- A result may be changed. -/
theorem Rejects.map {m : ResolverM σ α} (hm : Rejects m types) (g : α → β) :
    Rejects (do return g (← m)) types :=
  List.append_nil types ▸ hm.bind fun a => .pure (g a)

/-- A type that is not refused for itself may come before the types in it. -/
theorem Rejects.cons {m : ResolverM σ α} (hm : Rejects m types) {t : GoType}
    (ht : t.rejection? = none) : Rejects m (t :: types) := by
  intro r hr
  rw [firstRejection?, List.findSome?_cons, ht]
  exact hm r hr

theorem rejects_qualified (symbols : Symbols σ) (package name : String) :
    Rejects (qualified symbols package name) [] := fun _ hr => ⟨hr, rfl⟩

theorem rejects_namedBase (symbols : Symbols σ) (n : NamedType) :
    Rejects (namedBase symbols n) [.named n] := by
  obtain ⟨_ | package, name, arguments⟩ := n
  · exact (Rejects.pure name).cons rfl
  · cases h : isExported name with
    | true =>
      simp only [namedBase, h, if_true]
      exact (rejects_qualified symbols package name).cons (by simp [GoType.rejection?, h])
    | false =>
      intro r hr
      simp only [namedBase, h, firstRejection?, List.findSome?_cons, GoType.rejection?, GoType.text]
      exact ⟨hr, rfl⟩

theorem rejects_lengthText (symbols : Symbols σ) (length : ArrayLength) (elem : GoType) :
    Rejects (lengthText symbols length elem) [.array length elem] := by
  obtain text | ⟨package, name⟩ := length
  · exact (Rejects.pure text).cons rfl
  · cases h : isExported name with
    | true =>
      simp only [lengthText, h, if_true]
      exact (rejects_qualified symbols package name).cons (by simp [GoType.rejection?, h])
    | false =>
      intro r hr
      simp only [lengthText, h, firstRejection?, List.findSome?_cons, GoType.rejection?]
      exact ⟨hr, rfl⟩

/-- Remembering a name rejects what writing it does. -/
theorem Rejects.rememberedName {t : GoType} {write : ResolverM σ String}
    (hw : Rejects write t.parts) : Rejects (rememberedName t write) t.parts := by
  intro r hr
  rw [run_rememberedName]
  cases hl : r.names.lookup t with
  | some text => exact ⟨hr, (hr t text hl).symm⟩
  | none =>
    obtain ⟨hr', hfirst⟩ := hw r hr
    rcases hrun : write.run.run r with ⟨e | text, r'⟩ <;> rw [hrun] at hr' hfirst
    · exact ⟨hr', hfirst⟩
    · exact ⟨forall_lookup_cons hfirst.symm hr', hfirst⟩

/-! ### The text of a type -/

mutual

/-- Writing a type rejects what its parts are rejected for. -/
theorem rejects_write (symbols : Symbols σ) : (t : GoType) → Rejects (write symbols t) t.parts
  | .basic kind => by
    cases kind with
    | unsafePointer => exact (rejects_qualified symbols "unsafe" "Pointer").cons rfl
    | _ => exact (Rejects.pure _).cons rfl
  | .named ⟨package, name, arguments⟩ =>
    (rejects_namedBase symbols ⟨package, name, arguments⟩).bind fun _ =>
      (rejects_writeTypes symbols arguments).map _
  | .parameter name => (Rejects.pure name).cons rfl
  | .pointer elem => ((rejects_write symbols elem).rememberedName.map _).cons rfl
  | .slice elem => ((rejects_write symbols elem).rememberedName.map _).cons rfl
  | .array length elem =>
    (rejects_lengthText symbols length elem).bind fun _ =>
      (rejects_write symbols elem).rememberedName.map _
  | .map key value =>
    ((rejects_write symbols key).rememberedName.bind fun _ =>
      (rejects_write symbols value).rememberedName.map _).cons rfl
  | .channel _ elem => ((rejects_write symbols elem).rememberedName.map _).cons rfl
  | .function signature => ((rejects_writeSignature symbols signature).map _).cons rfl
  | .struct fields => ((rejects_writeFields symbols fields).map _).cons rfl
  | .interface methods embeds =>
    ((rejects_writeMethods symbols methods).bind fun _ =>
      (rejects_writeTypes symbols embeds).map _).cons rfl
  | .union terms => ((rejects_writeTerms symbols terms).map _).cons rfl

theorem rejects_writeTypes (symbols : Symbols σ) : (ts : List GoType) →
    Rejects (writeTypes symbols ts) (typeParts ts)
  | [] => .pure []
  | t :: ts =>
    (rejects_write symbols t).rememberedName.bind fun _ => (rejects_writeTypes symbols ts).map _

theorem rejects_writeSignature (symbols : Symbols σ) : (s : Signature) →
    Rejects (writeSignature symbols s) s.parts
  | ⟨params, results, _⟩ =>
    (rejects_writeValues symbols params).bind fun _ => (rejects_writeValues symbols results).map _

theorem rejects_writeValues (symbols : Symbols σ) : (vs : List Value) →
    Rejects (writeValues symbols vs) (valueParts vs)
  | [] => .pure []
  | ⟨_, t⟩ :: rest =>
    (rejects_write symbols t).rememberedName.bind fun _ => (rejects_writeValues symbols rest).map _

theorem rejects_writeFields (symbols : Symbols σ) : (fs : List Field) →
    Rejects (writeFields symbols fs) (fieldParts fs)
  | [] => .pure []
  | ⟨_, t, _⟩ :: rest =>
    (rejects_write symbols t).rememberedName.bind fun _ => (rejects_writeFields symbols rest).map _

theorem rejects_writeMethods (symbols : Symbols σ) : (ms : List MethodSpec) →
    Rejects (writeMethods symbols ms) (methodParts ms)
  | [] => .pure []
  | ⟨_, s⟩ :: rest =>
    (rejects_writeSignature symbols s).bind fun _ => (rejects_writeMethods symbols rest).map _

theorem rejects_writeTerms (symbols : Symbols σ) : (ts : List Term) →
    Rejects (writeTerms symbols ts) (termParts ts)
  | [] => .pure []
  | ⟨_, t⟩ :: rest =>
    (rejects_write symbols t).rememberedName.bind fun _ => (rejects_writeTerms symbols rest).map _

end

/-- Naming a type rejects what its parts are rejected for. -/
theorem rejects_name (symbols : Symbols σ) (t : GoType) : Rejects (name symbols t) t.parts :=
  (rejects_write symbols t).rememberedName

/-! ### Sequences of calls -/

/-- From every resolver that remembers nothing it would refuse, the computation leads to another
one. -/
def StaysAccepting (m : ResolverM σ α) : Prop :=
  ∀ r : Resolver σ, Accepting r → Accepting (m.run.run r).2

/-- An action that rejects as it should remembers nothing that is rejected. -/
theorem Rejects.staysAccepting {m : ResolverM σ α} (hm : Rejects m types) : StaysAccepting m :=
  fun r hr => (hm r hr).1

theorem StaysAccepting.bind {m : ResolverM σ α} {f : α → ResolverM σ β} (hm : StaysAccepting m)
    (hf : ∀ a, StaysAccepting (f a)) : StaysAccepting (m >>= f) := by
  intro r hr
  rw [run_bind]
  cases (m.run.run r).1 with
  | error e => exact hm r hr
  | ok a    => exact hf a _ (hm r hr)

theorem StaysAccepting.throw (e : Error) : StaysAccepting (throw e : ResolverM σ α) :=
  fun _ hr => hr

theorem StaysAccepting.rememberedZero {t : GoType} {write : ResolverM σ String}
    (hw : StaysAccepting write) : StaysAccepting (rememberedZero t write) := by
  intro r hr
  rw [run_rememberedZero]
  cases r.zeros.lookup t with
  | some text => exact hr
  | none =>
    have hr' := hw r hr
    rcases hrun : write.run.run r with ⟨e | text, r'⟩ <;> rw [hrun] at hr' <;> exact hr'

theorem staysAccepting_underlying (symbols : Symbols σ) (n : NamedType) :
    StaysAccepting (underlying symbols n) := by
  intro r hr
  rw [run_underlying]
  exact hr

theorem staysAccepting_literal (symbols : Symbols σ) (t : GoType) :
    StaysAccepting (do return (← name symbols t) ++ "\x7b\x7d" : ResolverM σ String) :=
  ((rejects_name symbols t).map _).staysAccepting

theorem staysAccepting_writePlainZero (symbols : Symbols σ) (t : GoType) :
    StaysAccepting (writePlainZero symbols t) := by
  cases t with
  | array | struct => exact staysAccepting_literal symbols _
  | union | named  => exact .throw _
  | _              => exact (Rejects.pure _).staysAccepting

theorem staysAccepting_writeZero (symbols : Symbols σ) (t : GoType) :
    StaysAccepting (writeZero symbols t) := by
  cases t with
  | named n =>
    obtain ⟨_ | package, base, arguments⟩ := n
    · rw [writeZero]
      split
      · exact (Rejects.pure _).staysAccepting
      · exact .throw _
    · refine (staysAccepting_underlying symbols _).bind fun u => ?_
      cases u with
      | array | struct => exact staysAccepting_literal symbols _
      | union | named  => exact .throw _
      | _              => exact (staysAccepting_writePlainZero symbols _).rememberedZero
  | _ => exact staysAccepting_writePlainZero symbols _

theorem staysAccepting_perform (symbols : Symbols σ) (c : ResolverCall) :
    StaysAccepting (c.perform symbols) := by
  cases c with
  | name t             => exact (rejects_name symbols t).staysAccepting
  | zero t             => exact (staysAccepting_writeZero symbols t).rememberedZero
  | importPackage path => exact fun _ hr => hr

/-- No sequence of calls remembers what is rejected. -/
theorem Accepting.after (hr : Accepting r) (calls : List ResolverCall) :
    Accepting (r.after symbols calls) := by
  induction calls generalizing r with
  | nil => exact hr
  | cons c calls ih => exact ih (staysAccepting_perform symbols c r hr)

/-- **A type is refused for the first name in it that cannot be referred to, and for nothing else**,
whatever the resolver was asked before. -/
theorem failure_name (symbols : Symbols σ) (module : String) (state : σ)
    (calls : List ResolverCall) (t : GoType) :
    failure? (outcome symbols ((ofModule module state).after symbols calls) (.name t)) =
      firstRejection? t.parts :=
  (rejects_name symbols t _ (Accepting.after (by simp [Accepting, ofModule]) calls)).2

/-! ### What a text tells -/

/-- **A text refers to exported names only.** Whatever a resolver was asked before, it writes a type
exactly if all names that the type refers to, at any depth, are exported; else it refuses the type
for one of them. Where the fields and methods that are declared in the type are exported too, a text
is there exactly if all names in the type that belong to a package are. -/
theorem name_exported {σ : Type} (symbols : Symbols σ) (module : String) (state : σ)
    (calls : List ResolverCall) (t : GoType) :
    let answer := outcome symbols ((ofModule module state).after symbols calls) (.name t)
    ((∃ text, answer = .ok text) ↔ ∀ s ∈ t.parts, ∀ name ∈ s.references, isExported name) ∧
      (∀ e, answer = .error e → ∃ s ∈ t.parts, ∃ name ∈ s.references, isExported name = false ∧
        (e = .unsupportedType s.text (.unexportedType name) ∨
          e = .unsupportedType s.text (.unexportedLength name))) ∧
      ((∀ s ∈ t.parts, ∀ name ∈ s.members, isExported name) →
        ((∃ text, answer = .ok text) ↔
          ∀ s ∈ t.parts, ∀ name ∈ s.references ++ s.members, isExported name)) := by
  intro answer
  have hfirst : failure? answer = firstRejection? t.parts :=
    failure_name symbols module state calls t
  have hok : (∃ text, answer = .ok text) ↔
      ∀ s ∈ t.parts, ∀ name ∈ s.references, isExported name := by
    rw [← firstRejection?_eq_none_iff, ← hfirst]
    cases answer <;> simp [failure?]
  refine ⟨hok, fun e he => ?_, fun hmembers => hok.trans ?_⟩
  · rw [he] at hfirst
    obtain ⟨s, hs, hrejection⟩ := List.exists_of_findSome?_eq_some hfirst.symm
    obtain ⟨name, hname, hunexported⟩ := GoType.rejection?_eq_some hrejection
    exact ⟨s, hs, name, hname, hunexported⟩
  · constructor
    · intro href s hs name hname
      exact (List.mem_append.mp hname).elim (href s hs name) (hmembers s hs name)
    · exact fun h s hs name hname => h s hs name (List.mem_append_left _ hname)

/-- A map to pointers to an unexported type behind a function is refused; the same with an exported
type, and a struct with exported fields, has a text. -/
theorem name_exported_functions :
    let symbols : Symbols Unit := ⟨fun _ s => ("svc", s), fun _ s => (.ok (.struct []), s)⟩
    let first := ofModule "example.com/app" ()
    let table (name : String) : GoType := .function ⟨[⟨"", .map (.basic .string)
      (.pointer (.named ⟨some "example.com/app/svc", name, []⟩))⟩], [⟨"", .struct
        [⟨some "Name", .basic .string, none⟩]⟩], false⟩
    (∃ text, outcome symbols (first.after symbols [.name (table "options")])
      (.name (table "Options")) = .ok text) ∧
      ∃ e, outcome symbols (first.after symbols [.name (table "Options")])
        (.name (table "options")) = .error e := by
  intro symbols first table
  obtain ⟨-, -, hexported⟩ :=
    name_exported symbols "example.com/app" () [.name (table "options")] (table "Options")
  obtain ⟨hunexported, -, -⟩ :=
    name_exported symbols "example.com/app" () [.name (table "Options")] (table "options")
  refine ⟨(hexported (by decide +kernel)).mpr (by decide +kernel), ?_⟩
  cases h : outcome symbols (first.after symbols [.name (table "Options")])
      (.name (table "options")) with
  | error e => exact ⟨e, rfl⟩
  | ok text => exact absurd (hunexported.mp ⟨text, h⟩) (by decide +kernel)

/-- Fields and methods that other packages cannot see have a text all the same, as has an embedded
predeclared type. -/
theorem name_shows_unexported_members :
    let symbols : Symbols Unit := ⟨fun _ s => ("svc", s), fun _ s => (.ok (.struct []), s)⟩
    let first := ofModule "example.com/app" ()
    let field : GoType := .struct [⟨some "x", .basic .int, none⟩]
    let embedded : GoType := .struct [⟨none, .basic .int, none⟩]
    let method : GoType := .interface [⟨"m", ⟨[], [], false⟩⟩] []
    (∀ t ∈ [field, embedded, method],
      ∃ s ∈ t.parts, ∃ name ∈ s.members, isExported name = false) ∧
      outcome symbols first (.name field) = .ok "struct\x7b x int \x7d" ∧
      outcome symbols first (.name embedded) = .ok "struct\x7b int \x7d" ∧
      outcome symbols first (.name method) = .ok "interface\x7b m() \x7d" := by
  decide +kernel

end Resolver

end GoMocks
