import GoMocks.Proofs.ImportTable.Runs
import GoMocks.Proofs.Resolver.Rendering

/-!
# Resolving types — remembered texts stay right

A resolver gives a remembered text again while its import table keeps growing. What is remembered
is right under every table that comes later (`Resolver.Consistent`), because entries stay and a path
keeps its entry.

* `Renders`: a computation of the resolver has the outcome of a rendering with the identifiers of
  the table it ends with, and enters just the packages that the rendering refers to.
* `Renders.bind`: steps put together.
* `renders_name`: the resolver's text of a type is its rendering, remembered or not.
-/

namespace GoMocks

open ImportTable (addAll_extends)

/-- The identifiers are those of the entries of a table. -/
def ImportTable.Agrees (table : ImportTable) (ident : String → String) : Prop :=
  ∀ i ∈ table.entries, ident i.path = i.ident

/-- What agrees with a later table agrees with an earlier one. -/
theorem ImportTable.Agrees.of_extends {table table' : ImportTable} {ident : String → String}
    (hp : table.entries <+: table'.entries) (h : table'.Agrees ident) : table.Agrees ident :=
  fun i hi => h i (hp.subset hi)

/-- The identifier the file knows a package by; nothing for a package it does not import. -/
def ImportTable.identOf (table : ImportTable) (path : String) : String :=
  ((table.all.find? (·.path == path)).map Import.ident).getD ""

/-- A sound table agrees with its own identifiers. -/
theorem ImportTable.Sound.agrees_identOf {table : ImportTable} {nameOf : String → String}
    (h : table.Sound nameOf) : table.Agrees table.identOf := by
  intro i hi
  cases hf : table.all.find? (·.path == i.path) with
  | none => simpa using List.find?_eq_none.mp hf i (mem_all.mpr hi)
  | some j =>
    have hj : j.path = i.path := by simpa using List.find?_some hf
    have hij : j = i := h.eq_of_path (mem_all.mp (List.mem_of_find?_eq_some hf)) hi hj
    rw [identOf, hf, hij]
    rfl

/-- The import of a path under the declared name of its package. -/
def entering (nameOf : String → String) (path : String) : Import :=
  ⟨path, nameOf path, none⟩

/-- The table after packages were entered under their declared names. -/
def ImportTable.enter (table : ImportTable) (nameOf : String → String) (paths : List String) :
    ImportTable :=
  table.addAll (paths.map (entering nameOf))

namespace ImportTable

variable {table : ImportTable} {nameOf : String → String}

theorem localName_entering {paths : List String} :
    ∀ c ∈ paths.map (entering nameOf), c.localName = none := by
  simp [entering]

theorem enter_append (table : ImportTable) (paths rest : List String) :
    table.enter nameOf (paths ++ rest) = (table.enter nameOf paths).enter nameOf rest := by
  simp [enter]

theorem enter_extends (paths : List String) :
    table.entries <+: (table.enter nameOf paths).entries :=
  addAll_extends localName_entering

theorem Sound.enter (h : table.Sound nameOf) (paths : List String) :
    (table.enter nameOf paths).Sound nameOf :=
  h.addAll (by simp [entering])

/-- The paths of the table are those it had and those entered. -/
theorem mem_paths_enter {paths : List String} {p : String} :
    p ∈ (table.enter nameOf paths).entries.map Import.path ↔
      p ∈ table.entries.map Import.path ∨ p ∈ paths := by
  rw [ImportTable.enter, mem_paths_addAll localName_entering]
  simp [entering]

/-- Packages that have an entry change nothing when they are entered again. -/
theorem Sound.enter_of_subset (h : table.Sound nameOf) {paths : List String}
    (hs : paths ⊆ table.entries.map Import.path) : table.enter nameOf paths = table := by
  induction paths with
  | nil => rfl
  | cons p paths ih =>
    obtain ⟨i, hi, rfl⟩ := List.mem_map.mp (hs List.mem_cons_self)
    have hadd : table.add (entering nameOf i.path) = (i, table) :=
      h.add_of_mem hi rfl (h.named i hi).symm
    have hrest := ih fun q hq => hs (List.mem_cons_of_mem _ hq)
    simpa [ImportTable.enter, hadd] using hrest

end ImportTable

/-- The declared name of a package is a function of its path. -/
def Symbols.NamesBy {σ : Type} (symbols : Symbols σ) (nameOf : String → String) : Prop :=
  ∀ path s, (symbols.packageName path s).1 = nameOf path

namespace Resolver

variable {σ : Type} {symbols : Symbols σ} {nameOf : String → String}

/-! ### What is remembered -/

/-- A text is remembered rightly: it is the outcome of its rendering with the identifiers of the
table, and the packages it refers to have entries. -/
def Remembered (table : ImportTable) (rendering : (String → String) → Rendering String)
    (text : String) : Prop :=
  ∀ ident, table.Agrees ident → (rendering ident).outcome = .ok text ∧
    (rendering ident).packages ⊆ table.entries.map Import.path

/-- What is remembered stays true as the table grows. -/
theorem Remembered.extend {table table' : ImportTable}
    {rendering : (String → String) → Rendering String} {text : String}
    (hp : table.entries <+: table'.entries) (h : Remembered table rendering text) :
    Remembered table' rendering text := fun ident ha => by
  obtain ⟨hout, hs⟩ := h ident (ha.of_extends hp)
  exact ⟨hout, fun p hp' => (hp.map Import.path).subset (hs hp')⟩

/-- A text that was just rendered is remembered rightly, because its packages were entered. -/
theorem Remembered.of_enter {table table' : ImportTable}
    {rendering : (String → String) → Rendering String} {text : String}
    (h : ∀ ident, table'.Agrees ident → .ok text = (rendering ident).outcome ∧
      table' = table.enter nameOf (rendering ident).packages) :
    Remembered table' rendering text := fun ident ha => by
  obtain ⟨hout, htable⟩ := h ident ha
  refine ⟨hout.symm, fun p hp => ?_⟩
  rw [htable, ImportTable.mem_paths_enter]
  exact .inr hp

/-- What holds of the text of a new entry and of all texts before it holds of every text. -/
theorem forall_lookup_cons {texts : List (GoType × String)} {t : GoType} {text : String}
    {p : GoType → String → Prop} (h : p t text)
    (hp : ∀ s text', texts.lookup s = some text' → p s text') :
    ∀ s text', ((t, text) :: texts).lookup s = some text' → p s text' := by
  intro s text' hs
  rw [List.lookup_cons] at hs
  split at hs
  · next heq =>
    cases hs
    rw [eq_of_beq heq]
    exact h
  · exact hp s text' hs

/-- Texts that are kept for all types are still kept behind the text of a type that had none. -/
theorem lookup_cons_of_lookup {texts texts' : List (GoType × String)} {t : GoType} {text : String}
    (ht : texts.lookup t = none)
    (hk : ∀ s text', texts.lookup s = some text' → texts'.lookup s = some text') :
    ∀ s text', texts.lookup s = some text' → ((t, text) :: texts').lookup s = some text' := by
  intro s text' hs
  have hne : (s == t) = false := by
    by_contra hst
    rw [Bool.not_eq_false, beq_iff_eq] at hst
    rw [hst, ht] at hs
    cases hs
  simpa [List.lookup_cons, hne] using hk s text' hs

/-- A resolver whose table is sound and whose remembered names are right. -/
structure Consistent (nameOf : String → String) (r : Resolver σ) : Prop where
  sound : r.imports.Sound nameOf
  names : ∀ t text, r.names.lookup t = some text →
    Remembered r.imports (fun ident => t.rendering ident) text

/-! ### Computations that render -/

/-- From every consistent resolver, the computation has the outcome of a rendering with the
identifiers of the table it ends with, and enters the packages of that rendering. -/
def Renders (nameOf : String → String) {α : Type} (m : ResolverM σ α)
    (w : (String → String) → Rendering α) : Prop :=
  ∀ r : Resolver σ, Consistent nameOf r →
    Consistent nameOf (m.run.run r).2 ∧ (m.run.run r).2.zeros = r.zeros ∧
      ∀ ident, (m.run.run r).2.imports.Agrees ident →
        (m.run.run r).1 = (w ident).outcome ∧
          (m.run.run r).2.imports = r.imports.enter nameOf (w ident).packages

variable {α β : Type}

theorem Renders.pure (a : α) : Renders nameOf (pure a : ResolverM σ α) fun _ => pure a :=
  fun _ hr => ⟨hr, rfl, fun _ _ => ⟨rfl, rfl⟩⟩

theorem Renders.throw (e : Error) :
    Renders nameOf (throw e : ResolverM σ α) fun _ => .fail e :=
  fun _ hr => ⟨hr, rfl, fun _ _ => ⟨rfl, rfl⟩⟩

theorem run_bind (m : ResolverM σ α) (f : α → ResolverM σ β) (r : Resolver σ) :
    (m >>= f).run.run r =
      match (m.run.run r).1 with
      | .ok a    => (f a).run.run (m.run.run r).2
      | .error e => (.error e, (m.run.run r).2) := by
  rw [ExceptT.run_bind, StateT.run_bind]
  rcases m.run.run r with ⟨e | a, r'⟩ <;> rfl

theorem Renders.bind {m : ResolverM σ α} {w : (String → String) → Rendering α}
    {f : α → ResolverM σ β} {v : α → (String → String) → Rendering β}
    (hm : Renders nameOf m w) (hf : ∀ a, Renders nameOf (f a) (v a)) :
    Renders nameOf (m >>= f) fun ident => w ident >>= fun a => v a ident := by
  intro r hr
  obtain ⟨hc, hz, hw⟩ := hm r hr
  rw [run_bind]
  cases hres : (m.run.run r).1 with
  | error e =>
    refine ⟨hc, hz, fun ident ha => ?_⟩
    obtain ⟨hout, himports⟩ := hw ident ha
    dsimp only
    rw [Rendering.bind_error _ (hout.symm.trans hres)]
    exact ⟨rfl, himports⟩
  | ok a =>
    obtain ⟨hc', hz', hv⟩ := hf a _ hc
    refine ⟨hc', hz'.trans hz, fun ident ha => ?_⟩
    obtain ⟨hout', himports'⟩ := hv ident ha
    -- the identifiers of the last table are those of the table in between
    have ha' := ha.of_extends (himports' ▸ ImportTable.enter_extends _)
    obtain ⟨hout, himports⟩ := hw ident ha'
    dsimp only
    rw [Rendering.bind_ok _ (hout.symm.trans hres)]
    exact ⟨hout', by rw [himports', himports, ImportTable.enter_append]⟩

/-! ### Packages -/

/-- An import adds the package to the table, under the name it has. -/
theorem run_importPackage (symbols : Symbols σ) (path : String) (r : Resolver σ) :
    (importPackage symbols path).run.run r =
      (.ok (r.imports.add ⟨path, (symbols.packageName path r.state).1, none⟩).1,
        { r with
          imports := (r.imports.add ⟨path, (symbols.packageName path r.state).1, none⟩).2
          state   := (symbols.packageName path r.state).2 }) := rfl

/-- Consistency does not depend on the state of the knowledge and survives new imports. -/
theorem Consistent.enter {r : Resolver σ} (hr : Consistent nameOf r) (paths : List String)
    (state : σ) :
    Consistent nameOf { r with imports := r.imports.enter nameOf paths, state } where
  sound := hr.sound.enter paths
  names t text h := (hr.names t text h).extend (ImportTable.enter_extends paths)

theorem renders_ident (hname : symbols.NamesBy nameOf) (path : String) (f : String → α) :
    Renders nameOf (do return f (← importPackage symbols path).ident) fun ident =>
      ⟨.ok (f (ident path)), [path]⟩ := by
  intro r hr
  rw [run_bind, run_importPackage, hname path]
  refine ⟨hr.enter [path] _, rfl, fun ident ha => ⟨?_, rfl⟩⟩
  obtain ⟨hm, hp⟩ := ImportTable.add_fst_mem r.imports (c := entering nameOf path) rfl
  have hi := ha _ hm
  rw [hp] at hi
  exact congrArg (fun s => Except.ok (f s)) hi.symm

theorem renders_qualified (hname : symbols.NamesBy nameOf) (package name : String) :
    Renders nameOf (qualified symbols package name) fun ident =>
      .qualified ident package name :=
  renders_ident hname package (· ++ "." ++ name)

theorem renders_lengthText (hname : symbols.NamesBy nameOf) (length : ArrayLength)
    (elem : GoType) :
    Renders nameOf (lengthText symbols length elem) fun ident => length.rendering ident elem := by
  cases length with
  | literal text => exact .pure text
  | constant package name =>
    simp only [lengthText, ArrayLength.rendering]
    split
    · exact renders_qualified hname package name
    · exact .throw _

theorem renders_namedBase (hname : symbols.NamesBy nameOf) (n : NamedType) :
    Renders nameOf (namedBase symbols n) fun ident => n.baseRendering ident := by
  obtain ⟨package, name, arguments⟩ := n
  cases package with
  | none => exact .pure name
  | some package =>
    simp only [namedBase, NamedType.baseRendering]
    split
    · exact renders_qualified hname package name
    · exact .throw _

/-! ### Remembered names -/

/-- A remembered name is given again, another is written and remembered. -/
theorem run_rememberedName (t : GoType) (write : ResolverM σ String) (r : Resolver σ) :
    (rememberedName t write).run.run r =
      match r.names.lookup t with
      | some text => (.ok text, r)
      | none =>
        match write.run.run r with
        | (.ok text, r')  => (.ok text, { r' with names := (t, text) :: r'.names })
        | (.error e, r') => (.error e, r') := by
  have hget : (rememberedName t write).run.run r =
      (match r.names.lookup t with
      | some text => Pure.pure text
      | none => do
        let text ← write
        modify fun r => { r with names := (t, text) :: r.names }
        return text : ResolverM σ String).run.run r := by
    rw [rememberedName, run_bind]
    rfl
  rw [hget]
  cases r.names.lookup t with
  | some text => rfl
  | none =>
    simp only
    rw [run_bind]
    rcases write.run.run r with ⟨e | text, r'⟩ <;> rfl

/-- A name that is entered after it was rendered is remembered rightly. -/
theorem Consistent.remember {r : Resolver σ} {t : GoType} {text : String}
    (hr : Consistent nameOf r) (h : Remembered r.imports (fun ident => t.rendering ident) text) :
    Consistent nameOf { r with names := (t, text) :: r.names } where
  sound := hr.sound
  names := forall_lookup_cons h hr.names

/-- A name renders alike when it is remembered. -/
theorem Renders.remembered {t : GoType} {write : ResolverM σ String}
    (hw : Renders nameOf write fun ident => t.rendering ident) :
    Renders nameOf (rememberedName t write) fun ident => t.rendering ident := by
  intro r hr
  rw [run_rememberedName]
  cases hl : r.names.lookup t with
  | some text =>
    -- nothing is entered this time, and entering the packages again would change nothing
    refine ⟨hr, rfl, fun ident ha => ?_⟩
    obtain ⟨hout, hs⟩ := hr.names t text hl ident ha
    exact ⟨hout.symm, (hr.sound.enter_of_subset hs).symm⟩
  | none =>
    obtain ⟨hc, hz, h⟩ := hw r hr
    rcases hrun : write.run.run r with ⟨e | text, r'⟩ <;> rw [hrun] at hc hz h
    · exact ⟨hc, hz, h⟩
    · exact ⟨hc.remember (.of_enter h), hz, h⟩

/-! ### The text of a type -/

mutual

/-- Writing a type renders it. -/
theorem renders_write (hname : symbols.NamesBy nameOf) : (t : GoType) →
    Renders nameOf (write symbols t) fun ident => t.rendering ident
  | .basic kind => by
    cases kind with
    | unsafePointer => exact renders_qualified hname "unsafe" "Pointer"
    | _ => exact .pure _
  | .named n => renders_writeNamed hname n
  | .parameter name => .pure name
  | .pointer elem => (renders_write hname elem).remembered.bind fun _ => .pure _
  | .slice elem => (renders_write hname elem).remembered.bind fun _ => .pure _
  | .array length elem =>
    (renders_lengthText hname length elem).bind fun _ =>
      (renders_write hname elem).remembered.bind fun _ => .pure _
  | .map key value =>
    (renders_write hname key).remembered.bind fun _ =>
      (renders_write hname value).remembered.bind fun _ => .pure _
  | .channel _ elem => (renders_write hname elem).remembered.bind fun _ => .pure _
  | .function signature => (renders_writeSignature hname signature).bind fun _ => .pure _
  | .struct fields => (renders_writeFields hname fields).bind fun _ => .pure _
  | .interface methods embeds =>
    (renders_writeMethods hname methods).bind fun _ =>
      (renders_writeTypes hname embeds).bind fun _ => .pure _
  | .union terms => (renders_writeTerms hname terms).bind fun _ => .pure _

theorem renders_writeTypes (hname : symbols.NamesBy nameOf) : (ts : List GoType) →
    Renders nameOf (writeTypes symbols ts) fun ident => typeRenderings ident ts
  | [] => .pure []
  | t :: ts =>
    (renders_write hname t).remembered.bind fun _ =>
      (renders_writeTypes hname ts).bind fun _ => .pure _

theorem renders_writeNamed (hname : symbols.NamesBy nameOf) : (n : NamedType) →
    Renders nameOf (writeNamed symbols n) fun ident => n.rendering ident
  | ⟨package, name, arguments⟩ =>
    (renders_namedBase hname ⟨package, name, arguments⟩).bind fun _ =>
      (renders_writeTypes hname arguments).bind fun _ => .pure _

theorem renders_writeSignature (hname : symbols.NamesBy nameOf) : (s : Signature) →
    Renders nameOf (writeSignature symbols s) fun ident => s.rendering ident
  | ⟨params, results, _⟩ =>
    (renders_writeValues hname params).bind fun _ =>
      (renders_writeValues hname results).bind fun _ => .pure _

theorem renders_writeValues (hname : symbols.NamesBy nameOf) : (vs : List Value) →
    Renders nameOf (writeValues symbols vs) fun ident => valueRenderings ident vs
  | [] => .pure []
  | ⟨_, t⟩ :: rest =>
    (renders_write hname t).remembered.bind fun _ =>
      (renders_writeValues hname rest).bind fun _ => .pure _

theorem renders_writeFields (hname : symbols.NamesBy nameOf) : (fs : List Field) →
    Renders nameOf (writeFields symbols fs) fun ident => fieldRenderings ident fs
  | [] => .pure []
  | ⟨_, t, _⟩ :: rest =>
    (renders_write hname t).remembered.bind fun _ =>
      (renders_writeFields hname rest).bind fun _ => .pure _

theorem renders_writeMethods (hname : symbols.NamesBy nameOf) : (ms : List MethodSpec) →
    Renders nameOf (writeMethods symbols ms) fun ident => methodRenderings ident ms
  | [] => .pure []
  | ⟨_, s⟩ :: rest =>
    (renders_writeSignature hname s).bind fun _ =>
      (renders_writeMethods hname rest).bind fun _ => .pure _

theorem renders_writeTerms (hname : symbols.NamesBy nameOf) : (ts : List Term) →
    Renders nameOf (writeTerms symbols ts) fun ident => termRenderings ident ts
  | [] => .pure []
  | ⟨_, t⟩ :: rest =>
    (renders_write hname t).remembered.bind fun _ =>
      (renders_writeTerms hname rest).bind fun _ => .pure _

end

/-- Naming a type renders it, whatever is remembered. -/
theorem renders_name (hname : symbols.NamesBy nameOf) (t : GoType) :
    Renders nameOf (name symbols t) fun ident => t.rendering ident :=
  (renders_write hname t).remembered

end Resolver

end GoMocks
