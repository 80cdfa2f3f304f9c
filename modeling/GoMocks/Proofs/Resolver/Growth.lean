import GoMocks.Proofs.Resolver.Runs

/-!
# Resolving types — what calls keep

What holds of a resolver whatever the provider answers, and however its answers change: imports are
only added, and texts that were written stay.

* `Resolver.Grown`: a later resolver, seen from an earlier one. `grows_perform` is the step lemma
  of calls, `Grown.after` the run lemma. Writing a name leaves the zero values alone
  (`Resolver.GrownNames`).
* `Resolver.Yields`, `Resolver.Fails`: a computation that succeeds or fails and changes nothing at
  all, such as a call for a text that is there (`yields_perform`).
* `Resolver.Succeeds`: calls that all succeed, one after the other. Their texts are there
  afterwards (`Succeeds.textOf?`), and to make them one after the other succeeds
  (`run_performAll_eq_ok`).
-/

namespace GoMocks.Resolver

variable {σ α β : Type} {symbols : Symbols σ} {r r' r'' : Resolver σ}

/-! ### Growth -/

/-- Imports came in under the declared names of their packages, and no text was forgotten. -/
structure Grown (r r' : Resolver σ) : Prop where
  imports : ∃ added : List Import, (∀ i ∈ added, i.localName = none) ∧
    r'.imports = r.imports.addAll added
  names   : ∀ t text, r.names.lookup t = some text → r'.names.lookup t = some text
  zeros   : ∀ t text, r.zeros.lookup t = some text → r'.zeros.lookup t = some text

theorem Grown.refl (r : Resolver σ) : Grown r r :=
  ⟨⟨[], nofun, rfl⟩, fun _ _ h => h, fun _ _ h => h⟩

theorem Grown.trans (h : Grown r r') (h' : Grown r' r'') : Grown r r'' := by
  obtain ⟨⟨is, his, e⟩, hn, hz⟩ := h
  obtain ⟨⟨js, hjs, e'⟩, hn', hz'⟩ := h'
  refine ⟨⟨is ++ js, ?_, ?_⟩, fun t s hs => hn' t s (hn t s hs), fun t s hs => hz' t s (hz t s hs)⟩
  · intro i hi
    exact (List.mem_append.mp hi).elim (his i) (hjs i)
  · rw [e', e, ImportTable.addAll_append]

/-- No import is lost. -/
theorem Grown.entries_subset (h : Grown r r') : r.imports.entries ⊆ r'.imports.entries := by
  obtain ⟨added, hplain, himports⟩ := h.imports
  rw [himports]
  exact (ImportTable.addAll_extends hplain).subset

/-- From every resolver, the computation leads to one that has grown. -/
def Grows (m : ResolverM σ α) : Prop :=
  ∀ r : Resolver σ, Grown r (m.run.run r).2

theorem Grows.pure (a : α) : Grows (pure a : ResolverM σ α) := fun r => .refl r

theorem Grows.throw (e : Error) : Grows (throw e : ResolverM σ α) := fun r => .refl r

theorem Grows.bind {m : ResolverM σ α} {f : α → ResolverM σ β} (hm : Grows m)
    (hf : ∀ a, Grows (f a)) : Grows (m >>= f) := by
  intro r
  rw [run_bind]
  cases (m.run.run r).1 with
  | error e => exact hm r
  | ok a    => exact (hm r).trans (hf a _)

/-- Imports and names came in, and no zero value did. -/
structure GrownNames (r r' : Resolver σ) : Prop extends Grown r r' where
  same : r'.zeros = r.zeros

/-- From every resolver, the computation leads to one that has grown in imports and names. -/
def GrowsNames (m : ResolverM σ α) : Prop :=
  ∀ r : Resolver σ, GrownNames r (m.run.run r).2

/-- An action that adds names only grows. -/
theorem GrowsNames.grows {m : ResolverM σ α} (hm : GrowsNames m) : Grows m :=
  fun r => (hm r).toGrown

theorem GrowsNames.pure (a : α) : GrowsNames (pure a : ResolverM σ α) := fun r => ⟨.refl r, rfl⟩

theorem GrowsNames.throw (e : Error) : GrowsNames (throw e : ResolverM σ α) :=
  fun r => ⟨.refl r, rfl⟩

theorem GrowsNames.bind {m : ResolverM σ α} {f : α → ResolverM σ β} (hm : GrowsNames m)
    (hf : ∀ a, GrowsNames (f a)) : GrowsNames (m >>= f) := by
  intro r
  refine ⟨hm.grows.bind (fun a => (hf a).grows) r, ?_⟩
  rw [run_bind]
  cases (m.run.run r).1 with
  | error e => exact (hm r).same
  | ok a    => exact (hf a _).same.trans (hm r).same

theorem growsNames_importPackage (symbols : Symbols σ) (path : String) :
    GrowsNames (importPackage symbols path) := fun r =>
  ⟨⟨⟨[⟨path, (symbols.packageName path r.state).1, none⟩], by simp, rfl⟩,
    fun _ _ h => h, fun _ _ h => h⟩, rfl⟩

theorem growsNames_underlying (symbols : Symbols σ) (n : NamedType) :
    GrowsNames (underlying symbols n) := by
  intro r
  rw [run_underlying]
  exact ⟨⟨⟨[], nofun, rfl⟩, fun _ _ h => h, fun _ _ h => h⟩, rfl⟩

theorem Grows.rememberedName {t : GoType} {write : ResolverM σ String} (hw : Grows write) :
    Grows (rememberedName t write) := by
  intro r
  rw [run_rememberedName]
  cases hl : r.names.lookup t with
  | some text => exact .refl r
  | none =>
    have hg := hw r
    rcases hrun : write.run.run r with ⟨e | text, r'⟩ <;> rw [hrun] at hg
    · exact hg
    · exact ⟨hg.imports, lookup_cons_of_lookup hl hg.names, hg.zeros⟩

theorem GrowsNames.rememberedName {t : GoType} {write : ResolverM σ String}
    (hw : GrowsNames write) : GrowsNames (rememberedName t write) := by
  intro r
  refine ⟨hw.grows.rememberedName r, ?_⟩
  rw [run_rememberedName]
  have hsame := (hw r).same
  cases r.names.lookup t with
  | some text => rfl
  | none => rcases hrun : write.run.run r with ⟨e | text, r'⟩ <;> rw [hrun] at hsame <;> exact hsame

theorem Grows.rememberedZero {t : GoType} {write : ResolverM σ String} (hw : Grows write) :
    Grows (rememberedZero t write) := by
  intro r
  rw [run_rememberedZero]
  cases hl : r.zeros.lookup t with
  | some text => exact .refl r
  | none =>
    have hg := hw r
    rcases hrun : write.run.run r with ⟨e | text, r'⟩ <;> rw [hrun] at hg
    · exact hg
    · exact ⟨hg.imports, hg.names, lookup_cons_of_lookup hl hg.zeros⟩

theorem growsNames_qualified (symbols : Symbols σ) (package name : String) :
    GrowsNames (qualified symbols package name) :=
  (growsNames_importPackage symbols package).bind fun _ => .pure _

theorem growsNames_lengthText (symbols : Symbols σ) (length : ArrayLength) (elem : GoType) :
    GrowsNames (lengthText symbols length elem) := by
  cases length with
  | literal text => exact .pure text
  | constant package name =>
    rw [lengthText]
    split
    · exact growsNames_qualified symbols package name
    · exact .throw _

theorem growsNames_namedBase (symbols : Symbols σ) (n : NamedType) :
    GrowsNames (namedBase symbols n) := by
  obtain ⟨package, name, arguments⟩ := n
  cases package with
  | none => exact .pure name
  | some package =>
    simp only [namedBase]
    split
    · exact growsNames_qualified symbols package name
    · exact .throw _

mutual

/-- Writing a type adds names only. -/
theorem growsNames_write (symbols : Symbols σ) : (t : GoType) → GrowsNames (write symbols t)
  | .basic kind => by
    cases kind with
    | unsafePointer => exact growsNames_qualified symbols "unsafe" "Pointer"
    | _ => exact .pure _
  | .named n => growsNames_writeNamed symbols n
  | .parameter name => .pure name
  | .pointer elem => (growsNames_write symbols elem).rememberedName.bind fun _ => .pure _
  | .slice elem => (growsNames_write symbols elem).rememberedName.bind fun _ => .pure _
  | .array length elem =>
    (growsNames_lengthText symbols length elem).bind fun _ =>
      (growsNames_write symbols elem).rememberedName.bind fun _ => .pure _
  | .map key value =>
    (growsNames_write symbols key).rememberedName.bind fun _ =>
      (growsNames_write symbols value).rememberedName.bind fun _ => .pure _
  | .channel _ elem => (growsNames_write symbols elem).rememberedName.bind fun _ => .pure _
  | .function signature => (growsNames_writeSignature symbols signature).bind fun _ => .pure _
  | .struct fields => (growsNames_writeFields symbols fields).bind fun _ => .pure _
  | .interface methods embeds =>
    (growsNames_writeMethods symbols methods).bind fun _ =>
      (growsNames_writeTypes symbols embeds).bind fun _ => .pure _
  | .union terms => (growsNames_writeTerms symbols terms).bind fun _ => .pure _

theorem growsNames_writeTypes (symbols : Symbols σ) : (ts : List GoType) →
    GrowsNames (writeTypes symbols ts)
  | [] => .pure []
  | t :: ts =>
    (growsNames_write symbols t).rememberedName.bind fun _ =>
      (growsNames_writeTypes symbols ts).bind fun _ => .pure _

theorem growsNames_writeNamed (symbols : Symbols σ) : (n : NamedType) →
    GrowsNames (writeNamed symbols n)
  | ⟨package, name, arguments⟩ =>
    (growsNames_namedBase symbols ⟨package, name, arguments⟩).bind fun _ =>
      (growsNames_writeTypes symbols arguments).bind fun _ => .pure _

theorem growsNames_writeSignature (symbols : Symbols σ) : (s : Signature) →
    GrowsNames (writeSignature symbols s)
  | ⟨params, results, _⟩ =>
    (growsNames_writeValues symbols params).bind fun _ =>
      (growsNames_writeValues symbols results).bind fun _ => .pure _

theorem growsNames_writeValues (symbols : Symbols σ) : (vs : List Value) →
    GrowsNames (writeValues symbols vs)
  | [] => .pure []
  | ⟨_, t⟩ :: rest =>
    (growsNames_write symbols t).rememberedName.bind fun _ =>
      (growsNames_writeValues symbols rest).bind fun _ => .pure _

theorem growsNames_writeFields (symbols : Symbols σ) : (fs : List Field) →
    GrowsNames (writeFields symbols fs)
  | [] => .pure []
  | ⟨_, t, _⟩ :: rest =>
    (growsNames_write symbols t).rememberedName.bind fun _ =>
      (growsNames_writeFields symbols rest).bind fun _ => .pure _

theorem growsNames_writeMethods (symbols : Symbols σ) : (ms : List MethodSpec) →
    GrowsNames (writeMethods symbols ms)
  | [] => .pure []
  | ⟨_, s⟩ :: rest =>
    (growsNames_writeSignature symbols s).bind fun _ =>
      (growsNames_writeMethods symbols rest).bind fun _ => .pure _

theorem growsNames_writeTerms (symbols : Symbols σ) : (ts : List Term) →
    GrowsNames (writeTerms symbols ts)
  | [] => .pure []
  | ⟨_, t⟩ :: rest =>
    (growsNames_write symbols t).rememberedName.bind fun _ =>
      (growsNames_writeTerms symbols rest).bind fun _ => .pure _

end

/-- Naming a type adds names only. -/
theorem growsNames_name (symbols : Symbols σ) (t : GoType) : GrowsNames (name symbols t) :=
  (growsNames_write symbols t).rememberedName

theorem grows_writePlainZero (symbols : Symbols σ) (t : GoType) :
    Grows (writePlainZero symbols t) := by
  cases t with
  | array length elem => exact ((growsNames_name symbols _).bind fun _ => .pure _).grows
  | struct fields => exact ((growsNames_name symbols _).bind fun _ => .pure _).grows
  | union terms => exact .throw _
  | named n => exact .throw _
  | _ => exact .pure _

theorem grows_writeZero (symbols : Symbols σ) (t : GoType) : Grows (writeZero symbols t) := by
  cases t with
  | named n =>
    obtain ⟨package, base, arguments⟩ := n
    cases package with
    | none =>
      rw [writeZero]
      split
      · exact .pure _
      · exact .throw _
    | some package =>
      refine (growsNames_underlying symbols _).grows.bind fun u => ?_
      cases u with
      | array length elem => exact ((growsNames_name symbols _).bind fun _ => .pure _).grows
      | struct fields => exact ((growsNames_name symbols _).bind fun _ => .pure _).grows
      | union terms => exact .throw _
      | named n => exact .throw _
      | _ => exact (grows_writePlainZero symbols _).rememberedZero
  | _ => exact grows_writePlainZero symbols _

/-- Every call grows. -/
theorem grows_perform (symbols : Symbols σ) (c : ResolverCall) : Grows (c.perform symbols) := by
  cases c with
  | name t => exact (growsNames_name symbols t).grows
  | zero t => exact (grows_writeZero symbols t).rememberedZero
  | importPackage path =>
    exact ((growsNames_importPackage symbols path).bind fun _ => .pure _).grows

theorem Grown.after (symbols : Symbols σ) (r : Resolver σ) (calls : List ResolverCall) :
    Grown r (r.after symbols calls) := by
  induction calls generalizing r with
  | nil => exact .refl r
  | cons c calls ih => exact (grows_perform symbols c r).trans (ih _)

/-! ### Runs of computations -/

/-- Behind a success the continuation runs. -/
theorem run_bind_of_ok {m : ResolverM σ α} {a : α} (h : m.run.run r = (.ok a, r'))
    (f : α → ResolverM σ β) : (m >>= f).run.run r = (f a).run.run r' := by
  rw [run_bind, h]

theorem run_get (r : Resolver σ) :
    (get : ResolverM σ (Resolver σ)).run.run r = (.ok r, r) := rfl

theorem run_bind_eq_ok {m : ResolverM σ α} {f : α → ResolverM σ β} {b : β} :
    (m >>= f).run.run r = (.ok b, r') ↔
      ∃ a r₁, m.run.run r = (.ok a, r₁) ∧ (f a).run.run r₁ = (.ok b, r') := by
  rw [run_bind]
  rcases m.run.run r with ⟨e | a, r₁⟩
  · exact ⟨nofun, fun ⟨_, _, h, _⟩ => nomatch h⟩
  · refine ⟨fun h => ⟨a, r₁, rfl, h⟩, ?_⟩
    rintro ⟨_, _, h, h'⟩
    cases h
    exact h'

/-! ### Computations that change nothing -/

/-- The computation succeeds with a result and leaves the resolver as it is. -/
def Yields (r : Resolver σ) (m : ResolverM σ α) (a : α) : Prop :=
  m.run.run r = (.ok a, r)

theorem Yields.pure (a : α) : Yields r (pure a : ResolverM σ α) a := rfl

theorem Yields.bind {m : ResolverM σ α} {f : α → ResolverM σ β} {a : α} {b : β}
    (hm : Yields r m a) (hf : Yields r (f a) b) : Yields r (m >>= f) b := by
  rw [Yields, run_bind, hm]
  exact hf

theorem run_lift (x : Except Error α) (r : Resolver σ) :
    (liftM x : ResolverM σ α).run.run r = (x, r) := by
  cases x <;> rfl

theorem Yields.lift {x : Except Error α} {a : α} (h : x = .ok a) :
    Yields r (liftM x : ResolverM σ α) a := by
  rw [Yields, run_lift, h]

/-- Where it yields something for each item of a list, it yields all of that. -/
theorem exists_yields_mapM {f : α → ResolverM σ β} {as : List α} {p : α → β → Prop}
    (h : ∀ a ∈ as, ∃ b, Yields r (f a) b ∧ p a b) :
    ∃ bs, Yields r (as.mapM f) bs ∧ List.Forall₂ p as bs := by
  induction as with
  | nil => exact ⟨[], rfl, .nil⟩
  | cons a as ih =>
    obtain ⟨b, hb, hp⟩ := h a List.mem_cons_self
    obtain ⟨bs, hbs, hps⟩ := ih fun a' ha' => h a' (List.mem_cons_of_mem a ha')
    refine ⟨b :: bs, ?_, .cons hp hps⟩
    rw [List.mapM_cons]
    exact hb.bind (hbs.bind (.pure _))

/-- The computation fails and leaves the resolver as it is. -/
def Fails (r : Resolver σ) (m : ResolverM σ α) (e : Error) : Prop :=
  m.run.run r = (.error e, r)

theorem Fails.lift {x : Except Error α} {e : Error} (h : x = .error e) :
    Fails r (liftM x : ResolverM σ α) e := by
  rw [Fails, run_lift, h]

theorem Fails.bind {m : ResolverM σ α} {e : Error} (h : Fails r m e) (f : α → ResolverM σ β) :
    Fails r (m >>= f) e := by
  rw [Fails, run_bind, h]

theorem Yields.bind_fails {m : ResolverM σ α} {f : α → ResolverM σ β} {a : α} {e : Error}
    (hm : Yields r m a) (hf : Fails r (f a) e) : Fails r (m >>= f) e := by
  rw [Fails, run_bind, hm]
  exact hf

/-- Where it yields something or fails for each item of a list, and fails for one, it fails. -/
theorem exists_fails_mapM {f : α → ResolverM σ β} {as : List α} {p : Error → Prop}
    (h : ∀ a ∈ as, (∃ b, Yields r (f a) b) ∨ ∃ e, Fails r (f a) e ∧ p e)
    (hf : ∃ a ∈ as, ∃ e, Fails r (f a) e) : ∃ e, Fails r (as.mapM f) e ∧ p e := by
  induction as with
  | nil => exact nomatch hf
  | cons a as ih =>
    rw [List.mapM_cons]
    rcases h a List.mem_cons_self with ⟨b, hb⟩ | ⟨e, he, hp⟩
    · obtain ⟨a', hmem, hfails⟩ := hf
      have hne : a' ≠ a := by
        rintro rfl
        obtain ⟨e, he⟩ := hfails
        exact nomatch hb.symm.trans he
      obtain ⟨e, he, hp⟩ := ih (fun d hd => h d (List.mem_cons_of_mem a hd))
        ⟨a', (List.mem_cons.mp hmem).resolve_left hne, hfails⟩
      exact ⟨e, hb.bind_fails (he.bind _), hp⟩
    · exact ⟨e, he.bind _, hp⟩

/-! ### Texts that are there -/

/-- The text that is remembered as the answer of a call. -/
def textOf? (r : Resolver σ) : ResolverCall → Option String
  | .name t          => r.names.lookup t
  | .zero t          => r.zeros.lookup t
  | .importPackage _ => none

/-- What is remembered stays so. -/
theorem Grown.textOf? (h : Grown r r') {c : ResolverCall} {text : String}
    (hc : r.textOf? c = some text) : r'.textOf? c = some text := by
  cases c with
  | name t => exact h.names t text hc
  | zero t => exact h.zeros t text hc
  | importPackage path => exact nomatch hc

/-- What is remembered is given again, and nothing else happens. -/
theorem yields_perform (symbols : Symbols σ) {c : ResolverCall} {text : String}
    (h : r.textOf? c = some text) : Yields r (c.perform symbols) text := by
  cases c with
  | name t =>
    rw [textOf?] at h
    rw [Yields, ResolverCall.perform, name, run_rememberedName, h]
  | zero t =>
    rw [textOf?] at h
    rw [Yields, ResolverCall.perform, zero, run_rememberedZero, h]
  | importPackage path => cases h

/-- What is remembered is the outcome of the call. -/
theorem outcome_of_textOf? {c : ResolverCall} {text : String} (h : r.textOf? c = some text) :
    outcome symbols r c = .ok text :=
  congrArg Prod.fst (yields_perform symbols h)

/-- After it succeeded, a name is remembered. -/
theorem lookup_rememberedName {t : GoType} {write : ResolverM σ String} {text : String}
    (h : ((rememberedName t write).run.run r).1 = .ok text) :
    ((rememberedName t write).run.run r).2.names.lookup t = some text := by
  rw [run_rememberedName] at h ⊢
  cases hl : r.names.lookup t with
  | some s => simp_all
  | none =>
    rcases hrun : write.run.run r with ⟨e | s, r'⟩ <;> simp_all

/-- The outcome of a call is remembered. -/
theorem textOf?_of_outcome {c : ResolverCall} {text : String}
    (hc : ∀ path, c ≠ .importPackage path) (h : outcome symbols r c = .ok text) :
    (r.after symbols [c]).textOf? c = some text := by
  cases c with
  | name t => exact lookup_rememberedName h
  | zero t => exact lookup_rememberedZero h
  | importPackage path => exact absurd rfl (hc path)

/-! ### Calls that succeed -/

/-- Every call succeeds when they are made one after the other. -/
def Succeeds (symbols : Symbols σ) : Resolver σ → List ResolverCall → Prop
  | _, []         => True
  | r, c :: calls =>
    (∃ text, outcome symbols r c = .ok text) ∧ Succeeds symbols (r.after symbols [c]) calls

instance Succeeds.decidable (symbols : Symbols σ) :
    (r : Resolver σ) → (calls : List ResolverCall) → Decidable (Succeeds symbols r calls)
  | _, []         => .isTrue trivial
  | r, c :: calls =>
    match h : outcome symbols r c, Succeeds.decidable symbols (r.after symbols [c]) calls with
    | .ok text, .isTrue hs  => .isTrue ⟨⟨text, h⟩, hs⟩
    | _,        .isFalse hs => .isFalse fun hc => hs hc.2
    | .error _, _           => .isFalse fun ⟨⟨_, hc⟩, _⟩ => nomatch h.symm.trans hc

theorem succeeds_append {calls rest : List ResolverCall} :
    Succeeds symbols r (calls ++ rest) ↔
      Succeeds symbols r calls ∧ Succeeds symbols (r.after symbols calls) rest := by
  induction calls generalizing r with
  | nil => simp [Succeeds, after]
  | cons c calls ih =>
    rw [List.cons_append, Succeeds, Succeeds, ih, and_assoc]
    rfl

/-- The texts of all names and zero values that were asked for are there in the end. -/
theorem Succeeds.textOf? {calls : List ResolverCall} (h : Succeeds symbols r calls)
    {c : ResolverCall} (hmem : c ∈ calls) (hc : ∀ path, c ≠ .importPackage path) :
    ∃ text, (r.after symbols calls).textOf? c = some text := by
  induction calls generalizing r with
  | nil => exact nomatch hmem
  | cons d calls ih =>
    obtain ⟨⟨text, htext⟩, h⟩ := h
    rcases List.mem_cons.mp hmem with rfl | hmem
    · exact ⟨text, (Grown.after symbols _ calls).textOf? (textOf?_of_outcome hc htext)⟩
    · exact ih h hmem

/-- Makes calls one after the other, up to the first that fails. -/
def performAll (symbols : Symbols σ) (calls : List ResolverCall) : ResolverM σ Unit :=
  calls.forM fun c => discard (c.perform symbols)

/-- The calls for some items are performed item by item. -/
theorem performAll_flatMap (symbols : Symbols σ) (calls : α → List ResolverCall) (as : List α) :
    performAll symbols (as.flatMap calls) = as.forM fun a => performAll symbols (calls a) := by
  induction as with
  | nil => rfl
  | cons a as ih =>
    rw [List.flatMap_cons, performAll, List.forM_eq_forM, List.forM_append]
    exact congrArg _ (funext fun _ => ih)

/-- Performing calls succeeds when each of them does. -/
theorem run_performAll_eq_ok {calls : List ResolverCall} :
    (performAll symbols calls).run.run r = (.ok (), r') ↔
      Succeeds symbols r calls ∧ r' = r.after symbols calls := by
  induction calls generalizing r with
  | nil =>
    constructor
    · rintro ⟨⟩
      exact ⟨trivial, rfl⟩
    · rintro ⟨-, rfl⟩
      rfl
  | cons c calls ih =>
    have hstep : performAll symbols (c :: calls) =
        discard (c.perform symbols) >>= fun _ => performAll symbols calls := rfl
    rw [hstep, run_bind, discard, map_const, Function.comp_apply, ← bind_pure_comp, run_bind,
      Succeeds, outcome]
    rcases hrun : (c.perform symbols).run.run r with ⟨e | text, r₁⟩
    · constructor
      · rintro ⟨⟩
      · rintro ⟨⟨⟨text, ⟨⟩⟩, -⟩, -⟩
    · have hafter : r.after symbols [c] = r₁ := congrArg Prod.snd hrun
      have hrest : r.after symbols (c :: calls) = r₁.after symbols calls :=
        (after_append r [c] calls).trans (by rw [hafter])
      rw [hafter, hrest]
      constructor
      · intro h
        obtain ⟨hs, hr⟩ := ih.mp h
        exact ⟨⟨⟨text, rfl⟩, hs⟩, hr⟩
      · rintro ⟨⟨-, hs⟩, hr⟩
        exact ih.mpr ⟨hs, hr⟩

end GoMocks.Resolver
