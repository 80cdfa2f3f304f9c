import GoMocks.Proofs.Resolver.Memory

/-!
# Resolving types — remembered zero values

A zero value depends on how declared types are defined, which may be told differently from one
state of the knowledge to the next. The text that was written first is the one that is kept.

* `Resolver.Good`: what is remembered is right, for definitions that were told at some time.
* `Answers`: a computation that has the outcome of a rendering for such definitions.
* `answers_zero`: the resolver's zero value of a type is its rendering, remembered or not.
-/

namespace GoMocks

/-- Each definition is one that is told in some state of the knowledge. -/
def Symbols.Tells {σ : Type} (symbols : Symbols σ) (define : NamedType → Except Error GoType) :
    Prop :=
  ∀ n, ∃ s, (symbols.underlying n s).1 = define n

namespace Resolver

variable {σ : Type} {symbols : Symbols σ} {nameOf : String → String} {r r' : Resolver σ}

/-! ### What calls keep -/

/-- A resolver that remembers names and zero values rightly. -/
structure Good (symbols : Symbols σ) (nameOf : String → String) (r : Resolver σ) : Prop
    extends Consistent nameOf r where
  zeros : ∀ t text, r.zeros.lookup t = some text → ∃ define, symbols.Tells define ∧
    Remembered r.imports (fun ident => t.zeroRendering ident define) text

/-- Entries stay, and so do the zero values that are remembered. -/
structure Keeps (r r' : Resolver σ) : Prop where
  imports : r.imports.entries <+: r'.imports.entries
  zeros   : ∀ t text, r.zeros.lookup t = some text → r'.zeros.lookup t = some text

theorem Keeps.refl (r : Resolver σ) : Keeps r r :=
  ⟨List.prefix_rfl, fun _ _ h => h⟩

theorem Keeps.trans {r'' : Resolver σ} (h : Keeps r r') (h' : Keeps r' r'') : Keeps r r'' :=
  ⟨h.imports.trans h'.imports, fun t text hl => h'.zeros t text (h.zeros t text hl)⟩

/-- A resolver with the same zero values and consistent names stays good. -/
theorem Good.of_consistent (hr : Good symbols nameOf r) (hc : Consistent nameOf r')
    (hk : Keeps r r') (hz : r'.zeros = r.zeros) : Good symbols nameOf r' where
  toConsistent := hc
  zeros t text h := by
    obtain ⟨define, ht, hm⟩ := hr.zeros t text (hz ▸ h)
    exact ⟨define, ht, hm.extend hk.imports⟩

/-- From every good resolver, the computation has the outcome of a rendering for definitions that
are told, with the identifiers of the table it ends with. -/
def Answers (symbols : Symbols σ) (nameOf : String → String) (m : ResolverM σ String)
    (w : (String → String) → (NamedType → Except Error GoType) → Rendering String) : Prop :=
  ∀ r : Resolver σ, Good symbols nameOf r →
    Good symbols nameOf (m.run.run r).2 ∧ Keeps r (m.run.run r).2 ∧
      ∃ define, symbols.Tells define ∧ ∀ ident, (m.run.run r).2.imports.Agrees ident →
        (m.run.run r).1 = (w ident define).outcome ∧
          (m.run.run r).2.imports = r.imports.enter nameOf (w ident define).packages

/-- A rendering action keeps the entries. -/
theorem Renders.keeps {α : Type} {m : ResolverM σ α} {w : (String → String) → Rendering α}
    (hm : Renders nameOf m w) (hr : Consistent nameOf r) : Keeps r (m.run.run r).2 := by
  obtain ⟨hc, hz, h⟩ := hm r hr
  refine ⟨?_, fun t text hl => by rwa [hz]⟩
  rw [(h _ hc.sound.agrees_identOf).2]
  exact ImportTable.enter_extends _

/-- A rendering action answers. -/
theorem Renders.answers {m : ResolverM σ String}
    {w : (String → String) → (NamedType → Except Error GoType) → Rendering String}
    (hm : ∀ define, Renders nameOf m fun ident => w ident define) : Answers symbols nameOf m w := by
  intro r hr
  let define : NamedType → Except Error GoType := fun n => (symbols.underlying n r.state).1
  obtain ⟨hc, hz, h⟩ := hm define r hr.toConsistent
  have hk := (hm define).keeps hr.toConsistent
  exact ⟨hr.of_consistent hc hk hz, hk, define, fun n => ⟨r.state, rfl⟩, h⟩

/-! ### Zero values -/

/-- A remembered zero value is given again, another is written and remembered. -/
theorem run_rememberedZero (t : GoType) (write : ResolverM σ String) (r : Resolver σ) :
    (rememberedZero t write).run.run r =
      match r.zeros.lookup t with
      | some text => (.ok text, r)
      | none =>
        match write.run.run r with
        | (.ok text, r')  => (.ok text, { r' with zeros := (t, text) :: r'.zeros })
        | (.error e, r') => (.error e, r') := by
  have hget : (rememberedZero t write).run.run r =
      (match r.zeros.lookup t with
      | some text => pure text
      | none => do
        let text ← write
        modify fun r => { r with zeros := (t, text) :: r.zeros }
        return text : ResolverM σ String).run.run r := by
    rw [rememberedZero, run_bind]
    rfl
  rw [hget]
  cases r.zeros.lookup t with
  | some text => rfl
  | none =>
    simp only
    rw [run_bind]
    rcases write.run.run r with ⟨e | text, r'⟩ <;> rfl

/-- After it succeeded, a zero value is remembered. -/
theorem lookup_rememberedZero {t : GoType} {write : ResolverM σ String} {text : String}
    (h : ((rememberedZero t write).run.run r).1 = .ok text) :
    ((rememberedZero t write).run.run r).2.zeros.lookup t = some text := by
  rw [run_rememberedZero] at h ⊢
  cases hl : r.zeros.lookup t with
  | some s => simp_all
  | none =>
    rcases hrun : write.run.run r with ⟨e | s, r'⟩ <;> simp_all

/-- A zero value is answered alike when it is remembered. -/
theorem Answers.remembered {t : GoType} {write : ResolverM σ String}
    (hw : Answers symbols nameOf write t.zeroRendering) :
    Answers symbols nameOf (rememberedZero t write) t.zeroRendering := by
  intro r hr
  rw [run_rememberedZero]
  cases hl : r.zeros.lookup t with
  | some text =>
    obtain ⟨define, ht, hm⟩ := hr.zeros t text hl
    refine ⟨hr, .refl r, define, ht, fun ident ha => ?_⟩
    obtain ⟨hout, hs⟩ := hm ident ha
    exact ⟨hout.symm, (hr.sound.enter_of_subset hs).symm⟩
  | none =>
    obtain ⟨hg, hk, define, ht, h⟩ := hw r hr
    rcases hrun : write.run.run r with ⟨e | text, r'⟩ <;> rw [hrun] at hg hk h
    · exact ⟨hg, hk, define, ht, h⟩
    have hm : Remembered r'.imports (fun ident => t.zeroRendering ident define) text :=
      .of_enter h
    have hzeros := forall_lookup_cons ⟨define, ht, hm⟩ hg.zeros
    exact ⟨⟨⟨hg.sound, hg.names⟩, hzeros⟩, ⟨hk.imports, lookup_cons_of_lookup hl hk.zeros⟩,
      define, ht, h⟩

/-- A plain zero value renders. -/
theorem renders_writePlainZero (hname : symbols.NamesBy nameOf) (t : GoType) :
    Renders nameOf (writePlainZero symbols t) fun ident => t.plainZeroRendering ident := by
  cases t with
  | array length elem => exact (renders_name hname _).bind fun _ => .pure _
  | struct fields => exact (renders_name hname _).bind fun _ => .pure _
  | union terms => exact .throw _
  | named n => exact .throw _
  | _ => exact .pure _

/-- A definition comes from the symbols. -/
theorem run_underlying (symbols : Symbols σ) (n : NamedType) (r : Resolver σ) :
    (underlying symbols n).run.run r =
      ((symbols.underlying n r.state).1, { r with state := (symbols.underlying n r.state).2 }) := by
  rw [underlying, run_bind]
  show (do
    set { r with state := (symbols.underlying n r.state).2 }
    liftM (symbols.underlying n r.state).1 : ResolverM σ GoType).run.run r = _
  rw [run_bind]
  cases (symbols.underlying n r.state).1 <;> rfl

theorem answers_plainZero (hname : symbols.NamesBy nameOf) {u : GoType}
    (hu : ∀ n, u ≠ .named n) :
    Answers symbols nameOf (rememberedZero u (writePlainZero symbols u)) u.zeroRendering := by
  refine .remembered (Renders.answers fun define => ?_)
  simpa only [GoType.zeroRendering_of_ne _ define hu] using renders_writePlainZero hname u

/-- The zero value of a declared type, once its definition is told. -/
theorem answers_definedZero (hname : symbols.NamesBy nameOf) (t u : GoType) :
    Answers symbols nameOf
      (match u with
      | .array .. | .struct _ => do return (← name symbols t) ++ "\x7b\x7d"
      | .union _              => throw (.unsupportedType t.text .constraintWithoutZero)
      | .named _              => throw (.unresolvedType t.text .stillNamed)
      | u                     => rememberedZero u (writePlainZero symbols u))
      fun ident _ => t.definedZeroRendering ident (.ok u) := by
  have hplain := answers_plainZero hname (u := u)
  simp only [Answers] at hplain
  cases u with
  | array length elem =>
    exact Renders.answers fun _ => (renders_name hname t).bind fun _ => .pure _
  | struct fields => exact Renders.answers fun _ => (renders_name hname t).bind fun _ => .pure _
  | union terms => exact Renders.answers fun _ => .throw _
  | named n => exact Renders.answers fun _ => .throw _
  | _ => exact hplain nofun

theorem answers_writeZero (hname : symbols.NamesBy nameOf) (t : GoType) :
    Answers symbols nameOf (writeZero symbols t) t.zeroRendering := by
  cases t with
  | named n =>
    obtain ⟨package, base, arguments⟩ := n
    cases package with
    | none =>
      refine Renders.answers fun define => ?_
      simp only [writeZero, GoType.zeroRendering]
      split
      · exact .pure _
      · exact .throw _
    | some package =>
      intro r hr
      let n : NamedType := ⟨some package, base, arguments⟩
      let define : NamedType → Except Error GoType := fun m => (symbols.underlying m r.state).1
      have ht : symbols.Tells define := fun m => ⟨r.state, rfl⟩
      -- the question changes the state of the knowledge and nothing else
      let r₁ : Resolver σ := { r with state := (symbols.underlying n r.state).2 }
      have hr₁ : Good symbols nameOf r₁ :=
        hr.of_consistent ⟨hr.sound, hr.names⟩ ⟨List.prefix_rfl, fun _ _ h => h⟩ rfl
      have hk₁ : Keeps r r₁ := ⟨List.prefix_rfl, fun _ _ h => h⟩
      have hz : ∀ ident, (GoType.named n).zeroRendering ident define =
          (GoType.named n).definedZeroRendering ident (symbols.underlying n r.state).1 :=
        fun _ => rfl
      simp only [writeZero]
      rw [run_bind, run_underlying]
      cases hd : (symbols.underlying n r.state).1 with
      | error e =>
        refine ⟨hr₁, hk₁, define, ht, fun ident _ => ?_⟩
        rw [hz, hd]
        exact ⟨rfl, rfl⟩
      | ok u =>
        obtain ⟨hg, hk, _, _, h⟩ := answers_definedZero hname (.named n) u r₁ hr₁
        refine ⟨hg, hk₁.trans hk, define, ht, fun ident ha => ?_⟩
        rw [hz, hd]
        exact h ident ha
  | _ => exact Renders.answers fun _ => renders_writePlainZero hname _

/-- A zero value is answered with its rendering, whatever is remembered. -/
theorem answers_zero (hname : symbols.NamesBy nameOf) (t : GoType) :
    Answers symbols nameOf (zero symbols t) t.zeroRendering :=
  (answers_writeZero hname t).remembered

end Resolver

end GoMocks
