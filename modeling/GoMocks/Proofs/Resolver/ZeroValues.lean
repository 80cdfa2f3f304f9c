import GoMocks.Proofs.Resolver.Exported

/-!
# Resolving types — what zero values are

The zero value of a type is read off from what the type is defined as. Texts are remembered under
types, and the text for a definition under the definition as well, where every declared type over it
finds it. This does no harm: literals with the name of a type in them are remembered for that type
alone, and all others depend on the definition only.

* `Symbols.definition`: what a type is defined as.
* `HasZero`, `LacksZero`: the zero values of types, and the types that have none.
* `Resolver.Recalls`: what is remembered are zero values, for definitions that were told. It is
  kept by every call (`Recalls.perform`).
* `Resolver.zero_eq`: the zero value of a type, whatever was asked before.
-/

namespace GoMocks

/-- What a type is defined as: what is told about it if it is declared in a package. -/
def Symbols.definition {σ : Type} (symbols : Symbols σ) (t : GoType) (s : σ) : Except Error GoType :=
  match t with
  | .named ⟨some package, name, arguments⟩ =>
    (symbols.underlying ⟨some package, name, arguments⟩ s).1
  | t => .ok t

/-- The text is the zero value of the type `t`, which is defined as a second type. The property
`spelt` says how `t` itself is written. -/
inductive HasZero (t : GoType) (spelt : String → Prop) : GoType → String → Prop
  | array {length : ArrayLength} {elem : GoType} {name : String} (h : spelt name) :
      HasZero t spelt (.array length elem) (name ++ "\x7b\x7d")
  | struct {fields : List Field} {name : String} (h : spelt name) :
      HasZero t spelt (.struct fields) (name ++ "\x7b\x7d")
  | parameter (name : String) : HasZero t spelt (.parameter name) ("*new(" ++ name ++ ")")
  | bool : HasZero t spelt (.basic .bool) "false"
  | string : HasZero t spelt (.basic .string) "\"\""
  | unsafePointer : HasZero t spelt (.basic .unsafePointer) "nil"
  | complex {kind : BasicKind} (h : kind ∈ [.complex64, .complex128]) :
      HasZero t spelt (.basic kind) "0+0i"
  | number {kind : BasicKind}
      (h : kind ∉ [.bool, .string, .unsafePointer, .complex64, .complex128]) :
      HasZero t spelt (.basic kind) "0"
  | pointer (elem : GoType) : HasZero t spelt (.pointer elem) "nil"
  | slice (elem : GoType) : HasZero t spelt (.slice elem) "nil"
  | map (key value : GoType) : HasZero t spelt (.map key value) "nil"
  | channel (direction : ChannelDirection) (elem : GoType) :
      HasZero t spelt (.channel direction elem) "nil"
  | function (signature : Signature) : HasZero t spelt (.function signature) "nil"
  | interface (methods : List MethodSpec) (embeds : List GoType) :
      HasZero t spelt (.interface methods embeds) "nil"
  | predeclared {name : String} {arguments : List GoType}
      (ht : t = .named ⟨none, name, arguments⟩) (h : name ∈ ["error", "any", "comparable"]) :
      HasZero t spelt (.named ⟨none, name, arguments⟩) "nil"

/-- The type `t` has no zero value, where it is defined as a second type. The property `unspelt`
says that `t` itself cannot be written. -/
inductive LacksZero (t : GoType) (unspelt : Prop) : Except Error GoType → Prop
  | undefined (e : Error) : LacksZero t unspelt (.error e)
  | named {package name : String} {arguments : List GoType}
      (ht : t = .named ⟨some package, name, arguments⟩) (n : NamedType) :
      LacksZero t unspelt (.ok (.named n))
  | predeclared {name : String} {arguments : List GoType}
      (ht : t = .named ⟨none, name, arguments⟩) (h : name ∉ ["error", "any", "comparable"]) :
      LacksZero t unspelt (.ok (.named ⟨none, name, arguments⟩))
  | union (terms : List Term) : LacksZero t unspelt (.ok (.union terms))
  | array {length : ArrayLength} {elem : GoType} (h : unspelt) :
      LacksZero t unspelt (.ok (.array length elem))
  | struct {fields : List Field} (h : unspelt) : LacksZero t unspelt (.ok (.struct fields))

variable {t u : GoType} {spelt spelt' : String → Prop} {unspelt : Prop} {text : String}

theorem HasZero.mono (h : HasZero t spelt u text) (hspelt : ∀ name, spelt name → spelt' name) :
    HasZero t spelt' u text := by
  cases h with
  | array h  => exact .array (hspelt _ h)
  | struct h => exact .struct (hspelt _ h)
  | complex h => exact .complex h
  | number h => exact .number h
  | predeclared ht h => exact .predeclared ht h
  | _ => constructor

theorem LacksZero.mono {u : Except Error GoType} {unspelt' : Prop} (h : LacksZero t unspelt u)
    (hunspelt : unspelt → unspelt') : LacksZero t unspelt' u := by
  cases h with
  | array h           => exact .array (hunspelt h)
  | struct h          => exact .struct (hunspelt h)
  | named ht n        => exact .named ht n
  | predeclared ht h  => exact .predeclared ht h
  | _                 => constructor

/-- No type has a zero value and lacks it. -/
theorem HasZero.not_lacksZero (h : HasZero t spelt u text)
    (hspelt : ∀ name, spelt name → ¬ unspelt) : ¬ LacksZero t unspelt (.ok u) := by
  intro hlacks
  cases h with
  | array h  => cases hlacks with | array h'  => exact hspelt _ h h'
  | struct h => cases hlacks with | struct h' => exact hspelt _ h h'
  | predeclared ht h =>
    cases hlacks with
    | named ht' => exact nomatch ht.symm.trans ht'
    | predeclared _ h' => exact h' h
  | _ => cases hlacks

/-- A basic type has its zero value. -/
theorem HasZero.basic (kind : BasicKind) :
    HasZero t spelt (.basic kind) (Resolver.basicZero kind) := by
  cases kind with
  | bool => exact .bool
  | string => exact .string
  | unsafePointer => exact .unsafePointer
  | complex64 | complex128 => exact .complex (by decide)
  | _ => exact .number (by decide)

/-- The zero value of a definition is one of each type over it, unless it has the name of a type in
it. -/
theorem HasZero.of_definition (h : HasZero u spelt u text) (hnamed : ∀ n, u ≠ .named n)
    (harray : ∀ length elem, u ≠ .array length elem) (hstruct : ∀ fields, u ≠ .struct fields) :
    HasZero t spelt' u text := by
  cases h with
  | array => exact absurd rfl (harray _ _)
  | struct => exact absurd rfl (hstruct _)
  | complex h => exact .complex h
  | number h => exact .number h
  | predeclared => exact absurd rfl (hnamed _)
  | _ => constructor

/-- A type that is no name defines itself. -/
theorem Symbols.definition_eq_ok {σ : Type} (symbols : Symbols σ) (h : ∀ n, t ≠ .named n) (s : σ) :
    symbols.definition t s = .ok t := by
  cases t with
  | named n => exact absurd rfl (h n)
  | _ => rfl

namespace Resolver

variable {σ : Type} {symbols : Symbols σ} {asked asked' : σ → Prop} {r r' : Resolver σ}

/-! ### What is remembered -/

/-- The texts that are remembered are zero values, for definitions that were told in a state in
which something was asked. -/
def Recalls (symbols : Symbols σ) (asked : σ → Prop) (r : Resolver σ) : Prop :=
  ∀ t text, r.zeros.lookup t = some text → ∃ s, asked s ∧ ∃ u, symbols.definition t s = .ok u ∧
    HasZero t (fun name => r.names.lookup t = some name) u text

theorem Recalls.mono (h : Recalls symbols asked r) (hasked : ∀ s, asked s → asked' s) :
    Recalls symbols asked' r := fun t text htext => by
  obtain ⟨s, hs, hu⟩ := h t text htext
  exact ⟨s, hasked s hs, hu⟩

/-- New names do no harm. -/
theorem Recalls.of_grownNames (h : Recalls symbols asked r) (hg : GrownNames r r') :
    Recalls symbols asked r' := fun t text htext => by
  obtain ⟨s, hs, u, hu, hzero⟩ := h t text (hg.same ▸ htext)
  exact ⟨s, hs, u, hu, hzero.mono fun name => hg.names t name⟩

/-- The outcome is what the definition `u` calls for. -/
def Fits (t : GoType) (u : Except Error GoType) (names : List (GoType × String)) :
    Except Error String → Prop
  | .ok text => ∃ v, u = .ok v ∧ HasZero t (fun name => names.lookup t = some name) v text
  | .error _ => LacksZero t (firstRejection? t.parts ≠ none) u

/-- A computation that has the outcome a definition calls for, and keeps what is remembered
right. -/
structure Settles (symbols : Symbols σ) (asked : σ → Prop) (t : GoType) (u : Except Error GoType)
    (m : ResolverM σ String) (r : Resolver σ) : Prop where
  recalls : Recalls symbols asked (m.run.run r).2
  fits    : Fits t u (m.run.run r).2.names (m.run.run r).1

/-! ### Writing zero values -/

theorem settles_pure (hr : Recalls symbols asked r)
    (h : HasZero t (fun name => r.names.lookup t = some name) u text) :
    Settles symbols asked t (.ok u) (pure text) r :=
  ⟨hr, u, rfl, h⟩

theorem settles_throw {u : Except Error GoType} (hr : Recalls symbols asked r) (e : Error)
    (h : LacksZero t (firstRejection? t.parts ≠ none) u) :
    Settles symbols asked t u (throw e) r :=
  ⟨hr, h⟩

theorem Settles.of_run {m : ResolverM σ String} {u : Except Error GoType}
    {result : Except Error String} (hrun : m.run.run r = (result, r'))
    (hr : Recalls symbols asked r') (hfits : Fits t u r'.names result) :
    Settles symbols asked t u m r := by
  refine ⟨?_, ?_⟩ <;> rw [hrun]
  · exact hr
  · exact hfits

/-- The literal of a composite type. -/
theorem settles_literal (hr : Recalls symbols asked r) (ha : Accepting r)
    (hhas : ∀ {spelt : String → Prop} {name}, spelt name → HasZero t spelt u (name ++ "\x7b\x7d"))
    (hlacks : ∀ {unspelt : Prop}, unspelt → LacksZero t unspelt (.ok u)) :
    Settles symbols asked t (.ok u) (do return (← name symbols t) ++ "\x7b\x7d") r := by
  have hrecalls := hr.of_grownNames (growsNames_name symbols t r)
  have hfailure := (rejects_name symbols t r ha).2
  have hlookup {text} : ((name symbols t).run.run r).1 = .ok text → _ := lookup_rememberedName
  have hbind := run_bind (name symbols t) (fun text => pure (text ++ "\x7b\x7d")) r
  rw [← name] at hlookup
  rcases hrun : (name symbols t).run.run r with ⟨e | text, r'⟩ <;>
    rw [hrun] at hrecalls hfailure hlookup hbind
  · exact .of_run hbind hrecalls (hlacks (hfailure ▸ Option.some_ne_none _))
  · exact .of_run hbind hrecalls ⟨u, rfl, hhas (hlookup rfl)⟩

theorem settles_writePlainZero (hr : Recalls symbols asked r) (ha : Accepting r)
    (ht : ∀ n, t ≠ .named n) : Settles symbols asked t (.ok t) (writePlainZero symbols t) r := by
  cases t with
  | array length elem => exact settles_literal hr ha .array .array
  | struct fields     => exact settles_literal hr ha .struct .struct
  | union terms       => exact settles_throw hr _ (.union terms)
  | named n           => exact absurd rfl (ht n)
  | basic kind        => exact settles_pure hr (.basic kind)
  | parameter name    => exact settles_pure hr (.parameter name)
  | pointer | slice | map | channel | function | interface => exact settles_pure hr (by constructor)

/-- A zero value that is written, or remembered from before. -/
theorem settles_rememberedZero {m : ResolverM σ String} {u : Except Error GoType} {s : σ}
    (hr : Recalls symbols asked r) (hs : asked s) (hu : symbols.definition t s = u)
    (hm : Settles symbols asked t u m r) :
    ∃ s, asked s ∧ Settles symbols asked t (symbols.definition t s) (rememberedZero t m) r := by
  have hrun := run_rememberedZero t m r
  cases hl : r.zeros.lookup t with
  | some text =>
    rw [hl] at hrun
    obtain ⟨s, hs, v, hv, hzero⟩ := hr t text hl
    exact ⟨s, hs, .of_run hrun hr ⟨v, hv, hzero⟩⟩
  | none =>
    rw [hl] at hrun
    obtain ⟨hrecalls, hfits⟩ := hm
    rcases hwrite : m.run.run r with ⟨e | text, r'⟩ <;> simp only [hwrite] at hrun hrecalls hfits
    · exact ⟨s, hs, hu ▸ .of_run hrun hrecalls hfits⟩
    · obtain ⟨v, rfl, hzero⟩ := hfits
      refine ⟨s, hs, hu ▸ .of_run hrun ?_ ⟨v, rfl, hzero⟩⟩
      exact forall_lookup_cons ⟨s, hs, v, hu, hzero⟩ hrecalls

/-- The zero value of a definition, taken for a type over it. -/
theorem Settles.of_definition {m : ResolverM σ String} (h : Settles symbols asked u (.ok u) m r)
    (hnamed : ∀ n, u ≠ .named n) (harray : ∀ length elem, u ≠ .array length elem)
    (hstruct : ∀ fields, u ≠ .struct fields) : Settles symbols asked t (.ok u) m r := by
  obtain ⟨hrecalls, hfits⟩ := h
  rcases hrun : m.run.run r with ⟨e | text, r'⟩ <;> rw [hrun] at hrecalls hfits
  · refine .of_run hrun hrecalls ?_
    cases hfits with
    | named _ n   => exact absurd rfl (hnamed n)
    | predeclared => exact absurd rfl (hnamed _)
    | union terms => exact .union terms
    | array       => exact absurd rfl (harray _ _)
    | struct      => exact absurd rfl (hstruct _)
  · obtain ⟨v, hv, hzero⟩ := hfits
    obtain rfl := Except.ok.inj hv
    exact .of_run hrun hrecalls ⟨u, rfl, hzero.of_definition hnamed harray hstruct⟩

/-- The question for a definition changes the state of the knowledge and nothing else. -/
theorem settles_underlying {n : NamedType} {f : GoType → ResolverM σ String}
    (hr : Recalls symbols asked r) (ha : Accepting r)
    (hf : ∀ r₁ : Resolver σ, Recalls symbols asked r₁ → Accepting r₁ →
      ∀ u, Settles symbols asked t (.ok u) (f u) r₁) :
    Settles symbols asked t (symbols.underlying n r.state).1 (underlying symbols n >>= f) r := by
  have hrun := run_bind (underlying symbols n) f r
  rw [run_underlying] at hrun
  cases hu : (symbols.underlying n r.state).1 with
  | error e => rw [hu] at hrun; exact .of_run hrun hr (.undefined e)
  | ok u =>
    rw [hu] at hrun
    obtain ⟨hrecalls, hfits⟩ := hf { r with state := (symbols.underlying n r.state).2 } hr ha u
    exact .of_run hrun hrecalls hfits

theorem settles_writeZero (hr : Recalls symbols asked r) (ha : Accepting r) (hs : asked r.state) :
    Settles symbols asked t (symbols.definition t r.state) (writeZero symbols t) r := by
  cases t with
  | named n =>
    obtain ⟨_ | package, base, arguments⟩ := n
    · rw [writeZero]
      split
      · next hbase => exact settles_pure hr (.predeclared rfl hbase)
      · next hbase => exact settles_throw hr _ (.predeclared rfl hbase)
    · simp only [writeZero]
      refine settles_underlying hr ha fun r₁ hr₁ ha₁ u => ?_
      have hplain (hu : ∀ n, u ≠ .named n) :
          Settles symbols asked u (.ok u) (rememberedZero u (writePlainZero symbols u)) r₁ := by
        obtain ⟨s, -, hsettles⟩ := settles_rememberedZero hr₁ hs
          (symbols.definition_eq_ok hu r.state) (settles_writePlainZero hr₁ ha₁ hu)
        rwa [symbols.definition_eq_ok hu] at hsettles
      cases u with
      -- a named array or struct has a literal of its own name, not of its definition
      | array length elem => exact settles_literal hr₁ ha₁ .array .array
      | struct fields     => exact settles_literal hr₁ ha₁ .struct .struct
      | union terms       => exact settles_throw hr₁ _ (.union terms)
      | named n           => exact settles_throw hr₁ _ (.named rfl n)
      | _                 => exact (hplain (by simp)).of_definition (by simp) (by simp) (by simp)
  | _ =>
    rw [writeZero]
    · exact settles_writePlainZero hr ha (by simp)
    all_goals simp

/-- The zero value of a type, and what is remembered afterwards. -/
theorem settles_zero (hr : Recalls symbols asked r) (ha : Accepting r) (hs : asked r.state)
    (t : GoType) :
    ∃ s, asked s ∧ Settles symbols asked t (symbols.definition t s) (zero symbols t) r :=
  settles_rememberedZero hr hs rfl (settles_writeZero hr ha hs)

/-! ### Sequences of calls -/

/-- A call keeps what is recalled. -/
theorem Recalls.perform (hr : Recalls symbols asked r) (ha : Accepting r) (hs : asked r.state)
    (c : ResolverCall) : Recalls symbols asked (((c.perform symbols).run.run r).2) := by
  cases c with
  | name t => exact hr.of_grownNames (growsNames_name symbols t r)
  | zero t =>
    obtain ⟨_, -, hsettles⟩ := settles_zero hr ha hs t
    exact hsettles.recalls
  | importPackage path =>
    exact hr.of_grownNames ((growsNames_importPackage symbols path).bind (fun _ => .pure _) r)

/-- A state that a resolver was in before one of the calls, or is in now. -/
def Asked (symbols : Symbols σ) (first : Resolver σ) (calls : List ResolverCall) (s : σ) : Prop :=
  ∃ earlier, earlier <+: calls ∧ s = (first.after symbols earlier).state

/-- A resolver recalls what its calls asked for. -/
theorem recalls_after (module : String) (state : σ) (calls : List ResolverCall) :
    Recalls symbols (Asked symbols (ofModule module state) calls)
      ((ofModule module state).after symbols calls) := by
  induction calls using List.reverseRecOn with
  | nil => simp [Recalls, ofModule, after]
  | append_singleton calls c ih =>
    rw [after_append]
    refine Recalls.perform (ih.mono ?_) (Accepting.after (by simp [Accepting, ofModule]) calls) ?_ c
    · rintro s ⟨earlier, hearlier, hs⟩
      exact ⟨earlier, hearlier.trans (List.prefix_append _ _), hs⟩
    · exact ⟨calls, List.prefix_append _ _, rfl⟩

/-- **What the zero value of a type is.** Whatever a resolver was asked before, a type lacks a zero
value exactly if its definition says so or, for an array or a struct, if the type cannot be written;
else the definition says what the zero value is. The definition is one that was told in the run so
far: where definitions never change, it is just what is told. -/
theorem zero_eq {σ : Type} (symbols : Symbols σ) (module : String) (state : σ)
    (before : List ResolverCall) (t : GoType) :
    let first := ofModule module state
    let zero := outcome symbols (first.after symbols before) (.zero t)
    let name := outcome symbols (first.after symbols (before ++ [.zero t])) (.name t)
    ∃ earlier, earlier <+: before ∧
      let u := symbols.definition t (first.after symbols earlier).state
      ((∃ e, zero = .error e) ↔ LacksZero t (∃ e, name = .error e) u) ∧
      ∀ text, zero = .ok text → ∃ v, u = .ok v ∧ HasZero t (fun x => name = .ok x) v text := by
  intro first zero name
  have haccepting : Accepting (first.after symbols before) :=
    Accepting.after (by simp [first, Accepting, ofModule]) before
  obtain ⟨s, ⟨earlier, hearlier, rfl⟩, hrecalls, hfits⟩ :=
    settles_zero (recalls_after module state before) haccepting ⟨before, List.prefix_rfl, rfl⟩ t
  have hname : firstRejection? t.parts ≠ none ↔ ∃ e, name = .error e := by
    rw [← failure_name symbols module state (before ++ [.zero t]) t]
    change failure? name ≠ none ↔ _
    cases name <;> simp [failure?]
  refine ⟨earlier, hearlier, ?_⟩
  -- the name in a literal is the remembered one, which asking for it once more returns
  have hspelt : ∀ x, (first.after symbols (before ++ [.zero t])).names.lookup t = some x →
      name = .ok x := fun x hx => outcome_of_textOf? (c := .name t) hx
  rw [after_append] at hspelt
  intro u
  change Fits t u _ zero at hfits
  cases hzero : zero with
  | error e =>
    rw [hzero] at hfits
    exact ⟨iff_of_true ⟨e, rfl⟩ (hfits.mono hname.mp), by simp⟩
  | ok text =>
    rw [hzero] at hfits
    obtain ⟨v, hv, hhas⟩ := hfits
    have hhas := hhas.mono hspelt
    refine ⟨iff_of_false (by simp) (hv ▸ hhas.not_lacksZero ?_), fun text' htext => ?_⟩
    · rintro x hx ⟨e, he⟩
      cases hx.symm.trans he
    · obtain rfl := Except.ok.inj htext
      exact ⟨v, hv, hhas⟩

end Resolver

end GoMocks
