import GoMocks.Proofs.GoType.Spelling
import GoMocks.Proofs.Resolver.Growth

/-!
# Resolving types — names are spellings

Whatever the provider answers, each text that a resolver gives for a type spells that type with
the identifiers of the table. Since imports only come in, the identifiers of the table at the end
will do for all texts.

* `Resolver.Faithful`: the texts that are remembered spell their types.
* `Resolver.Writes`: a computation that keeps this, and whose result has some property.
* `Faithful.after`: what a sequence of calls leaves behind is faithful.
* `textOf?_after`: what a call gave is still remembered after later calls.
-/

namespace GoMocks

/-- The type is the one that is asked for, or the provider told it as its definition. -/
inductive Symbols.Reaches {σ : Type} (symbols : Symbols σ) : GoType → GoType → Prop
  | refl (t : GoType) : symbols.Reaches t t
  | told {n : NamedType} {state : σ} {u : GoType}
      (h : (symbols.underlying n state).1 = .ok u) : symbols.Reaches (.named n) u

/-- The text is a zero literal: a constant, one that goes by a type parameter, or a composite
literal of the type itself. -/
inductive ZeroLiteral {σ : Type} (symbols : Symbols σ) (goesBy : String → String → Prop)
    (t : GoType) : String → Prop
  | nil : ZeroLiteral symbols goesBy t "nil"
  | basic (kind : BasicKind) : ZeroLiteral symbols goesBy t (Resolver.basicZero kind)
  | parameter {name : String} (h : symbols.Reaches t (.parameter name)) :
      ZeroLiteral symbols goesBy t ("*new(" ++ name ++ ")")
  | composite {x : String} (h : t.hasBody) (hx : t.Spells goesBy x) :
      ZeroLiteral symbols goesBy t (x ++ "\x7b\x7d")

/-- The text is a zero literal of the type, which is no type set. -/
structure SpellsZero {σ : Type} (symbols : Symbols σ) (goesBy : String → String → Prop)
    (t : GoType) (x : String) : Prop where
  no_union : t.isUnion = false
  literal  : ZeroLiteral symbols goesBy t x

/-- The zero value of a definition is one of the type it defines, unless it is a composite literal. -/
theorem ZeroLiteral.of_told {σ : Type} {symbols : Symbols σ} {goesBy : String → String → Prop}
    {u : GoType} {x : String} {n : NamedType} {state : σ}
    (hu : (symbols.underlying n state).1 = .ok u) (hbody : u.hasBody = false)
    (h : ZeroLiteral symbols goesBy u x) : ZeroLiteral symbols goesBy (.named n) x := by
  cases h with
  | nil => exact .nil
  | basic kind => exact .basic kind
  | parameter h =>
    cases h with
    | refl   => exact .parameter (.told hu)
    | told h => cases hbody
  | composite h hx => simp [hbody] at h

namespace Resolver

variable {σ α β : Type} {symbols : Symbols σ} {goesBy : String → String → Prop}
  {r r' : Resolver σ}

/-- The texts that are remembered spell types and zero values. -/
structure Faithful (symbols : Symbols σ) (goesBy : String → String → Prop) (r : Resolver σ) :
    Prop where
  names : ∀ t x, r.names.lookup t = some x → t.Spells goesBy x
  zeros : ∀ t x, r.zeros.lookup t = some x → SpellsZero symbols goesBy t x

/-- Every package in the table goes by the identifier it has there. -/
def Covers (goesBy : String → String → Prop) (r : Resolver σ) : Prop :=
  ∀ i ∈ r.imports.entries, goesBy i.path i.ident

theorem Covers.of_grown (hg : Grown r r') (h : Covers goesBy r') : Covers goesBy r :=
  fun i hi => h i (hg.entries_subset hi)

/-- The computation only adds to a resolver, and where the resolver was faithful, it is so
afterwards and the result has the property. -/
structure Writes (symbols : Symbols σ) (goesBy : String → String → Prop) (m : ResolverM σ α)
    (p : α → Prop) : Prop where
  grows    : Grows m
  faithful : ∀ r, Covers goesBy (m.run.run r).2 → Faithful symbols goesBy r →
    Faithful symbols goesBy (m.run.run r).2 ∧ ∀ a, (m.run.run r).1 = .ok a → p a

namespace Writes

theorem pure {p : α → Prop} {a : α} (h : p a) :
    Writes symbols goesBy (pure a : ResolverM σ α) p where
  grows := .pure a
  faithful r _ hr := ⟨hr, by rintro _ ⟨⟩; exact h⟩

theorem throw {p : α → Prop} (e : Error) :
    Writes symbols goesBy (throw e : ResolverM σ α) p where
  grows := .throw e
  faithful _ _ hr := ⟨hr, nofun⟩

/-- What the first result is known to be may be used for the second one. -/
theorem bind {m : ResolverM σ α} {f : α → ResolverM σ β} {p : α → Prop} {q : β → Prop}
    (hm : Writes symbols goesBy m p)
    (hf : ∀ a, Writes symbols goesBy (f a) fun b => p a → q b) :
    Writes symbols goesBy (m >>= f) q where
  grows := hm.grows.bind fun a => (hf a).grows
  faithful r hc hr := by
    rw [run_bind] at hc ⊢
    cases hres : (m.run.run r).1 with
    | error e =>
      rw [hres] at hc
      exact ⟨(hm.faithful r hc hr).1, nofun⟩
    | ok a =>
      rw [hres] at hc
      -- the packages of the table in between still go by their identifiers at the end
      obtain ⟨hmid, hp⟩ := hm.faithful r (hc.of_grown ((hf a).grows _)) hr
      obtain ⟨hend, hq⟩ := (hf a).faithful _ hc hmid
      exact ⟨hend, fun b hb => hq b hb (hp a hres)⟩

theorem mono {m : ResolverM σ α} {p q : α → Prop} (hm : Writes symbols goesBy m p)
    (h : ∀ a, p a → q a) : Writes symbols goesBy m q where
  grows := hm.grows
  faithful r hc hr := ⟨(hm.faithful r hc hr).1, fun a ha => h a ((hm.faithful r hc hr).2 a ha)⟩

theorem rememberedName {t : GoType} {write : ResolverM σ String}
    (hw : Writes symbols goesBy write (t.Spells goesBy)) :
    Writes symbols goesBy (rememberedName t write) (t.Spells goesBy) where
  grows := hw.grows.rememberedName
  faithful r hc hr := by
    rw [run_rememberedName] at hc ⊢
    cases hl : r.names.lookup t with
    | some x => exact ⟨hr, by rintro _ ⟨⟩; exact hr.names t x hl⟩
    | none =>
      rw [hl] at hc
      have h := hw.faithful r
      rcases hrun : write.run.run r with ⟨e | x, r'⟩ <;> simp only [hrun] at hc h
      · exact ⟨(h hc hr).1, nofun⟩
      · obtain ⟨hr', hx⟩ := h hc hr
        refine ⟨⟨forall_lookup_cons (hx x rfl) hr'.names, hr'.zeros⟩, ?_⟩
        rintro _ ⟨⟩
        exact hx x rfl

theorem rememberedZero {t : GoType} {write : ResolverM σ String}
    (hw : Writes symbols goesBy write (SpellsZero symbols goesBy t)) :
    Writes symbols goesBy (rememberedZero t write) (SpellsZero symbols goesBy t) where
  grows := hw.grows.rememberedZero
  faithful r hc hr := by
    rw [run_rememberedZero] at hc ⊢
    cases hl : r.zeros.lookup t with
    | some x => exact ⟨hr, by rintro _ ⟨⟩; exact hr.zeros t x hl⟩
    | none =>
      rw [hl] at hc
      have h := hw.faithful r
      rcases hrun : write.run.run r with ⟨e | x, r'⟩ <;> simp only [hrun] at hc h
      · exact ⟨(h hc hr).1, nofun⟩
      · obtain ⟨hr', hx⟩ := h hc hr
        refine ⟨⟨hr'.names, forall_lookup_cons (hx x rfl) hr'.zeros⟩, ?_⟩
        rintro _ ⟨⟩
        exact hx x rfl

end Writes

/-! ### Names -/

theorem writes_importPackage (symbols : Symbols σ) (goesBy : String → String → Prop)
    (path : String) :
    Writes symbols goesBy (importPackage symbols path) fun i => goesBy path i.ident where
  grows := (growsNames_importPackage symbols path).grows
  faithful r hc hr := by
    rw [run_importPackage] at hc ⊢
    refine ⟨⟨hr.names, hr.zeros⟩, ?_⟩
    rintro _ ⟨⟩
    obtain ⟨hmem, hpath⟩ := ImportTable.add_fst_mem r.imports
      (c := ⟨path, (symbols.packageName path r.state).1, none⟩) rfl
    exact (congrArg (goesBy · _) hpath).mp (hc _ hmem)

theorem writes_qualified (symbols : Symbols σ) (goesBy : String → String → Prop)
    (package name : String) :
    Writes symbols goesBy (qualified symbols package name)
      (SpellsQualified goesBy package name) :=
  (writes_importPackage symbols goesBy package).bind fun i => .pure fun hi => ⟨i.ident, hi, rfl⟩

theorem writes_lengthText (symbols : Symbols σ) (goesBy : String → String → Prop)
    (length : ArrayLength) (elem : GoType) :
    Writes symbols goesBy (lengthText symbols length elem) (length.Spells goesBy) := by
  cases length with
  | literal text => exact .pure rfl
  | constant package name =>
    rw [lengthText]
    split
    · exact writes_qualified symbols goesBy package name
    · exact .throw _

theorem writes_namedBase (symbols : Symbols σ) (goesBy : String → String → Prop)
    (n : NamedType) :
    Writes symbols goesBy (namedBase symbols n) (SpellsBase goesBy n.package n.name) := by
  obtain ⟨package, name, arguments⟩ := n
  cases package with
  | none => exact .pure rfl
  | some package =>
    simp only [namedBase]
    split
    · exact writes_qualified symbols goesBy package name
    · exact .throw _

mutual

/-- Writing a type spells it. -/
theorem writes_write (symbols : Symbols σ) (goesBy : String → String → Prop) : (t : GoType) →
    Writes symbols goesBy (write symbols t) (t.Spells goesBy)
  | .basic kind => by
    cases kind with
    | unsafePointer => exact writes_qualified symbols goesBy "unsafe" "Pointer"
    | _ => exact .pure rfl
  | .named n => writes_writeNamed symbols goesBy n
  | .parameter name => .pure rfl
  | .pointer elem =>
    -- a remembered text was written for the same type, so it spells it too
    (writes_write symbols goesBy elem).rememberedName.bind fun y => .pure fun hy => ⟨y, hy, rfl⟩
  | .slice elem =>
    (writes_write symbols goesBy elem).rememberedName.bind fun y => .pure fun hy => ⟨y, hy, rfl⟩
  | .array length elem =>
    (writes_lengthText symbols goesBy length elem).bind fun l =>
      (writes_write symbols goesBy elem).rememberedName.bind fun y =>
        .pure fun hy hl => ⟨l, y, hl, hy, rfl⟩
  | .map key value =>
    (writes_write symbols goesBy key).rememberedName.bind fun k =>
      (writes_write symbols goesBy value).rememberedName.bind fun v =>
        .pure fun hv hk => ⟨k, v, hk, hv, rfl⟩
  | .channel _ elem =>
    (writes_write symbols goesBy elem).rememberedName.bind fun y => .pure fun hy => ⟨y, hy, rfl⟩
  | .function signature =>
    (writes_writeSignature symbols goesBy signature).bind fun y => .pure fun hy => ⟨y, hy, rfl⟩
  | .struct fields =>
    (writes_writeFields symbols goesBy fields).bind fun ys => .pure fun hys => ⟨ys, hys, rfl⟩
  | .interface methods embeds =>
    (writes_writeMethods symbols goesBy methods).bind fun ys =>
      (writes_writeTypes symbols goesBy embeds).bind fun zs =>
        .pure fun hzs hys => ⟨ys, zs, hys, hzs, rfl⟩
  | .union terms =>
    (writes_writeTerms symbols goesBy terms).bind fun ys => .pure fun hys => ⟨ys, hys, rfl⟩

theorem writes_writeTypes (symbols : Symbols σ) (goesBy : String → String → Prop) :
    (ts : List GoType) → Writes symbols goesBy (writeTypes symbols ts) (SpellTypes goesBy ts)
  | [] => .pure rfl
  | t :: ts =>
    (writes_write symbols goesBy t).rememberedName.bind fun y =>
      (writes_writeTypes symbols goesBy ts).bind fun ys =>
        .pure fun hys hy => ⟨y, ys, hy, hys, rfl⟩

theorem writes_writeNamed (symbols : Symbols σ) (goesBy : String → String → Prop) :
    (n : NamedType) → Writes symbols goesBy (writeNamed symbols n) (n.Spells goesBy)
  | ⟨package, name, arguments⟩ =>
    (writes_namedBase symbols goesBy ⟨package, name, arguments⟩).bind fun base =>
      (writes_writeTypes symbols goesBy arguments).bind fun ys =>
        .pure fun hys hbase => ⟨base, ys, hbase, hys, rfl⟩

theorem writes_writeSignature (symbols : Symbols σ) (goesBy : String → String → Prop) :
    (s : Signature) → Writes symbols goesBy (writeSignature symbols s) (s.Spells goesBy)
  | ⟨params, results, _⟩ =>
    (writes_writeValues symbols goesBy params).bind fun ps =>
      (writes_writeValues symbols goesBy results).bind fun rs =>
        .pure fun hrs hps => ⟨ps, rs, hps, hrs, rfl⟩

theorem writes_writeValues (symbols : Symbols σ) (goesBy : String → String → Prop) :
    (vs : List Value) → Writes symbols goesBy (writeValues symbols vs) (SpellValues goesBy vs)
  | [] => .pure rfl
  | ⟨_, t⟩ :: rest =>
    (writes_write symbols goesBy t).rememberedName.bind fun y =>
      (writes_writeValues symbols goesBy rest).bind fun ys =>
        .pure fun hys hy => ⟨y, ys, hy, hys, rfl⟩

theorem writes_writeFields (symbols : Symbols σ) (goesBy : String → String → Prop) :
    (fs : List Field) → Writes symbols goesBy (writeFields symbols fs) (SpellFields goesBy fs)
  | [] => .pure rfl
  | ⟨_, t, _⟩ :: rest =>
    (writes_write symbols goesBy t).rememberedName.bind fun y =>
      (writes_writeFields symbols goesBy rest).bind fun ys =>
        .pure fun hys hy => ⟨y, ys, hy, hys, rfl⟩

theorem writes_writeMethods (symbols : Symbols σ) (goesBy : String → String → Prop) :
    (ms : List MethodSpec) →
      Writes symbols goesBy (writeMethods symbols ms) (SpellMethods goesBy ms)
  | [] => .pure rfl
  | ⟨_, s⟩ :: rest =>
    (writes_writeSignature symbols goesBy s).bind fun y =>
      (writes_writeMethods symbols goesBy rest).bind fun ys =>
        .pure fun hys hy => ⟨y, ys, hy, hys, rfl⟩

theorem writes_writeTerms (symbols : Symbols σ) (goesBy : String → String → Prop) :
    (ts : List Term) → Writes symbols goesBy (writeTerms symbols ts) (SpellTerms goesBy ts)
  | [] => .pure rfl
  | ⟨_, t⟩ :: rest =>
    (writes_write symbols goesBy t).rememberedName.bind fun y =>
      (writes_writeTerms symbols goesBy rest).bind fun ys =>
        .pure fun hys hy => ⟨y, ys, hy, hys, rfl⟩

end

/-- Naming a type spells it. -/
theorem writes_name (symbols : Symbols σ) (goesBy : String → String → Prop) (t : GoType) :
    Writes symbols goesBy (name symbols t) (t.Spells goesBy) :=
  (writes_write symbols goesBy t).rememberedName

/-! ### Zero values -/

/-- A definition is one that the symbols gave. -/
theorem writes_underlying (symbols : Symbols σ) (goesBy : String → String → Prop)
    (n : NamedType) :
    Writes symbols goesBy (underlying symbols n) fun u =>
      ∃ state, (symbols.underlying n state).1 = .ok u where
  grows := (growsNames_underlying symbols n).grows
  faithful r _ hr := by
    rw [run_underlying]
    exact ⟨⟨hr.names, hr.zeros⟩, fun u hu => ⟨r.state, hu⟩⟩

theorem writes_writePlainZero (symbols : Symbols σ) (goesBy : String → String → Prop)
    (t : GoType) :
    Writes symbols goesBy (writePlainZero symbols t) (SpellsZero symbols goesBy t) := by
  cases t with
  | basic kind => exact .pure ⟨rfl, .basic kind⟩
  | parameter name => exact .pure ⟨rfl, .parameter (.refl _)⟩
  | array length elem =>
    exact (writes_name symbols goesBy _).bind fun _ => .pure fun hx => ⟨rfl, .composite rfl hx⟩
  | struct fields =>
    exact (writes_name symbols goesBy _).bind fun _ => .pure fun hx => ⟨rfl, .composite rfl hx⟩
  | union terms => exact .throw _
  | named n => exact .throw _
  | _ => exact .pure ⟨rfl, .nil⟩

theorem writes_writeZero (symbols : Symbols σ) (goesBy : String → String → Prop) (t : GoType) :
    Writes symbols goesBy (writeZero symbols t) (SpellsZero symbols goesBy t) := by
  cases t with
  | named n =>
    obtain ⟨package, base, arguments⟩ := n
    cases package with
    | none =>
      rw [writeZero]
      split
      · exact .pure ⟨rfl, .nil⟩
      · exact .throw _
    | some package =>
      refine (writes_underlying symbols goesBy _).bind fun u => ?_
      cases u with
      | array length elem =>
        exact (writes_name symbols goesBy _).bind fun _ =>
          .pure fun hx _ => ⟨rfl, .composite rfl hx⟩
      | struct fields =>
        exact (writes_name symbols goesBy _).bind fun _ =>
          .pure fun hx _ => ⟨rfl, .composite rfl hx⟩
      | union terms => exact .throw _
      | named n => exact .throw _
      | _ =>
        refine (writes_writePlainZero symbols goesBy _).rememberedZero.mono fun x hx htold => ?_
        obtain ⟨state, hstate⟩ := htold
        exact ⟨rfl, hx.literal.of_told hstate rfl⟩
  | _ =>
    rw [writeZero]
    · exact writes_writePlainZero symbols goesBy _
    all_goals simp

/-! ### Calls -/

/-- The empty resolver is faithful. -/
theorem faithful_ofModule (symbols : Symbols σ) (goesBy : String → String → Prop)
    (module : String) (state : σ) : Faithful symbols goesBy (ofModule module state) where
  names := by simp [ofModule]
  zeros := by simp [ofModule]

/-- A call keeps a resolver faithful. -/
theorem Faithful.perform (hr : Faithful symbols goesBy r) (c : ResolverCall)
    (hc : Covers goesBy (r.after symbols [c])) :
    Faithful symbols goesBy (r.after symbols [c]) := by
  cases c with
  | name t => exact ((writes_name symbols goesBy t).faithful r hc hr).1
  | zero t => exact ((writes_writeZero symbols goesBy t).rememberedZero.faithful r hc hr).1
  | importPackage path =>
    have h : Writes symbols goesBy ((ResolverCall.importPackage path).perform symbols)
        fun _ => True :=
      (writes_importPackage symbols goesBy path).bind fun _ => .pure fun _ => trivial
    exact (h.faithful r hc hr).1

/-- **Names are spellings.** After any calls, the texts that are remembered spell their types. -/
theorem Faithful.after (hr : Faithful symbols goesBy r) {calls : List ResolverCall}
    (hc : Covers goesBy (r.after symbols calls)) :
    Faithful symbols goesBy (r.after symbols calls) := by
  induction calls generalizing r with
  | nil => exact hr
  | cons c calls ih =>
    have hmid : Covers goesBy (r.after symbols [c]) := hc.of_grown (.after symbols _ calls)
    exact ih (hr.perform c hmid) hc

/-- What a call gave is remembered after later calls. -/
theorem textOf?_after {before rest : List ResolverCall} {c : ResolverCall} {x : String}
    (hc : ∀ path, c ≠ .importPackage path)
    (h : outcome symbols (r.after symbols before) c = .ok x) :
    (r.after symbols (before ++ c :: rest)).textOf? c = some x := by
  rw [List.append_cons, after_append, after_append]
  exact (Grown.after symbols _ rest).textOf? (textOf?_of_outcome hc h)

end Resolver

end GoMocks
