import GoMocks.Proofs.Resolver.Growth
import GoMocks.Proofs.Scope.Footprint

/-!
# Resolving types — two providers side by side

A call depends on the knowledge about packages only by the answers that it gets, and it asks for the
packages that its type mentions alone. With two providers that answer alike for some packages, a call
with types of these has the same outcome and enters the same imports, whatever the states are.

* `Alike`: two computations over different states, with the same results from related states.
* `Resolver.Simulates`: two providers that answer alike for the packages that are kept.
* `Resolver.Follows`: two computations of resolvers that are alike; `follows_write` has a line for
  each form of types.
* `Resolver.after_keeps`: what every answer keeps, a run keeps.
-/

namespace GoMocks

variable {σ τ α β : Type}

/-- From related states two computations have the same result and lead to related states. -/
def Alike (rel : σ → τ → Prop) (f : σ → α × σ) (f' : τ → α × τ) : Prop :=
  ∀ s s', rel s s' → (f s).1 = (f' s').1 ∧ rel (f s).2 (f' s').2

namespace Resolver

variable {symbols : Symbols σ} {symbols' : Symbols τ} {kept : String → Prop} {rel : σ → τ → Prop}

/-- Two providers that answer alike for the packages that are kept. -/
structure Simulates (symbols : Symbols σ) (symbols' : Symbols τ) (kept : String → Prop)
    (rel : σ → τ → Prop) : Prop where
  packageName : ∀ path, kept path →
    Alike rel (symbols.packageName path) (symbols'.packageName path)
  underlying  : ∀ n, MentionOnly kept (GoType.named n).parts →
    Alike rel (symbols.underlying n) (symbols'.underlying n)

/-- Two resolvers with the same imports and texts, and related states of knowledge. -/
structure Related (rel : σ → τ → Prop) (r : Resolver σ) (r' : Resolver τ) : Prop where
  imports : r.imports = r'.imports
  names   : r.names = r'.names
  zeros   : r.zeros = r'.zeros
  state   : rel r.state r'.state

/-- Two computations of resolvers that are alike. -/
def Follows (rel : σ → τ → Prop) (m : ResolverM σ α) (m' : ResolverM τ α) : Prop :=
  Alike (Related rel) m.run.run m'.run.run

namespace Follows

theorem pure (a : α) : Follows rel (pure a : ResolverM σ α) (pure a : ResolverM τ α) :=
  fun _ _ hr => ⟨rfl, hr⟩

theorem lift (x : Except Error α) :
    Follows rel (liftM x : ResolverM σ α) (liftM x : ResolverM τ α) :=
  fun _ _ hr => ⟨rfl, hr⟩

theorem throw (e : Error) : Follows rel (throw e : ResolverM σ α) (throw e : ResolverM τ α) :=
  fun _ _ hr => ⟨rfl, hr⟩

theorem bind {m : ResolverM σ α} {m' : ResolverM τ α} {f : α → ResolverM σ β}
    {f' : α → ResolverM τ β} (hm : Follows rel m m') (hf : ∀ a, Follows rel (f a) (f' a)) :
    Follows rel (m >>= f) (m' >>= f') := by
  intro r r' hr
  obtain ⟨heq, hrel⟩ := hm r r' hr
  simp only [run_bind, ← heq]
  cases (m.run.run r).1 with
  | error e => exact ⟨rfl, hrel⟩
  | ok a    => exact hf a _ _ hrel

/-- The imports of a resolver may be read on both sides, but not the state of its knowledge. -/
theorem get_bind {f : Resolver σ → ResolverM σ β} {f' : Resolver τ → ResolverM τ β}
    (hf : ∀ r r', r.imports = r'.imports → Follows rel (f r) (f' r')) :
    Follows rel (get >>= f) (get >>= f') :=
  fun r r' hr => hf r r' hr.imports r r' hr

theorem mapM {γ : Type} {f : γ → ResolverM σ α} {f' : γ → ResolverM τ α} :
    (items : List γ) → (∀ c ∈ items, Follows rel (f c) (f' c)) →
      Follows rel (items.mapM f) (items.mapM f')
  | [], _ => .pure []
  | c :: items, h => by
    obtain ⟨hc, hitems⟩ := List.forall_mem_cons.mp h
    rw [List.mapM_cons, List.mapM_cons]
    exact hc.bind fun _ => (Follows.mapM items hitems).bind fun _ => .pure _

theorem forM {γ : Type} {f : γ → ResolverM σ PUnit} {f' : γ → ResolverM τ PUnit} :
    (items : List γ) → (∀ c ∈ items, Follows rel (f c) (f' c)) →
      Follows rel (items.forM f) (items.forM f')
  | [], _ => .pure _
  | c :: items, h => by
    obtain ⟨hc, hitems⟩ := List.forall_mem_cons.mp h
    exact hc.bind fun _ => Follows.forM items hitems

theorem rememberedName {t : GoType} {write : ResolverM σ String} {write' : ResolverM τ String}
    (hw : Follows rel write write') :
    Follows rel (rememberedName t write) (rememberedName t write') := by
  intro r r' hr
  simp only [run_rememberedName, ← hr.names]
  cases r.names.lookup t with
  | some text => exact ⟨rfl, hr⟩
  | none =>
    obtain ⟨heq, hrel⟩ := hw r r' hr
    rcases hrun : write.run.run r with ⟨out, r₁⟩
    rcases hrun' : write'.run.run r' with ⟨out', r₁'⟩
    rw [hrun, hrun'] at heq hrel
    obtain rfl : out = out' := heq
    cases out with
    | error e => exact ⟨rfl, hrel⟩
    | ok text => exact ⟨rfl, hrel.imports, congrArg _ hrel.names, hrel.zeros, hrel.state⟩

theorem rememberedZero {t : GoType} {write : ResolverM σ String} {write' : ResolverM τ String}
    (hw : Follows rel write write') :
    Follows rel (rememberedZero t write) (rememberedZero t write') := by
  intro r r' hr
  simp only [run_rememberedZero, ← hr.zeros]
  cases r.zeros.lookup t with
  | some text => exact ⟨rfl, hr⟩
  | none =>
    obtain ⟨heq, hrel⟩ := hw r r' hr
    rcases hrun : write.run.run r with ⟨out, r₁⟩
    rcases hrun' : write'.run.run r' with ⟨out', r₁'⟩
    rw [hrun, hrun'] at heq hrel
    obtain rfl : out = out' := heq
    cases out with
    | error e => exact ⟨rfl, hrel⟩
    | ok text => exact ⟨rfl, hrel.imports, hrel.names, congrArg _ hrel.zeros, hrel.state⟩

end Follows

/-- A provider answers like itself, and the state keeps what every answer keeps of it. -/
theorem simulates_self {keeps : σ → Prop}
    (hname : ∀ path s, keeps s → keeps (symbols.packageName path s).2)
    (hunderlying : ∀ n s, keeps s → keeps (symbols.underlying n s).2) :
    Simulates symbols symbols kept fun s s' => s = s' ∧ keeps s :=
  ⟨fun path _ s _ ⟨h, hs⟩ => h ▸ ⟨rfl, rfl, hname path s hs⟩,
    fun n _ s _ ⟨h, hs⟩ => h ▸ ⟨rfl, rfl, hunderlying n s hs⟩⟩

/-! ### The calls -/

theorem follows_importPackage (h : Simulates symbols symbols' kept rel) {path : String}
    (hpath : kept path) : Follows rel (importPackage symbols path) (importPackage symbols' path) := by
  intro r r' hr
  obtain ⟨heq, hrel⟩ := h.packageName path hpath _ _ hr.state
  rw [run_importPackage, run_importPackage, ← heq, ← hr.imports]
  exact ⟨rfl, rfl, hr.names, hr.zeros, hrel⟩

theorem follows_underlying (h : Simulates symbols symbols' kept rel) {n : NamedType}
    (hn : MentionOnly kept (GoType.named n).parts) :
    Follows rel (underlying symbols n) (underlying symbols' n) := by
  intro r r' hr
  obtain ⟨heq, hrel⟩ := h.underlying n hn _ _ hr.state
  rw [run_underlying, run_underlying, ← heq]
  exact ⟨rfl, hr.imports, hr.names, hr.zeros, hrel⟩

theorem follows_qualified (h : Simulates symbols symbols' kept rel) {package : String}
    (hpackage : kept package) (name : String) :
    Follows rel (qualified symbols package name) (qualified symbols' package name) :=
  (follows_importPackage h hpackage).bind fun _ => .pure _

theorem follows_lengthText (h : Simulates symbols symbols' kept rel) (length : ArrayLength)
    {elem : GoType} (hlength : ∀ path ∈ (GoType.array length elem).package?, kept path) :
    Follows rel (lengthText symbols length elem) (lengthText symbols' length elem) := by
  cases length with
  | literal text => exact .pure text
  | constant package name =>
    rw [lengthText, lengthText]
    split
    · exact follows_qualified h (hlength package rfl) name
    · exact .throw _

theorem follows_namedBase (h : Simulates symbols symbols' kept rel) {n : NamedType}
    (hn : ∀ path ∈ n.package, kept path) :
    Follows rel (namedBase symbols n) (namedBase symbols' n) := by
  obtain ⟨package, name, arguments⟩ := n
  cases package with
  | none => exact .pure name
  | some package =>
    simp only [namedBase]
    split
    · exact follows_qualified h (hn package rfl) name
    · exact .throw _

mutual

/-- Writing a type of kept packages follows. -/
theorem follows_write (h : Simulates symbols symbols' kept rel) : (t : GoType) →
    MentionOnly kept t.parts → Follows rel (write symbols t) (write symbols' t)
  | .basic kind, ht => by
    cases kind with
    | unsafePointer => exact follows_qualified h (ht.head "unsafe" rfl) "Pointer"
    | _ => exact .pure _
  | .named n, ht => follows_writeNamed h n ht
  | .parameter name, _ => .pure name
  | .pointer elem, ht => (follows_write h elem ht.tail).rememberedName.bind fun _ => .pure _
  | .slice elem, ht => (follows_write h elem ht.tail).rememberedName.bind fun _ => .pure _
  | .array length elem, ht =>
    (follows_lengthText h length ht.head).bind fun _ =>
      (follows_write h elem ht.tail).rememberedName.bind fun _ => .pure _
  | .map key value, ht =>
    (follows_write h key ht.tail.left).rememberedName.bind fun _ =>
      (follows_write h value ht.tail.right).rememberedName.bind fun _ => .pure _
  | .channel _ elem, ht => (follows_write h elem ht.tail).rememberedName.bind fun _ => .pure _
  | .function signature, ht => (follows_writeSignature h signature ht.tail).bind fun _ => .pure _
  | .struct fields, ht => (follows_writeFields h fields ht.tail).bind fun _ => .pure _
  | .interface methods embeds, ht =>
    (follows_writeMethods h methods ht.tail.left).bind fun _ =>
      (follows_writeTypes h embeds ht.tail.right).bind fun _ => .pure _
  | .union terms, ht => (follows_writeTerms h terms ht.tail).bind fun _ => .pure _

theorem follows_writeTypes (h : Simulates symbols symbols' kept rel) : (ts : List GoType) →
    MentionOnly kept (typeParts ts) → Follows rel (writeTypes symbols ts) (writeTypes symbols' ts)
  | [], _ => .pure []
  | t :: ts, ht =>
    (follows_write h t ht.left).rememberedName.bind fun _ =>
      (follows_writeTypes h ts ht.right).bind fun _ => .pure _

theorem follows_writeNamed (h : Simulates symbols symbols' kept rel) : (n : NamedType) →
    MentionOnly kept (GoType.named n).parts →
      Follows rel (writeNamed symbols n) (writeNamed symbols' n)
  | ⟨_, _, arguments⟩, hn =>
    (follows_namedBase h hn.head).bind fun _ =>
      (follows_writeTypes h arguments hn.tail).bind fun _ => .pure _

theorem follows_writeSignature (h : Simulates symbols symbols' kept rel) : (s : Signature) →
    MentionOnly kept s.parts → Follows rel (writeSignature symbols s) (writeSignature symbols' s)
  | ⟨params, results, _⟩, hs =>
    (follows_writeValues h params hs.left).bind fun _ =>
      (follows_writeValues h results hs.right).bind fun _ => .pure _

theorem follows_writeValues (h : Simulates symbols symbols' kept rel) : (vs : List Value) →
    MentionOnly kept (valueParts vs) →
      Follows rel (writeValues symbols vs) (writeValues symbols' vs)
  | [], _ => .pure []
  | ⟨_, t⟩ :: rest, hvs =>
    (follows_write h t hvs.left).rememberedName.bind fun _ =>
      (follows_writeValues h rest hvs.right).bind fun _ => .pure _

theorem follows_writeFields (h : Simulates symbols symbols' kept rel) : (fs : List Field) →
    MentionOnly kept (fieldParts fs) →
      Follows rel (writeFields symbols fs) (writeFields symbols' fs)
  | [], _ => .pure []
  | ⟨_, t, _⟩ :: rest, hfs =>
    (follows_write h t hfs.left).rememberedName.bind fun _ =>
      (follows_writeFields h rest hfs.right).bind fun _ => .pure _

theorem follows_writeMethods (h : Simulates symbols symbols' kept rel) : (ms : List MethodSpec) →
    MentionOnly kept (methodParts ms) →
      Follows rel (writeMethods symbols ms) (writeMethods symbols' ms)
  | [], _ => .pure []
  | ⟨_, s⟩ :: rest, hms =>
    (follows_writeSignature h s hms.left).bind fun _ =>
      (follows_writeMethods h rest hms.right).bind fun _ => .pure _

theorem follows_writeTerms (h : Simulates symbols symbols' kept rel) : (ts : List Term) →
    MentionOnly kept (termParts ts) →
      Follows rel (writeTerms symbols ts) (writeTerms symbols' ts)
  | [], _ => .pure []
  | ⟨_, t⟩ :: rest, hts =>
    (follows_write h t hts.left).rememberedName.bind fun _ =>
      (follows_writeTerms h rest hts.right).bind fun _ => .pure _

end

section

variable {t : GoType}

/-- Naming a type of kept packages follows. -/
theorem follows_name (h : Simulates symbols symbols' kept rel) (ht : MentionOnly kept t.parts) :
    Follows rel (name symbols t) (name symbols' t) :=
  (follows_write h t ht).rememberedName

theorem follows_writePlainZero (h : Simulates symbols symbols' kept rel)
    (ht : MentionOnly kept t.parts) :
    Follows rel (writePlainZero symbols t) (writePlainZero symbols' t) := by
  cases t with
  | array length elem => exact (follows_name h ht).bind fun _ => .pure _
  | struct fields => exact (follows_name h ht).bind fun _ => .pure _
  | union terms => exact .throw _
  | named n => exact .throw _
  | _ => exact .pure _

theorem follows_writeZero (h : Simulates symbols symbols' kept rel)
    (ht : MentionOnly kept t.parts) :
    Follows rel (writeZero symbols t) (writeZero symbols' t) := by
  cases t with
  | named n =>
    obtain ⟨package, base, arguments⟩ := n
    cases package with
    | none =>
      rw [writeZero, writeZero]
      split
      · exact .pure _
      · exact .throw _
    | some package =>
      refine (follows_underlying h ht).bind fun u => ?_
      -- what the type is defined as is written for the forms that need no import
      cases u with
      | array length elem => exact (follows_name h ht).bind fun _ => .pure _
      | struct fields => exact (follows_name h ht).bind fun _ => .pure _
      | union terms => exact .throw _
      | named n => exact .throw _
      | _ => exact (Follows.pure _).rememberedZero
  | _ => exact follows_writePlainZero h ht

theorem follows_zero (h : Simulates symbols symbols' kept rel) (ht : MentionOnly kept t.parts) :
    Follows rel (zero symbols t) (zero symbols' t) :=
  (follows_writeZero h ht).rememberedZero

end

/-- What every answer keeps of the knowledge, a run keeps. -/
theorem after_keeps {keeps : σ → Prop}
    (hname : ∀ path s, keeps s → keeps (symbols.packageName path s).2)
    (hunderlying : ∀ n s, keeps s → keeps (symbols.underlying n s).2) {r : Resolver σ}
    (hr : keeps r.state) (calls : List ResolverCall) : keeps (r.after symbols calls).state := by
  have hself : Simulates symbols symbols (fun _ => True) fun s s' => s = s' ∧ keeps s :=
    simulates_self hname hunderlying
  have hfollows : ∀ c : ResolverCall, Follows (fun s s' => s = s' ∧ keeps s) (c.perform symbols)
      (c.perform symbols) := by
    intro c
    cases c with
    | name t             => exact follows_name hself fun _ _ _ _ => trivial
    | zero t             => exact follows_zero hself fun _ _ _ _ => trivial
    | importPackage path => exact (follows_importPackage hself trivial).bind fun _ => .pure _
  induction calls generalizing r with
  | nil => exact hr
  | cons c calls ih =>
    obtain ⟨-, hrelated⟩ := hfollows c r r ⟨rfl, rfl, rfl, rfl, hr⟩
    exact ih hrelated.state.2

end Resolver

end GoMocks
