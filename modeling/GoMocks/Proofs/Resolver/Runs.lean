import GoMocks.Proofs.Resolver.Zero

/-!
# Resolving types — sequences of calls

Names, zero values and imports asked of one resolver, in any order, some of them failing.

* `Resolver.outcome`, `Resolver.after`: the outcome of a call, and the resolver after some calls.
* `outcome_eq_rendering`: whatever was remembered on the way, each text is the rendering with the
  identifiers of the last table.
-/

namespace GoMocks

/-- What can be asked of a resolver. -/
inductive ResolverCall
  | name (t : GoType)
  | zero (t : GoType)
  | importPackage (path : String)

namespace ResolverCall

variable {σ : Type}

/-- The answer of a resolver. -/
def perform (symbols : Symbols σ) : ResolverCall → ResolverM σ String
  | .name t             => Resolver.name symbols t
  | .zero t             => Resolver.zero symbols t
  | .importPackage path => return (← Resolver.importPackage symbols path).ident

/-- The answer where nothing is remembered. -/
def rendering (ident : String → String) (define : NamedType → Except Error GoType) :
    ResolverCall → Rendering String
  | .name t             => t.rendering ident
  | .zero t             => t.zeroRendering ident define
  | .importPackage path => .identifier ident path

end ResolverCall

namespace Resolver

variable {σ : Type} {symbols : Symbols σ} {nameOf : String → String} {r : Resolver σ}

/-- The outcome of a call. -/
def outcome (symbols : Symbols σ) (r : Resolver σ) (c : ResolverCall) : Except Error String :=
  ((c.perform symbols).run.run r).1

/-- The resolver after some calls, of which some may have failed. -/
def after (symbols : Symbols σ) (r : Resolver σ) (calls : List ResolverCall) : Resolver σ :=
  calls.foldl (fun r c => ((c.perform symbols).run.run r).2) r

/-- Every call answers with its rendering. -/
theorem answers_perform (hname : symbols.NamesBy nameOf) (c : ResolverCall) :
    Answers symbols nameOf (c.perform symbols) fun ident define => c.rendering ident define := by
  cases c with
  | name t => exact Renders.answers fun _ => renders_name hname t
  | zero t => exact answers_zero hname t
  | importPackage path => exact Renders.answers fun _ => renders_ident hname path id

/-- The empty resolver is good. -/
theorem good_ofModule (symbols : Symbols σ) (nameOf : String → String) (module : String)
    (state : σ) : Good symbols nameOf (ofModule module state) where
  sound := .empty module
  names := by simp [ofModule]
  zeros := by simp [ofModule]

/-- A resolver stays good through every sequence of calls. -/
theorem Good.after (hname : symbols.NamesBy nameOf) (hr : Good symbols nameOf r)
    (calls : List ResolverCall) :
    Good symbols nameOf (r.after symbols calls) ∧ Keeps r (r.after symbols calls) := by
  induction calls generalizing r with
  | nil => exact ⟨hr, .refl r⟩
  | cons c calls ih =>
    obtain ⟨hg, hk, -⟩ := answers_perform hname c r hr
    obtain ⟨hg', hk'⟩ := ih hg
    exact ⟨hg', hk.trans hk'⟩

theorem after_append (r : Resolver σ) (calls rest : List ResolverCall) :
    r.after symbols (calls ++ rest) = (r.after symbols calls).after symbols rest :=
  List.foldl_append

/-- A call somewhere in a sequence, seen from the table at the end. -/
theorem outcome_of_mem (hname : symbols.NamesBy nameOf) (hr : Good symbols nameOf r)
    {before rest : List ResolverCall} {c : ResolverCall} {ident : String → String}
    (ha : (r.after symbols (before ++ c :: rest)).imports.Agrees ident) :
    ∃ define, symbols.Tells define ∧
      outcome symbols (r.after symbols before) c = (c.rendering ident define).outcome ∧
      (c.rendering ident define).packages ⊆
        (r.after symbols (before ++ c :: rest)).imports.entries.map Import.path := by
  obtain ⟨hg, -⟩ := hr.after hname before
  obtain ⟨hg', -, define, ht, h⟩ := answers_perform hname c _ hg
  obtain ⟨-, hk⟩ := hg'.after hname rest
  rw [after_append] at ha ⊢
  obtain ⟨hout, himports⟩ := h ident (ha.of_extends hk.imports)
  refine ⟨define, ht, hout, fun p hp => (hk.imports.map Import.path).subset ?_⟩
  rw [himports, ImportTable.mem_paths_enter]
  exact .inr hp

/-- A zero value that was written is remembered to the end. -/
theorem lookup_of_outcome_zero (hname : symbols.NamesBy nameOf) (hr : Good symbols nameOf r)
    {before rest : List ResolverCall} {t : GoType} {text : String}
    (h : outcome symbols (r.after symbols before) (.zero t) = .ok text) :
    (r.after symbols (before ++ .zero t :: rest)).zeros.lookup t = some text := by
  obtain ⟨hg, -⟩ := hr.after hname before
  obtain ⟨hg', -, -⟩ := answers_zero hname t _ hg
  obtain ⟨-, hk⟩ := hg'.after hname rest
  rw [after_append]
  exact hk.zeros t text (lookup_rememberedZero h)

/-- A call that succeeded gives the same text ever after. -/
theorem outcome_again (hname : symbols.NamesBy nameOf) (hr : Good symbols nameOf r)
    {before between : List ResolverCall} {c : ResolverCall} {text : String}
    (h : outcome symbols (r.after symbols before) c = .ok text) :
    outcome symbols (r.after symbols (before ++ c :: between)) c = .ok text := by
  have hlist : before ++ c :: between ++ [c] = before ++ c :: (between ++ [c]) := by simp
  have ha := (hr.after hname (before ++ c :: between ++ [c])).1.sound.agrees_identOf
  obtain ⟨_, -, hlast, -⟩ := outcome_of_mem hname hr ha
  rw [hlist] at ha
  obtain ⟨_, -, hfirst, -⟩ := outcome_of_mem hname hr ha
  cases c with
  | zero t =>
    have hl : (r.after symbols (before ++ .zero t :: between)).zeros.lookup t = some text :=
      lookup_of_outcome_zero hname hr h
    rw [outcome, ResolverCall.perform, zero, run_rememberedZero, hl]
  | name t =>
    rw [hlist] at hlast
    exact (hlast.trans hfirst.symm).trans h
  | importPackage path =>
    rw [hlist] at hlast
    exact (hlast.trans hfirst.symm).trans h

/-- One reading of the definitions explains all zero values that a good resolver remembers. -/
theorem Good.exists_define (hr : Good symbols nameOf r) :
    ∃ define, symbols.Tells define ∧ ∀ t text, r.zeros.lookup t = some text →
      Remembered r.imports (fun ident => t.zeroRendering ident define) text := by
  choose f ht hm using hr.zeros
  let define : NamedType → Except Error GoType := fun n =>
    match h : r.zeros.lookup (.named n) with
    | some text => f (.named n) text h n
    | none      => (symbols.underlying n r.state).1
  refine ⟨define, fun n => ?_, fun t text h => ?_⟩
  · simp only [define]
    split
    · exact ht _ _ _ n
    · exact ⟨r.state, rfl⟩
  · have hz : ∀ ident, t.zeroRendering ident define = t.zeroRendering ident (f t text h) := by
      refine fun ident => GoType.zeroRendering_congr ident ?_
      rintro n rfl
      simp only [define]
      split
      · next text' h' =>
        cases h.symm.trans h'
        rfl
      · next h' => cases h.symm.trans h'
    simpa only [hz] using hm t text h

/-- The table after some calls, where definitions are told the same way at all times. -/
theorem imports_after (hname : symbols.NamesBy nameOf)
    {define : NamedType → Except Error GoType} (hdef : ∀ n s, (symbols.underlying n s).1 = define n)
    (hr : Good symbols nameOf r) {calls : List ResolverCall} {ident : String → String}
    (ha : (r.after symbols calls).imports.Agrees ident) :
    (r.after symbols calls).imports =
      r.imports.enter nameOf (calls.flatMap fun c => (c.rendering ident define).packages) := by
  induction calls generalizing r with
  | nil => rfl
  | cons c calls ih =>
    obtain ⟨hg, -, define', ht, h⟩ := answers_perform hname c r hr
    obtain rfl : define' = define := funext fun n => by
      obtain ⟨s, hs⟩ := ht n
      rw [← hs, hdef]
    obtain ⟨-, hk⟩ := hg.after hname calls
    obtain ⟨-, himports⟩ := h ident (ha.of_extends hk.imports)
    rw [List.flatMap_cons, ImportTable.enter_append, ← himports]
    exact ih hg ha

/-- **What is remembered cannot be told.** Ask a new resolver for names, zero values and imports in
any order, where the declared name of a package is a function of its path. With the identifiers of
the table at the end:

* each call for a name has the outcome of the rendering, and the packages in it have entries;
* the zero values that were written are renderings of zero values, for definitions that were told;
* a call that succeeded gives the same text when it is repeated.

Where definitions are a function too, all outcomes and the table itself are those of a resolver
that remembers nothing. -/
theorem outcome_eq_rendering {σ : Type} (symbols : Symbols σ) (nameOf : String → String)
    (hname : ∀ path s, (symbols.packageName path s).1 = nameOf path) (module : String) (state : σ)
    (calls : List ResolverCall) :
    let first := ofModule module state
    let last := first.after symbols calls
    let ident := last.imports.identOf
    (∀ before t rest, calls = before ++ .name t :: rest →
      outcome symbols (first.after symbols before) (.name t) = (t.rendering ident).outcome ∧
        (t.rendering ident).packages ⊆ last.imports.all.map Import.path) ∧
    (∃ define, symbols.Tells define ∧
      ∀ before t rest text, calls = before ++ .zero t :: rest →
        outcome symbols (first.after symbols before) (.zero t) = .ok text →
          (t.zeroRendering ident define).outcome = .ok text ∧
            (t.zeroRendering ident define).packages ⊆ last.imports.all.map Import.path) ∧
    (∀ before c between rest text, calls = before ++ c :: (between ++ c :: rest) →
      outcome symbols (first.after symbols before) c = .ok text →
        outcome symbols (first.after symbols (before ++ c :: between)) c = .ok text) ∧
    ∀ define, (∀ n s, (symbols.underlying n s).1 = define n) →
      (∀ before c rest, calls = before ++ c :: rest →
        outcome symbols (first.after symbols before) c = (c.rendering ident define).outcome) ∧
      last.imports = ImportTable.enter ⟨module, []⟩ nameOf
        (calls.flatMap fun c => (c.rendering ident define).packages) := by
  intro first last ident
  have hr : Good symbols nameOf first := good_ofModule symbols nameOf module state
  have hlast : Good symbols nameOf last := (hr.after hname calls).1
  have ha : last.imports.Agrees ident := hlast.sound.agrees_identOf
  have hpaths : last.imports.entries.map Import.path ⊆ last.imports.all.map Import.path :=
    (last.imports.all_perm.symm.map Import.path).subset
  refine ⟨?_, ?_, ?_, fun define hdef => ⟨?_, ?_⟩⟩
  · rintro before t rest rfl
    obtain ⟨_, -, hout, hs⟩ := outcome_of_mem hname hr ha
    exact ⟨hout, fun p hp => hpaths (hs hp)⟩
  · obtain ⟨define, ht, hm⟩ := hlast.exists_define
    refine ⟨define, ht, ?_⟩
    rintro before t rest text rfl h
    obtain ⟨hout, hs⟩ := hm t text (lookup_of_outcome_zero hname hr h) ident ha
    exact ⟨hout, fun p hp => hpaths (hs hp)⟩
  · rintro before c between rest text - h
    exact outcome_again hname hr h
  -- the definitions the resolver was told are those of `define`
  · rintro before c rest rfl
    obtain ⟨define', ht, hout, -⟩ := outcome_of_mem hname hr ha
    obtain rfl : define' = define := funext fun n => by
      obtain ⟨s, hs⟩ := ht n
      rw [← hs, hdef]
    exact hout
  · exact imports_after hname hdef hr ha

/-- Two packages called `template`: the text of the first one is the same after the second one came
in under an alias. -/
theorem outcome_eq_rendering_template :
    let symbols : Symbols Unit := ⟨fun _ s => ("template", s), fun _ s => (.ok (.struct []), s)⟩
    let first := ofModule "example.com/app" ()
    let html := GoType.pointer (.named ⟨some "html/template", "Template", []⟩)
    let text := GoType.named ⟨some "text/template", "Template", []⟩
    outcome symbols (first.after symbols [.name html]) (.zero text) =
        .ok "template1.Template\x7b\x7d" ∧
      outcome symbols (first.after symbols [.name html, .zero text]) (.name html) =
        .ok "*template.Template" := by
  intro symbols first html text
  have h := outcome_eq_rendering symbols (fun _ => "template") (fun _ _ => rfl) "example.com/app" ()
    [.name html, .zero text, .name html]
  obtain ⟨-, -, hagain, hall⟩ := h
  obtain ⟨hout, -⟩ := hall (fun _ => .ok (.struct [])) fun _ _ => rfl
  refine ⟨(hout [.name html] (.zero text) [.name html] rfl).trans (by decide +kernel), ?_⟩
  exact hagain [] (.name html) [.zero text] [] _ rfl (by decide +kernel)

end Resolver

end GoMocks
