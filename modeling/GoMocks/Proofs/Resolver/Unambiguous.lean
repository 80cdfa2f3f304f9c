import GoMocks.Proofs.GoType.Reading
import GoMocks.Proofs.Resolver.Spelling

/-!
# Resolving types — no two types share a text

Types are compared by their texts when parameters share one type. That is right because a text
stands for one type: the identifiers in a table tell packages apart, and the text of a type can be
read back.

* `Resolver.GoesBy`: a package goes by an identifier in the table of a resolver.
* `unnamed_eq_of_outcome`: two types that are given the same text, at any time, differ in the names
  of parameters and results only.
* `unnamed_eq_of_outcome_fails`: a declared type `unsafe.Pointer` has the text of the basic one.
-/

namespace GoMocks.Resolver

variable {σ : Type} {symbols : Symbols σ} {r : Resolver σ}

/-- The package has an entry with the identifier. -/
def GoesBy (r : Resolver σ) (path ident : String) : Prop :=
  ∃ i ∈ r.imports.entries, i.path = path ∧ i.ident = ident

/-- After any calls, a package goes by the identifiers of its entries, and these tell packages
apart. -/
theorem legible_goesBy (symbols : Symbols σ) (module : String) (state : σ)
    (calls : List ResolverCall)
    (hident : ∀ ident ∈ ((ofModule module state).after symbols calls).imports.identifiers,
      isIdentifier ident) :
    ∃ pathOf, Legible (GoesBy ((ofModule module state).after symbols calls)) pathOf := by
  let last := (ofModule module state).after symbols calls
  obtain ⟨added, hplain, himports⟩ := (Grown.after symbols (ofModule module state) calls).imports
  have hnodup : (last.imports.entries.map Import.ident).Nodup := by
    rw [show last.imports = _ from himports]
    exact ImportTable.addAll_nodup hplain .nil
  refine ⟨fun ident => ((last.imports.find? ident).map Import.path).getD "", ?_, ?_⟩
  · rintro _ _ ⟨i, hi, rfl, rfl⟩
    exact hident _ (ImportTable.mem_identifiers.mpr ⟨i, hi, rfl⟩)
  · rintro _ _ ⟨i, hi, rfl, rfl⟩
    simp [ImportTable.find?_of_mem hnodup hi]

/-- A text that was given for a type spells it with the identifiers of the table at the end. -/
theorem spells_of_outcome (module : String) (state : σ) {before rest : List ResolverCall}
    {t : GoType} {text : String}
    (h : outcome symbols ((ofModule module state).after symbols before) (.name t) = .ok text) :
    t.Spells (GoesBy ((ofModule module state).after symbols (before ++ .name t :: rest))) text := by
  have hfaithful := (faithful_ofModule symbols (GoesBy
    ((ofModule module state).after symbols (before ++ .name t :: rest))) module state).after
      (fun i hi => ⟨i, hi, rfl, rfl⟩)
  exact hfaithful.names t text (textOf?_after (c := .name t) nofun h)

/-- **No two types share a text.** Ask a new resolver for names, zero values and imports in any
order, whatever the provider answers, and let the identifiers of the table at the end be Go
identifiers. If two calls for the names of types that Go can write give the same text, the types
differ at most in the names of parameters and results of signatures. The declared type
`unsafe.Pointer` is left out, which the basic one stands for. -/
theorem unnamed_eq_of_outcome {σ : Type} (symbols : Symbols σ) (module : String) (state : σ)
    (calls : List ResolverCall)
    (hident : ∀ ident ∈ ((ofModule module state).after symbols calls).imports.identifiers,
      isIdentifier ident)
    {s t : GoType} (hs : s.WellFormed) (ht : t.WellFormed)
    (hss : .named .unsafePointer ∉ s.parts) (hst : .named .unsafePointer ∉ t.parts)
    {before rest before' rest' : List ResolverCall} {text : String}
    (hcs : calls = before ++ .name s :: rest) (hct : calls = before' ++ .name t :: rest')
    (hos : outcome symbols ((ofModule module state).after symbols before) (.name s) = .ok text)
    (hot : outcome symbols ((ofModule module state).after symbols before') (.name t) = .ok text) :
    s.unnamed = t.unnamed := by
  obtain ⟨pathOf, hl⟩ := legible_goesBy symbols module state calls hident
  have hspell : s.Spells (GoesBy ((ofModule module state).after symbols calls)) text := by
    rw [hcs]
    exact spells_of_outcome module state hos
  have htell : t.Spells (GoesBy ((ofModule module state).after symbols calls)) text := by
    rw [hct]
    exact spells_of_outcome module state hot
  exact GoType.unnamed_eq_of_spells hl hspell htell hs ht hss hst

/-- Two signatures that take templates of the second of two packages have the same text, since they
differ in the name of the parameter. -/
theorem unnamed_eq_of_outcome_template :
    let symbols : Symbols Unit := ⟨fun _ s => ("template", s), fun _ s => (.ok (.struct []), s)⟩
    let html := GoType.named ⟨some "html/template", "Template", []⟩
    let text := GoType.named ⟨some "text/template", "Template", []⟩
    let error := GoType.named ⟨none, "error", []⟩
    let take (name : String) := GoType.function ⟨[⟨name, text⟩], [⟨"", error⟩], true⟩
    let first := ofModule "example.com/app" ()
    outcome symbols (first.after symbols [.name html]) (.name (take "a")) =
        .ok "func(...template1.Template) error" ∧
      (take "a").unnamed = (take "b").unnamed := by
  intro symbols html text error take first
  have ha : outcome symbols (first.after symbols [.name html]) (.name (take "a")) =
      .ok "func(...template1.Template) error" := by decide +kernel
  let calls : List ResolverCall := [.name html, .name (take "a"), .name (take "b")]
  have hcs : calls = [.name html] ++ .name (take "a") :: [.name (take "b")] := rfl
  have hct : calls = [.name html, .name (take "a")] ++ .name (take "b") :: [] := rfl
  exact ⟨ha, unnamed_eq_of_outcome symbols "example.com/app" () calls (by decide +kernel)
    (by decide +kernel) (by decide +kernel) (by decide +kernel) (by decide +kernel) hcs hct ha
    (by decide +kernel)⟩

/-- A declared type `unsafe.Pointer` and the basic one share a text. -/
theorem unnamed_eq_of_outcome_fails :
    let symbols : Symbols Unit := ⟨fun _ s => ("unsafe", s), fun _ s => (.ok (.struct []), s)⟩
    let basic := GoType.basic .unsafePointer
    let declared := GoType.named ⟨some "unsafe", "Pointer", []⟩
    let first := ofModule "example.com/app" ()
    (∀ ident ∈ (first.after symbols [.name basic, .name declared]).imports.identifiers,
        isIdentifier ident) ∧
      basic.WellFormed ∧ declared.WellFormed ∧
      outcome symbols first (.name basic) = .ok "unsafe.Pointer" ∧
      outcome symbols (first.after symbols [.name basic]) (.name declared) =
        .ok "unsafe.Pointer" ∧
      basic.unnamed ≠ declared.unnamed := by
  decide +kernel

end GoMocks.Resolver
