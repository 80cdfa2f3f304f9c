import GoMocks.Proofs.GoSource.StatementRules
import GoMocks.Proofs.GoSource.TypeBlock

/-!
# Go source — imports and functions as items

The items of a file that declare no types: imports between parentheses, and functions with their
bodies.

* `ImportSpec.Row`, `FunctionFront`: the lexemes of an import, and those in front of the parameters of
  a function.
* `readsItem_imports`, `readsItem_function`: such items are read, each on lines of its own.
-/

namespace GoMocks.GoSource

open GoSource.Parser GoSource.Grammar
open Lexeme (separated inParens inBrackets inBraces)

/-- The lexemes of an import: its path, and a name in front of it if there is one. -/
inductive ImportSpec.Row : ImportSpec → List Lexeme → Prop
  | plain (text : String) : ImportSpec.Row ⟨none, unquoted text⟩ [.string text]
  | named (n text : String) : ImportSpec.Row ⟨some n, unquoted text⟩ [.name n, .string text]

/-- The lexemes between the keyword of a function and its parameters: a name with type parameters, or
a receiver and the name of a method. -/
inductive FunctionFront : List Lexeme → Prop
  | function (n : String) {params : List TypeParamSpec} {ps : List Lexeme}
      (h : TypeParamsRow params ps) : FunctionFront (.name n :: ps)
  | method {params : List ParamExpr} {receiver : List Lexeme} (h : ParamsRow params receiver)
      (n : String) : FunctionFront (receiver ++ [.name n])

section Rules

variable {g : Grammar} {n : Nat} {F : Token → Prop} {ls : List Lexeme}

/-! ### Imports -/

/-- A token that an import begins with, or the parenthesis behind the last one. -/
def StartsImport (t : Token) : Prop :=
  t.kind = .name ∨ t.kind = .string ∨ t.IsSign ")"

/-- The row of an import is read as that import. -/
theorem takes_importSpec {spec : ImportSpec} (h : spec.Row ls) : Takes F importSpec ls spec := by
  cases h with
  | plain text =>
    have hname : Refuses F (name <|> (sign "." *> pure ".")) [.string text] := by
      refine (refuses_name fun t ht => ?_).orElse (refuses_sign fun t ht => ?_).seqRight
      · simp [ht.1, Lexeme.kind]
      · simp [Token.IsSign, ht.1, Lexeme.kind]
    exact Passes.bind hname.optional (Takes.bind_pure takes_stringLiteral)
  | named n text =>
    have hname : Takes (Leads F [.string text]) (name <|> (sign "." *> pure ".")) [.name n] n :=
      takes_name.orElse
    exact Takes.bind hname.optional (Takes.bind_pure takes_stringLiteral)

/-- Imports between parentheses, each on a line of its own. -/
theorem readsItem_imports {specs : List ImportSpec} {rows : List (List Lexeme)}
    (h : List.Forall₂ ImportSpec.Row specs rows) (hne : rows ≠ []) :
    ReadsItem ([.keyword "import", .sign "("] :: (rows ++ [[.sign ")"]])) (· = .imports specs) where
  starts := by simp
  reads d tss htss word ts hts hd := by
    obtain ⟨start, _, lines, close, rfl, ⟨hkind, htext, hline⟩, hspells, hlines, hclosing,
      hcloseLine⟩ := exists_of_spellLines htss
    obtain ⟨opening, _, hopening, ⟨⟩, rfl⟩ := List.forall₂_cons_right_iff.mp hspells
    obtain ⟨rfl, rfl⟩ := List.cons.inj hts
    have hclosing : close.IsSign ")" := hclosing
    have hitems : List.Forall₂ (LineItem StartsImport importSpec) lines specs := by
      refine lineItems_of_takes (h.flip.imp fun row spec hspec => ⟨takes_importSpec hspec, ?_⟩) hlines
      cases hspec with
      | plain text   => exact ⟨_, _, rfl, fun t hkind _ => .inr (.inl hkind)⟩
      | named n text => exact ⟨_, _, rfl, fun t hkind _ => .inl hkind⟩
    have hlinesNe : lines ≠ [] := by
      rintro rfl
      cases hlines
      exact hne rfl
    refine ⟨by simp [hkind, Lexeme.kind], _, rfl, by simp, fun next rest _ => ?_⟩
    have hmembers : members "(" ")" importSpec (opening :: (lines.flatten ++ close :: next :: rest)) =
        some (specs, next :: rest) := by
      -- one spec to a line, each ended by the line break before the next
      refine members_lines hopening.isSign hitems hlinesNe (fun t ts ht => ?_)
        ⟨hcloseLine, .inr (.inr hclosing)⟩ hclosing ?_
      · obtain ⟨kind, text, gap, newline, comments, line⟩ := t
        obtain rfl | rfl | ⟨rfl, rfl⟩ := ht <;> rfl
      · obtain ⟨kind, text, gap, newline, comments, line⟩ := close
        obtain ⟨rfl, rfl⟩ := hclosing
        rfl
    obtain ⟨kind, text, gap, newline, comments, line⟩ := start
    obtain ⟨rfl, rfl⟩ : kind = .keyword ∧ text = "import" := ⟨hkind, htext⟩
    obtain ⟨kind, text, gap', newline, comments', line'⟩ := opening
    obtain ⟨rfl, rfl, rfl⟩ := hopening
    have hspecs : Grammar.specs importSpec (⟨.sign, "(", gap', false, comments', line'⟩ ::
        (lines.flatten ++ close :: next :: rest)) = some (specs, next :: rest) := hmembers
    -- the keyword alone picks the branch of `topLevel`
    have hitem (ts : List Token) :
        topLevel (nested d) (⟨.keyword, "import", gap, false, comments, line⟩ :: ts) =
          (Grammar.specs importSpec ts).bind fun found => some (.imports found.1, found.2) := rfl
    rw [hitem]
    simpa [Lexeme.kind, Lexeme.text] using
      congrArg (Option.bind · fun found => some (TopLevel.imports found.1, found.2)) hspecs

/-! ### Functions -/

/-- Behind its front, a function goes on with its parameters. -/
theorem functionDeclaration_of_front (hg : Reads g n) (h : FunctionFront ls) (hn : ls.length ≤ n)
    (word : Token) (hkind : word.kind = .keyword) (htext : word.text = "func") {t : Token}
    {ts : List Token} (hts : List.Forall₂ Token.Spells ts ls) (ht : t.Spells (.sign "("))
    (rest : List Token) :
    functionDeclaration g (word :: (ts ++ t :: rest)) = functionRest g (t :: rest) := by
  have hword (ts : List Token) : keyword "func" (word :: ts) = some ((), ts) :=
    discard_token_of_pos (by simp [hkind, htext]) ts
  refine (bind_of_eq_some (hword _)).trans ?_
  cases h with
  | @function n params ps h =>
    obtain ⟨first, more, hfirst, hmore, rfl⟩ := List.forall₂_cons_right_iff.mp hts
    -- a name and no bracket first: there is no receiver
    have hpasses : Passes (Token.Spells · (.sign "(")) (atSign "(") (.name n :: ps) false :=
      passes_atSign_false fun t ht => by simp [Token.IsSign, ht.1, Lexeme.kind]
    have hopen : atSign "(" (first :: (more ++ t :: rest)) =
        some (false, first :: (more ++ t :: rest)) := hpasses (first :: more) t rest hts ht
    have hname : name (first :: (more ++ t :: rest)) = some (n, more ++ t :: rest) :=
      Takes.before (F := (Token.Spells · (.sign "("))) takes_name [first] more t rest
        (.cons hfirst .nil) hmore ht
    obtain ⟨found, hparams⟩ : ∃ found, Takes (Token.Spells · (.sign "("))
        (optional (typeParams g)) ps found := by
      cases h with
      | none =>
        have hrefuses : Refuses (Token.Spells · (.sign "(")) (typeParams g) [] :=
          Refuses.bind (refuses_sign fun t ht => ht.isSign.not_isSign (by decide))
        exact ⟨_, hrefuses.optional.takes⟩
      | brackets hne h =>
        rw [inBrackets, List.length_cons, List.length_cons, List.length_append] at hn
        exact ⟨_, (hg.takes_typeParams hne h (by omega)).optional⟩
    have hdiscard : discard (optional (typeParams g)) (more ++ t :: rest) = some ((), t :: rest) :=
      hparams.discard more t rest hmore ht
    refine (bind_of_eq_some hopen).trans ?_
    exact (bind_of_eq_some (congrArg (Option.bind · _) hname)).trans (bind_of_eq_some hdiscard)
  | @method params receiver h n =>
    obtain ⟨front, _, rfl, hreceived, hlast⟩ := exists_append_of_forall₂ hts
    obtain ⟨last, _, hname, ⟨⟩, rfl⟩ := List.forall₂_cons_right_iff.mp hlast
    -- a bracket first: the receiver's parameter list
    have hopen : atSign "(" (front ++ last :: t :: rest) = some (true, front ++ last :: t :: rest) := by
      cases h with
      | mk h =>
        exact passes_atSign (F := fun _ => True) (by decide) front last (t :: rest) hreceived trivial
    rw [List.length_append] at hn
    have hreceiver : paramList g (front ++ last :: t :: rest) = some (params, last :: t :: rest) :=
      hg.takes_paramList (F := fun _ => True) h (by omega) front last (t :: rest) hreceived trivial
    have hname : name (last :: t :: rest) = some (n, t :: rest) :=
      takes_name (F := fun _ => True) [last] t rest (.cons hname .nil) trivial
    rw [List.append_assoc]
    refine (bind_of_eq_some hopen).trans ?_
    exact (bind_of_eq_some (congrArg (Option.bind · _) hreceiver)).trans
      (bind_of_eq_some (congrArg (Option.bind · _) hname))

/-- On the same line, an end of line stops nothing. -/
theorem unlessEnded_of_not_newline {α : Type} {p : Parser α} {t : Token} (h : t.newline = false)
    (rest : List Token) : unlessEnded true p (t :: rest) = p (t :: rest) := by
  obtain ⟨kind, text, gap, newline, comments, line⟩ := t
  subst h
  rfl

/-- **A function is read**, if its body consists of statements. -/
theorem readsItem_function {front : List Lexeme} (hfront : FunctionFront front) {f : FunctionExpr}
    (hf : f.Row ls) {blocks : List (List (List Lexeme))} (hblocks : ∀ rows ∈ blocks, ReadsStatement rows)
    (hne : blocks ≠ []) : ReadsItem (functionRows front ls blocks.flatten) (· = .function) where
  starts := by simp [functionRows]
  reads d tss htss word ts hts hd := by
    have hall : tss.flatten.length = ts.length + 1 := by rw [hts, List.length_cons]
    obtain ⟨start, _, lines, close, rfl, ⟨hkind, htext, hline⟩, hspells, hlines, hclosing,
      hcloseLine⟩ := exists_of_spellLines htss
    have hlength := hspells.length_eq
    obtain ⟨ts₁, _, rfl, h₁, hbehind⟩ := exists_append_of_forall₂ hspells
    obtain ⟨ts₂, _, rfl, h₂, hbrace⟩ := exists_append_of_forall₂ hbehind
    obtain ⟨opening, _, hopening, ⟨⟩, rfl⟩ := List.forall₂_cons_right_iff.mp hbrace
    simp only [List.flatten_cons, List.flatten_append, List.length_append, List.length_cons,
      List.length_nil, List.flatten_nil] at hall hlength
    obtain ⟨rfl, rfl⟩ := List.cons.inj hts
    have hg := reads_nested d
    refine ⟨by simp [hkind, Lexeme.kind], _, rfl, by simp, fun next rest hnext => ?_⟩
    obtain ⟨behind, rfl⟩ := hf.exists_parens
    obtain ⟨paren, ts₂, hparen, h₃, rfl⟩ := List.forall₂_cons_right_iff.mp h₂
    have hsignature : signature (nested d) true (paren :: ts₂ ++ opening :: (lines.flatten ++
        close :: next :: rest)) = some (f, opening :: (lines.flatten ++ close :: next :: rest)) :=
      hg.takes_signature hf (by omega) _ _ _ (.cons hparen h₃) (hopening.isSign.endsType (by decide))
    have hblock : (nested d).block (opening :: (lines.flatten ++ close :: next :: rest)) =
        some ((), next :: rest) :=
      block_lines hblocks hne hlines (by omega) hopening.isSign hcloseLine hclosing
    -- the brace is on the line of the signature, so the body is not left out
    have hended : unlessEnded true (nested d).block (opening :: (lines.flatten ++
        close :: next :: rest)) = some ((), next :: rest) :=
      (unlessEnded_of_not_newline hopening.2.2 _).trans hblock
    have hrest : functionRest (nested d) (paren :: ts₂ ++ opening :: (lines.flatten ++
        close :: next :: rest)) = some ((), next :: rest) :=
      (bind_of_eq_some (congrArg (Option.bind · _) hsignature)).trans
        (congrArg (Option.bind · _) (optional_of_eq_some hended))
    have hfunction : functionDeclaration (nested d) ({ start with newline := false } ::
        (ts₁ ++ paren :: (ts₂ ++ opening :: (lines.flatten ++ close :: next :: rest)))) =
          some ((), next :: rest) :=
      (functionDeclaration_of_front hg hfront (by omega) { start with newline := false } hkind htext h₁
        hparen _).trans hrest
    obtain ⟨kind, text, gap, newline, comments, line⟩ := start
    obtain ⟨rfl, rfl⟩ : kind = .keyword ∧ text = "func" := ⟨hkind, htext⟩
    have hitem (ts : List Token)
        (h : functionDeclaration (nested d) (⟨.keyword, "func", gap, false, comments, line⟩ :: ts) =
          some ((), next :: rest)) :
        topLevel (nested d) (⟨.keyword, "func", gap, false, comments, line⟩ :: ts) =
          some (.function, next :: rest) := by
      have hread : (functionDeclaration (nested d) *> pure TopLevel.function)
          (⟨.keyword, "func", gap, false, comments, line⟩ :: ts) = some (.function, next :: rest) :=
        bind_of_eq_some h
      exact congrArg (Option.orElse · _) hread
    simpa using hitem _ hfunction

end Rules

end GoMocks.GoSource
