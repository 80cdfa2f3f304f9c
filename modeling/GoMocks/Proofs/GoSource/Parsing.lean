import GoMocks.GoSource.Grammar
import GoMocks.Proofs.GoSource.Printing

/-!
# Go source — what parsers make of lexemes

A parser takes some lexemes, or refuses them, in front of a token of which only a little is known.
What is known of it decides where a parser stops: a list ends where no comma follows.

* `Yields`: what a parser makes of tokens that spell some lexemes; `Takes` and `Refuses` are its two
  cases, `TakesBefore` says that a parser takes some lexemes off the front of others, and `Passes`
  that it leaves them alone. There is one lemma for each way to put parsers together.
* `takes_sepBy1`: items with a separator between two of them.
* `takes_members`: members between braces.
-/

namespace GoMocks.GoSource

open GoSource.Parser

variable {α β : Type}

/-! ### Tokens that spell lexemes -/

namespace Token

/-- The token writes the lexeme, and no newline stands before it. -/
def Spells (t : Token) (l : Lexeme) : Prop :=
  t.kind = l.kind ∧ t.text = l.text ∧ t.newline = false

/-- The token is a given sign. -/
def IsSign (t : Token) (s : String) : Prop :=
  t.kind = .sign ∧ t.text = s

instance (t : Token) (s : String) : Decidable (t.IsSign s) := by
  unfold IsSign
  infer_instance

end Token

/-- The token in front of which some lexemes stand, or the first of them. -/
def Leads (follow : Token → Prop) : List Lexeme → Token → Prop
  | [],     t => follow t
  | l :: _, t => t.Spells l

/-- Tokens that spell the lexemes are taken off the front with a result, or are refused, whenever a
token of the given kind stands behind them. -/
def Yields (follow : Token → Prop) (p : Parser α) (ls : List Lexeme) (found : Option α) : Prop :=
  ∀ ts t rest, List.Forall₂ Token.Spells ts ls → follow t →
    p (ts ++ t :: rest) = found.map (·, t :: rest)

/-- The lexemes are taken, and there is a result. -/
abbrev Takes (follow : Token → Prop) (p : Parser α) (ls : List Lexeme) (a : α) : Prop :=
  Yields follow p ls (some a)

/-- The lexemes are refused. -/
abbrev Refuses (follow : Token → Prop) (p : Parser α) (ls : List Lexeme) : Prop :=
  Yields follow p ls none

/-- The parser has a result in front of the lexemes, and takes none of them. -/
def Passes (follow : Token → Prop) (p : Parser α) (ls : List Lexeme) (a : α) : Prop :=
  ∀ ts t rest, List.Forall₂ Token.Spells ts ls → follow t →
    p (ts ++ t :: rest) = some (a, ts ++ t :: rest)

/-- The parser takes some lexemes off the front of others. -/
def TakesBefore (follow : Token → Prop) (p : Parser α) (ls behind : List Lexeme) (a : α) : Prop :=
  ∀ ts₁ ts₂ t rest, List.Forall₂ Token.Spells ts₁ ls → List.Forall₂ Token.Spells ts₂ behind →
    follow t → p (ts₁ ++ (ts₂ ++ t :: rest)) = some (a, ts₂ ++ t :: rest)

/-- Where the parser has a result, some sign does not stand behind what it takes. -/
def Misses (follow : Token → Prop) (p : Parser α) (s : String) (ls : List Lexeme) : Prop :=
  ∀ ts t rest, List.Forall₂ Token.Spells ts ls → follow t → ∀ a left,
    p (ts ++ t :: rest) = some (a, left) → ∃ first behind, left = first :: behind ∧ ¬ first.IsSign s

section Combinators

variable {F G : Token → Prop} {p q : Parser α} {f : α → Parser β} {ls ls₁ ls₂ : List Lexeme}
  {l : Lexeme} {a : α} {b : β} {found : Option α} {next : Option β} {s : String} {nl : Bool}

theorem Yields.mono (h : Yields G p ls found) (hF : ∀ t, F t → G t) : Yields F p ls found :=
  fun ts t rest hts ht => h ts t rest hts (hF t ht)

/-- The tokens begin with the one that leads. -/
theorem exists_lead {ts : List Token} {t : Token} (hts : List.Forall₂ Token.Spells ts ls)
    (ht : F t) (rest : List Token) :
    ∃ first behind, ts ++ t :: rest = first :: behind ∧ Leads F ls first := by
  cases hts with
  | nil      => exact ⟨t, rest, rfl, ht⟩
  | cons h _ => exact ⟨_, _, rfl, h⟩

/-- What stands for two lists in a row is two lists in a row. -/
theorem exists_append_of_forall₂ {R : α → β → Prop} {as : List α} {bs₁ bs₂ : List β}
    (h : List.Forall₂ R as (bs₁ ++ bs₂)) :
    ∃ as₁ as₂, as = as₁ ++ as₂ ∧ List.Forall₂ R as₁ bs₁ ∧ List.Forall₂ R as₂ bs₂ :=
  ⟨_, _, (List.take_append_drop bs₁.length as).symm, List.forall₂_take_append as bs₁ bs₂ h,
    List.forall₂_drop_append as bs₁ bs₂ h⟩

/-- Where the first token decides, nothing else matters. -/
theorem Refuses.of_lead (h : ∀ t rest, Leads F ls t → p (t :: rest) = none) : Refuses F p ls := by
  intro ts t rest hts ht
  obtain ⟨first, behind, heq, hfirst⟩ := exists_lead hts ht rest
  rw [heq]
  exact h first behind hfirst

/-- A parser that takes no token passes where it does so before every lead. -/
theorem Passes.of_lead (h : ∀ t rest, Leads F ls t → p (t :: rest) = some (a, t :: rest)) :
    Passes F p ls a := by
  intro ts t rest hts ht
  obtain ⟨first, behind, heq, hfirst⟩ := exists_lead hts ht rest
  rw [heq]
  exact h first behind hfirst

/-! ### Sequences -/

theorem bind_of_eq_some {ts rest : List Token} (h : p ts = some (a, rest)) :
    (p >>= f) ts = f a rest :=
  congrArg (Option.bind · _) h

theorem bind_of_eq_none {ts : List Token} (h : p ts = none) : (p >>= f) ts = none :=
  congrArg (Option.bind · _) h

theorem Takes.pure (a : α) : Takes F (pure a) [] a := by
  rintro _ t rest ⟨⟩ -
  rfl

theorem passes_pure (a : α) : Passes F (pure a) ls a :=
  fun _ _ _ _ _ => rfl

theorem Takes.before (hp : Takes (Leads F ls₂) p ls₁ a) : TakesBefore F p ls₁ ls₂ a := by
  intro ts₁ ts₂ t rest h₁ h₂ ht
  obtain ⟨first, behind, heq, hfirst⟩ := exists_lead h₂ ht rest
  rw [heq]
  exact hp ts₁ first behind h₁ hfirst

theorem Takes.before_nil (hp : Takes F p ls a) : TakesBefore F p ls [] a :=
  Takes.before (show Takes (Leads F []) p ls a from hp)

theorem Passes.takesBefore (hp : Passes F p ls a) : TakesBefore F p [] ls a := by
  rintro _ ts₂ t rest ⟨⟩ h₂ ht
  exact hp ts₂ t rest h₂ ht

/-- Before nothing, it takes the row. -/
theorem TakesBefore.takes (hp : TakesBefore F p ls [] a) : Takes F p ls a :=
  fun ts t rest hts ht => hp ts [] t rest hts .nil ht

/-- What the first parser takes, then what the second yields behind it. -/
theorem TakesBefore.bind (hp : TakesBefore F p ls₁ ls₂ a) (hf : Yields F (f a) ls₂ next) :
    Yields F (p >>= f) (ls₁ ++ ls₂) next := by
  intro ts t rest hts ht
  obtain ⟨ts₁, ts₂, rfl, h₁, h₂⟩ := exists_append_of_forall₂ hts
  rw [List.append_assoc]
  exact (congrArg (Option.bind · _) (hp ts₁ ts₂ t rest h₁ h₂ ht)).trans (hf ts₂ t rest h₂ ht)

theorem TakesBefore.bind_before {b : β} (hp : TakesBefore F p ls₁ (ls₂ ++ ls) a)
    (hf : TakesBefore F (f a) ls₂ ls b) : TakesBefore F (p >>= f) (ls₁ ++ ls₂) ls b := by
  intro ts₁ ts₂ t rest h₁ h₂ ht
  obtain ⟨ts₃, ts₄, rfl, h₃, h₄⟩ := exists_append_of_forall₂ h₁
  have hrun := hp ts₃ (ts₄ ++ ts₂) t rest h₃ (List.rel_append h₄ h₂) ht
  rw [List.append_assoc] at hrun ⊢
  exact (congrArg (Option.bind · _) hrun).trans (hf ts₄ ts₂ t rest h₄ h₂ ht)

/-- Two parsers in turn take the two rows. -/
theorem Takes.bind (hp : Takes (Leads F ls₂) p ls₁ a) (hf : Yields F (f a) ls₂ next) :
    Yields F (p >>= f) (ls₁ ++ ls₂) next :=
  hp.before.bind hf

theorem Refuses.bind (hp : Refuses F p ls) : Refuses F (p >>= f) ls := by
  intro ts t rest hts ht
  exact congrArg (Option.bind · _) (hp ts t rest hts ht)

theorem Passes.bind (hp : Passes F p ls a) (hf : Yields F (f a) ls next) :
    Yields F (p >>= f) ls next := by
  intro ts t rest hts ht
  exact (congrArg (Option.bind · _) (hp ts t rest hts ht)).trans (hf ts t rest hts ht)

theorem Takes.bind_last (hp : Takes F p ls a) (hf : Yields F (f a) [] next) :
    Yields F (p >>= f) ls next := by
  rw [← List.append_nil ls]
  exact Takes.bind hp hf

theorem Takes.bind_nil (hp : Takes (Leads F ls) p [] a) (hf : Yields F (f a) ls next) :
    Yields F (p >>= f) ls next :=
  Takes.bind hp hf

theorem Yields.pure_bind (h : Yields F (f a) ls next) : Yields F (Pure.pure a >>= f) ls next :=
  h

theorem Yields.bind_assoc {γ : Type} {k : β → Parser γ} {found : Option γ}
    (h : Yields F (p >>= fun a => f a >>= k) ls found) : Yields F ((p >>= f) >>= k) ls found := by
  rwa [LawfulMonad.bind_assoc]

/-- A parser that only looks may look at the token that leads. -/
theorem Yields.peek {f : Token → Parser β} (h : ∀ t, Leads F ls t → Yields F (f t) ls next) :
    Yields F (peek >>= f) ls next := by
  intro ts t rest hts ht
  obtain ⟨first, behind, heq, hfirst⟩ := exists_lead hts ht rest
  rw [← h first hfirst ts t rest hts ht, heq]
  rfl

theorem Yields.map {g : α → β} (h : Yields F p ls found) :
    Yields F (g <$> p) ls (found.map g) := by
  intro ts t rest hts ht
  refine (congrArg (Option.bind · _) (h ts t rest hts ht)).trans ?_
  cases found <;> rfl

theorem Takes.map {g : α → β} (h : Takes F p ls a) : Takes F (g <$> p) ls (g a) :=
  Yields.map h

/-- Nothing is taken behind the last parser. -/
theorem Takes.bind_pure {g : α → β} (h : Takes F p ls a) :
    Takes F (p >>= fun a => Pure.pure (g a)) ls (g a) :=
  Yields.map h

theorem Takes.cons {q : Parser (List α)} {as : List α} (hp : Takes (Leads F ls₂) p ls₁ a)
    (hq : Takes F q ls₂ as) : Takes F (do return (← p) :: (← q)) (ls₁ ++ ls₂) (a :: as) :=
  Takes.bind hp (Takes.bind_pure hq)

/-- One item more, in front of the others. -/
theorem Takes.before_append {q : Parser (List α)} {as : List α}
    (hp : Takes (Leads F (ls₂ ++ ls)) p ls₁ a) (hq : TakesBefore F q ls₂ ls as) :
    TakesBefore F (do return (← p) :: (← q)) (ls₁ ++ ls₂) ls (a :: as) := by
  intro ts₁ ts₂ t rest h₁ h₂ ht
  obtain ⟨ts₃, ts₄, rfl, h₃, h₄⟩ := exists_append_of_forall₂ h₁
  have hrun := hp.before ts₃ (ts₄ ++ ts₂) t rest h₃ (List.rel_append h₄ h₂) ht
  have hbehind := hq ts₄ ts₂ t rest h₄ h₂ ht
  rw [List.append_assoc] at hrun ⊢
  refine (congrArg (Option.bind · _) hrun).trans ?_
  exact (congrArg (Option.bind · _) hbehind).trans rfl

theorem Takes.seqRight {q : Parser β} (hp : Takes (Leads F ls₂) p ls₁ a)
    (hq : Yields F q ls₂ next) : Yields F (p *> q) (ls₁ ++ ls₂) next :=
  Takes.bind (f := fun _ => q) hp hq

theorem Refuses.seqRight {q : Parser β} (hp : Refuses F p ls) : Refuses F (p *> q) ls :=
  Refuses.bind (f := fun _ => q) hp

theorem Takes.seqLeft {q : Parser β} {b : β} (hp : Takes (Leads F ls₂) p ls₁ a)
    (hq : Takes F q ls₂ b) : Takes F (p <* q) (ls₁ ++ ls₂) a :=
  Takes.bind (f := fun a => q >>= fun _ => Pure.pure a) hp (Takes.bind_pure hq)

theorem Refuses.seqLeft {q : Parser β} (hp : Refuses F p ls) : Refuses F (p <* q) ls :=
  Refuses.bind (f := fun a => q >>= fun _ => Pure.pure a) hp

theorem Takes.discard (h : Takes F p ls a) : Takes F (discard p) ls ⟨⟩ :=
  Yields.map h

theorem Passes.discard (h : Passes F p ls a) : Passes F (discard p) ls ⟨⟩ := by
  intro ts t rest hts ht
  exact congrArg (Option.bind · _) (h ts t rest hts ht)

/-! ### Choices -/

theorem Takes.orElse (h : Takes F p ls a) : Takes F (p <|> q) ls a := by
  intro ts t rest hts ht
  exact congrArg (Option.orElse · _) (h ts t rest hts ht)

theorem Refuses.orElse (hp : Refuses F p ls) (hq : Yields F q ls found) :
    Yields F (p <|> q) ls found := by
  intro ts t rest hts ht
  exact (congrArg (Option.orElse · _) (hp ts t rest hts ht)).trans (hq ts t rest hts ht)

theorem Refuses.orElse_passes (hp : Refuses F p ls) (hq : Passes F q ls a) :
    Passes F (p <|> q) ls a := by
  intro ts t rest hts ht
  exact (congrArg (Option.orElse · _) (hp ts t rest hts ht)).trans (hq ts t rest hts ht)

theorem TakesBefore.orElse (h : TakesBefore F p ls₁ ls₂ a) : TakesBefore F (p <|> q) ls₁ ls₂ a := by
  intro ts₁ ts₂ t rest h₁ h₂ ht
  exact congrArg (Option.orElse · _) (h ts₁ ts₂ t rest h₁ h₂ ht)

theorem Takes.optional (h : Takes F p ls a) : Takes F (optional p) ls (some a) :=
  Takes.orElse (Yields.map h)

theorem Refuses.optional (h : Refuses F p ls) : Passes F (optional p) ls none :=
  Refuses.orElse_passes (Yields.map h) (passes_pure none)

theorem Passes.takes (h : Passes F p [] a) : Takes F p [] a := by
  rintro _ t rest ⟨⟩ ht
  exact h [] t rest .nil ht

theorem refuses_failure : Refuses F (failure : Parser α) ls :=
  fun _ _ _ _ _ => rfl

/-! ### Single tokens -/

theorem Takes.of_token (h : ∀ t rest, t.Spells l → p (t :: rest) = some (a, rest)) :
    Takes F p [l] a := by
  rintro _ t rest (_ | ⟨hl, ⟨⟩⟩) -
  exact h _ (t :: rest) hl

theorem discard_token_of_pos {test : Token → Bool} {t : Token} (h : test t) (rest : List Token) :
    discard (token test) (t :: rest) = some ((), rest) :=
  congrArg (Option.bind · _) (if_pos h : token test (t :: rest) = some (t, rest))

theorem discard_token_of_neg {test : Token → Bool} {t : Token} (h : test t = false)
    (rest : List Token) : discard (token test) (t :: rest) = none :=
  congrArg (Option.bind · _) (if_neg (by simp [h]) : token test (t :: rest) = none)

theorem takes_sign (hs : s ∈ lexemeSigns) : Takes F (sign s) [.sign s hs] ⟨⟩ :=
  .of_token fun _ rest ⟨hkind, htext, _⟩ =>
    discard_token_of_pos (by simp [hkind, htext, Lexeme.kind, Lexeme.text]) rest

theorem refuses_sign (h : ∀ t, Leads F ls t → ¬ t.IsSign s) : Refuses F (sign s) ls :=
  .of_lead fun t rest ht => discard_token_of_neg (by simpa [Token.IsSign] using h t ht) rest

theorem takes_keyword (hs : s ∈ lexemeKeywords) : Takes F (keyword s) [.keyword s hs] ⟨⟩ :=
  .of_token fun _ rest ⟨hkind, htext, _⟩ =>
    discard_token_of_pos (by simp [hkind, htext, Lexeme.kind, Lexeme.text]) rest

theorem refuses_keyword (h : ∀ t, Leads F ls t → ¬ (t.kind = .keyword ∧ t.text = s)) :
    Refuses F (keyword s) ls :=
  .of_lead fun t rest ht => discard_token_of_neg (by simpa using h t ht) rest

/-- The text of a token of some kind. -/
theorem takes_text {kind : TokenKind} (hkind : l.kind = kind) :
    Takes F (do return (← token fun t => t.kind == kind).text) [l] l.text :=
  .of_token fun t rest ⟨hk, htext, _⟩ => by
    have htoken : token (·.kind == kind) (t :: rest) = some (t, rest) :=
      if_pos (by simp [hk, hkind])
    exact (congrArg (Option.bind · _) htoken).trans (congrArg (fun text => some (text, rest)) htext)

theorem refuses_text {kind : TokenKind} (h : ∀ t, Leads F ls t → t.kind ≠ kind) :
    Refuses F (do return (← token fun t => t.kind == kind).text) ls :=
  .of_lead fun t rest ht => by
    have htoken : token (·.kind == kind) (t :: rest) = none := if_neg (by simpa using h t ht)
    exact congrArg (Option.bind · _) htoken

theorem takes_name {n : String} : Takes F name [.name n] n :=
  takes_text (l := .name n) rfl

theorem refuses_name (h : ∀ t, Leads F ls t → t.kind ≠ .name) : Refuses F name ls :=
  refuses_text h

theorem takes_stringLiteral {text : String} : Takes F stringLiteral [.string text] text :=
  takes_text (l := .string text) rfl

theorem refuses_stringLiteral (h : ∀ t, Leads F ls t → t.kind ≠ .string) :
    Refuses F stringLiteral ls :=
  refuses_text h

/-- A look ahead sees the sign a row begins with. -/
theorem passes_atSign (hs : s ∈ lexemeSigns) : Passes F (atSign s) (.sign s hs :: ls) true :=
  .of_lead fun t rest ⟨hkind, htext, _⟩ =>
    congrArg (fun b => some (b, t :: rest))
      (by simp [hkind, htext, Lexeme.kind, Lexeme.text] : (t.kind == .sign && t.text == s) = true)

/-- A look ahead sees no sign where a row begins otherwise. -/
theorem passes_atSign_false (h : ∀ t, Leads F ls t → ¬ t.IsSign s) :
    Passes F (atSign s) ls false :=
  .of_lead fun t rest ht =>
    congrArg (fun b => some (b, t :: rest))
      (by simpa [Token.IsSign] using h t ht : (t.kind == .sign && t.text == s) = false)

/-! ### Terminators -/

/-- A row that goes on in its line has not ended. -/
theorem passes_ended (h : ∀ t, Leads F ls t → t.newline = false) : Passes F (ended nl) ls false :=
  .of_lead fun t rest ht =>
    congrArg (fun b => some (b, t :: rest)) (by simp [h t ht] : (nl && t.newline) = false)

/-- Between lexemes there are no newlines. -/
theorem Yields.unlessEnded (h : Yields F p (l :: ls) found) :
    Yields F (unlessEnded nl p) (l :: ls) found := by
  refine Passes.bind (passes_ended ?_) h
  exact fun t ht => ht.2.2

theorem Yields.unlessEnded_of_ne_nil (h : Yields F p ls found) (hne : ls ≠ []) :
    Yields F (Parser.unlessEnded nl p) ls found := by
  obtain ⟨l, ls, rfl⟩ := List.exists_cons_of_ne_nil hne
  exact h.unlessEnded

theorem Refuses.unlessEnded (h : Refuses F p ls) : Refuses F (unlessEnded nl p) ls := by
  intro ts t rest hts ht
  obtain ⟨first, behind, heq, -⟩ := exists_lead hts ht rest
  have hrun := h ts t rest hts ht
  rw [heq] at hrun ⊢
  refine Eq.trans (b := (if nl && first.newline then failure else p) (first :: behind)) rfl ?_
  split
  · rfl
  · exact hrun

/-- What follows stands on the next line, or it is refused anyway. -/
theorem refuses_unlessEnded_of_lead
    (h : ∀ t rest, Leads F ls t → (nl && t.newline) = false → p (t :: rest) = none) :
    Refuses F (unlessEnded nl p) ls :=
  .of_lead fun t rest ht => by
    refine Eq.trans (b := (if nl && t.newline then failure else p) (t :: rest)) rfl ?_
    cases hline : nl && t.newline with
    | true => rfl
    | false => exact h t rest ht hline

/-- A semicolon ends a declaration. -/
theorem takes_terminator : Takes F terminator [.sign ";"] () :=
  .of_token fun t rest ⟨hkind, htext, hnewline⟩ => by
    simp [terminator, hkind, htext, hnewline, Lexeme.kind, Lexeme.text]

/-- No declaration ends in the middle of a row. -/
theorem refuses_terminator
    (h : ∀ t, Leads F ls t → t.newline = false ∧ ¬ t.IsSign ";" ∧ ¬ t.IsSign "\x00") :
    Refuses F terminator ls :=
  .of_lead fun t rest ht => by
    obtain ⟨hnewline, hsemicolon, hnul⟩ := h t ht
    simp_all [terminator, Token.IsSign]

/-! ### Repetitions -/

/-- Items are read as long as they follow, up to a bound on their number. -/
theorem takesBefore_upTo {items : List (List Lexeme)} {values : List α}
    (h : List.Forall₂ (fun item a => Takes G p item a) items values)
    (hne : ∀ item ∈ items, item ≠ []) (hG : ∀ item ∈ items.tail, ∀ t, Leads F item t → G t)
    (hF : ∀ t, Leads F ls t → G t) (hstop : Refuses F p ls) {n : Nat} (hn : items.length ≤ n) :
    TakesBefore F (upTo p n) items.flatten ls values := by
  induction h generalizing n with
  | nil =>
    cases n with
    | zero   => exact fun ts₁ ts₂ t rest h₁ _ _ => by cases h₁; rfl
    | succ n => exact (hstop.bind.orElse_passes (passes_pure [])).takesBefore
  | @cons item a items values hitem hitems ih =>
    obtain ⟨n, rfl⟩ := Nat.exists_eq_add_of_le' (Nat.one_le_of_lt hn)
    have hrest : TakesBefore F (upTo p n) items.flatten ls values :=
      ih (fun i hi => hne i (by simp [hi])) (fun i hi => hG i (List.mem_of_mem_tail hi))
        (by simpa using hn)
    -- the next item begins with a token that this one may stand in front of
    have hlead : ∀ t, Leads F (items.flatten ++ ls) t → G t := by
      intro t ht
      cases hitems with
      | nil => exact hF t ht
      | @cons next _ _ _ _ _ =>
        obtain ⟨l, ls, rfl⟩ := List.exists_cons_of_ne_nil (hne next (by simp))
        exact hG (l :: ls) (by simp) t ht
    exact (Takes.before_append (hitem.mono hlead) hrest).orElse

theorem takesBefore_many {items : List (List Lexeme)} {values : List α}
    (h : List.Forall₂ (fun item a => Takes G p item a) items values)
    (hne : ∀ item ∈ items, item ≠ []) (hG : ∀ item ∈ items.tail, ∀ t, Leads F item t → G t)
    (hF : ∀ t, Leads F ls t → G t) (hstop : Refuses F p ls) :
    TakesBefore F (many p) items.flatten ls values := by
  intro ts₁ ts₂ t rest h₁ h₂ ht
  refine takesBefore_upTo h hne hG hF hstop ?_ ts₁ ts₂ t rest h₁ h₂ ht
  -- each item takes at least one token
  have hlength : items.length ≤ items.flatten.length := by
    clear h hG h₁
    induction items with
    | nil => simp
    | cons item items ih =>
      have hitem := List.length_pos_iff.mpr (hne item (by simp))
      have hitems := ih fun i hi => hne i (by simp [hi])
      simp only [List.flatten_cons, List.length_append, List.length_cons]
      omega
  have := h₁.length_eq
  simp only [List.length_append, List.length_cons]
  omega

/-- All items of a row are read. -/
theorem takes_many {items : List (List Lexeme)} {values : List α}
    (h : List.Forall₂ (fun item a => Takes G p item a) items values)
    (hne : ∀ item ∈ items, item ≠ []) (hG : ∀ item ∈ items, ∀ t, Leads F item t → G t)
    (hF : ∀ t, F t → G t) (hstop : Refuses F p []) :
    Takes F (many p) items.flatten values :=
  have hbefore : TakesBefore F (many p) items.flatten [] values :=
    takesBefore_many h hne (fun i hi => hG i (List.mem_of_mem_tail hi)) hF hstop
  hbefore.takes

theorem Refuses.many (h : Refuses F p ls) : Passes F (many p) ls [] := by
  intro ts t rest hts ht
  have hlength : (ts ++ t :: rest).length = ts.length + rest.length + 1 := by simp; omega
  rw [Parser.many, hlength]
  exact h.bind.orElse_passes (passes_pure []) ts t rest hts ht

/-- Items with separators between them are read. -/
theorem takes_sepBy1 {separator : Parser Unit} {items : List (List Lexeme)} {values : List α}
    (h : List.Forall₂ (fun item a => Takes G p item a) items values) (hne : items ≠ [])
    (hsep : ∀ F, Takes F separator [l] ()) (hl : ∀ t, t.Spells l → G t) (hF : ∀ t, F t → G t)
    (hstop : Refuses F separator []) :
    Takes F (sepBy1 p separator) (Lexeme.separated l items) values := by
  cases h with
  | nil => exact absurd rfl hne
  | @cons item a items values hitem hitems =>
    rw [Lexeme.separated_cons]
    have hmore : Takes F (many (separator *> p)) (items.map (l :: ·)).flatten values := by
      refine takes_many (G := G) ?_ (by simp) (fun i hi t ht => ?_) hF hstop.seqRight
      swap
      · obtain ⟨item, -, rfl⟩ := List.mem_map.mp hi
        exact hl t ht
      rw [List.forall₂_map_left_iff]
      exact hitems.imp fun item a h => Takes.seqRight (hsep _) h
    refine Takes.cons (hitem.mono fun t ht => ?_) hmore
    cases items with
    | nil         => exact hF t ht
    | cons next _ => exact hl t ht

/-- Members between braces, with semicolons between two of them. -/
theorem takes_members {items : List (List Lexeme)} {values : List α}
    (h : List.Forall₂ (fun item a => Takes G p item a) items values)
    (hG : ∀ t, t.Spells (.sign ";") ∨ t.Spells (.sign "\x7d") → G t)
    (hstop : Refuses F p [.sign "\x7d"]) :
    Takes F (members "\x7b" "\x7d" p) (Lexeme.inBraces (Lexeme.separated (.sign ";") items))
      values := by
  have hclosing : Refuses (Token.Spells · (.sign "\x7d")) terminator [] :=
    refuses_terminator fun t ⟨hkind, htext, hnewline⟩ => by
      simp_all [Token.IsSign, Lexeme.kind, Lexeme.text]
  refine Takes.bind (takes_sign (by decide)) ?_
  cases h with
  | nil =>
    refine Passes.bind (Refuses.optional (Refuses.seqLeft (Refuses.bind hstop))) ?_
    exact Takes.bind_pure (takes_sign (by decide))
  | @cons item a items values hitem hitems =>
    refine Takes.bind (a := some (a :: values)) ?_ (Takes.bind_pure (takes_sign (by decide)))
    rw [← List.append_nil (Lexeme.separated _ _)]
    refine Takes.optional (Takes.seqLeft ?_ hclosing.optional.takes)
    exact takes_sepBy1 (G := G) (.cons hitem hitems) (by simp) (fun F => takes_terminator)
      (fun t ht => hG t (.inl ht)) (fun t ht => hG t (.inr ht)) hclosing

/-- The tokens that are taken come with the result. -/
theorem Takes.spanned {f : α × List Token → Parser β} (hp : Takes (Leads F ls₂) p ls₁ a)
    (hf : ∀ ts, List.Forall₂ Token.Spells ts ls₁ → Yields F (f (a, ts)) ls₂ next) :
    Yields F (spanned p >>= f) (ls₁ ++ ls₂) next := by
  intro ts t rest hts ht
  obtain ⟨ts₁, ts₂, rfl, h₁, h₂⟩ := exists_append_of_forall₂ hts
  obtain ⟨first, behind, heq, hfirst⟩ := exists_lead h₂ ht rest
  have hrun : p (ts₁ ++ (ts₂ ++ t :: rest)) = some (a, ts₂ ++ t :: rest) := by
    rw [heq]
    exact hp ts₁ first behind h₁ hfirst
  have hspanned : Parser.spanned p (ts₁ ++ (ts₂ ++ t :: rest)) =
      some ((a, ts₁), ts₂ ++ t :: rest) := by
    simp [Parser.spanned, hrun]
  rw [List.append_assoc]
  exact (congrArg (Option.bind · _) hspanned).trans (hf ts₁ h₁ ts₂ t rest h₂ ht)

theorem Refuses.spanned (h : Refuses F p ls) : Refuses F (Parser.spanned p) ls := by
  intro ts t rest hts ht
  simp [Parser.spanned, h ts t rest hts ht]

/-! ### Signs that are missed -/

theorem Refuses.misses (h : Refuses F p ls) : Misses F p s ls := by
  intro ts t rest hts ht a left hrun
  rw [h ts t rest hts ht] at hrun
  cases hrun

/-- What is read up to another sign misses this one. -/
theorem TakesBefore.misses (h : TakesBefore F p ls₁ ls₂ a)
    (hlead : ∀ t, Leads F ls₂ t → ¬ t.IsSign s) : Misses F p s (ls₁ ++ ls₂) := by
  intro ts t rest hts ht b left hrun
  obtain ⟨ts₁, ts₂, rfl, h₁, h₂⟩ := exists_append_of_forall₂ hts
  rw [List.append_assoc, h ts₁ ts₂ t rest h₁ h₂ ht] at hrun
  obtain ⟨first, behind, heq, hfirst⟩ := exists_lead h₂ ht rest
  exact ⟨first, behind, (congrArg Prod.snd (Option.some.inj hrun)).symm.trans heq, hlead first hfirst⟩

theorem Misses.append (h : Misses (Leads F ls₂) p s ls₁) : Misses F p s (ls₁ ++ ls₂) := by
  intro ts t rest hts ht
  obtain ⟨ts₁, ts₂, rfl, h₁, h₂⟩ := exists_append_of_forall₂ hts
  obtain ⟨first, behind, heq, hfirst⟩ := exists_lead h₂ ht rest
  rw [List.append_assoc, heq]
  exact h ts₁ first behind h₁ hfirst

/-- Nothing is taken behind the parser. -/
theorem Misses.bind (h : Misses F p s ls)
    (hf : ∀ a ts, f a ts = none ∨ ∃ b, f a ts = some (b, ts)) : Misses F (p >>= f) s ls := by
  intro ts t rest hts ht b left hrun
  cases hp : p (ts ++ t :: rest) with
  | none =>
    rw [bind_of_eq_none hp] at hrun
    cases hrun
  | some result =>
    obtain ⟨a, found⟩ := result
    rw [bind_of_eq_some hp] at hrun
    rcases hf a found with hnone | ⟨b', hb⟩
    · rw [hnone] at hrun
      cases hrun
    · rw [hb] at hrun
      cases hrun
      exact h ts t rest hts ht a _ hp

/-- A parser that needs the sign refuses. -/
theorem Misses.bind_spanned {f : α × List Token → Parser β} (h : Misses F p s ls)
    (hf : ∀ x, Refuses (¬ Token.IsSign · s) (f x) []) :
    Refuses F (Parser.spanned p >>= f) ls := by
  intro ts t rest hts ht
  cases hrun : p (ts ++ t :: rest) with
  | none =>
    exact bind_of_eq_none (by simp [Parser.spanned, hrun])
  | some result =>
    obtain ⟨a, left⟩ := result
    obtain ⟨first, behind, rfl, hfirst⟩ := h ts t rest hts ht a left hrun
    have hsome : ∃ taken, Parser.spanned p (ts ++ t :: rest) = some ((a, taken), first :: behind) := by
      simp [Parser.spanned, hrun]
    obtain ⟨taken, hsome⟩ := hsome
    rw [bind_of_eq_some hsome]
    exact hf (a, taken) [] first behind .nil hfirst

end Combinators

end GoMocks.GoSource
