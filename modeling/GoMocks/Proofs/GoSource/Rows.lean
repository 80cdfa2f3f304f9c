import GoMocks.Proofs.GoSource.Printing

/-!
# Go source — the rows of lexemes that are types

A printed type is one of the ways to write it. A source may name some parameters together, leave out
the parentheses around the element of a channel, or put any type into a type set.

* `TypeExpr.Row`: the lexemes that are read as a type, with one constructor for each way to write one,
  and the parts of types beside it.
* `TypeExpr.row_lexemes`: a printed type is one of its rows.
* `TypeExpr.ElementRow.exists_chan`, `exists_send`: behind the front of a channel, any element is read
  as part of some channel.
-/

namespace GoMocks.GoSource

open Lexeme (separated inParens inBrackets inBraces)

/-! ### Rows -/

/-- An arrow and a keyword, so often. -/
def channelPairs (k : Nat) : List Lexeme :=
  (List.replicate k (channelStart .receive)).flatten

mutual

/-- The lexemes are read as the type. -/
inductive TypeExpr.Row : TypeExpr → List Lexeme → Prop
  | name (n : String) : TypeExpr.Row (.name n) [.name n]
  | qualified (package n : String) :
      TypeExpr.Row (.qualified package n) [.name package, .sign ".", .name n]
  | generic {base : TypeExpr} {arguments : List TypeExpr} {items : List (List Lexeme)}
      (hbase : base.isPlainName) (hne : arguments ≠ [])
      (h : List.Forall₂ TypeExpr.Row arguments items) :
      TypeExpr.Row (.generic base arguments)
        (base.lexemes ++ inBrackets (separated (.sign ",") items))
  | pointer {elem : TypeExpr} {ls : List Lexeme} (h : TypeExpr.Row elem ls) :
      TypeExpr.Row (.pointer elem) (.sign "*" :: ls)
  | slice {elem : TypeExpr} {ls : List Lexeme} (h : TypeExpr.Row elem ls) :
      TypeExpr.Row (.slice elem) (.sign "[" :: .sign "]" :: ls)
  | array {length : LengthExpr} {elem : TypeExpr} {ls : List Lexeme} (hlength : length.isPrintable)
      (h : TypeExpr.Row elem ls) : TypeExpr.Row (.array length elem) (inBrackets length.lexemes ++ ls)
  | map {key value : TypeExpr} {ks vs : List Lexeme} (hkey : TypeExpr.Row key ks)
      (hvalue : TypeExpr.Row value vs) :
      TypeExpr.Row (.map key value) (.keyword "map" :: (inBrackets ks ++ vs))
  /-- An arrow binds to the keyword behind it, and not to the one before it. -/
  | both {elem : TypeExpr} {ls : List Lexeme} (k : Nat) (h : TypeExpr.ElementRow elem ls)
      (harrow : ∀ l ∈ ls.head?, ¬ (l.kind = .sign ∧ l.text = "<-")) :
      TypeExpr.Row (.channel .both (Grammar.channels .receive k elem))
        (.keyword "chan" :: (channelPairs k ++ ls))
  | send {elem : TypeExpr} {ls : List Lexeme} (k : Nat) (h : TypeExpr.ElementRow elem ls)
      (hchan : ∀ l ∈ ls.head?, ¬ (l.kind = .keyword ∧ l.text = "chan")) :
      TypeExpr.Row (Grammar.channels .send (k + 1) elem)
        (.keyword "chan" :: (channelPairs k ++ .sign "<-" :: ls))
  | receive {elem : TypeExpr} {ls : List Lexeme} (h : TypeExpr.ElementRow elem ls) :
      TypeExpr.Row (.channel .receive elem) (.sign "<-" :: .keyword "chan" :: ls)
  | function {f : FunctionExpr} {ls : List Lexeme} (h : FunctionExpr.Row f ls) :
      TypeExpr.Row (.function f) (.keyword "func" :: ls)
  | struct {fields : List FieldExpr} {items : List (List Lexeme)}
      (h : List.Forall₂ FieldExpr.Row fields items) :
      TypeExpr.Row (.struct fields) (.keyword "struct" :: inBraces (separated (.sign ";") items))
  | interface {elems : List InterfaceElem} {items : List (List Lexeme)}
      (h : List.Forall₂ InterfaceElem.Row elems items) :
      TypeExpr.Row (.interface elems)
        (.keyword "interface" :: inBraces (separated (.sign ";") items))

/-- The element of a channel may stand between parentheses. -/
inductive TypeExpr.ElementRow : TypeExpr → List Lexeme → Prop
  | bare {e : TypeExpr} {ls : List Lexeme} (h : TypeExpr.Row e ls) : TypeExpr.ElementRow e ls
  | parens {e : TypeExpr} {ls : List Lexeme} (h : TypeExpr.Row e ls) :
      TypeExpr.ElementRow e (inParens ls)

/-- The lexemes are read as an entry of a parameter list. -/
inductive ParamEntry.Row : ParamEntry → List Lexeme → Prop
  | bare (n : String) : ParamEntry.Row (.bare n) [.name n]
  | named {e : TypeExpr} {ls : List Lexeme} (n : String) (h : TypeExpr.Row e ls) :
      ParamEntry.Row (.named n e) (.name n :: ls)
  | unnamed {e : TypeExpr} {ls : List Lexeme} (h : TypeExpr.Row e ls) (hname : ∀ n, e ≠ .name n) :
      ParamEntry.Row (.unnamed e) ls
  | variadic {e : TypeExpr} {ls : List Lexeme} (n : Option String) (h : TypeExpr.Row e ls) :
      ParamEntry.Row (.variadic n e) (n.toList.map .name ++ .sign "..." :: ls)

/-- Parameters between parentheses. -/
inductive ParamsRow : List ParamExpr → List Lexeme → Prop
  | mk {entries : List ParamEntry} {items : List (List Lexeme)}
      (h : List.Forall₂ ParamEntry.Row entries items) :
      ParamsRow (ParamEntry.group [] entries) (inParens (separated (.sign ",") items))

/-- The lexemes are read as parameters and results. -/
inductive FunctionExpr.Row : FunctionExpr → List Lexeme → Prop
  | none {params : List ParamExpr} {ls : List Lexeme} (h : ParamsRow params ls) :
      FunctionExpr.Row ⟨params, []⟩ ls
  | single {params : List ParamExpr} {e : TypeExpr} {ls rs : List Lexeme} (h : ParamsRow params ls)
      (hresult : TypeExpr.Row e rs) : FunctionExpr.Row ⟨params, [⟨[], e, false⟩]⟩ (ls ++ rs)
  | list {params results : List ParamExpr} {ls rs : List Lexeme} (h : ParamsRow params ls)
      (hresults : ParamsRow results rs) : FunctionExpr.Row ⟨params, results⟩ (ls ++ rs)

/-- The lexemes are read as fields of one type. -/
inductive FieldExpr.Row : FieldExpr → List Lexeme → Prop
  | embedded {e : TypeExpr} {ls : List Lexeme} (tag : Option String) (hembed : e.isEmbeddable)
      (h : TypeExpr.Row e ls) : FieldExpr.Row ⟨[], e, tag⟩ (ls ++ tag.toList.map .string)
  | named {e : TypeExpr} {ls : List Lexeme} (name : String) (more : List String)
      (tag : Option String) (h : TypeExpr.Row e ls) :
      FieldExpr.Row ⟨name :: more, e, tag⟩
        (.name name :: ((more.map fun n => [.sign ",", .name n]).flatten ++
          (ls ++ tag.toList.map .string)))

/-- The lexemes are read as a method or as an embedded type. -/
inductive InterfaceElem.Row : InterfaceElem → List Lexeme → Prop
  | method {f : FunctionExpr} {ls : List Lexeme} (n : String) (h : FunctionExpr.Row f ls) :
      InterfaceElem.Row (.method n f) (.name n :: ls)
  | embed {terms : List UnionTerm} {items : List (List Lexeme)} (hne : terms ≠ [])
      (h : List.Forall₂ UnionTerm.Row terms items) :
      InterfaceElem.Row (.embed terms) (separated (.sign "|") items)

/-- The lexemes are read as a term of a type set. -/
inductive UnionTerm.Row : UnionTerm → List Lexeme → Prop
  | mk {e : TypeExpr} {ls : List Lexeme} (tilde : Bool) (h : TypeExpr.Row e ls) :
      UnionTerm.Row ⟨tilde, e⟩ ((if tilde then [.sign "~"] else []) ++ ls)

end

/-- The lexemes are read as a type parameter of its own, with the terms of its constraint. -/
inductive TypeParamSpec.Row : TypeParamSpec → List Lexeme → Prop
  | mk {terms : List UnionTerm} {items : List (List Lexeme)} (n : String) (hne : terms ≠ [])
      (h : List.Forall₂ UnionTerm.Row terms items) :
      TypeParamSpec.Row ⟨n, .ofTerms terms⟩ (.name n :: separated (.sign "|") items)

/-- Each item of a list is a row of its own, and it is among the items. -/
theorem forall₂_mem_right {α β : Type} {R : α → β → Prop} {as : List α} {bs : List β}
    (h : List.Forall₂ R as bs) : List.Forall₂ (fun a b => R a b ∧ b ∈ bs) as bs := by
  have hflip := (List.forall₂_and_left _ _).mpr ⟨fun b hb => hb, h.flip⟩
  exact hflip.flip.imp fun a b hab => ⟨hab.2, hab.1⟩

/-! ### The entries of a parameter list -/

/-- The entry that the last name of a parameter begins, or its type. -/
def ParamExpr.lastEntry (p : ParamExpr) : ParamEntry :=
  match p.names.getLast?, p.variadic, p.type with
  | name, true, type     => .variadic name type
  | some n, false, type  => .named n type
  | none, false, .name n => .bare n
  | none, false, type    => .unnamed type

/-- What a parameter is read as, before its names are known to be names. -/
def ParamExpr.entries (p : ParamExpr) : List ParamEntry :=
  p.names.dropLast.map .bare ++ [p.lastEntry]

namespace ParamEntry

/-- Bare names wait for the type behind them. -/
theorem group_bare (pending names : List String) (rest : List ParamEntry) :
    group pending (names.map .bare ++ rest) = group (pending ++ names) rest := by
  induction names generalizing pending with
  | nil => simp
  | cons n names ih => simp [group, ih]

/-- Few names share one parameter. -/
theorem share_of_length_le {names : List String} (h : names.length ≤ sharedNames)
    (type : TypeExpr) : share names type = [⟨names, type, false⟩] := by
  simp [share, types, Nat.sub_eq_zero_of_le h]

/-- Named parameters are grouped as they were written. -/
theorem group_entries_named {params : List ParamExpr} (hnames : ∀ p ∈ params, p.names ≠ [])
    (h : ∀ p ∈ params, p.isPrintable) : group [] (params.flatMap ParamExpr.entries) = params := by
  induction params with
  | nil => rfl
  | cons p params ih =>
    have hrest := ih (fun p hp => hnames p (by simp [hp])) (fun p hp => h p (by simp [hp]))
    obtain ⟨names, type, variadic⟩ := p
    have hne : names ≠ [] := hnames _ (List.mem_cons_self ..)
    have hp := h _ (List.mem_cons_self ..)
    simp only [ParamExpr.isPrintable, Bool.and_eq_true, decide_eq_true_eq] at hp
    rw [List.flatMap_cons, ParamExpr.entries, List.append_assoc, group_bare]
    cases variadic with
    | true =>
      obtain ⟨n, rfl⟩ : ∃ n, names = [n] :=
        List.length_eq_one_iff.mp (Nat.le_antisymm hp.1 (List.length_pos_iff.mpr hne))
      simp [ParamExpr.lastEntry, group, types, hrest]
    | false =>
      simp [ParamExpr.lastEntry, List.getLast?_eq_some_getLast hne, group,
        List.dropLast_append_getLast hne, share_of_length_le hp.1, hrest]

/-- Unnamed parameters are grouped as types. -/
theorem group_entries_unnamed {params : List ParamExpr} (h : ∀ p ∈ params, p.names = [])
    (pending : List String) :
    group pending (params.flatMap ParamExpr.entries) = types pending ++ params := by
  induction params generalizing pending with
  | nil => simp [group]
  | cons p params ih =>
    have hrest := ih fun p hp => h p (by simp [hp])
    obtain ⟨names, type, variadic⟩ := p
    obtain rfl : names = [] := h _ (List.mem_cons_self ..)
    cases variadic with
    | true => simp [ParamExpr.entries, ParamExpr.lastEntry, group, types, hrest]
    | false => cases type <;> simp [ParamExpr.entries, ParamExpr.lastEntry, group, types, hrest]

/-- The entries of printable parameters are grouped to them again. -/
theorem group_entries {params : List ParamExpr} (hstyle : sameStyle params)
    (h : paramsPrintable params) : group [] (params.flatMap ParamExpr.entries) = params := by
  rcases Bool.or_eq_true_iff.mp hstyle with hall | hall
  · exact group_entries_unnamed (by simpa using hall) []
  · exact group_entries_named (by simpa using hall) (paramsPrintable_iff.mp h)

end ParamEntry

/-! ### What a row begins with -/

/-- A slice or an array. -/
def TypeExpr.isBracketed : TypeExpr → Bool
  | .slice _ | .array _ _ => true
  | _                     => false

/-- A lexeme that a row of the type may begin with. -/
def Lexeme.Starts (e : TypeExpr) : Lexeme → Prop
  | .name _      => e.isNamed
  | .keyword k _ => k ∈ if e.isChannel then ["chan"] else ["func", "interface", "map", "struct"]
  | .sign s _    => s = if e.isChannel then "<-" else if e.isBracketed then "[" else "*"
  | _            => False

namespace TypeExpr

variable {e elem : TypeExpr} {ls : List Lexeme}

/-- A dot or a bracket goes on with a name. -/
theorem Row.exists_name_cons (h : e.Row ls) (hnamed : e.isNamed) :
    ∃ n behind, ls = .name n :: behind ∧
      (behind = [] ∨ ∃ s hs rest, behind = .sign s hs :: rest ∧ s ∈ [".", "["]) := by
  cases h with
  | name n => exact ⟨n, _, rfl, .inl rfl⟩
  | qualified package n => exact ⟨package, _, rfl, .inr ⟨".", _, _, rfl, by simp⟩⟩
  | @generic base arguments items hbase hne h =>
    cases base with
    | name n => exact ⟨n, _, rfl, .inr ⟨"[", _, _, rfl, by simp⟩⟩
    | qualified package n => exact ⟨package, _, rfl, .inr ⟨".", _, _, rfl, by simp⟩⟩
    | _ => simp [isPlainName] at hbase
  | _ => simp [isNamed, Grammar.channels] at hnamed

/-- The row of a type begins with a lexeme that starts it. -/
theorem Row.exists_cons (h : e.Row ls) : ∃ l behind, ls = l :: behind ∧ l.Starts e := by
  cases hnamed : e.isNamed with
  | true =>
    obtain ⟨n, behind, heq, -⟩ := h.exists_name_cons hnamed
    exact ⟨.name n, behind, heq, hnamed⟩
  | false =>
    cases h with
    | name | qualified | generic => simp [isNamed] at hnamed
    | _ => exact ⟨_, _, rfl, by simp [Lexeme.Starts, isChannel, isBracketed, Grammar.channels]⟩

theorem Row.ne_nil (h : e.Row ls) : ls ≠ [] := by
  obtain ⟨l, behind, rfl, -⟩ := h.exists_cons
  exact List.cons_ne_nil l behind
/-! ### Channels -/

theorem ElementRow.ne_nil (h : e.ElementRow ls) : ls ≠ [] := by
  cases h with
  | bare h   => exact h.ne_nil
  | parens h => exact List.cons_ne_nil _ _

/-- An arrow at the front receives. -/
theorem Row.exists_receive (h : e.Row ls) (hl : ∃ l ∈ ls.head?, l.kind = .sign ∧ l.text = "<-") :
    ∃ (elem : TypeExpr) (behind : List Lexeme),
      ls = .sign "<-" :: .keyword "chan" :: behind ∧ elem.ElementRow behind := by
  obtain ⟨l, behind, rfl, hstarts⟩ := h.exists_cons
  obtain ⟨hkind, htext⟩ : l.kind = .sign ∧ l.text = "<-" := by simpa using hl
  have hchannel : e.isChannel := by
    cases l <;> simp_all [Lexeme.Starts, Lexeme.kind, Lexeme.text]
    grind
  generalize hrow : l :: behind = row at h
  cases h with
  | receive h => exact ⟨_, _, rfl, h⟩
  | both | send =>
    obtain ⟨rfl, -⟩ := List.cons_eq_cons.mp hrow
    simp [Lexeme.kind] at hkind
  | _ => simp [isChannel] at hchannel

/-- The keyword at the front, with arrows and keywords behind it. -/
theorem Row.cases_chan (h : e.Row (.keyword "chan" :: ls)) :
    (∃ k, ∃ elem : TypeExpr, ∃ behind, e = .channel .both (Grammar.channels .receive k elem) ∧
      ls = channelPairs k ++ behind ∧ elem.ElementRow behind ∧
      ∀ l ∈ behind.head?, ¬ (l.kind = .sign ∧ l.text = "<-")) ∨
    ∃ k, ∃ elem : TypeExpr, ∃ behind, e = Grammar.channels .send (k + 1) elem ∧
      ls = channelPairs k ++ .sign "<-" :: behind ∧ elem.ElementRow behind ∧
      ∀ l ∈ behind.head?, ¬ (l.kind = .keyword ∧ l.text = "chan") := by
  have hchannel : e.isChannel := by
    obtain ⟨l, behind, heq, hstarts⟩ := h.exists_cons
    obtain ⟨rfl, -⟩ := List.cons_eq_cons.mp heq
    by_contra hno
    simp [Lexeme.Starts, hno] at hstarts
  generalize hrow : Lexeme.keyword "chan" :: ls = row at h
  cases h with
  | both k h harrow => exact .inl ⟨k, _, _, rfl, (List.cons_eq_cons.mp hrow).2, h, harrow⟩
  | send k h hchan => exact .inr ⟨k, _, _, rfl, (List.cons_eq_cons.mp hrow).2, h, hchan⟩
  | receive => simp at hrow
  | _ => simp [isChannel] at hchannel

/-- Behind the keyword, any element is read as part of some channel. -/
theorem ElementRow.exists_chan (h : elem.ElementRow ls) :
    ∃ e : TypeExpr, e.Row (.keyword "chan" :: ls) := by
  obtain ⟨n, hn⟩ : ∃ n, ls.length = n := ⟨_, rfl⟩
  induction n using Nat.strongRecOn generalizing elem ls with
  | ind n ih =>
    by_cases harrow : ∃ l ∈ ls.head?, l.kind = .sign ∧ l.text = "<-"
    · cases h with
      | parens h => simp [inParens, Lexeme.text] at harrow
      | bare h =>
        -- the arrow belongs to the keyword in front of it
        obtain ⟨elem', behind, rfl, helem⟩ := h.exists_receive harrow
        obtain ⟨e, he⟩ := ih behind.length (by simp [← hn]) helem rfl
        rcases he.cases_chan with ⟨k, last, ls', -, rfl, hlast, hlead⟩ |
          ⟨k, last, ls', -, rfl, hlast, hlead⟩
        · exact ⟨_, .both (k + 1) hlast hlead⟩
        · exact ⟨_, .send (k + 1) hlast hlead⟩
    · exact ⟨_, .both 0 h fun l hl hsign => harrow ⟨l, hl, hsign⟩⟩

/-- The row of an element behind a sending arrow is that of a channel. -/
theorem ElementRow.exists_send (h : elem.ElementRow ls) :
    ∃ e : TypeExpr, e.Row (.keyword "chan" :: .sign "<-" :: ls) := by
  by_cases hchan : ∃ l ∈ ls.head?, l.kind = .keyword ∧ l.text = "chan"
  · cases h with
    | parens h => simp [inParens, Lexeme.kind] at hchan
    | bare h =>
      obtain ⟨l, behind, rfl, -⟩ := h.exists_cons
      obtain ⟨hkind, htext⟩ : l.kind = .keyword ∧ l.text = "chan" := by simpa using hchan
      obtain rfl : l = .keyword "chan" := by
        cases l <;> simp_all [Lexeme.kind, Lexeme.text]
      rcases h.cases_chan with ⟨k, last, ls', -, rfl, hlast, hlead⟩ |
        ⟨k, last, ls', -, rfl, hlast, hlead⟩
      · exact ⟨_, .both (k + 1) hlast hlead⟩
      · exact ⟨_, .send (k + 1) hlast hlead⟩
  · exact ⟨_, .send 0 h fun l hl hkeyword => hchan ⟨l, hl, hkeyword⟩⟩

end TypeExpr

theorem UnionTerm.Row.ne_nil {term : UnionTerm} {ls : List Lexeme} (h : term.Row ls) : ls ≠ [] := by
  obtain ⟨tilde, h⟩ := h
  simp [h.ne_nil]

/-- Parameters stand first. -/
theorem FunctionExpr.Row.exists_parens {f : FunctionExpr} {ls : List Lexeme} (h : f.Row ls) :
    ∃ behind, ls = .sign "(" :: behind := by
  rcases h with ⟨⟨h⟩⟩ | ⟨⟨h⟩, hresult⟩ | ⟨⟨h⟩, hresults⟩ <;> exact ⟨_, rfl⟩

/-! ### Types as parts of expressions -/

/-- A name, with stars in front of it or without. -/
def TypeExpr.isOperand : TypeExpr → Bool
  | .pointer elem => elem.isOperand
  | e             => e.isNamed

/-- Behind a name, is the type the rest of an expression? Lengths in brackets are indexes there, and
a star multiplies. -/
def TypeExpr.isFactor : TypeExpr → Bool
  | .pointer elem => elem.isOperand
  | .array _ elem => elem.isFactor
  | _             => false

/-- Behind a name, are the terms the rest of an expression? -/
def areFactors : List UnionTerm → Bool
  | []            => false
  | first :: more =>
    !first.tilde && first.type.isFactor && more.all fun term => !term.tilde && term.type.isOperand

/-! ### Printed types -/

/-- The element of a channel, as it is printed, continues no channel. -/
theorem TypeExpr.Row.elementRow {e : TypeExpr} (h : e.Row e.lexemes) :
    let ls := if e.isChannel then inParens e.lexemes else e.lexemes
    e.ElementRow ls ∧ (∀ l ∈ ls.head?, ¬ (l.kind = .sign ∧ l.text = "<-")) ∧
      ∀ l ∈ ls.head?, ¬ (l.kind = .keyword ∧ l.text = "chan") := by
  intro ls
  cases hc : e.isChannel with
  | true =>
    have hrow : e.ElementRow (inParens e.lexemes) := .parens h
    simp_all [ls, inParens, Lexeme.kind, Lexeme.text]
  | false =>
    obtain ⟨l, behind, heq, hstarts⟩ := h.exists_cons
    have hrow : e.ElementRow e.lexemes := .bare h
    cases l <;> simp_all [ls, Lexeme.Starts, Lexeme.kind, Lexeme.text] <;> grind

/-- A printed channel is a row of it. -/
theorem TypeExpr.Row.of_printed_channel {e : TypeExpr} (h : e.Row e.lexemes)
    (direction : ChannelDirection) :
    (TypeExpr.channel direction e).Row (TypeExpr.channel direction e).lexemes := by
  obtain ⟨hrow, harrow, hchan⟩ := h.elementRow
  cases direction with
  | both    => exact .both 0 hrow harrow
  | send    => exact .send 0 hrow hchan
  | receive => exact .receive hrow

/-- The entries of printed parameters. -/
theorem ParamExpr.forall₂_row {p : ParamExpr} (h : p.type.Row p.type.lexemes) :
    List.Forall₂ ParamEntry.Row p.entries p.items := by
  obtain ⟨names, type, variadic⟩ := p
  have hbares : List.Forall₂ ParamEntry.Row (names.dropLast.map .bare)
      (names.dropLast.map ([.name ·])) := by
    rw [List.forall₂_map_left_iff, List.forall₂_map_right_iff, List.forall₂_same]
    exact fun name _ => .bare name
  refine List.rel_append hbares (.cons ?_ .nil)
  cases variadic with
  | true => simpa [lastEntry] using ParamEntry.Row.variadic names.getLast? h
  | false =>
    cases hlast : names.getLast? with
    | some name => simpa [lastEntry, hlast] using ParamEntry.Row.named name h
    | none =>
      cases type with
      | name n => simpa [lastEntry, hlast, TypeExpr.lexemes] using ParamEntry.Row.bare n
      | _ => simpa [lastEntry, hlast] using ParamEntry.Row.unnamed h (by simp)

/-- A bare result is a type. -/
theorem ParamEntry.Row.of_bare {type : TypeExpr} {ls : List Lexeme}
    (h : (ParamExpr.mk [] type false).lastEntry.Row ls) : type.Row ls := by
  cases type with
  | name n =>
    cases h
    exact .name n
  | _ =>
    cases h
    assumption

mutual

/-- **A printed type is one of its rows.** -/
theorem TypeExpr.row_lexemes : (e : TypeExpr) → e.isPrintable → e.Row e.lexemes
  | .name n, _ => .name n
  | .qualified package n, _ => .qualified package n
  | .generic base arguments, h => by
    obtain ⟨⟨hbase, hne⟩, harguments⟩ :
        (base.isPlainName ∧ arguments ≠ []) ∧ typesPrintable arguments := by
      simpa [TypeExpr.isPrintable] using h
    exact .generic hbase hne (forall₂_typeItems arguments harguments)
  | .pointer elem, h => .pointer (elem.row_lexemes h)
  | .slice elem, h => .slice (elem.row_lexemes h)
  | .array length elem, h => by
    obtain ⟨hlength, helem⟩ : length.isPrintable ∧ elem.isPrintable := by
      simpa [TypeExpr.isPrintable] using h
    exact .array hlength (elem.row_lexemes helem)
  | .map key value, h => by
    obtain ⟨hkey, hvalue⟩ : key.isPrintable ∧ value.isPrintable := by
      simpa [TypeExpr.isPrintable] using h
    exact .map (key.row_lexemes hkey) (value.row_lexemes hvalue)
  | .channel direction elem, h => (elem.row_lexemes h).of_printed_channel direction
  | .function signature, h => .function (signature.row_lexemes h)
  | .struct fields, h => .struct (forall₂_fieldItems fields h)
  | .interface elems, h => .interface (forall₂_elemItems elems h)

/-- A printable function type has the lexemes of a row. -/
theorem FunctionExpr.row_lexemes : (f : FunctionExpr) → f.isPrintable → f.Row f.lexemes
  | ⟨params, results⟩, h => by
    obtain ⟨⟨hparams, hparamItems⟩, hresults, hresultItems⟩ :
        (sameStyle params ∧ paramsPrintable params) ∧ sameStyle results ∧ paramsPrintable results := by
      simpa [FunctionExpr.isPrintable] using h
    have hrow {ps : List ParamExpr} (hstyle : sameStyle ps) (h : paramsPrintable ps)
        (hitems : List.Forall₂ ParamEntry.Row (ps.flatMap ParamExpr.entries) (paramItems ps)) :
        ParamsRow ps (inParens (separated (.sign ",") (paramItems ps))) := by
      have hmk := ParamsRow.mk hitems
      rwa [ParamEntry.group_entries hstyle h] at hmk
    have hfront := hrow hparams hparamItems (forall₂_paramItems params hparamItems)
    have hbehind := forall₂_paramItems results hresultItems
    rw [FunctionExpr.lexemes]
    by_cases hempty : results = []
    · subst hempty
      simpa [paramItems] using FunctionExpr.Row.none hfront
    by_cases hbare : results.length = 1 ∧ results.all ParamExpr.isBare
    · obtain ⟨⟨names, type, variadic⟩, rfl⟩ := List.length_eq_one_iff.mp hbare.1
      obtain ⟨rfl, rfl⟩ : names = [] ∧ variadic = false := by
        simpa [ParamExpr.isBare] using hbare.2
      obtain ⟨hentry, -⟩ := List.forall₂_cons.mp hbehind
      have hresult : type.Row type.lexemes := by simpa using hentry.of_bare
      simpa [paramItems, ParamExpr.items, ParamExpr.isBare] using
        FunctionExpr.Row.single hfront hresult
    · have hlist : ¬ (results.length = 1 ∧ ∀ p ∈ results, p.isBare) := by simpa using hbare
      simpa [hempty, hlist] using FunctionExpr.Row.list hfront (hrow hresults hresultItems hbehind)

theorem forall₂_typeItems : (ts : List TypeExpr) → typesPrintable ts →
    List.Forall₂ TypeExpr.Row ts (typeItems ts)
  | [], _ => .nil
  | t :: ts, h => by
    obtain ⟨ht, hts⟩ : t.isPrintable ∧ typesPrintable ts := by simpa [typesPrintable] using h
    exact .cons (t.row_lexemes ht) (forall₂_typeItems ts hts)

theorem forall₂_paramItems : (ps : List ParamExpr) → paramsPrintable ps →
    List.Forall₂ ParamEntry.Row (ps.flatMap ParamExpr.entries) (paramItems ps)
  | [], _ => .nil
  | ⟨names, type, variadic⟩ :: ps, h => by
    obtain ⟨⟨-, ht⟩, hps⟩ : (_ ∧ type.isPrintable) ∧ paramsPrintable ps := by
      simpa [paramsPrintable, ParamExpr.isPrintable] using h
    exact List.rel_append (ParamExpr.forall₂_row (type.row_lexemes ht)) (forall₂_paramItems ps hps)

theorem forall₂_fieldItems : (fs : List FieldExpr) → fieldsPrintable fs →
    List.Forall₂ FieldExpr.Row fs (fieldItems fs)
  | [], _ => .nil
  | ⟨names, type, tag⟩ :: fs, h => by
    obtain ⟨⟨hembed, ht⟩, hfs⟩ :
        ((names ≠ [] ∨ type.isEmbeddable) ∧ type.isPrintable) ∧ fieldsPrintable fs := by
      simpa [fieldsPrintable, FieldExpr.isPrintable] using h
    have hrow := type.row_lexemes ht
    refine .cons ?_ (forall₂_fieldItems fs hfs)
    rw [FieldExpr.lexemes]
    cases names with
    | nil => simpa using FieldExpr.Row.embedded tag (by simpa using hembed) hrow
    | cons name more =>
      have hnames : separated (.sign ",") ((name :: more).map ([.name ·])) =
          .name name :: (more.map fun n => [.sign ",", .name n]).flatten := by
        rw [List.map_cons, Lexeme.separated_cons, List.map_map]
        rfl
      rw [hnames, List.append_assoc, List.cons_append]
      exact .named name more tag hrow

theorem forall₂_elemItems : (es : List InterfaceElem) → elemsPrintable es →
    List.Forall₂ InterfaceElem.Row es (elemItems es)
  | [], _ => .nil
  | .method name signature :: es, h => by
    obtain ⟨hsignature, hes⟩ : signature.isPrintable ∧ elemsPrintable es := by
      simpa [elemsPrintable, InterfaceElem.isPrintable] using h
    exact .cons (.method name (signature.row_lexemes hsignature)) (forall₂_elemItems es hes)
  | .embed terms :: es, h => by
    obtain ⟨⟨hne, hterms⟩, hes⟩ : (terms ≠ [] ∧ termsPrintable terms) ∧ elemsPrintable es := by
      simpa [elemsPrintable, InterfaceElem.isPrintable] using h
    exact .cons (.embed hne (forall₂_termItems terms hterms)) (forall₂_elemItems es hes)

theorem forall₂_termItems : (ts : List UnionTerm) → termsPrintable ts →
    List.Forall₂ UnionTerm.Row ts (termItems ts)
  | [], _ => .nil
  | ⟨tilde, type⟩ :: ts, h => by
    obtain ⟨⟨-, ht⟩, hts⟩ : (_ ∧ type.isPrintable) ∧ termsPrintable ts := by
      simpa [termsPrintable, UnionTerm.isPrintable] using h
    exact .cons (.mk tilde (type.row_lexemes ht)) (forall₂_termItems ts hts)

end

end GoMocks.GoSource
