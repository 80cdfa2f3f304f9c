import GoMocks.Proofs.GoType.Reader
import GoMocks.Proofs.GoType.Spelling

/-!
# Go types — texts that are read back

A reader that reads the parts of a type reads the type: one lemma for each way to write a type.

* `Reader.ReadsType`: in front of everything that can follow a type, a text is read as the type.
* `readsType_pointer`, `readsType_map`, `readsType_channel`, `readsType_function`,
  `readsType_struct`, `readsType_interface`, `readsType_plain`, `readsType_qualified`.
-/

namespace GoMocks

open Text (isIdentifierStart isIdentifierPart)
open Resolver

namespace Reader

variable {p : List Char} {x : String} {xs : List String} {n : Nat}

/-! ### Types that are read back -/

/-- In front of everything that can follow a type, the text is read as the type. -/
structure ReadsType (type : Reader GoType) (x : String) (t : GoType) : Prop where
  starts     : ∀ p, startsType (x.toList ++ p)
  /-- It does not look like a method. -/
  not_method : ∀ p, EndsType p → methodNext (x.toList ++ p) = false
  run        : ReadsBefore EndsType type x t

variable {pathOf : String → String} {type : Reader GoType} {y : String} {t u : GoType}

/-- No type begins with a sign other than a star, a bracket and an arrow. -/
theorem ReadsType.begins_not (h : ReadsType type x t) {c : Char} (hc : c ∈ signs)
    (hne : c ∉ ['*', '[', '<']) (cs p : List Char) : ¬ c :: cs <+: x.toList ++ p := by
  rintro ⟨rest, hrest⟩
  have hstarts := h.starts p
  have hpart := isIdentifierPart_of_mem_signs hc
  simp only [isIdentifierPart, Bool.or_eq_false_iff] at hpart
  simp_all [← hrest, startsType]

/-- What begins with a sign is no method. -/
theorem methodNext_cons {c : Char} (hc : c ∈ signs) (hne : c ≠ '(') (cs : List Char) :
    methodNext (c :: cs) = false := by
  simp [methodNext, isIdentifierPart_of_mem_signs hc, hne]

theorem readsType_pointer (h : ReadsType type y t) :
    ReadsType (typeBy pathOf n type) ("*" ++ y) (.pointer t) where
  starts p := by simp [startsType]
  not_method p _ := by simpa using methodNext_cons (c := '*') (by decide) (by decide) _
  run p hp := by
    have hlead : lead.run ('*' :: (y.toList ++ p)) = some (.star, y.toList ++ p) := rfl
    simp [typeBy, hlead, h.run p hp]

theorem readsType_slice (h : ReadsType type y t) :
    ReadsType (typeBy pathOf n type) ("[]" ++ y) (.slice t) where
  starts p := by simp [startsType]
  not_method p _ := by simpa using methodNext_cons (c := '[') (by decide) (by decide) _
  run p hp := by
    have hlead : lead.run ('[' :: ']' :: (y.toList ++ p)) =
      some (.bracket, ']' :: (y.toList ++ p)) := rfl
    simp [typeBy, hlead, h.run p hp]

/-- A literal is read as a length. -/
theorem run_arrayLength_literal {l : String} (hl : IsWord l) (q : List Char) :
    (arrayLength pathOf).run (l.toList ++ ']' :: q) = some (.literal l, ']' :: q) := by
  have hword := run_word hl (p := ']' :: q) (by simp [EndsWord, signs])
  simp [arrayLength, hword]

/-- A qualified name is read as a constant length. -/
theorem run_arrayLength_constant {ident name : String} (hi : IsWord ident) (hn : IsWord name)
    (q : List Char) :
    (arrayLength pathOf).run ((ident ++ "." ++ name).toList ++ ']' :: q) =
      some (.constant (pathOf ident) name, ']' :: q) := by
  have hident := run_word hi (p := '.' :: (name.toList ++ ']' :: q)) (by simp [EndsWord, signs])
  have hname := run_word hn (p := ']' :: q) (by simp [EndsWord, signs])
  simp [arrayLength, hident, hname]

/-- A length in brackets and a type are read as an array. -/
theorem readsType_array {length : ArrayLength} {l : String}
    (hl : ∀ q, (arrayLength pathOf).run (l.toList ++ ']' :: q) = some (length, ']' :: q))
    (hne : ∀ q, ¬ [']'] <+: l.toList ++ q) (h : ReadsType type y t) :
    ReadsType (typeBy pathOf n type) ("[" ++ l ++ "]" ++ y) (.array length t) where
  starts p := by simp [startsType]
  not_method p _ := by simpa using methodNext_cons (c := '[') (by decide) (by decide) _
  run p hp := by
    have hlead : lead.run ('[' :: (l.toList ++ ']' :: (y.toList ++ p))) =
      some (.bracket, l.toList ++ ']' :: (y.toList ++ p)) := rfl
    simp [typeBy, hlead, hl, hne, h.run p hp]

/-! ### Types that begin with a word -/

/-- A word that can be the first one of a type. -/
structure Leads (w : String) : Prop where
  word  : IsWord w
  start : ∃ c cs, w.toList = c :: cs ∧ isIdentifierStart c

theorem Leads.of_isIdentifier {name : String} (h : isIdentifier name) : Leads name :=
  ⟨.of_isIdentifier h, head_of_isIdentifier h⟩

theorem Leads.of_all {w : String} (h : w.toList.all isIdentifierStart) (hne : w.toList ≠ []) :
    Leads w := by
  obtain ⟨c, cs, hcs⟩ := List.exists_cons_of_ne_nil hne
  have hall := List.all_eq_true.mp h
  refine ⟨⟨hne, fun c hc => by simp [isIdentifierPart, hall c hc]⟩, c, cs, hcs, ?_⟩
  exact hall c (by simp [hcs])

/-- A type that begins with a word is read by what the word is. -/
theorem readsType_word {w : String} (hw : Leads w)
    (hends : ∀ p, EndsType p → EndsWord (y.toList ++ p))
    (hmethod : w ∈ goKeywords ∨ ∀ p, EndsType p → (y.toList ++ p).head? ≠ some '(')
    (h : ReadsBefore EndsType (typeAfter pathOf n type w) y t) :
    ReadsType (typeBy pathOf n type) (w ++ y) t where
  starts p := by
    obtain ⟨c, cs, hcs, hc⟩ := hw.start
    simp [hcs, startsType, hc]
  not_method p hp := by
    rw [String.toList_append, List.append_assoc, methodNext, hw.word.takeWhile_append (hends p hp),
      hw.word.dropWhile_append (hends p hp), String.ofList_toList]
    -- no method is called like a keyword, and the parameters of one would begin with a parenthesis
    rcases hmethod with hmethod | hmethod
    · simp [hmethod]
    · rw [beq_eq_false_iff_ne.mpr (hmethod p hp), Bool.and_false]
  run p hp := by
    have hlead := run_lead_word hw.word (hends p hp)
    rw [String.toList_append, List.append_assoc, typeBy, StateT.run_bind, hlead]
    exact h p hp

theorem readsType_map {k v : String} (hk : ReadsType type k t) (hv : ReadsType type v u) :
    ReadsType (typeBy pathOf n type) ("map[" ++ k ++ "]" ++ v) (.map t u) := by
  have htext : "map[" ++ k ++ "]" ++ v = "map" ++ ("[" ++ k ++ "]" ++ v) := by
    simp [← String.toList_inj]
  rw [htext]
  refine readsType_word (.of_all (by decide) (by decide)) ?_ (.inl (by decide)) fun p hp => ?_
  · simp [EndsWord, signs]
  · have hkey := hk.run (']' :: (v.toList ++ p)) (.sign (by decide))
    simp [typeAfter, hkey, hv.run p hp]

theorem readsType_channel (direction : ChannelDirection) (elem : GoType)
    (h : ReadsType type y t) :
    ReadsType (typeBy pathOf n type) (channelText direction elem y) (.channel direction t) := by
  have hchan : Leads "chan" := .of_all (by decide) (by decide)
  have hparen : ∀ p, ¬ ['('] <+: y.toList ++ p := h.begins_not (by decide) (by decide) []
  cases direction with
  | receive =>
    refine ⟨fun p => by simp [channelText, startsType], fun p _ => ?_, fun p hp => ?_⟩
    · simpa [channelText] using methodNext_cons (c := '<') (by decide) (by decide) _
    · have hlead : lead.run ('<' :: '-' :: 'c' :: 'h' :: 'a' :: 'n' :: ' ' :: (y.toList ++ p)) =
        some (.arrow, '-' :: 'c' :: 'h' :: 'a' :: 'n' :: ' ' :: (y.toList ++ p)) := rfl
      simp [typeBy, channelText, hlead, h.run p hp]
  | send =>
    have htext : channelText .send elem y = "chan" ++ ("<- " ++ y) := by
      simp [← String.toList_inj, channelText]
    rw [htext]
    refine readsType_word hchan (by simp [EndsWord, signs]) (.inl (by decide)) fun p hp => ?_
    simp [typeAfter, channel, h.run p hp]
  | both =>
    -- only an element that begins with an arrow needs parentheses
    rw [channelText.eq_def]
    split
    · have htext : "chan (" ++ y ++ ")" = "chan" ++ (" (" ++ y ++ ")") := by
        simp [← String.toList_inj]
      rw [htext]
      refine readsType_word hchan (by simp [EndsWord, signs]) (.inl (by decide)) fun p hp => ?_
      simp [typeAfter, channel, h.run (')' :: p) (.sign (by decide))]
    · have htext : "chan " ++ y = "chan" ++ (" " ++ y) := by simp [← String.toList_inj]
      rw [htext]
      refine readsType_word hchan (by simp [EndsWord, signs]) (.inl (by decide)) fun p hp => ?_
      simp [typeAfter, channel, hparen, h.run p hp]
    · contradiction
    · contradiction

/-! ### Signatures -/

/-- The text is read as the type of a value without a name. -/
def ReadsValue (type : Reader GoType) (x : String) (v : Value) : Prop :=
  v.name = "" ∧ ReadsType type x v.type

variable {v : Value} {vs ws : List Value} {rs : List String}

theorem readsBefore_result (h : ReadsValue type x v) :
    ReadsBefore EndsType (result type) x v := by
  obtain ⟨name, t⟩ := v
  obtain ⟨rfl, h⟩ := h
  intro p hp
  simp [result, h.run p hp]

theorem readsBefore_param (h : ReadsValue type x v) :
    ReadsBefore EndsType (param type) x (false, v) := by
  obtain ⟨name, t⟩ := v
  obtain ⟨rfl, h⟩ := h
  intro p hp
  have hdots := h.begins_not (c := '.') (by decide) (by decide) ['.', '.'] p
  simp [param, hdots, h.run p hp]

/-- A parameter behind dots is read as variadic. -/
theorem readsBefore_dots (h : ReadsValue type x v) :
    ReadsBefore EndsType (param type) ("..." ++ x) (true, v) := by
  obtain ⟨name, t⟩ := v
  obtain ⟨rfl, h⟩ := h
  intro p hp
  simp [param, h.run p hp]

/-- The texts of parameters are read as these, the last one with its dots. -/
theorem exists_readsBefore_params (h : List.Forall₂ (ReadsValue type) xs vs) (variadic : Bool)
    (hv : variadic → xs ≠ []) :
    ∃ ps, List.Forall₂ (ReadsBefore EndsType (param type))
        (if variadic then markVariadic xs else xs) ps ∧
      ps.map (·.2) = vs ∧ ps.any (·.1) = variadic := by
  cases variadic with
  | false =>
    refine ⟨vs.map (false, ·), ?_, by simp, by simp⟩
    rw [List.forall₂_map_right_iff]
    exact h.imp fun _ _ => readsBefore_param
  | true =>
    induction h with
    | nil => exact absurd rfl (hv rfl)
    | @cons x v xs vs hx hxs ih =>
      cases hxs with
      | nil => exact ⟨[(true, v)], .cons (readsBefore_dots hx) .nil, rfl, rfl⟩
      | cons hy hys =>
        obtain ⟨ps, hps, hvalues, hany⟩ := ih nofun
        exact ⟨(false, v) :: ps, .cons (readsBefore_param hx) hps, by simp [hvalues],
          by simp [hany]⟩

/-- Neither does a list of texts begin with what none of them begins with. -/
theorem not_prefix_intercalate (separator : String) {cs : List Char} (hne : xs ≠ [])
    (h : ∀ x ∈ xs, ∀ q, ¬ cs <+: x.toList ++ q) (q : List Char) :
    ¬ cs <+: (separator.intercalate xs).toList ++ q := by
  cases xs with
  | nil => exact absurd rfl hne
  | cons x xs =>
    have hx := h x List.mem_cons_self
    cases xs with
    | nil => simpa using hx q
    | cons y ys =>
      rw [String.intercalate_cons_cons, String.toList_append, String.toList_append,
        List.append_assoc, List.append_assoc]
      exact hx _

/-- No parameter begins with a closing parenthesis. -/
theorem not_prefix_params (h : List.Forall₂ (ReadsValue type) xs vs) (variadic : Bool) :
    ∀ x ∈ (if variadic then markVariadic xs else xs), ∀ q, ¬ [')'] <+: x.toList ++ q := by
  have hplain : ∀ {x v}, ReadsValue type x v → ∀ q, ¬ [')'] <+: x.toList ++ q := fun h =>
    h.2.begins_not (by decide) (by decide) []
  cases variadic with
  | false =>
    induction h with
    | nil => simp
    | cons hx _ ih => exact List.forall_mem_cons.mpr ⟨hplain hx, ih⟩
  | true =>
    induction h with
    | nil => simp [markVariadic]
    | cons hx hxs ih =>
      cases hxs with
      | nil => simp [markVariadic]
      | cons hy hys => exact List.forall_mem_cons.mpr ⟨hplain hx, ih⟩

theorem length_markVariadic (xs : List String) : (markVariadic xs).length = xs.length := by
  induction xs with
  | nil => rfl
  | cons x xs ih => cases xs <;> simp_all [markVariadic]

/-- A list of parameters is read, with the dots of the last. -/
theorem run_params (h : List.Forall₂ (ReadsValue type) xs vs) (hn : xs.length ≤ n)
    {variadic : Bool} (hv : variadic → xs ≠ []) (q : List Char) :
    ∃ ps, (params n type).run
        (("(" ++ ", ".intercalate (if variadic then markVariadic xs else xs) ++ ")").toList ++ q) =
          some (ps, q) ∧
      ps.map (·.2) = vs ∧ ps.any (·.1) = variadic := by
  obtain ⟨ps, hps, hvalues, hany⟩ := exists_readsBefore_params h variadic hv
  refine ⟨ps, ?_, hvalues, hany⟩
  have hclose := not_prefix_params h variadic
  have hlength : (if variadic then markVariadic xs else xs).length = xs.length := by
    split
    · exact length_markVariadic xs
    · rfl
  -- what matters of the texts, with dots or without, is how many they are and that none closes
  revert hps hclose hlength
  generalize (if variadic then markVariadic xs else xs) = texts
  intro hps hclose hlength
  cases hps with
  | nil => simp [params]
  | @cons x p texts ps hx hxs =>
    have hparen := not_prefix_intercalate ", " (List.cons_ne_nil x texts) hclose (')' :: q)
    have hrun := run_sepBy ", " (p := ')' :: q) (.cons hx hxs) (List.cons_ne_nil _ _)
      (hlength.trans_le hn) (fun q => .sign (by decide)) (.sign (by decide)) (by simp)
    simp [params, -String.toList_intercalate, hparen, hrun]

/-- The results of a signature, as they are written behind the parameters. -/
def resultsText (texts : List String) : String :=
  match texts with
  | []       => ""
  | [single] => " " ++ single
  | _        => " (" ++ ", ".intercalate texts ++ ")"

/-- The text of a signature: its parameters, then its results. -/
theorem typesSignature_eq (xs rs : List String) (variadic : Bool) :
    typesSignature xs rs variadic =
      "(" ++ ", ".intercalate (if variadic then markVariadic xs else xs) ++ ")" ++
        resultsText rs := rfl

/-- The results of a signature are read. -/
theorem run_results (h : List.Forall₂ (ReadsValue type) rs ws) (hn : rs.length ≤ n) :
    ReadsBefore EndsType (results n type)
      (resultsText rs) ws := by
  intro p hp
  obtain ⟨-, -, hparen, hblank⟩ := hp.stops
  rcases h with _ | ⟨hx, _ | ⟨hy, hxs⟩⟩
  · simp [results, resultsText, hparen, hblank]
  · next x v =>
    have hfirst := hx.2.begins_not (c := '(') (by decide) (by decide) [] p
    have hstarts := hx.2.starts p
    simp [results, resultsText, afterBlank, hfirst, hstarts, readsBefore_result hx p hp]
  · next x v y w xs ws =>
    have hitems : List.Forall₂ (ReadsBefore EndsType (result type)) (x :: y :: xs) (v :: w :: ws) :=
      .cons (readsBefore_result hx) (.cons (readsBefore_result hy)
        (hxs.imp fun _ _ => readsBefore_result))
    have hrun := run_sepBy ", " (p := ')' :: p) hitems (List.cons_ne_nil _ _) hn
      (fun q => .sign (by decide)) (.sign (by decide)) (by simp)
    simp [results, resultsText, -String.toList_intercalate, -String.intercalate_cons_cons, hrun]

/-- A signature is read. -/
theorem readsBefore_signature (hps : List.Forall₂ (ReadsValue type) xs vs)
    (hrs : List.Forall₂ (ReadsValue type) rs ws) (hn : xs.length ≤ n) (hm : rs.length ≤ n)
    {variadic : Bool} (hv : variadic → xs ≠ []) :
    ReadsBefore EndsType (signature n type) (typesSignature xs rs variadic)
      ⟨vs, ws, variadic⟩ := by
  intro p hp
  have hresults := run_results hrs hm p hp
  obtain ⟨ps, hrun, hvalues, hany⟩ := run_params hps hn hv ((resultsText rs).toList ++ p)
  rw [typesSignature_eq, String.toList_append, List.append_assoc, signature, StateT.run_bind, hrun]
  simp [hresults, hvalues, hany]

/-! ### Members -/

/-- A function type is read. -/
theorem readsType_function {s : Signature} {rs : List String} {variadic : Bool}
    (h : ReadsBefore EndsType (signature n type) (typesSignature xs rs variadic) s) :
    ReadsType (typeBy pathOf n type) ("func" ++ typesSignature xs rs variadic) (.function s) := by
  refine readsType_word (.of_all (by decide) (by decide)) ?_ (.inl (by decide)) fun p hp => ?_
  · simp [typesSignature_eq, EndsWord, signs]
  · simp [typeAfter, h p hp]

/-- Members in braces are read. -/
theorem readsBefore_members {α : Type} {item : Reader α} {as : List α}
    (h : List.Forall₂ (ReadsBefore EndsMember item) xs as) (hn : xs.length ≤ n) :
    ReadsBefore EndsType (members n item) (braced "" xs) as := by
  intro p _
  cases h with
  | nil => simp [members, braced]
  | @cons x a xs as hx hxs =>
    have hrun := run_sepBy "; " (p := ' ' :: '\x7d' :: p) (.cons hx hxs)
      (List.cons_ne_nil _ _) hn (fun q => .semicolon) .brace (by simp)
    simp [members, braced, -String.toList_intercalate, hrun]

theorem readsType_struct {fs : List Field}
    (h : List.Forall₂ (ReadsBefore EndsMember (field type)) xs fs) (hn : xs.length ≤ n) :
    ReadsType (typeBy pathOf n type) (braced "struct" xs) (.struct fs) := by
  rw [braced_eq]
  refine readsType_word (.of_all (by decide) (by decide)) ?_ (.inl (by decide)) fun p hp => ?_
  · exact fun p _ => endsWord_braced xs p
  · simp [typeAfter, readsBefore_members h hn p hp]

theorem readsType_interface {ms : List (MethodSpec ⊕ GoType)}
    (h : List.Forall₂ (ReadsBefore EndsMember (member n type)) xs ms) (hn : xs.length ≤ n) :
    ReadsType (typeBy pathOf n type) (braced "interface" xs) (interfaceOf ms) := by
  rw [braced_eq]
  refine readsType_word (.of_all (by decide) (by decide)) ?_ (.inl (by decide)) fun p hp => ?_
  · exact fun p _ => endsWord_braced xs p
  · simp [typeAfter, readsBefore_members h hn p hp]

/-- What stands before the type of a field. -/
def labelText : Option String → String
  | some w => w ++ " "
  | none   => ""

/-- What stands behind the type of a field. -/
def tagText : Option String → String
  | some x => " " ++ x
  | none   => ""

/-- The text of a field: its label, its type and its tag. -/
theorem fieldText_eq (name : Option String) (y : String) (text : Option String) :
    fieldText name y text = labelText name ++ (y ++ tagText text) := by
  cases name <;> cases text <;> simp [fieldText, labelText, tagText, ← String.toList_inj]

/-- The label of a field is read, and none where it is embedded. -/
theorem run_label {name : Option String} (hname : ∀ w, name = some w → IsWord w)
    (hembed : name = none → labelledNext (y.toList ++ p) = false)
    (hy : startsType (y.toList ++ p)) :
    label.run ((labelText name).toList ++ (y.toList ++ p)) = some (name, y.toList ++ p) := by
  cases name with
  | none => simp [label, labelText, hembed rfl]
  | some w =>
    have hends : EndsWord (' ' :: (y.toList ++ p)) := by simp [EndsWord, signs]
    have hnext : labelledNext (w.toList ++ ' ' :: (y.toList ++ p)) := by
      rw [labelledNext, (hname w rfl).dropWhile_append hends]
      exact hy
    have hword := run_word (hname w rfl) hends
    simp [label, labelText, hnext, hword]

theorem readsBefore_tag {text : Option String} (htag : ∀ x, text = some x → GoSource.IsString x) :
    ReadsBefore EndsMember tag (tagText text) text := by
  intro p hp
  cases text with
  | none =>
    have hquote : '\x7d' ≠ GoSource.Literal.rawQuote := by decide
    cases hp <;> simp [tag, tagText, afterBlank, startsString, hquote]
  | some x =>
    obtain ⟨c, cs, hcs, hc⟩ := (htag x rfl).head
    have hstarts : startsString (x.toList ++ p) := by
      rcases hc with rfl | rfl <;> simp [hcs, startsString]
    simp [tag, tagText, afterBlank, hstarts, run_stringLiteral (htag x rfl)]

/-- A field, from its type. The type of an embedded one does not look like a name with a type
behind it. -/
theorem readsBefore_field {name text : Option String} (h : ReadsType type y t)
    (hname : ∀ w, name = some w → IsWord w) (htag : ∀ x, text = some x → GoSource.IsString x)
    (hembed : name = none → ∀ p, EndsType p → labelledNext (y.toList ++ p) = false) :
    ReadsBefore EndsMember (field type) (fieldText name y text) ⟨name, t, text⟩ := by
  intro p hp
  -- the type ends in front of a tag, or where the field ends
  have hends : EndsType ((tagText text).toList ++ p) := by
    cases text with
    | none => simpa [tagText] using hp.endsType
    | some x =>
      obtain ⟨c, cs, hcs, hc⟩ := (htag x rfl).head
      rcases hc with rfl | rfl <;> simp [tagText, hcs] <;> exact .blank (by decide)
  have hlabel := run_label hname (fun hnone => hembed hnone _ hends) (h.starts _)
  have htype := h.run _ hends
  have htag := readsBefore_tag htag p hp
  simp [fieldText_eq, field, hlabel, htype, htag]

theorem readsBefore_method {s : Signature} {w : String} {rs : List String} {variadic : Bool}
    (hw : isIdentifier w)
    (h : ReadsBefore EndsType (signature n type) (typesSignature xs rs variadic) s) :
    ReadsBefore EndsMember (member n type) (w ++ typesSignature xs rs variadic)
      (.inl ⟨w, s⟩) := by
  intro p hp
  have hword := IsWord.of_isIdentifier hw
  have hends : EndsWord ((typesSignature xs rs variadic).toList ++ p) := by
    simp [typesSignature_eq, EndsWord, signs]
  have hhead : ((typesSignature xs rs variadic).toList ++ p).head? = some '(' := by
    simp [typesSignature_eq]
  have hnext : methodNext (w.toList ++ ((typesSignature xs rs variadic).toList ++ p)) := by
    rw [methodNext, hword.takeWhile_append hends, hword.dropWhile_append hends, hhead,
      String.ofList_toList]
    simpa using not_mem_goKeywords_of_isIdentifier hw
  simp [member, hnext, run_word hword hends, h p hp.endsType]

/-! ### Type sets -/

theorem readsBefore_term (tilde : Bool) (h : ReadsType type y t) :
    ReadsBefore EndsType (term type) (termText tilde y) ⟨tilde, t⟩ := by
  intro p hp
  cases tilde with
  | true => simp [term, termText, h.run p hp]
  | false =>
    have htilde := h.begins_not (c := '~') (by decide) (by decide) [] p
    simp [term, termText, htilde, h.run p hp]

/-- A term of a union is not taken for a method. -/
theorem not_method_term (tilde : Bool) (h : ReadsType type y t) (hp : EndsType p) :
    methodNext ((termText tilde y).toList ++ p) = false := by
  cases tilde with
  | true => simpa [termText] using methodNext_cons (c := '~') (by decide) (by decide) _
  | false => simpa [termText] using h.not_method p hp

/-- An embedded type, from its terms. -/
theorem readsBefore_embed {ts : List Term}
    (h : List.Forall₂ (ReadsBefore EndsType (term type)) xs ts) (hne : xs ≠ [])
    (hn : xs.length ≤ n)
    (hmethod : ∀ x ∈ xs, ∀ p, EndsType p → methodNext (x.toList ++ p) = false) :
    ReadsBefore EndsMember (member n type) (" | ".intercalate xs)
      (.inr (Scope.typeOfTerms ts)) := by
  intro p hp
  have hstop : ¬ " | ".toList <+: p := by cases hp <;> simp
  have hrun := run_sepBy " | " h hne hn (fun q => .blank (by decide)) hp.endsType hstop
  -- whether this is a method is decided by the first term
  have hnext : methodNext ((" | ".intercalate xs).toList ++ p) = false := by
    cases xs with
    | nil => exact absurd rfl hne
    | cons x xs =>
      cases xs with
      | nil => simpa using hmethod x List.mem_cons_self p hp.endsType
      | cons y ys =>
        rw [String.intercalate_cons_cons, String.toList_append, String.toList_append,
          List.append_assoc, List.append_assoc]
        exact hmethod x List.mem_cons_self _ (.blank (by decide))
  simp [member, -String.toList_intercalate, hnext, hrun]

/-! ### References -/

theorem readsBefore_arguments {ts : List GoType} (h : List.Forall₂ (ReadsType type) xs ts)
    (hn : xs.length ≤ n) : ReadsBefore EndsType (arguments n type) (bracketed xs) ts := by
  intro p hp
  obtain ⟨-, hbracket, -, -⟩ := hp.stops
  cases h with
  | nil => simp [arguments, bracketed, hbracket]
  | @cons x t xs ts hx hxs =>
    have hrun := run_sepBy ", " (p := ']' :: p) ((List.Forall₂.cons hx hxs).imp fun _ _ h => h.run)
      (List.cons_ne_nil _ _) hn (fun q => .sign (by decide)) (.sign (by decide)) (by simp)
    simp [arguments, bracketed, -String.toList_intercalate, hrun]

theorem typeAfter_of_isIdentifier {w : String} (hw : isIdentifier w) :
    typeAfter pathOf n type w = reference pathOf n type w := by
  have hkeyword := not_mem_goKeywords_of_isIdentifier hw
  rw [typeAfter]
  all_goals
    rintro rfl
    exact hkeyword (by decide)

/-- Behind a name, its arguments or whatever follows the type end the word. -/
theorem endsWord_bracketed (xs : List String) (hp : EndsType p) :
    EndsWord ((bracketed xs).toList ++ p) ∧ ((bracketed xs).toList ++ p).head? ≠ some '(' ∧
      afterBlank startsType ((bracketed xs).toList ++ p) = false ∧
      ¬ ['.'] <+: (bracketed xs).toList ++ p := by
  rw [bracketed]
  split
  · obtain ⟨hdot, -, -, hblank⟩ := hp.stops
    refine ⟨by simpa using hp.endsWord, ?_, by simpa using hblank, by simpa using hdot⟩
    cases hp with
    | nil     => simp
    | sign h  => rintro heq; simp_all
    | blank h => simp
  · simp [EndsWord, signs, afterBlank]

/-- A name without a package. -/
theorem readsType_plain {w : String} {ts : List GoType} (hw : isIdentifier w)
    (h : List.Forall₂ (ReadsType type) xs ts) (hn : xs.length ≤ n) :
    ReadsType (typeBy pathOf n type) (w ++ bracketed xs) (typeNamed none w ts) := by
  refine readsType_word (.of_isIdentifier hw) (fun p hp => (endsWord_bracketed xs hp).1)
    (.inr fun p hp => (endsWord_bracketed xs hp).2.1) fun p hp => ?_
  obtain ⟨-, -, -, hdot⟩ := endsWord_bracketed xs hp
  rw [typeAfter_of_isIdentifier hw]
  simp [reference, hdot, readsBefore_arguments h hn p hp]

/-- A name of a package. -/
theorem readsType_qualified {ident w : String} {ts : List GoType} (hi : isIdentifier ident)
    (hw : isIdentifier w) (h : List.Forall₂ (ReadsType type) xs ts) (hn : xs.length ≤ n) :
    ReadsType (typeBy pathOf n type) (ident ++ "." ++ w ++ bracketed xs)
      (typeNamed (some (pathOf ident)) w ts) := by
  have htext : ident ++ "." ++ w ++ bracketed xs = ident ++ ("." ++ w ++ bracketed xs) := by
    simp [← String.toList_inj]
  rw [htext]
  refine readsType_word (.of_isIdentifier hi) (by simp [EndsWord, signs]) (.inr (by simp))
    fun p hp => ?_
  have hword := run_word (IsWord.of_isIdentifier hw) (endsWord_bracketed xs hp).1
  rw [typeAfter_of_isIdentifier hi]
  simp [reference, hword, readsBefore_arguments h hn p hp]

/-- A reference does not look like a name with a type behind it. -/
theorem not_labelledNext_plain {w : String} (hw : IsWord w) (hp : EndsType p) :
    labelledNext ((w ++ bracketed xs).toList ++ p) = false := by
  obtain ⟨hends, -, hblank, -⟩ := endsWord_bracketed xs hp
  rw [labelledNext, String.toList_append, List.append_assoc, hw.dropWhile_append hends, hblank]

/-- A qualified name is not taken for a label. -/
theorem not_labelledNext_qualified {ident : String} (hi : IsWord ident) (w : String)
    (p : List Char) : labelledNext ((ident ++ "." ++ w ++ bracketed xs).toList ++ p) = false := by
  have hends : EndsWord ('.' :: (w.toList ++ ((bracketed xs).toList ++ p))) := by
    simp [EndsWord, signs]
  simp [labelledNext, hi.dropWhile_append hends, afterBlank]

theorem not_labelledNext_pointer (y : String) (p : List Char) :
    labelledNext (("*" ++ y).toList ++ p) = false := by
  have hstar : isIdentifierPart '*' = false := isIdentifierPart_of_mem_signs (by decide)
  simp [labelledNext, hstar, afterBlank]

end Reader

end GoMocks
