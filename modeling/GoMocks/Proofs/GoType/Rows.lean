import GoMocks.Proofs.GoSource.Layout
import GoMocks.Proofs.GoType.Spelling

/-!
# Go types — the texts of types as source

A text that spells a type is a row of lexemes that a source may hold wherever it may hold a type. A
type set is one where a constraint may stand.

* `GoType.Writable`: types that a source can hold, where their texts may stand.
* `GoType.ReadAs`: how far a type is read as an expression of its own shape.
* `GoType.hasTerms_of_spells`: a text that spells a type is laid out as the terms of the type.
-/

namespace GoMocks

open Resolver
open GoSource (TypeExpr UnionTerm FieldExpr InterfaceElem FunctionExpr ParamsRow ParamEntry Lexeme
  Lays HasLayout Stops)

/-! ### Types that a source can hold -/

/-- The terms of a type set. Any other type is a term of its own. -/
def GoType.terms : GoType → List Term
  | .union terms => terms
  | t            => [⟨false, t⟩]

/-- Only names and pointers to them are embedded in a struct, and a type set has terms. -/
def GoType.ComposedHere : GoType → Prop
  | .struct fields => ∀ f ∈ fields, f.name = none → f.type.isEmbeddable
  | .union terms   => terms ≠ []
  | _              => True

/-- A source can hold the type, apart from the types in it: names are identifiers, the members are
as they have to be, and no type set stands where a type has to stand. -/
structure GoType.WritableHere (t : GoType) : Prop where
  lexical  : t.LexicalHere
  composed : t.ComposedHere
  no_union : ∀ e ∈ t.elements, e.isUnion = false

/-- A source can hold the type, or the type set. -/
def GoType.Writable (t : GoType) : Prop :=
  ∀ u ∈ t.parts, u.WritableHere

instance (t : GoType) : Decidable t.ComposedHere :=
  match t with
  | .struct fields =>
    inferInstanceAs (Decidable (∀ f ∈ fields, f.name = none → f.type.isEmbeddable))
  | .union terms => inferInstanceAs (Decidable (terms ≠ []))
  | .basic _ | .named _ | .parameter _ | .pointer _ | .slice _ | .array _ _ | .map _ _
  | .channel _ _ | .function _ | .interface _ _ => inferInstanceAs (Decidable True)

instance (t : GoType) : Decidable t.WritableHere :=
  decidable_of_iff (t.LexicalHere ∧ t.ComposedHere ∧ ∀ e ∈ t.elements, e.isUnion = false)
    ⟨fun ⟨hl, hc, hu⟩ => ⟨hl, hc, hu⟩, fun ⟨hl, hc, hu⟩ => ⟨hl, hc, hu⟩⟩

instance (t : GoType) : Decidable t.Writable := by
  unfold GoType.Writable
  infer_instance

/-! ### Types as parts of expressions -/

/-- A name, with stars in front of it or without. -/
def GoType.isOperand : GoType → Bool
  | .pointer elem => elem.isOperand
  | t             => t.isReference

/-- Behind a name, is the type the rest of an expression? -/
def GoType.isFactor : GoType → Bool
  | .pointer elem => elem.isOperand
  | .array _ elem => elem.isFactor
  | _             => false

/-- Behind a name, is the constraint the rest of an expression? A star multiplies, and a bar is an
operator. -/
def GoType.continuesName (t : GoType) : Bool :=
  match t.terms with
  | []            => false
  | first :: more =>
    !first.tilde && first.type.isFactor && more.all fun term => !term.tilde && term.type.isOperand

/-- The type is read as an expression of its own shape, as far as it matters where it stands. -/
structure GoType.ReadAs (t : GoType) (e : TypeExpr) : Prop where
  isNamed      : e.isNamed = t.isReference
  isEmbeddable : e.isEmbeddable = t.isEmbeddable
  isOperand    : e.isOperand = t.isOperand
  isFactor     : e.isFactor = t.isFactor
  takesBody    : t.hasBody → e.takesBody

/-- The text is laid out as a type of this shape. -/
def GoType.HasRow (t : GoType) (x : String) : Prop :=
  HasLayout (fun e ls => TypeExpr.Row e ls ∧ t.ReadAs e) x

theorem bar_mem_lexemeSigns : "|" ∈ GoSource.lexemeSigns := by decide

/-- The text is laid out as terms of these shapes. -/
def GoType.HasTerms (t : GoType) (x : String) : Prop :=
  ∃ (terms : List UnionTerm) (items : List (List Lexeme)), terms ≠ [] ∧
    List.Forall₂ UnionTerm.Row terms items ∧
    Lays x (Lexeme.separated (.sign "|" bar_mem_lexemeSigns) items) ∧
    List.Forall₂ (fun t term => term.tilde = t.tilde ∧ t.type.ReadAs term.type) t.terms terms

namespace GoType

variable {goesBy : String → String → Prop} {t : GoType} {e : TypeExpr} {x : String}

/-- A reference is read as a plain name. -/
theorem ReadAs.of_plain (he : e.isPlainName) (ht : t.isReference) : t.ReadAs e := by
  cases e with
  | name | qualified =>
    cases t with
    | basic | named | parameter => exact ⟨rfl, rfl, rfl, rfl, fun _ => rfl⟩
    | _ => simp [isReference] at ht
  | _ => simp [TypeExpr.isPlainName] at he

theorem ReadAs.pointer (h : t.ReadAs e) : (GoType.pointer t).ReadAs (.pointer e) :=
  ⟨rfl, h.isNamed, h.isOperand, h.isOperand, nofun⟩

theorem ReadAs.array (h : t.ReadAs e) (length : ArrayLength) (length' : GoSource.LengthExpr) :
    (GoType.array length t).ReadAs (.array length' e) :=
  ⟨rfl, rfl, rfl, h.isFactor, fun _ => rfl⟩

/-- A text with a row is laid out. -/
theorem HasRow.hasLayout (h : t.HasRow x) : HasLayout TypeExpr.Row x := by
  obtain ⟨e, ls, ⟨he, -⟩, hx⟩ := h
  exact ⟨e, ls, he, hx⟩

/-- A type alone is the only term. -/
theorem HasRow.hasTerms (h : t.HasRow x) (ht : t.isUnion = false) : t.HasTerms x := by
  obtain ⟨e, ls, ⟨he, hread⟩, hx⟩ := h
  have hterms : t.terms = [⟨false, t⟩] := by
    cases t with
    | union => cases ht
    | _ => rfl
  refine ⟨[⟨false, e⟩], [ls], by simp, .cons (.mk false he) .nil, ?_, ?_⟩
  · rwa [Lexeme.separated_singleton]
  · rw [hterms]
    exact .cons ⟨rfl, hread⟩ .nil

/-- Terms that are no union are one type. -/
theorem HasTerms.hasRow (h : t.HasTerms x) (ht : t.isUnion = false) : t.HasRow x := by
  obtain ⟨terms, items, -, hterms, hx, hread⟩ := h
  have hsingle : t.terms = [⟨false, t⟩] := by
    cases t with
    | union => cases ht
    | _ => rfl
  rw [hsingle] at hread
  obtain ⟨term, _, ⟨htilde, hshape⟩, ⟨⟩, rfl⟩ := List.forall₂_cons_left_iff.mp hread
  obtain ⟨ls, _, hrow, ⟨⟩, rfl⟩ := List.forall₂_cons_left_iff.mp hterms
  obtain ⟨tilde, hrow⟩ := hrow
  obtain rfl : tilde = false := htilde
  rw [Lexeme.separated_singleton] at hx
  exact ⟨_, _, ⟨hrow, hshape⟩, hx⟩

end GoType

/-! ### Texts that types are put together from -/

section Texts

variable {goesBy : String → String → Prop} {x y : String} {xs : List String}
  {items : List (List Lexeme)}

/-- Every package goes by a name that is an identifier, and is no literal of the language. -/
def NamesPackages (goesBy : String → String → Prop) : Prop :=
  ∀ path ident, goesBy path ident → isIdentifier ident ∧ ident ∉ GoSource.literalNames

/-- A name, qualified or not, has a row. -/
theorem hasRow_base (hq : NamesPackages goesBy) {package : Option String} {name : String}
    (hname : isIdentifier name) (h : SpellsBase goesBy package name x) :
    ∃ e : TypeExpr, e.isPlainName ∧ e.Row e.lexemes ∧ Lays x e.lexemes := by
  cases package with
  | none =>
    obtain rfl : x = name := h
    exact ⟨.name x, rfl, .name x, .name hname⟩
  | some path =>
    obtain ⟨ident, hident, rfl⟩ := h
    exact ⟨.qualified ident name, rfl, .qualified ident name,
      .qualified (hq _ _ hident).1 hname⟩

theorem stops_bracketed (xs : List String) : Stops (bracketed xs) := by
  rw [bracketed]
  split
  · simp [Stops]
  · exact .of_head (c := '[') (by simp [String.toList_append]) (by decide)

/-- Type arguments in brackets are laid out. -/
theorem lays_bracketed (hne : xs ≠ []) (h : List.Forall₂ Lays xs items) :
    Lays (bracketed xs) (Lexeme.inBrackets (Lexeme.separated (.sign ",") items)) := by
  rw [bracketed, if_neg (by simpa using hne)]
  exact (Lays.commas h).brackets

/-- Members in braces are laid out behind their keyword. -/
theorem lays_braced {keyword : String} (hk : keyword ∈ GoSource.lexemeKeywords)
    (h : List.Forall₂ Lays xs items) :
    Lays (braced keyword xs)
      (.keyword keyword hk :: Lexeme.inBraces (Lexeme.separated (.sign ";") items)) := by
  rw [braced]
  split
  · next hempty =>
    obtain rfl : xs = [] := by simpa using hempty
    cases h
    exact Lays.append (.keyword hk)
      (.sign_append (s := "\x7b") _ (by decide) (.sign (s := "\x7d") _ (by decide)))
      (.of_head (c := '\x7b') rfl (by decide))
  · have htext : keyword ++ "\x7b " ++ "; ".intercalate xs ++ " \x7d" =
        keyword ++ ("\x7b" ++ (" " ++ ("; ".intercalate xs ++ (" " ++ "\x7d")))) := by
      simp [← String.toList_inj]
    have hclosing : Lays "\x7d" [.sign "\x7d"] := .sign _ (by decide)
    rw [htext]
    refine Lays.append (.keyword hk) (.sign_append (s := "\x7b") _ (by decide) ?_) ?_
    · exact ((Lays.semicolons h).append_blank hclosing).blank_append
    · exact .of_head (c := '\x7b') (by simp [String.toList_append]) (by decide)

/-- The dots stand in front of the last type. -/
theorem forall_mem_markVariadic {p : String → Prop} (h : ∀ x ∈ xs, p x)
    (hdots : ∀ x ∈ xs, p ("..." ++ x)) : ∀ x ∈ markVariadic xs, p x := by
  induction xs with
  | nil => simp [markVariadic]
  | cons x xs ih =>
    cases xs with
    | nil => simpa [markVariadic] using hdots
    | cons next xs =>
      obtain ⟨hx, hxs⟩ := List.forall_mem_cons.mp h
      exact List.forall_mem_cons.mpr ⟨hx, ih hxs fun x hx => hdots x (List.mem_cons_of_mem _ hx)⟩

/-- A signature without names. -/
theorem hasLayout_typesSignature {params results : List String}
    (hparams : ∀ x ∈ params, HasLayout TypeExpr.Row x)
    (hresults : ∀ x ∈ results, HasLayout TypeExpr.Row x) (variadic : Bool) :
    HasLayout FunctionExpr.Row (typesSignature params results variadic) ∧
      Stops (typesSignature params results variadic) := by
  refine ⟨?_, .of_head (c := '(') ?_ (by decide)⟩
  swap
  · simp [typesSignature, String.toList_append]
  have hfront : HasLayout ParamsRow
      ("(" ++ ", ".intercalate (if variadic then markVariadic params else params) ++ ")") := by
    refine .params ?_
    split
    · exact forall_mem_markVariadic (fun x hx => (hparams x hx).entry)
        fun x hx => (hparams x hx).entry_dots
    · exact fun x hx => (hparams x hx).entry
  rcases results with _ | ⟨r, _ | ⟨r', results⟩⟩
  · simpa [typesSignature] using hfront.function_none
  · exact hfront.function_single (hresults _ (by simp))
  · have htext : " (" ++ ", ".intercalate (r :: r' :: results) ++ ")" =
        " " ++ ("(" ++ ", ".intercalate (r :: r' :: results) ++ ")") := by
      simp [← String.toList_inj]
    have hlist := hfront.function_list (.params fun x hx => (hresults x hx).entry)
    rwa [← htext] at hlist

/-- The text of a field is laid out. -/
theorem hasLayout_fieldText {name tag : Option String} (hname : ∀ n ∈ name, isIdentifier n)
    (htag : ∀ literal ∈ tag, GoSource.IsString literal) {t : GoType} (h : t.HasRow x)
    (hembed : name = none → t.isEmbeddable) : HasLayout FieldExpr.Row (fieldText name x tag) := by
  obtain ⟨e, ls, ⟨he, hread⟩, hx⟩ := h
  -- a blank and the tag, or nothing
  obtain ⟨end', htext, hbehind⟩ : ∃ text, fieldText name x tag = fieldText name (x ++ text) none ∧
      Lays (x ++ text) (ls ++ tag.toList.map .string) := by
    cases tag with
    | none => exact ⟨"", by simp [fieldText], by simpa using hx⟩
    | some tag =>
      refine ⟨" " ++ tag, ?_, hx.append_blank (.string (htag tag rfl))⟩
      cases name <;> simp [fieldText, String.append_assoc]
  rw [htext]
  cases name with
  | none =>
    refine ⟨_, _, .embedded tag ?_ he, by simpa [fieldText] using hbehind⟩
    rw [hread.isEmbeddable]
    exact hembed rfl
  | some n =>
    refine ⟨_, _, .named n [] tag he, ?_⟩
    simpa [fieldText, String.append_assoc] using (Lays.name (hname n rfl)).append_blank hbehind

/-- The length of an array, between brackets and in front of the type of its elements. -/
theorem exists_length (hq : NamesPackages goesBy) {length : ArrayLength} {elem : GoType}
    (hlex : (GoType.array length elem).LexicalHere) (h : length.Spells goesBy x) :
    ∃ expr : GoSource.LengthExpr, expr.isPrintable ∧ ∀ y ls, Lays y ls →
      Lays ("[" ++ x ++ "]" ++ y) (Lexeme.inBrackets expr.lexemes ++ ls) := by
  cases length with
  | literal text =>
    obtain rfl : x = text := h
    exact ⟨.literal x, rfl, fun y ls hy => .integer_brackets_append hlex hy⟩
  | constant path name =>
    obtain ⟨ident, hident, rfl⟩ := h
    obtain ⟨hname, hliteral⟩ := hq _ _ hident
    refine ⟨.qualified ident name, ?_, fun y ls hy => (Lays.qualified hname hlex).brackets_append hy⟩
    simpa [GoSource.LengthExpr.isPrintable] using hliteral

end Texts

/-! ### Types from their parts -/

namespace GoType

variable {goesBy : String → String → Prop} {elem key value : GoType} {x y k v : String}
  {xs : List String}

/-- A name, with type arguments if there are any. -/
theorem HasRow.reference {t : GoType} (ht : t.isReference) {e : TypeExpr} (hplain : e.isPlainName)
    (he : e.Row e.lexemes) (hx : Lays x e.lexemes) (hxs : ∀ x ∈ xs, HasLayout TypeExpr.Row x) :
    t.HasRow (x ++ bracketed xs) := by
  cases xs with
  | nil => exact ⟨e, _, ⟨he, .of_plain hplain ht⟩, by simpa [bracketed_nil] using hx⟩
  | cons first xs =>
    obtain ⟨arguments, items, harguments, hitems⟩ := GoSource.exists_rows hxs
    have hne : arguments ≠ [] := by
      rintro rfl
      cases harguments
      cases hitems
    have hread : t.ReadAs (.generic e arguments) := by
      cases t with
      | basic | named | parameter => exact ⟨rfl, rfl, rfl, rfl, fun _ => rfl⟩
      | _ => simp [isReference] at ht
    exact ⟨_, _, ⟨.generic hplain hne harguments, hread⟩,
      hx.append (lays_bracketed (by simp) hitems) (stops_bracketed _)⟩

theorem HasRow.pointer (h : elem.HasRow y) : (GoType.pointer elem).HasRow ("*" ++ y) := by
  obtain ⟨e, ls, ⟨he, hread⟩, hy⟩ := h
  exact ⟨_, _, ⟨.pointer he, hread.pointer⟩, hy.sign_append _ (by decide)⟩

theorem HasRow.slice (h : elem.HasRow y) : (GoType.slice elem).HasRow ("[]" ++ y) := by
  obtain ⟨e, ls, ⟨he, -⟩, hy⟩ := h
  have htext : "[]" ++ y = "[" ++ ("]" ++ y) := by simp [← String.toList_inj]
  rw [htext]
  exact ⟨_, _, ⟨.slice he, ⟨rfl, rfl, rfl, rfl, nofun⟩⟩,
    (hy.sign_append _ (by decide)).sign_append _ (by decide)⟩

theorem HasRow.array (h : elem.HasRow y) (length : ArrayLength) {expr : GoSource.LengthExpr}
    (hprintable : expr.isPrintable) (hx : ∀ y ls, Lays y ls →
      Lays ("[" ++ x ++ "]" ++ y) (Lexeme.inBrackets expr.lexemes ++ ls)) :
    (GoType.array length elem).HasRow ("[" ++ x ++ "]" ++ y) := by
  obtain ⟨e, ls, ⟨he, hread⟩, hy⟩ := h
  exact ⟨_, _, ⟨.array hprintable he, hread.array length expr⟩, hx y ls hy⟩

theorem HasRow.map (hkey : key.HasRow k) (hvalue : value.HasRow v) :
    (GoType.map key value).HasRow ("map[" ++ k ++ "]" ++ v) := by
  obtain ⟨ke, ks, ⟨hke, -⟩, hk⟩ := hkey
  obtain ⟨ve, vs, ⟨hve, -⟩, hv⟩ := hvalue
  have htext : "map[" ++ k ++ "]" ++ v = "map" ++ ("[" ++ k ++ "]" ++ v) := by
    simp [← String.toList_inj]
  rw [htext]
  exact ⟨_, _, ⟨.map hke hve, ⟨rfl, rfl, rfl, rfl, nofun⟩⟩, Lays.append (.keyword _)
    (hk.brackets_append hv) (.of_head (c := '[') (by simp [String.toList_append]) (by decide))⟩

/-- Behind its keyword, a channel is read as some channel. -/
theorem ReadAs.of_channel {e : TypeExpr} {ls : List Lexeme} (h : e.Row (.keyword "chan" :: ls))
    (direction : ChannelDirection) (elem : GoType) : (GoType.channel direction elem).ReadAs e := by
  rcases h.cases_chan with ⟨k, elem', behind, rfl, -⟩ | ⟨k, elem', behind, rfl, -⟩ <;>
    exact ⟨rfl, rfl, rfl, rfl, nofun⟩

theorem HasRow.channel (direction : ChannelDirection) (h : elem.HasRow y) :
    (GoType.channel direction elem).HasRow (channelText direction elem y) := by
  obtain ⟨e, ls, ⟨he, -⟩, hy⟩ := h
  have hchan : Lays "chan" [.keyword "chan"] := .keyword _
  rw [channelText.eq_def]
  split
  · have htext : "chan (" ++ y ++ ")" = "chan" ++ (" " ++ ("(" ++ y ++ ")")) := by
      simp [← String.toList_inj]
    obtain ⟨e', he'⟩ := (TypeExpr.ElementRow.parens he).exists_chan
    rw [htext]
    exact ⟨e', _, ⟨he', .of_channel he' _ _⟩, hchan.append_blank hy.parens⟩
  · have htext : "chan " ++ y = "chan" ++ (" " ++ y) := by simp [← String.toList_inj]
    obtain ⟨e', he'⟩ := (TypeExpr.ElementRow.bare he).exists_chan
    rw [htext]
    exact ⟨e', _, ⟨he', .of_channel he' _ _⟩, hchan.append_blank hy⟩
  · have htext : "chan<- " ++ y = "chan" ++ ("<-" ++ (" " ++ y)) := by simp [← String.toList_inj]
    obtain ⟨e', he'⟩ := (TypeExpr.ElementRow.bare he).exists_send
    rw [htext]
    refine ⟨e', _, ⟨he', .of_channel he' _ _⟩, hchan.append ?_ ?_⟩
    · exact .sign_append _ (by decide) hy.blank_append
    · exact .of_head (c := '<') (by simp [String.toList_append]) (by decide)
  · have htext : "<-chan " ++ y = "<-" ++ ("chan" ++ (" " ++ y)) := by simp [← String.toList_inj]
    rw [htext]
    exact ⟨_, _, ⟨.receive (.bare he), ⟨rfl, rfl, rfl, rfl, nofun⟩⟩,
      .sign_append _ (by decide) (hchan.append_blank hy)⟩

theorem HasRow.function (signature : Signature) (h : HasLayout FunctionExpr.Row y)
    (hstops : Stops y) : (GoType.function signature).HasRow ("func" ++ y) := by
  obtain ⟨f, ls, hf, hy⟩ := h
  exact ⟨_, _, ⟨.function hf, ⟨rfl, rfl, rfl, rfl, nofun⟩⟩, Lays.append (.keyword _) hy hstops⟩

theorem HasRow.struct (fields : List Field) (h : ∀ x ∈ xs, HasLayout FieldExpr.Row x) :
    (GoType.struct fields).HasRow (braced "struct" xs) := by
  obtain ⟨values, items, hvalues, hitems⟩ := GoSource.exists_rows h
  exact ⟨_, _, ⟨.struct hvalues, ⟨rfl, rfl, rfl, rfl, fun _ => rfl⟩⟩, lays_braced _ hitems⟩

theorem HasRow.interface (methods : List MethodSpec) (embeds : List GoType)
    (h : ∀ x ∈ xs, HasLayout InterfaceElem.Row x) :
    (GoType.interface methods embeds).HasRow (braced "interface" xs) := by
  obtain ⟨values, items, hvalues, hitems⟩ := GoSource.exists_rows h
  exact ⟨_, _, ⟨.interface hvalues, ⟨rfl, rfl, rfl, rfl, nofun⟩⟩, lays_braced _ hitems⟩

/-- The terms of a type set are embedded together. -/
theorem HasTerms.embedded {t : GoType} (h : t.HasTerms x) : HasLayout InterfaceElem.Row x := by
  obtain ⟨terms, items, hne, hterms, hx, -⟩ := h
  exact ⟨_, _, .embed hne hterms, hx⟩

end GoType

/-! ### All types -/

section Types

variable {goesBy : String → String → Prop}

mutual

/-- **The text of a type is laid out as its terms.** -/
theorem GoType.hasTerms_of_spells (hq : NamesPackages goesBy) :
    (t : GoType) → {x : String} → t.Spells goesBy x → t.Writable → t.HasTerms x
  | .basic kind, x, hx, _ => by
    obtain ⟨e, hplain, he, hx⟩ :
        ∃ e : TypeExpr, e.isPlainName ∧ e.Row e.lexemes ∧ Lays x e.lexemes := by
      obtain ⟨-, ident, hident, rfl⟩ | ⟨-, rfl⟩ := GoType.cases_of_spells_basic hx
      · exact ⟨.qualified ident "Pointer", rfl, .qualified ..,
          .qualified (hq _ _ hident).1 (by decide)⟩
      · exact ⟨.name kind.name, rfl, .name _, .name kind.isIdentifier_name⟩
    exact GoType.HasRow.hasTerms ⟨e, _, ⟨he, .of_plain hplain rfl⟩, hx⟩ rfl
  | .parameter name, x, hx, ht => by
    obtain rfl : x = name := hx
    exact GoType.HasRow.hasTerms ⟨.name x, _, ⟨.name x, .of_plain rfl rfl⟩,
      .name (ht _ List.mem_cons_self).lexical⟩ rfl
  | .named ⟨package, name, ts⟩, x, hx, ht => by
    obtain ⟨base, ys, hbase, hys, rfl⟩ := hx
    obtain ⟨hhere, hts⟩ := List.forall_mem_cons.mp ht
    obtain ⟨e, hplain, he, hbase⟩ := hasRow_base hq hhere.lexical hbase
    exact (GoType.HasRow.reference rfl hplain he hbase
      (hasLayout_types hq ts hys hts hhere.no_union)).hasTerms rfl
  | .pointer elem, x, hx, ht => by
    obtain ⟨y, hy, rfl⟩ := hx
    obtain ⟨hhere, ht⟩ := List.forall_mem_cons.mp ht
    have hrow := (GoType.hasTerms_of_spells hq elem hy ht).hasRow
      (hhere.no_union _ (by simp [GoType.elements]))
    exact hrow.pointer.hasTerms rfl
  | .slice elem, x, hx, ht => by
    obtain ⟨y, hy, rfl⟩ := hx
    obtain ⟨hhere, ht⟩ := List.forall_mem_cons.mp ht
    have hrow := (GoType.hasTerms_of_spells hq elem hy ht).hasRow
      (hhere.no_union _ (by simp [GoType.elements]))
    exact hrow.slice.hasTerms rfl
  | .array length elem, x, hx, ht => by
    obtain ⟨l, y, hlength, hy, rfl⟩ := hx
    obtain ⟨hhere, ht⟩ := List.forall_mem_cons.mp ht
    obtain ⟨length', hprintable, hl⟩ := exists_length hq hhere.lexical hlength
    have hrow := (GoType.hasTerms_of_spells hq elem hy ht).hasRow
      (hhere.no_union _ (by simp [GoType.elements]))
    exact (hrow.array length hprintable hl).hasTerms rfl
  | .map key value, x, hx, ht => by
    obtain ⟨k, v, hk, hv, rfl⟩ := hx
    obtain ⟨hhere, ht⟩ := List.forall_mem_cons.mp ht
    obtain ⟨hkey, hvalue⟩ := List.forall_mem_append.mp ht
    have hkeyRow := (GoType.hasTerms_of_spells hq key hk hkey).hasRow
      (hhere.no_union _ (by simp [GoType.elements]))
    have hvalueRow := (GoType.hasTerms_of_spells hq value hv hvalue).hasRow
      (hhere.no_union _ (by simp [GoType.elements]))
    exact (hkeyRow.map hvalueRow).hasTerms rfl
  | .channel direction elem, x, hx, ht => by
    obtain ⟨y, hy, rfl⟩ := hx
    obtain ⟨hhere, ht⟩ := List.forall_mem_cons.mp ht
    have hrow := (GoType.hasTerms_of_spells hq elem hy ht).hasRow
      (hhere.no_union _ (by simp [GoType.elements]))
    exact (hrow.channel direction).hasTerms rfl
  | .function signature, x, hx, ht => by
    obtain ⟨y, hy, rfl⟩ := hx
    obtain ⟨hhere, ht⟩ := List.forall_mem_cons.mp ht
    obtain ⟨hlayout, hstops⟩ := hasLayout_signature hq signature hy ht hhere.no_union
    exact (GoType.HasRow.function signature hlayout hstops).hasTerms rfl
  | .struct fields, x, hx, ht => by
    obtain ⟨ys, hys, rfl⟩ := hx
    obtain ⟨hhere, ht⟩ := List.forall_mem_cons.mp ht
    exact (GoType.HasRow.struct fields (hasLayout_fields hq fields hys hhere ht)).hasTerms rfl
  | .interface methods embeds, x, hx, ht => by
    obtain ⟨ys, zs, hys, hzs, rfl⟩ := hx
    obtain ⟨hhere, ht⟩ := List.forall_mem_cons.mp ht
    obtain ⟨hmethods, hembeds⟩ := List.forall_mem_append.mp ht
    exact (GoType.HasRow.interface methods embeds (List.forall_mem_append.mpr
      ⟨hasLayout_methods hq methods hys hhere.lexical hhere.no_union hmethods,
        hasLayout_embeds hq embeds hzs hembeds⟩)).hasTerms rfl
  | .union terms, x, hx, ht => by
    obtain ⟨ys, hys, rfl⟩ := hx
    obtain ⟨hhere, ht⟩ := List.forall_mem_cons.mp ht
    obtain ⟨values, items, hvalues, hitems, hread⟩ := exists_terms hq terms hys ht hhere.no_union
    refine ⟨values, items, ?_, hvalues, .bars hitems, hread⟩
    rintro rfl
    cases hread
    exact hhere.composed rfl

/-- Types in a list, none of them a type set. -/
theorem hasLayout_types (hq : NamesPackages goesBy) :
    (ts : List GoType) → {xs : List String} → SpellTypes goesBy ts xs →
      (∀ u ∈ typeParts ts, u.WritableHere) → (∀ t ∈ ts, t.isUnion = false) →
      ∀ x ∈ xs, HasLayout TypeExpr.Row x
  | [], xs, hxs, _, _ => by
    obtain rfl := hxs
    simp
  | t :: ts, xs, hxs, ht, hu => by
    obtain ⟨y, ys, hy, hys, rfl⟩ := hxs
    obtain ⟨ht, hts⟩ := List.forall_mem_append.mp ht
    obtain ⟨hut, huts⟩ := List.forall_mem_cons.mp hu
    exact List.forall_mem_cons.mpr
      ⟨((GoType.hasTerms_of_spells hq t hy ht).hasRow hut).hasLayout,
        hasLayout_types hq ts hys hts huts⟩

theorem hasLayout_embeds (hq : NamesPackages goesBy) :
    (ts : List GoType) → {xs : List String} → SpellTypes goesBy ts xs →
      (∀ u ∈ typeParts ts, u.WritableHere) → ∀ x ∈ xs, HasLayout InterfaceElem.Row x
  | [], xs, hxs, _ => by
    obtain rfl := hxs
    simp
  | t :: ts, xs, hxs, ht => by
    obtain ⟨y, ys, hy, hys, rfl⟩ := hxs
    obtain ⟨ht, hts⟩ := List.forall_mem_append.mp ht
    exact List.forall_mem_cons.mpr
      ⟨(GoType.hasTerms_of_spells hq t hy ht).embedded, hasLayout_embeds hq ts hys hts⟩

/-- The text of a signature is laid out. -/
theorem hasLayout_signature (hq : NamesPackages goesBy) :
    (s : Signature) → {x : String} → s.Spells goesBy x → (∀ u ∈ s.parts, u.WritableHere) →
      (∀ t ∈ s.types, t.isUnion = false) → HasLayout FunctionExpr.Row x ∧ Stops x
  | ⟨params, results, variadic⟩, x, hx, ht, hu => by
    obtain ⟨ps, rs, hps, hrs, rfl⟩ := hx
    obtain ⟨hparams, hresults⟩ := List.forall_mem_append.mp ht
    rw [Signature.types, List.map_append] at hu
    obtain ⟨huparams, huresults⟩ := List.forall_mem_append.mp hu
    exact hasLayout_typesSignature (hasLayout_values hq params hps hparams huparams)
      (hasLayout_values hq results hrs hresults huresults) variadic

theorem hasLayout_values (hq : NamesPackages goesBy) :
    (vs : List Value) → {xs : List String} → SpellValues goesBy vs xs →
      (∀ u ∈ valueParts vs, u.WritableHere) → (∀ t ∈ vs.map Value.type, t.isUnion = false) →
      ∀ x ∈ xs, HasLayout TypeExpr.Row x
  | [], xs, hxs, _, _ => by
    obtain rfl := hxs
    simp
  | ⟨_, t⟩ :: vs, xs, hxs, ht, hu => by
    obtain ⟨y, ys, hy, hys, rfl⟩ := hxs
    obtain ⟨ht, hvs⟩ := List.forall_mem_append.mp ht
    obtain ⟨hut, huvs⟩ := List.forall_mem_cons.mp hu
    exact List.forall_mem_cons.mpr
      ⟨((GoType.hasTerms_of_spells hq t hy ht).hasRow hut).hasLayout,
        hasLayout_values hq vs hys hvs huvs⟩

theorem hasLayout_fields (hq : NamesPackages goesBy) :
    (fs : List Field) → {xs : List String} → SpellFields goesBy fs xs →
      (GoType.struct fs).WritableHere → (∀ u ∈ fieldParts fs, u.WritableHere) →
      ∀ x ∈ xs, HasLayout FieldExpr.Row x
  | [], xs, hxs, _, _ => by
    obtain rfl := hxs
    simp
  | ⟨name, t, tag⟩ :: fs, xs, hxs, hhere, ht => by
    obtain ⟨y, ys, hy, hys, rfl⟩ := hxs
    obtain ⟨ht, hfs⟩ := List.forall_mem_append.mp ht
    obtain ⟨hlexical, hcomposed, hu⟩ := hhere
    obtain ⟨⟨hname, htag⟩, hlexical⟩ := List.forall_mem_cons.mp hlexical
    obtain ⟨hembed, hcomposed⟩ := List.forall_mem_cons.mp hcomposed
    obtain ⟨hut, hu⟩ := List.forall_mem_cons.mp hu
    exact List.forall_mem_cons.mpr
      ⟨hasLayout_fieldText hname htag ((GoType.hasTerms_of_spells hq t hy ht).hasRow hut) hembed,
        hasLayout_fields hq fs hys ⟨hlexical, hcomposed, hu⟩ hfs⟩

theorem hasLayout_methods (hq : NamesPackages goesBy) :
    (ms : List MethodSpec) → {xs : List String} → SpellMethods goesBy ms xs →
      (∀ m ∈ ms, isIdentifier m.name) →
      (∀ t ∈ ms.flatMap fun m => m.signature.types, t.isUnion = false) →
      (∀ u ∈ methodParts ms, u.WritableHere) → ∀ x ∈ xs, HasLayout InterfaceElem.Row x
  | [], xs, hxs, _, _, _ => by
    obtain rfl := hxs
    simp
  | ⟨name, s⟩ :: ms, xs, hxs, hnames, hu, ht => by
    obtain ⟨y, ys, hy, hys, rfl⟩ := hxs
    obtain ⟨ht, hms⟩ := List.forall_mem_append.mp ht
    obtain ⟨hname, hnames⟩ := List.forall_mem_cons.mp hnames
    rw [List.flatMap_cons] at hu
    obtain ⟨hus, hu⟩ := List.forall_mem_append.mp hu
    obtain ⟨⟨f, ls, hf, hlays⟩, hstops⟩ := hasLayout_signature hq s hy ht hus
    exact List.forall_mem_cons.mpr
      ⟨⟨_, _, .method name hf, (Lays.name hname).append hlays hstops⟩,
        hasLayout_methods hq ms hys hnames hu hms⟩

/-- Texts of terms have rows. -/
theorem exists_terms (hq : NamesPackages goesBy) :
    (ts : List Term) → {xs : List String} → SpellTerms goesBy ts xs →
      (∀ u ∈ termParts ts, u.WritableHere) → (∀ t ∈ ts.map Term.type, t.isUnion = false) →
      ∃ terms items, List.Forall₂ UnionTerm.Row terms items ∧ List.Forall₂ Lays xs items ∧
        List.Forall₂ (fun t term => term.tilde = t.tilde ∧ t.type.ReadAs term.type) ts terms
  | [], xs, hxs, _, _ => by
    obtain rfl := hxs
    exact ⟨[], [], .nil, .nil, .nil⟩
  | ⟨tilde, t⟩ :: ts, xs, hxs, ht, hu => by
    obtain ⟨y, ys, hy, hys, rfl⟩ := hxs
    obtain ⟨ht, hts⟩ := List.forall_mem_append.mp ht
    obtain ⟨hut, huts⟩ := List.forall_mem_cons.mp hu
    obtain ⟨e, ls, ⟨he, hread⟩, hlays⟩ := (GoType.hasTerms_of_spells hq t hy ht).hasRow hut
    obtain ⟨terms, items, hterms, hitems, hreads⟩ := exists_terms hq ts hys hts huts
    refine ⟨⟨tilde, e⟩ :: terms, _ :: items, .cons (.mk tilde he) hterms, .cons ?_ hitems,
      .cons ⟨rfl, hread⟩ hreads⟩
    cases tilde with
    | true  => exact hlays.sign_append (s := "~") _ (by decide)
    | false => simpa [termText] using hlays

end

end Types

end GoMocks
