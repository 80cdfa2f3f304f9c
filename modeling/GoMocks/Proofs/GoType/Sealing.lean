import GoMocks.Proofs.GoType.Spelling
import GoMocks.Proofs.GoType.WellFormed
import GoMocks.Proofs.Text.Commas

/-!
# Go types — types as items of a list

The text of a type is one item of a list of types, whatever commas there are in it: they stand in
brackets, braces, parentheses or in the tags of fields.

* `GoType.sealed_of_spells`: every spelling of a type with lexical names and literals is sealed.
-/

namespace GoMocks

open Resolver
open Text (Sealed Inner)

variable {goesBy : String → String → Prop} {x y : String} {xs ys : List String}

/-! ### Texts that are put together from sealed ones -/

theorem sealed_markVariadic (h : ∀ x ∈ xs, Sealed x) : ∀ x ∈ markVariadic xs, Sealed x := by
  have hdots : Sealed "..." := .of_neutral (by decide)
  induction xs with
  | nil => exact h
  | cons x xs ih =>
    obtain ⟨hx, hxs⟩ := List.forall_mem_cons.mp h
    cases xs with
    | nil => simpa [markVariadic] using hdots.append hx
    | cons y ys => exact List.forall_mem_cons.mpr ⟨hx, ih hxs⟩

/-- The text of a signature of sealed types is sealed. -/
theorem sealed_typesSignature (hxs : ∀ x ∈ xs, Sealed x) (hys : ∀ y ∈ ys, Sealed y)
    (variadic : Bool) : Sealed (typesSignature xs ys variadic) := by
  have hblank : Sealed " " := .of_neutral (by decide)
  have hmarked : ∀ x ∈ (if variadic then markVariadic xs else xs), Sealed x := by
    split
    · exact sealed_markVariadic hxs
    · exact hxs
  refine (Sealed.parens (.list hmarked)).append ?_
  split
  · exact .of_neutral (by decide)
  · exact hblank.append (hys _ List.mem_cons_self)
  · have htext : " (" ++ ", ".intercalate ys ++ ")" =
        " " ++ ("(" ++ ", ".intercalate ys ++ ")") := by
      simp [← String.toList_inj]
    rw [htext]
    exact hblank.append (.parens (.list hys))

theorem sealed_braced {keyword : String} (hk : Sealed keyword) (h : ∀ x ∈ xs, Sealed x) :
    Sealed (braced keyword xs) := by
  have hblank : Sealed " " := .of_neutral (by decide)
  have hsemicolon : Sealed "; " := .of_neutral (by decide)
  rw [braced]
  split
  · have hempty : Sealed ("\x7b" ++ "" ++ "\x7d") := .braces (fun d => rfl)
    exact hk.append hempty
  · have htext : keyword ++ "\x7b " ++ "; ".intercalate xs ++ " \x7d" =
        keyword ++ ("\x7b" ++ (" " ++ "; ".intercalate xs ++ " ") ++ "\x7d") := by
      simp [← String.toList_inj]
    rw [htext]
    exact hk.append (.braces ((hblank.append (.intercalate hsemicolon h)).append hblank).inner)

theorem sealed_bracketed (h : ∀ x ∈ xs, Sealed x) : Sealed (bracketed xs) := by
  rw [bracketed]
  split
  · exact .of_neutral (by decide)
  · exact .brackets (.list h)

theorem sealed_channelText (direction : ChannelDirection) (elem : GoType) (h : Sealed x) :
    Sealed (channelText direction elem x) := by
  have hchan : Sealed "chan " := .of_neutral (by decide)
  rw [channelText.eq_def]
  split
  · have htext : "chan (" ++ x ++ ")" = "chan " ++ ("(" ++ x ++ ")") := by
      simp [← String.toList_inj]
    rw [htext]
    exact hchan.append (.parens h.inner)
  · exact hchan.append h
  · exact Sealed.append (.of_neutral (by decide)) h
  · exact Sealed.append (.of_neutral (by decide)) h

/-- A field of a sealed type is sealed. -/
theorem sealed_fieldText {name tag : Option String} (hn : ∀ n ∈ name, isIdentifier n)
    (ht : ∀ t ∈ tag, GoSource.IsString t) (h : Sealed x) : Sealed (fieldText name x tag) := by
  have hblank : Sealed " " := .of_neutral (by decide)
  refine Sealed.append ?_ ?_
  · cases name with
    | none => exact h
    | some n => exact ((Sealed.of_isIdentifier (hn n rfl)).append hblank).append h
  · cases tag with
    | none => exact .of_neutral (by decide)
    | some t => exact hblank.append (.of_isString (ht t rfl))

theorem sealed_termText (tilde : Bool) (h : Sealed x) : Sealed (termText tilde x) := by
  refine Sealed.append ?_ h
  split <;> exact .of_neutral (by decide)

/-- A qualified name is sealed. -/
theorem sealed_qualified (hq : ∀ path ident, goesBy path ident → isIdentifier ident)
    {package name : String} (hn : isIdentifier name) (h : SpellsQualified goesBy package name x) :
    Sealed x := by
  obtain ⟨ident, hident, rfl⟩ := h
  exact ((Sealed.of_isIdentifier (hq _ _ hident)).append (.of_neutral (by decide))).append
    (.of_isIdentifier hn)

theorem sealed_base (hq : ∀ path ident, goesBy path ident → isIdentifier ident)
    {package : Option String} {name : String} (hn : isIdentifier name)
    (h : SpellsBase goesBy package name x) : Sealed x := by
  cases package with
  | none =>
    obtain rfl : x = name := h
    exact .of_isIdentifier hn
  | some package => exact sealed_qualified hq hn h

/-- The length of an array is sealed. -/
theorem sealed_length (hq : ∀ path ident, goesBy path ident → isIdentifier ident)
    {length : ArrayLength} {elem : GoType} (hlex : (GoType.array length elem).LexicalHere)
    (h : length.Spells goesBy x) : Sealed x := by
  cases length with
  | literal text =>
    obtain rfl : x = text := h
    exact .of_isWord (GoSource.IsInteger.isWord hlex)
  | constant package name => exact sealed_qualified hq hlex h

/-! ### Types -/

mutual

/-- **The text of a type is one item of a list.** -/
theorem GoType.sealed_of_spells (hq : ∀ path ident, goesBy path ident → isIdentifier ident) :
    (t : GoType) → {x : String} → t.Spells goesBy x → t.Lexical → Sealed x
  | .basic kind, x, hx, _ => by
    obtain ⟨-, hx⟩ | ⟨-, rfl⟩ := GoType.cases_of_spells_basic hx
    · exact sealed_qualified hq (by decide) hx
    · refine .of_neutral ?_
      cases kind <;> decide
  | .parameter name, x, hx, ht => by
    obtain rfl : x = name := hx
    exact .of_isIdentifier (ht _ List.mem_cons_self)
  | .named ⟨package, name, ts⟩, x, hx, ht => by
    obtain ⟨base, ys, hbase, hys, rfl⟩ := hx
    obtain ⟨hhere, hts⟩ := List.forall_mem_cons.mp ht
    exact (sealed_base hq hhere hbase).append (sealed_bracketed (sealed_types hq ts hys hts))
  | .pointer elem, x, hx, ht => by
    obtain ⟨y, hy, rfl⟩ := hx
    obtain ⟨-, ht⟩ := List.forall_mem_cons.mp ht
    exact Sealed.append (.of_neutral (by decide)) (GoType.sealed_of_spells hq elem hy ht)
  | .slice elem, x, hx, ht => by
    obtain ⟨y, hy, rfl⟩ := hx
    obtain ⟨-, ht⟩ := List.forall_mem_cons.mp ht
    have hbrackets : Sealed ("[" ++ "" ++ "]") := .brackets fun d => rfl
    exact Sealed.append hbrackets (GoType.sealed_of_spells hq elem hy ht)
  | .array length elem, x, hx, ht => by
    obtain ⟨l, y, hlength, hy, rfl⟩ := hx
    obtain ⟨hhere, ht⟩ := List.forall_mem_cons.mp ht
    exact (Sealed.brackets (sealed_length hq hhere hlength).inner).append
      (GoType.sealed_of_spells hq elem hy ht)
  | .map key value, x, hx, ht => by
    obtain ⟨k, v, hk, hv, rfl⟩ := hx
    obtain ⟨-, ht⟩ := List.forall_mem_cons.mp ht
    obtain ⟨hkey, hvalue⟩ := List.forall_mem_append.mp ht
    have htext : "map[" ++ k ++ "]" ++ v = "map" ++ ("[" ++ k ++ "]") ++ v := by
      simp [← String.toList_inj]
    rw [htext]
    exact (Sealed.append (.of_neutral (by decide))
      (.brackets (GoType.sealed_of_spells hq key hk hkey).inner)).append
        (GoType.sealed_of_spells hq value hv hvalue)
  | .channel direction elem, x, hx, ht => by
    obtain ⟨y, hy, rfl⟩ := hx
    obtain ⟨-, ht⟩ := List.forall_mem_cons.mp ht
    exact sealed_channelText direction elem (GoType.sealed_of_spells hq elem hy ht)
  | .function signature, x, hx, ht => by
    obtain ⟨y, hy, rfl⟩ := hx
    obtain ⟨-, ht⟩ := List.forall_mem_cons.mp ht
    exact Sealed.append (.of_neutral (by decide)) (sealed_signature hq signature hy ht)
  | .struct fields, x, hx, ht => by
    obtain ⟨ys, hys, rfl⟩ := hx
    obtain ⟨hhere, ht⟩ := List.forall_mem_cons.mp ht
    exact sealed_braced (.of_neutral (by decide)) (sealed_fields hq fields hys hhere ht)
  | .interface methods embeds, x, hx, ht => by
    obtain ⟨ys, zs, hys, hzs, rfl⟩ := hx
    obtain ⟨hhere, ht⟩ := List.forall_mem_cons.mp ht
    obtain ⟨hmethods, hembeds⟩ := List.forall_mem_append.mp ht
    exact sealed_braced (.of_neutral (by decide)) (List.forall_mem_append.mpr
      ⟨sealed_methods hq methods hys hhere hmethods, sealed_types hq embeds hzs hembeds⟩)
  | .union terms, x, hx, ht => by
    obtain ⟨ys, hys, rfl⟩ := hx
    obtain ⟨-, ht⟩ := List.forall_mem_cons.mp ht
    exact .intercalate (.of_neutral (by decide)) (sealed_terms hq terms hys ht)

theorem sealed_types (hq : ∀ path ident, goesBy path ident → isIdentifier ident) :
    (ts : List GoType) → {xs : List String} → SpellTypes goesBy ts xs →
      (∀ u ∈ typeParts ts, u.LexicalHere) → ∀ x ∈ xs, Sealed x
  | [], xs, hxs, _ => by
    obtain rfl := hxs
    exact nofun
  | t :: ts, xs, hxs, ht => by
    obtain ⟨y, ys, hy, hys, rfl⟩ := hxs
    obtain ⟨ht, hts⟩ := List.forall_mem_append.mp ht
    exact List.forall_mem_cons.mpr
      ⟨GoType.sealed_of_spells hq t hy ht, sealed_types hq ts hys hts⟩

/-- The text of a signature is sealed. -/
theorem sealed_signature (hq : ∀ path ident, goesBy path ident → isIdentifier ident) :
    (s : Signature) → {x : String} → s.Spells goesBy x → (∀ u ∈ s.parts, u.LexicalHere) → Sealed x
  | ⟨params, results, variadic⟩, x, hx, ht => by
    obtain ⟨ps, rs, hps, hrs, rfl⟩ := hx
    obtain ⟨hparams, hresults⟩ := List.forall_mem_append.mp ht
    exact sealed_typesSignature (sealed_values hq params hps hparams)
      (sealed_values hq results hrs hresults) variadic

theorem sealed_values (hq : ∀ path ident, goesBy path ident → isIdentifier ident) :
    (vs : List Value) → {xs : List String} → SpellValues goesBy vs xs →
      (∀ u ∈ valueParts vs, u.LexicalHere) → ∀ x ∈ xs, Sealed x
  | [], xs, hxs, _ => by
    obtain rfl := hxs
    exact nofun
  | ⟨_, t⟩ :: vs, xs, hxs, ht => by
    obtain ⟨y, ys, hy, hys, rfl⟩ := hxs
    obtain ⟨ht, hvs⟩ := List.forall_mem_append.mp ht
    exact List.forall_mem_cons.mpr
      ⟨GoType.sealed_of_spells hq t hy ht, sealed_values hq vs hys hvs⟩

theorem sealed_fields (hq : ∀ path ident, goesBy path ident → isIdentifier ident) :
    (fs : List Field) → {xs : List String} → SpellFields goesBy fs xs →
      (GoType.struct fs).LexicalHere → (∀ u ∈ fieldParts fs, u.LexicalHere) → ∀ x ∈ xs, Sealed x
  | [], xs, hxs, _, _ => by
    obtain rfl := hxs
    exact nofun
  | ⟨name, t, tag⟩ :: fs, xs, hxs, hhere, ht => by
    obtain ⟨y, ys, hy, hys, rfl⟩ := hxs
    obtain ⟨ht, hfs⟩ := List.forall_mem_append.mp ht
    obtain ⟨⟨hname, htag⟩, hhere⟩ := List.forall_mem_cons.mp hhere
    exact List.forall_mem_cons.mpr
      ⟨sealed_fieldText hname htag (GoType.sealed_of_spells hq t hy ht),
        sealed_fields hq fs hys hhere hfs⟩

theorem sealed_methods (hq : ∀ path ident, goesBy path ident → isIdentifier ident) :
    (ms : List MethodSpec) → {xs : List String} → SpellMethods goesBy ms xs →
      (∀ m ∈ ms, isIdentifier m.name) → (∀ u ∈ methodParts ms, u.LexicalHere) → ∀ x ∈ xs, Sealed x
  | [], xs, hxs, _, _ => by
    obtain rfl := hxs
    exact nofun
  | ⟨name, s⟩ :: ms, xs, hxs, hhere, ht => by
    obtain ⟨y, ys, hy, hys, rfl⟩ := hxs
    obtain ⟨ht, hms⟩ := List.forall_mem_append.mp ht
    obtain ⟨hname, hhere⟩ := List.forall_mem_cons.mp hhere
    exact List.forall_mem_cons.mpr
      ⟨(Sealed.of_isIdentifier hname).append (sealed_signature hq s hy ht),
        sealed_methods hq ms hys hhere hms⟩

theorem sealed_terms (hq : ∀ path ident, goesBy path ident → isIdentifier ident) :
    (ts : List Term) → {xs : List String} → SpellTerms goesBy ts xs →
      (∀ u ∈ termParts ts, u.LexicalHere) → ∀ x ∈ xs, Sealed x
  | [], xs, hxs, _ => by
    obtain rfl := hxs
    exact nofun
  | ⟨tilde, t⟩ :: ts, xs, hxs, ht => by
    obtain ⟨y, ys, hy, hys, rfl⟩ := hxs
    obtain ⟨ht, hts⟩ := List.forall_mem_append.mp ht
    exact List.forall_mem_cons.mpr
      ⟨sealed_termText tilde (GoType.sealed_of_spells hq t hy ht), sealed_terms hq ts hys hts⟩

end

end GoMocks
