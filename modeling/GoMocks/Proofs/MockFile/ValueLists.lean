import GoMocks.MockFile.Build
import GoMocks.Proofs.GoType.Sealing

/-!
# Mock files — lists of parameters and results

How the lists of parameters and results in a mock read as Go. They are cut at the commas outside
brackets and string literals; an item is a name with a type behind it, or one of these alone, and
what stands alone in front of an item with a type is a name of that type.

* `readValues`, `readResults`: the names and types of a list of parameters, and of the results.
* `readValues_joinNamed`: names and types are read back, although names that share a type are
  written with the type once.
* `readResults_named`, `readResults_unnamed`: results are read back, named or not.
-/

namespace GoMocks.MockFile

open Text (isIdentifierPart splitCommas Sealed)

/-! ### Reading -/

/-- An item of a list of parameters or results. -/
inductive ValueItem
  | typed (name type : String)
  | alone (text : String)
  deriving DecidableEq, Repr

/-- Does the item have a type of its own? -/
def ValueItem.isTyped : ValueItem → Bool
  | .typed _ _ => true
  | .alone _   => false

/-- An identifier and a blank in front of something make it a name with a type. -/
def readItem (text : String) : ValueItem :=
  let name := String.ofList (text.toList.takeWhile isIdentifierPart)
  match text.toList.dropWhile isIdentifierPart with
  | ' ' :: type => if isIdentifier name then .typed name (.ofList type) else .alone text
  | _           => .alone text

/-- Names with their types. What stands alone is a name, with the type of the next item. -/
def shareTypes : List ValueItem → List (String × String)
  | []                       => []
  | .typed name type :: rest => (name, type) :: shareTypes rest
  | .alone name :: rest      =>
    (name, ((shareTypes rest).head?.map Prod.snd).getD "") :: shareTypes rest

/-- The names and types of a list. Where no item is a name with a type, all of them are types. -/
def readValues (text : String) : List (String × String) :=
  let items := (splitCommas text).map readItem
  if items.any ValueItem.isTyped then shareTypes items
  else (splitCommas text).map fun type => ("", type)

/-- The names and types of results, which stand in parentheses unless there is only a type. -/
def readResults (text : String) : List (String × String) :=
  match text.toList with
  | '(' :: cs => readValues (.ofList cs.dropLast)
  | _         => readValues text

/-! ### Names with types -/

variable {name type x : String} {xs : List String} {values : List (String × String)}

/-- A name and a type are read as both. -/
theorem readItem_typed (hn : isIdentifier name) (type : String) :
    readItem (name ++ " " ++ type) = .typed name type := by
  have hword : IsWord name := .of_isIdentifier hn
  have hends : EndsWord (' ' :: type.toList) := by simp [EndsWord, signs]
  have htext : (name ++ " " ++ type).toList = name.toList ++ ' ' :: type.toList := by simp
  simp [readItem, htext, hword.takeWhile_append hends, hword.dropWhile_append hends, hn]

/-- A name is read as standing alone. -/
theorem readItem_name (hn : isIdentifier name) : readItem name = .alone name := by
  have hword : IsWord name := .of_isIdentifier hn
  have hdrop := hword.dropWhile_append (p := []) (by simp [EndsWord])
  rw [List.append_nil] at hdrop
  simp [readItem, hdrop]

/-- The items of a list that is not empty are read back as the list, and one of them has a type. -/
theorem shareTypes_namedParts (h : ∀ v ∈ values, isIdentifier v.1) :
    shareTypes ((namedParts values).map readItem) = values ∧
      ((namedParts values).map readItem).any ValueItem.isTyped = !values.isEmpty := by
  induction values with
  | nil => exact ⟨rfl, rfl⟩
  | cons v values ih =>
    obtain ⟨name, type⟩ := v
    obtain ⟨hn, hvalues⟩ := List.forall_mem_cons.mp h
    obtain ⟨hrest, hany⟩ := ih hvalues
    cases values with
    | nil => simp [namedParts, readItem_typed hn, shareTypes, ValueItem.isTyped]
    | cons next rest =>
      obtain ⟨nextName, nextType⟩ := next
      rw [namedParts, List.map_cons]
      split
      · -- the next value has the type too, so it was read with it
        next heq =>
        subst heq
        rw [readItem_name hn, shareTypes, hrest, List.any_cons, hany]
        exact ⟨rfl, rfl⟩
      · rw [readItem_typed hn, shareTypes, hrest, List.any_cons]
        exact ⟨rfl, rfl⟩

/-- Names and sealed types are sealed. -/
theorem sealed_namedParts (h : ∀ v ∈ values, isIdentifier v.1 ∧ Sealed v.2) :
    ∀ x ∈ namedParts values, Sealed x ∧ x ≠ "" := by
  have hpart : ∀ {name type : String}, isIdentifier name → Sealed type →
      (Sealed name ∧ name ≠ "") ∧ Sealed (name ++ " " ++ type) ∧ name ++ " " ++ type ≠ "" := by
    intro name type hn ht
    have hname : Sealed name := .of_isIdentifier hn
    exact ⟨⟨hname, (IsWord.of_isIdentifier hn).ne_empty⟩,
      (hname.append (.of_neutral (by decide))).append ht, by simp⟩
  induction values with
  | nil => simp [namedParts]
  | cons v values ih =>
    obtain ⟨name, type⟩ := v
    obtain ⟨⟨hn, ht⟩, hvalues⟩ := List.forall_mem_cons.mp h
    cases values with
    | nil => simpa [namedParts] using (hpart hn ht).2
    | cons next rest =>
      rw [namedParts]
      refine List.forall_mem_cons.mpr ⟨?_, ih hvalues⟩
      split
      · exact (hpart hn ht).1
      · exact (hpart hn ht).2

/-- **Names and types are read back.** -/
theorem readValues_joinNamed (h : ∀ v ∈ values, isIdentifier v.1 ∧ Sealed v.2) :
    readValues (joinNamed values) = values := by
  have hsplit : splitCommas (joinNamed values) = namedParts values :=
    Text.splitCommas_intercalate (sealed_namedParts h)
  obtain ⟨hvalues, hany⟩ := shareTypes_namedParts fun v hv => (h v hv).1
  rw [readValues, hsplit, hvalues, hany]
  cases values <;> simp [namedParts]

/-! ### Types alone -/

/-- A text that stands for a type when it is an item of its own. -/
structure StandsAlone (x : String) : Prop where
  sealed : Sealed x
  alone  : readItem x = .alone x
  head   : ∃ c cs, x.toList = c :: cs ∧ c ≠ '('

theorem StandsAlone.ne_empty (h : StandsAlone x) : x ≠ "" := by
  rintro rfl
  obtain ⟨c, cs, hcs, -⟩ := h.head
  cases hcs

/-- Types that stand alone are split at the commas between them. -/
theorem splitCommas_types (h : ∀ x ∈ xs, StandsAlone x) :
    splitCommas (", ".intercalate xs) = xs :=
  Text.splitCommas_intercalate fun x hx => ⟨(h x hx).sealed, (h x hx).ne_empty⟩

/-- Types that stand alone are read as unnamed values. -/
theorem readValues_types (h : ∀ x ∈ xs, StandsAlone x) :
    readValues (", ".intercalate xs) = xs.map fun type => ("", type) := by
  have hnone : (xs.map readItem).any ValueItem.isTyped = false := by
    rw [List.any_eq_false]
    intro item hitem
    obtain ⟨x, hx, rfl⟩ := List.mem_map.mp hitem
    simp [(h x hx).alone, ValueItem.isTyped]
  rw [readValues, splitCommas_types h, hnone]
  rfl

/-- The text is no name with a type behind it, and does not begin with a parenthesis. -/
def IsAlone (x : String) : Prop :=
  readItem x = .alone x ∧ ∃ c cs, x.toList = c :: cs ∧ c ≠ '('

/-- A word in front of something, where the word is no name or no blank follows it. -/
theorem isAlone_of_word {w y : String} (hw : IsWord w) (hy : EndsWord y.toList)
    (h : isIdentifier w = false ∨ y.toList.head? ≠ some ' ') : IsAlone (w ++ y) := by
  refine ⟨?_, ?_⟩
  · rw [readItem, String.toList_append, hw.takeWhile_append hy, hw.dropWhile_append hy,
      String.ofList_toList]
    rcases h with h | h
    · simp only [h]
      split <;> rfl
    · split
      · next hcs => simp [hcs] at h
      · rfl
  · obtain ⟨c, cs, hcs, hc⟩ := hw.head_not_sign
    refine ⟨c, cs ++ y.toList, by simp [hcs], ?_⟩
    rintro rfl
    exact hc (by decide)

/-- A sign that types begin with is in front of no name. -/
theorem isAlone_of_sign {c : Char} (hx : x.toList.head? = some c) (hc : c ∈ ['*', '[', '<']) :
    IsAlone x := by
  obtain ⟨cs, hcs⟩ := List.head?_eq_some_iff.mp hx
  obtain ⟨hsign, hblank, hparen⟩ : c ∈ signs ∧ c ≠ ' ' ∧ c ≠ '(' := by
    simp only [List.mem_cons, List.not_mem_nil, or_false] at hc
    rcases hc with rfl | rfl | rfl <;> decide
  have hpart : isIdentifierPart c = false := isIdentifierPart_of_mem_signs hsign
  refine ⟨?_, c, cs, hcs, hparen⟩
  rw [readItem, hcs, List.dropWhile_cons, hpart]
  simp only [Bool.false_eq_true, ↓reduceIte]
  split
  · next heq => exact absurd (List.cons.inj heq).1 hblank
  · rfl

variable {goesBy : String → String → Prop} {t : GoType}

/-- A keyword stands alone, whatever follows it. -/
theorem isAlone_of_keyword {w y : String} (hw : w ∈ goKeywords) (hy : EndsWord y.toList) :
    IsAlone (w ++ y) :=
  isAlone_of_word (.of_mem_goKeywords hw) hy (.inl (by simp [isIdentifier, hw]))

/-- A reference stands alone. -/
theorem isAlone_of_reference (hq : ∀ path ident, goesBy path ident → isIdentifier ident)
    (hx : t.Spells goesBy x) (ht : t.isReference) (hlex : t.LexicalHere) : IsAlone x := by
  obtain ⟨ys, ⟨w, hw, rfl⟩ | ⟨ident, w, hident, rfl⟩⟩ :=
    GoType.cases_of_spells_reference hq hx ht hlex
  · have hends : EndsWord (bracketed ys).toList ∧ (bracketed ys).toList.head? ≠ some ' ' := by
      rw [bracketed]
      split <;> simp [EndsWord, signs]
    exact isAlone_of_word (.of_isIdentifier hw) hends.1 (.inr hends.2)
  · have htext : ident ++ "." ++ w ++ bracketed ys = ident ++ ("." ++ w ++ bracketed ys) := by
      simp [← String.toList_inj]
    rw [htext]
    exact isAlone_of_word (.of_isIdentifier hident) (by simp [EndsWord, signs]) (.inr (by simp))

theorem isAlone_braced {keyword : String} (hk : keyword ∈ goKeywords) (ys : List String) :
    IsAlone (Resolver.braced keyword ys) := by
  rw [braced_eq]
  refine isAlone_of_keyword hk ?_
  simpa using endsWord_braced ys []

theorem isAlone_channelText (direction : ChannelDirection) (elem : GoType) (y : String) :
    IsAlone (Resolver.channelText direction elem y) := by
  have hchan : ∀ rest : String, EndsWord rest.toList → IsAlone ("chan" ++ rest) := fun rest =>
    isAlone_of_keyword (by decide)
  rw [Resolver.channelText.eq_def]
  split
  · have htext : "chan (" ++ y ++ ")" = "chan" ++ (" (" ++ y ++ ")") := by
      simp [← String.toList_inj]
    rw [htext]
    exact hchan _ (by simp [EndsWord, signs])
  · have htext : "chan " ++ y = "chan" ++ (" " ++ y) := by simp [← String.toList_inj]
    rw [htext]
    exact hchan _ (by simp [EndsWord, signs])
  · have htext : "chan<- " ++ y = "chan" ++ ("<- " ++ y) := by simp [← String.toList_inj]
    rw [htext]
    exact hchan _ (by simp [EndsWord, signs])
  · exact isAlone_of_sign (c := '<') (by simp) (by decide)

/-- The text of a type stands alone, unions apart. -/
theorem isAlone_of_spells (hq : ∀ path ident, goesBy path ident → isIdentifier ident)
    (hx : t.Spells goesBy x) (hlex : t.LexicalHere) (hunion : t.isUnion = false) : IsAlone x := by
  cases t with
  -- the first word or sign of every other type is no name
  | basic | named | parameter => exact isAlone_of_reference hq hx rfl hlex
  | union terms => cases hunion
  | pointer elem =>
    obtain ⟨y, -, rfl⟩ := hx
    exact isAlone_of_sign (c := '*') (by simp) (by decide)
  | slice elem =>
    obtain ⟨y, -, rfl⟩ := hx
    exact isAlone_of_sign (c := '[') (by simp) (by decide)
  | array length elem =>
    obtain ⟨l, y, -, -, rfl⟩ := hx
    exact isAlone_of_sign (c := '[') (by simp) (by decide)
  | map key value =>
    obtain ⟨k, v, -, -, rfl⟩ := hx
    have htext : "map[" ++ k ++ "]" ++ v = "map" ++ ("[" ++ k ++ "]" ++ v) := by
      simp [← String.toList_inj]
    rw [htext]
    exact isAlone_of_keyword (by decide) (by simp [EndsWord, signs])
  | channel direction elem =>
    obtain ⟨y, -, rfl⟩ := hx
    exact isAlone_channelText direction elem y
  | function signature =>
    obtain ⟨params, results, variadic⟩ := signature
    obtain ⟨-, ⟨ps, rs, -, -, rfl⟩, rfl⟩ := hx
    refine isAlone_of_keyword (by decide) ?_
    simp [Resolver.typesSignature, EndsWord, signs]
  | struct fields =>
    obtain ⟨ys, -, rfl⟩ := hx
    exact isAlone_braced (by decide) ys
  | interface methods embeds =>
    obtain ⟨ys, zs, -, -, rfl⟩ := hx
    exact isAlone_braced (by decide) (ys ++ zs)

/-- The text of a type that is no type set stands for it in a list. -/
theorem standsAlone_of_spells (hq : ∀ path ident, goesBy path ident → isIdentifier ident)
    (hx : t.Spells goesBy x) (hlex : t.Lexical) (hunion : t.isUnion = false) : StandsAlone x where
  sealed := t.sealed_of_spells hq hx hlex
  alone := (isAlone_of_spells hq hx (hlex t t.self_mem_parts) hunion).1
  head := (isAlone_of_spells hq hx (hlex t t.self_mem_parts) hunion).2

/-! ### Results -/

/-- Results in parentheses are read as values. -/
theorem readResults_parens (x : String) : readResults ("(" ++ x ++ ")") = readValues x := by
  have htext : ("(" ++ x ++ ")").toList = '(' :: (x.toList ++ [')']) := by simp
  simp [readResults, htext]

/-- One type is read as one unnamed result. -/
theorem StandsAlone.readResults (h : StandsAlone x) : readResults x = [("", x)] := by
  obtain ⟨c, cs, hcs, hparen⟩ := h.head
  have hvalues : readValues x = [("", x)] := by
    simpa using readValues_types (List.forall_mem_singleton.mpr h)
  rw [MockFile.readResults, hcs]
  split
  · next heq => exact absurd (List.cons.inj heq).1 hparen
  · exact hvalues

/-- Results with names are read back. -/
theorem readResults_named (h : ∀ v ∈ values, isIdentifier v.1 ∧ Sealed v.2) :
    readResults (resultPart true values) = values := by
  have htext : resultPart true values = "(" ++ joinNamed values ++ ")" := by simp [resultPart]
  rw [htext, readResults_parens, readValues_joinNamed h]

/-- Results without names are read back. -/
theorem readResults_unnamed (h : ∀ v ∈ values, v.1 = "" ∧ StandsAlone v.2) :
    readResults (resultPart false values) = values := by
  have hpair : ∀ v ∈ values, ("", v.2) = v := fun v hv => Prod.ext (h v hv).1.symm rfl
  match values with
  | []       => rfl
  | [single] =>
    obtain ⟨-, hsingle⟩ := h single List.mem_cons_self
    rw [show resultPart false [single] = single.2 from rfl, hsingle.readResults,
      hpair single List.mem_cons_self]
  | first :: second :: rest =>
    have htypes : ∀ x ∈ (first :: second :: rest).map Prod.snd, StandsAlone x := by
      intro x hx
      obtain ⟨v, hv, rfl⟩ := List.mem_map.mp hx
      exact (h v hv).2
    rw [show resultPart false (first :: second :: rest) =
        "(" ++ ", ".intercalate ((first :: second :: rest).map Prod.snd) ++ ")" from rfl,
      readResults_parens, readValues_types htypes, List.map_map]
    exact (List.map_congr_left hpair).trans (List.map_id _)

/-! ### The last parameter of a variadic method -/

/-- What stands in front of the type of a parameter, and behind the argument that it is handed on
as. -/
def dots (variadic : Bool) (count place : Nat) : String :=
  if variadic ∧ place + 1 = count then "..." else ""

theorem dots_succ (variadic : Bool) (count place : Nat) :
    dots variadic (count + 1) (place + 1) = dots variadic count place := by
  simp [dots]

theorem sealed_dots (variadic : Bool) (count place : Nat) : Sealed (dots variadic count place) := by
  rw [dots]
  split <;> exact .of_neutral (by decide)

/-- Dots stand in front of the last type. -/
theorem markVariadic_eq (variadic : Bool) (xs : List String) :
    (if variadic then markVariadic xs else xs) =
      xs.mapIdx fun k x => dots variadic xs.length k ++ x := by
  induction xs with
  | nil => cases variadic <;> rfl
  | cons x xs ih =>
    rw [List.mapIdx_cons]
    simp only [List.length_cons, dots_succ, ← ih]
    cases variadic <;> cases xs <;> simp [markVariadic, dots]

/-- Dots stand behind the last argument. -/
theorem callArguments_eq (variadic : Bool) (names : List String) :
    callArguments variadic names =
      names.mapIdx fun k name => name ++ dots variadic names.length k := by
  induction names with
  | nil => rfl
  | cons name names ih =>
    rw [List.mapIdx_cons]
    simp only [List.length_cons, dots_succ]
    cases names with
    | nil => cases variadic <;> simp [callArguments, dots]
    | cons next rest => simp [callArguments, ih, dots]

/-- The arguments are read back. -/
theorem splitCommas_callArguments {names : List String} (variadic : Bool)
    (h : ∀ name ∈ names, isIdentifier name) :
    splitCommas (", ".intercalate (callArguments variadic names)) =
      names.mapIdx fun k name => name ++ dots variadic names.length k := by
  rw [callArguments_eq]
  refine Text.splitCommas_intercalate fun x hx => ?_
  obtain ⟨k, hk, rfl⟩ := List.mem_mapIdx.mp hx
  have hname := h _ (List.getElem_mem hk)
  have hne := (IsWord.of_isIdentifier hname).ne_empty
  exact ⟨(Sealed.of_isIdentifier hname).append (sealed_dots _ _ _), by simp [hne]⟩

end GoMocks.MockFile
