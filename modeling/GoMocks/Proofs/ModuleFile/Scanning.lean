import GoMocks.ModuleFile
import Mathlib

/-!
# Module files — the parts of a directive

A directive is written with tokens, blanks between them, quotes around its paths, and an arrow in
front of what replaces a module. It is read by looking for the longest path that leaves an arrow
behind it, and then for a word between them.

* `GoModule.IsToken`: the paths and versions that can be written.
* `GoModule.SpellsPath`, `SpellsVersion`: how they are written.
* `GoModule.moduleDirective?_append`, `requirement?_append`, `replacement?_append`: what is read of
  a directive is what was written.
-/

namespace GoMocks.GoModule

open Text (isBlank)

/-! ### Parts -/

/-- The two characters never stand next to each other, in this order. -/
def Avoids (c d : Char) (cs : List Char) : Prop :=
  cs.IsChain fun a b => ¬ (a = c ∧ b = d)

instance (c d : Char) (cs : List Char) : Decidable (Avoids c d cs) :=
  inferInstanceAs (Decidable (List.IsChain _ _))

/-- Blanks only. -/
def IsGap (cs : List Char) : Prop :=
  ∀ c ∈ cs, isBlank c = true

/-- A path or a version, without blanks, quotes and parentheses, and without an arrow or the slashes
of a comment in it. -/
structure IsToken (s : String) : Prop where
  ne_empty  : s ≠ ""
  plain     : ∀ c ∈ s.toList, isBlank c = false ∧ c ∉ ['"', '(', ')']
  noArrow   : Avoids '=' '>' s.toList
  noComment : Avoids '/' '/' s.toList

/-- A path is written as it is, or between quotes. -/
def SpellsPath (path : String) (cs : List Char) : Prop :=
  cs = path.toList ∨ cs = '"' :: path.toList ++ ['"']

/-- A version is written behind blanks, if there is one. -/
inductive SpellsVersion : Option String → List Char → Prop
  | none : SpellsVersion none []
  | some {version : String} {gap : List Char} (hversion : IsToken version) (hne : gap ≠ [])
      (hgap : IsGap gap) : SpellsVersion (some version) (gap ++ version.toList)

variable {c d : Char} {cs ds gap gap' rest word : List Char} {path version : String}
  {version? version'? : Option String}

/-- A token begins with no blank, quote or parenthesis. -/
theorem IsToken.exists_cons (h : IsToken path) :
    ∃ c cs, path.toList = c :: cs ∧ isBlank c = false ∧ c ∉ ['"', '(', ')'] := by
  obtain ⟨c, cs, hcs⟩ := List.exists_cons_of_ne_nil (by simpa using h.ne_empty : path.toList ≠ [])
  obtain ⟨hblank, hsign⟩ := h.plain c (by simp [hcs])
  exact ⟨c, cs, hcs, hblank, hsign⟩

/-- A token has characters of paths only. -/
theorem IsToken.isPathChar (h : IsToken path) : ∀ c ∈ path.toList, isPathChar c = true := by
  intro c hc
  obtain ⟨hblank, hsign⟩ := h.plain c hc
  simp only [List.mem_cons, not_or] at hsign
  simp [GoModule.isPathChar, hblank, hsign.1]

/-! ### Neighbours -/

theorem avoids_append :
    Avoids c d (cs ++ ds) ↔
      Avoids c d cs ∧ Avoids c d ds ∧ ∀ a ∈ cs.getLast?, ∀ b ∈ ds.head?, ¬ (a = c ∧ b = d) :=
  List.isChain_append

theorem IsGap.ne_of_mem (h : IsGap gap) (hc : isBlank c = false) : ∀ a ∈ gap, a ≠ c := by
  rintro a ha rfl
  cases hc.symm.trans (h a ha)

theorem IsGap.avoids (h : IsGap gap) (hc : isBlank c = false) : Avoids c d gap := by
  induction gap with
  | nil => exact .nil
  | cons a gap ih =>
    obtain ⟨-, hgap⟩ := List.forall_mem_cons.mp h
    refine List.isChain_cons.mpr ⟨fun b _ hab => ?_, ih hgap⟩
    exact h.ne_of_mem hc a (.head _) hab.1

/-- Blanks keep two characters apart. -/
theorem Avoids.append_gap (hcs : Avoids c d cs) (hds : Avoids c d ds) (hgap : IsGap gap)
    (hc : isBlank c = false) (hd : isBlank d = false) (hne : gap ≠ []) :
    Avoids c d (cs ++ gap ++ ds) := by
  refine avoids_append.mpr ⟨avoids_append.mpr ⟨hcs, hgap.avoids hc, ?_⟩, hds, ?_⟩
  · intro a _ b hb hab
    exact hgap.ne_of_mem hd b (List.mem_of_mem_head? hb) hab.2
  · intro a ha b _ hab
    rw [List.getLast?_append_of_ne_nil _ hne] at ha
    exact hgap.ne_of_mem hc a (List.mem_of_mem_getLast? ha) hab.1

/-! ### Blanks and words -/

/-- A word ends here: nothing follows, or a blank. -/
def EndsHere (rest : List Char) : Prop :=
  ∀ c ∈ rest.head?, isBlank c = true

theorem EndsHere.nil : EndsHere [] := nofun

theorem EndsHere.append (hne : gap ≠ []) (hgap : IsGap gap) (rest : List Char) :
    EndsHere (gap ++ rest) := by
  intro c hc
  rw [List.head?_append_of_ne_nil _ hne] at hc
  exact hgap c (List.mem_of_mem_head? hc)

theorem SpellsVersion.endsHere (h : SpellsVersion version? cs) : EndsHere cs := by
  cases h with
  | none             => exact .nil
  | some _ hne hgap => exact .append hne hgap _

/-- The characters of a class at the front, where none of it follows. -/
theorem takeWhile_append_of_stop {p : Char → Bool} (hword : ∀ c ∈ word, p c = true)
    (hrest : ∀ c ∈ rest.head?, p c = false) : (word ++ rest).takeWhile p = word := by
  rw [List.takeWhile_append_of_pos hword]
  cases rest with
  | nil         => simp
  | cons c rest => simp [hrest c rfl]

/-- What is dropped is the word, when the rest does not go on with it. -/
theorem dropWhile_append_of_stop {p : Char → Bool} (hword : ∀ c ∈ word, p c = true)
    (hrest : ∀ c ∈ rest.head?, p c = false) : (word ++ rest).dropWhile p = rest := by
  rw [List.dropWhile_append_of_pos hword]
  cases rest with
  | nil         => rfl
  | cons c rest => rw [List.dropWhile_cons_of_neg (by simp [hrest c rfl])]

theorem dropBlanks_append (hgap : IsGap gap) (hcs : ∀ c ∈ cs.head?, isBlank c = false) :
    dropBlanks (gap ++ cs) = cs :=
  dropWhile_append_of_stop hgap hcs

theorem takeWhile_word (hword : ∀ c ∈ word, isBlank c = false) (hrest : EndsHere rest) :
    (word ++ rest).takeWhile (!isBlank ·) = word :=
  takeWhile_append_of_stop (by simpa using hword) fun c hc => by simp [hrest c hc]

theorem dropWhile_word (hword : ∀ c ∈ word, isBlank c = false) (hrest : EndsHere rest) :
    (word ++ rest).dropWhile (!isBlank ·) = rest :=
  dropWhile_append_of_stop (by simpa using hword) fun c hc => by simp [hrest c hc]

/-- A word behind blanks is read up to the next blank. -/
theorem scanNextWord_append (hne : gap ≠ []) (hgap : IsGap gap) (hword : word ≠ [])
    (hplain : ∀ c ∈ word, isBlank c = false) (hrest : EndsHere rest) :
    scanNextWord (gap ++ (word ++ rest)) = some (word, rest) := by
  have hdrop : dropBlanks (gap ++ (word ++ rest)) = word ++ rest := by
    refine dropBlanks_append hgap fun c hc => ?_
    rw [List.head?_append_of_ne_nil _ hword] at hc
    exact hplain c (List.mem_of_mem_head? hc)
  obtain ⟨c, gap, rfl⟩ := List.exists_cons_of_ne_nil hne
  rw [List.cons_append] at hdrop ⊢
  rw [scanNextWord, hdrop, takeWhile_word hplain hrest, dropWhile_word hplain hrest]
  simp [hgap c (.head _), hword]

/-- The next word is the version. -/
theorem scanNextWord_version (h : SpellsVersion version? cs) :
    (scanNextWord cs).map (fun word => String.ofList word.1) = version? := by
  cases h with
  | none => rfl
  | @some version gap hversion hne hgap =>
    have hword : version.toList ≠ [] := by simpa using hversion.ne_empty
    have hscan := scanNextWord_append hne hgap hword (fun c hc => (hversion.plain c hc).1) .nil
    rw [List.append_nil] at hscan
    simp [hscan]

/-! ### Paths -/

theorem IsToken.dropQuote (h : IsToken path) (rest : List Char) :
    dropQuote (path.toList ++ rest) = path.toList ++ rest := by
  obtain ⟨c, cs, hcs, -, hsign⟩ := h.exists_cons
  rw [hcs, List.cons_append]
  simp only [List.mem_cons, not_or] at hsign
  unfold GoModule.dropQuote
  split
  · next heq => exact absurd (List.cons.inj heq).1 hsign.1
  · rfl

/-- No quote stands at the end of a word. -/
theorem dropQuote_of_endsHere (h : EndsHere rest) : dropQuote rest = rest := by
  unfold dropQuote
  split
  · exact nomatch h '"' rfl
  · rfl

theorem isPathChar_of_endsHere (h : EndsHere rest) : ∀ c ∈ rest.head?, isPathChar c = false := by
  intro c hc
  simp [isPathChar, h c hc]

/-- **A path is read without its quotes.** -/
theorem scanPath_append (hpath : IsToken path) (h : SpellsPath path cs) (hrest : EndsHere rest) :
    scanPath (cs ++ rest) = some (path.toList, rest) := by
  obtain ⟨c, cs', hcs', -⟩ := hpath.exists_cons
  obtain rfl | rfl := h
  · have hstop := isPathChar_of_endsHere hrest
    simp only [scanPath, hpath.dropQuote, takeWhile_append_of_stop hpath.isPathChar hstop,
      dropWhile_append_of_stop hpath.isPathChar hstop, dropQuote_of_endsHere hrest]
    rw [hcs']
  · have hstop : ∀ c ∈ ('"' :: rest).head?, isPathChar c = false := by
      rintro _ ⟨⟩
      rfl
    have htext : dropQuote ('"' :: path.toList ++ ['"'] ++ rest) = path.toList ++ '"' :: rest := by
      simp [dropQuote]
    simp only [scanPath, htext, takeWhile_append_of_stop hpath.isPathChar hstop,
      dropWhile_append_of_stop hpath.isPathChar hstop]
    rw [hcs']
    rfl

/-- A path begins with no blank and no parenthesis. -/
theorem SpellsPath.head_plain (hpath : IsToken path) (h : SpellsPath path cs) (rest : List Char) :
    ∀ c ∈ (cs ++ rest).head?, isBlank c = false ∧ c ∉ ['(', ')'] := by
  obtain ⟨d, ds, hds, hblank, hsign⟩ := hpath.exists_cons
  obtain rfl | rfl := h
  · rw [hds]
    rintro _ ⟨⟩
    exact ⟨hblank, fun hmem => hsign (.tail _ hmem)⟩
  · rintro _ ⟨⟩
    exact ⟨rfl, by decide⟩

/-! ### Directives -/

theorem afterFront?_append (front cs : List Char) :
    Text.afterFront? front (front ++ cs) = some cs := by
  simp [Text.afterFront?]

theorem any_isBlank_append (hne : gap ≠ []) (hgap : IsGap gap) (cs : List Char) :
    (gap ++ cs).head?.any isBlank = true := by
  obtain ⟨c, gap, rfl⟩ := List.exists_cons_of_ne_nil hne
  simp [hgap c (.head _)]

theorem moduleDirective?_append (hpath : IsToken path) (h : SpellsPath path cs) (hne : gap ≠ [])
    (hgap : IsGap gap) : moduleDirective? ("module".toList ++ gap ++ cs) = some path := by
  have hdrop : dropBlanks (gap ++ cs) = cs := dropBlanks_append hgap fun c hc =>
    (h.head_plain hpath [] c (by rwa [List.append_nil])).1
  have hscan := scanPath_append hpath h .nil
  rw [List.append_nil] at hscan
  rw [moduleDirective?, List.append_assoc, afterFront?_append]
  simp only [Option.bind_eq_bind, Option.bind_some, any_isBlank_append hne hgap, if_true, hdrop,
    hscan, String.ofList_toList]
  rfl

theorem requirement?_append (hpath : IsToken path) (h : SpellsPath path cs)
    (hversion : SpellsVersion (some version) ds) :
    requirement? (cs ++ ds) = some (path, version) := by
  have hscan := scanPath_append hpath h hversion.endsHere
  have hword := scanNextWord_version hversion
  obtain ⟨word, hword, hversion⟩ := Option.map_eq_some_iff.mp hword
  simp [requirement?, hscan, hword, hversion]

/-- What a target is written as behind its arrow. -/
structure SpellsTarget (path : String) (version? : Option String) (cs : List Char) : Prop where
  isToken : IsToken path
  exists_eq : ∃ gap ds vs, IsGap gap ∧ SpellsPath path ds ∧ SpellsVersion version? vs ∧
    cs = gap ++ ds ++ vs

theorem target?_append (h : SpellsTarget path version? cs) (hgap : IsGap gap) :
    target? (gap ++ "=>".toList ++ cs) = some (path, version?) := by
  obtain ⟨hpath, gap', ds, vs, hgap', hds, hvs, rfl⟩ := h
  have hdrop : dropBlanks (gap ++ "=>".toList ++ (gap' ++ ds ++ vs)) =
      "=>".toList ++ (gap' ++ ds ++ vs) := by
    rw [List.append_assoc]
    refine dropBlanks_append hgap ?_
    rintro _ ⟨⟩
    rfl
  have hdrop' : dropBlanks (gap' ++ ds ++ vs) = ds ++ vs := by
    rw [List.append_assoc]
    exact dropBlanks_append hgap' fun c hc => (hds.head_plain hpath vs c hc).1
  rw [target?, hdrop, afterFront?_append]
  simp only [Option.bind_eq_bind, Option.bind_some, hdrop', scanNextWord_version hvs,
    scanPath_append hpath hds hvs.endsHere, String.ofList_toList]
  rfl

/-- Without an arrow there is no target. -/
theorem target?_eq_none (h : Avoids '=' '>' cs) : target? cs = none := by
  rw [target?, Text.afterFront?]
  split
  · next hfront =>
    obtain ⟨rest, hrest⟩ := List.isPrefixOf_iff_prefix.mp hfront
    have hsuffix : dropBlanks cs <:+ cs := List.dropWhile_suffix _
    have harrow : Avoids '=' '>' ("=>".toList ++ rest) := hrest ▸ h.suffix hsuffix
    obtain ⟨harrow, -, -⟩ := avoids_append.mp harrow
    exact absurd harrow (by decide)
  · rfl

/-- No path has an arrow. -/
theorem SpellsPath.avoids_arrow (hpath : IsToken path) (h : SpellsPath path cs) :
    Avoids '=' '>' cs := by
  obtain rfl | rfl := h
  · exact hpath.noArrow
  · have hopen : Avoids '=' '>' (['"'] ++ path.toList) := by
      refine avoids_append.mpr ⟨.singleton _, hpath.noArrow, ?_⟩
      rintro _ ⟨⟩ _ _ ⟨⟨⟩, -⟩
    refine avoids_append.mpr ⟨hopen, .singleton _, ?_⟩
    rintro _ _ _ ⟨⟩ ⟨-, ⟨⟩⟩

theorem SpellsVersion.avoids_arrow (h : SpellsVersion version? ds) (hcs : Avoids '=' '>' cs) :
    Avoids '=' '>' (cs ++ ds) := by
  cases h with
  | none => rwa [List.append_nil]
  | some hversion hne hgap =>
    rw [← List.append_assoc]
    exact hcs.append_gap hversion.noArrow hgap rfl rfl hne

/-- No target has an arrow. -/
theorem SpellsTarget.avoids_arrow (h : SpellsTarget path version? cs) :
    Avoids '=' '>' ('>' :: cs) := by
  obtain ⟨hpath, gap, ds, vs, hgap, hds, hvs, rfl⟩ := h
  have hds' := hds.avoids_arrow hpath
  have hbehind : Avoids '=' '>' (['>'] ++ gap ++ ds) := by
    by_cases hne : gap = []
    · rw [hne, List.append_nil]
      refine avoids_append.mpr ⟨.singleton _, hds', ?_⟩
      rintro _ ⟨⟩ _ _ ⟨⟨⟩, -⟩
    · exact Avoids.append_gap (.singleton _) hds' hgap rfl rfl hne
  exact hvs.avoids_arrow hbehind

/-- The last of some places is tried first. -/
theorem findSome?_reverse_range {α : Type} {f : Nat → Option α} {n : Nat} {a : α}
    (h : f n = some a) : (List.range (n + 1)).reverse.findSome? f = some a := by
  rw [List.range_succ, List.reverse_append]
  simp [h]

/-- A version in front of the arrow is passed over. -/
theorem targetBehindVersion?_version (hversion : IsToken version) (hne : gap ≠ [])
    (hgap : IsGap gap) (hne' : gap' ≠ []) (hgap' : IsGap gap')
    (h : SpellsTarget path version? cs) :
    targetBehindVersion? (gap ++ version.toList ++ (gap' ++ "=>".toList ++ cs)) =
      some (path, version?) := by
  have hword : version.toList ≠ [] := by simpa using hversion.ne_empty
  have hrest : EndsHere (gap' ++ "=>".toList ++ cs) := by
    rw [List.append_assoc]
    exact .append hne' hgap' _
  have hscan := scanNextWord_append hne hgap hword (fun c hc => (hversion.plain c hc).1) hrest
  obtain ⟨n, hn⟩ : ∃ n, version.toList.length = n + 1 :=
    Nat.exists_eq_add_one_of_ne_zero (by simpa using hword)
  -- the place that is tried first is the end of the version
  have hcut : target? (version.toList.drop (n + 1) ++ (gap' ++ "=>".toList ++ cs)) =
      some (path, version?) := by
    rw [List.drop_of_length_le hn.le, List.nil_append, target?_append h hgap']
  rw [targetBehindVersion?, List.append_assoc, hscan]
  simp only [hn, List.findSome?_map]
  rw [findSome?_reverse_range (n := n) (by simpa using hcut)]

/-- Without a version the word in front of the target is the arrow itself, and none of the places in
it leaves an arrow. -/
theorem targetBehindVersion?_arrow (hgap : IsGap gap) (h : SpellsTarget path version? cs) :
    targetBehindVersion? (gap ++ "=>".toList ++ cs) = some (path, version?) := by
  have htarget := target?_append h hgap
  rw [targetBehindVersion?]
  by_cases hne : gap = []
  · subst hne
    exact htarget
  have hdrop : dropBlanks (gap ++ "=>".toList ++ cs) = '=' :: '>' :: cs := by
    rw [List.append_assoc]
    refine dropBlanks_append hgap ?_
    rintro _ ⟨⟩
    rfl
  have hscan : scanNextWord (gap ++ "=>".toList ++ cs) =
      some (('=' :: '>' :: cs).takeWhile (!isBlank ·),
        ('=' :: '>' :: cs).dropWhile (!isBlank ·)) := by
    obtain ⟨c, gap, rfl⟩ := List.exists_cons_of_ne_nil hne
    rw [List.append_assoc, List.cons_append, scanNextWord, ← List.cons_append, ← List.append_assoc,
      hdrop]
    simp [hgap c (.head _)]
  rw [hscan]
  -- the arrow itself is taken for a version first; no end of it has a target behind it
  have hnone : ((List.range (('=' :: '>' :: cs).takeWhile (!isBlank ·)).length).reverse.map fun n =>
      (('=' :: '>' :: cs).takeWhile (!isBlank ·)).drop (n + 1) ++
        ('=' :: '>' :: cs).dropWhile (!isBlank ·)).findSome? target? = none := by
    rw [List.findSome?_eq_none_iff]
    intro ds hds
    simp only [List.mem_map, List.mem_reverse, List.mem_range] at hds
    obtain ⟨n, hn, rfl⟩ := hds
    rw [← List.drop_append_of_le_length hn, List.takeWhile_append_dropWhile]
    exact target?_eq_none (List.IsChain.drop h.avoids_arrow n)
  simp only [hnone, htarget]

/-- What is read in front of a target is the longest path that leaves it there. -/
theorem replacement?_of_target {old : String} {behind : List Char} (rest : List Char)
    (hold : IsToken old)
    (hline : dropQuote cs = old.toList ++ rest) (hrest : ∀ c ∈ rest.head?, isPathChar c = false)
    (hbehind : dropQuote rest = behind)
    (h : targetBehindVersion? behind = some (path, version?)) :
    replacement? cs = some (old, path, version?) := by
  obtain ⟨n, hn⟩ : ∃ n, old.toList.length = n + 1 :=
    Nat.exists_eq_add_one_of_ne_zero (by simpa using hold.ne_empty)
  have hdrop : (old.toList ++ rest).drop (n + 1) = rest := by
    rw [← hn, List.drop_left]
  have htake : old.toList.take (n + 1) = old.toList := List.take_of_length_le hn.le
  simp only [replacement?, hline, takeWhile_append_of_stop hold.isPathChar hrest, hn]
  refine findSome?_reverse_range ?_
  simp only [hdrop, hbehind, h, htake, Option.map_some, String.ofList_toList]

/-- **A replacement is read as it was written.** Between the replaced path and the arrow there are
blanks, unless the path is in quotes and has no version. -/
theorem replacement?_append {old : String} {os vs : List Char} (hold : IsToken old)
    (hos : SpellsPath old os) (hvs : SpellsVersion version'? vs) (hgap : IsGap gap)
    (hapart : gap ≠ [] ∨ version'? = none ∧ os ≠ old.toList)
    (h : SpellsTarget path version? cs) :
    replacement? (os ++ (vs ++ (gap ++ "=>".toList ++ cs))) = some (old, path, version?) := by
  have htarget : targetBehindVersion? (vs ++ (gap ++ "=>".toList ++ cs)) =
      some (path, version?) := by
    cases hvs with
    | none => exact targetBehindVersion?_arrow hgap h
    | some hversion hne hgap' =>
      obtain hne' | ⟨hnone, -⟩ := hapart
      · exact targetBehindVersion?_version hversion hne hgap' hne' hgap h
      · cases hnone
  obtain rfl | rfl := hos
  · -- a path without quotes ends at a blank
    have hne : gap ≠ [] := hapart.resolve_right fun h => h.2 rfl
    have hends : EndsHere (vs ++ (gap ++ "=>".toList ++ cs)) := by
      cases hvs with
      | none =>
        rw [List.nil_append, List.append_assoc]
        exact .append hne hgap _
      | some _ hne' hgap' =>
        rw [List.append_assoc]
        exact .append hne' hgap' _
    exact replacement?_of_target _ hold (hold.dropQuote _) (isPathChar_of_endsHere hends)
      (dropQuote_of_endsHere hends) htarget
  · refine replacement?_of_target ('"' :: (vs ++ (gap ++ "=>".toList ++ cs))) hold ?_ ?_ rfl htarget
    · simp [dropQuote]
    · rintro _ ⟨⟩
      rfl

end GoMocks.GoModule
