import GoMocks.Proofs.FileTree
import GoMocks.SourceFiles

/-!
# File trees — what is added to them

Mock files are added to a tree in some directories, which may be new themselves. Elsewhere
everything is still what it was.

* `FileTree.Keeps`: a later tree, in which files and directories are still what they were.
* `FileTree.Adds`: one that differs in the Go sources of some directories alone.
* `FileTree.Keeps.find`: paths still lead to where they led.
* `FileTree.Adds.file_iff`, `directory_iff`: what is still the same.
-/

namespace GoMocks.FileTree

variable {t t' t'' : FileTree} {l m : Location} {name : String} {e : Entry} {p : Path}
  {dirs : Location → Prop}

/-! ### What is kept -/

/-- Files are still files and directories are still directories. -/
structure Keeps (t t' : FileTree) : Prop where
  current   : t'.current = t.current
  directory : ∀ l, t.entry? l = some .directory → t'.entry? l = some .directory
  file      : ∀ l content, t.entry? l = some (.file content) →
    ∃ content', t'.entry? l = some (.file content')

theorem Keeps.refl (t : FileTree) : t.Keeps t := ⟨rfl, fun _ h => h, fun _ c h => ⟨c, h⟩⟩

theorem Keeps.trans (h : t.Keeps t') (h' : t'.Keeps t'') : t.Keeps t'' :=
  ⟨h'.current.trans h.current, fun l hl => h'.directory l (h.directory l hl), fun l c hl => by
    obtain ⟨c', hl'⟩ := h.file l c hl
    exact h'.file l c' hl'⟩

theorem Keeps.none (h : t.Keeps t') (hl : t'.entry? l = none) : t.entry? l = none := by
  rcases hentry : t.entry? l with _ | content | _
  · rfl
  · obtain ⟨content', hfile⟩ := h.file l content hentry
    exact nomatch hl.symm.trans hfile
  · exact nomatch hl.symm.trans (h.directory l hentry)

/-- A directory made where nothing was keeps the rest. -/
theorem keeps_put_directory (hne : l ≠ []) (hl : t.entry? l = none) :
    t.Keeps (t.put l .directory) := by
  refine ⟨rfl, fun m hm => ?_, fun m c hm => ⟨c, ?_⟩⟩ <;> rw [entry?_put hne]
  · split
    · rfl
    · exact hm
  · have hml : m ≠ l := by
      rintro rfl
      exact nomatch hm.symm.trans hl
    rw [if_neg hml, hm]

/-- A file put where there is no directory keeps the directories. -/
theorem keeps_put_file (hne : l ≠ []) (hl : t.entry? l ≠ some .directory) (content : ByteArray) :
    t.Keeps (t.put l (.file content)) := by
  refine ⟨rfl, fun m hm => ?_, fun m c hm => ?_⟩ <;> rw [entry?_put hne]
  · have hml : m ≠ l := by
      rintro rfl
      exact hl hm
    rw [if_neg hml, hm]
  · split
    · exact ⟨content, rfl⟩
    · exact ⟨c, hm⟩

/-- Only directories matter on the way. -/
theorem walk_of_directories
    (h : ∀ m, t.entry? m = some .directory → t'.entry? m = some .directory)
    {parts : List (List Char)} (hl : t.walk l parts = .ok m) : t'.walk l parts = .ok m := by
  induction parts generalizing l with
  | nil => exact hl
  | cons part rest ih =>
    rw [walk] at hl ⊢
    rcases hentry : t.entry? l with _ | content | _ <;> rw [hentry] at hl
    · cases hl
    · cases hl
    · rw [h l hentry]
      exact ih hl

/-- A place reached through directories is reached in a tree that has them too. -/
theorem place_of_directories (hcurrent : t'.current = t.current)
    (h : ∀ m, t.entry? m = some .directory → t'.entry? m = some .directory)
    (hl : t.place p = .ok l) : t'.place p = .ok l := by
  rw [place] at hl ⊢
  rw [start, hcurrent]
  split at hl
  · cases hl
  · next hne => rw [if_neg hne]; exact walk_of_directories h hl

/-- What is found at a path is the entry at its place. -/
theorem find_eq_ok_iff : t.find p = .ok (l, e) ↔ t.place p = .ok l ∧ t.entry? l = some e := by
  constructor
  · intro h
    refine ⟨?_, entry?_of_find h⟩
    rw [find] at h
    cases hplace : t.place p with
    | error fault => rw [hplace] at h; cases h
    | ok k =>
      rw [hplace] at h
      simp only [bind, Except.bind] at h
      split at h
      · rw [(Prod.mk.inj (Except.ok.inj h)).1]
      · cases h
  · rintro ⟨hplace, hentry⟩
    simp only [find, hplace, bind, Except.bind, hentry]
    rfl

/-- Paths still lead to where they led. -/
theorem Keeps.find (h : t.Keeps t') (hp : t.find p = .ok (l, e)) :
    ∃ e', t'.find p = .ok (l, e') ∧ (e = .directory → e' = .directory) := by
  obtain ⟨hplace, hentry⟩ := find_eq_ok_iff.mp hp
  have hplace' : t'.place p = .ok l := place_of_directories h.current h.directory hplace
  cases e with
  | directory =>
    exact ⟨.directory, find_eq_ok_iff.mpr ⟨hplace', h.directory l hentry⟩, fun _ => rfl⟩
  | file content =>
    obtain ⟨content', hfile⟩ := h.file l content hentry
    exact ⟨.file content', find_eq_ok_iff.mpr ⟨hplace', hfile⟩, fun he => by cases he⟩

theorem Keeps.find_directory (h : t.Keeps t') (hp : t.find p = .ok (l, .directory)) :
    t'.find p = .ok (l, .directory) := by
  obtain ⟨e, hfind, he⟩ := h.find hp
  rw [hfind, he rfl]

theorem Keeps.canonical (h : t.Keeps t') {q : Path} (hp : t.canonical p = .ok q) :
    t'.canonical p = .ok q := by
  rw [FileTree.canonical] at hp ⊢
  rcases hfind : t.find p with fault | ⟨l, e⟩ <;> rw [hfind] at hp
  · cases hp
  · obtain ⟨e', hfind', -⟩ := h.find hfind
    rw [hfind']
    exact hp

/-! ### What is added -/

/-- A later tree that differs in some directories alone: in their Go sources, and in that the
directories themselves may be new. -/
structure Adds (dirs : Location → Prop) (t t' : FileTree) : Prop where
  keeps   : t.Keeps t'
  changes : ∀ m, t'.entry? m = t.entry? m ∨
    (dirs m ∧ t.entry? m = none ∧ t'.entry? m = some .directory) ∨
    ∃ l name, dirs l ∧ isGoSource name = true ∧ m = l ++ [name] ∧
      ∃ content, t'.entry? m = some (.file content)

namespace Adds

theorem refl (dirs : Location → Prop) (t : FileTree) : t.Adds dirs t :=
  ⟨.refl t, fun _ => .inl rfl⟩

theorem trans (h : t.Adds dirs t') (h' : t'.Adds dirs t'') : t.Adds dirs t'' := by
  refine ⟨h.keeps.trans h'.keeps, fun m => ?_⟩
  rcases h'.changes m with hsame | ⟨hdirs, hnone, hmade⟩ | hwritten
  · rw [hsame]
    exact h.changes m
  · exact .inr (.inl ⟨hdirs, h.keeps.none hnone, hmade⟩)
  · exact .inr (.inr hwritten)

/-- The files of the other directories are the same, and so are those that are no Go sources. -/
theorem file_iff (h : t.Adds dirs t') (hl : dirs l → isGoSource name = false)
    {content : ByteArray} :
    t'.entry? (l ++ [name]) = some (.file content) ↔
      t.entry? (l ++ [name]) = some (.file content) := by
  rcases h.changes (l ++ [name]) with hsame | ⟨-, hnone, hmade⟩ | ⟨l', name', hdirs, hgo, hm, -⟩
  · rw [hsame]
  · simp [hnone, hmade]
  · obtain ⟨rfl, hname⟩ := List.append_inj' hm rfl
    obtain rfl := List.singleton_inj.mp hname
    rw [hl hdirs] at hgo
    cases hgo

/-- There are no other new directories. -/
theorem directory_iff (h : t.Adds dirs t') (hl : ¬ dirs l) :
    t'.entry? l = some .directory ↔ t.entry? l = some .directory := by
  rcases h.changes l with hsame | ⟨hdirs, -⟩ | ⟨l', name, -, -, rfl, content, hfile⟩
  · rw [hsame]
  · exact absurd hdirs hl
  · refine ⟨fun hmade => ?_, h.keeps.directory _⟩
    cases hfile.symm.trans hmade

theorem isFile_eq (h : t.Adds dirs t') (ht : t.IsSound) (ht' : t'.IsSound)
    (hp : p.LeadsTo (l ++ [name])) (hl : dirs l → isGoSource name = false) :
    t'.isFile p = t.isFile p := by
  have hiff : ∀ {t : FileTree}, t.IsSound →
      (t.isFile p = true ↔ ∃ content, t.entry? (l ++ [name]) = some (.file content)) := by
    intro t ht
    rw [isFile]
    constructor
    · intro hfile
      split at hfile
      · next hfind => exact ⟨_, ((ht.find_eq_ok_iff hp).mp hfind).2⟩
      · cases hfile
    · rintro ⟨content, hentry⟩
      rw [(ht.find_eq_ok_iff hp).mpr ⟨rfl, hentry⟩]
  rw [Bool.eq_iff_iff, hiff ht, hiff ht']
  exact exists_congr fun _ => h.file_iff hl

/-- Files that are the same have the same text. -/
theorem readText_eq (h : t.Adds dirs t') (ht : t.IsSound) (ht' : t'.IsSound)
    (hp : p.LeadsTo (l ++ [name])) (hl : dirs l → isGoSource name = false)
    (hfile : ∃ content, t.entry? (l ++ [name]) = some (.file content)) :
    t'.readText p = t.readText p := by
  obtain ⟨content, hentry⟩ := hfile
  rw [readText, readText, (ht.read_eq_ok_iff hp).mpr hentry,
    (ht'.read_eq_ok_iff hp).mpr ((h.file_iff hl).mpr hentry)]

end Adds

end GoMocks.FileTree
