import GoMocks.Proofs.FreshName
import GoMocks.Proofs.KeyOrder
import GoMocks.Proofs.Path

/-!
# File trees — what lies where

* `FileTree.entry?_put`, `take_put`: a change shows at its own place alone, and can be taken back.
* `FileTree.IsSound`: only names lead to places, and whatever lies somewhere lies in a directory.
* `FileTree.place_eq_ok_iff`: a path leads to its place through directories.
* `FileTree.makeDirectories_cases`: at most one directory is made below one that is there.
-/

namespace GoMocks

theorem mem_sortTexts {texts : List String} {text : String} :
    text ∈ sortTexts texts ↔ text ∈ texts := by
  have hinsert : ∀ (a b : String) (items : List String),
      b ∈ insertByKey id a items ↔ b = a ∨ b ∈ items := by
    intro a b items
    induction items with
    | nil => simp [insertByKey]
    | cons c rest ih =>
      rw [insertByKey]
      split
      · simp
      · split
        · rw [List.mem_cons, ih, List.mem_cons]
          exact or_left_comm
        · next hac hca =>
          have heq : c = a := le_antisymm (not_lt.mp hac) (not_lt.mp hca)
          simp [heq]
  suffices h : ∀ sorted, text ∈ texts.foldl (fun sorted a => insertByKey id a sorted) sorted ↔
      text ∈ texts ∨ text ∈ sorted by
    simpa [sortTexts, sortByKey] using h []
  induction texts with
  | nil => simp
  | cons a rest ih =>
    intro sorted
    rw [List.foldl_cons, ih, hinsert, List.mem_cons]
    tauto

/-- The name of a location in a directory. -/
theorem Location.nameIn?_eq_some_iff {l m : Location} {name : String} :
    l.nameIn? m = some name ↔ m = l ++ [name] := by
  induction l generalizing m with
  | nil => 
    rcases m with _ | ⟨a, _ | ⟨b, m⟩⟩ <;> simp [nameIn?]
  | cons a l ih =>
    cases m with
    | nil => simp [nameIn?]
    | cons b m =>
      rw [nameIn?]
      split
      · next hab => simp [hab, ih]
      · next hab => simp [Ne.symm hab]

/-- An idle part leads nowhere. -/
theorem Location.step_of_idle {part : List Char} (h : Path.idle part = true) (l : Location) :
    l.step part = l := by
  rw [step, if_pos h]

/-- A file name leads one level down. -/
theorem Location.step_of_isFileName {name : String} (h : IsFileName name) (l : Location) :
    l.step name.toList = l ++ [name] := by
  rw [step, if_neg (by simp [h.1]), if_neg h.2.1, String.ofList_toList]

namespace FileTree

variable {t : FileTree} {l m : Location} {e : Entry}

/-! ### Changes -/

theorem entry?_nil (t : FileTree) : t.entry? [] = some .directory := rfl

theorem lookup_filter_ne {l m : Location} (h : m ≠ l) (entries : List (Location × Entry)) :
    (entries.filter (·.1 != l)).lookup m = entries.lookup m := by
  induction entries with
  | nil => rfl
  | cons first rest ih =>
    obtain ⟨k, e⟩ := first
    rw [List.filter_cons, List.lookup_cons]
    split
    · rw [List.lookup_cons, ih]
    · next hk =>
      have hkl : k = l := by simpa using hk
      rw [ih, hkl, beq_eq_false_iff_ne.mpr h]

/-- An entry put is found where it was put, and nothing else changes. -/
theorem entry?_put (h : l ≠ []) (t : FileTree) (e : Entry) (m : Location) :
    FileTree.entry? (t.put l e) m = if m = l then some e else t.entry? m := by
  rcases eq_or_ne m l with rfl | hml
  · rw [if_pos rfl, entry?, if_neg h, put, List.lookup_cons_self]
  · rw [if_neg hml, entry?, entry?, put, List.lookup_cons, beq_eq_false_iff_ne.mpr hml]
    simp only [lookup_filter_ne hml]

/-- Nothing is at a location that no entry has. -/
theorem entry?_eq_none (h : l ≠ []) :
    t.entry? l = none ↔ ∀ e ∈ t.entries, e.1 ≠ l := by
  unfold entry?
  rw [if_neg h, List.lookup_eq_none_iff]
  exact forall₂_congr fun e _ => bne_iff_ne.trans ne_comm

/-- What was put at a place where nothing lay is taken away without a trace. -/
theorem take_put (h : ∀ e ∈ t.entries, e.1 ≠ l) (e : Entry) : (t.put l e).take l = t := by
  have hfilter : t.entries.filter (·.1 != l) = t.entries :=
    List.filter_eq_self.mpr fun e he => by simpa using h e he
  rw [put, take, List.filter_cons_of_neg (by simp), hfilter, hfilter]

theorem mem_namesAt {name : String} :
    name ∈ t.namesAt l ↔ t.entry? (l ++ [name]) ≠ none := by
  rw [namesAt, mem_sortTexts, ne_eq, entry?_eq_none (by simp)]
  simp [Location.nameIn?_eq_some_iff]

/-! ### Sound trees -/

/-- Only names of files and directories lead to places, and whatever lies at a place lies in a
directory. -/
structure IsSound (t : FileTree) : Prop where
  proper : ∀ {l}, t.entry? l ≠ none → l.IsProper
  parent : ∀ {l name}, t.entry? (l ++ [name]) ≠ none → t.entry? l = some .directory

theorem isSound_iff (t : FileTree) :
    t.IsSound ↔ ∀ e ∈ t.entries, e.1.IsProper ∧ (t.entry? e.1.dropLast matches some .directory) := by
  have hentry : ∀ l, t.entry? l ≠ none ↔ l = [] ∨ ∃ e ∈ t.entries, e.1 = l := by
    intro l
    rcases eq_or_ne l [] with rfl | hl
    · simp [entry?_nil]
    · rw [ne_eq, entry?_eq_none hl]
      simp [hl]
  have hdirectory : ∀ l, (t.entry? l matches some .directory) = true ↔
      t.entry? l = some .directory := by
    intro l
    rcases t.entry? l with _ | ⟨content⟩ | _ <;> simp
  constructor
  · refine fun h e he => ⟨h.proper ((hentry _).mpr (.inr ⟨e, he, rfl⟩)), (hdirectory _).mpr ?_⟩
    -- the root is its own `dropLast`
    rcases List.eq_nil_or_concat e.1 with hnil | ⟨l, name, hl⟩
    · rw [hnil]
      rfl
    · rw [hl, List.concat_eq_append, List.dropLast_concat]
      exact h.parent ((hentry _).mpr (.inr ⟨e, he, hl.trans List.concat_eq_append⟩))
  · refine fun h => ⟨fun hl => ?_, fun hl => ?_⟩
    · rcases (hentry _).mp hl with rfl | ⟨e, he, rfl⟩
      · exact fun name hname => nomatch hname
      · exact (h e he).1
    · obtain ⟨e, he, hl⟩ := ((hentry _).mp hl).resolve_left (by simp)
      have hparent := (hdirectory _).mp (h e he).2
      rwa [hl, List.dropLast_concat] at hparent

instance (t : FileTree) : Decidable t.IsSound :=
  decidable_of_iff _ (isSound_iff t).symm

/-- Above an entry of a sound tree there are directories only. -/
theorem IsSound.ancestor (h : t.IsSound) (hl : t.entry? l ≠ none) {a b : Location}
    (hab : l = a ++ b) (hb : b ≠ []) : t.entry? a = some .directory := by
  induction b using List.reverseRecOn generalizing l with
  | nil => exact absurd rfl hb
  | append_singleton b name ih =>
    have hparent : t.entry? (a ++ b) = some .directory :=
      h.parent (by rwa [List.append_assoc, ← hab])
    rcases eq_or_ne b [] with rfl | hb
    · simpa using hparent
    · exact ih (by simp [hparent]) rfl hb

/-- A directory may be entered into a directory, and a file too, where no directory lies. -/
theorem IsSound.put (h : t.IsSound) {name : String} (hname : IsFileName name)
    (hl : t.entry? l = some .directory)
    (he : e = .directory ∨ t.entry? (l ++ [name]) ≠ some .directory) :
    (t.put (l ++ [name]) e).IsSound := by
  have hentry := entry?_put (l := l ++ [name]) (by simp) t e
  refine ⟨fun {m} hm => ?_, fun {m n} hm => ?_⟩
  · rw [hentry] at hm
    split at hm
    · next heq =>
      intro s hs
      rcases List.mem_append.mp (heq ▸ hs) with hs | hs
      · exact h.proper (by simp [hl]) s hs
      · exact List.mem_singleton.mp hs ▸ hname
    · exact h.proper hm
  · have hparent : t.entry? m = some .directory := by
      rw [hentry] at hm
      split at hm
      · next heq => rwa [(List.append_inj' heq rfl).1]
      · exact h.parent hm
    rw [hentry]
    split
    · next heq =>
      rcases he with rfl | he
      · rfl
      · exact absurd (heq ▸ hparent) he
    · exact hparent

/-! ### Ways -/

/-- A way is followed part after part. -/
theorem walk_append (t : FileTree) (l : Location) (ps qs : List (List Char)) :
    t.walk l (ps ++ qs) = t.walk l ps >>= fun m => t.walk m qs := by
  induction ps generalizing l with
  | nil => rfl
  | cons part ps ih =>
    rw [List.cons_append, walk, walk]
    cases t.entry? l with
    | none => rfl
    | some e =>
      cases e with
      | file content => rfl
      | directory    => exact ih _

/-- A walk skips an idle part. -/
theorem walk_of_idle {part : List Char} (hpart : Path.idle part = true)
    (hl : t.entry? l = some .directory) (rest : List (List Char)) :
    t.walk l (part :: rest) = t.walk l rest := by
  simp only [walk, hl, Location.step_of_idle hpart]

/-- Idle parts change nothing, as long as a name follows them. -/
theorem walk_filter {ps : List (List Char)}
    (hlast : ∀ part ∈ ps.getLast?, Path.idle part = false) :
    t.walk l ps = t.walk l (ps.filter fun part => !Path.idle part) := by
  induction ps generalizing l with
  | nil => rfl
  | cons part rest ih =>
    have hrest : ∀ p ∈ rest.getLast?, Path.idle p = false := by
      intro p hp
      refine hlast p ?_
      rw [List.getLast?_cons, Option.mem_def.mp hp]
      rfl
    by_cases hpart : Path.idle part = true
    · rw [List.filter_cons_of_neg (by simp [hpart])]
      -- a name follows, so that both ways are barred by what is no directory
      obtain ⟨q, qs, hq⟩ : ∃ q qs, (rest.filter fun part => !Path.idle part) = q :: qs := by
        refine List.exists_cons_of_ne_nil fun hnil => ?_
        rcases List.eq_nil_or_concat rest with rfl | ⟨front, last, rfl⟩
        · exact absurd (hlast part (by simp)) (by simp [hpart])
        · have hlast : Path.idle last = false := hrest last (by simp)
          simp [hlast] at hnil
      cases hl : t.entry? l with
      | none => rw [hq]; simp only [walk, hl]
      | some e =>
        cases e with
        | file content => rw [hq]; simp only [walk, hl]
        | directory => rw [walk_of_idle hpart hl, ih hrest]
    · rw [List.filter_cons_of_pos (by simpa using hpart)]
      simp only [walk, ih hrest]

theorem walk_idles {ps : List (List Char)} (hps : ∀ part ∈ ps, Path.idle part = true)
    (hl : t.entry? l = some .directory) : t.walk l ps = .ok l := by
  induction ps with
  | nil => rfl
  | cons part rest ih =>
    obtain ⟨hpart, hrest⟩ := List.forall_mem_cons.mp hps
    rw [walk_of_idle hpart hl, ih hrest]

/-- A walk over file names ends right below where it began, and passes directories only. -/
theorem walk_names_eq_ok_iff {names : List String} (hnames : ∀ name ∈ names, IsFileName name)
    {l m : Location} :
    t.walk l (names.map String.toList) = .ok m ↔
      m = l ++ names ∧ ∀ a b, names = a ++ b → b ≠ [] → t.entry? (l ++ a) = some .directory := by
  induction names generalizing l with
  | nil =>
    refine ⟨fun h => ?_, fun h => ?_⟩
    · refine ⟨by simpa using (Except.ok.inj h).symm, fun a b hab hb => ?_⟩
      exact absurd (List.append_eq_nil_iff.mp hab.symm).2 hb
    · rw [h.1, List.append_nil]
      rfl
  | cons name names ih =>
    obtain ⟨hname, hnames⟩ := List.forall_mem_cons.mp hnames
    rw [List.map_cons, walk]
    have hstart : t.entry? l ≠ some .directory →
        ¬ ∀ a b, name :: names = a ++ b → b ≠ [] → t.entry? (l ++ a) = some .directory := by
      intro hl h
      exact hl (by simpa using h [] (name :: names) rfl (by simp))
    cases hl : t.entry? l with
    | none => exact iff_of_false nofun fun h => hstart (by simp [hl]) h.2
    | some e =>
      cases e with
      -- a walk goes on from directories only
      | file content => exact iff_of_false nofun fun h => hstart (by simp [hl]) h.2
      | directory =>
        rw [Location.step_of_isFileName hname, ih hnames, List.append_assoc, List.singleton_append]
        refine and_congr_right fun _ => ⟨fun h a b hab hb => ?_, fun h a b hab hb => ?_⟩
        · cases a with
          | nil => simpa using hl
          | cons s a =>
            obtain ⟨rfl, hnames⟩ := List.cons.inj hab
            simpa using h a b hnames hb
        · simpa using h (name :: a) b (by simp [hab]) hb

/-- **A path leads to its place through directories.** -/
theorem place_eq_ok_iff {p : Path} (hp : p.LeadsTo l) :
    t.place p = .ok m ↔
      m = l ∧ ∀ a b, l = a ++ b → b ≠ [] → t.entry? a = some .directory := by
  have htext : p.text.isEmpty = false := by
    cases hempty : p.text.isEmpty with
    | false => rfl
    | true =>
      have := hp.absolute
      simp [Path.isAbsolute, String.isEmpty_iff.mp hempty] at this
  have hwalk := walk_names_eq_ok_iff (t := t) hp.proper (l := []) (m := m)
  rw [place, htext, if_neg (by simp), start, if_pos hp.absolute]
  rcases eq_or_ne l [] with rfl | hne
  · have hidle : ∀ part ∈ p.parts, Path.idle part = true := by
      simpa using hp.names
    rw [walk_idles hidle t.entry?_nil]
    refine ⟨fun h => ⟨(Except.ok.inj h).symm, fun a b hab hb => ?_⟩, fun h => h.1 ▸ rfl⟩
    exact absurd (List.append_eq_nil_iff.mp hab.symm).2 hb
  · rw [walk_filter (hp.last hne), hp.names, hwalk]
    simp

/-- What is found is an entry. -/
theorem entry?_of_find {p : Path} (h : t.find p = .ok (l, e)) : t.entry? l = some e := by
  rw [find] at h
  cases hplace : t.place p with
  | error fault => rw [hplace] at h; exact nomatch h
  | ok k =>
    rw [hplace] at h
    simp only [bind, Except.bind] at h
    split at h
    · next he =>
      obtain ⟨rfl, rfl⟩ := Prod.mk.inj (Except.ok.inj h)
      exact he
    · exact nomatch h

/-- In a sound tree a path finds what lies at its place. -/
theorem IsSound.find_eq_ok_iff (h : t.IsSound) {p : Path} (hp : p.LeadsTo l) :
    t.find p = .ok (m, e) ↔ m = l ∧ t.entry? l = some e := by
  have hplace := fun m => place_eq_ok_iff (t := t) (m := m) hp
  rw [find]
  cases hwalk : t.place p with
  | error fault =>
    refine iff_of_false nofun fun ⟨_, hl⟩ => ?_
    have hok : t.place p = .ok l :=
      (hplace l).mpr ⟨rfl, fun a b hab hb => h.ancestor (by simp [hl]) hab hb⟩
    exact nomatch hwalk.symm.trans hok
  | ok k =>
    obtain ⟨rfl, -⟩ := (hplace k).mp hwalk
    simp only [bind, Except.bind]
    cases t.entry? k with
    | none => exact iff_of_false nofun fun h => nomatch h.2
    | some e' =>
      refine ⟨fun hok => ?_, fun ⟨hm, he⟩ => ?_⟩
      · obtain ⟨rfl, rfl⟩ := Prod.mk.inj (Except.ok.inj hok)
        exact ⟨rfl, rfl⟩
      · rw [hm, Option.some.inj he]
        rfl

/-- Reading a path that leads to a location reads the file there. -/
theorem IsSound.read_eq_ok_iff (h : t.IsSound) {p : Path} (hp : p.LeadsTo l) {content : ByteArray} :
    t.read p = .ok content ↔ t.entry? l = some (.file content) := by
  have hfind := fun m e => h.find_eq_ok_iff (m := m) (e := e) hp
  rw [read]
  cases hp' : t.find p with
  | error fault =>
    refine iff_of_false nofun fun hl => ?_
    exact nomatch hp'.symm.trans ((hfind l _).mpr ⟨rfl, hl⟩)
  | ok found =>
    obtain ⟨m, e⟩ := found
    obtain ⟨rfl, he⟩ := (hfind m e).mp hp'
    rw [he]
    cases e with
    | directory => exact iff_of_false nofun nofun
    | file found =>
      simp only [bind, Except.bind, pure, Except.pure, Except.ok.injEq, Option.some.injEq,
        Entry.file.injEq]

/-- A path that leads to a location holds the content of the file there. -/
theorem IsSound.holds_iff (h : t.IsSound) {p : Path} (hp : p.LeadsTo l) {content : ByteArray} :
    t.holds p content = true ↔ t.entry? l = some (.file content) := by
  rw [← h.read_eq_ok_iff hp, holds]
  cases t.read p with
  | error fault => exact iff_of_false nofun nofun
  | ok found => simp [ByteArray.ext_iff]

/-! ### Making directories -/

/-- On a way through directories that are there, nothing is made. -/
theorem makeWay_of_directories {refusal : Location → Option IoFault} {made : Bool}
    {front : List (List Char)} {names : List String}
    (hfront : (front.filter fun part => !Path.idle part) = names.map String.toList)
    (hnames : ∀ name ∈ names, IsFileName name)
    (hl : ∀ a b, names = a ++ b → t.entry? (l ++ a) = some .directory) (rest : List (List Char)) :
    t.makeWay refusal made l (front ++ rest) = t.makeWay refusal made (l ++ names) rest := by
  induction front generalizing l names with
  | nil =>
    obtain rfl : names = [] := by simpa using hfront.symm
    simp
  | cons part front ih =>
    have hstart : t.entry? l = some .directory := by simpa using hl [] names rfl
    by_cases hpart : Path.idle part = true
    · rw [List.filter_cons_of_neg (by simp [hpart])] at hfront
      rw [List.cons_append, makeWay, Location.step_of_idle hpart]
      simp only [hstart]
      exact ih hfront hnames hl
    · rw [List.filter_cons_of_pos (by simpa using hpart)] at hfront
      cases names with
      | nil => simp at hfront
      | cons name names =>
        obtain ⟨rfl, hrest⟩ := List.cons.inj hfront
        obtain ⟨hname, hnames⟩ := List.forall_mem_cons.mp hnames
        have hnext : t.entry? (l ++ [name]) = some .directory := hl [name] names rfl
        rw [List.cons_append, makeWay, Location.step_of_isFileName hname]
        simp only [hnext]
        have hdirs : ∀ a b, names = a ++ b → t.entry? (l ++ [name] ++ a) = some .directory :=
          fun a b hab => by simpa using hl (name :: a) b (by simp [hab])
        rw [ih hrest hnames hdirs, List.append_assoc, List.singleton_append]

/-- The directory next to a source is there, or it is made, or it stays missing. -/
theorem makeDirectories_cases (h : t.IsSound) {p : Path} {name : String}
    (hp : p.LeadsTo (l ++ [name])) (hl : t.entry? l = some .directory)
    (refusal : Location → Option IoFault) :
    (t.entry? (l ++ [name]) = some .directory ∧ t.makeDirectories refusal p = (t, .ok ())) ∨
      (t.entry? (l ++ [name]) = none ∧
        t.makeDirectories refusal p = (t.put (l ++ [name]) .directory, .ok ())) ∨
      ∃ fault, t.makeDirectories refusal p = (t, .error fault) := by
  obtain ⟨front, hparts, hfront⟩ := hp.exists_parts
  have hname : IsFileName name := hp.proper name (by simp)
  have hway : ∀ a b, l = a ++ b → t.entry? ([] ++ a) = some .directory := fun a b hab => by
    rcases eq_or_ne b [] with rfl | hb
    · simpa [hab] using hl
    · exact h.ancestor (by simp [hl]) hab hb
  -- every directory on the way to `l` stands, so only the last name can be made or refused
  rw [makeDirectories, start, if_pos hp.absolute, hparts,
    makeWay_of_directories hfront (fun s hs => hp.proper s (List.mem_append_left _ hs)) hway,
    List.nil_append, makeWay, Location.step_of_isFileName hname]
  cases hentry : t.entry? (l ++ [name]) with
  | none =>
    cases hrefusal : refusal (l ++ [name]) with
    | none => exact .inr (.inl ⟨rfl, rfl⟩)
    | some fault => exact .inr (.inr ⟨fault, rfl⟩)
  | some e =>
    cases e with
    | directory => exact .inl ⟨rfl, rfl⟩
    | file content => exact .inr (.inr ⟨_, rfl⟩)

end FileTree
end GoMocks
