import GoMocks.Config
import GoMocks.Publish
import Mathlib

/-!
# Paths — the places they lead to

A path is kept as it was written, with idle parts and repeated slashes. What matters of it is the
place it leads to.

* `IsFileName`, `Location.IsProper`: the names that places are made of.
* `Path.LeadsTo`: an absolute path leads to a place by names and idle parts.
* `Path.LeadsTo.directoryOf`: the directory of a path leads to the place around the path's own.
* `Path.leadsTo_outputPath`: a mock file lies in the output directory next to its source, however
  that directory is spelled.
-/

namespace GoMocks

/-! ### Names -/

/-- May something in a directory have the name? It is not empty, no detour, and has no slash. -/
def IsFileName (name : String) : Prop :=
  Path.idle name.toList = false ∧ name.toList ≠ ['.', '.'] ∧ '/' ∉ name.toList

instance (name : String) : Decidable (IsFileName name) :=
  inferInstanceAs (Decidable (_ ∧ _ ∧ _))

/-- Do only names of files and directories lead to the place? -/
def Location.IsProper (l : Location) : Prop :=
  ∀ name ∈ l, IsFileName name

instance (l : Location) : Decidable l.IsProper :=
  inferInstanceAs (Decidable (∀ name ∈ l, _))

theorem IsFileName.ne_nil {name : String} (h : IsFileName name) : name.toList ≠ [] :=
  fun e => by simp [IsFileName, Path.idle, e] at h

theorem IsFileName.getLast?_ne {name : String} (h : IsFileName name) :
    name.toList.getLast? ≠ some '/' :=
  fun e => h.2.2 (List.mem_of_getLast? e)

namespace Path

/-! ### Parts -/

theorem not_mem_of_mem_splitOn {cs part : List Char} (h : part ∈ cs.splitOn '/') : '/' ∉ part := by
  induction cs generalizing part with
  | nil =>
    rw [List.splitOn_nil, List.mem_singleton] at h
    exact h ▸ List.not_mem_nil
  | cons c cs ih =>
    rw [List.splitOn, List.splitOnP_cons_eq_if_modifyHead] at h
    split at h
    · rcases List.mem_cons.mp h with rfl | h
      · exact List.not_mem_nil
      · exact ih h
    · next hc =>
      change part ∈ (List.splitOn '/' cs).modifyHead _ at h
      cases hs : cs.splitOn '/' with
      | nil => simp [hs] at h
      | cons first rest =>
        rw [hs, List.modifyHead_cons, List.mem_cons] at h
        rcases h with rfl | h
        · have hfirst : '/' ∉ first := ih (hs ▸ List.mem_cons_self)
          have hne : c ≠ '/' := fun e => hc (by simp [e])
          simp [hne.symm, hfirst]
        · exact ih (hs ▸ List.mem_cons_of_mem _ h)

theorem splitOn_append (cs ds : List Char) :
    (cs ++ '/' :: ds).splitOn '/' = cs.splitOn '/' ++ ds.splitOn '/' :=
  List.splitOnP_append_cons cs ds (by simp)

theorem splitOn_intercalate_flatMap (s : String) (m : List String) :
    (['/'].intercalate ((s :: m).map String.toList)).splitOn '/' =
      (s :: m).flatMap fun s => s.toList.splitOn '/' := by
  induction m generalizing s with
  | nil => simp
  | cons s' m ih =>
    rw [List.map_cons, List.map_cons, List.intercalate_cons_cons, List.append_assoc,
      List.singleton_append, splitOn_append, ← List.map_cons, ih]
    rfl

/-- The text of a location: its names, with a slash in front of each. -/
theorem toList_path (l : Location) :
    l.path.text.toList = '/' :: ['/'].intercalate (l.map String.toList) := by
  simp [Location.path]

@[simp]
theorem isAbsolute_path (l : Location) : l.path.isAbsolute = true := by
  simp [isAbsolute, toList_path]

/-- The parts of a path whose text is made of some texts between slashes. -/
theorem parts_path {l : Location} (h : l ≠ []) :
    l.path.parts = l.flatMap fun s => s.toList.splitOn '/' := by
  obtain ⟨s, m, rfl⟩ := List.exists_cons_of_ne_nil h
  rw [parts, if_pos (isAbsolute_path _), toList_path, List.tail_cons, splitOn_intercalate_flatMap]

theorem parts_path_nil : (Location.path []).parts = [[]] := rfl

theorem intercalate_concat {xs : List (List Char)} (h : xs ≠ []) (x : List Char) :
    ['/'].intercalate (xs ++ [x]) = ['/'].intercalate xs ++ '/' :: x := by
  induction xs with
  | nil => exact absurd rfl h
  | cons y ys ih =>
    cases ys with
    | nil => simp
    | cons z zs =>
      rw [List.cons_append, List.cons_append, List.intercalate_cons_cons, ← List.cons_append,
        ih (List.cons_ne_nil z zs), List.intercalate_cons_cons]
      simp

/-- A name is added behind a slash. -/
theorem toList_path_concat {l : Location} (h : l ≠ []) (s : String) :
    (Location.path (l ++ [s])).text.toList = l.path.text.toList ++ '/' :: s.toList := by
  rw [toList_path, toList_path, List.map_append, List.map_singleton,
    intercalate_concat (by simpa using h), List.cons_append]

theorem getLast?_path {s : String} (h : s.toList ≠ []) (l : Location) :
    (Location.path (l ++ [s])).text.toList.getLast? = s.toList.getLast? := by
  obtain ⟨c, cs, hs⟩ := List.exists_cons_of_ne_nil h
  rcases eq_or_ne l [] with rfl | hl
  · simp [toList_path, hs, List.getLast?_cons]
  · rw [toList_path_concat hl, hs, List.getLast?_append, List.getLast?_cons_cons]
    simp [List.getLast?_cons]

/-- A slash comes between the joined paths where the first does not end with one. -/
theorem path_child {l : Location} {q : String} (hq : (Path.mk q).isAbsolute = false)
    (hl : ∀ s ∈ l.getLast?, s.toList ≠ [] ∧ s.toList.getLast? ≠ some '/') :
    l.path.child q = Location.path (l ++ [q]) := by
  rcases List.eq_nil_or_concat l with rfl | ⟨m, s, rfl⟩
  · simp [child, join, hq, Location.path]
  · rw [List.concat_eq_append] at hl ⊢
    obtain ⟨hne, hlast⟩ := hl s (by simp)
    have htext : (Location.path (m ++ [s])).text.isEmpty = false := by
      simp [← String.toList_eq_nil_iff, toList_path]
    rw [child, join, hq, htext, if_neg (by simp), if_neg (getLast?_path hne m ▸ hlast)]
    refine congrArg Path.mk (String.toList_injective ?_)
    change _ = (Location.path (m ++ [s] ++ [q])).text.toList
    rw [toList_path_concat (by simp)]
    simp

/-- A slash at the end of a name is not doubled. -/
theorem path_child_of_slash {q : String} (hq : (Path.mk q).isAbsolute = false) (l : Location)
    (s : String) :
    (Location.path (l ++ [s ++ "/"])).child q = Location.path (l ++ [s, q]) := by
  have htext : (Location.path (l ++ [s ++ "/"])).text.isEmpty = false := by
    simp [← String.toList_eq_nil_iff, toList_path]
  have hends : (Location.path (l ++ [s ++ "/"])).text.toList.getLast? = some '/' := by
    rw [getLast?_path (by simp)]
    simp
  rw [child, join, hq, htext, if_neg (by simp), if_pos hends]
  refine congrArg Path.mk (String.toList_injective ?_)
  change _ = (Location.path (l ++ [s, q])).text.toList
  rw [show l ++ [s, q] = l ++ [s] ++ [q] by simp, toList_path_concat (by simp)]
  rcases eq_or_ne l [] with rfl | hl
  · simp [toList_path]
  · rw [toList_path_concat hl, String.toList_append, toList_path_concat hl]
    simp

/-! ### Idle parts -/

/-- Nothing is trimmed behind a part that is not idle. -/
theorem trimIdleEnd_concat {part : List Char} (h : idle part = false) (ps : List (List Char)) :
    trimIdleEnd (ps ++ [part]) = ps ++ [part] := by
  simp [trimIdleEnd, h]

/-- Only the end is trimmed. -/
theorem trimIdleEnd_isPrefix (ps : List (List Char)) : trimIdleEnd ps <+: ps := by
  rw [← List.reverse_suffix, trimIdleEnd, List.reverse_reverse]
  exact List.dropWhile_suffix idle

theorem filter_trimIdleEnd (ps : List (List Char)) :
    (trimIdleEnd ps).filter (fun part => !idle part) = ps.filter fun part => !idle part := by
  have hreverse : ∀ qs : List (List Char),
      (qs.dropWhile idle).filter (fun part => !idle part) = qs.filter fun part => !idle part := by
    intro qs
    induction qs with
    | nil => rfl
    | cons q qs ih => by_cases hq : idle q <;> simp [hq, ih]
  rw [trimIdleEnd, List.filter_reverse, hreverse, ← List.filter_reverse, List.reverse_reverse]

/-- What is left ends in a part that is not idle. -/
theorem getLast?_trimIdleEnd {ps : List (List Char)} {part : List Char}
    (h : (trimIdleEnd ps).getLast? = some part) : idle part = false := by
  rw [trimIdleEnd, List.getLast?_reverse] at h
  have hfirst := List.head?_dropWhile_not idle ps.reverse
  rwa [h] at hfirst

/-! ### Where a path leads -/

/-- An absolute path leads to a place by the names on the way to it. There may be idle parts among
them, but none behind the last. -/
structure LeadsTo (p : Path) (l : Location) : Prop where
  absolute : p.isAbsolute = true
  names    : (p.parts.filter fun part => !idle part) = l.map String.toList
  proper   : l.IsProper
  last     : l ≠ [] → ∀ part ∈ p.parts.getLast?, idle part = false

/-- The place that an absolute path leads to, when it has no detours. -/
def location (p : Path) : Location :=
  (p.parts.filter fun part => !idle part).map .ofList

/-- A path that leads to a location has it. -/
theorem LeadsTo.location_eq {p : Path} {l : Location} (h : p.LeadsTo l) : p.location = l := by
  simp [location, h.names, Function.comp_def]

/-- The parts of a proper location are its names. -/
theorem parts_path_of_isProper {l : Location} (h : l.IsProper) (hne : l ≠ []) :
    l.path.parts = l.map String.toList := by
  rw [parts_path hne, List.flatMap_congr fun s hs => List.splitOn_eq_singleton (h s hs).2.2,
    ← List.map_eq_flatMap]

/-- The path of a place leads to it. -/
theorem leadsTo_path {l : Location} (h : l.IsProper) : l.path.LeadsTo l := by
  refine ⟨isAbsolute_path l, ?_, h, fun hne part hpart => ?_⟩
  · rcases eq_or_ne l [] with rfl | hne
    · rfl
    · rw [parts_path_of_isProper h hne, List.filter_eq_self.mpr]
      exact List.forall_mem_map.mpr fun name hname => by simp [(h name hname).1]
  · rw [parts_path_of_isProper h hne] at hpart
    obtain ⟨name, hname, rfl⟩ := List.mem_map.mp (List.mem_of_getLast? hpart)
    exact (h name hname).1

/-- A path that leads to a location does not begin with a dot. -/
theorem LeadsTo.opensHere_eq {p : Path} {l : Location} (h : p.LeadsTo l) : p.opensHere = false := by
  simp [opensHere, h.absolute]

/-- A path made of parts has them. -/
theorem parts_ofParts {ps : List (List Char)} (h : ∀ part ∈ ps, '/' ∉ part) (hne : ps ≠ []) :
    (ofParts true ps).parts = ps := by
  rw [parts, if_pos (by simp [isAbsolute, ofParts])]
  simpa [ofParts] using List.splitOn_intercalate '/' h hne

/-- The last part is the name of the place, and those before it lead to the place around it. -/
theorem LeadsTo.exists_parts {p : Path} {l : Location} {name : String}
    (h : p.LeadsTo (l ++ [name])) :
    ∃ front, p.parts = front ++ [name.toList] ∧
      (front.filter fun part => !idle part) = l.map String.toList := by
  have hnames := h.names
  rcases List.eq_nil_or_concat p.parts with hparts | ⟨front, part, hparts⟩
  · simp [hparts] at hnames
  · rw [List.concat_eq_append] at hparts
    have hpart : idle part = false := h.last (by simp) part (by simp [hparts])
    rw [hparts, List.filter_append, List.filter_cons_of_pos (by simp [hpart]), List.filter_nil,
      List.map_append] at hnames
    obtain ⟨hfront, hlast⟩ := List.append_inj' hnames rfl
    exact ⟨front, by rw [hparts, hlast, List.map_singleton], hfront⟩

/-- The directory of a path leads to the place around the path's own. -/
theorem LeadsTo.directoryOf {p : Path} {l : Location} {name : String}
    (h : p.LeadsTo (l ++ [name])) : (FileTree.directoryOf p).LeadsTo l := by
  obtain ⟨front, hparts, hfront⟩ := h.exists_parts
  have hname : idle name.toList = false := (h.proper name (by simp)).1
  have hproper : l.IsProper := fun s hs => h.proper s (List.mem_append_left _ hs)
  have htrimmed := (filter_trimIdleEnd front).trans hfront
  have hparent : p.parent? = some (ofParts true (trimIdleEnd front)) := by
    rw [parent?, h.opensHere_eq, if_neg (by simp), hparts, trimIdleEnd_concat hname, h.absolute]
    simp
  have hdir : FileTree.directoryOf p = ofParts true (trimIdleEnd front) := by
    rw [FileTree.directoryOf, hparent]
    simp [ofParts, ← String.toList_eq_nil_iff]
  rw [hdir]
  rcases eq_or_ne (trimIdleEnd front) [] with hnil | hne
  · obtain rfl : l = [] := by simpa [hnil] using htrimmed.symm
    rw [hnil]
    exact leadsTo_path hproper
  have hslash : ∀ part ∈ trimIdleEnd front, '/' ∉ part := by
    intro part hpart
    have hmem : part ∈ p.parts :=
      hparts ▸ List.mem_append_left _ ((trimIdleEnd_isPrefix front).subset hpart)
    exact not_mem_of_mem_splitOn hmem
  refine ⟨by simp [isAbsolute, ofParts], ?_, hproper, fun _ part hpart => ?_⟩
  · rw [parts_ofParts hslash hne, htrimmed]
  · rw [parts_ofParts hslash hne] at hpart
    exact getLast?_trimIdleEnd hpart

/-! ### Mock files -/

/-- The name of the directory that an output directory stands for. -/
def directoryName (outputDir : String) : String :=
  match (Path.mk outputDir).components with
  | [.normal name] => name
  | _              => outputDir

/-- Parts that are one name are that name and idle parts. -/
theorem filter_of_filterMap_eq {ps : List (List Char)} {name : String}
    (h : ps.filterMap componentOf? = [.normal name]) (hslash : ∀ part ∈ ps, '/' ∉ part) :
    IsFileName name ∧ (ps.filter fun part => !idle part) = [name.toList] := by
  obtain ⟨front, part, back, rfl, hfront, hpart, hback⟩ := List.filterMap_eq_cons_iff.mp h
  have hidle : ∀ part, componentOf? part = none ↔ idle part = true := by
    intro part
    by_cases hpart : idle part = true
    · simp [componentOf?, hpart]
    · by_cases hparent : part = ['.', '.'] <;> simp [componentOf?, hpart, hparent]
  have hnone : ∀ ps : List (List Char), (∀ part ∈ ps, componentOf? part = none) →
      ps.filter (fun part => !idle part) = [] := fun ps hps =>
    List.filter_eq_nil_iff.mpr fun part hpart => by simp [(hidle part).mp (hps part hpart)]
  rw [componentOf?] at hpart
  split at hpart
  · exact nomatch hpart
  next hpartIdle =>
    split at hpart
    · exact nomatch hpart
    next hparent =>
      obtain rfl : String.ofList part = name := by simpa using hpart
      have hname : IsFileName (.ofList part) := by
        refine ⟨?_, ?_, ?_⟩ <;> rw [String.toList_ofList]
        · simpa using hpartIdle
        · exact hparent
        · exact hslash part (by simp)
      refine ⟨hname, ?_⟩
      rw [List.filter_append, List.filter_cons_of_pos (by simpa using hpartIdle), hnone front hfront,
        hnone back (List.filterMap_eq_nil_iff.mp hback), String.toList_ofList]
      rfl

/-- An output directory that is one name is a relative path of this name and idle parts. -/
theorem of_isDirectoryName {outputDir : String} (h : Config.isDirectoryName outputDir = true) :
    (Path.mk outputDir).isAbsolute = false ∧ IsFileName (directoryName outputDir) ∧
      ((outputDir.toList.splitOn '/').filter fun part => !idle part) =
        [(directoryName outputDir).toList] := by
  rw [Config.isDirectoryName] at h
  split at h
  · next name hname =>
    have hdirectory : directoryName outputDir = name := by rw [directoryName, hname]
    cases habsolute : (Path.mk outputDir).isAbsolute with
    | true => simp [components, habsolute] at hname
    | false =>
      cases hopens : (Path.mk outputDir).opensHere with
      | true => simp [components, habsolute, hopens] at hname
      | false =>
        have hparts : (Path.mk outputDir).parts = outputDir.toList.splitOn '/' := by
          rw [parts, habsolute, if_neg (by simp)]
        simp only [components, habsolute, hopens, hparts, Bool.false_eq_true, if_false,
          List.nil_append] at hname
        rw [hdirectory]
        exact ⟨rfl, filter_of_filterMap_eq hname fun part => not_mem_of_mem_splitOn⟩
  · exact nomatch h

theorem parent?_path {l : Location} {name : String} (h : (l ++ [name]).IsProper) :
    (Location.path (l ++ [name])).parent? = some l.path := by
  have hl : l.IsProper := fun s hs => h s (List.mem_append_left _ hs)
  have htrim : trimIdleEnd (l.map String.toList) = l.map String.toList := by
    rcases List.eq_nil_or_concat l with rfl | ⟨m, s, rfl⟩
    · rfl
    · rw [List.concat_eq_append, List.map_append]
      exact trimIdleEnd_concat (hl s (by simp)).1 _
  rw [parent?, (leadsTo_path h).opensHere_eq, if_neg (by simp),
    parts_path_of_isProper h (by simp), List.map_append, List.map_singleton,
    trimIdleEnd_concat (h name (by simp)).1, isAbsolute_path]
  simp [htrim, ofParts, Location.path, String.ext_iff]

theorem fileName?_path {l : Location} {name : String} (h : (l ++ [name]).IsProper) :
    (Location.path (l ++ [name])).fileName? = some name := by
  have hname : IsFileName name := h name (by simp)
  have hcomponent : componentOf? name.toList = some (.normal name) := by
    rw [componentOf?, if_neg (by simp [hname.1]), if_neg hname.2.1, String.ofList_toList]
  have hlast : ([name].map String.toList).filterMap componentOf? = [.normal name] := by
    simp [hcomponent]
  rw [fileName?, components, parts_path_of_isProper h (by simp), List.map_append,
    List.filterMap_append, hlast, ← List.append_assoc, List.getLast?_concat]

/-- A slash at the end adds an idle part only. -/
theorem toList_splitOn_slash {s : String} (h : s.toList.getLast? = some '/') :
    ∃ s' : String, s = s' ++ "/" ∧
      ((s.toList.splitOn '/').filter fun part => !idle part) =
        (s'.toList.splitOn '/').filter fun part => !idle part := by
  obtain ⟨cs, hcs⟩ := List.getLast?_eq_some_iff.mp h
  refine ⟨.ofList cs, String.toList_injective (by simp [hcs]), ?_⟩
  rw [hcs, splitOn_append, List.splitOn_nil, List.filter_append, String.toList_ofList]
  simp [idle]

theorem isAbsolute_of_isFileName {name : String} (h : IsFileName name) :
    (Path.mk name).isAbsolute = false := by
  have hne : name.toList.head? ≠ some '/' := fun e => h.2.2 (List.mem_of_head? e)
  simpa [isAbsolute] using hne

/-- A name spelled with idle parts leads to the same location. -/
theorem leadsTo_of_filter_eq {l : Location} {s n name : String}
    (h : (l ++ [n, name]).IsProper)
    (hs : ((s.toList.splitOn '/').filter fun part => !idle part) = [n.toList]) :
    (Location.path (l ++ [s, name])).LeadsTo (l ++ [n, name]) := by
  have hl : ∀ t ∈ l, t.toList.splitOn '/' = [t.toList] := fun t ht =>
    List.splitOn_eq_singleton (h t (List.mem_append_left _ ht)).2.2
  have hname : IsFileName name := h name (by simp)
  have hparts : (Location.path (l ++ [s, name])).parts =
      l.map String.toList ++ s.toList.splitOn '/' ++ [name.toList] := by
    rw [parts_path (by simp), List.flatMap_append, List.flatMap_congr hl, ← List.map_eq_flatMap]
    simp [List.splitOn_eq_singleton hname.2.2]
  have hfront : (l.map String.toList).filter (fun part => !idle part) = l.map String.toList :=
    List.filter_eq_self.mpr <| List.forall_mem_map.mpr fun t ht => by
      simp [(h t (List.mem_append_left _ ht)).1]
  refine ⟨isAbsolute_path _, ?_, h, fun _ part hpart => ?_⟩
  · rw [hparts, List.filter_append, List.filter_append, hfront, hs,
      List.filter_cons_of_pos (by simp [hname.1])]
    simp
  · rw [hparts, List.getLast?_concat] at hpart
    exact Option.some.inj hpart ▸ hname.1

/-- **A mock file lies in the output directory next to its source.** -/
theorem leadsTo_outputPath {l : Location} {name outputDir : String}
    (hdir : Config.isDirectoryName outputDir = true) (h : (l ++ [name]).IsProper) :
    (outputPath (Location.path (l ++ [name])) outputDir).LeadsTo
      (l ++ [directoryName outputDir, name]) := by
  obtain ⟨hrelative, hdirectory, hparts⟩ := of_isDirectoryName hdir
  have hname : IsFileName name := h name (by simp)
  have hproper : (l ++ [directoryName outputDir, name]).IsProper := by
    intro s hs
    rcases List.mem_append.mp hs with hs | hs
    · exact h s (List.mem_append_left _ hs)
    · rcases List.mem_pair.mp hs with rfl | rfl
      · exact hdirectory
      · exact hname
  have hlast : ∀ s ∈ l.getLast?, s.toList ≠ [] ∧ s.toList.getLast? ≠ some '/' := fun s hs =>
    let hs : IsFileName s := h s (List.mem_append_left _ (List.mem_of_getLast? hs))
    ⟨hs.ne_nil, hs.getLast?_ne⟩
  -- a slash behind the directory's name stands for the one the join would set
  have hjoined : ∃ s : String,
      (Location.path (l ++ [outputDir])).child name = Location.path (l ++ [s, name]) ∧
        ((s.toList.splitOn '/').filter fun part => !idle part) =
          [(directoryName outputDir).toList] := by
    by_cases hslash : outputDir.toList.getLast? = some '/'
    · obtain ⟨s, hs, hfilter⟩ := toList_splitOn_slash hslash
      exact ⟨s, hs ▸ path_child_of_slash (isAbsolute_of_isFileName hname) l s, hfilter ▸ hparts⟩
    · have hne : outputDir.toList ≠ [] := fun e => by simp [e, idle] at hparts
      refine ⟨outputDir, ?_, hparts⟩
      rw [path_child (isAbsolute_of_isFileName hname), List.append_assoc]
      · rfl
      · intro s hs
        obtain rfl : outputDir = s := by simpa using hs
        exact ⟨hne, hslash⟩
  obtain ⟨s, hjoined, hs⟩ := hjoined
  rw [outputPath, parent?_path h, fileName?_path h, Option.getD_some, path_child hrelative hlast]
  exact (congrArg (LeadsTo · _) hjoined).mpr (leadsTo_of_filter_eq hproper hs)

end Path
end GoMocks
