import GoMocks.Dependency
import GoMocks.Proofs.FileTree

/-!
# Module files — the import paths of directories

The import path of a directory of a module is the path of the module and the names on the way down
from the module's own directory. So different directories have different import paths.

* `GoModule.exists_dir_of_find`: a module is found in the directory of its module file.
* `GoModule.find_eq_of_dir`: one directory belongs to one module.
* `GoModule.importPath?_path`: the import path of a directory.
* `GoModule.eq_of_importPath?`: no two directories have one.
* `GoModule.packageDir?_of_importPath?`: it leads back to its directory.
-/

namespace GoMocks

namespace Path

variable {l r : Location}

/-- The components of a proper location are its names behind the root. -/
theorem components_path (h : l.IsProper) : l.path.components = .root :: l.map .normal := by
  have hcomponent : ∀ name ∈ l, componentOf? name.toList = some (.normal name) := by
    intro name hname
    obtain ⟨hidle, hparent, -⟩ := h name hname
    rw [componentOf?, if_neg (by simp [hidle]), if_neg hparent, String.ofList_toList]
  rcases eq_or_ne l [] with rfl | hne
  · rfl
  · rw [components, if_pos (isAbsolute_path l), parts_path_of_isProper h hne, List.filterMap_map,
      Function.comp_def, List.filterMap_congr hcomponent, List.filterMap_eq_map']
    rfl

theorem dropParts_nil (n : Nat) : dropParts n [] = [] := by
  induction n with
  | zero => rfl
  | succ n ih => exact ih

/-- Dropping parts drops names. -/
theorem dropParts_names (h : l.IsProper) (n : Nat) :
    dropParts n (l.map String.toList) = (l.drop n).map String.toList := by
  induction n generalizing l with
  | zero => rfl
  | succ n ih =>
    cases l with
    | nil => exact dropParts_nil _
    | cons name l =>
      obtain ⟨⟨hidle, -⟩, hl⟩ := List.forall_mem_cons.mp h
      rw [List.map_cons, dropParts, List.dropWhile_cons_of_neg (by simp [hidle])]
      exact ih hl

theorem trimIdleEnd_names (h : l.IsProper) :
    trimIdleEnd (l.map String.toList) = l.map String.toList := by
  rcases List.eq_nil_or_concat l with rfl | ⟨front, name, rfl⟩
  · rfl
  · rw [List.concat_eq_append, List.map_append]
    exact trimIdleEnd_concat (h name (by simp)).1 _

theorem dropWhile_idle_names (h : l.IsProper) :
    (l.map String.toList).dropWhile idle = l.map String.toList := by
  cases l with
  | nil => rfl
  | cons name l =>
    rw [List.map_cons, List.dropWhile_cons_of_neg (by simp [(h name (.head _)).1])]

/-- A relative path that is made of names has them as its components. -/
theorem components_ofParts_names (h : l.IsProper) :
    (ofParts false (l.map String.toList)).components = l.map .normal := by
  cases l with
  | nil => rfl
  | cons name l =>
    have hname := h name (.head _)
    have hslash : ∀ part ∈ (name :: l).map String.toList, '/' ∉ part :=
      List.forall_mem_map.mpr fun s hs => (h s hs).2.2
    have htext : (ofParts false ((name :: l).map String.toList)).text.toList =
        ['/'].intercalate ((name :: l).map String.toList) := by
      simp [ofParts]
    have habsolute : (ofParts false ((name :: l).map String.toList)).isAbsolute = false := by
      obtain ⟨c, cs, hcs⟩ := List.exists_cons_of_ne_nil hname.ne_nil
      have hc : c ≠ '/' := fun e => hname.2.2 (by simp [hcs, e])
      rw [isAbsolute, htext]
      cases l <;> simp [hcs, hc]
    have hparts : (ofParts false ((name :: l).map String.toList)).parts =
        (name :: l).map String.toList := by
      rw [parts, habsolute, if_neg (by simp), htext, List.splitOn_intercalate '/' hslash (by simp)]
    have hopens : (ofParts false ((name :: l).map String.toList)).opensHere = false := by
      have hidle := hname.1
      have hne : name.toList ≠ ['.'] := by
        intro e
        rw [e] at hidle
        cases hidle
      rw [opensHere, hparts]
      simp [hne]
    -- the components of the absolute path, less the root
    have hcomponents := components_path h
    rw [components, if_pos (isAbsolute_path _), parts_path_of_isProper h (by simp)] at hcomponents
    rw [components, habsolute, if_neg (by simp), hopens, if_neg (by simp), hparts]
    exact (List.cons.inj hcomponents).2

/-- What is left of a place behind another one: the names on the way from there. -/
theorem relativeTo?_path (hl : l.IsProper) (hr : r.IsProper) :
    l.path.relativeTo? r.path =
      if r <+: l then some (ofParts false ((l.drop r.length).map String.toList)) else none := by
  have hbelow : (Component.root :: r.map .normal).isPrefixOf (.root :: l.map .normal) = true ↔
      r <+: l := by
    rw [List.isPrefixOf_iff_prefix, List.cons_prefix_cons, and_iff_right rfl,
      List.prefix_map_iff_of_injective fun a b h => by simpa using h]
  have hnamed : ((Component.root :: r.map .normal).filter
      fun c => c != .root && c != .current).length = r.length := by
    simp [List.filter_map, Function.comp_def]
  have hdrop : Location.IsProper (l.drop r.length) :=
    fun name hname => hl name (List.mem_of_mem_drop hname)
  have hleft : trimIdleEnd ((dropParts r.length l.path.parts).dropWhile idle) =
      (l.drop r.length).map String.toList := by
    rcases eq_or_ne l [] with rfl | hne
    · cases hlength : r.length with
      | zero => rfl
      | succ n =>
        rw [parts_path_nil, dropParts]
        simp [idle, dropParts_nil, trimIdleEnd]
    · rw [parts_path_of_isProper hl hne, dropParts_names hl, dropWhile_idle_names hdrop,
        trimIdleEnd_names hdrop]
  rw [relativeTo?, components_path hl, components_path hr]
  by_cases h : r <+: l
  · simp only [hbelow.mpr h, Bool.not_true, Bool.false_eq_true, if_false, List.isEmpty_cons,
      hnamed, hleft, if_pos h]
  · simp only [Bool.eq_false_iff.mpr fun e => h (hbelow.mp e), Bool.not_false, if_true, if_neg h]

end Path

namespace GoModule

variable {m : GoModule} {l l' r : Location} {path : String}

/-- Reading a line leaves the directory of the module. -/
theorem dir_readLine (state : Option Verb × GoModule) (line : List Char) :
    (readLine state line).2.dir = state.2.dir := by
  have happly : ∀ (m : GoModule) (verb : Verb) (line : List Char), (m.apply verb line).dir = m.dir := by
    intro m verb line
    cases verb <;> rw [apply]
    · cases requirement? line <;> rfl
    · cases replacement? line <;> rfl
  rcases state with ⟨_ | verb, m⟩
  · rw [readLine]
    split
    · rfl
    · dsimp only
      split
      · rfl
      · exact happly _ _ _
  · rw [readLine]
    split
    · rfl
    · exact happly _ _ _

/-- A module file describes a module in its own directory. -/
theorem dir_of_parse {content : String} {dir : Path} (h : parse content dir = .ok m) :
    m.dir = dir := by
  have hlines : ∀ (lines : List (List Char)) (state : Option Verb × GoModule),
      (lines.foldl readLine state).2.dir = state.2.dir := by
    intro lines
    induction lines with
    | nil => exact fun _ => rfl
    | cons line lines ih => exact fun state => (ih _).trans (dir_readLine state line)
  rw [parse] at h
  dsimp only at h
  split at h
  · cases h
  · rw [← Except.ok.inj h]
    exact hlines _ _

/-! ### The directory of a module -/

/-- The way up from a proper location is proper. -/
theorem wayUp_isProper (hl : l.IsProper) {r : Location} (hr : r ∈ wayUp l) :
    r.IsProper := by
  obtain ⟨n, -, rfl⟩ := List.mem_map.mp hr
  exact fun name hname => hl name (List.mem_of_mem_take hname)

/-- The module file of a directory lies in it. -/
theorem leadsTo_fileIn {r : Location} (hr : r.IsProper) :
    (fileIn r.path).LeadsTo (r ++ [fileName]) := by
  have hname : IsFileName fileName := by decide
  rw [fileIn, Path.path_child (Path.isAbsolute_of_isFileName hname)]
  · refine Path.leadsTo_path fun name hmem => ?_
    rcases List.mem_append.mp hmem with hmem | hmem
    · exact hr name hmem
    · exact List.mem_singleton.mp hmem ▸ hname
  · exact fun s hs =>
      let hs : IsFileName s := hr s (List.mem_of_getLast? hs)
      ⟨hs.ne_nil, hs.getLast?_ne⟩

/-- A module is what the module file in its directory says. -/
theorem exists_content_of_find {t : FileTree} {dir : Path} (ht : t.IsSound)
    (hm : find t dir = .ok m) :
    ∃ (r : Location) (content : String), m.dir = r.path ∧ r.IsProper ∧
      t.readText (fileIn r.path) = .ok content ∧ parse content r.path = .ok m := by
  rw [find] at hm
  rcases hfind : t.find dir with fault | ⟨l, e⟩ <;> rw [hfind] at hm
  · cases hm
  dsimp only at hm
  split at hm
  · cases hm
  · next r hr =>
    split at hm
    · cases hm
    · next content hcontent =>
      refine ⟨r, content, dir_of_parse hm, wayUp_isProper ?_ (List.mem_of_find?_eq_some hr),
        hcontent, hm⟩
      exact ht.proper (by simp [FileTree.entry?_of_find hfind])

/-- A module is found in the directory of its module file. -/
theorem exists_dir_of_find {t : FileTree} {dir : Path} (ht : t.IsSound)
    (hm : find t dir = .ok m) :
    ∃ r : Location, m.dir = r.path ∧ r.IsProper := by
  obtain ⟨r, -, hdir, hr, -⟩ := exists_content_of_find ht hm
  exact ⟨r, hdir, hr⟩

/-- Modules that are found in one directory are the same. -/
theorem find_eq_of_dir {t : FileTree} {dir dir' : Path} {m' : GoModule} (ht : t.IsSound)
    (hm : find t dir = .ok m) (hm' : find t dir' = .ok m') (hdir : m'.dir = m.dir) : m' = m := by
  obtain ⟨r, content, hr, -, hread, hparse⟩ := exists_content_of_find ht hm
  obtain ⟨r', content', hr', -, hread', hparse'⟩ := exists_content_of_find ht hm'
  rw [← hr', hdir, hr] at hread' hparse'
  obtain rfl := Except.ok.inj (hread.symm.trans hread')
  exact Except.ok.inj (hparse'.symm.trans hparse)

/-! ### Import paths -/

theorem foldl_names (s : String) (hne : l ≠ []) :
    l.foldl (fun path name => path ++ "/" ++ name) s = s ++ l.path.text := by
  induction l using List.reverseRecOn with
  | nil => exact absurd rfl hne
  | append_singleton front name ih =>
    refine String.toList_injective ?_
    rw [List.foldl_concat]
    rcases eq_or_ne front [] with rfl | hfront
    · simp [Path.toList_path]
    · rw [ih hfront]
      simp [Path.toList_path_concat hfront]

/-- **The import path of a directory**: the path of the module, and the names on the way down. -/
theorem importPath?_path (hdir : m.dir = r.path) (hr : r.IsProper) (hl : l.IsProper) :
    m.importPath? l.path =
      if r <+: l then some ((l.drop r.length).foldl (fun path name => path ++ "/" ++ name) m.path)
      else none := by
  have hdrop : Location.IsProper (l.drop r.length) :=
    fun name hname => hl name (List.mem_of_mem_drop hname)
  rw [importPath?, hdir, Path.relativeTo?_path hl hr]
  split
  · rw [Option.map_some, Path.components_ofParts_names hdrop, List.foldl_map]
    rfl
  · rfl

/-- **No two directories have one import path.** -/
theorem eq_of_importPath? (hdir : m.dir = r.path) (hr : r.IsProper) (hl : l.IsProper)
    (hl' : l'.IsProper) (h : m.importPath? l.path = some path)
    (h' : m.importPath? l'.path = some path) : l = l' := by
  rw [importPath?_path hdir hr hl] at h
  rw [importPath?_path hdir hr hl'] at h'
  split at h
  · next hbelow =>
    split at h'
    · next hbelow' =>
      obtain ⟨names, rfl⟩ := hbelow
      obtain ⟨names', rfl⟩ := hbelow'
      rw [List.drop_left] at h h'
      have heq := Option.some.inj (h.trans h'.symm)
      have hproper : Location.IsProper names := fun name hname => hl name (by simp [hname])
      have hproper' : Location.IsProper names' := fun name hname => hl' name (by simp [hname])
      -- the module's own path is no path of a directory below it
      have hne : ∀ {l : Location} {s : String}, l ≠ [] → s ≠ s ++ l.path.text := by
        intro l s _ e
        simpa [Path.toList_path] using congrArg String.toList e
      rcases eq_or_ne names [] with rfl | hnames <;> rcases eq_or_ne names' [] with rfl | hnames'
      · rfl
      · rw [foldl_names _ hnames'] at heq
        exact absurd heq (hne hnames')
      · rw [foldl_names _ hnames] at heq
        exact absurd heq.symm (hne hnames)
      · rw [foldl_names _ hnames, foldl_names _ hnames', String.append_right_inj] at heq
        have hpath : Location.path names = Location.path names' := congrArg Path.mk heq
        rw [← (Path.leadsTo_path hproper).location_eq, hpath,
          (Path.leadsTo_path hproper').location_eq]
    · cases h'
  · cases h

/-- Names below a directory, from the text between slashes that they are written as. -/
theorem below_path {names : List String} (hr : r.IsProper) (hnames : Location.IsProper names) :
    below r.path (.ofList (['/'].intercalate (names.map String.toList))) =
      Location.path (r ++ names) := by
  -- one child after the other, by induction on the names
  have hchildren : ∀ (l names : Location), l.IsProper → names.IsProper →
      names.foldl Path.child l.path = Location.path (l ++ names) := by
    intro l names hl hnames
    induction names generalizing l with
    | nil => simp
    | cons name names ih =>
      obtain ⟨hname, hnames⟩ := List.forall_mem_cons.mp hnames
      have hlast : ∀ s ∈ l.getLast?, s.toList ≠ [] ∧ s.toList.getLast? ≠ some '/' := fun s hs =>
        let hs : IsFileName s := hl s (List.mem_of_getLast? hs)
        ⟨hs.ne_nil, hs.getLast?_ne⟩
      rw [List.foldl_cons, Path.path_child (Path.isAbsolute_of_isFileName hname) hlast,
        ih (l ++ [name]) (fun s hs => ?_) hnames, List.append_assoc]
      · rfl
      · rcases List.mem_append.mp hs with hs | hs
        · exact hl s hs
        · exact List.mem_singleton.mp hs ▸ hname
  have helements : (ImportPath.elements
      (.ofList (['/'].intercalate (names.map String.toList)))).filter (!·.isEmpty) = names := by
    rcases eq_or_ne names [] with rfl | hne
    · rfl
    · have hslash : ∀ part ∈ names.map String.toList, '/' ∉ part :=
        List.forall_mem_map.mpr fun s hs => (hnames s hs).2.2
      rw [ImportPath.elements, String.toList_ofList,
        List.splitOn_intercalate '/' hslash (by simpa using hne), List.map_map]
      have hkept : ∀ name ∈ names, (!name.isEmpty) = true := fun name hname => by
        simpa [← String.toList_eq_nil_iff] using (hnames name hname).ne_nil
      simpa [Function.comp_def] using hkept
  rw [below, helements, hchildren r names hr hnames]

/-- **An import path leads back to its directory.** -/
theorem packageDir?_of_importPath? (hdir : m.dir = r.path) (hr : r.IsProper) (hl : l.IsProper)
    (h : m.importPath? l.path = some path) : m.packageDir? path = some l.path := by
  rw [importPath?_path hdir hr hl] at h
  split at h
  · next hbelow =>
    obtain ⟨names, rfl⟩ := hbelow
    rw [List.drop_left] at h
    have hnames : Location.IsProper names := fun name hname => hl name (by simp [hname])
    have hwithin : ImportPath.within? path m.path =
        some (.ofList (['/'].intercalate (names.map String.toList))) := by
      rcases eq_or_ne names [] with rfl | hne
      · obtain rfl := Option.some.inj h
        exact if_pos rfl
      · rw [foldl_names _ hne] at h
        obtain rfl := Option.some.inj h
        have hlonger : m.path ++ (Location.path names).text ≠ m.path := by
          simp [← String.toList_inj, Path.toList_path]
        rw [ImportPath.within?, if_neg hlonger, Text.afterFront?,
          if_pos (by simp [List.isPrefixOf_iff_prefix])]
        simp [Path.toList_path]
    rw [packageDir?, hwithin, Option.map_some, hdir, below_path hr hnames]
  · cases h

end GoModule

end GoMocks
