import GoMocks.Proofs.Loading.Patterns

/-!
# Loading — the directories of a module

A module owns the directories below its own, down to those with a module file. A walk leaves out
what the module does not own; where a pattern begins is not looked at in this way. So the packages
that are loaded belong to the module if the directories do that the patterns begin at, and not
otherwise: a pattern that begins in a module of its own loads packages of this one.

* `FileTree.Owns`: no directory on the way down has a module file.
* `GoModule.owns_of_find`: a module owns the directory that it was found for.
* `Loader.loadPackages_owned`: the packages that belong to the module, and the patterns that fail.
* `Loader.loadPackages_nested`: packages that do not belong to it.
-/

namespace GoMocks

namespace FileTree

variable {t : FileTree} {d l : Location} {names : List String}

/-- Do the directories from `d` down to `l` have no module file, apart from `d`? -/
def Owns (t : FileTree) (d l : Location) : Prop :=
  ∃ names, l = d ++ names ∧
    ∀ a name b, names = a ++ name :: b → t.fileAt (d ++ a ++ [name, GoModule.fileName]) = false

/-- A walk does not go into modules of their own. -/
theorem Reaches.owns_iff (h : t.Reaches l names) (hd : d <+: l) :
    t.Owns d (l ++ names) ↔ t.Owns d l := by
  obtain ⟨front, rfl⟩ := hd
  constructor
  · rintro ⟨all, hall, hnone⟩
    obtain rfl : front ++ names = all := by simpa using hall
    exact ⟨front, rfl, fun a name b hsplit => hnone a name (b ++ names) (by simp [hsplit])⟩
  · rintro ⟨front', hfront, hnone⟩
    obtain rfl : front = front' := by simpa using hfront
    refine ⟨front ++ names, by simp, fun a name b hsplit => ?_⟩
    rcases List.append_eq_append_iff.mp hsplit with ⟨c, rfl, hc⟩ | ⟨c, rfl, hc⟩
    · have hapart := (h c name b hc).2
      simp only [isApart, Bool.or_eq_false_iff] at hapart
      simpa using hapart.2
    · cases c with
      | nil =>
        have hapart := (h [] name b (by simpa using hc.symm)).2
        simp only [isApart, Bool.or_eq_false_iff] at hapart
        simpa using hapart.2
      | cons name' c =>
        obtain ⟨rfl, -⟩ := List.cons.inj hc
        exact hnone a _ c rfl

end FileTree

namespace GoModule

variable {t : FileTree} {m : GoModule} {dir : Path} {l : Location} {e : Entry}

/-- The way up gets shorter at each step. -/
theorem pairwise_wayUp (l : Location) : (wayUp l).Pairwise fun a b => b.length < a.length := by
  rw [wayUp, List.pairwise_map, List.pairwise_reverse]
  refine List.pairwise_lt_range.imp_of_mem fun {a b} ha hb hab => ?_
  have hb : b < l.length + 1 := List.mem_range.mp hb
  rw [List.length_take, List.length_take]
  omega

/-- The way up passes every location above. -/
theorem mem_wayUp {a b : List String} (h : l = a ++ b) : a ∈ wayUp l :=
  List.mem_map.mpr ⟨a.length, by simp [h], by simp [h]⟩

/-- **A module owns the directory that it was found for.** -/
theorem owns_of_find (ht : t.IsSound) (hdir : t.find dir = .ok (l, e)) (hm : find t dir = .ok m) :
    ∃ d : Location, m.dir = d.path ∧ d.IsProper ∧ t.Owns d l := by
  have hl : l.IsProper := ht.proper (by simp [FileTree.entry?_of_find hdir])
  have hfile : ∀ a ∈ wayUp l, t.isFile (fileIn a.path) = t.fileAt (a ++ [fileName]) := by
    intro a ha
    have hfind := fun m e => ht.find_eq_ok_iff (m := m) (e := e)
      (leadsTo_fileIn (wayUp_isProper hl ha))
    rw [Bool.eq_iff_iff, FileTree.fileAt_iff, FileTree.isFile]
    cases hplace : t.find (fileIn a.path) with
    | error fault =>
      refine iff_of_false (by simp) ?_
      rintro ⟨content, hentry⟩
      cases hplace.symm.trans ((hfind _ _).mpr ⟨rfl, hentry⟩)
    | ok found =>
      obtain ⟨place, entry⟩ := found
      obtain ⟨-, hentry⟩ := (hfind _ _).mp hplace
      cases entry <;> simp [hentry]
  rw [find, hdir] at hm
  dsimp only at hm
  split at hm
  · cases hm
  · next d hd =>
    have hway : d ∈ wayUp l := List.mem_of_find?_eq_some hd
    obtain ⟨-, front, back, hsplit, hfront⟩ := List.find?_eq_some_iff_append.mp hd
    have hparse : m.dir = d.path := by
      split at hm
      · cases hm
      · exact dir_of_parse hm
    obtain ⟨n, -, hn⟩ := List.mem_map.mp hway
    refine ⟨d, hparse, wayUp_isProper hl hway, l.drop n, by simp [← hn], fun a name b hnames => ?_⟩
    have hup : d ++ a ++ [name] ∈ wayUp l := mem_wayUp (b := b) (by
      rw [← hn, List.append_assoc, List.append_assoc, List.singleton_append, ← hnames,
        List.take_append_drop])
    -- the way up goes from the longest place to the shortest, so a place below `d` comes before it
    have hmem : d ++ a ++ [name] ∈ front := by
      have hlength : d.length < (d ++ a ++ [name]).length := by simp
      have hpairwise := List.pairwise_append.mp (hsplit ▸ pairwise_wayUp l)
      rcases List.mem_append.mp (hsplit ▸ hup) with hmem | hmem
      · exact hmem
      · rcases List.mem_cons.mp hmem with heq | hmem
        · exact absurd (congrArg List.length heq) hlength.ne'
        · exact absurd ((List.pairwise_cons.mp hpairwise.2.1).1 _ hmem) (by omega)
    have hnone := hfront _ hmem
    rw [hfile _ hup] at hnone
    simpa using hnone

end GoModule

namespace Loader

variable {t : FileTree} {env : Environment} {dir : Path} {loader first : Loader}
  {pattern : String} {patterns : List String} {l d : Location}

/-- A pattern that the module has no place for fails. -/
theorem outcome_of_basePlace {fault : LoadFault}
    (h : loader.module.basePlace t loader.root pattern = .error fault) :
    loader.outcome (loadPackages t [pattern]) = .error (.load pattern fault) := by
  rw [outcome_singleton, packagesOf, GoModule.matchedDirs, h]
  rfl

/-- A new loader looks at patterns from a directory that its module owns. -/
theorem exists_owned (ht : t.IsSound) (h : ofDirectory t env dir = .ok loader) :
    ∃ r d, Placed t loader r d ∧ t.Owns d r := by
  obtain ⟨hm, r, e, hfind, hroot⟩ := find_of_ofDirectory h
  obtain ⟨d, hdir, hd, howns⟩ := GoModule.owns_of_find ht hfind hm
  exact ⟨r, d, ⟨hroot, by simp [FileTree.entry?_of_find hfind], hdir, hd⟩, howns⟩

/-- What a pattern matches belongs to the module if the directory does that it begins at. -/
theorem owns_of_matches (ht : t.IsSound) (hplaced : Placed t loader r d)
    (h : Matches t loader.module loader.root patterns l) :
    ∃ pattern ∈ patterns, ∃ base,
      loader.module.basePlace t loader.root pattern = .ok base ∧ d <+: base ∧ base <+: l ∧
        (t.Owns d l ↔ t.Owns d base) := by
  obtain ⟨pattern, hpattern, ls, hls, hl⟩ := h
  obtain ⟨base, hbase, hls⟩ := GoModule.matchedDirs_eq_ok_iff.mp hls
  obtain ⟨place, -, hfind, hstarts⟩ := GoModule.basePlace_eq_ok_iff.mp hbase
  have hproper : base.IsProper := ht.proper (by simp [FileTree.entry?_of_find hfind])
  have hd : d <+: base := (Path.startsWith_path hproper hplaced.proper).mp (hplaced.dir ▸ hstarts)
  refine ⟨pattern, hpattern, base, hbase, hd, ?_⟩
  split at hls
  · subst hls
    obtain ⟨names, rfl, hreaches, -⟩ := FileTree.mem_packageDirs.mp hl
    exact ⟨List.prefix_append _ _, hreaches.owns_iff hd⟩
  · obtain ⟨-, rfl⟩ := hls
    obtain rfl := List.mem_singleton.mp hl
    exact ⟨List.prefix_rfl, Iff.rfl⟩

/-- **The packages that belong to the module.** Each package that is loaded has the import path of
its directory, which the module owns if it owns the one that a pattern begins at; the directory that
patterns are seen from is one of these. A pattern that names a directory outside of that of the
module, or an import path that is none of the module, fails. -/
theorem loadPackages_owned (ht : t.IsSound) (hfirst : ofDirectory t env dir = .ok first)
    (found : List (String × Option SourcePackage)) (patterns : List String) :
    let loader : Loader := { first with found }
    ∃ r d, Placed t first r d ∧ t.Owns d r ∧
      (∀ ps, loader.outcome (loadPackages t patterns) = .ok ps → ∀ p ∈ ps, ∃ l : Location,
        p.dir = l.path ∧ first.module.importPath? l.path = some p.path ∧
        ∃ pattern ∈ patterns, ∃ base, first.module.basePlace t first.root pattern = .ok base ∧
          d <+: base ∧ base <+: l ∧ (t.Owns d l ↔ t.Owns d base)) ∧
      ∀ pattern ∈ patterns, ∀ fault,
        (∃ l, Names t first pattern l ∧ ¬ d <+: l ∧
          fault = .directoryOutsideModule l.path first.module.path) ∨
        (Pattern.isDirectory (Pattern.base pattern) = false ∧
          first.module.contains (Pattern.base pattern) = false ∧
          fault = .outsideModule first.module.path) →
        loader.outcome (loadPackages t [pattern]) = .error (.load pattern fault) ∧
          ∃ e, loader.outcome (loadPackages t patterns) = .error e := by
  intro loader
  obtain ⟨r, d, hplaced, howns⟩ := exists_owned ht hfirst
  have hload : ∀ patterns, loader.outcome (loadPackages t patterns) =
      first.outcome (loadPackages t patterns) := fun patterns => outcome_loadPackages_found found
  refine ⟨r, d, hplaced, howns, fun ps hps p hp => ?_, fun pattern hpattern fault hfault => ?_⟩
  · rw [hload] at hps
    obtain ⟨l, source, hmatches, hloaded, rfl⟩ := (mem_outcome_loadPackages ht hplaced hps).mp hp
    exact ⟨l, hloaded.dir, hloaded.path, owns_of_matches ht hplaced hmatches⟩
  · have hplace : first.module.basePlace t first.root pattern = .error fault := by
      rcases hfault with ⟨l, hnames, hout, rfl⟩ | ⟨hpath, hout, rfl⟩
      · rw [basePlace_of_names ht hplaced hnames, if_neg hout]
      · have hnone : first.module.packageDir? (Pattern.base pattern) = none := by
          rw [GoModule.packageDir?]
          rw [GoModule.contains] at hout
          simpa using hout
        rw [GoModule.basePlace, GoModule.baseDir, if_neg (by simp [hpath]), hnone]
        rfl
    have halone := outcome_of_basePlace hplace
    refine ⟨(hload _).trans halone, ?_⟩
    rw [hload]
    cases hall : first.outcome (loadPackages t patterns) with
    | error e => exact ⟨e, rfl⟩
    -- success of all patterns would be success of this one
    | ok ps =>
      obtain ⟨qs, hqs⟩ := exists_outcome_iff.mpr
        (List.forall_mem_singleton.mpr (exists_outcome_iff.mp ⟨ps, hall⟩ pattern hpattern))
      cases halone.symm.trans hqs

/-! ### A module inside of another one -/

/-- A module with a package of its own, and in its directory another module. -/
def nestedTree : FileTree where
  entries :=
    [(["m"], .directory), (["m", "go.mod"], .file "module m\n".toUTF8),
      (["m", "x"], .directory), (["m", "x", "x.go"], .file "package x\n".toUTF8),
      (["m", "n"], .directory), (["m", "n", "go.mod"], .file "module n\n".toUTF8),
      (["m", "n", "n.go"], .file "package n\n".toUTF8)]
  current := ["m"]

/-- A walk over all directories stays in the module, and the root is outside of it. -/
theorem loadPackages_owned_nested :
    ∃ first ps, nestedTree.IsSound ∧ ofDirectory nestedTree {} ⟨"/m/x"⟩ = .ok first ∧
      first.outcome (loadPackages nestedTree ["../..."]) = .ok ps ∧
      ps.map Package.path = ["m/x"] ∧ (∀ p ∈ ps, ∃ l : Location, p.dir = l.path ∧
        nestedTree.Owns ["m"] l) ∧
      ∃ e, first.outcome (loadPackages nestedTree ["../...", "../../..."]) = .error e := by
  have hsound : nestedTree.IsSound := by decide +kernel
  have hpaths : (loads nestedTree ⟨"/m/x"⟩ ["../..."]).map (List.map Package.path) =
      .ok ["m/x"] := by decide +kernel
  have hfacts : (ofDirectory nestedTree {} ⟨"/m/x"⟩).map (fun first => decide <|
      first.module.dir = Location.path ["m"] ∧
      first.module.basePlace nestedTree first.root "../..." = .ok ["m"] ∧
      Names nestedTree first "../../..." []) = .ok true := by decide +kernel
  obtain ⟨ps, hps, hpaths⟩ := exceptMap_eq_ok_iff.mp hpaths
  obtain ⟨first, hfirst, hload⟩ := exceptBind_eq_ok.mp hps
  rw [hfirst] at hfacts
  obtain ⟨hdir, hbase, hnames⟩ := of_decide_eq_true (Except.ok.inj hfacts)
  obtain ⟨r, d, hplaced, -, howned, -⟩ := loadPackages_owned hsound hfirst first.found ["../..."]
  obtain ⟨r', d', hplaced', -, -, hfails⟩ :=
    loadPackages_owned hsound hfirst first.found ["../...", "../../..."]
  have hd : ∀ {r d}, Placed nestedTree first r d → d = ["m"] := fun h => by
    rw [← (Path.leadsTo_path h.proper).location_eq, ← h.dir, hdir]
    decide
  obtain rfl := hd hplaced
  obtain rfl := hd hplaced'
  refine ⟨first, ps, hsound, hfirst, hload, hpaths, fun p hp => ?_, ?_⟩
  · obtain ⟨l, hl, -, pattern, hpattern, base, hplace, -, -, howns⟩ := howned ps hload p hp
    obtain rfl := List.mem_singleton.mp hpattern
    obtain rfl : ["m"] = base := Except.ok.inj (hbase.symm.trans hplace)
    exact ⟨l, hl, howns.mpr ⟨[], rfl, fun a name b h => absurd h (by simp)⟩⟩
  · exact (hfails "../../..." (by simp) _ (.inl ⟨[], hnames, by decide, rfl⟩)).2

/-- **A pattern may begin in another module.** By whatever pattern it is named, its package is
loaded as one of the module around it, which does not own the directory. -/
theorem loadPackages_nested :
    nestedTree.IsSound ∧ ¬ nestedTree.Owns ["m"] ["m", "n"] ∧
      ∀ pattern ∈ ["./n", "./n/...", "m/n", "m/n/..."],
        (loads nestedTree ⟨"/m"⟩ [pattern]).map (List.map fun p => (p.path, p.module, p.dir)) =
          .ok [("m/n", "m", ⟨"/m/n"⟩)] := by
  refine ⟨by decide +kernel, ?_, by decide +kernel⟩
  rintro ⟨names, hnames, hnone⟩
  obtain rfl : ["n"] = names := (List.cons.inj hnames).2
  exact absurd (hnone [] "n" [] rfl) (by decide +kernel)

end Loader

end GoMocks
