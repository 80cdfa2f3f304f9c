import GoMocks.Proofs.FileTree.Additions
import GoMocks.Proofs.KeyOrder
import GoMocks.Proofs.Loading
import GoMocks.Proofs.ModuleFile

/-!
# Loading — what additions leave as it was

Where Go sources are added in some directories of a tree, the module is still found, the other
directories are still matched by the patterns that matched them, and still hold the same packages.

* `FileTree.Adds.readPackage_eq`: the packages of the other directories.
* `FileTree.Adds.matchedDirs`: the directories that a pattern matches then.
* `FileTree.Adds.findModule`, `ofDirectory`: the module and its loader.
* `FileTree.Adds.exists_namedPackages`: everything can be loaded again, if that is so in the
  directories with additions.
-/

namespace GoMocks

open GoSource (SourceFile)

namespace FileTree

variable {t t' : FileTree} {l : Location} {name : String} {names : List String} {m : GoModule}
  {root dir : Path} {pattern path : String} {dirs : Location → Prop}

theorem Keeps.goFileNames (h : t.Keeps t') (hname : name ∈ t.goFileNames l) :
    name ∈ t'.goFileNames l := by
  obtain ⟨hgo, content, hentry⟩ := mem_goFileNames.mp hname
  exact mem_goFileNames.mpr ⟨hgo, h.file _ content hentry⟩

namespace Adds

/-! ### Directories and their packages -/

theorem goFileNames_eq (h : t.Adds dirs t') (hl : ¬ dirs l) :
    t'.goFileNames l = t.goFileNames l := by
  have hordered : ∀ t : FileTree, (t.goFileNames l).Pairwise (· < ·) := fun t =>
    (sortByKey_strict id _).filter _
  refine (hordered t').eq_of_mem_iff (hordered t) fun name => ?_
  rw [mem_goFileNames, mem_goFileNames]
  exact and_congr_right fun _ => exists_congr fun _ => h.file_iff fun hdirs => absurd hdirs hl

/-- Outside the additions the sources are read alike. -/
theorem readSource_eq (h : t.Adds dirs t') (ht : t.IsSound) (ht' : t'.IsSound) (hl : ¬ dirs l)
    (hname : name ∈ t.goFileNames l) :
    t'.readSource (l ++ [name]).path = t.readSource (l ++ [name]).path := by
  obtain ⟨-, hfile⟩ := mem_goFileNames.mp hname
  have hproper : Location.IsProper (l ++ [name]) := by
    obtain ⟨content, hentry⟩ := hfile
    exact ht.proper (by simp [hentry])
  rw [readSource, readSource, h.readText_eq ht ht' (Path.leadsTo_path hproper)
    (fun hdirs => absurd hdirs hl) hfile]

/-- Two trees that read the files alike collect the same ones. -/
theorem foldlM_addSource_congr {files : List SourceFile} {paths : List Path}
    (h : ∀ file ∈ paths, t'.readSource file = t.readSource file) :
    paths.foldlM (t'.addSource dir path) files = paths.foldlM (t.addSource dir path) files := by
  induction paths generalizing files with
  | nil => rfl
  | cons file paths ih =>
    obtain ⟨hfile, hpaths⟩ := List.forall_mem_cons.mp h
    rw [List.foldlM_cons, List.foldlM_cons, addSource, addSource, hfile]
    exact congrArg _ (funext fun _ => ih hpaths)

/-- **The packages of the other directories are the same.** -/
theorem readPackage_eq (h : t.Adds dirs t') (ht : t.IsSound) (ht' : t'.IsSound) (hl : ¬ dirs l)
    (hdir : t.entry? l = some .directory) (module path : String) :
    t'.readPackage module l.path path = t.readPackage module l.path path := by
  rw [readPackage, readPackage, ht.goFiles_path hdir,
    ht'.goFiles_path (h.keeps.directory l hdir), h.goFileNames_eq hl]
  refine congrArg (fun files : Except Error (List SourceFile) =>
    files >>= fun files => .ok (packageOf? module l.path path files)) ?_
  refine foldlM_addSource_congr fun file hfile => ?_
  obtain ⟨name, hname, rfl⟩ := List.mem_map.mp hfile
  exact h.readSource_eq ht ht' hl hname

/-- Outside the additions a directory holds the same package. -/
theorem packageIn_eq (h : t.Adds dirs t') (ht : t.IsSound) (ht' : t'.IsSound) (hl : ¬ dirs l)
    (hdir : t.entry? l = some .directory) (m : GoModule) (pattern : String) :
    Loader.packageIn t' m pattern l = Loader.packageIn t m pattern l := by
  rw [Loader.packageIn, Loader.packageIn]
  cases m.importPath? l.path with
  | none => rfl
  | some path => simp only [h.readPackage_eq ht ht' hl hdir]

/-- Outside the additions the same packages are loaded. -/
theorem loadedFrom_iff (h : t.Adds dirs t') (ht : t.IsSound) (ht' : t'.IsSound) (hl : ¬ dirs l)
    {p : SourcePackage} : Loader.LoadedFrom t' m l p ↔ Loader.LoadedFrom t m l p := by
  constructor
  · rintro ⟨hpath, hread, hdir⟩
    have hdir := (h.directory_iff hl).mp hdir
    exact ⟨hpath, by rwa [← h.readPackage_eq ht ht' hl hdir], hdir⟩
  · rintro ⟨hpath, hread, hdir⟩
    exact ⟨hpath, by rwa [h.readPackage_eq ht ht' hl hdir], h.keeps.directory l hdir⟩

/-! ### Patterns -/

/-- Additions leave which directories are set apart. -/
theorem isApart_eq (h : t.Adds dirs t') (l : Location) (name : String) :
    t'.isApart l name = t.isApart l name := by
  have hmodule : t'.fileAt (l ++ [name, GoModule.fileName]) =
      t.fileAt (l ++ [name, GoModule.fileName]) := by
    rw [Bool.eq_iff_iff, fileAt_iff, fileAt_iff]
    refine exists_congr fun content => ?_
    have hiff : t'.entry? (l ++ [name] ++ [GoModule.fileName]) = some (.file content) ↔
        t.entry? (l ++ [name] ++ [GoModule.fileName]) = some (.file content) :=
      h.file_iff fun _ => by decide
    rwa [List.append_assoc] at hiff
  rw [isApart, isApart, hmodule]

theorem reaches (h : t.Adds dirs t') (hreaches : t.Reaches l names) : t'.Reaches l names := by
  intro a name b hnames
  obtain ⟨hdir, happart⟩ := hreaches a name b hnames
  exact ⟨h.keeps.directory _ hdir, (h.isApart_eq _ _).trans happart⟩

/-- What is reached then was reached before, if it was there. -/
theorem of_reaches (h : t.Adds dirs t') (ht : t.IsSound) (hreaches : t'.Reaches l names)
    (hdir : t.entry? (l ++ names) = some .directory) : t.Reaches l names := by
  rintro a name b rfl
  obtain ⟨-, happart⟩ := hreaches a name b rfl
  refine ⟨?_, (h.isApart_eq _ _).symm.trans happart⟩
  rcases eq_or_ne b [] with rfl | hb
  · rwa [← List.append_assoc] at hdir
  · exact ht.ancestor (by rw [hdir]; exact nofun) (by simp) hb

theorem basePlace (h : t.Adds dirs t') (hl : m.basePlace t root pattern = .ok l) :
    m.basePlace t' root pattern = .ok l := by
  obtain ⟨dir, hbase, hfind, hin⟩ := GoModule.basePlace_eq_ok_iff.mp hl
  exact GoModule.basePlace_eq_ok_iff.mpr ⟨dir, hbase, h.keeps.find_directory hfind, hin⟩

/-- **The directories that a pattern matches then** are those that it matched before, and perhaps
some that had no Go sources. -/
theorem matchedDirs (h : t.Adds dirs t') (ht : t.IsSound) {ls : List Location}
    (hls : m.matchedDirs t root pattern = .ok ls) :
    ∃ ls', m.matchedDirs t' root pattern = .ok ls' ∧ (∀ l ∈ ls, l ∈ ls') ∧
      ∀ l ∈ ls', t.goFileNames l ≠ [] → l ∈ ls := by
  obtain ⟨base, hbase, hls⟩ := GoModule.matchedDirs_eq_ok_iff.mp hls
  have hbase' := h.basePlace hbase
  have hsome : ∀ {l}, t.goFileNames l ≠ [] → t'.goFileNames l ≠ [] := by
    intro l hne
    obtain ⟨name, hname⟩ := List.exists_mem_of_ne_nil _ hne
    exact List.ne_nil_of_mem (h.keeps.goFileNames hname)
  by_cases hrecursive : Pattern.isRecursive pattern = true
  · rw [if_pos hrecursive] at hls
    subst hls
    refine ⟨t'.packageDirs base,
      GoModule.matchedDirs_eq_ok_iff.mpr ⟨base, hbase', by rw [if_pos hrecursive]⟩,
      fun l hl => ?_, fun l hl hne => ?_⟩
    · obtain ⟨names, rfl, hreaches, hne⟩ := mem_packageDirs.mp hl
      exact mem_packageDirs.mpr ⟨names, rfl, h.reaches hreaches, hsome hne⟩
    · obtain ⟨names, rfl, hreaches, -⟩ := mem_packageDirs.mp hl
      -- a directory with sources was there before
      obtain ⟨name, hname⟩ := List.exists_mem_of_ne_nil _ hne
      obtain ⟨-, content, hentry⟩ := mem_goFileNames.mp hname
      have hdir : t.entry? (base ++ names) = some .directory :=
        ht.parent (by rw [hentry]; exact nofun)
      exact mem_packageDirs.mpr ⟨names, rfl, h.of_reaches ht hreaches hdir, hne⟩
  · rw [if_neg hrecursive] at hls
    obtain ⟨hne, rfl⟩ := hls
    exact ⟨[base],
      GoModule.matchedDirs_eq_ok_iff.mpr ⟨base, hbase', by rw [if_neg hrecursive]; exact ⟨hsome hne, rfl⟩⟩,
      fun _ hl => hl, fun _ hl _ => hl⟩

/-- Of the other directories it matches the same. -/
theorem mem_matchedDirs_of_not (h : t.Adds dirs t') (ht : t.IsSound) {ls ls' : List Location}
    (hls : m.matchedDirs t root pattern = .ok ls) (hls' : m.matchedDirs t' root pattern = .ok ls')
    (hl : l ∈ ls') (hdirs : ¬ dirs l) : l ∈ ls := by
  obtain ⟨_, hmatched, -, hold⟩ := h.matchedDirs ht hls
  obtain rfl := Except.ok.inj (hls'.symm.trans hmatched)
  refine hold l hl ?_
  rw [← h.goFileNames_eq hdirs]
  exact GoModule.goFileNames_ne_nil_of_mem_matchedDirs hls' hl

/-! ### The module -/

/-- **The module is still found**, since a module file is no Go source. -/
theorem findModule (h : t.Adds dirs t') (ht : t.IsSound) (ht' : t'.IsSound)
    (hm : GoModule.find t dir = .ok m) : GoModule.find t' dir = .ok m := by
  have hgo : isGoSource GoModule.fileName = false := by decide
  rw [GoModule.find] at hm ⊢
  rcases hfind : t.find dir with fault | ⟨l, e⟩ <;> rw [hfind] at hm
  · cases hm
  obtain ⟨e', hfind', -⟩ := h.keeps.find hfind
  have hl : l.IsProper := ht.proper (by simp [entry?_of_find hfind])
  have hleads : ∀ {r : Location}, r ∈ GoModule.wayUp l →
      (GoModule.fileIn r.path).LeadsTo (r ++ [GoModule.fileName]) :=
    fun hr => GoModule.leadsTo_fileIn (GoModule.wayUp_isProper hl hr)
  have hfirst : ((GoModule.wayUp l).find? fun r => t'.isFile (GoModule.fileIn r.path)) =
      (GoModule.wayUp l).find? fun r => t.isFile (GoModule.fileIn r.path) :=
    List.find?_congr fun r hr => h.isFile_eq ht ht' (hleads hr) fun _ => hgo
  rw [hfind']
  dsimp only at hm ⊢
  rw [hfirst]
  split at hm
  · cases hm
  · next r hr =>
    have hfile : ∃ content, t.entry? (r ++ [GoModule.fileName]) = some (.file content) := by
      have hfile := List.find?_some hr
      rw [isFile] at hfile
      split at hfile
      · next hfind =>
        exact ⟨_, ((ht.find_eq_ok_iff (hleads (List.mem_of_find?_eq_some hr))).mp hfind).2⟩
      · cases hfile
    rwa [h.readText_eq ht ht' (hleads (List.mem_of_find?_eq_some hr)) (fun _ => hgo) hfile]

/-- The loader of a directory stays the same. -/
theorem ofDirectory (h : t.Adds dirs t') (ht : t.IsSound) (ht' : t'.IsSound) {env : Environment}
    {loader : Loader} (hloader : Loader.ofDirectory t env dir = .ok loader) :
    Loader.ofDirectory t' env dir = .ok loader := by
  obtain ⟨m, hm, hloader⟩ := exceptBind_eq_ok.mp hloader
  refine exceptBind_eq_ok.mpr ⟨m, h.findModule ht ht' hm, ?_⟩
  cases hroot : t.canonical dir with
  | error fault => rw [hroot] at hloader; cases hloader
  | ok root =>
    rw [hroot] at hloader
    rw [h.keeps.canonical hroot]
    exact hloader

/-! ### Loading again -/

/-- **Everything can be loaded again**, if that is so in the directories with additions. -/
theorem exists_namedPackages (h : t.Adds dirs t') (ht : t.IsSound) (ht' : t'.IsSound)
    {patterns : List String} {ps : List SourcePackage}
    (hps : Loader.namedPackages t m root patterns = .ok ps)
    (hadded : ∀ pattern ∈ patterns, ∀ ls, m.matchedDirs t' root pattern = .ok ls →
      ∀ l ∈ ls, dirs l → ∃ p?, Loader.packageIn t' m pattern l = .ok p?) :
    ∃ ps', Loader.namedPackages t' m root patterns = .ok ps' := by
  refine Loader.exists_namedPackages_iff.mpr fun pattern hpattern => ?_
  obtain ⟨ls, hls, hloads⟩ := Loader.exists_namedPackages_iff.mp ⟨ps, hps⟩ pattern hpattern
  obtain ⟨ls', hls', -⟩ := h.matchedDirs ht hls
  refine ⟨ls', hls', fun l hl => ?_⟩
  by_cases hdirs : dirs l
  · exact hadded pattern hpattern ls' hls' l hl hdirs
  · have hmatched := h.mem_matchedDirs_of_not ht hls hls' hl hdirs
    rw [h.packageIn_eq ht ht' hdirs (GoModule.directory_of_mem_matchedDirs hls hmatched)]
    exact hloads l hmatched

/-- What patterns matched they match then. -/
theorem matches_of_matches (h : t.Adds dirs t') (ht : t.IsSound) {patterns : List String}
    (hmatches : Loader.Matches t m root patterns l) : Loader.Matches t' m root patterns l := by
  obtain ⟨pattern, hpattern, ls, hls, hmem⟩ := hmatches
  obtain ⟨ls', hls', hnew, -⟩ := h.matchedDirs ht hls
  exact ⟨pattern, hpattern, ls', hls', hnew l hmem⟩

/-- The other directories that patterns match then are those that they matched before. -/
theorem matches_iff (h : t.Adds dirs t') (ht : t.IsSound) {patterns : List String}
    (hmatched : ∀ pattern ∈ patterns, ∃ ls, m.matchedDirs t root pattern = .ok ls)
    (hl : ¬ dirs l) : Loader.Matches t' m root patterns l ↔ Loader.Matches t m root patterns l := by
  refine ⟨?_, h.matches_of_matches ht⟩
  rintro ⟨pattern, hpattern, ls, hls, hmem⟩
  obtain ⟨ls₀, hls₀⟩ := hmatched pattern hpattern
  exact ⟨pattern, hpattern, ls₀, hls₀, h.mem_matchedDirs_of_not ht hls₀ hls hmem hl⟩

end Adds

end FileTree

end GoMocks
