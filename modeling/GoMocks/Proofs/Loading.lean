import GoMocks.Proofs.Loader
import GoMocks.Proofs.Pattern

/-!
# Loading — the packages that patterns name

Loading reads each directory that a pattern matches, and keeps the package that is found there.
What is loaded depends on the file tree and the module alone, and the loader changes only in what
it has found.

* `Loader.namedPackages`: the packages that patterns name, without a loader that changes.
* `Loader.mem_namedPackages`: they are those in the directories that the patterns match, and
  `Loader.exists_namedPackages_iff` says when there are some.
* `Loader.LoadedFrom.source`: where the sources of a package lie.
* `Loader.lookup_keepAll`: an import path leads to the package that was kept last.
-/

namespace GoMocks

open GoSource (SourceFile)

/-- A monadic step that fails or is followed by another one. -/
theorem exceptBind_eq_ok {ε α β : Type} {x : Except ε α} {f : α → Except ε β} {b : β} :
    x >>= f = .ok b ↔ ∃ a, x = .ok a ∧ f a = .ok b := by
  cases x with
  | error e => exact ⟨nofun, fun ⟨_, h, _⟩ => nomatch h⟩
  | ok a    => exact ⟨fun h => ⟨a, rfl, h⟩, fun ⟨_, h, h'⟩ => Except.ok.inj h ▸ h'⟩

variable {ε α β : Type} {f : α → Except ε β} {as : List α} {bs : List β}

/-- Steps for the items of a list all succeed together. -/
theorem exists_exceptMapM_eq_ok (h : ∀ a ∈ as, ∃ b, f a = .ok b) : ∃ bs, as.mapM f = .ok bs := by
  induction as with
  | nil => exact ⟨[], rfl⟩
  | cons a as ih =>
    obtain ⟨⟨b, hb⟩, has⟩ := List.forall_mem_cons.mp h
    obtain ⟨bs, hbs⟩ := ih has
    rw [List.mapM_cons]
    exact ⟨b :: bs, exceptBind_eq_ok.mpr ⟨b, hb, exceptBind_eq_ok.mpr ⟨bs, hbs, rfl⟩⟩⟩

/-- The results of a successful map, one for each item. -/
theorem mem_of_exceptMapM_eq_ok (h : as.mapM f = .ok bs) :
    (∀ a ∈ as, ∃ b ∈ bs, f a = .ok b) ∧ ∀ b ∈ bs, ∃ a ∈ as, f a = .ok b := by
  induction as generalizing bs with
  | nil =>
    obtain rfl := Except.ok.inj h
    exact ⟨nofun, nofun⟩
  | cons a as ih =>
    rw [List.mapM_cons] at h
    obtain ⟨b, hb, h⟩ := exceptBind_eq_ok.mp h
    obtain ⟨bs', hbs, h⟩ := exceptBind_eq_ok.mp h
    obtain rfl := Except.ok.inj h
    obtain ⟨has, hbs⟩ := ih hbs
    refine ⟨List.forall_mem_cons.mpr ⟨⟨b, .head _, hb⟩, fun a' ha' => ?_⟩,
      List.forall_mem_cons.mpr ⟨⟨a, .head _, hb⟩, fun b' hb' => ?_⟩⟩
    · obtain ⟨b', hb', h⟩ := has a' ha'
      exact ⟨b', .tail _ hb', h⟩
    · obtain ⟨a', ha', h⟩ := hbs b' hb'
      exact ⟨a', .tail _ ha', h⟩

/-! ### Packages in directories -/

namespace FileTree

variable {t : FileTree} {module path : String} {dir file : Path} {p : SourcePackage}
  {source : SourceFile} {files files' : List SourceFile}

/-- A package is made of its files, and of at least one. -/
theorem packageOf?_eq_some (h : packageOf? module dir path files = some p) :
    p.files = files ∧ files ≠ [] ∧ p.package.path = path ∧ p.package.dir = dir := by
  cases files with
  | nil => exact nomatch h
  | cons first files =>
    obtain rfl := Option.some.inj h
    exact ⟨rfl, List.cons_ne_nil _ _, rfl, rfl⟩

/-- A package is read from the Go files of its directory. -/
theorem readPackage_eq_ok_iff {p? : Option SourcePackage} :
    t.readPackage module dir path = .ok p? ↔
      ∃ names files, t.goFiles dir = .ok names ∧ names.foldlM (t.addSource dir path) [] = .ok files ∧
        packageOf? module dir path files = p? := by
  rw [readPackage, exceptBind_eq_ok]
  refine exists_congr fun names => ?_
  rw [exceptBind_eq_ok]
  constructor
  · rintro ⟨hnames, files, hfiles, h⟩
    exact ⟨files, hnames, hfiles, Except.ok.inj h⟩
  · rintro ⟨files, hnames, hfiles, h⟩
    exact ⟨hnames, files, hfiles, congrArg _ h⟩

/-! ### Sources -/

theorem path_of_parse {text : String} (h : SourceFile.parse file text = .ok source) :
    source.path = file := by
  have hadd : ∀ (items : List (List String × GoSource.TopLevel)) (s : SourceFile),
      (items.foldl SourceFile.add s).path = s.path := by
    intro items
    induction items with
    | nil => exact fun _ => rfl
    | cons item items ih =>
      intro s
      refine (ih _).trans ?_
      rw [SourceFile.add]
      split <;> split <;> rfl
  rw [SourceFile.parse] at h
  split at h
  · exact nomatch h
  · dsimp only at h
    split at h
    · exact nomatch h
    · exact Except.ok.inj h ▸ hadd _ _

theorem path_of_readSource (h : t.readSource file = .ok source) : source.path = file := by
  rw [readSource] at h
  split at h
  · exact nomatch h
  · exact path_of_parse h

/-- A source is entered if it belongs to the package, and passed over if no build takes it in. -/
theorem addSource_eq_ok_iff :
    t.addSource dir path files file = .ok files' ↔ ∃ source, t.readSource file = .ok source ∧
      if source.buildIgnored = true then files' = files
      else (∀ first ∈ files.head?, first.package = source.package) ∧ files' = files ++ [source] := by
  rw [addSource, exceptBind_eq_ok]
  refine exists_congr fun source => and_congr_right fun _ => ?_
  split
  · exact ⟨fun h => (Except.ok.inj h).symm, fun h => congrArg _ h.symm⟩
  · cases files with
    | nil => simp [pure, Except.pure, eq_comm]
    | cons first files =>
      dsimp only
      split
      · next hpackage => simp [pure, Except.pure, eq_comm, hpackage]
      · next hpackage => simp [hpackage, throw, throwThe, MonadExceptOf.throw]

/-- **The sources of a package are those that are read in its directory**, without those that no
build takes in. -/
theorem mem_foldlM_addSource {names : List Path}
    (h : names.foldlM (t.addSource dir path) files = .ok files') :
    (∀ name ∈ names, ∃ source, t.readSource name = .ok source) ∧
      ∀ source, source ∈ files' ↔ source ∈ files ∨
        ∃ name ∈ names, t.readSource name = .ok source ∧ source.buildIgnored = false := by
  induction names generalizing files with
  | nil =>
    obtain rfl := Except.ok.inj h
    simp
  | cons name names ih =>
    rw [List.foldlM_cons] at h
    obtain ⟨files₁, hadd, h⟩ := exceptBind_eq_ok.mp h
    obtain ⟨first, hread, hadd⟩ := addSource_eq_ok_iff.mp hadd
    obtain ⟨hreads, hmem⟩ := ih h
    refine ⟨List.forall_mem_cons.mpr ⟨⟨first, hread⟩, hreads⟩, fun source => ?_⟩
    rw [hmem, List.exists_mem_cons_iff, ← or_assoc, hread]
    refine or_congr_left ?_
    split at hadd
    · next hignored =>
      subst hadd
      refine (or_iff_left ?_).symm
      rintro ⟨hfirst, hbuilt⟩
      rw [← Except.ok.inj hfirst, hignored] at hbuilt
      cases hbuilt
    · next hbuilt =>
      rw [hadd.2, List.mem_append, List.mem_singleton]
      refine or_congr_right ⟨?_, fun h => (Except.ok.inj h.1).symm⟩
      rintro rfl
      exact ⟨rfl, by simpa using hbuilt⟩

/-- Sources that belong to one package can all be entered. -/
theorem exists_foldlM_addSource {names : List Path} {package : String}
    (hfiles : ∀ source ∈ files, source.package = package)
    (h : ∀ name ∈ names, ∃ source, t.readSource name = .ok source ∧
      (source.buildIgnored = false → source.package = package)) :
    ∃ files', names.foldlM (t.addSource dir path) files = .ok files' := by
  induction names generalizing files with
  | nil => exact ⟨files, rfl⟩
  | cons name names ih =>
    obtain ⟨⟨source, hread, hpackage⟩, hnames⟩ := List.forall_mem_cons.mp h
    obtain ⟨files₁, hadd, hfiles₁⟩ : ∃ files₁, t.addSource dir path files name = .ok files₁ ∧
        ∀ source ∈ files₁, source.package = package := by
      cases hignored : source.buildIgnored with
      | true =>
        exact ⟨files, addSource_eq_ok_iff.mpr ⟨source, hread, by rw [if_pos hignored]⟩, hfiles⟩
      | false =>
        refine ⟨files ++ [source], addSource_eq_ok_iff.mpr ⟨source, hread, ?_⟩,
          List.forall_mem_append.mpr ⟨hfiles, List.forall_mem_singleton.mpr (hpackage hignored)⟩⟩
        rw [if_neg (by simp [hignored])]
        exact ⟨fun first hfirst => (hfiles first (List.mem_of_mem_head? hfirst)).trans
          (hpackage hignored).symm, rfl⟩
    obtain ⟨files', hfiles'⟩ := ih hfiles₁ hnames
    rw [List.foldlM_cons]
    exact ⟨files', exceptBind_eq_ok.mpr ⟨files₁, hadd, hfiles'⟩⟩

/-- The Go sources of a directory, by the path of its place. -/
theorem IsSound.goFiles_path (h : t.IsSound) {l : Location} (hl : t.entry? l = some .directory) :
    t.goFiles l.path = .ok ((t.goFileNames l).map fun name => (l ++ [name]).path) := by
  have hproper : l.IsProper := h.proper (by simp [hl])
  have hfind : t.find l.path = .ok (l, .directory) :=
    (h.find_eq_ok_iff (Path.leadsTo_path hproper)).mpr ⟨rfl, hl⟩
  rw [goFiles, hfind]
  refine congrArg Except.ok (List.map_congr_left fun name hname => ?_)
  obtain ⟨-, content, hentry⟩ := mem_goFileNames.mp hname
  have hname : IsFileName name := h.proper (l := l ++ [name]) (by simp [hentry]) name (by simp)
  refine Path.path_child (Path.isAbsolute_of_isFileName hname) fun s hs => ?_
  have hs := hproper s (List.mem_of_getLast? hs)
  exact ⟨hs.ne_nil, hs.getLast?_ne⟩

end FileTree

namespace Loader

variable {α β : Type} {t : FileTree} {loader loader' : Loader} {module : GoModule} {root : Path}
  {pattern path : String} {patterns : List String} {l : Location} {p : SourcePackage}
  {ps : List SourcePackage}

/-! ### Computations of a loader -/

theorem run_bind (x : LoaderM α) (f : α → LoaderM β) (loader : Loader) :
    (x >>= f).run.run loader =
      match (x.run.run loader).1 with
      | .ok a    => (f a).run.run (x.run.run loader).2
      | .error e => (.error e, (x.run.run loader).2) := by
  rw [ExceptT.run_bind, StateT.run_bind]
  rcases x.run.run loader with ⟨e | a, loader'⟩ <;> rfl

theorem run_bind_eq_ok {x : LoaderM α} {f : α → LoaderM β} {b : β} :
    (x >>= f).run.run loader = (.ok b, loader') ↔
      ∃ a loader₁, x.run.run loader = (.ok a, loader₁) ∧
        (f a).run.run loader₁ = (.ok b, loader') := by
  rw [run_bind]
  rcases x.run.run loader with ⟨e | a, loader₁⟩
  · exact ⟨(nomatch ·), fun ⟨_, _, h, _⟩ => nomatch h⟩
  · refine ⟨fun h => ⟨a, loader₁, rfl, h⟩, fun ⟨a', loader₂, h, h'⟩ => ?_⟩
    obtain ⟨ha, rfl⟩ := Prod.mk.inj h
    obtain rfl := Except.ok.inj ha
    exact h'

theorem run_liftExcept (x : Except Error α) (loader : Loader) :
    (liftM x : LoaderM α).run.run loader = (x, loader) := rfl

/-! ### What is kept -/

/-- Keeps packages under their import paths, one after the other. -/
def keepAll (loader : Loader) (ps : List SourcePackage) : Loader :=
  ps.foldl (fun loader p => loader.keep p.package.path (some p)) loader

theorem keepAll_append (loader : Loader) (ps qs : List SourcePackage) :
    loader.keepAll (ps ++ qs) = (loader.keepAll ps).keepAll qs :=
  List.foldl_append

@[simp]
theorem module_keepAll (loader : Loader) (ps : List SourcePackage) :
    (loader.keepAll ps).module = loader.module := by
  induction ps generalizing loader with
  | nil => rfl
  | cons p ps ih => exact ih _

@[simp]
theorem root_keepAll (loader : Loader) (ps : List SourcePackage) :
    (loader.keepAll ps).root = loader.root := by
  induction ps generalizing loader with
  | nil => rfl
  | cons p ps ih => exact ih _

@[simp]
theorem env_keepAll (loader : Loader) (ps : List SourcePackage) :
    (loader.keepAll ps).env = loader.env := by
  induction ps generalizing loader with
  | nil => rfl
  | cons p ps ih => exact ih _

/-- An import path leads to the package that was kept last under it. -/
theorem lookup_keepAll (loader : Loader) (ps : List SourcePackage) (path : String) :
    (loader.keepAll ps).found.lookup path =
      match ps.reverse.find? (·.package.path == path) with
      | some p => some (some p)
      | none   => loader.found.lookup path := by
  induction ps using List.reverseRecOn with
  | nil => rfl
  | append_singleton ps p ih =>
    rw [keepAll_append, List.reverse_concat, List.find?_cons]
    change ((p.package.path, some p) :: (loader.keepAll ps).found).lookup path = _
    rw [List.lookup_cons, BEq.comm, ih]
    cases p.package.path == path <;> rfl

/-! ### What is read -/

/-- The package in a directory that a pattern matches. -/
def packageIn (t : FileTree) (module : GoModule) (pattern : String) (l : Location) :
    Except Error (Option SourcePackage) :=
  match module.importPath? l.path with
  | none      => throw (.load pattern (.noImportPath l.path))
  | some path => do
    match ← t.readPackage module.path l.path path with
    | some p => return some p
    | none   =>
      if Pattern.isRecursive pattern then return none
      else throw (.load pattern (.noBuildableGoFiles l.path))

/-- The packages that a pattern names. -/
def packagesOf (t : FileTree) (module : GoModule) (root : Path) (pattern : String) :
    Except Error (List SourcePackage) :=
  match module.matchedDirs t root pattern with
  | .error fault => throw (.load pattern fault)
  | .ok dirs     => return (← dirs.mapM (packageIn t module pattern)).filterMap id

/-- The packages of a pattern are those of the directories it matches. -/
theorem packagesOf_eq_ok_iff {t : FileTree} {module : GoModule} {root : Path} {pattern : String}
    {ps : List SourcePackage} :
    packagesOf t module root pattern = .ok ps ↔
      ∃ ls, module.matchedDirs t root pattern = .ok ls ∧
        ∃ ps?, ls.mapM (packageIn t module pattern) = .ok ps? ∧ ps?.filterMap id = ps := by
  rw [packagesOf]
  cases module.matchedDirs t root pattern with
  | error fault => exact ⟨nofun, nofun⟩
  | ok ls =>
    refine exceptBind_eq_ok.trans ⟨fun ⟨ps?, hmap, h⟩ => ⟨ls, rfl, ps?, hmap, Except.ok.inj h⟩, ?_⟩
    rintro ⟨_, ⟨⟩, ps?, hmap, rfl⟩
    exact ⟨ps?, hmap, rfl⟩

/-- The packages that patterns name, pattern by pattern. -/
def namedPackages (t : FileTree) (module : GoModule) (root : Path) (patterns : List String) :
    Except Error (List SourcePackage) :=
  return (← patterns.mapM (packagesOf t module root)).flatten

/-- A directory leads to its package, which is kept, or to a failure. -/
theorem run_loadDirectory (t : FileTree) (pattern : String) (l : Location) (loader : Loader) :
    (loadDirectory t pattern l).run.run loader =
      match packageIn t loader.module pattern l with
      | .error e => (.error e, loader)
      | .ok p?   => (.ok (p?.map (·.package)), loader.keepAll p?.toList) := by
  rw [loadDirectory, packageIn, run_bind]
  change (match loader.module.importPath? l.path with
    | none => throw _
    | some path => _ : LoaderM (Option Package)).run.run loader = _
  cases loader.module.importPath? l.path with
  | none => rfl
  | some path =>
    dsimp only
    rw [run_bind, run_liftExcept]
    rcases hread : t.readPackage loader.module.path l.path path with e | _ | p
    · rfl
    · dsimp only [bind, Except.bind]
      split <;> rfl
    · obtain ⟨_, files, -, -, hp⟩ := FileTree.readPackage_eq_ok_iff.mp hread
      obtain ⟨-, -, rfl, -⟩ := FileTree.packageOf?_eq_some hp
      rfl

/-! ### Where packages come from -/

/-- A package that was read in a directory, whose import path it has. -/
structure LoadedFrom (t : FileTree) (module : GoModule) (l : Location) (p : SourcePackage) :
    Prop where
  path      : module.importPath? l.path = some p.package.path
  read      : t.readPackage module.path l.path p.package.path = .ok (some p)
  directory : t.entry? l = some .directory

theorem LoadedFrom.dir (h : LoadedFrom t module l p) : p.package.dir = l.path := by
  obtain ⟨_, _, -, -, hp⟩ := FileTree.readPackage_eq_ok_iff.mp h.read
  exact (FileTree.packageOf?_eq_some hp).2.2.2

theorem LoadedFrom.location (h : LoadedFrom t module l p) (ht : t.IsSound) :
    p.package.dir.location = l := by
  rw [h.dir, (Path.leadsTo_path (ht.proper (by simp [h.directory]))).location_eq]

theorem LoadedFrom.module_eq (h : LoadedFrom t module l p) : p.package.module = module.path := by
  obtain ⟨_, files, -, -, hp⟩ := FileTree.readPackage_eq_ok_iff.mp h.read
  cases files with
  | nil => cases hp
  | cons first files => exact congrArg (·.package.module) (Option.some.inj hp).symm

/-- **Its sources are those in the directory**, without those that no build takes in. -/
theorem LoadedFrom.mem_files_iff (h : LoadedFrom t module l p) (ht : t.IsSound) {file : SourceFile} :
    file ∈ p.files ↔ ∃ name ∈ t.goFileNames l,
      t.readSource (l ++ [name]).path = .ok file ∧ file.buildIgnored = false := by
  obtain ⟨names, files, hnames, hfiles, hp⟩ := FileTree.readPackage_eq_ok_iff.mp h.read
  obtain ⟨rfl, -⟩ := FileTree.packageOf?_eq_some hp
  rw [ht.goFiles_path h.directory] at hnames
  obtain rfl := Except.ok.inj hnames
  rw [(FileTree.mem_foldlM_addSource hfiles).2]
  simp

/-- Its sources lie in the directory. -/
theorem LoadedFrom.source (h : LoadedFrom t module l p) (ht : t.IsSound) {file : SourceFile}
    (hfile : file ∈ p.files) : ∃ name ∈ t.goFileNames l, file.path = (l ++ [name]).path := by
  obtain ⟨name, hname, hread, -⟩ := (h.mem_files_iff ht).mp hfile
  exact ⟨name, hname, FileTree.path_of_readSource hread⟩

/-- A directory holds a package, or none under a recursive pattern only. -/
theorem packageIn_eq_ok_iff {p? : Option SourcePackage} :
    packageIn t module pattern l = .ok p? ↔
      ∃ path, module.importPath? l.path = some path ∧
        t.readPackage module.path l.path path = .ok p? ∧
        (p? = none → Pattern.isRecursive pattern = true) := by
  rw [packageIn]
  cases module.importPath? l.path with
  | none => exact ⟨nofun, fun ⟨_, h, _⟩ => nomatch h⟩
  | some path =>
    rw [exceptBind_eq_ok]
    constructor
    · rintro ⟨read, hread, h⟩
      cases read with
      | some p => exact ⟨path, rfl, hread.trans h, fun e => by rw [e] at h; exact nomatch h⟩
      | none =>
        dsimp only at h
        split at h
        · next hrec => exact ⟨path, rfl, hread.trans h, fun _ => hrec⟩
        · exact nomatch h
    · rintro ⟨_, ⟨⟩, hread, hrec⟩
      refine ⟨p?, hread, ?_⟩
      cases p? with
      | some p => rfl
      | none => exact if_pos (hrec rfl)

/-- The directories that patterns match. -/
def Matches (t : FileTree) (module : GoModule) (root : Path) (patterns : List String)
    (l : Location) : Prop :=
  ∃ pattern ∈ patterns, ∃ ls, module.matchedDirs t root pattern = .ok ls ∧ l ∈ ls

/-- What patterns match are directories. -/
theorem Matches.directory (h : Matches t module root patterns l) : t.entry? l = some .directory := by
  obtain ⟨pattern, -, ls, hls, hl⟩ := h
  exact GoModule.directory_of_mem_matchedDirs hls hl

/-- Loading succeeds if each directory that a pattern matches can be loaded. -/
theorem exists_namedPackages_iff :
    (∃ ps, namedPackages t module root patterns = .ok ps) ↔
      ∀ pattern ∈ patterns, ∃ ls, module.matchedDirs t root pattern = .ok ls ∧
        ∀ l ∈ ls, ∃ p?, packageIn t module pattern l = .ok p? := by
  constructor
  · rintro ⟨ps, h⟩ pattern hpattern
    obtain ⟨pss, hpss, -⟩ := exceptBind_eq_ok.mp h
    obtain ⟨ps', -, hof⟩ := (mem_of_exceptMapM_eq_ok hpss).1 pattern hpattern
    obtain ⟨ls, hls, ps?, hmap, -⟩ := packagesOf_eq_ok_iff.mp hof
    refine ⟨ls, hls, fun l hl => ?_⟩
    obtain ⟨p?, -, hin⟩ := (mem_of_exceptMapM_eq_ok hmap).1 l hl
    exact ⟨p?, hin⟩
  · intro h
    obtain ⟨pss, hpss⟩ : ∃ pss, patterns.mapM (packagesOf t module root) = .ok pss := by
      refine exists_exceptMapM_eq_ok fun pattern hpattern => ?_
      obtain ⟨ls, hls, hp⟩ := h pattern hpattern
      obtain ⟨ps?, hps⟩ := exists_exceptMapM_eq_ok hp
      exact ⟨ps?.filterMap id, packagesOf_eq_ok_iff.mpr ⟨ls, hls, ps?, hps, rfl⟩⟩
    exact ⟨pss.flatten, exceptBind_eq_ok.mpr ⟨pss, hpss, rfl⟩⟩

/-- **The packages that patterns name are those in the directories that the patterns match.** -/
theorem mem_namedPackages (h : namedPackages t module root patterns = .ok ps) :
    p ∈ ps ↔ ∃ l, Matches t module root patterns l ∧ LoadedFrom t module l p := by
  obtain ⟨pss, hpss, h⟩ := exceptBind_eq_ok.mp h
  obtain rfl := Except.ok.inj h
  obtain ⟨hpatterns, hpackages⟩ := mem_of_exceptMapM_eq_ok hpss
  rw [List.mem_flatten]
  constructor
  · rintro ⟨ps, hps, hp⟩
    obtain ⟨pattern, hpattern, hof⟩ := hpackages ps hps
    obtain ⟨ls, hls, ps?, hmap, rfl⟩ := packagesOf_eq_ok_iff.mp hof
    obtain ⟨_, hp?, rfl⟩ := List.mem_filterMap.mp hp
    obtain ⟨l, hl, hin⟩ := (mem_of_exceptMapM_eq_ok hmap).2 _ hp?
    obtain ⟨path, hpath, hread, -⟩ := packageIn_eq_ok_iff.mp hin
    have hmatches : Matches t module root patterns l := ⟨pattern, hpattern, ls, hls, hl⟩
    obtain ⟨_, _, -, -, hof⟩ := FileTree.readPackage_eq_ok_iff.mp hread
    obtain ⟨-, -, rfl, -⟩ := FileTree.packageOf?_eq_some hof
    exact ⟨l, hmatches, hpath, hread, hmatches.directory⟩
  -- every pattern has been loaded without an error, so the matched directory was read
  · rintro ⟨l, ⟨pattern, hpattern, ls, hls, hl⟩, hloaded⟩
    obtain ⟨ps, hps, hof⟩ := hpatterns pattern hpattern
    refine ⟨ps, hps, ?_⟩
    obtain ⟨_, hls', ps?, hmap, rfl⟩ := packagesOf_eq_ok_iff.mp hof
    obtain rfl := Except.ok.inj (hls.symm.trans hls')
    obtain ⟨p?, hp?, hin⟩ := (mem_of_exceptMapM_eq_ok hmap).1 l hl
    obtain ⟨path, hpath, hread, -⟩ := packageIn_eq_ok_iff.mp hin
    obtain rfl := Option.some.inj (hpath.symm.trans hloaded.path)
    obtain rfl := Except.ok.inj (hread.symm.trans hloaded.read)
    exact List.mem_filterMap.mpr ⟨_, hp?, rfl⟩

end Loader
end GoMocks
