import GoMocks.Proofs.Loading.Attempts
import GoMocks.Proofs.ModuleFile

/-!
# Loading — answers do not depend on what was asked before

A package that is loaded for a pattern is the one that would be read as a dependency: sources that
are all sound lose nothing where the others are passed over, and the import path of a directory
leads back to it. So a loader that has loaded packages finds what a new one would read, and what it
was asked since then changes nothing.

* `FileTree.readDependency_of_readPackage`: both ways of reading a directory agree.
* `Loader.read_of_loadedFrom`: so do a loaded package and a dependency of the same path.
* `Loader.Query`: what a loader is asked; `Loader.answer_perform`: its packages decide the answer.
* `Loader.answers_independent`: loaders for one module give the same answers, whatever they loaded
  and whatever they were asked.
-/

namespace GoMocks

open GoSource (SourceFile)

/-! ### Both ways of reading a directory -/

namespace FileTree

variable {t : FileTree} {module path : String} {dir : Path} {files files' : List SourceFile}

/-- Where every file is sound, collecting the sound ones collects all. -/
theorem foldl_addSound_of_foldlM {names : List Path}
    (h : names.foldlM (t.addSource dir path) files = .ok files') :
    names.foldl (t.addSound dir path) files = files' := by
  induction names generalizing files with
  | nil => exact Except.ok.inj h
  | cons name names ih =>
    rw [List.foldlM_cons] at h
    obtain ⟨files₁, hadd, h⟩ := exceptBind_eq_ok.mp h
    have hsound : t.addSound dir path files name = files₁ := by rw [addSound, hadd]
    rw [List.foldl_cons, hsound]
    exact ih h

/-- **Where all sources are sound, none is passed over.** -/
theorem readDependency_of_readPackage {p? : Option SourcePackage}
    (h : t.readPackage module dir path = .ok p?) : t.readDependency module dir path = p? := by
  obtain ⟨names, files, hnames, hfiles, rfl⟩ := readPackage_eq_ok_iff.mp h
  rw [readDependency, hnames]
  exact congrArg (packageOf? module dir path) (foldl_addSound_of_foldlM hfiles)

end FileTree

namespace Loader

variable {t : FileTree} {env : Environment} {module : GoModule} {loader loader' : Loader}
  {l r : Location} {p : SourcePackage} {ps : List SourcePackage} {patterns : List String}
  {packages : List Package} {dir : Path}

/-! ### What was loaded, and what would be read -/

/-- **A package that was loaded is what its import path leads to.** -/
theorem read_of_loadedFrom (ht : t.IsSound) (hdir : module.dir = r.path) (hr : r.IsProper)
    (h : LoadedFrom t module l p) (env : Environment) :
    read t module env p.package.path = some p := by
  have hl : l.IsProper := ht.proper (by simp [h.directory])
  have hpackage := GoModule.packageDir?_of_importPath? hdir hr hl h.path
  have hcontains : module.contains p.package.path = true := by
    rw [GoModule.packageDir?] at hpackage
    obtain ⟨rest, hrest, -⟩ := Option.map_eq_some_iff.mp hpackage
    rw [GoModule.contains, hrest]
    rfl
  have hfound : t.isDirectory l.path = true := by
    rw [FileTree.isDirectory, (ht.find_eq_ok_iff (Path.leadsTo_path hl)).mpr ⟨rfl, h.directory⟩]
  have hlocated : module.locate? t env p.package.path = some l.path := by
    rw [GoModule.locate?, hpackage]
    exact if_pos hfound
  rw [read, hcontains, hlocated]
  exact FileTree.readDependency_of_readPackage h.read

/-- Packages that would be read just so may as well be kept. -/
theorem packages_keepAll
    (h : ∀ p ∈ ps, read t loader.module loader.env p.package.path = some p)
    (hloader : loader.packages t = read t loader.module loader.env) :
    (loader.keepAll ps).packages t = read t loader.module loader.env := by
  funext path
  rw [Loader.packages, lookup_keepAll, module_keepAll, env_keepAll]
  cases hfind : ps.reverse.find? (·.package.path == path) with
  | none => exact congrFun hloader path
  | some p =>
    have hp : p ∈ ps := List.mem_reverse.mp (List.mem_of_find?_eq_some hfind)
    have hpath : p.package.path = path := by simpa using List.find?_some hfind
    exact hpath ▸ (h p hp).symm

/-- **After loading, a loader finds what would be read**, whichever patterns it was given. -/
theorem packages_of_loadPackages (ht : t.IsSound) (h : ofDirectory t env dir = .ok loader)
    (hload : (loadPackages t patterns).run.run loader = (.ok packages, loader')) :
    loader'.packages t = read t loader.module env ∧ loader'.module = loader.module ∧
      loader'.env = env := by
  obtain ⟨m, hm, h⟩ := exceptBind_eq_ok.mp h
  obtain ⟨root, rfl⟩ : ∃ root, loader = { module := m, root, env } := by
    cases hroot : t.canonical dir with
    | error fault => rw [hroot] at h; cases h
    | ok root =>
      rw [hroot] at h
      exact ⟨root, (Except.ok.inj h).symm⟩
  obtain ⟨r, hdir, hr⟩ := GoModule.exists_dir_of_find ht hm
  obtain ⟨ps, hps, -, rfl⟩ := run_loadPackages_eq_ok_iff.mp hload
  refine ⟨packages_keepAll (fun p hp => ?_) rfl, module_keepAll _ _, env_keepAll _ _⟩
  obtain ⟨l, -, hloaded⟩ := (mem_namedPackages hps).mp hp
  exact read_of_loadedFrom ht hdir hr hloaded env

/-! ### Queries -/

/-- What a loader is asked. -/
inductive Query where
  /-- The interfaces of a package. -/
  | interfaces  (path : String)
  /-- The methods of a declared type. -/
  | methods     (n : NamedType)
  /-- The type that a declared type is. -/
  | underlying  (n : NamedType)
  /-- The name of a package. -/
  | packageName (path : String)

/-- What it answers. -/
inductive Answer where
  | interfaces  (outcome : Except Error (List Interface))
  | methods     (outcome : Except Error (List Method))
  | underlying  (outcome : Except Error GoType)
  | packageName (name : String)

namespace Query

/-- Asks a loader, which may find packages on the way. -/
def perform (t : FileTree) : Query → StateM Loader Answer
  | interfaces path  => return .interfaces (← (Loader.interfaces t path).run)
  | methods n        => return .methods (← (Loader.answer t n.methods).run)
  | underlying n     => return .underlying (← (Loader.answer t n.underlying).run)
  | packageName path => return .packageName (← Loader.packageName t path)

/-- The interfaces of a package, where packages are given by a function. -/
def listing (packages : String → Option SourcePackage) (path : String) :
    Except Error (List Interface) :=
  match packages path with
  | none   => throw (.load path .notLoaded)
  | some p => p.interfaces.answer packages

/-- The answer, where packages are given by a function. -/
def answer (packages : String → Option SourcePackage) : Query → Answer
  | interfaces path  => .interfaces (listing packages path)
  | methods n        => .methods (n.methods.answer packages)
  | underlying n     => .underlying (n.underlying.answer packages)
  | packageName path => .packageName ((Lookup.packageName path).answer packages)

end Query

/-- An inquiry run on a loader gives what the packages answer. -/
theorem run_answer {α : Type} (t : FileTree) (inquiry : Inquiry α) (loader : Loader) :
    ((Loader.answer t inquiry).run.run loader).1 = inquiry.answer (loader.packages t) ∧
      ((Loader.answer t inquiry).run.run loader).2.packages t = loader.packages t := by
  obtain ⟨loader', hrun, hkept⟩ := run_answerIn t inquiry.run loader
  have h : (Loader.answer t inquiry).run.run loader =
      (inquiry.answer (loader.packages t), loader') := hrun
  rw [h]
  exact ⟨rfl, hkept⟩

/-- **The packages of a loader decide its answer, and no question changes them.** -/
theorem answer_perform (t : FileTree) (query : Query) (loader : Loader) :
    ((query.perform t).run loader).1 = query.answer (loader.packages t) ∧
      ((query.perform t).run loader).2.packages t = loader.packages t := by
  cases query with
  | interfaces path =>
    obtain ⟨loader', hfind, hkept⟩ := run_find t path loader
    have hanswer : ((Loader.interfaces t path).run.run loader).1 =
        Query.listing (loader.packages t) path := by
      rw [run_interfaces, hfind, Query.listing]
      cases loader.packages t path with
      | none => rfl
      | some p =>
        dsimp only
        rw [(run_answer t p.interfaces loader').1, hkept]
    exact ⟨congrArg Answer.interfaces hanswer, packages_interfaces t path loader⟩
  | methods n =>
    obtain ⟨hanswer, hkept⟩ := run_answer t n.methods loader
    exact ⟨congrArg Answer.methods hanswer, hkept⟩
  | underlying n =>
    obtain ⟨hanswer, hkept⟩ := run_answer t n.underlying loader
    exact ⟨congrArg Answer.underlying hanswer, hkept⟩
  | packageName path =>
    obtain ⟨loader', hrun, hkept⟩ := run_answerIn t (Lookup.packageName path) loader
    have h : (Loader.packageName t path).run loader =
        ((Lookup.packageName path).answer (loader.packages t), loader') := hrun
    constructor
    · exact congrArg (fun run => Answer.packageName (Prod.fst run)) h
    · exact (congrArg (fun run => (Prod.snd run).packages t) h).trans hkept

/-- A loader that was asked some questions. -/
def afterQueries (t : FileTree) (loader : Loader) (queries : List Query) : Loader :=
  queries.foldl (fun loader query => ((query.perform t).run loader).2) loader

/-- Queries leave what a loader stands for. -/
theorem packages_afterQueries (t : FileTree) (loader : Loader) (queries : List Query) :
    (loader.afterQueries t queries).packages t = loader.packages t := by
  induction queries generalizing loader with
  | nil => rfl
  | cons query queries ih => exact (ih _).trans (answer_perform t query loader).2

/-! ### Two histories -/

/-- **Loading is independent of history.** Two loaders for one module, each of which has loaded
packages and has answered questions since, give the same answer to the same question; and a package
that could be requested is the same where it is only imported. -/
theorem answers_independent {loader₁ loader₂ loaded₁ loaded₂ : Loader} {dir₁ dir₂ : Path}
    {patterns₁ patterns₂ : List String} {packages₁ packages₂ : List Package} (ht : t.IsSound)
    (h₁ : ofDirectory t env dir₁ = .ok loader₁) (h₂ : ofDirectory t env dir₂ = .ok loader₂)
    (hmodule : loader₂.module.dir = loader₁.module.dir)
    (hload₁ : (loadPackages t patterns₁).run.run loader₁ = (.ok packages₁, loaded₁))
    (hload₂ : (loadPackages t patterns₂).run.run loader₂ = (.ok packages₂, loaded₂)) :
    (∀ (queries₁ queries₂ : List Query) (query : Query),
        ((query.perform t).run (loaded₁.afterQueries t queries₁)).1 =
          ((query.perform t).run (loaded₂.afterQueries t queries₂)).1) ∧
      ∀ module dir path p?, t.readPackage module dir path = .ok p? →
        t.readDependency module dir path = p? := by
  refine ⟨fun queries₁ queries₂ query => ?_,
    fun _ _ _ _ => FileTree.readDependency_of_readPackage⟩
  have hfound : ∀ {dir : Path} {loader : Loader}, ofDirectory t env dir = .ok loader →
      GoModule.find t dir = .ok loader.module := by
    intro dir loader h
    obtain ⟨m, hm, h⟩ := exceptBind_eq_ok.mp h
    cases hroot : t.canonical dir with
    | error fault => rw [hroot] at h; cases h
    | ok root =>
      rw [hroot] at h
      rw [← Except.ok.inj h]
      exact hm
  obtain ⟨hpackages₁, -⟩ := packages_of_loadPackages ht h₁ hload₁
  obtain ⟨hpackages₂, -⟩ := packages_of_loadPackages ht h₂ hload₂
  rw [(answer_perform t query _).1, (answer_perform t query _).1, packages_afterQueries,
    packages_afterQueries, hpackages₁, hpackages₂,
    GoModule.find_eq_of_dir ht (hfound h₁) (hfound h₂) hmodule]

/-! ### A module at hand -/

/-- A store, in a package of its own, whose interface comes with the methods of another package. -/
def storeTree : FileTree where
  entries :=
    [(["m"], .directory), (["m", "go.mod"], .file "module m\n".toUTF8),
      (["m", "x"], .directory),
      (["m", "x", "x.go"], .file
        "package x\nimport \"m/go-io\"\ntype Store interface { io.Closer; Get() io.Item }\n".toUTF8),
      (["m", "go-io"], .directory),
      (["m", "go-io", "a.go"], .file "package io\ntype Closer interface { Close() }\n".toUTF8),
      (["m", "go-io", "b.go"], .file "package io\ntype Item struct{}\n".toUTF8)]
  current := ["m"]

/-- The packages that a new loader in a directory loads. -/
def loads (t : FileTree) (dir : Path) (patterns : List String) : Except Error (List Package) := do
  let loader ← ofDirectory t {} dir
  ((loadPackages t patterns).run.run loader).1

/-- What is loaded from a directory is loaded by its loader. -/
theorem exists_of_loads (h : loads t dir patterns = .ok packages) :
    ∃ loader loaded, ofDirectory t {} dir = .ok loader ∧
      (loadPackages t patterns).run.run loader = (.ok packages, loaded) := by
  obtain ⟨loader, hloader, h⟩ := exceptBind_eq_ok.mp h
  exact ⟨loader, _, hloader, Prod.ext h rfl⟩

/-- The methods of the store are the same for a loader that only imports the other package, after
questions about it, and for one in that package which loads everything. -/
theorem answers_independent_store :
    ∃ loader₁ loader₂ loaded₁ loaded₂ packages₁ packages₂, storeTree.IsSound ∧
      ofDirectory storeTree {} ⟨"/m"⟩ = .ok loader₁ ∧
      ofDirectory storeTree {} ⟨"/m/go-io"⟩ = .ok loader₂ ∧
      loader₂.module.dir = loader₁.module.dir ∧
      (loadPackages storeTree ["./x"]).run.run loader₁ = (.ok packages₁, loaded₁) ∧
      (loadPackages storeTree ["../..."]).run.run loader₂ = (.ok packages₂, loaded₂) ∧
      packages₁.length = 1 ∧ packages₂.length = 2 ∧
      (((Query.methods ⟨some "m/x", "Store", []⟩).perform storeTree).run
          (loaded₁.afterQueries storeTree
            [.packageName "m/go-io", .underlying ⟨some "m/go-io", "Item", []⟩])).1 =
        (((Query.methods ⟨some "m/x", "Store", []⟩).perform storeTree).run loaded₂).1 := by
  have hsound : storeTree.IsSound := by decide +kernel
  have hmodule : ∀ dir ∈ [Path.mk "/m", ⟨"/m/go-io"⟩],
      (ofDirectory storeTree {} dir).map (·.module.dir) = .ok ⟨"/m"⟩ := by decide +kernel
  have hlength₁ : (loads storeTree ⟨"/m"⟩ ["./x"]).map List.length = .ok 1 := by decide +kernel
  have hlength₂ : (loads storeTree ⟨"/m/go-io"⟩ ["../..."]).map List.length = .ok 2 := by
    decide +kernel
  have hdir₁ := hmodule _ List.mem_cons_self
  have hdir₂ := hmodule ⟨"/m/go-io"⟩ (List.mem_cons_of_mem _ List.mem_cons_self)
  cases hloads₁ : loads storeTree ⟨"/m"⟩ ["./x"] with
  | error e => rw [hloads₁] at hlength₁; cases hlength₁
  | ok packages₁ =>
    cases hloads₂ : loads storeTree ⟨"/m/go-io"⟩ ["../..."] with
    | error e => rw [hloads₂] at hlength₂; cases hlength₂
    | ok packages₂ =>
      obtain ⟨loader₁, loaded₁, h₁, hload₁⟩ := exists_of_loads hloads₁
      obtain ⟨loader₂, loaded₂, h₂, hload₂⟩ := exists_of_loads hloads₂
      rw [hloads₁] at hlength₁
      rw [hloads₂] at hlength₂
      rw [h₁] at hdir₁
      rw [h₂] at hdir₂
      have hdir := (Except.ok.inj hdir₂).trans (Except.ok.inj hdir₁).symm
      exact ⟨loader₁, loader₂, loaded₁, loaded₂, packages₁, packages₂, hsound, h₁, h₂, hdir, hload₁,
        hload₂, Except.ok.inj hlength₁, Except.ok.inj hlength₂,
        (answers_independent hsound h₁ h₂ hdir hload₁ hload₂).1 _ [] _⟩

end Loader

end GoMocks
