import GoMocks.Proofs.Loading.Additions
import GoMocks.Proofs.Path.Components

/-!
# Dependencies — what additions leave as it was

Where Go sources are added in some directories of a tree, an imported package is still read from where
it was, unless its import path leads to one of these directories now. The same holds at every moment
on the way from the one tree to the other.

* `GoModule.LooksElsewhere`: an import path leads to a directory that was there before, and is none of
  those with additions.
* `GoModule.LooksElsewhere.locate?_eq`: its package is looked for at the same place all the time.
* `GoModule.LooksElsewhere.read_eq`: and is the same.
-/

namespace GoMocks

open GoSource (SourceFile)

/-- What is found first is also found first by a stricter question that it passes. -/
theorem find?_eq_of_imp {α : Type} {p q : α → Bool} {as : List α}
    (himp : ∀ a, p a = true → q a = true) (hfound : ∀ a, as.find? q = some a → p a = true) :
    as.find? p = as.find? q := by
  induction as with
  | nil => rfl
  | cons a as ih =>
    cases hq : q a with
    | true =>
      have ha : (a :: as).find? q = some a := List.find?_cons_of_pos hq
      rw [ha, List.find?_cons_of_pos (hfound a ha)]
    | false =>
      have hp : ¬ p a = true := fun hp => by simp [himp a hp] at hq
      have hrest : (a :: as).find? q = as.find? q := List.find?_cons_of_neg (by simp [hq])
      rw [hrest] at hfound ⊢
      rw [List.find?_cons_of_neg hp]
      exact ih hfound

namespace FileTree

variable {t t' : FileTree} {l m : Location} {name : String} {p dir : Path} {dirs : Location → Prop}

/-! ### Names behind a path -/

/-- Idle parts lead nowhere. -/
theorem eq_of_walk_idles {ps : List (List Char)} (hps : ∀ part ∈ ps, Path.idle part = true)
    (h : t.walk l ps = .ok m) : m = l := by
  induction ps with
  | nil => exact (Except.ok.inj h).symm
  | cons part rest ih =>
    obtain ⟨hpart, hrest⟩ := List.forall_mem_cons.mp hps
    cases hl : t.entry? l with
    | none => simp only [walk, hl] at h; cases h
    | some e =>
      cases e with
      | file content => simp only [walk, hl] at h; cases h
      | directory    => exact ih hrest (walk_of_idle hpart hl rest ▸ h)

/-- A name behind the path of a directory leads to a place in the directory. -/
theorem place_child (hname : IsFileName name) (h : t.find p = .ok (l, .directory)) :
    t.place (p.child name) = .ok (l ++ [name]) := by
  obtain ⟨hplace, hentry⟩ := find_eq_ok_iff.mp h
  have hp : p.text ≠ "" := by
    intro htext
    rw [place, htext] at hplace
    cases hplace
  have hrelative : (Path.mk name).isAbsolute = false ∧ (Path.mk name).parts = [name.toList] := by
    have hparts : ∀ part ∈ [name.toList], '/' ∉ part := by simpa using hname.2.2
    have hpath : Path.mk name = Path.ofParts false [name.toList] := by
      simp [Path.ofParts]
    rw [hpath]
    exact Path.parts_ofParts_false hparts (by simpa using hname.ne_nil) (by simp)
  obtain ⟨habsolute, front, rest, hparts, hrest, hjoin, -⟩ :=
    Path.exists_parts_join hp hrelative.1
  have hstart : t.start (p.join ⟨name⟩) = t.start p := by
    rw [start, start, habsolute]
  -- the parts of `p` that are not in the join stand still
  rw [place, if_neg (by simpa [← String.toList_eq_nil_iff] using hp), hparts, walk_append] at hplace
  obtain ⟨k, hfront, hk⟩ := exceptBind_eq_ok.mp hplace
  obtain rfl : l = k := eq_of_walk_idles (fun part hpart => hrest part hpart ▸ rfl) hk
  have hnonempty : ¬ (p.join ⟨name⟩).text.isEmpty = true := by
    rw [Path.join]
    split
    · next hor =>
      simp only [hrelative.1, Bool.false_or] at hor
      exact absurd (String.isEmpty_iff.mp hor) hp
    · split <;> simp [hp]
  rw [Path.child, place, if_neg hnonempty, hstart, hjoin, hrelative.2, walk_append, hfront]
  change t.walk l [name.toList] = _
  rw [walk, hentry, Location.step_of_isFileName hname]
  rfl

/-- What lies in a directory is found there by its name. -/
theorem find_child (hname : IsFileName name) (h : t.find p = .ok (l, .directory)) :
    t.find (p.child name) =
      match t.entry? (l ++ [name]) with
      | some e => .ok (l ++ [name], e)
      | none   => .error .notFound := by
  rw [find, place_child hname h]
  rfl

/-! ### Directories and their packages -/

theorem isDirectory_iff : t.isDirectory p = true ↔ ∃ l, t.find p = .ok (l, .directory) := by
  rw [isDirectory]
  constructor
  · intro h
    split at h
    · next l hfind => exact ⟨l, hfind⟩
    · cases h
  · rintro ⟨l, hfind⟩
    rw [hfind]

theorem Keeps.isDirectory (h : t.Keeps t') (hp : t.isDirectory p = true) :
    t'.isDirectory p = true := by
  obtain ⟨l, hfind⟩ := isDirectory_iff.mp hp
  exact isDirectory_iff.mpr ⟨l, h.find_directory hfind⟩

/-- Two trees that read the files alike collect the same sound ones. -/
theorem foldl_addSound_congr {path : String} {files : List SourceFile} {paths : List Path}
    (h : ∀ file ∈ paths, t'.readSource file = t.readSource file) :
    paths.foldl (t'.addSound dir path) files = paths.foldl (t.addSound dir path) files := by
  induction paths generalizing files with
  | nil => rfl
  | cons file paths ih =>
    obtain ⟨hfile, hpaths⟩ := List.forall_mem_cons.mp h
    rw [List.foldl_cons, List.foldl_cons, addSound, addSound, addSource, addSource, hfile]
    exact ih hpaths

/-- **What is imported from the other directories is the same**, by whatever path they are
reached. -/
theorem Adds.readDependency_eq (h : t.Adds dirs t') (ht : t.IsSound)
    (hdir : t.find dir = .ok (l, .directory)) (hl : ¬ dirs l) (module path : String) :
    t'.readDependency module dir path = t.readDependency module dir path := by
  have hdir' := h.keeps.find_directory hdir
  have hfiles : t'.goFiles dir = t.goFiles dir := by
    simp only [goFiles, hdir, hdir', h.goFileNames_eq hl]
  rw [readDependency, readDependency, hfiles, goFiles, hdir]
  refine congrArg (packageOf? module dir path) (foldl_addSound_congr fun file hfile => ?_)
  obtain ⟨name, hname, rfl⟩ := List.mem_map.mp hfile
  obtain ⟨-, content, hentry⟩ := mem_goFileNames.mp hname
  have hproper : IsFileName name := ht.proper (l := l ++ [name]) (by simp [hentry]) name (by simp)
  have hentry' := (h.file_iff fun hdirs => absurd hdirs hl).mpr hentry
  rw [readSource, readSource, readText, readText, read, read, find_child hproper hdir,
    find_child hproper hdir', hentry, hentry']

end FileTree

namespace GoModule

variable {m : GoModule} {env : Environment} {path : String} {t t' t₁ : FileTree}
  {dirs : Location → Prop}

/-- An import path leads to a directory that was there before, and is none of some others. Where the
standard library lies was known before. -/
structure LooksElsewhere (m : GoModule) (env : Environment) (dirs : Location → Prop)
    (t t₁ : FileTree) (path : String) : Prop where
  roots : ∀ root ∈ env.goRoots, t₁.isDirectory (root.child "src") = true →
    t.isDirectory (root.child "src") = true
  found : ∀ dir, m.locate? t₁ env path = some dir → t.isDirectory dir = true ∧
    ∀ l, t₁.find dir = .ok (l, .directory) → ¬ dirs l

namespace LooksElsewhere

instance [DecidablePred dirs] : Decidable (m.LooksElsewhere env dirs t t₁ path) :=
  decidable_of_iff
    ((∀ root ∈ env.goRoots, t₁.isDirectory (root.child "src") = true →
        t.isDirectory (root.child "src") = true) ∧
      ∀ dir ∈ m.locate? t₁ env path, t.isDirectory dir = true ∧
        (t₁.isDirectory dir = true → ∀ place ∈ (t₁.find dir).toOption, ¬ dirs place.1)) <| by
    refine ⟨fun ⟨hroots, hfound⟩ => ⟨hroots, fun dir hdir => ⟨(hfound dir hdir).1, fun l hl =>
      (hfound dir hdir).2 (FileTree.isDirectory_iff.mpr ⟨l, hl⟩) (l, .directory) (by rw [hl]; rfl)⟩⟩,
      fun h => ⟨h.roots, fun dir hdir => ⟨(h.found dir hdir).1, fun hdirectory place hplace => ?_⟩⟩⟩
    obtain ⟨l, hl⟩ := FileTree.isDirectory_iff.mp hdirectory
    rw [hl] at hplace
    obtain rfl := Option.some.inj hplace
    exact (h.found dir hdir).2 l hl

theorem mono {dirs' : Location → Prop} (h : m.LooksElsewhere env dirs t t₁ path)
    (hdirs : ∀ l, dirs' l → dirs l) : m.LooksElsewhere env dirs' t t₁ path where
  roots := h.roots
  found := fun dir hdir => ⟨(h.found dir hdir).1, fun l hl hd => (h.found dir hdir).2 l hl (hdirs l hd)⟩

/-- **The package of an import path is looked for at one place**, at any time between two trees. -/
theorem locate?_eq (h : m.LooksElsewhere env dirs t t₁ path) (hkeeps : t.Keeps t')
    (hkeeps' : t'.Keeps t₁) : m.locate? t' env path = m.locate? t₁ env path := by
  have himp : ∀ dir, t'.isDirectory dir = true → t₁.isDirectory dir = true :=
    fun _ => hkeeps'.isDirectory
  have hfound : ∀ dir, m.locate? t₁ env path = some dir → t'.isDirectory dir = true :=
    fun dir hdir => hkeeps.isDirectory (h.found dir hdir).1
  simp only [locate?] at hfound ⊢
  cases hpackage : m.packageDir? path with
  | some dir =>
    simp only [hpackage] at hfound ⊢
    rw [← List.find?_singleton] at hfound
    rw [← List.find?_singleton, ← List.find?_singleton]
    exact find?_eq_of_imp himp hfound
  | none =>
    simp only [hpackage] at hfound ⊢
    -- the first root with a `src` is the same one: `t'` has no directory that `t₁` lacks, and the
    -- one `t₁` finds is old
    have hroots : (env.goRoots.find? fun root => t'.isDirectory (root.child "src")) =
        env.goRoots.find? fun root => t₁.isDirectory (root.child "src") := by
      refine find?_eq_of_imp (fun root => himp _) fun root hroot => hkeeps.isDirectory ?_
      have hsrc : t₁.isDirectory (root.child "src") = true := by
        simpa using List.find?_some hroot
      exact h.roots root (List.mem_of_find?_eq_some hroot) hsrc
    have hdirs : m.dependencyDirs t' env path = m.dependencyDirs t₁ env path := by
      rw [dependencyDirs, dependencyDirs, standardDir?, standardDir?, hroots]
    rw [hdirs]
    exact find?_eq_of_imp himp hfound

/-- **The package of an import path stays the same**, at any time between two trees. -/
theorem read_eq (h : m.LooksElsewhere env dirs t t₁ path) (ht : t.IsSound) (hadds : t.Adds dirs t')
    (hkeeps : t'.Keeps t₁) : Loader.read t' m env path = Loader.read t m env path := by
  have hplace := h.locate?_eq hadds.keeps hkeeps
  have hplace₀ := h.locate?_eq (.refl t) (hadds.keeps.trans hkeeps)
  have hdependency : (m.locate? t' env path >>= fun dir => t'.readDependency m.path dir path) =
      m.locate? t env path >>= fun dir => t.readDependency m.path dir path := by
    rw [hplace, hplace₀]
    cases hdir : m.locate? t₁ env path with
    | none => rfl
    | some dir =>
      obtain ⟨hthere, hl⟩ := h.found dir hdir
      obtain ⟨l, hfind⟩ := FileTree.isDirectory_iff.mp hthere
      exact hadds.readDependency_eq ht hfind
        (hl l ((hadds.keeps.trans hkeeps).find_directory hfind)) m.path path
  rw [Loader.read, Loader.read, hdependency]

end LooksElsewhere

end GoModule

end GoMocks
