import GoMocks.Proofs.ModuleFile
import GoMocks.Proofs.Path.Components

/-!
# Module files — packages and directories

An import path of a module is the path of the module with elements behind it, and a directory of the
module is the module's own with steps behind it. The elements are the steps.

* `ImportPath.within?_eq_some_iff`: the import paths of a module, at the borders of elements.
* `GoModule.importPath?_eq`: the import path of any directory.
* `GoModule.packages_correspond`: import paths and directories of a module correspond to each other,
  and all tests for the import paths of a module agree.
-/

namespace GoMocks

namespace ImportPath

variable {path module rest : String}

/-- A path lies in a module where it is the module path, or goes on behind it with a slash. -/
theorem within?_eq_some_iff :
    within? path module = some rest ↔
      (path = module ∧ rest = "") ∨ path = module ++ "/" ++ rest := by
  have hbehind {rest : String} : module ++ "/" ++ rest ≠ module := by
    simp [← String.toList_inj]
  rw [within?]
  split
  · next heq =>
    subst heq
    simp [eq_comm, hbehind.symm]
  · next hne =>
    have hcut : path = module ++ "/" ++ rest ↔ module.toList ++ '/' :: rest.toList = path.toList := by
      rw [← String.toList_inj]
      simp [eq_comm]
    rw [hcut, Text.afterFront?]
    by_cases hfront : module.toList <+: path.toList
    · obtain ⟨behind, hpath⟩ := hfront
      simp only [← hpath, List.isPrefixOf_iff_prefix, List.prefix_append, if_true, List.drop_left,
        List.append_cancel_left_eq]
      rcases behind with _ | ⟨c, behind⟩
      · simp [hne]
      -- behind the module's path only a slash will do
      · by_cases hc : c = '/'
        · subst hc
          constructor
          · rintro ⟨⟩
            exact .inr (by rw [String.toList_ofList])
          · rintro (⟨heq, -⟩ | heq)
            · exact absurd heq hne
            · obtain ⟨-, rfl⟩ := List.cons_eq_cons.mp heq
              exact congrArg some String.ofList_toList
        · have hother : ¬ '/' :: rest.toList = c :: behind :=
            fun e => hc (List.cons_eq_cons.mp e).1.symm
          simp [hne, hother, hc]
    · have hno : ¬ module.toList ++ '/' :: rest.toList = path.toList := fun e => hfront ⟨_, e⟩
      simp [hne, hno, hfront]

/-- The text of an import path behind its module, from its elements. -/
theorem foldl_elements (base rest : String) :
    (elements rest).foldl (fun path element => path ++ "/" ++ element) base =
      base ++ "/" ++ rest := by
  have hne : elements rest ≠ [] := by
    simp [elements]
  have htext : (elements rest).map String.toList = rest.toList.splitOn '/' := by
    simp [elements, Function.comp_def]
  rw [GoModule.foldl_names base hne, String.append_assoc]
  refine congrArg (base ++ ·) (String.toList_injective ?_)
  rw [Path.toList_path, htext, List.intercalate_splitOn, String.toList_append]
  rfl

end ImportPath

namespace GoModule

variable {m : GoModule} {path rest : String} {dir : Path}

/-- Does the path lie below the module path, by elements that are names? Elements that are empty or
a dot say nothing. -/
def HasPackagePath (m : GoModule) (path : String) : Prop :=
  path = m.path ∨ ∃ rest, path = m.path ++ "/" ++ rest ∧
    ∀ element ∈ ImportPath.elements rest, element ≠ "" ∧ element ≠ "."

/-- Does the directory lie at the directory of the module or below it, by its components? No absolute
directory lies below a relative one. -/
def HasDirectory (m : GoModule) (dir : Path) : Prop :=
  dir.isAbsolute = m.dir.isAbsolute ∧ m.dir.components <+: dir.components

/-- **The import path of a directory** goes on behind the module path with the components behind
those of the module directory. -/
theorem importPath?_eq (m : GoModule) (dir : Path) :
    m.importPath? dir =
      if m.dir.components <+: dir.components then
        some ((dir.components.drop m.dir.components.length).foldl
          (fun path c => path ++ "/" ++ c.text) m.path)
      else none := by
  have hcomponents := Path.components_relativeTo? dir m.dir
  rw [importPath?]
  cases hrest : dir.relativeTo? m.dir with
  | none =>
    rw [hrest] at hcomponents
    split at hcomponents
    · cases hcomponents
    · next hbelow => rw [if_neg hbelow]; rfl
  | some rest =>
    rw [hrest] at hcomponents
    split at hcomponents
    · next hbelow => rw [if_pos hbelow, ← Option.some.inj hcomponents]; rfl
    · cases hcomponents

/-- The directory of a package, from the elements of its import path. -/
theorem below_eq {cs : List Path.Component} (hcs : ∀ c ∈ cs, c.text.toList ≠ [])
    (hrest : ImportPath.elements rest = cs.map Path.Component.text) (dir : Path) :
    below dir rest = (cs.map Path.Component.text).foldl Path.child dir := by
  have hkept : (cs.map Path.Component.text).filter (fun s => !s.isEmpty) =
      cs.map Path.Component.text := by
    refine List.filter_eq_self.mpr fun text htext => ?_
    obtain ⟨c, hc, rfl⟩ := List.mem_map.mp htext
    simpa [← String.toList_eq_nil_iff] using hcs c hc
  rw [below, hrest, hkept]

/-- The steps that the elements of an import path are. -/
theorem exists_steps_of_elements
    (h : ∀ element ∈ ImportPath.elements rest, element ≠ "" ∧ element ≠ ".") :
    ∃ cs : List Path.Component, (∀ c ∈ cs, c.IsStep) ∧
      ImportPath.elements rest = cs.map Path.Component.text := by
  refine ⟨(ImportPath.elements rest).map Path.Component.ofName, List.forall_mem_map.mpr ?_, ?_⟩
  · intro element helement
    obtain ⟨hne, hdot⟩ := h element helement
    obtain ⟨part, hpart, rfl⟩ := List.mem_map.mp helement
    have hne : part ≠ [] := fun e => hne (by rw [e])
    have hdot : part ≠ ['.'] := fun e => hdot (by rw [e])
    refine Path.Component.isStep_ofName ?_ ?_ <;> rw [String.toList_ofList]
    · simp [Path.idle, hne, hdot]
    · exact Path.not_mem_of_mem_splitOn hpart
  · simp [Function.comp_def, Path.Component.text_ofName]

/-- The elements behind the module path that some steps are written as. -/
theorem exists_elements_of_steps {cs : List Path.Component} (hne : cs ≠ [])
    (hcs : ∀ c ∈ cs, '/' ∉ c.text.toList) (base : String) :
    ∃ rest, cs.foldl (fun path c => path ++ "/" ++ c.text) base = base ++ "/" ++ rest ∧
      ImportPath.elements rest = cs.map Path.Component.text := by
  have hslash : ∀ part ∈ cs.map (·.text.toList), '/' ∉ part := List.forall_mem_map.mpr hcs
  have helements : ImportPath.elements (.ofList (['/'].intercalate (cs.map (·.text.toList)))) =
      cs.map Path.Component.text := by
    rw [ImportPath.elements, String.toList_ofList,
      List.splitOn_intercalate '/' hslash (by simpa using hne), List.map_map]
    simp [Function.comp_def]
  refine ⟨_, ?_, helements⟩
  rw [← ImportPath.foldl_elements, helements, List.foldl_map]

theorem within?_self (path : String) : ImportPath.within? path path = some "" :=
  if_pos rfl

/-- An import path with elements that are names leads to a directory and back. -/
theorem importPath?_of_packageDir? (h : m.HasPackagePath path) :
    ∃ dir, m.packageDir? path = some dir ∧ m.HasDirectory dir ∧ m.importPath? dir = some path := by
  rcases h with rfl | ⟨rest, rfl, hrest⟩
  · refine ⟨m.dir, by rw [packageDir?, within?_self]; rfl, ⟨rfl, List.prefix_refl _⟩, ?_⟩
    rw [importPath?_eq, if_pos (List.prefix_refl _), List.drop_length]
    rfl
  · obtain ⟨cs, hcs, helements⟩ := exists_steps_of_elements hrest
    have hwithin := ImportPath.within?_eq_some_iff.mpr (.inr (rfl : m.path ++ "/" ++ rest = _))
    have hne : ∀ c ∈ cs, c.text.toList ≠ [] := fun c hc => (hcs c hc).text_ne_nil
    have hcomponents := Path.components_children m.dir hcs
    have hprefix : m.dir.components <+:
        ((cs.map Path.Component.text).foldl Path.child m.dir).components :=
      hcomponents ▸ List.prefix_append _ _
    refine ⟨_, by rw [packageDir?, hwithin, Option.map_some, below_eq hne helements],
      ⟨?_, hprefix⟩, ?_⟩
    · rw [Bool.eq_iff_iff, Path.isAbsolute_iff, Path.isAbsolute_iff, hcomponents]
      cases hdir : m.dir.components with
      | cons => rfl
      | nil =>
        have hroot : cs.head? ≠ some .root := fun e => by cases hcs _ (List.mem_of_mem_head? e)
        simp [hroot]
    · rw [importPath?_eq, if_pos hprefix, hcomponents, List.drop_left, ← ImportPath.foldl_elements,
        helements, List.foldl_map]

/-- What stands behind the module directory in a directory of the module: steps, or all of it. -/
theorem HasDirectory.exists_components (h : m.HasDirectory dir) :
    ∃ cs, dir.components = m.dir.components ++ cs ∧ ((∀ c ∈ cs, c.IsStep) ∨
      m.dir = ⟨""⟩ ∧ ∃ more, cs = .current :: more ∧ ∀ c ∈ more, c.IsStep) := by
  obtain ⟨habsolute, hprefix⟩ := h
  obtain ⟨cs, hcs⟩ := hprefix
  refine ⟨cs, hcs.symm, ?_⟩
  by_cases hne : m.dir.components = []
  · have htext : m.dir = ⟨""⟩ := congrArg Path.mk (Path.text_eq_of_components_eq_nil hne)
    have hsteps : ∀ c ∈ dir.stepComponents, c.IsStep :=
      fun c hc => Path.isStep_of_mem_stepComponents hc
    rw [hne, List.nil_append, Path.components_eq, Path.start, habsolute, htext] at hcs
    split at hcs
    · next hroot => cases hroot
    · split at hcs
      · exact .inr ⟨htext, _, hcs, hsteps⟩
      · exact .inl (hcs ▸ hsteps)
  · obtain ⟨hstart, -⟩ := Path.stepComponents_of_isPrefix ⟨cs, hcs⟩ hne
    rw [Path.components_eq, Path.components_eq dir, hstart, List.append_assoc,
      List.append_cancel_left_eq] at hcs
    exact .inl fun c hc => Path.isStep_of_mem_stepComponents (hcs ▸ List.mem_append_right _ hc)

/-- A directory of the module has an import path that leads back to it. -/
theorem packageDir?_of_hasDirectory (h : m.HasDirectory dir) :
    ∃ path dir', m.importPath? dir = some path ∧ m.packageDir? path = some dir' ∧
      dir'.components = dir.components ∧ (m.dir.IsNormal → dir.IsNormal → dir' = dir) := by
  obtain ⟨cs, hcs, hsteps⟩ := h.exists_components
  have hpath : m.importPath? dir = some (cs.foldl (fun path c => path ++ "/" ++ c.text) m.path) := by
    rw [importPath?_eq, if_pos h.2, hcs, List.drop_left]
  have hnormal (hm : m.dir.IsNormal) (hdir : dir.IsNormal) :
      (cs.map Path.Component.text).foldl Path.child m.dir = dir := by
    rw [Path.IsNormal] at hm hdir
    rw [hcs, List.map_append, List.foldl_append, hm] at hdir
    exact hdir
  rcases eq_or_ne cs [] with rfl | hne
  · refine ⟨_, m.dir, hpath, by rw [packageDir?, List.foldl_nil, within?_self]; rfl, ?_, hnormal⟩
    rw [hcs, List.append_nil]
  · have htext {c : Path.Component} (hc : c.IsStep) : '/' ∉ c.text.toList ∧ c.text.toList ≠ [] :=
      ⟨hc.slash_not_mem, hc.text_ne_nil⟩
    have htexts : ∀ c ∈ cs, '/' ∉ c.text.toList ∧ c.text.toList ≠ [] := by
      rcases hsteps with hsteps | ⟨-, more, rfl, hmore⟩
      · exact fun c hc => htext (hsteps c hc)
      · exact List.forall_mem_cons.mpr ⟨by decide, fun c hc => htext (hmore c hc)⟩
    obtain ⟨rest, hrest, helements⟩ :=
      exists_elements_of_steps hne (fun c hc => (htexts c hc).1) m.path
    have hwithin := ImportPath.within?_eq_some_iff.mpr (.inr (rfl : m.path ++ "/" ++ rest = _))
    refine ⟨_, _, hpath, by rw [hrest, packageDir?, hwithin, Option.map_some,
      below_eq (fun c hc => (htexts c hc).2) helements], ?_, hnormal⟩
    rw [hcs]
    -- when the module's directory is empty, the first step may be `.`
    rcases hsteps with hsteps | ⟨hm, more, rfl, hmore⟩
    · exact Path.components_children m.dir hsteps
    · rw [hm]
      exact Path.components_children ⟨"."⟩ hmore

/-- A module contains its own path and what follows it behind a slash. -/
theorem contains_iff (m : GoModule) (path : String) :
    m.contains path ↔ path = m.path ∨ ∃ rest, path = m.path ++ "/" ++ rest := by
  rw [contains, Option.isSome_iff_exists]
  constructor
  · rintro ⟨rest, hrest⟩
    exact (ImportPath.within?_eq_some_iff.mp hrest).imp And.left fun h => ⟨rest, h⟩
  · rintro (rfl | ⟨rest, h⟩)
    · exact ⟨"", within?_self _⟩
    · exact ⟨rest, ImportPath.within?_eq_some_iff.mpr (.inr h)⟩

/-- A path that goes on behind the module path without a slash is no path of the module. -/
theorem not_contains_append {suffix : String} (hne : suffix ≠ "")
    (hslash : suffix.toList.head? ≠ some '/') (m : GoModule) :
    m.contains (m.path ++ suffix) = false := by
  refine Bool.eq_false_iff.mpr fun h => ?_
  rcases (contains_iff m _).mp h with h | ⟨rest, h⟩
  · rw [← String.toList_inj, String.toList_append, List.append_right_eq_self] at h
    exact hne (String.toList_eq_nil_iff.mp h)
  · rw [String.append_assoc, String.append_right_inj] at h
    refine hslash ?_
    rw [h, String.toList_append]
    rfl

/-- Classing a path asks whether it goes on behind the module path with a slash. It does where the
module contains it. -/
theorem contains_eq_goesOn (m : GoModule) (path : String) :
    m.contains path = (path == m.path ||
      (Text.afterFront? m.path.toList path.toList).any (·.head? == some '/')) := by
  rw [contains, ImportPath.within?]
  by_cases h : path = m.path
  · simp [h]
  · rw [if_neg h, beq_eq_false_iff_ne.mpr h, Bool.false_or]
    cases hafter : Text.afterFront? m.path.toList path.toList with
    | none      => rfl
    | some rest =>
      cases rest with
      | nil       => rfl
      | cons c cs => by_cases hc : c = '/' <;> simp [hc]

/-- An import is internal when a named module contains it. -/
theorem importClass_eq_internal_iff (m : GoModule) (path : String) :
    ImportClass.of path m.path = .internal ↔ m.path ≠ "" ∧ m.contains path := by
  rw [ImportClass.of, ← contains_eq_goesOn]
  by_cases h : (!m.path.isEmpty && m.contains path) = true
  · rw [if_pos h]
    simpa [← String.toList_eq_nil_iff] using h
  · rw [if_neg h]
    have hno : ¬ (m.path ≠ "" ∧ m.contains path) := by
      simpa [← String.toList_eq_nil_iff] using h
    split <;> simpa using hno

/-- **Import paths and directories of a module correspond to each other.** An import path of the
module whose elements are names leads to a directory of the module, and back. A directory of the
module leads to an import path, and back to a directory with the same components, which is the same
text where both the directory and that of the module are normal. The tests for the import paths of a
module agree: a path has a directory where the module contains it, it is internal where a module with
a path contains it, and behind the module path it goes on with a slash, if at all. -/
theorem packages_correspond (m : GoModule) :
    (∀ path, m.HasPackagePath path →
      ∃ dir, m.packageDir? path = some dir ∧ m.HasDirectory dir ∧ m.importPath? dir = some path) ∧
    (∀ dir, m.HasDirectory dir → ∃ path dir', m.importPath? dir = some path ∧
      m.packageDir? path = some dir' ∧ dir'.components = dir.components ∧
      (m.dir.IsNormal → dir.IsNormal → dir' = dir)) ∧
    (∀ path, ((m.packageDir? path).isSome ↔ m.contains path) ∧
      (ImportClass.of path m.path = .internal ↔ m.path ≠ "" ∧ m.contains path) ∧
      (m.contains path ↔ path = m.path ∨ ∃ rest, path = m.path ++ "/" ++ rest)) ∧
    ∀ suffix, suffix ≠ "" → suffix.toList.head? ≠ some '/' →
      m.contains (m.path ++ suffix) = false ∧ m.packageDir? (m.path ++ suffix) = none ∧
        ImportClass.of (m.path ++ suffix) m.path ≠ .internal := by
  have hdefined (path : String) : (m.packageDir? path).isSome ↔ m.contains path := by
    rw [packageDir?, Option.isSome_map, contains]
  refine ⟨fun path => importPath?_of_packageDir?, fun dir => packageDir?_of_hasDirectory,
    fun path => ⟨hdefined path, importClass_eq_internal_iff m path, contains_iff m path⟩,
    fun suffix hne hslash => ?_⟩
  have hno := not_contains_append hne hslash m
  refine ⟨hno, ?_, fun hinternal => ?_⟩
  · rw [← Option.not_isSome_iff_eq_none, hdefined, hno]
    simp
  · have hcontains := ((importClass_eq_internal_iff m _).mp hinternal).2
    rw [hno] at hcontains
    cases hcontains

/-- A package two directories down, and a path that is longer than the module path by no element. -/
theorem packages_correspond_sample :
    let m : GoModule := { path := "example.com/app", dir := ⟨"/src/app"⟩ }
    (m.HasPackagePath "example.com/app/store/sql" ∧ ∃ dir,
      m.packageDir? "example.com/app/store/sql" = some dir ∧ m.HasDirectory dir ∧
        m.importPath? dir = some "example.com/app/store/sql") ∧
    (m.HasDirectory ⟨"/src/app/store/sql"⟩ ∧ m.dir.IsNormal ∧
      (Path.mk "/src/app/store/sql").IsNormal ∧ ∃ path,
        m.importPath? ⟨"/src/app/store/sql"⟩ = some path ∧
          m.packageDir? path = some ⟨"/src/app/store/sql"⟩) ∧
    ImportClass.of "example.com/app/store/sql" m.path = .internal ∧
    m.contains ("example.com/app" ++ "lication") = false := by
  intro m
  obtain ⟨hpaths, hdirs, hagree, hborder⟩ := packages_correspond m
  have hpath : m.HasPackagePath "example.com/app/store/sql" :=
    .inr ⟨"store/sql", by decide, by decide⟩
  have hdir : m.HasDirectory ⟨"/src/app/store/sql"⟩ := ⟨by decide, by decide⟩
  have hm : m.dir.IsNormal := by decide
  have hnormal : (Path.mk "/src/app/store/sql").IsNormal := by decide
  obtain ⟨path, dir', himport, hback, -, heq⟩ := hdirs _ hdir
  refine ⟨⟨hpath, hpaths _ hpath⟩, ⟨hdir, hm, hnormal, path, himport, ?_⟩, ?_, ?_⟩
  · rw [hback, heq hm hnormal]
  · obtain ⟨-, hinternal, hcontains⟩ := hagree "example.com/app/store/sql"
    exact hinternal.mpr ⟨by decide, hcontains.mpr (.inr ⟨"store/sql", by decide⟩)⟩
  · exact (hborder "lication" (by decide) (by decide)).1

end GoModule

end GoMocks
