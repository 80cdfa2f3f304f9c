import GoMocks.Proofs.Path

/-!
# Paths — components

What a path says is the list of its components. Joining a name adds one, and what is left of a path
behind another one has those behind the components of the other.

* `Path.components_relativeTo?`: the components of what is left of a path behind another.
* `Path.components_parent?`: the components of the directory of a path.
* `Path.components_join`, `components_children`: the components of a path with another one, or with
  some names, joined to it.
* `Path.IsNormal`: the path is what its components give when they are joined.
-/

namespace GoMocks

namespace Path

/-! ### Steps -/

namespace Component

/-- Does the component go down to a name, or up? -/
def IsStep : Component → Prop
  | root | current => False
  | parent         => True
  | normal name    => IsFileName name

/-- The step that a name is. -/
def ofName (name : String) : Component :=
  if name = ".." then parent else normal name

variable {c : Component}

theorem IsStep.idle_eq (h : c.IsStep) : idle c.text.toList = false := by
  cases c with
  | root | current => cases h
  | parent => rfl
  | normal name => exact h.1

theorem IsStep.text_ne_nil (h : c.IsStep) : c.text.toList ≠ [] := by
  intro e
  have hidle := h.idle_eq
  rw [e] at hidle
  cases hidle

theorem IsStep.slash_not_mem (h : c.IsStep) : '/' ∉ c.text.toList := by
  cases c with
  | root | current => cases h
  | parent => decide
  | normal name => exact h.2.2

theorem text_ofName (name : String) : (ofName name).text = name := by
  by_cases h : name = ".."
  · rw [ofName, if_pos h, h]
    rfl
  · rw [ofName, if_neg h]
    rfl

/-- A name that is not idle and has no slash is a step. -/
theorem isStep_ofName {name : String} (hidle : idle name.toList = false) (h : '/' ∉ name.toList) :
    (ofName name).IsStep := by
  rw [ofName]
  split
  · trivial
  · next hname => exact ⟨hidle, fun e => hname (String.toList_injective e), h⟩

end Component

variable {p q base : Path} {c : Component} {cs : List Component} {ps : List (List Char)}
  {name : String}

/-- An idle part has no component. -/
theorem componentOf?_of_idle {part : List Char} (h : idle part) : componentOf? part = none :=
  if_pos h

/-- A step is read back from its text. -/
theorem componentOf?_text (h : c.IsStep) : componentOf? c.text.toList = some c := by
  cases c with
  | root | current => cases h
  | parent => rfl
  | normal name =>
    obtain ⟨hidle, hparent, -⟩ := h
    rw [Component.text, componentOf?, if_neg (by simp [hidle]), if_neg hparent, String.ofList_toList]

/-- A part that is not idle is a step. -/
theorem exists_componentOf? {part : List Char} (hidle : idle part = false) (hslash : '/' ∉ part) :
    ∃ c : Component, c.IsStep ∧ componentOf? part = some c := by
  by_cases hparent : part = ['.', '.']
  · exact ⟨.parent, trivial, by rw [hparent]; rfl⟩
  · refine ⟨.normal (.ofList part), ?_,
      by rw [componentOf?, if_neg (by simp [hidle]), if_neg hparent]⟩
    simpa [Component.IsStep, IsFileName, hidle] using ⟨hparent, hslash⟩

/-! ### Parts -/

/-- The steps of a path, without what it begins with. -/
def stepComponents (p : Path) : List Component :=
  p.parts.filterMap componentOf?

/-- The root or the place that a path begins at, if it says one. -/
def start (p : Path) : List Component :=
  if p.isAbsolute then [.root] else if p.opensHere then [.current] else []

/-- The components of a path: where it starts, then its steps. -/
theorem components_eq (p : Path) : p.components = p.start ++ p.stepComponents := rfl

/-- The start is no step. -/
theorem not_isStep_of_mem_start (h : c ∈ p.start) : ¬ c.IsStep := by
  rw [start] at h
  split at h
  · obtain rfl := List.mem_singleton.mp h
    exact id
  · split at h
    · obtain rfl := List.mem_singleton.mp h
      exact id
    · cases h

/-- Behind the start there are steps only. -/
theorem isStep_of_mem_stepComponents (h : c ∈ p.stepComponents) : c.IsStep := by
  obtain ⟨part, hpart, hc⟩ := List.mem_filterMap.mp h
  have hidle : idle part = false := by
    by_contra hidle
    rw [componentOf?_of_idle (Bool.of_not_eq_false hidle)] at hc
    cases hc
  obtain ⟨c', hc', heq⟩ := exists_componentOf? hidle (not_mem_of_mem_splitOn hpart)
  obtain rfl := Option.some.inj (hc.symm.trans heq)
  exact hc'

theorem filterMap_dropWhile_idle (ps : List (List Char)) :
    (ps.dropWhile idle).filterMap componentOf? = ps.filterMap componentOf? := by
  induction ps with
  | nil => rfl
  | cons part ps ih =>
    cases h : idle part with
    | true => rw [List.dropWhile_cons_of_pos h, ih, List.filterMap_cons_none (componentOf?_of_idle h)]
    | false => rw [List.dropWhile_cons_of_neg (by simp [h])]

theorem mem_of_mem_dropParts {part : List Char} {n : Nat} (h : part ∈ dropParts n ps) :
    part ∈ ps := by
  induction n generalizing ps with
  | zero => exact h
  | succ n ih => exact (List.dropWhile_suffix idle).subset (List.mem_of_mem_tail (ih h))

theorem filterMap_trimIdleEnd (ps : List (List Char)) :
    (trimIdleEnd ps).filterMap componentOf? = ps.filterMap componentOf? := by
  rw [trimIdleEnd, List.filterMap_reverse, filterMap_dropWhile_idle, ← List.filterMap_reverse,
    List.reverse_reverse]

/-- As many steps are dropped as there are parts to drop. -/
theorem filterMap_dropParts (hps : ∀ part ∈ ps, '/' ∉ part) (n : Nat) :
    (dropParts n ps).filterMap componentOf? = (ps.filterMap componentOf?).drop n := by
  induction n generalizing ps with
  | zero => rfl
  | succ n ih =>
    have hsub := List.dropWhile_suffix idle (l := ps)
    rw [dropParts, ih fun part hpart => hps part (hsub.subset (List.mem_of_mem_tail hpart)),
      ← filterMap_dropWhile_idle ps]
    cases h : ps.dropWhile idle with
    | nil => simp
    | cons part rest =>
      have hidle : idle part = false := by
        have hfirst := List.head?_dropWhile_not idle ps
        rwa [h] at hfirst
      obtain ⟨c, -, hc⟩ := exists_componentOf? hidle (hps part (hsub.subset (by simp [h])))
      rw [List.filterMap_cons_some hc, List.tail_cons, List.drop_succ_cons]

/-! ### Paths of parts -/

/-- The components of an absolute path made of parts. -/
theorem components_ofParts_true (h : ∀ part ∈ ps, '/' ∉ part) :
    (ofParts true ps).components = .root :: ps.filterMap componentOf? := by
  have habsolute : (ofParts true ps).isAbsolute := by simp [isAbsolute, ofParts]
  rcases eq_or_ne ps [] with rfl | hne
  · rfl
  · rw [components, if_pos habsolute, parts_ofParts h hne]
    rfl

/-- A relative path is made of its parts, where the first of them is not empty. -/
theorem parts_ofParts_false (h : ∀ part ∈ ps, '/' ∉ part) (hfirst : ∀ part ∈ ps.head?, part ≠ [])
    (hne : ps ≠ []) : (ofParts false ps).isAbsolute = false ∧ (ofParts false ps).parts = ps := by
  obtain ⟨part, rest, rfl⟩ := List.exists_cons_of_ne_nil hne
  obtain ⟨c, cs, rfl⟩ := List.exists_cons_of_ne_nil (hfirst part rfl)
  have hc : c ≠ '/' := fun e => (List.forall_mem_cons.mp h).1 (by simp [e])
  have htext : (ofParts false ((c :: cs) :: rest)).text.toList =
      ['/'].intercalate ((c :: cs) :: rest) := by
    simp [ofParts]
  have habsolute : (ofParts false ((c :: cs) :: rest)).isAbsolute = false := by
    rw [isAbsolute, htext]
    cases rest <;> simp [hc]
  exact ⟨habsolute,
    by rw [parts, habsolute, if_neg (by simp), htext, List.splitOn_intercalate '/' h hne]⟩

theorem components_ofParts_false (h : ∀ part ∈ ps, '/' ∉ part)
    (hfirst : ∀ part ∈ ps.head?, idle part = false) :
    (ofParts false ps).components = ps.filterMap componentOf? := by
  rcases eq_or_ne ps [] with rfl | hne
  · rfl
  have hnonempty : ∀ part ∈ ps.head?, part ≠ [] := by
    rintro part hpart rfl
    cases hfirst _ hpart
  obtain ⟨habsolute, hparts⟩ := parts_ofParts_false h hnonempty hne
  have hopens : (ofParts false ps).opensHere = false := by
    rw [opensHere, hparts]
    have hdot : ps.head? ≠ some ['.'] := fun e => by cases hfirst _ e
    simp [hdot]
  rw [components, habsolute, if_neg (by simp), hopens, if_neg (by simp), hparts]
  rfl

theorem components_ofParts_here (h : ∀ part ∈ ps, '/' ∉ part) :
    (ofParts false (['.'] :: ps)).components = .current :: ps.filterMap componentOf? := by
  obtain ⟨habsolute, hparts⟩ := parts_ofParts_false
    (List.forall_mem_cons.mpr ⟨by decide, h⟩) (by simp) (List.cons_ne_nil ['.'] ps)
  have hopens : (ofParts false (['.'] :: ps)).opensHere := by
    rw [opensHere, habsolute, hparts]
    rfl
  rw [components, habsolute, if_neg (by simp), if_pos hopens, hparts]
  rfl

/-! ### What is left of a path -/

/-- A relative path begins with a part. -/
theorem exists_parts_of_relative (habsolute : p.isAbsolute = false) (hne : p.text ≠ "") :
    ∃ part rest, p.parts = part :: rest ∧ part ≠ [] := by
  obtain ⟨c, cs, hcs⟩ := List.exists_cons_of_ne_nil (mt String.toList_eq_nil_iff.mp hne)
  have hc : c ≠ '/' := by simpa [isAbsolute, hcs] using habsolute
  rw [parts, habsolute, if_neg (by simp), hcs, List.splitOn, List.splitOnP_cons_eq_if_modifyHead,
    if_neg (by simpa using hc)]
  cases hs : cs.splitOnP (· == '/') with
  | nil => exact absurd hs (List.splitOnP_ne_nil _ _)
  | cons part rest => exact ⟨c :: part, rest, rfl, List.cons_ne_nil c part⟩

theorem mem_head?_of_trimIdleEnd {part : List Char} (h : part ∈ (trimIdleEnd ps).head?) :
    part ∈ ps.head? := by
  obtain ⟨behind, hbehind⟩ := trimIdleEnd_isPrefix ps
  rw [← hbehind, List.head?_append, h]
  rfl

/-- The first part of a relative path is no idle one, unless the path opens with it. -/
theorem idle_head_of_relative (habsolute : p.isAbsolute = false) (hopens : p.opensHere = false)
    (hps : ps <+: p.parts) : ∀ part ∈ (trimIdleEnd ps).head?, idle part = false := by
  intro part hpart
  have hmem : part ∈ p.parts.head? := by
    obtain ⟨behind, hbehind⟩ := hps
    rw [← hbehind, List.head?_append, mem_head?_of_trimIdleEnd hpart]
    rfl
  by_cases hne : p.text = ""
  · obtain ⟨text⟩ := p
    obtain rfl : text = "" := hne
    obtain rfl : [] = part := Option.some.inj hmem
    obtain ⟨rest, hrest⟩ := List.head?_eq_some_iff.mp (mem_head?_of_trimIdleEnd hpart)
    obtain rfl : rest = [] := List.prefix_nil.mp (List.cons_prefix_cons.mp (hrest ▸ hps)).2
    rw [hrest] at hpart
    cases hpart
  · obtain ⟨first, rest, hparts, hfirst⟩ := exists_parts_of_relative habsolute hne
    obtain rfl : first = part := by simpa [hparts] using hmem
    have hdot : first ≠ ['.'] := by simpa [opensHere, habsolute, hparts] using hopens
    simp [idle, hfirst, hdot]

/-- The components of a path that opens with a `.`. -/
theorem exists_parts_of_opensHere (h : p.opensHere) :
    ∃ rest, p.parts = ['.'] :: rest ∧ p.components = .current :: rest.filterMap componentOf? := by
  obtain ⟨hrelative, hfirst⟩ : p.isAbsolute = false ∧ p.parts.head? = some ['.'] := by
    simpa [opensHere] using h
  obtain ⟨rest, hparts⟩ := List.head?_eq_some_iff.mp hfirst
  refine ⟨rest, hparts, ?_⟩
  rw [components, hrelative, if_neg (by simp), if_pos h, hparts]
  rfl

/-- The components of the first parts of a path that does not open with a `.`. -/
theorem components_ofParts_of_isPrefix (hopens : p.opensHere = false) (hps : ps <+: p.parts) :
    (ofParts p.isAbsolute (trimIdleEnd ps)).components =
      (if p.isAbsolute then [.root] else []) ++ ps.filterMap componentOf? := by
  have hslash : ∀ part ∈ trimIdleEnd ps, '/' ∉ part := fun part hpart =>
    not_mem_of_mem_splitOn (hps.subset ((trimIdleEnd_isPrefix ps).subset hpart))
  cases habsolute : p.isAbsolute with
  | true => rw [components_ofParts_true hslash, filterMap_trimIdleEnd]; rfl
  | false =>
    rw [components_ofParts_false hslash (idle_head_of_relative habsolute hopens hps),
      filterMap_trimIdleEnd]
    rfl

/-- Nothing but the empty path has no components. -/
theorem text_eq_of_components_eq_nil (h : p.components = []) : p.text = "" := by
  rw [components_eq, List.append_eq_nil_iff] at h
  obtain ⟨hstart, hsteps⟩ := h
  by_contra hne
  have habsolute : p.isAbsolute = false := by
    cases habsolute : p.isAbsolute with
    | false => rfl
    | true => simp [start, habsolute] at hstart
  have hopens : p.opensHere = false := by
    cases hopens : p.opensHere with
    | false => rfl
    | true => simp [start, habsolute, hopens] at hstart
  obtain ⟨first, rest, hparts, hfirst⟩ := exists_parts_of_relative habsolute hne
  have hdot : first ≠ ['.'] := by simpa [opensHere, habsolute, hparts] using hopens
  have hmem : first ∈ p.parts := by simp [hparts]
  have hslash : '/' ∉ first := not_mem_of_mem_splitOn hmem
  obtain ⟨c, -, hc⟩ := exists_componentOf? (by simp [idle, hfirst, hdot]) hslash
  rw [stepComponents, hparts, List.filterMap_cons_some hc] at hsteps
  cases hsteps

/-- The first component says whether a path is absolute. -/
theorem isAbsolute_iff (p : Path) : p.isAbsolute ↔ p.components.head? = some .root := by
  rw [components_eq]
  constructor
  · intro h
    rw [start, if_pos h]
    rfl
  · intro hhead
    by_contra h
    rw [start, if_neg h] at hhead
    split at hhead
    · cases hhead
    · have hstep : Component.root.IsStep := isStep_of_mem_stepComponents (List.mem_of_mem_head? hhead)
      cases hstep

/-- A path starts with at most one component. -/
theorem start_cases (p : Path) : p.start = [] ∨ ∃ c, p.start = [c] := by
  rw [start]
  split
  · exact .inr ⟨_, rfl⟩
  · split
    · exact .inr ⟨_, rfl⟩
    · exact .inl rfl

/-- A path that begins with the components of another one begins where that begins. -/
theorem stepComponents_of_isPrefix (h : base.components <+: p.components)
    (hne : base.components ≠ []) :
    base.start = p.start ∧ base.stepComponents <+: p.stepComponents := by
  rw [components_eq] at h hne
  rw [components_eq p] at h
  rcases base.start_cases with hb | ⟨c, hb⟩ <;> rcases p.start_cases with hp | ⟨d, hp⟩ <;>
    simp only [hb, hp, List.nil_append, List.singleton_append] at h hne ⊢
  · exact ⟨trivial, h⟩
  · obtain ⟨c, rest, hsteps⟩ := List.exists_cons_of_ne_nil hne
    rw [hsteps, List.cons_prefix_cons] at h
    have hstep : c.IsStep := isStep_of_mem_stepComponents (hsteps ▸ List.mem_cons_self ..)
    have hmem : c ∈ p.start := by rw [hp, h.1, List.mem_singleton]
    exact absurd hstep (not_isStep_of_mem_start hmem)
  · have hstep : c.IsStep := isStep_of_mem_stepComponents (h.subset (List.mem_cons_self ..))
    exact absurd hstep (not_isStep_of_mem_start (hb ▸ List.mem_singleton_self c))
  · rw [List.cons_prefix_cons] at h
    exact ⟨by rw [h.1], h.2⟩

/-- Steps are kept by the filter of the start. -/
theorem filter_steps (hcs : ∀ c ∈ cs, c.IsStep) :
    (cs.filter fun c => c != .root && c != .current) = cs := by
  refine List.filter_eq_self.mpr fun c hc => ?_
  have hstep := hcs c hc
  cases c with
  | root | current => cases hstep
  | parent | normal => rfl

/-- The steps of a path are its components but for what it begins with. -/
theorem filter_components (p : Path) :
    (p.components.filter fun c => c != .root && c != .current) = p.stepComponents := by
  have hstart : p.start.filter (fun c => c != .root && c != .current) = [] := by
    refine List.filter_eq_nil_iff.mpr fun c hc => ?_
    rw [start] at hc
    split at hc
    · simp [List.mem_singleton.mp hc]
    · split at hc
      · simp [List.mem_singleton.mp hc]
      · cases hc
  rw [components_eq, List.filter_append, hstart, List.nil_append,
    filter_steps fun c => isStep_of_mem_stepComponents]

/-- Steps behind the components of another path are the steps behind its steps. -/
theorem stepComponents_of_components_eq (h : p.components = q.components ++ cs)
    (hcs : ∀ c ∈ cs, c.IsStep) :
    p.isAbsolute = q.isAbsolute ∧ p.stepComponents = q.stepComponents ++ cs := by
  constructor
  · rw [Bool.eq_iff_iff, isAbsolute_iff, isAbsolute_iff, h]
    cases hq : q.components with
    | cons => rfl
    | nil =>
      have hroot : cs.head? ≠ some .root := fun e => by cases hcs _ (List.mem_of_mem_head? e)
      simp [hroot]
  · rw [← filter_components, ← filter_components, h, List.filter_append, filter_steps hcs]

/-- **The components of what is left** are those behind the components of the other path. -/
theorem components_relativeTo? (p base : Path) :
    (p.relativeTo? base).map components =
      if base.components <+: p.components then some (p.components.drop base.components.length)
      else none := by
  have hslash : ∀ part ∈ p.parts, '/' ∉ part := fun part hpart => not_mem_of_mem_splitOn hpart
  have htrimmed {ps : List (List Char)} (hps : ∀ part ∈ ps, '/' ∉ part) :
      ∀ part ∈ trimIdleEnd ps, '/' ∉ part :=
    fun part hpart => hps part ((trimIdleEnd_isPrefix ps).subset hpart)
  rw [relativeTo?]
  by_cases h : base.components <+: p.components
  swap
  · simp [h]
  rw [if_pos h, if_neg (by simpa using h)]
  by_cases hne : base.components = []
  · rw [if_pos (by simp [hne]), hne, Option.map_some, List.length_nil, List.drop_zero]
    -- nothing to take off; the `.` a path may open with is a component
    cases hopens : p.opensHere with
    | true =>
      obtain ⟨rest, hparts, hcomponents⟩ := exists_parts_of_opensHere hopens
      rw [hparts] at hslash
      have hrest := htrimmed (List.forall_mem_cons.mp hslash).2
      rw [if_pos rfl, hparts, List.tail_cons, hcomponents, components_ofParts_here hrest,
        filterMap_trimIdleEnd]
    | false =>
      rw [if_neg (by simp), components_ofParts_of_isPrefix hopens List.prefix_rfl, components_eq,
        start, hopens]
      rfl
  · obtain ⟨hstart, -⟩ := stepComponents_of_isPrefix h hne
    -- the parts that are left, up to the first that is a step
    have hbehind :
        ∀ part ∈ (dropParts base.stepComponents.length p.parts).dropWhile idle, '/' ∉ part :=
      fun part hpart =>
        hslash part (mem_of_mem_dropParts ((List.dropWhile_suffix idle).subset hpart))
    rw [if_neg (by simpa using hne), filter_components, Option.map_some,
      components_ofParts_false (htrimmed hbehind), filterMap_trimIdleEnd, filterMap_dropWhile_idle,
      filterMap_dropParts hslash]
    · rw [components_eq base, components_eq p, hstart, List.length_append, List.drop_append]
      simp [stepComponents]
    · intro part hpart
      have hfirst := List.head?_dropWhile_not idle (dropParts base.stepComponents.length p.parts)
      rwa [mem_head?_of_trimIdleEnd hpart] at hfirst

/-! ### Directories -/

/-- After trimming, a path has no step or ends in one. -/
theorem trimIdleEnd_cases (hps : ∀ part ∈ ps, '/' ∉ part) :
    (trimIdleEnd ps = [] ∧ ps.filterMap componentOf? = []) ∨
      ∃ front part c, c.IsStep ∧ trimIdleEnd ps = front ++ [part] ∧
        ps.filterMap componentOf? = front.filterMap componentOf? ++ [c] := by
  rw [← filterMap_trimIdleEnd]
  rcases List.eq_nil_or_concat (trimIdleEnd ps) with hnil | ⟨front, part, hsplit⟩
  · exact .inl ⟨hnil, by rw [hnil]; rfl⟩
  · rw [List.concat_eq_append] at hsplit
    have hlast : (trimIdleEnd ps).getLast? = some part := by simp [hsplit]
    have hidle : idle part = false := getLast?_trimIdleEnd hlast
    have hmem : part ∈ ps := (trimIdleEnd_isPrefix ps).subset (by simp [hsplit])
    obtain ⟨c, hstep, hc⟩ := exists_componentOf? hidle (hps part hmem)
    refine .inr ⟨front, part, c, hstep, hsplit, ?_⟩
    rw [hsplit, List.filterMap_append, List.filterMap_cons_some hc, List.filterMap_nil]

/-- **The components of the directory of a path** are those before its last one. -/
theorem components_parent? (p : Path) :
    p.parent?.map components =
      if p.components = [] ∨ p.components = [.root] then none else some p.components.dropLast := by
  have hslash : ∀ part ∈ p.parts, '/' ∉ part := fun part hpart => not_mem_of_mem_splitOn hpart
  rw [parent?]
  -- a path that opens with `.` keeps it as its start
  cases hopens : p.opensHere with
  | true =>
    obtain ⟨rest, hparts, hcomponents⟩ := exists_parts_of_opensHere hopens
    rw [hparts] at hslash
    have hrest := (List.forall_mem_cons.mp hslash).2
    rw [if_pos rfl, hparts, List.tail_cons, hcomponents]
    rcases trimIdleEnd_cases hrest with ⟨htrim, hsteps⟩ | ⟨front, part, c, -, htrim, hsteps⟩
    · rw [htrim, hsteps]
      rfl
    · have hfront : trimIdleEnd front <+: rest :=
        (trimIdleEnd_isPrefix front).trans
          ((htrim ▸ List.prefix_append front [part]).trans (trimIdleEnd_isPrefix rest))
      have hcomponents := components_ofParts_here fun part hpart => hrest part (hfront.subset hpart)
      rw [htrim, hsteps, ← List.cons_append, List.dropLast_concat]
      simp [hcomponents, filterMap_trimIdleEnd]
  | false =>
    rw [if_neg (by simp), components_eq, start, hopens, stepComponents]
    rcases trimIdleEnd_cases hslash with ⟨htrim, hsteps⟩ | ⟨front, part, c, hc, htrim, hsteps⟩
    · rw [htrim, hsteps]
      cases p.isAbsolute <;> rfl
    · have hfront : front <+: p.parts :=
        (htrim ▸ List.prefix_append front [part]).trans (trimIdleEnd_isPrefix p.parts)
      have hroot (cs : List Component) : cs ++ [c] ≠ [.root] := by
        intro e
        obtain ⟨-, rfl⟩ : cs = [] ∧ c = .root := by simpa [List.append_eq_singleton_iff] using e
        cases hc
      rw [htrim, hsteps, ← List.append_assoc, List.dropLast_concat,
        if_neg (not_or.mpr ⟨by simp, hroot _⟩)]
      simp [components_ofParts_of_isPrefix hopens hfront]

/-- The file name is the last component, when that is a name. -/
theorem fileName?_eq_some_iff :
    p.fileName? = some name ↔ p.components.getLast? = some (.normal name) := by
  rw [fileName?]
  split
  · next last hlast => simp [hlast]
  · next hother => simpa using hother name

/-- A path with a file name is this name in its directory. -/
theorem exists_parent_of_fileName? (h : p.fileName? = some name) :
    IsFileName name ∧
      ∃ dir, p.parent? = some dir ∧ p.components = dir.components ++ [.normal name] := by
  obtain ⟨front, hfront⟩ := List.getLast?_eq_some_iff.mp (fileName?_eq_some_iff.mp h)
  have hname : Component.normal name ∈ p.stepComponents := by
    rw [← filter_components, hfront]
    simp
  have hparent := components_parent? p
  have hroot : ¬ (p.components = [] ∨ p.components = [.root]) := by
    simp [hfront, List.append_eq_singleton_iff]
  rw [if_neg hroot, hfront, List.dropLast_concat] at hparent
  obtain ⟨dir, hdir, hcomponents⟩ := Option.map_eq_some_iff.mp hparent
  exact ⟨isStep_of_mem_stepComponents hname, dir, hdir, by rw [hfront, hcomponents]⟩

/-! ### Joined paths -/

/-- A relative path is joined as more parts. Only an empty part may have to go for them. -/
theorem exists_parts_join (hp : p.text ≠ "") (hq : q.isAbsolute = false) :
    (p.join q).isAbsolute = p.isAbsolute ∧ ∃ front rest, p.parts = front ++ rest ∧
      (∀ part ∈ rest, part = []) ∧ (p.join q).parts = front ++ q.parts ∧
      (front = [] → p.isAbsolute) := by
  have hempty : p.text.isEmpty = false := by
    simpa [← String.toList_eq_nil_iff] using hp
  obtain ⟨c, cs, hcs⟩ := List.exists_cons_of_ne_nil (mt String.toList_eq_nil_iff.mp hp)
  have hsplit : q.text.toList.splitOn '/' = q.parts := by
    rw [parts, hq, if_neg (by simp)]
  rw [join, hq, hempty, if_neg (by simp)]
  -- with a slash at its end, `p` has one empty part more than the join
  by_cases hlast : p.text.toList.getLast? = some '/'
  · rw [if_pos hlast]
    have hsame : (Path.mk (p.text ++ q.text)).isAbsolute = p.isAbsolute := by
      simp [isAbsolute, hcs]
    refine ⟨hsame, ?_⟩
    obtain ⟨before, hbefore⟩ := List.getLast?_eq_some_iff.mp hlast
    cases before with
    | nil =>
      have habsolute : p.isAbsolute := by simp [isAbsolute, hbefore]
      refine ⟨[], [[]], ?_, by simp, ?_, fun _ => habsolute⟩
      · rw [parts, if_pos habsolute, hbefore]
        rfl
      · rw [parts, hsame, if_pos habsolute]
        simpa [hbefore] using hsplit
    | cons first before =>
      refine ⟨(if p.isAbsolute then before else first :: before).splitOn '/', [[]], ?_, by simp, ?_,
        fun hnil => absurd hnil (List.splitOnP_ne_nil _ _)⟩
      · rw [parts, hbefore]
        split <;> exact splitOn_append _ []
      · rw [parts, hsame, String.toList_append, hbefore, ← hsplit, ← splitOn_append]
        split <;> simp
  · rw [if_neg hlast]
    have hsame : (Path.mk (p.text ++ "/" ++ q.text)).isAbsolute = p.isAbsolute := by
      simp [isAbsolute, hcs]
    refine ⟨hsame, p.parts, [], by simp, by simp, ?_, ?_⟩
    · rw [parts, hsame, parts]
      split
      · simp [hcs, splitOn_append, hsplit]
      · simp [splitOn_append, hsplit]
    · intro hnil
      exact absurd hnil (List.splitOnP_ne_nil _ _)

/-- **The components of a joined path** are those of the two, where the second is relative and does
not open with a `.`. -/
theorem components_join (p : Path) (hq : q.isAbsolute = false) (hopens : q.opensHere = false) :
    (p.join q).components = p.components ++ q.components := by
  have hsteps : q.components = q.parts.filterMap componentOf? := by
    rw [components, hq, if_neg (by simp), hopens, if_neg (by simp)]
    rfl
  by_cases hp : p.text = ""
  · obtain ⟨text⟩ := p
    obtain rfl : text = "" := hp
    have hjoin : (Path.mk "").join q = q := by simp [join]
    rw [hjoin]
    rfl
  · obtain ⟨hsame, front, rest, hparts, hrest, hjoin, hfront⟩ := exists_parts_join hp hq
    have hempty : rest.filterMap componentOf? = [] := by
      refine List.filterMap_eq_nil_iff.mpr fun part hpart => ?_
      rw [hrest part hpart]
      rfl
    have hstart : (p.join q).start = p.start := by
      rw [start, start, opensHere, opensHere, hsame]
      cases front with
      | nil => simp [hfront rfl]
      | cons first front => rw [hjoin, hparts]; rfl
    rw [components_eq, components_eq, hstart, stepComponents, stepComponents, hjoin, hparts,
      List.filterMap_append, List.filterMap_append, hempty, List.append_nil, List.append_assoc,
      hsteps]

/-- The path of one step. -/
theorem components_step (hc : c.IsStep) :
    (Path.mk c.text).isAbsolute = false ∧ (Path.mk c.text).opensHere = false ∧
      (Path.mk c.text).components = [c] := by
  have hpath : Path.mk c.text = ofParts false [c.text.toList] := by
    simp [ofParts]
  have hslash : ∀ part ∈ [c.text.toList], '/' ∉ part := by simpa using hc.slash_not_mem
  obtain ⟨habsolute, hparts⟩ := parts_ofParts_false hslash (by simpa using hc.text_ne_nil) (by simp)
  have hdot : c.text.toList ≠ ['.'] := by
    intro e
    have hidle := hc.idle_eq
    rw [e] at hidle
    cases hidle
  have hopens : (ofParts false [c.text.toList]).opensHere = false := by
    rw [opensHere, hparts]
    simp [hdot]
  rw [hpath]
  refine ⟨habsolute, hopens, ?_⟩
  rw [components_ofParts_false hslash (by simpa using hc.idle_eq),
    List.filterMap_cons_some (componentOf?_text hc), List.filterMap_nil]

/-- A joined step is one more component. -/
theorem components_child (p : Path) (hc : c.IsStep) :
    (p.child c.text).components = p.components ++ [c] := by
  obtain ⟨habsolute, hopens, hcomponents⟩ := components_step hc
  rw [child, components_join p habsolute hopens, hcomponents]

/-- **Joined steps are the components behind those of the path.** -/
theorem components_children (p : Path) (hcs : ∀ c ∈ cs, c.IsStep) :
    ((cs.map Component.text).foldl child p).components = p.components ++ cs := by
  induction cs generalizing p with
  | nil => simp
  | cons c cs ih =>
    obtain ⟨hc, hmore⟩ := List.forall_mem_cons.mp hcs
    rw [List.map_cons, List.foldl_cons, ih _ hmore, components_child p hc, List.append_assoc]
    rfl

/-! ### Normal paths -/

/-- Is the path what its components give when they are joined, one after the other? -/
def IsNormal (p : Path) : Prop :=
  (p.components.map Component.text).foldl child ⟨""⟩ = p

instance (p : Path) : Decidable p.IsNormal :=
  inferInstanceAs (Decidable (_ = _))

end Path

end GoMocks
