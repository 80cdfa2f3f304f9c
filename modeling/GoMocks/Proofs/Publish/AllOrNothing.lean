import GoMocks.Proofs.FileTree.Additions
import GoMocks.Proofs.Loading.Patterns
import GoMocks.Proofs.Path.Components
import GoMocks.Proofs.Publish

/-!
# Publishing — all or nothing

Whatever the system refuses, and wherever the path leads, a file is published with all of its bytes
or what the path leads to stays as it was. Nothing else changes but that directories are made which
were missing on the way.

A path that goes back by a `..` behind a missing directory is the one exception. It leads nowhere as
long as the directory is missing, and somewhere as soon as it is made, even if the file itself cannot
be published.

* `Path.steps`, `FileTree.Passes`: the parts of a path that lead elsewhere, and the places it passes.
* `FileTree.Gains`: a later tree, with new directories.
* `FileTree.makeDirectories_gains`: directories are made only where they are missing on the way.
* `FileTree.find_of_gains`: a path leads where it led, unless it goes back behind a missing place.
* `FileTree.publish_all_or_nothing`: all that publishing leaves behind.
-/

namespace GoMocks

/-! ### The way of a path -/

/-- The place that some parts lead to, whatever lies on the way. -/
def Location.follow (l : Location) (parts : List (List Char)) : Location :=
  parts.foldl Location.step l

namespace Location

variable {l : Location} {ps : List (List Char)}

theorem follow_cons (l : Location) (part : List Char) (ps : List (List Char)) :
    l.follow (part :: ps) = (l.step part).follow ps := rfl

theorem follow_append (l : Location) (ps qs : List (List Char)) :
    l.follow (ps ++ qs) = (l.follow ps).follow qs :=
  List.foldl_append

/-- Idle parts lead nowhere. -/
theorem follow_filter (l : Location) (ps : List (List Char)) :
    l.follow (ps.filter fun part => !Path.idle part) = l.follow ps := by
  induction ps generalizing l with
  | nil => rfl
  | cons part ps ih =>
    by_cases hpart : Path.idle part = true
    · rw [List.filter_cons_of_neg (by simp [hpart]), ih, follow_cons, step_of_idle hpart]
    · rw [List.filter_cons_of_pos (by simpa using hpart), follow_cons, follow_cons, ih]

theorem step_eq_append {part : List Char} (hpart : Path.idle part = false)
    (hback : part ≠ ['.', '.']) (l : Location) : l.step part = l ++ [.ofList part] := by
  rw [step, if_neg (by simp [hpart]), if_neg hback]

/-- A way that never goes back leads as far down as it has steps. -/
theorem length_follow (hps : ∀ part ∈ ps, Path.idle part = false) (hback : ['.', '.'] ∉ ps) :
    (l.follow ps).length = l.length + ps.length := by
  induction ps generalizing l with
  | nil => rfl
  | cons part ps ih =>
    obtain ⟨hpart, hps⟩ := List.forall_mem_cons.mp hps
    obtain ⟨hne, hback⟩ := List.ne_and_not_mem_of_not_mem_cons hback
    rw [follow_cons, ih hps hback, step_eq_append hpart hne.symm, List.length_append,
      List.length_singleton, List.length_cons]
    omega

end Location

namespace Path

variable {p : Path}

/-- The parts of a path that lead elsewhere. -/
def steps (p : Path) : List (List Char) :=
  p.parts.filter fun part => !idle part

/-- The parts of a path that lead elsewhere are the texts of its steps. -/
theorem steps_eq_map (p : Path) : p.steps = p.stepComponents.map (·.text.toList) := by
  have hpart (part : List Char) : (componentOf? part).map (·.text.toList) =
      Option.guard (fun part => !idle part) part := by
    rw [componentOf?, Option.guard]
    by_cases hidle : idle part = true
    · simp [hidle]
    · by_cases hparent : part = ['.', '.']
      · rw [hparent]
        rfl
      · simp [hidle, hparent, Component.text]
  rw [steps, stepComponents, List.map_filterMap, ← List.filterMap_eq_filter]
  exact List.filterMap_congr fun part _ => (hpart part).symm

/-- The directory that a path has by its parent leads where the parent leads. -/
theorem steps_of_parent? {dir : Path} (h : p.parent? = some dir) :
    (FileTree.directoryOf p).isAbsolute = dir.isAbsolute ∧
      (FileTree.directoryOf p).steps = dir.steps := by
  rw [FileTree.directoryOf, h]
  by_cases hempty : dir.text.isEmpty = true
  · obtain ⟨text⟩ := dir
    obtain rfl : text = "" := String.isEmpty_iff.mp hempty
    exact ⟨rfl, rfl⟩
  · simp only [hempty]
    exact ⟨rfl, rfl⟩

/-- **The directory of a path is its way without the last step.** -/
theorem steps_directoryOf (p : Path) :
    (p.steps = [] ∧ FileTree.directoryOf p = ⟨"."⟩) ∨
      ∃ part, (FileTree.directoryOf p).isAbsolute = p.isAbsolute ∧
        p.steps = (FileTree.directoryOf p).steps ++ [part] := by
  have hparent := components_parent? p
  cases hdir : p.parent? with
  | none =>
    rw [hdir] at hparent
    split at hparent
    · next h =>
      refine .inl ⟨?_, by rw [FileTree.directoryOf, hdir]⟩
      rw [steps_eq_map, ← filter_components]
      rcases h with h | h <;> rw [h] <;> rfl
    · cases hparent
  | some dir =>
    rw [hdir, Option.map_some] at hparent
    split at hparent
    · cases hparent
    have hfront : dir.components = p.components.dropLast := Option.some.inj hparent
    -- without a step the parent is the empty path, written `.`
    rcases List.eq_nil_or_concat p.stepComponents with hnil | ⟨front, c, hsteps⟩
    · have hempty : dir.components = [] := by
        rw [hfront, components_eq, hnil, List.append_nil]
        rcases p.start_cases with h | ⟨c, h⟩ <;> rw [h] <;> rfl
      refine .inl ⟨by rw [steps_eq_map, hnil]; rfl, ?_⟩
      rw [FileTree.directoryOf, hdir]
      simp [text_eq_of_components_eq_nil hempty]
    · rw [List.concat_eq_append] at hsteps
      have hc : c.IsStep := isStep_of_mem_stepComponents (p := p) (by simp [hsteps])
      have hcomponents : p.components = dir.components ++ [c] := by
        rw [hfront, components_eq, hsteps, ← List.append_assoc, List.dropLast_concat]
      obtain ⟨habsolute, hbehind⟩ := stepComponents_of_components_eq hcomponents (by simpa using hc)
      obtain ⟨hdirAbsolute, hdirSteps⟩ := steps_of_parent? hdir
      refine .inr ⟨c.text.toList, hdirAbsolute.trans habsolute.symm, ?_⟩
      rw [hdirSteps, steps_eq_map, steps_eq_map, hbehind, List.map_append]
      rfl

end Path

namespace FileTree

variable {t t' t'' : FileTree} {l m : Location} {p : Path} {new : Location → Prop}
  {refusal : Location → Option IoFault} {refusals : Refusals} {content : ByteArray}

/-- Does the path lead through the place, to something behind it? -/
def Passes (t : FileTree) (p : Path) (m : Location) : Prop :=
  ∃ front rest, p.steps = front ++ rest ∧ rest ≠ [] ∧ m = (t.start p).follow front

/-- Does the path go back behind the first place on its way where nothing lies? -/
def TurnsBack (t : FileTree) (p : Path) : Prop :=
  ∃ front rest l, p.steps = front ++ rest ∧ t.walk (t.start p) front = .ok l ∧
    t.entry? l = none ∧ ['.', '.'] ∈ rest

/-! ### Walks -/

/-- A walk ends where its parts lead, and passes directories only. -/
theorem follow_of_walk {ps : List (List Char)} (h : t.walk l ps = .ok m) :
    m = l.follow ps ∧ ∀ front rest, ps = front ++ rest → rest ≠ [] →
      t.entry? (l.follow front) = some .directory := by
  induction ps generalizing l with
  | nil =>
    refine ⟨(Except.ok.inj h).symm, fun front rest hps hrest => ?_⟩
    exact absurd (List.append_eq_nil_iff.mp hps.symm).2 hrest
  | cons part ps ih =>
    rw [walk] at h
    rcases hl : t.entry? l with _ | content | _ <;> rw [hl] at h
    · cases h
    · cases h
    · obtain ⟨hm, hway⟩ := ih h
      refine ⟨hm, fun front rest hps hrest => ?_⟩
      cases front with
      | nil => exact hl
      | cons first front =>
        obtain ⟨rfl, htail⟩ := List.cons.inj hps
        exact hway front rest htail hrest

/-- A walk skips idle parts. -/
theorem walk_steps {ps : List (List Char)} (h : t.walk l ps = .ok m) :
    t.walk l (ps.filter fun part => !Path.idle part) = .ok m := by
  induction ps generalizing l with
  | nil => exact h
  | cons part ps ih =>
    rw [walk] at h
    rcases hl : t.entry? l with _ | content | _ <;> rw [hl] at h
    · cases h
    · cases h
    · by_cases hpart : Path.idle part = true
      · rw [Location.step_of_idle hpart] at h
        rw [List.filter_cons_of_neg (by simp [hpart]), ih h]
      · rw [List.filter_cons_of_pos (by simpa using hpart), walk, hl]
        exact ih h

/-! ### New directories -/

/-- A later tree, in which directories lie at some places where nothing lay. -/
structure Gains (t t' : FileTree) (new : Location → Prop) : Prop where
  current : t'.current = t.current
  entry   : ∀ m, t'.entry? m = t.entry? m ∨
    t.entry? m = none ∧ t'.entry? m = some .directory ∧ new m

namespace Gains

theorem refl (t : FileTree) (new : Location → Prop) : t.Gains t new := ⟨rfl, fun _ => .inl rfl⟩

theorem start (h : t.Gains t' new) (p : Path) : t'.start p = t.start p := by
  rw [FileTree.start, FileTree.start, h.current]

/-- A directory stays one. -/
theorem directory (h : t.Gains t' new) (hm : t.entry? m = some .directory) :
    t'.entry? m = some .directory := by
  rcases h.entry m with hsame | ⟨-, hdirectory, -⟩
  · exact hsame.trans hm
  · exact hdirectory

/-- The files stay as they are. -/
theorem file_iff (h : t.Gains t' new) :
    t'.entry? m = some (.file content) ↔ t.entry? m = some (.file content) := by
  rcases h.entry m with hsame | ⟨hnone, hdirectory, -⟩
  · rw [hsame]
  · simp [hnone, hdirectory]

end Gains

/-- **Directories are made only on the way**, where they are missing. -/
theorem makeWay_gains (t : FileTree) (made : Bool) (l : Location) (ps : List (List Char)) :
    t.Gains (t.makeWay refusal made l ps).1 fun m =>
      ∃ front rest, ps = front ++ rest ∧ m = l.follow front := by
  induction ps generalizing t made l with
  | nil => exact .refl t _
  | cons part ps ih =>
    have hlater : ∀ {m}, (∃ front rest, ps = front ++ rest ∧ m = (l.step part).follow front) →
        ∃ front rest, part :: ps = front ++ rest ∧ m = l.follow front := by
      rintro m ⟨front, rest, hps, hm⟩
      exact ⟨part :: front, rest, by rw [hps, List.cons_append], hm⟩
    rw [makeWay]
    rcases hl : t.entry? (l.step part) with _ | found | _
    · cases refusal (l.step part) with
      | some fault => exact .refl t _
      | none =>
        have hne : l.step part ≠ [] := fun e => by simp [e, entry?_nil] at hl
        have hrest := ih (t.put (l.step part) .directory) true (l.step part)
        refine ⟨hrest.current, fun m => ?_⟩
        have hentry := hrest.entry m
        rw [entry?_put hne] at hentry
        -- the directory made here is there for good, since later steps only add
        by_cases hm : m = l.step part
        · rw [if_pos hm] at hentry
          have hmade := hentry.resolve_right (by simp)
          exact .inr ⟨hm ▸ hl, hmade, [part], ps, rfl, hm⟩
        · rw [if_neg hm] at hentry
          exact hentry.imp_right fun h => ⟨h.1, h.2.1, hlater h.2.2⟩
    · exact .refl t _
    · have hrest := ih t made (l.step part)
      exact ⟨hrest.current, fun m =>
        (hrest.entry m).imp_right fun h => ⟨h.1, h.2.1, hlater h.2.2⟩⟩

/-- The directories that are made for a file lie where its path passes. -/
theorem makeDirectories_gains (hcurrent : t.entry? t.current = some .directory) (p : Path) :
    t.Gains (t.makeDirectories refusal (directoryOf p)).1 (t.Passes p) := by
  rcases Path.steps_directoryOf p with ⟨-, hdir⟩ | ⟨part, habsolute, hsteps⟩
  · have hidle : t.makeDirectories refusal ⟨"."⟩ = (t, .ok ()) := by
      have hstart : t.start ⟨"."⟩ = t.current := rfl
      have hparts : (Path.mk ".").parts = [['.']] := by decide
      rw [makeDirectories, hstart, hparts, makeWay, Location.step_of_idle (by decide)]
      simp only [hcurrent]
      rfl
    rw [hdir, hidle]
    exact .refl t _
  · have hstart : t.start (directoryOf p) = t.start p := by rw [start, start, habsolute]
    have hgains : t.Gains (t.makeWay refusal false (t.start p) (directoryOf p).parts).1 _ :=
      makeWay_gains t false (t.start p) (directoryOf p).parts
    rw [makeDirectories, hstart]
    refine ⟨hgains.current, fun m => (hgains.entry m).imp_right ?_⟩
    rintro ⟨hnone, hmade, front, rest, hparts, rfl⟩
    refine ⟨hnone, hmade, front.filter (fun part => !Path.idle part),
      rest.filter (fun part => !Path.idle part) ++ [part], ?_, by simp,
      (Location.follow_filter _ _).symm⟩
    rw [hsteps, Path.steps, hparts, List.filter_append, List.append_assoc]

/-! ### What a path leads to -/

/-- Behind a place where nothing lies, a way that never goes back leads nowhere, though there may be
new directories on it. -/
theorem walk_of_gains (ht : t.IsSound) (h : t.Gains t' new) {ps : List (List Char)}
    (hl : t.entry? l = none) (hback : ['.', '.'] ∉ ps) :
    (t'.walk l ps = .error .notFound ∨ t'.walk l ps = .ok (l.follow ps)) ∧
      t.entry? (l.follow ps) = none := by
  induction ps generalizing l with
  | nil => exact ⟨.inr rfl, hl⟩
  | cons part ps ih =>
    obtain ⟨hne, hback⟩ := List.ne_and_not_mem_of_not_mem_cons hback
    have hnext : t.entry? (l.step part) = none := by
      by_cases hpart : Path.idle part = true
      · rwa [Location.step_of_idle hpart]
      · rw [Location.step_eq_append (by simpa using hpart) hne.symm]
        by_contra hentry
        have hparent := ht.parent hentry
        simp [hl] at hparent
    obtain ⟨hwalk, hend⟩ := ih hnext hback
    refine ⟨?_, hend⟩
    rw [walk]
    rcases hentry : t'.entry? l with _ | content | _
    · exact .inl rfl
    · simp [h.file_iff.mp hentry] at hl
    · exact hwalk

/-- A walk ends somewhere, or at a file, or at the first place where nothing lies. -/
theorem walk_cases (t : FileTree) (l : Location) (ps : List (List Char)) :
    (∃ m, t.walk l ps = .ok m) ∨
      (∃ front rest m content, ps = front ++ rest ∧ rest ≠ [] ∧ t.walk l front = .ok m ∧
        t.entry? m = some (.file content)) ∨
      ∃ front rest m, ps = front ++ rest ∧ rest ≠ [] ∧ t.walk l front = .ok m ∧
        t.entry? m = none := by
  induction ps generalizing l with
  | nil => exact .inl ⟨l, rfl⟩
  | cons part ps ih =>
    rcases hl : t.entry? l with _ | content | _
    · exact .inr (.inr ⟨[], part :: ps, l, rfl, by simp, rfl, hl⟩)
    · exact .inr (.inl ⟨[], part :: ps, l, content, rfl, by simp, rfl, hl⟩)
    · have hstep : ∀ qs, t.walk l (part :: qs) = t.walk (l.step part) qs := fun qs => by
        rw [walk, hl]
      rw [hstep]
      rcases ih (l.step part) with hok | ⟨front, rest, m, content, rfl, hne, hm, hfile⟩ |
        ⟨front, rest, m, rfl, hne, hm, hnone⟩
      · exact .inl hok
      · exact .inr (.inl ⟨part :: front, rest, m, content, rfl, hne, (hstep _).trans hm, hfile⟩)
      · exact .inr (.inr ⟨part :: front, rest, m, rfl, hne, (hstep _).trans hm, hnone⟩)

/-- Finding is walking, then looking at the entry. -/
theorem find_eq_walk (h : p.text.isEmpty = false) :
    t.find p = t.walk (t.start p) p.parts >>= fun l =>
      match t.entry? l with
      | some e => .ok (l, e)
      | none   => .error .notFound := by
  rw [find, place, h, if_neg (by simp)]
  rfl

/-- A place behind the first one where nothing lies is none of those that a path passes, if the path
leads to it without going back. -/
theorem not_passes_of_walk {front rest : List (List Char)} (hparts : p.parts = front ++ rest)
    (hl : t.walk (t.start p) front = .ok l) (hback : ['.', '.'] ∉ rest)
    (hend : t.entry? (l.follow rest) = none) : ¬ t.Passes p (l.follow rest) := by
  rintro ⟨before, behind, hsteps, hbehind, heq⟩
  obtain ⟨hfollow, hway⟩ := follow_of_walk (walk_steps hl)
  rw [Path.steps, hparts, List.filter_append] at hsteps
  -- behind the missing place, every step leads further down
  have hfurther : ∀ c, rest.filter (fun part => !Path.idle part) = c ++ behind →
      l.follow rest ≠ l.follow c := by
    intro c hc heq
    have hidle : ∀ part ∈ c ++ behind, Path.idle part = false := by
      rw [← hc]
      exact fun part hpart => by simpa using (List.mem_filter.mp hpart).2
    have hnever : ['.', '.'] ∉ c ++ behind := fun hmem => hback (List.mem_filter.mp (hc ▸ hmem)).1
    rw [← Location.follow_filter l rest, hc] at heq
    have hlength := congrArg List.length heq
    rw [Location.length_follow hidle hnever,
      Location.length_follow (fun part hpart => hidle part (List.mem_append_left _ hpart))
        (fun hmem => hnever (List.mem_append_left _ hmem)), List.length_append] at hlength
    exact hbehind (List.length_eq_zero_iff.mp (by omega))
  rcases List.append_eq_append_iff.mp hsteps with ⟨c, rfl, hc⟩ | ⟨c, hc, rfl⟩
  · rw [Location.follow_append, ← hfollow] at heq
    exact hfurther c hc heq
  · rcases eq_or_ne c [] with rfl | hne
    · rw [List.append_nil] at hc
      rw [← hc, ← hfollow] at heq
      exact hfurther [] rfl heq
    · -- all places before it are directories
      rw [heq, hway before c hc hne] at hend
      cases hend

/-- **A path leads where it led**, if there are new directories only where it passes: unless it goes
back behind a place where nothing lay. -/
theorem find_of_gains (ht : t.IsSound) (h : t.Gains t' (t.Passes p)) :
    t'.find p = t.find p ∨ t.find p = .error .notFound ∧ t.TurnsBack p := by
  cases hempty : p.text.isEmpty with
  | true =>
    refine .inl ?_
    rw [find, find, place, place, hempty, if_pos rfl, if_pos rfl]
    rfl
  | false =>
    rw [find_eq_walk hempty, find_eq_walk hempty, h.start]
    have hkept : ∀ {l m ps}, t.walk l ps = .ok m → t'.walk l ps = .ok m :=
      walk_of_directories fun _ => h.directory
    have hnone : ∀ {m}, t.entry? m = none → ¬ t.Passes p m → t'.entry? m = none := by
      intro m hm hpasses
      rcases h.entry m with hsame | ⟨-, -, hnew⟩
      · exact hsame.trans hm
      · exact absurd hnew hpasses
    -- how far the walk got before: to its end, to a file, or to a missing directory
    rcases walk_cases t (t.start p) p.parts with ⟨m, hm⟩ |
      ⟨front, rest, m, content, hparts, hne, hm, hfile⟩ | ⟨front, rest, m, hparts, hne, hm, hmissing⟩
    · refine .inl ?_
      have hsame : t'.entry? m = t.entry? m := by
        refine (h.entry m).resolve_right ?_
        rintro ⟨hmissing, -, front, rest, hsteps, hrest, rfl⟩
        obtain ⟨-, hway⟩ := follow_of_walk (walk_steps hm)
        rw [hway front rest hsteps hrest] at hmissing
        cases hmissing
      rw [hm, hkept hm]
      simp only [bind, Except.bind, hsame]
    · refine .inl ?_
      obtain ⟨part, rest, rfl⟩ := List.exists_cons_of_ne_nil hne
      rw [hparts, walk_append, walk_append, hm, hkept hm]
      simp only [bind, Except.bind, walk, hfile, h.file_iff.mpr hfile]
      rfl
    · obtain ⟨part, rest, rfl⟩ := List.exists_cons_of_ne_nil hne
      have hlost : t.walk m (part :: rest) = .error .notFound := by rw [walk, hmissing]; rfl
      rw [hparts, walk_append, walk_append, hm, hkept hm]
      simp only [bind, Except.bind, hlost]
      -- behind a missing directory, only a `..` leads back to places that exist
      by_cases hback : ['.', '.'] ∈ part :: rest
      · refine .inr ⟨trivial, front.filter (fun part => !Path.idle part),
          (part :: rest).filter (fun part => !Path.idle part), m, ?_, walk_steps hm, hmissing, ?_⟩
        · rw [Path.steps, hparts, List.filter_append]
        · exact List.mem_filter.mpr ⟨hback, by decide⟩
      · refine .inl ?_
        obtain ⟨hwalk, hend⟩ := walk_of_gains ht h hmissing hback
        have hgone := hnone hend (not_passes_of_walk hparts hm hback hend)
        rcases hwalk with hwalk | hwalk
        · simp only [hwalk]
        · simp only [hwalk, hgone]

/-! ### Publishing -/

/-- Bytes that are put at the place of their path are found there. The place is looked for while there
is a temporary file. -/
theorem find_put_place {temporary : Location} (hne : temporary ≠ [])
    (hplace : (t.put temporary (.file content)).place p = .ok l)
    (hdirectory : t.entry? l ≠ some .directory) :
    l ≠ [] ∧ (t.put l (.file content)).find p = .ok (l, .file content) := by
  have hl : l ≠ [] := by
    rintro rfl
    exact hdirectory (entry?_nil _)
  refine ⟨hl, find_eq_ok_iff.mpr ⟨?_, by rw [entry?_put hl, if_pos rfl]⟩⟩
  -- a directory on the way is neither the temporary file nor the place of the file
  refine place_of_directories (t := t.put temporary (.file content)) rfl (fun m hm => ?_) hplace
  rw [entry?_put hne] at hm
  split at hm
  · cases hm
  · have hml : m ≠ l := fun e => hdirectory (e ▸ hm)
    rwa [entry?_put hl, if_neg hml]

theorem holds_iff_read : t.holds p content = true ↔ t.read p = .ok content := by
  rw [holds]
  cases t.read p with
  | error fault => simp
  | ok found => simp [ByteArray.ext_iff]

/-- Where the file does not hold the bytes, directories are made, and then the bytes are put at the
place of the path, or nothing more happens. -/
theorem publish_leaves (h : t.holds p content ≠ true) (refusals : Refusals) :
    ∃ t₁, t₁ = (t.makeDirectories (fun l => refusals (.makeDirectory l)) (directoryOf p)).1 ∧
      ((∃ e, t.publish refusals p content = (t₁, .error e)) ∨
        ∃ l, l ≠ [] ∧ t.publish refusals p content = (t₁.put l (.file content), .ok .written) ∧
          (t₁.put l (.file content)).find p = .ok (l, .file content)) := by
  obtain ⟨t₁, made, hmakes, hsteps⟩ := publish_steps h refusals
  refine ⟨t₁, by rw [hmakes], hsteps.imp_right ?_⟩
  rintro ⟨-, temporary, l, hne, hplace, hdirectory, hpublish⟩
  obtain ⟨hl, hfind⟩ := find_put_place hne hplace hdirectory
  exact ⟨l, hl, hpublish, hfind⟩

/-- **All or nothing.** Whatever the system refuses: if the file is said to be written, the path
leads to a file of just these bytes; if it is said to be unchanged, it did so before, and nothing has
changed; if publishing fails, the path leads where it led, unless it turns back behind a missing
directory. A place at which anything has changed is the one that the path leads to, with the file that
is written, or one that the path passes, with a directory where nothing lay; so no temporary file is
left. Once the file is published, the same bytes are not published again. -/
theorem publish_all_or_nothing (ht : t.IsSound) (hcurrent : t.entry? t.current = some .directory)
    (refusals : Refusals) (p : Path) (content : ByteArray) :
    ∃ t' outcome, t.publish refusals p content = (t', outcome) ∧
      (outcome = .ok .written → t'.read p = .ok content) ∧
      (outcome = .ok .unchanged → t.read p = .ok content ∧ t' = t) ∧
      (∀ e, outcome = .error e →
        t'.find p = t.find p ∨ t.find p = .error .notFound ∧ t.TurnsBack p) ∧
      (∀ m, t'.entry? m ≠ t.entry? m →
        outcome = .ok .written ∧ t'.place p = .ok m ∨
          t.entry? m = none ∧ t'.entry? m = some .directory ∧ t.Passes p m) ∧
      ∀ done, outcome = .ok done → ∀ refusals',
        t'.publish refusals' p content = (t', .ok .unchanged) := by
  by_cases hholds : t.holds p content = true
  · refine ⟨t, .ok .unchanged, publish_of_holds hholds refusals, by simp,
      fun _ => ⟨holds_iff_read.mp hholds, rfl⟩, by simp, fun m hm => absurd rfl hm,
      fun _ _ refusals' => publish_of_holds hholds refusals'⟩
  obtain ⟨t₁, ht₁, hleaves⟩ := publish_leaves hholds refusals
  have hgains : t.Gains t₁ (t.Passes p) := ht₁ ▸ makeDirectories_gains hcurrent p
  rcases hleaves with ⟨e, hpublish⟩ | ⟨l, hl, hpublish, hfind⟩
  · exact ⟨t₁, .error e, hpublish, by simp, by simp, fun _ _ => find_of_gains ht hgains,
      fun m hm => .inr ((hgains.entry m).resolve_left hm), by simp⟩
  · have hread : (t₁.put l (.file content)).read p = .ok content := by
      rw [read, hfind]
      rfl
    refine ⟨t₁.put l (.file content), .ok .written, hpublish, fun _ => hread, by simp, by simp,
      fun m hm => ?_, fun _ _ => publish_of_holds (holds_iff_read.mpr hread)⟩
    -- the written place, and beside it the directories made on the way
    rcases eq_or_ne m l with rfl | hml
    · exact .inl ⟨rfl, (find_eq_ok_iff.mp hfind).1⟩
    · rw [entry?_put hl, if_neg hml] at hm ⊢
      exact .inr ((hgains.entry m).resolve_left hm)

/-- A module with one directory, seen from its own. -/
def oneDirectory : FileTree where
  entries := [(["m"], .directory), (["m", "go.mod"], .file "module m\n".toUTF8),
    (["m", "d"], .directory)]
  current := ["m"]

/-- A mock file is published below a directory that is not there yet. -/
theorem publish_all_or_nothing_doer :
    oneDirectory.IsSound ∧ oneDirectory.entry? oneDirectory.current = some .directory ∧
      ∃ t', oneDirectory.publish .none ⟨"svc/mocks/doer.go"⟩ "package mocksvc\n".toUTF8 =
          (t', .ok .written) ∧
        t'.read ⟨"svc/mocks/doer.go"⟩ = .ok "package mocksvc\n".toUTF8 ∧
        t'.publish .none ⟨"svc/mocks/doer.go"⟩ "package mocksvc\n".toUTF8 =
          (t', .ok .unchanged) := by
  have hsound : oneDirectory.IsSound := by decide +kernel
  have hcurrent : oneDirectory.entry? oneDirectory.current = some .directory := rfl
  have hwritten : ((oneDirectory.publish .none ⟨"svc/mocks/doer.go"⟩
      "package mocksvc\n".toUTF8).2.toOption = some .written) := by decide +kernel
  obtain ⟨t', outcome, hpublish, hread, -, -, -, hagain⟩ := publish_all_or_nothing hsound hcurrent
    .none ⟨"svc/mocks/doer.go"⟩ "package mocksvc\n".toUTF8
  obtain rfl : outcome = .ok .written := by
    rw [hpublish] at hwritten
    cases outcome <;> simp_all [Except.toOption]
  exact ⟨hsound, hcurrent, t', hpublish, hread rfl, hagain .written rfl .none⟩

/-- **A path may lead somewhere after a failure.** It turns back behind a directory that is made for
the file, and nothing can be published at a directory, be it one that was there or one of the new
ones. -/
theorem publish_turnsBack :
    oneDirectory.IsSound ∧ oneDirectory.directoryAt oneDirectory.current = true ∧
      ∀ path ∈ ["a/../d", "a/b/.."],
        let (t', outcome) := oneDirectory.publish .none ⟨path⟩ "package d\n".toUTF8
        (outcome matches .error _) ∧ oneDirectory.contains ⟨path⟩ = false ∧
          t'.isDirectory ⟨path⟩ = true := by
  decide +kernel

end FileTree

end GoMocks
