import GoMocks.Proofs.FileTree.Additions
import GoMocks.Proofs.Generation.Turns
import GoMocks.Proofs.Publish

/-!
# Generation — what turns leave behind

A turn changes at most two places: the mock file, and the directory that it goes to if that is
missing. Different turns do not get in each other's way.

* `Turn.Stands.leaves`: the step lemma, all that a turn leaves behind.
* `Takes.leaves`: the run lemma. At the place of each turn, only the turn itself has changed
  anything.
-/

namespace GoMocks

/-- The name of the directories that mock files go to. -/
def RunSettings.directoryName (settings : RunSettings) : String :=
  Path.directoryName settings.options.outputDir

/-- A directory that is made if it is missing, in one that is there, changes nothing else. -/
theorem FileTree.keeps_of_made {t t₁ : FileTree} {d : Location} {n : String} (ht : t.IsSound)
    (hn : IsFileName n) (hd : t.entry? d = some .directory)
    (h : t₁ = t ∨ t.entry? (d ++ [n]) = none ∧ t₁ = t.put (d ++ [n]) .directory) :
    t₁.IsSound ∧ t.Keeps t₁ ∧ ∀ m, t₁.entry? m = t.entry? m ∨
      t.entry? m = none ∧ t₁.entry? m = some .directory ∧ m = d ++ [n] := by
  rcases h with rfl | ⟨hnone, rfl⟩
  · exact ⟨ht, .refl _, fun _ => .inl rfl⟩
  · refine ⟨ht.put hn hd (.inl rfl), keeps_put_directory (by simp) hnone, fun m => ?_⟩
    rw [entry?_put (by simp)]
    split
    · next hm => exact .inr ⟨hm ▸ hnone, rfl, hm⟩
    · exact .inl rfl

namespace Generation

variable {settings : RunSettings} {t t' : FileTree} {turn turn' : Turn} {turns : List Turn}
  {d d' : Location} {name name' : String}

namespace Turn

/-- The source file of a turn is there. -/
structure Stands (turn : Turn) (t : FileTree) (d : Location) (name : String) : Prop where
  source    : turn.source = (d ++ [name]).path
  directory : t.entry? d = some .directory
  file      : ∃ content, t.entry? (d ++ [name]) = some (.file content)

/-- A turn stands in every tree that keeps the entries. -/
theorem Stands.keeps (h : turn.Stands t d name) (hk : t.Keeps t') : turn.Stands t' d name := by
  obtain ⟨content, hfile⟩ := h.file
  exact ⟨h.source, hk.directory d h.directory, hk.file _ content hfile⟩

/-- Where the mock file lies. -/
def place (settings : RunSettings) (turn : Turn) : Location :=
  (turn.output settings).location

/-- The output of a standing turn leads to the mock directory beside its source. -/
theorem Stands.output (h : turn.Stands t d name) (ht : t.IsSound)
    (hdir : Config.isDirectoryName settings.options.outputDir = true) :
    (turn.output settings).LeadsTo (d ++ [settings.directoryName, name]) := by
  obtain ⟨content, hfile⟩ := h.file
  rw [Turn.output, h.source]
  exact Path.leadsTo_outputPath hdir (ht.proper (by simp [hfile]))

/-- The place of a standing turn is in the mock directory beside its source. -/
theorem Stands.place_eq (h : turn.Stands t d name) (ht : t.IsSound)
    (hdir : Config.isDirectoryName settings.options.outputDir = true) :
    turn.place settings = d ++ [settings.directoryName, name] :=
  (h.output ht hdir).location_eq

/-- All that a turn leaves behind. -/
structure Leaves (settings : RunSettings) (turn : Turn) : Prop where
  sound     : (turn.after settings).tree.IsSound
  keeps     : turn.before.tree.Keeps (turn.after settings).tree
  changes   : ∀ m, (turn.after settings).tree.entry? m = turn.before.tree.entry? m ∨
    (turn.before.tree.entry? m = none ∧
      (turn.after settings).tree.entry? m = some .directory ∧
      m = (turn.place settings).dropLast) ∨
    (m = turn.place settings ∧ turn.outcome settings = .ok .written)
  published : ∀ outcome, turn.outcome settings = .ok outcome → ∃ code,
    turn.code settings = .ok code ∧
      (turn.after settings).tree.entry? (turn.place settings) = some (.file code.toUTF8)
  unchanged : turn.outcome settings = .ok .unchanged →
    (turn.after settings).tree = turn.before.tree

/-- The tree after a turn: as before when rendering fails, else with the text published. -/
theorem tree_after (settings : RunSettings) (turn : Turn) :
    (turn.after settings).tree =
      match turn.code settings with
      | .error _ => turn.before.tree
      | .ok code => (turn.before.tree.publish settings.refusals (turn.output settings)
          code.toUTF8).1 := by
  rw [after, addFile_eq, tree_addOutcome]
  cases hcode : turn.code settings <;> rw [code] at hcode <;> simp only [group, output, hcode]

/-- The loader after a turn: the one that rendering leaves. -/
theorem loader_after (settings : RunSettings) (turn : Turn) :
    (turn.after settings).loader = (Generation.source settings turn.before.tree turn.before.loader
      turn.package turn.interfaces).2 := by
  simp only [after, addFile_eq, loader_addOutcome, group]

/-- The outcome of a turn that renders is that of publishing its text. -/
theorem outcome_of_code {code : String} (h : turn.code settings = .ok code) :
    turn.outcome settings = (turn.before.tree.publish settings.refusals (turn.output settings)
      code.toUTF8).2 := by
  rw [outcome, h]
  rfl

/-- A tree in which nothing has changed. -/
theorem Leaves.of_tree_eq (ht : turn.before.tree.IsSound)
    (htree : (turn.after settings).tree = turn.before.tree)
    (hpublished : ∀ outcome, turn.outcome settings = .ok outcome → ∃ code,
      turn.code settings = .ok code ∧
        turn.before.tree.entry? (turn.place settings) = some (.file code.toUTF8)) :
    turn.Leaves settings where
  sound       := by rwa [htree]
  keeps       := by rw [htree]; exact .refl _
  changes _   := .inl (by rw [htree])
  published   := by rwa [htree]
  unchanged _ := htree

/-- **What a turn leaves behind**: the mock file at its place and the directory of that place, or
nothing. -/
theorem Stands.leaves (h : turn.Stands turn.before.tree d name) (ht : turn.before.tree.IsSound)
    (hdir : Config.isDirectoryName settings.options.outputDir = true) : turn.Leaves settings := by
  have houtput := h.output ht hdir
  have hplace := h.place_eq ht hdir
  have hname : IsFileName settings.directoryName := (Path.of_isDirectoryName hdir).2.1
  have htree := turn.tree_after settings
  cases hcode : turn.code settings with
  | error e =>
    rw [hcode] at htree
    refine .of_tree_eq ht htree fun outcome houtcome => ?_
    rw [Turn.outcome, hcode] at houtcome
    cases houtcome
  | ok code =>
    have houtcome := outcome_of_code hcode
    rw [hcode] at htree
    dsimp only at htree
    rcases FileTree.publish_cases ht houtput h.directory settings.refusals code.toUTF8 with
      ⟨hheld, hpublish⟩ | ⟨t₁, ht₁, hrest⟩
    · rw [hpublish] at htree
      exact .of_tree_eq ht htree fun _ _ => ⟨code, hcode, hplace ▸ hheld⟩
    -- the directory of mocks is there; what follows is between that tree and the last one
    obtain ⟨hsound, hkeeps, hentries⟩ := FileTree.keeps_of_made ht hname h.directory ht₁
    have hchanges : ∀ m, t₁.entry? m = turn.before.tree.entry? m ∨
        turn.before.tree.entry? m = none ∧ t₁.entry? m = some .directory ∧
          m = (turn.place settings).dropLast := by
      simpa [hplace] using hentries
    rcases hrest with ⟨e, hpublish⟩ | ⟨hdirectory, hfree, hpublish⟩
    · rw [hpublish] at htree houtcome
      refine ⟨by rwa [htree], by rwa [htree], fun m => ?_, fun outcome h => ?_, fun h => ?_⟩
      · rw [htree]
        exact (hchanges m).imp_right .inl
      · cases houtcome.symm.trans h
      · cases houtcome.symm.trans h
    · rw [hpublish] at htree houtcome
      have hsplit : d ++ [settings.directoryName, name] = d ++ [settings.directoryName] ++ [name] := by
        simp
      have hentry := FileTree.entry?_put (l := d ++ [settings.directoryName, name]) (by simp) t₁
        (.file code.toUTF8)
      -- the output has the name of its source, which is a file's
      obtain ⟨content, hsource⟩ := h.file
      have hsourceName : IsFileName name :=
        ht.proper (l := d ++ [name]) (by simp [hsource]) name (by simp)
      refine ⟨?_, ?_, fun m => ?_, fun outcome _ => ⟨code, hcode, ?_⟩, fun h => ?_⟩
      · rw [htree, hsplit]
        exact hsound.put hsourceName hdirectory (.inr (hsplit ▸ hfree))
      · rw [htree]
        exact hkeeps.trans (FileTree.keeps_put_file (by simp) hfree _)
      · rw [htree, hentry]
        split
        · next hm => exact .inr (.inr ⟨hm.trans hplace.symm, houtcome⟩)
        · exact (hchanges m).imp_right .inl
      · rw [htree, hentry, if_pos hplace]
      · cases houtcome.symm.trans h

end Turn

/-! ### Runs -/

/-- All that turns leave behind, seen from the tree that they began with. -/
structure Takes.Leaves (settings : RunSettings) (t : FileTree) (turns : List Turn) (t' : FileTree) :
    Prop where
  sound   : t'.IsSound
  keeps   : t.Keeps t'
  turn    : ∀ turn ∈ turns, turn.Leaves settings
  before  : ∀ turn ∈ turns, turn.before.tree.IsSound ∧ t.Keeps turn.before.tree ∧
    turn.before.tree.entry? (turn.place settings) = t.entry? (turn.place settings)
  after   : ∀ turn ∈ turns,
    t'.entry? (turn.place settings) = (turn.after settings).tree.entry? (turn.place settings)
  changes : ∀ m, t'.entry? m = t.entry? m ∨
    (t.entry? m = none ∧ t'.entry? m = some .directory ∧
      ∃ turn ∈ turns, m = (turn.place settings).dropLast ∧
        turn.outcome settings ≠ .ok .unchanged) ∨
    ∃ turn ∈ turns, m = turn.place settings ∧ turn.outcome settings = .ok .written

/-- A mock file does not take the place of the directory of another one. -/
theorem Turn.Stands.place_ne (h : turn.Stands t d name) (h' : turn'.Stands t d' name')
    (ht : t.IsSound) (hdir : Config.isDirectoryName settings.options.outputDir = true) :
    turn.place settings ≠ (turn'.place settings).dropLast := by
  rw [h.place_eq ht hdir, h'.place_eq ht hdir]
  intro e
  have e : d ++ [settings.directoryName] ++ [name] = d' ++ [settings.directoryName] := by
    simpa using e
  -- the directory of the other source would be the source file itself
  obtain ⟨hd, hname⟩ := List.append_inj' e rfl
  obtain ⟨content, hfile⟩ := h.file
  rw [List.singleton_inj.mp hname, hd] at hfile
  exact nomatch hfile.symm.trans h'.directory

/-- **What turns leave behind**, if their source files are there and no two of them have one
place. -/
theorem Takes.leaves (h : Takes settings t turns t') (ht : t.IsSound)
    (hdir : Config.isDirectoryName settings.options.outputDir = true)
    (hstands : ∀ turn ∈ turns, ∃ d name, turn.Stands t d name)
    (hplaces : (turns.map (Turn.place settings)).Nodup) : Takes.Leaves settings t turns t' := by
  induction h with
  | nil => exact ⟨ht, .refl _, by simp, by simp, by simp, fun _ => .inl rfl⟩
  | @cons turn rest t' hrest ih =>
    obtain ⟨⟨d, name, hturn⟩, hstandsRest⟩ := List.forall_mem_cons.mp hstands
    obtain ⟨hnew, hplaces⟩ := List.nodup_cons.mp hplaces
    have hfirst := hturn.leaves ht hdir
    have hlater := ih hfirst.sound
      (fun turn' h => by
        obtain ⟨d', name', h⟩ := hstandsRest turn' h
        exact ⟨d', name', h.keeps hfirst.keeps⟩) hplaces
    have hne : ∀ turn' ∈ rest, turn'.place settings ≠ turn.place settings :=
      fun turn' h e => hnew (List.mem_map.mpr ⟨turn', h, e⟩)
    -- the first turn writes at its own place, and the directory it makes is no place of a turn
    have hbefore : ∀ turn' ∈ rest, (turn.after settings).tree.entry? (turn'.place settings) =
        turn.before.tree.entry? (turn'.place settings) := by
      intro turn' h
      obtain ⟨d', name', hturn'⟩ := hstandsRest turn' h
      rcases hfirst.changes (turn'.place settings) with hsame | ⟨-, -, hm⟩ | ⟨hm, -⟩
      · exact hsame
      · exact absurd hm (hturn'.place_ne hturn ht hdir)
      · exact absurd hm (hne turn' h)
    -- nor do the later turns touch what the first one left
    have hafter : t'.entry? (turn.place settings) =
        (turn.after settings).tree.entry? (turn.place settings) := by
      rcases hlater.changes (turn.place settings) with hsame | ⟨-, -, turn', h, hm, -⟩ |
        ⟨turn', h, hm, -⟩
      · exact hsame
      · obtain ⟨d', name', hturn'⟩ := hstandsRest turn' h
        exact absurd hm (hturn.place_ne hturn' ht hdir)
      · exact absurd hm.symm (hne turn' h)
    refine ⟨hlater.sound, hfirst.keeps.trans hlater.keeps,
      List.forall_mem_cons.mpr ⟨hfirst, hlater.turn⟩,
      List.forall_mem_cons.mpr ⟨⟨ht, .refl _, rfl⟩, fun turn' h => ?_⟩,
      List.forall_mem_cons.mpr ⟨hafter, hlater.after⟩, fun m => ?_⟩
    · obtain ⟨hsound, hkeeps, hentry⟩ := hlater.before turn' h
      exact ⟨hsound, hfirst.keeps.trans hkeeps, hentry.trans (hbefore turn' h)⟩
    · rcases hlater.changes m with hsame | ⟨hnone, hmade, turn', h, hm⟩ | ⟨turn', h, hm, hwritten⟩
      · rw [hsame]
        rcases hfirst.changes m with h | ⟨hnone, hmade, hm⟩ | ⟨hm, hwritten⟩
        · exact .inl h
        · refine .inr (.inl ⟨hnone, hmade, turn, .head _, hm, fun hunchanged => ?_⟩)
          rw [hfirst.unchanged hunchanged, hnone] at hmade
          cases hmade
        · exact .inr (.inr ⟨turn, .head _, hm, hwritten⟩)
      · exact .inr (.inl ⟨hfirst.keeps.none hnone, hmade, turn', .tail _ h, hm⟩)
      · exact .inr (.inr ⟨turn', .tail _ h, hm, hwritten⟩)

end Generation

end GoMocks
