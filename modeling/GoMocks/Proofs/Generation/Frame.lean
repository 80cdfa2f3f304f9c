import GoMocks.Proofs.Generation.Accounting

/-!
# Generation — what a run changes

A run that fails leaves the file tree as it was. Any other run changes the files that it reports as
written, makes directories for them, and nothing else.

* `Run.Sound.entry_of_unwritten`: a mock file that is not written is what it was.
* `Run.changes`: all that changes in a file tree.
-/

namespace GoMocks.Run

open Generation (Turn)

variable {run : Run} {turn : Turn} {l : Location}

/-- Every turn of a sound run puts its output at its place. -/
theorem Sound.output (h : run.Sound) (hturn : turn ∈ run.turns) :
    (turn.output run.settings).LeadsTo (turn.place run.settings) := by
  obtain ⟨d, name, -, hstands⟩ := h.turn_stands hturn
  rw [hstands.place_eq h.tree h.outputDir]
  exact hstands.output h.tree h.outputDir

/-- A mock file that was published holds the source that was made for it. -/
theorem Sound.entry_of_published (h : run.Sound) (hturn : turn ∈ run.turns)
    {outcome : PublishOutcome} (houtcome : turn.outcome run.settings = .ok outcome) :
    ∃ code, turn.code run.settings = .ok code ∧
      run.last.tree.entry? (turn.place run.settings) = some (.file code.toUTF8) := by
  obtain ⟨code, hcode, hentry⟩ := (h.leaves.turn turn hturn).published outcome houtcome
  exact ⟨code, hcode, (h.leaves.after turn hturn).trans hentry⟩

/-- A mock file that is not written is what it was, or is still missing. -/
theorem Sound.entry_of_unwritten (h : run.Sound) (hturn : turn ∈ run.turns)
    (houtcome : turn.outcome run.settings ≠ .ok .written) :
    run.last.tree.entry? (turn.place run.settings) =
      run.start.tree.entry? (turn.place run.settings) := by
  rcases h.leaves.changes (turn.place run.settings) with hsame | ⟨-, -, turn', hturn', hm, -⟩ |
    ⟨turn', hturn', hm, hwritten⟩
  · exact hsame
  · obtain ⟨d, name, -, hstands⟩ := h.turn_stands hturn
    obtain ⟨d', name', -, hstands'⟩ := h.turn_stands hturn'
    exact absurd hm (hstands.place_ne hstands' h.tree h.outputDir)
  · obtain rfl := List.inj_on_of_nodup_map h.places hturn hturn' hm
    exact absurd hwritten houtcome

/-- **All that a run changes**, whatever the system refuses. A run that fails changes nothing.
Otherwise every place where the tree differs is that of a mock file that is reported as written, or
that of a directory which was missing and which a mock file was to lie in. A mock file that is
reported as written holds the source that was made for it, and one that is reported as unchanged, or
whose generation failed, is what it was. -/
theorem changes {refusals : Refusals} {t t' : FileTree} {env : Environment} {request : Request}
    {result : Except Error Report} (ht : t.IsSound)
    (h : generate refusals t env request = (t', result)) :
    (∀ e, result = .error e → t' = t) ∧
      ∀ report, result = .ok report → ∃ run, runOf refusals t env request = .ok run ∧
        (∀ l, t'.entry? l = t.entry? l ∨
          (∃ path ∈ report.written, path.LeadsTo l) ∨
          (t.entry? l = none ∧ t'.entry? l = some .directory ∧
            ∃ turn ∈ run.turns, ∃ below, below ≠ [] ∧
              (turn.output run.settings).LeadsTo (l ++ below))) ∧
        (∀ path ∈ report.written, ∃ turn ∈ run.turns, turn.output run.settings = path ∧
          ∃ code, turn.code run.settings = .ok code ∧ t'.read path = .ok code.toUTF8) ∧
        (∀ path ∈ report.unchanged, ∃ l, path.LeadsTo l ∧ t'.entry? l = t.entry? l) ∧
        ∀ turn ∈ run.turns, (∃ e, turn.outcome run.settings = .error e) →
          ∃ l, (turn.output run.settings).LeadsTo l ∧ t'.entry? l = t.entry? l := by
  constructor
  · rintro e rfl
    rw [generate_eq] at h
    cases hrun : runOf refusals t env request with
    | error e' => rw [hrun] at h; exact (Prod.mk.inj h).1.symm
    | ok run => rw [hrun] at h; exact nomatch (Prod.mk.inj h).2
  rintro report rfl
  obtain ⟨run, hrun, rfl, rfl⟩ := generate_eq_ok_iff.mp h
  obtain ⟨rfl, hstart, -⟩ := of_runOf hrun
  have hsound := sound_of_runOf ht hrun
  have hleaves := hsound.leaves
  -- unchanged outputs and failed turns in one: a turn that has not written has its old entry
  have hunwritten : ∀ turn ∈ run.turns, turn.outcome run.settings ≠ .ok .written →
      ∃ l, (turn.output run.settings).LeadsTo l ∧
        run.last.tree.entry? l = run.start.tree.entry? l := fun turn hturn houtcome =>
    ⟨_, hsound.output hturn, hsound.entry_of_unwritten hturn houtcome⟩
  refine ⟨run, hrun, fun l => ?_, fun path hpath => ?_, fun path hpath => ?_,
    fun turn hturn ⟨e, he⟩ => hunwritten turn hturn (by simp [he])⟩
  · refine (hleaves.changes l).imp_right (Or.imp ?_ ?_ ∘ Or.symm)
    · rintro ⟨turn, hturn, rfl, hwritten⟩
      refine ⟨turn.output run.settings, ?_, hsound.output hturn⟩
      rw [run.written_eq hstart]
      exact mem_outputs.mpr ⟨turn, hturn, hwritten, rfl⟩
    · rintro ⟨hnone, hmade, turn, hturn, rfl, -⟩
      -- the one directory a turn makes is the one above its output
      obtain ⟨d, name, -, hstands⟩ := hsound.turn_stands hturn
      refine ⟨hnone, hmade, turn, hturn, [name], List.cons_ne_nil _ _, ?_⟩
      have hplace := hstands.place_eq hsound.tree hsound.outputDir
      have hsplit : (turn.place run.settings).dropLast ++ [name] = turn.place run.settings := by
        rw [hplace]
        simp
      rw [hsplit]
      exact hsound.output hturn
  · rw [run.written_eq hstart] at hpath
    obtain ⟨turn, hturn, hwritten, rfl⟩ := mem_outputs.mp hpath
    obtain ⟨code, hcode, hentry⟩ := hsound.entry_of_published hturn hwritten
    exact ⟨turn, hturn, rfl, code, hcode,
      (hleaves.sound.read_eq_ok_iff (hsound.output hturn)).mpr hentry⟩
  · rw [run.unchanged_eq hstart] at hpath
    obtain ⟨turn, hturn, hunchanged, rfl⟩ := mem_outputs.mp hpath
    exact hunwritten turn hturn (by simp [hunchanged])

/-- What changes in a run that publishes two files and reports a package that cannot be listed. -/
theorem changes_sample :
    ∃ t, sample.IsSound ∧ generate .none sample {} everything = (t, .ok sampleReport) ∧
      ∀ l, t.entry? l = sample.entry? l ∨ (∃ path ∈ sampleReport.written, path.LeadsTo l) ∨
        (sample.entry? l = none ∧ t.entry? l = some .directory) := by
  obtain ⟨t, ht⟩ := generate_sample
  obtain ⟨run, -, hchanges, -⟩ := (changes sample_isSound ht).2 sampleReport rfl
  exact ⟨t, sample_isSound, ht, fun l =>
    (hchanges l).imp_right (Or.imp_right fun h => ⟨h.1, h.2.1⟩)⟩

end GoMocks.Run
