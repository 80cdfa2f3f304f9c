import GoMocks.Proofs.Generation.Runs

/-!
# Generation — what a report accounts for

Nothing is lost between the packages that are loaded and the report, and nothing is counted twice.

* `Run.written_eq`, `Run.unchanged_eq`: the mock files that are reported, turn by turn.
* `Run.Sound.published_nodup`: no mock file is reported twice.
* `Run.accounting`: where every interface of every package goes.
-/

namespace GoMocks

/-! ### Interfaces -/

/-- The rule for an interface: it is exported and no constraint, it has methods, and all of them are
exported. -/
theorem Interface.isEligible_iff (i : Interface) :
    i.eligibility.isEligible = true ↔
      i.exported = true ∧ i.isConstraint = false ∧ i.methods ≠ [] ∧
        ∀ m ∈ i.methods, m.isExported = true := by
  have hall : ((i.methods.filter fun m => !m.isExported).map Method.name = []) ↔
      ∀ m ∈ i.methods, m.isExported = true := by
    simp
  have hany : i.methods ≠ [] → (∀ m ∈ i.methods, m.isExported = true) →
      i.methods.any Method.isExported = true := by
    intro hne hmethods
    obtain ⟨m, hm⟩ := List.exists_mem_of_ne_nil _ hne
    exact List.any_eq_true.mpr ⟨m, hm, hmethods m hm⟩
  rw [eligibility, Eligibility.isEligible]
  split
  · next h => exact iff_of_false (by decide) fun hi => by simp [hi.1] at h
  · next hexported =>
    split
    · next h => exact iff_of_false (by decide) fun hi => by simp [hi.2.1] at h
    · next hconstraint =>
      split
      · next h => exact iff_of_false (by decide) fun hi => by simp [hany hi.2.2.1 hi.2.2.2] at h
      · next hsome =>
        have hne : i.methods ≠ [] := by
          rintro he
          simp [he] at hsome
        split
        · next hnames =>
          exact iff_of_true (by decide)
            ⟨by simpa using hexported, by simpa using hconstraint, hne, hall.mp hnames⟩
        · next hnames =>
          exact iff_of_false (by simp) fun hi => hnames (hall.mpr hi.2.2.2)

/-- Grouping by key only reorders. -/
theorem perm_flatMap_filter {α κ : Type} [BEq κ] [LawfulBEq κ] (key : α → κ) (keys : List κ)
    (hkeys : keys.Nodup) (items : List α) (h : ∀ a ∈ items, key a ∈ keys) :
    (keys.flatMap fun k => items.filter (key · == k)).Perm items := by
  induction keys generalizing items with
  | nil =>
    obtain rfl : items = [] := List.eq_nil_iff_forall_not_mem.mpr fun a ha => nomatch h a ha
    exact .nil
  | cons k keys ih =>
    obtain ⟨hk, hkeys⟩ := List.nodup_cons.mp hkeys
    -- the items of the other keys are those that are left when the ones of this key are taken away
    have hrest : (keys.flatMap fun k' => items.filter (key · == k')) =
        keys.flatMap fun k' => (items.filter (!key · == k)).filter (key · == k') := by
      refine List.flatMap_congr fun k' hk' => ?_
      rw [List.filter_filter]
      refine List.filter_congr fun a _ => ?_
      by_cases ha : key a = k'
      · have hne : k' ≠ k := fun e => hk (e ▸ hk')
        simp [ha, hne]
      · simp [ha]
    have hothers := ih hkeys (items.filter (!key · == k)) fun a ha => by
      obtain ⟨ha, hne⟩ := List.mem_filter.mp ha
      exact (List.mem_cons.mp (h a ha)).resolve_left (by simpa using hne)
    rw [List.flatMap_cons, hrest]
    exact (hothers.append_left _).trans (List.filter_append_perm _ items)

/-- Every interface is in exactly one group. -/
theorem perm_flatMap_groupByFile (interfaces : List Interface) :
    ((groupByFile interfaces).flatMap Prod.snd).Perm interfaces := by
  rw [groupByFile, List.flatMap_map]
  refine perm_flatMap_filter Interface.file _ (nodup_eraseDups _) interfaces fun i hi => ?_
  exact List.mem_eraseDups.mpr (List.mem_map_of_mem hi)

/-- A group is made of the interfaces of its source file, in their order, and of at least one. -/
theorem of_mem_groupByFile {interfaces : List Interface} {group : Path × List Interface}
    (h : group ∈ groupByFile interfaces) :
    group.2 = interfaces.filter (·.file == group.1) ∧ group.2 ≠ [] := by
  obtain ⟨file, hfile, rfl⟩ := List.mem_map.mp h
  obtain ⟨i, hi, rfl⟩ := List.mem_map.mp (List.mem_eraseDups.mp hfile)
  exact ⟨rfl, List.ne_nil_of_mem (List.mem_filter.mpr ⟨hi, beq_self_eq_true _⟩)⟩

namespace Run

open Generation (Visit Turn)

variable {run : Run} {visit : Visit} {turn : Turn}

/-! ### The mock files of a report -/

/-- The mock files that publishing came to some outcome for. -/
def outputs (run : Run) (outcome : PublishOutcome) : List Path :=
  (run.turns.filter fun turn => turn.outcome run.settings = .ok outcome).map
    (Turn.output run.settings)

/-- The last report joins the reports of the visits. -/
theorem report_eq (run : Run) (h : run.start.report = {}) :
    run.last.report = .join (run.visits.map (Visit.report run.settings)) := by
  rw [last, Generation.report_foldl_addPackage, h]
  rfl

/-- What a report has of one kind comes from the turns, where the visits add nothing else. -/
theorem flatMap_visits {α : Type} (run : Run) (part : Report → List α)
    (herror : ∀ e, part { errors := [e] } = [])
    (hjoin : ∀ skipped rs, part ({ skipped := skipped } ++ .join rs) = rs.flatMap part) :
    (run.visits.map (Visit.report run.settings)).flatMap part =
      (run.turns.map (Turn.report run.settings)).flatMap part := by
  rw [turns, Generation.turns, List.flatMap_map, List.flatMap_map, List.flatMap_assoc]
  refine List.flatMap_congr fun visit _ => ?_
  rw [Visit.report]
  cases h : visit.listing with
  | error e => rw [Visit.turns_of_error h, herror]; rfl
  | ok interfaces => rw [hjoin, List.flatMap_map]

/-- One outcome of the turns, in their order. -/
theorem flatMap_turns (run : Run) (part : Report → List Path) (outcome : PublishOutcome)
    (h : ∀ output o, part (.entry output o) = if o = .ok outcome then [output] else []) :
    (run.turns.map (Turn.report run.settings)).flatMap part = run.outputs outcome := by
  rw [outputs]
  induction run.turns with
  | nil => rfl
  | cons turn rest ih =>
    rw [List.map_cons, List.flatMap_cons, ih, Turn.report, h, List.filter_cons]
    by_cases ho : turn.outcome run.settings = .ok outcome <;> simp [ho]

theorem written_eq (run : Run) (h : run.start.report = {}) :
    run.last.report.written = run.outputs .written := by
  rw [report_eq run h]
  refine (run.flatMap_visits Report.written (fun _ => rfl) fun _ _ => rfl).trans
    (run.flatMap_turns Report.written .written ?_)
  rintro output (e | _ | _) <;> rfl

theorem unchanged_eq (run : Run) (h : run.start.report = {}) :
    run.last.report.unchanged = run.outputs .unchanged := by
  rw [report_eq run h]
  refine (run.flatMap_visits Report.unchanged (fun _ => rfl) fun _ _ => rfl).trans
    (run.flatMap_turns Report.unchanged .unchanged ?_)
  rintro output (e | _ | _) <;> rfl

theorem mem_outputs {outcome : PublishOutcome} {output : Path} :
    output ∈ run.outputs outcome ↔
      ∃ turn ∈ run.turns, turn.outcome run.settings = .ok outcome ∧
        turn.output run.settings = output := by
  simp [outputs, and_assoc]

/-- **The errors of a report** are those of listings and those of turns. -/
theorem mem_errors (hstart : run.start.report = {}) {e : Error} :
    e ∈ run.last.report.errors ↔ ∃ visit ∈ run.visits, visit.listing = .error e ∨
      ∃ turn ∈ visit.turns run.settings, turn.outcome run.settings = .error e := by
  have hentry : ∀ (turn : Turn), e ∈ (turn.report run.settings).errors ↔
      turn.outcome run.settings = .error e := by
    intro turn
    rw [Turn.report]
    rcases turn.outcome run.settings with e' | _ | _ <;> simp [Report.entry, eq_comm]
  have hvisit : ∀ visit : Visit, e ∈ (visit.report run.settings).errors ↔
      visit.listing = .error e ∨
        ∃ turn ∈ visit.turns run.settings, turn.outcome run.settings = .error e := by
    intro visit
    rw [Visit.report]
    cases hlisting : visit.listing with
    | error e' => simp [Visit.turns_of_error hlisting, eq_comm]
    | ok interfaces => simp [Report.join, hentry]
  rw [run.report_eq hstart]
  simp [Report.join, hvisit]

/-- Without errors, everything is listed and every turn is successful. -/
theorem errors_eq_nil_iff (hstart : run.start.report = {}) :
    run.last.report.errors = [] ↔
      (∀ visit ∈ run.visits, ∃ interfaces, visit.listing = .ok interfaces) ∧
        ∀ turn ∈ run.turns, ∃ outcome, turn.outcome run.settings = .ok outcome := by
  rw [List.eq_nil_iff_forall_not_mem]
  constructor
  · refine fun h => ⟨fun visit hvisit => ?_, fun turn hturn => ?_⟩
    · cases hlisting : visit.listing with
      | ok interfaces => exact ⟨interfaces, rfl⟩
      | error e => exact absurd ((mem_errors hstart).mpr ⟨visit, hvisit, .inl hlisting⟩) (h e)
    · obtain ⟨visit, hvisit, hmem⟩ := mem_turns.mp hturn
      cases houtcome : turn.outcome run.settings with
      | ok outcome => exact ⟨outcome, rfl⟩
      | error e =>
        exact absurd ((mem_errors hstart).mpr ⟨visit, hvisit, .inr ⟨turn, hmem, houtcome⟩⟩) (h e)
  · rintro ⟨hlistings, houtcomes⟩ e he
    obtain ⟨visit, hvisit, hlisting | ⟨turn, hturn, houtcome⟩⟩ := (mem_errors hstart).mp he
    · obtain ⟨interfaces, hok⟩ := hlistings visit hvisit
      cases hlisting.symm.trans hok
    · obtain ⟨outcome, hok⟩ := houtcomes turn (mem_turns.mpr ⟨visit, hvisit, hturn⟩)
      cases houtcome.symm.trans hok

/-- No two turns of a sound run have the same output. -/
theorem Sound.outputs_nodup (h : run.Sound) : (run.turns.map (Turn.output run.settings)).Nodup := by
  refine .of_map Path.location ?_
  rw [List.map_map]
  exact h.places

/-- **No mock file is reported twice.** -/
theorem Sound.published_nodup (h : run.Sound) :
    (run.outputs .written ++ run.outputs .unchanged).Nodup := by
  have hnodup : ∀ outcome, (run.outputs outcome).Nodup := fun outcome =>
    h.outputs_nodup.sublist (List.filter_sublist.map _)
  refine (hnodup .written).append (hnodup .unchanged) fun output hw hu => ?_
  obtain ⟨a, ha, hwritten, rfl⟩ := mem_outputs.mp hw
  obtain ⟨b, hb, hunchanged, heq⟩ := mem_outputs.mp hu
  obtain rfl := List.inj_on_of_nodup_map h.outputs_nodup ha hb heq.symm
  exact nomatch hwritten.symm.trans hunchanged

/-! ### The whole account -/

/-- **Every interface is accounted for, once.** The packages of a run have different import paths
and lie in different directories, and the report is made of what is reported of them. Where the
interfaces of a package cannot be listed, that is one error and nothing else. Otherwise those that
cannot be mocked are skipped, each for its reason, and every other one is in just one group, that of
its source file. Each group comes to one entry, for the output path of its source file, and no output
is reported twice. -/
theorem accounting {refusals : Refusals} {t t' : FileTree} {env : Environment} {request : Request}
    {report : Report} (ht : t.IsSound)
    (h : generate refusals t env request = (t', .ok report)) :
    ∃ run, runOf refusals t env request = .ok run ∧
      run.visits.map Visit.package = run.packages ∧
      (run.packages.Pairwise fun p q => p.path ≠ q.path ∧ p.dir ≠ q.dir) ∧
      report = .join (run.visits.map (Visit.report run.settings)) ∧
      (∀ visit ∈ run.visits, ∀ e, visit.listing = .error e →
        visit.report run.settings = { errors := [e] }) ∧
      (∀ visit ∈ run.visits, ∀ interfaces, visit.listing = .ok interfaces →
        let groups := visit.turns run.settings
        visit.report run.settings =
            { skipped := (interfaces.filter (!·.eligibility.isEligible)).map fun i =>
                ⟨visit.package.path, i.name, i.eligibility⟩ } ++
              .join (groups.map fun turn =>
                .entry (outputPath turn.source request.config.outputDir)
                  (turn.outcome run.settings)) ∧
          (groups.map Turn.source).Nodup ∧
          (groups.flatMap Turn.interfaces).Perm (interfaces.filter (·.eligibility.isEligible)) ∧
          ∀ turn ∈ groups, turn.interfaces ≠ [] ∧
            turn.interfaces = (interfaces.filter (·.eligibility.isEligible)).filter
              (·.file == turn.source)) ∧
      (report.written ++ report.unchanged).Nodup ∧
      ∀ i : Interface, i.eligibility.isEligible = true ↔
        i.exported = true ∧ i.isConstraint = false ∧ i.methods ≠ [] ∧
          ∀ m ∈ i.methods, m.isExported = true := by
  obtain ⟨run, hrun, rfl, rfl⟩ := generate_eq_ok_iff.mp h
  obtain ⟨rfl, hstart, hoptions, -⟩ := of_runOf hrun
  have hsound := sound_of_runOf ht hrun
  refine ⟨run, hrun, Generation.map_package_visits .., hsound.dirs, run.report_eq hstart,
    fun visit _ e he => by rw [Visit.report, he], fun visit _ interfaces hlisting => ?_, ?_,
    Interface.isEligible_iff⟩
  · intro groups
    have hgroups := Visit.groups_of_ok run.settings hlisting
    have hfile : ∀ turn ∈ groups,
        turn.group ∈ groupByFile (interfaces.filter (·.eligibility.isEligible)) :=
      fun turn hturn => hgroups ▸ List.mem_map_of_mem hturn
    refine ⟨?_, ?_, ?_, fun turn hturn => (of_mem_groupByFile (hfile turn hturn)).symm⟩
    · have hreports : groups.map (Turn.report run.settings) = groups.map fun turn =>
          .entry (outputPath turn.source request.config.outputDir) (turn.outcome run.settings) := by
        refine List.map_congr_left fun turn _ => ?_
        rw [Turn.report, Turn.output, hoptions]
        rfl
      rw [Visit.report, hlisting, ← hreports]
      rfl
    · have hsources := sources_groupByFile_nodup (interfaces.filter (·.eligibility.isEligible))
      rwa [← hgroups, List.map_map] at hsources
    · have hperm := perm_flatMap_groupByFile (interfaces.filter (·.eligibility.isEligible))
      rwa [← hgroups, List.flatMap_map] at hperm
  · rw [run.written_eq hstart, run.unchanged_eq hstart]
    exact hsound.published_nodup

/-- The account of a run that publishes two files, skips an interface and reports a package that
cannot be listed. -/
theorem accounting_sample :
    ∃ t, sample.IsSound ∧ generate .none sample {} everything = (t, .ok sampleReport) ∧
      ∃ run, runOf .none sample {} everything = .ok run ∧
        sampleReport = .join (run.visits.map (Visit.report run.settings)) ∧
        (sampleReport.written ++ sampleReport.unchanged).Nodup := by
  obtain ⟨t, ht⟩ := generate_sample
  obtain ⟨run, hrun, -, -, hreport, -, -, hnodup, -⟩ := accounting sample_isSound ht
  exact ⟨t, sample_isSound, ht, run, hrun, hreport, hnodup⟩

end Run

end GoMocks
