import GoMocks.Proofs.Generation.Again
import GoMocks.Proofs.MethodSet.Concrete

/-!
# Generation — mock files as sources

The mock files of a run are Go sources, and a later run may load them, together with the sources that
were in their directories before.

* `Generation.Turn.Reads`: the mock file of a turn is a source of the mock package.
* `Run.IsClear`: the sources that were in the directory of a mock file are no obstacle.
* `Run.exists_packageIn`: then the directory can be loaded.
* `Run.quiet`, `Run.quiet_again`: and there is nothing in it to be mocked.
-/

namespace GoMocks

open GoSource (SourceFile)

/-- The bytes of a text are those of the text. -/
theorem fromUTF8?_toUTF8 (text : String) : String.fromUTF8? text.toUTF8 = some text :=
  dif_pos text.isValidUTF8

/-- Where a source lies makes no difference to what it declares. -/
theorem GoSource.SourceFile.parse_of_parse {path : Path} {text : String} {source : SourceFile}
    (h : SourceFile.parse path text = .ok source) (path' : Path) :
    SourceFile.parse path' text = .ok { source with path := path' } := by
  -- no item of the file reads or sets the path
  have hadd : ∀ (items : List (List String × GoSource.TopLevel)) (s : SourceFile),
      items.foldl SourceFile.add { s with path := path' } =
        { items.foldl SourceFile.add s with path := path' } := by
    intro items
    induction items with
    | nil => exact fun _ => rfl
    | cons item items ih =>
      intro s
      rw [List.foldl_cons, List.foldl_cons, ← ih]
      refine congrArg (fun s => items.foldl SourceFile.add s) ?_
      obtain ⟨comments, item⟩ := item
      cases hignored : s.package.isEmpty && comments.any GoSource.isIgnoreConstraint <;>
        cases item <;> simp [SourceFile.add, hignored]
  rw [SourceFile.parse] at h ⊢
  cases hitems : GoSource.topLevelItems? text with
  | none => rw [hitems] at h; cases h
  | some items =>
    rw [hitems] at h
    have hfold := hadd items ⟨path, "", [], [], false⟩
    dsimp only at h hfold ⊢
    rw [hfold]
    split at h
    · cases h
    · next hpackage =>
      rw [if_neg hpackage, Except.ok.inj h]
      rfl

namespace Generation.Turn

/-- The name of the mock package. -/
def mockPackage (settings : RunSettings) (turn : Turn) : String :=
  settings.options.packagePrefix ++ turn.package.name

/-- The mock file of a turn is a source of the mock package, without interfaces. -/
def Reads (settings : RunSettings) (turn : Turn) : Prop :=
  ∀ code, turn.code settings = .ok code →
    ∃ source, SourceFile.parse (turn.output settings) code = .ok source ∧
      source.package = turn.mockPackage settings ∧ source.buildIgnored = false ∧ source.IsConcrete

instance (settings : RunSettings) (turn : Turn) : Decidable (turn.Reads settings) :=
  decidable_of_iff
    (∀ code ∈ (turn.code settings).toOption,
      ∃ source ∈ (SourceFile.parse (turn.output settings) code).toOption,
        source.package = turn.mockPackage settings ∧ source.buildIgnored = false ∧
          source.IsConcrete) <| by
    simp [Reads, toOption_eq_some_iff]

/-- Its source reads the same from wherever it is read. -/
theorem Reads.of_path {settings : RunSettings} {turn : Turn} {code : String}
    (h : turn.Reads settings) (hcode : turn.code settings = .ok code) (path : Path) :
    ∃ source, SourceFile.parse path code = .ok source ∧
      source.package = turn.mockPackage settings ∧ source.buildIgnored = false ∧
        source.IsConcrete := by
  obtain ⟨source, hparse, hpackage, hbuilt, hconcrete⟩ := h code hcode
  exact ⟨_, SourceFile.parse_of_parse hparse path, hpackage, hbuilt, ⟨hconcrete.imports,
    hconcrete.types⟩⟩

/-- The directory of the mock file. -/
def directory (settings : RunSettings) (turn : Turn) : Location :=
  (turn.place settings).dropLast

end Generation.Turn

namespace Run

open Generation (Visit Turn)

variable {run again : Run} {visit : Visit} {turn turn' : Turn} {refusals : Refusals}
  {t : FileTree} {env : Environment} {request : Request} {l : Location} {name pattern : String}
  {source : SourceFile}

/-- The sources that were in the directory of a mock file before are no obstacle. None that a build
takes in declares an interface, and all but those in the places of mock files belong to the mock
package. -/
def IsClear (run : Run) (turn : Turn) : Prop :=
  ∀ name ∈ run.start.tree.goFileNames (turn.directory run.settings), ∀ source,
    run.start.tree.readSource (turn.directory run.settings ++ [name]).path = .ok source →
      source.buildIgnored = false →
        source.IsConcrete ∧
          ((∀ turn' ∈ run.turns,
              turn'.place run.settings ≠ turn.directory run.settings ++ [name]) →
            source.package = turn.mockPackage run.settings)

instance (run : Run) (turn : Turn) : Decidable (run.IsClear turn) :=
  decidable_of_iff
    (∀ name ∈ run.start.tree.goFileNames (turn.directory run.settings), ∀ source ∈
      (run.start.tree.readSource (turn.directory run.settings ++ [name]).path).toOption,
        source.buildIgnored = false →
          source.IsConcrete ∧
            ((∀ turn' ∈ run.turns,
                turn'.place run.settings ≠ turn.directory run.settings ++ [name]) →
              source.package = turn.mockPackage run.settings)) <| by
    simp [IsClear, toOption_eq_some_iff]

/-- A pattern matches a directory at the end of a run that was written to in it. -/
structure Rematches (run : Run) (patterns : List String) (l : Location) : Prop where
  wrote   : run.last.report.WroteIn l
  matched : Loader.Matches run.last.tree run.start.loader.module run.start.loader.root patterns l

/-! ### The places of mock files -/

/-- Where a mock file lies, and the directory of its source. -/
theorem Sound.directory_eq (h : run.Sound) (hvisit : visit ∈ run.visits)
    (hturn : turn ∈ visit.turns run.settings) :
    ∃ (d : Location) (name : String), visit.package.dir = d.path ∧ isGoSource name = true ∧
      turn.Stands run.start.tree d name ∧
      turn.directory run.settings = d ++ [run.settings.directoryName] ∧
      turn.place run.settings = turn.directory run.settings ++ [name] := by
  obtain ⟨d, hdir, hstands⟩ := h.stands hvisit
  obtain ⟨name, hgo, hstand⟩ := hstands turn hturn
  have hplace := hstand.place_eq h.tree h.outputDir
  have hdirectory : turn.directory run.settings = d ++ [run.settings.directoryName] := by
    rw [Turn.directory, hplace]
    simp
  exact ⟨d, name, hdir, hgo, hstand, hdirectory, by rw [hdirectory, hplace]; simp⟩

/-- Mock files in one directory belong to one package. -/
theorem Sound.mockPackage_eq (h : run.Sound) (hturn : turn ∈ run.turns) (hturn' : turn' ∈ run.turns)
    (hdirectory : turn'.directory run.settings = turn.directory run.settings) :
    turn'.mockPackage run.settings = turn.mockPackage run.settings := by
  obtain ⟨visit, hvisit, hturn⟩ := mem_turns.mp hturn
  obtain ⟨visit', hvisit', hturn'⟩ := mem_turns.mp hturn'
  obtain ⟨d, -, hdir, -, -, hd, -⟩ := h.directory_eq hvisit hturn
  obtain ⟨d', -, hdir', -, -, hd', -⟩ := h.directory_eq hvisit' hturn'
  rw [hd, hd'] at hdirectory
  have hsame : visit'.package.dir = visit.package.dir := by
    rw [hdir, hdir', (List.append_inj' hdirectory rfl).1]
  have hpackage : visit' = visit :=
    List.inj_on_of_nodup_map (List.pairwise_map.mpr h.visits_pairwise) hvisit' hvisit hsame
  rw [Turn.mockPackage, Turn.mockPackage, Generation.package_of_mem_turnsOf hturn,
    Generation.package_of_mem_turnsOf hturn', hpackage]

/-! ### The sources in a directory of mock files -/

/-- **A Go source in the directory of a mock file** is a mock file or was there before. -/
theorem Sound.source_cases (h : run.Sound) (hstart : run.start.report = {})
    (herrors : run.last.report.errors = [])
    (hname : name ∈ run.last.tree.goFileNames l) :
    (∃ turn ∈ run.turns, turn.place run.settings = l ++ [name] ∧ ∃ code,
      turn.code run.settings = .ok code ∧
        run.last.tree.readText (l ++ [name]).path = .ok code) ∨
    ((∀ turn ∈ run.turns, turn.place run.settings ≠ l ++ [name]) ∧
      name ∈ run.start.tree.goFileNames l ∧
        run.last.tree.readSource (l ++ [name]).path =
          run.start.tree.readSource (l ++ [name]).path) := by
  have hlast := h.leaves.sound
  obtain ⟨hgo, content, hentry⟩ := FileTree.mem_goFileNames.mp hname
  have hleads : (l ++ [name]).path.LeadsTo (l ++ [name]) :=
    Path.leadsTo_path (hlast.proper (by simp [hentry]))
  by_cases hplace : ∃ turn ∈ run.turns, turn.place run.settings = l ++ [name]
  · obtain ⟨turn, hturn, hplace⟩ := hplace
    obtain ⟨outcome, houtcome⟩ := ((errors_eq_nil_iff hstart).mp herrors).2 turn hturn
    obtain ⟨code, hcode, hpublished⟩ := h.entry_of_published hturn houtcome
    rw [hplace] at hpublished
    refine .inl ⟨turn, hturn, hplace, code, hcode, ?_⟩
    rw [FileTree.readText, (hlast.read_eq_ok_iff hleads).mpr hpublished]
    simp only [bind, Except.bind, fromUTF8?_toUTF8]
    rfl
  · have hne : ∀ turn ∈ run.turns, turn.place run.settings ≠ l ++ [name] :=
      fun turn hturn h => hplace ⟨turn, hturn, h⟩
    -- what no turn wrote is as it was; a directory is not a file
    have hsame : run.start.tree.entry? (l ++ [name]) = some (.file content) := by
      rcases h.leaves.changes (l ++ [name]) with hsame | ⟨-, hmade, -⟩ | ⟨turn, hturn, hm, -⟩
      · rw [← hsame, hentry]
      · cases hentry.symm.trans hmade
      · exact absurd hm.symm (hne turn hturn)
    refine .inr ⟨hne, FileTree.mem_goFileNames.mpr ⟨hgo, content, hsame⟩, ?_⟩
    rw [FileTree.readSource, FileTree.readSource, FileTree.readText, FileTree.readText,
      (hlast.read_eq_ok_iff hleads).mpr hentry, (h.tree.read_eq_ok_iff hleads).mpr hsame]

/-- The sources in the directory of a mock file can be read, and none that a build takes in declares
an interface or belongs to another package. -/
theorem Sound.exists_source (h : run.Sound) (hstart : run.start.report = {})
    (herrors : run.last.report.errors = []) (hturn : turn ∈ run.turns)
    (hreads : ∀ turn' ∈ run.turns, turn'.directory run.settings = turn.directory run.settings →
      turn'.Reads run.settings)
    (hclear : run.IsClear turn)
    (hparses : ∀ name ∈ run.start.tree.goFileNames (turn.directory run.settings), ∃ source,
      run.start.tree.readSource (turn.directory run.settings ++ [name]).path = .ok source)
    (hname : name ∈ run.last.tree.goFileNames (turn.directory run.settings)) :
    ∃ source, run.last.tree.readSource (turn.directory run.settings ++ [name]).path = .ok source ∧
      (source.buildIgnored = false →
        source.package = turn.mockPackage run.settings ∧ source.IsConcrete) := by
  rcases h.source_cases hstart herrors hname with ⟨turn', hturn', hplace, code, hcode, htext⟩ |
    ⟨hne, hbefore, hsame⟩
  · have hdirectory : turn'.directory run.settings = turn.directory run.settings := by
      rw [Turn.directory, hplace, List.dropLast_concat]
    obtain ⟨source, hparse, hpackage, -, hconcrete⟩ :=
      (hreads turn' hturn' hdirectory).of_path hcode (turn.directory run.settings ++ [name]).path
    refine ⟨source, by rw [FileTree.readSource, htext]; exact hparse, fun _ => ⟨?_, hconcrete⟩⟩
    rw [hpackage, h.mockPackage_eq hturn hturn' hdirectory]
  · obtain ⟨source, hread⟩ := hparses name hbefore
    refine ⟨source, hsame.trans hread, fun hbuilt => ?_⟩
    obtain ⟨hconcrete, hpackage⟩ := hclear name hbefore source hread hbuilt
    exact ⟨hpackage hne, hconcrete⟩

/-- The code of a mock file is what is read in its directory. -/
theorem Sound.exists_code (h : run.Sound) (hstart : run.start.report = {})
    (herrors : run.last.report.errors = []) (hturn : turn ∈ run.turns) :
    ∃ name ∈ run.last.tree.goFileNames (turn.directory run.settings), ∃ code,
      turn.code run.settings = .ok code ∧
        run.last.tree.readSource (turn.directory run.settings ++ [name]).path =
          SourceFile.parse (turn.directory run.settings ++ [name]).path code := by
  obtain ⟨visit, hvisit, hmem⟩ := mem_turns.mp hturn
  obtain ⟨d, name, -, hgo, -, -, hplace⟩ := h.directory_eq hvisit hmem
  obtain ⟨outcome, houtcome⟩ := ((errors_eq_nil_iff hstart).mp herrors).2 turn hturn
  obtain ⟨code, hcode, hentry⟩ := h.entry_of_published hturn houtcome
  rw [hplace] at hentry
  have hleads : (turn.directory run.settings ++ [name]).path.LeadsTo
      (turn.directory run.settings ++ [name]) :=
    Path.leadsTo_path (h.leaves.sound.proper (by simp [hentry]))
  refine ⟨name, FileTree.mem_goFileNames.mpr ⟨hgo, _, hentry⟩, code, hcode, ?_⟩
  rw [FileTree.readSource, FileTree.readText, (h.leaves.sound.read_eq_ok_iff hleads).mpr hentry]
  simp only [bind, Except.bind, fromUTF8?_toUTF8]
  rfl

/-- A mock file is a source that a build takes in. -/
theorem Sound.exists_built (h : run.Sound) (hstart : run.start.report = {})
    (herrors : run.last.report.errors = []) (hturn : turn ∈ run.turns)
    (hreads : turn.Reads run.settings) :
    ∃ name ∈ run.last.tree.goFileNames (turn.directory run.settings), ∃ source,
      run.last.tree.readSource (turn.directory run.settings ++ [name]).path = .ok source ∧
        source.buildIgnored = false := by
  obtain ⟨name, hname, code, hcode, hread⟩ := h.exists_code hstart herrors hturn
  obtain ⟨source, hparse, -, hbuilt, -⟩ :=
    hreads.of_path hcode (turn.directory run.settings ++ [name]).path
  exact ⟨name, hname, source, hread.trans hparse, hbuilt⟩

/-! ### Loading the directory of a mock file -/

/-- A run has read the sources in the directories that its patterns match. -/
theorem exists_readSource (ht : t.IsSound) (hrun : runOf refusals t env request = .ok run)
    (hmatched : Loader.Matches t run.start.loader.module run.start.loader.root request.patterns l)
    (hname : name ∈ t.goFileNames l) : ∃ source, t.readSource (l ++ [name]).path = .ok source := by
  obtain ⟨pattern, hpattern, ls, hls, hl⟩ := hmatched
  obtain ⟨_, hls', hloads⟩ := exists_matchedDirs hrun hpattern
  obtain rfl := Except.ok.inj (hls.symm.trans hls')
  obtain ⟨p?, hp⟩ := hloads l hl
  obtain ⟨path, -, hread, -⟩ := Loader.packageIn_eq_ok_iff.mp hp
  obtain ⟨names, files, hnames, hfiles, -⟩ := FileTree.readPackage_eq_ok_iff.mp hread
  obtain ⟨_, content, hentry⟩ := FileTree.mem_goFileNames.mp hname
  rw [ht.goFiles_path (ht.parent (by rw [hentry]; exact nofun))] at hnames
  obtain rfl := Except.ok.inj hnames
  exact (FileTree.mem_foldlM_addSource hfiles).1 _ (List.mem_map_of_mem hname)

/-- What was in a directory that a pattern matches at the end could be read at the start. -/
theorem exists_readSource_start (ht : t.IsSound) (hrun : runOf refusals t env request = .ok run)
    (hadds : t.Adds run.last.report.WroteIn run.last.tree)
    (hmatched : Loader.Matches run.last.tree run.start.loader.module run.start.loader.root
      request.patterns l) (hname : name ∈ t.goFileNames l) :
    ∃ source, t.readSource (l ++ [name]).path = .ok source := by
  obtain ⟨pattern, hpattern, ls', hls', hl⟩ := hmatched
  obtain ⟨ls, hls, -⟩ := exists_matchedDirs hrun hpattern
  obtain ⟨_, hmatches, -, hold⟩ := hadds.matchedDirs ht hls
  obtain rfl := Except.ok.inj (hls'.symm.trans hmatches)
  exact exists_readSource ht hrun
    ⟨pattern, hpattern, ls, hls, hold l hl (List.ne_nil_of_mem hname)⟩ hname

/-- The directory of a mock file has an import path. -/
theorem exists_importPath (ht : t.IsSound) (hrun : runOf refusals t env request = .ok run)
    (hturn : turn ∈ run.turns) :
    ∃ path, run.start.loader.module.importPath? (turn.directory run.settings).path = some path := by
  obtain ⟨r, hmodule, hr⟩ := exists_moduleDir ht hrun
  obtain ⟨rfl, -⟩ := of_runOf hrun
  have hsound := sound_of_runOf ht hrun
  obtain ⟨visit, hvisit, hmem⟩ := mem_turns.mp hturn
  obtain ⟨d, name, hdir, -, hstands, hdirectory, -⟩ := hsound.directory_eq hvisit hmem
  obtain ⟨l, p, hloaded, hp, -⟩ := hsound.package hvisit
  obtain rfl : l = d := by
    have hd : d.IsProper := ht.proper (by simp [hstands.directory])
    rw [← hloaded.location ht, hp, hdir, (Path.leadsTo_path hd).location_eq]
  have hl : l.IsProper := ht.proper (by simp [hloaded.directory])
  have hbelow : r <+: l := by
    have hpath := hloaded.path
    rw [GoModule.importPath?_path hmodule hr hl] at hpath
    by_contra hbelow
    rw [if_neg hbelow] at hpath
    cases hpath
  have hname : IsFileName run.settings.directoryName := (Path.of_isDirectoryName hsound.outputDir).2.1
  have hproper : Location.IsProper (l ++ [run.settings.directoryName]) :=
    List.forall_mem_append.mpr ⟨hl, List.forall_mem_singleton.mpr hname⟩
  rw [hdirectory, GoModule.importPath?_path hmodule hr hproper,
    if_pos (hbelow.trans (List.prefix_append _ _))]
  exact ⟨_, rfl⟩

/-- **The directory of a mock file can be loaded again**, if its mock files can be read and it is
clear. -/
theorem exists_packageIn (ht : t.IsSound) (hrun : runOf refusals t env request = .ok run)
    (herrors : run.last.report.errors = []) (hturn : turn ∈ run.turns)
    (hmatched : Loader.Matches run.last.tree run.start.loader.module run.start.loader.root
      request.patterns (turn.directory run.settings))
    (hreads : ∀ turn' ∈ run.turns, turn'.directory run.settings = turn.directory run.settings →
      turn'.Reads run.settings)
    (hclear : run.IsClear turn) (pattern : String) :
    ∃ p, Loader.packageIn run.last.tree run.start.loader.module pattern
      (turn.directory run.settings) = .ok (some p) := by
  obtain ⟨path, hpath⟩ := exists_importPath ht hrun hturn
  obtain ⟨rfl, hstart, -⟩ := of_runOf hrun
  have hsound := sound_of_runOf ht hrun
  have hlast := hsound.leaves.sound
  have hparses : ∀ name ∈ run.start.tree.goFileNames (turn.directory run.settings), ∃ source,
      run.start.tree.readSource (turn.directory run.settings ++ [name]).path = .ok source :=
    fun _ hname => exists_readSource_start ht hrun (adds hsound hstart herrors) hmatched hname
  have hgoFiles := hlast.goFiles_path hmatched.directory
  -- every file of the directory is read and, mock or not, has the mock's package name
  obtain ⟨files, hfiles⟩ : ∃ files,
      ((run.last.tree.goFileNames (turn.directory run.settings)).map fun name =>
        (turn.directory run.settings ++ [name]).path).foldlM
          (run.last.tree.addSource (turn.directory run.settings).path path) [] = .ok files := by
    refine FileTree.exists_foldlM_addSource
      (List.forall_mem_nil fun source : SourceFile => source.package = turn.mockPackage run.settings)
      fun file hfile => ?_
    obtain ⟨name, hname, rfl⟩ := List.mem_map.mp hfile
    obtain ⟨source, hread, hmock⟩ :=
      hsound.exists_source hstart herrors hturn hreads hclear hparses hname
    exact ⟨source, hread, fun hbuilt => (hmock hbuilt).1⟩
  -- the turn's own mock is one of them
  have hne : files ≠ [] := by
    obtain ⟨name, hname, source, hread, hbuilt⟩ :=
      hsound.exists_built hstart herrors hturn (hreads turn hturn rfl)
    exact List.ne_nil_of_mem (((FileTree.mem_foldlM_addSource hfiles).2 source).mpr
      (.inr ⟨_, List.mem_map_of_mem hname, hread, hbuilt⟩))
  obtain ⟨first, rest, rfl⟩ := List.exists_cons_of_ne_nil hne
  exact ⟨_, Loader.packageIn_eq_ok_iff.mpr ⟨path, hpath,
    FileTree.readPackage_eq_ok_iff.mpr ⟨_, _, hgoFiles, hfiles, rfl⟩, nofun⟩⟩

/-! ### Nothing to be mocked in the directory of a mock file -/

/-- A package whose sources declare no interfaces has none that can be mocked. -/
theorem Sound.eligible_of_concrete (h : run.Sound) (hvisit : visit ∈ run.visits)
    (hconcrete : ∀ name ∈ run.start.tree.goFileNames visit.package.dir.location, ∀ source,
      run.start.tree.readSource (visit.package.dir.location ++ [name]).path = .ok source →
        source.buildIgnored = false → source.IsConcrete) :
    visit.eligible = .ok [] := by
  obtain ⟨l, p, hloaded, hp, hfound⟩ := h.package hvisit
  rw [← hp, hloaded.location h.tree] at hconcrete
  have hinterfaces : p.interfaces.answer visit.before.packages = .ok [] := by
    refine SourcePackage.interfaces_of_isConcrete (hp ▸ hfound) fun file hfile => ?_
    obtain ⟨name, hname, hread, hbuilt⟩ := (hloaded.mem_files_iff h.tree).mp hfile
    exact hconcrete name hname file hread hbuilt
  rw [Visit.eligible, Sound.listing_eq hfound, hinterfaces]
  rfl

/-- A directory that was written to is that of a mock file. -/
theorem exists_turn_of_wroteIn (hstart : run.start.report = {}) (h : run.last.report.WroteIn l) :
    ∃ turn ∈ run.turns, turn.directory run.settings = l := by
  obtain ⟨path, hpath, rfl⟩ := h
  rw [run.written_eq hstart] at hpath
  obtain ⟨turn, hturn, -, rfl⟩ := mem_outputs.mp hpath
  exact ⟨turn, hturn, rfl⟩

section

variable (ht : t.IsSound) (hrun : runOf refusals t env request = .ok run)
  (herrors : run.last.report.errors = [])
  (hfits : ∀ turn ∈ run.turns, run.Rematches request.patterns (turn.directory run.settings) →
    turn.Reads run.settings ∧ run.IsClear turn)
include ht hrun herrors hfits

/-- **In the directories of mock files there is nothing to be mocked** in the run itself. -/
theorem quiet : ∀ visit ∈ run.visits, run.last.report.WroteIn visit.package.dir.location →
    visit.eligible = .ok [] := by
  intro visit hvisit hwrote
  obtain ⟨l, p, hmatches, hloaded, hp, -⟩ :=
    exists_of_mem_packages hrun (exists_visit.mpr ⟨visit, hvisit, rfl⟩)
  obtain ⟨rfl, hstart, -⟩ := of_runOf hrun
  have hsound := sound_of_runOf ht hrun
  have hlocation : visit.package.dir.location = l := hp ▸ hloaded.location ht
  obtain ⟨turn, hturn, hdirectory⟩ := exists_turn_of_wroteIn hstart hwrote
  have hmatched := (adds hsound hstart herrors).matches_of_matches ht hmatches
  rw [← hlocation, ← hdirectory] at hmatched
  obtain ⟨-, hclear⟩ := hfits turn hturn ⟨hdirectory ▸ hwrote, hmatched⟩
  rw [IsClear, hdirectory] at hclear
  exact hsound.eligible_of_concrete hvisit fun name hname source hread hbuilt =>
    (hclear name hname source hread hbuilt).1

/-- **And there is nothing to be mocked in a second run.** -/
theorem quiet_again (hagain : runOf refusals run.last.tree env request = .ok again) :
    ∀ visit ∈ again.visits, run.last.report.WroteIn visit.package.dir.location →
      visit.eligible = .ok [] := by
  intro visit hvisit hwrote
  obtain ⟨l, p, hmatches, hloaded, hp, -⟩ :=
    exists_of_mem_packages hagain (exists_visit.mpr ⟨visit, hvisit, rfl⟩)
  obtain ⟨rfl, hstart, -⟩ := of_runOf hrun
  have hsound := sound_of_runOf ht hrun
  have hlast := hsound.leaves.sound
  have hadds := adds hsound hstart herrors
  obtain ⟨hmodule, hroot⟩ := loader_again ht hlast hadds hrun hagain
  rw [hmodule, hroot] at hmatches
  have hlocation : visit.package.dir.location = l := hp ▸ hloaded.location hlast
  obtain ⟨turn, hturn, hdirectory⟩ := exists_turn_of_wroteIn hstart hwrote
  rw [← hlocation, ← hdirectory] at hmatches
  have hrematches : ∀ turn' : Turn, turn'.directory run.settings = turn.directory run.settings →
      run.Rematches request.patterns (turn'.directory run.settings) := fun turn' h' =>
    h' ▸ ⟨hdirectory ▸ hwrote, hmatches⟩
  refine (sound_of_runOf hlast hagain).eligible_of_concrete hvisit
    fun name hname source hread hbuilt => ?_
  rw [(of_runOf hagain).1, ← hdirectory] at hname hread
  obtain ⟨source', hread', hmock⟩ := hsound.exists_source hstart herrors hturn
    (fun turn' hturn' h' => (hfits turn' hturn' (hrematches turn' h')).1)
    (hfits turn hturn (hrematches turn rfl)).2
    (fun name hname => exists_readSource_start ht hrun hadds hmatches hname) hname
  obtain rfl := Except.ok.inj (hread'.symm.trans hread)
  exact (hmock hbuilt).2

/-- **All that a pattern matches can be loaded again.** -/
theorem loads_again (htemplate : request.template run.last.tree = request.template t) :
    ∃ again, runOf refusals run.last.tree env request = .ok again ∧
      again.settings = run.settings := by
  have hsound := sound_of_runOf ht hrun
  obtain ⟨rfl, hstart, -⟩ := of_runOf hrun
  refine exists_run_again ht hsound.leaves.sound (adds hsound hstart herrors) hrun htemplate
    fun pattern hpattern ls hls l hl hwrote => ?_
  obtain ⟨turn, hturn, rfl⟩ := exists_turn_of_wroteIn hstart hwrote
  have hmatched : run.Rematches request.patterns (turn.directory run.settings) :=
    ⟨hwrote, pattern, hpattern, ls, hls, hl⟩
  obtain ⟨p, hp⟩ := exists_packageIn ht hrun herrors hturn hmatched.matched
    (fun turn' hturn' h' => (hfits turn' hturn' (h' ▸ hmatched)).1) (hfits turn hturn hmatched).2
    pattern
  exact ⟨_, hp⟩

omit hfits in
/-- **A second run reads the mock files** in the directories that a pattern matches now. -/
theorem exists_parse_of_again (hagain : runOf refusals run.last.tree env request = .ok again)
    (hturn : turn ∈ run.turns)
    (hmatched : Loader.Matches run.last.tree run.start.loader.module run.start.loader.root
      request.patterns (turn.directory run.settings)) :
    ∃ path code source, turn.code run.settings = .ok code ∧
      SourceFile.parse path code = .ok source := by
  obtain ⟨rfl, hstart, -⟩ := of_runOf hrun
  have hsound := sound_of_runOf ht hrun
  have hlast := hsound.leaves.sound
  obtain ⟨hmodule, hroot⟩ := loader_again ht hlast (adds hsound hstart herrors) hrun hagain
  obtain ⟨name, hname, code, hcode, hread⟩ := hsound.exists_code hstart herrors hturn
  rw [← hmodule, ← hroot] at hmatched
  obtain ⟨source, hsource⟩ := exists_readSource hlast hagain hmatched hname
  exact ⟨_, code, source, hcode, hread.symm.trans hsource⟩

end

end Run

end GoMocks
