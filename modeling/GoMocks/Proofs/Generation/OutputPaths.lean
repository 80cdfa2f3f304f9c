import GoMocks.Proofs.Generation.Runs
import GoMocks.Proofs.Path.Components
import GoMocks.Proofs.Publish.AllOrNothing

/-!
# Generation — the paths of mock files

The output directory of an accepted configuration is one name, however it is spelled. So the path of
a mock file has the components of the path of its source, with this name before the last one.

* `Path.components_outputPath`: the components of the path of a mock file.
* `FileTree.place_eq_follow`: the place that a path leads to is said by its components.
* `Config.outputPath_beside`: a mock file lies in a directory right below that of its source, under
  the name of its source, and no two sources share a mock file.
-/

namespace GoMocks

/-! ### Components -/

namespace Path

variable {p source dir : Path} {outputDir n name : String}

/-- A directory name has one component, a file name. -/
theorem exists_components_of_isDirectoryName (h : Config.isDirectoryName outputDir = true) :
    ∃ n, IsFileName n ∧ (Path.mk outputDir).components = [.normal n] := by
  rw [Config.isDirectoryName] at h
  split at h
  · next n hcomponents =>
    have hname : (Path.mk outputDir).fileName? = some n :=
      fileName?_eq_some_iff.mpr (by rw [hcomponents]; rfl)
    exact ⟨n, (exists_parent_of_fileName? hname).1, hcomponents⟩
  · cases h

/-- A path of one name is joined as this name, whatever idle parts it is spelled with. -/
theorem components_child_of_eq_name (h : (Path.mk outputDir).components = [.normal n])
    (dir : Path) : (dir.child outputDir).components = dir.components ++ [.normal n] := by
  have habsolute : (Path.mk outputDir).isAbsolute = false := by
    rw [Bool.eq_false_iff, ne_eq, isAbsolute_iff, h]
    simp
  have hopens : (Path.mk outputDir).opensHere = false := by
    cases hopens : (Path.mk outputDir).opensHere with
    | false => rfl
    | true =>
      obtain ⟨rest, -, hcomponents⟩ := exists_parts_of_opensHere hopens
      rw [h] at hcomponents
      cases hcomponents
  rw [child, components_join dir habsolute hopens, h]

/-- **The components of the path of a mock file** are those of its source, with the output directory
before the last one. -/
theorem components_outputPath (h : (Path.mk outputDir).components = [.normal n])
    (hdir : source.parent? = some dir) (hname : source.fileName? = some name) :
    (outputPath source outputDir).components = dir.components ++ [.normal n, .normal name] := by
  have hstep : (Component.normal name).IsStep := (exists_parent_of_fileName? hname).1
  have hchild := components_child (dir.child outputDir) hstep
  rw [components_child_of_eq_name h dir, List.append_assoc] at hchild
  rw [outputPath, hdir, hname]
  exact hchild

end Path

/-! ### Places -/

namespace FileTree

variable {t : FileTree} {p : Path} {l : Location}

/-- The place that a path leads to is said by its components. -/
theorem place_eq_follow (h : t.place p = .ok l) :
    l = (t.start p).follow (p.stepComponents.map (·.text.toList)) := by
  rw [place] at h
  split at h
  · cases h
  · rw [(follow_of_walk h).1, ← Path.steps_eq_map, Path.steps, Location.follow_filter]

/-- Following file names goes down by them. -/
theorem follow_names {names : List String} (hnames : ∀ name ∈ names, IsFileName name)
    (l : Location) : l.follow (names.map String.toList) = l ++ names := by
  induction names generalizing l with
  | nil => simp [Location.follow]
  | cons name names ih =>
    obtain ⟨hname, hnames⟩ := List.forall_mem_cons.mp hnames
    rw [List.map_cons, Location.follow_cons, ih hnames, Location.step_of_isFileName hname,
      List.append_assoc, List.singleton_append]

/-- Where two paths have names behind the same directory, they lead to these names behind one
place. -/
theorem place_names {dir : Path} (names : List String) (hnames : ∀ name ∈ names, IsFileName name)
    (hp : p.components = dir.components ++ names.map .normal) (h : t.place p = .ok l) :
    l = (t.start dir).follow (dir.stepComponents.map (·.text.toList)) ++ names := by
  obtain ⟨habsolute, hsteps⟩ :=
    Path.stepComponents_of_components_eq hp (List.forall_mem_map.mpr hnames)
  have hplace := place_eq_follow h
  rw [start, habsolute, hsteps, List.map_append, Location.follow_append, List.map_map] at hplace
  exact hplace.trans (follow_names hnames _)

end FileTree

/-! ### Mock files -/

/-- **A mock file lies beside its source.** The output directory of an accepted configuration is one
name. A mock file lies in the directory of this name that is right below the directory of its
source, under the name of its source. So it is not the source, wherever the two paths lead in any
tree. The paths of two mock files say the same only where the paths of their sources do. -/
theorem Config.outputPath_beside {config : Config} (hconfig : config.validate = .ok ()) :
    ∃ n, IsFileName n ∧ (Path.mk config.outputDir).components = [.normal n] ∧
      (∀ source name, source.fileName? = some name →
        ∃ dir mocks, source.parent? = some dir ∧
          source.components = dir.components ++ [.normal name] ∧
          (outputPath source config.outputDir).parent? = some mocks ∧
          mocks.components = dir.components ++ [.normal n] ∧
          (outputPath source config.outputDir).fileName? = some name ∧
          (outputPath source config.outputDir).components ≠ source.components ∧
          ∀ (t : FileTree) l, t.place source = .ok l → ∃ d, l = d ++ [name] ∧
            ∀ l', t.place (outputPath source config.outputDir) = .ok l' → l' = d ++ [n, name]) ∧
      ∀ source source' : Path, source.fileName?.isSome → source'.fileName?.isSome →
        ((outputPath source config.outputDir).components =
            (outputPath source' config.outputDir).components ↔
          source.components = source'.components) := by
  obtain ⟨n, hn, hdirectory⟩ :=
    Path.exists_components_of_isDirectoryName (isDirectoryName_of_validate hconfig)
  refine ⟨n, hn, hdirectory, fun source name hname => ?_, fun source source' hname hname' => ?_⟩
  · obtain ⟨hfile, dir, hdir, hsource⟩ := Path.exists_parent_of_fileName? hname
    have houtput := Path.components_outputPath hdirectory hdir hname
    have houtputName : (outputPath source config.outputDir).fileName? = some name :=
      Path.fileName?_eq_some_iff.mpr (by simp [houtput])
    obtain ⟨-, mocks, hmocks, hcomponents⟩ := Path.exists_parent_of_fileName? houtputName
    have hbelow : mocks.components = dir.components ++ [.normal n] := by
      rw [houtput, ← List.singleton_append, ← List.append_assoc] at hcomponents
      exact (List.append_inj_left' hcomponents rfl).symm
    refine ⟨dir, mocks, hdir, hsource, hmocks, hbelow, houtputName, ?_, fun t l hl => ?_⟩
    · simp [houtput, hsource]
    · exact ⟨_, FileTree.place_names [name] (by simpa using hfile) hsource hl,
        fun l' => FileTree.place_names [n, name] (by simpa using ⟨hn, hfile⟩) houtput⟩
  · obtain ⟨name, hname⟩ := Option.isSome_iff_exists.mp hname
    obtain ⟨name', hname'⟩ := Option.isSome_iff_exists.mp hname'
    obtain ⟨-, dir, hdir, hsource⟩ := Path.exists_parent_of_fileName? hname
    obtain ⟨-, dir', hdir', hsource'⟩ := Path.exists_parent_of_fileName? hname'
    -- both outputs end in the directory's name and their own, which cancel
    rw [Path.components_outputPath hdirectory hdir hname,
      Path.components_outputPath hdirectory hdir' hname', hsource, hsource']
    constructor
    · intro h
      obtain ⟨hdirs, hlast⟩ := List.append_inj' h rfl
      rw [hdirs, (List.cons.inj hlast).2]
    · intro h
      obtain ⟨hdirs, hlast⟩ := List.append_inj' h rfl
      rw [hdirs, hlast]

/-- An output directory that is spelled with idle parts, and two spellings of one source. -/
theorem Config.outputPath_beside_spelled :
    let config : Config := { outputDir := "fakes//." }
    let source : Path := ⟨"/svc//doer.go"⟩
    let source' : Path := ⟨"/svc/./doer.go/"⟩
    let t : FileTree := { entries := [(["svc"], .directory), (["svc", "fakes"], .directory)] }
    (config.validate = .ok () ∧ source.fileName? = some "doer.go" ∧
      source'.fileName? = some "doer.go" ∧ t.place source = .ok ["svc", "doer.go"]) ∧
    (∃ mocks, (outputPath source config.outputDir).parent? = some mocks ∧
      mocks.components = [.root, .normal "svc", .normal "fakes"]) ∧
    (outputPath source config.outputDir).fileName? = some "doer.go" ∧
    (outputPath source config.outputDir).components ≠ source.components ∧
    (∀ l, t.place (outputPath source config.outputDir) = .ok l → l = ["svc", "fakes", "doer.go"]) ∧
    (outputPath source config.outputDir).components =
      (outputPath source' config.outputDir).components := by
  intro config source source' t
  have hconfig : config.validate = .ok () := by decide
  have hname : source.fileName? = some "doer.go" := by decide
  have hname' : source'.fileName? = some "doer.go" := by decide
  have hplace : t.place source = .ok ["svc", "doer.go"] := by decide
  obtain ⟨n, -, hdirectory, hbeside, hsame⟩ := Config.outputPath_beside hconfig
  have hfakes : (Path.mk config.outputDir).components = [.normal "fakes"] := by decide
  obtain rfl : "fakes" = n := by simpa [hfakes] using hdirectory
  obtain ⟨dir, mocks, -, hsource, hmocks, hbelow, houtput, hne, hplaces⟩ := hbeside source _ hname
  have hcomponents : source.components = [.root, .normal "svc"] ++ [.normal "doer.go"] := by decide
  have hdir : [.root, .normal "svc"] = dir.components :=
    List.append_inj_left' (hcomponents.symm.trans hsource) rfl
  obtain ⟨d, hd, hbeside⟩ := hplaces t _ hplace
  obtain rfl : ["svc"] = d := List.append_inj_left' (show ["svc"] ++ ["doer.go"] = _ from hd) rfl
  refine ⟨⟨hconfig, hname, hname', hplace⟩, ⟨mocks, hmocks, ?_⟩, houtput, hne, hbeside, ?_⟩
  · rw [hbelow, ← hdir]
    rfl
  · exact (hsame source source' (by simp [hname]) (by simp [hname'])).mpr (by decide)

end GoMocks
