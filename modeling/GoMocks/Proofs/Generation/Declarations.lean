import GoMocks.Generation
import GoMocks.Proofs.MockFile.Build

/-!
# Generation — what the published files declare

The mock files of a package make one package again, but each of them is checked for itself: it
declares no name twice. Two of them share a name where interfaces of two source files lead to it.

* `Generation.publications`: the mock files that are published for groups of interfaces, one group
  after the other. `report_addFile` is the step lemma for the report, `published_foldl_addFile` the
  run lemma.
* `Generation.declared_once`: what the files declare that are published for a package.
* `Generation.declared_twice`: a package whose files declare one name twice.
-/

namespace GoMocks

/-! ### Interfaces by their source files -/

theorem nodup_eraseDups {α : Type} [BEq α] [LawfulBEq α] : (items : List α) → items.eraseDups.Nodup
  | []        => .nil
  | a :: rest => by
    rw [List.eraseDups_cons, List.nodup_cons]
    exact ⟨by simp, nodup_eraseDups (rest.filter fun b => !b == a)⟩
termination_by items => items.length
decreasing_by exact Nat.lt_succ_of_le (List.length_filter_le _ _)

/-- Each source file has one group. -/
theorem sources_groupByFile_nodup (interfaces : List Interface) :
    ((groupByFile interfaces).map Prod.fst).Nodup := by
  simpa [groupByFile, Function.comp_def] using nodup_eraseDups (interfaces.map Interface.file)

/-- A group holds interfaces of its own file. -/
theorem mem_of_mem_groupByFile {interfaces : List Interface} {group : Path × List Interface}
    (h : group ∈ groupByFile interfaces) {i : Interface} (hi : i ∈ group.2) :
    i ∈ interfaces ∧ i.file = group.1 := by
  obtain ⟨file, -, rfl⟩ := List.mem_map.mp h
  simpa using List.mem_filter.mp hi

/-- Groups of one file are one. -/
theorem eq_of_mem_groupByFile {interfaces : List Interface} {group group' : Path × List Interface}
    (h : group ∈ groupByFile interfaces) (h' : group' ∈ groupByFile interfaces)
    (e : group.1 = group'.1) : group = group' :=
  List.inj_on_of_nodup_map (sources_groupByFile_nodup interfaces) h h' e

/-! ### What is published -/

/-- The mock files that were published: those that were written and those that were there. -/
def Report.published (report : Report) : List Path :=
  report.written ++ report.unchanged

/-- A mock file that was published for the interfaces of a source file. -/
structure Publication where
  source     : Path
  interfaces : List Interface
  file       : MockFile

namespace Publication

/-- The source file and the interfaces of one mock file. -/
def group (p : Publication) : Path × List Interface :=
  (p.source, p.interfaces)

/-- Where the mock file was published. -/
def output (settings : RunSettings) (p : Publication) : Path :=
  outputPath p.source settings.options.outputDir

end Publication

namespace Generation

open MockFile (declaredNames of_mockFile_eq_ok fst_mockFile_of_error
  exists_checkFileNames_eq_error)

variable {settings : RunSettings} {package : Package} {g : Generation}
  {group : Path × List Interface} {groups : List (Path × List Interface)} {p : Publication}

/-- Only the mock file asks the loader, and not its text. -/
theorem snd_source (settings : RunSettings) (t : FileTree) (loader : Loader) (package : Package)
    (interfaces : List Interface) :
    (source settings t loader package interfaces).2 =
      (mockFile (Loader.symbols t) package interfaces settings.options loader).2 := by
  rw [source]

/-- The mock file that is published for a group of interfaces, and what publishing it came to. -/
def publishFile (settings : RunSettings) (package : Package) (g : Generation)
    (group : Path × List Interface) : Except Error (MockFile × PublishOutcome) := do
  let file ← (mockFile (Loader.symbols g.tree) package group.2 settings.options g.loader).1
  let code ← (file.render settings.template).mapError .template
  let outcome ← (g.tree.publish settings.refusals
    (outputPath group.1 settings.options.outputDir) code.toUTF8).2
  return (file, outcome)

@[simp]
theorem tree_addOutcome (g : Generation) (output : Path) (outcome : Except Error PublishOutcome) :
    (g.addOutcome output outcome).tree = g.tree := by
  rcases outcome with e | _ | _ <;> rfl

@[simp]
theorem loader_addOutcome (g : Generation) (output : Path) (outcome : Except Error PublishOutcome) :
    (g.addOutcome output outcome).loader = g.loader := by
  rcases outcome with e | _ | _ <;> rfl

/-- **What the mock file of a group does to a run**: the loader has answered, the tree has changed as
publishing changes it, and the report has one more outcome. -/
theorem addFile_eq (settings : RunSettings) (package : Package) (g : Generation)
    (group : Path × List Interface) :
    let output := outputPath group.1 settings.options.outputDir
    let made := source settings g.tree g.loader package group.2
    let publish := fun code : String => g.tree.publish settings.refusals output code.toUTF8
    addFile settings package g group =
      addOutcome
        { g with
          tree := match made.1 with
            | .error _ => g.tree
            | .ok code => (publish code).1
          loader := made.2 }
        output (made.1.bind fun code => (publish code).2) := by
  dsimp only
  rw [addFile]
  rcases source settings g.tree g.loader package group.2 with ⟨e | code, loader⟩ <;> rfl

/-- Publishing is rendering, then putting the text at the output path. -/
theorem map_snd_publishFile (settings : RunSettings) (package : Package) (g : Generation)
    (group : Path × List Interface) :
    (publishFile settings package g group).map Prod.snd =
      (source settings g.tree g.loader package group.2).1.bind fun code =>
        (g.tree.publish settings.refusals (outputPath group.1 settings.options.outputDir)
          code.toUTF8).2 := by
  rw [publishFile, source]
  rcases mockFile (Loader.symbols g.tree) package group.2 settings.options g.loader with
    ⟨e | file, loader⟩
  · rfl
  simp only [bind, Except.bind]
  cases (file.render settings.template).mapError Error.template with
  | error e => rfl
  | ok code =>
    dsimp only
    cases (g.tree.publish settings.refusals (outputPath group.1 settings.options.outputDir)
      code.toUTF8).2 <;> rfl

/-- What is reported of a group is what publishing its mock file comes to. -/
theorem report_addFile (settings : RunSettings) (package : Package) (g : Generation)
    (group : Path × List Interface) :
    (addFile settings package g group).report =
      (g.addOutcome (outputPath group.1 settings.options.outputDir)
        ((publishFile settings package g group).map Prod.snd)).report := by
  rw [addFile_eq, map_snd_publishFile]
  generalize (source settings g.tree g.loader package group.2).1.bind _ = outcome
  rcases outcome with e | _ | _ <;> rfl

/-- A mock file that is not built is not published. -/
theorem publishFile_of_error {e : Error}
    (h : (mockFile (Loader.symbols g.tree) package group.2 settings.options g.loader).1 =
      .error e) :
    publishFile settings package g group = .error e := by
  rw [publishFile, h]
  rfl

/-- A mock file that is published was built. -/
theorem fst_mockFile_of_publishFile {file : MockFile} {outcome : PublishOutcome}
    (h : publishFile settings package g group = .ok (file, outcome)) :
    (mockFile (Loader.symbols g.tree) package group.2 settings.options g.loader).1 = .ok file := by
  cases hmock : (mockFile (Loader.symbols g.tree) package group.2 settings.options g.loader).1 with
  | error e => exact nomatch (publishFile_of_error hmock).symm.trans h
  | ok file' =>
    rw [publishFile, hmock] at h
    simp only [bind, Except.bind] at h
    split at h
    · exact nomatch h
    · split at h
      · exact nomatch h
      · rw [(Prod.mk.inj (Except.ok.inj h)).1]

/-- The mock files that are published for groups of interfaces, one group after the other. -/
def publications (settings : RunSettings) (package : Package) :
    Generation → List (Path × List Interface) → List Publication
  | _, []            => []
  | g, group :: rest =>
    let later := publications settings package (addFile settings package g group) rest
    match publishFile settings package g group with
    | .ok (file, _) => ⟨group.1, group.2, file⟩ :: later
    | .error _      => later

/-- A publication adds its output to the published files. -/
theorem published_addOutcome (g : Generation) (output : Path) (outcome : PublishOutcome) :
    (g.addOutcome output (.ok outcome)).report.published.Perm (g.report.published ++ [output]) := by
  cases outcome with
  | written =>
    simp only [addOutcome, Report.published, List.append_assoc]
    exact List.perm_append_comm.append_left _
  | unchanged => exact .of_eq (List.append_assoc ..).symm

theorem errors_addOutcome_ok (g : Generation) (output : Path) (outcome : PublishOutcome) :
    (g.addOutcome output (.ok outcome)).report.errors = g.report.errors := by
  cases outcome <;> rfl

/-- The files that are reported are those that are published along the way, and no failure is
forgotten. -/
theorem published_foldl_addFile (settings : RunSettings) (package : Package) (g : Generation)
    (groups : List (Path × List Interface)) :
    let last := groups.foldl (addFile settings package) g
    last.report.published.Perm
        (g.report.published ++ (publications settings package g groups).map (·.output settings)) ∧
      g.report.errors <+: last.report.errors := by
  induction groups generalizing g with
  | nil => simp [publications]
  | cons group rest ih =>
    obtain ⟨hpublished, herrors⟩ := ih (addFile settings package g group)
    have hstep := report_addFile settings package g group
    rw [publications]
    cases hfile : publishFile settings package g group with
    | error e =>
      rw [hfile] at hstep
      rw [hstep] at hpublished herrors
      exact ⟨hpublished, (List.prefix_append _ [e]).trans herrors⟩
    | ok result =>
      obtain ⟨file, outcome⟩ := result
      rw [hfile] at hstep
      rw [hstep] at hpublished herrors
      refine ⟨hpublished.trans (((published_addOutcome ..).append_right _).trans ?_),
        errors_addOutcome_ok .. ▸ herrors⟩
      exact .of_eq (List.append_assoc ..)

/-- The failure to publish the file of a group is reported. -/
theorem mem_errors_foldl_addFile {e : Error} (hgroup : group ∈ groups)
    (h : ∀ g : Generation, publishFile settings package g group = .error e) :
    e ∈ (groups.foldl (addFile settings package) g).report.errors := by
  induction groups generalizing g with
  | nil => exact nomatch hgroup
  | cons first rest ih =>
    rcases List.mem_cons.mp hgroup with rfl | hgroup
    · obtain ⟨-, hprefix⟩ :=
        published_foldl_addFile settings package (addFile settings package g group) rest
      refine hprefix.subset ?_
      rw [report_addFile, h]
      exact List.mem_append_right _ (List.mem_singleton_self e)
    · exact ih hgroup

/-- Each publication is that of one of the groups, in order. -/
theorem publications_sublist (settings : RunSettings) (package : Package) (g : Generation)
    (groups : List (Path × List Interface)) :
    ((publications settings package g groups).map Publication.group).Sublist groups := by
  induction groups generalizing g with
  | nil => exact .slnil
  | cons group rest ih =>
    rw [publications]
    cases publishFile settings package g group with
    | error e => exact (ih _).cons group
    | ok result => exact (ih _).cons_cons group

/-- A file that is published declares the names of its interfaces, none of them twice. -/
theorem declarations_of_mem_publications (h : p ∈ publications settings package g groups) :
    p.file.declarations = p.interfaces.flatMap declaredNames ∧ p.file.declarations.Nodup := by
  induction groups generalizing g with
  | nil => exact nomatch h
  | cons group rest ih =>
    rw [publications] at h
    cases hfile : publishFile settings package g group with
    | error e =>
      rw [hfile] at h
      exact ih h
    | ok result =>
      rw [hfile] at h
      rcases List.mem_cons.mp h with rfl | h
      · obtain ⟨-, hnodup, hmock⟩ := of_mockFile_eq_ok (fst_mockFile_of_publishFile hfile)
        exact ⟨hmock.declarations_eq, hmock.declarations_eq ▸ hnodup⟩
      · exact ih h

/-! ### One package -/

/-- A run that has listed the interfaces of a package, and those of them that can be mocked. None
can if the interfaces cannot be listed. -/
def listed (g : Generation) (package : Package) : Generation × List Interface :=
  match (Loader.interfaces g.tree package.path).run.run g.loader with
  | (.error e, loader)       => ({ g with loader }.addError e, [])
  | (.ok interfaces, loader) => ({ g with loader }.addSkipped (skippedOf package interfaces),
      interfaces.filter (·.eligibility.isEligible))

/-- A package is listed, then its files are added one after the other. -/
theorem addPackage_eq (settings : RunSettings) (g : Generation) (package : Package) :
    addPackage settings g package =
      (groupByFile (listed g package).2).foldl (addFile settings package) (listed g package).1 := by
  rw [addPackage, listed]
  rcases (Loader.interfaces g.tree package.path).run.run g.loader with ⟨e | interfaces, loader⟩ <;>
    rfl

/-- Listing publishes nothing. -/
theorem published_listed (g : Generation) (package : Package) :
    (listed g package).1.report.published = g.report.published := by
  rw [listed]
  split <;> rfl

/-- The mock files that are published for a package. -/
def publicationsOf (settings : RunSettings) (g : Generation) (package : Package) :
    List Publication :=
  publications settings package (listed g package).1 (groupByFile (listed g package).2)

/-- A publication is of a group of the listed interfaces. -/
theorem group_mem_of_mem_publicationsOf (h : p ∈ publicationsOf settings g package) :
    p.group ∈ groupByFile (listed g package).2 :=
  (publications_sublist ..).subset (List.mem_map_of_mem h)

/-- They belong to different source files. -/
theorem sources_publicationsOf_nodup (settings : RunSettings) (g : Generation) (package : Package) :
    (publicationsOf settings g package).Pairwise fun p q => p.source ≠ q.source := by
  have hsources := (sources_groupByFile_nodup (listed g package).2).sublist
    ((publications_sublist settings package (listed g package).1 _).map Prod.fst)
  rw [List.map_map] at hsources
  exact List.pairwise_map.mp hsources

/-- **Each published file declares its names once.** When a run comes to a package, in whatever
state, the report grows by exactly the files that are published for it. Each of these declares the
names of the interfaces of one source file that can be mocked, and none of them twice. Where the
interfaces of a source file lead to one name twice, no file is published for it, and the collision
is reported. And where no two interfaces of different source files lead to one name, no name is
declared twice in all of the files. -/
theorem declared_once (settings : RunSettings) (g : Generation) (package : Package) :
    let eligible := (listed g package).2
    let files := publicationsOf settings g package
    let report := (addPackage settings g package).report
    report.published.Perm (g.report.published ++ files.map (·.output settings)) ∧
      (∀ p ∈ files, p.group ∈ groupByFile eligible ∧
        p.file.declarations = p.interfaces.flatMap declaredNames ∧ p.file.declarations.Nodup) ∧
      (∀ group ∈ groupByFile eligible, ¬ (group.2.flatMap declaredNames).Nodup →
        (∀ p ∈ files, p.source ≠ group.1) ∧
          ∃ i ∈ group.2, ∃ name ∈ declaredNames i, .nameCollision i.name name ∈ report.errors) ∧
      ((∀ i ∈ eligible, ∀ j ∈ eligible, i.file ≠ j.file →
          ∀ name ∈ declaredNames i, name ∉ declaredNames j) →
        (files.flatMap (·.file.declarations)).Nodup) := by
  intro eligible files report
  have hfiles : ∀ p ∈ files, p.group ∈ groupByFile eligible ∧
      p.file.declarations = p.interfaces.flatMap declaredNames ∧ p.file.declarations.Nodup :=
    fun p hp => ⟨group_mem_of_mem_publicationsOf hp, declarations_of_mem_publications hp⟩
  obtain ⟨hpublished, -⟩ := published_foldl_addFile settings package (listed g package).1
    (groupByFile eligible)
  rw [← addPackage_eq, published_listed] at hpublished
  refine ⟨hpublished, hfiles, fun group hgroup hrepeated => ⟨fun p hp e => ?_, ?_⟩,
    fun hclash => ?_⟩
  · obtain ⟨hp, hdeclared, hnodup⟩ := hfiles p hp
    obtain rfl := eq_of_mem_groupByFile hgroup hp e.symm
    exact hrepeated (hdeclared ▸ hnodup)
  · obtain ⟨i, hi, name, hname, he⟩ := exists_checkFileNames_eq_error hrepeated
    refine ⟨i, hi, name, hname, ?_⟩
    change _ ∈ (addPackage settings g package).report.errors
    rw [addPackage_eq]
    exact mem_errors_foldl_addFile hgroup fun g => publishFile_of_error
      (fst_mockFile_of_error _ _ _ _ he)
  · refine List.nodup_flatMap.mpr ⟨fun p hp => (hfiles p hp).2.2, ?_⟩
    refine (sources_publicationsOf_nodup ..).imp_of_mem fun {p q} hp hq hne name hnp hnq => ?_
    obtain ⟨hp, hdeclaredp, -⟩ := hfiles p hp
    obtain ⟨hq, hdeclaredq, -⟩ := hfiles q hq
    -- the name comes from an interface of each of the two source files
    simp only [hdeclaredp, hdeclaredq, List.mem_flatMap] at hnp hnq
    obtain ⟨i, hi, hnamei⟩ := hnp
    obtain ⟨j, hj, hnamej⟩ := hnq
    obtain ⟨hi, hfilei⟩ := mem_of_mem_groupByFile hp hi
    obtain ⟨hj, hfilej⟩ := mem_of_mem_groupByFile hq hj
    have hfile : i.file ≠ j.file := by rwa [hfilei, hfilej]
    exact hclash i hi j hj hfile name hnamei hnamej

/-! ### Packages at hand -/

/-- A source file that declares one interface with the method `Do`. -/
def fileWith (path name : String) : GoSource.SourceFile :=
  ⟨⟨path⟩, "x", [], [⟨name, [], .interface [.method "Do" ⟨[], []⟩], 3⟩], false⟩

/-- A package of two source files, each with one interface. -/
def packageWith (first second : String) : SourcePackage :=
  ⟨⟨"x", "m/x", "m", ⟨"/m/x"⟩, [⟨"/m/x/a.go"⟩, ⟨"/m/x/b.go"⟩]⟩,
    [fileWith "/m/x/a.go" first, fileWith "/m/x/b.go" second]⟩

/-- A run that has loaded a package, and has looked for the others that every mock file imports. -/
def afterLoading (p : SourcePackage) : Generation where
  tree   := { entries := [(["m"], .directory), (["m", "x"], .directory)] }
  loader := { module := { path := "m", dir := ⟨"/m"⟩ }, root := ⟨"/m"⟩, env := {},
              found := [(p.package.path, some p), ("testing", none),
                ("goa.design/clue/mock", none)] }

/-- A template for the package clause, the types and the constructors of mock files. -/
def outline : List Template.Node :=
  [.text "package ", .output (.variable "name"),
    .loop "iface" (.variable "interfaces")
      [.text "\n\ntype ", .output (.member (.variable "iface") "name"),
        .text " struct\x7b\x7d\n\nfunc ", .output (.member (.variable "iface") "constructor"),
        .text "() \x7b\x7d"] []]

/-- Settings with the template that writes an outline. -/
def outlineSettings : RunSettings where
  options  := ⟨"gomocks", "v1", "gomocks gen", "goa.design/clue/mock", "mock", "mocks"⟩
  template := outline

/-- Interfaces of two source files whose mocks have no name in common. -/
theorem declared_once_doer_closer :
    let p := packageWith "Doer" "Closer"
    let files := publicationsOf outlineSettings (afterLoading p) p.package
    files.map Publication.source = [⟨"/m/x/a.go"⟩, ⟨"/m/x/b.go"⟩] ∧
      (files.flatMap (·.file.declarations)).Nodup := by
  intro p files
  obtain ⟨-, -, -, h⟩ := declared_once outlineSettings (afterLoading p) p.package
  refine ⟨by decide +kernel, h ?_⟩
  decide +kernel

/-- **Two published files declare one name.** The mock of the second interface is called like the
constructor of the first one's mock. Both files are published, and nothing is reported. -/
theorem declared_twice :
    let p := packageWith "Doer" "NewDoer"
    let last := addPackage outlineSettings (afterLoading p) p.package
    last.report = { written := [⟨"/m/x/mocks/a.go"⟩, ⟨"/m/x/mocks/b.go"⟩] } ∧
      (last.tree.readText ⟨"/m/x/mocks/a.go"⟩).toOption = some
        "package mockx\n\ntype Doer struct\x7b\x7d\n\nfunc NewDoer() \x7b\x7d" ∧
      (last.tree.readText ⟨"/m/x/mocks/b.go"⟩).toOption = some
        "package mockx\n\ntype NewDoer struct\x7b\x7d\n\nfunc NewNewDoer() \x7b\x7d" ∧
      ¬ ((publicationsOf outlineSettings (afterLoading p) p.package).flatMap
        (·.file.declarations)).Nodup := by
  decide +kernel

end Generation

end GoMocks
