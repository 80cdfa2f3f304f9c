import GoMocks.Proofs.MethodSet.Concrete
import GoMocks.Proofs.MockFile.Functions

/-!
# Mock files — a source of the mock package

The template writes a mock file as a Go source: comments and a package clause, one import declaration,
and for each interface a block of types and some functions.

* `InterfaceMock.holdsOnly`: the mock of an interface is read item after item.
* `holdsOnly_imports`: the imports are read as one declaration.
* `FileMock.exists_source`: a mock file is read as a source of the mock package, in which no interface
  is declared.
-/

namespace GoMocks

open Resolver
open GoSource (SourceFile TypeSpec TypeExpr ImportSpec Lexeme Lays HasLayout LinesLaidOut HoldsItems
  HoldsOnly IsGap IsString TopLevel)
open Template (ofLines)

/-! ### Items without interfaces -/

namespace GoSource

/-- The item declares no interface, and imports no package that is seen through. -/
def TopLevel.IsConcrete : TopLevel → Prop
  | .package _     => False
  | .imports specs => ∀ spec ∈ specs, spec.name ≠ some "."
  | .types specs   => ∀ spec ∈ specs, spec.isConcrete
  | .function      => True
  | .statement     => True

/-- Items without interfaces make a file without interfaces. -/
theorem SourceFile.isConcrete_foldl_add {items : List TopLevel} (file : SourceFile)
    (h : file.IsConcrete) (hitems : ∀ item ∈ items, item.IsConcrete) :
    let last := (items.map (([] : List String), ·)).foldl add file
    last.package = file.package ∧ last.buildIgnored = file.buildIgnored ∧ last.IsConcrete := by
  induction items generalizing file with
  | nil => exact ⟨rfl, rfl, h⟩
  | cons item items ih =>
    obtain ⟨hitem, hitems⟩ := List.forall_mem_cons.mp hitems
    have hadd : (file.add ([], item)).package = file.package ∧
        (file.add ([], item)).buildIgnored = file.buildIgnored ∧
          (file.add ([], item)).IsConcrete := by
      cases item with
      | package => exact hitem.elim
      | imports =>
        exact ⟨by simp [add], by simp [add], by
          simpa [add] using List.forall_mem_append.mpr ⟨h.imports, hitem⟩, by simpa [add] using h.types⟩
      | types =>
        exact ⟨by simp [add], by simp [add], by simpa [add] using h.imports, by
          simpa [add] using List.forall_mem_append.mpr ⟨h.types, hitem⟩⟩
      | function | statement => exact ⟨by simp [add], by simp [add], by simpa [add] using h⟩
    obtain ⟨hpackage, hbuilt, hconcrete⟩ := hadd
    obtain ⟨hpackages, hbuilts, hconcretes⟩ := ih _ hconcrete hitems
    exact ⟨hpackages.trans hpackage, hbuilts.trans hbuilt, hconcretes⟩

end GoSource

/-- A source can hold the import: its path is a string, and it goes by an identifier that is no
literal. -/
structure Import.Writable (i : Import) : Prop where
  path  : IsString (Text.quoted i.path)
  ident : isIdentifier i.ident
  plain : i.ident ∉ GoSource.literalNames

instance (i : Import) : Decidable i.Writable :=
  decidable_of_iff (IsString (Text.quoted i.path) ∧ isIdentifier i.ident ∧
      i.ident ∉ GoSource.literalNames)
    ⟨fun ⟨hp, hi, hl⟩ => ⟨hp, hi, hl⟩, fun ⟨hp, hi, hl⟩ => ⟨hp, hi, hl⟩⟩

/-- An alias of a writable import is an identifier. -/
theorem Import.Writable.localName {i : Import} (h : i.Writable) {name : String}
    (hname : i.localName = some name) : isIdentifier name := by
  have hident := h.ident
  rwa [Import.ident, hname] at hident

namespace MockFile

variable {σ : Type} {symbols : Symbols σ} {r : Resolver σ} {goesBy : String → String → Prop}
  {i : Interface} {mockOf : MockInterface} {reserved : List String} {file : MockFile}

/-! ### The mock of an interface -/

/-- No type of a mock is an interface. -/
theorem ReadsTypes.isConcrete {item : TopLevel} (h : ReadsTypes symbols r i item) :
    item.IsConcrete := by
  obtain ⟨struct, handlers, rfl, -, ⟨fields, hstruct⟩, hhandlers⟩ := h
  have htype {e : TypeExpr} (he : (∃ fields, e = .struct fields) ∨ ∃ f, e = .function f)
      {spec : TypeSpec} (hspec : ReadsType symbols r i e spec) : spec.isConcrete := by
    rw [ReadsType] at hspec
    rw [TypeSpec.isConcrete]
    split at hspec
    · obtain ⟨-, length, hspec⟩ := hspec
      rw [hspec]
    · rw [hspec.2]
      rcases he with ⟨fields, rfl⟩ | ⟨f, rfl⟩ <;> rfl
  refine List.forall_mem_cons.mpr ⟨htype (.inl ⟨fields, rfl⟩) hstruct,
    forall_mem_of_forall₂ hhandlers fun m _ spec h => ?_⟩
  obtain ⟨-, f, hread⟩ := h
  exact htype (.inr ⟨f, rfl⟩) hread

/-- **The mock of an interface is read** item after item, and none of them declares an interface. -/
theorem InterfaceMock.holdsOnly (h : InterfaceMock r reserved i mockOf)
    (hr : Faithful symbols goesBy r) (hq : NamesPackages goesBy) (hw : i.Writable)
    (hident : ∀ entry ∈ r.imports.entries, isIdentifier entry.ident)
    (hruntime : isIdentifier file.mockIdent) (htesting : isIdentifier file.testingIdent)
    (hparams : TellsParameters symbols i) :
    HoldsOnly TopLevel.IsConcrete (interfaceLines file mockOf) := by
  have htype : HasLayout TypeExpr.Row mockOf.typeRef :=
    h.typeRef ▸ .of_named (hasLayout_ownType hw hw.name)
  refine ⟨_, (((h.holdsItems_types hr hq hw hident hruntime htesting).append
    (h.holdsItems_constructor hr hq hw hident htesting)).append
      (h.holdsItems_methods hr hq hw hident hparams)).append (holdsItems_hasMore htype), ?_⟩
  have hfunction : ∀ item, item = TopLevel.function → item.IsConcrete := by
    rintro _ rfl
    exact trivial
  intro Q hQ
  simp only [List.append_assoc, List.mem_append, List.mem_flatMap, List.mem_cons,
    List.not_mem_nil, or_false] at hQ
  rcases hQ with rfl | rfl | ⟨_, -, rfl | rfl | rfl⟩ | rfl
  · exact fun item => ReadsTypes.isConcrete
  all_goals exact hfunction

/-! ### Imports -/

/-- The lines hold imports, each on a line of its own. -/
def HoldsImports (lines : List String) (imports : List Import) : Prop :=
  ∃ specs rows, List.Forall₂ (fun i (spec : ImportSpec) => spec.name = i.localName) imports specs ∧
    List.Forall₂ ImportSpec.Row specs rows ∧ LinesLaidOut lines rows

namespace HoldsImports

variable {lines more : List String} {imports behind : List Import}

theorem nil : HoldsImports [] [] := ⟨[], [], .nil, .nil, .nil⟩

theorem append (h : HoldsImports lines imports) (h' : HoldsImports more behind) :
    HoldsImports (lines ++ more) (imports ++ behind) := by
  obtain ⟨specs, rows, hspecs, hrows, hlines⟩ := h
  obtain ⟨specs', rows', hspecs', hrows', hmore⟩ := h'
  exact ⟨specs ++ specs', rows ++ rows', List.rel_append hspecs hspecs',
    List.rel_append hrows hrows', hlines.append hmore⟩

theorem blank (h : HoldsImports lines imports) : HoldsImports ("" :: lines) imports := by
  obtain ⟨specs, rows, hspecs, hrows, hlines⟩ := h
  exact ⟨specs, rows, hspecs, hrows, .blank (by simp) hlines⟩

/-- Lines made piece by piece hold the imports of the pieces. -/
theorem flatMap {α : Type} {as : List α} {f : α → List String} {g : α → List Import}
    (h : ∀ a ∈ as, HoldsImports (f a) (g a)) : HoldsImports (as.flatMap f) (as.flatMap g) := by
  induction as with
  | nil => exact .nil
  | cons a as ih =>
    obtain ⟨ha, has⟩ := List.forall_mem_cons.mp h
    exact ha.append (ih has)

end HoldsImports

/-- The line of an import holds it. -/
theorem holdsImports_spec {i : Import} (h : i.Writable) : HoldsImports ["\t" ++ i.spec] [i] := by
  have hquoted := Lays.string h.path
  rw [Import.spec]
  cases hlocal : i.localName with
  | none =>
    refine ⟨[_], [[.string (Text.quoted i.path)]], .cons hlocal.symm .nil, .cons (.plain _) .nil, ?_⟩
    exact .row_of_lays hquoted (by simp) ['\t'] (by decide) (by simp [String.toList_append]) .nil
  | some name =>
    refine ⟨[_], [[.name name, .string (Text.quoted i.path)]], .cons hlocal.symm .nil,
      .cons (.named ..) .nil, ?_⟩
    exact .row_of_lays ((Lays.name (h.localName hlocal)).append_blank hquoted) (by simp) ['\t']
      (by decide) (by simp [String.toList_append]) .nil

/-- The lines of a group hold its imports. -/
theorem holdsImports_group {imports : List Import} (h : ∀ i ∈ imports, i.Writable) :
    HoldsImports (specLines (imports.map Import.view)) imports := by
  have hgroup := HoldsImports.flatMap fun i hi => holdsImports_spec (h i hi)
  rw [← List.map_eq_flatMap, ← List.map_eq_flatMap, List.map_id'] at hgroup
  rw [specLines, List.map_map]
  exact hgroup

/-- Imports in groups, with a blank line between them. -/
theorem holdsImports_groups {groups : List (List Import)} (h : ∀ g ∈ groups, ∀ i ∈ g, i.Writable) :
    HoldsImports ([""].intercalate (groups.map fun g => specLines (g.map Import.view)))
      groups.flatten := by
  cases groups with
  | nil => exact .nil
  | cons g groups =>
    obtain ⟨hg, hgroups⟩ := List.forall_mem_cons.mp h
    rw [List.map_cons, intercalate_blank, List.flatMap_map, List.flatten_cons]
    have hmore := HoldsImports.flatMap (g := fun g => g)
      fun g hg => (holdsImports_group (hgroups g hg)).blank
    rw [List.flatMap_id'] at hmore
    exact (holdsImports_group hg).append hmore

/-- **The imports are read as one declaration**, in which none is seen through. -/
theorem holdsOnly_imports (h : ∀ g ∈ file.importGroups, ∀ i ∈ g, i.Writable)
    (hne : file.importGroups.flatten ≠ []) :
    HoldsOnly TopLevel.IsConcrete (importLines file.groupViews) := by
  obtain ⟨specs, rows, hspecs, hrows, hlines⟩ := holdsImports_groups h
  have hnames : ∀ spec ∈ specs, spec.name ≠ some "." := by
    refine forall_mem_of_forall₂ hspecs fun i hi spec hspec hdot => ?_
    obtain ⟨g, hg, hi⟩ := List.mem_flatten.mp hi
    have hdot : isIdentifier "." := (h g hg i hi).localName (hspec.symm.trans hdot)
    exact absurd hdot (by decide)
  have hrowsNe : rows ≠ [] := by
    intro hnil
    have hlength := hspecs.length_eq.trans hrows.length_eq
    rw [hnil, List.length_nil] at hlength
    exact hne (List.eq_nil_of_length_eq_zero hlength)
  have hopening : Lays "import (" [.keyword "import", .sign "("] := .fixed rfl
  have hclosing : Lays ")" [.sign ")"] := .sign (by decide) (by decide)
  have hblock : LinesLaidOut (importLines file.groupViews)
      ([.keyword "import", .sign "("] :: (rows ++ [[.sign ")"]])) := by
    rw [importLines, groupViews, List.map_map]
    refine .blank (by simp) (.row_of_lays hopening (by simp) [] (by decide) (by simp) ?_)
    exact hlines.append (.row_of_lays hclosing (by simp) [] (by decide) (by simp) .nil)
  exact ⟨_, .of_rows (GoSource.readsItem_imports hrows hrowsNe) hblock,
    by simpa [TopLevel.IsConcrete] using hnames⟩

/-! ### The header -/

/-- A comment is no build constraint unless it begins with one. -/
theorem isIgnoreConstraint_eq_false {cs : List Char} (hhead : ∀ c ∈ cs.head?, Text.isBlank c = false)
    (hgo : ¬ "//go:build".toList <+: cs) (hplus : ¬ "// +build".toList <+: cs) :
    GoSource.isIgnoreConstraint (.ofList cs) = false := by
  have hprefix : Text.trimChars Text.isBlank cs <+: cs := by
    have hdrop : cs.dropWhile Text.isBlank = cs := by
      cases cs with
      | nil => rfl
      | cons c cs => simp [hhead c rfl]
    rw [Text.trimChars, hdrop]
    exact List.rdropWhile_prefix _ cs
  have hnone {front : List Char} (h : ¬ front <+: cs) :
      Text.afterFront? front (Text.trimChars Text.isBlank cs) = none :=
    if_neg fun hfront => h ((List.isPrefixOf_iff_prefix.mp hfront).trans hprefix)
  simp only [GoSource.isIgnoreConstraint, String.toList_ofList, hnone hgo, hnone hplus]

/-- Comments up to the package clause. -/
theorem exists_headerFront (file : MockFile) (htool : '\n' ∉ file.tool.toList)
    (hversion : '\n' ∉ file.version.toList) (hcommand : '\n' ∉ file.command.toList) :
    ∃ front newline comments, IsGap front newline comments ∧
      (∀ c ∈ front.head?, c ≠ GoSource.Token.byteOrderMark) ∧
      (∀ comment ∈ comments, GoSource.isIgnoreConstraint comment = false) ∧
      (ofLines (headerLines file)).toList =
        front ++ ("package ".toList ++ (file.name.toList ++ ['\n'])) := by
  have hline {text gap : List Char} {newline : Bool} {comments : List String} (htext : '\n' ∉ text)
      (h : IsGap gap newline comments) : IsGap ('/' :: '/' :: (text ++ '\n' :: gap)) _ _ :=
    .comment htext (.blank (by decide) h)
  have hgenerated : '\n' ∉ (" Code generated by " ++ (file.tool ++ (" " ++ (file.version ++
      ", DO NOT EDIT.")))).toList := by
    simp [String.toList_append, htool, hversion]
  have hrecorded : '\n' ∉ (" $ " ++ file.command).toList := by
    simp [String.toList_append, hcommand]
  have hend : IsGap ['\n'] _ _ := .blank (by decide) .nil
  have hcommand : '\n' ∉ " Command:".toList := by decide
  refine ⟨_, _, _, hline hgenerated (hline List.not_mem_nil (hline hcommand (hline hrecorded hend))),
    by simp [GoSource.Token.byteOrderMark], ?_, ?_⟩
  · simp only [List.forall_mem_cons]
    refine ⟨?_, ?_, ?_, ?_, by simp⟩ <;> refine isIgnoreConstraint_eq_false ?_ ?_ ?_ <;>
      simp [String.toList_append] <;> decide
  · simp [headerLines, String.toList_append]

/-- **A mock file is a source of the mock package**, in which no interface is declared. -/
theorem FileMock.exists_source {interfaces : List Interface} (h : FileMock r interfaces file)
    (hr : Faithful symbols (GoesBy r) r)
    (himports : ∀ entry ∈ file.imports, entry.Writable) (hwritable : ∀ i ∈ interfaces, i.Writable)
    (hparams : ∀ i ∈ interfaces, TellsParameters symbols i) (hname : isIdentifier file.name)
    (htool : '\n' ∉ file.tool.toList) (hversion : '\n' ∉ file.version.toList)
    (hcommand : '\n' ∉ file.command.toList) (path : Path) :
    ∃ source, SourceFile.parse path (ofLines (file.lines file.groupViews)) = .ok source ∧
      source.package = file.name ∧ source.buildIgnored = false ∧ source.IsConcrete := by
  have hentry : ∀ entry ∈ r.imports.entries, entry.Writable := fun entry hentry =>
    himports entry (h.mem_imports.mpr hentry)
  have hq : NamesPackages (GoesBy r) := by
    rintro _ _ ⟨entry, hmem, rfl, rfl⟩
    exact ⟨(hentry entry hmem).ident, (hentry entry hmem).plain⟩
  obtain ⟨runtime, hruntime, hmockIdent⟩ := h.runtime
  obtain ⟨testing, htesting, htestingIdent⟩ := h.testing
  have hflatten : file.importGroups.flatten = file.imports := by
    rw [importGroups, List.flatten_filter_not_isEmpty]
    simp [MockFile.imports]
  have hgroups : ∀ g ∈ file.importGroups, ∀ i ∈ g, i.Writable := fun g hg i hi =>
    himports i (hflatten ▸ List.mem_flatten.mpr ⟨g, hg, hi⟩)
  have hne : file.importGroups.flatten ≠ [] :=
    hflatten ▸ List.ne_nil_of_mem (h.mem_imports.mpr hruntime)
  -- behind the imports, every item is a function or a type block without an interface
  have hmocks : HoldsOnly TopLevel.IsConcrete (file.interfaces.flatMap (interfaceLines file)) :=
    .flatMap (forall_mem_of_forall₂ h.interfaces fun i hi mockOf hinterface =>
      hinterface.holdsOnly hr hq (hwritable i hi) (fun entry he => (hentry entry he).ident)
        (hmockIdent ▸ (hentry runtime hruntime).ident)
        (htestingIdent ▸ (hentry testing htesting).ident)
        (hparams i hi))
  obtain ⟨Ps, hitems, hPs⟩ := (holdsOnly_imports hgroups hne).append hmocks
  obtain ⟨front, newline, comments, hfront, hmark, hplain, hheader⟩ :=
    exists_headerFront file htool hversion hcommand
  have hsource : (ofLines (file.lines file.groupViews)).toList = front ++
      ("package ".toList ++ (file.name.toList ++ ((importLines file.groupViews ++
        file.interfaces.flatMap (interfaceLines file)).flatMap ('\n' :: ·.toList) ++ ['\n']))) := by
    rw [lines, List.append_assoc, Template.ofLines_append, String.toList_append, hheader,
      ← newline_cons_ofLines]
    simp
  obtain ⟨items, hread, hparse⟩ :=
    SourceFile.parse_lines path hfront hmark hplain hname hitems hsource
  obtain ⟨hpackage, hbuilt, hconcrete⟩ :=
    SourceFile.isConcrete_foldl_add ⟨path, file.name, [], [], false⟩ ⟨by simp, by simp⟩
      (forall_mem_of_forall₂ hread hPs)
  exact ⟨_, hparse, hpackage, hbuilt, hconcrete⟩

/-- The texts of the header are those of the options. -/
theorem header_of_mockFile {package : Package} {interfaces : List Interface} {options : MockOptions}
    {state : σ} (h : (mockFile symbols package interfaces options state).1 = .ok file) :
    file.tool = options.tool ∧ file.version = options.version ∧ file.command = options.command ∧
      file.name = options.packagePrefix ++ package.name := by
  have hbuild : Returns (fun file => file.tool = options.tool ∧ file.version = options.version ∧
      file.command = options.command ∧ file.name = options.packagePrefix ++ package.name)
      (build symbols package interfaces options) :=
    (Returns.trivial _).bind fun _ _ => (Returns.trivial _).bind fun _ _ =>
      (Returns.trivial _).bind fun _ _ => (Returns.trivial _).bind fun _ _ =>
        (Returns.trivial _).bind fun _ _ => (Returns.trivial _).bind fun _ _ =>
          (Returns.trivial _).bind fun _ _ => (Returns.trivial _).bind fun _ _ =>
            .pure ⟨rfl, rfl, rfl, rfl⟩
  rw [fst_mockFile] at h
  exact hbuild _ _ h

end MockFile

end GoMocks
