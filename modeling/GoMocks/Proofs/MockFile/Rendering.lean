import GoMocks.MockFile.Render
import GoMocks.Proofs.MockFile.Layout
import GoMocks.Proofs.Template.Lines

/-!
# Mock files — what the template writes

The template that belongs to the tool is a tree of lines, loops and conditions. Each of its blocks
writes the lines of a part of a mock file, where the names it shows stand for that part.

* `MockFile.templateNodes`: the tree, line by line; `template_eq`: the template is read as this tree.
* `AtFile`, `AtInterface`, `AtMethod`: the names that a block of the tree can show.
* `writes_interface`, `writes_imports`: the lines that the blocks write.
* `render_eq_lines`: the source of every mock file, line by line.
-/

namespace GoMocks

open Template (Node Expr Writes line shown part ofLines)

namespace MockFile

/-! ### The tree of the template -/

/-- What writes the lines up to the package clause. -/
def headerNodes : List Node :=
  line [.text "// Code generated by ", shown "tool", .text " ", shown "version",
    .text ", DO NOT EDIT."] ++
  line [.text "//"] ++
  line [.text "// Command:"] ++
  line [.text "// $ ", shown "command"] ++
  line [] ++
  line [.text "package ", shown "name"]

/-- What writes the imports, group by group. -/
def importNodes : List Node :=
  (line [] ++ line [.text "import ("]) ++
  [.loop "group" (.variable "import_groups")
    ([.conditional (.negation (.member (.variable "loop") "first")) (line []) []] ++
      [.loop "import" (.variable "group") (line [.text "\t", part "import" "spec"]) []]) []] ++
  line [.text ")"]

/-- What writes the type of a handler. -/
def handlerNodes : List Node :=
  line [.text "\t",
    .output (.filter "pad" (.member (.variable "method") "func_type_decl")
      [.member (.variable "iface") "alignment"]),
    .text " func", part "method" "signature"]

/-- The struct of a mock, at the beginning of its types. -/
def structNodes : List Node :=
  line [] ++
  line [.text "type ("] ++
  line [.text "\t// ", part "iface" "name", .text " is a mock of the ", part "iface" "source_ref",
    .text " interface."] ++
  line [.text "\t", part "iface" "name", part "iface" "type_params", .text " struct \x7b"] ++
  line [.text "\t\tm *", shown "mock_ident", .text ".Mock"] ++
  line [.text "\t\tt *", shown "testing_ident", .text ".T"] ++
  line [.text "\t\x7d"]

/-- What writes the types of a mock. -/
def typeNodes : List Node :=
  structNodes ++
  [.conditional (.member (.variable "iface") "methods")
    (line [] ++ [.loop "method" (.member (.variable "iface") "methods") handlerNodes []]) []] ++
  line [.text ")"]

/-- What writes the constructor. -/
def constructorNodes : List Node :=
  line [] ++
  line [.text "// ", part "iface" "constructor", .text " returns a new mock of the ",
    part "iface" "source_ref", .text " interface."] ++
  line [.text "func ", part "iface" "constructor", part "iface" "type_params", .text "(t *",
    shown "testing_ident", .text ".T) *", part "iface" "type_ref", .text " \x7b"] ++
  line [.text "\tvar ("] ++
  line [.text "\t\tm", part "iface" "var_padding", .text " = ", part "iface" "new_value"] ++
  line [.text "\t\t_ ", part "iface" "source_ref", .text " = m"] ++
  line [.text "\t)"] ++
  line [.text "\treturn m"] ++
  line [.text "\x7d"]

/-- The function that hands `f` on to the mock. -/
def registerNodes (name purpose call : String) : List Node :=
  line [] ++
  line [.text "// ", part "method" name, .text purpose] ++
  line [.text "func (m *", part "iface" "type_ref", .text ") ", part "method" name, .text "(f ",
    part "method" "func_type_ref", .text ") \x7b"] ++
  line [.text call, part "method" "name", .text "\", f)"] ++
  line [.text "\x7d"]

/-- What writes the function that adds a handler. -/
def adderNodes : List Node :=
  registerNodes "adder" " adds f to the mocked call sequence." "\tm.m.Add(\""

/-- What writes the function that sets a handler. -/
def setterNodes : List Node :=
  registerNodes "setter" " sets f for all calls to the mocked method." "\tm.m.Set(\""

/-- What writes the call of a handler. -/
def callNodes : List Node :=
  [.conditional (.member (.variable "method") "has_results")
    (line [.text "\t\treturn ", .text "f.(", part "method" "func_type_ref", .text ")(",
      part "method" "call_args", .text ")"])
    (line [.text "\t\t", .text "f.(", part "method" "func_type_ref", .text ")(",
        part "method" "call_args", .text ")"] ++
      line [.text "\t\treturn"])]

/-- What writes the return of zero values. -/
def returnNodes : List Node :=
  [.conditional (.member (.variable "method") "has_results")
    (line [.text "\treturn ", part "method" "zero_results"]) []]

/-- What writes a mocked method. -/
def methodNodes : List Node :=
  line [] ++
  line [.text "// ", part "method" "name", .text " implements the ", part "iface" "source_ref",
    .text " interface."] ++
  line [.text "func (m *", part "iface" "type_ref", .text ") ", part "method" "name",
    part "method" "signature", .text " \x7b"] ++
  line [.text "\tif f := m.m.Next(\"", part "method" "name", .text "\"); f != nil \x7b"] ++
  callNodes ++
  (line [.text "\t\x7d"] ++
    line [.text "\tm.t.Helper()"] ++
    line [.text "\tm.t.Error(\"unexpected ", part "method" "name", .text " call\")"]) ++
  returnNodes ++
  line [.text "\x7d"]

/-- What writes the function that tells whether more calls are expected. -/
def hasMoreNodes : List Node :=
  line [] ++
  line [.text "// HasMore returns true if the mock has more expected calls."] ++
  line [.text "func (m *", part "iface" "type_ref", .text ") HasMore() bool \x7b"] ++
  line [.text "\treturn m.m.HasMore()"] ++
  line [.text "\x7d"]

/-- The functions of all methods. -/
def methodsNodes : List Node :=
  [.loop "method" (.member (.variable "iface") "methods")
    (adderNodes ++ setterNodes ++ methodNodes) []]

/-- What writes the mock of an interface. -/
def interfaceNodes : List Node :=
  typeNodes ++ constructorNodes ++ methodsNodes ++ hasMoreNodes

/-- The embedded template, part by part. -/
def templateNodes : List Node :=
  headerNodes ++ importNodes ++ [.loop "iface" (.variable "interfaces") interfaceNodes []]

/-- **The template that belongs to the tool is read as this tree.** -/
theorem template_eq : template = .ok (Node.joinedAll templateNodes) := by
  show Template.parse (ofLines templateLines) = _
  apply Template.parse_ofLines
  · -- the characters of each line, which is a literal
    dsimp only [templateLines]
    repeat' first | exact .nil | exact rfl | apply List.Forall₂.cons
  · decide +kernel

/-! ### What the tree writes -/

variable {env : Expr.Bindings} {file : MockFile} {i : MockInterface} {m : MockMethod}
  {groups : List (List ImportView)}

/-- The names of the file that stand outside of its interfaces. -/
structure AtFile (env : Expr.Bindings) (file : MockFile) : Prop where
  tool       : env.lookup "tool" = some (.text file.tool)
  version    : env.lookup "version" = some (.text file.version)
  command    : env.lookup "command" = some (.text file.command)
  name       : env.lookup "name" = some (.text file.name)
  mock       : env.lookup "mock_ident" = some (.text file.mockIdent)
  testing    : env.lookup "testing_ident" = some (.text file.testingIdent)
  interfaces : env.lookup "interfaces" = some (.list (file.interfaces.map interfaceValue))

/-- The names that stand in an interface. -/
structure AtInterface (env : Expr.Bindings) (file : MockFile) (i : MockInterface) : Prop where
  iface   : env.lookup "iface" = some (interfaceValue i)
  mock    : env.lookup "mock_ident" = some (.text file.mockIdent)
  testing : env.lookup "testing_ident" = some (.text file.testingIdent)

/-- The names that stand in a method. -/
structure AtMethod (env : Expr.Bindings) (i : MockInterface) (m : MockMethod) : Prop where
  iface  : env.lookup "iface" = some (interfaceValue i)
  method : env.lookup "method" = some (methodValue m)

/-- In the loop over the interfaces the file is still at hand. -/
theorem AtFile.interface (h : AtFile env file) (i : MockInterface) (state : Template.Value) :
    AtInterface (("iface", interfaceValue i) :: ("loop", state) :: env) file i where
  iface   := by simp
  mock    := by simp [List.lookup_cons, h.mock]
  testing := by simp [List.lookup_cons, h.testing]

/-- In the loop over the methods the interface is still at hand. -/
theorem AtInterface.method (h : AtInterface env file i) (m : MockMethod) (state : Template.Value) :
    AtMethod (("method", methodValue m) :: ("loop", state) :: env) i m where
  iface  := by simp [List.lookup_cons, h.iface]
  method := by simp

/-- The methods of the interface at hand. -/
theorem AtInterface.eval_methods (h : AtInterface env file i) :
    (Expr.member (.variable "iface") "methods").eval env =
      .ok (.list (i.methods.map methodValue)) := by
  simp [h.iface, interfaceValue, List.lookup_cons]

/-- Whether the method at hand has results. -/
theorem AtMethod.eval_hasResults (h : AtMethod env i m) :
    (Expr.member (.variable "method") "has_results").eval env = .ok (.bool m.hasResults) := by
  simp [h.method, methodValue, List.lookup_cons]

/-- The header of the template writes the header lines. -/
theorem writes_header (h : AtFile env file) : Writes env headerNodes (headerLines file) := by
  simp [-String.reduceAppend, Writes, headerNodes, headerLines, h.tool, h.version, h.command,
    h.name, String.append_assoc]

/-- A column within the limit is written. -/
theorem writes_handler (h : AtMethod env i m) (hwidth : i.alignment ≤ Expr.widthLimit) :
    Writes env handlerNodes [handlerFront i m ++ " func" ++ m.signature] := by
  have hpad : Expr.applyFilter "pad" (.text m.funcTypeDecl) [.int i.alignment] =
      .ok (.text (Expr.filled m.funcTypeDecl i.alignment)) := by
    simp [Expr.applyFilter, Template.Value.asInt?, Expr.pad, hwidth]
  simp [-String.reduceAppend, Writes, handlerNodes, handlerFront, h.iface, h.method, methodValue,
    interfaceValue, String.append_assoc, List.lookup_cons, Expr.evalAll, hpad]

/-- At a column past the limit the template comes to no end. -/
theorem overflows_handler (h : AtMethod env i m) (hwidth : ¬ i.alignment ≤ Expr.widthLimit) :
    Template.Overflows env handlerNodes := by
  have hpad : Expr.applyFilter "pad" (.text m.funcTypeDecl) [.int i.alignment] =
      .error .tooWide := by
    simp [Expr.applyFilter, Template.Value.asInt?, Expr.pad, hwidth]
  simp [-String.reduceAppend, Template.Overflows, handlerNodes, h.iface, h.method, methodValue,
    interfaceValue, List.lookup_cons, Expr.evalAll, hpad]

/-- The handler types are written when their widths are within the limit. -/
theorem writes_handlers (h : AtInterface env file i) (hwidth : i.FitsWidth) :
    Writes env [.conditional (.member (.variable "iface") "methods")
      (line [] ++ [.loop "method" (.member (.variable "iface") "methods") handlerNodes []]) []]
      (handlerLines i) := by
  refine .conditional h.eval_methods ?_
  cases hm : i.methods with
  | nil => simp [handlerLines, hm, Writes]
  | cons m ms =>
    have hblank : Writes env (line []) [""] := by simp [Writes]
    have hloop := Writes.loop_of_forall h.eval_methods fun m _ state =>
      writes_handler (h.method m state) (hwidth (by simp [hm]))
    have hlines := hblank.append hloop
    rw [← List.map_eq_flatMap] at hlines
    simpa [handlerLines, hm] using hlines

/-- A width above the limit stops the handler types. -/
theorem overflows_handlers (h : AtInterface env file i) (hwidth : ¬ i.FitsWidth) :
    Template.Overflows env [.conditional (.member (.variable "iface") "methods")
      (line [] ++ [.loop "method" (.member (.variable "iface") "methods") handlerNodes []]) []] := by
  obtain ⟨hne, hwidth⟩ := Classical.not_imp.mp hwidth
  refine .conditional h.eval_methods ?_
  have hblank : Writes env (line []) [""] := by simp [Writes]
  obtain ⟨m, hm⟩ := List.exists_mem_of_ne_nil _ hne
  have hloop := Template.Overflows.loop h.eval_methods
    (fun m _ state => .inr (overflows_handler (h.method m state) hwidth))
    ⟨m, hm, fun state => overflows_handler (h.method m state) hwidth⟩
  simpa [hne] using hblank.overflows_append hloop

/-- The lines in front of the handler types. -/
theorem writes_struct (h : AtInterface env file i) :
    Writes env structNodes (structLines file i) := by
  simp [-String.reduceAppend, Writes, structNodes, structLines, h.iface, h.mock, h.testing,
    interfaceValue, List.lookup_cons, String.append_assoc]

theorem writes_types (h : AtInterface env file i) (hwidth : i.FitsWidth) :
    Writes env typeNodes (typeLines file i) :=
  ((writes_struct h).append (writes_handlers h hwidth)).append (by simp [Writes])

theorem writes_constructor (h : AtInterface env file i) :
    Writes env constructorNodes (constructorLines file i) := by
  simp [-String.reduceAppend, Writes, constructorNodes, constructorLines, mockFront, blankFront,
    h.iface, h.testing, interfaceValue, String.append_assoc, List.lookup_cons]

theorem writes_call (h : AtMethod env i m) : Writes env callNodes (callLines m) := by
  refine .conditional h.eval_hasResults ?_
  cases hr : m.hasResults <;>
    simp [-String.reduceAppend, Writes, callLines, hr, h.method, methodValue, List.lookup_cons,
      String.append_assoc]

theorem writes_return (h : AtMethod env i m) : Writes env returnNodes (returnLines m) := by
  refine .conditional h.eval_hasResults ?_
  cases hr : m.hasResults <;>
    simp [-String.reduceAppend, Writes, returnLines, hr, h.method, methodValue, List.lookup_cons,
      String.append_assoc]

/-- A method is written. -/
theorem writes_method (h : AtMethod env i m) : Writes env methodNodes (methodLines i m) := by
  refine .append (.append (.append (.append ?_ (writes_call h)) ?_) (writes_return h)) ?_
  · simp [-String.reduceAppend, Writes, h.iface, h.method, interfaceValue, methodValue,
      List.lookup_cons, String.append_assoc]
  · simp [-String.reduceAppend, Writes, h.method, methodValue, String.append_assoc]
  · simp [Writes]

theorem writes_adder (h : AtMethod env i m) : Writes env adderNodes (adderLines i m) := by
  simp [-String.reduceAppend, Writes, adderNodes, registerNodes, adderLines, h.iface, h.method,
    interfaceValue, methodValue, List.lookup_cons, String.append_assoc]

theorem writes_setter (h : AtMethod env i m) : Writes env setterNodes (setterLines i m) := by
  simp [-String.reduceAppend, Writes, setterNodes, registerNodes, setterLines, h.iface, h.method,
    interfaceValue, methodValue, List.lookup_cons, String.append_assoc]

theorem writes_hasMore (h : AtInterface env file i) :
    Writes env hasMoreNodes (hasMoreLines i) := by
  simp [-String.reduceAppend, Writes, hasMoreNodes, hasMoreLines,
    h.iface, interfaceValue, String.append_assoc, List.lookup_cons]

/-- The methods of a mock are written, each with its adder and setter. -/
theorem writes_methods (h : AtInterface env file i) :
    Writes env methodsNodes
      (i.methods.flatMap fun m => adderLines i m ++ setterLines i m ++ methodLines i m) :=
  .loop_of_forall h.eval_methods fun m _ state =>
    have hm := h.method m state
    ((writes_adder hm).append (writes_setter hm)).append (writes_method hm)

/-- A mock is written when its widths are within the limit. -/
theorem writes_interface (h : AtInterface env file i) (hwidth : i.FitsWidth) :
    Writes env interfaceNodes (interfaceLines file i) :=
  (((writes_types h hwidth).append (writes_constructor h)).append (writes_methods h)).append
    (writes_hasMore h)

/-- A width above the limit stops the mock. -/
theorem overflows_interface (h : AtInterface env file i) (hwidth : ¬ i.FitsWidth) :
    Template.Overflows env interfaceNodes :=
  (((((writes_struct h).overflows_append (overflows_handlers h hwidth)).append _).append _).append
    _).append _

/-! ### Groups of imports -/

/-- An import as the template sees it. -/
def ImportView.value (i : ImportView) : Template.Value :=
  .map [("path", .text i.path), ("name", .text i.name),
    ("alias", match i.localName with | some name => .text name | none => .none),
    ("spec", .text i.spec)]

/-- A group of imports as the template sees it. -/
def groupValue (group : List ImportView) : Template.Value :=
  .list (group.map ImportView.value)

/-- The lines of a group, below a blank line unless it is the first one. -/
def groupLines (p : List ImportView × Nat) : List String :=
  (if p.2 = 0 then [] else [""]) ++ specLines p.1

theorem flatMap_groupLines_succ (groups : List (List ImportView)) (n : Nat) :
    (groups.zipIdx (n + 1)).flatMap groupLines = groups.flatMap fun g => "" :: specLines g := by
  induction groups generalizing n with
  | nil => rfl
  | cons g groups ih => simp [List.zipIdx_cons, groupLines, ih]

/-- The groups of imports stand apart by blank lines. -/
theorem flatMap_groupLines (groups : List (List ImportView)) :
    groups.zipIdx.flatMap groupLines = [""].intercalate (groups.map specLines) := by
  cases groups with
  | nil => rfl
  | cons g groups =>
    rw [List.zipIdx_cons, List.flatMap_cons, flatMap_groupLines_succ, List.map_cons,
      intercalate_blank, List.flatMap_map]
    rfl

/-- A group of imports is written. -/
theorem writes_group (group : List ImportView) (length n : Nat) :
    Writes (("group", groupValue group) :: ("loop", Node.loopState length n) :: env)
      ([.conditional (.negation (.member (.variable "loop") "first")) (line []) []] ++
        [.loop "import" (.variable "group") (line [.text "\t", part "import" "spec"]) []])
      (groupLines (group, n)) := by
  refine .append (.conditional (v := .bool (!(n == 0))) ?_ ?_) ?_
  · simp [Node.loopState, List.lookup_cons]
  · cases n <;> simp [Writes]
  · have heval : (Expr.variable "group").eval
        (("group", groupValue group) :: ("loop", Node.loopState length n) :: env) =
          .ok (.list (group.map ImportView.value)) := by
      simp [groupValue]
    rw [specLines, List.map_eq_flatMap]
    refine .loop_of_forall heval fun i _ state => ?_
    simp [-String.reduceAppend, Writes, ImportView.value, List.lookup_cons, String.append_assoc]

/-- The imports are written. -/
theorem writes_imports (h : env.lookup "import_groups" = some (.list (groups.map groupValue))) :
    Writes env importNodes (importLines groups) := by
  have heval : (Expr.variable "import_groups").eval env = .ok (.list (groups.map groupValue)) := by
    simp [h]
  have hloop := Writes.loop heval fun g _ n => writes_group g groups.length n
  rw [flatMap_groupLines] at hloop
  refine .append (.append ?_ hloop) ?_ <;> simp [-String.reduceAppend, Writes]

/-! ### The whole file -/

/-- The names a template knows the parts of a mock file by, with other groups of imports. -/
def contextOf (file : MockFile) (groups : List (List ImportView)) : Expr.Bindings :=
  file.context.map fun (name, value) =>
    (name, if name = "import_groups" then .list (groups.map groupValue) else value)

/-- The groups of imports of a mock file, as templates see them. -/
def groupViews (file : MockFile) : List (List ImportView) :=
  file.importGroups.map fun g => g.map Import.view

theorem contextOf_groupViews (file : MockFile) : file.contextOf file.groupViews = file.context := by
  have hvalue : ImportView.value ∘ Import.view = importValue := rfl
  simp [contextOf, context, groupViews, groupValue, Function.comp_def, ← hvalue]

theorem atFile_contextOf (file : MockFile) (groups : List (List ImportView)) :
    AtFile (file.contextOf groups) file := by
  constructor <;> simp [contextOf, context, List.lookup_cons]

theorem atFile_eval_interfaces (file : MockFile) (groups : List (List ImportView)) :
    (Expr.variable "interfaces").eval (file.contextOf groups) =
      .ok (.list (file.interfaces.map interfaceValue)) := by
  simp [(atFile_contextOf file groups).interfaces]

/-- The lines above the mocks. -/
theorem writes_front (file : MockFile) (groups : List (List ImportView)) :
    Writes (file.contextOf groups) (headerNodes ++ importNodes)
      (headerLines file ++ importLines groups) := by
  have himports : (file.contextOf groups).lookup "import_groups" =
      some (.list (groups.map groupValue)) := by
    simp [contextOf, context, List.lookup_cons]
  exact (writes_header (atFile_contextOf file groups)).append (writes_imports himports)

/-- The template writes the lines of a file whose widths are within the limit. -/
theorem writes_template (file : MockFile) (groups : List (List ImportView))
    (hwidth : file.FitsWidth) :
    Template.render (Node.joinedAll templateNodes) (file.contextOf groups) =
      .ok (ofLines (file.lines groups)) := by
  rw [Template.render, Node.renderAll_joined]
  exact (writes_front file groups).append
    (.loop_of_forall (atFile_eval_interfaces file groups) fun i hi state =>
      writes_interface ((atFile_contextOf file groups).interface i state) (hwidth i hi))

/-- The first mock with a column past the limit is where the template stops. -/
theorem overflows_template (file : MockFile) (groups : List (List ImportView))
    (hwidth : ¬ file.FitsWidth) :
    Template.render (Node.joinedAll templateNodes) (file.contextOf groups) = .error .tooWide := by
  have hat := (atFile_contextOf file groups).interface
  obtain ⟨i, hi, hwide⟩ : ∃ i ∈ file.interfaces, ¬ i.FitsWidth := by
    simpa [FitsWidth] using hwidth
  rw [Template.render, Node.renderAll_joined]
  refine (writes_front file groups).overflows_append
    (.loop (atFile_eval_interfaces file groups) (fun j _ state => ?_)
      ⟨i, hi, fun state => overflows_interface (hat i state) hwide⟩)
  by_cases hj : j.FitsWidth
  · exact .inl ⟨_, writes_interface (hat j state) hj⟩
  · exact .inr (overflows_interface (hat j state) hj)

/-- The source of a mock file with its own imports. -/
theorem render_template (file : MockFile) (hwidth : file.FitsWidth) :
    render (Node.joinedAll templateNodes) file = .ok (ofLines (file.lines file.groupViews)) := by
  rw [render, ← contextOf_groupViews]
  exact writes_template file file.groupViews hwidth

/-- A width above the limit makes the template fail. -/
theorem render_template_of_wide (file : MockFile) (hwidth : ¬ file.FitsWidth) :
    render (Node.joinedAll templateNodes) file = .error .tooWide := by
  rw [render, ← contextOf_groupViews]
  exact overflows_template file file.groupViews hwidth

/-- No group of imports is empty. -/
theorem groupViews_ne_nil (file : MockFile) : ∀ g ∈ file.groupViews, g ≠ [] := by
  intro g hg
  obtain ⟨imports, himports, rfl⟩ := List.mem_map.mp hg
  have hne : imports ≠ [] := by simpa [importGroups] using (List.mem_filter.mp himports).2
  simpa using hne

/-- **The template writes the lines of a mock file.** The template that belongs to the tool can be
read. With any groups of imports, none of them empty, it renders without a failure to the lines of
the file, in which blank lines stand alone, if the columns that handler types are filled to are
within the limit, and there is no other failure than such a column; the imports of a mock file are
such groups. The mocks in a file that was built are aligned. -/
theorem render_eq_lines (file : MockFile) (groups : List (List ImportView))
    (hgroups : ∀ g ∈ groups, g ≠ []) :
    (∃ nodes, template = .ok nodes ∧
      (file.FitsWidth →
        Template.render nodes (file.contextOf groups) = .ok (ofLines (file.lines groups)) ∧
        render nodes file = .ok (ofLines (file.lines file.groupViews))) ∧
      (¬ file.FitsWidth →
        Template.render nodes (file.contextOf groups) = .error .tooWide ∧
        render nodes file = .error .tooWide)) ∧
    Tidy (file.lines groups) ∧ Tidy (file.lines file.groupViews) ∧
    ∀ {σ : Type} (symbols : Symbols σ) (package : Package) (interfaces : List Interface)
      (options : MockOptions) (state : σ),
      (mockFile symbols package interfaces options state).1 = .ok file →
        ∀ i ∈ file.interfaces, Aligned i := by
  refine ⟨⟨_, template_eq, fun hwidth => ?_, fun hwidth => ?_⟩, tidy_lines file hgroups,
    tidy_lines file file.groupViews_ne_nil, fun _ _ _ _ _ => aligned_of_mockFile⟩
  · exact ⟨writes_template file groups hwidth, render_template file hwidth⟩
  · exact ⟨overflows_template file groups hwidth, render_template_of_wide file hwidth⟩

/-- An interface with two methods, of which one has a result. -/
def cache : Interface where
  name         := "Cache"
  file         := ⟨"/cache.go"⟩
  line         := 3
  exported     := true
  typeParams   := []
  methods      := [⟨"Get", ⟨[⟨"key", .basic .string⟩], [⟨"", .basic .int⟩], false⟩⟩,
    ⟨"Remove", ⟨[⟨"key", .basic .string⟩], [], false⟩⟩]
  isConstraint := false

/-- The mock file of the interface, with two groups of imports in place of its own. -/
theorem render_eq_lines_cache :
    let groups : List (List ImportView) :=
      [[⟨"testing", "testing", none, "\"testing\""⟩],
        [⟨"a/b", "b", some "c", "c \"a/b\""⟩, ⟨"a/d", "d", none, "\"a/d\""⟩]]
    (∀ g ∈ groups, g ≠ []) ∧
      importLines groups =
        ["", "import (", "\t\"testing\"", "", "\tc \"a/b\"", "\t\"a/d\"", ")"] ∧
      ∃ file nodes, shopFile [cache] = .ok file ∧ file.FitsWidth ∧ template = .ok nodes ∧
        Template.render nodes (file.contextOf groups) = .ok (ofLines (file.lines groups)) ∧
        ∀ i ∈ file.interfaces, Aligned i := by
  intro groups
  have hgroups : ∀ g ∈ groups, g ≠ [] := by decide
  have hfits : (shopFile [cache]).map (fun file => decide file.FitsWidth) = .ok true := by
    decide +kernel
  cases hfile : shopFile [cache] with
  | error e => exact nomatch hfile ▸ hfits
  | ok file =>
    have hwidth : file.FitsWidth := by
      rw [hfile] at hfits
      exact of_decide_eq_true (Except.ok.inj hfits)
    obtain ⟨⟨nodes, hnodes, hrender, -⟩, -, -, haligned⟩ := render_eq_lines file groups hgroups
    exact ⟨hgroups, by decide +kernel, file, nodes, rfl, hwidth, hnodes, (hrender hwidth).1,
      haligned suggestedNames shop [cache] shopOptions () hfile⟩

/-- The mock of an interface with one method, whose handler type is filled to a column. -/
def filledTo (column : Nat) : MockFile where
  tool         := "mockgen"
  version      := "0.1.0"
  command      := "mockgen gen ./..."
  name         := "mockdoer"
  path         := "m/mocks"
  source       := ⟨"m", "m", none⟩
  standard     := [⟨"testing", "testing", none⟩]
  external     := [⟨"goa.design/clue/mock", "mock", none⟩]
  internal     := [⟨"m", "m", none⟩]
  mockIdent    := "mock"
  testingIdent := "testing"
  interfaces   := [{
    name        := "Doer"
    constructor := "NewDoer"
    typeParams  := ""
    typeArgs    := ""
    typeRef     := "Doer"
    sourceRef   := "m.Doer"
    newValue    := "&Doer\x7bmock.New(), t\x7d"
    varPadding  := "       "
    alignment   := column
    methods     := [{
      name         := "Do"
      funcType     := "DoerDoFunc"
      funcTypeDecl := "DoerDoFunc"
      funcTypeRef  := "DoerDoFunc"
      adder        := "AddDo"
      setter       := "SetDo"
      parameters   := ""
      results      := ""
      signature    := "()"
      callArgs     := ""
      zeroResults  := ""
      hasResults   := false }] }]

/-- A column past the limit ends the rendering, where one within it does not. -/
theorem render_wide :
    (∀ g ∈ (filledTo 65536).groupViews, g ≠ []) ∧ ∃ nodes, template = .ok nodes ∧
      render nodes (filledTo 65536) = .error .tooWide ∧
      render nodes (filledTo 65535) =
        .ok (ofLines ((filledTo 65535).lines (filledTo 65535).groupViews)) := by
  have hwide : ¬ (filledTo 65536).FitsWidth := by decide
  have hfits : (filledTo 65535).FitsWidth := by decide
  exact ⟨groupViews_ne_nil _, _, template_eq, render_template_of_wide _ hwide,
    render_template _ hfits⟩

end MockFile

end GoMocks
