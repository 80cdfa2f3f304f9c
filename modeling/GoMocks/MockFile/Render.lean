import GoMocks.MockFile
import GoMocks.Template.Node

/-!
# Mock files — their source

A mock file is written by a template. There is one that belongs to the tool; a configuration may
name another. Templates see the mock file under the names of `MockFile.context`.
-/

namespace GoMocks.MockFile

/-- The lines of the template of mock files, when no other is configured. -/
def templateLines : List String :=
  [
    "// Code generated by \x7b\x7b tool \x7d\x7d \x7b\x7b version \x7d\x7d, DO NOT EDIT.",
    "//",
    "// Command:",
    "// $ \x7b\x7b command \x7d\x7d",
    "",
    "package \x7b\x7b name \x7d\x7d",
    "",
    "import (",
    "\x7b% for group in import_groups %\x7d",
    "\x7b% if not loop.first %\x7d",
    "",
    "\x7b% endif %\x7d",
    "\x7b% for import in group %\x7d",
    "\t\x7b\x7b import.spec \x7d\x7d",
    "\x7b% endfor %\x7d",
    "\x7b% endfor %\x7d",
    ")",
    "\x7b% for iface in interfaces %\x7d",
    "",
    "type (",
    "\t// \x7b\x7b iface.name \x7d\x7d is a mock of the \x7b\x7b iface.source_ref \x7d\x7d interface.",
    "\t\x7b\x7b iface.name \x7d\x7d\x7b\x7b iface.type_params \x7d\x7d struct \x7b",
    "\t\tm *\x7b\x7b mock_ident \x7d\x7d.Mock",
    "\t\tt *\x7b\x7b testing_ident \x7d\x7d.T",
    "\t\x7d",
    "\x7b% if iface.methods %\x7d",
    "",
    "\x7b% for method in iface.methods %\x7d",
    "\t\x7b\x7b method.func_type_decl | pad(iface.alignment) \x7d\x7d func\x7b\x7b method.signature \x7d\x7d",
    "\x7b% endfor %\x7d",
    "\x7b% endif %\x7d",
    ")",
    "",
    "// \x7b\x7b iface.constructor \x7d\x7d returns a new mock of the \x7b\x7b iface.source_ref \x7d\x7d interface.",
    "func \x7b\x7b iface.constructor \x7d\x7d\x7b\x7b iface.type_params \x7d\x7d(t *\x7b\x7b testing_ident \x7d\x7d.T) *\x7b\x7b iface.type_ref \x7d\x7d \x7b",
    "\tvar (",
    "\t\tm\x7b\x7b iface.var_padding \x7d\x7d = \x7b\x7b iface.new_value \x7d\x7d",
    "\t\t_ \x7b\x7b iface.source_ref \x7d\x7d = m",
    "\t)",
    "\treturn m",
    "\x7d",
    "\x7b% for method in iface.methods %\x7d",
    "",
    "// \x7b\x7b method.adder \x7d\x7d adds f to the mocked call sequence.",
    "func (m *\x7b\x7b iface.type_ref \x7d\x7d) \x7b\x7b method.adder \x7d\x7d(f \x7b\x7b method.func_type_ref \x7d\x7d) \x7b",
    "\tm.m.Add(\"\x7b\x7b method.name \x7d\x7d\", f)",
    "\x7d",
    "",
    "// \x7b\x7b method.setter \x7d\x7d sets f for all calls to the mocked method.",
    "func (m *\x7b\x7b iface.type_ref \x7d\x7d) \x7b\x7b method.setter \x7d\x7d(f \x7b\x7b method.func_type_ref \x7d\x7d) \x7b",
    "\tm.m.Set(\"\x7b\x7b method.name \x7d\x7d\", f)",
    "\x7d",
    "",
    "// \x7b\x7b method.name \x7d\x7d implements the \x7b\x7b iface.source_ref \x7d\x7d interface.",
    "func (m *\x7b\x7b iface.type_ref \x7d\x7d) \x7b\x7b method.name \x7d\x7d\x7b\x7b method.signature \x7d\x7d \x7b",
    "\tif f := m.m.Next(\"\x7b\x7b method.name \x7d\x7d\"); f != nil \x7b",
    "\x7b% if method.has_results %\x7d",
    "\t\treturn f.(\x7b\x7b method.func_type_ref \x7d\x7d)(\x7b\x7b method.call_args \x7d\x7d)",
    "\x7b% else %\x7d",
    "\t\tf.(\x7b\x7b method.func_type_ref \x7d\x7d)(\x7b\x7b method.call_args \x7d\x7d)",
    "\t\treturn",
    "\x7b% endif %\x7d",
    "\t\x7d",
    "\tm.t.Helper()",
    "\tm.t.Error(\"unexpected \x7b\x7b method.name \x7d\x7d call\")",
    "\x7b% if method.has_results %\x7d",
    "\treturn \x7b\x7b method.zero_results \x7d\x7d",
    "\x7b% endif %\x7d",
    "\x7d",
    "\x7b% endfor %\x7d",
    "",
    "// HasMore returns true if the mock has more expected calls.",
    "func (m *\x7b\x7b iface.type_ref \x7d\x7d) HasMore() bool \x7b",
    "\treturn m.m.HasMore()",
    "\x7d",
    "\x7b% endfor %\x7d"
  ]

/-- The template of mock files, when no other is configured. -/
def templateSource : String :=
  String.join (templateLines.map (· ++ "\n"))

/-- An import as a template sees it. -/
def importValue (i : Import) : Template.Value :=
  .map [("path", .text i.path), ("name", .text i.name),
    ("alias", match i.localName with | some name => .text name | none => .none),
    ("spec", .text i.spec)]

/-- A method as a template sees it. -/
def methodValue (m : MockMethod) : Template.Value :=
  .map [("name", .text m.name), ("func_type", .text m.funcType),
    ("func_type_decl", .text m.funcTypeDecl), ("func_type_ref", .text m.funcTypeRef),
    ("adder", .text m.adder), ("setter", .text m.setter), ("parameters", .text m.parameters),
    ("results", .text m.results), ("signature", .text m.signature),
    ("call_args", .text m.callArgs), ("zero_results", .text m.zeroResults),
    ("has_results", .bool m.hasResults)]

/-- The mock of an interface as a template sees it. -/
def interfaceValue (i : MockInterface) : Template.Value :=
  .map [("name", .text i.name), ("constructor", .text i.constructor),
    ("type_params", .text i.typeParams), ("type_args", .text i.typeArgs),
    ("type_ref", .text i.typeRef), ("source_ref", .text i.sourceRef),
    ("new_value", .text i.newValue), ("var_padding", .text i.varPadding),
    ("alignment", .int i.alignment), ("methods", .list (i.methods.map methodValue))]

/-- The names a template knows the parts of a mock file by. -/
def context (file : MockFile) : Template.Expr.Bindings :=
  let imports (is : List Import) : Template.Value := .list (is.map importValue)
  [("tool", .text file.tool), ("version", .text file.version), ("command", .text file.command),
    ("name", .text file.name), ("path", .text file.path), ("source", importValue file.source),
    ("std_imports", imports file.standard), ("ext_imports", imports file.external),
    ("int_imports", imports file.internal),
    ("import_groups", .list (file.importGroups.map imports)),
    ("mock_ident", .text file.mockIdent), ("testing_ident", .text file.testingIdent),
    ("interfaces", .list (file.interfaces.map interfaceValue))]

/-- The tree of the template that belongs to the tool. -/
def template : Except TemplateFault (List Template.Node) :=
  Template.parse templateSource

/-- The source of a mock file, as a template writes it. -/
def render (template : List Template.Node) (file : MockFile) : Except TemplateFault String :=
  Template.render template file.context

end GoMocks.MockFile
