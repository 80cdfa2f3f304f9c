/-!
# The standard library — texts, numbers and databases

The declarations of `encoding/json`, `database/sql`, `strings`, `regexp`, `math/big`,
`text/template` and `html/template`, as far as other packages name them: every interface with its
methods, and of all other types what their zero value depends on.
-/

namespace GoMocks.StandardLibrary

/-- The lines of package `encoding/json`. -/
def encodingJsonLines : List String :=
  [
    "package json",
    "",
    "import \"io\"",
    "",
    "type Marshaler interface \x7b",
    "\tMarshalJSON() ([]byte, error)",
    "\x7d",
    "",
    "type Unmarshaler interface \x7b",
    "\tUnmarshalJSON([]byte) error",
    "\x7d",
    "",
    "type RawMessage []byte",
    "",
    "type Number string",
    "",
    "type Decoder struct \x7b",
    "\tr io.Reader",
    "\x7d",
    "",
    "type Encoder struct \x7b",
    "\tw io.Writer",
    "\x7d",
    "",
    "type Token any"
  ]

/-- The lines of package `database/sql`. -/
def databaseSqlLines : List String :=
  [
    "package sql",
    "",
    "import \"time\"",
    "",
    "type DB struct \x7b",
    "\tmaxOpen int",
    "\x7d",
    "",
    "type Tx struct \x7b",
    "\tdone int32",
    "\x7d",
    "",
    "type Conn struct \x7b",
    "\tdone int32",
    "\x7d",
    "",
    "type Stmt struct \x7b",
    "\tquery string",
    "\x7d",
    "",
    "type Rows struct \x7b",
    "\tclosed bool",
    "\x7d",
    "",
    "type Row struct \x7b",
    "\terr  error",
    "\trows *Rows",
    "\x7d",
    "",
    "type Result interface \x7b",
    "\tLastInsertId() (int64, error)",
    "\tRowsAffected() (int64, error)",
    "\x7d",
    "",
    "type Scanner interface \x7b",
    "\tScan(src any) error",
    "\x7d",
    "",
    "type IsolationLevel int",
    "",
    "type TxOptions struct \x7b",
    "\tIsolation IsolationLevel",
    "\tReadOnly  bool",
    "\x7d",
    "",
    "type NullString struct \x7b",
    "\tString string",
    "\tValid  bool",
    "\x7d",
    "",
    "type NullInt64 struct \x7b",
    "\tInt64 int64",
    "\tValid bool",
    "\x7d",
    "",
    "type NullBool struct \x7b",
    "\tBool  bool",
    "\tValid bool",
    "\x7d",
    "",
    "type NullTime struct \x7b",
    "\tTime  time.Time",
    "\tValid bool",
    "\x7d"
  ]

/-- The lines of package `strings`. -/
def stringsLines : List String :=
  [
    "package strings",
    "",
    "type Builder struct \x7b",
    "\taddr *Builder",
    "\tbuf  []byte",
    "\x7d",
    "",
    "type Reader struct \x7b",
    "\ts string",
    "\ti int64",
    "\x7d",
    "",
    "type Replacer struct \x7b",
    "\toldnew []string",
    "\x7d"
  ]

/-- The lines of package `regexp`. -/
def regexpLines : List String :=
  [
    "package regexp",
    "",
    "type Regexp struct \x7b",
    "\texpr string",
    "\x7d"
  ]

/-- The lines of package `math/big`. -/
def mathBigLines : List String :=
  [
    "package big",
    "",
    "type Word uint",
    "",
    "type Int struct \x7b",
    "\tneg bool",
    "\tabs []Word",
    "\x7d",
    "",
    "type Float struct \x7b",
    "\tprec uint32",
    "\tneg  bool",
    "\x7d",
    "",
    "type Rat struct \x7b",
    "\ta, b Int",
    "\x7d"
  ]

/-- The lines of package `text/template`. -/
def textTemplateLines : List String :=
  [
    "package template",
    "",
    "type Template struct \x7b",
    "\tname string",
    "\x7d",
    "",
    "type FuncMap map[string]any"
  ]

/-- The lines of package `html/template`. -/
def htmlTemplateLines : List String :=
  [
    "package template",
    "",
    "type Template struct \x7b",
    "\tescapeErr error",
    "\x7d",
    "",
    "type FuncMap map[string]any",
    "",
    "type HTML string",
    "",
    "type HTMLAttr string",
    "",
    "type JS string",
    "",
    "type CSS string",
    "",
    "type URL string"
  ]

end GoMocks.StandardLibrary
