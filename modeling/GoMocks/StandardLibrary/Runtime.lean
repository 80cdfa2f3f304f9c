/-!
# The standard library — the running program

The declarations of `context`, `time`, `sync`, `reflect`, `log/slog` and `testing`, as far as
other packages name them: every interface with its methods, and of all other types what their zero
value depends on.
-/

namespace GoMocks.StandardLibrary

/-- The lines of package `context`. -/
def contextLines : List String :=
  [
    "package context",
    "",
    "import \"time\"",
    "",
    "type Context interface \x7b",
    "\tDeadline() (deadline time.Time, ok bool)",
    "\tDone() <-chan struct\x7b\x7d",
    "\tErr() error",
    "\tValue(key any) any",
    "\x7d",
    "",
    "type CancelFunc func()",
    "",
    "type CancelCauseFunc func(cause error)"
  ]

/-- The lines of package `time`. -/
def timeLines : List String :=
  [
    "package time",
    "",
    "type Time struct \x7b",
    "\twall uint64",
    "\text  int64",
    "\tloc  *Location",
    "\x7d",
    "",
    "type Duration int64",
    "",
    "type Month int",
    "",
    "type Weekday int",
    "",
    "type Location struct \x7b",
    "\tname string",
    "\x7d",
    "",
    "type Timer struct \x7b",
    "\tC <-chan Time",
    "\x7d",
    "",
    "type Ticker struct \x7b",
    "\tC <-chan Time",
    "\x7d"
  ]

/-- The lines of package `sync`. -/
def syncLines : List String :=
  [
    "package sync",
    "",
    "type Locker interface \x7b",
    "\tLock()",
    "\tUnlock()",
    "\x7d",
    "",
    "type Mutex struct \x7b",
    "\tstate int32",
    "\tsema  uint32",
    "\x7d",
    "",
    "type RWMutex struct \x7b",
    "\tw           Mutex",
    "\treaderCount int32",
    "\x7d",
    "",
    "type WaitGroup struct \x7b",
    "\tstate uint64",
    "\tsema  uint32",
    "\x7d",
    "",
    "type Once struct \x7b",
    "\tdone uint32",
    "\tm    Mutex",
    "\x7d",
    "",
    "type Map struct \x7b",
    "\tmu Mutex",
    "\x7d",
    "",
    "type Pool struct \x7b",
    "\tNew func() any",
    "\x7d",
    "",
    "type Cond struct \x7b",
    "\tL Locker",
    "\x7d"
  ]

/-- The lines of package `reflect`. -/
def reflectLines : List String :=
  [
    "package reflect",
    "",
    "type Kind uint",
    "",
    "type Type interface \x7b",
    "\tName() string",
    "\tPkgPath() string",
    "\tString() string",
    "\tKind() Kind",
    "\tElem() Type",
    "\tNumField() int",
    "\tNumMethod() int",
    "\tImplements(u Type) bool",
    "\x7d",
    "",
    "type Value struct \x7b",
    "\ttyp  *rtype",
    "\tptr  uintptr",
    "\tflag uintptr",
    "\x7d",
    "",
    "type rtype struct \x7b",
    "\tsize uintptr",
    "\x7d",
    "",
    "type StructField struct \x7b",
    "\tName    string",
    "\tPkgPath string",
    "\tType    Type",
    "\tTag     StructTag",
    "\tOffset  uintptr",
    "\tIndex   []int",
    "\x7d",
    "",
    "type StructTag string",
    "",
    "type Method struct \x7b",
    "\tName    string",
    "\tPkgPath string",
    "\tType    Type",
    "\tFunc    Value",
    "\tIndex   int",
    "\x7d"
  ]

/-- The lines of package `log/slog`. -/
def logSlogLines : List String :=
  [
    "package slog",
    "",
    "import (",
    "\t\"context\"",
    "\t\"time\"",
    ")",
    "",
    "type Level int",
    "",
    "type Leveler interface \x7b",
    "\tLevel() Level",
    "\x7d",
    "",
    "type Value struct \x7b",
    "\tnum uint64",
    "\tany any",
    "\x7d",
    "",
    "type Attr struct \x7b",
    "\tKey   string",
    "\tValue Value",
    "\x7d",
    "",
    "type Record struct \x7b",
    "\tTime    time.Time",
    "\tMessage string",
    "\tLevel   Level",
    "\x7d",
    "",
    "type Handler interface \x7b",
    "\tEnabled(context.Context, Level) bool",
    "\tHandle(context.Context, Record) error",
    "\tWithAttrs(attrs []Attr) Handler",
    "\tWithGroup(name string) Handler",
    "\x7d",
    "",
    "type LogValuer interface \x7b",
    "\tLogValue() Value",
    "\x7d",
    "",
    "type Logger struct \x7b",
    "\thandler Handler",
    "\x7d",
    "",
    "type HandlerOptions struct \x7b",
    "\tAddSource bool",
    "\tLevel     Leveler",
    "\x7d"
  ]

/-- The lines of package `testing`. -/
def testingLines : List String :=
  [
    "package testing",
    "",
    "type TB interface \x7b",
    "\tCleanup(func())",
    "\tError(args ...any)",
    "\tErrorf(format string, args ...any)",
    "\tFail()",
    "\tFailNow()",
    "\tFailed() bool",
    "\tFatal(args ...any)",
    "\tFatalf(format string, args ...any)",
    "\tHelper()",
    "\tLog(args ...any)",
    "\tLogf(format string, args ...any)",
    "\tName() string",
    "\tSetenv(key, value string)",
    "\tSkip(args ...any)",
    "\tSkipNow()",
    "\tSkipf(format string, args ...any)",
    "\tSkipped() bool",
    "\tTempDir() string",
    "\tprivate()",
    "\x7d",
    "",
    "type T struct \x7b",
    "\tcommon",
    "\x7d",
    "",
    "type B struct \x7b",
    "\tcommon",
    "\tN int",
    "\x7d",
    "",
    "type F struct \x7b",
    "\tcommon",
    "\x7d",
    "",
    "type M struct \x7b",
    "\tnumFailed uint32",
    "\x7d",
    "",
    "type common struct \x7b",
    "\tname string",
    "\x7d"
  ]

end GoMocks.StandardLibrary
