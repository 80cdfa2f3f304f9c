/-!
# The standard library — files and streams

The declarations of `io`, `io/fs`, `os`, `fmt`, `bufio` and `bytes`, as far as other packages name
them: every interface with its methods, and of all other types what their zero value depends on.
-/

namespace GoMocks.StandardLibrary

/-- The lines of package `io`. -/
def ioLines : List String :=
  [
    "package io",
    "",
    "type Reader interface \x7b",
    "\tRead(p []byte) (n int, err error)",
    "\x7d",
    "",
    "type Writer interface \x7b",
    "\tWrite(p []byte) (n int, err error)",
    "\x7d",
    "",
    "type Closer interface \x7b",
    "\tClose() error",
    "\x7d",
    "",
    "type Seeker interface \x7b",
    "\tSeek(offset int64, whence int) (int64, error)",
    "\x7d",
    "",
    "type ReadWriter interface \x7b",
    "\tReader",
    "\tWriter",
    "\x7d",
    "",
    "type ReadCloser interface \x7b",
    "\tReader",
    "\tCloser",
    "\x7d",
    "",
    "type WriteCloser interface \x7b",
    "\tWriter",
    "\tCloser",
    "\x7d",
    "",
    "type ReadWriteCloser interface \x7b",
    "\tReader",
    "\tWriter",
    "\tCloser",
    "\x7d",
    "",
    "type ReadSeeker interface \x7b",
    "\tReader",
    "\tSeeker",
    "\x7d",
    "",
    "type ReadSeekCloser interface \x7b",
    "\tReader",
    "\tSeeker",
    "\tCloser",
    "\x7d",
    "",
    "type WriteSeeker interface \x7b",
    "\tWriter",
    "\tSeeker",
    "\x7d",
    "",
    "type ReadWriteSeeker interface \x7b",
    "\tReader",
    "\tWriter",
    "\tSeeker",
    "\x7d",
    "",
    "type ReaderAt interface \x7b",
    "\tReadAt(p []byte, off int64) (n int, err error)",
    "\x7d",
    "",
    "type WriterAt interface \x7b",
    "\tWriteAt(p []byte, off int64) (n int, err error)",
    "\x7d",
    "",
    "type ReaderFrom interface \x7b",
    "\tReadFrom(r Reader) (n int64, err error)",
    "\x7d",
    "",
    "type WriterTo interface \x7b",
    "\tWriteTo(w Writer) (n int64, err error)",
    "\x7d",
    "",
    "type ByteReader interface \x7b",
    "\tReadByte() (byte, error)",
    "\x7d",
    "",
    "type ByteScanner interface \x7b",
    "\tByteReader",
    "\tUnreadByte() error",
    "\x7d",
    "",
    "type ByteWriter interface \x7b",
    "\tWriteByte(c byte) error",
    "\x7d",
    "",
    "type RuneReader interface \x7b",
    "\tReadRune() (r rune, size int, err error)",
    "\x7d",
    "",
    "type RuneScanner interface \x7b",
    "\tRuneReader",
    "\tUnreadRune() error",
    "\x7d",
    "",
    "type StringWriter interface \x7b",
    "\tWriteString(s string) (n int, err error)",
    "\x7d",
    "",
    "type PipeReader struct \x7b",
    "\tpipe *pipe",
    "\x7d",
    "",
    "type PipeWriter struct \x7b",
    "\tpipe *pipe",
    "\x7d",
    "",
    "type pipe struct \x7b",
    "\tdone chan struct\x7b\x7d",
    "\x7d",
    "",
    "type SectionReader struct \x7b",
    "\tr     ReaderAt",
    "\tbase  int64",
    "\toff   int64",
    "\tlimit int64",
    "\x7d"
  ]

/-- The lines of package `io/fs`. -/
def ioFsLines : List String :=
  [
    "package fs",
    "",
    "import \"time\"",
    "",
    "type FileMode uint32",
    "",
    "type FileInfo interface \x7b",
    "\tName() string",
    "\tSize() int64",
    "\tMode() FileMode",
    "\tModTime() time.Time",
    "\tIsDir() bool",
    "\tSys() any",
    "\x7d",
    "",
    "type DirEntry interface \x7b",
    "\tName() string",
    "\tIsDir() bool",
    "\tType() FileMode",
    "\tInfo() (FileInfo, error)",
    "\x7d",
    "",
    "type File interface \x7b",
    "\tStat() (FileInfo, error)",
    "\tRead([]byte) (int, error)",
    "\tClose() error",
    "\x7d",
    "",
    "type ReadDirFile interface \x7b",
    "\tFile",
    "\tReadDir(n int) ([]DirEntry, error)",
    "\x7d",
    "",
    "type FS interface \x7b",
    "\tOpen(name string) (File, error)",
    "\x7d",
    "",
    "type ReadFileFS interface \x7b",
    "\tFS",
    "\tReadFile(name string) ([]byte, error)",
    "\x7d",
    "",
    "type ReadDirFS interface \x7b",
    "\tFS",
    "\tReadDir(name string) ([]DirEntry, error)",
    "\x7d",
    "",
    "type StatFS interface \x7b",
    "\tFS",
    "\tStat(name string) (FileInfo, error)",
    "\x7d",
    "",
    "type SubFS interface \x7b",
    "\tFS",
    "\tSub(dir string) (FS, error)",
    "\x7d",
    "",
    "type PathError struct \x7b",
    "\tOp   string",
    "\tPath string",
    "\tErr  error",
    "\x7d"
  ]

/-- The lines of package `os`. -/
def osLines : List String :=
  [
    "package os",
    "",
    "import \"io/fs\"",
    "",
    "type File struct \x7b",
    "\tfile *file",
    "\x7d",
    "",
    "type file struct \x7b",
    "\tname string",
    "\x7d",
    "",
    "type FileMode = fs.FileMode",
    "",
    "type FileInfo = fs.FileInfo",
    "",
    "type DirEntry = fs.DirEntry",
    "",
    "type PathError = fs.PathError",
    "",
    "type Signal interface \x7b",
    "\tString() string",
    "\tSignal()",
    "\x7d",
    "",
    "type Process struct \x7b",
    "\tPid int",
    "\x7d",
    "",
    "type ProcessState struct \x7b",
    "\tpid int",
    "\x7d",
    "",
    "type ProcAttr struct \x7b",
    "\tDir   string",
    "\tEnv   []string",
    "\tFiles []*File",
    "\x7d"
  ]

/-- The lines of package `fmt`. -/
def fmtLines : List String :=
  [
    "package fmt",
    "",
    "type Stringer interface \x7b",
    "\tString() string",
    "\x7d",
    "",
    "type GoStringer interface \x7b",
    "\tGoString() string",
    "\x7d",
    "",
    "type State interface \x7b",
    "\tWrite(b []byte) (n int, err error)",
    "\tWidth() (wid int, ok bool)",
    "\tPrecision() (prec int, ok bool)",
    "\tFlag(c int) bool",
    "\x7d",
    "",
    "type Formatter interface \x7b",
    "\tFormat(f State, verb rune)",
    "\x7d",
    "",
    "type ScanState interface \x7b",
    "\tReadRune() (r rune, size int, err error)",
    "\tUnreadRune() error",
    "\tSkipSpace()",
    "\tToken(skipSpace bool, f func(rune) bool) (token []byte, err error)",
    "\tWidth() (wid int, ok bool)",
    "\tRead(buf []byte) (n int, err error)",
    "\x7d",
    "",
    "type Scanner interface \x7b",
    "\tScan(state ScanState, verb rune) error",
    "\x7d"
  ]

/-- The lines of package `bufio`. -/
def bufioLines : List String :=
  [
    "package bufio",
    "",
    "import \"io\"",
    "",
    "type Reader struct \x7b",
    "\tbuf []byte",
    "\trd  io.Reader",
    "\x7d",
    "",
    "type Writer struct \x7b",
    "\tbuf []byte",
    "\twr  io.Writer",
    "\x7d",
    "",
    "type ReadWriter struct \x7b",
    "\t*Reader",
    "\t*Writer",
    "\x7d",
    "",
    "type Scanner struct \x7b",
    "\tr     io.Reader",
    "\tsplit SplitFunc",
    "\x7d",
    "",
    "type SplitFunc func(data []byte, atEOF bool) (advance int, token []byte, err error)"
  ]

/-- The lines of package `bytes`. -/
def bytesLines : List String :=
  [
    "package bytes",
    "",
    "type Buffer struct \x7b",
    "\tbuf []byte",
    "\toff int",
    "\x7d",
    "",
    "type Reader struct \x7b",
    "\ts []byte",
    "\ti int64",
    "\x7d"
  ]

end GoMocks.StandardLibrary
