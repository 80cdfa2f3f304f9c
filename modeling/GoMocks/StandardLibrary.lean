import GoMocks.StandardLibrary.Data
import GoMocks.StandardLibrary.Files
import GoMocks.StandardLibrary.Network
import GoMocks.StandardLibrary.Runtime

/-!
# The standard library

The sources of often used packages of the standard library, cut down to their declarations. With
them a mock can be made where no Go distribution is at hand.
-/

namespace GoMocks.StandardLibrary

/-- The packages that are built in, with the lines of their sources. -/
def packages : List (String × List String) :=
  [
    ("context", contextLines),
    ("time", timeLines),
    ("io", ioLines),
    ("io/fs", ioFsLines),
    ("os", osLines),
    ("fmt", fmtLines),
    ("net", netLines),
    ("net/http", netHttpLines),
    ("net/url", netUrlLines),
    ("encoding/json", encodingJsonLines),
    ("sync", syncLines),
    ("bytes", bytesLines),
    ("strings", stringsLines),
    ("bufio", bufioLines),
    ("database/sql", databaseSqlLines),
    ("log/slog", logSlogLines),
    ("reflect", reflectLines),
    ("regexp", regexpLines),
    ("math/big", mathBigLines),
    ("text/template", textTemplateLines),
    ("html/template", htmlTemplateLines),
    ("crypto/tls", cryptoTlsLines),
    ("testing", testingLines)
  ]

/-- The source of a package that is built in. -/
def source? (path : String) : Option String :=
  (packages.lookup path).map fun lines => String.join (lines.map (· ++ "\n"))

/-- The directory that the sources are said to lie in. -/
def directory : String := "<builtin>"

end GoMocks.StandardLibrary
