/-!
# The tool

The name and the version that the tool puts into the files it writes.
-/

namespace GoMocks.Tool

/-- The name of the tool. -/
def name : String := "mockgen"

/-- The version of the tool. -/
def version : String := "0.1.0"

/-- The level of the messages that are logged. -/
def logLevel (debug : Bool) : String :=
  if debug then "debug" else "warn"

end GoMocks.Tool
