/-!
# Fixed limits

The sizes that bound every run. They belong to the development profile, and no setting of the
environment changes them.
-/

namespace LexisFront.Limits

/-- The largest source file, in bytes. -/
def maxFileSize : Nat := 10485760

/-- A file with more bytes than this counts as large. -/
def largeFileThreshold : Nat := 1048576

/-- The most tokens in one sequence, the terminator included. -/
def maxTokenCount : Nat := 1000000

/-- The longest fragment, in characters. -/
def maxFragmentLength : Nat := 4096

/-- The most operands in one chain. -/
def maxChainLength : Nat := 1000

/-- The most statements in one program. -/
def maxStatements : Nat := 100000

/-- The spaces per depth of a dump when the environment sets none. -/
def defaultIndentWidth : Nat := 2

/-- The most spaces per depth of a dump. -/
def maxIndentWidth : Nat := 16

/-- The number of events that a log buffer keeps by default. -/
def logBufferSize : Nat := 1000

/-- The longest log message, in characters. -/
def maxLogMessageLength : Nat := 4096

/-- The name of the profile that these limits belong to. -/
def profile : String := "development"

/-- The directory that holds the profiles. -/
def configDir : String := "config"

/-- Where the limits come from. -/
def sourceInfo : String :=
  s!"Generated from {configDir}/{profile}.toml"

/-- The version of the front end. -/
def version : String := "0.1.0"

end LexisFront.Limits
