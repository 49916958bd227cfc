import LexisFront.Diagnostic.Event
import LexisFront.Limits
import LexisFront.Text.Blank
import LexisFront.Text.Lowercase

/-!
# Settings from the environment

Ten variables of the environment change how a run behaves. A variable that is absent, or whose
text cannot be read, leaves its setting at the default; no text is an error.
-/

namespace LexisFront

/-- Variables with their texts. -/
abbrev Environment := List (String × String)

namespace Environment

/-- The text of a variable. -/
def get? (environment : Environment) (name : String) : Option String :=
  (environment.find? (·.1 == name)).map (·.2)

/-- Refuse files without the extension of source files. -/
def requireExtension : String := "LEXIS_REQUIRE_LX_EXTENSION"

/-- Report sizes and counts of files that were read. -/
def performanceLogging : String := "LEXIS_ENABLE_PERFORMANCE_LOGGING"

/-- Refuse operators with characters after the glyph. -/
def strictOperators : String := "LEXIS_LEXICAL_STRICT_OPERATORS"

/-- Count the tokens of each kind. -/
def detailedMetrics : String := "LEXIS_LEXICAL_DETAILED_METRICS"

/-- Warn about dropped characters. -/
def warnOnTruncation : String := "LEXIS_LEXICAL_WARN_ON_TRUNCATION"

/-- Let line ends delimit fragments. -/
def splitOnNewlines : String := "LEXIS_LEXICAL_SPLIT_ON_NEWLINES"

/-- Spaces per depth of a dump. -/
def indentWidth : String := "LEXIS_PRINTER_INDENT_WIDTH"

/-- Write log events as structured values. -/
def structuredLogging : String := "LEXIS_LOGGING_USE_STRUCTURED"

/-- Write log events as they happen. -/
def consoleLogging : String := "LEXIS_LOGGING_ENABLE_CONSOLE"

/-- The least urgent level that is logged. -/
def logLevel : String := "LEXIS_LOGGING_MIN_LEVEL"

/-- Every variable that is read. -/
def names : List String := [
  requireExtension, performanceLogging, strictOperators, detailedMetrics, warnOnTruncation,
  splitOnNewlines, indentWidth, structuredLogging, consoleLogging, logLevel]

end Environment

namespace Settings

/-- Reads a truth value, which has exactly two spellings. -/
def readBool? (text : String) : Option Bool :=
  if text = "true" then some true else if text = "false" then some false else none

/-- The number that digits spell. -/
def digitsValue (digits : List Char) : Nat :=
  digits.foldl (fun value digit => 10 * value + (digit.toNat - '0'.toNat)) 0

/-- Reads a natural number of at most 64 bits: digits, after an optional plus sign. -/
def readNat? (text : List Char) : Option Nat :=
  let digits := match text with
    | '+' :: rest => rest
    | _ => text
  if digits.isEmpty || !digits.all Char.isDigit then
    none
  else if digitsValue digits ≤ UInt64.size - 1 then
    some (digitsValue digits)
  else
    none

/-- Reads a width of at most the limit, between white space. -/
def readIndentWidth? (text : String) : Option Nat :=
  (readNat? (Text.trim text.toList)).filter (· ≤ Limits.maxIndentWidth)

/-- Reads a level by name or number, in any case. -/
def readLevel? (text : String) : Option Level :=
  let word := Text.lowercase text
  if word = "error" ∨ word = "0" then some .error
  else if word = "warning" ∨ word = "warn" ∨ word = "1" then some .warning
  else if word = "info" ∨ word = "2" then some .info
  else if word = "debug" ∨ word = "3" then some .debug
  else none

/-- The truth value of a variable, or its default. -/
def boolOf (environment : Environment) (name : String) (default : Bool) : Bool :=
  ((environment.get? name).bind readBool?).getD default

end Settings

/-- How files are admitted. -/
structure FileSettings where
  /-- Whether a file needs the extension of source files. -/
  requireExtension : Bool
  /-- Whether reading a file reports its sizes and counts. -/
  reportPerformance : Bool
deriving DecidableEq, Repr

namespace FileSettings

/-- The settings of an environment. -/
def ofEnvironment (environment : Environment) : FileSettings where
  requireExtension := Settings.boolOf environment Environment.requireExtension false
  reportPerformance := Settings.boolOf environment Environment.performanceLogging true

/-- The settings as a structured value. -/
def toJson (settings : FileSettings) : Json :=
  .object [("require_lx_extension", .bool settings.requireExtension),
    ("enable_performance_logging", .bool settings.reportPerformance)]

end FileSettings

/-- How a source is cut and judged. -/
structure LexicalSettings where
  /-- Whether characters after the glyph of an operator are an error. -/
  strictOperators : Bool
  /-- Whether the tokens of each kind are counted. -/
  detailedMetrics : Bool
  /-- Whether dropped characters are warned about. -/
  warnOnTruncation : Bool
  /-- Whether line ends delimit fragments, as the space does. -/
  splitOnNewlines : Bool
deriving DecidableEq, Repr

namespace LexicalSettings

/-- The settings of an environment. -/
def ofEnvironment (environment : Environment) : LexicalSettings where
  strictOperators := Settings.boolOf environment Environment.strictOperators false
  detailedMetrics := Settings.boolOf environment Environment.detailedMetrics true
  warnOnTruncation := Settings.boolOf environment Environment.warnOnTruncation true
  splitOnNewlines := Settings.boolOf environment Environment.splitOnNewlines false

/-- The settings for a file, whose line ends always delimit fragments. -/
def forFile (environment : Environment) : LexicalSettings :=
  { ofEnvironment environment with splitOnNewlines := true }

/-- The settings as a structured value. -/
def toJson (settings : LexicalSettings) : Json :=
  .object [("strict_operator_fragments", .bool settings.strictOperators),
    ("collect_detailed_metrics", .bool settings.detailedMetrics),
    ("warn_on_truncation", .bool settings.warnOnTruncation),
    ("split_on_newlines", .bool settings.splitOnNewlines)]

/-- Whether a character delimits fragments. -/
def isDelimiter (settings : LexicalSettings) (c : Char) : Bool :=
  c == ' ' || (settings.splitOnNewlines && (c == '\n' || c == '\r'))

end LexicalSettings

/-- How events are logged. -/
structure LoggingSettings where
  /-- Whether logged events are written as structured values. -/
  structured : Bool
  /-- Whether events are written as they happen, instead of kept. -/
  console : Bool
  /-- The least urgent level that is logged. -/
  threshold : Level
deriving DecidableEq, Repr

namespace LoggingSettings

/-- The settings of an environment. -/
def ofEnvironment (environment : Environment) : LoggingSettings where
  structured := Settings.boolOf environment Environment.structuredLogging false
  console := Settings.boolOf environment Environment.consoleLogging false
  threshold :=
    ((environment.get? Environment.logLevel).bind Settings.readLevel?).getD .info

/-- The settings as a structured value. -/
def toJson (settings : LoggingSettings) : Json :=
  .object [("use_structured_logging", .bool settings.structured),
    ("enable_console_logging", .bool settings.console),
    ("min_log_level", .string settings.threshold.settingName)]

/-- Events for debugging exist only when they would be logged. -/
def emitted (settings : LoggingSettings) (events : List Event) : List Event :=
  if settings.threshold = .debug then events else events.filter fun event => !event.isDebug

/-- The settings in words. -/
def summary (settings : LoggingSettings) : String :=
  s!"Logging configuration:\n  min level: {settings.threshold.name}\n" ++
    s!"  console: {settings.console}\n  structured: {settings.structured}\n" ++
    s!"  buffer size: {Limits.logBufferSize}"

end LoggingSettings

/-- Everything that the environment sets. -/
structure Settings where
  /-- How files are admitted. -/
  file : FileSettings
  /-- How a source is cut and judged. -/
  lexical : LexicalSettings
  /-- Spaces per depth of a dump. -/
  indentWidth : Nat
  /-- How events are logged. -/
  logging : LoggingSettings
deriving DecidableEq, Repr

namespace Settings

/-- The settings of an environment. -/
def ofEnvironment (environment : Environment) : Settings where
  file := .ofEnvironment environment
  lexical := .ofEnvironment environment
  indentWidth :=
    ((environment.get? Environment.indentWidth).bind readIndentWidth?).getD
      Limits.defaultIndentWidth
  logging := .ofEnvironment environment

/-- The settings as a structured value. -/
def toJson (settings : Settings) : Json :=
  .object [("file_processor", settings.file.toJson), ("lexical", settings.lexical.toJson),
    ("printer", .object [("indent_width", .number settings.indentWidth)]),
    ("logging", settings.logging.toJson)]

end Settings

end LexisFront
