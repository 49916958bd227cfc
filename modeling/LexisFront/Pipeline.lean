import LexisFront.Fragment.Analyzer
import LexisFront.Json.Writer
import LexisFront.Program.Codec
import LexisFront.Program.Parser
import LexisFront.Source.File

/-!
# The whole front end

A source goes through the lexer and the parser; a file is loaded first. The first stage that
fails decides the error. A run tells its outcome together with all events of its stages.
-/

namespace LexisFront

/-- Why a run failed, by stage. -/
inductive FrontError where
  /-- The file could not be loaded. -/
  | loading (error : FileError)
  /-- The source is no token sequence. -/
  | lexing (error : LexicalError)
  /-- The tokens are no program. -/
  | parsing (error : ParseError)
  /-- Something else went wrong. -/
  | internal (message : String)
deriving DecidableEq, Repr

namespace FrontError

/-- The code of an error. -/
def code : FrontError → Code
  | loading error => error.code
  | lexing error => error.code
  | parsing error => error.code
  | internal _ => .internalError

/-- The place that an error is about. -/
def span? : FrontError → Option Span
  | lexing error => error.span?
  | parsing error => error.span?
  | loading _ | internal _ => none

/-- The name of the stage that failed. -/
def stage : FrontError → String
  | loading _ => "file_processing"
  | lexing _ => "lexical"
  | parsing _ => "syntax"
  | internal _ => "pipeline"

/-- An error in words. -/
def message : FrontError → String
  | loading error => s!"File processing failed: {error.message}"
  | lexing error => s!"Lexical analysis failed: {error.message}"
  | parsing error => s!"Syntax analysis failed: {error.message}"
  | internal message => s!"Pipeline error: {message}"

end FrontError

/-- Everything that a successful run gives. -/
structure FrontResult where
  /-- The tokens. -/
  tokens : TokenSequence
  /-- The program. -/
  program : Program
  /-- What is known of the file, when the source came from one. -/
  file : Option FileInfo
  /-- The counters of the lexing run. -/
  tally : Tally

namespace FrontResult

/-- Tokens, program and counters as a structured value. -/
def toJson (result : FrontResult) : Json :=
  .object [("tokens", result.tokens.toJson), ("ast", result.program.toJson),
    ("metrics", result.tally.toJson)]

end FrontResult

/-- What came of running the front end. -/
structure FrontRun where
  /-- The result, or why there is none. -/
  result : Except FrontError FrontResult
  /-- The emitted events in order. -/
  events : List Event

namespace FrontRun

/-- The event of a run that succeeds. -/
def successEvent (name : String) (result : FrontResult) : Event :=
  (Event.success .pipelineComplete "Lexis front end pipeline succeeded").withDetails
    [("source", name), ("tokens", toString result.tokens.size),
      ("statements", toString result.program.size),
      ("truncated_operators", toString result.tally.truncatedOperators)]

/-- Parses what a lexing run gave; `before` are the events up to the end of that run. -/
def ofLexing (name : String) (file : Option FileInfo) (before : List Event) (lexing : Lexing) :
    FrontRun :=
  match lexing.result with
  | .error error => ⟨.error (.lexing error), before⟩
  | .ok tokens =>
    let parsing := Parsing.ofTokens tokens.toList
    let events := before ++ parsing.events tokens.size
    match parsing.result with
    | .error error => ⟨.error (.parsing error), events⟩
    | .ok program =>
      let result : FrontResult := ⟨tokens, program, file, lexing.tally⟩
      ⟨.ok result, events ++ [successEvent name result]⟩

/-- Runs a source. -/
def ofSource? (settings : LexicalSettings) (source : String) : Option FrontRun :=
  let start := (Event.info "Starting Lexis source pipeline").withDetail "bytes"
    (toString source.utf8ByteSize)
  (Lexing.ofSource? settings source).map fun lexing =>
    ofLexing "<source>" none (start :: lexing.events) lexing

/-- The event of lexing a loaded file. -/
def fileEvent (file : SourceFile) : Event :=
  (Event.debug "Tokenizing file").withDetails
    [("file", file.info.path), ("size_bytes", toString file.info.size),
      ("lines", toString file.info.lines)]

/-- Lexes a loaded file, and tells so. -/
def lexFile? (settings : LexicalSettings) (file : SourceFile) : Option Lexing :=
  (Lexing.ofSource? settings file.source).map fun lexing =>
    { lexing with events := fileEvent file :: lexing.events }

/-- Runs a path that leads to an entry. -/
def ofFile? (environment : Environment) (path : String) (entry : Entry) : Option FrontRun :=
  let start := (Event.info "Starting Lexis file pipeline").withDetail "file" path
  let loading := Loading.ofEntry (.ofEnvironment environment) path entry
  let before := start :: loading.events
  match loading.result with
  | .error error => some ⟨.error (.loading error), before⟩
  | .ok file =>
    (lexFile? (.forFile environment) file).map fun lexing =>
      ofLexing path (some file.info) (before ++ lexing.events) lexing

/-- The codes that the stages need in the registry. -/
def stageCodes : List Code := [
  .fileNotFound, .invalidExtension, .fileTooLarge, .invalidEncoding, .readFailure, .invalidPath,
  .unrecognizedToken, .malformedOperator, .fragmentTooLong, .tooManyTokens, .operatorTruncated,
  .missingEof, .emptyTokenStream, .unsupportedToken, .unexpectedEnd, .unexpectedToken,
  .chainTooLong, .tooManyStatements, .parsingComplete]

/-- Whether the registry knows every code that the stages need. -/
def isReady : Bool :=
  stageCodes.all fun code => code.info?.isSome

/-- The events of checking that the stages are ready. -/
def readinessEvents : List Event := [
  Event.debug "Validating pipeline configuration",
  (Event.debug "File processor limits initialized").withDetails
    [("max_file_size", toString Limits.maxFileSize),
      ("large_file_threshold", toString Limits.largeFileThreshold)],
  (Event.debug "Lexical limits initialized").withDetails
    [("max_token_count", toString Limits.maxTokenCount),
      ("max_fragment_length", toString Limits.maxFragmentLength)],
  (Event.success .setupComplete "Pipeline validation succeeded").withDetail
    "stages_validated" "3"]

end FrontRun

end LexisFront
