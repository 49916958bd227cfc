import LexisFront.Diagnostic.Journal
import LexisFront.Pipeline
import LexisFront.Program.Dump

/-!
# Command line

The command reads its arguments, runs one source, and shows tokens and program, or an error
with the line it is about. Events are written as they happen when the environment asks for
that; otherwise they are kept, and the errors and warnings that were not shown yet follow at
the end.
-/

namespace LexisFront

/-- What the arguments ask for. -/
structure Options where
  /-- The file to run; without one, the built-in sample is run. -/
  file : Option String := none
  /-- Whether to write structured values. -/
  json : Bool := false
  /-- Whether to stop after lexing. -/
  tokensOnly : Bool := false
  /-- Whether to show help only. -/
  help : Bool := false
deriving DecidableEq, Repr

/-- Why arguments cannot be read. -/
inductive OptionError where
  /-- An argument looks like a flag and is none. -/
  | unknownOption (argument : String)
  /-- A second file is named. -/
  | extraArgument (argument : String)
deriving DecidableEq, Repr

namespace OptionError

/-- An error in words. -/
def message : OptionError → String
  | unknownOption argument => s!"Unknown option '{argument}'"
  | extraArgument argument => s!"Unexpected extra argument '{argument}'"

end OptionError

namespace Options

/-- Whether an argument has the form of a long flag. -/
def isLongFlag (argument : String) : Bool :=
  match argument.toList with
  | '-' :: '-' :: _ => true
  | _ => false

/-- Takes one more argument into account. -/
def add (options : Options) (argument : String) : Except OptionError Options :=
  if argument = "--json" then .ok { options with json := true }
  else if argument = "--tokens-only" then .ok { options with tokensOnly := true }
  else if argument = "--help" ∨ argument = "-h" then .ok { options with help := true }
  else if isLongFlag argument then .error (.unknownOption argument)
  else if options.file.isSome then .error (.extraArgument argument)
  else .ok { options with file := some argument }

/-- Reads arguments from left to right. -/
def ofArguments (arguments : List String) : Except OptionError Options :=
  arguments.foldlM add {}

end Options

/-- One line written to the error channel. -/
inductive ReportLine where
  /-- A line of text. -/
  | text (text : String)
  /-- A log event as a structured value. -/
  | record (value : Json)

/-- What the command does. -/
structure CommandOutcome where
  /-- The exit status. -/
  status : Nat
  /-- The text on the output channel. -/
  output : String
  /-- The lines on the error channel. -/
  report : List ReportLine

namespace CommandLine

/-- The source that is run when no file is named. -/
def sample : String := "let x = 45 * 10 - 2"

/-- How the command is called. -/
def usage (name : String) : String :=
  s!"{name} [FILE] [--json] [--tokens-only] [--help]"

/-- Lines, each with its line end. -/
def unlines (lines : List String) : String :=
  String.join (lines.map (· ++ "\n"))

/-- The help text. -/
def helpText (name : String) (settings : LoggingSettings) : String :=
  unlines ([
    s!"Lexis front end v{Limits.version}",
    "Tokenizes and parses Lexis source, then prints tokens and the AST",
    "",
    "USAGE:",
    s!"    {usage name}",
    "",
    "ARGUMENTS:",
    "    [FILE]    Source file to process (default: built-in sample)",
    "",
    "OPTIONS:",
    "    --json           Print tokens, AST and lexical metrics as JSON",
    "    --tokens-only    Stop after tokenization",
    "    --help           Show this help message",
    "",
    "BUILT-IN SAMPLE:",
    s!"    {sample}",
    "",
    "CONFIGURATION:",
    s!"    {Limits.sourceInfo}"] ++
    (Source.lines settings.summary).map fun line => s!"    {line}")

/-- A list of tokens, one on each line, with their numbers. -/
def tokenLines (tokens : TokenSequence) : String :=
  unlines (tokens.toList.zipIdx.map fun (token, index) => s!"Token ({index}): {token.render}")

/-- The output of a run that stops after lexing. -/
def tokensOutput (options : Options) (tokens : TokenSequence) : String :=
  if options.json then tokens.toJson.pretty ++ "\n" else tokenLines tokens

/-- The output of a whole run. -/
def resultOutput (options : Options) (indentWidth : Nat) (result : FrontResult) : String :=
  if options.json then
    result.toJson.pretty ++ "\n"
  else
    tokenLines result.tokens ++ "\n" ++ Dump.render indentWidth result.program

/-- Runs the lexer alone, and gives its output and events. -/
def runTokens? (environment : Environment) (lookup : String → Entry) (options : Options) :
    Option (Except FrontError String × List Event) :=
  let output (lexing : Lexing) : Except FrontError String :=
    match lexing.result with
    | .error error => .error (.lexing error)
    | .ok tokens => .ok (tokensOutput options tokens)
  match options.file with
  | none =>
    (Lexing.ofSource? (.ofEnvironment environment) sample).map fun lexing =>
      (output lexing, lexing.events)
  | some path =>
    let loading := Loading.ofEntry (.ofEnvironment environment) path (lookup path)
    match loading.result with
    | .error error => some (.error (.loading error), loading.events)
    | .ok file =>
      (FrontRun.lexFile? (.forFile environment) file).map fun lexing =>
        (output lexing, loading.events ++ lexing.events)

/-- Runs every stage, and gives the output and the events. -/
def runAll? (environment : Environment) (lookup : String → Entry) (options : Options) :
    Option (Except FrontError String × List Event) :=
  let settings := Settings.ofEnvironment environment
  let run? := match options.file with
    | none => FrontRun.ofSource? settings.lexical sample
    | some path => FrontRun.ofFile? environment path (lookup path)
  run?.map fun run => (run.result.map (resultOutput options settings.indentWidth), run.events)

/-- The source that an error is about, when it can be read again. -/
def source? (lookup : String → Entry) (options : Options) : Option String :=
  match options.file with
  | none => some sample
  | some path =>
    match lookup path with
    | .file _ bytes => String.fromUTF8? bytes
    | _ => none

/-- The lines that show an error. -/
def errorLines? (lookup : String → Entry) (options : Options) (error : FrontError) :
    Option (List String) :=
  let heading := s!"FAILED [{error.code}] {error.stage} stage"
  match error.span?, source? lookup options with
  | some span, some source =>
    (Source.excerpt? source span error.message).map fun excerpt =>
      heading :: (Source.lines excerpt).dropLast
  | _, _ => some [heading, s!"error: {error.message}"]

/-- The events that were not shown yet; an error with the reported code was. -/
def reportable (events : List Event) (reported : Option Code) : List Event :=
  events.filter fun event => !(event.isError && some event.code == reported)

/-- The lines about the kept problems that were not shown yet. -/
def problemLines (journal : Journal) (reported : Option Code) : List String :=
  let problems := reportable journal.problems reported
  if problems.isEmpty then
    []
  else
    let errors := (problems.filter (·.isError)).length
    let warnings := (problems.filter (·.isWarning)).length
    problems.map Event.render ++ [s!"{errors} error(s), {warnings} warning(s) logged"]

/-- The events that a threshold lets pass, as they are logged. -/
def logged (settings : LoggingSettings) (events : List Event) : List Event :=
  (events.filter fun event => settings.threshold.admits event.level).map fun event =>
    { event with message := shortenMessage event.message }

/-- The lines of events that are written as they happen. -/
def eventLines (settings : LoggingSettings) (events : List Event) : List ReportLine :=
  if settings.console then
    (logged settings events).map fun event =>
      if settings.structured then .record event.toJson else .text event.render
  else
    []

/-- The events that are kept for the end. -/
def kept (settings : LoggingSettings) (events : List Event) : Journal :=
  if settings.console then .standard
  else (Recorder.recordAll ⟨settings.threshold, .standard⟩ events).journal

/-- The events before the arguments are read. -/
def setupEvents : List Event :=
  Event.success .setupComplete "Global logging system initialized" :: FrontRun.readinessEvents

/-- Ends the command after a run. -/
def conclude? (settings : LoggingSettings) (lookup : String → Entry) (options : Options)
    (events : List Event) : Except FrontError String → Option CommandOutcome
  | .ok output =>
    some ⟨0, output, eventLines settings events ++
      (problemLines (kept settings events) none).map .text⟩
  | .error error =>
    (errorLines? lookup options error).map fun lines =>
      ⟨1, "", eventLines settings events ++ (lines ++
        problemLines (kept settings events) (some error.code)).map .text⟩

/-- Runs the command under a name, in an environment, with its arguments. -/
def run? (name : String) (environment : Environment) (lookup : String → Entry)
    (arguments : List String) : Option CommandOutcome :=
  let settings := LoggingSettings.ofEnvironment environment
  match Options.ofArguments arguments with
  | .error error =>
    some ⟨1, "", eventLines settings setupEvents ++
      [.text s!"Error: {error.message}", .text s!"Usage: {usage name}"]⟩
  | .ok options =>
    if options.help then
      some ⟨0, helpText name settings, eventLines settings setupEvents⟩
    else
      let finished? :=
        if options.tokensOnly then runTokens? environment lookup options
        else runAll? environment lookup options
      match finished? with
      | none => none
      | some (outcome, events) =>
        conclude? settings lookup options (setupEvents ++ events) outcome

end CommandLine

end LexisFront
