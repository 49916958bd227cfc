import LexisFront.Diagnostic.Code
import LexisFront.Json.Basic
import LexisFront.Source.Span

/-!
# Log events

An event is one message of the front end: how urgent it is, its code and text, the place it is
about, and named details. The details form a map, written in the order of their names, so that
the order in which they were attached never shows.

The clock is no part of an event. The moment at which an event is logged is not kept, so its
structured value has no field `timestamp`, and an event at the end of a stage has no detail
`duration_ms`.
-/

namespace LexisFront

/-- How urgent an event is, the most urgent level first. -/
inductive Level where
  | error
  | warning
  | info
  | debug
deriving DecidableEq, Repr, Inhabited

namespace Level

/-- The rank of a level; a smaller rank is more urgent. -/
def rank : Level → Nat
  | error => 0
  | warning => 1
  | info => 2
  | debug => 3

/-- Whether a threshold lets a level pass. -/
def admits (threshold level : Level) : Bool :=
  level.rank ≤ threshold.rank

/-- The name of a level in a rendered event. -/
def name : Level → String
  | error => "ERROR"
  | warning => "WARN"
  | info => "INFO"
  | debug => "DEBUG"

/-- The name of a level among settings. -/
def settingName : Level → String
  | error => "Error"
  | warning => "Warning"
  | info => "Info"
  | debug => "Debug"

end Level

/-- Named details of an event, each name at most once. -/
abbrev Context := List (String × String)

namespace Context

/-- Sets a detail; a detail of the same name is replaced. -/
def insert (context : Context) (name value : String) : Context :=
  match context with
  | [] => [(name, value)]
  | (other, old) :: rest =>
    if other = name then (name, value) :: rest else (other, old) :: insert rest name value

/-- The details in the order of their names. -/
def sorted (context : Context) : Context :=
  context.mergeSort fun left right => decide (left.1 ≤ right.1)

end Context

/-- One message of the front end. -/
structure Event where
  /-- How urgent the event is. -/
  level : Level
  /-- The code of the event. -/
  code : Code
  /-- The text of the event. -/
  message : String
  /-- The place that the event is about. -/
  span : Option Span := none
  /-- Named details. -/
  context : Context := []
deriving DecidableEq, Repr, Inhabited

namespace Event

/-- An error with a code. -/
def error (code : Code) (message : String) : Event := { level := .error, code, message }

/-- A warning with a code. -/
def warning (code : Code) (message : String) : Event := { level := .warning, code, message }

/-- Information without a code of its own. -/
def info (message : String) : Event := { level := .info, code := .plainInfo, message }

/-- Information that carries the code of a success. -/
def success (code : Code) (message : String) : Event := { level := .info, code, message }

/-- A message for debugging. -/
def debug (message : String) : Event := { level := .debug, code := .plainDebug, message }

/-- Sets the place of an event. -/
def withSpan (event : Event) (span : Span) : Event := { event with span := some span }

/-- Attaches one detail. -/
def withDetail (event : Event) (name value : String) : Event :=
  { event with context := event.context.insert name value }

/-- Attaches details in order. -/
def withDetails (event : Event) (details : List (String × String)) : Event :=
  details.foldl (fun event detail => event.withDetail detail.1 detail.2) event

/-- Whether the event is an error. -/
def isError (event : Event) : Bool := event.level == .error

/-- Whether the event is a warning. -/
def isWarning (event : Event) : Bool := event.level == .warning

/-- Whether the event is for debugging. -/
def isDebug (event : Event) : Bool := event.level == .debug

/-- The event on one line. -/
def render (event : Event) : String :=
  let place := event.span.elim "" fun span => s!" at {span.start.render}"
  s!"[{event.level.name}] {event.code} - {event.message}{place}"

/-- What the registry adds below an event. -/
def renderRegistry (event : Event) : String :=
  match event.code.info? with
  | none => ""
  | some info =>
    s!"\n  Description: {info.description}" ++
      (if event.isError || event.isWarning then s!"\n  Recommended action: {info.action}" else "")

/-- The details below an event, in the order of their names. -/
def renderContext (context : Context) : String :=
  if context.isEmpty then
    ""
  else
    "\n  Context:" ++
      String.join (context.sorted.map fun detail => s!"\n    {detail.1}: {detail.2}")

/-- The event with what the registry says of its code, and its details. -/
def renderDetailed (event : Event) : String :=
  event.render ++ s!"\n  Category: {event.code.category}" ++
    s!"\n  Severity: {event.code.severity.name}" ++ event.renderRegistry ++
    renderContext event.context

/-- What the registry says of the code of an error, as a structured value. -/
def errorInfo (code : Code) : Json :=
  .object [
    ("recoverable", .bool code.isRecoverable),
    ("requires_halt", .bool code.requiresHalt),
    ("description", .string code.description),
    ("recommended_action", .string code.action)]

/-- The place of an event as a structured value. -/
def spanRecord (span : Span) : Json :=
  .object [
    ("offset", .number span.start.offset),
    ("start_line", .number span.start.line),
    ("start_column", .number span.start.column),
    ("end_line", .number span.stop.line),
    ("end_column", .number span.stop.column)]

/-- The event as a structured value, which does not tell when it was logged. -/
def toJson (event : Event) : Json :=
  .object (
    [("level", .string event.level.name),
      ("code", .string event.code),
      ("message", .string event.message),
      ("category", .string event.code.category),
      ("severity", .string event.code.severity.name)] ++
    (if event.isError then [("error_metadata", errorInfo event.code)] else []) ++
    (event.span.elim [] fun span => [("span", spanRecord span)]) ++
    (if event.context.isEmpty then []
      else [("context", .object (event.context.sorted.map fun detail =>
        (detail.1, .string detail.2)))]))

end Event

end LexisFront
