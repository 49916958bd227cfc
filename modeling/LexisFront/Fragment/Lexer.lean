import LexisFront.Diagnostic.Event
import LexisFront.Fragment.Contribution
import LexisFront.Fragment.Tally
import LexisFront.Text.Blank
import LexisFront.Text.Piece
import LexisFront.Token.Sequence

/-!
# Lexing

A source is cut at its delimiters, blank fragments are skipped, and every other fragment
contributes one token, whatever stands around it. The first fragment that is no token ends the
run. A run reports its result together with its tally and the events that it emits, on success
and on failure.

The counters of positions have fixed widths. A run over a source so long that one of them
leaves its range has no outcome at all, which is why a run is optional.
-/

namespace LexisFront

/-- What came of lexing a source. -/
structure Lexing where
  /-- The tokens, or why there are none. -/
  result : Except LexicalError TokenSequence
  /-- The counters at the end of the run. -/
  tally : Tally
  /-- The emitted events in order. -/
  events : List Event

namespace Lexing

/-- The event of a run that begins. -/
def startEvent (settings : LexicalSettings) (source : String) : Event :=
  (Event.debug "Starting lexical analysis").withDetails
    [("bytes", toString source.utf8ByteSize),
      ("split_on_newlines", toString settings.splitOnNewlines),
      ("strict_operators", toString settings.strictOperators)]

/-- The event of a run that succeeds. -/
def successEvent (tally : Tally) : Event :=
  (Event.success .lexingComplete "Lexical analysis completed successfully").withDetails
    [("token_count", toString tally.totalTokens),
      ("fragments", toString tally.fragmentsSeen),
      ("skipped", toString tally.fragmentsSkipped),
      ("truncated_operators", toString tally.truncatedOperators)]

/-- The event of a run that fails at the fragment at a place. -/
def failureEvent (error : LexicalError) (span : Span) : Event :=
  match error with
  | .unrecognizedToken fragment index _ =>
    ((Event.error error.code "Unknown token").withSpan span).withDetails
      [("fragment", fragment), ("index", toString index)]
  | .malformedOperator fragment index _ =>
    ((Event.error error.code "Operator fragment has trailing characters").withSpan
      span).withDetails [("fragment", fragment), ("index", toString index)]
  | .fragmentTooLong length index _ =>
    ((Event.error error.code "Fragment exceeds maximum length").withSpan span).withDetails
      [("length", toString length), ("limit", toString Limits.maxFragmentLength),
        ("index", toString index)]
  | .tooManyTokens count =>
    ((Event.error error.code "Token limit exceeded").withSpan span).withDetails
      [("token_count", toString count), ("limit", toString Limits.maxTokenCount)]

/-- The warning about a fragment that keeps its operator and drops the rest. -/
def truncationEvent (span : Span) (fragment : List Char) (kept : String)
    (dropped : List Char) : Event :=
  ((Event.warning .operatorTruncated
    "Operator fragment truncated to its first character").withSpan span).withDetails
      [("fragment", String.ofList fragment), ("kept", kept), ("dropped", String.ofList dropped)]

end Lexing

/-- A lexing run between two fragments. -/
structure Lexer where
  /-- The place of the next fragment. -/
  cursor : Position := .start
  /-- The tokens so far. -/
  run : TokenRun := .empty
  /-- The counters so far. -/
  tally : Tally := {}
  /-- The warnings so far. -/
  warnings : Array Event := #[]

namespace Lexer

/-- Ends a run after its last fragment. -/
def finish (lexer : Lexer) : Lexing :=
  let sequence := lexer.run.finish (.emptyAt lexer.cursor)
  let tally := { lexer.tally with totalTokens := sequence.size }
  ⟨.ok sequence, tally, lexer.warnings.toList ++ [Lexing.successEvent tally]⟩

/-- The outcome of a run that ends with an error about the fragment at a place. -/
def failure (tally : Tally) (warnings : Array Event) (error : LexicalError) (span : Span) :
    Lexing :=
  ⟨.error error, tally, warnings.toList ++ [Lexing.failureEvent error span]⟩

/-- The warnings after a token that lost characters, or none, of its fragment. -/
def warn (settings : LexicalSettings) (warnings : Array Event) (span : Span)
    (fragment : List Char) (token : Token) (dropped : List Char) : Array Event :=
  if settings.warnOnTruncation && !dropped.isEmpty then
    warnings.push (Lexing.truncationEvent span fragment token.value dropped)
  else
    warnings

/-- What the next fragment does to a run: the run goes on, or it has its outcome. -/
abbrev Step := Lexer ⊕ Lexing

/-- Takes a fragment that is not blank, with its number and place. -/
def takeFragment? (settings : LexicalSettings) (lexer : Lexer) (index : Nat) (span : Span)
    (fragment : List Char) : Option Step :=
  match lexer with
  | ⟨cursor, run, tally, warnings⟩ =>
    if Limits.maxTokenCount < run.size + 2 then
      some (.inr (failure tally warnings (.tooManyTokens (run.size + 2)) span))
    else
      let measured := tally.noteLength fragment.length
      match Contribution.ofFragment? settings index span fragment with
      | none => none
      | some (.error error) => some (.inr (failure measured warnings error span))
      | some (.token token dropped) =>
        (run.push? token).map fun run => .inl {
          cursor
          run
          tally := (measured.noteDropped dropped).countToken settings.detailedMetrics token.kind
          warnings := warn settings warnings span fragment token dropped }

/-- Takes the next fragment. -/
def step? (settings : LexicalSettings) (lexer : Lexer) (piece : Text.Piece) : Option Step :=
  match lexer with
  | ⟨start, run, tally, warnings⟩ =>
    match start.advanceAll? piece.text with
    | none => none
    | some stop =>
      match stop.advanceAll? piece.delimiter.toList with
      | none => none
      | some cursor =>
        let seen := tally.seeFragment
        if Text.isBlank piece.text then
          some (.inl ⟨cursor, run, seen.skipFragment, warnings⟩)
        else
          match Span.between? start stop with
          | none => none
          | some span =>
            takeFragment? settings ⟨cursor, run, seen, warnings⟩ tally.fragmentsSeen span
              piece.text

/-- Takes fragments until none is left or one is no token. -/
def runPieces? (settings : LexicalSettings) (lexer : Lexer) : List Text.Piece → Option Lexing
  | [] => some lexer.finish
  | piece :: rest =>
    match step? settings lexer piece with
    | none => none
    | some (.inl later) => runPieces? settings later rest
    | some (.inr lexing) => some lexing

end Lexer

/-- Lexes a source. -/
def Lexing.ofSource? (settings : LexicalSettings) (source : String) : Option Lexing :=
  (Lexer.runPieces? settings {} (Text.cut settings.isDelimiter source.toList)).map fun lexing =>
    { lexing with events := startEvent settings source :: lexing.events }

end LexisFront
