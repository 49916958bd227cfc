import LexisFront.CommandLine
import LexisFront.Proofs.Lexing.Warnings
import LexisFront.Proofs.Pipeline.Stages

/-!
# The events of a run

The events of a run are put together by its stages, each on its own, and some errors are told by
two of them. `FrontRun.Closes` says for each outcome which events come after the warnings, by their
levels and codes. Without events for debugging, a run emits that it begins, its warnings, and the
events of its outcome, and nothing else.

An error that was shown is left out of the problems that follow at the end, by its code alone. That
leaves out every error of the run, because all of them carry the code of the one that is returned.
-/

namespace LexisFront

namespace LoggingSettings

variable {logging : LoggingSettings}

/-- What is emitted of events one after the other. -/
theorem emitted_append (logging : LoggingSettings) (first later : List Event) :
    logging.emitted (first ++ later) = logging.emitted first ++ logging.emitted later := by
  unfold emitted
  split
  · rfl
  · exact List.filter_append first later

/-- An event that is not for debugging is always emitted. -/
theorem emitted_cons_of_proper (logging : LoggingSettings) {event : Event}
    (proper : event.isDebug = false) (rest : List Event) :
    logging.emitted (event :: rest) = event :: logging.emitted rest := by
  unfold emitted
  split
  · rfl
  · exact List.filter_cons_of_pos (by simp [proper])

/-- An event for debugging is not emitted unless the threshold admits it. -/
theorem emitted_cons_of_debug (quiet : logging.threshold ≠ .debug) {event : Event}
    (debug : event.isDebug = true) (rest : List Event) :
    logging.emitted (event :: rest) = logging.emitted rest := by
  rw [emitted, emitted, if_neg quiet, if_neg quiet]
  exact List.filter_cons_of_neg (by simp [debug])

/-- Events that are not for debugging are always emitted. -/
theorem emitted_eq_self (logging : LoggingSettings) {events : List Event}
    (proper : ∀ event ∈ events, event.isDebug = false) : logging.emitted events = events := by
  induction events with
  | nil => exact ite_self []
  | cons event rest ih =>
    rw [List.forall_mem_cons] at proper
    rw [emitted_cons_of_proper logging proper.1, ih proper.2]

/-- Nothing but events for debugging leaves nothing to emit. -/
theorem emitted_eq_nil (quiet : logging.threshold ≠ .debug) {events : List Event}
    (debug : ∀ event ∈ events, event.isDebug = true) : logging.emitted events = [] := by
  induction events with
  | nil => exact ite_self []
  | cons event rest ih =>
    rw [List.forall_mem_cons] at debug
    rw [emitted_cons_of_debug quiet debug.1, ih debug.2]

end LoggingSettings

/-- The levels and codes of the events that only some errors of parsing have. -/
def ParseError.limitMarks : ParseError → List (Level × Code)
  | .tooManyStatements .. => [(.error, "E088")]
  | _ => []

/-- An event that only some errors have carries the code of its error. -/
theorem ParseError.mark_of_limitMarks {error : ParseError} {limit : List Event}
    (limitMarks : limit.map Event.mark = error.limitMarks) {event : Event}
    (member : event ∈ limit) : event.mark = (.error, error.code) := by
  have marked : event.mark ∈ error.limitMarks := limitMarks ▸ List.mem_map_of_mem member
  cases error with
  | tooManyStatements count max => exact List.mem_singleton.1 marked
  | _ => contradiction

namespace Parsing

/-- An error of parsing has its own event before the one about the outcome, or none. -/
theorem map_mark_limitEvents (error : ParseError) :
    (limitEvents (some error)).map Event.mark = error.limitMarks := by
  cases error <;> rfl

/-- The event of a failed parse carries the code and the place of its error. -/
theorem outcomeEvent_of_failure {parsing : Parsing} {error : ParseError}
    (failed : parsing.failure = some error) :
    parsing.outcomeEvent.mark = (.error, error.code) ∧
      parsing.outcomeEvent.span = error.span? := by
  rw [outcomeEvent, failed]
  cases error <;> exact ⟨rfl, rfl⟩

/-- The event of a parse that succeeds. -/
theorem mark_outcomeEvent_of_success {parsing : Parsing} (succeeded : parsing.failure = none) :
    parsing.outcomeEvent.mark = (.info, "I040") := by
  rw [outcomeEvent, succeeded]
  rfl

/-- What is told of declarations is for debugging. -/
theorem isDebug_of_mem_declarationEvents {statements : List Statement} {event : Event}
    (member : event ∈ declarationEvents statements) : event.isDebug = true := by
  obtain ⟨statement, -, told⟩ := List.mem_filterMap.1 member
  split at told
  · obtain rfl := Option.some.inj told
    rfl
  · contradiction

/-- Without events for debugging, a parse emits what it tells about its outcome. -/
theorem emitted_events {logging : LoggingSettings} (quiet : logging.threshold ≠ .debug)
    (parsing : Parsing) (count : Nat) :
    logging.emitted (parsing.events count) =
      limitEvents parsing.failure ++ [parsing.outcomeEvent] := by
  rw [events, readingEvents, List.cons_append, List.cons_append, List.cons_append,
    LoggingSettings.emitted_cons_of_debug quiet rfl,
    LoggingSettings.emitted_cons_of_debug quiet rfl, List.append_assoc,
    LoggingSettings.emitted_append,
    LoggingSettings.emitted_eq_nil quiet fun _ => isDebug_of_mem_declarationEvents,
    LoggingSettings.emitted_eq_self, List.nil_append]
  · intro event member
    cases failed : parsing.failure with
    | none =>
      rw [failed] at member
      obtain rfl := List.mem_singleton.1 member
      exact Event.isDebug_eq_false (mark_outcomeEvent_of_success failed) (by decide)
    | some error =>
      rw [failed] at member
      rcases List.mem_append.1 member with limit | outcome
      · have marked := ParseError.mark_of_limitMarks (map_mark_limitEvents error) limit
        exact Event.isDebug_eq_false marked (by decide)
      · obtain rfl := List.mem_singleton.1 outcome
        exact Event.isDebug_eq_false (outcomeEvent_of_failure failed).1 (by decide)

end Parsing

/-- When all errors among events carry one code, none is left once that code was shown. -/
theorem CommandLine.isError_of_mem_reportable {events : List Event} {code : Code}
    (same : ∀ event ∈ events, event.isError = true → event.code = code) :
    ∀ event ∈ reportable events (some code), event.isError = false := by
  intro event member
  obtain ⟨emitted, left⟩ := List.mem_filter.1 member
  by_contra isError
  rw [Bool.not_eq_false] at isError
  simp [isError, same event emitted isError] at left

namespace FrontRun

/-- The events after the warnings of a run, for each of its outcomes. -/
inductive Closes : Except FrontError FrontResult → List Event → Prop
  /-- A run whose lexing fails ends with the error. -/
  | lexing {error : LexicalError} {refused : Event}
      (refusedMark : refused.mark = (.error, error.code)) :
      Closes (.error (.lexing error)) [refused]
  /-- A run whose parsing fails tells that lexing succeeded, then the error with its place; too
  many statements are an error that was already told. -/
  | parsing {error : ParseError} {lexed refused : Event} {limit : List Event}
      (lexedMark : lexed.mark = (.info, "I020"))
      (limitMarks : limit.map Event.mark = error.limitMarks)
      (refusedMark : refused.mark = (.error, error.code)) (place : refused.span = error.span?) :
      Closes (.error (.parsing error)) (lexed :: (limit ++ [refused]))
  /-- A run that succeeds tells of lexing, of parsing and of itself. -/
  | success {result : FrontResult} {lexed parsed finished : Event}
      (lexedMark : lexed.mark = (.info, "I020")) (parsedMark : parsed.mark = (.info, "I040"))
      (finishedMark : finished.mark = (.info, "I090")) :
      Closes (.ok result) [lexed, parsed, finished]

/-- Every error among the events of a failed run carries the code of its error. -/
theorem Closes.code_of_isError {error : FrontError} {closing : List Event}
    (closes : Closes (.error error) closing) {event : Event} (member : event ∈ closing)
    (isError : event.isError = true) : event.code = error.code := by
  cases closes with
  | lexing refusedMark =>
    obtain rfl := List.mem_singleton.1 member
    exact Event.code_of_mark refusedMark
  | @parsing error lexed refused limit lexedMark limitMarks refusedMark place =>
    rcases List.mem_cons.1 member with rfl | member
    · rw [Event.isError_eq_false lexedMark (by decide)] at isError
      contradiction
    · rcases List.mem_append.1 member with member | member
      · exact Event.code_of_mark (ParseError.mark_of_limitMarks limitMarks member)
      · obtain rfl := List.mem_singleton.1 member
        exact Event.code_of_mark refusedMark

/-- The event of a run that succeeds. -/
theorem mark_successEvent (name : String) (result : FrontResult) :
    (successEvent name result).mark = (.info, "I090") := rfl

/-- After the events up to the end of lexing, a run emits those of its outcome. -/
theorem exists_closes {logging : LoggingSettings} (quiet : logging.threshold ≠ .debug)
    (name : String) (file : Option FileInfo) (before : List Event) {lexing : Lexing} {last : Event}
    (marked : last.mark = lexing.mark) :
    ∃ later, logging.emitted (ofLexing name file before lexing).events =
        logging.emitted before ++ later ∧
      Closes (ofLexing name file before lexing).result (last :: later) := by
  -- Each stage that is reached appends its events, so the events before it are a common part.
  cases lexed : lexing.result with
  | error error =>
    have run : ofLexing name file before lexing = ⟨.error (.lexing error), before⟩ := by
      simp only [ofLexing, lexed]
    rw [Lexing.mark, lexed] at marked
    rw [run]
    exact ⟨[], (List.append_nil _).symm, .lexing marked⟩
  | ok tokens =>
    rw [Lexing.mark, lexed] at marked
    let parsing := Parsing.ofTokens tokens.toList
    have parsed := Parsing.emitted_events quiet parsing tokens.size
    cases failed : parsing.failure with
    | some error =>
      have run : ofLexing name file before lexing =
          ⟨.error (.parsing error), before ++ parsing.events tokens.size⟩ := by
        simp only [ofLexing, lexed, Parsing.result, parsing, failed]
      obtain ⟨refusedMark, place⟩ := Parsing.outcomeEvent_of_failure failed
      rw [failed] at parsed
      rw [run]
      refine ⟨_, ?_, .parsing marked (Parsing.map_mark_limitEvents error) refusedMark place⟩
      rw [LoggingSettings.emitted_append, parsed]
    | none =>
      let result : FrontResult := ⟨tokens, ⟨parsing.statements.toList⟩, file, lexing.tally⟩
      have run : ofLexing name file before lexing =
          ⟨.ok result, before ++ parsing.events tokens.size ++ [successEvent name result]⟩ := by
        simp only [ofLexing, lexed, Parsing.result, parsing, failed, result]
      have finished : logging.emitted [successEvent name result] = [successEvent name result] := by
        apply LoggingSettings.emitted_eq_self
        intro event member
        obtain rfl := List.mem_singleton.1 member
        exact Event.isDebug_eq_false (mark_successEvent name result) (by decide)
      rw [failed] at parsed
      rw [run]
      refine ⟨_, ?_, .success marked (Parsing.mark_outcomeEvent_of_success failed)
        (mark_successEvent name result)⟩
      rw [LoggingSettings.emitted_append, LoggingSettings.emitted_append, parsed, finished,
        List.append_assoc]
      rfl

/-- A run of a source emits that it begins, its warnings and the events of its outcome. -/
theorem exists_emitted_eq {logging : LoggingSettings} (quiet : logging.threshold ≠ .debug)
    {settings : LexicalSettings} {source : String} {lexing : Lexing}
    (lexed : Lexing.ofSource? settings source = some lexing) :
    ∃ run start warnings closing, ofSource? settings source = some run ∧
      logging.emitted run.events = start :: (warnings ++ closing) ∧
      start.mark = (.info, "I000") ∧
      List.Forall₂ Fragment.WarnedBy
        (if settings.warnOnTruncation then Lexing.truncated settings source.toList else [])
        warnings ∧
      Closes run.result closing := by
  obtain ⟨warnings, last, told, marked, warned⟩ := Lexing.exists_events_eq lexed
  let start := (Event.info "Starting Lexis source pipeline").withDetail "bytes"
    (toString source.utf8ByteSize)
  have ran : ofSource? settings source =
      some (ofLexing "<source>" none (start :: lexing.events) lexing) := by
    rw [ofSource?, lexed]
    rfl
  have before : logging.emitted (start :: lexing.events) = start :: (warnings ++ [last]) := by
    rw [told, LoggingSettings.emitted_cons_of_proper logging rfl,
      LoggingSettings.emitted_cons_of_debug quiet rfl, LoggingSettings.emitted_eq_self]
    intro event member
    rcases List.mem_append.1 member with member | member
    · obtain ⟨fragment, warnedBy⟩ := Fragment.exists_warnedBy_of_mem warned member
      exact Event.isDebug_eq_false warnedBy.marked (by decide)
    · obtain rfl := List.mem_singleton.1 member
      exact Lexing.isDebug_of_mark marked
  obtain ⟨later, emitted, closes⟩ :=
    exists_closes quiet "<source>" none (start :: lexing.events) marked
  refine ⟨_, start, warnings, last :: later, ran, ?_, rfl, warned, closes⟩
  rw [emitted, before, List.cons_append, List.append_assoc, List.singleton_append]

/-- A run of a source of at most `2 ^ 32 - 2` characters, without events for debugging, emits that
it begins, then one warning for each fragment that loses characters, in order and as many as the
counter says, if it is to warn, and then the events of its outcome. Every error among them carries
the code of the error that the run returns, so none is left to report after it. -/
theorem emitted_tells_outcome (settings : LexicalSettings) (source : String)
    (logging : LoggingSettings) (short : source.length ≤ UInt32.size - 2)
    (quiet : logging.threshold ≠ .debug) :
    ∃ lexing run start warnings closing,
      Lexing.ofSource? settings source = some lexing ∧ ofSource? settings source = some run ∧
      logging.emitted run.events = start :: (warnings ++ closing) ∧
      start.mark = (.info, "I000") ∧
      (settings.warnOnTruncation = true →
        List.Forall₂ Fragment.WarnedBy (Lexing.truncated settings source.toList) warnings ∧
          warnings.length = lexing.tally.truncatedOperators) ∧
      (settings.warnOnTruncation = false → warnings = []) ∧
      Closes run.result closing ∧
      (∀ error, run.result = .error (.lexing error) ↔ lexing.result = .error error) ∧
      ∀ error, run.result = .error error →
        (∀ event ∈ logging.emitted run.events, event.isError = true → event.code = error.code) ∧
        ∀ event ∈ CommandLine.reportable (logging.emitted run.events) (some error.code),
          event.isError = false := by
  obtain ⟨lexing, lexed⟩ := Lexing.exists_ofSource?_eq settings short
  obtain ⟨run, start, warnings, closing, ran, emitted, begins, warned, closes⟩ :=
    exists_emitted_eq quiet lexed
  refine ⟨lexing, run, start, warnings, closing, lexed, ran, emitted, begins, ?_, ?_, closes, ?_,
    ?_⟩
  · intro warns
    rw [if_pos warns] at warned
    refine ⟨warned, ?_⟩
    rw [Lexing.truncatedOperators_eq_length lexed, warned.length_eq]
  · intro silent
    rw [silent] at warned
    exact List.forall₂_nil_left_iff.1 warned
  · intro error
    obtain ⟨before, again⟩ := exists_ofSource?_eq lexed
    rw [Option.some.inj (ran.symm.trans again)]
    exact result_eq_lexing_iff
  · intro error failed
    rw [failed] at closes
    have same : ∀ event ∈ logging.emitted run.events, event.isError = true →
        event.code = error.code := by
      intro event member isError
      rw [emitted] at member
      rcases List.mem_cons.1 member with rfl | member
      · rw [Event.isError_eq_false begins (by decide)] at isError
        contradiction
      · rcases List.mem_append.1 member with member | member
        · obtain ⟨fragment, warnedBy⟩ := Fragment.exists_warnedBy_of_mem warned member
          rw [Event.isError_eq_false warnedBy.marked (by decide)] at isError
          contradiction
        · exact closes.code_of_isError member isError
    exact ⟨same, CommandLine.isError_of_mem_reportable same⟩

/-- This source has an operator that loses a letter where an operand should stand, so that its run
warns, tells that lexing succeeded, and fails. -/
theorem emitted_tells_outcome_operator :
    "+é b".length ≤ UInt32.size - 2 ∧ Level.info ≠ .debug ∧
      ∃ run start warning lexed refused, ofSource? ⟨false, true, true, false⟩ "+é b" = some run ∧
        LoggingSettings.emitted ⟨false, false, .info⟩ run.events =
          [start, warning, lexed, refused] ∧
        warning.mark = (.warning, "W020") ∧ refused.mark = (.error, "E050") ∧
        refused.span = some ⟨⟨0, 1, 1⟩, ⟨1, 1, 2⟩⟩ := by
  refine ⟨by decide, by decide, ?_⟩
  obtain ⟨lexing, run, start, warnings, closing, lexed, ran, emitted, -, warned, -, closes, -, -⟩ :=
    emitted_tells_outcome ⟨false, true, true, false⟩ "+é b" ⟨false, false, .info⟩ (by decide)
      (by decide)
  have outcome : (ofSource? ⟨false, true, true, false⟩ "+é b").map (·.result) =
      some (.error (.parsing (.unexpectedToken "operand" "+" ⟨⟨0, 1, 1⟩, ⟨1, 1, 2⟩⟩))) := rfl
  rw [ran, Option.map_some, Option.some.injEq] at outcome
  rw [outcome] at closes
  have surplus : Lexing.truncated ⟨false, true, true, false⟩ "+é b".toList =
      [⟨0, [], ['+', 'é']⟩] := by decide
  rw [surplus] at warned
  obtain ⟨warning, later, warnedBy, none, rfl⟩ := List.forall₂_cons_left_iff.1 (warned rfl).1
  obtain rfl := List.forall₂_nil_left_iff.1 none
  cases closes with
  | @parsing error lexedEvent refused limit lexedMark limitMarks refusedMark place =>
    obtain rfl : limit = [] := List.map_eq_nil_iff.1 limitMarks
    exact ⟨run, start, warning, lexedEvent, refused, ran, emitted, warnedBy.marked, refusedMark,
      place⟩

end FrontRun

end LexisFront
