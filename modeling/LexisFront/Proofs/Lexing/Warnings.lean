import LexisFront.Proofs.Lexing.Truncation
import Mathlib.Data.List.Forall2

/-!
# Warnings of a run

A run warns about each operator that loses characters, in the order of the source, and ends with
one event that tells its outcome. `Fragment.hasSurplus` says of which fragments there is something
to warn about, from their text alone; a fragment without surplus drops nothing, and one with
surplus keeps its glyph and drops what follows it. Which fragments a run takes does not depend on
whether it warns, so the number of warnings is the counter of the run.
-/

namespace LexisFront

namespace Event

/-- How urgent an event is, and its code. -/
def mark (event : Event) : Level × Code := (event.level, event.code)

/-- The level of an event is that of its mark. -/
theorem level_of_mark {event : Event} {level : Level} {code : Code}
    (marked : event.mark = (level, code)) : event.level = level :=
  congrArg Prod.fst marked

/-- The code of an event is that of its mark. -/
theorem code_of_mark {event : Event} {level : Level} {code : Code}
    (marked : event.mark = (level, code)) : event.code = code :=
  congrArg Prod.snd marked

/-- An event with a level other than that of errors is none. -/
theorem isError_eq_false {event : Event} {level : Level} {code : Code}
    (marked : event.mark = (level, code)) (mild : level ≠ .error) : event.isError = false := by
  rw [isError, level_of_mark marked]
  exact beq_eq_false_iff_ne.2 mild

/-- An event with a level other than that of debugging is not for debugging. -/
theorem isDebug_eq_false {event : Event} {level : Level} {code : Code}
    (marked : event.mark = (level, code)) (proper : level ≠ .debug) : event.isDebug = false := by
  rw [isDebug, level_of_mark marked]
  exact beq_eq_false_iff_ne.2 proper

end Event

namespace Fragment

/-- The fragment opens with the glyph of an operator, and more characters follow. -/
def hasSurplus (fragment : Fragment) : Bool :=
  (fragment.text.head?.bind (glyphKinds.lookup ·)).isSome && 1 < fragment.text.length

/-- The warning about a fragment with surplus. -/
def warning (fragment : Fragment) : Event :=
  Lexing.truncationEvent fragment.span fragment.text (String.ofList (fragment.text.take 1))
    (fragment.text.drop 1)

/-- The warnings about fragments that a run takes, if it is to warn. -/
def warnings (settings : LexicalSettings) (taken : List Fragment) : List Event :=
  if settings.warnOnTruncation then (taken.filter hasSurplus).map warning else []

/-- A warning about a fragment: its code, its place, and the text of the fragment in two parts, of
which the first is one character. -/
structure WarnedBy (fragment : Fragment) (event : Event) : Prop where
  /-- The level and the code. -/
  marked : event.mark = (.warning, "W020")
  /-- The place. -/
  placed : event.span = some fragment.span
  /-- The two parts. -/
  parted : ∃ kept dropped, event.context.lookup "kept" = some kept ∧
    event.context.lookup "dropped" = some dropped ∧ kept.length = 1 ∧
    kept ++ dropped = String.ofList fragment.text

variable {settings : LexicalSettings} {fragment : Fragment} {token : Token}

/-- A token holds the first character of a fragment with surplus, and all of any other. -/
theorem value_of_judge_ok (judged : fragment.judge settings = .ok token) :
    token.value = String.ofList
      (if fragment.hasSurplus then fragment.text.take 1 else fragment.text) := by
  unfold judge at judged
  split at judged
  · contradiction
  · split at judged
    · rename_i kind opened
      split at judged
      · contradiction
      · obtain rfl := Except.ok.inj judged
        -- A glyph alone is its own first character, so it is kept whole.
        by_cases more : 1 < fragment.text.length
        · simp [hasSurplus, opened, more, Fragment.token]
        · have whole : fragment.text.take 1 = fragment.text :=
            List.take_of_length_le (Nat.le_of_not_lt more)
          simp [hasSurplus, opened, more, Fragment.token, whole]
    · rename_i closed
      have none : fragment.hasSurplus = false := by simp [hasSurplus, closed]
      split at judged
      · obtain rfl := Except.ok.inj judged
        simp [none, Fragment.token]
      · split at judged
        · obtain rfl := Except.ok.inj judged
          simp [none, Fragment.token]
        · contradiction

/-- A fragment with surplus has more characters than its glyph. -/
theorem one_lt_length_of_hasSurplus (surplus : fragment.hasSurplus = true) :
    1 < fragment.text.length := by
  simp only [hasSurplus, Bool.and_eq_true, decide_eq_true_iff] at surplus
  exact surplus.2

/-- Something follows the glyph of a fragment with surplus. -/
theorem drop_one_ne_nil_of_hasSurplus (surplus : fragment.hasSurplus = true) :
    fragment.text.drop 1 ≠ [] := by
  have more := one_lt_length_of_hasSurplus surplus
  rw [ne_eq, List.drop_eq_nil_iff]
  omega

/-- A token leaves what follows the glyph of a fragment with surplus, and nothing of any other. -/
theorem drop_of_judge_ok (judged : fragment.judge settings = .ok token) :
    fragment.text.drop token.value.length =
      if fragment.hasSurplus then fragment.text.drop 1 else [] := by
  rw [value_of_judge_ok judged, String.length_ofList]
  by_cases surplus : fragment.hasSurplus = true
  · have more := one_lt_length_of_hasSurplus surplus
    simp [surplus, Nat.min_eq_left more.le]
  · simp [surplus]

/-- A fragment that is a token drops characters exactly when it has surplus. -/
theorem dropped_ne_nil_iff (judged : fragment.judge settings = .ok token) :
    fragment.dropped settings ≠ [] ↔ fragment.hasSurplus = true := by
  have left : fragment.dropped settings = fragment.text.drop token.value.length := by
    rw [dropped, judged]
  rw [left, drop_of_judge_ok judged]
  by_cases surplus : fragment.hasSurplus = true
  · rw [if_pos surplus]
    exact iff_of_true (drop_one_ne_nil_of_hasSurplus surplus) surplus
  · simp [surplus]

/-- The warning about a fragment with surplus gives its glyph and what follows. -/
theorem warnedBy_warning (surplus : fragment.hasSurplus = true) :
    fragment.WarnedBy fragment.warning := by
  have more := one_lt_length_of_hasSurplus surplus
  refine ⟨rfl, rfl, String.ofList (fragment.text.take 1), String.ofList (fragment.text.drop 1),
    rfl, rfl, ?_, ?_⟩
  · rw [String.length_ofList, List.length_take]
    omega
  · rw [← String.ofList_append, List.take_append_drop]

/-- A fragment that is taken is a token. -/
theorem exists_judge_of_mem_taken {limit : Nat} {visible : List Fragment}
    (member : fragment ∈ taken settings limit visible) :
    ∃ token, fragment.judge settings = .ok token := by
  have isToken := List.mem_takeWhile_imp member
  cases judged : fragment.judge settings with
  | ok token => exact ⟨token, rfl⟩
  | error error => simp [judged, Except.isOk, Except.toBool] at isToken

/-- There is one warning about each fragment with surplus, in order, if a run is to warn. -/
theorem forall₂_warnings (settings : LexicalSettings) (taken : List Fragment) :
    List.Forall₂ WarnedBy (if settings.warnOnTruncation then taken.filter hasSurplus else [])
      (warnings settings taken) := by
  unfold warnings
  split
  · rw [List.forall₂_map_right_iff, List.forall₂_same]
    intro fragment member
    exact warnedBy_warning (List.mem_filter.1 member).2
  · exact .nil

/-- A warning is about a fragment. -/
theorem exists_warnedBy_of_mem {fragments : List Fragment} {warnings : List Event}
    (warned : List.Forall₂ WarnedBy fragments warnings) {event : Event}
    (member : event ∈ warnings) : ∃ fragment : Fragment, fragment.WarnedBy event := by
  induction warned with
  | nil => contradiction
  | @cons fragment warning fragments warnings first later ih =>
    rcases List.mem_cons.1 member with rfl | member
    · exact ⟨fragment, first⟩
    · exact ih member

/-- The warnings about fragments begin with those about the first one. -/
theorem warnings_cons (settings : LexicalSettings) (fragment : Fragment) (rest : List Fragment) :
    warnings settings (fragment :: rest) =
      warnings settings [fragment] ++ warnings settings rest := by
  unfold warnings
  split
  · rw [← List.singleton_append, List.filter_append, List.map_append]
  · rfl

end Fragment

namespace Lexing

/-- How urgent the last event of a run is, and its code. -/
def mark (lexing : Lexing) : Level × Code :=
  match lexing.result with
  | .ok _ => (.info, .lexingComplete)
  | .error error => (.error, error.code)

/-- The event that tells the outcome of lexing is not for debugging. -/
theorem isDebug_of_mark {lexing : Lexing} {event : Event}
    (marked : event.mark = lexing.mark) : event.isDebug = false := by
  unfold mark at marked
  split at marked
  · exact Event.isDebug_eq_false marked (by decide)
  · exact Event.isDebug_eq_false marked (by decide)

/-- The event of a failure carries the code of its error. -/
theorem mark_failureEvent (error : LexicalError) (span : Span) :
    (failureEvent error span).mark = (.error, error.code) := by
  cases error <;> rfl

end Lexing

namespace Lexer

/-- The token of a fragment adds the warning about it, if there is one. -/
theorem toList_warnedToken {settings : LexicalSettings} {fragment : Fragment} {token : Token}
    (judged : fragment.judge settings = .ok token) (warnings : Array Event) :
    (warnedToken settings warnings fragment token).toList =
      warnings.toList ++ Fragment.warnings settings [fragment] := by
  have left := Fragment.drop_of_judge_ok judged
  have kept := Fragment.value_of_judge_ok judged
  rw [warnedToken, warn, left, Fragment.warnings]
  by_cases surplus : fragment.hasSurplus = true
  · have more : (fragment.text.drop 1).isEmpty = false :=
      List.isEmpty_eq_false_iff.2 (Fragment.drop_one_ne_nil_of_hasSurplus surplus)
    rw [if_pos surplus] at kept
    rw [if_pos surplus, more, kept]
    cases settings.warnOnTruncation <;> simp [surplus, Fragment.warning]
  · simp [surplus]

/-- A run emits the warnings about the fragments that it takes, after those that it already has,
and then one event that tells its outcome. -/
theorem Runs.events_eq {settings : LexicalSettings} {stop : Position} {lexer : Lexer}
    {fragments : List Fragment} {lexing : Lexing}
    (runs : Runs settings stop lexer fragments lexing) :
    ∃ last : Event, last.mark = lexing.mark ∧
      lexing.events = lexer.warnings.toList ++
        Fragment.warnings settings (Fragment.takenAfter settings lexer.run fragments) ++
          [last] := by
  have silent : Fragment.warnings settings [] = [] := by simp [Fragment.warnings]
  induction runs with
  | @finish lexer =>
    refine ⟨Lexing.successEvent (Lexer.finish { lexer with cursor := stop }).tally, rfl, ?_⟩
    rw [Fragment.takenAfter_nil, silent, List.append_nil]
    rfl
  | skip blank later ih =>
    rw [Fragment.takenAfter_of_blank blank]
    exact ih
  | @full lexer fragment rest visible many =>
    refine ⟨_, Lexing.mark_failureEvent _ fragment.span, ?_⟩
    rw [Fragment.takenAfter_of_full many, silent, List.append_nil]
    rfl
  | @refuse lexer fragment rest error visible few judged =>
    refine ⟨_, Lexing.mark_failureEvent error fragment.span, ?_⟩
    rw [Fragment.takenAfter_of_judge_error visible judged, silent, List.append_nil]
    rfl
  | @accept lexer cursor run fragment rest token lexing visible few judged pushed later ih =>
    obtain ⟨last, marked, emitted⟩ := ih
    refine ⟨last, marked, ?_⟩
    rw [Fragment.takenAfter_of_judge_ok visible few judged pushed, Fragment.warnings_cons, emitted,
      toList_warnedToken judged, ← List.append_assoc]

end Lexer

namespace Lexing

/-- The fragments of a source that lose characters in a run, in order. -/
def truncated (settings : LexicalSettings) (source : List Char) : List Fragment :=
  (Fragment.taken settings (Limits.maxTokenCount - 1)
    (Fragment.visible settings source)).filter Fragment.hasSurplus

variable {settings : LexicalSettings} {source : String} {lexing : Lexing}

/-- Lexing a source counts the fragments that lose characters. -/
theorem truncatedOperators_eq_length (lexed : ofSource? settings source = some lexing) :
    lexing.tally.truncatedOperators = (truncated settings source.toList).length := by
  rw [truncatedOperators_eq_countP_taken lexed, truncated, ← List.countP_eq_length_filter]
  apply List.countP_congr
  intro fragment member
  obtain ⟨token, judged⟩ := Fragment.exists_judge_of_mem_taken member
  rw [decide_eq_true_iff]
  exact Fragment.dropped_ne_nil_iff judged

/-- Lexing a source emits the event of its beginning, the warnings about the fragments that lose
characters, if it is to warn, and the event of its outcome. -/
theorem exists_events_eq (lexed : ofSource? settings source = some lexing) :
    ∃ warnings last, lexing.events = startEvent settings source :: (warnings ++ [last]) ∧
      last.mark = lexing.mark ∧
      List.Forall₂ Fragment.WarnedBy
        (if settings.warnOnTruncation then truncated settings source.toList else [])
        warnings := by
  obtain ⟨outcome, runs, rfl⟩ := runs_of_ofSource? lexed
  obtain ⟨last, marked, emitted⟩ := runs.events_eq
  refine ⟨_, last, congrArg (startEvent settings source :: ·) emitted, marked, ?_⟩
  exact Fragment.forall₂_warnings settings _

end Lexing

end LexisFront
