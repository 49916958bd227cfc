import LexisFront.Diagnostic.Journal
import Mathlib.Data.List.DropRight

/-!
# What a journal retains

A recorder is asked to log events and to clear its journal, in any order and for any length of
time. What the journal then holds is said here without its store: of the events logged since the
last clearing, those urgent enough for the threshold, with long messages clipped, the newest ones
up to the capacity.

Only a full store drops events, and it counts what it drops from its size and its capacity. Two
lemmas meet there: one says what adding an event does to the store, the other how the newest of some
events change when there is one more. A call keeps the store in step with the events that were
admitted, and a run of calls does so by induction on its last call.
-/

namespace LexisFront

namespace Journal

/-- Adding an event keeps the capacity. -/
@[simp]
theorem capacity_push (journal : Journal) (event : Event) :
    (journal.push event).capacity = journal.capacity := by
  obtain ⟨capacity, positive, store⟩ := journal
  rw [push]
  split <;> rfl

/-- Adding an event puts it after the kept ones, less the oldest of them for which there is no room
any more. -/
theorem toList_push (journal : Journal) (event : Event) :
    (journal.push event).toList =
      journal.toList.drop (journal.size + 1 - journal.capacity) ++ [event] := by
  obtain ⟨capacity, positive, store⟩ := journal
  simp only [toList, size]
  rw [push]
  by_cases full : capacity ≤ store.size
  · rw [if_pos full, Array.toList_push, toList_dropOldest]
  · have room : store.size + 1 - capacity = 0 := by omega
    rw [if_neg full, Array.toList_push, room, List.drop_zero]

/-- With one more event, the newest ones are that event after the newest of the others, less the
oldest of these if they were as many as the capacity already. -/
theorem rtake_concat (events : List Event) (event : Event) {capacity : Nat}
    (positive : 0 < capacity) :
    (events ++ [event]).rtake capacity =
      (events.rtake capacity).drop ((events.rtake capacity).length + 1 - capacity) ++ [event] := by
  obtain ⟨room, rfl⟩ := Nat.exists_eq_add_of_lt positive
  rw [Nat.zero_add, List.rtake_concat_succ]
  simp only [List.rtake, List.drop_drop, List.length_drop]
  congr 2
  omega

end Journal

/-- The event with a message of more characters than allowed cut to its first ones, which an
ellipsis follows. -/
def Event.clipped (event : Event) : Event :=
  if Limits.maxLogMessageLength < event.message.length then
    { event with
      message := String.ofList (event.message.toList.take Limits.maxLogMessageLength) ++ "..." }
  else
    event

/-- Shortening the message of an event clips the event. -/
theorem Event.shortenMessage_eq (event : Event) :
    { event with message := shortenMessage event.message } = event.clipped := by
  unfold clipped shortenMessage
  by_cases long : Limits.maxLogMessageLength < event.message.length
  · have rest : event.message.toList.drop Limits.maxLogMessageLength ≠ [] := by
      intro empty
      have short := List.drop_eq_nil_iff.1 empty
      rw [String.length_toList] at short
      omega
    obtain ⟨c, others, shape⟩ := List.exists_cons_of_ne_nil rest
    simp only [shape, if_pos long]
  · have none : event.message.toList.drop Limits.maxLogMessageLength = [] := by
      apply List.drop_eq_nil_of_le
      rw [String.length_toList]
      omega
    simp only [none, if_neg long]

namespace Recorder

/-- What a recorder is asked to do. -/
inductive Call where
  /-- Log an event. -/
  | log (event : Event)
  /-- Clear the journal. -/
  | clear
deriving DecidableEq, Repr

/-- The event that a call logs. -/
def Call.event? : Call → Option Event
  | log event => some event
  | clear => none

/-- Does what a call asks. -/
def perform (recorder : Recorder) : Call → Recorder
  | .log event => recorder.record event
  | .clear => { recorder with journal := recorder.journal.clear }

/-- Does what calls ask, in order. -/
def performAll (recorder : Recorder) (calls : List Call) : Recorder :=
  calls.foldl perform recorder

/-- The events logged by the calls after the last one that clears. -/
def sinceClear (calls : List Call) : List Event :=
  (calls.rtakeWhile fun call => call.event?.isSome).filterMap Call.event?

/-- The events logged since the last clearing that are as urgent as a threshold or more, clipped. -/
def admitted (threshold : Level) (calls : List Call) : List Event :=
  ((sinceClear calls).filter fun event => event.level.rank ≤ threshold.rank).map Event.clipped

/-- Logging an event puts it after those logged since the last clearing. -/
theorem sinceClear_log (calls : List Call) (event : Event) :
    sinceClear (calls ++ [.log event]) = sinceClear calls ++ [event] := by
  rw [sinceClear, List.rtakeWhile_concat_pos _ _ _ rfl, List.filterMap_append]
  rfl

/-- Nothing is logged since a clearing. -/
theorem sinceClear_clear (calls : List Call) : sinceClear (calls ++ [.clear]) = [] := by
  rw [sinceClear, List.rtakeWhile_concat_neg _ _ _ Bool.false_ne_true]
  rfl

/-- A recorder with a threshold and a capacity holds the newest of some events. -/
structure Holds (recorder : Recorder) (threshold : Level) (capacity : Nat)
    (events : List Event) : Prop where
  /-- The threshold is the given one. -/
  threshold_eq : recorder.threshold = threshold
  /-- The capacity is the given one. -/
  capacity_eq : recorder.journal.capacity = capacity
  /-- The kept events are the newest ones. -/
  toList_eq : recorder.journal.toList = events.rtake capacity

variable {recorder : Recorder} {threshold : Level} {capacity : Nat} {calls : List Call}

/-- A call to log an event keeps the newest of the admitted events. -/
theorem Holds.log (holds : recorder.Holds threshold capacity (admitted threshold calls))
    (event : Event) :
    (recorder.perform (.log event)).Holds threshold capacity
      (admitted threshold (calls ++ [.log event])) := by
  obtain ⟨rfl, rfl, kept⟩ := holds
  by_cases urgent : event.level.rank ≤ recorder.threshold.rank
  · have grown : admitted recorder.threshold (calls ++ [.log event]) =
        admitted recorder.threshold calls ++ [event.clipped] := by
      simp [admitted, sinceClear_log, urgent]
    have recorded : recorder.perform (.log event) =
        { recorder with journal := recorder.journal.push event.clipped } := by
      rw [← Event.shortenMessage_eq]
      exact if_pos (decide_eq_true urgent)
    rw [grown, recorded]
    refine ⟨rfl, Journal.capacity_push _ _, ?_⟩
    rw [Journal.toList_push, ← Journal.length_toList_eq_size, kept]
    exact (Journal.rtake_concat _ _ recorder.journal.capacity_pos).symm
  · have same : admitted recorder.threshold (calls ++ [.log event]) =
        admitted recorder.threshold calls := by
      simp [admitted, sinceClear_log, urgent]
    have unchanged : recorder.perform (.log event) = recorder :=
      if_neg (by simpa [admits, Level.admits] using urgent)
    rw [same, unchanged]
    exact ⟨rfl, rfl, kept⟩

/-- A call to clear the journal leaves nothing, and nothing is admitted since. -/
theorem Holds.clear {events : List Event} (holds : recorder.Holds threshold capacity events)
    (calls : List Call) :
    (recorder.perform .clear).Holds threshold capacity
      (admitted threshold (calls ++ [.clear])) := by
  refine ⟨holds.threshold_eq, holds.capacity_eq, ?_⟩
  rw [admitted, sinceClear_clear]
  simp [perform, Journal.clear, Journal.toList]

/-- After any calls a recorder holds the newest of the admitted events. -/
theorem holds_performAll (capacity : Nat) (threshold : Level) (calls : List Call) :
    (performAll ⟨threshold, .withCapacity capacity⟩ calls).Holds threshold (max capacity 1)
      (admitted threshold calls) := by
  induction calls using List.reverseRecOn with
  | nil => exact ⟨rfl, rfl, by simp [performAll, Journal.withCapacity, Journal.toList, admitted,
      sinceClear]⟩
  | append_singleton calls call ih =>
    have last : performAll ⟨threshold, .withCapacity capacity⟩ (calls ++ [call]) =
        (performAll ⟨threshold, .withCapacity capacity⟩ calls).perform call := by
      simp [performAll]
    rw [last]
    cases call with
    | log event => exact ih.log event
    | clear => exact ih.clear calls

/-- Whatever a recorder over a journal of some capacity is asked to do, the journal keeps exactly
the newest of the admitted events, as many as the capacity and at least one. So it never holds
more than that, its warnings are the warnings among them, and it has an error with a code exactly
when one of them is such an error. -/
theorem journal_keeps_newest (capacity : Nat) (threshold : Level) (calls : List Call) :
    let journal := (performAll ⟨threshold, .withCapacity capacity⟩ calls).journal
    let newest := (admitted threshold calls).rtake (max capacity 1)
    journal.toList = newest ∧ journal.size = newest.length ∧ journal.size ≤ max capacity 1 ∧
      journal.warnings = newest.filter (fun event => event.level = .warning) ∧
      ∀ code, journal.hasError code = true ↔
        ∃ event ∈ newest, event.level = .error ∧ event.code = code := by
  intro journal newest
  have view : journal.toList = newest := (holds_performAll capacity threshold calls).toList_eq
  have count : journal.size = newest.length := by rw [← view, Journal.length_toList_eq_size]
  have few : newest.length ≤ max capacity 1 := by
    simp only [newest, List.rtake, List.length_drop]
    omega
  refine ⟨view, count, count.trans_le few, ?_, fun code => ?_⟩
  · rw [Journal.warnings, view]
    rfl
  · rw [Journal.hasError, view, List.any_eq_true]
    simp only [Event.isError, Bool.and_eq_true, beq_iff_eq]

end Recorder

end LexisFront
