import LexisFront.Diagnostic.Event
import LexisFront.Limits

/-!
# Journals

A journal keeps the newest events, oldest first, up to its capacity; when it is full, the
oldest event makes room. A recorder stands before a journal: it drops events less urgent than
its threshold and shortens long messages.
-/

namespace LexisFront

/-- A bounded store of events. A journal can always hold one event, so a full one has an event to
drop for the next. -/
structure Journal where
  /-- The most events kept. -/
  capacity : Nat
  /-- There is room for one event at least. -/
  capacity_pos : 0 < capacity
  /-- The kept events, oldest first. -/
  store : Array Event
deriving DecidableEq, Repr

namespace Journal

/-- The empty journal with a capacity, or with room for one event if that is none. -/
def withCapacity (capacity : Nat) : Journal :=
  ⟨max capacity 1, Nat.le_max_right capacity 1, #[]⟩

/-- The empty journal of the usual capacity. -/
def standard : Journal := withCapacity Limits.logBufferSize

instance : Inhabited Journal := ⟨standard⟩

/-- Some events without so many of the oldest; there have to be that many. -/
def dropOldest (events : Array Event) (count : Nat) (_enough : count ≤ events.size) :
    Array Event :=
  events.drop count

/-- The events that are left keep their order. -/
@[simp]
theorem toList_dropOldest {events : Array Event} {count : Nat} (enough : count ≤ events.size) :
    (dropOldest events count enough).toList = events.toList.drop count := by
  rw [dropOldest, Array.drop_eq_extract, Array.toList_extract]
  exact List.take_of_length_le (by simp)

/-- Adds an event. A full store first drops its oldest events, as many as exceed the capacity
together with the new one. -/
def push (journal : Journal) (event : Event) : Journal :=
  match journal with
  | ⟨capacity, positive, store⟩ =>
    if capacity ≤ store.size then
      have enough : store.size + 1 - capacity ≤ store.size := by omega
      ⟨capacity, positive, (dropOldest store (store.size + 1 - capacity) enough).push event⟩
    else
      ⟨capacity, positive, store.push event⟩

/-- The number of kept events. -/
def size (journal : Journal) : Nat := journal.store.size

/-- Drops every event. -/
def clear (journal : Journal) : Journal := { journal with store := #[] }

/-- The kept events, oldest first. -/
def toList (journal : Journal) : List Event := journal.store.toList

/-- The size of a journal is the number of its kept events. -/
@[simp]
theorem length_toList_eq_size (journal : Journal) : journal.toList.length = journal.size :=
  Array.length_toList

/-- The kept warnings, oldest first. -/
def warnings (journal : Journal) : List Event :=
  journal.toList.filter (·.isWarning)

/-- Whether an error with a code is kept. -/
def hasError (journal : Journal) (code : Code) : Bool :=
  journal.toList.any fun event => event.isError && event.code == code

/-- The kept errors and warnings, oldest first. -/
def problems (journal : Journal) : List Event :=
  journal.toList.filter fun event => Level.warning.admits event.level

end Journal

/-- A message without the characters beyond the limit, which an ellipsis replaces. -/
def shortenMessage (message : String) : String :=
  match message.toList.drop Limits.maxLogMessageLength with
  | [] => message
  | _ :: _ => String.ofList (message.toList.take Limits.maxLogMessageLength) ++ "..."

/-- A threshold before a journal. -/
structure Recorder where
  /-- The least urgent level that is recorded. -/
  threshold : Level
  /-- Where events go. -/
  journal : Journal
deriving DecidableEq, Repr, Inhabited

namespace Recorder

/-- Whether events of a level are recorded. -/
def admits (recorder : Recorder) (level : Level) : Bool :=
  recorder.threshold.admits level

/-- Records an event that the threshold admits, with a shortened message. -/
def record (recorder : Recorder) (event : Event) : Recorder :=
  if recorder.admits event.level then
    { recorder with
      journal := recorder.journal.push { event with message := shortenMessage event.message } }
  else
    recorder

/-- Records events in order. -/
def recordAll (recorder : Recorder) (events : List Event) : Recorder :=
  events.foldl record recorder

/-- The recorder that keeps every level in a journal of the usual capacity. -/
def everything : Recorder := ⟨.debug, .standard⟩

end Recorder

/-- Why a recorder cannot be installed. -/
inductive InstallError where
  /-- There is a recorder already. -/
  | alreadyInstalled
deriving DecidableEq, Repr

namespace InstallError

/-- An error in words. -/
def message : InstallError → String
  | alreadyInstalled => "Global logger already initialized"

end InstallError

namespace Recorder

/-- Installs a recorder; the first one installed stays. -/
def install (installed : Option Recorder) (recorder : Recorder) :
    Except InstallError Recorder :=
  match installed with
  | none => .ok recorder
  | some _ => .error .alreadyInstalled

end Recorder

end LexisFront
