import RaceSentry.Error
import RaceSentry.Report

/-!
# Log events

Everything that the detector tells about its work, with the severity and the wording of each
event.
-/

namespace RaceSentry

/-- Severity of an event. -/
inductive Level where
  /-- Something is wrong with the program. -/
  | error
  /-- Something needs attention. -/
  | warn
  /-- The detector's own state. -/
  | info
  /-- What is done to values and contexts. -/
  | debug
  /-- Every single access. -/
  | trace
  deriving DecidableEq, Repr

namespace Level

/-- The place of a level, the most severe first. -/
def rank : Level → Nat
  | .error => 0
  | .warn => 1
  | .info => 2
  | .debug => 3
  | .trace => 4

/-- The level as it stands in front of an event. -/
def text : Level → String
  | .error => "ERROR"
  | .warn => "WARN"
  | .info => "INFO"
  | .debug => "DEBUG"
  | .trace => "TRACE"

/-- The level of a given name. -/
def ofName? : String → Option Level
  | "error" => some .error
  | "warn" => some .warn
  | "info" => some .info
  | "debug" => some .debug
  | "trace" => some .trace
  | _ => none

/-- Whether events of `level` pass a filter set to `filter`. -/
def passes (level filter : Level) : Bool := level.rank ≤ filter.rank

end Level

/-- One thing that happened. -/
inductive Event where
  /-- A detector was configured. -/
  | detectorReady (detection capture : Bool)
  /-- A value is being monitored. -/
  | monitoring (value : ValueId) (label : Option String) (detecting : Bool)
  /-- A context was bound to a thread. -/
  | attached (identity : ThreadId) (name : Option String)
  /-- A thread enters a section on a value whose clock table has that many entries. -/
  | entering (value : ValueId) (label : Option String) (entries : Nat)
  /-- A thread leaves a section. -/
  | leaving (value : ValueId)
  /-- An access was counted. -/
  | recorded (value : ValueId) (key : AccessKey) (counter : Nat)
  /-- An access was flagged. -/
  | raced (sighting : Sighting)
  /-- A report was not accepted by its channel. -/
  | reportLost (reason : DetectorError)
  /-- A value was used from inside a closure that already had it. -/
  | reentered (value : ValueId)
  /-- An access was to be judged by a thread without a snapshot of the value. -/
  | snapshotMissing (value : ValueId) (key : AccessKey)
  deriving DecidableEq

/-- A field of an event. -/
inductive FieldValue where
  /-- A text. -/
  | text (value : String)
  /-- A truth value. -/
  | flag (value : Bool)
  /-- A number. -/
  | count (value : Nat)
  deriving DecidableEq, Repr

namespace Conflict

/-- What a snapshot has of an entry, in words. -/
def observedText : Option Nat → String
  | none => "None"
  | some counter => "Some(" ++ toString counter ++ ")"

/-- The particulars of the entry to which the event of a flagged access puts it down. -/
def fields (conflict : Conflict) : List (String × FieldValue) :=
  [("conflicting", .text conflict.key.text), ("authoritative", .count conflict.authoritative),
    ("observed", .text (observedText conflict.observed))]

end Conflict

namespace Event

/-- How severe the event is. -/
def level : Event → Level
  | .detectorReady _ _ => .info
  | .monitoring _ _ _ => .debug
  | .attached _ _ => .debug
  | .entering _ _ _ => .debug
  | .leaving _ => .trace
  | .recorded _ _ _ => .trace
  | .raced _ => .warn
  | .reportLost _ => .warn
  | .reentered _ => .error
  | .snapshotMissing _ _ => .error

/-- The event in words. -/
def message : Event → String
  | .detectorReady _ _ => "race detector initialized"
  | .monitoring _ _ _ => "monitoring new value"
  | .attached _ _ => "attached thread context"
  | .entering _ _ _ => "entering synchronized section"
  | .leaving _ => "leaving synchronized section"
  | .recorded _ _ _ => "recorded access"
  | .raced _ => "data race detected"
  | .reportLost reason => "Failed to capture race report: " ++ reason.message
  | .reentered _ => "monitored value accessed from inside its own access closure"
  | .snapshotMissing _ _ => "race predicate ran without a thread snapshot"

/-- The particulars of the event, save which of several entries stood against a flagged access. -/
def fields : Event → List (String × FieldValue)
  | .detectorReady detection capture =>
    [("race_detection", .flag detection), ("capture", .flag capture)]
  | .monitoring value label detecting =>
    [("value", .text value.text), ("label", .text (label.getD "")),
      ("detection_enabled", .flag detecting)]
  | .attached identity name =>
    [("thread", .text identity.text), ("name", .text (name.getD "<unnamed>"))]
  | .entering value label entries =>
    [("value", .text value.text), ("label", .text (label.getD "")), ("entries", .count entries)]
  | .leaving value => [("value", .text value.text)]
  | .recorded value key counter =>
    [("value", .text value.text), ("key", .text key.text), ("counter", .count counter)]
  | .raced sighting =>
    [("value", .text sighting.value.text), ("label", .text (sighting.label.getD "")),
      ("thread", .text sighting.key.thread.text), ("access", .text sighting.key.kind.text)]
  | .reportLost _ => []
  | .reentered value => [("value", .text value.text)]
  | .snapshotMissing value key => [("value", .text value.text), ("key", .text key.text)]

end Event

end RaceSentry
