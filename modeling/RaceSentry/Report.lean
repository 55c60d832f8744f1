import RaceSentry.Calendar.Timestamp
import RaceSentry.Conflict
import RaceSentry.Uuid

/-!
# Reports

A flagged access is sighted with everything that stands against it. A report names one of these
entries, and gives itself and the moment an identity that outlives the program.
-/

namespace RaceSentry

/-- A flagged access, with all entries that stand against it. -/
structure Sighting where
  /-- The value accessed. -/
  value : ValueId
  /-- The label of the value. -/
  label : Option String
  /-- Who accessed it, and how. -/
  key : AccessKey
  /-- The name of the accessing thread. -/
  threadName : Option String
  /-- What the thread had not caught up with. -/
  candidates : List Conflict
  deriving DecidableEq, Repr

namespace Sighting

/-- Whether a report of this access says that the thread fell behind: nothing, if that depends on
the entry which the report names. -/
def isStale? (sighting : Sighting) : Option Bool :=
  if sighting.candidates.all Conflict.isStale then some true
  else if sighting.candidates.any Conflict.isStale then none
  else some false

end Sighting

/-- The earlier access that a report names. -/
structure ConflictingAccess where
  /-- The thread that made it. -/
  thread : String
  /-- What it did. -/
  access : AccessKind
  /-- How many such accesses that thread had made. -/
  authoritative : Nat
  /-- How many of them the flagged thread had seen, if any. -/
  observed : Option Nat
  deriving DecidableEq, Repr

namespace ConflictingAccess

/-- Puts an entry into a report. -/
def ofConflict (conflict : Conflict) : ConflictingAccess :=
  ⟨conflict.key.thread.text, conflict.key.kind, conflict.authoritative, conflict.observed⟩

end ConflictingAccess

/-- A report of one flagged access. -/
structure RaceReport where
  /-- Identity of the report. -/
  id : Uuid
  /-- Identity of the value. -/
  valueId : Uuid
  /-- The label of the value. -/
  label : Option String
  /-- The accessing thread. -/
  thread : String
  /-- Its name. -/
  threadName : Option String
  /-- What it did. -/
  access : AccessKind
  /-- The earlier access it had not caught up with. -/
  conflicting : ConflictingAccess
  /-- When the report was made. -/
  timestamp : Timestamp
  deriving DecidableEq

namespace RaceReport

/-- The bytes that a channel sets aside for one report. -/
def slotBytes : Nat := 184

/-- Reports an access of the given key. -/
def new (id valueId : Uuid) (timestamp : Timestamp) (label : Option String) (key : AccessKey)
    (threadName : Option String) (conflict : Conflict) : RaceReport :=
  ⟨id, valueId, label, key.thread.text, threadName, key.kind, .ofConflict conflict, timestamp⟩

/-- The thread had once seen the other thread's accesses, but fell behind. -/
def isStale (report : RaceReport) : Bool := report.conflicting.observed.isSome

end RaceReport

/-- How often accesses to one value were flagged. -/
structure ValueRaceStats where
  /-- Identity of the value. -/
  valueId : Uuid
  /-- Its label. -/
  label : Option String
  /-- The number of flagged accesses. -/
  races : Nat
  deriving DecidableEq, Repr

end RaceSentry
