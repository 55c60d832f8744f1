import RaceSentry.Detector
import RaceSentry.Event
import RaceSentry.Lock
import RaceSentry.ThreadContext

/-!
# Threads, values and detectors together

The state that threads work on: every thread's context, every value with its lock, every
detector, and a journal of what happened. The functions here say what state is and how its parts
are looked up and replaced; what threads do to it is in the modules beside this one.
-/

namespace RaceSentry

/-- A monitored value. -/
structure Cell (α : Type) where
  /-- A name for people. -/
  label : Option String
  /-- Whether accesses are counted and judged. -/
  detecting : Bool
  /-- The detector that hears of flagged accesses. -/
  sink : Option DetectorId
  /-- The monitored content. -/
  payload : α
  /-- Authoritative counters of all accesses. -/
  clock : ClockTable
  /-- Threads with a flagged access. -/
  racing : SortedMap ThreadId Unit
  /-- The value's lock. -/
  lock : Lock
  /-- Whether a closure has the content at its disposal. -/
  borrowed : Bool

namespace Cell

variable {α : Type}

/-- A value that nobody has accessed. -/
def new (payload : α) (label : Option String) (detecting : Bool) (sink : Option DetectorId) :
    Cell α :=
  ⟨label, detecting, sink, payload, ∅, ∅, .free, false⟩

/-- The number of threads with a flagged access. -/
def raceCount (cell : Cell α) : Nat := cell.racing.size

/-- Counts an access. -/
def count (cell : Cell α) (key : AccessKey) : Cell α :=
  { cell with clock := cell.clock.increment key }

/-- Marks a thread as racing. -/
def flag (cell : Cell α) (thread : ThreadId) : Cell α :=
  { cell with racing := cell.racing.insert thread () }

/-- Gives the lock up once. -/
def unlock (cell : Cell α) : Cell α := { cell with lock := cell.lock.release }

end Cell

/-- A running thread. -/
structure ThreadState where
  /-- The name it was started with. -/
  name : Option String
  /-- The context bound to it. -/
  context : Option ThreadContext
  /-- Whether its context is being worked on. -/
  contextInUse : Bool
  /-- Values on which it has a section open that outlasts the current step, innermost first. -/
  sections : List ValueId

namespace ThreadState

/-- A thread that has done nothing. -/
def new (name : Option String) : ThreadState := ⟨name, none, false, []⟩

end ThreadState

/-- The state of everything. -/
structure World (α : Type) where
  /-- Threads that have not ended. -/
  threads : SortedMap ThreadId ThreadState
  /-- The number of threads ever started. -/
  started : Nat
  /-- Values that have not been dropped. -/
  cells : SortedMap ValueId (Cell α)
  /-- The number of values ever made. -/
  made : Nat
  /-- All detectors ever made. -/
  detectors : SortedMap DetectorId Detector
  /-- The detectors whose channels the receivers take from. -/
  receivers : List DetectorId
  /-- What happened, latest first. -/
  journal : List Event

namespace World

variable {α : Type}

/-- Nothing exists and nothing happened. -/
def empty : World α := ⟨∅, 0, ∅, 0, ∅, [], []⟩

instance : Inhabited (World α) := ⟨empty⟩

/-- Writes an event into the journal. -/
def note (world : World α) (event : Event) : World α :=
  { world with journal := event :: world.journal }

/-- The state of a thread. One that was never started has done nothing and has no name. -/
def thread (world : World α) (id : ThreadId) : ThreadState :=
  (world.threads.get? id).getD (.new none)

/-- Replaces the state of a thread. -/
def setThread (world : World α) (id : ThreadId) (state : ThreadState) : World α :=
  { world with threads := world.threads.insert id state }

/-- Replaces a value. -/
def setCell (world : World α) (id : ValueId) (cell : Cell α) : World α :=
  { world with cells := world.cells.insert id cell }

/-- Rewrites a value that exists. -/
def modifyCell (world : World α) (id : ValueId) (change : Cell α → Cell α) : World α :=
  { world with cells := world.cells.modify id change }

/-- Replaces the state of a detector. -/
def setDetector (world : World α) (id : DetectorId) (detector : Detector) : World α :=
  { world with detectors := world.detectors.insert id detector }

/-- Whether a thread was ever started. -/
def knows (world : World α) (thread : ThreadId) : Bool := thread.index < world.started

/-- Whether reports may still be sent to the channel of a detector: it is in use, or one of its
values is. -/
def canReport (world : World α) (id : DetectorId) : Bool :=
  ((world.detectors.get? id).map Detector.inUse).getD false ||
    world.cells.values.any fun cell => cell.sink = some id

/-- What happened, earliest first. -/
def events (world : World α) : List Event := world.journal.reverse

/-- Starts the journal afresh. -/
def forgetEvents (world : World α) : World α := { world with journal := [] }

end World

end RaceSentry
