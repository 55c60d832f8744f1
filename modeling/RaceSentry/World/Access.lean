import RaceSentry.World.Basic

/-!
# Accesses, sections and contexts

What a thread does to the world, in the smallest units between which other threads may act: an
access begins and ends, with the thread's closure in between; a section is entered and left, with
the thread's block in between; a context is worked on.

An access begins under the value's lock. It is counted in the authoritative table, the new
counter goes into the thread's snapshot, and the two tables are compared. If anything stands
against the access, the thread is flagged, the ledger counts it, and a report is sent.
-/

namespace RaceSentry

/-- How an attempt to begin something comes out. -/
inductive Attempt (β : Type) where
  /-- There is no such value. -/
  | noValue
  /-- Another thread holds the value's lock. -/
  | blocked
  /-- The thread's work is cut short. -/
  | faulted (fault : Fault)
  /-- It has begun. -/
  | begun (result : β)

namespace World

variable {α β : Type}

/-- Binds a context to a thread. -/
def bindContext (world : World α) (thread : ThreadId) (context : ThreadContext) : World α :=
  world.setThread thread { world.thread thread with context := some context }

/-- Tells that a context is bound to a thread. -/
def noteAttached (world : World α) (context : ThreadContext) : World α :=
  world.note (.attached context.identity context.name)

/-- The context of a thread, made and bound if there is none. -/
def ensureContext (world : World α) (thread : ThreadId) : World α × ThreadContext :=
  let state := world.thread thread
  match state.context with
  | some context => (world, context)
  | none =>
    let context := ThreadContext.new thread state.name
    ((world.noteAttached context).bindContext thread context, context)

/-- Works on the context of a thread, unless it is being worked on already. -/
def withContext (world : World α) (thread : ThreadId)
    (work : ThreadContext → ThreadContext × β) : World α × Except Fault β :=
  if (world.thread thread).contextInUse then (world, .error .borrowed)
  else
    let (world, context) := world.ensureContext thread
    let (context, result) := work context
    (world.bindContext thread context, .ok result)

/-- Begins work on the context of a thread that lasts. -/
def openContext (world : World α) (thread : ThreadId) : World α × Except Fault Unit :=
  if (world.thread thread).contextInUse then (world, .error .borrowed)
  else
    let (world, _) := world.ensureContext thread
    (world.setThread thread { world.thread thread with contextInUse := true }, .ok ())

/-- Ends work on the context of a thread. -/
def closeContext (world : World α) (thread : ThreadId) : World α :=
  world.setThread thread { world.thread thread with contextInUse := false }

/-- Tells the detector of a value of a flagged access: the ledger counts it, and a report is
sent. -/
def report (world : World α) (sink : Option DetectorId) (sighting : Sighting) : World α :=
  match sink with
  | none => world
  | some id =>
    match world.detectors.get? id with
    | none => world
    | some detector =>
      match (detector.tally sighting).deliver sighting with
      | (detector, none) => world.setDetector id detector
      | (detector, some reason) => (world.setDetector id detector).note (.reportLost reason)

/-- Flags an access: the thread joins those that race on the value, and the detector hears of
it. -/
def flag (world : World α) (cell : Cell α) (sighting : Sighting) : World α :=
  let world := world.setCell sighting.value (cell.flag sighting.key.thread)
  (world.note (.raced sighting)).report cell.sink sighting

/-- Counts and judges an access, and gives the sighting if it is flagged. Without a snapshot to
compare with, the thread's work is cut short. Nothing is done when detection is off. -/
def recordAccess (world : World α) (value : ValueId) (cell : Cell α) (key : AccessKey) :
    World α × Except Fault (Option Sighting) :=
  if cell.detecting then
    let counter := cell.clock.next key
    let cell := cell.count key
    let world := (world.setCell value cell).note (.recorded value key counter)
    let (world, judged) := world.withContext key.thread fun context =>
      let context := context.record value key counter
      (context, (context.snapshot? value).map fun snapshot =>
        Conflict.unseen cell.clock snapshot key.kind)
    match judged with
    | .error fault => (world, .error fault)
    | .ok none => (world.note (.snapshotMissing value key), .error (.snapshotMissing value key))
    | .ok (some []) => (world, .ok none)
    | .ok (some candidates) =>
      let sighting : Sighting :=
        ⟨value, cell.label, key, (world.thread key.thread).name, candidates⟩
      (world.flag cell sighting, .ok (some sighting))
  else (world, .ok none)

/-- Begins an access: afterwards the thread holds the value's lock, and its closure has the
content. The result is the sighting of the access, if it is flagged. -/
def beginAccess (world : World α) (thread : ThreadId) (value : ValueId) (kind : AccessKind) :
    World α × Attempt (Option Sighting) :=
  match world.cells.get? value with
  | none => (world, .noValue)
  | some cell =>
    match cell.lock.acquire? thread with
    | none => (world, .blocked)
    | some lock =>
      if cell.borrowed then (world.note (.reentered value), .faulted (.reentered value))
      else
        match world.recordAccess value cell ⟨thread, kind⟩ with
        | (world, .error fault) => (world, .faulted fault)
        | (world, .ok sighting) =>
          (world.modifyCell value fun cell => { cell with lock := lock, borrowed := true },
            .begun sighting)

/-- Ends an access: the content is what the closure made of it, and the lock is given up. -/
def endAccess (world : World α) (value : ValueId) (change : α → α) : World α :=
  world.modifyCell value fun cell =>
    { cell.unlock with payload := change cell.payload, borrowed := false }

/-- Enters a section: afterwards the thread holds the value's lock, and its snapshot is the
authoritative table. The result is the size of that table. -/
def enterSection (world : World α) (thread : ThreadId) (value : ValueId) :
    World α × Attempt Nat :=
  match world.cells.get? value with
  | none => (world, .noValue)
  | some cell =>
    match cell.lock.acquire? thread with
    | none => (world, .blocked)
    | some lock =>
      if cell.borrowed then (world, .faulted .borrowed)
      else
        let entries := cell.clock.size
        let world := world.note (.entering value cell.label entries)
        match world.withContext thread fun context => (context.replace value cell.clock, ()) with
        | (world, .error fault) => (world, .faulted fault)
        | (world, .ok ()) =>
          (world.modifyCell value fun cell => { cell with lock := lock }, .begun entries)

/-- Leaves a section: the lock is given up. -/
def leaveSection (world : World α) (value : ValueId) : World α :=
  (world.note (.leaving value)).modifyCell value Cell.unlock

/-- Looks at a value from outside of accesses, under its lock. -/
def inspect (world : World α) (thread : ThreadId) (value : ValueId) (look : Cell α → β) :
    World α × Attempt β :=
  match world.cells.get? value with
  | none => (world, .noValue)
  | some cell =>
    if !cell.lock.admits thread then (world, .blocked)
    else if cell.borrowed then (world.note (.reentered value), .faulted (.reentered value))
    else (world, .begun (look cell))

end World

end RaceSentry
