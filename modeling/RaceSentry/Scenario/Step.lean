import RaceSentry.Config.Document
import RaceSentry.World.Action

/-!
# Scenarios

A scenario is a list of steps, of which one runs at a time. Steps start and end threads, make and
drop detectors and values, look into detectors, or let one thread act. A thread may keep sections
open between its steps. Main functions: `World.step` and `World.play`.
-/

namespace RaceSentry

/-- One step of a scenario. -/
inductive Step (α : Type) where
  /-- Starts a thread, with a context bound to it at once if it has a name and that is wanted. -/
  | spawn (name : Option String) (attach : Bool)
  /-- Ends a thread, which leaves its sections. -/
  | exit (thread : ThreadId)
  /-- Lets a thread give up inside its sections. -/
  | crash (thread : ThreadId)
  /-- Makes a detector, from the text of a configuration if there is one. -/
  | newDetector (config : Option String)
  /-- Makes a value, of a detector if one is named. -/
  | newValue (payload : α) (detector : Option DetectorId) (label : Option String)
  /-- Gives a detector up. -/
  | dropDetector (detector : DetectorId)
  /-- Drops a value. -/
  | dropValue (value : ValueId)
  /-- Takes the content out of a value. -/
  | intoInner (value : ValueId)
  /-- Lists the ledger of a detector. -/
  | stats (detector : DetectorId)
  /-- Sums the ledger of a detector up. -/
  | total (detector : DetectorId)
  /-- Asks for the configuration of a detector. -/
  | config (detector : DetectorId)
  /-- Asks how full the channel of a detector is. -/
  | capture (detector : DetectorId)
  /-- Takes all waiting reports. -/
  | drain (detector : DetectorId)
  /-- Makes a receiver of the channel of a detector. -/
  | newReceiver (detector : DetectorId)
  /-- Takes one report. -/
  | receive (receiver : Nat)
  /-- Opens a section that outlasts the step. -/
  | enter (thread : ThreadId) (value : ValueId)
  /-- Closes the innermost open section of a thread. -/
  | leave (thread : ThreadId)
  /-- Lets a thread act. -/
  | act (thread : ThreadId) (action : Action α)

/-- The answer to a step. -/
inductive Reply (α : Type) where
  /-- The request was turned down. -/
  | refused (reason : Refusal)
  /-- The configuration was not accepted. -/
  | rejected (reason : ConfigError)
  /-- A thread was started. -/
  | spawned (thread : ThreadId)
  /-- A thread ended, by giving up or not. -/
  | ended (panicked : Bool)
  /-- A detector was made. -/
  | detector (id : DetectorId)
  /-- A value was made. -/
  | value (id : ValueId) (label : Option String)
  /-- Done, with nothing to tell. -/
  | done
  /-- A content. -/
  | payload (value : α)
  /-- A ledger. -/
  | stats (listing : List (ValueId × LedgerEntry))
  /-- A number. -/
  | total (races : Nat)
  /-- A configuration. -/
  | config (config : DetectorConfig)
  /-- How many reports wait in a channel, and how many may; nothing without a channel. -/
  | capture (fill : Option (Nat × Nat))
  /-- Reports. -/
  | reports (sightings : List Sighting)
  /-- A receiver, unless there is no channel. -/
  | receiver (number : Option Nat)
  /-- What a receiver got. -/
  | received (outcome : Received Sighting)
  /-- A section was opened on a value whose table has that many entries. -/
  | entered (label : Option String) (entries : Nat)
  /-- A section was closed. -/
  | left
  /-- Another thread holds the lock. -/
  | blocked
  /-- An action was answered. -/
  | answer (answer : Answer α)
  /-- The thread's work was cut short. -/
  | faulted (fault : Fault)

namespace World

variable {α : Type}

/-- Lets a running thread do something. -/
def ifRunning (world : World α) (thread : ThreadId) (work : World α × Reply α) :
    World α × Reply α :=
  if world.threads.contains thread then work else (world, .refused .noThread)

/-- Uses a detector that was not given up. -/
def ifInUse (world : World α) (id : DetectorId) (work : Detector → World α × Reply α) :
    World α × Reply α :=
  match world.detectors.get? id with
  | some detector => if detector.inUse then work detector else (world, .refused .noDetector)
  | none => (world, .refused .noDetector)

/-- Starts a thread, whose name is one that a thread can have. -/
def spawn (world : World α) (name : Option String) (attach : Bool) : World α × ThreadId :=
  let thread : ThreadId := ⟨world.started⟩
  let world := { world.setThread thread (.new name) with started := world.started + 1 }
  if attach ∧ name.isSome then
    let context := ThreadContext.new thread name
    ((world.noteAttached context).bindContext thread context, thread)
  else (world, thread)

/-- Ends a thread. Its sections are left, innermost first. -/
def endThread (world : World α) (thread : ThreadId) : World α :=
  let world := (world.thread thread).sections.foldl leaveSection world
  { world with threads := world.threads.erase thread }

/-- Makes a detector. Only one with a configuration tells of itself. -/
def newDetector (world : World α) (config : Option String) : World α × Reply α :=
  let id : DetectorId := ⟨world.detectors.size⟩
  match config with
  | none => (world.setDetector id .standard, .detector id)
  | some text =>
    match DetectorConfig.parse text with
    | .error reason => (world, .rejected reason)
    | .ok config =>
      match Detector.new config with
      | .error (.config reason) => (world, .rejected reason)
      | .error (.denied reason) => (world, .faulted (.denied reason))
      | .ok detector =>
        ((world.setDetector id detector).note
          (.detectorReady detector.config.raceDetection.enabled detector.channel.isSome),
          .detector id)

/-- Makes a value. -/
def addCell (world : World α) (cell : Cell α) : World α × Reply α :=
  let id : ValueId := ⟨world.made⟩
  ({ (world.note (.monitoring id cell.label cell.detecting)).setCell id cell with
      made := world.made + 1 }, .value id cell.label)

/-- Makes a value, of a detector if one is named. A value without a detector has no label. -/
def newValue (world : World α) (payload : α) (detector : Option DetectorId)
    (label : Option String) : World α × Reply α :=
  match detector with
  | none => world.addCell (.new payload none true none)
  | some id =>
    world.ifInUse id fun detector =>
      (world.setDetector id (detector.register ⟨world.made⟩ label)).addCell
        (.new payload label detector.config.raceDetection.enabled (some id))

/-- Takes a value away, unless a section is open on it. -/
def removeCell (world : World α) (value : ValueId) (reply : Cell α → Reply α) :
    World α × Reply α :=
  match world.cells.get? value with
  | none => (world, .refused .noValue)
  | some cell =>
    if cell.lock.isHeld then (world, .refused .busy)
    else ({ world with cells := world.cells.erase value }, reply cell)

/-- Makes a receiver. -/
def newReceiver (world : World α) (id : DetectorId) (detector : Detector) : World α × Reply α :=
  if detector.channel.isSome then
    ({ world with receivers := world.receivers ++ [id] },
      .receiver (some world.receivers.length))
  else (world, .receiver none)

/-- Takes one report out of the channel of a receiver. -/
def receive (world : World α) (receiver : Nat) : World α × Reply α :=
  let found := do
    let id ← world.receivers[receiver]?
    let detector ← world.detectors.get? id
    let channel ← detector.channel
    some (id, detector, channel)
  match found with
  | none => (world, .refused .noReceiver)
  | some (id, detector, channel) =>
    let (received, channel) := channel.receive (world.canReport id)
    (world.setDetector id { detector with channel := some channel }, .received received)

/-- Opens a section that outlasts the step. -/
def enter (world : World α) (thread : ThreadId) (value : ValueId) : World α × Reply α :=
  match world.enterSection thread value with
  | (world, .begun entries) =>
    let state := world.thread thread
    (world.setThread thread { state with sections := value :: state.sections },
      .entered (((world.cells.get? value).map Cell.label).getD none) entries)
  | (world, .noValue) => (world, .refused .noValue)
  | (world, .blocked) => (world, .blocked)
  | (world, .faulted fault) => (world, .faulted fault)

/-- Closes the innermost open section of a thread. -/
def leave (world : World α) (thread : ThreadId) : World α × Reply α :=
  let state := world.thread thread
  match state.sections with
  | [] => (world, .refused .noSection)
  | value :: outer =>
    ((world.setThread thread { state with sections := outer }).leaveSection value, .left)

/-- Lets a thread act. -/
def act (world : World α) (thread : ThreadId) (action : Action α) : World α × Reply α :=
  match action.run thread world with
  | (world, .ok answer) => (world, .answer answer)
  | (world, .error fault) => (world, .faulted fault)

/-- Runs one step. -/
def step (world : World α) : Step α → World α × Reply α
  | .spawn name attach =>
    match name.bind Denial.ofThreadName? with
    | some reason => (world, .faulted (.denied reason))
    | none =>
      let (world, thread) := world.spawn name attach
      (world, .spawned thread)
  | .exit thread => world.ifRunning thread (world.endThread thread, .ended false)
  | .crash thread => world.ifRunning thread (world.endThread thread, .ended true)
  | .newDetector config => world.newDetector config
  | .newValue payload detector label => world.newValue payload detector label
  | .dropDetector id =>
    world.ifInUse id fun detector =>
      (world.setDetector id { detector with inUse := false }, .done)
  | .dropValue value => world.removeCell value fun _ => .done
  | .intoInner value => world.removeCell value fun cell => .payload cell.payload
  | .stats id => world.ifInUse id fun detector => (world, .stats detector.ledger.listing)
  | .total id => world.ifInUse id fun detector => (world, .total detector.ledger.total)
  | .config id => world.ifInUse id fun detector => (world, .config detector.config)
  | .capture id =>
    world.ifInUse id fun detector =>
      (world, .capture (detector.channel.map fun channel => (channel.size, channel.capacity)))
  | .drain id =>
    world.ifInUse id fun detector =>
      let (reports, detector) := detector.drain
      (world.setDetector id detector, .reports reports)
  | .newReceiver id => world.ifInUse id (world.newReceiver id)
  | .receive receiver => world.receive receiver
  | .enter thread value => world.ifRunning thread (world.enter thread value)
  | .leave thread => world.ifRunning thread (world.leave thread)
  | .act thread action => world.ifRunning thread (world.act thread action)

/-- Runs one step and gives, with its answer, the events that it caused. -/
def observe (world : World α) (step : Step α) : World α × Reply α × List Event :=
  let (world, reply) := world.forgetEvents.step step
  (world, reply, world.events)

/-- Runs steps one after another. -/
def play (world : World α) : List (Step α) → List (Reply α × List Event)
  | [] => []
  | step :: rest =>
    let (world, reply, events) := world.observe step
    (reply, events) :: world.play rest

end World

end RaceSentry
