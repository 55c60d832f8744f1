import RaceSentry.Scenario.Step

/-!
# Storms

A storm starts a number of threads that all do the same to one value, and waits for them. What a
storm is asked about here does not depend on the order in which its threads come to act, so it is
computed by letting one thread after another act. A storm may be followed by a second one, which
starts when all threads of the first have ended well.
-/

namespace RaceSentry.Storm

/-- What the threads of a storm do. -/
inductive Mode where
  /-- Read the value. -/
  | read
  /-- Store one. -/
  | write
  /-- Store one and look at the old content. -/
  | replace
  /-- Add one. -/
  | add
  /-- Add one inside a section. -/
  | synchronizedAdd
  /-- Read the value inside a section. -/
  | synchronizedRead
  /-- Add one while holding a lock that the detector does not know. -/
  | foreignAdd
  /-- Give up, in the first thread; nothing in the others. -/
  | raise
  deriving DecidableEq, Repr

/-- One storm. -/
structure Phase where
  /-- What its threads do. -/
  mode : Mode
  /-- The number of threads. -/
  threads : Nat
  /-- How often each thread does it. -/
  rounds : Nat
  deriving DecidableEq, Repr

/-- One or more storms on one value. -/
structure Plan where
  /-- The name of the storms, and the label of the value. -/
  name : String
  /-- The configuration of the detector. -/
  config : DetectorConfig
  /-- The storms. -/
  phases : List Phase

/-- How a storm comes out. -/
inductive Outcome where
  /-- All threads ended well. -/
  | calm
  /-- A thread gave up, and the storm says so. -/
  | threadPanicked
  /-- Another thread gave up after the storm had stopped waiting, and takes the storm with it. -/
  | scopePanicked
  /-- Its threads cannot be had, and the storm gives up. -/
  | denied (reason : Denial)
  deriving DecidableEq, Repr

namespace Outcome

/-- Waits for threads in their order; each is told to have given up or not. At the first that
did, the storm stops asking, but it does not end well if one of the others did, too. -/
def join : List Bool → Outcome
  | [] => .calm
  | false :: rest => join rest
  | true :: rest => if rest.any id then .scopePanicked else .threadPanicked

end Outcome

/-- Why a plan fails. -/
inductive Failure where
  /-- Its detector cannot be made. -/
  | setup (reason : SetupFailure)
  /-- A thread of a storm of that name gave up. -/
  | panicked (name : String)
  /-- Threads gave up while nobody waited for them any more. -/
  | aborted
  /-- The threads of a storm cannot be had. -/
  | denied (reason : Denial)
  deriving DecidableEq, Repr

namespace Failure

/-- The failure in words. -/
def message : Failure → String
  | .setup (.config reason) => reason.message
  | .setup (.denied reason) => reason.message
  | .panicked name => name ++ " thread panicked"
  | .aborted => "a scoped thread panicked"
  | .denied reason => reason.message

end Failure

/-- A change that adds one. -/
def addOne (payload : Int) : Int × Option String := (payload + 1, none)

namespace Mode

/-- What the thread of a given number does in one round. -/
def action (mode : Mode) (value : ValueId) (index : Nat) : List (Action Int) :=
  match mode with
  | .read => [.read value]
  | .write => [.write value 1]
  | .replace => [.replace value 1]
  | .add => [.update value none addOne]
  | .synchronizedAdd => [.synchronized value .free [.update value none addOne]]
  | .synchronizedRead => [.synchronized value .free [.read value]]
  | .foreignAdd => [.update value none addOne]
  | .raise => if index = 0 then [.raise "storm"] else []

/-- Whether what becomes of races does not depend on the order of rounds. -/
def isOrderly : Mode → Bool
  | .read => true
  | .synchronizedAdd => true
  | .synchronizedRead => true
  | _ => false

end Mode

namespace Phase

/-- The bytes that a storm sets aside for waiting for one thread. -/
def handleBytes : Nat := 24

/-- The name of the thread of a given number. -/
def threadName (name : String) (index : Nat) : String := name ++ "-" ++ toString index

/-- Why the threads of a storm cannot be had. All of their names are good if the first is. -/
def denial? (phase : Phase) (name : String) : Option Denial :=
  if phase.threads = 0 then none
  else (Denial.ofRow? handleBytes phase.threads).or (Denial.ofThreadName? (threadName name 0))

/-- Whether the number of races does not depend on the order in which threads come to act. -/
def settlesRaces (phase : Phase) : Bool := phase.rounds ≤ 1 || phase.mode.isOrderly

/-- Lets a thread do the same a number of times, until it gives up; tells if it did. -/
def runRounds (thread : ThreadId) (round : List (Action Int)) :
    Nat → World Int → World Int × Bool
  | 0, world => (world, false)
  | rounds + 1, world =>
    match Action.runBody thread round world with
    | (world, _, some _) => (world, true)
    | (world, _, none) => runRounds thread round rounds world

/-- Lets the thread of a given number act; tells if it gave up. Doing nothing takes no rounds. -/
def runThread (phase : Phase) (name : String) (value : ValueId) (world : World Int)
    (index : Nat) : World Int × Bool :=
  let (world, thread) := world.spawn (some (threadName name index)) true
  let round := phase.mode.action value index
  let (world, panicked) := runRounds thread round (if round.isEmpty then 0 else phase.rounds) world
  (world.endThread thread, panicked)

/-- Lets one thread after another act. -/
def runThreads (phase : Phase) (name : String) (value : ValueId) (world : World Int) :
    World Int × Outcome :=
  let (world, panics) := (List.range phase.threads).foldl
    (fun (world, panics) index =>
      let (world, panicked) := phase.runThread name value world index
      (world, panics ++ [panicked]))
    (world, [])
  (world, .join panics)

/-- Starts all threads, if they can be had, and waits for them. -/
def run (phase : Phase) (name : String) (value : ValueId) (world : World Int) :
    World Int × Outcome :=
  match phase.denial? name with
  | some reason => (world, .denied reason)
  | none => phase.runThreads name value world

end Phase

/-- What is asked about storms that ended well. -/
structure Summary where
  /-- The clock table of the value. -/
  clock : ClockTable
  /-- Its content. -/
  payload : Int
  /-- The number of racing threads. -/
  raceCount : Nat
  /-- The ledger of the detector. -/
  ledger : Ledger
  /-- The reports that were kept. -/
  reports : List Sighting

namespace Plan

/-- Runs storms in their order, as long as they end well. -/
def runPhases (name : String) (value : ValueId) : List Phase → World Int → World Int × Outcome
  | [], world => (world, .calm)
  | phase :: rest, world =>
    match phase.run name value world with
    | (world, .calm) => runPhases name value rest world
    | (world, outcome) => (world, outcome)

/-- What became of the value and the detector. -/
def summarize (world : World Int) (value : ValueId) (detector : DetectorId) : Summary :=
  let cell := (world.cells.get? value).getD (.new 0 none false none)
  let detector := (world.detectors.get? detector).getD .standard
  ⟨cell.clock, cell.payload, cell.raceCount, detector.ledger, detector.drain.1⟩

/-- Runs a plan. -/
def run (plan : Plan) : Except Failure Summary :=
  match Detector.new plan.config with
  | .error reason => .error (.setup reason)
  | .ok detector =>
    let id : DetectorId := ⟨0⟩
    let value : ValueId := ⟨0⟩
    let world := (World.empty.setDetector id detector).newValue 0 (some id) (some plan.name)
    match runPhases plan.name value plan.phases world.1 with
    | (world, .calm) => .ok (summarize world value id)
    | (_, .threadPanicked) => .error (.panicked plan.name)
    | (_, .scopePanicked) => .error .aborted
    | (_, .denied reason) => .error (.denied reason)

/-- Whether the number of races does not depend on the order in which threads come to act. -/
def settlesRaces (plan : Plan) : Bool := plan.phases.all Phase.settlesRaces

end Plan

end RaceSentry.Storm
