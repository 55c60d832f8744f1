import RaceSentry.World.Access
import RaceSentry.World.Describe

/-!
# What a thread does

An action is one thing that a thread does, with everything that its closures and blocks do inside
of it. Running an action gives its answer, or the fault that cuts the thread's work short. Inside
a body a fault ends the body and everything around it, up to the next attempt that catches it;
locks are given up on the way. An action that cannot begin because another thread holds a lock
answers so and does nothing.
Main functions: `Action.run` and `Action.runBody`.
-/

namespace RaceSentry

/-- The ways to enter a section for the length of a block. -/
inductive Route where
  /-- By an operation of the value. -/
  | method
  /-- By a function of its own. -/
  | free
  /-- By a guard that is dropped after the block. -/
  | guard
  deriving DecidableEq, Repr

/-- What can be asked of a value besides its content. -/
inductive Query where
  /-- The number of racing threads. -/
  | raceCount
  /-- The racing threads. -/
  | racing
  /-- Whether a thread races. -/
  | isRacing (thread : ThreadId)
  /-- The authoritative clock table. -/
  | clock
  deriving DecidableEq, Repr

/-- What can be asked of the thread's own context, or done to it. -/
inductive ContextRequest where
  /-- Whose it is and how much it holds; a context is made if there is none. -/
  | summary
  /-- A copy of a snapshot; no context is made. -/
  | snapshotOf (value : ValueId)
  /-- A copy of a snapshot; a context is made if there is none. -/
  | snapshot (value : ValueId)
  /-- Stores one counter in a snapshot. -/
  | record (value : ValueId) (key : AccessKey) (counter : Nat)
  /-- Replaces a snapshot; of entries with one key the last counts. -/
  | replace (value : ValueId) (entries : List (AccessKey × Nat))
  /-- Drops a snapshot and gives it back. -/
  | forget (value : ValueId)
  /-- Binds a fresh context, of this thread or with the identity and name given. -/
  | attach (origin : Option (ThreadId × Option String))
  /-- The key of the thread's accesses of a kind. -/
  | key (kind : AccessKind)
  deriving DecidableEq, Repr

/-- What an access gives to the one who made it. -/
inductive Result (α : Type) where
  /-- Nothing. -/
  | nothing
  /-- A content. -/
  | payload (value : α)
  /-- A number that a closure computed. -/
  | measure (value : Int)

/-- What is understood of an action that cannot be understood to its end: the things it names, in
the order in which they are looked up. -/
structure Fragment where
  /-- The value that it is about. -/
  value : Option ValueId
  /-- Whether it waits for the lock of that value. -/
  waits : Bool
  /-- Threads that it speaks of. -/
  threads : List ThreadId
  deriving DecidableEq, Repr

/-- One thing that a thread does. -/
inductive Action (α : Type) where
  /-- Reads the content. -/
  | read (value : ValueId)
  /-- Runs a closure with the content to look at: first a body, then a measurement. -/
  | readWith (value : ValueId) (body : Option (List (Action α))) (measure : α → Int)
  /-- Stores a content. -/
  | write (value : ValueId) (payload : α)
  /-- Stores a content and gives the old one. -/
  | replace (value : ValueId) (payload : α)
  /-- Runs a closure with the content to change: first a body, then a change, which may give up
  with a text after it. -/
  | update (value : ValueId) (body : Option (List (Action α))) (change : α → α × Option String)
  /-- Runs a block inside a section. -/
  | synchronized (value : ValueId) (route : Route) (body : List (Action α))
  /-- Runs a body and catches its fault. -/
  | attempt (body : List (Action α))
  /-- Gives up. -/
  | raise (text : String)
  /-- Asks a value. -/
  | query (value : ValueId) (query : Query)
  /-- Describes a value, on one line or on several. -/
  | describe (value : ValueId) (spread : Bool)
  /-- Turns to the thread's context. -/
  | context (request : ContextRequest)
  /-- Runs a body while working on the thread's context. -/
  | withContext (body : List (Action α))
  /-- Does nothing, because it cannot be understood. -/
  | unclear (fragment : Fragment)

/-- Why a request is turned down before it touches anything. -/
inductive Refusal where
  /-- There is no such value. -/
  | noValue
  /-- There is no such thread. -/
  | noThread
  /-- There is no such detector. -/
  | noDetector
  /-- There is no such receiver. -/
  | noReceiver
  /-- The thread has no open section. -/
  | noSection
  /-- The value is locked by an open section. -/
  | busy
  /-- The request cannot be understood. -/
  | malformed
  deriving DecidableEq, Repr

/-- Whose a context is and how much it holds. -/
structure ContextSummary where
  /-- The thread that the context says it belongs to. -/
  identity : ThreadId
  /-- Its name. -/
  name : Option String
  /-- The number of values with a snapshot. -/
  tracked : Nat
  deriving DecidableEq, Repr

/-- The answer to an action. -/
inductive Answer (α : Type) where
  /-- An access was made. The sighting is there if it was flagged, the number counts racing
  threads after it, and the list holds the answers of its body. -/
  | access (result : Result α) (sighting : Option Sighting) (raceCount : Nat)
    (body : Option (List (Answer α)))
  /-- A block was run. -/
  | block (body : List (Answer α))
  /-- A body was run up to its fault, if it had one. -/
  | caught (body : List (Answer α)) (fault : Option Fault)
  /-- Another thread holds the lock. -/
  | blocked
  /-- The request was turned down. -/
  | refused (reason : Refusal)
  /-- Done, with nothing to tell. -/
  | done
  /-- A number. -/
  | count (value : Nat)
  /-- Racing threads. -/
  | racing (threads : List ThreadId)
  /-- Yes or no. -/
  | truth (value : Bool)
  /-- A clock table. -/
  | clock (table : ClockTable)
  /-- A snapshot, if there is one. -/
  | snapshot (table : Option ClockTable)
  /-- A context, if there is one. -/
  | summary (context : Option ContextSummary)
  /-- A description. -/
  | text (value : String)
  /-- A key. -/
  | key (value : AccessKey)

namespace ThreadContext

/-- Whose the context is and how much it holds. -/
def summary (context : ThreadContext) : ContextSummary :=
  ⟨context.identity, context.name, context.tracked⟩

end ThreadContext

namespace World

variable {α : Type}

/-- The answer to what could not begin. -/
def notBegun {β : Type} : Attempt β → Except Fault (Answer α)
  | .noValue => .ok (.refused .noValue)
  | .blocked => .ok .blocked
  | .faulted fault => .error fault
  | .begun _ => .ok .done

/-- Makes an access with a closure. The closure runs a body, and then works on the content: it
gives the new content and a result, or gives up. -/
def access (world : World α) (thread : ThreadId) (value : ValueId) (kind : AccessKind)
    (body : World α → World α × Option (List (Answer α)) × Option Fault)
    (work : α → α × Except String (Result α)) : World α × Except Fault (Answer α) :=
  match world.beginAccess thread value kind with
  | (world, .begun sighting) =>
    match body world with
    | (world, _, some fault) => (world.endAccess value id, .error fault)
    | (world, answers, none) =>
      match world.cells.get? value with
      | none => (world, .ok (.refused .noValue))
      | some cell =>
        let (payload, result) := work cell.payload
        let world := world.endAccess value fun _ => payload
        match result with
        | .error text => (world, .error (.raised text))
        | .ok result =>
          (world, .ok (.access result sighting cell.raceCount answers))
  | (world, attempt) => (world, notBegun attempt)

/-- Asks a value. -/
def answerQuery (world : World α) (thread : ThreadId) (value : ValueId) (query : Query) :
    World α × Except Fault (Answer α) :=
  let looked (look : Cell α → Answer α) : World α × Except Fault (Answer α) :=
    match world.inspect thread value look with
    | (world, .begun answer) => (world, .ok answer)
    | (world, attempt) => (world, notBegun attempt)
  match query with
  | .raceCount => looked fun cell => .count cell.raceCount
  | .racing => looked fun cell => .racing cell.racing.keys
  | .clock => looked fun cell => .clock cell.clock
  | .isRacing other =>
    match world.cells.get? value with
    | none => (world, .ok (.refused .noValue))
    | some cell =>
      if !cell.lock.admits thread then (world, .ok .blocked)
      else if !world.knows other then (world, .ok (.refused .noThread))
      else looked fun cell => .truth (cell.racing.contains other)

/-- Whether the values and threads that a request names exist. Values come first. -/
def lookUp (world : World α) (request : ContextRequest) : Option Refusal :=
  let unlessValue (value : ValueId) : Option Refusal :=
    if world.cells.contains value then none else some .noValue
  let unlessThreads (threads : List ThreadId) : Option Refusal :=
    if threads.all world.knows then none else some .noThread
  match request with
  | .snapshotOf value => unlessValue value
  | .snapshot value => unlessValue value
  | .forget value => unlessValue value
  | .record value key _ => (unlessValue value).or (unlessThreads [key.thread])
  | .replace value entries =>
    (unlessValue value).or (unlessThreads (entries.map fun entry => entry.1.thread))
  | .attach (some (identity, _)) => unlessThreads [identity]
  | _ => none

/-- Why an action is turned down that cannot be understood. What it names is looked up first. -/
def answerUnclear (world : World α) (thread : ThreadId) (fragment : Fragment) : Answer α :=
  let rest : Answer α :=
    if fragment.threads.all world.knows then .refused .malformed else .refused .noThread
  match fragment.value with
  | none => rest
  | some value =>
    match world.cells.get? value with
    | none => .refused .noValue
    | some cell => if fragment.waits && !cell.lock.admits thread then .blocked else rest

/-- Turns to the context of a thread, with everything the request names in place. -/
def answerRequest (world : World α) (thread : ThreadId) (request : ContextRequest) :
    World α × Except Fault (Answer α) :=
  let inUse := (world.thread thread).contextInUse
  match request with
  | .key kind => (world, .ok (.key ⟨thread, kind⟩))
  | .snapshotOf value =>
    if inUse then (world, .error .borrowed)
    else
      let context := (world.thread thread).context
      (world, .ok (.snapshot (context.bind fun context => context.snapshot? value)))
  | .summary => world.withContext thread fun context => (context, .summary context.summary)
  | .snapshot value =>
    world.withContext thread fun context => (context, .snapshot (context.snapshot? value))
  | .record value key counter =>
    world.withContext thread fun context => (context.record value key counter, .done)
  | .replace value entries =>
    world.withContext thread fun context =>
      (context.replace value (SortedMap.ofList entries), .done)
  | .forget value =>
    world.withContext thread fun context =>
      (context.forget value, .snapshot (context.snapshot? value))
  | .attach origin =>
    let context := match origin with
      | some (identity, name) => ThreadContext.new identity name
      | none => ThreadContext.new thread (world.thread thread).name
    let world := world.noteAttached context
    if inUse then (world, .error .borrowed)
    else
      let previous := (world.thread thread).context
      (world.bindContext thread context, .ok (.summary (previous.map ThreadContext.summary)))

/-- Turns to the context of a thread. -/
def answerContext (world : World α) (thread : ThreadId) (request : ContextRequest) :
    World α × Except Fault (Answer α) :=
  match world.lookUp request with
  | some reason => (world, .ok (.refused reason))
  | none => world.answerRequest thread request

end World

namespace Action

variable {α : Type}

/-- A closure that stores a content. -/
def storing (payload : α) (result : α → Result α) (old : α) : α × Except String (Result α) :=
  (payload, .ok (result old))

/-- A closure that changes the content, gives it, or gives up after the change. -/
def changing (change : α → α × Option String) (old : α) : α × Except String (Result α) :=
  match change old with
  | (payload, none) => (payload, .ok (.payload payload))
  | (payload, some text) => (payload, .error text)

/-- A closure without a body. -/
def noBody (world : World α) : World α × Option (List (Answer α)) × Option Fault :=
  (world, none, none)

mutual

/-- Runs one action of a thread. -/
def run (thread : ThreadId) : Action α → World α → World α × Except Fault (Answer α)
  | .read value, world =>
    world.access thread value .read noBody fun payload => (payload, .ok (.payload payload))
  | .readWith value body measure, world =>
    world.access thread value .read (runInside thread body) fun payload =>
      (payload, .ok (.measure (measure payload)))
  | .write value payload, world =>
    world.access thread value .write noBody (storing payload fun _ => .nothing)
  | .replace value payload, world =>
    world.access thread value .write noBody (storing payload .payload)
  | .update value body change, world =>
    world.access thread value .write (runInside thread body) (changing change)
  | .synchronized value _ body, world =>
    match world.enterSection thread value with
    | (world, .begun _) =>
      match runBody thread body world with
      | (world, _, some fault) => (world.leaveSection value, .error fault)
      | (world, answers, none) => (world.leaveSection value, .ok (.block answers))
    | (world, outcome) => (world, World.notBegun outcome)
  | .attempt body, world =>
    match runBody thread body world with
    | (world, answers, fault) => (world, .ok (.caught answers fault))
  | .raise text, world => (world, .error (.raised text))
  | .query value question, world => world.answerQuery thread value question
  | .describe value spread, world =>
    match world.cells.get? value with
    | none => (world, .ok (.refused .noValue))
    | some cell =>
      (world, .ok (.text (if spread then cell.describeSpread value thread
        else cell.describe value thread)))
  | .context request, world => world.answerContext thread request
  | .withContext body, world =>
    match world.openContext thread with
    | (world, .error fault) => (world, .error fault)
    | (world, .ok ()) =>
      match runBody thread body world with
      | (world, _, some fault) => (world.closeContext thread, .error fault)
      | (world, answers, none) => (world.closeContext thread, .ok (.block answers))
  | .unclear fragment, world => (world, .ok (world.answerUnclear thread fragment))

/-- Runs the actions of a body in order, up to the first fault. -/
def runBody (thread : ThreadId) :
    List (Action α) → World α → World α × List (Answer α) × Option Fault
  | [], world => (world, [], none)
  | action :: rest, world =>
    match run thread action world with
    | (world, .error fault) => (world, [], some fault)
    | (world, .ok answer) =>
      match runBody thread rest world with
      | (world, answers, fault) => (world, answer :: answers, fault)

/-- Runs the body of a closure, if it has one. -/
def runInside (thread : ThreadId) :
    Option (List (Action α)) → World α → World α × Option (List (Answer α)) × Option Fault
  | none, world => (world, none, none)
  | some body, world =>
    match runBody thread body world with
    | (world, answers, fault) => (world, some answers, fault)

end

end Action

end RaceSentry
