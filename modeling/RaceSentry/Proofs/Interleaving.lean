import RaceSentry.Proofs.Stages
import RaceSentry.World.Action

/-!
# Interleaved stages

Between any two stages of an access or a section entry other threads may go on, with stages of
their own. A weave is the world together with what each thread is in the middle of; a tick is one
stage of one thread; a weaving is any sequence of ticks that the locks admit. Its trace tells in
which order locks were taken, and what accesses gave. Operations that are performed in turn, each
as a whole, are what weavings are compared with.
-/

namespace RaceSentry

/-- What a closure does with the content that it has at its disposal. -/
inductive Closure (α : Type) where
  /-- It ends with a last change of the content, and gives a result or gives up. -/
  | last (work : α → α × Except String (Result α))
  /-- It changes the content and goes on in a way that depends on what it found. Before it goes on,
  its thread may do other things. -/
  | stretch (change : α → α) (rest : α → Closure α)

namespace Closure

variable {α : Type}

/-- What a closure does without a break. -/
def work : Closure α → α → α × Except String (Result α)
  | .last work, payload => work payload
  | .stretch change rest, payload => (rest payload).work (change payload)

end Closure

/-- What came of an access. -/
structure Outcome (α : Type) where
  /-- The thread that made it. -/
  thread : ThreadId
  /-- Its sighting, if it was flagged. -/
  verdict : Option Sighting
  /-- What it gave, or the fault that its closure gave up with. -/
  answer : Except Fault (Answer α)

/-- What is done under the lock of a value. -/
inductive Operation (α : Type) where
  /-- An access, with its closure. -/
  | access (thread : ThreadId) (value : ValueId) (kind : AccessKind) (closure : Closure α)
  /-- A section entry. -/
  | entry (thread : ThreadId) (value : ValueId)

namespace Operation

variable {α : Type}

/-- The thread that does it. -/
def thread : Operation α → ThreadId
  | .access thread _ _ _ => thread
  | .entry thread _ => thread

/-- The value under whose lock it is done. -/
def value : Operation α → ValueId
  | .access _ value _ _ => value
  | .entry _ value => value

/-- Whether it needs the content at its disposal. -/
def borrows : Operation α → Bool
  | .access _ _ _ _ => true
  | .entry _ _ => false

/-- The sighting of an access, if it is made in a world and flagged there. -/
def verdict? (world : World α) (thread : ThreadId) (value : ValueId) (kind : AccessKind) :
    Option Sighting :=
  match (world.beginAccess thread value kind).2 with
  | .begun sighting => sighting
  | _ => none

/-- What becomes of a world when an operation is not to be had because a closure of its own thread
has the content. -/
def refuse (world : World α) : Operation α → World α
  | .access _ value _ _ => world.note (.reentered value)
  | .entry _ _ => world

/-- Performs an operation as a whole. Accesses have an outcome; a section is left at once. -/
def perform (world : World α) : Operation α → World α × List (Outcome α)
  | .access thread value kind closure =>
    let accessed := world.access thread value kind Action.noBody closure.work
    (accessed.1, [⟨thread, verdict? world thread value kind, accessed.2⟩])
  | .entry thread value => (((Action.synchronized value .method []).run thread world).1, [])

/-- Performs operations one after another. -/
def inTurn (world : World α) : List (Operation α) → World α × List (Outcome α)
  | [] => (world, [])
  | operation :: rest =>
    let (world, outcomes) := operation.perform world
    let (world, later) := inTurn world rest
    (world, outcomes ++ later)

/-- Operations in turn are some of them, and then the others. -/
theorem inTurn_append (world : World α) (earlier later : List (Operation α)) :
    inTurn world (earlier ++ later) =
      ((inTurn (inTurn world earlier).1 later).1,
        (inTurn world earlier).2 ++ (inTurn (inTurn world earlier).1 later).2) := by
  induction earlier generalizing world with
  | nil => rfl
  | cons operation rest ih => simp only [List.cons_append, inTurn, ih, List.append_assoc]

/-- One more operation is performed at the end. -/
theorem inTurn_concat (world : World α) (earlier : List (Operation α)) (last : Operation α) :
    inTurn world (earlier ++ [last]) =
      ((last.perform (inTurn world earlier).1).1,
        (inTurn world earlier).2 ++ (last.perform (inTurn world earlier).1).2) := by
  rw [inTurn_append]
  simp only [inTurn, List.append_nil]

end Operation

/-- Where an access stands whose thread has the lock. -/
inductive AccessStage (α : Type) where
  /-- It has the content at its disposal. -/
  | begun
  /-- It is counted in the authoritative table. -/
  | counted (counter : Nat)
  /-- Its counter is in the snapshot of its thread. -/
  | copied
  /-- It was judged, and is flagged. -/
  | judged (sighting : Sighting)
  /-- Its thread has joined those that race. -/
  | joined (sighting : Sighting)
  /-- The ledger has counted it. -/
  | tallied (sighting : Sighting)
  /-- Its closure is running. -/
  | running (sighting : Option Sighting)
  /-- Its closure has ended and given the content back. -/
  | ended (sighting : Option Sighting) (answer : Except Fault (Answer α))

/-- Whether the closure of an access has the content, or will have it. -/
def AccessStage.borrows {α : Type} : AccessStage α → Bool
  | .ended _ _ => false
  | _ => true

/-- An access that has not ended has the content. -/
theorem AccessStage.borrows_of_ne_ended {α : Type} {stage : AccessStage α}
    (going : ∀ sighting answer, stage ≠ .ended sighting answer) : stage.borrows = true := by
  cases stage with
  | ended sighting answer => exact absurd rfl (going sighting answer)
  | _ => rfl

/-- What a thread is in the middle of. -/
inductive Task (α : Type) where
  /-- An access, with what its closure has still to do. -/
  | access (value : ValueId) (kind : AccessKind) (closure : Closure α) (stage : AccessStage α)
  /-- A section entry, with the copy of the authoritative table when it is made. -/
  | entry (value : ValueId) (clock : Option ClockTable)
  /-- Giving up, because its own closure has the content that it asked for. -/
  | refusal (value : ValueId)
  /-- Work on its context. -/
  | context

namespace Task

variable {α : Type}

/-- Whether a thread may turn to something new in the middle of the task: its closure is
running. -/
def isRunning : Task α → Bool
  | .access _ _ _ (.running _) => true
  | _ => false

end Task

/-- The task that an operation begins with. -/
def Operation.task {α : Type} : Operation α → Task α
  | .access _ value kind closure => .access value kind closure .begun
  | .entry _ value => .entry value none

/-- The world and what each thread is in the middle of. -/
structure Weave (α : Type) where
  /-- The state that the threads share. -/
  world : World α
  /-- What each thread is in the middle of, innermost first. -/
  tasks : ThreadId → List (Task α)
  /-- The sections that each thread has open. -/
  sections : ThreadId → List ValueId

/-- One stage of one thread. -/
inductive Tick (α : Type) where
  /-- A thread takes the lock that an operation needs. -/
  | ask (operation : Operation α)
  /-- A thread goes on with what it is in the middle of. -/
  | advance (thread : ThreadId)
  /-- A thread leaves a section. -/
  | leave (thread : ThreadId) (value : ValueId)
  /-- A thread begins to work on its context. -/
  | openContext (thread : ThreadId)
  /-- A thread ends the work on its context. -/
  | closeContext (thread : ThreadId)

/-- The thread whose stage it is. -/
def Tick.thread {α : Type} : Tick α → ThreadId
  | .ask operation => operation.thread
  | .advance thread => thread
  | .leave thread _ => thread
  | .openContext thread => thread
  | .closeContext thread => thread

/-- Something that shows how operations are ordered, or what they give. -/
inductive Mark (α : Type) where
  /-- The lock for an operation was taken, and the content was to be had. -/
  | asked (operation : Operation α)
  /-- An access to a value is over, and the lock was given up. -/
  | answered (value : ValueId) (outcome : Outcome α)

/-- What ticks show, earliest first. -/
abbrev Trace (α : Type) := List (Mark α)

namespace Mark

variable {α : Type}

/-- The operation for which the lock of a value was taken. -/
def operation? (value : ValueId) : Mark α → Option (Operation α)
  | .asked operation => if operation.value = value then some operation else none
  | .answered _ _ => none

/-- What came of an access to a value. -/
def outcome? (value : ValueId) : Mark α → Option (Outcome α)
  | .asked _ => none
  | .answered other outcome => if other = value then some outcome else none

end Mark

namespace Trace

variable {α : Type}

/-- The operations on a value, in the order in which its lock was taken. -/
def operations (trace : Trace α) (value : ValueId) : List (Operation α) :=
  trace.filterMap (Mark.operation? value)

/-- What came of the accesses to a value, in the order in which they ended. -/
def outcomes (trace : Trace α) (value : ValueId) : List (Outcome α) :=
  trace.filterMap (Mark.outcome? value)

end Trace

namespace World

variable {α : Type} (world : World α)

/-- The answer to an access whose closure has ended. -/
def answerOf (cell : Cell α) (sighting : Option Sighting) :
    Except String (Result α) → Except Fault (Answer α)
  | .error text => .error (.raised text)
  | .ok result => .ok (.access result sighting cell.raceCount none)

/-- The next stage of an access to a cell. -/
def nextStage (thread : ThreadId) (value : ValueId) (kind : AccessKind) (cell : Cell α) :
    Closure α → AccessStage α → World α × Closure α × AccessStage α
  | closure, .begun =>
    if cell.detecting then
      (world.countAccess value cell ⟨thread, kind⟩, closure,
        .counted (cell.clock.next ⟨thread, kind⟩))
    else (world, closure, .running none)
  | closure, .counted counter =>
    match world.withContext thread fun context =>
        (context.record value ⟨thread, kind⟩ counter, ()) with
    | (world, .ok ()) => (world, closure, .copied)
    | (world, .error fault) =>
      (world.modifyCell value fun cell => { cell with borrowed := false }, closure,
        .ended none (.error fault))
  | closure, .copied =>
    match world.snapshot? thread value with
    | none =>
      ((world.note (.snapshotMissing value ⟨thread, kind⟩)).modifyCell value fun cell =>
          { cell with borrowed := false }, closure,
        .ended none (.error (.snapshotMissing value ⟨thread, kind⟩)))
    | some snapshot =>
      match Conflict.unseen cell.clock snapshot kind with
      | [] => (world, closure, .running none)
      | candidates =>
        (world, closure,
          .judged ⟨value, cell.label, ⟨thread, kind⟩, (world.thread thread).name, candidates⟩)
  | closure, .judged sighting => (world.joinRace cell sighting, closure, .joined sighting)
  | closure, .joined sighting =>
    (world.tallyRace cell.sink sighting, closure, .tallied sighting)
  | closure, .tallied sighting =>
    (world.sendReport cell.sink sighting, closure, .running (some sighting))
  | .stretch change rest, .running sighting =>
    (world.modifyCell value fun cell => { cell with payload := change cell.payload },
      rest cell.payload, .running sighting)
  | .last work, .running sighting =>
    (world.modifyCell value fun cell =>
        { cell with payload := (work cell.payload).1, borrowed := false },
      .last work, .ended sighting (answerOf cell sighting (work cell.payload).2))
  | closure, .ended sighting answer => (world, closure, .ended sighting answer)

end World

namespace Weave

variable {α : Type} (weave : Weave α)

/-- The threads of a world before any of them does anything. -/
def start (world : World α) : Weave α := ⟨world, fun _ => [], fun _ => []⟩

/-- The world changes, and with it what a thread is in the middle of. -/
def become (world : World α) (thread : ThreadId) (tasks : List (Task α)) : Weave α :=
  { weave with
    world := world
    tasks := fun other => if other = thread then tasks else weave.tasks other }

/-- A thread opens a section, and is through with what it was in the middle of. -/
def opened (world : World α) (thread : ThreadId) (value : ValueId) (rest : List (Task α)) :
    Weave α :=
  { weave.become world thread rest with
    sections := fun other =>
      if other = thread then value :: weave.sections thread else weave.sections other }

/-- A thread closes a section. -/
def closed (world : World α) (thread : ThreadId) (value : ValueId) : Weave α :=
  { weave with
    world := world
    sections := fun other =>
      if other = thread then (weave.sections thread).erase value else weave.sections other }

/-- The world that a weave comes to is the one that it was given. -/
@[simp] theorem world_become (world : World α) (thread : ThreadId) (tasks : List (Task α)) :
    (weave.become world thread tasks).world = world := rfl

/-- The world in which a section is opened is the one that was given. -/
@[simp] theorem world_opened (world : World α) (thread : ThreadId) (value : ValueId)
    (rest : List (Task α)) : (weave.opened world thread value rest).world = world := rfl

/-- Only the thread that does something is in the middle of something else. -/
theorem tasks_become (world : World α) (thread other : ThreadId) (tasks : List (Task α)) :
    (weave.become world thread tasks).tasks other =
      if other = thread then tasks else weave.tasks other := rfl

/-- Whether a thread may turn to something new: it is in the middle of nothing, or its innermost
closure is running. -/
def isFree (thread : ThreadId) : Bool := (weave.tasks thread).head?.all Task.isRunning

/-- What comes of taking a lock, unless another thread holds it. If a closure has the content, the
thread will have to give up. -/
def ask? (operation : Operation α) : Option (Weave α × Trace α) :=
  match weave.world.cells.get? operation.value with
  | none => none
  | some cell =>
    match cell.lock.acquire? operation.thread with
    | none => none
    | some lock =>
      if cell.borrowed then
        some (weave.become
          ((operation.refuse weave.world).modifyCell operation.value fun cell =>
            { cell with lock := lock })
          operation.thread (.refusal operation.value :: weave.tasks operation.thread), [])
      else
        some (weave.become
          (weave.world.modifyCell operation.value fun cell =>
            { cell with lock := lock, borrowed := operation.borrows })
          operation.thread (operation.task :: weave.tasks operation.thread), [.asked operation])

/-- What comes of going on with the innermost task of a thread. -/
def advance? (thread : ThreadId) : Option (Weave α × Trace α) :=
  match weave.tasks thread with
  | .access value _ _ (.ended sighting answer) :: rest =>
    some (weave.become (weave.world.modifyCell value Cell.unlock) thread rest,
      [.answered value ⟨thread, sighting, answer⟩])
  | .access value kind closure stage :: rest =>
    match weave.world.cells.get? value with
    | none => none
    | some cell =>
      let (world, closure, stage) :=
        weave.world.nextStage thread value kind cell closure stage
      some (weave.become world thread (.access value kind closure stage :: rest), [])
  | .entry value none :: rest =>
    match weave.world.cells.get? value with
    | none => none
    | some cell =>
      some (weave.become (weave.world.note (.entering value cell.label cell.clock.size)) thread
        (.entry value (some cell.clock) :: rest), [])
  | .entry value (some clock) :: rest =>
    match weave.world.withContext thread fun context => (context.replace value clock, ()) with
    | (world, .ok ()) => some (weave.opened world thread value rest, [])
    | (world, .error _) => some (weave.become (world.modifyCell value Cell.unlock) thread rest, [])
  | .refusal value :: rest =>
    some (weave.become (weave.world.modifyCell value Cell.unlock) thread rest, [])
  | _ => none

/-- What comes of a stage of a running thread. -/
def carryOut? : Tick α → Option (Weave α × Trace α)
  | .ask operation => if weave.isFree operation.thread then weave.ask? operation else none
  | .advance thread => weave.advance? thread
  | .leave thread value =>
    if weave.isFree thread && (weave.sections thread).contains value then
      some (weave.closed (weave.world.leaveSection value) thread value, [])
    else none
  | .openContext thread =>
    if weave.isFree thread then
      match weave.world.openContext thread with
      | (world, .ok ()) =>
        some (weave.become world thread (.context :: weave.tasks thread), [])
      | (world, .error _) => some (weave.become world thread (weave.tasks thread), [])
    else none
  | .closeContext thread =>
    match weave.tasks thread with
    | .context :: rest => some (weave.become (weave.world.closeContext thread) thread rest, [])
    | _ => none

/-- What comes of a tick. Only threads that run do anything. -/
def tick? (tick : Tick α) : Option (Weave α × Trace α) :=
  if weave.world.threads.contains tick.thread then weave.carryOut? tick else none

/-- What comes of ticks one after another, if all of them can be made. -/
def tickAll? (weave : Weave α) (trace : Trace α) : List (Tick α) → Option (Weave α × Trace α)
  | [] => some (weave, trace)
  | tick :: rest =>
    match weave.tick? tick with
    | none => none
    | some (next, marks) => next.tickAll? (trace ++ marks) rest

end Weave

namespace Weave

variable {α : Type} (weave : Weave α)

/-- All that a tick of a running thread can do to a weave. -/
inductive Ticks : Weave α → Trace α → Prop where
  /-- A thread takes a lock for an operation. -/
  | took (operation : Operation α) (cell : Cell α) (lock : Lock)
      (free : weave.isFree operation.thread = true)
      (found : weave.world.cells.get? operation.value = some cell)
      (taken : cell.lock.acquire? operation.thread = some lock)
      (unborrowed : cell.borrowed = false) :
      Ticks (weave.become
        (weave.world.modifyCell operation.value fun cell =>
          { cell with lock := lock, borrowed := operation.borrows })
        operation.thread (operation.task :: weave.tasks operation.thread)) [.asked operation]
  /-- A thread takes a lock, but a closure of its own has the content. -/
  | refused (operation : Operation α) (cell : Cell α) (lock : Lock)
      (free : weave.isFree operation.thread = true)
      (found : weave.world.cells.get? operation.value = some cell)
      (taken : cell.lock.acquire? operation.thread = some lock)
      (borrowed : cell.borrowed = true) :
      Ticks (weave.become
        ((operation.refuse weave.world).modifyCell operation.value fun cell =>
          { cell with lock := lock })
        operation.thread (.refusal operation.value :: weave.tasks operation.thread)) []
  /-- An access goes on. -/
  | worked (thread : ThreadId) (value : ValueId) (kind : AccessKind) (closure : Closure α)
      (stage : AccessStage α) (rest : List (Task α)) (cell : Cell α)
      (tasks : weave.tasks thread = .access value kind closure stage :: rest)
      (going : stage.borrows = true)
      (found : weave.world.cells.get? value = some cell) :
      Ticks (weave.become (weave.world.nextStage thread value kind cell closure stage).1 thread
        (.access value kind (weave.world.nextStage thread value kind cell closure stage).2.1
          (weave.world.nextStage thread value kind cell closure stage).2.2 :: rest)) []
  /-- An access is over. -/
  | answered (thread : ThreadId) (value : ValueId) (kind : AccessKind) (closure : Closure α)
      (sighting : Option Sighting) (answer : Except Fault (Answer α)) (rest : List (Task α))
      (tasks : weave.tasks thread =
        .access value kind closure (.ended sighting answer) :: rest) :
      Ticks (weave.become (weave.world.modifyCell value Cell.unlock) thread rest)
        [.answered value ⟨thread, sighting, answer⟩]
  /-- The table is copied for a section entry. -/
  | copied (thread : ThreadId) (value : ValueId) (rest : List (Task α)) (cell : Cell α)
      (tasks : weave.tasks thread = .entry value none :: rest)
      (found : weave.world.cells.get? value = some cell) :
      Ticks (weave.become (weave.world.note (.entering value cell.label cell.clock.size)) thread
        (.entry value (some cell.clock) :: rest)) []
  /-- A section is entered. -/
  | entered (thread : ThreadId) (value : ValueId) (clock : ClockTable) (rest : List (Task α))
      (tasks : weave.tasks thread = .entry value (some clock) :: rest)
      (idle : (weave.world.thread thread).contextInUse = false) :
      Ticks (weave.opened (weave.world.adoptClock thread value clock) thread value rest) []
  /-- A section is not entered, because the thread is working on its context. -/
  | stalled (thread : ThreadId) (value : ValueId) (clock : ClockTable) (rest : List (Task α))
      (tasks : weave.tasks thread = .entry value (some clock) :: rest)
      (busy : (weave.world.thread thread).contextInUse = true) :
      Ticks (weave.become (weave.world.modifyCell value Cell.unlock) thread rest) []
  /-- A thread gives up what it cannot have. -/
  | yielded (thread : ThreadId) (value : ValueId) (rest : List (Task α))
      (tasks : weave.tasks thread = .refusal value :: rest) :
      Ticks (weave.become (weave.world.modifyCell value Cell.unlock) thread rest) []
  /-- A section is left. -/
  | left (thread : ThreadId) (value : ValueId) (free : weave.isFree thread = true)
      (inside : value ∈ weave.sections thread) :
      Ticks (weave.closed (weave.world.leaveSection value) thread value) []
  /-- A thread begins to work on its context. -/
  | contextOpened (thread : ThreadId) (free : weave.isFree thread = true)
      (idle : (weave.world.thread thread).contextInUse = false) :
      Ticks (weave.become (weave.world.openContext thread).1 thread
        (.context :: weave.tasks thread)) []
  /-- A thread is working on its context already. -/
  | contextBusy (thread : ThreadId) (free : weave.isFree thread = true)
      (busy : (weave.world.thread thread).contextInUse = true) :
      Ticks (weave.become weave.world thread (weave.tasks thread)) []
  /-- A thread ends the work on its context. -/
  | contextClosed (thread : ThreadId) (rest : List (Task α))
      (tasks : weave.tasks thread = .context :: rest) :
      Ticks (weave.become (weave.world.closeContext thread) thread rest) []

variable {weave}

/-- An operation that is asked for is a tick. -/
theorem ticks_of_ask? {next : Weave α} {marks : Trace α} {operation : Operation α}
    (free : weave.isFree operation.thread = true)
    (ticked : weave.ask? operation = some (next, marks)) : weave.Ticks next marks := by
  unfold ask? at ticked
  split at ticked
  · cases ticked
  · rename_i cell found
    split at ticked
    · cases ticked
    · rename_i lock taken
      split at ticked
      · rename_i borrowed
        cases ticked
        exact .refused operation cell lock free found taken borrowed
      · rename_i unborrowed
        cases ticked
        exact .took operation cell lock free found taken (Bool.eq_false_iff.2 unborrowed)

/-- A stage that is done is a tick. -/
theorem ticks_of_advance? {next : Weave α} {marks : Trace α} {thread : ThreadId}
    (ticked : weave.advance? thread = some (next, marks)) : weave.Ticks next marks := by
  unfold advance? at ticked
  split at ticked
  · rename_i tasks
    cases ticked
    exact .answered thread _ _ _ _ _ _ tasks
  · rename_i going tasks
    split at ticked
    · cases ticked
    · rename_i cell found
      cases ticked
      exact .worked thread _ _ _ _ _ cell tasks (AccessStage.borrows_of_ne_ended going) found
  · rename_i tasks
    split at ticked
    · cases ticked
    · rename_i cell found
      cases ticked
      exact .copied thread _ _ cell tasks found
  · rename_i value clock rest tasks
    cases busy : (weave.world.thread thread).contextInUse with
    | false =>
      rw [World.withContext_eq _ _ _ busy] at ticked
      cases ticked
      exact .entered thread value clock rest tasks busy
    | true =>
      rw [World.withContext_of_inUse _ _ _ busy] at ticked
      cases ticked
      exact .stalled thread value clock rest tasks busy
  · rename_i tasks
    cases ticked
    exact .yielded thread _ _ tasks
  · cases ticked

/-- A tick does one of twelve things. -/
theorem ticks_of_tick? {next : Weave α} {marks : Trace α} {tick : Tick α}
    (ticked : weave.tick? tick = some (next, marks)) : weave.Ticks next marks := by
  unfold tick? at ticked
  split at ticked
  case isFalse => cases ticked
  case isTrue running =>
  cases tick with
  | ask operation =>
    unfold carryOut? at ticked
    dsimp only at ticked
    split at ticked
    · rename_i free
      exact ticks_of_ask? free ticked
    · cases ticked
  | advance thread => exact ticks_of_advance? ticked
  | leave thread value =>
    unfold carryOut? at ticked
    dsimp only at ticked
    split at ticked
    · rename_i allowed
      rw [Bool.and_eq_true, List.contains_iff_mem] at allowed
      cases ticked
      exact .left thread value allowed.1 allowed.2
    · cases ticked
  | openContext thread =>
    unfold carryOut? at ticked
    dsimp only at ticked
    split at ticked
    · rename_i free
      cases busy : (weave.world.thread thread).contextInUse with
      | false =>
        rw [World.openContext_of_idle weave.world busy] at ticked
        cases ticked
        exact .contextOpened thread free busy
      | true =>
        rw [World.openContext_of_inUse weave.world busy] at ticked
        cases ticked
        exact .contextBusy thread free busy
    · cases ticked
  | closeContext thread =>
    unfold carryOut? at ticked
    dsimp only at ticked
    split at ticked
    · rename_i tasks
      cases ticked
      exact .contextClosed thread _ tasks
    · cases ticked

end Weave

/-- Ticks that lead from a world in which nobody is in the middle of anything to a weave, with what
they show. -/
inductive Weaving {α : Type} (world : World α) : Trace α → Weave α → Prop where
  /-- Nobody does anything. -/
  | start : Weaving world [] (.start world)
  /-- One more tick. -/
  | tick {trace marks : Trace α} {weave next : Weave α} {tick : Tick α}
      (weaving : Weaving world trace weave) (ticked : weave.tick? tick = some (next, marks)) :
      Weaving world (trace ++ marks) next

/-- Ticks that can be made one after another make a weaving. -/
theorem Weaving.tickAll? {α : Type} {world : World α} {trace later : Trace α}
    {weave next : Weave α} (weaving : Weaving world trace weave) (ticks : List (Tick α))
    (ticked : weave.tickAll? trace ticks = some (next, later)) : Weaving world later next := by
  induction ticks generalizing weave trace with
  | nil =>
    cases ticked
    exact weaving
  | cons tick rest ih =>
    unfold Weave.tickAll? at ticked
    split at ticked
    · cases ticked
    · rename_i made
      exact ih (weaving.tick made) ticked

end RaceSentry
