import RaceSentry.Proofs.Standing
import RaceSentry.Scenario.Step

/-!
# Threads that act in turns

A scenario lets one thread at a time do a whole action. Here any thread may move between any two
moves of another one: while a closure of one thread runs, others go on, as far as the locks admit
it. A scene is the world together with what each thread is inside of; a move is the smallest thing
that a thread does to it; a run is any sequence of moves that the scenes admit. What a run does to
clock tables, snapshots and racing threads is told by its happenings, latest first. Every scenario
is a run: `run_of_steps`.
-/

namespace RaceSentry

/-- What a thread is inside of. -/
inductive Frame where
  /-- The closure of an access of its own. -/
  | closure (value : ValueId) (kind : AccessKind)
  /-- The block of a section. -/
  | block (value : ValueId)
  /-- Work on its context. -/
  | context
  deriving DecidableEq, Repr

/-- The world and what each thread is inside of, innermost first. -/
structure Scene (α : Type) where
  /-- The state that the threads share. -/
  world : World α
  /-- What each thread is inside of. -/
  frames : ThreadId → List Frame

/-- Something that bears on clock tables, snapshots or racing threads. -/
inductive Happening where
  /-- A value was made. -/
  | made (value : ValueId) (detecting : Bool) (sink : Option DetectorId)
  /-- A value was taken away. -/
  | removed (value : ValueId)
  /-- A watched access was recorded, with its sighting if it was flagged. -/
  | accessed (thread : ThreadId) (value : ValueId) (kind : AccessKind)
    (sighting : Option Sighting)
  /-- A watched access was counted, but cut short because the thread's context was in use. -/
  | stalled (thread : ThreadId) (value : ValueId) (kind : AccessKind)
  /-- A section was entered, with the clock table that the value had at that moment. -/
  | entered (thread : ThreadId) (value : ValueId) (clock : ClockTable)
  /-- A thread edited its context by hand, or put another one in its place. -/
  | edited (thread : ThreadId) (context : ThreadContext)
  /-- A thread ended. -/
  | ended (thread : ThreadId)
  deriving DecidableEq

namespace Happening

/-- Whether a thread edited its context by hand, or accessed a value while working on it. -/
def disturbs : Happening → Bool
  | .edited _ _ => true
  | .stalled _ _ _ => true
  | _ => false

end Happening

/-- What happened, latest first. -/
abbrev History := List Happening

/-- Nobody edited a context by hand, and nobody accessed a value while working on a context. -/
def History.Undisturbed (past : History) : Prop :=
  ∀ happening ∈ past, happening.disturbs = false

instance (past : History) : Decidable past.Undisturbed :=
  inferInstanceAs (Decidable (∀ happening ∈ past, happening.disturbs = false))

/-- The smallest things that are done to a scene. -/
inductive Move (α : Type) where
  /-- A thread asks for an access; its closure runs until the access is finished. -/
  | access (thread : ThreadId) (value : ValueId) (kind : AccessKind)
  /-- The innermost closure of a thread ends, by returning or by giving up, and has changed the
  content if it may. -/
  | finish (thread : ThreadId) (change : α → α)
  /-- A thread asks for a section; its block runs until the section is left. -/
  | enter (thread : ThreadId) (value : ValueId)
  /-- The innermost block of a thread ends, by returning or by giving up. -/
  | leave (thread : ThreadId)
  /-- A thread asks for a section that lasts until it is dropped. -/
  | hold (thread : ThreadId) (value : ValueId)
  /-- A thread drops a section, in any order. -/
  | drop (thread : ThreadId) (value : ValueId)
  /-- A thread begins to work on its context. -/
  | openContext (thread : ThreadId)
  /-- A thread ends the work on its context. -/
  | closeContext (thread : ThreadId)
  /-- A thread edits its context by hand while working on it. -/
  | edit (thread : ThreadId) (change : ThreadContext → ThreadContext)
  /-- A thread puts a context in place of its own. -/
  | attach (thread : ThreadId) (context : ThreadContext)
  /-- A thread asks a value something under its lock. -/
  | look (thread : ThreadId) (value : ValueId)
  /-- A step of a scenario in which no thread acts. -/
  | step (step : Step α)

namespace Move

variable {α : Type}

/-- The thread that moves. -/
def thread? : Move α → Option ThreadId
  | .access thread _ _ => some thread
  | .finish thread _ => some thread
  | .enter thread _ => some thread
  | .leave thread => some thread
  | .hold thread _ => some thread
  | .drop thread _ => some thread
  | .openContext thread => some thread
  | .closeContext thread => some thread
  | .edit thread _ => some thread
  | .attach thread _ => some thread
  | .look thread _ => some thread
  | .step _ => none

end Move

namespace Step

variable {α : Type}

/-- Whether the step lets a thread act. -/
def isActed : Step α → Bool
  | .enter _ _ => true
  | .leave _ => true
  | .act _ _ => true
  | _ => false

/-- The thread that the step ends. -/
def ends? : Step α → Option ThreadId
  | .exit thread => some thread
  | .crash thread => some thread
  | _ => none

/-- What a step tells of the values and threads that it makes and ends. -/
def happenings (before after : World α) : Step α → List Happening
  | .exit thread => if before.threads.contains thread then [.ended thread] else []
  | .crash thread => if before.threads.contains thread then [.ended thread] else []
  | .newValue _ _ _ =>
    match before.cells.get? ⟨before.made⟩, after.cells.get? ⟨before.made⟩ with
    | none, some cell => [.made ⟨before.made⟩ cell.detecting cell.sink]
    | _, _ => []
  | .dropValue value =>
    if before.cells.contains value && !after.cells.contains value then [.removed value] else []
  | .intoInner value =>
    if before.cells.contains value && !after.cells.contains value then [.removed value] else []
  | _ => []

end Step

namespace World

variable {α : Type}

/-- Whether accesses to a value are counted and judged. -/
def watches (world : World α) (value : ValueId) : Bool :=
  (world.cells.get? value).any Cell.detecting

/-- The authoritative clock table of a value. -/
def clockOf (world : World α) (value : ValueId) : ClockTable :=
  ((world.cells.get? value).map Cell.clock).getD ∅

/-- Whether a context speaks of values only that were made. -/
def knowsAll (world : World α) (context : ThreadContext) : Bool :=
  context.snapshots.keys.all fun value => value.index < world.made

end World

namespace Scene

variable {α : Type} (scene : Scene α)

/-- Nothing exists. -/
def empty : Scene α := ⟨.empty, fun _ => []⟩

/-- The world changes, and with it what a thread is inside of. -/
def become (world : World α) (thread : ThreadId) (frames : List Frame) : Scene α :=
  ⟨world, fun other => if other = thread then frames else scene.frames other⟩

/-- The world changes while a thread goes into something. -/
def into (world : World α) (thread : ThreadId) (frame : Frame) : Scene α :=
  scene.become world thread (frame :: scene.frames thread)

/-- The scene with another world, in which everybody stays where they are. -/
def withWorld (world : World α) : Scene α := ⟨world, scene.frames⟩

/-- What comes of a move of a running thread, unless a lock keeps it waiting or there is nothing
to move. -/
def carryOut? : Move α → Option (Scene α × List Happening)
  | .access thread value kind =>
    match scene.world.beginAccess thread value kind with
    | (world, .begun sighting) =>
      some (scene.into world thread (.closure value kind),
        if scene.world.watches value then [.accessed thread value kind sighting] else [])
    | (world, .faulted .borrowed) => some (scene.withWorld world, [.stalled thread value kind])
    | (world, .faulted _) => some (scene.withWorld world, [])
    | _ => none
  | .finish thread change =>
    match scene.frames thread with
    | .closure value .read :: rest =>
      some (scene.become (scene.world.endAccess value id) thread rest, [])
    | .closure value .write :: rest =>
      some (scene.become (scene.world.endAccess value change) thread rest, [])
    | _ => none
  | .enter thread value =>
    match scene.world.enterSection thread value with
    | (world, .begun _) =>
      some (scene.into world thread (.block value),
        [.entered thread value (scene.world.clockOf value)])
    | (world, .faulted _) => some (scene.withWorld world, [])
    | _ => none
  | .leave thread =>
    match scene.frames thread with
    | .block value :: rest => some (scene.become (scene.world.leaveSection value) thread rest, [])
    | _ => none
  | .hold thread value =>
    match scene.world.enter thread value with
    | (world, .entered _ _) =>
      some (scene.withWorld world, [.entered thread value (scene.world.clockOf value)])
    | (world, .faulted _) => some (scene.withWorld world, [])
    | _ => none
  | .drop thread value =>
    let state := scene.world.thread thread
    if value ∈ state.sections then
      some (scene.withWorld ((scene.world.setThread thread
        { state with sections := state.sections.erase value }).leaveSection value), [])
    else none
  | .openContext thread =>
    match scene.world.openContext thread with
    | (world, .ok ()) => some (scene.into world thread .context, [])
    | (world, .error _) => some (scene.withWorld world, [])
  | .closeContext thread =>
    match scene.frames thread with
    | .context :: rest => some (scene.become (scene.world.closeContext thread) thread rest, [])
    | _ => none
  | .edit thread change =>
    match (scene.world.thread thread).context with
    | some context =>
      if (scene.world.thread thread).contextInUse && scene.world.knowsAll (change context) then
        some (scene.withWorld (scene.world.bindContext thread (change context)),
          [.edited thread (change context)])
      else none
    | none => none
  | .attach thread context =>
    if !scene.world.knowsAll context then none
    else
      let world := scene.world.noteAttached context
      let state := scene.world.thread thread
      if state.contextInUse then some (scene.withWorld world, [])
      else
        some (scene.withWorld (world.bindContext thread context),
          if state.context.isNone && context.snapshots.isEmpty then []
          else [.edited thread context])
  | .look thread value =>
    match scene.world.inspect thread value fun _ => () with
    | (world, .begun ()) => some (scene.withWorld world, [])
    | (world, .faulted _) => some (scene.withWorld world, [])
    | _ => none
  | .step step =>
    if !step.isActed && (step.ends?.all fun thread => (scene.frames thread).isEmpty) then
      let world := (scene.world.step step).1
      some (scene.withWorld world, step.happenings scene.world world)
    else none

/-- What comes of a move. Only threads that run move. -/
def perform? (move : Move α) : Option (Scene α × List Happening) :=
  if move.thread?.all scene.world.threads.contains then scene.carryOut? move else none

/-- What comes of moves one after another, if all of them can be made. -/
def playOut? (scene : Scene α) (past : History) : List (Move α) → Option (Scene α × History)
  | [] => some (scene, past)
  | move :: rest =>
    match scene.perform? move with
    | none => none
    | some (next, happenings) => next.playOut? (happenings ++ past) rest

end Scene

/-- Moves that lead from one scene to another, with their happenings, latest first. -/
inductive Path {α : Type} (start : Scene α) : History → Scene α → Prop where
  /-- Nobody moves. -/
  | refl : Path start [] start
  /-- One more move. -/
  | tail {past : History} {happenings : List Happening} {scene next : Scene α} {move : Move α}
      (path : Path start past scene) (performed : scene.perform? move = some (next, happenings)) :
      Path start (happenings ++ past) next

/-- Moves that lead from nothing to a scene. -/
abbrev Run {α : Type} (past : History) (scene : Scene α) : Prop :=
  Path Scene.empty past scene

namespace Path

variable {α : Type} {start middle scene : Scene α} {past later : History}

/-- Paths that meet make one path. -/
theorem trans (first : Path start past middle) (second : Path middle later scene) :
    Path start (later ++ past) scene := by
  induction second with
  | refl => exact first
  | tail path performed ih =>
    rw [List.append_assoc]
    exact ih.tail performed

/-- Moves that can be made one after another make a path. -/
theorem playOut? (path : Path start past middle) (moves : List (Move α))
    (played : middle.playOut? past moves = some (scene, later)) : Path start later scene := by
  induction moves generalizing middle past with
  | nil =>
    cases played
    exact path
  | cons move rest ih =>
    unfold Scene.playOut? at played
    split at played
    · cases played
    · rename_i performed
      exact ih (path.tail performed) played

end Path

/-- A path every move of which obeys a law, given the scene in which it is made and what is told of
it. -/
inductive Lawful {α : Type} (law : Scene α → Move α → List Happening → Prop) (start : Scene α) :
    History → Scene α → Prop where
  /-- Nobody moves. -/
  | refl : Lawful law start [] start
  /-- One more move, as the law wants it. -/
  | tail {past : History} {happenings : List Happening} {scene next : Scene α} {move : Move α}
      (before : Lawful law start past scene)
      (performed : scene.perform? move = some (next, happenings))
      (obeys : law scene move happenings) : Lawful law start (happenings ++ past) next

/-- What obeys a law is a path. -/
theorem Lawful.path {α : Type} {law : Scene α → Move α → List Happening → Prop}
    {start scene : Scene α} {past : History} (lawful : Lawful law start past scene) :
    Path start past scene := by
  induction lawful with
  | refl => exact .refl
  | tail before performed obeys ih => exact ih.tail performed

/-- Moves that obey a law wherever they are made, and can be made one after another, make a path
that obeys it. -/
theorem Lawful.playOut? {α : Type} {law : Scene α → Move α → List Happening → Prop}
    {start middle scene : Scene α} {past later : History} (lawful : Lawful law start past middle)
    (moves : List (Move α)) (obey : ∀ move ∈ moves, ∀ scene happenings, law scene move happenings)
    (played : middle.playOut? past moves = some (scene, later)) :
    Lawful law start later scene := by
  induction moves generalizing middle past with
  | nil =>
    cases played
    exact lawful
  | cons move rest ih =>
    unfold Scene.playOut? at played
    split at played
    · cases played
    · rename_i performed
      have next := lawful.tail performed (obey move List.mem_cons_self _ _)
      exact ih next (fun later member => obey later (List.mem_cons_of_mem _ member)) played

end RaceSentry
