import RaceSentry.Proofs.Outcome

/-!
# All that a move can do

Most moves bear on locks, contents and contexts in use only, and keep everything that verdicts and
records depend on. The others are accesses, section entries, edits of contexts, and the making and
ending of threads, values and detectors; up to parts that verdicts do not depend on, each is one
of the stages. Main statement: `turn_of_perform?`, whatever a move does is one of these turns.
-/

namespace RaceSentry

variable {α β : Type}

/-- An event of which somebody should hear: a flagged access, or a report that was lost. -/
def Event.isAlarm : Event → Bool
  | .raced _ => true
  | .reportLost _ => true
  | _ => false

/-- A cell without its content and its lock. -/
def Cell.account (cell : Cell α) : Cell Unit :=
  { cell with payload := (), lock := .free, borrowed := false }

/-- The access that a happening tells of, recorded or cut short. -/
def Happening.access? : Happening → Option (ThreadId × ValueId × AccessKind)
  | .accessed thread value kind _ => some (thread, value, kind)
  | .stalled thread value kind => some (thread, value, kind)
  | _ => none

namespace World

/-- What somebody should hear of, latest first. -/
def alarms (world : World α) : List Event := world.journal.filter Event.isAlarm

/-- Threads and values are numbered in the order of their making, and nobody has seen anything of a
value that was not made. -/
structure Numbered (world : World α) : Prop where
  /-- Running threads were started. -/
  threads : ∀ thread, world.threads.contains thread = true → thread.index < world.started
  /-- Existing values were made. -/
  cells : ∀ value, world.cells.contains value = true → value.index < world.made
  /-- Snapshots are of values that were made. -/
  snapshots : ∀ thread value, (world.snapshot? thread value).isSome → value.index < world.made

/-- The same threads run and the same values exist. -/
structure Alike (world next : World α) : Prop where
  /-- No thread was started. -/
  started : next.started = world.started
  /-- No value was made. -/
  made : next.made = world.made
  /-- The same threads run. -/
  running : ∀ thread, next.threads.contains thread = world.threads.contains thread
  /-- The same values exist. -/
  present : ∀ value, next.cells.contains value = world.cells.contains value

/-- Nothing that verdicts and records depend on is changed. -/
structure Kept (world next : World α) : Prop extends Alike world next where
  /-- Cells are the same up to contents and locks. -/
  accounts : ∀ value, (next.cells.get? value).map Cell.account =
    (world.cells.get? value).map Cell.account
  /-- Every thread has seen the same of every value. -/
  snapshots : ∀ thread value, next.snapshot? thread value = world.snapshot? thread value
  /-- Ledgers and channels are the same. -/
  detectors : next.detectors = world.detectors
  /-- Nothing happened of which somebody should hear. -/
  alarms : next.alarms = world.alarms

namespace Alike

/-- A world is alike itself. -/
theorem refl (world : World α) : Alike world world := ⟨rfl, rfl, fun _ => rfl, fun _ => rfl⟩

/-- What is alike twice is alike. -/
theorem trans {world between next : World α} (first : Alike world between)
    (second : Alike between next) : Alike world next where
  started := second.started.trans first.started
  made := second.made.trans first.made
  running := fun thread => (second.running thread).trans (first.running thread)
  present := fun value => (second.present value).trans (first.present value)

end Alike

/-- An event in the journal leaves threads and values in existence. -/
theorem alike_note (world : World α) (event : Event) : Alike world (world.note event) :=
  ⟨rfl, rfl, fun _ => rfl, fun _ => rfl⟩

/-- Rewriting a value that exists makes none. -/
theorem alike_setCell (world : World α) {value : ValueId}
    (present : world.cells.contains value = true) (cell : Cell α) :
    Alike world (world.setCell value cell) where
  started := rfl
  made := rfl
  running := fun _ => rfl
  present := SortedMap.contains_insert_of_contains present cell

/-- Rewriting a running thread starts none. -/
theorem alike_setThread (world : World α) {id : ThreadId}
    (running : world.threads.contains id = true) (state : ThreadState) :
    Alike world (world.setThread id state) where
  started := rfl
  made := rfl
  running := SortedMap.contains_insert_of_contains running state
  present := fun _ => rfl

namespace Kept

/-- A world is kept as it is. -/
theorem refl (world : World α) : Kept world world :=
  ⟨.refl world, fun _ => rfl, fun _ _ => rfl, rfl, rfl⟩

/-- What is kept twice is kept. -/
theorem trans {world between next : World α} (first : Kept world between)
    (second : Kept between next) : Kept world next where
  toAlike := first.toAlike.trans second.toAlike
  accounts := fun value => (second.accounts value).trans (first.accounts value)
  snapshots := fun thread value =>
    (second.snapshots thread value).trans (first.snapshots thread value)
  detectors := second.detectors.trans first.detectors
  alarms := second.alarms.trans first.alarms

/-- Matters stand as before for every value. -/
theorem standing? {world next : World α} (kept : Kept world next) (value : ValueId) :
    next.standing? value = world.standing? value := by
  have same := congrArg (Option.map fun cell : Cell Unit => cell.standing fun _ => none)
    (kept.accounts value)
  rw [Option.map_map, Option.map_map] at same
  exact standing?_congr same fun thread => kept.snapshots thread value

/-- Numbers stay in order. -/
theorem numbered {world next : World α} (kept : Kept world next) (numbered : Numbered world) :
    Numbered next where
  threads := fun thread running => by
    rw [kept.running] at running
    rw [kept.started]
    exact numbered.threads thread running
  cells := fun value present => by
    rw [kept.present] at present
    rw [kept.made]
    exact numbered.cells value present
  snapshots := fun thread value held => by
    rw [kept.snapshots] at held
    rw [kept.made]
    exact numbered.snapshots thread value held

end Kept

variable (world : World α)

/-- An event that is no alarm keeps all that matters. -/
theorem kept_note (event : Event) (quiet : event.isAlarm = false) :
    Kept world (world.note event) where
  toAlike := alike_note world event
  accounts := fun _ => rfl
  snapshots := fun _ _ => rfl
  detectors := rfl
  alarms := by rw [alarms, note, List.filter_cons_of_neg (by simp [quiet]), alarms]

/-- The payload and the lock of a cell bear on nothing. -/
theorem kept_modifyCell (value : ValueId) {change : Cell α → Cell α}
    (same : ∀ cell, (change cell).account = cell.account) :
    Kept world (world.modifyCell value change) where
  toAlike := ⟨rfl, rfl, fun _ => rfl, fun other => SortedMap.contains_modify _ value other change⟩
  accounts := fun other => by
    rw [modifyCell, SortedMap.get?_modify]
    split
    · rename_i here
      rw [here, Option.map_map]
      congr 1
      funext cell
      exact same cell
    · rfl
  snapshots := fun _ _ => rfl
  detectors := rfl
  alarms := rfl

/-- A running thread may change in anything but what it has seen. -/
theorem kept_setThread {id : ThreadId} {state : ThreadState}
    (running : world.threads.contains id = true)
    (same : ∀ value, (state.context.bind fun context => context.snapshot? value) =
      world.snapshot? id value) :
    Kept world (world.setThread id state) where
  toAlike := alike_setThread world running state
  accounts := fun _ => rfl
  snapshots := fun thread value => by
    rw [snapshot?, thread_setThread]
    split
    · rename_i here
      rw [here, same]
    · rfl
  detectors := rfl
  alarms := rfl

/-- A context that is made has seen nothing. -/
theorem kept_ensureContext {id : ThreadId} (running : world.threads.contains id = true) :
    Kept world (world.ensureContext id).1 := by
  cases bound : (world.thread id).context with
  | some context =>
    rw [ensureContext_of_some world bound]
    exact .refl world
  | none =>
    rw [ensureContext_of_none world bound]
    refine (kept_note world (.attached _ _) rfl).trans
      (kept_setThread _ running fun value => ?_)
    rw [snapshot?]
    change none = Option.bind (world.thread id).context _
    rw [bound]
    rfl

/-- A thread that begins work on its context keeps all that matters. -/
theorem kept_openContext {id : ThreadId} (running : world.threads.contains id = true) :
    Kept world (world.openContext id).1 := by
  unfold openContext
  split
  · exact .refl world
  · have ensured := kept_ensureContext world running
    refine ensured.trans (kept_setThread _ ?_ fun value => rfl)
    rw [ensured.running]
    exact running

/-- A thread that ends work on its context keeps all that matters. -/
theorem kept_closeContext {id : ThreadId} (running : world.threads.contains id = true) :
    Kept world (world.closeContext id) :=
  kept_setThread world running fun _ => rfl

/-- A closure that ends keeps all that matters. -/
theorem kept_endAccess (value : ValueId) (change : α → α) :
    Kept world (world.endAccess value change) :=
  kept_modifyCell world value fun _ => rfl

/-- A closure may take the content under the lock. -/
theorem kept_take (value : ValueId) (lock : Lock) :
    Kept world (world.modifyCell value fun cell => cell.take lock) :=
  kept_modifyCell world value fun _ => rfl

/-- A section that is left keeps all that matters. -/
theorem kept_leaveSection (value : ValueId) : Kept world (world.leaveSection value) :=
  (kept_note world (.leaving value) rfl).trans (kept_modifyCell _ value fun _ => rfl)

/-- Sections that are left keep all that matters. -/
theorem kept_leaveSections (values : List ValueId) :
    Kept world (values.foldl leaveSection world) := by
  induction values generalizing world with
  | nil => exact .refl world
  | cons value rest ih => exact (kept_leaveSection world value).trans (ih _)

/-- Looking at a value under its lock leaves at most a note that it was used by its own closure. -/
theorem kept_inspect (thread : ThreadId) (value : ValueId) (look : Cell α → β) :
    Kept world (world.inspect thread value look).1 := by
  unfold inspect
  split
  · exact .refl world
  · split
    · exact .refl world
    · split
      · exact kept_note world (.reentered value) rfl
      · exact .refl world

/-- Opens the account of the value that is made next, with the detector that it is of. -/
def openAccount (sink : Option DetectorId) (label : Option String) : World α :=
  match sink with
  | none => world
  | some id =>
    match world.detectors.get? id with
    | none => world
    | some detector => world.setDetector id (detector.register ⟨world.made⟩ label)

/-- An account that is opened leaves threads alone. -/
@[simp] theorem threads_openAccount (sink : Option DetectorId) (label : Option String) :
    (world.openAccount sink label).threads = world.threads := by
  unfold openAccount
  split
  · rfl
  · split
    · rfl
    · rfl

/-- An account that is opened leaves values alone. -/
@[simp] theorem cells_openAccount (sink : Option DetectorId) (label : Option String) :
    (world.openAccount sink label).cells = world.cells := by
  unfold openAccount
  split
  · rfl
  · split
    · rfl
    · rfl

/-- All that a move can do to what verdicts and records depend on, with its happenings. -/
inductive Turn : World α → List Happening → World α → Prop where
  /-- Nothing. -/
  | quiet {world next : World α} (kept : Kept world next) : Turn world [] next
  /-- An access is counted, and cut short because the context of the thread is in use. -/
  | stalled {world : World α} {thread : ThreadId} {value : ValueId} {kind : AccessKind}
      {cell : Cell α} (running : world.threads.contains thread = true)
      (found : world.cells.get? value = some cell) (on : cell.detecting = true) :
      Turn world [.stalled thread value kind] (world.countAccess value cell ⟨thread, kind⟩)
  /-- An access is recorded, and nothing stands against it. -/
  | clean {world : World α} {thread : ThreadId} {value : ValueId} {kind : AccessKind}
      {cell : Cell α} (running : world.threads.contains thread = true)
      (found : world.cells.get? value = some cell) (on : cell.detecting = true)
      (nothing : world.against value cell ⟨thread, kind⟩ = []) :
      Turn world [.accessed thread value kind none] (world.tallyAccess value cell ⟨thread, kind⟩)
  /-- An access is recorded and flagged. -/
  | flagged {world : World α} {thread : ThreadId} {value : ValueId} {kind : AccessKind}
      {cell : Cell α} (running : world.threads.contains thread = true)
      (found : world.cells.get? value = some cell) (on : cell.detecting = true)
      (something : world.against value cell ⟨thread, kind⟩ ≠ []) :
      Turn world [.accessed thread value kind (some (world.sightingOf value cell ⟨thread, kind⟩))]
        ((world.tallyAccess value cell ⟨thread, kind⟩).flag (cell.count ⟨thread, kind⟩)
          (world.sightingOf value cell ⟨thread, kind⟩))
  /-- A section is entered. -/
  | entered {world : World α} {thread : ThreadId} {value : ValueId} {cell : Cell α}
      (running : world.threads.contains thread = true)
      (found : world.cells.get? value = some cell) :
      Turn world [.entered thread value cell.clock] (world.adoptClock thread value cell.clock)
  /-- A context is edited by hand or put in place of another one. -/
  | edited {world : World α} {thread : ThreadId} {context : ThreadContext}
      (running : world.threads.contains thread = true) (known : world.knowsAll context = true) :
      Turn world [.edited thread context] (world.bindContext thread context)
  /-- A thread is started. -/
  | started {world : World α} (name : Option String) (attach : Bool) :
      Turn world [] (world.spawn name attach).1
  /-- A thread ends. -/
  | ended {world : World α} {thread : ThreadId}
      (running : world.threads.contains thread = true) :
      Turn world [.ended thread] { world with threads := world.threads.erase thread }
  /-- A detector is made. -/
  | equipped {world : World α} {detector : Detector} (blank : detector.ledger = ∅) :
      Turn world [] (world.setDetector ⟨world.detectors.size⟩ detector)
  /-- Something other than its ledger changes about a detector. -/
  | adjusted {world : World α} {id : DetectorId} {detector changed : Detector}
      (found : world.detectors.get? id = some detector)
      (same : changed.ledger = detector.ledger) : Turn world [] (world.setDetector id changed)
  /-- A value is made. -/
  | made {world : World α} {payload : α} {label : Option String} {detecting : Bool}
      {sink : Option DetectorId}
      (known : ∀ id, sink = some id → world.detectors.contains id = true) :
      Turn world [.made ⟨world.made⟩ detecting sink]
        ((world.openAccount sink label).addCell (.new payload label detecting sink)).1
  /-- A value is taken away. -/
  | removed {world : World α} {value : ValueId} (present : world.cells.contains value = true) :
      Turn world [.removed value] { world with cells := world.cells.erase value }
  /-- A turn in a world like this one. -/
  | after {world between next : World α} {happenings : List Happening}
      (kept : Kept world between) (turn : Turn between happenings next) : Turn world happenings next
  /-- A turn that leads to a world like this one. -/
  | upTo {world between next : World α} {happenings : List Happening}
      (turn : Turn world happenings between) (kept : Kept between next) :
      Turn world happenings next

/-- A context that is bound leaves threads and values in existence. -/
theorem alike_bindContext {id : ThreadId} (running : world.threads.contains id = true)
    (context : ThreadContext) : Alike world (world.bindContext id context) :=
  alike_setThread world running _

/-- An access that is counted leaves threads and values in existence. -/
theorem alike_countAccess {value : ValueId} {cell : Cell α}
    (found : world.cells.get? value = some cell) (key : AccessKey) :
    Alike world (world.countAccess value cell key) :=
  (alike_setCell world ((SortedMap.contains_iff _ _).2 ⟨cell, found⟩) _).trans (alike_note _ _)

/-- A counter that is copied leaves threads and values in existence. -/
theorem alike_copyCounter {key : AccessKey} (running : world.threads.contains key.thread = true)
    (value : ValueId) (counter : Nat) : Alike world (world.copyCounter value key counter) := by
  have ensured := (kept_ensureContext world running).toAlike
  exact ensured.trans (alike_bindContext _ (by rw [ensured.running]; exact running) _)

/-- A table that is adopted leaves threads and values in existence. -/
theorem alike_adoptClock {id : ThreadId} (running : world.threads.contains id = true)
    (value : ValueId) (clock : ClockTable) : Alike world (world.adoptClock id value clock) := by
  have ensured := (kept_ensureContext world running).toAlike
  exact ensured.trans (alike_bindContext _ (by rw [ensured.running]; exact running) _)

/-- An access that is recorded leaves threads and values in existence. -/
theorem alike_tallyAccess {value : ValueId} {cell : Cell α} {key : AccessKey}
    (running : world.threads.contains key.thread = true)
    (found : world.cells.get? value = some cell) :
    Alike world (world.tallyAccess value cell key) := by
  have counted := alike_countAccess world found key
  exact counted.trans (alike_copyCounter _ (by rw [counted.running]; exact running) value _)

/-- An entry in a ledger leaves threads and values in existence. -/
theorem alike_tallyRace (sink : Option DetectorId) (sighting : Sighting) :
    Alike world (world.tallyRace sink sighting) := by
  unfold tallyRace
  split
  · exact .refl world
  · split
    · exact .refl world
    · exact ⟨rfl, rfl, fun _ => rfl, fun _ => rfl⟩

/-- A report that is sent leaves threads and values in existence. -/
theorem alike_sendReport (sink : Option DetectorId) (sighting : Sighting) :
    Alike world (world.sendReport sink sighting) := by
  unfold sendReport
  split
  · exact .refl world
  · split
    · exact .refl world
    · split
      · exact ⟨rfl, rfl, fun _ => rfl, fun _ => rfl⟩
      · exact ⟨rfl, rfl, fun _ => rfl, fun _ => rfl⟩

/-- A conflict that is flagged leaves threads and values in existence. -/
theorem alike_flag {cell : Cell α} {sighting : Sighting}
    (present : world.cells.contains sighting.value = true) :
    Alike world (world.flag cell sighting) := by
  rw [flag_eq]
  have joined : Alike world (world.joinRace cell sighting) :=
    (alike_setCell world present _).trans (alike_note _ _)
  exact (joined.trans (alike_tallyRace _ _ sighting)).trans (alike_sendReport _ _ sighting)

/-- An access that is recorded and flagged leaves threads and values in existence. -/
theorem alike_flagged {value : ValueId} {cell : Cell α} {key : AccessKey}
    (running : world.threads.contains key.thread = true)
    (found : world.cells.get? value = some cell) :
    Alike world ((world.tallyAccess value cell key).flag (cell.count key)
      (world.sightingOf value cell key)) := by
  have tallied := alike_tallyAccess world running found
  have present : world.cells.contains value = true := (SortedMap.contains_iff _ _).2 ⟨cell, found⟩
  refine tallied.trans (alike_flag _ ?_)
  rw [tallied.present]
  exact present

/-- An account that is opened leaves threads and values in existence. -/
theorem alike_openAccount (sink : Option DetectorId) (label : Option String) :
    Alike world (world.openAccount sink label) := by
  unfold openAccount
  split
  · exact .refl world
  · split
    · exact .refl world
    · exact ⟨rfl, rfl, fun _ => rfl, fun _ => rfl⟩

/-- A value that is made takes the next number. -/
theorem contains_addCell (cell : Cell α) (value : ValueId) :
    (world.addCell cell).1.cells.contains value =
      (decide (value = ⟨world.made⟩) || world.cells.contains value) :=
  SortedMap.contains_insert _ _ _ _

/-- A thread that is started takes the next number. -/
theorem contains_spawn (name : Option String) (attach : Bool) (thread : ThreadId) :
    (world.spawn name attach).1.threads.contains thread =
      (decide (thread = ⟨world.started⟩) || world.threads.contains thread) := by
  unfold spawn
  dsimp only
  split
  · rw [(alike_bindContext _ ?_ _).running]
    · exact SortedMap.contains_insert _ _ _ _
    · exact (SortedMap.contains_insert _ _ _ _).trans (by simp)
  · exact SortedMap.contains_insert _ _ _ _

/-- A thread runs on until it ends. -/
theorem Turn.running {world next : World α} {happenings : List Happening}
    (turn : Turn world happenings next) {thread : ThreadId}
    (before : world.threads.contains thread = true) (unended : .ended thread ∉ happenings) :
    next.threads.contains thread = true := by
  induction turn with
  | quiet kept =>
    rw [kept.running]
    exact before
  | stalled running found on => exact before
  | clean running found on nothing =>
    rw [(alike_tallyAccess _ running found).running]
    exact before
  | flagged running found on something =>
    rw [(alike_flagged _ running found).running]
    exact before
  | entered running found =>
    rw [(alike_adoptClock _ running _ _).running]
    exact before
  | edited running known =>
    rw [(alike_bindContext _ running _).running]
    exact before
  | started name attach => rw [contains_spawn, before, Bool.or_true]
  | @ended world other running =>
    have different : thread ≠ other := fun same =>
      unended (by rw [same]; exact List.mem_singleton_self _)
    rw [SortedMap.contains_erase, decide_eq_false different, before]
    rfl
  | equipped blank => exact before
  | adjusted found same => exact before
  | made known =>
    change (World.openAccount _ _ _).threads.contains thread = true
    rw [threads_openAccount]
    exact before
  | removed present => exact before
  | after kept turn ih => exact ih (by rw [kept.running]; exact before) unended
  | upTo turn kept ih => rw [kept.running]; exact ih before unended

/-- Making a value takes the next number. -/
theorem get?_made_of_numbered {world : World α} (numbered : Numbered world) :
    world.cells.get? ⟨world.made⟩ = none := by
  cases found : world.cells.get? ⟨world.made⟩ with
  | none => rfl
  | some cell =>
    have below := numbered.cells ⟨world.made⟩ ((SortedMap.contains_iff _ _).2 ⟨cell, found⟩)
    exact absurd below (Nat.lt_irrefl _)

/-- What happens when an access is asked for. -/
def accessHappenings (thread : ThreadId) (value : ValueId) (kind : AccessKind) :
    Attempt (Option Sighting) → List Happening
  | .begun sighting =>
    if world.watches value then [.accessed thread value kind sighting] else []
  | .faulted .borrowed => [.stalled thread value kind]
  | _ => []

/-- A flagged access is told of. -/
theorem mem_accessHappenings {world next : World α} {thread : ThreadId} {value : ValueId}
    {kind : AccessKind} {sighting : Sighting}
    (asked : world.AsksAccess thread value kind next (.begun (some sighting))) :
    .accessed thread value kind (some sighting) ∈
      world.accessHappenings thread value kind (.begun (some sighting)) := by
  cases asked with
  | flagged cell lock found taken free on idle something =>
    have watched : world.watches value = true := by
      rw [watches, found]
      exact on
    rw [accessHappenings, if_pos watched]
    exact List.mem_singleton_self _

/-- Beginning an access is a turn. -/
theorem turn_of_asksAccess {world next : World α} {thread : ThreadId} {value : ValueId}
    {kind : AccessKind} {attempt : Attempt (Option Sighting)}
    (running : world.threads.contains thread = true)
    (asked : world.AsksAccess thread value kind next attempt) :
    Turn world (world.accessHappenings thread value kind attempt) next := by
  cases asked with
  | reentered cell lock found taken borrowed =>
    exact .quiet (kept_note world (.reentered value) rfl)
  | stalled cell lock found taken free on busy => exact .stalled running found on
  | unwatched cell lock found taken free off =>
    have unwatched : world.watches value = false := by rw [watches, found]; exact off
    rw [accessHappenings, unwatched]
    exact .quiet (kept_take world value lock)
  | clean cell lock found taken free on idle nothing =>
    have watched : world.watches value = true := by rw [watches, found]; exact on
    rw [accessHappenings, watched]
    exact (Turn.clean running found on nothing).upTo (kept_take _ value lock)
  | flagged cell lock found taken free on idle something =>
    have watched : world.watches value = true := by rw [watches, found]; exact on
    rw [accessHappenings, watched]
    exact (Turn.flagged running found on something).upTo (kept_take _ value lock)

/-- Entering a section is a turn. -/
theorem turn_of_asksSection {world next : World α} {thread : ThreadId} {value : ValueId}
    {attempt : Attempt Nat} (running : world.threads.contains thread = true)
    (asked : world.AsksSection thread value next attempt) :
    Turn world
      (match attempt with
        | .begun _ => [.entered thread value (world.clockOf value)]
        | _ => []) next := by
  cases asked with
  | reentered cell lock found taken borrowed => exact .quiet (.refl world)
  | stalled cell lock found taken free busy => exact .quiet (kept_note world _ rfl)
  | entered cell lock found taken free idle =>
    have clock : world.clockOf value = cell.clock := by rw [clockOf, found]; rfl
    simp only [clock]
    have turn : Turn (world.note (.entering value cell.label cell.clock.size))
        [.entered thread value cell.clock] _ := .entered running found
    exact (turn.after (kept_note world _ rfl)).upTo (kept_modifyCell _ value fun _ => rfl)

/-- What is done to a detector in use is a turn if it is one for every detector. -/
theorem turn_of_ifInUse {world : World α} {id : DetectorId}
    {work : Detector → World α × Reply α}
    (worked : ∀ detector, world.detectors.get? id = some detector →
      Turn world [] (work detector).1) :
    Turn world [] (world.ifInUse id work).1 := by
  unfold ifInUse
  split
  · rename_i detector found
    split
    · exact worked detector found
    · exact .quiet (.refl world)
  · exact .quiet (.refl world)

/-- Ending a thread leaves its sections, and then it is gone. -/
theorem turn_of_endThread (world : World α) (thread : ThreadId) (reply : Reply α) :
    Turn world (if world.threads.contains thread then [.ended thread] else [])
      (world.ifRunning thread (world.endThread thread, reply)).1 := by
  unfold ifRunning
  split
  · rename_i running
    have kept := kept_leaveSections world (world.thread thread).sections
    have turn : Turn _ [.ended thread] (world.endThread thread) :=
      .ended (by rw [kept.running]; exact running)
    exact turn.after kept
  · exact .quiet (.refl world)

/-- A detector that is made has nothing in its ledger. -/
theorem ledger_of_new {config : DetectorConfig} {detector : Detector}
    (made : Detector.new config = .ok detector) : detector.ledger = ∅ := by
  unfold Detector.new at made
  split at made
  · cases made
  · split at made
    · cases made
    · cases made
      rfl

/-- A detector that is made is a turn of which nothing is told. -/
theorem turn_of_newDetector (world : World α) (config : Option String) :
    Turn world [] (world.newDetector config).1 := by
  unfold newDetector
  split
  · exact .equipped rfl
  · split
    · exact .quiet (.refl world)
    · split
      · exact .quiet (.refl world)
      · exact .quiet (.refl world)
      · rename_i config _ _ detector made
        have turn : Turn world [] (world.setDetector ⟨world.detectors.size⟩ detector) :=
          .equipped (ledger_of_new made)
        exact turn.upTo (kept_note _ _ rfl)

/-- Making a value of a detector opens an account for it first. -/
theorem turn_of_newValue {world : World α} (numbered : Numbered world) (payload : α)
    (sink : Option DetectorId) (label : Option String) :
    Turn world ((Step.newValue payload sink label).happenings world
      (world.newValue payload sink label).1) (world.newValue payload sink label).1 := by
  have absent := get?_made_of_numbered numbered
  cases sink with
  | none =>
    have stored : (world.newValue payload none label).1.cells.get? ⟨world.made⟩ =
        some (.new payload none true none) := SortedMap.get?_insert_self _ _ _
    simp only [Step.happenings, absent, stored]
    have turn : Turn world [.made ⟨world.made⟩ true none]
        ((world.openAccount none none).addCell (.new payload none true none)).1 :=
      .made (fun id none => by cases none)
    exact turn
  | some id =>
    cases found : world.detectors.get? id with
    | none =>
      have same : (world.newValue payload (some id) label).1 = world := by
        simp only [newValue, ifInUse, found]
      simp only [Step.happenings, same, absent]
      exact .quiet (.refl world)
    | some detector =>
      cases inUse : detector.inUse with
      | false =>
        have same : (world.newValue payload (some id) label).1 = world := by
          simp only [newValue, ifInUse, found, inUse, Bool.false_eq_true, ↓reduceIte]
        simp only [Step.happenings, same, absent]
        exact .quiet (.refl world)
      | true =>
        have same : world.newValue payload (some id) label =
            (world.openAccount (some id) label).addCell
              (.new payload label detector.config.raceDetection.enabled (some id)) := by
          simp only [newValue, ifInUse, found, inUse, ↓reduceIte, openAccount]
        have stored : (world.newValue payload (some id) label).1.cells.get? ⟨world.made⟩ =
            some (.new payload label detector.config.raceDetection.enabled (some id)) := by
          rw [same]
          simp only [openAccount, found]
          exact SortedMap.get?_insert_self _ _ _
        simp only [Step.happenings, absent, stored]
        rw [same]
        refine .made fun other here => ?_
        cases here
        exact (SortedMap.contains_iff _ _).2 ⟨detector, found⟩

/-- A value is taken away unless a section is open on it. -/
theorem turn_of_removeCell (world : World α) (value : ValueId) (reply : Cell α → Reply α) :
    Turn world
      (if world.cells.contains value && !(world.removeCell value reply).1.cells.contains value then
        [.removed value] else []) (world.removeCell value reply).1 := by
  cases found : world.cells.get? value with
  | none =>
    have same : (world.removeCell value reply).1 = world := by
      simp only [removeCell, found]
    rw [same, Bool.and_not_self]
    exact .quiet (.refl world)
  | some cell =>
    have present : world.cells.contains value = true :=
      (SortedMap.contains_iff _ _).2 ⟨cell, found⟩
    cases held : cell.lock.isHeld with
    | true =>
      have same : (world.removeCell value reply).1 = world := by
        simp only [removeCell, found, held, ↓reduceIte]
      rw [same, Bool.and_not_self]
      exact .quiet (.refl world)
    | false =>
      have gone : (world.removeCell value reply).1 =
          { world with cells := world.cells.erase value } := by
        simp only [removeCell, found, held, Bool.false_eq_true, ↓reduceIte]
      rw [gone, present, SortedMap.contains_erase]
      simp only [decide_true, Bool.not_true, Bool.false_and, Bool.not_false, Bool.and_self,
        ↓reduceIte]
      exact .removed present

/-- Receiving changes at most the queue of a channel. -/
theorem turn_of_receive (world : World α) (receiver : Nat) :
    Turn world [] (world.receive receiver).1 := by
  unfold receive
  dsimp only
  split
  · exact .quiet (.refl world)
  · rename_i id detector channel found
    simp only [Option.bind_eq_bind, Option.bind_eq_some_iff, Option.some.injEq,
      Prod.mk.injEq] at found
    obtain ⟨_, _, _, stored, _, _, rfl, rfl, rfl⟩ := found
    exact .adjusted stored rfl

/-- Every step in which no thread acts is a turn. -/
theorem turn_of_step {world : World α} (numbered : Numbered world) {step : Step α}
    (still : step.isActed = false) :
    Turn world (step.happenings world (world.step step).1) (world.step step).1 := by
  cases step with
  | spawn name attach =>
    simp only [World.step, Step.happenings]
    split
    · exact .quiet (.refl world)
    · exact .started name attach
  | exit thread => exact turn_of_endThread world thread (.ended false)
  | crash thread => exact turn_of_endThread world thread (.ended true)
  | newDetector config => exact turn_of_newDetector world config
  | newValue payload sink label => exact turn_of_newValue numbered payload sink label
  | dropDetector id => exact turn_of_ifInUse fun detector found => .adjusted found rfl
  | dropValue value => exact turn_of_removeCell world value fun _ => .done
  | intoInner value => exact turn_of_removeCell world value fun cell => .payload cell.payload
  | stats id => exact turn_of_ifInUse fun _ _ => .quiet (.refl world)
  | total id => exact turn_of_ifInUse fun _ _ => .quiet (.refl world)
  | config id => exact turn_of_ifInUse fun _ _ => .quiet (.refl world)
  | capture id => exact turn_of_ifInUse fun _ _ => .quiet (.refl world)
  | drain id =>
    refine turn_of_ifInUse fun detector found => .adjusted found ?_
    unfold Detector.drain
    split
    · rfl
    · rfl
  | newReceiver id =>
    refine turn_of_ifInUse fun detector _ => .quiet ?_
    unfold newReceiver
    split
    · exact ⟨⟨rfl, rfl, fun _ => rfl, fun _ => rfl⟩, fun _ => rfl, fun _ _ => rfl, rfl, rfl⟩
    · exact .refl world
  | receive receiver => exact turn_of_receive world receiver
  | enter thread value => cases still
  | leave thread => cases still
  | act thread action => cases still

/-- The first context that a thread is given may be one that has seen nothing. -/
theorem snapshot?_of_firstAttach {world : World α} {thread : ThreadId} {context : ThreadContext}
    (first : ((world.thread thread).context.isNone && context.snapshots.isEmpty) = true)
    (value : ValueId) : context.snapshot? value = world.snapshot? thread value := by
  obtain ⟨unbound, blank⟩ := Bool.and_eq_true_iff.1 first
  have nothing : context.snapshots = ∅ := SortedMap.ext_get? fun key => by
    rw [SortedMap.get?, List.isEmpty_iff.1 blank]
    rfl
  rw [ThreadContext.snapshot?, nothing, snapshot?, Option.isNone_iff_eq_none.1 unbound]
  rfl

end World

namespace Scene

open World

variable {scene next : Scene α} {happenings : List Happening}

/-- An access that is performed is asked for by a running thread. -/
theorem asksAccess_of_perform? {thread : ThreadId} {value : ValueId} {kind : AccessKind}
    (performed : scene.perform? (.access thread value kind) = some (next, happenings)) :
    scene.world.threads.contains thread = true ∧ ∃ attempt,
      scene.world.AsksAccess thread value kind next.world attempt ∧
        happenings = scene.world.accessHappenings thread value kind attempt := by
  obtain ⟨running, outcome⟩ := perform?_eq_some_iff.1 performed
  refine ⟨running, ?_⟩
  cases outcome with
  | access asked => exact ⟨_, asked, rfl⟩
  | stall asked => exact ⟨_, asked, rfl⟩
  | reenter asked => exact ⟨_, asked, rfl⟩

/-- A section that outlasts the move is also put down among the open ones of its thread. -/
theorem turn_of_hold {thread : ThreadId} {value : ValueId} {world : World α} {entries : Nat}
    (running : scene.world.threads.contains thread = true)
    (asked : scene.world.AsksSection thread value world (.begun entries)) :
    Turn scene.world [.entered thread value (scene.world.clockOf value)]
      (world.setThread thread
        { world.thread thread with sections := value :: (world.thread thread).sections }) := by
  have turn := turn_of_asksSection running asked
  refine turn.upTo (kept_setThread world ?_ fun _ => rfl)
  exact turn.running running (by simp)

/-- The first context of a thread bears on nothing if it has seen nothing. -/
theorem turn_of_attach {thread : ThreadId} {context : ThreadContext}
    (running : scene.world.threads.contains thread = true)
    (known : scene.world.knowsAll context = true) :
    Turn scene.world
      (if (scene.world.thread thread).context.isNone && context.snapshots.isEmpty then []
        else [.edited thread context])
      ((scene.world.noteAttached context).bindContext thread context) := by
  have noted := kept_note scene.world (.attached context.identity context.name) rfl
  split
  · rename_i first
    refine .quiet (noted.trans (kept_setThread _ running fun value => ?_))
    exact snapshot?_of_firstAttach first value
  · have turn : Turn (scene.world.noteAttached context) [.edited thread context]
        ((scene.world.noteAttached context).bindContext thread context) := .edited running known
    exact turn.after noted

/-- Every move is a turn. -/
theorem turn_of_perform? (numbered : Numbered scene.world) {move : Move α}
    (performed : scene.perform? move = some (next, happenings)) :
    Turn scene.world happenings next.world := by
  obtain ⟨running, outcome⟩ := perform?_eq_some_iff.1 performed
  cases outcome with
  | access asked => exact turn_of_asksAccess running asked
  | stall asked => exact turn_of_asksAccess running asked
  | reenter asked => exact turn_of_asksAccess running asked
  | finish change frames => exact .quiet (kept_endAccess scene.world _ _)
  | enter asked => exact turn_of_asksSection running asked
  | refuseEnter asked => exact turn_of_asksSection running asked
  | leave frames => exact .quiet (kept_leaveSection scene.world _)
  | hold asked => exact turn_of_hold running asked
  | refuseHold asked => exact turn_of_asksSection running asked
  | @drop thread value member =>
    have taken : Kept scene.world (scene.world.setThread thread
        { scene.world.thread thread with
          sections := (scene.world.thread thread).sections.erase value }) :=
      kept_setThread scene.world running fun _ => rfl
    exact .quiet (taken.trans (kept_leaveSection _ value))
  | openContext idle => exact .quiet (kept_openContext scene.world running)
  | refuseContext busy => exact .quiet (.refl scene.world)
  | closeContext frames => exact .quiet (kept_closeContext scene.world running)
  | edit change bound busy known => exact .edited running known
  | attach known idle => exact turn_of_attach running known
  | refuseAttach known busy => exact .quiet (kept_note scene.world _ rfl)
  | look found admitted free => exact .quiet (.refl scene.world)
  | refuseLook found admitted borrowed => exact .quiet (kept_note scene.world _ rfl)
  | step still outside => exact turn_of_step numbered still

/-- Steps tell of the thread that they end, and of the value that they make or take away. -/
theorem eq_of_mem_happenings {before after : World α} {step : Step α} {happening : Happening}
    (told : happening ∈ step.happenings before after) :
    (∃ thread, step.ends? = some thread ∧ happening = .ended thread) ∨
      (∃ value detecting sink, happening = .made value detecting sink) ∨
        ∃ value, happening = .removed value := by
  unfold Step.happenings at told
  split at told
  · split at told
    · exact .inl ⟨_, rfl, List.mem_singleton.1 told⟩
    · cases told
  · split at told
    · exact .inl ⟨_, rfl, List.mem_singleton.1 told⟩
    · cases told
  · split at told
    · exact .inr (.inl ⟨_, _, _, List.mem_singleton.1 told⟩)
    · cases told
  · split at told
    · exact .inr (.inr ⟨_, List.mem_singleton.1 told⟩)
    · cases told
  · split at told
    · exact .inr (.inr ⟨_, List.mem_singleton.1 told⟩)
    · cases told
  · cases told

/-- Accesses are told of by the moves that ask for them. -/
theorem eq_access_of_perform? {move : Move α} {thread : ThreadId} {value : ValueId}
    {kind : AccessKind} {happening : Happening}
    (performed : scene.perform? move = some (next, happenings)) (told : happening ∈ happenings)
    (about : happening.access? = some (thread, value, kind)) :
    move = .access thread value kind := by
  obtain ⟨-, outcome⟩ := perform?_eq_some_iff.1 performed
  cases outcome with
  | access asked =>
    split at told
    · cases List.mem_singleton.1 told
      cases about
      rfl
    · cases told
  | stall asked =>
    cases List.mem_singleton.1 told
    cases about
    rfl
  | enter asked =>
    cases List.mem_singleton.1 told
    cases about
  | hold asked =>
    cases List.mem_singleton.1 told
    cases about
  | edit change bound busy known =>
    cases List.mem_singleton.1 told
    cases about
  | attach known idle =>
    split at told
    · cases told
    · cases List.mem_singleton.1 told
      cases about
  | step still outside =>
    obtain ⟨_, _, rfl⟩ | ⟨_, _, _, rfl⟩ | ⟨_, rfl⟩ := eq_of_mem_happenings told
    · cases about
    · cases about
    · cases about
  | _ => cases told

end Scene

end RaceSentry
