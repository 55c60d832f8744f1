import RaceSentry.Proofs.Alarms
import RaceSentry.Proofs.Interleaving

/-!
# One value at a time

Stages of accesses to one value neither depend on other values nor change them. A view is all of a
value that such stages see, apart from its lock; a world alters at a value if everything else that
a view of any value shows stays as it is.
Main statements: one for each stage, and `alters_perform`.
-/

namespace RaceSentry

variable {α : Type}

/-- The cell as it is when nobody uses it. -/
def Cell.atRest (cell : Cell α) : Cell α := { cell with lock := .free, borrowed := false }

/-- All of a value that accesses to it depend on or change, apart from its lock. -/
structure View (α : Type) where
  /-- The cell, as it is when nobody uses it. -/
  cell : Cell α
  /-- What each thread has seen of the value, if it holds a snapshot. -/
  seen : ThreadId → Option ClockTable
  /-- The entry for the value in the ledger of its detector, if it has a detector. -/
  account : Option (Option LedgerEntry)

/-- An entry in which one more access is counted. -/
def LedgerEntry.counted (label : Option String) : Option LedgerEntry → LedgerEntry
  | some entry => { entry with races := entry.races + 1 }
  | none => ⟨label, 1⟩

/-- An entry in a ledger counts for its own value. -/
theorem Ledger.get?_count (ledger : Ledger) (value other : ValueId) (label : Option String) :
    SortedMap.get? (ledger.count value label) other =
      if other = value then some (.counted label (SortedMap.get? ledger value))
      else SortedMap.get? ledger other := by
  unfold Ledger.count
  cases found : SortedMap.get? ledger value with
  | none => exact SortedMap.get?_insert _ _ _ _
  | some entry => exact SortedMap.get?_insert _ _ _ _

namespace View

variable (view : View α)

/-- An access is counted in the authoritative table. -/
def count (key : AccessKey) : View α := { view with cell := view.cell.count key }

/-- A thread sees another table. -/
def see (thread : ThreadId) (table : ClockTable) : View α :=
  { view with seen := fun other => if other = thread then some table else view.seen other }

/-- A counter is copied into the snapshot of its thread. -/
def copy (key : AccessKey) (counter : Nat) : View α :=
  view.see key.thread (((view.seen key.thread).getD ∅).insert key counter)

/-- A thread joins those that race on the value. -/
def join (thread : ThreadId) : View α := { view with cell := view.cell.flag thread }

/-- The ledger counts a flagged access. -/
def tally (label : Option String) : View α :=
  { view with account := view.account.map fun entry => some (.counted label entry) }

/-- The content becomes another one. -/
def store (payload : α) : View α := { view with cell := { view.cell with payload := payload } }

/-- What stands against an access that is counted in both tables. -/
def against (key : AccessKey) : List Conflict :=
  Conflict.unseen view.cell.clock ((view.seen key.thread).getD ∅) key.kind

/-- An access is counted in both tables. -/
def counted (key : AccessKey) : View α := (view.count key).copy key (view.cell.clock.next key)

/-- The sighting of an access of a thread with a name. -/
def sighting (value : ValueId) (key : AccessKey) (name : Option String) : Sighting :=
  ⟨value, view.cell.label, key, name, (view.counted key).against key⟩

/-- An access is counted and judged, and flagged if anything stands against it. -/
def recorded (value : ValueId) (key : AccessKey) (name : Option String) :
    View α × Option Sighting :=
  if view.cell.detecting then
    if (view.counted key).against key = [] then (view.counted key, none)
    else
      (((view.counted key).join key.thread).tally view.cell.label,
        some (view.sighting value key name))
  else (view, none)

/-- An access with its closure. -/
def access (value : ValueId) (key : AccessKey) (name : Option String) (closure : Closure α) :
    View α × Except Fault (Answer α) :=
  let recorded := view.recorded value key name
  let worked := closure.work view.cell.payload
  (recorded.1.store worked.1, World.answerOf recorded.1.cell recorded.2 worked.2)

end View

namespace World

variable (world : World α)

/-- The entry for a value in the ledger of its detector, if it has a detector. -/
def account? (sink : Option DetectorId) (value : ValueId) : Option (Option LedgerEntry) :=
  (sink.bind world.ledger?).map fun ledger => SortedMap.get? ledger value

/-- What is to be seen of a value. -/
def view? (value : ValueId) : Option (View α) :=
  (world.cells.get? value).map fun cell =>
    ⟨cell.atRest, fun thread => world.snapshot? thread value, world.account? cell.sink value⟩

/-- The lock of a value, and whether a closure has its content. -/
def guard? (value : ValueId) : Option (Lock × Bool) :=
  (world.cells.get? value).map fun cell => (cell.lock, cell.borrowed)

/-- What is to be seen of a value that exists. -/
theorem view?_of_get? {value : ValueId} {cell : Cell α}
    (found : world.cells.get? value = some cell) :
    world.view? value = some ⟨cell.atRest, fun thread => world.snapshot? thread value,
      world.account? cell.sink value⟩ := by
  rw [view?, found, Option.map_some]

/-- The guard of a value that exists is its lock and borrow. -/
theorem guard?_of_get? {value : ValueId} {cell : Cell α}
    (found : world.cells.get? value = some cell) :
    world.guard? value = some (cell.lock, cell.borrowed) := by
  rw [guard?, found, Option.map_some]

/-- The same is to be seen of a value in worlds that agree on its cell, its snapshots, and its
account. -/
theorem view?_congr {world next : World α} {value : ValueId}
    (cells : next.cells.get? value = world.cells.get? value)
    (snapshots : ∀ thread, next.snapshot? thread value = world.snapshot? thread value)
    (accounts : ∀ sink, next.account? sink value = world.account? sink value) :
    next.view? value = world.view? value := by
  simp only [view?, cells, snapshots, accounts]

/-- What two worlds have to do with each other if only one value is worked on in between: what is
to be seen of it changes in one way, and its guard in another. -/
structure Alters (value : ValueId) (change : View α → View α)
    (turn : Lock × Bool → Lock × Bool) (world next : World α) : Prop where
  /-- What is to be seen of any value. -/
  view : ∀ other, next.view? other =
    if other = value then (world.view? value).map change else world.view? other
  /-- How any value is guarded. -/
  guard : ∀ other, next.guard? other =
    if other = value then (world.guard? value).map turn else world.guard? other
  /-- Threads keep their names. -/
  names : ∀ thread, (next.thread thread).name = (world.thread thread).name
  /-- Threads go on working on their contexts, or go on not to. -/
  contexts : ∀ thread,
    (next.thread thread).contextInUse = (world.thread thread).contextInUse

namespace Alters

variable {value : ValueId} {change change' : View α → View α}
  {turn turn' : Lock × Bool → Lock × Bool} {world between next : World α}

/-- Two pieces of work on a value come to one. -/
theorem trans (first : Alters value change turn world between)
    (second : Alters value change' turn' between next) :
    Alters value (change' ∘ change) (turn' ∘ turn) world next where
  view := fun other => by
    rw [second.view, first.view value, first.view other, if_pos rfl, Option.map_map]
    split
    · rfl
    · rfl
  guard := fun other => by
    rw [second.guard, first.guard value, first.guard other, if_pos rfl, Option.map_map]
    split
    · rfl
    · rfl
  names := fun thread => (second.names thread).trans (first.names thread)
  contexts := fun thread => (second.contexts thread).trans (first.contexts thread)

/-- It does not matter how a change is put, as long as it does the same. -/
theorem congr (alters : Alters value change turn world next)
    (same : (world.view? value).map change = (world.view? value).map change')
    (alike : (world.guard? value).map turn = (world.guard? value).map turn') :
    Alters value change' turn' world next where
  view := fun other => by rw [alters.view, same]
  guard := fun other => by rw [alters.guard, alike]
  names := alters.names
  contexts := alters.contexts

end Alters

/-- Whatever touches neither cells nor threads nor ledgers alters nothing. -/
theorem alters_of_same {world next : World α} (value : ValueId)
    (cells : next.cells = world.cells) (threads : next.threads = world.threads)
    (ledgers : ∀ id, next.ledger? id = world.ledger? id) : Alters value id id world next where
  view := fun other => by
    have same : next.view? other = world.view? other :=
      view?_congr (by rw [cells]) (fun thread => snapshot?_congr threads thread other)
        fun sink => by rw [account?, account?, funext ledgers]
    rw [same, Option.map_id_fun, id]
    split
    · rename_i here
      rw [here]
    · rfl
  guard := fun other => by
    rw [guard?, cells, ← guard?, Option.map_id_fun, id]
    split
    · rename_i here
      rw [here]
    · rfl
  names := fun thread => by rw [World.thread, threads, ← World.thread]
  contexts := fun thread => by rw [World.thread, threads, ← World.thread]

/-- An event in the journal is not to be seen. -/
theorem alters_note (value : ValueId) (event : Event) :
    Alters value id id world (world.note event) :=
  alters_of_same value rfl rfl fun _ => rfl

/-- Replacing a cell alters its value, unless the detector becomes another one. -/
theorem alters_setCell {value : ValueId} {cell stored : Cell α}
    (found : world.cells.get? value = some cell) (sink : stored.sink = cell.sink) :
    Alters value (fun view => { view with cell := stored.atRest })
      (fun _ => (stored.lock, stored.borrowed)) world (world.setCell value stored) where
  view := fun other => by
    rw [view?_of_get? world found, view?, setCell, SortedMap.get?_insert]
    split
    · rename_i here
      rw [here, Option.map_some, Option.map_some, sink]
      rfl
    · rfl
  guard := fun other => by
    rw [guard?_of_get? world found, guard?, setCell, SortedMap.get?_insert]
    split
    · rfl
    · rfl
  names := fun _ => rfl
  contexts := fun _ => rfl

/-- Rewriting a cell alters its value, unless the detector becomes another one. -/
theorem alters_modifyCell (value : ValueId) {rewrite : Cell α → Cell α}
    {change : View α → View α} {turn : Lock × Bool → Lock × Bool}
    (sink : ∀ cell, (rewrite cell).sink = cell.sink)
    (shown : ∀ cell seen account, change ⟨cell.atRest, seen, account⟩ =
      ⟨(rewrite cell).atRest, seen, account⟩)
    (turned : ∀ cell, turn (cell.lock, cell.borrowed) =
      ((rewrite cell).lock, (rewrite cell).borrowed)) :
    Alters value change turn world (world.modifyCell value rewrite) := by
  cases found : world.cells.get? value with
  | none =>
    have same : world.modifyCell value rewrite = world := by
      rw [modifyCell, SortedMap.modify_of_get?_none found]
    rw [same]
    refine ⟨fun other => ?_, fun other => ?_, fun _ => rfl, fun _ => rfl⟩
    · split
      · rename_i here
        rw [here, view?, found]
        rfl
      · rfl
    · split
      · rename_i here
        rw [here, guard?, found]
        rfl
      · rfl
  | some cell =>
    have same : world.modifyCell value rewrite = world.setCell value (rewrite cell) := by
      rw [modifyCell, setCell, SortedMap.modify_of_get? found]
    rw [same]
    refine (alters_setCell world found (sink cell)).congr ?_ ?_
    · rw [view?_of_get? world found, Option.map_some, Option.map_some, shown]
    · rw [guard?_of_get? world found, Option.map_some, Option.map_some, turned]

/-- A thread takes the lock, and perhaps the content. -/
theorem alters_take (value : ValueId) (lock : Lock) (borrowed : Bool) :
    Alters value id (fun _ => (lock, borrowed)) world
      (world.modifyCell value fun cell => { cell with lock := lock, borrowed := borrowed }) :=
  alters_modifyCell world value (fun _ => rfl) (fun _ _ _ => rfl) fun _ => rfl

/-- A thread takes the lock again. -/
theorem alters_retake (value : ValueId) (lock : Lock) :
    Alters value id (fun guard => (lock, guard.2)) world
      (world.modifyCell value fun cell => { cell with lock := lock }) :=
  alters_modifyCell world value (fun _ => rfl) (fun _ _ _ => rfl) fun _ => rfl

/-- A thread takes the lock for an operation that is not to be had. -/
theorem alters_refuse (operation : Operation α) (lock : Lock) :
    Alters operation.value id (fun guard => (lock, guard.2)) world
      ((operation.refuse world).modifyCell operation.value fun cell =>
        { cell with lock := lock }) := by
  cases operation with
  | access thread value kind closure =>
    exact (alters_note world value (.reentered value)).trans (alters_retake _ value lock)
  | entry thread value => exact alters_retake world value lock

/-- A thread gives the lock up. -/
theorem alters_unlock (value : ValueId) :
    Alters value id (fun guard => (guard.1.release, guard.2)) world
      (world.modifyCell value Cell.unlock) :=
  alters_modifyCell world value (fun _ => rfl) (fun _ _ _ => rfl) fun _ => rfl

/-- A section that is left releases the lock. -/
theorem alters_leaveSection (value : ValueId) :
    Alters value id (fun guard => (guard.1.release, guard.2)) world (world.leaveSection value) :=
  (alters_note world value (.leaving value)).trans (alters_unlock _ value)

/-- A closure changes the content. -/
theorem alters_stretch (value : ValueId) (change : α → α) :
    Alters value (fun view => view.store (change view.cell.payload)) id world
      (world.modifyCell value fun cell => { cell with payload := change cell.payload }) :=
  alters_modifyCell world value (fun _ => rfl) (fun _ _ _ => rfl) fun _ => rfl

/-- A closure changes the content for the last time. -/
theorem alters_last (value : ValueId) (change : α → α) :
    Alters value (fun view => view.store (change view.cell.payload)) (fun guard => (guard.1, false))
      world (world.modifyCell value fun cell =>
        { cell with payload := change cell.payload, borrowed := false }) :=
  alters_modifyCell world value (fun _ => rfl) (fun _ _ _ => rfl) fun _ => rfl

/-- A closure that ends stores the content, and gives up the lock and the content. -/
theorem alters_endAccess (value : ValueId) (payload : α) :
    Alters value (View.store · payload) (fun guard => (guard.1.release, false)) world
      (world.endAccess value fun _ => payload) :=
  alters_modifyCell world value (fun _ => rfl) (fun _ _ _ => rfl) fun _ => rfl

/-- An access that is counted is to be seen in the clock table. -/
theorem alters_countAccess {value : ValueId} {cell : Cell α}
    (found : world.cells.get? value = some cell) (key : AccessKey) :
    Alters value (View.count · key) id world (world.countAccess value cell key) := by
  have stored : Alters value _ _ world (world.setCell value (cell.count key)) :=
    alters_setCell world found rfl
  refine (stored.trans (alters_note _ value _)).congr ?_ ?_
  · rw [view?_of_get? world found]
    rfl
  · rw [guard?_of_get? world found]
    rfl

/-- Working on the context of a thread alters a value if nothing else becomes of what the thread
has seen of other values. -/
theorem alters_bindContext {value : ValueId} {thread : ThreadId} {context : ThreadContext}
    {table : ClockTable} (seen : ∀ other, context.snapshot? other =
      if other = value then some table else world.snapshot? thread other) :
    Alters value (View.see · thread table) id world
      ((world.ensureContext thread).1.bindContext thread context) := by
  have cells : ((world.ensureContext thread).1.bindContext thread context).cells = world.cells :=
    cells_ensureContext world thread
  have ledgers : ((world.ensureContext thread).1.bindContext thread context).ledger? =
      world.ledger? :=
    funext fun id => (silent_ensureContext world thread).ledger? id
  have threads : ∀ other, ((world.ensureContext thread).1.bindContext thread context).thread
      other = if other = thread then { world.thread thread with context := some context }
        else world.thread other := by
    intro other
    rw [thread_bindContext]
    split
    · rw [thread_ensureContext, if_pos rfl]
    · rename_i different
      rw [thread_ensureContext, if_neg different]
  refine ⟨fun other => ?_, fun other => ?_, fun other => ?_, fun other => ?_⟩
  · rw [view?, view?, view?, cells]
    have snapshots : (fun actor => ((world.ensureContext thread).1.bindContext thread
        context).snapshot? actor other) = fun actor =>
          if actor = thread then context.snapshot? other else world.snapshot? actor other := by
      funext actor
      rw [snapshot?_bindContext, snapshot?_ensureContext_world]
    rw [snapshots, seen]
    split
    · rename_i here
      rw [here, Option.map_map]
      simp only [account?, ledgers]
      rfl
    · have unchanged : (fun actor => if actor = thread then world.snapshot? thread other
          else world.snapshot? actor other) = fun actor => world.snapshot? actor other := by
        funext actor
        split
        · rename_i same
          rw [same]
        · rfl
      rw [unchanged]
      simp only [account?, ledgers]
  · rw [guard?, cells, ← guard?, Option.map_id_fun, id]
    split
    · rename_i here
      rw [here]
    · rfl
  · rw [threads]
    split
    · rename_i same
      rw [same]
    · rfl
  · rw [threads]
    split
    · rename_i same
      rw [same]
    · rfl

/-- A counter that is copied is to be seen in what its thread has seen. -/
theorem alters_copyCounter {value : ValueId} {cell : Cell α}
    (found : world.cells.get? value = some cell) (key : AccessKey) (counter : Nat) :
    Alters value (View.copy · key counter) id world (world.copyCounter value key counter) := by
  have seen : ∀ other, ((world.ensureContext key.thread).2.record value key counter).snapshot?
      other = if other = value then
        some (((world.snapshot? key.thread value).getD ∅).insert key counter)
      else world.snapshot? key.thread other := by
    intro other
    rw [ThreadContext.snapshot?_record, snapshot?_ensureContext, snapshot?_ensureContext]
  refine (alters_bindContext world seen).congr ?_ rfl
  rw [view?_of_get? world found]
  rfl

/-- A table that is adopted is to be seen as what its thread has seen. -/
theorem alters_adoptClock (thread : ThreadId) (value : ValueId) (clock : ClockTable) :
    Alters value (View.see · thread clock) id world (world.adoptClock thread value clock) := by
  refine alters_bindContext world fun other => ?_
  rw [ThreadContext.snapshot?_replace, snapshot?_ensureContext]

/-- A thread that joins those that race is to be seen among them. -/
theorem alters_joinRace {cell : Cell α} (sighting : Sighting)
    (found : world.cells.get? sighting.value = some cell) :
    Alters sighting.value (View.join · sighting.key.thread) id world
      (world.joinRace cell sighting) := by
  have stored : Alters sighting.value _ _ world
      (world.setCell sighting.value (cell.flag sighting.key.thread)) :=
    alters_setCell world found rfl
  refine (stored.trans (alters_note _ _ _)).congr ?_ ?_
  · rw [view?_of_get? world found]
    rfl
  · rw [guard?_of_get? world found]
    rfl

/-- What the ledger counts is seen of the value that was raced on, and of no other. -/
theorem alters_tallyRace {cell : Cell α} (sighting : Sighting)
    (found : world.cells.get? sighting.value = some cell) :
    Alters sighting.value (View.tally · sighting.label) id world
      (world.tallyRace cell.sink sighting) := by
  have same := snapshot?_congr (threads_tallyRace world cell.sink sighting)
  have threads : (world.tallyRace cell.sink sighting).thread = world.thread := by
    funext thread
    rw [World.thread, threads_tallyRace, ← World.thread]
  have ledgers : ∀ id, (world.tallyRace cell.sink sighting).ledger? id =
      if cell.sink = some id then
        (world.ledger? id).map fun ledger => ledger.count sighting.value sighting.label
      else world.ledger? id := by
    intro id
    rw [ledger?, detectors_tallyRace, ledger?]
    split
    · rw [Option.map_map, Option.map_map]
      rfl
    · rfl
  have accounts : ∀ sink value, (world.tallyRace cell.sink sighting).account? sink value =
      if sink = cell.sink ∧ value = sighting.value then
        (world.account? sink value).map fun entry => some (.counted sighting.label entry)
      else world.account? sink value := by
    intro sink value
    cases sink with
    | none =>
      split
      · rfl
      · rfl
    | some id =>
      change ((world.tallyRace cell.sink sighting).ledger? id).map _ = _
      rw [ledgers]
      by_cases here : cell.sink = some id
      · rw [if_pos here, Option.map_map]
        by_cases about : value = sighting.value
        · rw [if_pos ⟨here.symm, about⟩, account?, Option.map_map, about]
          congr 1
          funext ledger
          exact (Ledger.get?_count ledger _ _ _).trans (if_pos rfl)
        · rw [if_neg fun both => about both.2, account?]
          congr 1
          funext ledger
          exact (Ledger.get?_count ledger _ _ _).trans (if_neg about)
      · rw [if_neg here, if_neg fun both => here both.1.symm]
        rfl
  refine ⟨fun other => ?_, fun other => ?_, fun _ => by rw [threads], fun _ => by rw [threads]⟩
  · rw [view?, cells_tallyRace]
    simp only [same, accounts]
    split
    · rename_i here
      rw [here, view?_of_get? world found, found, Option.map_some, Option.map_some,
        if_pos ⟨rfl, rfl⟩]
      rfl
    · rename_i different
      rw [view?]
      simp only [different, and_false, if_false]
  · rw [guard?, cells_tallyRace, ← guard?, Option.map_id_fun, id]
    split
    · rename_i here
      rw [here]
    · rfl

/-- A report that is sent is not to be seen. -/
theorem alters_sendReport (value : ValueId) (sink : Option DetectorId) (sighting : Sighting) :
    Alters value id id world (world.sendReport sink sighting) := by
  refine alters_of_same value (cells_sendReport world sink sighting)
    (threads_sendReport world sink sighting) fun id => ?_
  rw [ledger?, detectors_sendReport, ledger?]
  split
  · rw [Option.map_map]
    congr 1
    funext detector
    exact ledger_deliver detector sighting
  · rfl

/-- What two worlds have to do with each other if only one thread has begun or ended work on its
context in between. -/
structure Unaltered (thread : ThreadId) (world next : World α) : Prop where
  /-- Every value looks the same. -/
  view : ∀ value, next.view? value = world.view? value
  /-- Every value is guarded in the same way. -/
  guard : ∀ value, next.guard? value = world.guard? value
  /-- Threads keep their names. -/
  names : ∀ other, (next.thread other).name = (world.thread other).name
  /-- Other threads go on working on their contexts, or go on not to. -/
  contexts : ∀ other, other ≠ thread →
    (next.thread other).contextInUse = (world.thread other).contextInUse

/-- Work on a context begins and ends without a change to anything else. -/
theorem unaltered_setThread (thread : ThreadId) {state : ThreadState}
    (name : state.name = (world.thread thread).name)
    (context : state.context = (world.thread thread).context) :
    Unaltered thread world (world.setThread thread state) where
  view := fun value => by
    refine view?_congr rfl (fun other => ?_) fun _ => rfl
    rw [snapshot?, snapshot?, thread_setThread]
    split
    · rename_i same
      rw [same, context]
    · rfl
  guard := fun _ => rfl
  names := fun other => by
    rw [thread_setThread]
    split
    · rename_i same
      rw [same, name]
    · rfl
  contexts := fun other different => by rw [thread_setThread, if_neg different]

/-- A thread that begins work on its context alters nothing else. -/
theorem unaltered_openContext {thread : ThreadId}
    (idle : (world.thread thread).contextInUse = false) :
    Unaltered thread world (world.openContext thread).1 := by
  have cells := cells_ensureContext world thread
  have begun : (world.openContext thread).1 = (world.ensureContext thread).1.setThread thread
      { (world.ensureContext thread).1.thread thread with contextInUse := true } := by
    unfold openContext
    rw [if_neg (by simp [idle])]
  have opened : Unaltered thread (world.ensureContext thread).1
      ((world.ensureContext thread).1.setThread thread
        { (world.ensureContext thread).1.thread thread with contextInUse := true }) :=
    unaltered_setThread _ thread rfl rfl
  have ledgers : ∀ id, (world.ensureContext thread).1.ledger? id = world.ledger? id :=
    (silent_ensureContext world thread).ledger?
  have ensured : ∀ other, ((world.ensureContext thread).1.thread other).name =
        (world.thread other).name ∧ (other ≠ thread →
          ((world.ensureContext thread).1.thread other).contextInUse =
            (world.thread other).contextInUse) := by
    intro other
    rw [thread_ensureContext]
    split
    · rename_i same
      exact ⟨by rw [same], fun different => absurd same different⟩
    · exact ⟨rfl, fun _ => rfl⟩
  rw [begun]
  refine ⟨fun value => ?_, fun value => ?_, fun other => ?_, fun other different => ?_⟩
  · rw [opened.view]
    exact view?_congr (by rw [cells]) (fun other => snapshot?_ensureContext_world world thread _ _)
      fun sink => by rw [account?, account?, funext ledgers]
  · rw [opened.guard, guard?, cells, ← guard?]
  · rw [opened.names, (ensured other).1]
  · rw [opened.contexts other different, (ensured other).2 different]

/-- A thread that ends work on its context alters nothing else. -/
theorem unaltered_closeContext (thread : ThreadId) :
    Unaltered thread world (world.closeContext thread) :=
  unaltered_setThread world thread rfl rfl

/-- Nobody has a lock or a content, and nobody works on a context. -/
structure Rests : Prop where
  /-- Nobody has a lock, and no closure has a content. -/
  guards : ∀ value guard, world.guard? value = some guard → guard = (.free, false)
  /-- Nobody works on a context. -/
  contexts : ∀ thread, (world.thread thread).contextInUse = false

variable {world}

/-- Work on a value that leaves its guard alone leaves everybody at rest. -/
theorem Rests.altered {next : World α} {value : ValueId} {change : View α → View α}
    (rests : world.Rests) (alters : Alters value change id world next) : next.Rests where
  guards := fun other guard guarded => by
    rw [alters.guard, Option.map_id_fun, id] at guarded
    split at guarded
    · rename_i here
      rw [← here] at guarded
      exact rests.guards other guard guarded
    · exact rests.guards other guard guarded
  contexts := fun thread => (alters.contexts thread).trans (rests.contexts thread)

/-- Any thread can have the lock and the content of a value that nobody uses. -/
theorem Rests.admitted {value : ValueId} {cell : Cell α} (rests : world.Rests)
    (found : world.cells.get? value = some cell) (thread : ThreadId) :
    cell.lock.acquire? thread = some (.held thread 0) ∧ cell.borrowed = false := by
  have guard := rests.guards value _ (guard?_of_get? world found)
  rw [Prod.mk.injEq] at guard
  rw [guard.1]
  exact ⟨rfl, guard.2⟩

/-- An access that is recorded is to be seen in the clock table, and in what its thread has seen. -/
theorem alters_tallyAccess {value : ValueId} {cell : Cell α}
    (found : world.cells.get? value = some cell) (key : AccessKey) :
    Alters value (View.counted · key) id world (world.tallyAccess value cell key) := by
  have counted : (world.countAccess value cell key).cells.get? value = some (cell.count key) :=
    SortedMap.get?_insert_self _ _ _
  refine ((alters_countAccess world found key).trans
    (alters_copyCounter _ counted key (cell.clock.next key))).congr ?_ rfl
  rw [view?_of_get? world found]
  rfl

/-- What stands against an access is seen in the view of its value. -/
theorem against_eq {value : ValueId} {cell : Cell α} {view : View α}
    (found : world.cells.get? value = some cell) (shown : world.view? value = some view)
    (key : AccessKey) : world.against value cell key = (view.counted key).against key := by
  rw [view?_of_get? world found, Option.some.injEq] at shown
  rw [← shown]
  simp only [View.against, View.counted, View.copy, View.see, View.count, if_true,
    Option.getD_some]
  rfl

/-- What a sighting tells is to be seen of its value. -/
theorem sightingOf_eq {value : ValueId} {cell : Cell α} {view : View α}
    (found : world.cells.get? value = some cell) (shown : world.view? value = some view)
    (key : AccessKey) :
    world.sightingOf value cell key =
      view.sighting value key (world.thread key.thread).name := by
  rw [sightingOf, View.sighting, against_eq found shown]
  rw [view?_of_get? world found, Option.some.injEq] at shown
  rw [← shown]
  rfl

/-- Recording an access under the lock is what is done to the view of its value. -/
theorem alters_recordAccess {value : ValueId} {cell : Cell α} {view : View α}
    (found : world.cells.get? value = some cell) (shown : world.view? value = some view)
    (key : AccessKey) (idle : (world.thread key.thread).contextInUse = false) :
    (world.recordAccess value cell key).2 =
        .ok (view.recorded value key (world.thread key.thread).name).2 ∧
      Alters value (fun _ => (view.recorded value key (world.thread key.thread).name).1) id world
        (world.recordAccess value cell key).1 := by
  have detecting : view.cell.detecting = cell.detecting := by
    rw [view?_of_get? world found, Option.some.injEq] at shown
    rw [← shown]
    rfl
  cases on : cell.detecting with
  | false =>
    rw [on] at detecting
    rw [recordAccess_of_not_detecting world on, View.recorded, if_neg (by simp [detecting])]
    refine ⟨rfl, (alters_of_same value rfl rfl fun _ => rfl).congr ?_ rfl⟩
    rw [shown]
    rfl
  | true =>
    rw [on] at detecting
    have tallied := alters_tallyAccess found key
    rw [recordAccess_eq world on idle, View.recorded, if_pos detecting,
      against_eq found shown key]
    split
    · refine ⟨rfl, tallied.congr ?_ rfl⟩
      rw [shown]
      rfl
    · have stored : (world.tallyAccess value cell key).cells.get?
          (world.sightingOf value cell key).value = some (cell.count key) :=
        get?_tallyAccess world value cell key
      have joined : ((world.tallyAccess value cell key).joinRace (cell.count key)
          (world.sightingOf value cell key)).cells.get?
            (world.sightingOf value cell key).value = some ((cell.count key).flag key.thread) :=
        SortedMap.get?_insert_self _ _ _
      have label : view.cell.label = cell.label := by
        rw [view?_of_get? world found, Option.some.injEq] at shown
        rw [← shown]
        rfl
      refine ⟨by rw [sightingOf_eq found shown], ?_⟩
      rw [flag_eq]
      refine (((tallied.trans (alters_joinRace _ _ stored)).trans
        (alters_tallyRace _ _ joined)).trans (alters_sendReport _ value _ _)).congr ?_ rfl
      rw [shown, label]
      rfl

/-- Recording an access leaves the content as it is. -/
theorem payload_recorded (view : View α) (value : ValueId) (key : AccessKey)
    (name : Option String) : (view.recorded value key name).1.cell.payload = view.cell.payload := by
  unfold View.recorded
  split
  · split
    · rfl
    · rfl
  · rfl

/-- An access that can have the lock and the content is recorded, and gets both. -/
theorem beginAccess_of_admitted {value : ValueId} {cell : Cell α} {thread : ThreadId}
    {kind : AccessKind} {lock : Lock} {recorded : World α} {sighting : Option Sighting}
    (found : world.cells.get? value = some cell) (taken : cell.lock.acquire? thread = some lock)
    (unborrowed : cell.borrowed = false)
    (done : world.recordAccess value cell ⟨thread, kind⟩ = (recorded, .ok sighting)) :
    world.beginAccess thread value kind =
      (recorded.modifyCell value fun cell => { cell with lock := lock, borrowed := true },
        .begun sighting) := by
  simp only [beginAccess, found, taken, unborrowed, Bool.false_eq_true, ↓reduceIte, done]

/-- What is left of an access that has begun when its closure works without a break. -/
theorem access_of_begun {begun : World α} {value : ValueId} {cell : Cell α} {thread : ThreadId}
    {kind : AccessKind} {sighting : Option Sighting} {work : α → α × Except String (Result α)}
    (asked : world.beginAccess thread value kind = (begun, .begun sighting))
    (found : begun.cells.get? value = some cell) :
    world.access thread value kind Action.noBody work =
      (begun.endAccess value fun _ => (work cell.payload).1,
        answerOf cell sighting (work cell.payload).2) := by
  simp only [access, asked, Action.noBody, found]
  cases (work cell.payload).2 with
  | error text => rfl
  | ok result => rfl

/-- A cell of which a view is seen. -/
theorem get?_of_view? {value : ValueId} {view : View α} (shown : world.view? value = some view) :
    ∃ cell, world.cells.get? value = some cell ∧ cell.atRest = view.cell := by
  obtain ⟨cell, found, rfl⟩ := Option.map_eq_some_iff.1 shown
  exact ⟨cell, found, rfl⟩

/-- An access that is performed as a whole does what is done to the view of its value. -/
theorem alters_access {value : ValueId} {view : View α} (rests : world.Rests)
    (shown : world.view? value = some view) (thread : ThreadId) (kind : AccessKind)
    (closure : Closure α) :
    (world.access thread value kind Action.noBody closure.work).2 =
        (view.access value ⟨thread, kind⟩ (world.thread thread).name closure).2 ∧
      Alters value
        (fun _ => (view.access value ⟨thread, kind⟩ (world.thread thread).name closure).1) id
        world (world.access thread value kind Action.noBody closure.work).1 := by
  obtain ⟨cell, found, _⟩ := get?_of_view? shown
  obtain ⟨answer, recording⟩ :=
    alters_recordAccess found shown ⟨thread, kind⟩ (rests.contexts thread)
  obtain ⟨free, unborrowed⟩ := rests.admitted found thread
  have asked := beginAccess_of_admitted found free unborrowed (Prod.ext rfl answer)
  have taking := recording.trans (alters_take _ value (.held thread 0) true)
  have begun := taking.view value
  rw [if_pos rfl, shown, Option.map_some] at begun
  obtain ⟨taken, stored, rest⟩ := get?_of_view? begun
  have racing : taken.atRest.raceCount = (view.recorded value ⟨thread, kind⟩
      (world.thread thread).name).1.cell.raceCount := congrArg Cell.raceCount rest
  have payload : taken.atRest.payload = view.cell.payload := by
    rw [← payload_recorded view value ⟨thread, kind⟩ (world.thread thread).name]
    exact congrArg Cell.payload rest
  change taken.payload = _ at payload
  rw [access_of_begun asked stored]
  refine ⟨?_, (taking.trans (alters_endAccess _ value (closure.work taken.payload).1)).congr ?_ ?_⟩
  · rw [payload, View.access]
    change answerOf taken.atRest _ _ = _
    unfold answerOf
    rw [racing]
  · rw [shown, payload]
    rfl
  · have guard := rests.guards value _ (guard?_of_get? world found)
    rw [guard?_of_get? world found, guard]
    rfl

/-- A thread that can have the lock of a value, and enters a section, sees the value as it is. -/
theorem enterSection_of_admitted {value : ValueId} {cell : Cell α} {thread : ThreadId}
    {lock : Lock} (found : world.cells.get? value = some cell)
    (taken : cell.lock.acquire? thread = some lock) (unborrowed : cell.borrowed = false)
    (idle : (world.thread thread).contextInUse = false) :
    world.enterSection thread value =
      (((world.note (.entering value cell.label cell.clock.size)).adoptClock thread value
        cell.clock).modifyCell value fun cell => { cell with lock := lock },
        .begun cell.clock.size) := by
  simp only [enterSection, found, taken, unborrowed, Bool.false_eq_true, ↓reduceIte]
  rw [withContext_eq (world.note _) thread _ idle]
  rfl

/-- What is left of a section that is entered and left at once. -/
theorem perform_entry {value : ValueId} {cell : Cell α} {thread : ThreadId} {lock : Lock}
    (found : world.cells.get? value = some cell) (taken : cell.lock.acquire? thread = some lock)
    (unborrowed : cell.borrowed = false) (idle : (world.thread thread).contextInUse = false) :
    Operation.perform world (.entry thread value) =
      (((((world.note (.entering value cell.label cell.clock.size)).adoptClock thread value
        cell.clock).modifyCell value fun cell => { cell with lock := lock }).leaveSection value),
        []) := by
  simp only [Operation.perform, Action.run, Action.runBody,
    enterSection_of_admitted found taken unborrowed idle]

/-- A section that is entered and left at once lets its thread see the value as it is. -/
theorem alters_entry {value : ValueId} {view : View α} (rests : world.Rests)
    (shown : world.view? value = some view) (thread : ThreadId) :
    Alters value (fun _ => view.see thread view.cell.clock) id world
      (Operation.perform world (.entry thread value)).1 := by
  obtain ⟨cell, found, rest⟩ := get?_of_view? shown
  have clock : cell.atRest.clock = view.cell.clock := congrArg Cell.clock rest
  change cell.clock = _ at clock
  obtain ⟨free, unborrowed⟩ := rests.admitted found thread
  rw [perform_entry found free unborrowed (rests.contexts thread), clock]
  refine ((((alters_note _ value _).trans (alters_adoptClock _ thread value _)).trans
    (alters_retake _ value _)).trans (alters_leaveSection _ value)).congr ?_ ?_
  · rw [shown]
    rfl
  · have guard := rests.guards value _ (guard?_of_get? world found)
    rw [guard?_of_get? world found, guard]
    rfl

end World

namespace View

/-- What an operation does to the view of its value, and what comes of it. -/
def perform (view : View α) (name : Option String) : Operation α → View α × List (Outcome α)
  | .access thread value kind closure =>
    let access := view.access value ⟨thread, kind⟩ name closure
    (access.1, [⟨thread, (view.recorded value ⟨thread, kind⟩ name).2, access.2⟩])
  | .entry thread _ => (view.see thread view.cell.clock, [])

end View

namespace World

variable {world : World α}

/-- An operation that is performed as a whole does what is done to the view of its value. -/
theorem alters_perform {operation : Operation α} {view : View α} (rests : world.Rests)
    (shown : world.view? operation.value = some view) :
    (operation.perform world).2 =
        (view.perform (world.thread operation.thread).name operation).2 ∧
      Alters operation.value
        (fun _ => (view.perform (world.thread operation.thread).name operation).1) id world
        (operation.perform world).1 := by
  cases operation with
  | access thread value kind closure =>
    have shown : world.view? value = some view := shown
    obtain ⟨answer, alters⟩ := alters_access rests shown thread kind closure
    refine ⟨?_, alters⟩
    obtain ⟨cell, found, _⟩ := get?_of_view? shown
    obtain ⟨judged, _⟩ := alters_recordAccess found shown ⟨thread, kind⟩ (rests.contexts thread)
    obtain ⟨free, unborrowed⟩ := rests.admitted found thread
    have asked := beginAccess_of_admitted found free unborrowed (Prod.ext rfl judged)
    simp only [Operation.perform, Operation.verdict?, answer, asked]
    rfl
  | entry thread value => exact ⟨rfl, alters_entry rests shown thread⟩

end World

end RaceSentry
