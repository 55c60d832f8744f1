import RaceSentry.Proofs.Standing

/-!
# Stages of accesses and sections

Under the lock of its value an access is counted in the authoritative table, its counter is copied
into the thread's snapshot, and it is judged; if anything stands against it, the thread joins
those that race, the ledger counts it, and a report is sent. Here each stage is an operation of
its own, with what it does to the parts of the world.
Main statements: `recordAccess_eq`, an access is these stages one after another;
`recordAccess_ne_snapshotMissing`, the snapshot that it is judged by is there;
`asksAccess_of_beginAccess` and `asksSection_of_enterSection`, all that asking for an access or a
section can do.
-/

namespace RaceSentry

variable {α β : Type}

/-- Puts the content at the disposal of a closure, under the lock. -/
def Cell.take (cell : Cell α) (lock : Lock) : Cell α :=
  { cell with lock := lock, borrowed := true }

namespace World

variable (world : World α)

/-- Only what becomes of the stored cell matters. -/
theorem modifyCell_congr {value : ValueId} {cell : Cell α}
    (found : world.cells.get? value = some cell) {change change' : Cell α → Cell α}
    (same : change cell = change' cell) :
    world.modifyCell value change = world.modifyCell value change' := by
  rw [modifyCell, modifyCell, SortedMap.modify_of_get? found, SortedMap.modify_of_get? found, same]

/-- A thread that is replaced leaves the others alone. -/
theorem thread_setThread (id other : ThreadId) (state : ThreadState) :
    (world.setThread id state).thread other = if other = id then state else world.thread other := by
  unfold thread setThread
  rw [SortedMap.get?_insert]
  split
  · rfl
  · rfl

/-- A context that is bound to a thread leaves the others alone. -/
theorem thread_bindContext (id other : ThreadId) (context : ThreadContext) :
    (world.bindContext id context).thread other =
      if other = id then { world.thread id with context := some context } else world.thread other :=
  thread_setThread world id other _

/-- A thread that has a context keeps it. -/
theorem ensureContext_of_some {id : ThreadId} {context : ThreadContext}
    (bound : (world.thread id).context = some context) :
    world.ensureContext id = (world, context) := by
  simp only [ensureContext, bound]

/-- A thread without a context gets a new one, and this is told. -/
theorem ensureContext_of_none {id : ThreadId} (unbound : (world.thread id).context = none) :
    world.ensureContext id =
      ((world.noteAttached (.new id (world.thread id).name)).bindContext id
        (.new id (world.thread id).name), .new id (world.thread id).name) := by
  simp only [ensureContext, unbound]

/-- A thread has a context once it needs one, and the others are left alone. -/
theorem thread_ensureContext (id other : ThreadId) :
    (world.ensureContext id).1.thread other =
      if other = id then { world.thread id with context := some (world.ensureContext id).2 }
      else world.thread other := by
  cases bound : (world.thread id).context with
  | some context =>
    rw [ensureContext_of_some world bound]
    split
    · rename_i same
      rw [same, ← bound]
    · rfl
  | none =>
    rw [ensureContext_of_none world bound]
    exact thread_bindContext _ id other _

/-- A context that is made has seen nothing, so asking for one changes no snapshot. -/
theorem snapshot?_ensureContext (id : ThreadId) (value : ValueId) :
    (world.ensureContext id).2.snapshot? value = world.snapshot? id value := by
  cases bound : (world.thread id).context with
  | some context =>
    rw [ensureContext_of_some world bound, snapshot?, bound]
    rfl
  | none =>
    rw [ensureContext_of_none world bound, snapshot?, bound]
    rfl

/-- Work on a context that is not in use binds what it makes of it. -/
theorem withContext_eq (id : ThreadId) (work : ThreadContext → ThreadContext × β)
    (idle : (world.thread id).contextInUse = false) :
    world.withContext id work =
      ((world.ensureContext id).1.bindContext id (work (world.ensureContext id).2).1,
        .ok (work (world.ensureContext id).2).2) := by
  unfold withContext
  rw [if_neg (by simp [idle])]

/-- Work on a context that is in use is refused. -/
theorem withContext_of_inUse (id : ThreadId) (work : ThreadContext → ThreadContext × β)
    (busy : (world.thread id).contextInUse = true) :
    world.withContext id work = (world, .error .borrowed) := by
  unfold withContext
  rw [if_pos busy]

/-- A context that is not in use can be opened. -/
theorem openContext_of_idle {id : ThreadId} (idle : (world.thread id).contextInUse = false) :
    world.openContext id = ((world.openContext id).1, .ok ()) := by
  unfold openContext
  rw [if_neg (by simp [idle])]

/-- A context that is in use cannot be opened. -/
theorem openContext_of_inUse {id : ThreadId} (busy : (world.thread id).contextInUse = true) :
    world.openContext id = (world, .error .borrowed) := by
  unfold openContext
  rw [if_pos busy]

/-- A thread with another context has seen what that context holds. -/
theorem snapshot?_bindContext (id thread : ThreadId) (context : ThreadContext) (value : ValueId) :
    (world.bindContext id context).snapshot? thread value =
      if thread = id then context.snapshot? value else world.snapshot? thread value := by
  unfold snapshot?
  rw [thread_bindContext]
  split
  · rfl
  · rfl

/-- A context that is made when it is needed holds no snapshots. -/
@[simp] theorem snapshot?_ensureContext_world (id thread : ThreadId) (value : ValueId) :
    (world.ensureContext id).1.snapshot? thread value = world.snapshot? thread value := by
  by_cases same : thread = id
  · subst same
    rw [snapshot?, thread_ensureContext, if_pos rfl]
    exact snapshot?_ensureContext world thread value
  · rw [snapshot?, thread_ensureContext, if_neg same, snapshot?]

/-- A context that is made when it is needed leaves values alone. -/
@[simp] theorem cells_ensureContext (id : ThreadId) :
    (world.ensureContext id).1.cells = world.cells := by
  cases bound : (world.thread id).context with
  | some context => rw [ensureContext_of_some world bound]
  | none => rw [ensureContext_of_none world bound]; rfl

/-- Counts an access in the authoritative table of its value. -/
def countAccess (value : ValueId) (cell : Cell α) (key : AccessKey) : World α :=
  (world.setCell value (cell.count key)).note (.recorded value key (cell.clock.next key))

/-- Copies a counter into the snapshot of the thread it belongs to. -/
def copyCounter (value : ValueId) (key : AccessKey) (counter : Nat) : World α :=
  (world.ensureContext key.thread).1.bindContext key.thread
    ((world.ensureContext key.thread).2.record value key counter)

/-- Lets a flagged thread join those that race on the value. -/
def joinRace (cell : Cell α) (sighting : Sighting) : World α :=
  (world.setCell sighting.value (cell.flag sighting.key.thread)).note (.raced sighting)

/-- Counts a flagged access in the ledger of its detector. -/
def tallyRace (sink : Option DetectorId) (sighting : Sighting) : World α :=
  match sink with
  | none => world
  | some id =>
    match world.detectors.get? id with
    | none => world
    | some detector => world.setDetector id (detector.tally sighting)

/-- Sends the report of a flagged access to the channel of its detector. -/
def sendReport (sink : Option DetectorId) (sighting : Sighting) : World α :=
  match sink with
  | none => world
  | some id =>
    match world.detectors.get? id with
    | none => world
    | some detector =>
      match detector.deliver sighting with
      | (detector, none) => world.setDetector id detector
      | (detector, some reason) => (world.setDetector id detector).note (.reportLost reason)

/-- An entry in a ledger leaves values alone. -/
@[simp] theorem cells_tallyRace (sink : Option DetectorId) (sighting : Sighting) :
    (world.tallyRace sink sighting).cells = world.cells := by
  unfold tallyRace
  split
  · rfl
  · split <;> rfl

/-- A report that is sent leaves values alone. -/
@[simp] theorem cells_sendReport (sink : Option DetectorId) (sighting : Sighting) :
    (world.sendReport sink sighting).cells = world.cells := by
  unfold sendReport
  split
  · rfl
  · split
    · rfl
    · split <;> rfl

/-- An entry in a ledger leaves threads alone. -/
@[simp] theorem threads_tallyRace (sink : Option DetectorId) (sighting : Sighting) :
    (world.tallyRace sink sighting).threads = world.threads := by
  unfold tallyRace
  split
  · rfl
  · split <;> rfl

/-- A report that is sent leaves threads alone. -/
@[simp] theorem threads_sendReport (sink : Option DetectorId) (sighting : Sighting) :
    (world.sendReport sink sighting).threads = world.threads := by
  unfold sendReport
  split
  · rfl
  · split
    · rfl
    · split <;> rfl

/-- Snapshots depend on the threads alone. -/
theorem snapshot?_congr {world next : World α} (threads : next.threads = world.threads)
    (thread : ThreadId) (value : ValueId) :
    next.snapshot? thread value = world.snapshot? thread value := by
  rw [snapshot?, snapshot?, World.thread, World.thread, threads]

/-- A counter is copied into the snapshot that its thread has of its value. -/
theorem snapshot?_copyCounter (value other : ValueId) (key : AccessKey) (counter : Nat)
    (thread : ThreadId) :
    (world.copyCounter value key counter).snapshot? thread other =
      if thread = key.thread ∧ other = value then
        some (((world.snapshot? key.thread value).getD ∅).insert key counter)
      else world.snapshot? thread other := by
  unfold copyCounter
  rw [snapshot?_bindContext, ThreadContext.snapshot?_record, snapshot?_ensureContext,
    snapshot?_ensureContext, snapshot?_ensureContext_world]
  by_cases same : thread = key.thread
  · subst same
    simp only [↓reduceIte, true_and]
  · simp only [same, ↓reduceIte, false_and]

/-- A copied counter leaves values alone. -/
@[simp] theorem cells_copyCounter (value : ValueId) (key : AccessKey) (counter : Nat) :
    (world.copyCounter value key counter).cells = world.cells :=
  cells_ensureContext world key.thread

/-- Replacing a cell replaces the standing of its value, up to the snapshots. -/
theorem standing?_setCell (value other : ValueId) (cell : Cell α) :
    (world.setCell value cell).standing? other =
      if other = value then some (cell.standing fun thread => world.snapshot? thread value)
      else world.standing? other := by
  rw [standing?, setCell, SortedMap.get?_insert]
  split
  · rename_i same
    rw [same]
    rfl
  · rfl

/-- An event in the journal does not matter to any value. -/
@[simp] theorem standing?_note (event : Event) (value : ValueId) :
    (world.note event).standing? value = world.standing? value := rfl

/-- What is bound to a thread is what it has seen from then on. -/
theorem standing?_bindContext (id : ThreadId) (context : ThreadContext) (value : ValueId) :
    (world.bindContext id context).standing? value =
      (world.standing? value).map fun standing =>
        standing.withSnapshot id (context.snapshot? value) := by
  have seen : (fun thread => (world.bindContext id context).snapshot? thread value) =
      fun thread => if thread = id then context.snapshot? value
        else world.snapshot? thread value := by
    funext thread
    rw [snapshot?_bindContext]
  rw [standing?, standing?, seen, Option.map_map]
  rfl

/-- A context that is made when it is needed does not matter to any value. -/
@[simp] theorem standing?_ensureContext (id : ThreadId) (value : ValueId) :
    (world.ensureContext id).1.standing? value = world.standing? value :=
  standing?_congr (by rw [cells_ensureContext])
    fun thread => snapshot?_ensureContext_world world id thread value

/-- An access that is counted adds to the clock table of its value. -/
theorem standing?_countAccess {value : ValueId} {cell : Cell α}
    (found : world.cells.get? value = some cell) (key : AccessKey) (other : ValueId) :
    (world.countAccess value cell key).standing? other =
      if other = value then (world.standing? value).map fun standing => standing.count key
      else world.standing? other := by
  rw [countAccess, standing?_note, standing?_setCell, standing?_of_get? world found]
  rfl

/-- A counter that is copied adds to what its thread has seen of its value. -/
theorem standing?_copyCounter (value other : ValueId) (key : AccessKey) (counter : Nat) :
    (world.copyCounter value key counter).standing? other =
      if other = value then (world.standing? value).map fun standing => standing.copy key counter
      else world.standing? other := by
  rw [copyCounter, standing?_bindContext, standing?_ensureContext]
  simp only [ThreadContext.snapshot?_record, snapshot?_ensureContext]
  split
  · rename_i same
    rw [same, standing?, Option.map_map, Option.map_map]
    rfl
  · rw [standing?, Option.map_map]
    congr 1
    funext cell
    exact Standing.withSnapshot_self _ key.thread

/-- A thread that joins those that race does so on the value of its sighting. -/
theorem standing?_joinRace {cell : Cell α} {sighting : Sighting}
    (found : world.cells.get? sighting.value = some cell) (other : ValueId) :
    (world.joinRace cell sighting).standing? other =
      if other = sighting.value then
        (world.standing? sighting.value).map fun standing => standing.join sighting.key.thread
      else world.standing? other := by
  rw [joinRace, standing?_note, standing?_setCell, standing?_of_get? world found]
  rfl

/-- An entry in a ledger does not matter to how values stand. -/
@[simp] theorem standing?_tallyRace (sink : Option DetectorId) (sighting : Sighting)
    (value : ValueId) : (world.tallyRace sink sighting).standing? value = world.standing? value :=
  standing?_congr (by rw [cells_tallyRace])
    fun thread => snapshot?_congr (threads_tallyRace world sink sighting) thread value

/-- A report that is sent does not matter to how values stand. -/
@[simp] theorem standing?_sendReport (sink : Option DetectorId) (sighting : Sighting)
    (value : ValueId) : (world.sendReport sink sighting).standing? value = world.standing? value :=
  standing?_congr (by rw [cells_sendReport])
    fun thread => snapshot?_congr (threads_sendReport world sink sighting) thread value

/-- Telling a detector of a flagged access is counting it and sending its report. -/
theorem report_eq (sink : Option DetectorId) (sighting : Sighting) :
    world.report sink sighting = (world.tallyRace sink sighting).sendReport sink sighting := by
  cases sink with
  | none => rfl
  | some id =>
    cases found : world.detectors.get? id with
    | none => simp only [report, tallyRace, sendReport, found]
    | some detector =>
      have stored : (world.setDetector id (detector.tally sighting)).detectors.get? id =
          some (detector.tally sighting) := SortedMap.get?_insert_self _ _ _
      have twice (later : Detector) :
          (world.setDetector id (detector.tally sighting)).setDetector id later =
            world.setDetector id later := by
        simp only [setDetector, SortedMap.insert_insert]
      cases sent : (detector.tally sighting).deliver sighting with
      | mk after reason =>
        cases reason with
        | none => simp only [report, tallyRace, sendReport, found, stored, twice, sent]
        | some reason => simp only [report, tallyRace, sendReport, found, stored, twice, sent]

/-- A conflict is flagged in three stages: in the cell, in the ledger and in the channel. -/
theorem flag_eq (cell : Cell α) (sighting : Sighting) :
    world.flag cell sighting =
      ((world.joinRace cell sighting).tallyRace cell.sink sighting).sendReport
        cell.sink sighting :=
  report_eq _ _ _

/-- What stands against an access of a key to a cell, given what its thread has seen. -/
def against (value : ValueId) (cell : Cell α) (key : AccessKey) : List Conflict :=
  Conflict.unseen (cell.clock.increment key)
    (((world.snapshot? key.thread value).getD ∅).insert key (cell.clock.next key)) key.kind

/-- The sighting of a flagged access. -/
def sightingOf (value : ValueId) (cell : Cell α) (key : AccessKey) : Sighting :=
  ⟨value, cell.label, key, (world.thread key.thread).name, world.against value cell key⟩

/-- An access that is counted in both tables. -/
def tallyAccess (value : ValueId) (cell : Cell α) (key : AccessKey) : World α :=
  (world.countAccess value cell key).copyCounter value key (cell.clock.next key)

/-- A thread keeps its name when an access of it is recorded. -/
theorem name_tallyAccess (value : ValueId) (cell : Cell α) (key : AccessKey) :
    ((world.tallyAccess value cell key).thread key.thread).name =
      (world.thread key.thread).name := by
  rw [tallyAccess, copyCounter, thread_bindContext, if_pos rfl, thread_ensureContext, if_pos rfl]
  rfl

/-- The work of an access on the context of its thread: copying the counter, and judging. -/
def judging (value : ValueId) (cell : Cell α) (key : AccessKey) (context : ThreadContext) :
    ThreadContext × Option (List Conflict) :=
  (context.record value key (cell.clock.next key),
    ((context.record value key (cell.clock.next key)).snapshot? value).map fun snapshot =>
      Conflict.unseen (cell.count key).clock snapshot key.kind)

/-- A watched access is counted before the context of its thread is asked for. -/
theorem recordAccess_of_detecting {value : ValueId} {cell : Cell α} {key : AccessKey}
    (on : cell.detecting = true) :
    world.recordAccess value cell key =
      let worked := (world.countAccess value cell key).withContext key.thread
        (judging value cell key)
      match worked.2 with
      | .error fault => (worked.1, .error fault)
      | .ok none =>
        (worked.1.note (.snapshotMissing value key), .error (.snapshotMissing value key))
      | .ok (some []) => (worked.1, .ok none)
      | .ok (some candidates) =>
        let sighting : Sighting :=
          ⟨value, cell.label, key, (worked.1.thread key.thread).name, candidates⟩
        (worked.1.flag (cell.count key) sighting, .ok (some sighting)) := by
  unfold recordAccess
  rw [if_pos on]
  rfl

/-- An access is counted, copied and judged, and then flagged if anything stands against it. -/
theorem recordAccess_eq {value : ValueId} {cell : Cell α} {key : AccessKey}
    (on : cell.detecting = true) (idle : (world.thread key.thread).contextInUse = false) :
    world.recordAccess value cell key =
      if world.against value cell key = [] then (world.tallyAccess value cell key, .ok none)
      else ((world.tallyAccess value cell key).flag (cell.count key)
        (world.sightingOf value cell key), .ok (some (world.sightingOf value cell key))) := by
  have judged : (judging value cell key
      ((world.countAccess value cell key).ensureContext key.thread).2).2 =
      some (world.against value cell key) := by
    rw [judging, ThreadContext.snapshot?_record, if_pos rfl, snapshot?_ensureContext]
    rfl
  have worked : (world.countAccess value cell key).withContext key.thread
      (judging value cell key) =
      (world.tallyAccess value cell key, .ok (some (world.against value cell key))) := by
    rw [withContext_eq (world.countAccess value cell key) _ _ idle, judged]
    rfl
  rw [recordAccess_of_detecting world on, worked]
  cases found : world.against value cell key with
  | nil => rfl
  | cons first rest =>
    rw [if_neg (List.cons_ne_nil _ _), sightingOf, found, ← name_tallyAccess world value cell key]

/-- An access is counted but not judged while its thread works on its context. -/
theorem recordAccess_of_inUse {value : ValueId} {cell : Cell α} {key : AccessKey}
    (on : cell.detecting = true) (busy : (world.thread key.thread).contextInUse = true) :
    world.recordAccess value cell key =
      (world.countAccess value cell key, .error .borrowed) := by
  rw [recordAccess_of_detecting world on,
    withContext_of_inUse (world.countAccess value cell key) _ _ busy]

/-- An access to a value that is not watched is not recorded. -/
theorem recordAccess_of_not_detecting {value : ValueId} {cell : Cell α} {key : AccessKey}
    (off : cell.detecting = false) : world.recordAccess value cell key = (world, .ok none) := by
  unfold recordAccess
  rw [if_neg (by simp [off])]

/-- An access is never judged without a snapshot: recording its counter makes one. -/
theorem recordAccess_ne_snapshotMissing (value other : ValueId) (cell : Cell α)
    (key other' : AccessKey) :
    (world.recordAccess value cell key).2 ≠ .error (.snapshotMissing other other') := by
  cases on : cell.detecting with
  | false =>
    rw [recordAccess_of_not_detecting world on]
    exact nofun
  | true =>
    cases busy : (world.thread key.thread).contextInUse with
    | true =>
      rw [recordAccess_of_inUse world on busy]
      exact nofun
    | false =>
      rw [recordAccess_eq world on busy]
      split
      · exact nofun
      · exact nofun

/-- All that happens when a thread asks for an access and finds the lock of the value open to
it. -/
inductive AsksAccess (thread : ThreadId) (value : ValueId) (kind : AccessKind) :
    World α → Attempt (Option Sighting) → Prop where
  /-- A closure of the same thread has the content. -/
  | reentered (cell : Cell α) (lock : Lock) (found : world.cells.get? value = some cell)
      (taken : cell.lock.acquire? thread = some lock) (borrowed : cell.borrowed = true) :
      AsksAccess thread value kind (world.note (.reentered value)) (.faulted (.reentered value))
  /-- The context of the thread is being worked on; the access is counted all the same. -/
  | stalled (cell : Cell α) (lock : Lock) (found : world.cells.get? value = some cell)
      (taken : cell.lock.acquire? thread = some lock) (free : cell.borrowed = false)
      (on : cell.detecting = true) (busy : (world.thread thread).contextInUse = true) :
      AsksAccess thread value kind (world.countAccess value cell ⟨thread, kind⟩)
        (.faulted .borrowed)
  /-- Detection is off. -/
  | unwatched (cell : Cell α) (lock : Lock) (found : world.cells.get? value = some cell)
      (taken : cell.lock.acquire? thread = some lock) (free : cell.borrowed = false)
      (off : cell.detecting = false) :
      AsksAccess thread value kind (world.modifyCell value fun cell => cell.take lock)
        (.begun none)
  /-- Nothing stands against the access. -/
  | clean (cell : Cell α) (lock : Lock) (found : world.cells.get? value = some cell)
      (taken : cell.lock.acquire? thread = some lock) (free : cell.borrowed = false)
      (on : cell.detecting = true) (idle : (world.thread thread).contextInUse = false)
      (nothing : world.against value cell ⟨thread, kind⟩ = []) :
      AsksAccess thread value kind
        ((world.tallyAccess value cell ⟨thread, kind⟩).modifyCell value fun cell => cell.take lock)
        (.begun none)
  /-- Something stands against the access. -/
  | flagged (cell : Cell α) (lock : Lock) (found : world.cells.get? value = some cell)
      (taken : cell.lock.acquire? thread = some lock) (free : cell.borrowed = false)
      (on : cell.detecting = true) (idle : (world.thread thread).contextInUse = false)
      (something : world.against value cell ⟨thread, kind⟩ ≠ []) :
      AsksAccess thread value kind
        (((world.tallyAccess value cell ⟨thread, kind⟩).flag (cell.count ⟨thread, kind⟩)
          (world.sightingOf value cell ⟨thread, kind⟩)).modifyCell value fun cell =>
            cell.take lock)
        (.begun (some (world.sightingOf value cell ⟨thread, kind⟩)))

/-- An access that is asked for and not held up by a lock does one of five things. -/
theorem asksAccess_of_beginAccess {world next : World α} {thread : ThreadId} {value : ValueId}
    {kind : AccessKind} {attempt : Attempt (Option Sighting)}
    (asked : world.beginAccess thread value kind = (next, attempt))
    (known : attempt ≠ .noValue) (admitted : attempt ≠ .blocked) :
    world.AsksAccess thread value kind next attempt := by
  unfold beginAccess at asked
  cases found : world.cells.get? value with
  | none =>
    simp only [found, Prod.mk.injEq] at asked
    exact absurd asked.2.symm known
  | some cell =>
    cases taken : cell.lock.acquire? thread with
    | none =>
      simp only [found, taken, Prod.mk.injEq] at asked
      exact absurd asked.2.symm admitted
    | some lock =>
      simp only [found, taken] at asked
      cases borrowed : cell.borrowed with
      | true =>
        simp only [borrowed, ↓reduceIte, Prod.mk.injEq] at asked
        obtain ⟨rfl, rfl⟩ := asked
        exact .reentered cell lock found taken borrowed
      | false =>
        simp only [borrowed, Bool.false_eq_true, ↓reduceIte] at asked
        cases on : cell.detecting with
        | false =>
          rw [recordAccess_of_not_detecting world on] at asked
          obtain ⟨rfl, rfl⟩ := Prod.mk.inj asked
          exact .unwatched cell lock found taken borrowed on
        | true =>
          cases busy : (world.thread thread).contextInUse with
          | true =>
            rw [recordAccess_of_inUse world on busy] at asked
            obtain ⟨rfl, rfl⟩ := Prod.mk.inj asked
            exact .stalled cell lock found taken borrowed on busy
          | false =>
            rw [recordAccess_eq world on busy] at asked
            by_cases nothing : world.against value cell ⟨thread, kind⟩ = []
            · rw [if_pos nothing] at asked
              obtain ⟨rfl, rfl⟩ := Prod.mk.inj asked
              exact .clean cell lock found taken borrowed on busy nothing
            · rw [if_neg nothing] at asked
              obtain ⟨rfl, rfl⟩ := Prod.mk.inj asked
              exact .flagged cell lock found taken borrowed on busy nothing

/-- Each of the five things is what the access comes to. -/
theorem AsksAccess.eq {world next : World α} {thread : ThreadId} {value : ValueId}
    {kind : AccessKind} {attempt : Attempt (Option Sighting)}
    (asked : world.AsksAccess thread value kind next attempt) :
    world.beginAccess thread value kind = (next, attempt) := by
  cases asked with
  | reentered cell lock found taken borrowed =>
    simp only [beginAccess, found, taken, borrowed, ↓reduceIte]
  | stalled cell lock found taken free on busy =>
    have refused : world.recordAccess value cell ⟨thread, kind⟩ = _ :=
      recordAccess_of_inUse world on busy
    simp only [beginAccess, found, taken, free, Bool.false_eq_true, ↓reduceIte, refused]
  | unwatched cell lock found taken free off =>
    have unrecorded : world.recordAccess value cell ⟨thread, kind⟩ = _ :=
      recordAccess_of_not_detecting world off
    simp only [beginAccess, found, taken, free, Bool.false_eq_true, ↓reduceIte, unrecorded]
    rfl
  | clean cell lock found taken free on idle nothing =>
    have recorded : world.recordAccess value cell ⟨thread, kind⟩ = _ :=
      recordAccess_eq world on idle
    rw [if_pos nothing] at recorded
    simp only [beginAccess, found, taken, free, Bool.false_eq_true, ↓reduceIte, recorded]
    rfl
  | flagged cell lock found taken free on idle something =>
    have recorded : world.recordAccess value cell ⟨thread, kind⟩ = _ :=
      recordAccess_eq world on idle
    rw [if_neg something] at recorded
    simp only [beginAccess, found, taken, free, Bool.false_eq_true, ↓reduceIte, recorded]
    rfl

/-- Puts a clock table in place of what a thread has seen of a value. -/
def adoptClock (thread : ThreadId) (value : ValueId) (clock : ClockTable) : World α :=
  (world.ensureContext thread).1.bindContext thread
    ((world.ensureContext thread).2.replace value clock)

/-- A table that is adopted leaves values alone. -/
@[simp] theorem cells_adoptClock (thread : ThreadId) (value : ValueId) (clock : ClockTable) :
    (world.adoptClock thread value clock).cells = world.cells :=
  cells_ensureContext world thread

/-- A thread that adopts a table has seen it as a whole. -/
theorem snapshot?_adoptClock (id thread : ThreadId) (value other : ValueId) (clock : ClockTable) :
    (world.adoptClock id value clock).snapshot? thread other =
      if thread = id ∧ other = value then some clock else world.snapshot? thread other := by
  rw [adoptClock, snapshot?_bindContext, ThreadContext.snapshot?_replace, snapshot?_ensureContext,
    snapshot?_ensureContext_world]
  by_cases same : thread = id
  · rw [same]
    simp only [↓reduceIte, true_and]
  · simp only [same, ↓reduceIte, false_and]

/-- A table that is adopted is what its thread has seen of the value. -/
theorem standing?_adoptClock (thread : ThreadId) (value other : ValueId) (clock : ClockTable) :
    (world.adoptClock thread value clock).standing? other =
      if other = value then
        (world.standing? value).map fun standing => standing.withSnapshot thread (some clock)
      else world.standing? other := by
  rw [adoptClock, standing?_bindContext, standing?_ensureContext]
  simp only [ThreadContext.snapshot?_replace, snapshot?_ensureContext]
  split
  · rename_i same
    rw [same]
  · rw [standing?, Option.map_map]
    congr 1
    funext cell
    exact Standing.withSnapshot_self _ thread

/-- All that happens when a thread asks for a section and finds the lock of the value open to
it. -/
inductive AsksSection (thread : ThreadId) (value : ValueId) : World α → Attempt Nat → Prop where
  /-- A closure of the same thread has the content. -/
  | reentered (cell : Cell α) (lock : Lock) (found : world.cells.get? value = some cell)
      (taken : cell.lock.acquire? thread = some lock) (borrowed : cell.borrowed = true) :
      AsksSection thread value world (.faulted .borrowed)
  /-- The context of the thread is being worked on. -/
  | stalled (cell : Cell α) (lock : Lock) (found : world.cells.get? value = some cell)
      (taken : cell.lock.acquire? thread = some lock) (free : cell.borrowed = false)
      (busy : (world.thread thread).contextInUse = true) :
      AsksSection thread value (world.note (.entering value cell.label cell.clock.size))
        (.faulted .borrowed)
  /-- The thread sees the value as it is. -/
  | entered (cell : Cell α) (lock : Lock) (found : world.cells.get? value = some cell)
      (taken : cell.lock.acquire? thread = some lock) (free : cell.borrowed = false)
      (idle : (world.thread thread).contextInUse = false) :
      AsksSection thread value
        (((world.note (.entering value cell.label cell.clock.size)).adoptClock thread value
          cell.clock).modifyCell value fun cell => { cell with lock := lock })
        (.begun cell.clock.size)

/-- A section that is asked for and not held up by a lock does one of three things. -/
theorem asksSection_of_enterSection {world next : World α} {thread : ThreadId} {value : ValueId}
    {attempt : Attempt Nat} (asked : world.enterSection thread value = (next, attempt))
    (known : attempt ≠ .noValue) (admitted : attempt ≠ .blocked) :
    world.AsksSection thread value next attempt := by
  unfold enterSection at asked
  cases found : world.cells.get? value with
  | none =>
    simp only [found, Prod.mk.injEq] at asked
    exact absurd asked.2.symm known
  | some cell =>
    cases taken : cell.lock.acquire? thread with
    | none =>
      simp only [found, taken, Prod.mk.injEq] at asked
      exact absurd asked.2.symm admitted
    | some lock =>
      simp only [found, taken] at asked
      cases borrowed : cell.borrowed with
      | true =>
        simp only [borrowed, ↓reduceIte, Prod.mk.injEq] at asked
        obtain ⟨rfl, rfl⟩ := asked
        exact .reentered cell lock found taken borrowed
      | false =>
        simp only [borrowed, Bool.false_eq_true, ↓reduceIte] at asked
        cases busy : (world.thread thread).contextInUse with
        | true =>
          rw [withContext_of_inUse (world.note _) _ _ busy] at asked
          obtain ⟨rfl, rfl⟩ := Prod.mk.inj asked
          exact .stalled cell lock found taken borrowed busy
        | false =>
          rw [withContext_eq (world.note _) _ _ busy] at asked
          obtain ⟨rfl, rfl⟩ := Prod.mk.inj asked
          exact .entered cell lock found taken borrowed busy

/-- A section is refused while the thread works on its context. -/
theorem enterSection_of_inUse {thread : ThreadId} {value : ValueId} {cell : Cell α} {lock : Lock}
    (busy : (world.thread thread).contextInUse = true)
    (found : world.cells.get? value = some cell) (taken : cell.lock.acquire? thread = some lock)
    (rest : cell.borrowed = false) :
    world.enterSection thread value =
      (world.note (.entering value cell.label cell.clock.size), .faulted .borrowed) := by
  have refused := withContext_of_inUse (world.note (.entering value cell.label cell.clock.size))
    thread (fun context => (context.replace value cell.clock, ())) busy
  unfold enterSection
  simp only [found, taken, rest, Bool.false_eq_true, ↓reduceIte, refused]

/-- Each of the three things is what the section comes to. -/
theorem AsksSection.eq {world next : World α} {thread : ThreadId} {value : ValueId}
    {attempt : Attempt Nat} (asked : world.AsksSection thread value next attempt) :
    world.enterSection thread value = (next, attempt) := by
  cases asked with
  | reentered cell lock found taken borrowed =>
    simp only [enterSection, found, taken, borrowed, ↓reduceIte]
  | stalled cell lock found taken free busy =>
    exact enterSection_of_inUse world busy found taken free
  | entered cell lock found taken free idle =>
    have adopted := withContext_eq (world.note (.entering value cell.label cell.clock.size)) thread
      (fun context => (context.replace value cell.clock, ())) idle
    simp only [enterSection, found, taken, free, Bool.false_eq_true, ↓reduceIte, adopted]
    rfl

end World

end RaceSentry
