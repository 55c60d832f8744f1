import RaceSentry.Proofs.View

/-!
# Unbroken operations

If nobody else does anything between the stages of an operation, the stages lead to the world in
which the operation is performed as a whole, with everything in it: journal, detectors and channels
included.
Main statement: `Weave.tickAll?_of_admitted`.
-/

namespace RaceSentry

variable {α : Type}

namespace World

variable (world : World α)

/-- A cell that is rewritten and then replaced is replaced. -/
theorem setCell_modifyCell (value : ValueId) (change : Cell α → Cell α) (cell : Cell α) :
    (world.modifyCell value change).setCell value cell = world.setCell value cell := by
  have cells : (world.cells.modify value change).insert value cell =
      world.cells.insert value cell := by
    cases found : world.cells.get? value with
    | none => rw [SortedMap.modify_of_get?_none found]
    | some old => rw [SortedMap.modify_of_get? found, SortedMap.insert_insert]
  rw [setCell, setCell, modifyCell, cells]

/-- A cell that is replaced and then rewritten is replaced by the rewritten one. -/
theorem modifyCell_setCell (value : ValueId) (change : Cell α → Cell α) (cell : Cell α) :
    (world.setCell value cell).modifyCell value change = world.setCell value (change cell) := by
  have cells : (world.cells.insert value cell).modify value change =
      world.cells.insert value (change cell) := by
    rw [SortedMap.modify_of_get? (SortedMap.get?_insert_self _ _ _), SortedMap.insert_insert]
  rw [setCell, setCell, modifyCell, cells]

/-- A cell that is rewritten twice is rewritten at once. -/
theorem modifyCell_modifyCell (value : ValueId) (first second : Cell α → Cell α) :
    (world.modifyCell value first).modifyCell value second =
      world.modifyCell value fun cell => second (first cell) := by
  have cells : (world.cells.modify value first).modify value second =
      world.cells.modify value fun cell => second (first cell) := by
    apply SortedMap.ext_get?
    intro other
    simp only [SortedMap.get?_modify]
    by_cases same : other = value
    · simp only [same, ↓reduceIte, Option.map_map]
      rfl
    · simp only [same, ↓reduceIte]
  rw [modifyCell, modifyCell, modifyCell, cells]

/-- A value that is changed is found changed. -/
theorem get?_modifyCell {value : ValueId} {cell : Cell α}
    (found : world.cells.get? value = some cell) (change : Cell α → Cell α) :
    (world.modifyCell value change).cells.get? value = some (change cell) := by
  rw [modifyCell, SortedMap.get?_modify, if_pos rfl, found, Option.map_some]

/-- A change of a value does not matter to contexts. -/
theorem ensureContext_modifyCell (value : ValueId) (change : Cell α → Cell α) (id : ThreadId) :
    (world.modifyCell value change).ensureContext id =
      ((world.ensureContext id).1.modifyCell value change, (world.ensureContext id).2) := by
  cases bound : (world.thread id).context with
  | some context =>
    rw [ensureContext_of_some world bound, ensureContext_of_some (world.modifyCell _ _) bound]
  | none =>
    rw [ensureContext_of_none world bound, ensureContext_of_none (world.modifyCell _ _) bound]
    rfl

/-- A change of a value and a copied counter come in any order. -/
theorem copyCounter_modifyCell (value other : ValueId) (change : Cell α → Cell α)
    (key : AccessKey) (counter : Nat) :
    (world.modifyCell value change).copyCounter other key counter =
      (world.copyCounter other key counter).modifyCell value change := by
  rw [copyCounter, ensureContext_modifyCell]
  rfl

/-- A change of a value and an adopted table come in any order. -/
theorem adoptClock_modifyCell (value other : ValueId) (change : Cell α → Cell α)
    (thread : ThreadId) (clock : ClockTable) :
    (world.modifyCell value change).adoptClock thread other clock =
      (world.adoptClock thread other clock).modifyCell value change := by
  rw [adoptClock, ensureContext_modifyCell]
  rfl

/-- A change of a value and an entry in a ledger come in any order. -/
theorem tallyRace_modifyCell (value : ValueId) (change : Cell α → Cell α)
    (sink : Option DetectorId) (sighting : Sighting) :
    (world.modifyCell value change).tallyRace sink sighting =
      (world.tallyRace sink sighting).modifyCell value change := by
  cases sink with
  | none => rfl
  | some id =>
    cases found : world.detectors.get? id with
    | none => simp only [tallyRace, modifyCell, found]
    | some detector =>
      simp only [tallyRace, modifyCell, found]
      rfl

/-- A change of a value and a report that is sent come in any order. -/
theorem sendReport_modifyCell (value : ValueId) (change : Cell α → Cell α)
    (sink : Option DetectorId) (sighting : Sighting) :
    (world.modifyCell value change).sendReport sink sighting =
      (world.sendReport sink sighting).modifyCell value change := by
  cases sink with
  | none => rfl
  | some id =>
    cases found : world.detectors.get? id with
    | none => simp only [sendReport, modifyCell, found]
    | some detector =>
      simp only [sendReport, modifyCell, found]
      cases sent : detector.deliver sighting with
      | mk detector reason =>
        cases reason with
        | none => rfl
        | some reason => rfl

/-- Whether the lock is taken before an access is counted or after it makes no difference. -/
theorem countAccess_take {value : ValueId} (cell : Cell α) (lock : Lock) (key : AccessKey) :
    (world.modifyCell value fun cell => cell.take lock).countAccess value (cell.take lock) key =
      (world.countAccess value cell key).modifyCell value fun cell => cell.take lock := by
  have counted : (world.setCell value (cell.count key)).modifyCell value
      (fun cell => cell.take lock) = world.setCell value ((cell.take lock).count key) :=
    modifyCell_setCell world value _ _
  rw [countAccess, setCell_modifyCell, ← counted]
  rfl

/-- A lock that is taken and a thread that joins those that race come in any order. -/
theorem joinRace_take (cell : Cell α) (lock : Lock) (sighting : Sighting) :
    (world.modifyCell sighting.value fun cell => cell.take lock).joinRace (cell.take lock)
        sighting =
      (world.joinRace cell sighting).modifyCell sighting.value fun cell => cell.take lock := by
  have joined : (world.setCell sighting.value (cell.flag sighting.key.thread)).modifyCell
      sighting.value (fun cell => cell.take lock) =
        world.setCell sighting.value ((cell.take lock).flag sighting.key.thread) :=
    modifyCell_setCell world sighting.value _ _
  rw [joinRace, setCell_modifyCell, ← joined]
  rfl

/-- Threads run on through the stages of an access. -/
theorem running_nextStage {thread : ThreadId} (runs : world.threads.contains thread = true)
    (value : ValueId) (kind : AccessKind) (cell : Cell α) (closure : Closure α)
    (stage : AccessStage α) :
    (world.nextStage thread value kind cell closure stage).1.threads.contains thread = true := by
  cases stage with
  | begun =>
    rw [nextStage]
    split
    · exact runs
    · exact runs
  | counted counter =>
    cases busy : (world.thread thread).contextInUse with
    | false =>
      rw [nextStage, withContext_eq world thread _ busy]
      show (SortedMap.insert _ thread _).contains thread = true
      rw [SortedMap.contains_insert, decide_eq_true rfl, Bool.true_or]
    | true =>
      rw [nextStage, withContext_of_inUse world thread _ busy]
      exact runs
  | copied =>
    rw [nextStage]
    split
    · exact runs
    · split
      · exact runs
      · exact runs
  | judged sighting => exact runs
  | joined sighting =>
    rw [nextStage, threads_tallyRace]
    exact runs
  | tallied sighting =>
    rw [nextStage, threads_sendReport]
    exact runs
  | running sighting =>
    cases closure with
    | last work => exact runs
    | stretch change rest => exact runs
  | ended sighting answer => exact runs

/-- The stages that an access of a thread goes through when nobody else does anything, with what
becomes of the world and of the closure. -/
inductive GoesOn (thread : ThreadId) (value : ValueId) (kind : AccessKind) :
    World α × Closure α × AccessStage α → World α × Closure α × AccessStage α → Prop where
  /-- It stays where it is. -/
  | stays (state : World α × Closure α × AccessStage α) : GoesOn thread value kind state state
  /-- It goes on with one stage. -/
  | stage {world : World α} {closure : Closure α} {stage : AccessStage α} {cell : Cell α}
      {last : World α × Closure α × AccessStage α}
      (going : stage.borrows = true)
      (found : world.cells.get? value = some cell)
      (later : GoesOn thread value kind
        (world.nextStage thread value kind cell closure stage) last) :
      GoesOn thread value kind (world, closure, stage) last

namespace GoesOn

variable {thread : ThreadId} {value : ValueId} {kind : AccessKind}
  {first between last : World α × Closure α × AccessStage α}

/-- Stages that go on from others go on from where those began. -/
theorem trans (earlier : GoesOn thread value kind first between)
    (later : GoesOn thread value kind between last) : GoesOn thread value kind first last := by
  induction earlier with
  | stays => exact later
  | stage going found _ ih => exact .stage going found (ih later)

end GoesOn

variable {world : World α} {thread : ThreadId} {value : ValueId} {kind : AccessKind}
  {cell : Cell α}

/-- The answer to an access depends on the cell for the number of racing threads only. -/
theorem answerOf_congr {other : Cell α} (racing : other.racing = cell.racing)
    (sighting : Option Sighting) (result : Except String (Result α)) :
    answerOf other sighting result = answerOf cell sighting result := by
  cases result with
  | error text => rfl
  | ok result => rw [answerOf, answerOf, Cell.raceCount, Cell.raceCount, racing]

/-- A closure that runs alone does what it does without a break. -/
theorem goesOn_closure (closure : Closure α) (sighting : Option Sighting)
    (found : world.cells.get? value = some cell) :
    ∃ rest, GoesOn thread value kind (world, closure, .running sighting)
      (world.modifyCell value fun other =>
          { other with payload := (closure.work cell.payload).1, borrowed := false },
        rest, .ended sighting (answerOf cell sighting (closure.work cell.payload).2)) := by
  induction closure generalizing world cell with
  | last work =>
    refine ⟨.last work, .stage rfl found ?_⟩
    have same : (world.modifyCell value fun other =>
        { other with payload := (work other.payload).1, borrowed := false }) =
          world.modifyCell value fun other =>
            { other with payload := (work cell.payload).1, borrowed := false } :=
      modifyCell_congr world found rfl
    rw [nextStage, Closure.work, same]
    exact .stays _
  | stretch change rest ih =>
    have stored := get?_modifyCell world found fun cell =>
      { cell with payload := change cell.payload }
    obtain ⟨left, later⟩ := ih cell.payload stored
    refine ⟨left, .stage rfl found ?_⟩
    have same (result : Except String (Result α)) :
        answerOf { cell with payload := change cell.payload } sighting result =
          answerOf cell sighting result := answerOf_congr rfl _ _
    rw [modifyCell_modifyCell, same] at later
    exact later

/-- An access that is watched is counted in both tables. -/
theorem goesOn_tallyAccess (found : world.cells.get? value = some cell) (lock : Lock)
    (on : cell.detecting = true) (idle : (world.thread thread).contextInUse = false)
    (closure : Closure α) :
    GoesOn thread value kind (world.modifyCell value fun cell => cell.take lock, closure, .begun)
      ((world.tallyAccess value cell ⟨thread, kind⟩).modifyCell value fun cell => cell.take lock,
        closure, .copied) := by
  have stored := get?_modifyCell world found fun cell => cell.take lock
  refine .stage rfl stored ?_
  rw [nextStage, if_pos (show (cell.take lock).detecting = true from on), countAccess_take]
  have counted : (world.countAccess value cell ⟨thread, kind⟩).cells.get? value =
      some (cell.count ⟨thread, kind⟩) := SortedMap.get?_insert_self _ _ _
  refine .stage rfl (get?_modifyCell _ counted fun cell => cell.take lock) ?_
  have copied : ((world.countAccess value cell ⟨thread, kind⟩).modifyCell value
      fun cell => cell.take lock).copyCounter value ⟨thread, kind⟩
        (cell.clock.next ⟨thread, kind⟩) =
      (world.tallyAccess value cell ⟨thread, kind⟩).modifyCell value fun cell => cell.take lock :=
    copyCounter_modifyCell _ _ _ _ _ _
  rw [nextStage, withContext_eq (((world.countAccess _ _ _).modifyCell _ _)) thread _ idle]
  rw [← copied]
  exact .stays _

/-- When both tables are compared under the lock there is a snapshot, and these are the conflicts
that are found. -/
theorem unseen_tallyAccess (world : World α) (thread : ThreadId) (value : ValueId)
    (kind : AccessKind) (cell : Cell α) (lock : Lock) :
    ∃ snapshot, ((world.tallyAccess value cell ⟨thread, kind⟩).modifyCell value fun cell =>
        cell.take lock).snapshot? thread value = some snapshot ∧
      Conflict.unseen ((cell.count ⟨thread, kind⟩).take lock).clock snapshot kind =
        world.against value cell ⟨thread, kind⟩ := by
  have seen := snapshot?_copyCounter (world.countAccess value cell ⟨thread, kind⟩) value value
    ⟨thread, kind⟩ (cell.clock.next ⟨thread, kind⟩) thread
  rw [if_pos ⟨rfl, rfl⟩] at seen
  exact ⟨_, seen, rfl⟩

/-- An access against which something stands is judged and flagged. -/
theorem goesOn_flag (cell : Cell α) (lock : Lock) (closure : Closure α)
    (something : world.against value cell ⟨thread, kind⟩ ≠ []) :
    GoesOn thread value kind
      ((world.tallyAccess value cell ⟨thread, kind⟩).modifyCell value fun cell => cell.take lock,
        closure, .copied)
      (((world.tallyAccess value cell ⟨thread, kind⟩).flag (cell.count ⟨thread, kind⟩)
          (world.sightingOf value cell ⟨thread, kind⟩)).modifyCell value fun cell =>
            cell.take lock,
        closure, .running (some (world.sightingOf value cell ⟨thread, kind⟩))) := by
  have tallied := get?_tallyAccess world value cell ⟨thread, kind⟩
  refine .stage rfl (get?_modifyCell _ tallied fun cell => cell.take lock) ?_
  have judged : nextStage ((world.tallyAccess value cell ⟨thread, kind⟩).modifyCell value
      fun cell => cell.take lock) thread value kind ((cell.count ⟨thread, kind⟩).take lock)
        closure .copied =
      ((world.tallyAccess value cell ⟨thread, kind⟩).modifyCell value fun cell => cell.take lock,
        closure, .judged (world.sightingOf value cell ⟨thread, kind⟩)) := by
    obtain ⟨snapshot, seen, unseen⟩ := unseen_tallyAccess world thread value kind cell lock
    simp only [nextStage, seen, unseen]
    rw [sightingOf, ← name_tallyAccess world value cell]
    cases candidates : world.against value cell ⟨thread, kind⟩ with
    | nil => exact absurd candidates something
    | cons first rest => rfl
  rw [judged]
  refine .stage rfl (get?_modifyCell _ tallied fun cell => cell.take lock) ?_
  have joined : ((world.tallyAccess value cell ⟨thread, kind⟩).joinRace
      (cell.count ⟨thread, kind⟩) (world.sightingOf value cell ⟨thread, kind⟩)).cells.get? value =
        some ((cell.count ⟨thread, kind⟩).flag thread) := SortedMap.get?_insert_self _ _ _
  rw [nextStage]
  have lockFirst := joinRace_take (world.tallyAccess value cell ⟨thread, kind⟩)
    (cell.count ⟨thread, kind⟩) lock (world.sightingOf value cell ⟨thread, kind⟩)
  change ((world.tallyAccess value cell ⟨thread, kind⟩).modifyCell value
    fun cell => cell.take lock).joinRace _ _ =
      ((world.tallyAccess value cell ⟨thread, kind⟩).joinRace _ _).modifyCell value _ at lockFirst
  rw [lockFirst]
  refine .stage rfl (get?_modifyCell _ joined fun cell => cell.take lock) ?_
  rw [← cells_tallyRace _ cell.sink (world.sightingOf value cell ⟨thread, kind⟩)] at joined
  rw [nextStage, tallyRace_modifyCell]
  refine .stage rfl (get?_modifyCell _ joined fun cell => cell.take lock) ?_
  rw [nextStage, sendReport_modifyCell, flag_eq]
  exact .stays _

/-- The stages of an access, up to those of its closure, do what beginning it does at once. -/
theorem goesOn_beginAccess {next : World α} {lock : Lock} {sighting : Option Sighting}
    (found : world.cells.get? value = some cell) (taken : cell.lock.acquire? thread = some lock)
    (asked : world.beginAccess thread value kind = (next, .begun sighting))
    (closure : Closure α) :
    GoesOn thread value kind (world.modifyCell value fun cell => cell.take lock, closure, .begun)
      (next, closure, .running sighting) := by
  cases asksAccess_of_beginAccess asked nofun nofun with
  | unwatched other lock' found' taken' free off =>
    cases found.symm.trans found'
    cases taken.symm.trans taken'
    refine .stage rfl (get?_modifyCell world found fun cell => cell.take lock) ?_
    rw [nextStage, if_neg (by simp [Cell.take, off])]
    exact .stays _
  | clean other lock' found' taken' free on idle nothing =>
    cases found.symm.trans found'
    cases taken.symm.trans taken'
    have tallied := get?_tallyAccess world value cell ⟨thread, kind⟩
    refine (goesOn_tallyAccess found lock on idle closure).trans
      (.stage rfl (get?_modifyCell _ tallied fun cell => cell.take lock) ?_)
    obtain ⟨snapshot, seen, unseen⟩ := unseen_tallyAccess world thread value kind cell lock
    simp only [nextStage, seen, unseen, nothing]
    exact .stays _
  | flagged other lock' found' taken' free on idle something =>
    cases found.symm.trans found'
    cases taken.symm.trans taken'
    exact (goesOn_tallyAccess found lock on idle closure).trans
      (goesOn_flag cell lock closure something)

/-- An access that nobody interrupts, up to the end of its closure. -/
theorem goesOn_access {lock : Lock} (found : world.cells.get? value = some cell)
    (taken : cell.lock.acquire? thread = some lock) (unborrowed : cell.borrowed = false)
    (idle : (world.thread thread).contextInUse = false) (kind : AccessKind)
    (closure : Closure α) :
    ∃ ended rest sighting answer,
      GoesOn thread value kind
        (world.modifyCell value fun cell => cell.take lock, closure, .begun)
        (ended, rest, .ended sighting answer) ∧
      Operation.perform world (.access thread value kind closure) =
        (ended.modifyCell value Cell.unlock, [⟨thread, sighting, answer⟩]) := by
  obtain ⟨judged, recording⟩ :=
    alters_recordAccess found (view?_of_get? world found) ⟨thread, kind⟩ idle
  have asked := beginAccess_of_admitted found taken unborrowed (Prod.ext rfl judged)
  have begun := (recording.trans (alters_take _ value lock true)).guard value
  rw [if_pos rfl, guard?_of_get? world found] at begun
  obtain ⟨running, stored, _⟩ := Option.map_eq_some_iff.1 begun
  obtain ⟨rest, ending⟩ := goesOn_closure closure _ stored
  refine ⟨_, rest, _, _, (goesOn_beginAccess found taken asked closure).trans ending, ?_⟩
  simp only [Operation.perform, Operation.verdict?, access_of_begun asked stored, asked]
  rw [modifyCell_modifyCell]
  rfl

/-- An operation that is not to be had comes to nothing. -/
theorem perform_refused (operation : Operation α) {lock : Lock}
    (found : world.cells.get? operation.value = some cell)
    (taken : cell.lock.acquire? operation.thread = some lock) (borrowed : cell.borrowed = true) :
    (operation.perform world).1 = operation.refuse world := by
  cases operation with
  | access thread value kind closure =>
    change world.cells.get? value = _ at found
    change cell.lock.acquire? thread = _ at taken
    simp only [Operation.perform, access, beginAccess, found, taken, borrowed, ↓reduceIte]
    rfl
  | entry thread value =>
    change world.cells.get? value = _ at found
    change cell.lock.acquire? thread = _ at taken
    simp only [Operation.perform, Action.run, enterSection, found, taken, borrowed, ↓reduceIte]
    rfl

/-- A lock that is taken and given up again is as it was. -/
theorem modifyCell_unlock {lock : Lock} (found : world.cells.get? value = some cell)
    (taken : cell.lock.acquire? thread = some lock) :
    (world.modifyCell value fun cell => { cell with lock := lock }).modifyCell value Cell.unlock =
      world := by
  have same : ({ cell with lock := lock } : Cell α).unlock = cell := by
    rw [Cell.unlock, Lock.release_acquire? taken]
  rw [modifyCell_modifyCell, modifyCell, SortedMap.modify_of_get? found, same,
    SortedMap.insert_of_get? found]

end World

namespace Weave

variable {weave : Weave α} {thread : ThreadId}

/-- A thread is in the middle of what was said last. -/
theorem become_become (world next : World α) (tasks later : List (Task α)) :
    (weave.become world thread tasks).become next thread later =
      weave.become next thread later := by
  have same : (fun other => if other = thread then later
      else (weave.become world thread tasks).tasks other) =
        fun other => if other = thread then later else weave.tasks other := by
    funext other
    by_cases here : other = thread
    · rw [if_pos here, if_pos here]
    · rw [if_neg here, if_neg here]
      exact if_neg here
  rw [become, same]
  rfl

/-- A thread that is in the middle of what it was in the middle of before. -/
theorem become_self (world : World α) :
    weave.become world thread (weave.tasks thread) = { weave with world := world } := by
  have same : (fun other => if other = thread then weave.tasks thread else weave.tasks other) =
      weave.tasks := by
    funext other
    by_cases here : other = thread
    · rw [if_pos here, here]
    · rw [if_neg here]
  rw [become, same]

/-- A section that is opened and closed leaves the others open. -/
theorem closed_opened (world next : World α) (value : ValueId) :
    (weave.opened world thread value (weave.tasks thread)).closed next thread value =
      { weave with world := next } := by
  have sections : (fun other =>
      if other = thread then ((weave.opened world thread value (weave.tasks thread)).sections
        thread).erase value
      else (weave.opened world thread value (weave.tasks thread)).sections other) =
        weave.sections := by
    funext other
    by_cases here : other = thread
    · rw [if_pos here, here]
      exact (congrArg (List.erase · value) (if_pos rfl)).trans (List.erase_cons_head _ _)
    · rw [if_neg here]
      exact if_neg here
  rw [closed, sections, opened, become_self]

/-- A thread that opens a section is in the middle of what was said with it. -/
theorem opened_become (world next : World α) (value : ValueId) (tasks later : List (Task α)) :
    (weave.become world thread tasks).opened next thread value later =
      weave.opened next thread value later := by
  rw [opened, opened, become_become]
  rfl

/-- The first tick is made, and the others go on from there. -/
theorem tickAll?_cons {trace marks : Trace α} {next : Weave α} {tick : Tick α}
    (ticked : weave.tick? tick = some (next, marks)) (rest : List (Tick α)) :
    weave.tickAll? trace (tick :: rest) = next.tickAll? (trace ++ marks) rest := by
  rw [tickAll?, ticked]

/-- A thread takes the lock for an operation that it can have. -/
theorem tick?_ask (operation : Operation α) {cell : Cell α} {lock : Lock}
    (runs : weave.world.threads.contains operation.thread = true)
    (free : weave.isFree operation.thread = true)
    (found : weave.world.cells.get? operation.value = some cell)
    (taken : cell.lock.acquire? operation.thread = some lock) (unborrowed : cell.borrowed = false) :
    weave.tick? (.ask operation) = some (weave.become
      (weave.world.modifyCell operation.value fun cell =>
        { cell with lock := lock, borrowed := operation.borrows })
      operation.thread (operation.task :: weave.tasks operation.thread), [.asked operation]) := by
  refine (if_pos runs).trans ((if_pos free).trans ?_)
  unfold ask?
  simp only [found, taken, unborrowed, Bool.false_eq_true, ↓reduceIte]

/-- A thread takes the lock for an operation that is not to be had. -/
theorem tick?_refuse (operation : Operation α) {cell : Cell α} {lock : Lock}
    (runs : weave.world.threads.contains operation.thread = true)
    (free : weave.isFree operation.thread = true)
    (found : weave.world.cells.get? operation.value = some cell)
    (taken : cell.lock.acquire? operation.thread = some lock) (borrowed : cell.borrowed = true) :
    weave.tick? (.ask operation) = some (weave.become
      ((operation.refuse weave.world).modifyCell operation.value fun cell =>
        { cell with lock := lock })
      operation.thread (.refusal operation.value :: weave.tasks operation.thread), []) := by
  refine (if_pos runs).trans ((if_pos free).trans ?_)
  unfold ask?
  simp only [found, taken, borrowed, ↓reduceIte]

section Advancing

variable {value : ValueId} {rest : List (Task α)}

/-- An access goes on with its next stage. -/
theorem tick?_work {kind : AccessKind} {closure : Closure α} {stage : AccessStage α}
    {cell : Cell α} (runs : weave.world.threads.contains thread = true)
    (tasks : weave.tasks thread = .access value kind closure stage :: rest)
    (going : stage.borrows = true)
    (found : weave.world.cells.get? value = some cell) :
    weave.tick? (.advance thread) =
      some (weave.become (weave.world.nextStage thread value kind cell closure stage).1 thread
        (.access value kind (weave.world.nextStage thread value kind cell closure stage).2.1
          (weave.world.nextStage thread value kind cell closure stage).2.2 :: rest), []) := by
  refine (if_pos runs).trans ?_
  unfold carryOut? advance?
  cases stage with
  | ended sighting answer => cases going
  | _ => simp only [tasks, found]

/-- An access is over. -/
theorem tick?_answer {kind : AccessKind} {closure : Closure α} {sighting : Option Sighting}
    {answer : Except Fault (Answer α)} (runs : weave.world.threads.contains thread = true)
    (tasks : weave.tasks thread = .access value kind closure (.ended sighting answer) :: rest) :
    weave.tick? (.advance thread) =
      some (weave.become (weave.world.modifyCell value Cell.unlock) thread rest,
        [.answered value ⟨thread, sighting, answer⟩]) := by
  refine (if_pos runs).trans ?_
  unfold carryOut? advance?
  simp only [tasks]

/-- A thread gives up what it cannot have. -/
theorem tick?_yield (runs : weave.world.threads.contains thread = true)
    (tasks : weave.tasks thread = .refusal value :: rest) :
    weave.tick? (.advance thread) =
      some (weave.become (weave.world.modifyCell value Cell.unlock) thread rest, []) := by
  refine (if_pos runs).trans ?_
  unfold carryOut? advance?
  simp only [tasks]

/-- The table is copied for a section entry. -/
theorem tick?_copy {cell : Cell α} (runs : weave.world.threads.contains thread = true)
    (tasks : weave.tasks thread = .entry value none :: rest)
    (found : weave.world.cells.get? value = some cell) :
    weave.tick? (.advance thread) =
      some (weave.become (weave.world.note (.entering value cell.label cell.clock.size)) thread
        (.entry value (some cell.clock) :: rest), []) := by
  refine (if_pos runs).trans ?_
  unfold carryOut? advance?
  simp only [tasks, found]

/-- A section is entered. -/
theorem tick?_enter {clock : ClockTable} (runs : weave.world.threads.contains thread = true)
    (tasks : weave.tasks thread = .entry value (some clock) :: rest)
    (idle : (weave.world.thread thread).contextInUse = false) :
    weave.tick? (.advance thread) =
      some (weave.opened (weave.world.adoptClock thread value clock) thread value rest, []) := by
  refine (if_pos runs).trans ?_
  unfold carryOut? advance?
  simp only [tasks, World.withContext_eq weave.world thread _ idle]
  rfl

/-- A section is left. -/
theorem tick?_leave (runs : weave.world.threads.contains thread = true)
    (free : weave.isFree thread = true) (inside : value ∈ weave.sections thread) :
    weave.tick? (.leave thread value) =
      some (weave.closed (weave.world.leaveSection value) thread value, []) := by
  refine (if_pos runs).trans (if_pos ?_)
  rw [free, List.contains_iff_mem.2 inside, Bool.true_and]

/-- A section is left right after it was entered. -/
theorem tick?_leave_opened {world : World α} (runs : world.threads.contains thread = true)
    (free : weave.isFree thread = true) :
    (weave.opened world thread value (weave.tasks thread)).tick? (.leave thread value) =
      some ({ weave with world := world.leaveSection value }, []) := by
  have tasks : (weave.opened world thread value (weave.tasks thread)).tasks thread =
      weave.tasks thread := if_pos rfl
  have sections : (weave.opened world thread value (weave.tasks thread)).sections thread =
      value :: weave.sections thread := if_pos rfl
  have left := tick?_leave (show (weave.opened world thread value
    (weave.tasks thread)).world.threads.contains thread = true from runs)
    (by rw [isFree, tasks, ← isFree, free]) (sections ▸ List.mem_cons_self)
  rw [closed_opened] at left
  exact left

end Advancing

/-- The stages of an access are ticks of its thread. -/
theorem tickAll?_of_goesOn (weave : Weave α) {value : ValueId} {kind : AccessKind}
    {first last : World α × Closure α × AccessStage α}
    (goes : World.GoesOn thread value kind first last)
    (runs : first.1.threads.contains thread = true) (trace : Trace α) (rest : List (Task α)) :
    last.1.threads.contains thread = true ∧ ∃ ticks, ∀ later,
      (weave.become first.1 thread (.access value kind first.2.1 first.2.2 :: rest)).tickAll?
          trace (ticks ++ later) =
        (weave.become last.1 thread (.access value kind last.2.1 last.2.2 :: rest)).tickAll?
          trace later := by
  induction goes with
  | stays state => exact ⟨runs, [], fun _ => rfl⟩
  | @stage world closure stage cell last going found later ih =>
    obtain ⟨running, ticks, same⟩ := ih (World.running_nextStage world runs value kind cell _ _)
    refine ⟨running, .advance thread :: ticks, fun later => ?_⟩
    have tasks : (weave.become world thread (.access value kind closure stage :: rest)).tasks
        thread = .access value kind closure stage :: rest := if_pos rfl
    have ticked := tick?_work runs tasks going found
    rw [become_become] at ticked
    rw [List.cons_append, tickAll?_cons ticked, List.append_nil]
    exact same later

section Whole

variable {value : ValueId} {cell : Cell α} {lock : Lock}

/-- An access whose stages nobody interrupts is performed as a whole. -/
theorem tickAll?_access (runs : weave.world.threads.contains thread = true)
    (free : weave.isFree thread = true) (found : weave.world.cells.get? value = some cell)
    (taken : cell.lock.acquire? thread = some lock) (unborrowed : cell.borrowed = false)
    (idle : (weave.world.thread thread).contextInUse = false) (kind : AccessKind)
    (closure : Closure α) (trace : Trace α) :
    ∃ ticks, weave.tickAll? trace ticks = some
      ({ weave with
          world := (Operation.perform weave.world (.access thread value kind closure)).1 },
        trace ++ .asked (.access thread value kind closure) ::
          (Operation.perform weave.world (.access thread value kind closure)).2.map
            (.answered value)) := by
  have asked := tick?_ask (.access thread value kind closure) runs free found taken unborrowed
  obtain ⟨ended, left, sighting, answer, goes, performed⟩ :=
    World.goesOn_access found taken unborrowed idle kind closure
  obtain ⟨running, ticks, same⟩ := weave.tickAll?_of_goesOn goes runs
    (trace ++ [.asked (.access thread value kind closure)]) (weave.tasks thread)
  have tasks : (weave.become ended thread (.access value kind left (.ended sighting answer) ::
      weave.tasks thread)).tasks thread = .access value kind left (.ended sighting answer) ::
        weave.tasks thread := if_pos rfl
  have answered := tick?_answer running tasks
  rw [become_become, become_self] at answered
  refine ⟨.ask (.access thread value kind closure) :: (ticks ++ [.advance thread]), ?_⟩
  rw [tickAll?_cons asked, performed]
  refine (same [.advance thread]).trans ?_
  rw [tickAll?_cons answered, tickAll?, List.append_assoc]
  rfl

/-- A section that is entered and left at once is performed as a whole. -/
theorem tickAll?_entry (runs : weave.world.threads.contains thread = true)
    (free : weave.isFree thread = true) (found : weave.world.cells.get? value = some cell)
    (taken : cell.lock.acquire? thread = some lock) (unborrowed : cell.borrowed = false)
    (idle : (weave.world.thread thread).contextInUse = false) (trace : Trace α) :
    ∃ ticks, weave.tickAll? trace ticks = some
      ({ weave with world := (Operation.perform weave.world (.entry thread value)).1 },
        trace ++ .asked (.entry thread value) ::
          (Operation.perform weave.world (.entry thread value)).2.map (.answered value)) := by
  have asked := tick?_ask (.entry thread value) runs free found taken unborrowed
  have stored := World.get?_modifyCell weave.world found fun cell =>
    { cell with lock := lock, borrowed := false }
  have copied := tick?_copy (show (weave.become (weave.world.modifyCell value fun cell =>
    { cell with lock := lock, borrowed := false }) thread
      (.entry value none :: weave.tasks thread)).world.threads.contains thread = true from runs)
    (if_pos rfl) stored
  have entered := tick?_enter (show (weave.become ((weave.world.modifyCell value fun cell =>
    { cell with lock := lock, borrowed := false }).note
      (.entering value cell.label cell.clock.size)) thread
        (.entry value (some cell.clock) :: weave.tasks thread)).world.threads.contains thread = true
          from runs) (if_pos rfl) idle
  rw [become_become] at copied
  rw [opened_become, world_become] at entered
  have seen : ((weave.world.modifyCell value fun cell =>
      { cell with lock := lock, borrowed := false }).note
        (.entering value cell.label cell.clock.size)).adoptClock thread value cell.clock =
      ((weave.world.note (.entering value cell.label cell.clock.size)).adoptClock thread value
        cell.clock).modifyCell value fun cell => { cell with lock := lock } := by
    have kept : ((weave.world.note (.entering value cell.label cell.clock.size)).adoptClock thread
        value cell.clock).cells.get? value = some cell := by
      rw [World.cells_adoptClock]
      exact found
    refine (World.adoptClock_modifyCell (weave.world.note _) _ _ _ _ _).trans
      (World.modifyCell_congr _ kept ?_)
    rw [← unborrowed]
  rw [seen] at entered
  have running : (((weave.world.note (.entering value cell.label cell.clock.size)).adoptClock thread
      value cell.clock).modifyCell value fun cell =>
        { cell with lock := lock }).threads.contains thread = true := by
    show (SortedMap.insert _ thread _).contains thread = true
    rw [SortedMap.contains_insert, decide_eq_true rfl, Bool.true_or]
  refine ⟨[.ask (.entry thread value), .advance thread, .advance thread, .leave thread value], ?_⟩
  rw [tickAll?_cons asked]
  refine (tickAll?_cons copied _).trans ?_
  refine (tickAll?_cons entered _).trans ?_
  rw [tickAll?_cons (tick?_leave_opened running free), tickAll?,
    World.perform_entry found taken unborrowed idle]
  simp only [List.append_nil]
  rfl

end Whole

/-- An operation whose stages nobody interrupts, asked for by a thread that can have the lock, leads
to the world in which it is performed as a whole. Unless a closure of the same thread has the
content, the trace shows the operation, and what came of it. -/
theorem tickAll?_of_admitted {operation : Operation α} {cell : Cell α} {lock : Lock}
    (runs : weave.world.threads.contains operation.thread = true)
    (free : weave.isFree operation.thread = true)
    (found : weave.world.cells.get? operation.value = some cell)
    (taken : cell.lock.acquire? operation.thread = some lock)
    (idle : (weave.world.thread operation.thread).contextInUse = false) (trace : Trace α) :
    ∃ ticks, weave.tickAll? trace ticks = some
      ({ weave with world := (operation.perform weave.world).1 },
        trace ++ if cell.borrowed then [] else
          .asked operation :: (operation.perform weave.world).2.map
            (.answered operation.value)) := by
  cases borrowed : cell.borrowed with
  | false =>
    cases operation with
    | access thread value kind closure =>
      exact tickAll?_access runs free found taken borrowed idle kind closure trace
    | entry thread value =>
      exact tickAll?_entry runs free found taken borrowed idle trace
  | true =>
    have refused : (operation.refuse weave.world).cells.get? operation.value = some cell := by
      cases operation with
      | access thread value kind closure => exact found
      | entry thread value => exact found
    have running : (operation.refuse weave.world).threads.contains operation.thread = true := by
      cases operation with
      | access thread value kind closure => exact runs
      | entry thread value => exact runs
    have yielded := tick?_yield (show (weave.become
      ((operation.refuse weave.world).modifyCell operation.value fun cell =>
        { cell with lock := lock }) operation.thread
          (.refusal operation.value :: weave.tasks operation.thread)).world.threads.contains
            operation.thread = true from running) (if_pos rfl)
    rw [become_become, become_self, world_become, World.modifyCell_unlock refused taken]
      at yielded
    refine ⟨[.ask operation, .advance operation.thread], ?_⟩
    rw [tickAll?_cons (tick?_refuse operation runs free found taken borrowed),
      World.perform_refused operation found taken borrowed]
    refine (tickAll?_cons yielded _).trans ?_
    rw [tickAll?, List.append_nil]
    rfl

end Weave

end RaceSentry
