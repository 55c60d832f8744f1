import RaceSentry.Proofs.Halfway
import RaceSentry.Proofs.Order
import RaceSentry.Scenario.Step

/-!
# Interleaved stages are as good as whole operations

However the stages of many threads are woven into each other, each value comes out as if the
operations on it had been performed as a whole, one after another, in the order in which its lock
was taken. At any moment at most one operation on a value is halfway, and the others are over.
Main statement: `comes_out_as_in_turn`.
-/

namespace RaceSentry

open World

variable {α : Type}

/-- How far an operation has come whose value looked in one way when its lock was taken, and how
the value looks now. -/
inductive Progress (view : View α) (name : Option String) :
    Operation α → Task α → View α → Prop where
  /-- An access is at some stage. -/
  | access {thread : ThreadId} {value : ValueId} {kind : AccessKind} {whole closure : Closure α}
      {stage : AccessStage α} {now : View α}
      (halfway : Halfway view value ⟨thread, kind⟩ name whole closure stage now) :
      Progress view name (.access thread value kind whole) (.access value kind closure stage) now
  /-- A section is not entered yet; if the table is copied, it is still what it was. -/
  | entry {thread : ThreadId} {value : ValueId} {clock : Option ClockTable}
      (copied : ∀ table, clock = some table → table = view.cell.clock) :
      Progress view name (.entry thread value) (.entry value clock) view

/-- A world that comes after another one, with the same threads, in which nobody does anything. -/
structure World.Follows (start world : World α) : Prop where
  /-- Nobody does anything. -/
  rests : world.Rests
  /-- Threads have the same names. -/
  names : ∀ thread, (world.thread thread).name = (start.thread thread).name

/-- All operations on a value are over, and it is as if they had been performed in turn. -/
structure Settled (start : World α) (value : ValueId) (trace : Trace α) (weave : Weave α) :
    Prop where
  /-- Nobody is in the middle of an operation on it. -/
  nobody : ∀ thread, weave.pending value thread = []
  /-- No closure has its content. -/
  unborrowed : (weave.world.guard? value).map Prod.snd ≠ some true
  /-- In turn, the operations leave a world in which nobody does anything. -/
  follows : start.Follows (Operation.inTurn start (trace.operations value)).1
  /-- It looks the same. -/
  same : weave.world.view? value =
    (Operation.inTurn start (trace.operations value)).1.view? value
  /-- The same came of its accesses. -/
  told : trace.outcomes value = (Operation.inTurn start (trace.operations value)).2

/-- All operations on a value but the last are over, and that one is halfway. -/
structure Busy (start : World α) (value : ValueId) (trace : Trace α) (weave : Weave α)
    (earlier : List (Operation α)) (operation : Operation α) (task : Task α) (view now : View α) :
    Prop where
  /-- The last operation is one on the value. -/
  about : operation.value = value
  /-- It came after the others. -/
  last : trace.operations value = earlier ++ [operation]
  /-- Only its thread is in the middle of an operation on the value, and of no other. -/
  only : ∀ thread, weave.pending value thread = if thread = operation.thread then [task] else []
  /-- A closure has the content if the operation has come to that. -/
  guarded : (weave.world.guard? value).map Prod.snd = some task.borrows
  /-- In turn, the earlier operations leave a world in which nobody does anything. -/
  follows : start.Follows (Operation.inTurn start earlier).1
  /-- How the value looks there. -/
  before : (Operation.inTurn start earlier).1.view? value = some view
  /-- How it looks now. -/
  shown : weave.world.view? value = some now
  /-- How far the operation has come. -/
  progress : Progress view (start.thread operation.thread).name operation task now
  /-- The same came of the earlier accesses. -/
  told : trace.outcomes value = (Operation.inTurn start earlier).2

/-- How a value stands in a weave, compared with the operations on it being performed in turn. -/
inductive Phase (start : World α) (value : ValueId) (trace : Trace α) (weave : Weave α) : Prop where
  /-- All operations are over. -/
  | rest (settled : Settled start value trace weave)
  /-- All operations but the last one are over. -/
  | halfway {earlier : List (Operation α)} {operation : Operation α} {task : Task α}
      {view now : View α} (busy : Busy start value trace weave earlier operation task view now)

namespace Trace

variable (trace marks : Trace α) (value : ValueId)

/-- Operations of two traces come one after another. -/
theorem operations_append :
    Trace.operations (trace ++ marks) value =
      trace.operations value ++ Trace.operations marks value :=
  List.filterMap_append

/-- Outcomes of two traces come one after another. -/
theorem outcomes_append :
    Trace.outcomes (trace ++ marks) value = trace.outcomes value ++ Trace.outcomes marks value :=
  List.filterMap_append

/-- An operation is one on its own value. -/
theorem operations_asked (operation : Operation α) :
    Trace.operations [.asked operation] value =
      if operation.value = value then [operation] else [] := by
  by_cases about : operation.value = value
  · simp only [Trace.operations, List.filterMap_cons, Mark.operation?, about, if_true,
      List.filterMap_nil]
  · simp only [Trace.operations, List.filterMap_cons, Mark.operation?, about, if_false,
      List.filterMap_nil]

/-- An outcome is one of its own value. -/
theorem outcomes_answered (other : ValueId) (outcome : Outcome α) :
    Trace.outcomes [.answered other outcome] value = if other = value then [outcome] else [] := by
  by_cases about : other = value
  · simp only [Trace.outcomes, List.filterMap_cons, Mark.outcome?, about, if_true,
      List.filterMap_nil]
  · simp only [Trace.outcomes, List.filterMap_cons, Mark.outcome?, about, if_false,
      List.filterMap_nil]

end Trace

/-- What an operation begins with is an operation that is halfway. -/
theorem Operation.concerns_task (operation : Operation α) (value : ValueId) :
    operation.task.concerns value = decide (operation.value = value) := by
  cases operation with
  | access _ _ _ _ => rfl
  | entry _ _ => rfl

/-- An operation that is asked for has the content of a value as its task has. -/
theorem Operation.borrows_task (operation : Operation α) :
    operation.task.borrows = operation.borrows := by
  cases operation with
  | access _ _ _ _ => rfl
  | entry _ _ => rfl

/-- An operation has not come far when its lock is taken. -/
theorem Progress.begin (view : View α) (name : Option String) (operation : Operation α) :
    Progress view name operation operation.task view := by
  cases operation with
  | access thread value kind closure => exact .access .begun
  | entry thread value => exact .entry nofun

namespace Phase

variable {start : World α} {value : ValueId} {trace marks : Trace α} {weave next : Weave α}

/-- A value stands as before if nothing is done to it. -/
theorem aside (phase : Phase start value trace weave)
    (shown : next.world.view? value = weave.world.view? value)
    (guarded : (next.world.guard? value).map Prod.snd = (weave.world.guard? value).map Prod.snd)
    (pending : ∀ thread, next.pending value thread = weave.pending value thread)
    (operations : Trace.operations marks value = []) (outcomes : Trace.outcomes marks value = []) :
    Phase start value (trace ++ marks) next := by
  have asked : Trace.operations (trace ++ marks) value = trace.operations value := by
    rw [Trace.operations_append, operations, List.append_nil]
  have answered : Trace.outcomes (trace ++ marks) value = trace.outcomes value := by
    rw [Trace.outcomes_append, outcomes, List.append_nil]
  cases phase with
  | rest settled =>
    refine .rest ⟨fun thread => ?_, ?_, ?_, ?_, ?_⟩
    · rw [pending, settled.nobody]
    · rw [guarded]
      exact settled.unborrowed
    · rw [asked]
      exact settled.follows
    · rw [shown, asked, settled.same]
    · rw [answered, asked, settled.told]
  | halfway busy =>
    refine .halfway ⟨busy.about, ?_, fun thread => ?_, ?_, busy.follows, busy.before, ?_,
      busy.progress, ?_⟩
    · rw [asked, busy.last]
    · rw [pending, busy.only]
    · rw [guarded, busy.guarded]
    · rw [shown, busy.shown]
    · rw [answered, busy.told]

/-- A value stands as before if another one is worked on. -/
theorem elsewhere {other : ValueId} {change : View α → View α}
    {turn : Lock × Bool → Lock × Bool} (phase : Phase start value trace weave)
    (alters : Alters other change turn weave.world next.world) (different : value ≠ other)
    (pending : ∀ thread, next.pending value thread = weave.pending value thread)
    (operations : Trace.operations marks value = []) (outcomes : Trace.outcomes marks value = []) :
    Phase start value (trace ++ marks) next := by
  have shown := alters.view value
  have guarded := alters.guard value
  rw [if_neg different] at shown guarded
  exact phase.aside shown (by rw [guarded]) pending operations outcomes

/-- A value stands as before if nothing but locks is taken and given up. -/
theorem locked {other : ValueId} {turn : Lock × Bool → Lock × Bool}
    (phase : Phase start value trace weave)
    (alters : Alters other id turn weave.world next.world)
    (kept : ∀ guard, (turn guard).2 = guard.2)
    (pending : ∀ thread, next.pending value thread = weave.pending value thread) :
    Phase start value (trace ++ []) next := by
  refine phase.aside ?_ ?_ pending rfl rfl
  · rw [alters.view]
    split
    · rename_i here
      rw [here, Option.map_id_fun, id]
    · rfl
  · rw [alters.guard]
    split
    · rename_i here
      rw [here, Option.map_map]
      congr 1
      funext guard
      exact kept guard
    · rfl

/-- An operation that a thread is in the middle of is the one that is halfway, and the thread is
in the middle of no other on the same value. -/
theorem busy_of_tasks (phase : Phase start value trace weave) {thread : ThreadId} {task : Task α}
    {rest : List (Task α)} (tasks : weave.tasks thread = task :: rest)
    (about : task.concerns value = true) :
    rest.filter (Task.concerns value) = [] ∧ ∃ earlier operation view now,
      operation.thread = thread ∧
        Busy start value trace weave earlier operation task view now := by
  have here : weave.pending value thread = task :: rest.filter (Task.concerns value) := by
    rw [Weave.pending, tasks, List.filter_cons_of_pos about]
  cases phase with
  | rest settled =>
    rw [settled.nobody] at here
    cases here
  | halfway busy =>
    have only := busy.only thread
    rw [here] at only
    split at only
    · rename_i actor
      obtain ⟨rfl, alone⟩ := List.cons.inj only
      exact ⟨alone, _, _, _, _, actor.symm, busy⟩
    · cases only

/-- When a free thread takes the lock of a value and finds its content to be had, no operation on
it is halfway. -/
theorem settled_of_free (phase : Phase start value trace weave) (orderly : Orderly start weave)
    {thread : ThreadId} {cell : Cell α} {lock : Lock} (free : weave.isFree thread = true)
    (found : weave.world.cells.get? value = some cell)
    (taken : cell.lock.acquire? thread = some lock) (unborrowed : cell.borrowed = false) :
    Settled start value trace weave := by
  cases phase with
  | rest settled => exact settled
  | @halfway earlier operation task view now busy =>
    exfalso
    have guard := guard?_of_get? weave.world found
    have member : task ∈ weave.pending value operation.thread := by
      rw [busy.only, if_pos rfl]
      exact List.mem_singleton_self _
    have has : 0 < cell.lock.depth operation.thread := by
      rw [orderly.depth value _ _ guard]
      exact Weave.holds_pos_of_pending member
    have mine := Lock.eq_of_acquire? has taken
    rw [← mine] at member
    have running := orderly.isRunning_of_isFree free task (List.mem_filter.1 member).1
    have borrows := busy.guarded
    rw [guard, Option.map_some, unborrowed, Task.borrows_of_isRunning running] at borrows
    cases borrows

end Phase

section

variable {start : World α} {value : ValueId} {trace marks : Trace α} {weave next : Weave α}
  {earlier : List (Operation α)} {operation : Operation α} {task later : Task α}
  {view now shown : View α}

/-- An operation whose lock is taken becomes the one that is halfway. -/
theorem Settled.taken (settled : Settled start value trace weave) {cell : Cell α} {lock : Lock}
    (about : operation.value = value)
    (found : weave.world.cells.get? value = some cell) :
    Phase start value (trace ++ [.asked operation])
      (weave.become
        (weave.world.modifyCell operation.value fun cell =>
          { cell with lock := lock, borrowed := operation.borrows })
        operation.thread (operation.task :: weave.tasks operation.thread)) := by
  subst about
  have alters := alters_take weave.world operation.value lock operation.borrows
  have looked := settled.same
  rw [view?_of_get? weave.world found] at looked
  refine .halfway ⟨rfl, ?_, fun thread => ?_, ?_, settled.follows, looked.symm, ?_,
    .begin _ _ operation, ?_⟩
  · rw [Trace.operations_append, Trace.operations_asked, if_pos rfl]
  · have nobody : (weave.tasks operation.thread).filter (Task.concerns operation.value) = [] :=
      settled.nobody operation.thread
    rw [Weave.pending_become, List.filter_cons_of_pos (by simp [Operation.concerns_task]), nobody,
      settled.nobody]
  · rw [Weave.world_become, alters.guard, if_pos rfl, guard?_of_get? weave.world found,
      Operation.borrows_task]
    rfl
  · rw [Weave.world_become, alters.view, if_pos rfl, view?_of_get? weave.world found]
    rfl
  · rw [Trace.outcomes_append, settled.told]
    exact List.append_nil _

/-- The operation that is halfway goes on. -/
theorem Busy.advanced (busy : Busy start value trace weave earlier operation task view now)
    {world : World α} {rest : List (Task α)}
    (alone : rest.filter (Task.concerns value) = []) (about : later.concerns value = true)
    (looks : world.view? value = some shown)
    (guarded : (world.guard? value).map Prod.snd = some later.borrows)
    (progress : Progress view (start.thread operation.thread).name operation later shown) :
    Phase start value (trace ++ [])
      (weave.become world operation.thread (later :: rest)) := by
  rw [List.append_nil]
  refine .halfway ⟨busy.about, busy.last, fun thread => ?_, guarded, busy.follows, busy.before,
    looks, progress, busy.told⟩
  rw [Weave.pending_become, List.filter_cons_of_pos about, alone, busy.only]
  split
  · rfl
  · rfl

/-- The operation that is halfway is over. -/
theorem Busy.over (busy : Busy start value trace weave earlier operation task view now)
    (quiet : Trace.operations marks value = [])
    (outcomes : Trace.outcomes marks value =
      (view.perform (start.thread operation.thread).name operation).2)
    (pending : ∀ thread, next.pending value thread =
      if thread = operation.thread then [] else weave.pending value thread)
    (unborrowed : (next.world.guard? value).map Prod.snd ≠ some true)
    (looks : next.world.view? value =
      some (view.perform (start.thread operation.thread).name operation).1) :
    Phase start value (trace ++ marks) next := by
  have about := busy.about
  subst about
  obtain ⟨told, alters⟩ := alters_perform busy.follows.rests busy.before
  rw [busy.follows.names] at told alters
  have performed := Operation.inTurn_concat start earlier operation
  have asked : Trace.operations (trace ++ marks) operation.value = earlier ++ [operation] := by
    rw [Trace.operations_append, quiet, List.append_nil, busy.last]
  refine .rest ⟨fun thread => ?_, unborrowed, ?_, ?_, ?_⟩
  · rw [pending, busy.only]
    split
    · rfl
    · rfl
  · rw [asked, performed]
    exact ⟨busy.follows.rests.altered alters, fun thread =>
      (alters.names thread).trans (busy.follows.names thread)⟩
  · rw [asked, performed, looks, alters.view, if_pos rfl, busy.before]
    rfl
  · rw [asked, performed, Trace.outcomes_append, busy.told, outcomes, told]

end

/-- The tasks of a weave are in good order, and every value stands as if the operations on it had
been performed in turn, but perhaps for the last one. -/
structure Woven (start : World α) (trace : Trace α) (weave : Weave α) : Prop where
  /-- The tasks are in good order. -/
  orderly : Orderly start weave
  /-- How every value stands. -/
  phases : ∀ value, Phase start value trace weave

/-- Tasks that differ by no operation on a value leave the same operations on it halfway. -/
theorem Weave.pending_congr (weave : Weave α) {thread : ThreadId} {tasks : List (Task α)}
    {value : ValueId} (world : World α)
    (same : tasks.filter (Task.concerns value) =
      (weave.tasks thread).filter (Task.concerns value)) (other : ThreadId) :
    (weave.become world thread tasks).pending value other = weave.pending value other := by
  rw [pending_become]
  split
  · rename_i here
    rw [same, here, pending]
  · rfl

namespace Woven

variable {start : World α} {trace : Trace α} {weave : Weave α} {thread : ThreadId}
  {value : ValueId} {rest : List (Task α)}

/-- An operation that takes its lock begins where those before it are settled. -/
theorem took (woven : Woven start trace weave) {operation : Operation α} {cell : Cell α}
    {lock : Lock} (free : weave.isFree operation.thread = true)
    (found : weave.world.cells.get? operation.value = some cell)
    (taken : cell.lock.acquire? operation.thread = some lock)
    (unborrowed : cell.borrowed = false) :
    Woven start (trace ++ [.asked operation])
      (weave.become
        (weave.world.modifyCell operation.value fun cell =>
          { cell with lock := lock, borrowed := operation.borrows })
        operation.thread (operation.task :: weave.tasks operation.thread)) := by
  have alters := alters_take weave.world operation.value lock operation.borrows
  have about : operation.task.concerns operation.value = true := by
    simp [Operation.concerns_task]
  refine ⟨woven.orderly.pushed free alters (Task.value?_of_concerns about) ?_, fun value => ?_⟩
  · intro guard guarded
    rw [guard?_of_get? weave.world found, Option.some.injEq] at guarded
    rw [← guarded]
    exact taken
  · by_cases here : value = operation.value
    · subst here
      exact ((woven.phases _).settled_of_free woven.orderly free found taken unborrowed).taken rfl
        found
    · refine (woven.phases value).elsewhere alters here ?_ ?_ rfl
      · exact weave.pending_congr _
          (Task.filter_concerns_cons (Task.value?_of_concerns about) here _)
      · rw [Trace.operations_asked, if_neg (Ne.symm here)]

/-- An access that does one more stage is still halfway. -/
theorem worked (woven : Woven start trace weave) {kind : AccessKind} {closure : Closure α}
    {stage : AccessStage α} {cell : Cell α}
    (tasks : weave.tasks thread = .access value kind closure stage :: rest)
    (going : stage.borrows = true)
    (found : weave.world.cells.get? value = some cell) :
    Woven start (trace ++ [])
      (weave.become (weave.world.nextStage thread value kind cell closure stage).1 thread
        (.access value kind (weave.world.nextStage thread value kind cell closure stage).2.1
          (weave.world.nextStage thread value kind cell closure stage).2.2 :: rest)) := by
  obtain ⟨alone, earlier, operation, view, now, actor, busy⟩ :=
    (woven.phases value).busy_of_tasks tasks (decide_eq_true rfl)
  have borrowed := busy.guarded
  rw [guard?_of_get? weave.world found] at borrowed
  have borrows : cell.borrowed = stage.borrows := Option.some.inj borrowed
  rw [going] at borrows
  have progress := busy.progress
  rw [actor, ← woven.orderly.names thread] at progress
  cases progress with
  | @access actor' _ _ whole _ _ _ halfway =>
    have same : actor' = thread := actor
    subst same
    obtain ⟨shown, further, alters⟩ := furthers_nextStage found busy.shown borrows
      (woven.orderly.idle_of_tasks tasks nofun) halfway going
    refine ⟨woven.orderly.replaced tasks alters rfl rfl fun _ => rfl, fun other => ?_⟩
    by_cases here : other = value
    · subst here
      refine busy.advanced alone (decide_eq_true rfl)
        (by rw [alters.view, if_pos rfl, busy.shown, Option.map_some]) ?_ ?_
      · rw [alters.guard, if_pos rfl, guard?_of_get? weave.world found]
        rfl
      · rw [← woven.orderly.names]
        exact .access further
    · refine (woven.phases other).elsewhere alters here (weave.pending_congr _ ?_) rfl rfl
      rw [tasks, Task.filter_concerns_cons rfl here, Task.filter_concerns_cons rfl here]

/-- An access that ends and answers is settled. -/
theorem answered (woven : Woven start trace weave) {kind : AccessKind} {closure : Closure α}
    {sighting : Option Sighting} {answer : Except Fault (Answer α)}
    (tasks : weave.tasks thread = .access value kind closure (.ended sighting answer) :: rest) :
    Woven start (trace ++ [.answered value ⟨thread, sighting, answer⟩])
      (weave.become (weave.world.modifyCell value Cell.unlock) thread rest) := by
  have alters := alters_unlock weave.world value
  obtain ⟨alone, earlier, operation, view, now, actor, busy⟩ :=
    (woven.phases value).busy_of_tasks tasks (decide_eq_true rfl)
  refine ⟨woven.orderly.popped tasks alters rfl fun _ => rfl, fun other => ?_⟩
  by_cases here : other = value
  · subst here
    have progress := busy.progress
    cases progress with
    | @access actor' _ _ whole _ _ _ halfway =>
      have same : actor' = thread := actor
      subst same
      cases halfway with
      | ended =>
        refine busy.over rfl ?_ (fun other => ?_) ?_ ?_
        · rw [Trace.outcomes_answered, if_pos rfl]
          rfl
        · rw [Weave.pending_become, alone]
          rfl
        · rw [Weave.world_become, alters.guard, if_pos rfl, Option.map_map]
          change (weave.world.guard? other).map Prod.snd ≠ some true
          rw [busy.guarded]
          exact nofun
        · rw [Weave.world_become, alters.view, if_pos rfl, busy.shown]
          rfl
  · refine (woven.phases other).elsewhere alters here (weave.pending_congr _ ?_) rfl ?_
    · rw [tasks, Task.filter_concerns_cons rfl here]
    · rw [Trace.outcomes_answered, if_neg (Ne.symm here)]

/-- A section entry that copies the table is still halfway. -/
theorem copied (woven : Woven start trace weave) {cell : Cell α}
    (tasks : weave.tasks thread = .entry value none :: rest)
    (found : weave.world.cells.get? value = some cell) :
    Woven start (trace ++ [])
      (weave.become (weave.world.note (.entering value cell.label cell.clock.size)) thread
        (.entry value (some cell.clock) :: rest)) := by
  have alters := alters_note weave.world value (.entering value cell.label cell.clock.size)
  obtain ⟨alone, earlier, operation, view, now, actor, busy⟩ :=
    (woven.phases value).busy_of_tasks tasks (decide_eq_true rfl)
  refine ⟨woven.orderly.replaced tasks alters rfl rfl fun _ => rfl, fun other => ?_⟩
  by_cases here : other = value
  · subst here
    have progress := busy.progress
    cases progress with
    | @entry actor' _ _ _ =>
      have same : actor' = thread := actor
      subst same
      have clock : cell.atRest.clock = view.cell.clock :=
        congrArg Cell.clock (atRest_of_view? found busy.shown)
      refine busy.advanced alone (decide_eq_true rfl)
        (by rw [alters.view, if_pos rfl, busy.shown, Option.map_some]) ?_ ?_
      · rw [alters.guard, if_pos rfl, Option.map_id_fun, id]
        exact busy.guarded
      · refine .entry fun table same => ?_
        cases same
        exact clock
  · refine (woven.phases other).elsewhere alters here (weave.pending_congr _ ?_) rfl rfl
    rw [tasks, Task.filter_concerns_cons rfl here, Task.filter_concerns_cons rfl here]

/-- A section entry that adopts the copy is settled. -/
theorem entered (woven : Woven start trace weave) {clock : ClockTable}
    (tasks : weave.tasks thread = .entry value (some clock) :: rest) :
    Woven start (trace ++ [])
      (weave.opened (weave.world.adoptClock thread value clock) thread value rest) := by
  have alters := alters_adoptClock weave.world thread value clock
  obtain ⟨alone, earlier, operation, view, now, actor, busy⟩ :=
    (woven.phases value).busy_of_tasks tasks (decide_eq_true rfl)
  refine ⟨woven.orderly.opened tasks alters rfl fun _ => rfl, fun other => ?_⟩
  by_cases here : other = value
  · subst here
    have progress := busy.progress
    cases progress with
    | @entry actor' _ _ copied =>
      have same : actor' = thread := actor
      subst same
      refine busy.over rfl rfl (fun other => ?_) ?_ ?_
      · rw [Weave.pending_opened, Weave.pending_become, alone]
        rfl
      · rw [Weave.world_opened, alters.guard, if_pos rfl, Option.map_id_fun, id, busy.guarded]
        exact nofun
      · rw [Weave.world_opened, alters.view, if_pos rfl, busy.shown, copied clock rfl]
        rfl
  · refine (woven.phases other).elsewhere alters here (fun actor => ?_) rfl rfl
    rw [Weave.pending_opened]
    refine weave.pending_congr _ ?_ actor
    rw [tasks, Task.filter_concerns_cons rfl here]

/-- Every tick keeps it. -/
theorem ticks (woven : Woven start trace weave) {next : Weave α} {marks : Trace α}
    (ticks : weave.Ticks next marks) : Woven start (trace ++ marks) next := by
  have orderly := woven.orderly
  cases ticks with
  | took operation cell lock free found taken unborrowed =>
    exact woven.took free found taken unborrowed
  | refused operation cell lock free found taken borrowed =>
    have alters := alters_refuse weave.world operation lock
    refine ⟨orderly.pushed free alters rfl ?_, fun other => ?_⟩
    · intro guard guarded
      rw [guard?_of_get? weave.world found, Option.some.injEq] at guarded
      rw [← guarded]
      exact taken
    · exact (woven.phases other).locked alters (fun _ => rfl) (weave.pending_congr _ rfl)
  | worked thread value kind closure stage rest cell tasks going found =>
    exact woven.worked tasks going found
  | answered thread value kind closure sighting answer rest tasks => exact woven.answered tasks
  | copied thread value rest cell tasks found => exact woven.copied tasks found
  | entered thread value clock rest tasks idle => exact woven.entered tasks
  | stalled thread value clock rest tasks busy =>
    rw [orderly.idle_of_tasks tasks nofun] at busy
    cases busy
  | yielded thread value rest tasks =>
    have alters := alters_unlock weave.world value
    refine ⟨orderly.popped tasks alters rfl fun _ => rfl, fun other => ?_⟩
    refine (woven.phases other).locked alters (fun _ => rfl) (weave.pending_congr _ ?_)
    rw [tasks]
    rfl
  | left thread value free inside =>
    have alters := alters_leaveSection weave.world value
    exact ⟨orderly.closed free inside alters fun _ => rfl, fun other =>
      (woven.phases other).locked alters (fun _ => rfl) fun _ => rfl⟩
  | contextOpened thread free idle =>
    have unaltered := unaltered_openContext weave.world idle
    refine ⟨orderly.unaltered unaltered (fun _ => ⟨_, rfl⟩) (orderly.isRunning_of_isFree free)
      fun _ => rfl, fun other => ?_⟩
    exact (woven.phases other).aside (unaltered.view other)
      (congrArg (Option.map Prod.snd) (unaltered.guard other)) (weave.pending_congr _ rfl) rfl rfl
  | contextBusy thread free busy =>
    rw [orderly.idle_of_isFree free] at busy
    cases busy
  | contextClosed thread rest tasks =>
    have unaltered := unaltered_closeContext weave.world thread
    have idle : ((weave.world.closeContext thread).thread thread).contextInUse = false := by
      rw [closeContext, thread_setThread, if_pos rfl]
    refine ⟨orderly.unaltered unaltered (fun busy => ?_) (fun task member => ?_) fun value => ?_,
      fun other => ?_⟩
    · rw [idle] at busy
      cases busy
    · exact orderly.isRunning_below tasks task (List.mem_of_mem_tail member)
    · rw [tasks]
      rfl
    · refine (woven.phases other).aside (unaltered.view other)
        (congrArg (Option.map Prod.snd) (unaltered.guard other)) (weave.pending_congr _ ?_) rfl rfl
      rw [tasks]
      rfl

end Woven

variable {start : World α} {trace : Trace α} {weave : Weave α}

/-- At the start nothing has happened, and nobody does anything. -/
theorem woven_start (rests : start.Rests) : Woven start [] (.start start) where
  orderly := {
    names := fun _ => rfl
    contexts := fun thread busy => by
      rw [show (Weave.start start).world = start from rfl, rests.contexts] at busy
      cases busy
    depth := fun value lock borrowed guarded thread => by
      cases rests.guards value _ guarded
      rfl
    below := fun _ => nofun }
  phases := fun value => .rest {
    nobody := fun _ => rfl
    unborrowed := fun borrowed => by
      obtain ⟨guard, guarded, same⟩ := Option.map_eq_some_iff.1 borrowed
      rw [rests.guards value guard guarded] at same
      cases same
    follows := ⟨rests, fun _ => rfl⟩
    same := rfl
    told := rfl }

/-- However stages are woven, each value stands as if its operations had been performed in turn. -/
theorem woven_of_weaving (rests : start.Rests) (weaving : Weaving start trace weave) :
    Woven start trace weave := by
  induction weaving with
  | start => exact woven_start rests
  | tick _ ticked ih => exact ih.ticks (Weave.ticks_of_tick? ticked)

/-- When nobody has the lock of a value, no operation on it is halfway. -/
theorem Woven.settled_of_unlocked (woven : Woven start trace weave) {value : ValueId}
    {cell : Cell α} (found : weave.world.cells.get? value = some cell) (free : cell.lock = .free) :
    Settled start value trace weave := by
  cases woven.phases value with
  | rest settled => exact settled
  | @halfway earlier operation task view now busy =>
    exfalso
    have member : task ∈ weave.pending value operation.thread := by
      rw [busy.only, if_pos rfl]
      exact List.mem_singleton_self _
    have holds := Weave.holds_pos_of_pending member
    rw [← woven.orderly.depth value _ _ (guard?_of_get? weave.world found), free] at holds
    exact Nat.lt_irrefl 0 holds

/-- Cells that look the same and are guarded in the same way are the same. -/
theorem get?_eq_of_view? {world next : World α} {value : ValueId} {cell : Cell α}
    (found : world.cells.get? value = some cell) (shown : world.view? value = next.view? value)
    (rests : next.Rests) (guard : (cell.lock, cell.borrowed) = (.free, false)) :
    next.cells.get? value = some cell := by
  rw [view?_of_get? world found] at shown
  obtain ⟨other, stored, same⟩ := get?_of_view? shown.symm
  have guarded := rests.guards value _ (guard?_of_get? next stored)
  rw [Prod.mk.injEq] at guard guarded
  have equal : other = cell := by
    have rested : cell.atRest = cell := by rw [Cell.atRest, ← guard.1, ← guard.2]
    have rested' : other.atRest = other := by rw [Cell.atRest, ← guarded.1, ← guarded.2]
    rw [← rested, ← rested', same]
  rw [stored, equal]

/-- However the stages of operations are woven into each other, what comes of the accesses to a
value, with the verdicts on them, is what comes of them when the operations on the value are
performed one after another in the order in which its lock was taken. Whenever nobody has the lock,
the same also holds of its content, its clock table, the threads that race on it, what each thread
has seen of it, and its entry in the ledger. -/
theorem comes_out_as_in_turn (rests : start.Rests) (weaving : Weaving start trace weave)
    (value : ValueId) :
    trace.outcomes value <+: (Operation.inTurn start (trace.operations value)).2 ∧
      ∀ cell, weave.world.cells.get? value = some cell → cell.lock = .free →
        trace.outcomes value = (Operation.inTurn start (trace.operations value)).2 ∧
        (Operation.inTurn start (trace.operations value)).1.cells.get? value = some cell ∧
        (∀ thread, (Operation.inTurn start (trace.operations value)).1.snapshot? thread value =
          weave.world.snapshot? thread value) ∧
        (Operation.inTurn start (trace.operations value)).1.account? cell.sink value =
          weave.world.account? cell.sink value := by
  have woven := woven_of_weaving rests weaving
  refine ⟨?_, fun cell found free => ?_⟩
  · cases woven.phases value with
    | rest settled => exact ⟨[], (List.append_nil _).trans settled.told⟩
    | halfway busy =>
      rw [busy.last, Operation.inTurn_concat, busy.told]
      exact List.prefix_append _ _
  · have settled := woven.settled_of_unlocked found free
    have unborrowed := settled.unborrowed
    rw [guard?_of_get? weave.world found, Option.map_some, ne_eq, Option.some.injEq,
      Bool.not_eq_true] at unborrowed
    change cell.borrowed = false at unborrowed
    have stored := get?_eq_of_view? found settled.same settled.follows.rests
      (by rw [free, unborrowed])
    have shown := settled.same
    rw [view?_of_get? _ found, view?_of_get? _ stored, Option.some.injEq, View.mk.injEq] at shown
    exact ⟨settled.told, stored, fun thread => (congrFun shown.2.1 thread).symm, shown.2.2.symm⟩

/-- Nobody does anything if no cell is in use and no thread works on its context. -/
theorem World.rests_of_entries {world : World α}
    (cells : ∀ entry ∈ world.cells.entries, entry.2.lock = .free ∧ entry.2.borrowed = false)
    (threads : ∀ entry ∈ world.threads.entries, entry.2.contextInUse = false) :
    world.Rests where
  guards := fun value guard guarded => by
    obtain ⟨cell, found, rfl⟩ := Option.map_eq_some_iff.1 guarded
    obtain ⟨free, unborrowed⟩ := cells _ ((SortedMap.mem_entries_iff _ _ _).2 found)
    rw [free, unborrowed]
  contexts := fun thread => by
    rw [World.thread]
    cases found : world.threads.get? thread with
    | none => rfl
    | some state => exact threads _ ((SortedMap.mem_entries_iff _ _ _).2 found)

/-- Two threads and two values. -/
def World.pair : World Nat :=
  ((((World.empty.step (.spawn none false)).1.step (.spawn none true)).1.step
    (.newValue 7 none none)).1.step (.newValue 0 none none)).1

/-- A thread writes to the first value of a pair in two stretches. Between them another thread
writes to the second value; afterwards that thread reads the first one. -/
def Tick.interruptedWrite : List (Tick Nat) :=
  [.ask (.access ⟨0⟩ ⟨0⟩ .write (.stretch (fun content => content + 1) fun found =>
      .last fun content => (content + found, .ok .nothing))),
    .advance ⟨0⟩,
    .ask (.access ⟨1⟩ ⟨1⟩ .write (.last fun content => (content + 1, .ok .nothing))),
    .advance ⟨0⟩, .advance ⟨1⟩, .advance ⟨1⟩, .advance ⟨0⟩, .advance ⟨1⟩, .advance ⟨0⟩,
    .advance ⟨1⟩, .advance ⟨1⟩, .advance ⟨0⟩, .advance ⟨0⟩,
    .ask (.access ⟨1⟩ ⟨0⟩ .read (.last fun content => (content, .ok (.payload content)))),
    .advance ⟨1⟩, .advance ⟨1⟩, .advance ⟨1⟩, .advance ⟨1⟩, .advance ⟨1⟩, .advance ⟨1⟩,
    .advance ⟨1⟩, .advance ⟨1⟩]

/-- The read that follows an interrupted write finds the content complete, and is flagged, as if
the write had not been interrupted. -/
theorem read_comes_out_after_write :
    ∃ (trace : Trace Nat) (weave : Weave Nat) (cell : Cell Nat), Weaving World.pair trace weave ∧
      weave.world.cells.get? ⟨0⟩ = some cell ∧ cell.lock = .free ∧ cell.payload = 15 ∧
        (trace.outcomes ⟨0⟩).map Outcome.verdict =
          [none, some ⟨⟨0⟩, none, ⟨⟨1⟩, .read⟩, none, [⟨⟨⟨0⟩, .write⟩, 1, none⟩]⟩] ∧
        trace.outcomes ⟨0⟩ = (Operation.inTurn World.pair (trace.operations ⟨0⟩)).2 ∧
        (Operation.inTurn World.pair (trace.operations ⟨0⟩)).1.cells.get? ⟨0⟩ = some cell := by
  have rests : World.pair.Rests := World.rests_of_entries (by decide) (by decide)
  have shows : ((Weave.start World.pair).tickAll? [] Tick.interruptedWrite).map (fun made =>
        ((made.1.world.cells.get? ⟨0⟩).map fun cell => (cell.lock, cell.payload),
          (made.2.outcomes ⟨0⟩).map Outcome.verdict)) =
      some (some (.free, 15),
        [none, some ⟨⟨0⟩, none, ⟨⟨1⟩, .read⟩, none, [⟨⟨⟨0⟩, .write⟩, 1, none⟩]⟩]) := by
    decide +kernel
  obtain ⟨⟨weave, trace⟩, ticked, shown⟩ := Option.map_eq_some_iff.1 shows
  rw [Prod.mk.injEq] at shown
  obtain ⟨cell, found, same⟩ := Option.map_eq_some_iff.1 shown.1
  rw [Prod.mk.injEq] at same
  have weaving : Weaving World.pair trace weave := Weaving.start.tickAll? _ ticked
  obtain ⟨outcomes, stored, _, _⟩ :=
    (comes_out_as_in_turn rests weaving ⟨0⟩).2 cell found same.1
  exact ⟨trace, weave, cell, weaving, found, same.1, same.2, shown.2, outcomes, stored⟩

end RaceSentry
