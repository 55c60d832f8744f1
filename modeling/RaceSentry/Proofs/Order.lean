import RaceSentry.Proofs.View

/-!
# Order among interleaved stages

What each thread is in the middle of agrees with the locks: a lock is taken as often as tasks and
sections of its owner have it, and a thread turns to something new only in the middle of running
closures.
Main statement: `Orderly.altered`.
-/

namespace RaceSentry

open World

variable {α : Type}

namespace Lock

/-- How often a thread has to give the lock up until it does not have it any more. -/
def depth (thread : ThreadId) : Lock → Nat
  | .free => 0
  | .held owner again => if owner = thread then again + 1 else 0

/-- A lock that is taken is had once more by the thread that takes it. -/
theorem depth_acquire? {lock taken : Lock} {thread : ThreadId}
    (got : lock.acquire? thread = some taken) (other : ThreadId) :
    taken.depth other = lock.depth other + if other = thread then 1 else 0 := by
  cases lock with
  | free =>
    cases got
    simp only [depth, Nat.zero_add, eq_comm]
  | held owner again =>
    simp only [acquire?, Option.ite_none_right_eq_some, Option.some.injEq] at got
    obtain ⟨rfl, rfl⟩ := got
    simp only [depth]
    by_cases same : owner = other
    · rw [if_pos same, if_pos same, if_pos same.symm]
    · rw [if_neg same, if_neg same, if_neg (Ne.symm same)]

/-- A lock that is released is had once less by the thread that has it. -/
theorem depth_release {lock : Lock} {thread : ThreadId} (has : 0 < lock.depth thread)
    (other : ThreadId) :
    lock.depth other = lock.release.depth other + if other = thread then 1 else 0 := by
  cases lock with
  | free => exact absurd has (Nat.lt_irrefl 0)
  | held owner again =>
    have mine : owner = thread := by
      refine Decidable.byContradiction fun different => ?_
      rw [depth, if_neg different] at has
      exact Nat.lt_irrefl 0 has
    subst mine
    cases again with
    | zero => simp only [depth, release, Nat.zero_add, eq_comm]
    | succ again =>
      simp only [depth, release]
      by_cases same : owner = other
      · rw [if_pos same, if_pos same, if_pos same.symm]
      · rw [if_neg same, if_neg same, if_neg (Ne.symm same)]

/-- A lock is taken by the thread that has it already, if one has. -/
theorem eq_of_acquire? {lock taken : Lock} {thread owner : ThreadId} (has : 0 < lock.depth owner)
    (got : lock.acquire? thread = some taken) : thread = owner := by
  cases lock with
  | free => exact absurd has (Nat.lt_irrefl 0)
  | held holder again =>
    simp only [acquire?, Option.ite_none_right_eq_some] at got
    refine Decidable.byContradiction fun different => ?_
    rw [depth, if_neg fun same => different (got.1.symm.trans same)] at has
    exact Nat.lt_irrefl 0 has

end Lock

namespace Task

/-- The value whose lock a task has. -/
def value? : Task α → Option ValueId
  | .access value _ _ _ => some value
  | .entry value _ => some value
  | .refusal value => some value
  | .context => none

/-- Whether a task is an operation on a value that is halfway. -/
def concerns (value : ValueId) : Task α → Bool
  | .access other _ _ _ => other = value
  | .entry other _ => other = value
  | _ => false

/-- Whether a task has the content of its value. -/
def borrows : Task α → Bool
  | .access _ _ _ stage => stage.borrows
  | _ => false

/-- A task in the middle of which a closure is running has the content. -/
theorem borrows_of_isRunning {task : Task α} (running : task.isRunning = true) :
    task.borrows = true := by
  cases task with
  | access value kind closure stage =>
    cases stage with
    | running sighting => rfl
    | _ => cases running
  | _ => cases running

/-- An operation that is halfway has the lock. -/
theorem value?_of_concerns {task : Task α} {value : ValueId}
    (about : task.concerns value = true) : task.value? = some value := by
  cases task with
  | access other kind closure stage => exact congrArg some (of_decide_eq_true about)
  | entry other clock => exact congrArg some (of_decide_eq_true about)
  | _ => cases about

/-- Work on a context has no lock. -/
theorem ne_context_of_value? {task : Task α} {value : ValueId} (about : task.value? = some value) :
    task ≠ .context := by
  rintro rfl
  cases about

/-- A task about one value is not about another one. -/
theorem value?_ne_of_ne {task : Task α} {value other : ValueId} (about : task.value? = some value)
    (different : other ≠ value) : task.value? ≠ some other := by
  rw [about]
  exact fun same => different (Option.some.inj same).symm

/-- What has the lock of one value is no operation on another one. -/
theorem filter_concerns_cons {task : Task α} {value other : ValueId}
    (about : task.value? = some value) (different : other ≠ value) (rest : List (Task α)) :
    (task :: rest).filter (concerns other) = rest.filter (concerns other) :=
  List.filter_cons_of_neg fun concerned =>
    value?_ne_of_ne about different (value?_of_concerns concerned)

end Task

namespace Weave

variable (weave : Weave α)

/-- How many tasks and sections of a thread have the lock of a value. -/
def holds (thread : ThreadId) (value : ValueId) : Nat :=
  (weave.tasks thread).countP (fun task => task.value? = some value) +
    (weave.sections thread).count value

/-- The operations on a value that a thread is in the middle of. -/
def pending (value : ValueId) (thread : ThreadId) : List (Task α) :=
  (weave.tasks thread).filter (Task.concerns value)

/-- Tasks and sections of a thread that does something have the lock of a value as often as
counted. -/
theorem holds_become (world : World α) (thread : ThreadId) (tasks : List (Task α))
    (value : ValueId) :
    (weave.become world thread tasks).holds thread value =
      tasks.countP (fun task => task.value? = some value) +
        (weave.sections thread).count value := by
  rw [holds, tasks_become, if_pos rfl]
  rfl

/-- Only the thread that does something has other operations pending. -/
theorem pending_become (world : World α) (thread other : ThreadId) (tasks : List (Task α))
    (value : ValueId) :
    (weave.become world thread tasks).pending value other =
      if other = thread then tasks.filter (Task.concerns value)
      else weave.pending value other := by
  rw [pending, tasks_become]
  split
  · rfl
  · rfl

/-- Opening a section leaves the tasks that are left. -/
theorem pending_opened (world : World α) (thread other : ThreadId) (target value : ValueId)
    (rest : List (Task α)) :
    (weave.opened world thread target rest).pending value other =
      (weave.become world thread rest).pending value other := rfl

variable {weave}

/-- A thread that is halfway through an operation on a value has its lock. -/
theorem holds_pos_of_pending {thread : ThreadId} {value : ValueId} {task : Task α}
    (member : task ∈ weave.pending value thread) : 0 < weave.holds thread value := by
  obtain ⟨inside, about⟩ := List.mem_filter.1 member
  have counted : 0 < (weave.tasks thread).countP fun task => task.value? = some value :=
    List.countP_pos_iff.2 ⟨task, inside, decide_eq_true (Task.value?_of_concerns about)⟩
  exact Nat.lt_of_lt_of_le counted (Nat.le_add_right _ _)

end Weave

/-- How the tasks of a weave agree with its world. -/
structure Orderly (start : World α) (weave : Weave α) : Prop where
  /-- Threads keep their names. -/
  names : ∀ thread, (weave.world.thread thread).name = (start.thread thread).name
  /-- A thread that works on its context does nothing else. -/
  contexts : ∀ thread, (weave.world.thread thread).contextInUse = true →
    ∃ rest, weave.tasks thread = .context :: rest
  /-- Locks are taken as often as tasks and sections have them. -/
  depth : ∀ value lock borrowed, weave.world.guard? value = some (lock, borrowed) →
    ∀ thread, lock.depth thread = weave.holds thread value
  /-- Only in the middle of a running closure a thread turns to something else. -/
  below : ∀ thread, ∀ task ∈ (weave.tasks thread).tail, task.isRunning = true

namespace Orderly

variable {start : World α} {weave next : Weave α}

/-- Below what a thread is in the middle of, all closures are running. -/
theorem isRunning_below (orderly : Orderly start weave) {thread : ThreadId} {task : Task α}
    {rest : List (Task α)} (tasks : weave.tasks thread = task :: rest) :
    ∀ task ∈ rest, task.isRunning = true := by
  have below := orderly.below thread
  rw [tasks] at below
  exact below

/-- A free thread is in the middle of running closures only. -/
theorem isRunning_of_isFree (orderly : Orderly start weave) {thread : ThreadId}
    (free : weave.isFree thread = true) : ∀ task ∈ weave.tasks thread, task.isRunning = true := by
  unfold Weave.isFree at free
  cases tasks : weave.tasks thread with
  | nil => exact nofun
  | cons first rest =>
    rw [tasks] at free
    exact List.forall_mem_cons.2 ⟨free, orderly.isRunning_below tasks⟩

/-- A thread that is not about to end the work on its context does not work on it. -/
theorem idle_of_tasks (orderly : Orderly start weave) {thread : ThreadId} {task : Task α}
    {rest : List (Task α)} (tasks : weave.tasks thread = task :: rest) (other : task ≠ .context) :
    (weave.world.thread thread).contextInUse = false := by
  refine Bool.eq_false_iff.2 fun busy => ?_
  obtain ⟨_, same⟩ := orderly.contexts thread busy
  rw [tasks] at same
  exact other (List.cons.inj same).1

/-- A thread that may turn to something new does not work on its context. -/
theorem idle_of_isFree (orderly : Orderly start weave) {thread : ThreadId}
    (free : weave.isFree thread = true) : (weave.world.thread thread).contextInUse = false := by
  refine Bool.eq_false_iff.2 fun busy => ?_
  obtain ⟨rest, tasks⟩ := orderly.contexts thread busy
  have running := orderly.isRunning_of_isFree free .context
    (by rw [tasks]; exact List.mem_cons_self)
  cases running

/-- Good order is kept when one thread works on one value, if the lock and the thread's tasks keep
up with each other. -/
theorem altered (orderly : Orderly start weave) {thread : ThreadId} {value : ValueId}
    {change : View α → View α} {turn : Lock × Bool → Lock × Bool}
    (alters : Alters value change turn weave.world next.world)
    (others : ∀ other, other ≠ thread →
      next.tasks other = weave.tasks other ∧ next.sections other = weave.sections other)
    (idle : (weave.world.thread thread).contextInUse = false)
    (below : ∀ task ∈ (next.tasks thread).tail, task.isRunning = true)
    (elsewhere : ∀ other, other ≠ value → next.holds thread other = weave.holds thread other)
    (here : ∀ guard, weave.world.guard? value = some guard →
      (turn guard).1.depth thread + weave.holds thread value =
          guard.1.depth thread + next.holds thread value ∧
        ∀ other, other ≠ thread → (turn guard).1.depth other = guard.1.depth other) :
    Orderly start next where
  names := fun other => (alters.names other).trans (orderly.names other)
  contexts := fun other busy => by
    rw [alters.contexts] at busy
    by_cases same : other = thread
    · rw [same, idle] at busy
      cases busy
    · rw [(others other same).1]
      exact orderly.contexts other busy
  depth := fun other lock borrowed guarded actor => by
    have foreign : actor ≠ thread → next.holds actor other = weave.holds actor other := by
      intro different
      rw [Weave.holds, (others actor different).1, (others actor different).2, ← Weave.holds]
    rw [alters.guard] at guarded
    split at guarded
    · rename_i about
      subst about
      obtain ⟨⟨lock', borrowed'⟩, before, after⟩ := Option.map_eq_some_iff.1 guarded
      have kept := orderly.depth other lock' borrowed' before
      obtain ⟨mine, rest⟩ := here _ before
      rw [after] at mine rest
      by_cases same : actor = thread
      · subst same
        have equal := kept actor
        simp only at mine
        omega
      · rw [foreign same, ← kept actor]
        exact rest actor same
    · rename_i away
      have kept := orderly.depth other lock borrowed guarded
      by_cases same : actor = thread
      · rw [same, elsewhere other away]
        exact kept thread
      · rw [foreign same]
        exact kept actor
  below := fun other => by
    by_cases same : other = thread
    · rw [same]
      exact below
    · rw [(others other same).1]
      exact orderly.below other

variable {world : World α} {thread : ThreadId} {value : ValueId} {task later : Task α}
  {rest : List (Task α)} {change : View α → View α} {turn : Lock × Bool → Lock × Bool}

/-- A free thread takes a lock. -/
theorem pushed (orderly : Orderly start weave) (free : weave.isFree thread = true)
    (alters : Alters value change turn weave.world world) (about : task.value? = some value)
    (taken : ∀ guard, weave.world.guard? value = some guard →
      guard.1.acquire? thread = some (turn guard).1) :
    Orderly start (weave.become world thread (task :: weave.tasks thread)) := by
  refine orderly.altered alters (fun other different => ⟨if_neg different, rfl⟩)
    (orderly.idle_of_isFree free) ?_ (fun other different => ?_) fun guard guarded => ?_
  · rw [Weave.tasks_become, if_pos rfl]
    exact orderly.isRunning_of_isFree free
  · have foreign := Task.value?_ne_of_ne about different
    rw [Weave.holds_become, List.countP_cons_of_neg (by simp [foreign]), ← Weave.holds]
  · have depth := Lock.depth_acquire? (taken guard guarded)
    rw [Weave.holds_become, List.countP_cons_of_pos (by simp [about]), Weave.holds]
    refine ⟨?_, fun other different => ?_⟩
    · rw [depth, if_pos rfl]
      omega
    · rw [depth, if_neg different]
      omega

/-- A thread that is through with a task gives the lock up. -/
theorem popped (orderly : Orderly start weave) (tasks : weave.tasks thread = task :: rest)
    (alters : Alters value change turn weave.world world) (about : task.value? = some value)
    (released : ∀ guard, (turn guard).1 = guard.1.release) :
    Orderly start (weave.become world thread rest) := by
  refine orderly.altered alters (fun other different => ⟨if_neg different, rfl⟩)
    (orderly.idle_of_tasks tasks (Task.ne_context_of_value? about)) ?_
    (fun other different => ?_) fun guard guarded => ?_
  · rw [Weave.tasks_become, if_pos rfl]
    exact fun task member => orderly.isRunning_below tasks task (List.mem_of_mem_tail member)
  · have foreign := Task.value?_ne_of_ne about different
    rw [Weave.holds_become, Weave.holds, tasks, List.countP_cons_of_neg (by simp [foreign])]
  · have held : weave.holds thread value =
        rest.countP (fun task => task.value? = some value) + 1 +
          (weave.sections thread).count value := by
      rw [Weave.holds, tasks, List.countP_cons_of_pos (by simp [about])]
    have has : 0 < guard.1.depth thread := by
      rw [orderly.depth value guard.1 guard.2 guarded, held]
      omega
    have depth := Lock.depth_release has
    rw [released, held, Weave.holds_become]
    refine ⟨?_, fun other different => ?_⟩
    · have mine := depth thread
      rw [if_pos rfl] at mine
      omega
    · have foreign := depth other
      rw [if_neg different] at foreign
      omega

/-- A thread goes on with a task under the same lock. -/
theorem replaced (orderly : Orderly start weave) (tasks : weave.tasks thread = task :: rest)
    (alters : Alters value change turn weave.world world) (about : task.value? = some value)
    (same : later.value? = some value) (kept : ∀ guard, (turn guard).1 = guard.1) :
    Orderly start (weave.become world thread (later :: rest)) := by
  have alike : ∀ other, (weave.become world thread (later :: rest)).holds thread other =
      weave.holds thread other := by
    intro other
    rw [Weave.holds_become, Weave.holds, tasks, List.countP_cons, List.countP_cons, about, same]
  refine orderly.altered alters (fun other different => ⟨if_neg different, rfl⟩)
    (orderly.idle_of_tasks tasks (Task.ne_context_of_value? about)) ?_
    (fun other _ => alike other) fun guard _ => ?_
  · rw [Weave.tasks_become, if_pos rfl]
    exact orderly.isRunning_below tasks
  · rw [kept, alike]
    exact ⟨rfl, fun _ _ => rfl⟩

/-- A thread that has entered a section keeps its lock. -/
theorem opened (orderly : Orderly start weave) (tasks : weave.tasks thread = task :: rest)
    (alters : Alters value change turn weave.world world) (about : task.value? = some value)
    (kept : ∀ guard, (turn guard).1 = guard.1) :
    Orderly start (weave.opened world thread value rest) := by
  have alike : ∀ other, (weave.opened world thread value rest).holds thread other =
      weave.holds thread other := by
    intro other
    have now : (weave.opened world thread value rest).holds thread other =
        rest.countP (fun task => task.value? = some other) +
          (value :: weave.sections thread).count other := by
      simp only [Weave.holds, Weave.opened, Weave.become, if_true]
    rw [now, Weave.holds, tasks, List.countP_cons, List.count_cons, about]
    simp only [Option.some.injEq, decide_eq_true_eq, beq_iff_eq]
    omega
  refine orderly.altered alters
    (fun other different => ⟨if_neg different, if_neg different⟩)
    (orderly.idle_of_tasks tasks (Task.ne_context_of_value? about)) ?_
    (fun other _ => alike other) fun guard _ => ?_
  · have now : (weave.opened world thread value rest).tasks thread = rest := if_pos rfl
    rw [now]
    exact fun task member => orderly.isRunning_below tasks task (List.mem_of_mem_tail member)
  · rw [kept, alike]
    exact ⟨rfl, fun _ _ => rfl⟩

/-- A thread that leaves a section gives the lock up. -/
theorem closed (orderly : Orderly start weave) (free : weave.isFree thread = true)
    (inside : value ∈ weave.sections thread)
    (alters : Alters value change turn weave.world world)
    (released : ∀ guard, (turn guard).1 = guard.1.release) :
    Orderly start (weave.closed world thread value) := by
  have held : ∀ other, (weave.closed world thread value).holds thread other =
      (weave.tasks thread).countP (fun task => task.value? = some other) +
        ((weave.sections thread).erase value).count other := by
    intro other
    simp only [Weave.holds, Weave.closed, if_true]
  have counted : 0 < (weave.sections thread).count value := List.count_pos_iff.2 inside
  refine orderly.altered alters (fun other different => ⟨rfl, if_neg different⟩)
    (orderly.idle_of_isFree free) (orderly.below thread) (fun other different => ?_)
    fun guard guarded => ?_
  · rw [held, Weave.holds, List.count_erase_of_ne different]
  · have has : 0 < guard.1.depth thread := by
      rw [orderly.depth value guard.1 guard.2 guarded, Weave.holds]
      omega
    have depth := Lock.depth_release has
    rw [released, held, Weave.holds, List.count_erase_self]
    refine ⟨?_, fun other different => ?_⟩
    · have mine := depth thread
      rw [if_pos rfl] at mine
      omega
    · have foreign := depth other
      rw [if_neg different] at foreign
      omega

/-- A thread begins or ends work on its context. -/
theorem unaltered {tasks : List (Task α)} (orderly : Orderly start weave)
    (unaltered : Unaltered thread weave.world world)
    (context : (world.thread thread).contextInUse = true → ∃ rest, tasks = .context :: rest)
    (below : ∀ task ∈ tasks.tail, task.isRunning = true)
    (held : ∀ value, tasks.countP (fun task => task.value? = some value) =
      (weave.tasks thread).countP fun task => task.value? = some value) :
    Orderly start (weave.become world thread tasks) where
  names := fun other => (unaltered.names other).trans (orderly.names other)
  contexts := fun other busy => by
    rw [Weave.tasks_become]
    split
    · rename_i same
      rw [same] at busy
      exact context busy
    · rename_i different
      rw [Weave.world_become, unaltered.contexts other different] at busy
      exact orderly.contexts other busy
  depth := fun value lock borrowed guarded other => by
    rw [Weave.world_become, unaltered.guard] at guarded
    rw [orderly.depth value lock borrowed guarded other]
    by_cases same : other = thread
    · rw [same, Weave.holds_become, held, Weave.holds]
    · rw [Weave.holds, Weave.holds, Weave.tasks_become, if_neg same]
      rfl
  below := fun other => by
    rw [Weave.tasks_become]
    split
    · exact below
    · exact orderly.below other

end Orderly

end RaceSentry
