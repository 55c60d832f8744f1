import RaceSentry.Proofs.Shift

/-!
# Who has which lock

A thread has to give the lock of a value up exactly as often as it is inside of closures and
sections on the value, whatever moves led to the scene; a closure has the content exactly while some
thread is inside of one, and never two at a time.
Main statement: `guarded_of_run`.
-/

namespace RaceSentry

open World

variable {α : Type}

namespace World

variable (world : World α)

/-- How often a thread has to give the lock of a value up until it does not have it any more. -/
def depth (thread : ThreadId) (value : ValueId) : Nat :=
  ((world.guard? value).map fun guard => guard.1.depth thread).getD 0

/-- Whether a closure has the content of a value. -/
def lends (value : ValueId) : Bool := ((world.guard? value).map Prod.snd).getD false

end World

/-- How many closures and sections of a thread need the lock of a value. -/
def Scene.holds (scene : Scene α) (thread : ThreadId) (value : ValueId) : Nat :=
  scene.closures thread value + scene.sections thread value

/-- Only one thread at a time has a lock. -/
theorem Lock.eq_of_depth {lock : Lock} {thread other : ThreadId} (has : 0 < lock.depth thread)
    (has' : 0 < lock.depth other) : other = thread := by
  cases lock with
  | free => exact absurd has (Nat.lt_irrefl 0)
  | held owner again =>
    have mine : ∀ actor, 0 < (Lock.held owner again).depth actor → owner = actor := by
      intro actor has
      refine Decidable.byContradiction fun different => ?_
      rw [depth, if_neg different] at has
      exact Nat.lt_irrefl 0 has
    exact (mine other has').symm.trans (mine thread has)

/-- A lock that is given up a number of times is had so many times less. -/
theorem Lock.depth_repeat_release {count : Nat} {lock : Lock} {thread : ThreadId}
    (has : count ≤ lock.depth thread) (other : ThreadId) :
    lock.depth other = (Nat.repeat Lock.release count lock).depth other +
      if other = thread then count else 0 := by
  induction count generalizing other with
  | zero => simp only [Nat.repeat, ite_self, Nat.add_zero]
  | succ count ih =>
    have before : ∀ actor, lock.depth actor =
        (Nat.repeat Lock.release count lock).depth actor + if actor = thread then count else 0 :=
      ih (Nat.le_of_succ_le has)
    have mine := before thread
    rw [if_pos rfl] at mine
    have left : 0 < (Nat.repeat Lock.release count lock).depth thread := by omega
    have released := depth_release left other
    rw [before other, released, Nat.repeat]
    split
    · omega
    · rfl

/-- A lock that no thread has is free. -/
theorem Lock.eq_free_of_depth {lock : Lock} (unheld : ∀ thread, lock.depth thread = 0) :
    lock = .free := by
  cases lock with
  | free => rfl
  | held owner again =>
    have has := unheld owner
    simp only [depth, ↓reduceIte] at has
    omega

namespace World

variable {world next : World α}

/-- The guard of a value tells how often a thread has its lock. -/
theorem depth_of_guard? {value : ValueId} {guard : Lock × Bool}
    (guarded : world.guard? value = some guard) (thread : ThreadId) :
    world.depth thread value = guard.1.depth thread := by
  rw [depth, guarded, Option.map_some, Option.getD_some]

/-- The guard of a value tells whether a closure has its content. -/
theorem lends_of_guard? {value : ValueId} {guard : Lock × Bool}
    (guarded : world.guard? value = some guard) : world.lends value = guard.2 := by
  rw [lends, guarded, Option.map_some, Option.getD_some]

/-- A value of which a thread has the lock has a guard. -/
theorem exists_guard?_of_depth {thread : ThreadId} {value : ValueId}
    (has : 0 < world.depth thread value) : ∃ guard, world.guard? value = some guard := by
  cases guarded : world.guard? value with
  | none =>
    rw [depth, guarded] at has
    exact absurd has (Nat.lt_irrefl 0)
  | some guard => exact ⟨guard, rfl⟩

/-- A value of which a thread has the lock exists. -/
theorem exists_get?_of_depth {thread : ThreadId} {value : ValueId}
    (has : 0 < world.depth thread value) : ∃ cell, world.cells.get? value = some cell := by
  obtain ⟨guard, guarded⟩ := exists_guard?_of_depth has
  obtain ⟨cell, found, _⟩ := Option.map_eq_some_iff.1 guarded
  exact ⟨cell, found⟩

/-- A value that somebody has the lock of was made. -/
theorem index_lt_of_depth (numbered : Numbered world) {thread : ThreadId}
    {value : ValueId} (has : 0 < world.depth thread value) : value.index < world.made := by
  obtain ⟨cell, stored⟩ := exists_get?_of_depth has
  exact numbered.cells value ((SortedMap.contains_iff _ _).2 ⟨cell, stored⟩)

/-- Only one thread at a time has the lock of a value. -/
theorem eq_of_depth {thread other : ThreadId} {value : ValueId}
    (has : 0 < world.depth thread value) (has' : 0 < world.depth other value) :
    other = thread := by
  obtain ⟨guard, guarded⟩ := exists_guard?_of_depth has
  rw [depth_of_guard? guarded] at has has'
  exact Lock.eq_of_depth has has'

end World

/-- How the guards of a scene agree with what threads are inside of. -/
structure Scene.Guarded (scene : Scene α) : Prop where
  /-- A thread has a lock as often as it is inside of closures and sections that need it. -/
  depth : ∀ thread value, scene.world.depth thread value = scene.holds thread value
  /-- A closure has a content exactly while a thread is inside of one. -/
  lends : ∀ value, scene.world.lends value = true ↔ ∃ thread, 0 < scene.closures thread value
  /-- No thread is inside of two closures on one value. -/
  single : ∀ thread value, scene.closures thread value ≤ 1

namespace Scene.Guarded

variable {scene next : Scene α} {move : Move α} {happenings : List Happening}

/-- A closure needs the lock. -/
theorem depth_of_closures (guarded : scene.Guarded) {thread : ThreadId} {value : ValueId}
    (inside : 0 < scene.closures thread value) : 0 < scene.world.depth thread value := by
  rw [guarded.depth, Scene.holds]
  exact Nat.lt_of_lt_of_le inside (Nat.le_add_right _ _)

/-- An open section needs the lock. -/
theorem depth_of_sections (guarded : scene.Guarded) {thread : ThreadId} {value : ValueId}
    (inside : 0 < scene.sections thread value) : 0 < scene.world.depth thread value := by
  rw [guarded.depth, Scene.holds]
  exact Nat.lt_of_lt_of_le inside (Nat.le_add_left _ _)

/-- A value that no thread has the lock of is free, and so is the content. -/
theorem free (guarded : scene.Guarded) {value : ValueId} {guard : Lock × Bool}
    (found : scene.world.guard? value = some guard)
    (unheld : ∀ thread, scene.world.depth thread value = 0) :
    scene.world.guard? value = some (.free, false) := by
  have lock : guard.1 = .free := Lock.eq_free_of_depth fun thread =>
    (depth_of_guard? found thread).symm.trans (unheld thread)
  have lent : guard.2 = false := by
    refine Bool.eq_false_iff.2 fun lent => ?_
    rw [← lends_of_guard? found] at lent
    obtain ⟨thread, inside⟩ := (guarded.lends value).1 lent
    exact Nat.lt_irrefl 0 (unheld thread ▸ guarded.depth_of_closures inside)
  rw [found, ← lock, ← lent]

/-- Guards that stay agree with what stays. -/
theorem of_same (guarded : scene.Guarded)
    (depth : ∀ thread value, next.world.depth thread value = scene.world.depth thread value)
    (lends : ∀ value, next.world.lends value = scene.world.lends value)
    (closures : next.closures = scene.closures) (sections : next.sections = scene.sections) :
    next.Guarded where
  depth := fun thread value => by
    rw [depth, guarded.depth, Scene.holds, Scene.holds, closures, sections]
  lends := fun value => by
    rw [lends, closures]
    exact guarded.lends value
  single := fun thread value => by
    rw [closures]
    exact guarded.single thread value

/-- The guard of one value turns together with what threads are inside of on this value. -/
theorem of_turns (guarded : scene.Guarded) {value : ValueId} {guard : Lock × Bool}
    {turn : Lock × Bool → Lock × Bool} (found : scene.world.guard? value = some guard)
    (guards : Turns value turn scene.world next.world)
    (closures : ∀ thread other, other ≠ value →
      next.closures thread other = scene.closures thread other)
    (sections : ∀ thread other, other ≠ value →
      next.sections thread other = scene.sections thread other)
    (depth : ∀ thread, (turn guard).1.depth thread + scene.holds thread value =
      guard.1.depth thread + next.holds thread value)
    (lends : (turn guard).2 = true ↔ ∃ thread, 0 < next.closures thread value)
    (single : ∀ thread, next.closures thread value ≤ 1) : next.Guarded := by
  have turned : next.world.guard? value = some (turn guard) := by
    rw [guards, if_pos rfl, found, Option.map_some]
  have same : ∀ other, other ≠ value → next.world.guard? other = scene.world.guard? other :=
    fun other different => (guards other).trans (if_neg different)
  refine ⟨fun thread other => ?_, fun other => ?_, fun thread other => ?_⟩
  · by_cases here : other = value
    · subst here
      have before := guarded.depth thread other
      have after := depth thread
      rw [depth_of_guard? found] at before
      rw [depth_of_guard? turned]
      omega
    · rw [World.depth, same other here, ← World.depth, guarded.depth, Scene.holds, Scene.holds,
        closures thread other here, sections thread other here]
  · by_cases here : other = value
    · subst here
      rw [lends_of_guard? turned]
      exact lends
    · rw [World.lends, same other here, ← World.lends, guarded.lends]
      simp only [closures _ other here]
  · by_cases here : other = value
    · subst here
      exact single thread
    · rw [closures thread other here]
      exact guarded.single thread other

/-- Guards agree after a closure began: one lock more is taken, and the content is lent. -/
theorem began (guarded : scene.Guarded) {thread : ThreadId} {value : ValueId} {lock taken : Lock}
    (free : scene.world.guard? value = some (lock, false)) (got : lock.acquire? thread = some taken)
    (guards : Turns value (fun _ => (taken, true)) scene.world next.world)
    (closures : Adds thread value scene.closures next.closures)
    (sections : next.sections = scene.sections) : next.Guarded := by
  have outside : ∀ other, scene.closures other value = 0 := by
    intro other
    refine Nat.eq_zero_of_not_pos fun inside => ?_
    have lent := (guarded.lends value).2 ⟨other, inside⟩
    rw [lends_of_guard? free] at lent
    exact Bool.false_ne_true lent
  refine guarded.of_turns free guards closures.of_ne (fun _ _ _ => by rw [sections])
    (fun other => ?_) (iff_of_true rfl ⟨thread, ?_⟩) fun other => ?_
  · have added := closures other value
    have depth := Lock.depth_acquire? got other
    rw [outside] at added
    simp only [Scene.holds, sections, added, outside, and_true] at depth ⊢
    omega
  · rw [closures, if_pos ⟨rfl, rfl⟩]
    exact Nat.succ_pos _
  · rw [closures, outside]
    split
    · exact Nat.le_refl 1
    · exact Nat.zero_le 1

/-- Guards agree after a closure ended: one lock is given back, with the content. -/
theorem finished (guarded : scene.Guarded) {thread : ThreadId} {value : ValueId}
    (guards : Turns value (fun guard => (guard.1.release, false)) scene.world next.world)
    (closures : Adds thread value next.closures scene.closures)
    (sections : next.sections = scene.sections) : next.Guarded := by
  have inside : 0 < scene.closures thread value := by
    rw [closures, if_pos ⟨rfl, rfl⟩]
    exact Nat.succ_pos _
  have has := guarded.depth_of_closures inside
  obtain ⟨guard, found⟩ := exists_guard?_of_depth has
  have outside : ∀ other, next.closures other value = 0 := by
    intro other
    have single := guarded.single other value
    have removed := closures other value
    by_cases here : other = thread
    · rw [if_pos ⟨here, rfl⟩] at removed
      omega
    · refine Nat.eq_zero_of_not_pos fun within => here ?_
      rw [if_neg fun both => here both.1, Nat.add_zero] at removed
      exact eq_of_depth has (guarded.depth_of_closures (removed ▸ within))
  refine guarded.of_turns found guards (fun other target different =>
      (closures.of_ne other target different).symm) (fun _ _ _ => by rw [sections])
    (fun other => ?_) (iff_of_false Bool.false_ne_true fun ⟨other, within⟩ => ?_)
    fun other => ?_
  · have removed := closures other value
    rw [depth_of_guard? found] at has
    have depth := Lock.depth_release has other
    simp only [Scene.holds, sections, removed, outside, and_true] at depth ⊢
    omega
  · rw [outside] at within
    exact Nat.lt_irrefl 0 within
  · rw [outside]
    exact Nat.zero_le 1

/-- Guards agree after a section was opened: one lock more is taken, and the content stays where it
is. -/
theorem opened (guarded : scene.Guarded) {thread : ThreadId} {value : ValueId} {lock taken : Lock}
    (free : scene.world.guard? value = some (lock, false)) (got : lock.acquire? thread = some taken)
    (guards : Turns value (fun guard => (taken, guard.2)) scene.world next.world)
    (closures : next.closures = scene.closures)
    (sections : Adds thread value scene.sections next.sections) : next.Guarded := by
  refine guarded.of_turns free guards (fun _ _ _ => by rw [closures]) sections.of_ne
    (fun other => ?_) ?_ fun other => ?_
  · have added := sections other value
    have depth := Lock.depth_acquire? got other
    simp only [Scene.holds, closures, added, and_true] at depth ⊢
    omega
  · rw [closures, ← guarded.lends, lends_of_guard? free]
  · rw [closures]
    exact guarded.single other value

/-- Guards agree after a section was closed: one lock is given back. -/
theorem closed (guarded : scene.Guarded) {thread : ThreadId} {value : ValueId}
    (guards : Turns value (fun guard => (guard.1.release, guard.2)) scene.world next.world)
    (closures : next.closures = scene.closures)
    (sections : Adds thread value next.sections scene.sections) : next.Guarded := by
  have inside : 0 < scene.sections thread value := by
    rw [sections, if_pos ⟨rfl, rfl⟩]
    exact Nat.succ_pos _
  have has := guarded.depth_of_sections inside
  obtain ⟨guard, found⟩ := exists_guard?_of_depth has
  refine guarded.of_turns found guards (fun _ _ _ => by rw [closures])
    (fun other target different => (sections.of_ne other target different).symm)
    (fun other => ?_) ?_ fun other => ?_
  · have removed := sections other value
    rw [depth_of_guard? found] at has
    have depth := Lock.depth_release has other
    simp only [Scene.holds, closures, removed, and_true] at depth ⊢
    omega
  · rw [closures, ← guarded.lends, lends_of_guard? found]
  · rw [closures]
    exact guarded.single other value

/-- Guards agree after a thread ended that was inside of no closure: the locks of all its sections
are given back. -/
theorem ended (guarded : scene.Guarded) {thread : ThreadId}
    (guards : ∀ value, next.world.guard? value = (scene.world.guard? value).map fun guard =>
      (Nat.repeat Lock.release (scene.sections thread value) guard.1, guard.2))
    (outside : ∀ value, scene.closures thread value = 0)
    (closures : next.closures = scene.closures)
    (sections : ∀ other value, next.sections other value =
      if other = thread then 0 else scene.sections other value) : next.Guarded := by
  refine ⟨fun other value => ?_, fun value => ?_, fun other value => ?_⟩
  · have before := guarded.depth other value
    have mine := guarded.depth thread value
    cases found : scene.world.guard? value with
    | none =>
      rw [World.depth, found] at before
      rw [World.depth, guards, found]
      simp only [Option.map_none, Option.getD_none, Scene.holds, closures, sections] at before ⊢
      split
      · omega
      · omega
    | some guard =>
      rw [depth_of_guard? found, Scene.holds] at before mine
      rw [outside, Nat.zero_add] at mine
      have depth := Lock.depth_repeat_release (Nat.le_of_eq mine.symm) other
      rw [World.depth, guards, found, Scene.holds, closures, sections]
      simp only [Option.map_some, Option.getD_some]
      by_cases here : other = thread
      · subst here
        rw [if_pos rfl] at depth ⊢
        rw [outside]
        omega
      · rw [if_neg here] at depth ⊢
        omega
  · rw [closures, ← guarded.lends, World.lends, guards, Option.map_map, World.lends]
    rfl
  · rw [closures]
    exact guarded.single other value

/-- Every move keeps guards in agreement. -/
theorem shift (guarded : scene.Guarded) (shift : scene.Shift move happenings next) :
    next.Guarded := by
  cases shift with
  | still guards closures sections =>
    refine guarded.of_same (fun thread value => ?_) (fun value => ?_) closures sections
    · rw [World.depth, guards, World.depth]
    · rw [World.lends, guards, World.lends]
  | began thread value kind lock taken free got guards closures sections =>
    exact guarded.began free got guards closures sections
  | finished thread value change guards closures sections =>
    exact guarded.finished guards closures sections
  | opened thread value clock lock taken asks free got guards closures sections =>
    exact guarded.opened free got guards closures sections
  | closed thread value ends guards closures sections =>
    exact guarded.closed guards closures sections
  | ended thread step ends guards outside closures sections =>
    exact guarded.ended guards outside closures sections
  | made value new guards closures sections =>
    refine guarded.of_same (fun thread other => ?_) (fun other => ?_) closures sections
    · rw [World.depth, guards, World.depth]
      split
      · rename_i here
        rw [here, new]
        rfl
      · rfl
    · rw [World.lends, guards, World.lends]
      split
      · rename_i here
        rw [here, new]
        rfl
      · rfl
  | removed value borrowed free guards closures sections =>
    have unheld : ∀ thread, scene.world.depth thread value = 0 := fun thread =>
      depth_of_guard? free thread
    have unlent : scene.world.lends value = false :=
      lends_of_guard? (guarded.free free unheld)
    refine guarded.of_same (fun thread other => ?_) (fun other => ?_) closures sections
    · by_cases here : other = value
      · rw [here, unheld, World.depth, guards, if_pos rfl]
        rfl
      · rw [World.depth, guards, if_neg here, World.depth]
    · by_cases here : other = value
      · rw [here, unlent, World.lends, guards, if_pos rfl]
        rfl
      · rw [World.lends, guards, if_neg here, World.lends]

end Scene.Guarded

/-- Guards agree with what threads are inside of after every path that starts so. -/
theorem Path.guarded {start scene : Scene α} {past : History} (path : Path start past scene)
    (numbered : Numbered start.world) (guarded : start.Guarded) : scene.Guarded := by
  induction path with
  | refl => exact guarded
  | tail path performed ih =>
    exact ih.shift (Scene.shift_of_perform? (path.numbered numbered) performed)

/-- Guards agree with what threads are inside of after every run. -/
theorem guarded_of_run {scene : Scene α} {past : History} (run : Run past scene) :
    scene.Guarded := by
  refine Path.guarded run numbered_empty ⟨fun _ _ => rfl, fun _ => ?_, fun _ _ => Nat.zero_le 1⟩
  exact iff_of_false Bool.false_ne_true fun ⟨_, inside⟩ => Nat.lt_irrefl 0 inside

end RaceSentry
