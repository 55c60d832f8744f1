import RaceSentry.Proofs.Course
import RaceSentry.Proofs.Order

/-!
# All that a move can do to locks

Most moves leave locks, and what threads are inside of, as they are. The others let one thread into
a closure or a section on one value, or out of it, and take or give up the lock of this value; or
they end a thread with all its sections, or make or take away a value that nobody has the lock of.
Main statement: `shift_of_perform?`.
-/

namespace RaceSentry

open World

variable {α β : Type}

namespace Frame

/-- Whether a frame is a closure on a value. -/
def isClosureOn (value : ValueId) : Frame → Bool
  | .closure other _ => value = other
  | _ => false

/-- Whether a frame is the block of a section on a value. -/
def isBlockOn (value : ValueId) : Frame → Bool
  | .block other => value = other
  | _ => false

end Frame

namespace World

variable (world : World α)

/-- The guard of one value turns, and those of all others stay. -/
def Turns (value : ValueId) (turn : Lock × Bool → Lock × Bool) (world next : World α) : Prop :=
  ∀ other, next.guard? other =
    if other = value then (world.guard? value).map turn else world.guard? other

end World

namespace Scene

variable (scene : Scene α)

/-- How many closures on a value a thread is inside of. -/
def closures (thread : ThreadId) (value : ValueId) : Nat :=
  (scene.frames thread).countP (Frame.isClosureOn value)

/-- How many sections a thread has open on a value, those that outlast its moves included. -/
def sections (thread : ThreadId) (value : ValueId) : Nat :=
  (scene.frames thread).countP (Frame.isBlockOn value) +
    (scene.world.thread thread).sections.count value

end Scene

/-- One more is counted for one thread and one value. -/
def Adds (thread : ThreadId) (value : ValueId) (fewer more : ThreadId → ValueId → Nat) : Prop :=
  ∀ other target, more other target =
    fewer other target + if other = thread ∧ target = value then 1 else 0

/-- What is counted for one value does not change the count of another one. -/
theorem Adds.of_ne {thread : ThreadId} {value : ValueId}
    {fewer more : ThreadId → ValueId → Nat} (adds : Adds thread value fewer more)
    (other : ThreadId) (target : ValueId) (different : target ≠ value) :
    more other target = fewer other target := by
  rw [adds, if_neg fun both => different both.2, Nat.add_zero]

/-- All that a move can do to locks, and to what threads are inside of. -/
inductive Scene.Shift (scene : Scene α) : Move α → List Happening → Scene α → Prop where
  /-- Nothing. -/
  | still {move : Move α} {happenings : List Happening} {next : Scene α}
      (guards : ∀ value, next.world.guard? value = scene.world.guard? value)
      (closures : next.closures = scene.closures) (sections : next.sections = scene.sections) :
      Shift scene move happenings next
  /-- A closure begins. -/
  | began {happenings : List Happening} {next : Scene α} (thread : ThreadId) (value : ValueId)
      (kind : AccessKind) (lock taken : Lock) (free : scene.world.guard? value = some (lock, false))
      (got : lock.acquire? thread = some taken)
      (guards : Turns value (fun _ => (taken, true)) scene.world next.world)
      (closures : Adds thread value scene.closures next.closures)
      (sections : next.sections = scene.sections) :
      Shift scene (.access thread value kind) happenings next
  /-- A closure ends. -/
  | finished {happenings : List Happening} {next : Scene α} (thread : ThreadId) (value : ValueId)
      (change : α → α)
      (guards : Turns value (fun guard => (guard.1.release, false)) scene.world next.world)
      (closures : Adds thread value next.closures scene.closures)
      (sections : next.sections = scene.sections) :
      Shift scene (.finish thread change) happenings next
  /-- A section is opened. -/
  | opened {move : Move α} {next : Scene α} (thread : ThreadId) (value : ValueId)
      (clock : ClockTable)
      (lock taken : Lock) (asks : move = .enter thread value ∨ move = .hold thread value)
      (free : scene.world.guard? value = some (lock, false))
      (got : lock.acquire? thread = some taken)
      (guards : Turns value (fun guard => (taken, guard.2)) scene.world next.world)
      (closures : next.closures = scene.closures)
      (sections : Adds thread value scene.sections next.sections) :
      Shift scene move [.entered thread value clock] next
  /-- A section is closed. -/
  | closed {move : Move α} {happenings : List Happening} {next : Scene α} (thread : ThreadId)
      (value : ValueId)
      (ends : move = .leave thread ∨ move = .drop thread value)
      (guards : Turns value (fun guard => (guard.1.release, guard.2)) scene.world next.world)
      (closures : next.closures = scene.closures)
      (sections : Adds thread value next.sections scene.sections) :
      Shift scene move happenings next
  /-- A thread that is inside of no closure ends, and all its sections are closed. -/
  | ended {happenings : List Happening} {next : Scene α} (thread : ThreadId) (step : Step α)
      (ends : step.ends? = some thread)
      (guards : ∀ value, next.world.guard? value = (scene.world.guard? value).map fun guard =>
        (Nat.repeat Lock.release (scene.sections thread value) guard.1, guard.2))
      (outside : ∀ value, scene.closures thread value = 0)
      (closures : next.closures = scene.closures)
      (sections : ∀ other value, next.sections other value =
        if other = thread then 0 else scene.sections other value) :
      Shift scene (.step step) happenings next
  /-- A value is made. -/
  | made {move : Move α} {happenings : List Happening} {next : Scene α} (value : ValueId)
      (new : scene.world.guard? value = none)
      (guards : ∀ other, next.world.guard? other =
        if other = value then some (.free, false) else scene.world.guard? other)
      (closures : next.closures = scene.closures) (sections : next.sections = scene.sections) :
      Shift scene move happenings next
  /-- A value that nobody has the lock of is taken away. -/
  | removed {move : Move α} {happenings : List Happening} {next : Scene α} (value : ValueId)
      (borrowed : Bool)
      (free : scene.world.guard? value = some (.free, borrowed))
      (guards : ∀ other, next.world.guard? other =
        if other = value then none else scene.world.guard? other)
      (closures : next.closures = scene.closures) (sections : next.sections = scene.sections) :
      Shift scene move happenings next

namespace World

variable {world next : World α}

/-- Worlds that look the same have the same guards. -/
theorem Parallel.guard? (parallel : Parallel world next) (value : ValueId) :
    next.guard? value = world.guard? value := by
  have same := congrArg (Option.map Prod.snd) (parallel.cells value)
  rw [Option.map_map, Option.map_map] at same
  exact same.symm

/-- Only an access that is begun is seen: its thread has the lock and the content. -/
theorem AsksAccess.seen {thread : ThreadId} {value : ValueId} {kind : AccessKind}
    {attempt : Attempt (Option Sighting)} (runs : world.threads.contains thread = true)
    (asked : world.AsksAccess thread value kind next attempt) :
    (∃ fault, attempt = .faulted fault ∧ Parallel world next) ∨
      ∃ sighting cell lock later, attempt = .begun sighting ∧
        world.cells.get? value = some cell ∧ cell.lock.acquire? thread = some lock ∧
        cell.borrowed = false ∧ Parallel world later ∧
        next = later.modifyCell value fun cell => cell.take lock := by
  cases asked with
  | reentered cell lock found taken borrowed =>
    exact .inl ⟨_, rfl, parallel_note world (.reentered value)⟩
  | stalled cell lock found taken free on busy =>
    have counted : Parallel world (world.setCell value (cell.count ⟨thread, kind⟩)) :=
      parallel_setCell world found rfl
    exact .inl ⟨_, rfl, counted.trans (parallel_note _ _)⟩
  | unwatched cell lock found taken free off =>
    exact .inr ⟨_, cell, lock, world, rfl, found, taken, free, .refl world, rfl⟩
  | clean cell lock found taken free on idle nothing =>
    exact .inr ⟨_, cell, lock, _, rfl, found, taken, free, parallel_tallyAccess world runs found,
      rfl⟩
  | flagged cell lock found taken free on idle something =>
    have tallied : Parallel world (world.tallyAccess value cell ⟨thread, kind⟩) :=
      parallel_tallyAccess world runs found
    have stored : (world.tallyAccess value cell ⟨thread, kind⟩).cells.get?
        (world.sightingOf value cell ⟨thread, kind⟩).value =
          some (cell.count ⟨thread, kind⟩) :=
      get?_tallyAccess world value cell _
    have flagged := tallied.trans (parallel_flag _ stored)
    exact .inr ⟨_, cell, lock, _, rfl, found, taken, free, flagged, rfl⟩

/-- Only a section that is entered is seen: its thread has the lock. -/
theorem AsksSection.seen {thread : ThreadId} {value : ValueId} {attempt : Attempt Nat}
    (runs : world.threads.contains thread = true)
    (asked : world.AsksSection thread value next attempt) :
    (∃ fault, attempt = .faulted fault ∧ Parallel world next) ∨
      ∃ entries cell lock later, attempt = .begun entries ∧
        world.cells.get? value = some cell ∧ cell.lock.acquire? thread = some lock ∧
        cell.borrowed = false ∧ Parallel world later ∧
        next = later.modifyCell value fun cell => { cell with lock := lock } := by
  cases asked with
  | reentered cell lock found taken borrowed => exact .inl ⟨_, rfl, .refl world⟩
  | stalled cell lock found taken free busy => exact .inl ⟨_, rfl, parallel_note world _⟩
  | entered cell lock found taken free idle =>
    have noted := parallel_note world (.entering value cell.label cell.clock.size)
    have ensured := parallel_ensureContext (world.note (.entering value cell.label
      cell.clock.size)) runs
    have adopted := parallel_bindContext
      ((world.note (.entering value cell.label cell.clock.size)).ensureContext thread).1
      ((ensured.running thread).symm.trans runs)
      (((world.note (.entering value cell.label cell.clock.size)).ensureContext thread).2.replace
        value cell.clock)
    exact .inr ⟨_, cell, lock, _, rfl, found, taken, free, (noted.trans ensured).trans adopted,
      rfl⟩

/-- A look at a value is not seen. -/
theorem parallel_inspect (world : World α) (thread : ThreadId) (value : ValueId)
    (look : Cell α → β) : Parallel world (world.inspect thread value look).1 := by
  unfold World.inspect
  split
  · exact .refl world
  · split
    · exact .refl world
    · split
      · exact parallel_note world _
      · exact .refl world

/-- What leaves values alone leaves their guards alone. -/
theorem guard?_of_same {value : ValueId} (cells : next.cells = world.cells) :
    next.guard? value = world.guard? value := by
  rw [World.guard?, cells, World.guard?]

/-- Taking a lock turns the guard of its value. -/
theorem turns_modifyCell {later : World α} (unseen : Parallel world later) {value : ValueId}
    {change : Cell α → Cell α} {turn : Lock × Bool → Lock × Bool}
    (turned : ∀ cell, turn (cell.lock, cell.borrowed) =
      ((change cell).lock, (change cell).borrowed)) :
    Turns value turn world (later.modifyCell value change) := by
  intro other
  rw [← unseen.guard? value, ← unseen.guard? other, World.guard?, World.modifyCell,
    SortedMap.get?_modify]
  split
  · rw [World.guard?, Option.map_map, Option.map_map]
    congr 1
    funext cell
    exact (turned cell).symm
  · rfl

/-- A lock that is released a number of times may be released first once and then for the rest. -/
theorem repeat_release (count : Nat) (lock : Lock) :
    Nat.repeat Lock.release (count + 1) lock = Nat.repeat Lock.release count lock.release := by
  induction count with
  | zero => rfl
  | succ count ih => exact congrArg Lock.release ih

/-- Leaving sections gives each lock up as often as its value is named. -/
theorem guard?_leaveSections (left : List ValueId) (value : ValueId) :
    (left.foldl World.leaveSection world).guard? value = (world.guard? value).map fun guard =>
      (Nat.repeat Lock.release (left.count value) guard.1, guard.2) := by
  induction left generalizing world with
  | nil => exact Option.map_id'.symm ▸ rfl
  | cons first rest ih =>
    rw [List.foldl_cons, ih, (alters_leaveSection world first).guard]
    by_cases here : value = first
    · subst here
      rw [if_pos rfl, Option.map_map, List.count_cons_self]
      simp only [Function.comp_def, repeat_release]
    · rw [if_neg here, List.count_cons_of_ne (Ne.symm here)]

/-- Sections that are left leave threads alone. -/
theorem threads_leaveSections (left : List ValueId) :
    (left.foldl World.leaveSection world).threads = world.threads := by
  induction left generalizing world with
  | nil => rfl
  | cons first rest ih =>
    rw [List.foldl_cons, ih]
    rfl

/-- Nothing is left of a thread that ends. -/
theorem get?_endThread (thread other : ThreadId) :
    (world.endThread thread).threads.get? other =
      if other = thread then none else world.threads.get? other := by
  unfold World.endThread
  dsimp only
  rw [threads_leaveSections, SortedMap.get?_erase]

/-- A thread that ends is as if it were new, and other threads are as they were. -/
theorem thread_endThread (thread other : ThreadId) : (world.endThread thread).thread other =
    if other = thread then .new none else world.thread other := by
  rw [World.thread, get?_endThread]
  split
  · rfl
  · rfl

/-- The sections of a thread that has a context bound to it are the same. -/
theorem sections_bindContext (thread other : ThreadId) (context : ThreadContext) :
    ((world.bindContext thread context).thread other).sections = (world.thread other).sections := by
  rw [thread_bindContext]
  split
  · rename_i here
    rw [here]
  · rfl

end World

namespace Scene

variable {scene next : Scene α} {thread : ThreadId} {frame : Frame} {rest : List Frame}

section Frames

variable (world : World α)

/-- A thread that goes into something is inside of one more of its kind. -/
theorem countP_into (kind : Frame → Bool) (other : ThreadId) :
    ((scene.into world thread frame).frames other).countP kind =
      (scene.frames other).countP kind +
        if other = thread ∧ kind frame = true then 1 else 0 := by
  change (if other = thread then frame :: scene.frames thread else scene.frames other).countP _ = _
  by_cases here : other = thread
  · rw [if_pos here, here, List.countP_cons]
    simp only [true_and]
  · rw [if_neg here, if_neg fun both => here both.1, Nat.add_zero]

/-- A thread that comes out of something is inside of one less of its kind. -/
theorem countP_become (kind : Frame → Bool) (frames : scene.frames thread = frame :: rest)
    (other : ThreadId) :
    (scene.frames other).countP kind =
      ((scene.become world thread rest).frames other).countP kind +
        if other = thread ∧ kind frame = true then 1 else 0 := by
  change _ = (if other = thread then rest else scene.frames other).countP _ + _
  by_cases here : other = thread
  · rw [if_pos here, here, frames, List.countP_cons]
    simp only [true_and]
  · rw [if_neg here, if_neg fun both => here both.1, Nat.add_zero]

/-- Where everybody is inside of the same, they are inside of the same closures. -/
theorem closures_of_frames (frames : next.frames = scene.frames) :
    next.closures = scene.closures := by
  funext other value
  rw [closures, frames, closures]

/-- Where everybody is inside of the same, they have the same sections open. -/
theorem sections_of_frames (frames : next.frames = scene.frames)
    (same : ∀ other, (next.world.thread other).sections = (scene.world.thread other).sections) :
    next.sections = scene.sections := by
  funext other value
  rw [sections, frames, same, sections]

/-- Going into something is counted if it is a closure. -/
theorem closures_into (other : ThreadId) (value : ValueId) :
    (scene.into world thread frame).closures other value =
      scene.closures other value +
        if other = thread ∧ frame.isClosureOn value = true then 1 else 0 :=
  countP_into world _ other

/-- Coming out of something is counted if it is a closure. -/
theorem closures_become (frames : scene.frames thread = frame :: rest) (other : ThreadId)
    (value : ValueId) :
    scene.closures other value =
      (scene.become world thread rest).closures other value +
        if other = thread ∧ frame.isClosureOn value = true then 1 else 0 :=
  countP_become world _ frames other

variable (same : ∀ other, (world.thread other).sections = (scene.world.thread other).sections)

include same

/-- Going into something is counted if it is the block of a section. -/
theorem sections_into (other : ThreadId) (value : ValueId) :
    (scene.into world thread frame).sections other value =
      scene.sections other value +
        if other = thread ∧ frame.isBlockOn value = true then 1 else 0 := by
  change _ + (world.thread other).sections.count value = _
  rw [countP_into, same, sections]
  omega

/-- Coming out of something is counted if it is the block of a section. -/
theorem sections_become (frames : scene.frames thread = frame :: rest) (other : ThreadId)
    (value : ValueId) :
    scene.sections other value =
      (scene.become world thread rest).sections other value +
        if other = thread ∧ frame.isBlockOn value = true then 1 else 0 := by
  change _ = _ + (world.thread other).sections.count value + _
  rw [sections, countP_become world _ frames, same]
  omega

end Frames

variable {move : Move α} {happenings : List Happening} {world : World α} {value : ValueId}

/-- Whatever is not seen shifts nothing. -/
theorem Shift.of_unseen (frames : next.frames = scene.frames)
    (unseen : World.Parallel scene.world next.world) : scene.Shift move happenings next :=
  .still unseen.guard? (closures_of_frames frames)
    (sections_of_frames frames fun other => (unseen.sections other).symm)

/-- An access that is refused is not seen. -/
theorem unseen_of_asksAccess {kind : AccessKind} {fault : Fault}
    (runs : scene.world.threads.contains thread = true)
    (asked : scene.world.AsksAccess thread value kind world (.faulted fault)) :
    World.Parallel scene.world world := by
  obtain ⟨_, _, unseen⟩ | ⟨_, _, _, _, begun, _⟩ := asked.seen runs
  · exact unseen
  · cases begun

/-- A section that is refused is not seen. -/
theorem unseen_of_asksSection {fault : Fault} (runs : scene.world.threads.contains thread = true)
    (asked : scene.world.AsksSection thread value world (.faulted fault)) :
    World.Parallel scene.world world := by
  obtain ⟨_, _, unseen⟩ | ⟨_, _, _, _, begun, _⟩ := asked.seen runs
  · exact unseen
  · cases begun

/-- An access that is begun takes the lock and the content, and its thread is inside of a
closure. -/
theorem shift_of_access {kind : AccessKind} {sighting : Option Sighting}
    (runs : scene.world.threads.contains thread = true)
    (asked : scene.world.AsksAccess thread value kind world (.begun sighting)) :
    scene.Shift (.access thread value kind) happenings
      (scene.into world thread (.closure value kind)) := by
  obtain ⟨_, faulted, _⟩ | ⟨_, cell, lock, later, _, found, taken, free, unseen, rfl⟩ :=
    asked.seen runs
  case inl => cases faulted
  refine .began thread value kind cell.lock lock ?_ taken
    (turns_modifyCell unseen fun _ => rfl) (fun other target => ?_) ?_
  · rw [guard?_of_get? _ found, free]
  · rw [closures_into]
    simp only [Frame.isClosureOn, decide_eq_true_eq]
  · funext other target
    rw [sections_into (later.modifyCell value fun cell => cell.take lock)
      fun other => (unseen.sections other).symm]
    simp only [Frame.isBlockOn, Bool.false_eq_true, and_false, if_false, Nat.add_zero]

/-- The end of a closure, whatever it makes of the content. -/
theorem shift_of_finish {kind : AccessKind}
    (frames : scene.frames thread = .closure value kind :: rest) (change change' : α → α) :
    scene.Shift (.finish thread change') happenings
      (scene.become (scene.world.endAccess value change) thread rest) := by
  refine .finished thread value change' (turns_modifyCell (.refl _) fun _ => rfl)
    (fun other target => ?_) ?_
  · rw [closures_become (scene.world.endAccess value change) frames]
    simp only [Frame.isClosureOn, decide_eq_true_eq]
  · funext other target
    rw [sections_become (scene.world.endAccess value change) (fun _ => rfl) frames]
    simp only [Frame.isBlockOn, Bool.false_eq_true, and_false, if_false, Nat.add_zero]

/-- What becomes of guards when a section is entered. -/
theorem opens_of_asksSection {entries : Nat} (runs : scene.world.threads.contains thread = true)
    (asked : scene.world.AsksSection thread value world (.begun entries)) :
    ∃ lock taken, scene.world.guard? value = some (lock, false) ∧
      lock.acquire? thread = some taken ∧
      Turns value (fun guard => (taken, guard.2)) scene.world world ∧
      ∀ other, (world.thread other).sections = (scene.world.thread other).sections := by
  obtain ⟨_, faulted, _⟩ | ⟨_, cell, lock, later, _, found, taken, free, unseen, rfl⟩ :=
    asked.seen runs
  case inl => cases faulted
  refine ⟨cell.lock, lock, ?_, taken, turns_modifyCell unseen fun _ => rfl,
    fun other => (unseen.sections other).symm⟩
  rw [guard?_of_get? _ found, free]

/-- A section that is entered takes the lock, and its thread is inside of it. -/
theorem shift_of_enter {entries : Nat} (runs : scene.world.threads.contains thread = true)
    (asked : scene.world.AsksSection thread value world (.begun entries)) :
    scene.Shift (.enter thread value) [.entered thread value (scene.world.clockOf value)]
      (scene.into world thread (.block value)) := by
  obtain ⟨lock, taken, free, got, guards, same⟩ := opens_of_asksSection runs asked
  refine .opened thread value _ lock taken (.inl rfl) free got guards ?_ fun other target => ?_
  · funext other target
    rw [closures_into]
    simp only [Frame.isClosureOn, Bool.false_eq_true, and_false, if_false, Nat.add_zero]
  · rw [sections_into _ same]
    simp only [Frame.isBlockOn, decide_eq_true_eq]

/-- A section that is left gives up the lock, and its thread comes out of it. -/
theorem shift_of_leave (frames : scene.frames thread = .block value :: rest) :
    scene.Shift (.leave thread) happenings
      (scene.become (scene.world.leaveSection value) thread rest) := by
  refine .closed thread value (.inl rfl) (alters_leaveSection _ value).guard ?_
    fun other target => ?_
  · funext other target
    rw [closures_become (scene.world.leaveSection value) frames]
    simp only [Frame.isClosureOn, Bool.false_eq_true, and_false, if_false, Nat.add_zero]
  · rw [sections_become (scene.world.leaveSection value) (fun _ => rfl) frames]
    simp only [Frame.isBlockOn, decide_eq_true_eq]

/-- What a thread keeps open besides its frames is counted. -/
theorem sections_setThread (state : ThreadState) (other : ThreadId) (target : ValueId) :
    (scene.withWorld (world.setThread thread state)).sections other target =
      (scene.frames other).countP (Frame.isBlockOn target) +
        (if other = thread then state.sections else (world.thread other).sections).count
          target := by
  rw [sections]
  change _ + ((world.setThread thread state).thread other).sections.count target = _
  rw [thread_setThread, apply_ite ThreadState.sections]
  rfl

/-- A section that is kept open takes the lock, and its thread has it open. -/
theorem shift_of_hold {entries : Nat} (runs : scene.world.threads.contains thread = true)
    (asked : scene.world.AsksSection thread value world (.begun entries)) :
    scene.Shift (.hold thread value) [.entered thread value (scene.world.clockOf value)]
      (scene.withWorld (world.setThread thread
        { world.thread thread with sections := value :: (world.thread thread).sections })) := by
  obtain ⟨lock, taken, free, got, guards, same⟩ := opens_of_asksSection runs asked
  refine .opened thread value _ lock taken (.inr rfl) free got guards rfl fun other target => ?_
  rw [sections_setThread, sections, same, same]
  by_cases here : other = thread
  · rw [if_pos here, here, List.count_cons, Nat.add_assoc]
    simp only [true_and, beq_iff_eq, eq_comm (a := value)]
  · rw [if_neg here, if_neg fun both => here both.1, Nat.add_zero]

/-- A section that was kept open gives up the lock, and its thread has it open no longer. -/
theorem shift_of_drop (member : value ∈ (scene.world.thread thread).sections) :
    scene.Shift (.drop thread value) happenings (scene.withWorld ((scene.world.setThread thread
      { scene.world.thread thread with
        sections := (scene.world.thread thread).sections.erase value }).leaveSection value)) := by
  refine .closed thread value (.inr rfl)
    (fun other => (alters_leaveSection _ value).guard other) rfl fun other target => ?_
  change _ = (scene.withWorld (scene.world.setThread thread _)).sections other target + _
  rw [sections_setThread, sections]
  by_cases here : other = thread
  · rw [if_pos here, here, Nat.add_assoc]
    congr 1
    by_cases about : target = value
    · subst about
      have counted : 0 < (scene.world.thread thread).sections.count target :=
        List.count_pos_iff.2 member
      rw [List.count_erase_self, if_pos ⟨rfl, rfl⟩]
      omega
    · rw [List.count_erase_of_ne about, if_neg fun both => about both.2, Nat.add_zero]
  · rw [if_neg here, if_neg fun both => here both.1, Nat.add_zero]

/-- A thread that begins work on its context is inside of such work, and no lock is touched. -/
theorem shift_of_openContext (runs : scene.world.threads.contains thread = true)
    (idle : (scene.world.thread thread).contextInUse = false) :
    scene.Shift (.openContext thread) happenings
      (scene.into (scene.world.openContext thread).1 thread .context) := by
  have ensured := parallel_ensureContext scene.world runs
  have same : ∀ other, ((scene.world.openContext thread).1.thread other).sections =
      (scene.world.thread other).sections := by
    intro other
    rw [ensured.sections other]
    unfold World.openContext
    rw [if_neg (by simp [idle]), thread_setThread]
    split
    · rename_i here
      rw [here]
    · rfl
  refine .still (unaltered_openContext scene.world idle).guard ?_ ?_
  · funext other target
    rw [closures_into]
    simp only [Frame.isClosureOn, Bool.false_eq_true, and_false, if_false, Nat.add_zero]
  · funext other target
    rw [sections_into _ same]
    simp only [Frame.isBlockOn, Bool.false_eq_true, and_false, if_false, Nat.add_zero]

/-- A thread that ends work on its context is outside of such work, and no lock is touched. -/
theorem shift_of_closeContext (frames : scene.frames thread = .context :: rest) :
    scene.Shift (.closeContext thread) happenings
      (scene.become (scene.world.closeContext thread) thread rest) := by
  have same : ∀ other, ((scene.world.closeContext thread).thread other).sections =
      (scene.world.thread other).sections := by
    intro other
    rw [World.closeContext, thread_setThread]
    split
    · rename_i here
      rw [here]
    · rfl
  refine .still (unaltered_closeContext scene.world thread).guard ?_ ?_
  · funext other target
    rw [closures_become (scene.world.closeContext thread) frames]
    simp only [Frame.isClosureOn, Bool.false_eq_true, and_false, if_false, Nat.add_zero]
  · funext other target
    rw [sections_become _ same frames]
    simp only [Frame.isBlockOn, Bool.false_eq_true, and_false, if_false, Nat.add_zero]

/-- A thread that starts is inside of nothing, and no lock is touched. -/
theorem shift_of_spawn (numbered : Numbered scene.world) (name : Option String) (attach : Bool) :
    scene.Shift move happenings (scene.withWorld (scene.world.spawn name attach).1) := by
  have unknown : (scene.world.thread ⟨scene.world.started⟩).sections = [] := by
    have absent : scene.world.threads.get? ⟨scene.world.started⟩ = none := by
      cases found : scene.world.threads.get? ⟨scene.world.started⟩ with
      | none => rfl
      | some state =>
        have below := numbered.threads _ ((SortedMap.contains_iff _ _).2 ⟨state, found⟩)
        exact absurd below (Nat.lt_irrefl _)
    rw [World.thread, absent]
    rfl
  have begun : ∀ other, ((scene.world.startThread name).thread other).sections =
      (scene.world.thread other).sections := by
    intro other
    change ((scene.world.setThread ⟨scene.world.started⟩ (.new name)).thread other).sections = _
    rw [thread_setThread]
    split
    · rename_i here
      rw [here, unknown]
      rfl
    · rfl
  refine .still (fun value => guard?_of_same (cells_spawn _ name attach)) rfl
    (sections_of_frames rfl fun other => ?_)
  change ((scene.world.spawn name attach).1.thread other).sections = _
  rw [spawn_eq]
  split
  · rw [sections_bindContext]
    exact begun other
  · exact begun other

/-- A thread that ends has no sections any more. -/
theorem sections_endThread (frames : scene.frames thread = []) (other : ThreadId)
    (value : ValueId) : (scene.withWorld (scene.world.endThread thread)).sections other value =
      if other = thread then 0 else scene.sections other value := by
  change _ + ((scene.world.endThread thread).thread other).sections.count value = _
  rw [thread_endThread]
  split
  · rename_i here
    change (scene.frames other).countP _ + 0 = 0
    rw [here, frames]
    rfl
  · rfl

/-- A thread that ends is inside of nothing, and leaves the sections that outlast its moves. -/
theorem shift_of_endThread {step : Step α} (ends : step.ends? = some thread)
    (frames : scene.frames thread = []) (reply : Reply α) :
    scene.Shift (.step step) happenings
      (scene.withWorld (scene.world.ifRunning thread (scene.world.endThread thread, reply)).1) := by
  unfold World.ifRunning
  split
  case isFalse => exact .of_unseen rfl (.refl _)
  have counted : ∀ value, scene.sections thread value =
      (scene.world.thread thread).sections.count value := by
    intro value
    rw [sections, frames, List.countP_nil, Nat.zero_add]
  refine .ended thread step ends (fun value => ?_) (fun value => ?_) rfl fun other value => ?_
  · rw [counted]
    exact guard?_leaveSections _ value
  · rw [closures, frames, List.countP_nil]
  · exact sections_endThread frames other value

/-- Nobody has the lock of a value that is made. -/
theorem shift_of_addCell (numbered : Numbered scene.world) {prepared : World α} {cell : Cell α}
    (unseen : World.Parallel scene.world prepared)
    (rest : (cell.lock, cell.borrowed) = (.free, false)) :
    scene.Shift move happenings (scene.withWorld (prepared.addCell cell).1) := by
  refine .made ⟨scene.world.made⟩ ?_ (fun other => ?_) rfl
    (sections_of_frames rfl fun other => (unseen.sections other).symm)
  · rw [World.guard?, get?_made_of_numbered numbered]
    rfl
  · rw [← unseen.guard? other, unseen.made, World.guard?]
    change (SortedMap.get? (prepared.cells.insert ⟨prepared.made⟩ cell) other).map _ = _
    rw [SortedMap.get?_insert]
    split
    · exact congrArg some rest
    · rfl

/-- A value that is made has an open lock. -/
theorem shift_of_newValue (numbered : Numbered scene.world) (payload : α)
    (sink : Option DetectorId) (label : Option String) :
    scene.Shift move happenings (scene.withWorld (scene.world.newValue payload sink label).1) := by
  cases sink with
  | none => exact shift_of_addCell numbered (.refl _) rfl
  | some id =>
    unfold World.newValue World.ifInUse
    dsimp only
    split
    · rename_i detector found
      split
      · exact shift_of_addCell numbered (parallel_of_same _ rfl rfl rfl rfl) rfl
      · exact .of_unseen rfl (.refl _)
    · exact .of_unseen rfl (.refl _)

/-- A value is taken away only if nobody has its lock. -/
theorem shift_of_removeCell (value : ValueId) (reply : Cell α → Reply α) :
    scene.Shift move happenings (scene.withWorld (scene.world.removeCell value reply).1) := by
  unfold World.removeCell
  split
  · exact .of_unseen rfl (.refl _)
  · rename_i cell found
    split
    · exact .of_unseen rfl (.refl _)
    · rename_i unheld
      have free : cell.lock = .free := by
        cases lock : cell.lock with
        | free => rfl
        | held owner again =>
          rw [lock] at unheld
          exact absurd rfl unheld
      refine .removed value cell.borrowed (by rw [guard?_of_get? _ found, free])
        (fun other => ?_) rfl rfl
      change (SortedMap.get? (scene.world.cells.erase value) other).map _ = _
      rw [SortedMap.get?_erase]
      split
      · rfl
      · rfl

/-- A step takes no lock, and gives up those of a thread that ends. -/
theorem shift_of_step (numbered : Numbered scene.world) {step : Step α}
    (still : step.isActed = false)
    (outside : ∀ thread, step.ends? = some thread → scene.frames thread = []) :
    scene.Shift (.step step) happenings (scene.withWorld (scene.world.step step).1) := by
  cases errand : step.isErrand with
  | true => exact .of_unseen rfl (parallel_errand errand)
  | false =>
    cases step with
    | spawn name attach =>
      simp only [World.step]
      split
      · exact .of_unseen rfl (.refl _)
      · exact shift_of_spawn numbered name attach
    | exit thread => exact shift_of_endThread rfl (outside thread rfl) _
    | crash thread => exact shift_of_endThread rfl (outside thread rfl) _
    | newValue payload sink label => exact shift_of_newValue numbered payload sink label
    | dropValue value => exact shift_of_removeCell value _
    | intoInner value => exact shift_of_removeCell value _
    | enter thread value => cases still
    | leave thread => cases still
    | act thread action => cases still
    | _ => cases errand

/-- Every move shifts locks, and what threads are inside of, in one of these ways. -/
theorem shift_of_perform? (numbered : Numbered scene.world)
    (performed : scene.perform? move = some (next, happenings)) :
    scene.Shift move happenings next := by
  obtain ⟨runs, outcome⟩ := perform?_eq_some_iff.1 performed
  cases outcome with
  | access asked => exact shift_of_access runs asked
  | stall asked => exact .of_unseen rfl (unseen_of_asksAccess runs asked)
  | reenter asked => exact .of_unseen rfl (unseen_of_asksAccess runs asked)
  | finish change frames => exact shift_of_finish frames _ change
  | enter asked => exact shift_of_enter runs asked
  | refuseEnter asked => exact .of_unseen rfl (unseen_of_asksSection runs asked)
  | leave frames => exact shift_of_leave frames
  | hold asked => exact shift_of_hold runs asked
  | refuseHold asked => exact .of_unseen rfl (unseen_of_asksSection runs asked)
  | drop member => exact shift_of_drop member
  | openContext idle => exact shift_of_openContext runs idle
  | refuseContext busy => exact .of_unseen rfl (.refl _)
  | closeContext frames => exact shift_of_closeContext frames
  | edit change bound busy known =>
    exact .of_unseen rfl (parallel_bindContext scene.world runs _)
  | attach known idle => exact .of_unseen rfl (parallel_attach scene.world runs _)
  | refuseAttach known busy => exact .of_unseen rfl (parallel_note scene.world _)
  | look found admitted free => exact .of_unseen rfl (.refl _)
  | refuseLook found admitted borrowed => exact .of_unseen rfl (parallel_note scene.world _)
  | step still outside => exact shift_of_step numbered still outside

end Scene

end RaceSentry
