import RaceSentry.Proofs.Custody
import RaceSentry.Proofs.Unbroken

/-!
# Nothing stays locked

A body takes and gives up locks and contents in the order of its nesting, and gives them up when it
is cut short just as when it runs to its end. So whoever catches a fault finds every lock and every
content where it was; what closures stored until then stays stored. A thread that ends gives up
whatever it has open, and leaves values as they are.
Main statement: `locks_unwind`.
-/

namespace RaceSentry

open World

variable {α β : Type}

/-- What an access stores: what its closure stores, and then the content that the closure leaves
behind if it gets to its end. -/
def World.accessStores (world : World α) (thread : ThreadId) (value : ValueId) (kind : AccessKind)
    (body : World α → World α × Option (List (Answer α)) × Option Fault)
    (inside : World α → List (ValueId × α)) (work : α → α × β) : List (ValueId × α) :=
  match world.beginAccess thread value kind with
  | (next, .begun _) =>
    match body next with
    | (_, _, some _) => inside next
    | (later, _, none) =>
      match later.cells.get? value with
      | none => inside next
      | some cell => (value, (work cell.payload).1) :: inside next
  | _ => []

namespace Action

mutual

/-- The contents that an action stores, latest first. A closure that gives up after its change has
stored what it changed; one that is cut short before it has not. -/
def stores (thread : ThreadId) : Action α → World α → List (ValueId × α)
  | .read value, world =>
    world.accessStores thread value .read noBody (fun _ => []) fun payload =>
      (payload, (.ok (.payload payload) : Except String (Result α)))
  | .readWith value body measure, world =>
    world.accessStores thread value .read (runInside thread body) (storesInside thread body)
      fun payload => (payload, (.ok (.measure (measure payload)) : Except String (Result α)))
  | .write value payload, world =>
    world.accessStores thread value .write noBody (fun _ => [])
      (storing payload fun _ => .nothing)
  | .replace value payload, world =>
    world.accessStores thread value .write noBody (fun _ => []) (storing payload .payload)
  | .update value body change, world =>
    world.accessStores thread value .write (runInside thread body) (storesInside thread body)
      (changing change)
  | .synchronized value _ body, world =>
    match world.enterSection thread value with
    | (next, .begun _) => storesBody thread body next
    | _ => []
  | .attempt body, world => storesBody thread body world
  | .withContext body, world =>
    match world.openContext thread with
    | (next, .ok ()) => storesBody thread body next
    | (_, .error _) => []
  | .raise _, _ => []
  | .query _ _, _ => []
  | .describe _ _, _ => []
  | .context _, _ => []
  | .unclear _, _ => []

/-- The contents that the actions of a body store, up to the first fault. -/
def storesBody (thread : ThreadId) : List (Action α) → World α → List (ValueId × α)
  | [], _ => []
  | action :: rest, world =>
    match action.run thread world with
    | (_, .error _) => stores thread action world
    | (next, .ok _) => storesBody thread rest next ++ stores thread action world

/-- The contents that the body of a closure stores, if it has one. -/
def storesInside (thread : ThreadId) :
    Option (List (Action α)) → World α → List (ValueId × α)
  | none, _ => []
  | some body, world => storesBody thread body world

end

end Action

namespace World

/-- A program finds everything as it was, but for contents that were stored, latest first. -/
structure Unwound (stored : List (ValueId × α)) (world next : World α) : Prop where
  /-- As many threads were started. -/
  started : next.started = world.started
  /-- As many values were made. -/
  made : next.made = world.made
  /-- The same threads run, and look the same. -/
  threads : ∀ thread, (next.threads.get? thread).map ThreadState.surface =
    (world.threads.get? thread).map ThreadState.surface
  /-- The same values exist. Each has the content that was stored last, and its lock as before. -/
  cells : ∀ value, (next.cells.get? value).map Cell.surface =
    (world.cells.get? value).map fun cell =>
      ((stored.lookup value).getD cell.payload, cell.lock, cell.borrowed)

namespace Unwound

variable {world between next later : World α} {thread : ThreadId} {value : ValueId}
  {stored more : List (ValueId × α)}

/-- Where a program sees no difference, nothing was stored. -/
theorem of_parallel (parallel : Parallel world next) : Unwound [] world next where
  started := parallel.started.symm
  made := parallel.made.symm
  threads := fun thread => (parallel.threads thread).symm
  cells := fun value => (parallel.cells value).symm

/-- What is unwound twice is unwound, with all that was stored. -/
theorem trans (first : Unwound stored world between) (second : Unwound more between next) :
    Unwound (more ++ stored) world next where
  started := second.started.trans first.started
  made := second.made.trans first.made
  threads := fun thread => (second.threads thread).trans (first.threads thread)
  cells := fun value => by
    -- The content of a value is the one stored last, after the place in between or before it.
    have before := first.cells value
    have after := second.cells value
    rw [List.lookup_append]
    cases found : world.cells.get? value with
    | none =>
      rw [found] at before
      rw [Option.map_eq_none_iff.1 before] at after
      exact after
    | some cell =>
      rw [found] at before
      obtain ⟨cell', found', surface⟩ := Option.map_eq_some_iff.1 before
      obtain ⟨payload, lock, borrowed⟩ := Prod.mk.inj surface |>.imp_right Prod.mk.inj
      rw [after, found', Option.map_some, Option.map_some, payload, lock, borrowed]
      cases more.lookup value with
      | none => rfl
      | some payload => rfl

/-- What a program does not see may be different to begin with. -/
theorem before (unwound : Unwound stored between next) (parallel : Parallel world between) :
    Unwound stored world next := by
  have both := (of_parallel parallel).trans unwound
  rwa [List.append_nil] at both

/-- The same threads run after a body. -/
theorem running (unwound : Unwound stored world next) (thread : ThreadId) :
    next.threads.contains thread = world.threads.contains thread := by
  have same := congrArg Option.isSome (unwound.threads thread)
  rw [Option.isSome_map, Option.isSome_map] at same
  exact same

/-- A program sees the same of each thread after a body. -/
theorem surface (unwound : Unwound stored world next) (thread : ThreadId) :
    (next.thread thread).surface = (world.thread thread).surface := by
  have same := congrArg (Option.getD · (ThreadState.new none).surface) (unwound.threads thread)
  simp only [Option.getD_map] at same
  exact same

/-- No guard is different. -/
theorem guard? (unwound : Unwound stored world next) (value : ValueId) :
    next.guard? value = world.guard? value := by
  have same := congrArg (Option.map Prod.snd) (unwound.cells value)
  rw [Option.map_map, Option.map_map] at same
  exact same

/-- The same change to guards on both sides. -/
theorem modifyCell (unwound : Unwound stored world next) (value : ValueId)
    {change : Cell α → Cell α} (turn : Lock × Bool → Lock × Bool)
    (turned : ∀ cell, (change cell).surface = (cell.payload, turn (cell.lock, cell.borrowed))) :
    Unwound stored (world.modifyCell value change) (next.modifyCell value change) where
  started := unwound.started
  made := unwound.made
  threads := unwound.threads
  cells := fun other => by
    have same := unwound.cells other
    rw [World.modifyCell, World.modifyCell, SortedMap.get?_modify, SortedMap.get?_modify]
    by_cases here : other = value
    · rw [if_pos here, if_pos here, ← here, Option.map_map, Option.map_map]
      have both := congrArg (Option.map fun seen => (seen.1, turn seen.2)) same
      rw [Option.map_map, Option.map_map] at both
      refine Eq.trans ?_ (both.trans ?_)
      · congr 1
        funext cell
        exact turned cell
      · congr 1
        funext cell
        obtain ⟨payload, guard⟩ := Prod.mk.inj (turned cell)
        change (_, turn (cell.lock, cell.borrowed)) =
          (_, (change cell).lock, (change cell).borrowed)
        rw [payload, guard]
    · rw [if_neg here, if_neg here]
      exact same

/-- Storing a content. -/
theorem store (world : World α) (value : ValueId) (payload : α) :
    Unwound [(value, payload)] world
      (world.modifyCell value fun cell => { cell with payload := payload }) where
  started := rfl
  made := rfl
  threads := fun _ => rfl
  cells := fun other => by
    rw [World.modifyCell, SortedMap.get?_modify]
    by_cases here : other = value
    · rw [if_pos here, here, Option.map_map, List.lookup_cons_self]
      rfl
    · rw [if_neg here, List.lookup_cons, beq_false_of_ne here]
      rfl

/-- The same change to what is seen of a thread. -/
theorem closeContext (unwound : Unwound stored world next) (thread : ThreadId) :
    Unwound stored (world.closeContext thread) (next.closeContext thread) where
  started := unwound.started
  made := unwound.made
  threads := fun other => by
    rw [World.closeContext, World.closeContext, World.setThread, World.setThread,
      SortedMap.get?_insert, SortedMap.get?_insert]
    split
    · exact congrArg (fun seen => some (seen.1, false, seen.2.2)) (unwound.surface thread)
    · exact unwound.threads other
  cells := unwound.cells

end Unwound

section Ends

variable {world later after : World α} {thread : ThreadId} {value : ValueId} {cell : Cell α}
  {lock : Lock} {stored : List (ValueId × α)}

/-- A guard that is taken and given up again is as before. -/
theorem parallel_restored (unseen : Parallel world later)
    (found : world.cells.get? value = some cell) {change : Cell α → Cell α}
    (restored : ∀ cell', cell'.surface = cell.surface → (change cell').surface = cell.surface) :
    Parallel world (later.modifyCell value change) where
  started := unseen.started
  made := unseen.made
  threads := unseen.threads
  cells := fun other => by
    rw [World.modifyCell, SortedMap.get?_modify]
    by_cases here : other = value
    · obtain ⟨cell', found', seen⟩ := unseen.found found
      rw [if_pos here, here, found, found']
      exact congrArg some (restored cell' (Cell.surface_eq_iff.2 seen)).symm
    · rw [if_neg here]
      exact unseen.cells other

/-- A closure that is over has given up the lock and the content. -/
theorem unwound_endAccess (unseen : Parallel world later)
    (found : world.cells.get? value = some cell) (taken : cell.lock.acquire? thread = some lock)
    (rest : cell.borrowed = false)
    (inside : Unwound stored (later.modifyCell value fun cell => cell.take lock) after) :
    Unwound stored world (after.endAccess value id) := by
  have ended : Unwound stored
      ((later.modifyCell value fun cell => cell.take lock).endAccess value id)
      (after.endAccess value id) :=
    inside.modifyCell value (fun guard => (guard.1.release, false)) fun _ => rfl
  refine ended.before ?_
  rw [endAccess, modifyCell_modifyCell]
  refine parallel_restored unseen found fun cell' same => ?_
  obtain ⟨payload, -, -⟩ := Cell.surface_eq_iff.1 same
  exact Cell.surface_eq_iff.2 ⟨payload, Lock.release_acquire? taken, rest.symm⟩

/-- What a closure leaves behind is stored. -/
theorem unwound_endAccess_stored (unwound : Unwound stored world (after.endAccess value id))
    (payload : α) :
    Unwound ((value, payload) :: stored) world (after.endAccess value fun _ => payload) := by
  have both := unwound.trans (.store (after.endAccess value id) value payload)
  rw [endAccess, modifyCell_modifyCell] at both
  exact both

/-- A section that is over has given up the lock. -/
theorem unwound_leaveSection (unseen : Parallel world later)
    (found : world.cells.get? value = some cell) (taken : cell.lock.acquire? thread = some lock)
    (inside : Unwound stored (later.modifyCell value fun cell => { cell with lock := lock })
      after) :
    Unwound stored world (after.leaveSection value) := by
  have noted (world : World α) : Unwound [] world (world.note (.leaving value)) :=
    .of_parallel (parallel_note world _)
  have left : Unwound stored
      ((later.modifyCell value fun cell => { cell with lock := lock }).modifyCell value Cell.unlock)
      (after.leaveSection value) :=
    (inside.trans (noted after)).modifyCell value (fun guard => (guard.1.release, guard.2))
      fun _ => rfl
  refine left.before ?_
  rw [modifyCell_modifyCell]
  refine parallel_restored unseen found fun cell' same => ?_
  obtain ⟨payload, -, borrowed⟩ := Cell.surface_eq_iff.1 same
  exact Cell.surface_eq_iff.2 ⟨payload, Lock.release_acquire? taken, borrowed⟩

end Ends

end World

section Bodies

variable {world : World α} {thread : ThreadId} {value : ValueId}

/-- An access gives up what it took, however its closure ends. -/
theorem unwound_access (runs : world.threads.contains thread = true) (kind : AccessKind)
    {body : World α → World α × Option (List (Answer α)) × Option Fault}
    {stored : World α → List (ValueId × α)} {work : α → α × Except String (Result α)}
    (inside : ∀ world : World α, world.threads.contains thread = true →
      Unwound (stored world) world (body world).1) :
    Unwound (world.accessStores thread value kind body stored work) world
      (world.access thread value kind body work).1 := by
  unfold World.access World.accessStores
  cases asked : world.beginAccess thread value kind with
  | mk begun attempt =>
    cases attempt with
    | noValue =>
      rw [show begun = world from eq_of_beginAccess asked (.inl rfl)]
      exact .of_parallel (.refl world)
    | blocked =>
      rw [show begun = world from eq_of_beginAccess asked (.inr rfl)]
      exact .of_parallel (.refl world)
    | faulted fault =>
      obtain ⟨_, _, unseen⟩ | ⟨_, _, _, _, begins, _⟩ :=
        (asksAccess_of_beginAccess asked nofun nofun).seen runs
      · exact .of_parallel unseen
      · cases begins
    | begun sighting =>
      obtain ⟨_, faulted, _⟩ | ⟨_, cell, lock, later, _, found, taken, free, unseen, rfl⟩ :=
        (asksAccess_of_beginAccess asked nofun nofun).seen runs
      case inl => cases faulted
      have running := (unseen.running thread).symm.trans runs
      have ended := unwound_endAccess unseen found taken free
        (inside (later.modifyCell value fun cell => cell.take lock) running)
      dsimp only
      cases done : body (later.modifyCell value fun cell => cell.take lock) with
      | mk after outcome =>
        rw [done] at ended
        obtain ⟨answers, fault⟩ := outcome
        cases fault with
        | some fault => exact ended
        | none =>
          cases left : after.cells.get? value with
          | none =>
            -- The value is still there when its closure ends.
            have same := ended.cells value
            rw [found, endAccess, World.modifyCell, SortedMap.get?_modify, if_pos rfl, left] at same
            cases same
          | some cell' =>
            have stored := unwound_endAccess_stored ended (work cell'.payload).1
            simp only [left]
            cases (work cell'.payload).2 with
            | error text => exact stored
            | ok result => exact stored

/-- A section gives up what it took, however its block ends. -/
theorem unwound_section (value : ValueId) (runs : world.threads.contains thread = true)
    {body : World α → World α × β} {stored : World α → List (ValueId × α)}
    (inside : ∀ world : World α, world.threads.contains thread = true →
      Unwound (stored world) world (body world).1) :
    Unwound
      (match world.enterSection thread value with
        | (next, .begun _) => stored next
        | _ => []) world
      (match world.enterSection thread value with
        | (next, .begun _) => (body next).1.leaveSection value
        | (next, _) => next) := by
  cases asked : world.enterSection thread value with
  | mk begun attempt =>
    cases attempt with
    | noValue =>
      rw [show begun = world from eq_of_enterSection asked (.inl rfl)]
      exact .of_parallel (.refl world)
    | blocked =>
      rw [show begun = world from eq_of_enterSection asked (.inr rfl)]
      exact .of_parallel (.refl world)
    | faulted fault =>
      obtain ⟨_, _, unseen⟩ | ⟨_, _, _, _, begins, _⟩ :=
        (asksSection_of_enterSection asked nofun nofun).seen runs
      · exact .of_parallel unseen
      · cases begins
    | begun entries =>
      obtain ⟨_, faulted, _⟩ | ⟨_, cell, lock, later, _, found, taken, _, unseen, rfl⟩ :=
        (asksSection_of_enterSection asked nofun nofun).seen runs
      case inl => cases faulted
      have running := (unseen.running thread).symm.trans runs
      exact unwound_leaveSection unseen found taken (inside _ running)

/-- Work on a context is over when its body is, however the body ends. -/
theorem unwound_closeContext (runs : world.threads.contains thread = true)
    (idle : (world.thread thread).contextInUse = false) {stored : List (ValueId × α)}
    {after : World α} (inside : Unwound stored (world.openContext thread).1 after) :
    Unwound stored world (after.closeContext thread) := by
  have ensured := parallel_ensureContext world runs
  have bound := parallel_bindContext _ ((ensured.running thread).symm.trans runs)
    (world.ensureContext thread).2
  have closed := inside.closeContext thread
  rw [closeContext_openContext idle] at closed
  exact closed.before (ensured.trans bound)

/-- A question to a value is not seen. -/
theorem parallel_answerQuery (world : World α) (thread : ThreadId) (value : ValueId)
    (query : Query) : World.Parallel world (world.answerQuery thread value query).1 := by
  have looked (look : Cell α → Answer α) {next : World α} {attempt : Attempt (Answer α)}
      (asked : world.inspect thread value look = (next, attempt)) : World.Parallel world next := by
    have unseen := parallel_inspect world thread value look
    rwa [asked] at unseen
  cases query with
  | isRacing other =>
    unfold answerQuery
    dsimp only
    split
    · exact .refl world
    · split
      · exact .refl world
      · split
        · exact .refl world
        · split
          · exact looked _ ‹_›
          · exact looked _ ‹_›
  | _ =>
    unfold answerQuery
    dsimp only
    split
    · exact looked _ ‹_›
    · exact looked _ ‹_›

/-- What becomes of a thread's own context is not seen. -/
theorem parallel_answerContext (runs : world.threads.contains thread = true)
    (request : ContextRequest) :
    World.Parallel world (world.answerContext thread request).1 := by
  unfold answerContext
  split
  · exact .refl world
  · cases request with
    | key kind => exact .refl world
    | snapshotOf other =>
      unfold answerRequest
      dsimp only
      split
      · exact .refl world
      · exact .refl world
    | attach origin =>
      unfold answerRequest
      dsimp only
      split
      · exact parallel_note world _
      · exact parallel_attach world runs _
    | _ => exact parallel_withContext world runs _

mutual

/-- Whatever an action of a thread does, afterwards everything is as before but for contents that
closures stored. -/
theorem unwound_run (thread : ThreadId) (action : Action α) (world : World α)
    (runs : world.threads.contains thread = true) :
    Unwound (action.stores thread world) world (action.run thread world).1 := by
  cases action with
  | read value =>
    unfold Action.run Action.stores
    exact unwound_access runs .read fun world _ => .of_parallel (.refl world)
  | readWith value body measure =>
    unfold Action.run Action.stores
    exact unwound_access runs .read fun world runs => unwound_runInside thread body world runs
  | write value payload =>
    unfold Action.run Action.stores
    exact unwound_access runs .write fun world _ => .of_parallel (.refl world)
  | replace value payload =>
    unfold Action.run Action.stores
    exact unwound_access runs .write fun world _ => .of_parallel (.refl world)
  | update value body change =>
    unfold Action.run Action.stores
    exact unwound_access runs .write fun world runs => unwound_runInside thread body world runs
  | synchronized value route body =>
    have unwound := unwound_section value runs fun world runs =>
      unwound_runBody thread body world runs
    unfold Action.run Action.stores
    cases asked : world.enterSection thread value with
    | mk begun attempt =>
      rw [asked] at unwound
      cases attempt with
      | begun entries =>
        dsimp only at unwound ⊢
        cases done : Action.runBody thread body begun with
        | mk later outcome =>
          rw [done] at unwound
          obtain ⟨answers, fault⟩ := outcome
          cases fault with
          | none => exact unwound
          | some fault => exact unwound
      | _ => exact unwound
  | attempt body => exact unwound_runBody thread body world runs
  | raise text => exact .of_parallel (.refl world)
  | query value question => exact .of_parallel (parallel_answerQuery world thread value question)
  | describe value spread =>
    unfold Action.run
    split
    · exact .of_parallel (.refl world)
    · exact .of_parallel (.refl world)
  | context request => exact .of_parallel (parallel_answerContext runs request)
  | withContext body =>
    unfold Action.run Action.stores
    cases idle : (world.thread thread).contextInUse with
    | true =>
      rw [openContext_of_inUse world idle]
      exact .of_parallel (.refl world)
    | false =>
      have running := ((kept_openContext world runs).running thread).trans runs
      have unwound := unwound_closeContext runs idle
        (unwound_runBody thread body (world.openContext thread).1 running)
      rw [openContext_of_idle world idle]
      dsimp only
      cases done : Action.runBody thread body (world.openContext thread).1 with
      | mk later outcome =>
        rw [done] at unwound
        obtain ⟨answers, fault⟩ := outcome
        cases fault with
        | none => exact unwound
        | some fault => exact unwound
  | unclear fragment => exact .of_parallel (.refl world)

/-- The same of a body, whether it runs to its end or is cut short. -/
theorem unwound_runBody (thread : ThreadId) (body : List (Action α)) (world : World α)
    (runs : world.threads.contains thread = true) :
    Unwound (Action.storesBody thread body world) world (Action.runBody thread body world).1 := by
  cases body with
  | nil => exact .of_parallel (.refl world)
  | cons action rest =>
    have first := unwound_run thread action world runs
    unfold Action.runBody Action.storesBody
    cases done : action.run thread world with
    | mk between outcome =>
      rw [done] at first
      cases outcome with
      | error fault => exact first
      | ok answer =>
        exact first.trans (unwound_runBody thread rest between ((first.running thread).trans runs))

/-- A body inside of a closure or section leaves everything as it was, but for what it stored. -/
theorem unwound_runInside (thread : ThreadId) (body : Option (List (Action α))) (world : World α)
    (runs : world.threads.contains thread = true) :
    Unwound (Action.storesInside thread body world) world
      (Action.runInside thread body world).1 := by
  cases body with
  | none => exact .of_parallel (.refl world)
  | some body => exact unwound_runBody thread body world runs

end

end Bodies

/-- How an attempt comes out that needs the lock and the content of a value. -/
def admission (guard? : Option (Lock × Bool)) (thread : ThreadId) (refusal : Fault) :
    Attempt Unit :=
  match guard? with
  | none => .noValue
  | some (lock, borrowed) =>
    match lock.acquire? thread with
    | none => .blocked
    | some _ => if borrowed then .faulted refusal else .begun ()

section Admission

variable {world : World α} {thread : ThreadId} {value : ValueId}

/-- Whether an access begins is decided by the guard alone. -/
theorem blind_beginAccess (runs : world.threads.contains thread = true)
    (idle : (world.thread thread).contextInUse = false) (value : ValueId) (kind : AccessKind) :
    (world.beginAccess thread value kind).2.blind =
      admission (world.guard? value) thread (.reentered value) := by
  unfold World.guard? admission
  cases found : world.cells.get? value with
  | none =>
    simp only [World.beginAccess, found]
    rfl
  | some cell =>
    cases taken : cell.lock.acquire? thread with
    | none =>
      simp only [World.beginAccess, found, taken, Option.map_some]
      rfl
    | some lock =>
      cases rest : cell.borrowed with
      | true =>
        simp only [World.beginAccess, found, taken, rest, Option.map_some, ↓reduceIte]
        rfl
      | false =>
        obtain ⟨sighting, later, _, begun⟩ :=
          beginAccess_of_idle world kind runs idle found taken rest
        simp only [begun, taken, rest, Option.map_some]
        rfl

/-- Whether a section begins is decided by the guard alone. -/
theorem blind_enterSection (runs : world.threads.contains thread = true)
    (idle : (world.thread thread).contextInUse = false) (value : ValueId) :
    (world.enterSection thread value).2.blind =
      admission (world.guard? value) thread .borrowed := by
  unfold World.guard? admission
  cases found : world.cells.get? value with
  | none =>
    simp only [World.enterSection, found]
    rfl
  | some cell =>
    cases taken : cell.lock.acquire? thread with
    | none =>
      simp only [World.enterSection, found, taken, Option.map_some]
      rfl
    | some lock =>
      cases rest : cell.borrowed with
      | true =>
        simp only [World.enterSection, found, taken, rest, Option.map_some, ↓reduceIte]
        rfl
      | false =>
        obtain ⟨entries, later, _, begun⟩ := enterSection_of_idle world runs idle found taken rest
        simp only [begun, taken, rest, Option.map_some]
        rfl

end Admission

/-- The content of a value. -/
def World.payload? (world : World α) (value : ValueId) : Option α :=
  (world.cells.get? value).map Cell.payload

/-- What a body leaves behind, whether it ran to its end or was cut short: `stored` are the contents
that its closures stored, latest first. -/
structure Restored (stored : List (ValueId × α)) (world next : World α) : Prop where
  /-- Every thread has every lock as often as before. -/
  depth : ∀ thread value, next.depth thread value = world.depth thread value
  /-- The contents that closures had at their disposal are those that they have. -/
  lends : ∀ value, next.lends value = world.lends value
  /-- Threads work on their contexts, and have sections open, as before. -/
  threads : ∀ thread, (next.threads.get? thread).map ThreadState.surface =
    (world.threads.get? thread).map ThreadState.surface
  /-- Whoever could have begun an access can begin it still, and nobody else can. -/
  access : ∀ thread, world.threads.contains thread = true →
    (world.thread thread).contextInUse = false → ∀ value kind,
      (next.beginAccess thread value kind).2.blind = (world.beginAccess thread value kind).2.blind
  /-- Whoever could have entered a section can enter it still, and nobody else can. -/
  entry : ∀ thread, world.threads.contains thread = true →
    (world.thread thread).contextInUse = false → ∀ value,
      (next.enterSection thread value).2.blind = (world.enterSection thread value).2.blind
  /-- A value has the content that was stored last. -/
  content : ∀ value, next.payload? value =
    (world.payload? value).map fun payload => (stored.lookup value).getD payload

/-- Where a program finds everything as it was, locks and contents are where they were. -/
theorem World.Unwound.restored {stored : List (ValueId × α)} {world next : World α}
    (unwound : Unwound stored world next) : Restored stored world next := by
  have idle : ∀ thread, (next.thread thread).contextInUse = (world.thread thread).contextInUse :=
    fun thread => (ThreadState.surface_eq_iff.1 (unwound.surface thread)).2.1
  refine ⟨fun thread value => ?_, fun value => ?_, unwound.threads,
    fun thread runs rest value kind => ?_, fun thread runs rest value => ?_, fun value => ?_⟩
  · rw [World.depth, unwound.guard?, World.depth]
  · rw [World.lends, unwound.guard?, World.lends]
  · rw [blind_beginAccess runs rest, ← unwound.guard? value]
    exact blind_beginAccess ((unwound.running thread).trans runs) ((idle thread).trans rest) value
      kind
  · rw [blind_enterSection runs rest, ← unwound.guard? value]
    exact blind_enterSection ((unwound.running thread).trans runs) ((idle thread).trans rest) value
  · have same := congrArg (Option.map Prod.fst) (unwound.cells value)
    rw [Option.map_map, Option.map_map] at same
    rw [World.payload?, World.payload?, Option.map_map]
    exact same

/-- A thread that is back where it was, whatever others did meanwhile. -/
structure Resumed (thread : ThreadId) (scene later : Scene α) : Prop where
  /-- It has every lock as often as before. -/
  depth : ∀ value, later.world.depth thread value = scene.world.depth thread value
  /-- The contents that are at its disposal are the same. -/
  lends : ∀ value, 0 < scene.world.depth thread value →
    later.world.lends value = scene.world.lends value

section Runs

variable {past : History} {scene : Scene α} {thread : ThreadId}

/-- Moves of a thread leave it to other threads what these are inside of. -/
theorem Scene.Shift.others {next : Scene α} {move : Move α} {told : History}
    (shift : scene.Shift move told next) (mover : move.thread? = some thread) {other : ThreadId}
    (different : other ≠ thread) (value : ValueId) : next.holds other value =
      scene.holds other value := by
  unfold Scene.holds
  cases shift with
  | still guards closures sections => rw [closures, sections]
  | began actor target kind lock taken free got guards closures sections =>
    cases mover
    rw [closures, sections, if_neg fun both => different both.1, Nat.add_zero]
  | finished actor target change guards closures sections =>
    cases mover
    rw [closures other, sections, if_neg fun both => different both.1, Nat.add_zero]
  | opened actor target clock lock taken asks free got guards closures sections =>
    have same : actor = thread := by
      obtain rfl | rfl := asks
      · exact Option.some.inj mover
      · exact Option.some.inj mover
    rw [closures, sections, if_neg fun both => different (both.1.trans same), Nat.add_zero]
  | closed actor target ends guards closures sections =>
    have same : actor = thread := by
      obtain rfl | rfl := ends
      · exact Option.some.inj mover
      · exact Option.some.inj mover
    rw [closures, sections other, if_neg fun both => different (both.1.trans same), Nat.add_zero]
  | ended actor step ends guards outside closures sections => cases mover
  | made target new guards closures sections => rw [closures, sections]
  | removed target borrowed free guards closures sections => rw [closures, sections]

/-- A thread that is back inside of what it was inside of finds its locks and contents there. -/
theorem resumed_of_run (run : Run past scene) {told : History} {later : Scene α}
    (path : Path scene told later) (frames : later.frames thread = scene.frames thread)
    (sections : (later.world.thread thread).sections = (scene.world.thread thread).sections) :
    Resumed thread scene later := by
  have before := guarded_of_run run
  have after := guarded_of_run (run.trans path)
  have closures : ∀ value, later.closures thread value = scene.closures thread value := by
    intro value
    rw [Scene.closures, frames, Scene.closures]
  have depth : ∀ value, later.world.depth thread value = scene.world.depth thread value := by
    intro value
    rw [before.depth, after.depth, Scene.holds, Scene.holds, closures, Scene.sections, frames,
      sections, Scene.sections]
  -- While the thread has a lock, nobody else can be inside of a closure.
  have mine {scene : Scene α} (guarded : scene.Guarded) {value : ValueId}
      (has : 0 < scene.world.depth thread value) :
      scene.world.lends value = true ↔ 0 < scene.closures thread value := by
    refine (guarded.lends value).trans ⟨fun lent => ?_, fun inside => ⟨thread, inside⟩⟩
    obtain ⟨other, inside⟩ := lent
    rwa [← eq_of_depth has (guarded.depth_of_closures inside)]
  refine ⟨depth, fun value has => Bool.eq_iff_iff.2 ?_⟩
  rw [mine before has, mine after (depth value ▸ has), closures]

/-- Nothing that a thread does changes how often another one has a lock. -/
theorem depth_of_others (run : Run past scene) {move : Move α} {next : Scene α} {told : History}
    (performed : scene.perform? move = some (next, told)) (mover : move.thread? = some thread)
    {other : ThreadId} (different : other ≠ thread) (value : ValueId) :
    next.world.depth other value = scene.world.depth other value := by
  rw [(guarded_of_run run).depth, (guarded_of_run (run.tail performed)).depth]
  exact (Scene.shift_of_perform? (numbered_of_run run) performed).others mover different value

end Runs

namespace World

/-- What a value holds: its content, the table of its accesses, and the threads that race on it. -/
def holding? (world : World α) (value : ValueId) :
    Option (α × ClockTable × SortedMap ThreadId Unit) :=
  (world.cells.get? value).map fun cell => (cell.payload, cell.clock, cell.racing)

/-- Sections that are left leave values as they are. -/
theorem holding?_leaveSections (world : World α) (left : List ValueId) (value : ValueId) :
    (left.foldl leaveSection world).holding? value = world.holding? value := by
  induction left generalizing world with
  | nil => rfl
  | cons first rest ih =>
    rw [List.foldl_cons, ih, holding?, leaveSection, modifyCell, SortedMap.get?_modify]
    split
    · rename_i here
      rw [here, Option.map_map]
      rfl
    · rfl

end World

/-- The move out of something. A closure that is cut short leaves the content as it is. -/
def Frame.wayOut (thread : ThreadId) : Frame → Move α
  | .closure _ _ => .finish thread id
  | .block _ => .leave thread
  | .context => .closeContext thread

/-- The moves with which a thread ends that may be inside of something. -/
def Scene.wayOut (scene : Scene α) (thread : ThreadId) (step : Step α) : List (Move α) :=
  (scene.frames thread).map (Frame.wayOut thread) ++ [.step step]

/-- A thread that has ended with whatever it was inside of and had open. -/
structure Vacated (thread : ThreadId) (scene next : Scene α) : Prop where
  /-- It does not run any more, and its context is gone with it. -/
  gone : next.world.threads.get? thread = none
  /-- It has no lock. -/
  depth : ∀ value, next.world.depth thread value = 0
  /-- Other threads have the locks that they had. -/
  others : ∀ other, other ≠ thread → ∀ value,
    next.world.depth other value = scene.world.depth other value
  /-- Every value holds what it held. -/
  holding : ∀ value, next.world.holding? value = scene.world.holding? value

section Endings

variable {past : History} {scene : Scene α} {thread : ThreadId}

/-- A thread can always get out of what it is inside of. -/
theorem Scene.perform?_wayOut {frame : Frame} {rest : List Frame}
    (runs : scene.world.threads.contains thread = true)
    (frames : scene.frames thread = frame :: rest) :
    ∃ world, scene.perform? (frame.wayOut thread) = some (scene.become world thread rest, []) ∧
      world.threads.contains thread = true ∧
      ∀ value, world.holding? value = scene.world.holding? value := by
  have kept {target : ValueId} {change : Cell α → Cell α}
      (same : ∀ cell, ((change cell).payload, (change cell).clock, (change cell).racing) =
        (cell.payload, cell.clock, cell.racing)) (value : ValueId) :
      (scene.world.modifyCell target change).holding? value = scene.world.holding? value := by
    rw [World.holding?, World.modifyCell, SortedMap.get?_modify]
    split
    · rename_i here
      rw [here, Option.map_map]
      exact congrArg (Option.map · _) (funext same)
    · rfl
  cases frame with
  | closure value kind =>
    refine ⟨_, Scene.perform?_finish runs frames id, runs, ?_⟩
    rw [AccessKind.permitted_id]
    exact kept fun _ => rfl
  | block value => exact ⟨_, Scene.perform?_leave runs frames, runs, kept fun _ => rfl⟩
  | context =>
    exact ⟨_, Scene.perform?_closeContext runs frames,
      ((kept_closeContext scene.world runs).running thread).trans runs, fun _ => rfl⟩

/-- A thread that is inside of nothing ends without the locks it had. -/
theorem vacated_of_ends (run : Run past scene)
    (runs : scene.world.threads.contains thread = true) (outside : scene.frames thread = [])
    {step : Step α} (ends : step.ends? = some thread) :
    ∃ next told, scene.perform? (.step step) = some (next, told) ∧ Vacated thread scene next := by
  have still : step.isActed = false ∧ (scene.world.step step).1 = scene.world.endThread thread := by
    cases step with
    | exit =>
      cases ends
      rw [World.step, World.ifRunning, if_pos runs]
      exact ⟨rfl, rfl⟩
    | crash =>
      cases ends
      rw [World.step, World.ifRunning, if_pos runs]
      exact ⟨rfl, rfl⟩
    | _ => cases ends
  have performed : scene.perform? (.step step) =
      some (scene.withWorld (scene.world.step step).1, _) :=
    Scene.perform?_step still.1 (by rw [ends]; exact List.isEmpty_iff.2 outside)
  have before := guarded_of_run run
  have after := guarded_of_run (run.tail performed)
  rw [still.2] at performed after
  have depth : ∀ other value, (scene.world.endThread thread).depth other value =
      scene.closures other value + if other = thread then 0 else scene.sections other value := by
    intro other value
    rw [← Scene.sections_endThread outside]
    exact after.depth other value
  refine ⟨_, _, performed, ?_, fun value => ?_, fun other different value => ?_,
    fun value => holding?_leaveSections _ _ value⟩
  · exact (get?_endThread thread thread).trans (if_pos rfl)
  · exact (depth thread value).trans (by rw [if_pos rfl, Scene.closures, outside]; rfl)
  · exact (depth other value).trans
      (by rw [if_neg different]; exact (before.depth other value).symm)

/-- A thread can always end, wherever it is. -/
theorem vacated_of_wayOut (run : Run past scene)
    (runs : scene.world.threads.contains thread = true) {step : Step α}
    (ends : step.ends? = some thread) (earlier : History) :
    ∃ next told, scene.playOut? earlier (scene.wayOut thread step) = some (next, told) ∧
      Vacated thread scene next := by
  unfold Scene.wayOut
  generalize inside : scene.frames thread = frames
  -- One frame after another is left, from the innermost one on.
  induction frames generalizing scene past earlier with
  | nil =>
    obtain ⟨next, told, performed, vacated⟩ := vacated_of_ends run runs inside ends
    refine ⟨next, told ++ earlier, ?_, vacated⟩
    simp only [List.map_nil, List.nil_append, Scene.playOut?, performed]
  | cons frame rest ih =>
    obtain ⟨world, performed, runs', held⟩ := Scene.perform?_wayOut runs inside
    obtain ⟨next, told, played, vacated⟩ :=
      ih (run.tail performed) runs' ([] ++ earlier) (if_pos rfl)
    have mover : (frame.wayOut thread : Move α).thread? = some thread := by
      cases frame with
      | _ => rfl
    refine ⟨next, told, ?_, vacated.gone, vacated.depth, fun other different value => ?_,
      fun value => (vacated.holding value).trans (held value)⟩
    · simp only [List.map_cons, List.cons_append, Scene.playOut?, performed]
      exact played
    · exact (vacated.others other different value).trans
        (depth_of_others run performed mover different value)

/-- A value that a thread had the lock of when it ended is free for all others. -/
theorem Vacated.free {next : Scene α} (vacated : Vacated thread scene next)
    (after : next.Guarded) {value : ValueId} (has : 0 < scene.world.depth thread value) :
    next.world.guard? value = some (.free, false) := by
  obtain ⟨cell, stored⟩ := exists_get?_of_depth has
  have held := vacated.holding value
  rw [World.holding?, World.holding?, stored] at held
  obtain ⟨cell', stored', _⟩ := Option.map_eq_some_iff.1 held
  refine after.free (guard?_of_get? _ stored') fun other => ?_
  by_cases here : other = thread
  · rw [here]
    exact vacated.depth value
  · rw [vacated.others other here]
    exact Nat.eq_zero_of_not_pos fun has' => here (eq_of_depth has has')

end Endings

/-- How a thread gives up what it takes. -/
structure Disciplined (thread : ThreadId) (scene : Scene α) : Prop where
  /-- After a body everything is as before, and an attempt at the body resumes from there. -/
  body : ∀ body : List (Action α), ∃ next answers fault,
    Action.runBody thread body scene.world = (next, answers, fault) ∧
      (Action.attempt body).run thread scene.world = (next, .ok (.caught answers fault)) ∧
      Restored (Action.storesBody thread body scene.world) scene.world next
  /-- The same when other threads move in the middle of the body. -/
  resumed : ∀ told later, Path scene told later → later.frames thread = scene.frames thread →
    (later.world.thread thread).sections = (scene.world.thread thread).sections →
      Resumed thread scene later
  /-- Nothing that the thread does changes how often another one has a lock. -/
  others : ∀ move next told, scene.perform? move = some (next, told) →
    move.thread? = some thread → ∀ other, other ≠ thread → ∀ value,
      next.world.depth other value = scene.world.depth other value
  /-- The thread can end at any time, and then has given up whatever it was inside of and had open:
  everybody else can have the values that it had. -/
  ended : ∀ step, step.ends? = some thread → ∃ next told,
    scene.playOut? [] (scene.wayOut thread step) = some (next, told) ∧
      Vacated thread scene next ∧ ∀ value, 0 < scene.world.depth thread value →
        ∀ other, next.world.threads.contains other = true →
          (next.world.thread other).contextInUse = false →
            (∀ kind, (next.world.beginAccess other value kind).2.blind = .begun ()) ∧
              (next.world.enterSection other value).2.blind = .begun ()

section Main

variable {past : History} {scene : Scene α} {thread : ThreadId}

/-- Whatever a running thread does, it gives up what it took: when a body of it ends, when it is
back where it was, and when it ends itself. -/
theorem locks_unwind (run : Run past scene) (runs : scene.world.threads.contains thread = true) :
    Disciplined thread scene where
  body := fun body =>
    ⟨_, _, _, rfl, rfl, (unwound_runBody thread body scene.world runs).restored⟩
  resumed := fun _ _ path frames sections => resumed_of_run run path frames sections
  others := fun _ _ _ performed mover _ different value =>
    depth_of_others run performed mover different value
  ended := fun step ends => by
    obtain ⟨next, told, played, vacated⟩ := vacated_of_wayOut run runs ends []
    have after := guarded_of_run (run.trans (Path.refl.playOut? _ played))
    refine ⟨next, told, played, vacated, fun value has other runs idle => ⟨fun kind => ?_, ?_⟩⟩
    · rw [blind_beginAccess runs idle, vacated.free after has]
      rfl
    · rw [blind_enterSection runs idle, vacated.free after has]
      rfl

/-- A thread that has sections open on two values, and is inside of a closure on one of them,
attempts to change the other one and gives up, and then is cut short at the first one. -/
theorem locks_unwind_of_nested :
    ∃ (past : History) (scene : Scene Nat) (body : List (Action Nat)), Run past scene ∧
      scene.world.depth ⟨0⟩ ⟨0⟩ = 1 ∧ scene.world.depth ⟨0⟩ ⟨1⟩ = 2 ∧
      (Action.runBody ⟨0⟩ body scene.world).2.2 = some (.reentered ⟨1⟩) ∧
      Action.storesBody ⟨0⟩ body scene.world = [(⟨0⟩, 9), (⟨0⟩, 8)] ∧
      Disciplined ⟨0⟩ scene := by
  let body : List (Action Nat) :=
    [.attempt [.write ⟨0⟩ 8, .synchronized ⟨0⟩ .free
        [.update ⟨0⟩ none fun payload => (payload + 1, some "enough")]],
      .update ⟨0⟩ (some [.read ⟨1⟩]) fun payload => (payload + 1, none)]
  obtain ⟨past, scene, run, runs, depth, depth', cut, stored⟩ :
      ∃ (past : History) (scene : Scene Nat), Run past scene ∧
        scene.world.threads.contains ⟨0⟩ = true ∧
        scene.world.depth ⟨0⟩ ⟨0⟩ = 1 ∧ scene.world.depth ⟨0⟩ ⟨1⟩ = 2 ∧
        (Action.runBody ⟨0⟩ body scene.world).2.2 = some (.reentered ⟨1⟩) ∧
        Action.storesBody ⟨0⟩ body scene.world = [(⟨0⟩, 9), (⟨0⟩, 8)] :=
    ⟨_, _, Path.refl.playOut? [.step (.spawn none true), .step (.newDetector none),
      .step (.newValue 6 (some ⟨0⟩) none), .step (.newValue 7 (some ⟨0⟩) none),
      .hold ⟨0⟩ ⟨0⟩, .enter ⟨0⟩ ⟨1⟩, .access ⟨0⟩ ⟨1⟩ .write] rfl, rfl, rfl, rfl,
      by decide +kernel, by decide +kernel⟩
  exact ⟨past, scene, body, run, depth, depth', cut, stored, locks_unwind run runs⟩

end Main

end RaceSentry
