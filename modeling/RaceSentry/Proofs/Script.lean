import RaceSentry.Proofs.Effect

/-!
# Scenarios are runs

A step of a scenario lets a thread do a whole action, with everything that its closures and blocks
do inside of it. What it tells is read off the action, in the order of the source: an access is told
when it begins, before what its closure does. All of it is done by moves of that thread that tell
the same, after which everybody is where they were before. So what holds after every run holds after
every scenario.
Main statement: `run_of_steps`.
-/

namespace RaceSentry

open World

variable {α β : Type}

namespace World

/-- What is told of an access, given what is told of its closure. -/
def accessTells (world : World α) (thread : ThreadId) (value : ValueId) (kind : AccessKind)
    (inside : World α → History) : History :=
  match world.beginAccess thread value kind with
  | (next, .begun sighting) =>
    inside next ++ world.accessHappenings thread value kind (.begun sighting)
  | (_, attempt) => world.accessHappenings thread value kind attempt

/-- What is told of a section, given what is told of its block. -/
def sectionTells (world : World α) (thread : ThreadId) (value : ValueId)
    (inside : World α → History) : History :=
  match world.enterSection thread value with
  | (next, .begun _) => inside next ++ [.entered thread value (world.clockOf value)]
  | _ => []

/-- The context that a thread puts in place of its own. -/
def freshContext (world : World α) (thread : ThreadId) :
    Option (ThreadId × Option String) → ThreadContext
  | some (identity, name) => .new identity name
  | none => .new thread (world.thread thread).name

/-- What is told of a thread that edits its context. -/
def editTells (world : World α) (thread : ThreadId) (change : ThreadContext → ThreadContext) :
    History :=
  if (world.thread thread).contextInUse then []
  else [.edited thread (change (world.ensureContext thread).2)]

/-- What is told of a request to a context, with everything it names in place. A first context that
has seen nothing is as good as none. -/
def requestTells (world : World α) (thread : ThreadId) : ContextRequest → History
  | .record value key counter =>
    world.editTells thread fun context => context.record value key counter
  | .replace value entries =>
    world.editTells thread fun context => context.replace value (SortedMap.ofList entries)
  | .forget value => world.editTells thread fun context => context.forget value
  | .attach origin =>
    if (world.thread thread).contextInUse || (world.thread thread).context.isNone then []
    else [.edited thread (world.freshContext thread origin)]
  | _ => []

/-- What is told of a thread that turns to its context. -/
def contextTells (world : World α) (thread : ThreadId) (request : ContextRequest) : History :=
  match world.lookUp request with
  | some _ => []
  | none => world.requestTells thread request

end World

namespace Action

mutual

/-- What is told of an action. -/
def tells (thread : ThreadId) : Action α → World α → History
  | .read value, world => world.accessTells thread value .read fun _ => []
  | .readWith value body _, world =>
    world.accessTells thread value .read (tellsInside thread body)
  | .write value _, world => world.accessTells thread value .write fun _ => []
  | .replace value _, world => world.accessTells thread value .write fun _ => []
  | .update value body _, world =>
    world.accessTells thread value .write (tellsInside thread body)
  | .synchronized value _ body, world => world.sectionTells thread value (tellsBody thread body)
  | .attempt body, world => tellsBody thread body world
  | .raise _, _ => []
  | .query _ _, _ => []
  | .describe _ _, _ => []
  | .context request, world => world.contextTells thread request
  | .withContext body, world =>
    match world.openContext thread with
    | (next, .ok ()) => tellsBody thread body next
    | (_, .error _) => []
  | .unclear _, _ => []

/-- What is told of the actions of a body, up to the first fault. -/
def tellsBody (thread : ThreadId) : List (Action α) → World α → History
  | [], _ => []
  | action :: rest, world =>
    match action.run thread world with
    | (_, .error _) => tells thread action world
    | (next, .ok _) => tellsBody thread rest next ++ tells thread action world

/-- What is told of the body of a closure, if it has one. -/
def tellsInside (thread : ThreadId) : Option (List (Action α)) → World α → History
  | none, _ => []
  | some body, world => tellsBody thread body world

end

end Action

/-- What is told of a step. -/
def Step.tells (world : World α) : Step α → History
  | .enter thread value =>
    if world.threads.contains thread then world.sectionTells thread value fun _ => [] else []
  | .leave _ => []
  | .act thread action =>
    if world.threads.contains thread then action.tells thread world else []
  | step => step.happenings world (world.step step).1

namespace World

/-- The world after steps. -/
def after (world : World α) (steps : List (Step α)) : World α :=
  steps.foldl (fun world step => (world.step step).1) world

/-- What is told of steps. -/
def tells (world : World α) : List (Step α) → History
  | [] => []
  | step :: rest => (world.step step).1.tells rest ++ step.tells world

end World

/-- Moves that tell something lead from a scene to a world in which the same threads run and the
same values exist, and everybody is where they were. -/
def Leads (scene : Scene α) (told : History) (world : World α) : Prop :=
  Path scene told (scene.withWorld world) ∧ Alike scene.world world

/-- One move makes a path. -/
theorem Path.single {scene next : Scene α} {move : Move α} {happenings : List Happening}
    (performed : scene.perform? move = some (next, happenings)) :
    Path scene happenings next := by
  have path : Path scene (happenings ++ []) next := Path.refl.tail performed
  rwa [List.append_nil] at path

/-- Numbers stay in order along a path. -/
theorem Path.numbered {start scene : Scene α} {past : History} (path : Path start past scene)
    (numbered : Numbered start.world) : Numbered scene.world := by
  induction path with
  | refl => exact numbered
  | tail _ performed ih => exact (Scene.turn_of_perform? ih performed).numbered ih

/-- What a thread goes into and comes out of again leaves it where it was. -/
theorem Scene.become_into (scene : Scene α) (thread : ThreadId) (frame : Frame)
    (between later world : World α) :
    ((scene.into between thread frame).withWorld later).become world thread (scene.frames thread) =
      scene.withWorld world := by
  have frames : (fun other => if other = thread then scene.frames thread
      else (scene.into between thread frame).frames other) = scene.frames := by
    funext other
    by_cases here : other = thread
    · rw [if_pos here, here]
    · rw [if_neg here]
      exact if_neg here
  exact congrArg (Scene.mk world) frames

namespace Leads

variable {scene : Scene α} {world between later : World α} {thread : ThreadId}
  {told more : History}

/-- No moves lead where they begin. -/
theorem stay (scene : Scene α) : Leads scene [] scene.world := ⟨.refl, .refl _⟩

/-- Moves that lead on from where others led come from where those began. -/
theorem trans (first : Leads scene told between)
    (second : Leads (scene.withWorld between) more world) : Leads scene (more ++ told) world :=
  ⟨Path.trans first.1 second.1, first.2.trans second.2⟩

/-- Threads run where moves lead. -/
theorem running (leads : Leads scene told world)
    (runs : scene.world.threads.contains thread = true) :
    world.threads.contains thread = true := by
  rw [leads.2.running]
  exact runs

/-- Everything is numbered where moves lead. -/
theorem numbered (leads : Leads scene told world) (numbered : Numbered scene.world) :
    Numbered world :=
  leads.1.numbered numbered

/-- One move that leaves everybody where they are. -/
theorem move {move : Move α} {happenings : List Happening}
    (performed : scene.perform? move = some (scene.withWorld world, happenings))
    (alike : Alike scene.world world) : Leads scene happenings world :=
  ⟨.single performed, alike⟩

/-- A move into something, what is done inside of it, and a move out of it again, which tells
nothing. -/
theorem inside {frame : Frame} {into out : Move α} {happenings : List Happening}
    (goes : scene.perform? into = some (scene.into between thread frame, happenings))
    (alike : Alike scene.world between)
    (leads : Leads (scene.into between thread frame) told later)
    (comes : ((scene.into between thread frame).withWorld later).perform? out =
      some (((scene.into between thread frame).withWorld later).become world thread
        (scene.frames thread), []))
    (alike' : Alike later world) : Leads scene (told ++ happenings) world := by
  obtain ⟨path, within⟩ := leads
  rw [Scene.become_into] at comes
  exact ⟨(Path.trans (.single goes) path).tail comes, (alike.trans within).trans alike'⟩

end Leads

section Moves

variable {scene : Scene α} {thread : ThreadId} {value : ValueId} {kind : AccessKind}

/-- A closure that may only look at the content leaves it as it is. -/
theorem World.endAccess_permitted {world : World α} {cell : Cell α}
    (found : world.cells.get? value = some cell) {work : α → α × β}
    (permitted : kind = .read → ∀ payload, (work payload).1 = payload) :
    world.endAccess value (kind.permitted fun _ => (work cell.payload).1) =
      world.endAccess value fun _ => (work cell.payload).1 := by
  cases kind with
  | write => rfl
  | read =>
    refine modifyCell_congr world found ?_
    rw [permitted rfl]
    rfl

/-- A thread that is inside of a closure can end it. -/
theorem Scene.perform?_finish {rest : List Frame}
    (runs : scene.world.threads.contains thread = true)
    (frames : scene.frames thread = .closure value kind :: rest) (change : α → α) :
    scene.perform? (.finish thread change) =
      some (scene.become (scene.world.endAccess value (kind.permitted change)) thread rest,
        []) :=
  Scene.Outcome.perform? (.finish change frames) rfl runs

/-- A thread that is inside of a section can leave it. -/
theorem Scene.perform?_leave {rest : List Frame}
    (runs : scene.world.threads.contains thread = true)
    (frames : scene.frames thread = .block value :: rest) :
    scene.perform? (.leave thread) =
      some (scene.become (scene.world.leaveSection value) thread rest, []) :=
  Scene.Outcome.perform? (.leave frames) rfl runs

/-- A thread that works on its context can stop. -/
theorem Scene.perform?_closeContext {rest : List Frame}
    (runs : scene.world.threads.contains thread = true)
    (frames : scene.frames thread = .context :: rest) :
    scene.perform? (.closeContext thread) =
      some (scene.become (scene.world.closeContext thread) thread rest, []) :=
  Scene.Outcome.perform? (.closeContext frames) rfl runs

end Moves

/-- An access that is asked for leaves the same threads running and the same values in existence. -/
theorem alike_of_asksAccess {world next : World α} {thread : ThreadId} {value : ValueId}
    {kind : AccessKind} {attempt : Attempt (Option Sighting)}
    (runs : world.threads.contains thread = true)
    (asked : world.AsksAccess thread value kind next attempt) : Alike world next := by
  cases asked with
  | reentered cell lock found taken borrowed => exact alike_note world _
  | stalled cell lock found taken free on busy => exact alike_countAccess world found _
  | unwatched cell lock found taken free off => exact (kept_take world value lock).toAlike
  | clean cell lock found taken free on idle nothing =>
    exact (alike_tallyAccess world runs found).trans (kept_take _ value lock).toAlike
  | flagged cell lock found taken free on idle something =>
    exact (alike_flagged world runs found).trans (kept_take _ value lock).toAlike

/-- A section that is asked for leaves the same threads running and the same values in existence. -/
theorem alike_of_asksSection {world next : World α} {thread : ThreadId} {value : ValueId}
    {attempt : Attempt Nat} (runs : world.threads.contains thread = true)
    (asked : world.AsksSection thread value next attempt) : Alike world next := by
  cases asked with
  | reentered cell lock found taken borrowed => exact .refl world
  | stalled cell lock found taken free busy => exact alike_note world _
  | entered cell lock found taken free idle =>
    have noted := alike_note world (.entering value cell.label cell.clock.size)
    have adopted := alike_adoptClock (world.note (.entering value cell.label cell.clock.size)) runs
      value cell.clock
    refine (noted.trans adopted).trans (Kept.toAlike ?_)
    exact kept_modifyCell _ value fun _ => rfl

/-- Accesses are begun to values that exist. -/
theorem World.AsksAccess.present {world next : World α} {thread : ThreadId} {value : ValueId}
    {kind : AccessKind} {attempt : Attempt (Option Sighting)}
    (asked : world.AsksAccess thread value kind next attempt) :
    world.cells.contains value = true := by
  cases asked with
  | _ => exact (SortedMap.contains_iff _ _).2 ⟨_, by assumption⟩

/-- An access that cannot be had, because there is no value or another thread has its lock, leaves
the world as it is. -/
theorem eq_of_beginAccess {world next : World α} {thread : ThreadId} {value : ValueId}
    {kind : AccessKind} {attempt : Attempt (Option Sighting)}
    (asked : world.beginAccess thread value kind = (next, attempt))
    (unavailable : attempt = .noValue ∨ attempt = .blocked) : next = world := by
  unfold beginAccess at asked
  split at asked
  · exact (Prod.mk.inj asked).1.symm
  · split at asked
    · exact (Prod.mk.inj asked).1.symm
    · split at asked
      · cases asked
        exact absurd unavailable (by simp)
      · split at asked
        · cases asked
          exact absurd unavailable (by simp)
        · cases asked
          exact absurd unavailable (by simp)

/-- A section that cannot be had leaves the world as it is, too. -/
theorem eq_of_enterSection {world next : World α} {thread : ThreadId} {value : ValueId}
    {attempt : Attempt Nat} (asked : world.enterSection thread value = (next, attempt))
    (unavailable : attempt = .noValue ∨ attempt = .blocked) : next = world := by
  unfold enterSection at asked
  split at asked
  · exact (Prod.mk.inj asked).1.symm
  · split at asked
    · exact (Prod.mk.inj asked).1.symm
    · split at asked
      · cases asked
        exact absurd unavailable (by simp)
      · dsimp only at asked
        split at asked
        · cases asked
          exact absurd unavailable (by simp)
        · cases asked
          exact absurd unavailable (by simp)

section Bodies

variable {scene : Scene α} {thread : ThreadId} {value : ValueId}

/-- An access is a move, with the moves of its body, and another move when the closure ends. -/
theorem leads_access (runs : scene.world.threads.contains thread = true)
    (numbered : Numbered scene.world) (kind : AccessKind)
    {body : World α → World α × Option (List (Answer α)) × Option Fault}
    {work : α → α × Except String (Result α)}
    (permitted : kind = .read → ∀ payload, (work payload).1 = payload)
    {told : World α → History}
    (inside : ∀ scene : Scene α, scene.world.threads.contains thread = true →
      Numbered scene.world → Leads scene (told scene.world) (body scene.world).1) :
    Leads scene (scene.world.accessTells thread value kind told)
      (scene.world.access thread value kind body work).1 := by
  have performs : scene.perform? (.access thread value kind) = scene.carryOut? _ :=
    Scene.perform?_of_runs rfl runs
  unfold Scene.carryOut? at performs
  unfold World.access World.accessTells
  cases asked : scene.world.beginAccess thread value kind with
  | mk begun attempt =>
    simp only [asked] at performs
    cases attempt with
    | noValue =>
      rw [show begun = scene.world from eq_of_beginAccess asked (.inl rfl)]
      exact .stay scene
    | blocked =>
      rw [show begun = scene.world from eq_of_beginAccess asked (.inr rfl)]
      exact .stay scene
    | faulted fault =>
      have alike := alike_of_asksAccess runs (asksAccess_of_beginAccess asked nofun nofun)
      cases fault with
      | borrowed => exact .move performs alike
      | _ => exact .move performs alike
    | begun sighting =>
      have asks := asksAccess_of_beginAccess asked nofun nofun
      have alike := alike_of_asksAccess runs asks
      have running : begun.threads.contains thread = true := (alike.running thread).trans runs
      have leads : Leads (scene.into begun thread (.closure value kind)) (told begun)
          (body begun).1 :=
        inside _ running (Path.numbered (.single performs) numbered)
      have closes (change : α → α) : Leads scene
          (told begun ++ scene.world.accessHappenings thread value kind (.begun sighting))
          ((body begun).1.endAccess value (kind.permitted change)) :=
        .inside performs alike leads
          (Scene.perform?_finish (leads.running running) (if_pos rfl) change)
          (kept_endAccess _ value _).toAlike
      dsimp only
      cases done : body begun with
      | mk later outcome =>
        rw [done] at closes
        obtain ⟨answers, fault⟩ := outcome
        cases fault with
        | some fault =>
          have ends := closes id
          rw [AccessKind.permitted_id] at ends
          exact ends
        | none =>
          cases found : later.cells.get? value with
          | none =>
            have present : later.cells.contains value = true := by
              rw [done] at leads
              exact (leads.2.present value).trans ((alike.present value).trans asks.present)
            rw [SortedMap.contains, found] at present
            cases present
          | some cell =>
            have ends := closes fun _ => (work cell.payload).1
            rw [endAccess_permitted found permitted] at ends
            simp only [found]
            cases (work cell.payload).2 with
            | error text => exact ends
            | ok result => exact ends

/-- A section is a move, with the moves of its block, and another move when the block ends. -/
theorem leads_section (runs : scene.world.threads.contains thread = true) (value : ValueId)
    (numbered : Numbered scene.world) {body : World α → World α × β} {told : World α → History}
    (inside : ∀ scene : Scene α, scene.world.threads.contains thread = true →
      Numbered scene.world → Leads scene (told scene.world) (body scene.world).1) :
    Leads scene (scene.world.sectionTells thread value told)
      (match scene.world.enterSection thread value with
        | (world, .begun _) => (body world).1.leaveSection value
        | (world, _) => world) := by
  have performs : scene.perform? (.enter thread value) = scene.carryOut? _ :=
    Scene.perform?_of_runs rfl runs
  unfold Scene.carryOut? at performs
  unfold World.sectionTells
  cases asked : scene.world.enterSection thread value with
  | mk begun attempt =>
    simp only [asked] at performs
    cases attempt with
    | noValue =>
      rw [show begun = scene.world from eq_of_enterSection asked (.inl rfl)]
      exact .stay scene
    | blocked =>
      rw [show begun = scene.world from eq_of_enterSection asked (.inr rfl)]
      exact .stay scene
    | faulted fault =>
      exact .move performs
        (alike_of_asksSection runs (asksSection_of_enterSection asked nofun nofun))
    | begun entries =>
      have alike := alike_of_asksSection runs (asksSection_of_enterSection asked nofun nofun)
      have running : begun.threads.contains thread = true := (alike.running thread).trans runs
      have leads := inside (scene.into begun thread (.block value)) running
        (Path.numbered (.single performs) numbered)
      exact .inside performs alike leads
        (Scene.perform?_leave (leads.running running) (if_pos rfl))
        (kept_leaveSection _ value).toAlike

/-- Looking at a value under its lock is at most one move. -/
theorem leads_inspect (runs : scene.world.threads.contains thread = true)
    {look : Cell α → β} {world : World α} {attempt : Attempt β}
    (looked : scene.world.inspect thread value look = (world, attempt)) :
    Leads scene [] world := by
  rw [show world = (scene.world.inspect thread value look).1 by rw [looked]]
  have performs : scene.perform? (.look thread value) = scene.carryOut? _ :=
    Scene.perform?_of_runs rfl runs
  have alike := (kept_inspect scene.world thread value look).toAlike
  unfold Scene.carryOut? at performs
  unfold World.inspect at performs alike ⊢
  cases found : scene.world.cells.get? value with
  | none => exact .stay scene
  | some cell =>
    simp only [found] at performs alike ⊢
    cases admitted : cell.lock.admits thread with
    | false => exact .stay scene
    | true =>
      simp only [admitted, Bool.not_true, Bool.false_eq_true, ↓reduceIte] at performs alike ⊢
      cases borrowed : cell.borrowed with
      | false => exact .stay scene
      | true =>
        simp only [borrowed, ↓reduceIte] at performs alike ⊢
        exact .move performs alike

/-- Work on the context of a thread is a move, with the moves of its body, and another move when it
is over. -/
theorem leads_openContext (runs : scene.world.threads.contains thread = true)
    (idle : (scene.world.thread thread).contextInUse = false) {inner : World α} {told : History}
    (inside : Leads (scene.into (scene.world.openContext thread).1 thread .context) told inner) :
    Leads scene told (inner.closeContext thread) := by
  have performs : scene.perform? (.openContext thread) =
      some (scene.into (scene.world.openContext thread).1 thread .context, []) :=
    Scene.Outcome.perform? (.openContext idle) rfl runs
  have alike := (kept_openContext scene.world runs).toAlike
  have running : inner.threads.contains thread = true :=
    inside.running ((alike.running thread).trans runs)
  have leads : Leads scene (told ++ []) (inner.closeContext thread) :=
    .inside performs alike inside (Scene.perform?_closeContext running (if_pos rfl))
      (kept_closeContext inner running).toAlike
  rwa [List.append_nil] at leads

/-- A thread that works on its context has one, and has it in use. -/
theorem thread_openContext {world : World α} (idle : (world.thread thread).contextInUse = false) :
    (world.openContext thread).1.thread thread =
      { world.thread thread with
        context := some (world.ensureContext thread).2, contextInUse := true } := by
  rw [World.openContext, if_neg (by simp [idle])]
  simp only [thread_setThread, if_true, thread_ensureContext]

/-- A context that is worked on and left as it is was at most made. -/
theorem closeContext_openContext {world : World α}
    (idle : (world.thread thread).contextInUse = false) :
    (world.openContext thread).1.closeContext thread =
      (world.ensureContext thread).1.bindContext thread (world.ensureContext thread).2 := by
  have state : (world.ensureContext thread).1.thread thread =
      { world.thread thread with context := some (world.ensureContext thread).2 } := by
    rw [thread_ensureContext, if_pos rfl]
  rw [World.openContext, if_neg (by simp [idle])]
  simp only [closeContext, bindContext, thread_setThread, if_true, state]
  rw [setThread, setThread, setThread, SortedMap.insert_insert, ← idle]

/-- A context that is edited is bound in place of the old one. -/
theorem closeContext_bindContext {world : World α}
    (idle : (world.thread thread).contextInUse = false) (context : ThreadContext) :
    ((world.openContext thread).1.bindContext thread context).closeContext thread =
      (world.ensureContext thread).1.bindContext thread context := by
  have state : (world.ensureContext thread).1.thread thread =
      { world.thread thread with context := some (world.ensureContext thread).2 } := by
    rw [thread_ensureContext, if_pos rfl]
  rw [World.openContext, if_neg (by simp [idle])]
  simp only [closeContext, bindContext, thread_setThread, if_true, state]
  rw [setThread, setThread, setThread, setThread, SortedMap.insert_insert, SortedMap.insert_insert,
    ← idle]

/-- Looking into a context is work on it that edits nothing. -/
theorem leads_peek (runs : scene.world.threads.contains thread = true)
    {work : ThreadContext → ThreadContext × β} (same : ∀ context, (work context).1 = context) :
    Leads scene [] (scene.world.withContext thread work).1 := by
  cases idle : (scene.world.thread thread).contextInUse with
  | true =>
    rw [withContext_of_inUse scene.world thread work idle]
    exact .stay scene
  | false =>
    rw [withContext_eq scene.world thread work idle, same, ← closeContext_openContext idle]
    exact leads_openContext runs idle (.stay _)

/-- Editing a context is work on it with one more move in between. -/
theorem leads_edit (runs : scene.world.threads.contains thread = true)
    (change : ThreadContext → ThreadContext) (result : ThreadContext → β)
    (known : scene.world.knowsAll (change (scene.world.ensureContext thread).2) = true) :
    Leads scene (scene.world.editTells thread change)
      (scene.world.withContext thread fun context => (change context, result context)).1 := by
  unfold World.editTells
  cases idle : (scene.world.thread thread).contextInUse with
  | true =>
    rw [withContext_of_inUse scene.world thread _ idle]
    exact .stay scene
  | false =>
    rw [withContext_eq scene.world thread _ idle, ← closeContext_bindContext idle]
    have state := thread_openContext idle
    have alike := (kept_openContext scene.world runs).toAlike
    have running := (alike.running thread).trans runs
    have admitted : (scene.world.openContext thread).1.knowsAll
        (change (scene.world.ensureContext thread).2) = true := by
      rw [World.knowsAll, alike.made]
      exact known
    have edits : Leads (scene.into (scene.world.openContext thread).1 thread .context)
        [.edited thread (change (scene.world.ensureContext thread).2)]
        ((scene.world.openContext thread).1.bindContext thread
          (change (scene.world.ensureContext thread).2)) :=
      .move (Scene.Outcome.perform? (.edit change (congrArg ThreadState.context state)
        (congrArg ThreadState.contextInUse state) admitted) rfl running)
        (alike_bindContext _ running _)
    exact leads_openContext runs idle edits

/-- A context speaks of values that were made if it has seen no others. -/
theorem knowsAll_of_snapshot? {world : World α} {context : ThreadContext}
    (made : ∀ value, (context.snapshot? value).isSome → value.index < world.made) :
    world.knowsAll context = true := by
  refine List.all_eq_true.2 fun value member => decide_eq_true (made value ?_)
  exact (SortedMap.mem_keys_iff _ _).1 member

/-- A request that names a value is turned down unless the value exists. -/
theorem contains_of_unless {world : World α} {more : Option Refusal}
    (there : (if world.cells.contains value then none else some Refusal.noValue).or more = none) :
    world.cells.contains value = true := by
  cases present : world.cells.contains value with
  | true => rfl
  | false =>
    rw [present] at there
    cases there

/-- Putting a context in place of one's own is one move. -/
theorem leads_bindContext (runs : scene.world.threads.contains thread = true)
    {context : ThreadContext} (known : scene.world.knowsAll context = true) :
    Leads scene
      (if (scene.world.thread thread).contextInUse then []
        else if (scene.world.thread thread).context.isNone && context.snapshots.isEmpty then []
        else [.edited thread context])
      (if (scene.world.thread thread).contextInUse then scene.world.noteAttached context
      else (scene.world.noteAttached context).bindContext thread context) := by
  have performs : scene.perform? (.attach thread context) = scene.carryOut? _ :=
    Scene.perform?_of_runs rfl runs
  have noted := alike_note scene.world (.attached context.identity context.name)
  unfold Scene.carryOut? at performs
  simp only [known, Bool.not_true, Bool.false_eq_true, ↓reduceIte] at performs
  cases busy : (scene.world.thread thread).contextInUse with
  | true =>
    simp only [busy, ↓reduceIte] at performs ⊢
    exact .move performs noted
  | false =>
    simp only [busy, Bool.false_eq_true, ↓reduceIte] at performs ⊢
    exact .move performs (noted.trans (alike_bindContext (scene.world.note _) runs context))

/-- A context put in place of another one is a move, or nothing at all. -/
theorem leads_attach (runs : scene.world.threads.contains thread = true)
    (origin : Option (ThreadId × Option String)) :
    Leads scene (scene.world.requestTells thread (.attach origin))
      (scene.world.answerRequest thread (.attach origin)).1 := by
  have blank : (scene.world.freshContext thread origin).snapshots = ∅ := by
    cases origin with
    | none => rfl
    | some origin => rfl
  have known : scene.world.knowsAll (scene.world.freshContext thread origin) = true := by
    rw [World.knowsAll, blank]
    rfl
  have leads := leads_bindContext runs known
  have told : scene.world.requestTells thread (.attach origin) =
      if (scene.world.thread thread).contextInUse then []
      else if (scene.world.thread thread).context.isNone &&
        (scene.world.freshContext thread origin).snapshots.isEmpty then []
      else [.edited thread (scene.world.freshContext thread origin)] := by
    rw [requestTells, blank]
    cases (scene.world.thread thread).contextInUse with
    | true => rfl
    | false =>
      cases (scene.world.thread thread).context with
      | none => rfl
      | some context => rfl
  unfold answerRequest
  dsimp only
  rw [apply_ite Prod.fst, told]
  cases origin with
  | none => exact leads
  | some origin => exact leads

/-- What is asked of a context, or done to it, is done by moves. -/
theorem leads_answerRequest (runs : scene.world.threads.contains thread = true)
    (numbered : Numbered scene.world) {request : ContextRequest}
    (there : scene.world.lookUp request = none) :
    Leads scene (scene.world.requestTells thread request)
      (scene.world.answerRequest thread request).1 := by
  have old : ∀ other, ((scene.world.ensureContext thread).2.snapshot? other).isSome →
      other.index < scene.world.made := by
    intro other held
    rw [snapshot?_ensureContext] at held
    exact numbered.snapshots thread other held
  cases request with
  | key kind => exact .stay scene
  | snapshotOf value =>
    unfold answerRequest
    dsimp only
    split
    · exact .stay scene
    · exact .stay scene
  | summary => exact leads_peek runs fun _ => rfl
  | snapshot value => exact leads_peek runs fun _ => rfl
  | record value key counter =>
    refine leads_edit runs (fun context => context.record value key counter) _
      (knowsAll_of_snapshot? fun other held => ?_)
    rw [ThreadContext.snapshot?_record] at held
    split at held
    · rename_i same
      rw [same]
      exact numbered.cells value (contains_of_unless there)
    · exact old other held
  | replace value entries =>
    refine leads_edit runs (fun context => context.replace value (SortedMap.ofList entries)) _
      (knowsAll_of_snapshot? fun other held => ?_)
    rw [ThreadContext.snapshot?_replace] at held
    split at held
    · rename_i same
      rw [same]
      exact numbered.cells value (contains_of_unless there)
    · exact old other held
  | forget value =>
    refine leads_edit runs (fun context => context.forget value) _
      (knowsAll_of_snapshot? fun other held => ?_)
    rw [ThreadContext.snapshot?_forget] at held
    split at held
    · cases held
    · exact old other held
  | attach origin => exact leads_attach runs origin

/-- A request to a context is made by moves. -/
theorem leads_answerContext (runs : scene.world.threads.contains thread = true)
    (numbered : Numbered scene.world) (request : ContextRequest) :
    Leads scene (scene.world.contextTells thread request)
      (scene.world.answerContext thread request).1 := by
  unfold answerContext contextTells
  cases there : scene.world.lookUp request with
  | some reason => exact .stay scene
  | none => exact leads_answerRequest runs numbered there

/-- A question to a value is at most one move. -/
theorem leads_answerQuery (runs : scene.world.threads.contains thread = true) (value : ValueId)
    (query : Query) : Leads scene [] (scene.world.answerQuery thread value query).1 := by
  cases query with
  | isRacing other =>
    unfold answerQuery
    dsimp only
    split
    · exact .stay scene
    · split
      · exact .stay scene
      · split
        · exact .stay scene
        · split
          · rename_i looked
            exact leads_inspect runs looked
          · rename_i looked
            exact leads_inspect runs looked
  | _ =>
    unfold answerQuery
    dsimp only
    split
    · rename_i looked
      exact leads_inspect runs looked
    · rename_i looked
      exact leads_inspect runs looked

end Bodies

mutual

/-- Whatever an action of a thread does is done by moves of that thread. -/
theorem leads_run (thread : ThreadId) (action : Action α) (scene : Scene α)
    (runs : scene.world.threads.contains thread = true) (numbered : Numbered scene.world) :
    Leads scene (action.tells thread scene.world) (action.run thread scene.world).1 := by
  cases action with
  | read value =>
    exact leads_access runs numbered .read (fun _ _ => rfl) fun scene _ _ => .stay scene
  | readWith value body measure =>
    exact leads_access runs numbered .read (fun _ _ => rfl) fun scene runs numbered =>
      leads_runInside thread body scene runs numbered
  | write value payload =>
    exact leads_access runs numbered .write nofun fun scene _ _ => .stay scene
  | replace value payload =>
    exact leads_access runs numbered .write nofun fun scene _ _ => .stay scene
  | update value body change =>
    exact leads_access runs numbered .write nofun fun scene runs numbered =>
      leads_runInside thread body scene runs numbered
  | synchronized value route body =>
    have leads := leads_section runs value numbered fun scene runs numbered =>
      leads_runBody thread body scene runs numbered
    unfold Action.run
    cases asked : scene.world.enterSection thread value with
    | mk begun attempt =>
      rw [asked] at leads
      cases attempt with
      | begun entries =>
        dsimp only at leads ⊢
        cases done : Action.runBody thread body begun with
        | mk later outcome =>
          rw [done] at leads
          obtain ⟨answers, fault⟩ := outcome
          cases fault with
          | none => exact leads
          | some fault => exact leads
      | _ => exact leads
  | attempt body => exact leads_runBody thread body scene runs numbered
  | raise text => exact .stay scene
  | query value question => exact leads_answerQuery runs value question
  | describe value spread =>
    unfold Action.run
    split
    · exact .stay scene
    · exact .stay scene
  | context request => exact leads_answerContext runs numbered request
  | withContext body =>
    unfold Action.run Action.tells
    cases idle : (scene.world.thread thread).contextInUse with
    | true =>
      rw [openContext_of_inUse scene.world idle]
      exact .stay scene
    | false =>
      have kept := kept_openContext scene.world runs
      have leads : Leads scene (Action.tellsBody thread body (scene.world.openContext thread).1)
          ((Action.runBody thread body (scene.world.openContext thread).1).1.closeContext
            thread) :=
        leads_openContext runs idle (leads_runBody thread body _
          ((kept.running thread).trans runs) (kept.numbered numbered))
      rw [openContext_of_idle scene.world idle]
      dsimp only
      cases done : Action.runBody thread body (scene.world.openContext thread).1 with
      | mk later outcome =>
        rw [done] at leads
        obtain ⟨answers, fault⟩ := outcome
        cases fault with
        | none => exact leads
        | some fault => exact leads
  | unclear fragment => exact .stay scene

/-- Whatever the actions of a body do is done by moves. -/
theorem leads_runBody (thread : ThreadId) (body : List (Action α)) (scene : Scene α)
    (runs : scene.world.threads.contains thread = true) (numbered : Numbered scene.world) :
    Leads scene (Action.tellsBody thread body scene.world)
      (Action.runBody thread body scene.world).1 := by
  cases body with
  | nil => exact .stay scene
  | cons action rest =>
    have first := leads_run thread action scene runs numbered
    unfold Action.runBody Action.tellsBody
    cases done : action.run thread scene.world with
    | mk between outcome =>
      rw [done] at first
      cases outcome with
      | error fault => exact first
      | ok answer =>
        exact first.trans (leads_runBody thread rest (scene.withWorld between) (first.running runs)
          (first.numbered numbered))

/-- Work inside of a closure or section is made by moves. -/
theorem leads_runInside (thread : ThreadId) (body : Option (List (Action α))) (scene : Scene α)
    (runs : scene.world.threads.contains thread = true) (numbered : Numbered scene.world) :
    Leads scene (Action.tellsInside thread body scene.world)
      (Action.runInside thread body scene.world).1 := by
  cases body with
  | none => exact .stay scene
  | some body => exact leads_runBody thread body scene runs numbered

end

/-- A scene in which nobody is inside of anything. -/
def Scene.still (world : World α) : Scene α := ⟨world, fun _ => []⟩

section Steps

variable {world : World α} {past : History}

/-- Moves that lead on from a run make a longer run. -/
theorem Leads.run {next : World α} {told : History} (leads : Leads (.still world) told next)
    (run : Run past (.still world)) : Run (told ++ past) (Scene.still next) :=
  Path.trans run leads.1

/-- Opening a section that outlasts the step is at most one move. -/
theorem leads_enter {scene : Scene α} {thread : ThreadId}
    (runs : scene.world.threads.contains thread = true) (value : ValueId) :
    Leads scene (scene.world.sectionTells thread value fun _ => [])
      (scene.world.enter thread value).1 := by
  have performs : scene.perform? (.hold thread value) = scene.carryOut? _ :=
    Scene.perform?_of_runs rfl runs
  unfold Scene.carryOut? World.enter at performs
  unfold World.enter World.sectionTells
  cases asked : scene.world.enterSection thread value with
  | mk begun attempt =>
    simp only [asked] at performs
    cases attempt with
    | noValue =>
      rw [show begun = scene.world from eq_of_enterSection asked (.inl rfl)]
      exact .stay scene
    | blocked =>
      rw [show begun = scene.world from eq_of_enterSection asked (.inr rfl)]
      exact .stay scene
    | faulted fault =>
      exact .move performs
        (alike_of_asksSection runs (asksSection_of_enterSection asked nofun nofun))
    | begun entries =>
      have alike := alike_of_asksSection runs (asksSection_of_enterSection asked nofun nofun)
      exact .move performs
        (alike.trans (alike_setThread begun ((alike.running thread).trans runs) _))

/-- Closing the innermost open section is at most one move. -/
theorem leads_leave {scene : Scene α} {thread : ThreadId}
    (runs : scene.world.threads.contains thread = true) :
    Leads scene [] (scene.world.leave thread).1 := by
  unfold World.leave
  cases sections : (scene.world.thread thread).sections with
  | nil =>
    simp only [sections]
    exact .stay scene
  | cons value outer =>
    have performs : scene.perform? (.drop thread value) = scene.carryOut? _ :=
      Scene.perform?_of_runs rfl runs
    unfold Scene.carryOut? at performs
    simp only [sections, List.mem_cons_self, ↓reduceIte, List.erase_cons_head] at performs ⊢
    exact .move performs
      ((alike_setThread scene.world runs _).trans (kept_leaveSection _ value).toAlike)

/-- A step in which no thread acts is one move, unless it ends a thread that is inside of
something. -/
theorem Scene.perform?_step {scene : Scene α} {step : Step α} (still : step.isActed = false)
    (outside : step.ends?.all (fun thread => (scene.frames thread).isEmpty) = true) :
    scene.perform? (.step step) = some (scene.withWorld (scene.world.step step).1,
      step.happenings scene.world (scene.world.step step).1) := by
  unfold Scene.perform? Scene.carryOut?
  simp only [Move.thread?, Option.all_none, still, outside, Bool.not_false, Bool.and_self,
    ↓reduceIte]

/-- A step in which no thread acts is one move. -/
theorem run_of_not_isActed (run : Run past (.still world)) {step : Step α}
    (still : step.isActed = false) :
    Run (step.happenings world (world.step step).1 ++ past) (.still (world.step step).1) := by
  have outside : step.ends?.all (fun thread => ((Scene.still world).frames thread).isEmpty) := by
    cases step.ends? with
    | none => rfl
    | some thread => rfl
  exact run.tail (Scene.perform?_step still outside)

/-- A step in which no thread acts tells what it makes and ends. -/
theorem Step.tells_of_not_isActed {step : Step α} (still : step.isActed = false) :
    step.tells world = step.happenings world (world.step step).1 := by
  cases step with
  | enter thread value => cases still
  | leave thread => cases still
  | act thread action => cases still
  | _ => rfl

/-- Every step of a scenario is a path of moves. -/
theorem run_of_step (run : Run past (.still world)) (step : Step α) :
    Run (step.tells world ++ past) (.still (world.step step).1) := by
  have numbered : Numbered world := numbered_of_run run
  have acts {thread : ThreadId} {work : World α × Reply α} {told : History}
      (leads : world.threads.contains thread = true → Leads (.still world) told work.1) :
      Run ((if world.threads.contains thread then told else []) ++ past)
        (.still (world.ifRunning thread work).1) := by
    unfold World.ifRunning
    split
    · rename_i runs
      exact (leads runs).run run
    · exact run
  cases acted : step.isActed with
  | false =>
    rw [Step.tells_of_not_isActed acted]
    exact run_of_not_isActed run acted
  | true =>
    cases step with
    | enter thread value => exact acts fun runs => leads_enter runs value
    | leave thread =>
      have left : Run ((if world.threads.contains thread then [] else []) ++ past)
          (.still (world.ifRunning thread (world.leave thread)).1) :=
        acts fun runs => leads_leave runs
      rw [ite_self] at left
      exact left
    | act thread action =>
      refine acts fun runs => ?_
      have leads : Leads (.still world) (action.tells thread world) (action.run thread world).1 :=
        leads_run thread action (.still world) runs numbered
      unfold World.act
      split
      · rename_i same
        rw [same] at leads
        exact leads
      · rename_i same
        rw [same] at leads
        exact leads
    | _ => cases acted

/-- Steps after a scenario go on with its run. -/
theorem Path.after (run : Run past (.still world)) (steps : List (Step α)) :
    Run (world.tells steps ++ past) (.still (world.after steps)) := by
  induction steps generalizing world past with
  | nil => exact run
  | cons step rest ih =>
    rw [World.tells, List.append_assoc]
    exact ih (run_of_step run step)

/-- Every scenario is a run, after which nobody is inside of anything. -/
theorem run_of_steps (steps : List (Step α)) :
    Run (World.empty.tells steps) (Scene.still (World.empty.after steps)) := by
  have run : Run (World.empty.tells steps ++ []) (Scene.still (World.empty.after steps)) :=
    Path.after .refl steps
  rwa [List.append_nil] at run

end Steps

end RaceSentry
