import RaceSentry.Proofs.Blind
import RaceSentry.Proofs.Script

/-!
# Programs that cannot tell

A program decides what to do next from everything it has learnt so far: contents, faults, and
whether locks admit it, but nothing that detection tells. A setting provides the rest: which
detectors there are, how they are configured, which of them values are of, and when reports are
taken out of their channels. A program that makes no access from inside of work on a context takes
the same course in all settings.
Main statements: `Program.parallel_pursue` and `Program.run_pursue`.
-/

namespace RaceSentry

open World

variable {α β : Type}

/-- Whether a step is about detectors only: it makes one, gives one up, looks into one, or takes
reports out of its channel. -/
def Step.isErrand : Step α → Bool
  | .newDetector _ => true
  | .dropDetector _ => true
  | .stats _ => true
  | .total _ => true
  | .config _ => true
  | .capture _ => true
  | .drain _ => true
  | .newReceiver _ => true
  | .receive _ => true
  | _ => false

/-- The same step, with the value that it makes, if it makes one, being of a given detector. -/
def Step.fit (sink : Option DetectorId) : Step α → Step α
  | .newValue payload _ label => .newValue payload sink label
  | step => step

/-- A step that is fitted to a detector is done by a thread exactly if it was. -/
theorem Step.isActed_fit (sink : Option DetectorId) (step : Step α) :
    (step.fit sink).isActed = step.isActed := by
  cases step with
  | _ => rfl

/-- A step that is fitted to a detector ends the same thread. -/
theorem Step.ends?_fit (sink : Option DetectorId) (step : Step α) :
    (step.fit sink).ends? = step.ends? := by
  cases step with
  | _ => rfl

/-- A step that is fitted to a detector is an errand exactly if it was. -/
theorem Step.isErrand_fit (sink : Option DetectorId) (step : Step α) :
    (step.fit sink).isErrand = step.isErrand := by
  cases step with
  | _ => rfl

/-- A reply without what detection tells. Only values of a detector have a label. -/
def Reply.blind : Reply α → Reply α
  | .value id _ => .value id none
  | .entered _ _ => .entered none 0
  | .answer told => .answer told.blind
  | reply => reply

namespace World

section Steps

variable {world world' next : World α} {thread : ThreadId}

/-- What is done to a detector in use is not seen. -/
theorem parallel_ifInUse {id : DetectorId} {work : Detector → World α × Reply α}
    (unseen : ∀ detector, Parallel world (work detector).1) :
    Parallel world (world.ifInUse id work).1 := by
  unfold ifInUse
  split
  · split
    · exact unseen _
    · exact .refl world
  · exact .refl world

/-- Making a detector is not seen by values. -/
theorem parallel_newDetector (config : Option String) :
    Parallel world (world.newDetector config).1 := by
  unfold newDetector
  split
  · exact parallel_of_same world rfl rfl rfl rfl
  · split
    · exact .refl world
    · split
      · exact .refl world
      · exact .refl world
      · exact parallel_of_same world rfl rfl rfl rfl

/-- Receiving a report is not seen by values. -/
theorem parallel_receive (receiver : Nat) : Parallel world (world.receive receiver).1 := by
  unfold receive
  dsimp only
  split
  · exact .refl world
  · exact parallel_of_same world rfl rfl rfl rfl

/-- Errands are not seen. -/
theorem parallel_errand {step : Step α} (errand : step.isErrand = true) :
    Parallel world (world.step step).1 := by
  cases step with
  | newDetector config => exact parallel_newDetector config
  | receive receiver => exact parallel_receive receiver
  | dropDetector id =>
    exact parallel_ifInUse fun detector => parallel_of_same world rfl rfl rfl rfl
  | stats id => exact parallel_ifInUse fun detector => .refl world
  | total id => exact parallel_ifInUse fun detector => .refl world
  | config id => exact parallel_ifInUse fun detector => .refl world
  | capture id => exact parallel_ifInUse fun detector => .refl world
  | drain id => exact parallel_ifInUse fun detector => parallel_of_same world rfl rfl rfl rfl
  | newReceiver id =>
    refine parallel_ifInUse fun detector => ?_
    unfold newReceiver
    split
    · exact parallel_of_same world rfl rfl rfl rfl
    · exact .refl world
  | _ => cases errand

/-- Starts a thread without a context. -/
def startThread (world : World α) (name : Option String) : World α :=
  { world.setThread ⟨world.started⟩ (.new name) with started := world.started + 1 }

/-- A thread is started, and a context with its name attached if it has one and that is wanted. -/
theorem spawn_eq (world : World α) (name : Option String) (attach : Bool) :
    world.spawn name attach =
      if attach ∧ name.isSome then
        (((world.startThread name).noteAttached (.new ⟨world.started⟩ name)).bindContext
          ⟨world.started⟩ (.new ⟨world.started⟩ name), ⟨world.started⟩)
      else (world.startThread name, ⟨world.started⟩) :=
  rfl

/-- A thread that is started runs. -/
theorem running_startThread (world : World α) (name : Option String) :
    (world.startThread name).threads.contains ⟨world.started⟩ = true :=
  (SortedMap.contains_iff _ _).2 ⟨.new name, SortedMap.get?_insert_self _ _ _⟩

/-- Worlds that differ in what detection tells alone do so after a thread was started in both. -/
theorem Parallel.startThread (parallel : Parallel world world') (name : Option String) :
    Parallel (world.startThread name) (world'.startThread name) := by
  have set := parallel.setThread ⟨world.started⟩ (rfl : (ThreadState.new name).surface = _)
  unfold World.startThread
  rw [← parallel.started]
  exact ⟨rfl, set.made, set.threads, set.cells⟩

/-- Threads start alike. -/
theorem Parallel.spawn (parallel : Parallel world world') (name : Option String)
    (attach : Bool) : Parallel (world.spawn name attach).1 (world'.spawn name attach).1 ∧
      (world.spawn name attach).2 = (world'.spawn name attach).2 := by
  have first := parallel.startThread name
  have number : (⟨world.started⟩ : ThreadId) = ⟨world'.started⟩ :=
    congrArg ThreadId.mk parallel.started
  rw [spawn_eq, spawn_eq]
  split
  · exact ⟨first.aside (parallel_attach _ (running_startThread world name) _)
      (parallel_attach _ (running_startThread world' name) _), number⟩
  · exact ⟨first, number⟩

/-- Worlds that differ in what detection tells alone do so after sections were left in both. -/
theorem Parallel.leaveSections (parallel : Parallel world world') (values : List ValueId) :
    Parallel (values.foldl World.leaveSection world) (values.foldl World.leaveSection world') := by
  induction values generalizing world world' with
  | nil => exact parallel
  | cons value rest ih => exact ih (parallel.leaveSection value)

/-- Whether a context speaks of values only that were made can be told from their number. -/
theorem Parallel.knowsAll (parallel : Parallel world world') (context : ThreadContext) :
    world.knowsAll context = world'.knowsAll context := by
  unfold World.knowsAll
  rw [parallel.made]

/-- Threads end alike, and leave the same sections. -/
theorem Parallel.endThread (parallel : Parallel world world') (thread : ThreadId) :
    Parallel (world.endThread thread) (world'.endThread thread) := by
  have left := parallel.leaveSections (world.thread thread).sections
  unfold World.endThread
  rw [← parallel.sections]
  refine ⟨left.started, left.made, fun other => ?_, left.cells⟩
  dsimp only
  rw [SortedMap.get?_erase, SortedMap.get?_erase]
  split
  · rfl
  · exact left.threads other

/-- Values are made alike, whoever watches them. -/
theorem Parallel.addCell (parallel : Parallel world world') {cell cell' : Cell α}
    (same : cell.surface = cell'.surface) :
    Parallel (world.addCell cell).1 (world'.addCell cell').1 ∧
      (world.addCell cell).2.blind = (world'.addCell cell').2.blind := by
  have number : (⟨world.made⟩ : ValueId) = ⟨world'.made⟩ := congrArg ValueId.mk parallel.made
  have told : (.value ⟨world.made⟩ none : Reply α) = .value ⟨world'.made⟩ none := by rw [number]
  refine ⟨⟨parallel.started, congrArg (· + 1) parallel.made, parallel.threads, fun other => ?_⟩,
    told⟩
  simp only [World.addCell, World.setCell, World.note, SortedMap.get?_insert, number]
  split
  · exact congrArg some same
  · exact parallel.cells other

/-- Values are taken away alike. -/
theorem Parallel.removeCell (parallel : Parallel world world') (value : ValueId)
    {reply : Cell α → Reply α}
    (same : ∀ cell cell', cell.surface = cell'.surface → (reply cell).blind = (reply cell').blind) :
    Parallel (world.removeCell value reply).1 (world'.removeCell value reply).1 ∧
      (world.removeCell value reply).2.blind = (world'.removeCell value reply).2.blind := by
  cases found : world.cells.get? value with
  | none =>
    have found' : world'.cells.get? value = none := parallel.absent found
    simp only [World.removeCell, found, found', and_true]
    exact parallel
  | some cell =>
    obtain ⟨cell', found', seen⟩ := parallel.found found
    simp only [World.removeCell, found, found', seen.2.1]
    split
    · exact ⟨parallel, rfl⟩
    · refine ⟨⟨parallel.started, parallel.made, parallel.threads, fun other => ?_⟩,
        same cell cell' (Cell.surface_eq_iff.2 seen).symm⟩
      dsimp only
      rw [SortedMap.get?_erase, SortedMap.get?_erase]
      split
      · rfl
      · exact parallel.cells other

/-- The detector that is wished for, if it is in use. -/
def usable (world : World α) (wish : Option DetectorId) : Option DetectorId :=
  wish.filter fun id => (world.detectors.get? id).any Detector.inUse

/-- With a detector in use, or without one, a value is made. -/
theorem newValue_usable (world : World α) (payload : α) (wish : Option DetectorId)
    (label : Option String) :
    ∃ prepared cell, world.newValue payload (world.usable wish) label = prepared.addCell cell ∧
      Parallel world prepared ∧ cell.surface = (payload, .free, false) := by
  cases sink : world.usable wish with
  | none => exact ⟨world, .new payload none true none, rfl, .refl world, rfl⟩
  | some id =>
    have inUse : (world.detectors.get? id).any Detector.inUse = true :=
      (Option.filter_eq_some_iff.1 sink).2
    cases found : world.detectors.get? id with
    | none =>
      rw [found] at inUse
      cases inUse
    | some detector =>
      rw [found, Option.any_some] at inUse
      refine ⟨world.setDetector id (detector.register ⟨world.made⟩ label),
        .new payload label detector.config.raceDetection.enabled (some id), ?_,
        parallel_of_same world rfl rfl rfl rfl, rfl⟩
      unfold newValue ifInUse
      simp only [found, inUse, ↓reduceIte]

/-- Steps in which no thread acts come out the same, whoever watches the values that they make. -/
theorem Parallel.step (parallel : Parallel world world') {step : Step α}
    (still : step.isActed = false) (errand : step.isErrand = false)
    (wish wish' : Option DetectorId) :
    Parallel (world.step (step.fit (world.usable wish))).1
        (world'.step (step.fit (world'.usable wish'))).1 ∧
      (world.step (step.fit (world.usable wish))).2.blind =
        (world'.step (step.fit (world'.usable wish'))).2.blind := by
  have ends (thread : ThreadId) (reply : Reply α) :
      Parallel (world.ifRunning thread (world.endThread thread, reply)).1
          (world'.ifRunning thread (world'.endThread thread, reply)).1 ∧
        (world.ifRunning thread (world.endThread thread, reply)).2.blind =
          (world'.ifRunning thread (world'.endThread thread, reply)).2.blind := by
    unfold ifRunning
    rw [parallel.running thread]
    split
    · exact ⟨parallel.endThread thread, rfl⟩
    · exact ⟨parallel, rfl⟩
  cases step with
  | spawn name attach =>
    simp only [Step.fit, World.step]
    split
    · exact ⟨parallel, rfl⟩
    · have started := parallel.spawn name attach
      exact ⟨started.1, congrArg Reply.spawned started.2⟩
  | exit thread => exact ends thread (.ended false)
  | crash thread => exact ends thread (.ended true)
  | newValue payload sink label =>
    obtain ⟨prepared, cell, made, unseen, surface⟩ := newValue_usable world payload wish label
    obtain ⟨prepared', cell', made', unseen', surface'⟩ :=
      newValue_usable world' payload wish' label
    simp only [Step.fit, World.step, made, made']
    exact (parallel.aside unseen unseen').addCell (surface.trans surface'.symm)
  | dropValue value => exact parallel.removeCell value fun _ _ _ => rfl
  | intoInner value =>
    refine parallel.removeCell value fun cell cell' same => ?_
    exact congrArg (fun seen => Reply.payload seen.1) same
  | enter thread value => cases still
  | leave thread => cases still
  | act thread action => cases still
  | _ => cases errand

end Steps

end World

/-- What a program learns of something it did. -/
inductive Notice (α : Type) where
  /-- It could not be done: a lock is held, there is nothing to end, or nobody to do it. -/
  | unable
  /-- The thread's work is cut short. -/
  | faulted (fault : Fault)
  /-- Done, with nothing to tell. -/
  | done
  /-- The content that a closure has, or leaves. -/
  | content (payload : α)
  /-- The reply to a step, without what detection tells. -/
  | reply (reply : Reply α)

/-- What a program learns of an attempt. -/
def Attempt.notice (begun : Notice α) : Attempt β → Notice α
  | .noValue => .unable
  | .blocked => .unable
  | .faulted fault => .faulted fault
  | .begun _ => begun

/-- The content of a value. -/
def World.contentOf (world : World α) (value : ValueId) : Notice α :=
  match world.cells.get? value with
  | none => .done
  | some cell => .content cell.payload

/-- Closures find the same content. -/
theorem World.Parallel.contentOf {world world' : World α} (parallel : World.Parallel world world')
    (value : ValueId) : world.contentOf value = world'.contentOf value := by
  unfold World.contentOf
  cases found : world.cells.get? value with
  | none =>
    have found' : world'.cells.get? value = none := parallel.absent found
    rw [found']
  | some cell =>
    obtain ⟨cell', found', content, _⟩ := parallel.found found
    rw [found']
    exact congrArg Notice.content content.symm

/-- What a program learns of an attempt does not depend on results that it does not see. -/
theorem Attempt.notice_eq {attempt attempt' : Attempt β} {begun begun' : Notice α}
    (same : attempt.blind = attempt'.blind) (same' : begun = begun') :
    attempt.notice begun = attempt'.notice begun' := by
  have meets : attempt.Meets (fun _ => ()) attempt' := Attempt.meets_of_map_eq same
  cases meets with
  | begun _ => exact same'
  | _ => rfl

/-- What a program learns of the end of a closure: the content that it leaves. -/
def World.closureNotice (world : World α) : List Frame → Notice α
  | .closure value _ :: _ => world.contentOf value
  | _ => .done

/-- A thread is told alike what its closures keep it from. -/
theorem World.Parallel.closureNotice {world world' : World α}
    (parallel : World.Parallel world world') (frames : List Frame) :
    world.closureNotice frames = world'.closureNotice frames := by
  unfold World.closureNotice
  split
  · exact parallel.contentOf _
  · rfl

/-- What a program learns of a step; errands are not its own. -/
def World.stepNotice (world : World α) (step : Step α) : Notice α :=
  if step.isErrand then .done else .reply (world.step step).2.blind

/-- Steps tell programs the same, whoever watches the values that they make. -/
theorem World.Parallel.stepNotice {world world' : World α}
    (parallel : World.Parallel world world') {step : Step α} (still : step.isActed = false)
    (wish wish' : Option DetectorId) :
    world.stepNotice (step.fit (world.usable wish)) =
      world'.stepNotice (step.fit (world'.usable wish')) := by
  unfold World.stepNotice
  rw [Step.isErrand_fit, Step.isErrand_fit]
  cases errand : step.isErrand with
  | true => rfl
  | false => exact congrArg Notice.reply (parallel.step still errand wish wish').2

/-- What a program learns of work on a context. -/
def World.contextNotice (world : World α) (thread : ThreadId) : Notice α :=
  if (world.thread thread).contextInUse then .faulted .borrowed else .done

namespace Scene

/-- What a program learns of a move that leads to another scene. -/
def told (scene next : Scene α) : Move α → Notice α
  | .access thread value kind =>
    (scene.world.beginAccess thread value kind).2.notice (next.world.contentOf value)
  | .finish thread _ => next.world.closureNotice (scene.frames thread)
  | .enter thread value => (scene.world.enterSection thread value).2.notice .done
  | .hold thread value => (scene.world.enterSection thread value).2.notice .done
  | .openContext thread => scene.world.contextNotice thread
  | .attach thread _ => scene.world.contextNotice thread
  | .look thread value => (scene.world.inspect thread value fun _ => ()).2.notice .done
  | .step step => scene.world.stepNotice step
  | _ => .done

/-- What a program learns of a move that may not be possible. -/
def learn (performed : Option (Scene α × List Happening)) (told : Scene α → Notice α) : Notice α :=
  match performed with
  | none => .unable
  | some (next, _) => told next

/-- What a program learns of a move. It does not learn whether an edit of a context was possible,
which is about what the context holds. -/
def notice (scene : Scene α) (move : Move α) : Notice α :=
  match move with
  | .edit _ _ => .done
  | move => learn (scene.perform? move) fun next => scene.told next move

/-- The scene after a move, if it can be made. -/
def moved (scene : Scene α) (move : Move α) : Scene α :=
  ((scene.perform? move).map Prod.fst).getD scene

/-- Two scenes look the same to a program. -/
structure Parallel (scene scene' : Scene α) : Prop where
  /-- The worlds look the same. -/
  world : World.Parallel scene.world scene'.world
  /-- Every thread is inside of the same things. -/
  frames : scene.frames = scene'.frames

/-- Two moves can both be made, and lead to scenes that look the same, or neither can. -/
abbrev Alongside (result result' : Option (Scene α × List Happening)) : Prop :=
  Option.Rel (fun one other => one.1.Parallel other.1) result result'

/-- Results of moves that run alongside are both refused, or both done and parallel. -/
theorem Alongside.cases {result result' : Option (Scene α × List Happening)}
    (along : Alongside result result') : result = none ∧ result' = none ∨
      ∃ one other, result = some one ∧ result' = some other ∧ one.1.Parallel other.1 := by
  cases along with
  | none => exact .inl ⟨rfl, rfl⟩
  | some parallel => exact .inr ⟨_, _, rfl, rfl, parallel⟩

section Moves

variable {scene scene' : Scene α} {world world' : World α} {thread : ThreadId}

namespace Parallel

/-- Parallel scenes are parallel with parallel worlds in place of their own. -/
theorem withWorld (parallel : scene.Parallel scene') (worlds : World.Parallel world world') :
    (scene.withWorld world).Parallel (scene'.withWorld world') := ⟨worlds, parallel.frames⟩

/-- Parallel scenes are parallel after a thread came to be inside of the same things in both. -/
theorem become (parallel : scene.Parallel scene') (worlds : World.Parallel world world')
    (thread : ThreadId) (frames : List Frame) :
    (scene.become world thread frames).Parallel (scene'.become world' thread frames) :=
  ⟨worlds, by unfold Scene.become; rw [parallel.frames]⟩

/-- Parallel scenes are parallel after a thread got into the same thing in both. -/
theorem into (parallel : scene.Parallel scene') (worlds : World.Parallel world world')
    (thread : ThreadId) (frame : Frame) :
    (scene.into world thread frame).Parallel (scene'.into world' thread frame) := by
  unfold Scene.into
  rw [← parallel.frames]
  exact parallel.become worlds thread _

/-- An access is asked for alike. -/
theorem access (parallel : scene.Parallel scene')
    (poised : Poised thread false scene.world) (value : ValueId) (kind : AccessKind) :
    Alongside (scene.carryOut? (.access thread value kind))
      (scene'.carryOut? (.access thread value kind)) := by
  obtain ⟨next, next', attempt, attempt', asked, asked', worlds, _, meets⟩ :=
    (parallel.world.beginAccess poised value kind).meets
  unfold Scene.carryOut?
  dsimp only
  rw [asked, asked']
  cases meets with
  | noValue => exact .none
  | blocked => exact .none
  | faulted fault =>
    cases fault with
    | _ => exact .some (parallel.withWorld worlds)
  | begun _ => exact .some (parallel.into worlds thread _)

/-- A section is asked for alike. -/
theorem enter (parallel : scene.Parallel scene')
    (poised : Poised thread true scene.world) (value : ValueId) :
    Alongside (scene.carryOut? (.enter thread value)) (scene'.carryOut? (.enter thread value)) := by
  obtain ⟨next, next', attempt, attempt', asked, asked', worlds, _, meets⟩ :=
    (parallel.world.enterSection poised value).meets
  unfold Scene.carryOut?
  dsimp only
  rw [asked, asked']
  cases meets with
  | noValue => exact .none
  | blocked => exact .none
  | faulted fault => exact .some (parallel.withWorld worlds)
  | begun _ => exact .some (parallel.into worlds thread _)

/-- A section that lasts is asked for alike. -/
theorem hold (parallel : scene.Parallel scene')
    (poised : Poised thread true scene.world) (value : ValueId) :
    Alongside (scene.carryOut? (.hold thread value)) (scene'.carryOut? (.hold thread value)) := by
  obtain ⟨next, next', attempt, attempt', asked, asked', worlds, _, meets⟩ :=
    (parallel.world.enterSection poised value).meets
  unfold Scene.carryOut? World.enter
  dsimp only
  rw [asked, asked']
  cases meets with
  | noValue => exact .none
  | blocked => exact .none
  | faulted fault => exact .some (parallel.withWorld worlds)
  | begun _ =>
    refine .some (parallel.withWorld (worlds.setThread thread ?_))
    exact congrArg (fun seen => (seen.1, seen.2.1, value :: seen.2.2)) (worlds.surface thread)

/-- A section that lasts is dropped alike. -/
theorem drop (parallel : scene.Parallel scene') (thread : ThreadId) (value : ValueId) :
    Alongside (scene.carryOut? (.drop thread value)) (scene'.carryOut? (.drop thread value)) := by
  unfold Scene.carryOut?
  dsimp only
  rw [parallel.world.sections]
  split
  · obtain ⟨name, busy, _⟩ := ThreadState.surface_eq_iff.1 (parallel.world.surface thread)
    refine .some (parallel.withWorld
      (World.Parallel.leaveSection (parallel.world.setThread thread ?_) _))
    exact ThreadState.surface_eq_iff.2 ⟨name, busy, rfl⟩
  · exact .none

/-- Ending an access runs alongside. -/
theorem finish (parallel : scene.Parallel scene') (thread : ThreadId) (change : α → α) :
    Alongside (scene.carryOut? (.finish thread change))
      (scene'.carryOut? (.finish thread change)) := by
  unfold Scene.carryOut?
  dsimp only
  rw [← parallel.frames]
  split
  · exact .some (parallel.become (parallel.world.endAccess _ id) thread _)
  · exact .some (parallel.become (parallel.world.endAccess _ change) thread _)
  · exact .none

/-- Leaving a section runs alongside. -/
theorem leave (parallel : scene.Parallel scene') (thread : ThreadId) :
    Alongside (scene.carryOut? (.leave thread)) (scene'.carryOut? (.leave thread)) := by
  unfold Scene.carryOut?
  dsimp only
  rw [← parallel.frames]
  split
  · exact .some (parallel.become (parallel.world.leaveSection _) thread _)
  · exact .none

/-- Ending the work on a context runs alongside. -/
theorem closeContext (parallel : scene.Parallel scene') (thread : ThreadId) :
    Alongside (scene.carryOut? (.closeContext thread))
      (scene'.carryOut? (.closeContext thread)) := by
  unfold Scene.carryOut?
  dsimp only
  rw [← parallel.frames]
  split
  · exact .some (parallel.become (parallel.world.closeContext thread) thread _)
  · exact .none

/-- Beginning to work on a context runs alongside. -/
theorem openContext (parallel : scene.Parallel scene')
    (runs : scene.world.threads.contains thread = true) :
    Alongside (scene.carryOut? (.openContext thread))
      (scene'.carryOut? (.openContext thread)) := by
  unfold Scene.carryOut?
  dsimp only
  cases busy : (scene.world.thread thread).contextInUse with
  | true =>
    have busy' := (parallel.world.contextInUse thread).symm.trans busy
    rw [openContext_of_inUse scene.world busy, openContext_of_inUse scene'.world busy']
    exact .some (parallel.withWorld parallel.world)
  | false =>
    have idle' := (parallel.world.contextInUse thread).symm.trans busy
    have opened := parallel.world.openContext runs busy
    rw [openContext_of_idle scene.world busy, openContext_of_idle scene'.world idle']
    exact .some (parallel.into opened thread _)

/-- Attaching a context runs alongside. -/
theorem attach (parallel : scene.Parallel scene')
    (runs : scene.world.threads.contains thread = true) (context : ThreadContext) :
    Alongside (scene.carryOut? (.attach thread context))
      (scene'.carryOut? (.attach thread context)) := by
  have runs' := (parallel.world.running thread).symm.trans runs
  unfold Scene.carryOut?
  dsimp only
  rw [← parallel.world.knowsAll, ← parallel.world.contextInUse thread]
  split
  · exact .none
  · split
    · exact .some (parallel.withWorld
        (parallel.world.aside (parallel_note _ _) (parallel_note _ _)))
    · exact .some (parallel.withWorld (parallel.world.aside (parallel_attach _ runs _)
        (parallel_attach _ runs' _)))

/-- Looking at a value runs alongside. -/
theorem look (parallel : scene.Parallel scene')
    (poised : Poised thread true scene.world) (value : ValueId) :
    Alongside (scene.carryOut? (.look thread value)) (scene'.carryOut? (.look thread value)) := by
  obtain ⟨next, next', attempt, attempt', asked, asked', worlds, _, meets⟩ :=
    (parallel.world.inspect poised value (fun _ => ()) id fun _ _ => rfl).meets
  unfold Scene.carryOut?
  dsimp only
  rw [asked, asked']
  cases meets with
  | noValue => exact .none
  | blocked => exact .none
  | faulted fault => exact .some (parallel.withWorld worlds)
  | begun _ => exact .some (parallel.withWorld worlds)

/-- A step in which no thread acts is made alike, whoever watches the values that it makes. -/
theorem step (parallel : scene.Parallel scene') (step : Step α) (wish wish' : Option DetectorId) :
    Alongside (scene.carryOut? (.step (step.fit (scene.world.usable wish))))
      (scene'.carryOut? (.step (step.fit (scene'.world.usable wish')))) := by
  unfold Scene.carryOut?
  dsimp only
  rw [Step.isActed_fit, Step.isActed_fit, Step.ends?_fit, Step.ends?_fit, ← parallel.frames]
  split
  · rename_i possible
    have still : step.isActed = false :=
      (Bool.not_eq_true' _).mp (Bool.and_eq_true_iff.1 possible).1
    cases errand : step.isErrand with
    | true =>
      have fitted (sink : Option DetectorId) : (step.fit sink).isErrand = true :=
        (Step.isErrand_fit sink step).trans errand
      exact .some (parallel.withWorld (parallel.world.aside (parallel_errand (fitted _))
        (parallel_errand (fitted _))))
    | false => exact .some (parallel.withWorld (parallel.world.step still errand wish wish').1)
  · exact .none

/-- Editing a context is not seen. -/
theorem moved_edit (scene : Scene α) (thread : ThreadId) (change : ThreadContext → ThreadContext) :
    scene.Parallel (scene.moved (.edit thread change)) := by
  have unseen : ∀ next happenings, scene.perform? (.edit thread change) = some (next, happenings) →
      scene.Parallel next := by
    intro next happenings performed
    unfold Scene.perform? Scene.carryOut? at performed
    split at performed
    · rename_i runs
      dsimp only at performed
      split at performed
      · split at performed
        · cases performed
          exact ⟨parallel_bindContext scene.world runs _, rfl⟩
        · cases performed
      · cases performed
    · cases performed
  unfold Scene.moved
  cases performed : scene.perform? (.edit thread change) with
  | none => exact ⟨.refl _, rfl⟩
  | some result => exact unseen result.1 result.2 performed

/-- What is learnt of two moves that are made alike is the same, if it is the same in the scenes
they lead to. -/
theorem settle (parallel : scene.Parallel scene') {move move' : Move α}
    (mover : move'.thread? = move.thread?)
    (seen : scene.notice move = learn (scene.perform? move) fun next => scene.told next move)
    (seen' : scene'.notice move' =
      learn (scene'.perform? move') fun next => scene'.told next move')
    (along : move.thread?.all scene.world.threads.contains = true →
      Alongside (scene.carryOut? move) (scene'.carryOut? move'))
    (same : move.thread?.all scene.world.threads.contains = true →
      ∀ result next', scene.carryOut? move = some result → result.1.Parallel next' →
        scene.told result.1 move = scene'.told next' move') :
    (scene.moved move).Parallel (scene'.moved move') ∧ scene.notice move = scene'.notice move' := by
  have running : move'.thread?.all scene'.world.threads.contains =
      move.thread?.all scene.world.threads.contains := by
    rw [mover]
    cases move.thread? with
    | none => rfl
    | some thread => exact (parallel.world.running thread).symm
  rw [seen, seen']
  unfold Scene.moved Scene.perform?
  rw [running]
  split
  · rename_i runs
    rcases (along runs).cases with ⟨none, none'⟩ | ⟨result, result', performed, performed', later⟩
    · rw [none, none']
      exact ⟨parallel, rfl⟩
    · rw [performed, performed']
      exact ⟨later, same runs result result'.1 performed later⟩
  · exact ⟨parallel, rfl⟩

end Parallel

end Moves

end Scene

/-- One thing that a program does: a move of a thread, or a whole action of one. -/
inductive Deed (α : Type) where
  /-- The smallest thing that a thread does, or a step in which no thread acts. -/
  | move (move : Move α)
  /-- An action, with everything that its closures and blocks do inside of it. -/
  | act (thread : ThreadId) (action : Action α)

/-- Whether a deed makes no access from inside of work on a context. -/
def Deed.considerate (world : World α) : Deed α → Bool
  | .move (.access thread _ _) => !(world.thread thread).contextInUse
  | .act thread action => action.considerate (world.thread thread).contextInUse
  | _ => true

/-- What a program and its schedule do next, from all that was learnt so far, latest first. -/
abbrev Program (α : Type) := List (Notice α) → Deed α

/-- What is set up around a program: it is about detectors only. -/
structure Setting (α : Type) where
  /-- What is done before a deed: detectors are made and given up, reports are taken. -/
  errands : Nat → List (Step α)
  /-- The detector of the value that a deed makes, if it makes one; only one in use counts. -/
  sink : Nat → Option DetectorId
  /-- Only errands are done. -/
  quiet : ∀ turn, ∀ step ∈ errands turn, step.isErrand = true

/-- How far a program got. -/
structure Course (α : Type) where
  /-- Where everybody is. -/
  scene : Scene α
  /-- What the program has learnt, latest first. -/
  learnt : List (Notice α)

/-- The same move, with the value that it makes, if it makes one, being of a given detector. -/
def Move.fit (sink : Option DetectorId) : Move α → Move α
  | .step given => .step (given.fit sink)
  | move => move

/-- The reply to an action, by its outcome. -/
def Reply.ofOutcome : Except Fault (Answer α) → Reply α
  | .ok told => .answer told
  | .error fault => .faulted fault

/-- The reply to an outcome without what detection tells is the reply to the outcome without it. -/
theorem Reply.blind_ofOutcome (outcome : Except Fault (Answer α)) :
    (Reply.ofOutcome outcome).blind = .ofOutcome (Answer.blindOutcome outcome) := by
  cases outcome with
  | ok told => rfl
  | error fault => rfl

/-- An action by a step changes the world as the action does, and its reply is what came of it. -/
theorem World.act_eq (world : World α) (thread : ThreadId) (action : Action α) :
    world.act thread action =
      ((action.run thread world).1, .ofOutcome (action.run thread world).2) := by
  unfold World.act
  split
  · rename_i ran
    rw [ran]
    rfl
  · rename_i ran
    rw [ran]
    rfl

namespace Scene

/-- What comes of a deed, and what is learnt of it. -/
def undertake (scene : Scene α) (wish : Option DetectorId) : Deed α → Scene α × Notice α
  | .move move =>
    let move := move.fit (scene.world.usable wish)
    (scene.moved move, scene.notice move)
  | .act thread action =>
    let (world, reply) := scene.world.step (.act thread action)
    (scene.withWorld world, .reply reply.blind)

end Scene

/-- Goes on with a program: errands are done, and then its next deed. -/
def Course.advance (course : Course α) (program : Program α) (errands : List (Step α))
    (wish : Option DetectorId) : Course α :=
  let prepared := course.scene.withWorld (course.scene.world.after errands)
  let undertaken := prepared.undertake wish (program course.learnt)
  ⟨undertaken.1, undertaken.2 :: course.learnt⟩

/-- A program in a setting, after a number of deeds. -/
def Program.pursue (program : Program α) (setting : Setting α) : Nat → Course α
  | 0 => ⟨.empty, []⟩
  | turn + 1 =>
    (program.pursue setting turn).advance program (setting.errands turn) (setting.sink turn)

namespace Scene

variable {scene scene' : Scene α}

/-- A thread is told alike whether its context is in use. -/
theorem Parallel.contextNotice {world world' : World α} (parallel : World.Parallel world world')
    (thread : ThreadId) :
    world.contextNotice thread = (world'.contextNotice thread : Notice α) := by
  unfold World.contextNotice
  rw [parallel.contextInUse]

/-- A move that is a step lets no thread act. -/
theorem still_of_carryOut? {step : Step α} {result : Scene α × List Happening}
    (performed : scene.carryOut? (.step step) = some result) : step.isActed = false := by
  unfold Scene.carryOut? at performed
  dsimp only at performed
  split at performed
  · rename_i possible
    exact (Bool.not_eq_true' _).mp (Bool.and_eq_true_iff.1 possible).1
  · cases performed

/-- A considerate move comes out the same in scenes that look the same. -/
theorem Parallel.move (parallel : scene.Parallel scene') (move : Move α)
    (considerate : (Deed.move move).considerate scene.world = true)
    (wish wish' : Option DetectorId) :
    (scene.moved (move.fit (scene.world.usable wish))).Parallel
        (scene'.moved (move.fit (scene'.world.usable wish'))) ∧
      scene.notice (move.fit (scene.world.usable wish)) =
        scene'.notice (move.fit (scene'.world.usable wish')) := by
  cases move with
  | access thread value kind =>
    have idle : (scene.world.thread thread).contextInUse = false :=
      (Bool.not_eq_true' _).mp considerate
    have poised (runs : scene.world.threads.contains thread = true) :
        Poised thread false scene.world := ⟨runs, fun busy => idle.symm.trans busy⟩
    exact parallel.settle rfl rfl rfl (fun runs => parallel.access (poised runs) value kind)
      fun runs _ _ _ later =>
        Attempt.notice_eq (parallel.world.beginAccess (poised runs) value kind).same
          (later.world.contentOf value)
  | finish thread change =>
    refine parallel.settle rfl rfl rfl (fun _ => parallel.finish thread change)
      fun _ _ _ _ later => (later.world.closureNotice _).trans ?_
    rw [parallel.frames]
    rfl
  | enter thread value =>
    exact parallel.settle rfl rfl rfl (fun runs => parallel.enter (.of_runs runs) value)
      fun runs _ _ _ later =>
        Attempt.notice_eq (parallel.world.enterSection (.of_runs runs) value).same rfl
  | leave thread =>
    exact parallel.settle rfl rfl rfl (fun _ => parallel.leave thread) fun _ _ _ _ _ => rfl
  | hold thread value =>
    exact parallel.settle rfl rfl rfl (fun runs => parallel.hold (.of_runs runs) value)
      fun runs _ _ _ later =>
        Attempt.notice_eq (parallel.world.enterSection (.of_runs runs) value).same rfl
  | drop thread value =>
    exact parallel.settle rfl rfl rfl (fun _ => parallel.drop thread value) fun _ _ _ _ _ => rfl
  | openContext thread =>
    exact parallel.settle rfl rfl rfl (fun runs => parallel.openContext runs)
      fun _ _ _ _ _ => Parallel.contextNotice parallel.world thread
  | closeContext thread =>
    exact parallel.settle rfl rfl rfl (fun _ => parallel.closeContext thread) fun _ _ _ _ _ => rfl
  | edit thread change =>
    have unseen := Parallel.moved_edit scene thread change
    have unseen' := Parallel.moved_edit scene' thread change
    exact ⟨⟨parallel.world.aside unseen.world unseen'.world,
      (unseen.frames.symm.trans parallel.frames).trans unseen'.frames⟩, rfl⟩
  | attach thread context =>
    exact parallel.settle rfl rfl rfl (fun runs => parallel.attach runs context)
      fun _ _ _ _ _ => Parallel.contextNotice parallel.world thread
  | look thread value =>
    exact parallel.settle rfl rfl rfl (fun runs => parallel.look (.of_runs runs) value)
      fun runs _ _ _ later =>
        Attempt.notice_eq (parallel.world.inspect (.of_runs runs) value _ _ fun _ _ => rfl).same rfl
  | step step =>
    refine parallel.settle rfl rfl rfl (fun _ => parallel.step step wish wish')
      fun _ _ _ performed _ => parallel.world.stepNotice ?_ wish wish'
    rw [← Step.isActed_fit]
    exact still_of_carryOut? performed

/-- A considerate action comes out the same in scenes that look the same. -/
theorem Parallel.act (parallel : scene.Parallel scene') (thread : ThreadId) (action : Action α)
    (considerate : (Deed.act thread action).considerate scene.world = true) :
    World.Parallel (scene.world.step (.act thread action)).1
        (scene'.world.step (.act thread action)).1 ∧
      (scene.world.step (.act thread action)).2.blind =
        (scene'.world.step (.act thread action)).2.blind := by
  simp only [World.step, ifRunning, ← parallel.world.running thread]
  split
  · rename_i runs
    have agree := agree_run thread action _ considerate parallel.world ⟨runs, id⟩
    rw [act_eq, act_eq, Reply.blind_ofOutcome, Reply.blind_ofOutcome]
    exact ⟨agree.parallel, congrArg Reply.ofOutcome agree.same⟩
  · exact ⟨parallel.world, rfl⟩

/-- A considerate deed comes out the same in scenes that look the same, whatever detectors are
wished for. -/
theorem Parallel.undertake (parallel : scene.Parallel scene') (deed : Deed α)
    (considerate : deed.considerate scene.world = true) (wish wish' : Option DetectorId) :
    (scene.undertake wish deed).1.Parallel (scene'.undertake wish' deed).1 ∧
      (scene.undertake wish deed).2 = (scene'.undertake wish' deed).2 := by
  cases deed with
  | move move => exact parallel.move move considerate wish wish'
  | act thread action =>
    have acted := parallel.act thread action considerate
    exact ⟨parallel.withWorld acted.1, congrArg Notice.reply acted.2⟩

end Scene

/-- Whether a deed is considerate can be seen. -/
theorem World.Parallel.considerate {world world' : World α} (parallel : World.Parallel world world')
    (deed : Deed α) : deed.considerate world = deed.considerate world' := by
  unfold Deed.considerate
  split
  · rw [parallel.contextInUse]
  · rw [parallel.contextInUse]
  · rfl

/-- Errands are not seen, one after another. -/
theorem World.parallel_after {world : World α} {steps : List (Step α)}
    (errands : ∀ step ∈ steps, step.isErrand = true) :
    World.Parallel world (world.after steps) := by
  induction steps generalizing world with
  | nil => exact .refl world
  | cons step rest ih =>
    have first : World.Parallel world (world.step step).1 :=
      parallel_errand (errands step List.mem_cons_self)
    exact first.trans (ih fun other among => errands other (List.mem_cons_of_mem _ among))

/-- Two courses look the same to a program, which has learnt the same. -/
structure Course.Parallel (course course' : Course α) : Prop where
  /-- The scenes look the same. -/
  scene : course.scene.Parallel course'.scene
  /-- The same was learnt. -/
  learnt : course.learnt = course'.learnt

/-- One deed of a considerate program keeps courses alike, whatever errands are done before it. -/
theorem Course.Parallel.advance {course course' : Course α} (parallel : course.Parallel course')
    {program : Program α} {errands errands' : List (Step α)}
    (considerate : (program course.learnt).considerate course.scene.world = true)
    (quiet : ∀ step ∈ errands, step.isErrand = true)
    (quiet' : ∀ step ∈ errands', step.isErrand = true) (wish wish' : Option DetectorId) :
    (course.advance program errands wish).Parallel
      (course'.advance program errands' wish') := by
  have unseen : World.Parallel course.scene.world (course.scene.world.after errands) :=
    parallel_after quiet
  have unseen' : World.Parallel course'.scene.world (course'.scene.world.after errands') :=
    parallel_after quiet'
  have prepared := parallel.scene.withWorld (parallel.scene.world.aside unseen unseen')
  rw [unseen.considerate] at considerate
  have undertaken := prepared.undertake (program course.learnt) considerate wish wish'
  unfold Course.advance
  rw [← parallel.learnt]
  exact ⟨undertaken.1, congrArg (· :: course.learnt) undertaken.2⟩

/-- A considerate program takes the same course in all settings. -/
theorem Program.parallel_pursue (program : Program α) (setting setting' : Setting α)
    {turns : Nat}
    (considerate : ∀ turn < turns, (program (program.pursue setting turn).learnt).considerate
      (program.pursue setting turn).scene.world = true) :
    (program.pursue setting turns).Parallel (program.pursue setting' turns) := by
  induction turns with
  | zero => exact ⟨⟨.refl _, rfl⟩, rfl⟩
  | succ turn ih =>
    have before := ih fun earlier sooner => considerate earlier (by omega)
    exact before.advance (considerate turn (by omega)) (setting.quiet turn) (setting'.quiet turn)
      (setting.sink turn) (setting'.sink turn)

section Runs

variable {past : History} {scene : Scene α}

/-- An errand is a move that tells nothing. -/
theorem Scene.perform?_errand (scene : Scene α) {step : Step α} (errand : step.isErrand = true) :
    scene.perform? (.step step) = some (scene.withWorld (scene.world.step step).1, []) := by
  cases step with
  | newDetector => exact Scene.perform?_step rfl rfl
  | dropDetector => exact Scene.perform?_step rfl rfl
  | stats => exact Scene.perform?_step rfl rfl
  | total => exact Scene.perform?_step rfl rfl
  | config => exact Scene.perform?_step rfl rfl
  | capture => exact Scene.perform?_step rfl rfl
  | drain => exact Scene.perform?_step rfl rfl
  | newReceiver => exact Scene.perform?_step rfl rfl
  | receive => exact Scene.perform?_step rfl rfl
  | _ => cases errand

/-- Errands may be added to a run one after another. -/
theorem Path.errands {steps : List (Step α)} (run : Run past scene)
    (quiet : ∀ step ∈ steps, step.isErrand = true) :
    Run past (scene.withWorld (scene.world.after steps)) := by
  induction steps generalizing scene with
  | nil => exact run
  | cons step rest ih =>
    have errand := quiet step List.mem_cons_self
    exact ih (run.tail (scene.perform?_errand errand)) fun other among =>
      quiet other (List.mem_cons_of_mem _ among)

/-- Whatever a deed does is done by moves. -/
theorem Path.undertake (run : Run past scene) (wish : Option DetectorId) (deed : Deed α) :
    ∃ told, Run (told ++ past) (scene.undertake wish deed).1 := by
  cases deed with
  | move move =>
    unfold Scene.undertake Scene.moved
    dsimp only
    cases performed : scene.perform? (move.fit (scene.world.usable wish)) with
    | none => exact ⟨[], run⟩
    | some result => exact ⟨result.2, run.tail performed⟩
  | act thread action =>
    simp only [Scene.undertake, World.step, ifRunning]
    split
    · rename_i runs
      have leads := leads_run thread action scene runs (numbered_of_run run)
      rw [act_eq]
      exact ⟨_, run.trans leads.1⟩
    · exact ⟨[], run⟩

/-- The course of a program is a run, whatever the setting. -/
theorem Program.run_pursue (program : Program α) (setting : Setting α) (turns : Nat) :
    ∃ past, Run past (program.pursue setting turns).scene := by
  induction turns with
  | zero => exact ⟨[], .refl⟩
  | succ turn ih =>
    obtain ⟨past, run⟩ := ih
    obtain ⟨told, later⟩ := (run.errands (setting.quiet turn)).undertake (setting.sink turn)
      (program (program.pursue setting turn).learnt)
    exact ⟨told ++ past, later⟩

end Runs

end RaceSentry
