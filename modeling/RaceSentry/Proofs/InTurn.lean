import RaceSentry.Proofs.Schedule
import RaceSentry.Proofs.Unwinding

/-!
# Storms played in turn

A storm is computed by letting one thread after another go through all of its rounds. That is one of
the schedules of the storm, and it can always be played: no thread finds a lock in its way.
Main statements: `Phase.schedule_inTurn` and `Phase.run_eq`.
-/

namespace RaceSentry

open World

variable {α : Type}

namespace Scene

variable {scene : Scene α} {thread : ThreadId} {value : ValueId} {between later world : World α}
  {moves more : List (Move α)}

/-- Moves that can be made one after another, and lead to a world, with everybody back where they
were. -/
def Plays (scene : Scene α) (moves : List (Move α)) (world : World α) : Prop :=
  ∀ past, ∃ told, scene.playOut? past moves = some (scene.withWorld world, told)

/-- Moves one after another are some of them, and then the others. -/
theorem playOut?_append (scene : Scene α) (past : History) (moves more : List (Move α)) :
    scene.playOut? past (moves ++ more) =
      (scene.playOut? past moves).bind fun reached => reached.1.playOut? reached.2 more := by
  induction moves generalizing scene past with
  | nil => rfl
  | cons move rest ih =>
    rw [List.cons_append, playOut?, playOut?]
    split
    · rfl
    · exact ih _ _

namespace Plays

/-- A move that leaves everybody where they were plays alone. -/
theorem single {move : Move α} {happenings : List Happening}
    (performed : scene.perform? move = some (scene.withWorld world, happenings)) :
    scene.Plays [move] world := fun past => by
  rw [playOut?, performed]
  exact ⟨_, rfl⟩

/-- Moves that play one after another play together. -/
theorem append (plays : scene.Plays moves between)
    (after : (scene.withWorld between).Plays more world) :
    scene.Plays (moves ++ more) world := fun past => by
  obtain ⟨told, played⟩ := plays past
  obtain ⟨told', played'⟩ := after told
  rw [playOut?_append, played]
  exact ⟨told', played'⟩

/-- A move into something, moves inside of it, and a move out of it again. -/
theorem inside {frame : Frame} {into out : Move α} {told told' : List Happening}
    (goes : scene.perform? into = some (scene.into between thread frame, told))
    (plays : (scene.into between thread frame).Plays moves later)
    (comes : ((scene.into between thread frame).withWorld later).perform? out =
      some (((scene.into between thread frame).withWorld later).become world thread
        (scene.frames thread), told')) :
    scene.Plays (into :: (moves ++ [out])) world := fun past => by
  obtain ⟨reached, played⟩ := plays (told ++ past)
  rw [become_into] at comes
  rw [playOut?, goes]
  dsimp only
  rw [playOut?_append, played]
  dsimp only [Option.bind_some]
  rw [playOut?, comes]
  exact ⟨_, rfl⟩

end Plays

end Scene

/-- A thread can take again what it has taken. -/
theorem Lock.isSome_acquire?_of_acquire? {lock taken : Lock} {thread : ThreadId}
    (got : lock.acquire? thread = some taken) : (taken.acquire? thread).isSome = true := by
  cases lock with
  | free =>
    cases got
    exact congrArg Option.isSome (if_pos rfl)
  | held owner again =>
    obtain ⟨rfl, same⟩ := Option.ite_none_right_eq_some.1 got
    cases same
    exact congrArg Option.isSome (if_pos rfl)

namespace Scene

variable {scene : Scene α} {thread : ThreadId} {value : ValueId}

/-- An access of a thread that the guard admits is made, and its closure ends. -/
theorem plays_access {kind : AccessKind} {change : α → α}
    {work : α → α × Except String (Result α)} (runs : scene.world.threads.contains thread = true)
    (idle : (scene.world.thread thread).contextInUse = false)
    (admits : admission (scene.world.guard? value) thread (.reentered value) = .begun ())
    (changes : ∀ payload, (work payload).1 = kind.permitted change payload)
    (fine : ∀ payload, ∃ result, (work payload).2 = .ok result) :
    ∃ world answer, scene.world.access thread value kind Action.noBody work = (world, .ok answer) ∧
      scene.Plays [.access thread value kind, .finish thread change] world := by
  have blind := blind_beginAccess runs idle value kind
  rw [admits] at blind
  cases asked : scene.world.beginAccess thread value kind with
  | mk begun attempt =>
    rw [asked] at blind
    cases attempt with
    | noValue => cases blind
    | blocked => cases blind
    | faulted fault => cases blind
    | begun sighting =>
      have asks := asksAccess_of_beginAccess asked nofun nofun
      have alike := alike_of_asksAccess runs asks
      have running : begun.threads.contains thread = true := (alike.running thread).trans runs
      obtain ⟨cell, found⟩ := (SortedMap.contains_iff _ _).1
        ((alike.present value).trans asks.present)
      obtain ⟨result, fine⟩ := fine cell.payload
      refine ⟨begun.endAccess value fun _ => (work cell.payload).1,
        .access result sighting cell.raceCount none, ?_, ?_⟩
      · unfold World.access
        simp only [asked, Action.noBody, found, fine]
      · have stored : (begun.endAccess value fun _ => (work cell.payload).1) =
            begun.endAccess value (kind.permitted change) :=
          modifyCell_congr begun found (by rw [changes])
        rw [stored]
        have still : (scene.into begun thread (.closure value kind)).Plays [] begun :=
          fun past => ⟨past, rfl⟩
        exact .inside (Outcome.perform? (.access asks) rfl runs) still
          (perform?_finish running (if_pos rfl) change)

/-- A section of a thread that the guard admits is entered, and the thread can then access the
value. -/
theorem entered_section (runs : scene.world.threads.contains thread = true)
    (idle : (scene.world.thread thread).contextInUse = false)
    (admits : admission (scene.world.guard? value) thread .borrowed = .begun ()) :
    ∃ begun entries, scene.world.enterSection thread value = (begun, .begun entries) ∧
      scene.perform? (.enter thread value) = some (scene.into begun thread (.block value),
        [.entered thread value (scene.world.clockOf value)]) ∧
      begun.threads.contains thread = true ∧ (begun.thread thread).contextInUse = false ∧
      admission (begun.guard? value) thread (.reentered value) = .begun () := by
  have blind := blind_enterSection runs idle value
  rw [admits] at blind
  cases asked : scene.world.enterSection thread value with
  | mk begun attempt =>
    rw [asked] at blind
    cases attempt with
    | noValue => cases blind
    | blocked => cases blind
    | faulted fault => cases blind
    | begun entries =>
      have asks := asksSection_of_enterSection asked nofun nofun
      obtain ⟨_, faulted, _⟩ | ⟨_, cell, lock, later, _, found, taken, free, unseen, rfl⟩ :=
        asks.seen runs
      case inl => cases faulted
      refine ⟨_, entries, rfl, Outcome.perform? (.enter asks) rfl runs,
        (unseen.running thread).symm.trans runs, (unseen.contextInUse thread).symm.trans idle, ?_⟩
      have turns : Turns value (fun guard => (lock, guard.2)) scene.world
          (later.modifyCell value fun cell => { cell with lock := lock }) :=
        turns_modifyCell unseen fun _ => rfl
      obtain ⟨again, retaken⟩ := Option.isSome_iff_exists.1 (Lock.isSome_acquire?_of_acquire? taken)
      rw [turns, if_pos rfl, guard?_of_get? _ found, Option.map_some, free]
      simp only [admission, retaken, Bool.false_eq_true, ↓reduceIte]

end Scene

namespace Storm

variable {value : ValueId} {thread : ThreadId} {scene : Scene Int} {mode : Mode}

namespace Mode

/-- What the closure of an access makes of the content, and what it gives. -/
def work : Mode → Int → Int × Except String (Result Int)
  | .read => fun payload => (payload, .ok (.payload payload))
  | .synchronizedRead => fun payload => (payload, .ok (.payload payload))
  | .write => Action.storing 1 fun _ => .nothing
  | .replace => Action.storing 1 .payload
  | _ => Action.changing addOne

/-- The access of a round. -/
def touch (mode : Mode) (value : ValueId) : Action Int :=
  match mode with
  | .read => .read value
  | .synchronizedRead => .read value
  | .write => .write value 1
  | .replace => .replace value 1
  | _ => .update value none addOne

/-- A round is an access, in a section if that is the way of the storm. -/
theorem action_eq (calm : mode ≠ .raise) (value : ValueId) (index : Nat) :
    mode.action value index =
      if mode.isGuarded then [.synchronized value .free [mode.touch value]]
      else [mode.touch value] := by
  cases mode with
  | raise => exact absurd rfl calm
  | _ => rfl

/-- A touch of a storm is an access of the kind of its mode, with a closure that does nothing
inside. -/
theorem run_touch (mode : Mode) (value : ValueId) (thread : ThreadId) (world : World Int) :
    (mode.touch value).run thread world =
      world.access thread value mode.kind Action.noBody mode.work := by
  have nothing : (Action.runInside thread none : World Int → _) = Action.noBody := by
    funext world
    rw [Action.runInside]
    rfl
  have updated : (Action.update value none addOne).run thread world =
      world.access thread value .write Action.noBody (Action.changing addOne) := by
    rw [Action.run, nothing]
  cases mode with
  | read =>
    rw [touch, Action.run]
    rfl
  | synchronizedRead =>
    rw [touch, Action.run]
    rfl
  | write =>
    rw [touch, Action.run]
    rfl
  | replace =>
    rw [touch, Action.run]
    rfl
  | _ => exact updated

/-- The work of a storm changes the content as its mode may, and has a result. -/
theorem work_eq (mode : Mode) (payload : Int) :
    (mode.work payload).1 = mode.kind.permitted mode.change payload ∧
      ∃ result, (mode.work payload).2 = .ok result := by
  cases mode with
  | _ => exact ⟨rfl, _, rfl⟩

end Mode

/-- A thread that is not working on its context may turn to a value that nobody is inside of. -/
structure Ready (world : World Int) (thread : ThreadId) (value : ValueId) : Prop where
  /-- The thread runs. -/
  runs : world.threads.contains thread = true
  /-- It does not work on its context. -/
  idle : (world.thread thread).contextInUse = false
  /-- Nobody is inside of the value. -/
  free : world.guard? value = some (.free, false)

/-- A thread that is back where it was is as ready as before. -/
theorem Ready.unwound {world next : World Int} {stored : List (ValueId × Int)}
    (ready : Ready world thread value) (unwound : Unwound stored world next) :
    Ready next thread value where
  runs := (unwound.running thread).trans ready.runs
  idle := (ThreadState.surface_eq_iff.1 (unwound.surface thread)).2.1.trans ready.idle
  free := (unwound.guard? value).trans ready.free

/-- A round is played by the moves of one round. -/
theorem plays_round (calm : mode ≠ .raise) (ready : Ready scene.world thread value) (index : Nat) :
    ∃ world answers, Action.runBody thread (mode.action value index) scene.world =
      (world, answers, none) ∧ scene.Plays (mode.round value thread) world := by
  have touches (scene : Scene Int) (runs : scene.world.threads.contains thread = true)
      (idle : (scene.world.thread thread).contextInUse = false)
      (admits : admission (scene.world.guard? value) thread (.reentered value) = .begun ()) :
      ∃ world answers, Action.runBody thread [mode.touch value] scene.world =
        (world, answers, none) ∧ scene.Plays (mode.visit value thread) world := by
    obtain ⟨world, answer, accessed, plays⟩ := Scene.plays_access runs idle admits
      (fun payload => (mode.work_eq payload).1) fun payload => (mode.work_eq payload).2
    rw [← mode.run_touch] at accessed
    refine ⟨world, [answer], ?_, plays⟩
    rw [Action.runBody, accessed]
    dsimp only
    rw [Action.runBody]
  rw [Mode.action_eq calm, Mode.round]
  cases guarded : mode.isGuarded with
  | false =>
    refine touches scene ready.runs ready.idle ?_
    rw [ready.free]
    rfl
  | true =>
    have admits : admission (scene.world.guard? value) thread .borrowed = .begun () := by
      rw [ready.free]
      rfl
    obtain ⟨begun, entries, asked, enters, runs, idle, admits⟩ :=
      Scene.entered_section ready.runs ready.idle admits
    obtain ⟨later, answers, ran, plays⟩ :=
      touches (scene.into begun thread (.block value)) runs idle admits
    change Action.runBody thread _ begun = _ at ran
    have running := (unwound_runBody thread [mode.touch value] begun runs).running thread
    rw [ran] at running
    refine ⟨later.leaveSection value, [.block answers], ?_, .inside enters plays
      (Scene.perform?_leave (running.trans runs) (if_pos rfl))⟩
    rw [if_pos rfl, Action.runBody, Action.run, asked]
    dsimp only
    rw [ran]
    dsimp only
    rw [Action.runBody]

/-- A thread that has nothing open ends by one move. -/
theorem plays_exit (runs : scene.world.threads.contains thread = true)
    (outside : scene.frames thread = []) :
    scene.Plays [.step (.exit thread)] (scene.world.endThread thread) := by
  have exits : (scene.world.step (.exit thread)).1 = scene.world.endThread thread := by
    rw [World.step, World.ifRunning, if_pos runs]
  have performed : scene.perform? (.step (.exit thread)) =
      some (scene.withWorld (scene.world.step (.exit thread)).1, _) :=
    Scene.perform?_eq_some_iff.2 ⟨rfl, .step rfl fun other ends => by
      cases ends
      exact outside⟩
  rw [exits] at performed
  exact .single performed

/-- All rounds of a thread are played by the moves that are left for it. -/
theorem plays_program (calm : mode ≠ .raise) (ready : Ready scene.world thread value)
    (outside : scene.frames thread = []) (index rounds : Nat) :
    ∃ world stored, Phase.runRounds thread (mode.action value index) rounds scene.world =
        (world, false) ∧
      scene.Plays (mode.program value thread rounds) (world.endThread thread) ∧
      Unwound stored scene.world world := by
  induction rounds generalizing scene with
  | zero => exact ⟨scene.world, [], rfl, plays_exit ready.runs outside, .of_parallel (.refl _)⟩
  | succ rounds ih =>
    obtain ⟨between, answers, ran, plays⟩ := plays_round calm ready index
    have unwound := unwound_runBody thread (mode.action value index) scene.world ready.runs
    rw [ran] at unwound
    have later : Ready (scene.withWorld between).world thread value := ready.unwound unwound
    obtain ⟨world, stored, rest, plays', unwound'⟩ := ih later outside
    refine ⟨world, _, ?_, plays.append plays', unwound.trans unwound'⟩
    rw [Phase.runRounds, ran]
    exact rest

/-- A thread that starts may turn to a value that nobody is inside of, and has no section open. -/
theorem ready_spawn (world : World Int) (name : Option String) (attach : Bool)
    (free : world.guard? value = some (.free, false)) :
    Ready (world.spawn name attach).1 ⟨world.started⟩ value ∧
      ((world.spawn name attach).1.thread ⟨world.started⟩).sections = [] := by
  refine ⟨⟨?_, contextInUse_spawn world name attach, ?_⟩, ?_⟩
  · rw [contains_spawn, decide_eq_true rfl, Bool.true_or]
  · exact (guard?_of_same (cells_spawn world name attach)).trans free
  · have begun : ((world.startThread name).thread ⟨world.started⟩).sections = [] := by
      change ((world.setThread ⟨world.started⟩ (.new name)).thread _).sections = []
      rw [thread_setThread, if_pos rfl]
      rfl
    rw [spawn_eq]
    split
    · exact (sections_bindContext _ _ _).trans begun
    · exact begun

/-- A thread with a good name is started by one move. -/
theorem plays_spawn {name : String} {index : Nat}
    (named : Denial.ofThreadName? (Phase.threadName name index) = none) :
    scene.Plays [Phase.spawn name index]
      (scene.world.spawn (some (Phase.threadName name index)) true).1 := by
  have starts : (scene.world.step (.spawn (some (Phase.threadName name index)) true)).1 =
      (scene.world.spawn (some (Phase.threadName name index)) true).1 := by
    simp only [World.step, Option.bind_some, named]
  have performed : scene.perform? (Phase.spawn name index) = some (scene.withWorld _, _) :=
    Scene.perform?_eq_some_iff.2 ⟨rfl, .step rfl fun _ ends => by cases ends⟩
  rw [starts] at performed
  exact .single performed

/-- A thread of a storm is played by the moves of that thread, from its start to its end. -/
theorem plays_thread (scene : Scene Int) {phase : Phase} (calm : phase.mode ≠ .raise)
    {name : String} {index : Nat}
    (named : Denial.ofThreadName? (Phase.threadName name index) = none)
    (free : scene.world.guard? value = some (.free, false))
    (outside : scene.frames ⟨scene.world.started⟩ = []) :
    ∃ world, phase.runThread name value scene.world index = (world, false) ∧
      scene.Plays (Phase.spawn name index ::
        phase.mode.program value ⟨scene.world.started⟩ phase.rounds) world ∧
      world.started = scene.world.started + 1 ∧ world.guard? value = some (.free, false) := by
  have starts : scene.Plays [Phase.spawn name index] _ := plays_spawn named
  obtain ⟨ready, closed⟩ :=
    ready_spawn scene.world (some (Phase.threadName name index)) true free
  have started := started_spawn scene.world (some (Phase.threadName name index)) true
  have number : (scene.world.spawn (some (Phase.threadName name index)) true).2 =
      ⟨scene.world.started⟩ := by
    rw [spawn_eq]
    rfl
  cases begins : scene.world.spawn (some (Phase.threadName name index)) true with
  | mk begun thread =>
    rw [begins] at starts ready closed started number
    cases number
    have now : Ready (scene.withWorld begun).world ⟨scene.world.started⟩ value := ready
    obtain ⟨world, stored, ran, plays, unwound⟩ :=
      plays_program calm now outside index phase.rounds
    have left : (world.thread ⟨scene.world.started⟩).sections = [] :=
      (ThreadState.surface_eq_iff.1 (unwound.surface _)).2.2.trans closed
    have ended : world.endThread ⟨scene.world.started⟩ =
        { world with threads := world.threads.erase ⟨scene.world.started⟩ } := by
      rw [World.endThread, left]
      rfl
    refine ⟨world.endThread ⟨scene.world.started⟩, ?_, starts.append plays, ?_, ?_⟩
    · have acts : (phase.mode.action value index).isEmpty = false := by
        rw [Mode.action_eq calm]
        split
        · rfl
        · rfl
      change Phase.runRounds _ _ _ begun = _ at ran
      rw [Phase.runThread, begins]
      simp only [acts, Bool.false_eq_true, ↓reduceIte, ran]
    · rw [ended]
      exact unwound.started.trans started
    · rw [ended]
      exact (now.unwound unwound).free

/-- Storms are played one thread after another. -/
theorem plays_threads {phase : Phase} (calm : phase.mode ≠ .raise) {name : String} {threads : Nat}
    (named : ∀ index < threads, Denial.ofThreadName? (Phase.threadName name index) = none)
    (free : scene.world.guard? value = some (.free, false))
    (outside : ∀ thread : ThreadId, scene.world.started ≤ thread.index → scene.frames thread = []) :
    ∃ world, (List.range threads).foldl
        (fun (world, panics) index =>
          let (world, panicked) := phase.runThread name value world index
          (world, panics ++ [panicked])) (scene.world, []) =
        (world, List.replicate threads false) ∧
      scene.Plays ((List.range threads).flatMap fun index => Phase.spawn name index ::
        phase.mode.program value ⟨scene.world.started + index⟩ phase.rounds) world ∧
      world.started = scene.world.started + threads ∧
      world.guard? value = some (.free, false) := by
  induction threads with
  | zero => exact ⟨scene.world, rfl, fun past => ⟨past, rfl⟩, rfl, free⟩
  | succ threads ih =>
    obtain ⟨between, ran, plays, started, free'⟩ :=
      ih fun index within => named index (Nat.lt_succ_of_lt within)
    have unborn : scene.frames ⟨between.started⟩ = [] :=
      outside _ (started ▸ Nat.le_add_right _ _)
    obtain ⟨world, ran', plays', started', free''⟩ := plays_thread (scene.withWorld between) calm
      (named threads (Nat.lt_succ_self threads)) free' unborn
    refine ⟨world, ?_, ?_, ?_, free''⟩
    · rw [List.range_succ, List.foldl_append, ran, List.foldl_cons, List.foldl_nil]
      dsimp only
      change phase.runThread name value between threads = _ at ran'
      rw [ran', List.replicate_succ']
    · rw [List.range_succ, List.flatMap_append, List.flatMap_singleton]
      refine plays.append ?_
      rw [← started]
      exact plays'
    · rw [started']
      change between.started + 1 = _
      omega

/-- A thread that ends well is not asked about. -/
theorem join_replicate (threads : Nat) : Outcome.join (List.replicate threads false) = .calm := by
  induction threads with
  | zero => rfl
  | succ threads ih => exact ih

namespace Phase

/-- The moves of a storm whose threads act one after another, each from its start to its end. -/
def inTurn (phase : Phase) (name : String) (value : ValueId) (base : Nat) : List (Move Int) :=
  (List.range phase.threads).flatMap fun index =>
    spawn name index :: phase.mode.program value ⟨base + index⟩ phase.rounds

/-- A storm is computed by letting its threads act one after another. If they can be had, none of
them is kept waiting, and the storm ends well. -/
theorem run_eq {phase : Phase} (calm : phase.mode ≠ .raise) {name : String}
    (had : phase.denial? name = none) (free : scene.world.guard? value = some (.free, false))
    (outside : ∀ thread : ThreadId, scene.world.started ≤ thread.index → scene.frames thread = []) :
    ∃ world, phase.run name value scene.world = (world, .calm) ∧
      scene.Plays (phase.inTurn name value scene.world.started) world ∧
      world.guard? value = some (.free, false) := by
  obtain ⟨world, ran, plays, -, after⟩ :=
    plays_threads calm (fun index within => named_of_denial? had within) free outside
  refine ⟨world, ?_, plays, after⟩
  rw [run, had]
  dsimp only
  rw [runThreads, ran]
  dsimp only
  rw [join_replicate]

end Phase

/-- The moves that are left for a thread are about it. -/
theorem subject?_of_mem_program {rounds : Nat} {move : Move Int}
    (member : move ∈ mode.program value thread rounds) : move.subject? = some thread := by
  induction rounds with
  | zero =>
    rw [List.mem_singleton.1 member]
    rfl
  | succ rounds ih =>
    cases List.mem_append.1 member with
    | inr later => exact ih later
    | inl here =>
      have visits : ∀ move ∈ mode.visit value thread, move.subject? = some thread :=
        List.forall_mem_cons.2 ⟨rfl, List.forall_mem_singleton.2 rfl⟩
      rw [Mode.round] at here
      split at here
      · cases List.mem_cons.1 here with
        | inl first =>
          rw [first]
          rfl
        | inr rest =>
          cases List.mem_append.1 rest with
          | inl visit => exact visits move visit
          | inr last =>
            rw [List.mem_singleton.1 last]
            rfl
      · exact visits move here

namespace Phase

variable (phase : Phase) (value : ValueId) (base : Nat)

/-- The moves about a thread are its own ones, if it is one of the storm. -/
theorem own_inTurn (name : String) (thread : ThreadId) :
    Move.own thread (phase.inTurn name value base) =
      if phase.Enlists base thread then phase.mode.program value thread phase.rounds else [] := by
  obtain ⟨number⟩ := thread
  have upTo (threads : Nat) : Move.own ⟨number⟩ ((List.range threads).flatMap fun index =>
      spawn name index :: phase.mode.program value ⟨base + index⟩ phase.rounds) =
      if base ≤ number ∧ number < base + threads then
        phase.mode.program value ⟨number⟩ phase.rounds else [] := by
    induction threads with
    | zero => exact (if_neg (by omega)).symm
    | succ threads ih =>
      have starts : (spawn name threads).subject? ≠ some ⟨number⟩ := nofun
      rw [List.range_succ, List.flatMap_append, List.flatMap_singleton, Move.own,
        List.filter_append, ← Move.own, ← Move.own, ih, Move.own_cons_of_ne starts]
      by_cases here : number = base + threads
      · have all : Move.own ⟨number⟩ (phase.mode.program value ⟨number⟩ phase.rounds) =
            phase.mode.program value ⟨number⟩ phase.rounds :=
          List.filter_eq_self.2 fun move member => decide_eq_true (subject?_of_mem_program member)
        rw [← here, all, if_neg (by omega), if_pos (by omega), List.nil_append]
      · have none : Move.own ⟨number⟩ (phase.mode.program value ⟨base + threads⟩ phase.rounds) =
            [] := by
          refine List.filter_eq_nil_iff.2 fun move member about => here ?_
          have subject := subject?_of_mem_program member
          rw [of_decide_eq_true about] at subject
          exact ThreadId.mk.inj (Option.some.inj subject)
        rw [none, List.append_nil]
        exact if_congr (by omega) rfl rfl
  exact upTo phase.threads

/-- To let threads act one after another is a schedule. -/
theorem schedule_inTurn {name : String} (had : phase.denial? name = none) :
    phase.Schedule name value base (phase.inTurn name value base) where
  had := had
  starts := by
    rw [inTurn, List.filter_flatMap, List.map_eq_flatMap]
    refine List.flatMap_congr fun index _ => ?_
    have others : (phase.mode.program value ⟨base + index⟩ phase.rounds).filter Move.isSpawn = [] :=
      List.filter_eq_nil_iff.2 fun move member starts => by
        rw [Move.isSpawn_eq_false (by rw [subject?_of_mem_program member]; rfl)] at starts
        cases starts
    rw [List.filter_cons_of_pos rfl, others]
  programs := fun thread enlists => by rw [own_inTurn, if_pos enlists]
  idle := fun thread foreign => by rw [own_inTurn, if_neg foreign]
  busy := fun move member => by
    obtain ⟨index, -, among⟩ := List.mem_flatMap.1 member
    cases List.mem_cons.1 among with
    | inl starts =>
      rw [starts]
      exact .inl rfl
    | inr own =>
      rw [subject?_of_mem_program own]
      exact .inr rfl

end Phase

end Storm

end RaceSentry
