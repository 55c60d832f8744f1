import RaceSentry.Proofs.Muster

/-!
# Storms whose threads work one by one

A storm is computed by letting one thread after another act. That is one of the orders in which its
threads may take turns: all of them meet, each of them then works to its end while the others wait,
and the storm waits for them when all have ended.
Main statement: `Phase.reaches_run`.
-/

namespace RaceSentry.Storm

variable {σ τ : Type}

/-- A thread works from a state of its own to its end, while the others do nothing. -/
inductive Operation.Alone (operation : Operation σ τ) (index : Nat) : σ → τ → σ → Bool → Prop where
  /-- It does its last step. -/
  | done {shared shared' : σ} {own : τ} {panicked : Bool}
      (steps : operation.step index shared own shared' (.done panicked)) :
      Alone operation index shared own shared' panicked
  /-- It does a step, and goes on. -/
  | on {shared between shared' : σ} {own own' : τ} {panicked : Bool}
      (steps : operation.step index shared own between (.on own'))
      (later : Alone operation index between own' shared' panicked) :
      Alone operation index shared own shared' panicked

namespace Call

variable {call : Call σ τ} {shared shared' : σ} {stations : Nat → Station τ} {stage : Stage}

/-- A thread that works alone to its end can do so in a storm. -/
theorem reaches_of_alone {index : Nat} {own : τ} {panicked : Bool}
    (alone : call.operation.Alone index shared own shared' panicked) (within : index < call.threads)
    (station : stations index = .working own) :
    call.Reaches ⟨shared, stations, stage⟩
      ⟨shared', Function.update stations index (.ended panicked), stage⟩ := by
  induction alone generalizing stations with
  | done steps => exact .single (.finish within station steps)
  | @on shared between shared' own own' panicked steps later ih =>
    have works : call.Reaches ⟨shared, stations, stage⟩
        ⟨between, Function.update stations index (.working own'), stage⟩ :=
      .single (.work within station steps)
    have ends := @ih (Function.update stations index (.working own')) (Function.update_self ..)
    rw [Function.update_idem] at ends
    exact works.trans ends

/-- The threads of a storm take turns in their order, each of them after those before it and before
those after it. -/
theorem reaches_sweep (call : Call σ τ) (state : Nat → σ) (stage : Nat → Stage)
    (before after : Nat → Station τ → Prop) {stations : Nat → Station τ}
    (ready : ∀ index < call.threads, before index (stations index))
    (act : ∀ index < call.threads, ∀ stations : Nat → Station τ,
      (∀ other < index, after other (stations other)) →
      (∀ other < call.threads, index ≤ other → before other (stations other)) →
        ∃ station, after index station ∧ call.Reaches ⟨state index, stations, stage index⟩
          ⟨state (index + 1), Function.update stations index station, stage (index + 1)⟩) :
    ∃ last, (∀ index < call.threads, after index (last index)) ∧
      call.Reaches ⟨state 0, stations, stage 0⟩ ⟨state call.threads, last, stage call.threads⟩ := by
  have sweep : ∀ count ≤ call.threads, ∃ last, (∀ index < count, after index (last index)) ∧
      (∀ index < call.threads, count ≤ index → before index (last index)) ∧
        call.Reaches ⟨state 0, stations, stage 0⟩ ⟨state count, last, stage count⟩ := by
    intro count bounded
    induction count with
    | zero =>
      exact ⟨stations, fun index earlier => absurd earlier (Nat.not_lt_zero index),
        fun index within _ => ready index within, .refl⟩
    | succ count ih =>
      obtain ⟨between, passed, ahead, reaches⟩ := ih (Nat.le_of_succ_le bounded)
      obtain ⟨station, acted, acts⟩ := act count bounded between passed ahead
      refine ⟨Function.update between count station, fun index earlier => ?_,
        fun index within later => ?_, reaches.trans acts⟩
      · obtain earlier | rfl := Nat.lt_succ_iff_lt_or_eq.1 earlier
        · rw [Function.update_of_ne earlier.ne]
          exact passed index earlier
        · rw [Function.update_self]
          exact acted
      · rw [Function.update_of_ne (Nat.ne_of_gt later)]
        exact ahead index within (Nat.le_of_succ_le later)
  obtain ⟨last, all, -, reaches⟩ := sweep call.threads le_rfl
  exact ⟨last, all, reaches⟩

/-- All threads of a storm that can be had can meet at the barrier before any of them works. -/
theorem reaches_waiting (had : call.refusal? = none) (shared : σ) :
    ∃ stations, (∀ index < call.threads, stations index = .waiting) ∧
      call.Reaches (gather shared) ⟨shared, stations, .joining 0⟩ := by
  have absent : ∀ index < call.threads, ((fun _ => .absent) index : Station τ) = .absent :=
    fun _ _ => rfl
  obtain ⟨coming, come, starts⟩ := call.reaches_sweep (fun _ => shared) .starting
    (fun _ station => station = .absent) (fun _ station => station = .coming) absent
    fun index within stations _ _ => ⟨.coming, rfl, .single (.start rfl within had)⟩
  obtain ⟨waiting, wait, arrive⟩ := call.reaches_sweep (fun _ => shared) (fun _ => .joining 0)
    (fun _ station => station = .coming) (fun _ station => station = .waiting) come
    fun index within stations _ ahead =>
      ⟨.waiting, rfl, .single (.arrive within (ahead index within le_rfl))⟩
  have awaits : call.Reaches (gather shared) ⟨shared, coming, .joining 0⟩ :=
    Relation.ReflTransGen.tail starts (.await rfl)
  exact ⟨waiting, wait, awaits.trans arrive⟩

/-- A storm whose threads have ended can wait for them. -/
theorem reaches_leaving_of_ended {count : Nat} (bounded : count ≤ call.threads)
    (all : ∀ index < call.threads, (stations index).hasEnded = true) :
    ∃ found, call.Reaches ⟨shared, stations, .joining count⟩
      ⟨shared, stations, .leaving found⟩ := by
  obtain ⟨rest, sum⟩ := Nat.exists_eq_add_of_le bounded
  induction rest generalizing count with
  | zero => exact ⟨none, .single (.settle (congrArg Stage.joining sum.symm))⟩
  | succ rest ih =>
    have more : count < call.threads := by omega
    have ended := all count more
    cases station : stations count with
    | ended panicked =>
      cases panicked with
      | true => exact ⟨some count, .single (.find rfl more station)⟩
      | false =>
        obtain ⟨found, reaches⟩ := @ih (count + 1) more (by omega)
        exact ⟨found, Relation.ReflTransGen.trans (.single (.join rfl more station)) reaches⟩
    | _ => rw [station] at ended; cases ended

/-- When all threads of a storm have ended, it can be over at once. -/
theorem reaches_closed_of_ended (had : call.refusal? = none) {count : Nat}
    (sound : call.Sound ⟨shared, stations, .joining count⟩)
    (all : ∀ index < call.threads, (stations index).hasEnded = true) :
    call.Reaches ⟨shared, stations, .joining count⟩ ⟨shared, stations,
      .closed (.join ((List.range call.threads).map fun index => (stations index).gaveUp))⟩ := by
  obtain ⟨found, reaches⟩ : ∃ found, call.Reaches ⟨shared, stations, .joining count⟩
      ⟨shared, stations, .leaving found⟩ := reaches_leaving_of_ended sound.2.1 all
  have closed := reaches.tail (.leave rfl all)
  have fits : call.Fits stations
      (.closed (call.verdict ⟨shared, stations, .leaving found⟩ found)) :=
    Reaches.sound closed sound
  cases outcome : call.verdict ⟨shared, stations, .leaving found⟩ found with
  | denied reason =>
    rw [outcome] at fits
    cases had.symm.trans fits.1
  | _ =>
    rw [outcome] at closed fits
    exact fits.2.2 ▸ closed

/-- A storm whose threads work one by one comes out by which of them give up. -/
theorem reaches_closed_one_by_one (had : call.refusal? = none) (state : Nat → σ)
    (gaveUp : Nat → Bool) (alone : ∀ index < call.threads, call.operation.Alone index (state index)
      (call.operation.start index) (state (index + 1)) (gaveUp index)) :
    ∃ last, (∀ index < call.threads, last.stations index = .ended (gaveUp index)) ∧
      last.shared = state call.threads ∧
      last.stage = .closed (.join ((List.range call.threads).map gaveUp)) ∧
        call.Reaches (gather (state 0)) last := by
  obtain ⟨waiting, wait, meet⟩ := reaches_waiting had (state 0)
  obtain ⟨last, ended, work⟩ := call.reaches_sweep state (fun _ => .joining 0)
    (fun _ station => station = .waiting) (fun index station => station = .ended (gaveUp index))
    wait fun index within stations passed ahead => by
      refine ⟨.ended (gaveUp index), rfl, ?_⟩
      have all : ∀ other < call.threads, (stations other).arrived = true := by
        intro other within'
        obtain earlier | later := Nat.lt_or_ge other index
        · rw [passed other earlier]
          rfl
        · rw [ahead other within' later]
          rfl
      have passes : call.Reaches ⟨state index, stations, .joining 0⟩ ⟨state index,
          Function.update stations index (.working (call.operation.start index)), .joining 0⟩ :=
        .single (.pass within (ahead index within le_rfl) all)
      have ends := passes.trans (reaches_of_alone (alone index within) within
        (Function.update_self index (.working (call.operation.start index)) stations))
      rw [Function.update_idem] at ends
      exact ends
  have reaches := meet.trans work
  have sound : call.Sound ⟨state call.threads, last, .joining 0⟩ :=
    Reaches.sound reaches (sound_gather call _)
  have closed := reaches_closed_of_ended had sound fun index within => by
    rw [ended index within]
    rfl
  have same : ((List.range call.threads).map fun index => (last index).gaveUp) =
      (List.range call.threads).map gaveUp := by
    refine List.map_congr_left fun index member => ?_
    rw [ended index (List.mem_range.1 member)]
    rfl
  rw [same] at closed
  exact ⟨_, ended, rfl, rfl, reaches.trans closed⟩

/-- A storm whose threads cannot be had is over at once. -/
theorem reaches_denied {reason : Denial} (refused : call.refusal? = some reason) (shared : σ) :
    call.Reaches (gather shared) ⟨shared, fun _ => .absent, .closed (.denied reason)⟩ :=
  .single (.refuse rfl refused)

end Call

namespace Phase

variable (phase : Phase) (name : String) (value : ValueId)

/-- How often the thread of a number does what it does. -/
def turns (index : Nat) : Nat :=
  if (phase.mode.action value index).isEmpty then 0 else phase.rounds

/-- A thread's next step, given which thread it is and how many rounds it has left once it has its
context. With no round left it ends, and so it does in the middle of a round that it gives up. -/
def advance (index : Nat) (world : World Int) :
    Option (ThreadId × Nat) → World Int × Stride (Option (ThreadId × Nat))
  | none =>
    let (world, thread) := world.spawn (some (threadName name index)) true
    (world, .on (some (thread, phase.turns value index)))
  | some (thread, 0) => (world.endThread thread, .done false)
  | some (thread, rounds + 1) =>
    match Action.runBody thread (phase.mode.action value index) world with
    | (world, _, some _) => (world.endThread thread, .done true)
    | (world, _, none) => (world, .on (some (thread, rounds)))

/-- What the threads of a storm do, step by step. -/
def operation : Operation (World Int) (Option (ThreadId × Nat)) where
  start _ := none
  step index world own next stride := phase.advance name value index world own = (next, stride)

/-- The storm as one of small steps. -/
def call : Call (World Int) (Option (ThreadId × Nat)) :=
  ⟨name, phase.threads, phase.operation name value⟩

/-- What a thread of a storm has left to do. -/
def left (_index : Nat) : Option (ThreadId × Nat) → Nat
  | none => phase.rounds + 1
  | some (_, rounds) => rounds

/-- The threads of a storm end, however they take turns. -/
theorem ends : (phase.operation name value).Ends phase.left where
  steps index world own := ⟨_, _, rfl⟩
  sooner {index world own next own'} steps := by
    change phase.advance name value index world own = (next, .on own') at steps
    match own with
    | none =>
      have less : phase.turns value index ≤ phase.rounds := by
        rw [turns]
        split
        · exact Nat.zero_le _
        · exact le_rfl
      cases steps
      exact Nat.lt_succ_of_le less
    | some (thread, 0) => cases steps
    | some (thread, rounds + 1) =>
      rw [advance] at steps
      split at steps
      · cases steps
      · cases steps
        exact Nat.lt_succ_self rounds

variable {phase name value}

/-- A thread works through its rounds alone, and then it ends. -/
theorem alone_runRounds {index : Nat} {thread : ThreadId} (rounds : Nat) (world : World Int) :
    (phase.operation name value).Alone index world (some (thread, rounds))
      ((runRounds thread (phase.mode.action value index) rounds world).1.endThread thread)
      (runRounds thread (phase.mode.action value index) rounds world).2 := by
  induction rounds generalizing world with
  | zero => exact .done rfl
  | succ rounds ih =>
    rw [runRounds]
    cases ran : Action.runBody thread (phase.mode.action value index) world with
    | mk next results =>
      obtain ⟨results, fault?⟩ := results
      cases fault? with
      | none => exact .on (by simp only [operation, advance, ran]) (ih next)
      | some fault => exact .done (by simp only [operation, advance, ran])

/-- A thread works alone from its start to its end. -/
theorem alone_runThread (world : World Int) (index : Nat) :
    (phase.operation name value).Alone index world none (phase.runThread name value world index).1
      (phase.runThread name value world index).2 :=
  .on rfl (alone_runRounds _ _)

/-- The world after a number of threads have acted one after another. -/
def worldAfter (phase : Phase) (name : String) (value : ValueId) (world : World Int) :
    Nat → World Int
  | 0 => world
  | count + 1 => (phase.runThread name value (worldAfter phase name value world count) count).1

/-- Threads one after another leave the world of the last one, and the storm is told by those that
gave up. -/
theorem runThreads_eq (world : World Int) : phase.runThreads name value world =
    (phase.worldAfter name value world phase.threads,
      .join ((List.range phase.threads).map fun index =>
        (phase.runThread name value (phase.worldAfter name value world index) index).2)) := by
  have folds : ∀ act : World Int × List Bool → Nat → World Int × List Bool,
      (∀ world panics index, act (world, panics) index =
        ((phase.runThread name value world index).1,
          panics ++ [(phase.runThread name value world index).2])) →
      ∀ count, (List.range count).foldl act (world, []) =
        (phase.worldAfter name value world count, (List.range count).map fun index =>
          (phase.runThread name value (phase.worldAfter name value world index) index).2) := by
    intro act acts count
    induction count with
    | zero => rfl
    | succ count ih =>
      rw [List.range_succ, List.foldl_append, ih, List.map_append]
      exact acts _ _ _
  rw [runThreads, folds _ fun _ _ _ => rfl]

/-- A storm that is computed is one whose threads took turns in some order. -/
theorem reaches_run (phase : Phase) (name : String) (value : ValueId) (world : World Int) :
    ∃ last, (phase.call name value).Reaches (Call.gather world) last ∧
      last.shared = (phase.run name value world).1 ∧
      last.stage = .closed (phase.run name value world).2 := by
  have refused : (phase.call name value).refusal? = phase.denial? name := rfl
  rw [run]
  cases denied : phase.denial? name with
  | some reason => exact ⟨_, Call.reaches_denied (refused.trans denied) world, rfl, rfl⟩
  | none =>
    obtain ⟨last, -, shared, closed, reaches⟩ :=
      Call.reaches_closed_one_by_one (refused.trans denied) (phase.worldAfter name value world) _
        fun index _ => alone_runThread _ index
    rw [runThreads_eq]
    exact ⟨last, reaches, shared, closed⟩

end Phase

end RaceSentry.Storm
