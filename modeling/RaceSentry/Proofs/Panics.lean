import RaceSentry.Proofs.OneByOne

/-!
# What storms tell of threads that give up

A storm waits for its threads in their order and answers with an error at the first that gave up.
For one such thread this is what happens, whichever it is and however the threads take turns. With
two of them the answer is lost: the storm has stopped waiting, and the second one takes the storm
with it. All threads have ended in each case. A storm that follows another one starts exactly if no
thread of the first gave up, and what comes of both is then what comes of the second.
Main statement: `storm_told_by_panics`.
-/

namespace RaceSentry.Storm

variable {σ τ υ : Type}

/-- What the caller of a storm of a name gets. Only that a thread gave up is an answer: with any
other failure the storm gives up itself. -/
def Outcome.result (name : String) : Outcome → Except Failure Unit
  | .calm => .ok ()
  | .threadPanicked => .error (.panicked name)
  | .scopePanicked => .error .aborted
  | .denied reason => .error (.denied reason)

/-- It is settled which threads give up, whatever happens before. -/
def Operation.Settles (operation : Operation σ τ) (gaveUp : Nat → Bool) : Prop :=
  ∀ {index shared own shared' panicked},
    operation.step index shared own shared' (.done panicked) → panicked = gaveUp index

namespace Call

/-- What the caller of a storm gets, whatever its threads do and however they take turns. -/
structure Answers (call : Call σ τ) (shared : σ) : Prop where
  /-- If its threads cannot be had, the storm gives up and has started none of them. -/
  denied : ∀ {reason last outcome}, call.refusal? = some reason →
    call.Reaches (gather shared) last → last.stage = .closed outcome →
      outcome.result call.name = .error (.denied reason) ∧
        ∀ index, (last.stations index).started = false
  /-- Otherwise all threads have ended when the storm is over. -/
  ended : ∀ {last outcome}, call.refusal? = none → call.Reaches (gather shared) last →
    last.stage = .closed outcome → ∀ index < call.threads, (last.stations index).hasEnded = true
  /-- Then the storm answers well if no thread gave up, with an error if one did, and not at all if
  more did. -/
  told : ∀ {last outcome}, call.refusal? = none → call.Reaches (gather shared) last →
    last.stage = .closed outcome → outcome.result call.name = match (call.losers last).length with
      | 0 => .ok ()
      | 1 => .error (.panicked call.name)
      | _ => .error .aborted
  /-- The error names the storm. -/
  worded : (Failure.panicked call.name).message = call.name ++ " thread panicked"
  /-- If it is settled which threads give up, these are the ones, in whatever order they act. -/
  settled : ∀ {gaveUp last outcome}, call.operation.Settles gaveUp → call.refusal? = none →
    call.Reaches (gather shared) last → last.stage = .closed outcome →
      call.losers last = (List.range call.threads).filter gaveUp
  /-- While the storm is not over, something can happen, or some thread works. -/
  lively : ∀ {last}, call.Reaches (gather shared) last →
    (∃ outcome, last.stage = .closed outcome) ∨ (∃ next, call.Moves last next) ∨ call.Works last
  /-- If its threads end, however they take turns, so does the storm: it cannot go on forever, and
  it goes on until it is over. -/
  returns : ∀ {left}, call.operation.Ends left →
    Acc (Function.swap call.Moves) (gather shared) ∧ ∀ {last}, call.Reaches (gather shared) last →
      (∃ outcome, last.stage = .closed outcome) ∨ ∃ next, call.Moves last next

variable {call : Call σ τ} {muster next : Muster σ τ} {shared : σ} {outcome : Outcome}

/-- A storm that is over was denied its threads and has started none of them, or all of them have
ended, and it has come out by how many of them gave up. -/
theorem Sound.denied_or_ended (sound : call.Sound muster)
    (closed : muster.stage = .closed outcome) :
    (∃ reason, call.refusal? = some reason ∧ outcome = .denied reason ∧
      ∀ index, (muster.stations index).started = false) ∨
    (call.refusal? = none ∧ outcome = .ofCount (call.losers muster).length ∧
      ∀ index < call.threads, (muster.stations index).hasEnded = true) := by
  have fits : call.Fits muster.stations (.closed outcome) := closed ▸ sound
  rw [← count_panics, ← Outcome.join_eq]
  cases outcome with
  | denied reason => exact .inl ⟨reason, fits.1, rfl, fits.2⟩
  | _ => exact .inr ⟨fits.1, fits.2.2, fits.2.1⟩

/-- No thread of a storm acts after the storm is over. -/
theorem Sound.not_moves_of_closed (sound : call.Sound muster)
    (closed : muster.stage = .closed outcome) : ¬call.Moves muster next := by
  intro moves
  have idle : ∀ {index station}, index < call.threads → muster.stations index = station →
      station.started = true → station.hasEnded = true := by
    rintro index station within rfl started
    obtain ⟨_, -, -, unstarted⟩ | ⟨-, -, ended⟩ := sound.denied_or_ended closed
    · cases (unstarted index).symm.trans started
    · exact ended index within
  cases moves with
  | refuse stage _ => cases closed.symm.trans stage
  | start stage _ _ => cases closed.symm.trans stage
  | await stage => cases closed.symm.trans stage
  | arrive within station => cases idle within station rfl
  | pass within station all => cases idle within station rfl
  | work within station steps => cases idle within station rfl
  | finish within station steps => cases idle within station rfl
  | join stage _ _ => cases closed.symm.trans stage
  | find stage _ _ => cases closed.symm.trans stage
  | settle stage => cases closed.symm.trans stage
  | leave stage _ => cases closed.symm.trans stage

/-- If it is settled which threads give up, only these do. -/
theorem Moves.gaveUp_of_settles {gaveUp : Nat → Bool} (moves : call.Moves muster next)
    (settles : call.operation.Settles gaveUp)
    (known : ∀ index panicked, muster.stations index = .ended panicked → panicked = gaveUp index)
    (index : Nat) (panicked : Bool) (ended : next.stations index = .ended panicked) :
    panicked = gaveUp index := by
  have update : ∀ {other station},
      Function.update muster.stations other station index = .ended panicked →
      (∀ panicked, station = .ended panicked → panicked = gaveUp other) →
        panicked = gaveUp index := by
    intro other station ended settled
    by_cases same : index = other
    · subst same
      rw [Function.update_self] at ended
      exact settled panicked ended
    · rw [Function.update_of_ne same] at ended
      exact known index panicked ended
  cases moves with
  | finish within station steps =>
    refine update ended fun panicked same => ?_
    cases same
    exact settles steps
  | start stage more had => exact update ended fun _ same => nomatch same
  | arrive within station => exact update ended fun _ same => nomatch same
  | pass within station all => exact update ended fun _ same => nomatch same
  | work within station steps => exact update ended fun _ same => nomatch same
  | _ => exact known index panicked ended

/-- Threads that are settled to give up are those that have, once all have ended. -/
theorem losers_eq_of_settles {gaveUp : Nat → Bool} (settles : call.operation.Settles gaveUp)
    (reaches : call.Reaches (gather shared) muster)
    (ended : ∀ index < call.threads, (muster.stations index).hasEnded = true) :
    call.losers muster = (List.range call.threads).filter gaveUp := by
  have known : ∀ index panicked, muster.stations index = .ended panicked →
      panicked = gaveUp index := by
    clear ended
    induction reaches with
    | refl => nofun
    | tail _ moves ih => exact moves.gaveUp_of_settles settles ih
  refine List.filter_congr fun index member => ?_
  have ended := ended index (List.mem_range.1 member)
  cases station : muster.stations index with
  | ended panicked => exact known index panicked station
  | _ => rw [station] at ended; cases ended

/-- The threads of a storm that could be had have ended when it is over, and it has come out by how
many of them gave up. -/
theorem Reaches.ended_of_had (reaches : call.Reaches (gather shared) muster)
    (had : call.refusal? = none) (closed : muster.stage = .closed outcome) :
    outcome = .ofCount (call.losers muster).length ∧
      ∀ index < call.threads, (muster.stations index).hasEnded = true := by
  obtain ⟨reason, refused, -⟩ | ⟨-, ended⟩ :=
    (reaches.sound (sound_gather call shared)).denied_or_ended closed
  · cases had.symm.trans refused
  · exact ended

/-- The caller of a storm gets what is said of it. -/
theorem answers (call : Call σ τ) (shared : σ) : call.Answers shared where
  denied {reason last outcome} refused reaches closed := by
    obtain ⟨reason', refused', rfl, none⟩ | ⟨had, -⟩ :=
      (reaches.sound (sound_gather call shared)).denied_or_ended closed
    · cases refused.symm.trans refused'
      exact ⟨rfl, none⟩
    · cases refused.symm.trans had
  ended had reaches closed := (reaches.ended_of_had had closed).2
  told {last outcome} had reaches closed := by
    rw [(reaches.ended_of_had had closed).1]
    cases (call.losers last).length with
    | zero => rfl
    | succ count =>
      cases count with
      | zero => rfl
      | succ count => rfl
  worded := rfl
  settled settles had reaches closed :=
    losers_eq_of_settles settles reaches (reaches.ended_of_had had closed).2
  lively reaches := (reaches.sound (sound_gather call shared)).moves_or_works
  returns ends := ⟨(sound_gather call shared).acc ends, fun reaches =>
    (reaches.sound (sound_gather call shared)).closed_or_moves ends⟩

end Call

/-- Two storms, the second of which waits for the first one. -/
structure Relay (σ τ υ : Type) where
  /-- The first storm. -/
  first : Muster σ τ
  /-- The second one, once it has started. -/
  second : Option (Muster σ υ)
  /-- What the caller got. -/
  result : Option (Except Failure Unit)

namespace Relay

variable {first : Call σ τ} {second : Call σ υ} {relay next : Relay σ τ υ} {shared : σ}

/-- Two storms of which none has done anything. -/
def gather (shared : σ) : Relay σ τ υ := ⟨Call.gather shared, none, none⟩

/-- The smallest things that happen in two storms. -/
inductive Moves (first : Call σ τ) (second : Call σ υ) (relay : Relay σ τ υ) :
    Relay σ τ υ → Prop where
  /-- Something happens in the first storm. -/
  | lead {muster : Muster σ τ} (moves : first.Moves relay.first muster) :
      Moves first second relay { relay with first := muster }
  /-- The first storm has come out well, and the second one finds what it has left. -/
  | hand (closed : relay.first.stage = .closed .calm) (unstarted : relay.second = none) :
      Moves first second relay { relay with second := some (Call.gather relay.first.shared) }
  /-- The first storm has not come out well. -/
  | fail {outcome : Outcome} {failure : Failure} (unanswered : relay.result = none)
      (closed : relay.first.stage = .closed outcome)
      (failed : outcome.result first.name = .error failure) :
      Moves first second relay { relay with result := some (.error failure) }
  /-- Something happens in the second storm. -/
  | follow {muster muster' : Muster σ υ} (started : relay.second = some muster)
      (moves : second.Moves muster muster') :
      Moves first second relay { relay with second := some muster' }
  /-- The second storm is over. -/
  | finish {muster : Muster σ υ} {outcome : Outcome} (unanswered : relay.result = none)
      (started : relay.second = some muster) (closed : muster.stage = .closed outcome) :
      Moves first second relay { relay with result := some (outcome.result second.name) }

/-- Two storms can get there. -/
def Reaches (first : Call σ τ) (second : Call σ υ) : Relay σ τ υ → Relay σ τ υ → Prop :=
  Relation.ReflTransGen (Moves first second)

/-- What two storms, the second of which waits for the first one, have come to. -/
structure Tells (first : Call σ τ) (second : Call σ υ) (shared : σ) (relay : Relay σ τ υ) :
    Prop where
  /-- The first storm does what it does alone. -/
  leads : first.Reaches (Call.gather shared) relay.first
  /-- The second storm has started only after the first one came out well, and then it does what it
  does alone with what the first one has left. -/
  follows : ∀ {muster}, relay.second = some muster → relay.first.stage = .closed .calm ∧
    second.Reaches (Call.gather relay.first.shared) muster
  /-- The caller has got something only when the first storm was over. It gets what the first storm
  tells if that has not come out well, and then the second one has not started. Otherwise the second
  one has started and is over, and the caller gets what that one tells. -/
  tells : ∀ {result}, relay.result = some result → ∃ outcome, relay.first.stage = .closed outcome ∧
    (relay.second.isSome = true ↔ outcome.result first.name = .ok ()) ∧
      (relay.second = none → result = outcome.result first.name) ∧
        ∀ {muster}, relay.second = some muster → ∃ outcome', muster.stage = .closed outcome' ∧
          result = outcome'.result second.name

/-- Two storms that have done nothing have come to nothing. -/
theorem tells_gather (first : Call σ τ) (second : Call σ υ) (shared : σ) :
    (gather shared).Tells first second shared :=
  ⟨.refl, nofun, nofun⟩

/-- What two storms have come to stays right with the next thing that happens. -/
theorem Tells.move (tells : relay.Tells first second shared)
    (moves : Moves first second relay next) : next.Tells first second shared := by
  have lead : first.Sound relay.first := tells.leads.sound (Call.sound_gather _ _)
  cases moves with
  | lead moves =>
    refine ⟨tells.leads.tail moves, fun started => ?_, fun told => ?_⟩
    · exact absurd moves (lead.not_moves_of_closed (tells.follows started).1)
    · obtain ⟨outcome, closed, -⟩ := tells.tells told
      exact absurd moves (lead.not_moves_of_closed closed)
  | hand closed unstarted =>
    refine ⟨tells.leads, fun started => ?_, fun told => ?_⟩
    · cases started
      exact ⟨closed, .refl⟩
    · obtain ⟨outcome, closed', starts, -⟩ := tells.tells told
      cases closed.symm.trans closed'
      rw [unstarted] at starts
      cases starts.2 rfl
  | fail _ closed failed =>
    have unstarted : relay.second = none := by
      cases started : relay.second with
      | none => rfl
      | some muster =>
        cases closed.symm.trans (tells.follows started).1
        cases failed
    refine ⟨tells.leads, tells.follows, fun told => ?_⟩
    cases told
    refine ⟨_, closed, ?_, fun _ => failed.symm, fun started => ?_⟩
    · rw [unstarted, failed]
      exact iff_of_false Bool.false_ne_true nofun
    · cases unstarted.symm.trans started
  | @follow muster muster' started moves =>
    obtain ⟨calm, follows⟩ := tells.follows started
    refine ⟨tells.leads, fun started' => ?_, fun told => ?_⟩
    · cases started'
      exact ⟨calm, follows.tail moves⟩
    · obtain ⟨outcome, -, -, -, finished⟩ := tells.tells told
      obtain ⟨outcome', closed, -⟩ := finished started
      exact absurd moves ((follows.sound (Call.sound_gather _ _)).not_moves_of_closed closed)
  | @finish muster outcome _ started closed =>
    refine ⟨tells.leads, tells.follows, fun told => ?_⟩
    cases told
    refine ⟨_, (tells.follows started).1, ?_, fun unstarted => ?_, fun started' => ?_⟩
    · rw [started]
      exact iff_of_true rfl rfl
    · cases unstarted.symm.trans started
    · cases started.symm.trans started'
      exact ⟨outcome, closed, rfl⟩

/-- What two storms have come to is right whatever they do. -/
theorem Reaches.tells (reaches : Reaches first second (gather shared) relay) :
    relay.Tells first second shared := by
  induction reaches with
  | refl => exact tells_gather _ _ _
  | tail _ moves ih => exact ih.move moves

/-- What the first storm can do alone, it can do before the second one. -/
theorem reaches_lead {muster muster' : Muster σ τ} {started : Option (Muster σ υ)}
    {result : Option (Except Failure Unit)} (reaches : first.Reaches muster muster') :
    Reaches first second ⟨muster, started, result⟩ ⟨muster', started, result⟩ := by
  induction reaches with
  | refl => exact .refl
  | tail _ moves ih => exact ih.tail (.lead moves)

/-- What the second storm can do alone, it can do after the first one. -/
theorem reaches_follow {muster : Muster σ τ} {started started' : Muster σ υ}
    {result : Option (Except Failure Unit)} (reaches : second.Reaches started started') :
    Reaches first second ⟨muster, some started, result⟩ ⟨muster, some started', result⟩ := by
  induction reaches with
  | refl => exact .refl
  | tail _ moves ih => exact ih.tail (.follow rfl moves)

/-- Two storms of which the first came out well come to what the second one comes to. -/
theorem reaches_result {muster : Muster σ τ} {muster' : Muster σ υ} {outcome : Outcome}
    (leads : first.Reaches (Call.gather shared) muster) (calm : muster.stage = .closed .calm)
    (follows : second.Reaches (Call.gather muster.shared) muster')
    (closed : muster'.stage = .closed outcome) : Reaches first second (gather shared)
      ⟨muster, some muster', some (outcome.result second.name)⟩ := by
  have leads : Reaches first second (gather shared) ⟨muster, none, none⟩ := reaches_lead leads
  have hands : Reaches first second (gather shared)
      ⟨muster, some (Call.gather muster.shared), none⟩ := leads.tail (.hand calm rfl)
  have follows : Reaches first second (gather shared) ⟨muster, some muster', none⟩ :=
    hands.trans (reaches_follow follows)
  exact follows.tail (.finish rfl rfl closed)

/-- Two storms of which the first did not come out well come to what that one comes to. -/
theorem reaches_failure {muster : Muster σ τ} {outcome : Outcome} {failure : Failure}
    (leads : first.Reaches (Call.gather shared) muster) (closed : muster.stage = .closed outcome)
    (failed : outcome.result first.name = .error failure) : Reaches first second (gather shared)
      ⟨muster, none, some (.error failure)⟩ := by
  have leads : Reaches first second (gather shared) ⟨muster, none, none⟩ := reaches_lead leads
  exact leads.tail (.fail rfl closed failed)

section Ends

variable {left : Nat → τ → Nat} {left' : Nat → υ → Nat}

/-- The most that can happen before the caller has got something. -/
def budget (first : Call σ τ) (second : Call σ υ) (left : Nat → τ → Nat) (left' : Nat → υ → Nat)
    (relay : Relay σ τ υ) : Nat :=
  first.budget left relay.first +
    relay.second.elim (second.budget left' (Call.gather relay.first.shared) + 1)
      (second.budget left') + relay.result.elim 1 fun _ => 0

/-- The caller of two storms has less to wait for after each thing that happens. -/
theorem Moves.budget_lt (moves : Moves first second relay next)
    (tells : relay.Tells first second shared) (ends : first.operation.Ends left)
    (ends' : second.operation.Ends left') :
    next.budget first second left left' < relay.budget first second left left' := by
  obtain ⟨lead, started, result⟩ := relay
  cases moves with
  | lead moves =>
    have less := moves.budget_lt ends (tells.leads.sound (Call.sound_gather _ _))
    -- What the second storm may do before it starts does not depend on what it will find.
    exact Nat.add_lt_add_right (Nat.add_lt_add_right less _) _
  | hand closed unstarted =>
    cases unstarted
    exact Nat.add_lt_add_right (Nat.add_lt_add_left (Nat.lt_succ_self _) _) _
  | fail unanswered closed failed =>
    cases unanswered
    exact Nat.lt_succ_self _
  | follow started moves =>
    cases started
    have less := moves.budget_lt ends' ((tells.follows rfl).2.sound (Call.sound_gather _ _))
    exact Nat.add_lt_add_right (Nat.add_lt_add_left less _) _
  | finish unanswered started closed =>
    cases unanswered
    exact Nat.lt_succ_self _

/-- Two storms of threads that end do not go on forever. -/
theorem Tells.acc (tells : relay.Tells first second shared) (ends : first.operation.Ends left)
    (ends' : second.operation.Ends left') : Acc (Function.swap (Moves first second)) relay := by
  induction budget : relay.budget first second left left' using Nat.strong_induction_on
    generalizing relay with
  | _ budget ih =>
    subst budget
    exact .intro relay fun next moves =>
      ih _ (moves.budget_lt tells ends ends') (tells.move moves) rfl

/-- The caller of two storms has got something, or something can happen yet. -/
theorem Tells.answered_or_moves (tells : relay.Tells first second shared)
    (ends : first.operation.Ends left) (ends' : second.operation.Ends left') :
    (∃ result, relay.result = some result) ∨ ∃ next, Moves first second relay next := by
  cases unanswered : relay.result with
  | some result => exact .inl ⟨result, rfl⟩
  | none =>
    have lead : first.Sound relay.first := tells.leads.sound (Call.sound_gather _ _)
    obtain ⟨outcome, closed⟩ | ⟨muster, moves⟩ := lead.closed_or_moves ends
    · cases told : outcome.result first.name with
      | error failure => exact .inr ⟨_, .fail unanswered closed told⟩
      | ok _ =>
        have calm : outcome = .calm := by
          cases outcome with
          | calm => rfl
          | _ => cases told
        subst calm
        cases started : relay.second with
        | none => exact .inr ⟨_, .hand closed started⟩
        | some muster =>
          have follow := (tells.follows started).2.sound (Call.sound_gather _ _)
          obtain ⟨outcome, closed'⟩ | ⟨muster', moves⟩ := follow.closed_or_moves ends'
          · exact .inr ⟨_, .finish unanswered started closed'⟩
          · exact .inr ⟨_, .follow started moves⟩
    · exact .inr ⟨_, .lead moves⟩

end Ends

/-- What the caller of two storms gets, whatever their threads do and however they take turns. -/
structure Answers (first : Call σ τ) (second : Call σ υ) (shared : σ) : Prop where
  /-- The second storm has started exactly if the first one came out well. -/
  tells : ∀ {relay : Relay σ τ υ}, Reaches first second (gather shared) relay →
    relay.Tells first second shared
  /-- If the threads of both end, however they take turns, the caller gets something. -/
  returns : ∀ {left left'}, first.operation.Ends left → second.operation.Ends left' →
    Acc (Function.swap (Moves first second)) (gather shared) ∧
      ∀ {relay}, Reaches first second (gather shared) relay →
        (∃ result, relay.result = some result) ∨ ∃ next, Moves first second relay next

/-- The caller of two storms gets what is said of them. -/
theorem answers (first : Call σ τ) (second : Call σ υ) (shared : σ) :
    Answers first second shared where
  tells reaches := reaches.tells
  returns ends ends' := ⟨(tells_gather first second shared).acc ends ends', fun reaches =>
    reaches.tells.answered_or_moves ends ends'⟩

end Relay

namespace Plan

/-- The world in which a plan starts its storms. -/
def opening (plan : Plan) (detector : Detector) : World Int :=
  ((World.empty.setDetector ⟨0⟩ detector).newValue 0 (some ⟨0⟩) (some plan.name)).1

/-- What comes of a plan is what its storms come to. -/
theorem run_map_eq {plan : Plan} {detector : Detector}
    (made : Detector.new plan.config = .ok detector) : plan.run.map (fun _ => ()) =
      (runPhases plan.name ⟨0⟩ plan.phases (plan.opening detector)).2.result plan.name := by
  rw [run, made, opening]
  dsimp only
  cases runPhases plan.name ⟨0⟩ plan.phases
    ((World.empty.setDetector ⟨0⟩ detector).newValue 0 (some ⟨0⟩) (some plan.name)).1 with
  | mk world outcome => cases outcome <;> rfl

/-- A plan of one or two storms comes to what these come to if their threads take turns in some
order. -/
structure Realized (plan : Plan) (detector : Detector) : Prop where
  /-- Their threads end, however they take turns. -/
  ends : ∀ phase ∈ plan.phases, (phase.operation plan.name ⟨0⟩).Ends phase.left
  /-- One storm. -/
  alone : ∀ {phase}, plan.phases = [phase] → ∃ last outcome,
    (phase.call plan.name ⟨0⟩).Reaches (Call.gather (plan.opening detector)) last ∧
      last.stage = .closed outcome ∧ plan.run.map (fun _ => ()) = outcome.result plan.name
  /-- Two storms. -/
  paired : ∀ {phase phase'}, plan.phases = [phase, phase'] → ∃ relay,
    Relay.Reaches (phase.call plan.name ⟨0⟩) (phase'.call plan.name ⟨0⟩)
      (Relay.gather (plan.opening detector)) relay ∧
        relay.result = some (plan.run.map fun _ => ())

/-- A plan of one phase runs like that phase alone. -/
theorem runPhases_singleton (name : String) (value : ValueId) (phase : Phase) (world : World Int) :
    runPhases name value [phase] world = phase.run name value world := by
  rw [runPhases]
  cases phase.run name value world with
  | mk world outcome => cases outcome <;> rfl

/-- What a plan computes for its storms comes of them. -/
theorem realized {plan : Plan} {detector : Detector}
    (made : Detector.new plan.config = .ok detector) : plan.Realized detector where
  ends phase _ := phase.ends plan.name ⟨0⟩
  alone {phase} only := by
    obtain ⟨last, reaches, -, closed⟩ := phase.reaches_run plan.name ⟨0⟩ (plan.opening detector)
    refine ⟨last, _, reaches, closed, ?_⟩
    rw [run_map_eq made, only, runPhases_singleton]
  paired {phase phase'} both := by
    obtain ⟨last, leads, shared, closed⟩ := phase.reaches_run plan.name ⟨0⟩ (plan.opening detector)
    rw [run_map_eq made, both, runPhases]
    generalize phase.run plan.name ⟨0⟩ (plan.opening detector) = ran at shared closed
    obtain ⟨world, outcome⟩ := ran
    cases outcome with
    | calm =>
      obtain ⟨last', follows, -, closed'⟩ := phase'.reaches_run plan.name ⟨0⟩ world
      dsimp only
      rw [runPhases_singleton]
      exact ⟨_, Relay.reaches_result leads closed (shared ▸ follows) closed', rfl⟩
    | _ => exact ⟨_, Relay.reaches_failure leads closed rfl, rfl⟩

end Plan

/-- With one thread that gives up, a storm answers with an error, whichever thread it is and however
the threads take turns, and with none it answers well. With more it does not answer, and it does not
answer if its threads cannot be had. In each case all of its threads have ended. The second of two
storms starts exactly if the first answers well, and the caller of both then gets what the second
one tells. The storms that are computed are storms like these. -/
theorem storm_told_by_panics (first : Call σ τ) (second : Call σ υ) (shared : σ) :
    first.Answers shared ∧ Relay.Answers first second shared ∧
      ∀ (plan : Plan) (detector : Detector), Detector.new plan.config = .ok detector →
        plan.Realized detector :=
  ⟨first.answers shared, Relay.answers first second shared, fun _ _ made => Plan.realized made⟩

/-- Each thread does one step, and gives up or not. -/
def Operation.single (gaveUp : Nat → Bool) : Operation Unit Unit where
  start _ := ()
  step index _ _ _ stride := stride = .done (gaveUp index)

/-- A storm of threads of one step can be over, and those gave up that should. -/
theorem exists_single_closed (name : String) (threads : Nat) (gaveUp : Nat → Bool)
    (had : (Call.mk name threads (Operation.single gaveUp)).refusal? = none) :
    ∃ last : Muster Unit Unit,
      (Call.mk name threads (Operation.single gaveUp)).Reaches (Call.gather ()) last ∧
        last.stage = .closed (.join ((List.range threads).map gaveUp)) ∧
          (Call.mk name threads (Operation.single gaveUp)).losers last =
            (List.range threads).filter gaveUp := by
  obtain ⟨last, ended, -, closed, reaches⟩ :=
    Call.reaches_closed_one_by_one had (fun _ => ()) gaveUp fun index _ => .done rfl
  refine ⟨last, reaches, closed, List.filter_congr fun index member => ?_⟩
  rw [ended index (List.mem_range.1 member)]
  rfl

/-- Two threads do nothing, and of three threads after them the second one gives up: the caller gets
an error in the name of the second storm. -/
theorem storm_told_by_panics_of_second :
    ∃ relay : Relay Unit Unit Unit,
      Relay.Reaches ⟨"calm", 2, .single fun _ => false⟩ ⟨"loud", 3, .single (· == 1)⟩
        (Relay.gather ()) relay ∧ relay.second.isSome = true ∧
          relay.first.stage = .closed .calm ∧ relay.result = some (.error (.panicked "loud")) := by
  obtain ⟨first, leads, calm, -⟩ := exists_single_closed "calm" 2 (fun _ => false) (by decide)
  obtain ⟨second, follows, closed, losers⟩ := exists_single_closed "loud" 3 (· == 1) (by decide)
  have reaches : Relay.Reaches _ _ (Relay.gather ()) _ :=
    Relay.reaches_result leads calm follows closed
  have tells := (storm_told_by_panics ⟨"calm", 2, .single fun _ => false⟩
    ⟨"loud", 3, .single (· == 1)⟩ ()).2.1.tells reaches
  have told := (storm_told_by_panics ⟨"loud", 3, .single (· == 1)⟩
    ⟨"calm", 2, .single fun _ => false⟩ ()).1.told (by decide) follows closed
  rw [losers] at told
  exact ⟨_, reaches, rfl, (tells.follows rfl).1, congrArg some told⟩

/-- Both threads of a storm give up, and the storm does not answer with an error. A storm in whose
name no thread can be had does not answer either, although none of its threads would give up. -/
theorem storm_unanswered_with_two_panics :
    (∃ last : Muster Unit Unit,
      Call.Reaches ⟨"s", 2, .single fun _ => true⟩ (Call.gather ()) last ∧
        Call.losers ⟨"s", 2, .single fun _ => true⟩ last = [0, 1] ∧
          last.stage = .closed .scopePanicked ∧
            Outcome.scopePanicked.result "s" ≠ .error (.panicked "s")) ∧
      (Plan.run ⟨"x\x00", .tinyBuffer 4, [⟨.read, 2, 1⟩]⟩).map (fun _ => ()) =
        .error (.denied (.unnameable "x\x00-0")) := by
  constructor
  · obtain ⟨last, reaches, closed, losers⟩ := exists_single_closed "s" 2 (fun _ => true) (by decide)
    exact ⟨last, reaches, losers, closed, nofun⟩
  · rw [Plan.run_map_eq rfl, Plan.runPhases_singleton]
    decide

end RaceSentry.Storm
