import Mathlib.Algebra.Order.BigOperators.Group.Finset
import Mathlib.Logic.Function.Basic
import Mathlib.Logic.Relation
import RaceSentry.Storm

/-!
# Storms of any operation

The storms that are computed let one thread after another act, and only in one of their modes a
thread gives up. Here the threads of a storm take turns in any order, and what they do is anything:
small steps on a state that they share and on one that each of them has for itself.

The storm starts its threads in their order. They meet at a barrier, which opens when all of them
have arrived, and then each of them works until it ends. Meanwhile the storm waits for them in their
order, up to the first that gave up. It may not leave before all threads have ended, and it does not
leave well if a thread gave up for which it did not wait.
Main statements: `Call.Moves.sound`, what the storm knows agrees with where its threads are,
`Call.Sound.moves_or_works`, no storm is stuck while nobody works, and `Call.Sound.acc`, a storm of
operations that end does not go on forever.
-/

namespace RaceSentry.Storm

variable {σ τ : Type}

/-- What comes of a small step of an operation. -/
inductive Stride (τ : Type) where
  /-- The thread goes on, with a new state of its own. -/
  | on (own : τ)
  /-- The thread ends, by giving up or not. -/
  | done (panicked : Bool)

/-- What the threads of a storm do after they have met. -/
structure Operation (σ τ : Type) where
  /-- What the thread of a number begins with. -/
  start : Nat → τ
  /-- The small steps of the thread of a number, which may change what all threads share. -/
  step : Nat → σ → τ → σ → Stride τ → Prop

/-- Where a thread of a storm is. -/
inductive Station (τ : Type) where
  /-- It was not started yet. -/
  | absent
  /-- It is on its way to the barrier. -/
  | coming
  /-- It waits at the barrier. -/
  | waiting
  /-- It works. -/
  | working (own : τ)
  /-- It has ended, by giving up or not. -/
  | ended (panicked : Bool)

namespace Station

/-- Whether the thread was started. -/
def started : Station τ → Bool
  | .absent => false
  | _ => true

/-- Whether the thread has been at the barrier. -/
def arrived : Station τ → Bool
  | .absent => false
  | .coming => false
  | _ => true

/-- Whether the thread has ended. -/
def hasEnded : Station τ → Bool
  | .ended _ => true
  | _ => false

/-- Whether the thread has given up. -/
def gaveUp : Station τ → Bool
  | .ended panicked => panicked
  | _ => false

end Station

/-- Where the storm itself is. -/
inductive Stage where
  /-- It has started that many threads. -/
  | starting (count : Nat)
  /-- It has waited for that many threads, all of which ended well. -/
  | joining (count : Nat)
  /-- It waits for no thread in particular any more, since it found one that gave up, or none. -/
  | leaving (found : Option Nat)
  /-- It is over. -/
  | closed (outcome : Outcome)

/-- A storm with its threads. -/
structure Muster (σ τ : Type) where
  /-- What the threads share. -/
  shared : σ
  /-- Where the thread of each number is. -/
  stations : Nat → Station τ
  /-- Where the storm itself is. -/
  stage : Stage

/-- What a storm is asked for. -/
structure Call (σ τ : Type) where
  /-- The name of the storm. -/
  name : String
  /-- The number of threads. -/
  threads : Nat
  /-- What they do. -/
  operation : Operation σ τ

namespace Call

variable (call : Call σ τ)

/-- Why the threads of a storm cannot be had. -/
def refusal? : Option Denial :=
  if call.threads = 0 then none
  else (Denial.ofRow? Phase.handleBytes call.threads).or
    (Denial.ofThreadName? (Phase.threadName call.name 0))

/-- A storm that has done nothing yet. -/
def gather (shared : σ) : Muster σ τ := ⟨shared, fun _ => .absent, .starting 0⟩

/-- The threads that gave up, in their order. -/
def losers (muster : Muster σ τ) : List Nat :=
  (List.range call.threads).filter fun index => (muster.stations index).gaveUp

/-- How a storm comes out that found a thread that gave up, or none, when all threads have ended.
It waited for the threads up to the one that it found. -/
def verdict (muster : Muster σ τ) : Option Nat → Outcome
  | none => .calm
  | some found =>
    if ∃ other < call.threads, found < other ∧ (muster.stations other).gaveUp = true then
      .scopePanicked
    else .threadPanicked

/-- The smallest things that happen in a storm. -/
inductive Moves (muster : Muster σ τ) : Muster σ τ → Prop where
  /-- The threads cannot be had, and the storm gives up. -/
  | refuse {reason : Denial} (stage : muster.stage = .starting 0)
      (refused : call.refusal? = some reason) :
      Moves muster { muster with stage := .closed (.denied reason) }
  /-- The storm starts its next thread. -/
  | start {index : Nat} (stage : muster.stage = .starting index) (more : index < call.threads)
      (had : call.refusal? = none) :
      Moves muster { muster with
        stations := Function.update muster.stations index .coming, stage := .starting (index + 1) }
  /-- All threads were started. -/
  | await (stage : muster.stage = .starting call.threads) :
      Moves muster { muster with stage := .joining 0 }
  /-- A thread gets to the barrier. -/
  | arrive {index : Nat} (within : index < call.threads)
      (station : muster.stations index = .coming) :
      Moves muster { muster with stations := Function.update muster.stations index .waiting }
  /-- A thread passes the barrier after all of them have got there. -/
  | pass {index : Nat} (within : index < call.threads)
      (station : muster.stations index = .waiting)
      (all : ∀ other < call.threads, (muster.stations other).arrived = true) :
      Moves muster { muster with
        stations := Function.update muster.stations index (.working (call.operation.start index)) }
  /-- A thread does a small step. -/
  | work {index : Nat} {own own' : τ} {shared : σ} (within : index < call.threads)
      (station : muster.stations index = .working own)
      (steps : call.operation.step index muster.shared own shared (.on own')) :
      Moves muster { muster with
        shared := shared, stations := Function.update muster.stations index (.working own') }
  /-- A thread does its last step. -/
  | finish {index : Nat} {own : τ} {shared : σ} {panicked : Bool} (within : index < call.threads)
      (station : muster.stations index = .working own)
      (steps : call.operation.step index muster.shared own shared (.done panicked)) :
      Moves muster { muster with
        shared := shared, stations := Function.update muster.stations index (.ended panicked) }
  /-- The thread that the storm waits for has ended well. -/
  | join {index : Nat} (stage : muster.stage = .joining index) (more : index < call.threads)
      (station : muster.stations index = .ended false) :
      Moves muster { muster with stage := .joining (index + 1) }
  /-- The thread that the storm waits for has given up. -/
  | find {index : Nat} (stage : muster.stage = .joining index) (more : index < call.threads)
      (station : muster.stations index = .ended true) :
      Moves muster { muster with stage := .leaving (some index) }
  /-- The storm has waited for all threads. -/
  | settle (stage : muster.stage = .joining call.threads) :
      Moves muster { muster with stage := .leaving none }
  /-- All threads have ended, and the storm is over. -/
  | leave {found : Option Nat} (stage : muster.stage = .leaving found)
      (all : ∀ index < call.threads, (muster.stations index).hasEnded = true) :
      Moves muster { muster with stage := .closed (call.verdict muster found) }

/-- A storm can get from one point to another. -/
def Reaches : Muster σ τ → Muster σ τ → Prop := Relation.ReflTransGen call.Moves

end Call

namespace Outcome

/-- Threads that did not give up are passed by. -/
theorem join_replicate_append (count : Nat) (panics : List Bool) :
    join (List.replicate count false ++ panics) = join panics := by
  induction count with
  | zero => rfl
  | succ count ih => exact ih

/-- How a storm comes out of which that many threads gave up. -/
def ofCount : Nat → Outcome
  | 0 => .calm
  | 1 => .threadPanicked
  | _ => .scopePanicked

/-- A storm that started its threads was not denied them. -/
theorem ofCount_ne_denied {reason : Denial} (count : Nat) : ofCount count ≠ .denied reason :=
  match count with
  | 0 => nofun
  | 1 => nofun
  | _ + 2 => nofun

/-- How a storm comes out is a matter of how many of its threads gave up. -/
theorem join_eq (panics : List Bool) : join panics = ofCount (panics.count true) := by
  induction panics with
  | nil => rfl
  | cons panicked rest ih =>
    cases panicked with
    | false =>
      rw [join, ih, List.count_cons_of_ne Bool.false_ne_true]
    | true =>
      rw [join, List.count_cons_self]
      cases others : rest.count true with
      | zero =>
        have none : rest.any id = false := by
          refine List.any_eq_false.2 fun other member panicked => ?_
          exact List.count_eq_zero.1 others (panicked ▸ member)
        rw [none]
        rfl
      | succ count =>
        have some : rest.any id = true := by
          have member : true ∈ rest := List.count_pos_iff.1 (others ▸ Nat.succ_pos count)
          exact List.any_eq_true.2 ⟨true, member, rfl⟩
        rw [some]
        rfl

end Outcome

namespace Call

variable {call : Call σ τ} {muster next : Muster σ τ}

/-- For each thread of a storm, whether it gave up. -/
def panics (call : Call σ τ) (muster : Muster σ τ) : List Bool :=
  (List.range call.threads).map fun index => (muster.stations index).gaveUp

/-- As many threads gave up as are listed. -/
theorem count_panics (call : Call σ τ) (muster : Muster σ τ) :
    (call.panics muster).count true = (call.losers muster).length := by
  rw [panics, List.count, List.countP_map, losers, List.countP_eq_length_filter]
  congr 2
  funext index
  exact beq_true _

/-- A storm that has waited for its threads up to the first that gave up comes out as if it had
asked all of them. -/
theorem verdict_some_eq_join {found : Nat} (within : found < call.threads)
    (before : ∀ index < found, muster.stations index = .ended false)
    (panicked : muster.stations found = .ended true) :
    call.verdict muster (some found) = .join (call.panics muster) := by
  obtain ⟨rest, same⟩ := Nat.exists_eq_add_of_lt within
  have split : call.panics muster = List.replicate found false ++ true ::
      (List.range rest).map fun index => (muster.stations (found + (index + 1))).gaveUp := by
    rw [panics, same, Nat.add_assoc, List.range_add, List.map_append, List.range_succ_eq_map]
    congr 1
    · refine List.eq_replicate_iff.2 ⟨by simp, fun answer member => ?_⟩
      obtain ⟨index, earlier, rfl⟩ := List.mem_map.1 member
      rw [before index (List.mem_range.1 earlier)]
      rfl
    · simp only [List.map_cons, List.map_map, Nat.add_zero, panicked]
      rfl
  have others : (((List.range rest).map fun index =>
      (muster.stations (found + (index + 1))).gaveUp).any id = true) ↔
        ∃ other < call.threads, found < other ∧ (muster.stations other).gaveUp = true := by
    rw [List.any_map, List.any_eq_true]
    constructor
    · rintro ⟨index, member, gaveUp⟩
      have bounded := List.mem_range.1 member
      exact ⟨found + (index + 1), by omega, by omega, gaveUp⟩
    · rintro ⟨other, within', later, gaveUp⟩
      obtain ⟨index, rfl⟩ := Nat.exists_eq_add_of_lt later
      exact ⟨index, List.mem_range.2 (by omega), gaveUp⟩
  rw [split, Outcome.join_replicate_append, Outcome.join, verdict]
  exact if_congr others.symm rfl rfl

/-- A storm comes out well if all of its threads ended well. -/
theorem join_panics_of_well (well : ∀ index < call.threads, muster.stations index = .ended false) :
    Outcome.join (call.panics muster) = .calm := by
  have all : call.panics muster = List.replicate call.threads false ++ [] := by
    rw [List.append_nil]
    refine List.eq_replicate_iff.2 ⟨by simp [panics], fun answer member => ?_⟩
    obtain ⟨index, within, rfl⟩ := List.mem_map.1 member
    rw [well index (List.mem_range.1 within)]
    rfl
  rw [all, Outcome.join_replicate_append]
  rfl

/-- The threads of a storm can be had, and all of them were started. -/
def Manned (call : Call σ τ) (stations : Nat → Station τ) : Prop :=
  call.refusal? = none ∧ ∀ index < call.threads, (stations index).started = true

/-- How the stage of a storm agrees with where its threads are. -/
def Fits (call : Call σ τ) (stations : Nat → Station τ) : Stage → Prop
  | .starting count =>
    count ≤ call.threads ∧ (0 < count → call.refusal? = none) ∧
      ∀ index, (stations index).started = true ↔ index < count
  | .joining count =>
    call.Manned stations ∧ count ≤ call.threads ∧ ∀ index < count, stations index = .ended false
  | .leaving none =>
    call.Manned stations ∧ ∀ index < call.threads, stations index = .ended false
  | .leaving (some found) =>
    call.Manned stations ∧ found < call.threads ∧ (∀ index < found, stations index = .ended false) ∧
      stations found = .ended true
  | .closed (.denied reason) =>
    call.refusal? = some reason ∧ ∀ index, (stations index).started = false
  | .closed outcome =>
    call.refusal? = none ∧ (∀ index < call.threads, (stations index).hasEnded = true) ∧
      outcome = .join ((List.range call.threads).map fun index => (stations index).gaveUp)

/-- What a storm knows agrees with where its threads are. -/
def Sound (call : Call σ τ) (muster : Muster σ τ) : Prop := call.Fits muster.stations muster.stage

/-- A storm that has done nothing knows where its threads are: nowhere. -/
theorem sound_gather (call : Call σ τ) (shared : σ) : call.Sound (gather shared) := by
  refine ⟨Nat.zero_le _, fun positive => absurd positive (Nat.lt_irrefl 0), fun index => ?_⟩
  exact iff_of_false Bool.false_ne_true (Nat.not_lt_zero index)

/-- A storm whose threads have ended comes out by what they did. -/
theorem fits_closed_join {stations : Nat → Station τ} (had : call.refusal? = none)
    (ended : ∀ index < call.threads, (stations index).hasEnded = true) :
    call.Fits stations
      (.closed (.join ((List.range call.threads).map fun index => (stations index).gaveUp))) := by
  have known := Outcome.join_eq ((List.range call.threads).map fun index => (stations index).gaveUp)
  cases outcome : Outcome.join ((List.range call.threads).map fun index =>
      (stations index).gaveUp) with
  | calm => exact ⟨had, ended, outcome.symm⟩
  | threadPanicked => exact ⟨had, ended, outcome.symm⟩
  | scopePanicked => exact ⟨had, ended, outcome.symm⟩
  | denied reason =>
    rw [outcome] at known
    exact absurd known (Outcome.ofCount_ne_denied _).symm

/-- A thread has been started after a step if it was before, and it stays where it has ended. -/
structure Onward (before after : Station τ) : Prop where
  /-- It is as much started as it was. -/
  started : after.started = before.started
  /-- It does not go on after its end. -/
  ended : ∀ panicked, before = .ended panicked → after = .ended panicked

/-- A thread that stays where it is has gone back nowhere. -/
theorem Onward.refl (station : Station τ) : Onward station station := ⟨rfl, fun _ ended => ended⟩

/-- A thread that has ended goes nowhere. -/
theorem Onward.eq_of_hasEnded {before after : Station τ} (onward : Onward before after)
    (ended : before.hasEnded = true) : after = before := by
  cases before with
  | absent => cases ended
  | coming => cases ended
  | waiting => cases ended
  | working own => cases ended
  | ended panicked => exact onward.ended panicked rfl

/-- One thread takes a step, and all others stay where they are. -/
theorem onward_update {stations : Nat → Station τ} {index : Nat} {station : Station τ}
    (onward : Onward (stations index) station) (other : Nat) :
    Onward (stations other) (Function.update stations index station other) := by
  by_cases same : other = index
  · subst same
    rw [Function.update_self]
    exact onward
  · rw [Function.update_of_ne same]
    exact .refl _

/-- What the storm knows stays true while its threads go on. -/
theorem Fits.onward {stations stations' : Nat → Station τ} {stage : Stage}
    (fits : call.Fits stations stage)
    (onward : ∀ index, Onward (stations index) (stations' index)) : call.Fits stations' stage := by
  have manned : call.Manned stations → call.Manned stations' := fun manned =>
    ⟨manned.1, fun index within => (onward index).started.trans (manned.2 index within)⟩
  cases stage with
  | starting count =>
    refine ⟨fits.1, fits.2.1, fun index => ?_⟩
    rw [(onward index).started]
    exact fits.2.2 index
  | joining count =>
    exact ⟨manned fits.1, fits.2.1, fun index earlier =>
      (onward index).ended _ (fits.2.2 index earlier)⟩
  | leaving found =>
    cases found with
    | none =>
      exact ⟨manned fits.1, fun index within => (onward index).ended _ (fits.2 index within)⟩
    | some found =>
      exact ⟨manned fits.1, fits.2.1, fun index earlier =>
        (onward index).ended _ (fits.2.2.1 index earlier), (onward found).ended _ fits.2.2.2⟩
  | closed outcome =>
    have same : (∀ index < call.threads, (stations index).hasEnded = true) →
        ∀ index < call.threads, stations' index = stations index := fun ended index within =>
      (onward index).eq_of_hasEnded (ended index within)
    cases outcome with
    | denied reason =>
      exact ⟨fits.1, fun index => (onward index).started.trans (fits.2 index)⟩
    | _ =>
      obtain ⟨had, ended, comes⟩ := fits
      refine ⟨had, fun index within => ?_, comes.trans ?_⟩
      · rw [same ended index within]
        exact ended index within
      · congr 1
        refine List.map_congr_left fun index member => ?_
        rw [same ended index (List.mem_range.1 member)]

/-- Whatever happens, what the storm knows agrees with where its threads are. -/
theorem Moves.sound (moves : call.Moves muster next) (sound : call.Sound muster) :
    call.Sound next := by
  cases moves with
  | refuse stage refused =>
    have fits : call.Fits muster.stations (.starting 0) := stage ▸ sound
    refine ⟨refused, fun index => Bool.eq_false_iff.2 fun started => ?_⟩
    exact Nat.not_lt_zero index ((fits.2.2 index).1 started)
  | @start index stage more had =>
    have fits : call.Fits muster.stations (.starting index) := stage ▸ sound
    refine ⟨more, fun _ => had, fun other => ?_⟩
    change (Function.update muster.stations index .coming other).started = true ↔ other < index + 1
    by_cases same : other = index
    · subst same
      rw [Function.update_self]
      exact iff_of_true rfl (Nat.lt_succ_self other)
    · rw [Function.update_of_ne same, fits.2.2 other]
      omega
  | await stage =>
    have fits : call.Fits muster.stations (.starting call.threads) := stage ▸ sound
    have had : call.refusal? = none := by
      by_cases none : call.threads = 0
      · exact if_pos none
      · exact fits.2.1 (Nat.pos_of_ne_zero none)
    exact ⟨⟨had, fun index within => (fits.2.2 index).2 within⟩, Nat.zero_le _,
      fun index earlier => absurd earlier (Nat.not_lt_zero index)⟩
  | arrive within station =>
    exact Fits.onward sound (onward_update (station ▸ ⟨rfl, nofun⟩))
  | pass within station all =>
    exact Fits.onward sound (onward_update (station ▸ ⟨rfl, nofun⟩))
  | work within station steps =>
    exact Fits.onward sound (onward_update (station ▸ ⟨rfl, nofun⟩))
  | finish within station steps =>
    exact Fits.onward sound (onward_update (station ▸ ⟨rfl, nofun⟩))
  | @join index stage more station =>
    have fits : call.Fits muster.stations (.joining index) := stage ▸ sound
    refine ⟨fits.1, more, fun other earlier => ?_⟩
    obtain earlier | rfl := Nat.lt_succ_iff_lt_or_eq.1 earlier
    · exact fits.2.2 other earlier
    · exact station
  | @find index stage more station =>
    have fits : call.Fits muster.stations (.joining index) := stage ▸ sound
    exact ⟨fits.1, more, fits.2.2, station⟩
  | settle stage =>
    have fits : call.Fits muster.stations (.joining call.threads) := stage ▸ sound
    exact ⟨fits.1, fits.2.2⟩
  | @leave found stage all =>
    have fits : call.Fits muster.stations (.leaving found) := stage ▸ sound
    cases found with
    | none =>
      have calm := join_panics_of_well fits.2
      have closed := fits_closed_join fits.1.1 all
      rw [← panics, calm] at closed
      exact closed
    | some found =>
      have comes := verdict_some_eq_join fits.2.1 fits.2.2.1 fits.2.2.2
      rw [Sound, comes]
      exact fits_closed_join fits.1.1 all

/-- What a storm knows stays right on its way. -/
theorem Reaches.sound (reaches : call.Reaches muster next) (sound : call.Sound muster) :
    call.Sound next := by
  induction reaches with
  | refl => exact sound
  | tail _ moves ih => exact moves.sound ih

variable (call) in
/-- Some thread works, so what happens next is up to the operation. -/
def Works (muster : Muster σ τ) : Prop :=
  ∃ index < call.threads, ∃ own, muster.stations index = .working own

/-- While not all threads have ended, one of them can take a step of its own, or works. -/
theorem moves_or_works_of_manned (manned : call.Manned muster.stations)
    (some : ∃ index < call.threads, (muster.stations index).hasEnded = false) :
    (∃ next, call.Moves muster next) ∨ call.Works muster := by
  by_cases coming : ∃ index < call.threads, muster.stations index = .coming
  · obtain ⟨index, within, station⟩ := coming
    exact .inl ⟨_, .arrive within station⟩
  have all : ∀ index < call.threads, (muster.stations index).arrived = true := by
    intro index within
    have started := manned.2 index within
    cases station : muster.stations index with
    | absent => rw [station] at started; cases started
    | coming => exact absurd ⟨index, within, station⟩ coming
    | waiting => rfl
    | working own => rfl
    | ended panicked => rfl
  obtain ⟨index, within, going⟩ := some
  have arrived := all index within
  cases station : muster.stations index with
  | absent => rw [station] at arrived; cases arrived
  | coming => rw [station] at arrived; cases arrived
  | waiting => exact .inl ⟨_, .pass within station all⟩
  | working own => exact .inr ⟨index, within, own, station⟩
  | ended panicked => rw [station] at going; cases going

/-- A storm is over, or something can happen, or some thread works. -/
theorem Sound.moves_or_works (sound : call.Sound muster) :
    (∃ outcome, muster.stage = .closed outcome) ∨ (∃ next, call.Moves muster next) ∨
      call.Works muster := by
  have waits : call.Manned muster.stations →
      ((∀ index < call.threads, (muster.stations index).hasEnded = true) →
        ∃ next, call.Moves muster next) → (∃ next, call.Moves muster next) ∨ call.Works muster := by
    intro manned moves
    by_cases all : ∀ index < call.threads, (muster.stations index).hasEnded = true
    · exact .inl (moves all)
    · push Not at all
      exact moves_or_works_of_manned manned (by simpa using all)
  unfold Sound at sound
  cases stage : muster.stage with
  | starting count =>
    rw [stage] at sound
    obtain ⟨bounded, had, -⟩ := sound
    obtain more | rfl := Nat.lt_or_eq_of_le bounded
    · cases refused : call.refusal? with
      | none => exact .inr (.inl ⟨_, .start stage more refused⟩)
      | some reason =>
        have first : count = 0 := by
          by_contra later
          rw [had (Nat.pos_of_ne_zero later)] at refused
          cases refused
        exact .inr (.inl ⟨_, .refuse (first ▸ stage) refused⟩)
    · exact .inr (.inl ⟨_, .await stage⟩)
  | joining count =>
    rw [stage] at sound
    obtain ⟨manned, bounded, -⟩ := sound
    refine .inr (waits manned fun all => ?_)
    obtain more | rfl := Nat.lt_or_eq_of_le bounded
    · have ended := all count more
      cases station : muster.stations count with
      | ended panicked =>
        cases panicked with
        | false => exact ⟨_, .join stage more station⟩
        | true => exact ⟨_, .find stage more station⟩
      | _ => rw [station] at ended; cases ended
    · exact ⟨_, .settle stage⟩
  | leaving found =>
    rw [stage] at sound
    have manned : call.Manned muster.stations := by
      cases found with
      | none => exact sound.1
      | some found => exact sound.1
    exact .inr (waits manned fun all => ⟨_, .leave stage all⟩)
  | closed outcome => exact .inl ⟨outcome, rfl⟩

end Call

/-- Whatever the other threads do, a thread can always do its next step, and each step that is not
its last leaves it less to do. -/
structure Operation.Ends (operation : Operation σ τ) (left : Nat → τ → Nat) : Prop where
  /-- There is a next step. -/
  steps : ∀ index shared own, ∃ shared' stride, operation.step index shared own shared' stride
  /-- A step that is not the last leaves less to do. -/
  sooner : ∀ {index shared own shared' own'},
    operation.step index shared own shared' (.on own') → left index own' < left index own

/-- What a thread has left to do, given how much its operation has. -/
def Station.left (rank : τ → Nat) (start : τ) : Station τ → Nat
  | .absent => rank start + 4
  | .coming => rank start + 3
  | .waiting => rank start + 2
  | .working own => rank own + 1
  | .ended _ => 0

/-- What a storm of some threads has left to do beside what they have. -/
def Stage.left (threads : Nat) : Stage → Nat
  | .starting _ => threads + 3
  | .joining count => threads - count + 2
  | .leaving _ => 1
  | .closed _ => 0

namespace Call

variable {call : Call σ τ} {left : Nat → τ → Nat} {muster next : Muster σ τ}

/-- The most that can happen before a storm is over. -/
def budget (call : Call σ τ) (left : Nat → τ → Nat) (muster : Muster σ τ) : Nat :=
  (∑ index ∈ Finset.range call.threads,
    (muster.stations index).left (left index) (call.operation.start index)) +
      muster.stage.left call.threads

/-- A step of one thread after which it has less to do. -/
theorem budget_update_lt {index : Nat} {station : Station τ} {shared : σ} {stage : Stage}
    (within : index < call.threads)
    (less : station.left (left index) (call.operation.start index) <
      (muster.stations index).left (left index) (call.operation.start index))
    (same : stage.left call.threads = muster.stage.left call.threads) :
    call.budget left ⟨shared, Function.update muster.stations index station, stage⟩ <
      call.budget left muster := by
  refine Nat.add_lt_add_of_lt_of_le (Finset.sum_lt_sum (fun other _ => ?_) ?_) same.le
  · dsimp only
    by_cases this : other = index
    · subst this
      rw [Function.update_self]
      exact less.le
    · rw [Function.update_of_ne this]
  · refine ⟨index, Finset.mem_range.2 within, ?_⟩
    dsimp only
    rw [Function.update_self]
    exact less

/-- A step of the storm itself after which it has less to do. -/
theorem budget_stage_lt {stage : Stage}
    (less : stage.left call.threads < muster.stage.left call.threads) :
    call.budget left { muster with stage := stage } < call.budget left muster :=
  Nat.add_lt_add_left less _

/-- Whatever happens, less can happen afterwards. -/
theorem Moves.budget_lt (moves : call.Moves muster next) (ends : call.operation.Ends left)
    (sound : call.Sound muster) : call.budget left next < call.budget left muster := by
  cases moves with
  | refuse stage refused =>
    refine budget_stage_lt ?_
    rw [stage]
    exact Nat.succ_pos _
  | @start index stage more had =>
    have fits : call.Fits muster.stations (.starting index) := stage ▸ sound
    have absent : muster.stations index = .absent := by
      have unstarted := (fits.2.2 index).not.2 (Nat.lt_irrefl index)
      cases station : muster.stations index with
      | absent => rfl
      | _ => exact absurd (station ▸ rfl) unstarted
    refine budget_update_lt more ?_ ?_
    · rw [absent]
      exact Nat.lt_succ_self _
    · rw [stage]
      rfl
  | await stage =>
    refine budget_stage_lt ?_
    rw [stage]
    exact Nat.lt_succ_self _
  | arrive within station =>
    refine budget_update_lt within ?_ rfl
    rw [station]
    exact Nat.lt_succ_self _
  | pass within station all =>
    refine budget_update_lt within ?_ rfl
    rw [station]
    exact Nat.lt_succ_self _
  | work within station steps =>
    refine budget_update_lt within ?_ rfl
    rw [station]
    exact Nat.succ_lt_succ (ends.sooner steps)
  | finish within station steps =>
    refine budget_update_lt within ?_ rfl
    rw [station]
    exact Nat.succ_pos _
  | @join index stage more station =>
    refine budget_stage_lt ?_
    rw [stage]
    simp only [Stage.left]
    omega
  | find stage more station =>
    refine budget_stage_lt ?_
    rw [stage]
    simp only [Stage.left]
    omega
  | settle stage =>
    refine budget_stage_lt ?_
    rw [stage]
    simp only [Stage.left]
    omega
  | leave stage all =>
    refine budget_stage_lt ?_
    rw [stage]
    exact Nat.succ_pos _

/-- Whatever happens in a storm of operations that end, it does not go on forever. -/
theorem Sound.acc (sound : call.Sound muster) (ends : call.operation.Ends left) :
    Acc (Function.swap call.Moves) muster := by
  induction budget : call.budget left muster using Nat.strong_induction_on generalizing muster with
  | _ budget ih =>
    subst budget
    exact .intro muster fun next moves => ih _ (moves.budget_lt ends sound) (moves.sound sound) rfl

/-- A storm of operations that end is over, or something can happen. -/
theorem Sound.closed_or_moves (sound : call.Sound muster) (ends : call.operation.Ends left) :
    (∃ outcome, muster.stage = .closed outcome) ∨ ∃ next, call.Moves muster next := by
  obtain closed | moves | ⟨index, within, own, station⟩ := sound.moves_or_works
  · exact .inl closed
  · exact .inr moves
  · obtain ⟨shared, stride, steps⟩ := ends.steps index muster.shared own
    cases stride with
    | on own' => exact .inr ⟨_, .work within station steps⟩
    | done panicked => exact .inr ⟨_, .finish within station steps⟩

end Call

end RaceSentry.Storm
