import RaceSentry.Proofs.Newcomer
import RaceSentry.Storm

/-!
# Schedules of storms

The threads of a storm are started one after another; each of them goes through its rounds and ends,
and they may take turns in any order. A schedule is such an order of moves. Which accesses are
flagged depends on it, but what is flagged is always found by the same rule from the order in which
the accesses came, and every thread makes all of its accesses.
Main statements: `Underway.perform?` for one move, and `Underway.playOut?` for whole schedules.
-/

namespace RaceSentry

open World

namespace Move

variable {α : Type}

/-- The thread that a move is about: the one that moves, or the one that is ended. -/
def subject? : Move α → Option ThreadId
  | .step taken => taken.ends?
  | move => move.thread?

/-- Whether a move starts a thread. -/
def isSpawn : Move α → Bool
  | .step (.spawn _ _) => true
  | _ => false

/-- The moves that are about one thread, in their order. -/
def own (thread : ThreadId) (moves : List (Move α)) : List (Move α) :=
  moves.filter fun move => move.subject? = some thread

variable {thread : ThreadId} {move : Move α} {moves : List (Move α)}

/-- A move about a thread is one of its own. -/
theorem own_cons_of_eq (about : move.subject? = some thread) :
    own thread (move :: moves) = move :: own thread moves :=
  List.filter_cons_of_pos (decide_eq_true about)

/-- A move about another thread is none of its own. -/
theorem own_cons_of_ne (aside : move.subject? ≠ some thread) :
    own thread (move :: moves) = own thread moves :=
  List.filter_cons_of_neg (by simp [aside])

/-- A move that starts a thread is about none. -/
theorem isSpawn_eq_false (about : move.subject?.isSome = true) : move.isSpawn = false := by
  cases move with
  | step taken =>
    cases taken with
    | spawn name attach => cases about
    | _ => rfl
  | _ => rfl

/-- What a thread does itself is about it. -/
theorem thread?_ne_of_subject? (aside : move.subject? ≠ some thread) :
    move.thread? ≠ some thread := by
  cases move with
  | step step => exact nofun
  | _ => exact aside

end Move

section Subjects

variable {α : Type} {scene next : Scene α} {move : Move α} {happenings : List Happening}

/-- A move about a thread starts none. -/
theorem Scene.started_of_perform? (about : move.subject?.isSome = true)
    (performed : scene.perform? move = some (next, happenings)) :
    next.world.started = scene.world.started := by
  have ended (thread : ThreadId) (reply : Reply α) :
      (scene.world.ifRunning thread (scene.world.endThread thread, reply)).1.started =
        scene.world.started := by
    unfold World.ifRunning
    split
    · exact (kept_leaveSections scene.world _).started
    · rfl
  obtain ⟨runs, outcome⟩ := Scene.perform?_eq_some_iff.1 performed
  cases outcome with
  | access asked => exact (alike_of_asksAccess runs asked).started
  | stall asked => exact (alike_of_asksAccess runs asked).started
  | reenter asked => exact (alike_of_asksAccess runs asked).started
  | enter asked => exact (alike_of_asksSection runs asked).started
  | refuseEnter asked => exact (alike_of_asksSection runs asked).started
  | hold asked => exact (alike_of_asksSection runs asked).started
  | refuseHold asked => exact (alike_of_asksSection runs asked).started
  | openContext idle => exact (kept_openContext scene.world runs).started
  | step still outside =>
    rename_i taken
    cases taken with
    | exit thread => exact ended thread (.ended false)
    | crash thread => exact ended thread (.ended true)
    | _ => cases about
  | _ => rfl

/-- A thread with a good name is started, and nothing is told of it. -/
theorem Scene.spawned_of_perform? {name : Option String} {attach : Bool}
    (named : name.bind Denial.ofThreadName? = none)
    (performed : scene.perform? (.step (.spawn name attach)) = some (next, happenings)) :
    happenings = [] ∧ next.world.started = scene.world.started + 1 := by
  obtain ⟨-, outcome⟩ := Scene.perform?_eq_some_iff.1 performed
  cases outcome with
  | step still outside =>
    refine ⟨rfl, ?_⟩
    change (World.step _ (.spawn name attach)).1.started = _
    simp only [World.step, named]
    exact started_spawn _ _ _

/-- Whether a value is watched is a matter of how matters stand for it. -/
theorem World.watches_eq (world : World α) (value : ValueId) :
    world.watches value = (world.standing? value).any Standing.detecting := by
  rw [standing?, Option.any_map]
  rfl

end Subjects

namespace Storm

namespace Mode

/-- What the accesses of a storm may do to the value. -/
def kind : Mode → AccessKind
  | .read => .read
  | .synchronizedRead => .read
  | _ => .write

/-- Whether the accesses of a storm are made inside of sections. -/
def isGuarded : Mode → Bool
  | .synchronizedAdd => true
  | .synchronizedRead => true
  | _ => false

/-- What the closure of an access makes of the content, if it may change it. -/
def change : Mode → Int → Int
  | .write => fun _ => 1
  | .replace => fun _ => 1
  | _ => fun payload => (addOne payload).1

/-- The moves of one access. -/
def visit (mode : Mode) (value : ValueId) (thread : ThreadId) : List (Move Int) :=
  [.access thread value mode.kind, .finish thread mode.change]

/-- The moves of one round. -/
def round (mode : Mode) (value : ValueId) (thread : ThreadId) : List (Move Int) :=
  if mode.isGuarded then .enter thread value :: (mode.visit value thread ++ [.leave thread])
  else mode.visit value thread

/-- All moves about a thread that has a number of rounds to go through, up to its end. -/
def program (mode : Mode) (value : ValueId) (thread : ThreadId) : Nat → List (Move Int)
  | 0 => [.step (.exit thread)]
  | rounds + 1 => mode.round value thread ++ program mode value thread rounds

/-- Whether an access is flagged that comes after others: it is made outside of sections, and there
is a conflicting one among the others. -/
def flagsAfter (mode : Mode) (keys : List AccessKey) : Bool :=
  !mode.isGuarded && keys.any fun key => mode.kind.conflicts key.kind

/-- The threads of the flagged ones among the accesses of a storm, latest first, given the accesses
that came before the storm. -/
def flagged (mode : Mode) (before : List AccessKey) : List AccessKey → List ThreadId
  | [] => []
  | key :: earlier =>
    if mode.flagsAfter (earlier ++ before) then key.thread :: flagged mode before earlier
    else flagged mode before earlier

end Mode

namespace Phase

variable (phase : Phase)

/-- Whether a thread is one of a storm, the first thread of which has a given number. -/
def Enlists (base : Nat) (thread : ThreadId) : Prop :=
  base ≤ thread.index ∧ thread.index < base + phase.threads

instance (base : Nat) (thread : ThreadId) : Decidable (phase.Enlists base thread) :=
  inferInstanceAs (Decidable (_ ∧ _))

/-- The step that starts the thread of a given number. -/
def spawn (name : String) (index : Nat) : Move Int :=
  .step (.spawn (some (threadName name index)) true)

/-- Moves that make up a storm. -/
structure Schedule (name : String) (value : ValueId) (base : Nat) (moves : List (Move Int)) :
    Prop where
  /-- The threads can be had. -/
  had : phase.denial? name = none
  /-- They are started in their order. -/
  starts : moves.filter Move.isSpawn = (List.range phase.threads).map (spawn name)
  /-- Each of them goes through its rounds and ends. -/
  programs : ∀ thread, phase.Enlists base thread →
    Move.own thread moves = phase.mode.program value thread phase.rounds
  /-- Nothing else is done by or to threads. -/
  idle : ∀ thread, ¬ phase.Enlists base thread → Move.own thread moves = []
  /-- Nothing else is done. -/
  busy : ∀ move ∈ moves, move.isSpawn = true ∨ move.subject?.isSome

end Phase

namespace Phase

/-- Whether the thread of a given number has a good name is a matter of the name of the storm. -/
theorem ofThreadName?_threadName_iff (name : String) (index : Nat) :
    Denial.ofThreadName? (threadName name index) = none ↔ '\x00' ∉ name.toList := by
  have digits : '\x00' ∉ Nat.toDigits 10 index := fun member =>
    absurd (Nat.isDigit_of_mem_toDigits (by decide) (by decide) member) (by decide)
  simp [Denial.ofThreadName?, threadName, String.toList_append, digits]

/-- All threads of a storm have good names if the storm can be had. -/
theorem named_of_denial? {phase : Phase} {name : String} (had : phase.denial? name = none)
    {index : Nat} (within : index < phase.threads) :
    Denial.ofThreadName? (threadName name index) = none := by
  rw [denial?, if_neg (by omega), Option.or_eq_none_iff] at had
  rw [ofThreadName?_threadName_iff]
  exact (ofThreadName?_threadName_iff name 0).1 had.2

/-- Moves that start the threads of a storm, or are about them, make up a schedule if each thread
goes through its rounds. -/
theorem Schedule.of_about {phase : Phase} {name : String} {value : ValueId} {base : Nat}
    {moves : List (Move Int)} (had : phase.denial? name = none)
    (starts : moves.filter Move.isSpawn = (List.range phase.threads).map (spawn name))
    (programs : ∀ index < phase.threads, Move.own ⟨base + index⟩ moves =
      phase.mode.program value ⟨base + index⟩ phase.rounds)
    (about : ∀ move ∈ moves, move.isSpawn = true ∨
      move.subject?.any (fun thread => decide (phase.Enlists base thread)) = true) :
    phase.Schedule name value base moves where
  had := had
  starts := starts
  programs := fun ⟨number⟩ ⟨least, most⟩ => by
    obtain ⟨index, rfl⟩ := Nat.exists_eq_add_of_le least
    exact programs index (Nat.lt_of_add_lt_add_left most)
  idle := fun thread foreign => by
    refine List.filter_eq_nil_iff.2 fun move member named => foreign ?_
    have subject : move.subject? = some thread := of_decide_eq_true named
    cases about move member with
    | inl spawns =>
      rw [Move.isSpawn_eq_false (by rw [subject]; rfl)] at spawns
      cases spawns
    | inr enlists =>
      rw [subject] at enlists
      exact of_decide_eq_true enlists
  busy := fun move member => (about move member).imp_right fun enlists => by
    cases subject : move.subject? with
    | none =>
      rw [subject] at enlists
      cases enlists
    | some thread => rfl

/-- In a storm that settles its races, threads whose accesses are in conflict with each other make
one access at most. -/
theorem rounds_le_one {phase : Phase} (settles : phase.settlesRaces = true)
    (unguarded : phase.mode.isGuarded = false)
    (conflicting : phase.mode.kind.conflicts phase.mode.kind = true) : phase.rounds ≤ 1 := by
  have orderly : phase.mode.isOrderly = false := by
    cases mode : phase.mode with
    | read =>
      rw [mode] at conflicting
      cases conflicting
    | synchronizedAdd =>
      rw [mode] at unguarded
      cases unguarded
    | synchronizedRead =>
      rw [mode] at unguarded
      cases unguarded
    | _ => rfl
  rw [settlesRaces, orderly, Bool.or_false, decide_eq_true_eq] at settles
  exact settles

end Phase

/-- Where a thread of a storm is: how many accesses it has yet to make, what it is inside of, and
which moves are left for it. -/
inductive Place (mode : Mode) (value : ValueId) (thread : ThreadId) :
    Nat → List Frame → List (Move Int) → Prop where
  /-- Between rounds, or not started yet. -/
  | outside (left : Nat) : Place mode value thread left [] (mode.program value thread left)
  /-- In a section, with the access still to make. -/
  | entered (guarded : mode.isGuarded = true) (left : Nat) :
      Place mode value thread (left + 1) [.block value]
        (mode.visit value thread ++ .leave thread :: mode.program value thread left)
  /-- In the closure of an access outside of sections. -/
  | inside (unguarded : mode.isGuarded = false) (left : Nat) :
      Place mode value thread left [.closure value mode.kind]
        (.finish thread mode.change :: mode.program value thread left)
  /-- In the closure of an access in a section. -/
  | within (guarded : mode.isGuarded = true) (left : Nat) :
      Place mode value thread left [.closure value mode.kind, .block value]
        (.finish thread mode.change :: .leave thread :: mode.program value thread left)
  /-- In a section, with the access made. -/
  | leaving (guarded : mode.isGuarded = true) (left : Nat) :
      Place mode value thread left [.block value]
        (.leave thread :: mode.program value thread left)
  /-- At its end. -/
  | gone : Place mode value thread 0 [] []

/-- What a move about a thread of a storm tells, and what it does to the number of accesses that the
thread has yet to make. -/
inductive Progress (scene : Scene Int) (mode : Mode) (value : ValueId) (thread : ThreadId) :
    Nat → Nat → List Happening → Prop where
  /-- Nothing is told. -/
  | quiet (left : Nat) : Progress scene mode value thread left left []
  /-- An access is made, in a section if that is the way of the storm. -/
  | accessed (left : Nat) (sighting : Option Sighting)
      (inside : mode.isGuarded = true → 0 < scene.sections thread value) :
      Progress scene mode value thread (left + 1) left
        [.accessed thread value mode.kind sighting]
  /-- A section is entered, if that is the way of the storm. -/
  | entered (guarded : mode.isGuarded = true) (left : Nat) (clock : ClockTable) :
      Progress scene mode value thread left left [.entered thread value clock]
  /-- The thread ends. -/
  | ended : Progress scene mode value thread 0 0 [.ended thread]

variable {mode : Mode} {value : ValueId} {thread : ThreadId} {past : History}
  {scene next : Scene Int} {move : Move Int} {happenings : List Happening}

/-- All that is told is done by the thread. -/
theorem Progress.actor? {left left' : Nat}
    (progress : Progress scene mode value thread left left' happenings) :
    ∀ happening ∈ happenings, happening.actor? = some thread := by
  cases progress with
  | quiet => exact nofun
  | accessed => exact List.forall_mem_singleton.2 rfl
  | entered => exact List.forall_mem_singleton.2 rfl
  | ended => exact List.forall_mem_singleton.2 rfl

/-- The accesses that are told of are those by which fewer are left. -/
theorem Progress.attempts_append {left left' : Nat} {told : History}
    (progress : Progress scene mode value thread left left' happenings) :
    left' ≤ left ∧ History.attempts (happenings ++ told) value =
      List.replicate (left - left') ⟨thread, mode.kind⟩ ++ told.attempts value := by
  cases progress with
  | accessed left sighting inside =>
    have attempted : (Happening.accessed thread value mode.kind sighting).attempt? value =
        some ⟨thread, mode.kind⟩ := if_pos rfl
    refine ⟨Nat.le_succ _, (History.attempts_cons_of_eq attempted).trans ?_⟩
    rw [Nat.add_sub_cancel_left]
    rfl
  | _ =>
    refine ⟨Nat.le_refl _, ?_⟩
    rw [Nat.sub_self]
    rfl

namespace Mode

/-- A round outside of sections is an access and the end of its closure. -/
theorem program_of_unguarded (unguarded : mode.isGuarded = false) (rounds : Nat) :
    mode.program value thread (rounds + 1) =
      .access thread value mode.kind :: .finish thread mode.change ::
        mode.program value thread rounds := by
  rw [program, round, unguarded]
  rfl

/-- A round inside of a section is one with the section around it. -/
theorem program_of_guarded (guarded : mode.isGuarded = true) (rounds : Nat) :
    mode.program value thread (rounds + 1) =
      .enter thread value :: (mode.visit value thread ++ .leave thread ::
        mode.program value thread rounds) := by
  rw [program, round, guarded]
  rfl

end Mode

namespace Place

variable {left : Nat} {todo : List (Move Int)}

/-- A closure ends where a thread was before it. -/
theorem finish {kind : AccessKind} {rest : List Frame} {change : Int → Int}
    (frames : scene.frames thread = .closure value kind :: rest)
    (performed : scene.perform? (.finish thread change) = some (next, happenings)) :
    happenings = [] ∧ next.frames thread = rest := by
  obtain ⟨-, outcome⟩ := Scene.perform?_eq_some_iff.1 performed
  cases outcome with
  | finish change inside =>
    rw [frames] at inside
    cases inside
    exact ⟨rfl, if_pos rfl⟩

/-- A section ends where a thread was before it. -/
theorem leave {rest : List Frame} (frames : scene.frames thread = .block value :: rest)
    (performed : scene.perform? (.leave thread) = some (next, happenings)) :
    happenings = [] ∧ next.frames thread = rest := by
  obtain ⟨-, outcome⟩ := Scene.perform?_eq_some_iff.1 performed
  cases outcome with
  | leave inside =>
    rw [frames] at inside
    cases inside
    exact ⟨rfl, if_pos rfl⟩

/-- A thread ends, if it was started. -/
theorem exit (performed : scene.perform? (.step (.exit thread)) = some (next, happenings)) :
    (happenings = [] ∨ happenings = [.ended thread]) ∧ next.frames = scene.frames := by
  obtain ⟨-, outcome⟩ := Scene.perform?_eq_some_iff.1 performed
  cases outcome with
  | step still outside =>
    refine ⟨?_, rfl⟩
    change (if _ then _ else _) = _ ∨ (if _ then _ else _) = _
    split
    · exact .inr rfl
    · exact .inl rfl

/-- A move about a thread of a storm takes it from one place to the next. -/
theorem perform? (run : Run past scene) (watched : scene.world.watches value = true)
    (place : Place mode value thread left (scene.frames thread) (move :: todo))
    (performed : scene.perform? move = some (next, happenings)) :
    ∃ left', Place mode value thread left' (next.frames thread) todo ∧
      Progress scene mode value thread left left' happenings ∧
        (.ended thread ∈ happenings → todo = []) := by
  generalize script : move :: todo = moves at place
  generalize here : scene.frames thread = frames at place
  cases place with
  | outside =>
    have calm : .context ∉ scene.frames thread := by
      rw [here]
      exact List.not_mem_nil
    have free : scene.closures thread value = 0 := by
      rw [Scene.closures, here]
      rfl
    cases left with
    | zero =>
      cases script
      obtain ⟨rfl | rfl, frames⟩ := exit performed
      · rw [frames, here]
        exact ⟨0, .gone, .quiet 0, fun ended => absurd ended List.not_mem_nil⟩
      · rw [frames, here]
        exact ⟨0, .gone, .ended, fun _ => rfl⟩
    | succ left =>
      cases guarded : mode.isGuarded with
      | false =>
        rw [Mode.program_of_unguarded guarded] at script
        cases script
        obtain ⟨sighting, rfl, frames⟩ := begins_of_perform? run watched calm free performed
        rw [frames, here]
        refine ⟨left, .inside guarded left, .accessed left sighting fun always => ?_, by simp⟩
        rw [guarded] at always
        cases always
      | true =>
        rw [Mode.program_of_guarded guarded] at script
        cases script
        obtain ⟨clock, rfl, frames⟩ := enters_of_perform? run calm free performed
        rw [frames, here]
        exact ⟨left + 1, .entered guarded left, .entered guarded (left + 1) clock, by simp⟩
  | entered guarded left =>
    cases script
    have calm : .context ∉ scene.frames thread := by simp [here]
    have free : scene.closures thread value = 0 := by
      rw [Scene.closures, here]
      rfl
    have inside : 0 < scene.sections thread value := by
      have block : 0 < (scene.frames thread).countP (Frame.isBlockOn value) := by
        rw [here]
        simp [Frame.isBlockOn]
      exact Nat.lt_of_lt_of_le block (Nat.le_add_right _ _)
    obtain ⟨sighting, rfl, frames⟩ := begins_of_perform? run watched calm free performed
    rw [frames, here]
    exact ⟨left, .within guarded left, .accessed left sighting fun _ => inside, by simp⟩
  | inside unguarded =>
    cases script
    obtain ⟨rfl, frames⟩ := finish here performed
    rw [frames]
    exact ⟨left, .outside left, .quiet left, fun ended => absurd ended List.not_mem_nil⟩
  | within guarded =>
    cases script
    obtain ⟨rfl, frames⟩ := finish here performed
    rw [frames]
    exact ⟨left, .leaving guarded left, .quiet left, fun ended => absurd ended List.not_mem_nil⟩
  | leaving guarded =>
    cases script
    obtain ⟨rfl, frames⟩ := leave here performed
    rw [frames]
    exact ⟨left, .outside left, .quiet left, fun ended => absurd ended List.not_mem_nil⟩
  | gone => cases script

/-- A thread of a storm for which no moves are left has made all of its accesses. -/
theorem eq_zero {frames : List Frame} (place : Place mode value thread left frames []) :
    left = 0 := by
  generalize script : ([] : List (Move Int)) = moves at place
  cases place with
  | gone => rfl
  | outside =>
    cases left with
    | zero => rfl
    | succ left =>
      cases guarded : mode.isGuarded with
      | false =>
        rw [Mode.program_of_unguarded guarded] at script
        cases script
      | true =>
        rw [Mode.program_of_guarded guarded] at script
        cases script
  | _ => cases script

end Place

/-- How a thread of a storm stands, with the moves that are left for it. -/
structure Engaged (phase : Phase) (value : ValueId) (before told : History) (scene : Scene Int)
    (thread : ThreadId) (todo : List (Move Int)) : Prop where
  /-- The accesses it made and those it has yet to make are as many as it has rounds. -/
  place : ∃ left, Place phase.mode value thread left (scene.frames thread) todo ∧
    (told.attempts value).count ⟨thread, phase.mode.kind⟩ + left = phase.rounds
  /-- Up to its end it knows the value. -/
  knows : todo ≠ [] → scene.world.Knows (told ++ before) thread value
  /-- It enters no section unless that is the way of the storm. -/
  apart : phase.mode.isGuarded = false → History.upToEntry (told ++ before) thread value = []

/-- What is told of others does not bear on section entries of a thread. -/
theorem upToEntry_append {later earlier : History}
    (none : ∀ happening ∈ later, happening.isEntry thread value = false) :
    History.upToEntry (later ++ earlier) thread value = earlier.upToEntry thread value :=
  List.dropWhile_append_of_pos fun happening member => by rw [none happening member]; rfl

/-- What a storm on a value tells: accesses to it, section entries on it, and the ends of
threads. -/
def OfStorm (value : ValueId) : Happening → Prop
  | .accessed _ other _ _ => other = value
  | .entered _ other _ => other = value
  | .ended _ => True
  | _ => False

/-- What a thread of a storm tells is what storms tell. -/
theorem Progress.ofStorm {left left' : Nat}
    (progress : Progress scene mode value thread left left' happenings) :
    ∀ happening ∈ happenings, OfStorm value happening := by
  cases progress with
  | quiet => exact nofun
  | accessed => exact List.forall_mem_singleton.2 rfl
  | entered => exact List.forall_mem_singleton.2 rfl
  | ended => exact List.forall_mem_singleton.2 trivial

/-- A value that is watched stays so. -/
theorem Progress.watches {left left' : Nat}
    (progress : Progress scene mode value thread left left' happenings) (run : Run past scene)
    (performed : scene.perform? move = some (next, happenings)) :
    next.world.watches value = scene.world.watches value := by
  have numbered := numbered_of_run run
  have stands := (Scene.turn_of_perform? numbered performed).standing? numbered value
  rw [watches_eq, watches_eq, stands]
  cases progress with
  | quiet => rfl
  | accessed left sighting inside =>
    change Option.any _ (Happening.bear value (.accessed thread value mode.kind sighting) _) = _
    rw [Happening.bear, if_pos rfl, Option.any_map]
    congr 1
    funext standing
    exact Standing.detecting_access standing _
  | entered guarded left clock =>
    change Option.any _ (Happening.bear value (.entered thread value clock) _) = _
    rw [Happening.bear, if_pos rfl, Option.any_map]
    rfl
  | ended =>
    change Option.any _ (Option.map _ _) = _
    rw [Option.any_map]
    rfl

namespace Engaged

variable {phase : Phase} {before told : History} {todo : List (Move Int)}

/-- What is done by and told of others leaves a thread of a storm where it stands. -/
theorem aside (engaged : Engaged phase value before told scene thread todo)
    (run : Run (told ++ before) scene) (old : value.index < scene.world.made)
    (performed : scene.perform? move = some (next, happenings))
    (still : move.thread? ≠ some thread)
    (foreign : ∀ happening ∈ happenings, happening.actor? ≠ some thread) :
    Engaged phase value before (happenings ++ told) next thread todo := by
  obtain ⟨left, place, made⟩ := engaged.place
  obtain ⟨-, outcome⟩ := Scene.perform?_eq_some_iff.1 performed
  refine ⟨⟨left, ?_, ?_⟩, fun more => ?_, fun unguarded => ?_⟩
  · rw [outcome.frames_of_ne still]
    exact place
  · rw [History.attempts_append, List.count_append, List.count_eq_zero.2 fun attempted => ?_]
    · omega
    · obtain ⟨happening, member, made⟩ := List.mem_filterMap.1 attempted
      exact foreign happening member (Happening.actor?_of_attempt made)
  · rw [List.append_assoc]
    exact (engaged.knows more).perform? run old performed
      (fun happening member misleads =>
        foreign happening member (Happening.actor?_of_misleads misleads))
      fun member => foreign _ member rfl
  · rw [List.append_assoc, upToEntry_append fun happening member => ?_]
    · exact engaged.apart unguarded
    · exact Bool.eq_false_iff.2 fun entry =>
        foreign happening member (Happening.actor?_of_isEntry entry)

/-- A move about a thread of a storm is the next one that is left for it. -/
theorem act (engaged : Engaged phase value before told scene thread (move :: todo))
    (run : Run (told ++ before) scene) (watched : scene.world.watches value = true)
    (old : value.index < scene.world.made)
    (performed : scene.perform? move = some (next, happenings)) :
    Engaged phase value before (happenings ++ told) next thread todo ∧
      ∃ left left', Progress scene phase.mode value thread left left' happenings ∧
        (told.attempts value).count ⟨thread, phase.mode.kind⟩ + left = phase.rounds := by
  obtain ⟨left, place, made⟩ := engaged.place
  obtain ⟨left', reached, progress, last⟩ := place.perform? run watched performed
  have knows := engaged.knows (List.cons_ne_nil _ _)
  refine ⟨⟨⟨left', reached, ?_⟩, fun more => ?_, fun unguarded => ?_⟩, left, left', progress, made⟩
  · obtain ⟨fewer, attempts⟩ := progress.attempts_append
    rw [attempts, List.count_append, List.count_replicate_self]
    omega
  · rw [List.append_assoc]
    refine knows.perform? run old performed (fun happening member => ?_) fun ended =>
      more (last ended)
    cases progress with
    | quiet => cases member
    | _ =>
      rw [List.mem_singleton.1 member]
      exact id
  · rw [List.append_assoc, upToEntry_append fun happening member => ?_]
    · exact engaged.apart unguarded
    · cases progress with
      | quiet => cases member
      | entered guarded left clock =>
        rw [unguarded] at guarded
        cases guarded
      | _ =>
        rw [List.mem_singleton.1 member]
        rfl

/-- An access of a storm that settles its races is flagged by the rule: it is made outside of
sections, and there is a conflicting one among all that came before. -/
theorem isSome_sighting (engaged : Engaged phase value before told scene thread todo)
    (run : Run (told ++ before) scene) (settles : phase.settlesRaces = true) (more : todo ≠ [])
    (new : ∀ kind, ⟨thread, kind⟩ ∉ before.attempts value)
    (same : ∀ key ∈ told.attempts value, key.kind = phase.mode.kind)
    (made : (told.attempts value).count ⟨thread, phase.mode.kind⟩ < phase.rounds)
    (performed : scene.perform? move = some (next, happenings)) {sighting : Option Sighting}
    (accessed : .accessed thread value phase.mode.kind sighting ∈ happenings)
    (inside : phase.mode.isGuarded = true → 0 < scene.sections thread value) :
    sighting.isSome = phase.mode.flagsAfter (told.attempts value ++ before.attempts value) := by
  have judged := (engaged.knows more).isSome_sighting_iff run performed accessed
  rw [Bool.eq_iff_iff, judged, Mode.flagsAfter]
  cases guarded : phase.mode.isGuarded with
  | true =>
    refine iff_of_false ?_ (by simp)
    rintro ⟨other, kind, different, -, attempted⟩
    exact alone_of_run run (inside guarded) different kind attempted
  | false =>
    have parts : History.sinceEntry (told ++ before) thread value ++
        History.upToEntry (told ++ before) thread value = told ++ before :=
      List.takeWhile_append_dropWhile
    rw [engaged.apart guarded, List.append_nil] at parts
    rw [parts, ← History.attempts_append, Bool.not_false, Bool.true_and, List.any_eq_true]
    constructor
    · rintro ⟨other, kind, different, conflicting, attempted⟩
      exact ⟨⟨other, kind⟩, attempted, conflicting⟩
    · rintro ⟨key, attempted, conflicting⟩
      refine ⟨key.thread, key.kind, fun mine => ?_, conflicting, attempted⟩
      rw [History.attempts_append, List.mem_append] at attempted
      cases attempted with
      | inr earlier => exact new key.kind (mine ▸ earlier)
      | inl own =>
        -- Such a storm writes, so each of its threads makes one access at most.
        rw [same key own] at conflicting
        have single := Phase.rounds_le_one settles guarded conflicting
        have again : 0 < (told.attempts value).count ⟨thread, phase.mode.kind⟩ := by
          rw [← mine, ← same key own]
          exact List.count_pos_iff.2 own
        omega

/-- What is flagged goes on to follow the rule. -/
theorem flagged_append (engaged : Engaged phase value before told scene thread todo)
    (run : Run (told ++ before) scene) (settles : phase.settlesRaces = true) (more : todo ≠ [])
    (new : ∀ kind, ⟨thread, kind⟩ ∉ before.attempts value)
    (same : ∀ key ∈ told.attempts value, key.kind = phase.mode.kind)
    (performed : scene.perform? move = some (next, happenings)) {left left' : Nat}
    (progress : Progress scene phase.mode value thread left left' happenings)
    (made : (told.attempts value).count ⟨thread, phase.mode.kind⟩ + left = phase.rounds)
    (verdicts : told.flagged value =
      phase.mode.flagged (before.attempts value) (told.attempts value)) :
    History.flagged (happenings ++ told) value =
      phase.mode.flagged (before.attempts value) (History.attempts (happenings ++ told) value) := by
  cases progress with
  | accessed left sighting inside =>
    have attempted : (Happening.accessed thread value phase.mode.kind sighting).attempt? value =
        some ⟨thread, phase.mode.kind⟩ := if_pos rfl
    have judged := engaged.isSome_sighting run settles more new same (by omega) performed
      (List.mem_singleton_self _) inside
    change History.flagged (_ :: told) value =
      phase.mode.flagged _ (History.attempts (_ :: told) value)
    rw [History.attempts_cons_of_eq attempted, Mode.flagged, ← judged, ← verdicts]
    cases sighting with
    | none => exact History.flagged_cons_of_not_isRecorded rfl value
    | some sighting =>
      rw [History.flagged_accessed, if_pos rfl]
      rfl
  | _ => exact verdicts

end Engaged

/-- A storm is under way: so much is told of it, and so many moves are left. -/
structure Underway (phase : Phase) (value : ValueId) (base : Nat) (before told : History)
    (scene : Scene Int) (rest : List (Move Int)) : Prop where
  /-- The storm began after a run. -/
  run : Run (told ++ before) scene
  /-- Its value is watched. -/
  watched : scene.world.watches value = true
  /-- Those of its threads that were not started yet are left to be started. -/
  starts : scene.world.started + rest.countP Move.isSpawn = base + phase.threads
  /-- They can be started. -/
  named : ∀ move ∈ rest, move.isSpawn = true → ∃ name attach,
    move = .step (.spawn name attach) ∧ name.bind Denial.ofThreadName? = none
  /-- All other moves are about threads. -/
  busy : ∀ move ∈ rest, move.isSpawn = true ∨ move.subject?.isSome = true
  /-- Its threads stand where their moves left them. -/
  engaged : ∀ thread, phase.Enlists base thread →
    Engaged phase value before told scene thread (Move.own thread rest)
  /-- No moves are about other threads. -/
  idle : ∀ thread, ¬ phase.Enlists base thread → Move.own thread rest = []
  /-- Nothing is told that has nothing to do with the storm. -/
  only : ∀ happening ∈ told, OfStorm value happening
  /-- What was attempted are accesses of the storm. -/
  keys : ∀ key ∈ told.attempts value, phase.Enlists base key.thread ∧
    key.kind = phase.mode.kind
  /-- What was flagged follows the rule. -/
  verdicts : told.flagged value =
    phase.mode.flagged (before.attempts value) (told.attempts value)

namespace Underway

variable {phase : Phase} {base : Nat} {before told : History} {rest : List (Move Int)}

/-- The value of a storm was made. -/
theorem old (underway : Underway phase value base before told scene rest) :
    value.index < scene.world.made := by
  have watched := underway.watched
  cases found : scene.world.cells.get? value with
  | none =>
    rw [World.watches, found] at watched
    cases watched
  | some cell =>
    exact (numbered_of_run underway.run).cells value ((SortedMap.contains_iff _ _).2 ⟨cell, found⟩)

/-- Nothing is told of a thread that is started. -/
theorem start (underway : Underway phase value base before told scene (move :: rest))
    (starts : move.isSpawn = true) (performed : scene.perform? move = some (next, happenings)) :
    Underway phase value base before (happenings ++ told) next rest := by
  obtain ⟨name, attach, rfl, named⟩ := underway.named move List.mem_cons_self starts
  obtain ⟨rfl, started⟩ := Scene.spawned_of_perform? named performed
  have numbered := numbered_of_run underway.run
  have stands := (Scene.turn_of_perform? numbered performed).standing? numbered value
  have own (thread : ThreadId) :
      Move.own thread (.step (.spawn name attach) :: rest) = Move.own thread rest :=
    Move.own_cons_of_ne nofun
  refine ⟨?_, ?_, ?_, ?_, ?_, fun thread enlists => ?_, fun thread foreign => ?_,
    underway.only, underway.keys, underway.verdicts⟩
  · exact underway.run.tail performed
  · rw [watches_eq, stands]
    exact (watches_eq _ _).symm.trans underway.watched
  · have before := underway.starts
    rw [List.countP_cons_of_pos starts] at before
    omega
  · exact fun move member => underway.named move (List.mem_cons_of_mem _ member)
  · exact fun move member => underway.busy move (List.mem_cons_of_mem _ member)
  · rw [← own]
    exact (underway.engaged thread enlists).aside underway.run underway.old performed nofun nofun
  · rw [← own]
    exact underway.idle thread foreign

/-- What is told of a thread of the storm is told by the rule. -/
theorem act (underway : Underway phase value base before told scene (move :: rest))
    (settles : phase.settlesRaces = true)
    (new : ∀ thread, phase.Enlists base thread → ∀ kind, ⟨thread, kind⟩ ∉ before.attempts value)
    (about : move.subject? = some thread)
    (performed : scene.perform? move = some (next, happenings)) :
    Underway phase value base before (happenings ++ told) next rest := by
  have own : Move.own thread (move :: rest) = move :: Move.own thread rest :=
    Move.own_cons_of_eq about
  have enlists : phase.Enlists base thread := by
    refine Decidable.byContradiction fun foreign => ?_
    have nothing := underway.idle thread foreign
    rw [own] at nothing
    cases nothing
  have engaged := underway.engaged thread enlists
  rw [own] at engaged
  obtain ⟨after, left, left', progress, made⟩ :=
    engaged.act underway.run underway.watched underway.old performed
  have same : ∀ key ∈ told.attempts value, key.kind = phase.mode.kind :=
    fun key member => (underway.keys key member).2
  refine ⟨?_, ?_, ?_, ?_, ?_, fun other enlists' => ?_, fun other foreign => ?_,
    List.forall_mem_append.2 ⟨progress.ofStorm, underway.only⟩, ?_, ?_⟩
  · rw [List.append_assoc]
    exact underway.run.tail performed
  · rw [progress.watches underway.run performed]
    exact underway.watched
  · have before := underway.starts
    have subject : move.subject?.isSome = true := by rw [about]; rfl
    rw [List.countP_cons_of_neg (by simp [Move.isSpawn_eq_false subject])] at before
    rw [Scene.started_of_perform? subject performed]
    exact before
  · exact fun move member => underway.named move (List.mem_cons_of_mem _ member)
  · exact fun move member => underway.busy move (List.mem_cons_of_mem _ member)
  · by_cases here : other = thread
    · rw [here]
      exact after
    · have aside : move.subject? ≠ some other := by
        rw [about]
        exact fun same => here (Option.some.inj same).symm
      rw [← Move.own_cons_of_ne aside]
      refine (underway.engaged other enlists').aside underway.run underway.old performed
        (Move.thread?_ne_of_subject? aside) fun happening member actor => here ?_
      exact Option.some.inj (actor.symm.trans (progress.actor? happening member))
  · have aside : move.subject? ≠ some other := by
      rw [about]
      exact fun same => foreign (Option.some.inj same ▸ enlists)
    rw [← Move.own_cons_of_ne aside]
    exact underway.idle other foreign
  · rw [progress.attempts_append.2]
    refine List.forall_mem_append.2 ⟨fun key member => ?_, underway.keys⟩
    rw [List.eq_of_mem_replicate member]
    exact ⟨enlists, rfl⟩
  · exact engaged.flagged_append underway.run settles (List.cons_ne_nil _ _) (new thread enlists)
      same performed progress made underway.verdicts

/-- A storm goes on being under way. -/
theorem perform? (underway : Underway phase value base before told scene (move :: rest))
    (settles : phase.settlesRaces = true)
    (new : ∀ thread, phase.Enlists base thread → ∀ kind, ⟨thread, kind⟩ ∉ before.attempts value)
    (performed : scene.perform? move = some (next, happenings)) :
    Underway phase value base before (happenings ++ told) next rest := by
  cases underway.busy move List.mem_cons_self with
  | inl starts => exact underway.start starts performed
  | inr subject =>
    obtain ⟨thread, about⟩ := Option.isSome_iff_exists.1 subject
    exact underway.act settles new about performed

/-- A storm is under way up to the end of its schedule. -/
theorem playOut? {last : Scene Int} {after : History}
    (underway : Underway phase value base before told scene rest)
    (settles : phase.settlesRaces = true)
    (new : ∀ thread, phase.Enlists base thread → ∀ kind, ⟨thread, kind⟩ ∉ before.attempts value)
    (played : scene.playOut? (told ++ before) rest = some (last, after)) :
    ∃ all, after = all ++ before ∧ Underway phase value base before all last [] := by
  induction rest generalizing scene told with
  | nil =>
    cases played
    exact ⟨told, rfl, underway⟩
  | cons move rest ih =>
    unfold Scene.playOut? at played
    split at played
    · cases played
    · rename_i next happenings performed
      have later := underway.perform? settles new performed
      rw [← List.append_assoc] at played
      exact ih later played

end Underway

/-- A storm is over. -/
structure Over (phase : Phase) (value : ValueId) (base : Nat) (before told : History)
    (last : Scene Int) : Prop where
  /-- The storm came after a run. -/
  run : Run (told ++ before) last
  /-- Its value is watched. -/
  watched : last.world.watches value = true
  /-- All of its threads were started. -/
  started : last.world.started = base + phase.threads
  /-- Nothing is told that has nothing to do with the storm. -/
  only : ∀ happening ∈ told, OfStorm value happening
  /-- Each of them made as many accesses as it has rounds, and nobody else made any. -/
  counts : ∀ key, (told.attempts value).count key =
    if phase.Enlists base key.thread ∧ key.kind = phase.mode.kind then phase.rounds else 0
  /-- What was flagged follows the rule. -/
  verdicts : told.flagged value =
    phase.mode.flagged (before.attempts value) (told.attempts value)

namespace Phase.Schedule

variable {phase : Phase} {name : String} {moves : List (Move Int)}

/-- A storm of which nothing was done yet is under way. -/
theorem underway (schedule : phase.Schedule name value scene.world.started moves)
    (run : Run past scene) (watched : scene.world.watches value = true) :
    Underway phase value scene.world.started past [] scene moves := by
  refine ⟨run, watched, ?_, fun move member starts => ?_, schedule.busy, fun thread enlists => ?_,
    schedule.idle, nofun, nofun, rfl⟩
  · rw [List.countP_eq_length_filter, schedule.starts, List.length_map, List.length_range]
  · have among := List.mem_filter.2 ⟨member, starts⟩
    rw [schedule.starts] at among
    obtain ⟨index, within, rfl⟩ := List.mem_map.1 among
    exact ⟨_, _, rfl, named_of_denial? schedule.had (List.mem_range.1 within)⟩
  · have new : scene.world.started ≤ thread.index := enlists.1
    rw [schedule.programs thread enlists]
    refine ⟨⟨phase.rounds, ?_, Nat.zero_add _⟩, fun _ => knows_of_unstarted run new value,
      fun _ => upToEntry_of_unstarted run new⟩
    rw [frames_of_unstarted run new]
    exact .outside _

/-- A storm that was played to its end is over, whatever its schedule. -/
theorem outcome {last : Scene Int} {after : History}
    (schedule : phase.Schedule name value scene.world.started moves) (run : Run past scene)
    (watched : scene.world.watches value = true) (settles : phase.settlesRaces = true)
    (played : scene.playOut? past moves = some (last, after)) :
    ∃ told, after = told ++ past ∧ Over phase value scene.world.started past told last := by
  have new (thread : ThreadId) (enlists : phase.Enlists scene.world.started thread)
      (kind : AccessKind) : ⟨thread, kind⟩ ∉ past.attempts value :=
    not_mem_attempts_of_unstarted run enlists.1 kind
  obtain ⟨told, same, underway⟩ := (schedule.underway run watched).playOut? settles new played
  refine ⟨told, same, underway.run, underway.watched, underway.starts, underway.only,
    fun key => ?_, underway.verdicts⟩
  split
  · rename_i own
    obtain ⟨left, place, made⟩ := (underway.engaged key.thread own.1).place
    rw [place.eq_zero, Nat.add_zero, ← own.2] at made
    exact made
  · rename_i foreign
    refine List.count_eq_zero.2 fun member => foreign ?_
    exact underway.keys key member

end Phase.Schedule

end Storm

end RaceSentry
