import RaceSentry.Proofs.History

/-!
# What threads have seen

A snapshot is a copy of a clock table that nobody keeps up to date but its own thread. What is in
it at any moment of a run is said here, and that it is never ahead of the table, so that to differ
from the table is to be behind it.
Main statement: `snapshot_as_of_entry`.
-/

namespace RaceSentry

open World

variable {α : Type} {past : History} {scene : Scene α} {thread : ThreadId} {value : ValueId}
  {cell : Cell α}

namespace History

/-- Counters never go down. -/
theorem counter?_upToEntry_le {key : AccessKey} {counter : Nat}
    (seen : (past.upToEntry thread value).counter? value key = some counter) :
    ∃ current, past.counter? value key = some current ∧ counter ≤ current := by
  have parts := past.tally_split thread value key
  unfold counter? at seen ⊢
  split at seen
  · cases seen
  · cases seen
    rw [if_neg (by omega)]
    exact ⟨_, rfl, by omega⟩

/-- A thread that entered no section has nothing from before one. -/
theorem entryClock?_of_not_entered (never : ¬ past.Entered thread value) :
    past.entryClock? thread value = none := by
  refine List.findSome?_eq_none_iff.2 fun happening member => ?_
  cases happening with
  | entered other target clock =>
    refine if_neg ?_
    rintro ⟨rfl, rfl⟩
    exact never ⟨clock, member⟩
  | _ => rfl

/-- The last section entry is the one after which there is none. -/
theorem entryClock?_append {newer older : History} {clock : ClockTable}
    (last : ¬ newer.Entered thread value) :
    History.entryClock? (newer ++ .entered thread value clock :: older) thread value =
      some clock := by
  have nothing := entryClock?_of_not_entered last
  rw [entryClock?, List.findSome?_append, ← entryClock?, nothing, Option.none_or,
    List.findSome?_cons, Happening.entryClock?_entered]

end History

/-- How a snapshot that a thread holds compares with the clock table of its value. -/
structure AsOfEntry (past : History) (scene : Scene α) (thread : ThreadId) (value : ValueId)
    (clock snapshot : ClockTable) : Prop where
  /-- The thread's own counters are up to date. -/
  own : ∀ kind, snapshot.get? ⟨thread, kind⟩ = clock.get? ⟨thread, kind⟩
  /-- A thread that entered no section has seen nothing of others. -/
  unentered : ¬ past.Entered thread value →
    ∀ other kind, other ≠ thread → snapshot.get? ⟨other, kind⟩ = none
  /-- Of others, the thread has seen what was in the table when it last entered a section. -/
  foreign : ∀ newer older adopted, past = newer ++ .entered thread value adopted :: older →
    ¬ History.Entered newer thread value →
      ∃ before, Run older before ∧ Path before (newer ++ [.entered thread value adopted]) scene ∧
        ∀ other kind, other ≠ thread →
          snapshot.get? ⟨other, kind⟩ = (before.world.clockOf value).get? ⟨other, kind⟩
  /-- The snapshot is never ahead of the table. -/
  notAhead : ∀ key counter, snapshot.get? key = some counter →
    ∃ current, clock.get? key = some current ∧ counter ≤ current
  /-- Where the snapshot differs from the table, it lacks the entry or is behind. -/
  differs : ∀ key current, clock.get? key = some current →
    (snapshot.get? key ≠ some current ↔
      ∀ counter, snapshot.get? key = some counter → counter < current)

/-- A table that is never ahead of another differs from it only by being behind. -/
theorem differs_iff_behind {clock snapshot : ClockTable} {key : AccessKey} {current : Nat}
    (notAhead : ∀ counter, snapshot.get? key = some counter →
      ∃ current, clock.get? key = some current ∧ counter ≤ current)
    (stored : clock.get? key = some current) :
    snapshot.get? key ≠ some current ↔
      ∀ counter, snapshot.get? key = some counter → counter < current := by
  constructor
  · intro different counter seen
    obtain ⟨now, same, le⟩ := notAhead counter seen
    rw [stored] at same
    cases same
    exact Nat.lt_of_le_of_ne le fun equal => different (equal ▸ seen)
  · intro behind same
    exact Nat.lt_irrefl _ (behind current same)

/-- The table that a thread adopts with a section entry is the one that the value has then. -/
theorem clockOf_of_entered {before next : Scene α} {clock : ClockTable} (run : Run past before)
    {move : Move α}
    (performed : before.perform? move = some (next, [.entered thread value clock])) :
    before.world.clockOf value = clock := by
  have turn := Scene.turn_of_perform? (numbered_of_run run) performed
  obtain ⟨_, standing, found, same⟩ := turn.fits _ (List.mem_singleton_self _)
  obtain ⟨cell, stored, rfl⟩ := (standing?_eq_some_iff _).1 found
  rw [World.clockOf, stored]
  exact same

/-- A snapshot holds what its thread did itself, and of others what it saw with its last section
entry. -/
theorem asOfEntry_of_reflects {standing : Standing} {snapshot : ClockTable} (run : Run past scene)
    (unended : .ended thread ∉ past) (reflects : standing.Reflects past value)
    (held : standing.snapshot? thread = some snapshot) :
    AsOfEntry past scene thread value standing.clock snapshot := by
  have seen : ∀ key, snapshot.get? key = if key.thread = thread then past.counter? value key
      else (past.upToEntry thread value).counter? value key := by
    intro key
    have known := reflects.seen thread unended key
    rw [Standing.seen, held] at known
    exact known
  have notAhead : ∀ key counter, snapshot.get? key = some counter →
      ∃ current, standing.clock.get? key = some current ∧ counter ≤ current := by
    intro key counter stored
    rw [seen] at stored
    rw [reflects.clock]
    split at stored
    · exact ⟨counter, stored, Nat.le_refl _⟩
    · exact History.counter?_upToEntry_le stored
  refine ⟨fun kind => ?_, fun never other kind foreign => ?_, ?_, notAhead, ?_⟩
  · rw [seen, if_pos rfl, reflects.clock]
  · have nothing := History.entryClock?_of_not_entered never
    rw [seen, if_neg foreign, ← reflects.adopted, nothing]
    rfl
  · rintro newer older adopted rfl last
    obtain ⟨before, next, earlier, ⟨move, performed⟩, rest⟩ := exists_scene_of_run run
    refine ⟨before, earlier, (Path.refl.tail performed).trans rest, fun other kind foreign => ?_⟩
    rw [seen, if_neg foreign, ← reflects.adopted, History.entryClock?_append last,
      clockOf_of_entered earlier performed]
    rfl
  · intro key current stored
    exact differs_iff_behind (notAhead key) stored

/-- Who holds a snapshot of a value and what is in it, at any moment of a run in which nobody
disturbed the contexts. Recording a counter leaves no thread without a snapshot. -/
theorem snapshot_as_of_entry (run : Run past scene) (undisturbed : past.Undisturbed)
    (running : scene.world.threads.contains thread = true)
    (found : scene.world.cells.get? value = some cell) :
    (cell.detecting = true →
      ((scene.world.snapshot? thread value).isSome ↔
        past.Accessed thread value ∨ past.Entered thread value) ∧
      ∀ snapshot, scene.world.snapshot? thread value = some snapshot →
        AsOfEntry past scene thread value cell.clock snapshot) ∧
    (cell.detecting = false →
      ((scene.world.snapshot? thread value).isSome ↔ past.Entered thread value) ∧
      ∀ snapshot, scene.world.snapshot? thread value = some snapshot → snapshot = ∅) ∧
    ∀ key counter,
      ((scene.world.ensureContext key.thread).2.record value key counter).snapshot? value ≠
        none := by
  have unended := not_ended_of_run run running
  have reflects := reflects_of_run run undisturbed (standing?_of_get? _ found)
  have held := reflects.held thread unended
  have asOfEntry : ∀ snapshot, scene.world.snapshot? thread value = some snapshot →
      AsOfEntry past scene thread value cell.clock snapshot := fun snapshot stored =>
    asOfEntry_of_reflects run unended reflects stored
  refine ⟨fun _ => ⟨held, asOfEntry⟩, fun off => ?_, fun key counter => ?_⟩
  · have idle := reflects.idle off
    refine ⟨held.trans (or_iff_right (idle thread)), fun snapshot stored => ?_⟩
    apply SortedMap.ext_get?
    intro key
    cases seen : snapshot.get? key with
    | none => rfl
    | some counter =>
      obtain ⟨current, counted, _⟩ := (asOfEntry snapshot stored).notAhead key counter seen
      have absent : cell.clock.get? key = none :=
        (reflects.clock key).trans (History.counter?_of_not_accessed (idle key.thread))
      rw [absent] at counted
      cases counted
  · rw [ThreadContext.snapshot?_record, if_pos rfl]
    exact Option.some_ne_none _

/-- Inside its closure, a thread sees its own read and the first of the two writes of another one,
between which it had entered a section. -/
theorem snapshot_inside_closure :
    ∃ (past : History) (scene : Scene Nat) (cell : Cell Nat),
      Run past scene ∧ past.Undisturbed ∧ scene.world.threads.contains ⟨1⟩ = true ∧
        scene.world.cells.get? ⟨0⟩ = some cell ∧ cell.detecting = true ∧ cell.borrowed = true ∧
        cell.clock = .ofList [(⟨⟨0⟩, .write⟩, 2), (⟨⟨1⟩, .read⟩, 1)] ∧
        AsOfEntry past scene ⟨1⟩ ⟨0⟩ cell.clock
          (.ofList [(⟨⟨0⟩, .write⟩, 1), (⟨⟨1⟩, .read⟩, 1)]) := by
  obtain ⟨scene, cell, run, running, found, on, borrowed, clock, held⟩ :
      ∃ (scene : Scene Nat) (cell : Cell Nat),
        Run [.accessed ⟨1⟩ ⟨0⟩ .read (some ⟨⟨0⟩, none, ⟨⟨1⟩, .read⟩, none,
              [⟨⟨⟨0⟩, .write⟩, 2, some 1⟩]⟩), .accessed ⟨0⟩ ⟨0⟩ .write none,
            .entered ⟨1⟩ ⟨0⟩ (.ofList [(⟨⟨0⟩, .write⟩, 1)]), .accessed ⟨0⟩ ⟨0⟩ .write none,
            .made ⟨0⟩ true none] scene ∧ scene.world.threads.contains ⟨1⟩ = true ∧
          scene.world.cells.get? ⟨0⟩ = some cell ∧ cell.detecting = true ∧ cell.borrowed = true ∧
          cell.clock = .ofList [(⟨⟨0⟩, .write⟩, 2), (⟨⟨1⟩, .read⟩, 1)] ∧
          scene.world.snapshot? ⟨1⟩ ⟨0⟩ =
            some (.ofList [(⟨⟨0⟩, .write⟩, 1), (⟨⟨1⟩, .read⟩, 1)]) :=
    ⟨_, _, Path.refl.playOut? [.step (.spawn none false), .step (.spawn none true),
      .step (.newValue 7 none none), .access ⟨0⟩ ⟨0⟩ .write, .finish ⟨0⟩ Nat.succ,
      .enter ⟨1⟩ ⟨0⟩, .leave ⟨1⟩, .access ⟨0⟩ ⟨0⟩ .write, .finish ⟨0⟩ Nat.succ,
      .access ⟨1⟩ ⟨0⟩ .read] rfl, rfl, rfl, rfl, rfl, rfl, rfl⟩
  exact ⟨_, scene, cell, run, by decide, running, found, on, borrowed, clock,
    ((snapshot_as_of_entry run (by decide) running found).1 on).2 _ held⟩

end RaceSentry
