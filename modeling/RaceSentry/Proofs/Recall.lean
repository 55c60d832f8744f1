import RaceSentry.Proofs.Attempts
import RaceSentry.Proofs.Records

/-!
# Snapshots and verdicts read off a run

What a thread has seen of a value follows from what happened, with edits by hand among it, and so do
the clock table of the value and the verdicts on accesses to it. Verdicts and tables that are told
of are not needed for this: they come of the rest.
Main statements: `snapshot?_of_run`, `verdict_of_run` and `verdicts_of_path`.
-/

namespace RaceSentry

open World

variable {α : Type} {past : History} {scene next : Scene α} {value : ValueId}

namespace Happening

/-- What a thread has seen of a value after a happening, given the clock table of the value and what
the thread had seen before. -/
def reveal (thread : ThreadId) (value : ValueId) (clock : ClockTable)
    (before : Option ClockTable) : Happening → Option ClockTable
  | .accessed other target kind _ =>
    if thread = other ∧ value = target then
      some ((before.getD ∅).insert ⟨thread, kind⟩ (clock.next ⟨thread, kind⟩))
    else before
  | .entered other target _ => if thread = other ∧ value = target then some clock else before
  | .edited other context => if thread = other then context.snapshot? value else before
  | .ended other => if thread = other then none else before
  | _ => before

/-- The key of an access to a value, with what was found to stand against it if it was flagged. -/
def verdict? (value : ValueId) : Happening → Option (AccessKey × Option (List Conflict))
  | .accessed thread other kind sighting =>
    if other = value then some (⟨thread, kind⟩, sighting.map Sighting.candidates) else none
  | _ => none

end Happening

namespace History

/-- The clock table that counts the attempts at a value. -/
def clock (past : History) (value : ValueId) : ClockTable :=
  ClockTable.raise ∅ (past.attempts value)

/-- What a thread has seen of a value, as what happened tells. -/
def sight? (thread : ThreadId) (value : ValueId) : History → Option ClockTable
  | [] => none
  | happening :: earlier =>
    happening.reveal thread value (History.clock earlier value) (sight? thread value earlier)

/-- What stands against the next access of a key to a value, as what happened tells. -/
def against (past : History) (value : ValueId) (key : AccessKey) : List Conflict :=
  Conflict.unseen ((past.clock value).increment key)
    (((sight? key.thread value past).getD ∅).insert key ((past.clock value).next key)) key.kind

/-- The verdicts on accesses to a value, latest first. -/
def verdicts (past : History) (value : ValueId) : List (AccessKey × Option (List Conflict)) :=
  past.filterMap (Happening.verdict? value)

/-- The verdicts to which accesses to a value must come, latest first, given what happened
before. -/
def judged (before : History) (value : ValueId) :
    History → List (AccessKey × Option (List Conflict))
  | [] => []
  | happening :: earlier =>
    match happening.accessKey? value with
    | none => judged before value earlier
    | some key =>
      let conflicts := against (earlier ++ before) value key
      (key, if conflicts = [] then none else some conflicts) :: judged before value earlier

/-- The flagged threads are those of verdicts with something in them. -/
theorem flagged_eq_verdicts (past : History) (value : ValueId) :
    past.flagged value =
      (past.verdicts value).filterMap fun verdict => verdict.2.map fun _ => verdict.1.thread := by
  rw [flagged, verdicts, List.filterMap_filterMap]
  congr 1
  funext happening
  cases happening with
  | accessed thread other kind sighting =>
    by_cases here : other = value
    · cases sighting with
      | none => simp [Happening.flagged?, Happening.verdict?, here]
      | some sighting => simp [Happening.flagged?, Happening.verdict?, here]
    · cases sighting with
      | none => simp [Happening.flagged?, Happening.verdict?, here]
      | some sighting => simp [Happening.flagged?, Happening.verdict?, here]
  | _ => rfl

end History

/-- The clock table of a history has the number of the last access of each key. -/
theorem History.get?_clock (past : History) (value : ValueId) (key : AccessKey) :
    (past.clock value).get? key = past.number? value key := by
  have counts := (ClockTable.Counts.empty.raise (past.attempts value)) key
  rwa [List.append_nil] at counts

/-- The clock table of a value is the one that counts the attempts at it. -/
theorem Standing.Counted.clock_eq {standing : Standing} (counted : standing.Counted past value) :
    standing.clock = past.clock value := by
  apply SortedMap.ext_get?
  intro key
  rw [counted.get?_clock, History.get?_clock]

/-- The clock table of a value is that of its standing. -/
theorem World.clockOf_of_standing? {world : World α} {standing : Standing}
    (stands : world.standing? value = some standing) : world.clockOf value = standing.clock := by
  obtain ⟨cell, found, rfl⟩ := (standing?_eq_some_iff world).1 stands
  rw [World.clockOf, found]
  rfl

/-- The clock table of a value that exists counts the attempts at it. -/
theorem clockOf_of_run (run : Run past scene) {standing : Standing}
    (stands : scene.world.standing? value = some standing) :
    scene.world.clockOf value = past.clock value := by
  rw [clockOf_of_standing? stands, (counted_of_run run stands).clock_eq]

/-- Clock tables stay where nothing changes that verdicts and records depend on. -/
theorem World.Kept.clockOf {world next : World α} (kept : Kept world next) (value : ValueId) :
    next.clockOf value = world.clockOf value := by
  have same := congrArg (Option.map Cell.clock) (kept.accounts value)
  rw [Option.map_map, Option.map_map] at same
  exact congrArg (Option.getD · ∅) same

/-- What a thread sees of a value changes with what it does itself, and as is said. -/
theorem World.Turn.snapshot?_eq {world next : World α} {happenings : List Happening}
    (turn : Turn world happenings next) (numbered : Numbered world) (thread : ThreadId) :
    next.snapshot? thread value = happenings.foldr
      (fun happening before => happening.reveal thread value (world.clockOf value) before)
      (world.snapshot? thread value) := by
  induction turn with
  | quiet kept => exact kept.snapshots thread value
  | stalled running found on => rfl
  | @clean world other target kind cell running found on nothing =>
    rw [tallyAccess, snapshot?_copyCounter, List.foldr_cons, Happening.reveal]
    split
    · rename_i own
      obtain ⟨rfl, rfl⟩ := own
      rw [World.clockOf, found]
      rfl
    · rfl
  | @flagged world other target kind cell running found on something =>
    rw [snapshot?_flag, tallyAccess, snapshot?_copyCounter, List.foldr_cons, Happening.reveal]
    split
    · rename_i own
      obtain ⟨rfl, rfl⟩ := own
      rw [World.clockOf, found]
      rfl
    · rfl
  | @entered world other target cell running found =>
    rw [snapshot?_adoptClock, List.foldr_cons, Happening.reveal]
    split
    · rename_i own
      obtain ⟨rfl, rfl⟩ := own
      rw [World.clockOf, found]
      rfl
    · rfl
  | edited running known => exact snapshot?_bindContext _ _ _ _ _
  | started name attach => exact snapshot?_spawn numbered name attach thread value
  | ended running => exact snapshot?_erase _ _ _ _
  | equipped blank => rfl
  | adjusted found same => rfl
  | made known => exact snapshot?_addCell _ _ _ _ thread value
  | removed present => rfl
  | after kept turn ih => rw [ih (kept.numbered numbered), kept.clockOf, kept.snapshots]
  | upTo turn kept ih => rw [kept.snapshots, ih numbered]

/-- What a thread has seen is told by what happened, whatever was done to contexts by hand. -/
theorem snapshot?_of_run (run : Run past scene) (thread : ThreadId) (value : ValueId) :
    scene.world.snapshot? thread value = past.sight? thread value := by
  induction run with
  | refl => rfl
  | @tail past happenings scene next move path performed ih =>
    have numbered := numbered_of_run path
    have turn := Scene.turn_of_perform? numbered performed
    rw [turn.snapshot?_eq numbered, ih]
    rcases turn.eq_nil_or_singleton with rfl | ⟨happening, rfl⟩
    · rfl
    have fits := turn.fits happening (List.mem_singleton_self _)
    change happening.reveal thread value (scene.world.clockOf value)
        (History.sight? thread value past) =
      happening.reveal thread value (past.clock value) (History.sight? thread value past)
    -- The table matters to accesses and section entries only, whose value exists.
    cases happening with
    | accessed other target kind sighting =>
      obtain ⟨_, _, stands, _⟩ := fits
      by_cases here : value = target
      · rw [here, clockOf_of_run path stands]
      · rw [Happening.reveal, Happening.reveal, if_neg fun own => here own.2,
          if_neg fun own => here own.2]
    | entered other target clock =>
      obtain ⟨_, _, stands, _⟩ := fits
      by_cases here : value = target
      · rw [here, clockOf_of_run path stands]
      · rw [Happening.reveal, Happening.reveal, if_neg fun own => here own.2,
          if_neg fun own => here own.2]
    | _ => rfl

/-- Verdicts are told by what happened, whatever was done to contexts by hand. -/
theorem verdict_of_run (run : Run past scene) {standing : Standing}
    (stands : scene.world.standing? value = some standing) (on : standing.detecting = true)
    (key : AccessKey) : standing.verdict key = past.against value key := by
  rw [Standing.verdict_of_detecting on, (counted_of_run run stands).clock_eq, Standing.seen,
    snapshot?_of_standing? stands, snapshot?_of_run run, History.against]

/-- All verdicts on a path are those to which the accesses must come. -/
theorem verdicts_of_path {start : Scene α} {later : History} (run : Run past start)
    (path : Path start later scene) :
    later.verdicts value = History.judged past value later := by
  induction path with
  | refl => rfl
  | @tail later happenings scene next move path performed ih =>
    have before := run.trans path
    have turn := Scene.turn_of_perform? (numbered_of_run before) performed
    rcases turn.eq_nil_or_singleton with rfl | ⟨happening, rfl⟩
    · exact ih
    have fits := turn.fits happening (List.mem_singleton_self _)
    change List.filterMap _ (happening :: later) = History.judged past value (happening :: later)
    rw [List.filterMap_cons, History.judged, ← ih]
    cases happening with
    | accessed thread target kind sighting =>
      obtain ⟨_, standing, stands, on, tells⟩ := fits
      by_cases here : target = value
      · subst here
        rw [verdict_of_run before stands on] at tells
        simp only [Happening.verdict?, Happening.accessKey?, ↓reduceIte]
        cases sighting with
        | none =>
          rw [if_pos (show History.against _ _ _ = [] from tells)]
          rfl
        | some sighting =>
          rw [if_neg tells.1, Option.map_some, tells.2.2.2]
          rfl
      · simp only [Happening.verdict?, Happening.accessKey?, if_neg here]
        rfl
    | _ => rfl

end RaceSentry
