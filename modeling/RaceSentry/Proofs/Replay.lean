import RaceSentry.Proofs.Records
import RaceSentry.Proofs.Script

/-!
# Verdicts depend on occurrences

Who accessed which value in which way, and who entered a section on which value, in this order, is
all that clock tables, snapshots, racing threads and verdicts depend on. They can be had by playing
these occurrences again without any threads, contents, closures, locks or detectors. So two runs
with the same occurrences have the same records, whatever else they differ in.
Main statements: `replayed_of_run` and `same_records_of_same_occurrences`.
-/

namespace RaceSentry

open World

/-- Something that verdicts depend on. -/
inductive Occurrence where
  /-- A thread accessed a watched value. -/
  | access (thread : ThreadId) (value : ValueId) (kind : AccessKind)
  /-- A thread entered a section on a value. -/
  | entry (thread : ThreadId) (value : ValueId)
  deriving DecidableEq

namespace Occurrence

/-- The value that an occurrence is about. -/
def value : Occurrence → ValueId
  | .access _ value _ => value
  | .entry _ value => value

/-- What an occurrence does to how matters stand for a value. -/
def bear (value : ValueId) : Occurrence → Standing → Standing
  | .access thread other kind, standing =>
    if value = other then standing.access ⟨thread, kind⟩ else standing
  | .entry thread other, standing => if value = other then standing.entry thread else standing

/-- How matters stand for a value after occurrences, of which the latest comes first. -/
def replay (value : ValueId) (occurrences : List Occurrence) : Standing :=
  occurrences.foldr (bear value) (.fresh true)

/-- Whether an occurrence is flagged after others. -/
def flagged (earlier : List Occurrence) : Occurrence → Bool
  | .access thread value kind => !((replay value earlier).verdict ⟨thread, kind⟩).isEmpty
  | .entry _ _ => false

/-- Occurrences with whether each of them is flagged. -/
def judged : List Occurrence → List (Occurrence × Bool)
  | [] => []
  | occurrence :: earlier => (occurrence, occurrence.flagged earlier) :: judged earlier

/-- Accesses never switch detection off. -/
theorem detecting_replay (value : ValueId) (occurrences : List Occurrence) :
    (replay value occurrences).detecting = true := by
  induction occurrences with
  | nil => rfl
  | cons occurrence earlier ih =>
    change (occurrence.bear value (replay value earlier)).detecting = true
    cases occurrence with
    | access thread other kind =>
      rw [bear]
      split
      · rw [Standing.detecting_access]
        exact ih
      · exact ih
    | entry thread other =>
      rw [bear]
      split
      · exact ih
      · exact ih

/-- What is about another value does nothing to this one. -/
theorem bear_of_ne {value : ValueId} {occurrence : Occurrence} (other : occurrence.value ≠ value)
    (standing : Standing) : occurrence.bear value standing = standing := by
  cases occurrence with
  | access thread target kind => exact if_neg (Ne.symm other)
  | entry thread target => exact if_neg (Ne.symm other)

/-- Nobody has accessed a value of which no occurrence is. -/
theorem replay_eq_fresh {value : ValueId} {occurrences : List Occurrence}
    (elsewhere : ∀ occurrence ∈ occurrences, occurrence.value ≠ value) :
    replay value occurrences = .fresh true := by
  induction occurrences with
  | nil => rfl
  | cons occurrence earlier ih =>
    have different := elsewhere occurrence List.mem_cons_self
    have before := ih fun other member => elsewhere other (List.mem_cons_of_mem _ member)
    exact (bear_of_ne different _).trans before

end Occurrence

namespace Happening

/-- What verdicts depend on in a happening. -/
def occurrence? : Happening → Option Occurrence
  | .accessed thread value kind _ => some (.access thread value kind)
  | .entered thread value _ => some (.entry thread value)
  | _ => none

/-- What verdicts depend on in a happening, with whether it was flagged. -/
def mark? : Happening → Option (Occurrence × Bool)
  | .accessed thread value kind sighting => some (.access thread value kind, sighting.isSome)
  | .entered thread value _ => some (.entry thread value, false)
  | _ => none

/-- A happening leaves what a thread has seen of a value as it is. -/
def Bypasses (thread : ThreadId) (value : ValueId) : Happening → Prop
  | .accessed other target _ _ => ¬ (thread = other ∧ value = target)
  | .entered other target _ => ¬ (thread = other ∧ value = target)
  | .edited other _ => thread ≠ other
  | .ended other => thread ≠ other
  | _ => True

end Happening

namespace History

/-- What verdicts depend on, latest first. -/
def occurrences (past : History) : List Occurrence := past.filterMap Happening.occurrence?

/-- What verdicts depend on, with whether it was flagged, latest first. -/
def marks (past : History) : List (Occurrence × Bool) := past.filterMap Happening.mark?

end History

variable {α β : Type} {past : History}

/-- What a thread has seen of a value changes by what it does itself and by nothing else. -/
theorem World.Turn.snapshot?_of_bypasses {world next : World α} {happenings : List Happening}
    (turn : Turn world happenings next) (numbered : Numbered world) {thread : ThreadId}
    {value : ValueId} (bypasses : ∀ happening ∈ happenings, happening.Bypasses thread value) :
    next.snapshot? thread value = world.snapshot? thread value := by
  induction turn with
  | quiet kept => exact kept.snapshots thread value
  | stalled running found on => rfl
  | clean running found on nothing =>
    rw [tallyAccess, snapshot?_copyCounter, if_neg (bypasses _ (List.mem_singleton_self _))]
    rfl
  | flagged running found on something =>
    rw [snapshot?_flag, tallyAccess, snapshot?_copyCounter,
      if_neg (bypasses _ (List.mem_singleton_self _))]
    rfl
  | entered running found =>
    rw [snapshot?_adoptClock, if_neg (bypasses _ (List.mem_singleton_self _))]
  | edited running known =>
    rw [snapshot?_bindContext, if_neg (bypasses _ (List.mem_singleton_self _))]
  | started name attach => exact snapshot?_spawn numbered name attach thread value
  | ended running => rw [snapshot?_erase, if_neg (bypasses _ (List.mem_singleton_self _))]
  | equipped blank => rfl
  | adjusted found same => rfl
  | made known => exact snapshot?_addCell _ _ _ _ thread value
  | removed present => rfl
  | after kept turn ih => rw [ih (kept.numbered numbered) bypasses, kept.snapshots]
  | upTo turn kept ih => rw [kept.snapshots, ih numbered bypasses]

/-- A standing agrees with one that was replayed, but for what threads had seen that are gone. -/
structure Standing.Matches (standing replayed : Standing) (past : History) : Prop where
  /-- The same accesses were counted. -/
  clock : standing.clock = replayed.clock
  /-- The same threads race. -/
  racing : standing.racing = replayed.racing
  /-- Threads that did not end have seen the same. -/
  snapshots : ∀ thread, .ended thread ∉ past →
    standing.snapshot? thread = replayed.snapshot? thread

namespace Standing.Matches

variable {standing replayed : Standing} {thread : ThreadId} {kind : AccessKind}

/-- The same stands against an access. -/
theorem verdict_eq (same : standing.Matches replayed past) (on : standing.detecting = true)
    (on' : replayed.detecting = true) (unended : .ended thread ∉ past) :
    standing.verdict ⟨thread, kind⟩ = replayed.verdict ⟨thread, kind⟩ := by
  rw [verdict_of_detecting on, verdict_of_detecting on', Standing.seen, Standing.seen, same.clock,
    same.snapshots thread unended]

/-- An access keeps agreement. -/
theorem access (same : standing.Matches replayed past) (on : standing.detecting = true)
    (on' : replayed.detecting = true) (unended : .ended thread ∉ past) :
    (standing.access ⟨thread, kind⟩).Matches (replayed.access ⟨thread, kind⟩) past where
  clock := by rw [clock_access, clock_access, if_pos on, if_pos on', same.clock]
  racing := by
    rw [Standing.access, Standing.access, if_pos on, if_pos on',
      same.verdict_eq on on' unended]
    split
    · exact same.racing
    · exact congrArg (fun racing => SortedMap.insert racing thread ()) same.racing
  snapshots := fun other alive => by
    have seen : standing.seen thread = replayed.seen thread := by
      rw [Standing.seen, Standing.seen, same.snapshots thread unended]
    rw [snapshot?_access, snapshot?_access, if_pos on, if_pos on', tally, tally, copy, copy,
      snapshot?_withSnapshot, snapshot?_withSnapshot]
    split
    · change some ((standing.seen thread).insert _ _) = some ((replayed.seen thread).insert _ _)
      rw [seen, same.clock]
    · exact same.snapshots other alive

/-- A section entry keeps agreement. -/
theorem entry (same : standing.Matches replayed past) :
    (standing.entry thread).Matches (replayed.entry thread) past where
  clock := same.clock
  racing := same.racing
  snapshots := fun other alive => by
    rw [Standing.entry, Standing.entry, snapshot?_withSnapshot, snapshot?_withSnapshot, same.clock]
    split
    · rfl
    · exact same.snapshots other alive

end Standing.Matches

/-- What happened so far was about values that were made. -/
theorem History.Dated.occurrences_ne {world : World α} (dated : past.Dated world) {value : ValueId}
    (new : ¬ value.index < world.made) :
    ∀ occurrence ∈ past.occurrences, occurrence.value ≠ value := by
  rintro occurrence member rfl
  obtain ⟨happening, happened, told⟩ := List.mem_filterMap.1 member
  refine new (dated.values happening happened _ ?_)
  cases happening with
  | accessed thread other kind sighting =>
    cases told
    rfl
  | entered thread other clock =>
    cases told
    rfl
  | _ => cases told

/-- What was recorded agrees with what is had by playing the occurrences again. -/
structure Replayed (past : History) (world : World α) : Prop where
  /-- Clock tables and racing threads. -/
  standings : ∀ value standing, world.standing? value = some standing →
    standing.clock = (Occurrence.replay value past.occurrences).clock ∧
      standing.racing = (Occurrence.replay value past.occurrences).racing
  /-- Snapshots of threads that did not end, also of values that are gone. -/
  snapshots : ∀ thread value, .ended thread ∉ past →
    world.snapshot? thread value = (Occurrence.replay value past.occurrences).snapshot? thread
  /-- Flagged accesses. -/
  marks : past.marks = Occurrence.judged past.occurrences

namespace Replayed

variable {world next : World α} {happenings : List Happening}

/-- A value stands as it does when the occurrences are played again. -/
theorem matches_standing (replayed : Replayed past world) {value : ValueId} {standing : Standing}
    (stood : world.standing? value = some standing) :
    standing.Matches (Occurrence.replay value past.occurrences) past where
  clock := (replayed.standings value standing stood).1
  racing := (replayed.standings value standing stood).2
  snapshots := fun thread alive => by
    obtain ⟨cell, found, rfl⟩ := (standing?_eq_some_iff world).1 stood
    exact replayed.snapshots thread value alive

/-- What happens without an occurrence, and without bearing on what is left of a standing. -/
theorem aside (replayed : Replayed past world) {happening : Happening}
    (nothing : happening.mark? = none ∧ happening.occurrence? = none)
    (standings : ∀ value standing, next.standing? value = some standing →
      standing.clock = (Occurrence.replay value past.occurrences).clock ∧
        standing.racing = (Occurrence.replay value past.occurrences).racing)
    (snapshots : ∀ thread value, happening ≠ .ended thread →
      next.snapshot? thread value = world.snapshot? thread value) :
    Replayed (happening :: past) next := by
  have occurrences : History.occurrences (happening :: past) = past.occurrences :=
    List.filterMap_cons_none nothing.2
  have marks : History.marks (happening :: past) = past.marks :=
    List.filterMap_cons_none nothing.1
  refine ⟨?_, fun thread value alive => ?_, ?_⟩
  · rw [occurrences]
    exact standings
  · rw [occurrences, snapshots thread value fun same => alive (same ▸ List.mem_cons_self)]
    exact replayed.snapshots thread value (List.not_mem_of_not_mem_cons alive)
  · rw [occurrences, marks, replayed.marks]

/-- An occurrence is replayed if it does to the standing of its value what happened to it. -/
theorem occurred (replayed : Replayed past world) {happening : Happening} {occurrence : Occurrence}
    {flag : Bool} (told : happening.occurrence? = some occurrence)
    (marked : happening.mark? = some (occurrence, flag))
    (judged : flag = occurrence.flagged past.occurrences)
    (elsewhere : ∀ value, occurrence.value ≠ value → next.standing? value = world.standing? value)
    (unseen : ∀ thread value, occurrence.value ≠ value →
      next.snapshot? thread value = world.snapshot? thread value)
    {standing : Standing} (stands : next.standing? occurrence.value = some standing)
    (same : standing.Matches (occurrence.bear occurrence.value
      (Occurrence.replay occurrence.value past.occurrences)) past) :
    Replayed (happening :: past) next := by
  have occurrences : History.occurrences (happening :: past) = occurrence :: past.occurrences :=
    List.filterMap_cons_some told
  have marks : History.marks (happening :: past) = (occurrence, flag) :: past.marks :=
    List.filterMap_cons_some marked
  refine ⟨fun value after found => ?_, fun thread value alive => ?_, ?_⟩
  · rw [occurrences]
    change _ = (occurrence.bear value _).clock ∧ _ = (occurrence.bear value _).racing
    by_cases here : occurrence.value = value
    · subst here
      cases stands.symm.trans found
      exact ⟨same.clock, same.racing⟩
    · rw [Occurrence.bear_of_ne here]
      rw [elsewhere value here] at found
      exact replayed.standings value after found
  · have alive : .ended thread ∉ past := List.not_mem_of_not_mem_cons alive
    rw [occurrences]
    change _ = (occurrence.bear value _).snapshot? thread
    by_cases here : occurrence.value = value
    · subst here
      obtain ⟨cell, found, rfl⟩ := (standing?_eq_some_iff next).1 stands
      exact same.snapshots thread alive
    · rw [Occurrence.bear_of_ne here, unseen thread value here]
      exact replayed.snapshots thread value alive
  · rw [occurrences, marks, replayed.marks, judged]
    rfl

/-- What is played again keeps up with every turn of a run in which nobody disturbed the
contexts. -/
theorem turn (replayed : Replayed past world) (numbered : Numbered world)
    (dated : past.Dated world) (turn : Turn world happenings next)
    (undisturbed : History.Undisturbed happenings) : Replayed (happenings ++ past) next := by
  have stands := turn.standing? numbered
  have seen : ∀ thread value, (∀ happening ∈ happenings, happening.Bypasses thread value) →
      next.snapshot? thread value = world.snapshot? thread value :=
    fun _ _ bypasses => turn.snapshot?_of_bypasses numbered bypasses
  rcases turn.eq_nil_or_singleton with rfl | ⟨happening, rfl⟩
  · refine ⟨fun value standing found => ?_, fun thread value alive => ?_, replayed.marks⟩
    · rw [stands] at found
      exact replayed.standings value standing found
    · rw [seen thread value nofun]
      exact replayed.snapshots thread value alive
  · have fits := turn.fits happening (List.mem_singleton_self _)
    have bypassed : ∀ thread value, happening.Bypasses thread value →
        next.snapshot? thread value = world.snapshot? thread value :=
      fun thread value bypasses => seen thread value fun _ member =>
        List.mem_singleton.1 member ▸ bypasses
    have bears : ∀ value, next.standing? value = happening.bear value (world.standing? value) :=
      stands
    cases happening with
    | made other detecting sink =>
      refine replayed.aside ⟨rfl, rfl⟩ (fun value standing found => ?_) fun thread value _ =>
        bypassed thread value trivial
      rw [bears, Happening.bear] at found
      split at found
      · rename_i here
        cases found
        rw [Occurrence.replay_eq_fresh (dated.occurrences_ne ?_)]
        · exact ⟨rfl, rfl⟩
        · rw [here, fits]
          exact Nat.lt_irrefl _
      · exact replayed.standings value standing found
    | removed other =>
      refine replayed.aside ⟨rfl, rfl⟩ (fun value standing found => ?_) fun thread value _ =>
        bypassed thread value trivial
      rw [bears, Happening.bear] at found
      split at found
      · cases found
      · exact replayed.standings value standing found
    | accessed thread other kind sighting =>
      obtain ⟨running, before, stood, on, told⟩ := fits
      have alive : .ended thread ∉ past := fun member =>
        Bool.false_ne_true ((dated.ended thread member).2.symm.trans running)
      have watched := Occurrence.detecting_replay other past.occurrences
      have same := replayed.matches_standing stood
      have verdict : before.verdict ⟨thread, kind⟩ =
          (Occurrence.replay other past.occurrences).verdict ⟨thread, kind⟩ :=
        same.verdict_eq on watched alive
      have flag : sighting.isSome = (Occurrence.access thread other kind).flagged
          past.occurrences := by
        rw [Occurrence.flagged, ← verdict]
        cases sighting with
        | none =>
          rw [told]
          rfl
        | some flagged =>
          rw [List.isEmpty_eq_false_iff.2 told.1]
          rfl
      have after : next.standing? other = some (before.access ⟨thread, kind⟩) := by
        rw [bears, Happening.bear, if_pos rfl, stood]
        rfl
      have matched : (before.access ⟨thread, kind⟩).Matches
          ((Occurrence.access thread other kind).bear other
            (Occurrence.replay other past.occurrences)) past := by
        rw [Occurrence.bear, if_pos rfl]
        exact same.access on watched alive
      exact replayed.occurred rfl rfl flag
        (fun value different => (bears value).trans (if_neg (Ne.symm different)))
        (fun _ _ different => bypassed _ _ fun both => different both.2.symm) after matched
    | stalled thread other kind =>
      exact absurd (undisturbed _ (List.mem_singleton_self _)).symm Bool.false_ne_true
    | entered thread other clock =>
      obtain ⟨_, before, stood, _⟩ := fits
      have same := replayed.matches_standing stood
      have after : next.standing? other = some (before.entry thread) := by
        rw [bears, Happening.bear, if_pos rfl, stood]
        rfl
      have matched : (before.entry thread).Matches
          ((Occurrence.entry thread other).bear other
            (Occurrence.replay other past.occurrences)) past := by
        rw [Occurrence.bear, if_pos rfl]
        exact same.entry
      exact replayed.occurred rfl rfl rfl
        (fun value different => (bears value).trans (if_neg (Ne.symm different)))
        (fun _ _ different => bypassed _ _ fun both => different both.2.symm) after matched
    | edited thread context =>
      exact absurd (undisturbed _ (List.mem_singleton_self _)).symm Bool.false_ne_true
    | ended thread =>
      refine replayed.aside ⟨rfl, rfl⟩ (fun value standing found => ?_) fun other value unended =>
        bypassed other value ?_
      · rw [bears] at found
        obtain ⟨before, stood, rfl⟩ := Option.map_eq_some_iff.1 found
        exact replayed.standings value before stood
      · rintro rfl
        exact unended rfl

end Replayed

/-- After every run in which nobody disturbed the contexts, the records are those that are had by
playing its occurrences again. -/
theorem replayed_of_run {scene : Scene α} (run : Run past scene) (undisturbed : past.Undisturbed) :
    Replayed past scene.world := by
  have empty : Replayed [] (World.empty : World α) := ⟨nofun, fun _ _ _ => rfl, rfl⟩
  have all := (run_induction (fun past world => past.Dated world ∧
    (past.Undisturbed → Replayed past world)) ⟨⟨nofun, nofun⟩, fun _ => empty⟩ ?_ run).2.2
  · exact all undisturbed
  · intro past world happenings next numbered holds turn
    refine ⟨holds.1.turn numbered turn, fun undisturbed => ?_⟩
    refine (holds.2 fun happening member => ?_).turn numbered holds.1 turn
      fun happening member => ?_
    · exact undisturbed happening (List.mem_append_right _ member)
    · exact undisturbed happening (List.mem_append_left _ member)

/-- The thread of a flagged access to a value. -/
def Occurrence.flaggedThread? (value : ValueId) : Occurrence × Bool → Option ThreadId
  | (.access thread other _, true) => if other = value then some thread else none
  | _ => none

/-- Who was flagged is a matter of the occurrences and of what was flagged among them. -/
theorem History.flagged_eq_marks (past : History) (value : ValueId) :
    past.flagged value = past.marks.filterMap (Occurrence.flaggedThread? value) := by
  rw [flagged, marks, List.filterMap_filterMap]
  congr 1
  funext happening
  cases happening with
  | accessed thread other kind sighting =>
    cases sighting with
    | none => rfl
    | some flagged => rfl
  | _ => rfl

/-- Two runs have the same records. -/
structure SameRecords (past past' : History) (world : World α) (world' : World β) : Prop where
  /-- The same accesses are flagged. -/
  marks : past.marks = past'.marks
  /-- Clock tables are the same. -/
  clocks : ∀ value cell cell', world.cells.get? value = some cell →
    world'.cells.get? value = some cell' → cell.clock = cell'.clock
  /-- Racing threads are the same. -/
  racing : ∀ value cell cell', world.cells.get? value = some cell →
    world'.cells.get? value = some cell' → cell.racing = cell'.racing
  /-- Snapshots are the same, unless a thread ended and took them with it. -/
  snapshots : ∀ thread value, .ended thread ∉ past → .ended thread ∉ past' →
    world.snapshot? thread value = world'.snapshot? thread value
  /-- Ledgers count the same, whichever detector a value was made of. -/
  ledgers : ∀ value watched watched' id id' detector detector',
    .made value watched (some id) ∈ past → .made value watched' (some id') ∈ past' →
      world.detectors.get? id = some detector → world'.detectors.get? id' = some detector' →
        detector.ledger.races value = detector'.ledger.races value

/-- Two runs with the same occurrences, in which nobody disturbed the contexts, have the same
records, whatever else they differ in; so do two scenarios. -/
theorem same_records_of_same_occurrences :
    (∀ (past past' : History) (scene : Scene α) (scene' : Scene β), Run past scene →
      Run past' scene' → past.Undisturbed → past'.Undisturbed →
        past.occurrences = past'.occurrences →
          SameRecords past past' scene.world scene'.world) ∧
    (∀ (steps : List (Step α)) (steps' : List (Step β)), (World.empty.tells steps).Undisturbed →
      (World.empty.tells steps').Undisturbed →
        (World.empty.tells steps).occurrences = (World.empty.tells steps').occurrences →
          SameRecords (World.empty.tells steps) (World.empty.tells steps')
            (World.empty.after steps) (World.empty.after steps')) := by
  have runs : ∀ (past past' : History) (scene : Scene α) (scene' : Scene β), Run past scene →
      Run past' scene' → past.Undisturbed → past'.Undisturbed →
        past.occurrences = past'.occurrences →
          SameRecords past past' scene.world scene'.world := by
    intro past past' scene scene' run run' undisturbed undisturbed' same
    have replayed := replayed_of_run run undisturbed
    have replayed' := replayed_of_run run' undisturbed'
    have marks : past.marks = past'.marks := by
      rw [replayed.marks, replayed'.marks, same]
    refine ⟨marks, ?_, ?_, ?_, ?_⟩
    · intro value cell cell' found found'
      have clock := (replayed.standings value _ (standing?_of_get? _ found)).1
      have clock' := (replayed'.standings value _ (standing?_of_get? _ found')).1
      rw [same] at clock
      exact clock.trans clock'.symm
    · intro value cell cell' found found'
      have racing := (replayed.standings value _ (standing?_of_get? _ found)).2
      have racing' := (replayed'.standings value _ (standing?_of_get? _ found')).2
      rw [same] at racing
      exact racing.trans racing'.symm
    · intro thread value alive alive'
      rw [replayed.snapshots thread value alive, replayed'.snapshots thread value alive', same]
    · intro value watched watched' id id' detector detector' made made' found found'
      have counted := (booked_of_run run).races_eq_flags found
        (History.mem_madeOf_iff.2 ⟨watched, made⟩)
      have counted' := (booked_of_run run').races_eq_flags found'
        (History.mem_madeOf_iff.2 ⟨watched', made'⟩)
      rw [counted, counted', History.flags, History.flags, History.flagged_eq_marks,
        History.flagged_eq_marks, marks]
  refine ⟨runs, fun steps steps' undisturbed undisturbed' same => ?_⟩
  exact runs _ _ _ _ (run_of_steps steps) (run_of_steps steps') undisturbed undisturbed' same

/-- Two scenarios that differ in contents, operations, routes, contexts, panics and detectors flag
the same access. -/
theorem same_records_of_other_operations :
    ∃ (steps : List (Step Nat)) (steps' : List (Step Bool)),
      (World.empty.tells steps).marks = [(.access ⟨1⟩ ⟨0⟩ .read, true),
        (.access ⟨0⟩ ⟨0⟩ .write, false), (.entry ⟨1⟩ ⟨0⟩, false),
        (.access ⟨0⟩ ⟨0⟩ .write, false)] ∧
      SameRecords (World.empty.tells steps) (World.empty.tells steps')
        (World.empty.after steps) (World.empty.after steps') := by
  refine ⟨[.spawn none false, .spawn none false, .newDetector none, .newValue 7 (some ⟨0⟩) none,
      .act ⟨0⟩ (.write ⟨0⟩ 8), .act ⟨1⟩ (.synchronized ⟨0⟩ .method []),
      .act ⟨0⟩ (.replace ⟨0⟩ 9), .act ⟨1⟩ (.read ⟨0⟩)],
    [.spawn none true, .spawn (some "reader") true, .newDetector none, .newDetector none,
      .newValue true (some ⟨1⟩) (some "flag"),
      .act ⟨0⟩ (.update ⟨0⟩ (some [.write ⟨0⟩ false]) fun old => (old, none)), .drain ⟨1⟩,
      .enter ⟨1⟩ ⟨0⟩, .leave ⟨1⟩, .act ⟨0⟩ (.update ⟨0⟩ none fun _ => (false, some "given up")),
      .act ⟨1⟩ (.readWith ⟨0⟩ (some [.raise "given up"]) fun _ => 0)], by decide +kernel, ?_⟩
  exact same_records_of_same_occurrences.2 _ _ (by decide +kernel) (by decide +kernel)
    (by decide +kernel)

end RaceSentry
