import RaceSentry.Proofs.Course
import RaceSentry.Proofs.Records

/-!
# Detection that is off, and detection that is not noticed

A value that is made while detection is off is never recorded: its clock table stays blank, nobody
races on it, its account stays at zero, and sections on it leave blank snapshots. And whether
detection is on or off is not noticed by a program that does not ask.
Main statement: `detection_transparent`.
-/

namespace RaceSentry

open World

variable {α : Type} {past later : History} {value : ValueId}

/-- What a thread has seen of a value after a turn it had seen before, adopted with a section entry,
recorded with an access of its own, or put there by hand. -/
theorem World.Turn.snapshot?_cases {world next : World α} {happenings : List Happening}
    (turn : Turn world happenings next) (numbered : Numbered world) {thread : ThreadId}
    {table : ClockTable} (held : next.snapshot? thread value = some table) :
    world.snapshot? thread value = some table ∨ .entered thread value table ∈ happenings ∨
      (∃ kind sighting, .accessed thread value kind sighting ∈ happenings) ∨
      ∃ context, .edited thread context ∈ happenings := by
  induction turn with
  | quiet kept => exact .inl ((kept.snapshots thread value).symm.trans held)
  | stalled running found on => exact .inl held
  | @clean world other target kind cell running found on nothing =>
    rw [tallyAccess, snapshot?_copyCounter] at held
    split at held
    · rename_i own
      obtain ⟨rfl, rfl⟩ := own
      exact .inr (.inr (.inl ⟨kind, none, List.mem_singleton_self _⟩))
    · exact .inl held
  | @flagged world other target kind cell running found on something =>
    rw [snapshot?_flag, tallyAccess, snapshot?_copyCounter] at held
    split at held
    · rename_i own
      obtain ⟨rfl, rfl⟩ := own
      exact .inr (.inr (.inl ⟨kind, _, List.mem_singleton_self _⟩))
    · exact .inl held
  | entered running found =>
    rw [snapshot?_adoptClock] at held
    split at held
    · rename_i own
      obtain ⟨rfl, rfl⟩ := own
      cases held
      exact .inr (.inl (List.mem_singleton_self _))
    · exact .inl held
  | edited running known =>
    rw [snapshot?_bindContext] at held
    split at held
    · rename_i own
      rw [own]
      exact .inr (.inr (.inr ⟨_, List.mem_singleton_self _⟩))
    · exact .inl held
  | started name attach =>
    rw [snapshot?_spawn numbered] at held
    exact .inl held
  | ended running =>
    rw [snapshot?_erase] at held
    split at held
    · cases held
    · exact .inl held
  | equipped blank => exact .inl held
  | adjusted found same => exact .inl held
  | made known =>
    rw [snapshot?_addCell] at held
    exact .inl held
  | removed present => exact .inl held
  | after kept turn ih =>
    rw [← kept.snapshots]
    exact ih (kept.numbered numbered) held
  | upTo turn kept ih => exact ih numbered ((kept.snapshots thread value).symm.trans held)

/-- A section entry leaves the table that it tells of with its thread. -/
theorem World.Turn.snapshot?_of_entered {world next : World α} {happenings : List Happening}
    (turn : Turn world happenings next) {thread : ThreadId} {clock : ClockTable}
    (told : .entered thread value clock ∈ happenings) :
    next.snapshot? thread value = some clock := by
  induction turn with
  | entered running found =>
    cases List.mem_singleton.1 told
    rw [snapshot?_adoptClock, if_pos ⟨rfl, rfl⟩]
  | after kept turn ih => exact ih told
  | upTo turn kept ih => exact (kept.snapshots thread value).trans (ih told)
  | quiet kept => cases told
  | started name attach => cases told
  | equipped blank => cases told
  | adjusted found same => cases told
  | _ => cases List.mem_singleton.1 told

/-- Nothing was recorded of a value since it was made: its detection is off. -/
structure Off (later : History) (world : World α) (value : ValueId) : Prop where
  /-- No access was told of. -/
  unaccessed : ∀ happening ∈ later, ∀ thread kind,
    happening.access? ≠ some (thread, value, kind)
  /-- While the value exists it is not watched, its clock table is blank, and nobody races. -/
  blank : ∀ standing, world.standing? value = some standing →
    standing.detecting = false ∧ standing.clock = ∅ ∧ standing.racing = ∅
  /-- Snapshots that nobody edited by hand are blank. -/
  snapshots : (∀ thread context, .edited thread context ∉ later) → ∀ thread table,
    world.snapshot? thread value = some table → table = ∅

namespace Off

variable {world next : World α} {happenings : List Happening}

/-- No turn records anything of a value whose detection is off. -/
theorem turn (off : Off later world value) (old : value.index < world.made)
    (numbered : Numbered world) (turn : Turn world happenings next) :
    Off (happenings ++ later) next value := by
  have unaccessed : ∀ happening ∈ happenings, ∀ thread kind,
      happening.access? ≠ some (thread, value, kind) := by
    intro happening told thread kind about
    obtain ⟨standing, stands, on⟩ := turn.watched told about
    exact Bool.false_ne_true ((off.blank standing stands).1.symm.trans on)
  refine ⟨fun happening member => ?_, fun standing stands => ?_,
    fun unedited thread table held => ?_⟩
  · cases List.mem_append.1 member with
    | inl told => exact unaccessed happening told
    | inr before => exact off.unaccessed happening before
  · rw [turn.standing? numbered] at stands
    rcases turn.eq_nil_or_singleton with rfl | ⟨happening, rfl⟩
    · exact off.blank standing stands
    · have fits := turn.fits happening (List.mem_singleton_self _)
      have other : ∀ detecting sink, happening ≠ .made value detecting sink := by
        rintro detecting sink rfl
        exact Nat.ne_of_lt old fits
      -- All that is left are things that do nothing but to snapshots.
      obtain ⟨before, stood, detecting, clock, racing⟩ :=
        Happening.bear_aside (unaccessed happening (List.mem_singleton_self _)) other stands
      rw [detecting, clock, racing]
      exact off.blank before stood
  · have before : ∀ thread context, .edited thread context ∉ later := fun thread context member =>
      unedited thread context (List.mem_append_right _ member)
    rcases turn.snapshot?_cases numbered held with same | entered | ⟨kind, sighting, accessed⟩ |
      ⟨context, edited⟩
    · exact off.snapshots before thread table same
    · obtain ⟨_, standing, stands, clock⟩ := turn.fits _ entered
      exact clock.symm.trans (off.blank standing stands).2.1
    · exact absurd rfl (unaccessed _ accessed thread kind)
    · exact absurd (List.mem_append_left _ edited) (unedited thread context)

/-- Nothing is ever recorded of a value whose detection is off. -/
theorem path {start scene : Scene α} (path : Path start later scene)
    (numbered : Numbered start.world) (old : value.index < start.world.made)
    (off : Off [] start.world value) : Off later scene.world value := by
  suffices whole : value.index < scene.world.made ∧ Off later scene.world value from whole.2
  induction path with
  | refl => exact ⟨old, off⟩
  | tail path performed ih =>
    have turn := Scene.turn_of_perform? (path.numbered numbered) performed
    exact ⟨Nat.lt_of_lt_of_le ih.1 turn.made_le,
      ih.2.turn ih.1 (path.numbered numbered) turn⟩

/-- A value that is made with its detection off has nothing recorded of it. -/
theorem made (turn : Turn world happenings next) (numbered : Numbered world)
    {sink : Option DetectorId} (told : .made value false sink ∈ happenings) :
    Off [] next value := by
  have fits := turn.fits _ told
  have new : ¬ value.index < world.made := Nat.not_lt.2 (Nat.le_of_eq fits.symm)
  rcases turn.eq_nil_or_singleton with rfl | ⟨happening, rfl⟩
  · cases told
  · cases List.mem_singleton.1 told
    refine ⟨nofun, fun standing stands => ?_, fun _ thread table held => ?_⟩
    · rw [turn.standing? numbered] at stands
      change Happening.bear value (.made value false sink) _ = some standing at stands
      rw [Happening.bear, if_pos rfl] at stands
      cases stands
      exact ⟨rfl, rfl, rfl⟩
    · rcases turn.snapshot?_cases numbered held with same | entered | ⟨kind, sighting, accessed⟩ |
        ⟨context, edited⟩
      · have seen : (world.snapshot? thread value).isSome := by
          rw [same]
          rfl
        exact absurd (numbered.snapshots thread value seen) new
      · cases List.mem_singleton.1 entered
      · cases List.mem_singleton.1 accessed
      · cases List.mem_singleton.1 edited

end Off

/-- Nothing is recorded of a value that was made while detection was off, which was followed by
what is told. -/
structure Unrecorded (later : History) (scene : Scene α) (value : ValueId) : Prop where
  /-- The clock table is blank. -/
  clock : scene.world.clockOf value = ∅
  /-- No thread races on it. -/
  racing : scene.world.racing value = ∅
  /-- No detector has counted a race on it, also if the value is gone. -/
  ledgers : ∀ id detector, scene.world.detectors.get? id = some detector →
    detector.ledger.races value = 0
  /-- A section that is entered on it leaves a blank snapshot. -/
  sections : ∀ move next told thread clock, scene.perform? move = some (next, told) →
    .entered thread value clock ∈ told → next.world.snapshot? thread value = some ∅
  /-- All snapshots of it are blank, unless somebody edits a context by hand. -/
  snapshots : (∀ thread context, .edited thread context ∉ later) → ∀ thread table,
    scene.world.snapshot? thread value = some table → table = ∅

section Made

variable {scene next last : Scene α} {told : History} {sink : Option DetectorId}

/-- Nothing is told of accesses to a value that is only made later, or is not watched. -/
theorem flags_eq_zero (dated : past.Dated scene.world)
    (new : ¬ value.index < scene.world.made) (off : Off later last.world value) :
    History.flags (later ++ [.made value false sink] ++ past) value = 0 := by
  refine List.length_eq_zero_iff.2 (List.eq_nil_iff_forall_not_mem.2 fun thread member => ?_)
  obtain ⟨kind, sighting, accessed⟩ := History.mem_flagged_iff.1 member
  rcases List.mem_append.1 accessed with recent | before
  · cases List.mem_append.1 recent with
    | inl told => exact off.unaccessed _ told thread kind rfl
    | inr made => cases List.mem_singleton.1 made
  · exact new (dated.values _ before value rfl)

/-- A value that is made while detection is off stays without records for ever. -/
theorem unrecorded_of_made (run : Run past scene) {move : Move α}
    (performed : scene.perform? move = some (next, [.made value false sink]))
    (path : Path next later last) : Unrecorded later last value := by
  have numbered := numbered_of_run run
  have turn := Scene.turn_of_perform? numbered performed
  have made : Happening.made value false sink ∈ [Happening.made value false sink] :=
    List.mem_singleton_self _
  have fits : value.index = scene.world.made := turn.fits _ made
  have off : Off later last.world value :=
    Off.path path (turn.numbered numbered) (turn.index_lt_of_made made) (.made turn numbered made)
  have whole : Run (later ++ [.made value false sink] ++ past) last := by
    rw [List.append_assoc]
    exact Path.trans (run.tail performed) path
  have cells : ∀ cell, last.world.cells.get? value = some cell →
      cell.clock = ∅ ∧ cell.racing = ∅ := fun cell found =>
    (off.blank _ (standing?_of_get? _ found)).2
  refine ⟨?_, ?_, fun id detector found => ?_, ?_, off.snapshots⟩
  · unfold World.clockOf
    cases found : last.world.cells.get? value with
    | none => rfl
    | some cell => exact (cells cell found).1
  · unfold World.racing
    cases found : last.world.cells.get? value with
    | none => rfl
    | some cell => exact (cells cell found).2
  · have unflagged : History.flags (later ++ [.made value false sink] ++ past) value = 0 :=
      flags_eq_zero (dated_of_run run) (by omega) off
    have booked := booked_of_run whole
    by_cases member : value ∈ History.madeOf (later ++ [.made value false sink] ++ past) id
    · rw [booked.races_eq_flags found member, unflagged]
    · have unopened : SortedMap.get? detector.ledger value = none :=
        Option.not_isSome_iff_eq_none.1 fun opened =>
          member ((booked.contains_ledger_iff found value).1 opened)
      rw [Ledger.races, unopened]
  · intro move after told thread clock moved entered
    have turn := Scene.turn_of_perform? (numbered_of_run whole) moved
    obtain ⟨_, standing, stands, same⟩ := turn.fits _ entered
    rw [turn.snapshot?_of_entered entered, ← same, (off.blank standing stands).2.1]

/-- A detector that is in use and whose detection is off makes values that are not watched. -/
theorem made_while_off (run : Run past scene) {id : DetectorId} {detector : Detector}
    (found : scene.world.detectors.get? id = some detector) (inUse : detector.inUse = true)
    (disabled : detector.config.raceDetection.enabled = false) (payload : α)
    (label : Option String) :
    ∃ next, scene.perform? (.step (.newValue payload (some id) label)) =
      some (next, [.made ⟨scene.world.made⟩ false (some id)]) := by
  have absent := get?_made_of_numbered (numbered_of_run run)
  have made : scene.world.step (.newValue payload (some id) label) =
      (scene.world.setDetector id (detector.register ⟨scene.world.made⟩ label)).addCell
        (.new payload label false (some id)) := by
    simp only [World.step, World.newValue, ifInUse, found, inUse, ↓reduceIte, disabled]
  have stored : (scene.world.step (.newValue payload (some id) label)).1.cells.get?
      ⟨scene.world.made⟩ = some (.new payload label false (some id)) := by
    rw [made]
    exact SortedMap.get?_insert_self _ _ _
  have happened : (Step.newValue payload (some id) label).happenings scene.world
      (scene.world.step (.newValue payload (some id) label)).1 =
        [.made ⟨scene.world.made⟩ false (some id)] := by
    simp only [Step.happenings, absent, stored]
    rfl
  rw [← happened]
  exact ⟨_, Scene.perform?_step rfl rfl⟩

end Made

/-- Detection is not noticed: whatever detectors there are and however they are configured, a
program that makes no access from inside of work on a context, and asks detection nothing, learns
the same, with the same locks held and the same contents everywhere. And what detection is off for
is never recorded. -/
theorem detection_transparent (program : Program α) (setting setting' : Setting α) (turns : Nat)
    (considerate : ∀ turn < turns, (program (program.pursue setting turn).learnt).considerate
      (program.pursue setting turn).scene.world = true) :
    (program.pursue setting turns).Parallel (program.pursue setting' turns) ∧
      (∃ past, Run past (program.pursue setting turns).scene) ∧
      ∀ (past : History) (scene : Scene α) (id : DetectorId) (detector : Detector) (payload : α)
        (label : Option String), Run past scene →
        scene.world.detectors.get? id = some detector → detector.inUse = true →
        detector.config.raceDetection.enabled = false →
          ∃ next, scene.perform? (.step (.newValue payload (some id) label)) =
              some (next, [.made ⟨scene.world.made⟩ false (some id)]) ∧
            ∀ later last, Path next later last → Unrecorded later last ⟨scene.world.made⟩ := by
  refine ⟨program.parallel_pursue setting setting' considerate, program.run_pursue setting turns,
    fun past scene id detector payload label run found inUse disabled => ?_⟩
  obtain ⟨next, performed⟩ := made_while_off run found inUse disabled payload label
  exact ⟨next, performed, fun later last path => unrecorded_of_made run performed path⟩

/-- A setting with one detector, which all values are of, and whose reports are taken once. -/
def Setting.single (config : Option String) (taken : Nat) : Setting α where
  errands := fun turn =>
    if turn = 0 then [.newDetector config] else if turn = taken then [.drain ⟨0⟩] else []
  sink := fun _ => some ⟨0⟩
  quiet := fun turn step among => by
    split at among
    · cases List.mem_singleton.1 among
      rfl
    · split at among
      · cases List.mem_singleton.1 among
        rfl
      · cases among

/-- The same, with a detector that is told not to detect. -/
def Setting.disabled (taken : Nat) : Setting α :=
  .single (some "[race_detection]\nenabled = false") taken

/-- A program in which two threads race on a value. One of them also uses it from inside of its own
closure, finds it locked later on, and gives up inside of a section. -/
def racingProgram (learnt : List (Notice Nat)) : Deed Nat :=
  List.getD
    [.move (.step (.spawn none false)), .move (.step (.spawn none false)),
      .move (.step (.newValue 7 none none)), .move (.access ⟨0⟩ ⟨0⟩ .write),
      .act ⟨0⟩ (.attempt [.read ⟨0⟩]), .move (.finish ⟨0⟩ Nat.succ),
      .move (.access ⟨1⟩ ⟨0⟩ .write), .act ⟨0⟩ (.read ⟨0⟩), .move (.finish ⟨1⟩ Nat.succ),
      .act ⟨0⟩ (.attempt [.synchronized ⟨0⟩ .method
        [.update ⟨0⟩ none fun content => (content + 1, some "enough")]])]
    learnt.length (.act ⟨0⟩ (.read ⟨0⟩))

/-- With detection on one race is counted, with detection off none, and the program takes the same
course. Two threads that write to a value while detection is off leave no record of it, and a
section that is entered then a blank snapshot. -/
theorem detection_transparent_of_racing :
    (Program.pursue racingProgram (.single none 9) 11).Parallel
        (Program.pursue racingProgram (.disabled 20) 11) ∧
      ((Program.pursue racingProgram (.single none 9) 11).scene.world.ledger? ⟨0⟩).map
        Ledger.total = some 1 ∧
      ((Program.pursue racingProgram (.disabled 20) 11).scene.world.ledger? ⟨0⟩).map
        Ledger.total = some 0 ∧
      ∃ (past : History) (next last : Scene Nat),
        Run (.made ⟨0⟩ false (some ⟨0⟩) :: past) next ∧ Path next [.entered ⟨1⟩ ⟨0⟩ ∅] last ∧
          Unrecorded [.entered ⟨1⟩ ⟨0⟩ ∅] last ⟨0⟩ := by
  have considerate : ∀ turn < 11,
      (racingProgram (Program.pursue racingProgram (.single none 9) turn).learnt).considerate
        (Program.pursue racingProgram (.single none 9) turn).scene.world = true := by
    decide +kernel
  obtain ⟨transparent, -, unrecorded⟩ :=
    detection_transparent racingProgram (.single none 9) (.disabled 20) 11 considerate
  refine ⟨transparent, by decide +kernel, by decide +kernel, ?_⟩
  -- After two turns there are the detector and both threads, and no value yet.
  obtain ⟨past, run⟩ := Program.run_pursue racingProgram (.disabled 20) 2
  have equipped : ((Program.pursue racingProgram (.disabled 20) 2).scene.world.detectors.get?
      ⟨0⟩).any (fun detector => detector.inUse && !detector.config.raceDetection.enabled) =
        true := by
    decide +kernel
  obtain ⟨detector, found, off⟩ := (Option.any_eq_true _ _).1 equipped
  simp only [Bool.and_eq_true, Bool.not_eq_eq_eq_not, Bool.not_true] at off
  obtain ⟨next, performed, always⟩ :=
    unrecorded past _ ⟨0⟩ detector 7 none run found off.1 off.2
  have first : (Program.pursue racingProgram (.disabled 20) 2).scene.world.made = 0 := by
    decide +kernel
  rw [first] at performed always
  have moved : (Program.pursue racingProgram (.disabled 20) 2).scene.moved
      (.step (.newValue 7 (some ⟨0⟩) none)) = next := by
    rw [Scene.moved, performed]
    rfl
  -- Both threads write to the value, and one of them enters a section on it.
  have told : (((Program.pursue racingProgram (.disabled 20) 2).scene.moved
      (.step (.newValue 7 (some ⟨0⟩) none))).playOut? []
        [.access ⟨0⟩ ⟨0⟩ .write, .finish ⟨0⟩ Nat.succ, .access ⟨1⟩ ⟨0⟩ .write,
          .finish ⟨1⟩ Nat.succ, .enter ⟨1⟩ ⟨0⟩]).map Prod.snd = some [.entered ⟨1⟩ ⟨0⟩ ∅] := by
    decide +kernel
  rw [moved] at told
  obtain ⟨⟨last, _⟩, played, rfl⟩ := Option.map_eq_some_iff.1 told
  have path := Path.refl.playOut? _ played
  exact ⟨past, next, last, run.tail performed, path, always _ last path⟩

end RaceSentry
