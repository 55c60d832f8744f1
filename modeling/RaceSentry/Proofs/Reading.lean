import RaceSentry.Proofs.Records
import RaceSentry.Proofs.Sweep

/-!
# Calls that read a ledger while others move

The total of a detector and the listing of its accounts are made without any lock over the whole
ledger. A call takes one account after another, while other threads go on and have races recorded
and values made. What one move does to a ledger is said once: accounts stay, and do not come to
count less. So a call is a sweep over a ledger that grows, and what it gives lies between what was
recorded when it began and when it ended. Main statement: `reads_are_sound`.
-/

namespace RaceSentry

open World Ledger

variable {α : Type} {id : DetectorId}

namespace World

/-- The ledger of a detector stays, and grows. -/
def KeepsLedger (id : DetectorId) (before after : World α) : Prop :=
  ∀ ledger, before.ledger? id = some ledger →
    ∃ ledger', after.ledger? id = some ledger' ∧ ledger.Grows ledger'

namespace KeepsLedger

variable {before between after : World α}

/-- A ledger that is not touched stays, and grows by nothing. -/
theorem of_same (same : after.ledger? id = before.ledger? id) : KeepsLedger id before after :=
  fun ledger stored => ⟨ledger, same.trans stored, .refl ledger⟩

/-- A ledger that stays twice stays. -/
theorem trans (first : KeepsLedger id before between) (second : KeepsLedger id between after) :
    KeepsLedger id before after := by
  intro ledger stored
  obtain ⟨ledger', stored', grows⟩ := first ledger stored
  obtain ⟨ledger'', stored'', grows'⟩ := second ledger' stored'
  exact ⟨ledger'', stored'', grows.trans grows'⟩

/-- A flagged access is counted in one account. -/
theorem of_denounces {sighting : Sighting} (denounces : Denounces before after sighting) :
    KeepsLedger id before after := by
  intro ledger stored
  rw [denounces.ledgers, stored]
  split
  · exact ⟨_, rfl, .count ledger _ _⟩
  · exact ⟨ledger, rfl, .refl ledger⟩

end KeepsLedger

end World

namespace Booked

variable {past : History} {world next : World α}

/-- An account is of a value that was made of the detector, and counts the flagged accesses. -/
theorem account (booked : Booked past world) {ledger : Ledger}
    (stored : world.ledger? id = some ledger) {value : ValueId} {entry : LedgerEntry}
    (found : SortedMap.get? ledger value = some entry) :
    value ∈ past.madeOf id ∧ entry.races = past.flags value := by
  have account := booked.ledgers id ledger stored value
  rw [found, Option.map_some] at account
  split at account
  · rename_i made
    exact ⟨made, Option.some.inj account⟩
  · cases account

/-- The value that is made next has no account. -/
theorem no_account (booked : Booked past world) (dated : past.Dated world) {ledger : Ledger}
    (stored : world.ledger? id = some ledger) :
    SortedMap.get? ledger (⟨world.made⟩ : ValueId) = none := by
  cases found : SortedMap.get? ledger (⟨world.made⟩ : ValueId) with
  | none => rfl
  | some entry =>
    obtain ⟨detecting, made⟩ := History.mem_madeOf_iff.1 (booked.account stored found).1
    exact absurd rfl (unknown_of_dated dated made)

/-- The value that is made next has its account opened. -/
theorem keepsLedger_made (booked : Booked past world) (dated : past.Dated world)
    (sink : Option DetectorId) (label : Option String) :
    KeepsLedger id world (world.openAccount sink label) := by
  intro ledger stored
  rw [ledger?_openAccount, stored]
  split
  · exact ⟨_, rfl, .register (booked.no_account dated stored) label⟩
  · exact ⟨ledger, rfl, .refl ledger⟩

/-- A detector that is made takes the place of no other. -/
theorem keepsLedger_equipped (booked : Booked past world) (detector : Detector) :
    KeepsLedger id world (world.setDetector ⟨world.detectors.size⟩ detector) := by
  intro ledger stored
  have known : world.detectors.contains id = true := by rw [← isSome_ledger?, stored]; rfl
  have elsewhere : id ≠ ⟨world.detectors.size⟩ := by
    rintro rfl
    exact Nat.lt_irrefl _ ((booked.numbered _).1 known)
  refine ⟨ledger, ?_, .refl ledger⟩
  rw [ledger?_setDetector, if_neg elsewhere, stored]

/-- Whatever a turn does, a ledger stays and grows. -/
theorem keepsLedger (booked : Booked past world) (dated : past.Dated world)
    {happenings : List Happening} (turn : Turn world happenings next) :
    KeepsLedger id world next := by
  induction turn with
  | quiet kept => exact .of_same (kept.silent.ledger? id)
  | stalled running found on => exact .of_same ((silent_countAccess _ found _).ledger? id)
  | clean running found on nothing => exact .of_same ((silent_tallyAccess _ found _).ledger? id)
  | flagged running found on something =>
    exact .of_denounces (.after (silent_tallyAccess _ found _)
      (denounces_flag _ (get?_tallyAccess _ _ _ _)))
  | entered running found => exact .of_same ((silent_adoptClock _ _ _ _).ledger? id)
  | edited running known => exact .of_same ((silent_bindContext _ _ _).ledger? id)
  | started name attach => exact .of_same ((silent_spawn _ name attach).ledger? id)
  | ended running => exact .of_same rfl
  | equipped blank => exact booked.keepsLedger_equipped _
  | adjusted found same => exact .of_same (ledger?_adjusted _ found same id)
  | made known => exact booked.keepsLedger_made dated _ _
  | removed present => exact .of_same rfl
  | after kept turn ih =>
    exact .trans (.of_same (kept.silent.ledger? id))
      (ih (booked.of_silent kept.silent kept.present) (dated.kept kept))
  | upTo turn kept ih => exact (ih booked dated).trans (.of_same (kept.silent.ledger? id))

end Booked

variable {past later : History} {start scene next : Scene α}

/-- Whatever a move does, a ledger stays and grows. -/
theorem keepsLedger_of_perform? (run : Run past scene) {move : Move α}
    {happenings : List Happening} (performed : scene.perform? move = some (next, happenings)) :
    KeepsLedger id scene.world next.world :=
  (booked_of_run run).keepsLedger (dated_of_run run)
    (Scene.turn_of_perform? (numbered_of_run run) performed)

/-- Whatever happens, a ledger stays and grows. -/
theorem keepsLedger_of_path (run : Run past start) (path : Path start later scene) :
    KeepsLedger id start.world scene.world := by
  induction path with
  | refl => exact .of_same rfl
  | tail path performed ih =>
    exact ih.trans (keepsLedger_of_perform? (run.trans path) performed)

/-- A call that reads the ledger of a detector: what it has taken so far, latest first, what
happened since it began, and where things stand. -/
inductive Reading (id : DetectorId) (start : Scene α) :
    List Account → History → Scene α → Prop where
  /-- The call begins. -/
  | begin : Reading id start [] [] start
  /-- It takes one more account, as it is at that moment. -/
  | visit {seen : List Account} {later : History} {scene : Scene α} {ledger : Ledger}
      {entry : LedgerEntry} (reading : Reading id start seen later scene) (value : ValueId)
      (stored : scene.world.ledger? id = some ledger)
      (found : SortedMap.get? ledger value = some entry) (new : value ∉ seen.map Prod.fst) :
      Reading id start ((value, entry) :: seen) later scene
  /-- Somebody moves. -/
  | move {seen : List Account} {later happenings : History} {scene next : Scene α}
      (reading : Reading id start seen later scene) (move : Move α)
      (performed : scene.perform? move = some (next, happenings)) :
      Reading id start seen (happenings ++ later) next

/-- The number of races that are recorded with a detector: the flagged accesses to its values. -/
def History.recorded (past : History) (id : DetectorId) : Nat :=
  sumOver (past.madeOf id) past.flags

namespace Reading

variable {seen : List Account} {ledger : Ledger}

/-- A call that reads a ledger goes on along a path. -/
theorem path (reading : Reading id start seen later scene) : Path start later scene := by
  induction reading with
  | begin => exact .refl
  | visit reading value stored found new ih => exact ih
  | move reading move performed ih => exact ih.tail performed

/-- A call sweeps over a ledger that grows. -/
theorem sweep (run : Run past start) (stored : start.world.ledger? id = some ledger)
    (reading : Reading id start seen later scene) :
    ∃ now, scene.world.ledger? id = some now ∧ Sweep ledger seen now := by
  induction reading with
  | begin => exact ⟨ledger, stored, .begin⟩
  | visit reading value current found new ih =>
    obtain ⟨now, stored', sweep⟩ := ih
    rw [current] at stored'
    cases stored'
    exact ⟨_, current, sweep.take found new⟩
  | move reading move performed ih =>
    obtain ⟨now, stored', sweep⟩ := ih
    obtain ⟨grown, stored'', grows⟩ :=
      keepsLedger_of_perform? (run.trans reading.path) performed now stored'
    exact ⟨grown, stored'', sweep.wait grows⟩

/-- A call may go on until it took the accounts of given values. -/
theorem exists_visits {now : Ledger} (current : scene.world.ledger? id = some now)
    (values : List ValueId) (present : ∀ value ∈ values, SortedMap.contains now value = true)
    (reading : Reading id start seen later scene) :
    ∃ more, Reading id start (more ++ seen) later scene ∧
      ∀ value ∈ values, value ∈ (more ++ seen).map Prod.fst := by
  induction values with
  | nil => exact ⟨[], reading, nofun⟩
  | cons value rest ih =>
    obtain ⟨more, reading', taken⟩ := ih fun other member =>
      present other (List.mem_cons_of_mem _ member)
    by_cases old : value ∈ (more ++ seen).map Prod.fst
    · exact ⟨more, reading', List.forall_mem_cons.2 ⟨old, taken⟩⟩
    · obtain ⟨entry, found⟩ := (SortedMap.contains_iff _ _).1 (present value List.mem_cons_self)
      refine ⟨(value, entry) :: more, reading'.visit value current found old,
        List.forall_mem_cons.2 ⟨List.mem_cons_self, fun other member => ?_⟩⟩
      exact List.mem_cons_of_mem _ (taken other member)

/-- Whatever others did, a call may end without waiting for them. -/
theorem exists_covers (run : Run past start) (stored : start.world.ledger? id = some ledger)
    (reading : Reading id start seen later scene) :
    ∃ more, Reading id start (more ++ seen) later scene ∧ ledger.Covers (more ++ seen) := by
  obtain ⟨now, current, sweep⟩ := reading.sweep run stored
  have present : ∀ value ∈ SortedMap.keys ledger, SortedMap.contains now value = true := by
    intro value member
    obtain ⟨entry, found⟩ := (SortedMap.contains_iff _ _).1 ((SortedMap.mem_keys_iff _ _).1 member)
    obtain ⟨entry', found', -⟩ := sweep.grows value entry found
    exact (SortedMap.contains_iff _ _).2 ⟨entry', found'⟩
  obtain ⟨more, reading', taken⟩ := reading.exists_visits current _ present
  exact ⟨more, reading', fun value held => taken value ((SortedMap.mem_keys_iff _ _).2 held)⟩

end Reading

/-- The total of a ledger is the number of races that are recorded. -/
theorem total_eq_recorded (run : Run past scene) {ledger : Ledger}
    (stored : scene.world.ledger? id = some ledger) : ledger.total = past.recorded id := by
  obtain ⟨detector, found, rfl⟩ := Option.map_eq_some_iff.1 stored
  exact ((booked_of_run run).agreement (sightings_of_run run)).total id detector found

/-- What a call gives, in terms of what happened before and while it was made: the sum of what it
has taken, and the list of it in order of labels and of the places of values. -/
structure SoundRead (id : DetectorId) (place : ValueId → Nat) (past later : History)
    (seen : List Account) : Prop where
  /-- The sum is at least the number of races that were recorded when the call began. -/
  lower : past.recorded id ≤ tally seen
  /-- The sum is at most the number of races that were recorded when the call ended. -/
  upper : tally seen ≤ History.recorded (later ++ past) id
  /-- Every value that was made of the detector before is listed once. -/
  once : ∀ value ∈ past.madeOf id, ((stats place seen).map Prod.fst).count value = 1
  /-- No value is listed twice. -/
  nodup : ((stats place seen).map Prod.fst).Nodup
  /-- Values are listed that were made of the detector until the call ended. -/
  listed : ∀ account ∈ stats place seen, account.1 ∈ History.madeOf (later ++ past) id
  /-- No less is counted than when the call began. -/
  counted : ∀ account ∈ stats place seen, account.1 ∈ past.madeOf id →
    past.flags account.1 ≤ account.2.races
  /-- No more is counted than when the call ended. -/
  bounded : ∀ account ∈ stats place seen,
    account.2.races ≤ History.flags (later ++ past) account.1
  /-- The list is strictly in order. -/
  ordered : (stats place seen).Pairwise (Before place)

variable {seen : List Account} {ledger : Ledger}

/-- A call that took all accounts that were there in the beginning is sound. -/
theorem Reading.soundRead (reading : Reading id start seen later scene) (run : Run past start)
    (stored : start.world.ledger? id = some ledger) (covers : ledger.Covers seen)
    {place : ValueId → Nat} (injective : Function.Injective place) :
    SoundRead id place past later seen := by
  have run' := run.trans reading.path
  have before := booked_of_run run
  have after := booked_of_run run'
  obtain ⟨now, current, sweep⟩ := reading.sweep run stored
  have perm := stats_perm place seen
  have names : ((stats place seen).map Prod.fst).Nodup :=
    (perm.map Prod.fst).nodup_iff.2 sweep.names
  have opened : ∀ value ∈ past.madeOf id, ∃ entry, SortedMap.get? ledger value = some entry ∧
      entry.races = past.flags value := fun value made =>
    Option.map_eq_some_iff.1 ((before.ledgers id ledger stored value).trans (if_pos made))
  refine ⟨?_, ?_, fun value made => ?_, names, fun account member => ?_,
    fun account member made => ?_, fun account member => ?_, stats_pairwise injective sweep.names⟩
  · rw [← total_eq_recorded run stored]
    exact sweep.total_le_tally covers
  · rw [← total_eq_recorded run' current]
    exact sweep.tally_le_total
  · obtain ⟨entry, found, -⟩ := opened value made
    obtain ⟨entry', taken, -⟩ := sweep.exists_mem covers found
    exact List.count_eq_one_of_mem names (List.mem_map_of_mem (perm.mem_iff.2 taken))
  · obtain ⟨entry, found, -⟩ := sweep.after (perm.mem_iff.1 member)
    exact (after.account current found).1
  · obtain ⟨entry, found, counted⟩ := opened account.1 made
    rw [← counted]
    exact (sweep.before (perm.mem_iff.1 member) found).2
  · obtain ⟨entry, found, -, less⟩ := sweep.after (perm.mem_iff.1 member)
    rw [← (after.account current found).2]
    exact less

/-- However the accounts of a ledger are taken while others move, the call may end, and when it has
taken all accounts that were there in the beginning, what it gives is sound, it is at most what any
later call gives, and if the ledger is as it was, the order in which accounts were taken does not
matter. -/
theorem reads_are_sound (run : Run past start) (stored : start.world.ledger? id = some ledger) :
    (∀ seen later scene, Reading id start seen later scene →
      ∃ more, Reading id start (more ++ seen) later scene ∧ ledger.Covers (more ++ seen)) ∧
    ∀ seen later (scene : Scene α), Reading id start seen later scene → ledger.Covers seen →
      (∀ place, Function.Injective place → SoundRead id place past later seen) ∧
      (∀ between start' seen' later' scene' ledger', Path scene between start' →
        Reading id start' seen' later' scene' → start'.world.ledger? id = some ledger' →
          ledger'.Covers seen' → tally seen ≤ tally seen') ∧
      (scene.world.ledger? id = some ledger →
        tally seen = ledger.total ∧ stats ValueId.index seen = ledger.listing ∧
        ∀ place, Function.Injective place →
          stats place seen = stats place (SortedMap.entries ledger)) := by
  refine ⟨fun seen later scene reading => reading.exists_covers run stored,
    fun seen later scene reading covers => ⟨fun place injective =>
      reading.soundRead run stored covers injective, ?_, fun quiet => ?_⟩⟩
  · intro between start' seen' later' scene' ledger' path reading' stored' covers'
    have run' := run.trans reading.path
    obtain ⟨now, current, sweep⟩ := reading.sweep run stored
    obtain ⟨grown, found, grows⟩ := keepsLedger_of_path run' path now current
    rw [stored'] at found
    cases found
    obtain ⟨_, -, sweep'⟩ := reading'.sweep (run'.trans path) stored'
    calc tally seen
      _ ≤ now.total := sweep.tally_le_total
      _ ≤ ledger'.total := grows.total_le_total
      _ ≤ tally seen' := sweep'.total_le_tally covers'
  · obtain ⟨now, current, sweep⟩ := reading.sweep run stored
    rw [quiet] at current
    cases current
    have perm := sweep.perm_entries covers
    have same (place : ValueId → Nat) (injective : Function.Injective place) :
        stats place seen = stats place (SortedMap.entries ledger) :=
      stats_eq_of_perm injective (names_entries ledger) perm
    refine ⟨Nat.le_antisymm sweep.tally_le_total (sweep.total_le_tally covers), ?_, same⟩
    rw [listing_eq_stats]
    exact same _ Ranked.rank_injective

/-- A detector has two values, and an access to one of them was flagged. -/
def racedMoves : List (Move Nat) :=
  [.step (.spawn none false), .step (.spawn none false), .step (.newDetector none),
    .step (.newValue 7 (some ⟨0⟩) (some "seats")), .step (.newValue 8 (some ⟨0⟩) none),
    .access ⟨0⟩ ⟨0⟩ .write, .finish ⟨0⟩ Nat.succ, .access ⟨1⟩ ⟨0⟩ .write, .finish ⟨1⟩ Nat.succ]

/-- After the account of the first value was taken, one more access to it is flagged and a third
value is made, whose account is taken too. The race that was recorded too late is not in the sum. -/
theorem late_race_not_summed :
    ∃ (past later : History) (start scene : Scene Nat) (seen : List Account),
      Run past start ∧ Reading ⟨0⟩ start seen later scene ∧
      SoundRead ⟨0⟩ ValueId.index past later seen ∧
      seen = [(⟨1⟩, ⟨none, 0⟩), (⟨2⟩, ⟨none, 0⟩), (⟨0⟩, ⟨some "seats", 1⟩)] ∧
      tally seen = 1 ∧ past.recorded ⟨0⟩ = 1 ∧ History.recorded (later ++ past) ⟨0⟩ = 2 := by
  have run : Run _ _ := Path.refl.playOut? racedMoves rfl
  obtain ⟨-, sound⟩ := @reads_are_sound _ ⟨0⟩ _ _ _ run rfl
  have begun {past : History} {start : Scene Nat} (_ : Run past start) :
      Reading ⟨0⟩ start [] [] start := .begin
  have first : Reading ⟨0⟩ _ _ _ _ := (begun run).visit ⟨0⟩ rfl rfl (by decide)
  have raced : Reading ⟨0⟩ _ _ _ _ := first.move (.access ⟨0⟩ ⟨0⟩ .write) rfl
  have made : Reading ⟨0⟩ _ _ _ _ := raced.move (.step (.newValue 9 (some ⟨0⟩) none)) rfl
  have second : Reading ⟨0⟩ _ _ _ _ := made.visit ⟨2⟩ rfl rfl (by decide)
  have third : Reading ⟨0⟩ _ _ _ _ := second.visit ⟨1⟩ rfl rfl (by decide)
  have taken : ([⟨0⟩, ⟨1⟩] : List ValueId) ⊆ [⟨1⟩, ⟨2⟩, ⟨0⟩] := by decide
  have given := (sound _ _ _ third fun value held => taken ((SortedMap.mem_keys_iff _ _).2 held)).1
  exact ⟨_, _, _, _, _, run, third, given _ Ranked.rank_injective, rfl, rfl, rfl, rfl⟩

end RaceSentry
