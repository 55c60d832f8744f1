import RaceSentry.Proofs.Records

/-!
# Values on which nothing is flagged

The racing threads of a value, its accounts, and the reports about it are a matter of flagged
accesses to this very value. While there are none, and the value exists, nothing is added to any of
them, whatever is done to other values, threads and detectors.
Main statement: `unraced_of_perform?`.
-/

namespace RaceSentry

open World

variable {α : Type}

namespace World

variable (world : World α)

/-- The reports that wait in the channel of a detector. -/
def waiting (id : DetectorId) : List Sighting :=
  ((world.channel? id).map Channel.queue).getD []

/-- What the journal tells of flagged accesses to a value, latest first. -/
def toldOf (value : ValueId) : List Sighting :=
  (world.alarms.filterMap Event.sighting?).filter fun sighting => sighting.value = value

/-- No more reports wait than before. -/
def Dwindles (world next : World α) : Prop :=
  ∀ id, ∀ sighting ∈ next.waiting id, sighting ∈ world.waiting id

end World

/-- No access to a value was flagged. -/
def History.Unflagged (past : History) (value : ValueId) : Prop :=
  ∀ thread kind sighting, .accessed thread value kind (some sighting) ∉ past

/-- While something was told, no access to a value was flagged, and nothing was written down about
it. -/
structure Unraced (value : ValueId) (world : World α) (told : History) (next : World α) :
    Prop where
  /-- No access was flagged. -/
  unflagged : told.Unflagged value
  /-- The same threads race. -/
  racing : next.racing value = world.racing value
  /-- Every ledger counts the same. -/
  counts : ∀ id races, (world.ledger? id).map (fun ledger => ledger.races value) = some races →
    (next.ledger? id).map (fun ledger => ledger.races value) = some races
  /-- The journal tells the same. -/
  told : next.toldOf value = world.toldOf value
  /-- No reports were sent. -/
  waiting : ∀ id, ∀ sighting ∈ next.waiting id, sighting.value = value →
    sighting ∈ world.waiting id

namespace Unraced

variable {value : ValueId} {world between next : World α} {told later : History}

/-- While nothing was told, nothing was flagged. -/
theorem refl (value : ValueId) (world : World α) : Unraced value world [] world :=
  ⟨nofun, rfl, fun _ _ same => same, rfl, fun _ _ waits _ => waits⟩

/-- What was unraced twice is unraced. -/
theorem trans (first : Unraced value world told between)
    (second : Unraced value between later next) : Unraced value world (later ++ told) next where
  unflagged := fun thread kind sighting member =>
    (List.mem_append.1 member).elim (second.unflagged thread kind sighting)
      (first.unflagged thread kind sighting)
  racing := second.racing.trans first.racing
  counts := fun id races counted => second.counts id races (first.counts id races counted)
  told := second.told.trans first.told
  waiting := fun id sighting waits about =>
    first.waiting id sighting (second.waiting id sighting waits about) about

end Unraced

namespace World

variable {world next : World α} {happenings : List Happening} {value : ValueId}

/-- A flagged access to another value leaves the racing threads of this one. -/
theorem Turn.racing (turn : Turn world happenings next) (old : value ≠ ⟨world.made⟩)
    (unflagged : History.Unflagged happenings value)
    (stays : .removed value ∉ happenings) : next.racing value = world.racing value := by
  induction turn with
  | quiet kept => exact kept.silent.racing value
  | stalled running found on => exact (silent_countAccess _ found _).racing value
  | clean running found on nothing => exact (silent_tallyAccess _ found _).racing value
  | @flagged world thread target kind cell running found on something =>
    have told := List.mem_singleton_self (Happening.accessed thread target kind
      (some (world.sightingOf target cell ⟨thread, kind⟩)))
    have different : value ≠ target := by
      rintro rfl
      exact unflagged _ _ _ told
    rw [((Turn.flagged running found on something).denounces told).racing]
    exact if_neg different
  | entered running found => exact (silent_adoptClock _ _ _ _).racing value
  | edited running known => exact (silent_bindContext _ _ _).racing value
  | started name attach => exact (silent_spawn _ name attach).racing value
  | ended running => rfl
  | equipped blank => rfl
  | adjusted found same => rfl
  | @made world payload label detecting sink known =>
    have stored : ((world.openAccount sink label).addCell
        (.new payload label detecting sink)).1.cells =
        world.cells.insert ⟨world.made⟩ (.new payload label detecting sink) := by
      change (World.openAccount _ _ _).cells.insert ⟨(World.openAccount _ _ _).made⟩ _ = _
      rw [cells_openAccount, made_openAccount]
    rw [World.racing, stored, SortedMap.get?_insert_of_ne _ _ old, World.racing]
  | @removed world target present =>
    have different : value ≠ target := by
      rintro rfl
      exact stays (List.mem_singleton_self _)
    rw [World.racing, SortedMap.get?_erase, if_neg different, World.racing]
  | after kept turn ih =>
    rw [ih (by rw [kept.made]; exact old) unflagged stays, kept.silent.racing]
  | upTo turn kept ih => rw [kept.silent.racing, ih old unflagged stays]

/-- A flagged access to another value leaves the accounts of this one. -/
theorem Turn.counts (turn : Turn world happenings next)
    (numbered : ∀ id, world.detectors.contains id = true ↔ id.index < world.detectors.size)
    (old : value ≠ ⟨world.made⟩)
    (unflagged : History.Unflagged happenings value)
    (id : DetectorId) {races : Nat}
    (counted : (world.ledger? id).map (fun ledger => ledger.races value) = some races) :
    (next.ledger? id).map (fun ledger => ledger.races value) = some races := by
  induction turn with
  | quiet kept => rwa [kept.silent.ledger?]
  | stalled running found on => rwa [(silent_countAccess _ found _).ledger?]
  | clean running found on nothing => rwa [(silent_tallyAccess _ found _).ledger?]
  | @flagged world thread target kind cell running found on something =>
    have told := List.mem_singleton_self (Happening.accessed thread target kind
      (some (world.sightingOf target cell ⟨thread, kind⟩)))
    have different : value ≠ target := by
      rintro rfl
      exact unflagged _ _ _ told
    rw [((Turn.flagged running found on something).denounces told).ledgers]
    split
    · rw [Option.map_map, ← counted]
      congr 1
      funext ledger
      have kept := Ledger.races_count ledger target value cell.label
      rw [if_neg different, Nat.add_zero] at kept
      exact kept
    · exact counted
  | entered running found => rwa [(silent_adoptClock _ _ _ _).ledger?]
  | edited running known => exact counted
  | started name attach => rwa [(silent_spawn _ name attach).ledger?]
  | ended running => exact counted
  | @equipped world detector blank =>
    have new : id ≠ ⟨world.detectors.size⟩ := by
      rintro rfl
      have present : world.detectors.contains ⟨world.detectors.size⟩ = true := by
        rw [← isSome_ledger?]
        obtain ⟨ledger, found, _⟩ := Option.map_eq_some_iff.1 counted
        rw [found]
        rfl
      exact Nat.lt_irrefl _ ((numbered _).1 present)
    rw [World.ledger?, World.setDetector, SortedMap.get?_insert_of_ne _ _ new]
    exact counted
  | @adjusted world target detector changed found same =>
    rw [World.ledger?, World.setDetector, SortedMap.get?_insert]
    split
    · rename_i here
      rw [World.ledger?, here, found] at counted
      rw [Option.map_some, same]
      exact counted
    · exact counted
  | @made world payload label detecting sink known =>
    change ((world.openAccount sink label).ledger? id).map _ = _
    rw [Booked.ledger?_openAccount]
    split
    · obtain ⟨ledger, found, same⟩ := Option.map_eq_some_iff.1 counted
      rw [found, Option.map_some, Option.map_some, ← same, Ledger.races, Ledger.register,
        SortedMap.get?_insert_of_ne _ _ old, Ledger.races]
    · exact counted
  | removed present => exact counted
  | after kept turn ih =>
    refine ih ?_ (by rw [kept.made]; exact old) unflagged (by rwa [kept.silent.ledger?])
    rw [kept.detectors]
    exact numbered
  | upTo turn kept ih =>
    rw [kept.silent.ledger?]
    exact ih numbered old unflagged counted

/-- A turn that flags no access to a value tells of none. -/
theorem Turn.toldOf (turn : Turn world happenings next)
    (unflagged : History.Unflagged happenings value) :
    next.toldOf value = world.toldOf value := by
  rw [World.toldOf, turn.sightings, List.filter_append, World.toldOf]
  refine (congrArg (· ++ _) (List.filter_eq_nil_iff.2 fun sighting member about => ?_)).trans
    (List.nil_append _)
  obtain ⟨happening, told, same⟩ := List.mem_filterMap.1 member
  cases happening with
  | accessed thread target kind found =>
    cases found with
    | none => cases same
    | some found =>
      cases same
      obtain ⟨_, _, _, _, _, mine, _⟩ := turn.fits _ told
      have here : target = value := mine.symm.trans (of_decide_eq_true about)
      exact unflagged thread kind sighting (here ▸ told)
  | _ => cases same

end World

/-- What waits after a report was received waited before. -/
theorem Channel.mem_queue_of_receive {channel : Channel Sighting} {connected : Bool}
    {sighting : Sighting} (waits : sighting ∈ (channel.receive connected).2.queue) :
    sighting ∈ channel.queue := by
  match channel with
  | ⟨_, [], _⟩ => exact waits
  | ⟨_, _ :: _, _⟩ => exact List.mem_cons_of_mem _ waits

namespace World

variable {world next : World α}

/-- As many reports wait as before. -/
theorem Dwindles.refl (world : World α) : Dwindles world world := fun _ _ waits => waits

/-- Where detectors stay, no more reports wait than before. -/
theorem dwindles_of_same (same : next.detectors = world.detectors) : Dwindles world next := by
  intro id sighting waits
  rwa [waiting, channel?, same] at waits

/-- No more reports wait when a detector gets a channel with no more in it. -/
theorem dwindles_setDetector {id : DetectorId} {detector : Detector}
    (fewer : ∀ sighting ∈ (detector.channel.map Channel.queue).getD [],
      sighting ∈ world.waiting id) : Dwindles world (world.setDetector id detector) := by
  intro other sighting waits
  rw [waiting, channel?, setDetector, SortedMap.get?_insert] at waits
  split at waits
  · rename_i here
    rw [here]
    exact fewer sighting waits
  · exact waits

/-- If work on a detector in use leaves no more reports waiting, neither does the step that does
it. -/
theorem dwindles_ifInUse {id : DetectorId} {work : Detector → World α × Reply α}
    (worked : ∀ detector, world.detectors.get? id = some detector →
      Dwindles world (work detector).1) : Dwindles world (world.ifInUse id work).1 := by
  unfold ifInUse
  split
  · rename_i detector found
    split
    · exact worked detector found
    · exact .refl world
  · exact .refl world

/-- The reports that wait in the channel of a detector that is there. -/
theorem waiting_of_get? {id : DetectorId} {detector : Detector}
    (found : world.detectors.get? id = some detector) :
    world.waiting id = (detector.channel.map Channel.queue).getD [] := by
  rw [waiting, channel?, found]
  rfl

/-- No report waits in the channel of a detector that is made. -/
theorem queue_of_new {config : DetectorConfig} {detector : Detector}
    (made : Detector.new config = .ok detector) :
    (detector.channel.map Channel.queue).getD [] = [] := by
  unfold Detector.new at made
  split at made
  · cases made
  · split at made
    · cases made
    · cases made
      unfold Detector.build
      dsimp only
      split
      · rfl
      · rfl

/-- A detector that is made has no reports waiting. -/
theorem dwindles_newDetector (config : Option String) :
    Dwindles world (world.newDetector config).1 := by
  unfold newDetector
  split
  · exact dwindles_setDetector (List.forall_mem_nil _)
  · split
    · exact .refl world
    · split
      · exact .refl world
      · exact .refl world
      · rename_i detector made
        refine dwindles_setDetector ?_
        rw [queue_of_new made]
        exact List.forall_mem_nil _

/-- Who receives leaves no more reports waiting. -/
theorem dwindles_receive (receiver : Nat) : Dwindles world (world.receive receiver).1 := by
  simp only [receive]
  split
  · exact .refl world
  · rename_i id detector channel found
    simp only [Option.bind_eq_bind, Option.bind_eq_some_iff, Option.some.injEq,
      Prod.mk.injEq] at found
    obtain ⟨_, _, _, stored, _, opened, rfl, rfl, rfl⟩ := found
    refine dwindles_setDetector fun sighting waits => ?_
    rw [waiting_of_get? stored, opened]
    exact Channel.mem_queue_of_receive waits

/-- No step sends reports. -/
theorem dwindles_step {step : Step α} (still : step.isActed = false) :
    Dwindles world (world.step step).1 := by
  have ends (thread : ThreadId) (reply : Reply α) :
      Dwindles world (world.ifRunning thread (world.endThread thread, reply)).1 := by
    unfold ifRunning
    split
    · exact dwindles_of_same (kept_leaveSections world _).detectors
    · exact .refl world
  have removes (value : ValueId) (reply : Cell α → Reply α) :
      Dwindles world (world.removeCell value reply).1 := by
    unfold removeCell
    split
    · exact .refl world
    · split
      · exact .refl world
      · exact dwindles_of_same rfl
  cases step with
  | spawn name attach =>
    simp only [World.step]
    split
    · exact .refl world
    · exact dwindles_of_same (silent_spawn world name attach).detectors
  | exit thread => exact ends thread _
  | crash thread => exact ends thread _
  | newDetector config => exact dwindles_newDetector config
  | newValue payload sink label =>
    cases sink with
    | none => exact dwindles_of_same rfl
    | some id =>
      refine dwindles_ifInUse fun detector found => ?_
      refine dwindles_setDetector fun sighting waits => ?_
      rw [waiting_of_get? found]
      exact waits
  | dropDetector id =>
    refine dwindles_ifInUse fun detector found => dwindles_setDetector fun sighting waits => ?_
    rw [waiting_of_get? found]
    exact waits
  | dropValue value => exact removes value _
  | intoInner value => exact removes value _
  | stats id => exact dwindles_ifInUse fun _ _ => .refl world
  | total id => exact dwindles_ifInUse fun _ _ => .refl world
  | config id => exact dwindles_ifInUse fun _ _ => .refl world
  | capture id => exact dwindles_ifInUse fun _ _ => .refl world
  | drain id =>
    refine dwindles_ifInUse fun detector found => dwindles_setDetector fun sighting waits => ?_
    unfold Detector.drain at waits
    split at waits
    · rename_i none
      rw [none] at waits
      cases waits
    · cases waits
  | newReceiver id =>
    refine dwindles_ifInUse fun detector _ => ?_
    unfold newReceiver
    split
    · exact dwindles_of_same rfl
    · exact .refl world
  | receive receiver => exact dwindles_receive receiver
  | enter thread value => cases still
  | leave thread => cases still
  | act thread action => cases still

/-- An access sends at most the report that it is flagged. -/
theorem waiting_of_asksAccess {thread : ThreadId} {value : ValueId} {kind : AccessKind}
    {attempt : Attempt (Option Sighting)}
    (asked : world.AsksAccess thread value kind next attempt) {id : DetectorId}
    {sighting : Sighting} (waits : sighting ∈ next.waiting id) :
    sighting ∈ world.waiting id ∨ attempt = .begun (some sighting) := by
  by_cases flagged : ∃ sighting, attempt = .begun (some sighting)
  · obtain ⟨flagged, rfl⟩ := flagged
    cases asked with
    | flagged cell lock found taken free on idle something =>
      have stored : (world.tallyAccess value cell ⟨thread, kind⟩).cells.get?
          (world.sightingOf value cell ⟨thread, kind⟩).value = some (cell.count ⟨thread, kind⟩) :=
        get?_tallyAccess world value cell _
      have denounces := ((denounces_flag _ stored).after (silent_tallyAccess world found
        ⟨thread, kind⟩)).upTo (kept_take _ value lock).silent
      rw [waiting, denounces.channels] at waits
      split at waits
      · rw [Option.map_map] at waits
        cases opened : world.channel? id with
        | none =>
          rw [opened] at waits
          cases waits
        | some channel =>
          rw [opened] at waits
          change sighting ∈ ((channel.offer? _).getD channel).queue at waits
          have before : world.waiting id = channel.queue := by
            rw [waiting, opened]
            rfl
          rw [before]
          cases accepted : channel.offer? (world.sightingOf value cell ⟨thread, kind⟩) with
          | none =>
            rw [accepted] at waits
            exact .inl waits
          | some longer =>
            rw [accepted, Option.getD_some, (Channel.queue_of_offer? accepted).1,
              List.mem_append, List.mem_singleton] at waits
            exact waits.imp_right fun same => by rw [same]
      · exact .inl waits
  · have silent := silent_of_asksAccess asked fun sighting same => flagged ⟨sighting, same⟩
    exact .inl (dwindles_of_same silent.detectors id sighting waits)

/-- Entering a section sends no report. -/
theorem detectors_of_asksSection {thread : ThreadId} {value : ValueId} {attempt : Attempt Nat}
    (asked : world.AsksSection thread value next attempt) : next.detectors = world.detectors := by
  cases asked with
  | reentered cell lock found taken borrowed => rfl
  | stalled cell lock found taken free busy => rfl
  | entered cell lock found taken free idle =>
    exact (silent_adoptClock (world.note (.entering value cell.label cell.clock.size)) thread value
      cell.clock).detectors

end World

namespace Scene

variable {scene next : Scene α} {happenings : List Happening}

/-- A move sends at most the report of the access that it flags. -/
theorem waiting_of_perform? {move : Move α}
    (performed : scene.perform? move = some (next, happenings)) {id : DetectorId}
    {sighting : Sighting} (waits : sighting ∈ next.world.waiting id) :
    sighting ∈ scene.world.waiting id ∨
      ∃ thread kind value, .accessed thread value kind (some sighting) ∈ happenings := by
  obtain ⟨runs, outcome⟩ := perform?_eq_some_iff.1 performed
  have unsent (same : next.world.detectors = scene.world.detectors) :
      sighting ∈ scene.world.waiting id := dwindles_of_same same id sighting waits
  cases outcome with
  | @access thread value kind world found asked =>
    obtain old | same := waiting_of_asksAccess asked waits
    · exact .inl old
    · cases same
      exact .inr ⟨thread, kind, value, mem_accessHappenings asked⟩
  | stall asked => exact .inl ((waiting_of_asksAccess asked waits).resolve_right nofun)
  | reenter asked => exact .inl ((waiting_of_asksAccess asked waits).resolve_right nofun)
  | enter asked => exact .inl (unsent (detectors_of_asksSection asked))
  | refuseEnter asked => exact .inl (unsent (detectors_of_asksSection asked))
  | hold asked =>
    have kept := detectors_of_asksSection asked
    exact .inl (unsent kept)
  | refuseHold asked => exact .inl (unsent (detectors_of_asksSection asked))
  | openContext idle => exact .inl (unsent (kept_openContext scene.world runs).detectors)
  | step still outside => exact .inl (dwindles_step still id sighting waits)
  | _ => exact .inl (unsent rfl)

end Scene

/-- A move that flags no access to a value, and does not take it away, writes nothing down about
it. -/
theorem unraced_of_perform? {past : History} {scene next : Scene α} (run : Run past scene)
    {move : Move α} {happenings : List Happening}
    (performed : scene.perform? move = some (next, happenings)) {value : ValueId}
    (old : value.index < scene.world.made)
    (unflagged : History.Unflagged happenings value)
    (stays : .removed value ∉ happenings) :
    Unraced value scene.world happenings next.world := by
  have turn := Scene.turn_of_perform? (numbered_of_run run) performed
  have different : value ≠ ⟨scene.world.made⟩ := by
    rintro rfl
    exact Nat.lt_irrefl _ old
  refine ⟨unflagged, turn.racing different unflagged stays, fun id races counted =>
    turn.counts (booked_of_run run).numbered different unflagged id counted,
    turn.toldOf unflagged, fun id sighting waits about => ?_⟩
  obtain before | ⟨thread, kind, target, told⟩ := Scene.waiting_of_perform? performed waits
  · exact before
  · obtain ⟨_, _, _, _, _, mine, _⟩ := turn.fits _ told
    rw [← mine, about] at told
    exact absurd told (unflagged thread kind sighting)

end RaceSentry
