import RaceSentry.Proofs.Effect

/-!
# What is done about flagged accesses

A flagged access is written down in four places: in the racing threads of the value, in the
journal, in the ledger of the detector, and in its channel of reports. Everything else that moves
do leaves what is written there as it is.
Main statements: `Turn.denounces` and `Turn.silent_of_clean`.
-/

namespace RaceSentry

variable {α : Type}

namespace World

variable (world : World α)

/-- The threads with a flagged access to a value. -/
def racing (value : ValueId) : SortedMap ThreadId Unit :=
  ((world.cells.get? value).map Cell.racing).getD ∅

/-- The detector that hears of flagged accesses to a value. -/
def sinkOf (value : ValueId) : Option DetectorId := (world.cells.get? value).bind Cell.sink

/-- The accounts of a detector. -/
def ledger? (id : DetectorId) : Option Ledger := (world.detectors.get? id).map Detector.ledger

/-- A detector is there if it has accounts. -/
@[simp] theorem isSome_ledger? (id : DetectorId) :
    (world.ledger? id).isSome = world.detectors.contains id := Option.isSome_map

/-- A detector that is stored brings its own ledger and leaves those of the others. -/
theorem ledger?_setDetector (id other : DetectorId) (detector : Detector) :
    (world.setDetector id detector).ledger? other =
      if other = id then some detector.ledger else world.ledger? other := by
  change ((world.detectors.insert id detector).get? other).map Detector.ledger = _
  rw [SortedMap.get?_insert]
  split
  · rfl
  · rfl

/-- A detector may change in anything but its accounts. -/
theorem ledger?_adjusted {id : DetectorId} {detector changed : Detector}
    (found : world.detectors.get? id = some detector) (same : changed.ledger = detector.ledger)
    (other : DetectorId) : (world.setDetector id changed).ledger? other = world.ledger? other := by
  rw [ledger?_setDetector]
  split
  · rename_i here
    rw [here, ledger?, found, Option.map_some, same]
  · rfl

/-- The channel of reports of a detector. -/
def channel? (id : DetectorId) : Option (Channel Sighting) :=
  (world.detectors.get? id).bind Detector.channel

/-- What is told of a report that its channel refuses. -/
def refusals (sink : Option DetectorId) (sighting : Sighting) : List Event :=
  match sink.bind world.channel? with
  | none => []
  | some channel =>
    if (channel.offer? sighting).isSome then []
    else [.reportLost (.captureFull channel.capacity)]

/-- Nothing is written down about any access. -/
structure Silent (before after : World α) : Prop where
  /-- The same threads race. -/
  racing : ∀ value, after.racing value = before.racing value
  /-- The same detectors would hear of it. -/
  sinks : ∀ value, after.sinkOf value = before.sinkOf value
  /-- Ledgers and channels are the same. -/
  detectors : after.detectors = before.detectors
  /-- Nothing happened of which somebody should hear. -/
  alarms : after.alarms = before.alarms

/-- A flagged access is written down: its thread races, it is told of once, the ledger counts it
once, and its report is offered to the channel once. If the channel refuses, that is told too. -/
structure Denounces (before after : World α) (sighting : Sighting) : Prop where
  /-- The thread joins those that race on the value. -/
  racing : ∀ value, after.racing value =
    if value = sighting.value then (before.racing value).insert sighting.key.thread ()
    else before.racing value
  /-- The same detectors would hear of the next one. -/
  sinks : ∀ value, after.sinkOf value = before.sinkOf value
  /-- It is told of the access, and of its report if that is lost. -/
  alarms : after.alarms =
    before.refusals (before.sinkOf sighting.value) sighting ++ .raced sighting :: before.alarms
  /-- The ledger of the detector counts the access. -/
  ledgers : ∀ id, after.ledger? id =
    if before.sinkOf sighting.value = some id then
      (before.ledger? id).map fun ledger => ledger.count sighting.value sighting.label
    else before.ledger? id
  /-- The channel of the detector is offered the report. -/
  channels : ∀ id, after.channel? id =
    if before.sinkOf sighting.value = some id then
      (before.channel? id).map fun channel => (channel.offer? sighting).getD channel
    else before.channel? id

namespace Silent

variable {before between after : World α}

/-- Doing nothing is silent. -/
theorem refl (world : World α) : Silent world world :=
  ⟨fun _ => rfl, fun _ => rfl, rfl, rfl⟩

/-- What is silent twice is silent in all. -/
theorem trans (first : Silent before between) (second : Silent between after) :
    Silent before after where
  racing := fun value => (second.racing value).trans (first.racing value)
  sinks := fun value => (second.sinks value).trans (first.sinks value)
  detectors := second.detectors.trans first.detectors
  alarms := second.alarms.trans first.alarms

/-- What is silent leaves every ledger as it is. -/
theorem ledger? (silent : Silent before after) (id : DetectorId) :
    after.ledger? id = before.ledger? id := by
  rw [World.ledger?, World.ledger?, silent.detectors]

/-- What is silent leaves every channel as it is. -/
theorem channel? (silent : Silent before after) (id : DetectorId) :
    after.channel? id = before.channel? id := by
  rw [World.channel?, World.channel?, silent.detectors]

/-- After something silent the same reports would be refused. -/
theorem refusals (silent : Silent before after) (sink : Option DetectorId)
    (sighting : Sighting) : after.refusals sink sighting = before.refusals sink sighting := by
  have same : after.channel? = before.channel? := funext silent.channel?
  rw [World.refusals, World.refusals, same]

end Silent

/-- What keeps all that verdicts and records depend on is silent. -/
theorem Kept.silent {before after : World α} (kept : Kept before after) : Silent before after where
  racing := fun value => by
    have same := congrArg (Option.map Cell.racing) (kept.accounts value)
    rw [Option.map_map, Option.map_map] at same
    exact congrArg (Option.getD · ∅) same
  sinks := fun value => by
    have same := congrArg (Option.bind · Cell.sink) (kept.accounts value)
    simp only [Option.bind_map] at same
    exact same
  detectors := kept.detectors
  alarms := kept.alarms

/-- Binding a context is silent. -/
theorem silent_bindContext (id : ThreadId) (context : ThreadContext) :
    Silent world (world.bindContext id context) :=
  ⟨fun _ => rfl, fun _ => rfl, rfl, rfl⟩

/-- Asking for a context tells at most that there is a new one. -/
theorem silent_ensureContext (id : ThreadId) : Silent world (world.ensureContext id).1 := by
  cases bound : (world.thread id).context with
  | some context =>
    rw [ensureContext_of_some world bound]
    exact .refl world
  | none =>
    rw [ensureContext_of_none world bound]
    exact (kept_note world (.attached _ _) rfl).silent.trans (silent_bindContext _ id _)

/-- Adopting a clock table with a section entry is silent. -/
theorem silent_adoptClock (id : ThreadId) (value : ValueId) (clock : ClockTable) :
    Silent world (world.adoptClock id value clock) :=
  (silent_ensureContext world id).trans (silent_bindContext _ id _)

/-- Copying a counter into a snapshot is silent. -/
theorem silent_copyCounter (value : ValueId) (key : AccessKey) (counter : Nat) :
    Silent world (world.copyCounter value key counter) :=
  (silent_ensureContext world key.thread).trans (silent_bindContext _ key.thread _)

/-- Counting an access tells of no race. -/
theorem silent_countAccess {value : ValueId} {cell : Cell α}
    (found : world.cells.get? value = some cell) (key : AccessKey) :
    Silent world (world.countAccess value cell key) where
  racing := fun other => by
    change (((world.cells.insert value (cell.count key)).get? other).map Cell.racing).getD ∅ = _
    rw [SortedMap.get?_insert, racing]
    split
    · rename_i here
      rw [here, found]
      rfl
    · rfl
  sinks := fun other => by
    change ((world.cells.insert value (cell.count key)).get? other).bind Cell.sink = _
    rw [SortedMap.get?_insert, sinkOf]
    split
    · rename_i here
      rw [here, found]
      rfl
    · rfl
  detectors := rfl
  alarms := (kept_note (world.setCell value (cell.count key)) (.recorded value key _) rfl).alarms

/-- Counting an access in both tables is silent. -/
theorem silent_tallyAccess {value : ValueId} {cell : Cell α}
    (found : world.cells.get? value = some cell) (key : AccessKey) :
    Silent world (world.tallyAccess value cell key) :=
  (silent_countAccess world found key).trans (silent_copyCounter _ value key _)

/-- Starting a thread tells at most of its context. -/
theorem silent_spawn (name : Option String) (attach : Bool) :
    Silent world (world.spawn name attach).1 := by
  have begun : Silent world { world.setThread ⟨world.started⟩ (.new name) with
      started := world.started + 1 } := ⟨fun _ => rfl, fun _ => rfl, rfl, rfl⟩
  unfold spawn
  dsimp only
  split
  · exact (begun.trans (kept_note _ (.attached _ _) rfl).silent).trans
      (silent_bindContext _ _ _)
  · exact begun

/-- Making a value tells of no race. -/
theorem alarms_addCell (sink : Option DetectorId) (label : Option String) (cell : Cell α) :
    ((world.openAccount sink label).addCell cell).1.alarms = world.alarms := by
  have opened : (world.openAccount sink label).journal = world.journal := by
    unfold openAccount
    split
    · rfl
    · split
      · rfl
      · rfl
  change List.filter Event.isAlarm (.monitoring _ _ _ :: (World.openAccount _ _ _).journal) = _
  rw [List.filter_cons_of_neg Bool.false_ne_true, opened, alarms]

/-- The ledger of the detector that hears of a race counts it, and the other detectors stay as they
are. -/
theorem detectors_tallyRace (sink : Option DetectorId) (sighting : Sighting)
    (id : DetectorId) :
    (world.tallyRace sink sighting).detectors.get? id =
      if sink = some id then
        (world.detectors.get? id).map fun detector => detector.tally sighting
      else world.detectors.get? id := by
  cases sink with
  | none => rfl
  | some other =>
    cases found : world.detectors.get? other with
    | none =>
      have same : world.tallyRace (some other) sighting = world := by
        simp only [tallyRace, found]
      rw [same]
      split
      · rename_i here
        rw [← Option.some.inj here, found]
        rfl
      · rfl
    | some detector =>
      have stored : (world.tallyRace (some other) sighting).detectors =
          world.detectors.insert other (detector.tally sighting) := by
        simp only [tallyRace, found, setDetector]
      rw [stored, SortedMap.get?_insert]
      by_cases here : id = other
      · rw [here, if_pos rfl, if_pos rfl, found]
        rfl
      · rw [if_neg here, if_neg fun same => here (Option.some.inj same).symm]

/-- The detector that hears of a race is handed its report, and the other detectors stay as they
are. -/
theorem detectors_sendReport (sink : Option DetectorId) (sighting : Sighting)
    (id : DetectorId) :
    (world.sendReport sink sighting).detectors.get? id =
      if sink = some id then
        (world.detectors.get? id).map fun detector => (detector.deliver sighting).1
      else world.detectors.get? id := by
  cases sink with
  | none => rfl
  | some other =>
    cases found : world.detectors.get? other with
    | none =>
      have same : world.sendReport (some other) sighting = world := by
        simp only [sendReport, found]
      rw [same]
      split
      · rename_i here
        rw [← Option.some.inj here, found]
        rfl
      · rfl
    | some detector =>
      have stored : (world.sendReport (some other) sighting).detectors =
          world.detectors.insert other (detector.deliver sighting).1 := by
        simp only [sendReport, found]
        split
        · rename_i given
          rw [given]
          rfl
        · rename_i given
          rw [given]
          rfl
      rw [stored, SortedMap.get?_insert]
      by_cases here : id = other
      · rw [here, if_pos rfl, if_pos rfl, found]
        rfl
      · rw [if_neg here, if_neg fun same => here (Option.some.inj same).symm]

/-- Delivering a report changes no account. -/
theorem ledger_deliver (detector : Detector) (sighting : Sighting) :
    (detector.deliver sighting).1.ledger = detector.ledger := by
  unfold Detector.deliver
  split
  · rfl
  · split
    · rfl
    · rfl

/-- Delivering a report is offering it to the channel. -/
theorem channel_deliver (detector : Detector) (sighting : Sighting) :
    (detector.deliver sighting).1.channel =
      detector.channel.map fun channel => (channel.offer? sighting).getD channel := by
  cases found : detector.channel with
  | none =>
    simp only [Detector.deliver, found]
    rfl
  | some channel =>
    cases offered : channel.offer? sighting with
    | none =>
      simp only [Detector.deliver, found, offered, Option.map_some]
      rfl
    | some next =>
      simp only [Detector.deliver, found, offered, Option.map_some]
      rfl

/-- A report is lost exactly if its channel refuses it. -/
theorem alarms_sendReport (sink : Option DetectorId) (sighting : Sighting) :
    (world.sendReport sink sighting).alarms = world.refusals sink sighting ++ world.alarms := by
  cases sink with
  | none => rfl
  | some id =>
    cases found : world.detectors.get? id with
    | none => simp only [sendReport, refusals, channel?, found, Option.bind_some, Option.bind_none,
        List.nil_append]
    | some detector =>
      cases channelled : detector.channel with
      | none =>
        simp only [sendReport, refusals, channel?, found, Option.bind_some, channelled,
          Detector.deliver]
        rfl
      | some channel =>
        cases offered : channel.offer? sighting with
        | none =>
          simp only [sendReport, refusals, channel?, found, Option.bind_some, channelled,
            Detector.deliver, offered]
          rfl
        | some next =>
          simp only [sendReport, refusals, channel?, found, Option.bind_some, channelled,
            Detector.deliver, offered]
          rfl

/-- Counting a race in a ledger is nothing that somebody should hear. -/
theorem alarms_tallyRace (sink : Option DetectorId) (sighting : Sighting) :
    (world.tallyRace sink sighting).alarms = world.alarms := by
  unfold tallyRace
  split
  · rfl
  · split
    · rfl
    · rfl

/-- Counting a race in a ledger leaves the channels as they are. -/
theorem channel?_tallyRace (sink : Option DetectorId) (sighting : Sighting) (id : DetectorId) :
    (world.tallyRace sink sighting).channel? id = world.channel? id := by
  rw [channel?, detectors_tallyRace, channel?]
  split
  · rw [Option.bind_map]
    rfl
  · rfl

/-- Flagging an access writes it down. -/
theorem denounces_flag {cell : Cell α} {sighting : Sighting}
    (found : world.cells.get? sighting.value = some cell) :
    Denounces world (world.flag cell sighting) sighting := by
  have sink : world.sinkOf sighting.value = cell.sink := by rw [sinkOf, found]; rfl
  rw [flag_eq]
  refine ⟨fun value => ?_, fun value => ?_, ?_, fun id => ?_, fun id => ?_⟩
  · rw [racing, cells_sendReport, cells_tallyRace]
    change (((world.cells.insert sighting.value
      (cell.flag sighting.key.thread)).get? value).map Cell.racing).getD ∅ = _
    rw [SortedMap.get?_insert, racing]
    split
    · rename_i here
      rw [here, found]
      rfl
    · rfl
  · rw [sinkOf, cells_sendReport, cells_tallyRace]
    change ((world.cells.insert sighting.value
      (cell.flag sighting.key.thread)).get? value).bind Cell.sink = _
    rw [SortedMap.get?_insert, sinkOf]
    split
    · rename_i here
      rw [here, found]
      rfl
    · rfl
  · have channels : ((world.joinRace cell sighting).tallyRace cell.sink sighting).channel? =
        world.channel? := funext fun id => channel?_tallyRace _ cell.sink sighting id
    rw [alarms_sendReport, alarms_tallyRace, refusals, channels, sink]
    rfl
  · rw [ledger?, detectors_sendReport, detectors_tallyRace, sink, ledger?]
    change Option.map _ (if _ then Option.map _ (if _ then Option.map _
      (world.detectors.get? id) else world.detectors.get? id) else _) = _
    split
    · rw [Option.map_map, Option.map_map, Option.map_map]
      congr 1
      funext detector
      exact ledger_deliver (detector.tally sighting) sighting
    · rfl
  · rw [channel?, detectors_sendReport, detectors_tallyRace, sink, channel?]
    change Option.bind (if _ then Option.map _ (if _ then Option.map _
      (world.detectors.get? id) else world.detectors.get? id) else _) _ = _
    split
    · rw [Option.map_map, Option.bind_map, Option.map_bind]
      congr 1
      funext detector
      exact channel_deliver (detector.tally sighting) sighting
    · rfl

/-- What is written down after something silent is written down in all. -/
theorem Denounces.after {before between next : World α} {sighting : Sighting}
    (silent : Silent before between) (denounces : Denounces between next sighting) :
    Denounces before next sighting where
  racing := fun value => by rw [denounces.racing, silent.racing]
  sinks := fun value => by rw [denounces.sinks, silent.sinks]
  alarms := by rw [denounces.alarms, silent.refusals, silent.sinks, silent.alarms]
  ledgers := fun id => by rw [denounces.ledgers, silent.sinks, silent.ledger?]
  channels := fun id => by rw [denounces.channels, silent.sinks, silent.channel?]

/-- What is written down stays so when something silent follows. -/
theorem Denounces.upTo {before between next : World α} {sighting : Sighting}
    (denounces : Denounces before between sighting) (silent : Silent between next) :
    Denounces before next sighting where
  racing := fun value => by rw [silent.racing, denounces.racing]
  sinks := fun value => by rw [silent.sinks, denounces.sinks]
  alarms := by rw [silent.alarms, denounces.alarms]
  ledgers := fun id => by rw [silent.ledger?, denounces.ledgers]
  channels := fun id => by rw [silent.channel?, denounces.channels]

/-- A flagged access is written down. -/
theorem Turn.denounces {world next : World α} {happenings : List Happening}
    (turn : Turn world happenings next) {thread : ThreadId} {value : ValueId} {kind : AccessKind}
    {sighting : Sighting} (told : .accessed thread value kind (some sighting) ∈ happenings) :
    Denounces world next sighting := by
  induction turn with
  | flagged running found on something =>
    simp only [List.mem_singleton, Happening.accessed.injEq, Option.some.injEq] at told
    rw [told.2.2.2]
    exact .after (silent_tallyAccess _ found _) (denounces_flag _ (get?_tallyAccess _ _ _ _))
  | after kept turn ih => exact (ih told).after kept.silent
  | upTo turn kept ih => exact (ih told).upTo kept.silent
  | _ => simp at told

/-- An access that is not flagged is not written down. -/
theorem Turn.silent_of_clean {world next : World α} {happenings : List Happening}
    (turn : Turn world happenings next) {thread : ThreadId} {value : ValueId} {kind : AccessKind}
    (told : .accessed thread value kind none ∈ happenings) : Silent world next := by
  induction turn with
  | clean running found on nothing => exact silent_tallyAccess _ found _
  | after kept turn ih => exact kept.silent.trans (ih told)
  | upTo turn kept ih => exact (ih told).trans kept.silent
  | _ => simp at told

/-- Nobody hears of anything but flagged accesses. -/
theorem Turn.alarms_of_unflagged {world next : World α} {happenings : List Happening}
    (turn : Turn world happenings next)
    (unflagged : ∀ thread value kind sighting,
      .accessed thread value kind (some sighting) ∉ happenings) :
    next.alarms = world.alarms := by
  induction turn with
  | quiet kept => exact kept.alarms
  | stalled running found on => exact (silent_countAccess _ found _).alarms
  | clean running found on nothing => exact (silent_tallyAccess _ found _).alarms
  | flagged running found on something =>
    exact absurd (List.mem_singleton_self _) (unflagged _ _ _ _)
  | entered running found => exact (silent_adoptClock _ _ _ _).alarms
  | started name attach => exact (silent_spawn _ name attach).alarms
  | made known => exact alarms_addCell _ _ _ _
  | after kept turn ih => rw [ih unflagged, kept.alarms]
  | upTo turn kept ih => rw [kept.alarms, ih unflagged]
  | _ => rfl

/-- An access that is asked for and not flagged is not written down. -/
theorem silent_of_asksAccess {world next : World α} {thread : ThreadId} {value : ValueId}
    {kind : AccessKind} {attempt : Attempt (Option Sighting)}
    (asked : world.AsksAccess thread value kind next attempt)
    (unflagged : ∀ sighting, attempt ≠ .begun (some sighting)) : Silent world next := by
  cases asked with
  | reentered cell lock found taken borrowed =>
    exact (kept_note world (.reentered value) rfl).silent
  | stalled cell lock found taken free on busy => exact silent_countAccess world found _
  | unwatched cell lock found taken free off =>
    exact (kept_take world value lock).silent
  | clean cell lock found taken free on idle nothing =>
    exact (silent_tallyAccess world found _).trans (kept_take _ value lock).silent
  | flagged cell lock found taken free on idle something => exact absurd rfl (unflagged _)

end World

end RaceSentry
