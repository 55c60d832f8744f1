import RaceSentry.Proofs.Lowercase
import RaceSentry.Proofs.Shutdown

/-!
# Usable configurations

A configuration is accepted exactly if captured reports have room and the log level is one of the
five, spelled with small or capital letters from A to Z. A detector is made of each of them, as long
as there can be a channel of that size. However a detector is made, its channel has room for at
least one report; so a flagged access that finds the channel empty is always captured, be it the
first after all reports were taken.
Main statement: `usable_exact`.
-/

namespace RaceSentry

variable {α : Type}

namespace DetectorConfig

variable {config : DetectorConfig}

/-- Captured reports have room. -/
def HasRoom (config : DetectorConfig) : Prop :=
  config.capture.enabled = false ∨ 0 < config.capture.bufferSize

/-- The log level is one of the five, up to the case of the letters A to Z. -/
def HasLevel (config : DetectorConfig) : Prop := config.logging.level.toLower ∈ levelNames

instance (config : DetectorConfig) : Decidable config.HasLevel :=
  inferInstanceAs (Decidable (_ ∈ _))

/-- The slots of the channel, if there is to be one, can be addressed. -/
def IsFeasible (config : DetectorConfig) : Prop :=
  config.capture.enabled = true →
    config.capture.bufferSize * RaceReport.slotBytes ≤ Denial.addressable

instance (config : DetectorConfig) : Decidable config.IsFeasible :=
  inferInstanceAs (Decidable (_ → _))

/-- The names of the levels have basic letters only, and no k. -/
theorem plain_of_mem_levelNames :
    ∀ name ∈ levelNames, ∀ char ∈ name.toList, char ≠ 'k' ∧ Text.isBasic char = true := by
  simp [levelNames, Text.isBasic]

/-- The lower case of a text names a level exactly if its basic letters do. -/
theorem lowercase_mem_levelNames_iff (text : String) :
    Text.lowercase text ∈ levelNames ↔ text.toLower ∈ levelNames := by
  constructor
  · intro member
    have same := (Text.lowercase_eq_iff (plain_of_mem_levelNames _ member) text).1 rfl
    rwa [same]
  · intro member
    have same := (Text.lowercase_eq_iff (plain_of_mem_levelNames _ member) text).2 rfl
    rwa [same]

/-- A text with a character that is not basic names no level. -/
theorem isBasic_of_toLower_mem {text : String} (named : text.toLower ∈ levelNames) {char : Char}
    (member : char ∈ text.toList) : Text.isBasic char = true := by
  by_contra foreign
  have same := Text.toLower_of_foreign (eq_false_of_ne_true foreign)
  have kept : char ∈ text.toLower.toList := by
    have letters : text.toLower.toList = text.toList.map Char.toLower := String.toList_map
    rw [letters, List.mem_map]
    exact ⟨char, member, same⟩
  exact foreign (plain_of_mem_levelNames _ named char kept).2

/-- A configuration is valid if it has room and a level. -/
theorem validate_eq_ok_iff : config.validate = .ok () ↔ config.HasRoom ∧ config.HasLevel := by
  have room : config.HasRoom ↔
      ¬ (config.capture.enabled = true ∧ config.capture.bufferSize = 0) := by
    rw [HasRoom, ← Bool.not_eq_true, Nat.pos_iff_ne_zero, not_and_or]
  rw [HasLevel, ← lowercase_mem_levelNames_iff, room]
  unfold validate fault?
  by_cases cramped : config.capture.enabled = true ∧ config.capture.bufferSize = 0
  · simp [cramped]
  · by_cases named : Text.lowercase config.logging.level ∈ levelNames
    · simp only [if_neg cramped, if_pos named]
      exact iff_of_true trivial ⟨cramped, named⟩
    · simp [cramped, named]

end DetectorConfig

namespace Detector

variable {config : DetectorConfig} {detector changed : Detector}

/-- A channel that can be addressed can be numbered. -/
theorem denial?_eq_none_iff : denial? config = none ↔ config.IsFeasible := by
  rw [denial?, DetectorConfig.IsFeasible]
  split
  · rename_i captured
    have slots : config.capture.bufferSize * RaceReport.slotBytes ≤ Denial.addressable →
        config.capture.bufferSize ≤ Denial.numberable := by
      unfold RaceReport.slotBytes Denial.addressable Denial.numberable
      omega
    rw [Denial.ofQueue?_eq_none_iff, imp_iff_right captured]
    exact and_iff_right_of_imp slots
  · rename_i uncaptured
    exact iff_of_true rfl fun captured => absurd captured uncaptured

/-- A detector is made exactly of an accepted configuration with a feasible channel. -/
theorem new_eq_ok_iff :
    Detector.new config = .ok detector ↔
      config.validate = .ok () ∧ config.IsFeasible ∧ detector = build config := by
  rw [← denial?_eq_none_iff]
  unfold Detector.new
  cases accepted : config.validate with
  | error reason => simp
  | ok _ =>
    cases denied : denial? config with
    | some reason => simp
    | none => simpa using eq_comm

/-- There is a channel exactly if reports are captured, of the size that the configuration asks for,
and it has room for one report at least. -/
structure IsFitted (detector : Detector) : Prop where
  /-- Nothing is captured without a channel, and the channel has the size asked for. -/
  capacity : detector.channel.map Channel.capacity =
    if detector.config.capture.enabled then some detector.config.capture.bufferSize else none
  /-- There is room. -/
  room : detector.config.HasRoom

/-- What keeps the configuration and the size of the channel keeps a detector fitted. -/
theorem IsFitted.of_same (fitted : detector.IsFitted) (config : changed.config = detector.config)
    (capacity : changed.channel.map Channel.capacity = detector.channel.map Channel.capacity) :
    changed.IsFitted := by
  constructor
  · rw [capacity, config]
    exact fitted.capacity
  · rw [config]
    exact fitted.room

/-- The channel of a fitted detector has room for one report at least. -/
theorem IsFitted.pos_capacity (fitted : detector.IsFitted) {channel : Channel Sighting}
    (opened : detector.channel = some channel) : 0 < channel.capacity := by
  have capacity := fitted.capacity
  rw [opened, Option.map_some] at capacity
  cases captured : detector.config.capture.enabled with
  | false =>
    rw [captured] at capacity
    cases capacity
  | true =>
    rw [captured, if_pos rfl, Option.some.injEq] at capacity
    rw [capacity]
    exact fitted.room.resolve_left (by simp [captured])

/-- A fitted detector that captures reports has a channel. -/
theorem IsFitted.exists_channel (fitted : detector.IsFitted)
    (captured : detector.config.capture.enabled = true) :
    ∃ channel, detector.channel = some channel := by
  have capacity := fitted.capacity
  rw [captured, if_pos rfl] at capacity
  obtain ⟨channel, opened, -⟩ := Option.map_eq_some_iff.1 capacity
  exact ⟨channel, opened⟩

/-- A detector with room is built with a channel that has it. -/
theorem isFitted_build (room : config.HasRoom) : (build config).IsFitted where
  capacity := by
    cases captured : config.capture.enabled with
    | false => simp [build, captured]
    | true => simp [build, captured, Channel.new]
  room := room

/-- A detector is fitted when nobody configured it, which is not validated. -/
theorem isFitted_standard : standard.IsFitted := isFitted_build (.inr (by decide))

/-- A detector that is made is fitted. -/
theorem isFitted_of_new (made : Detector.new config = .ok detector) : detector.IsFitted := by
  obtain ⟨accepted, -, rfl⟩ := new_eq_ok_iff.1 made
  exact isFitted_build (DetectorConfig.validate_eq_ok_iff.1 accepted).1

/-- Delivering keeps the size of the channel. -/
theorem isFitted_deliver (fitted : detector.IsFitted) (sighting : Sighting) :
    (detector.deliver sighting).1.IsFitted := by
  refine fitted.of_same ?_ ?_
  · unfold deliver
    split
    · rfl
    · split
      · rfl
      · rfl
  · rw [World.channel_deliver, Option.map_map]
    congr 1
    funext channel
    rw [Function.comp_apply]
    cases offered : channel.offer? sighting with
    | none => rfl
    | some longer => exact (Channel.queue_of_offer? offered).2

end Detector

namespace World

variable {world next : World α} {id : DetectorId}

/-- Every detector is fitted. -/
def IsFitted (world : World α) : Prop :=
  ∀ id detector, world.detectors.get? id = some detector → detector.IsFitted

/-- Detectors stay fitted when one that is fitted is put among them. -/
theorem IsFitted.insert (fitted : world.IsFitted) {other : DetectorId} {detector : Detector}
    (detectors : next.detectors = world.detectors.insert other detector)
    (fits : detector.IsFitted) : next.IsFitted := by
  intro id found stored
  rw [detectors, SortedMap.get?_insert] at stored
  split at stored
  · cases stored
    exact fits
  · exact fitted id found stored

/-- Detectors stay fitted while nothing is written down. -/
theorem IsFitted.of_silent (fitted : world.IsFitted) (silent : Silent world next) :
    next.IsFitted := by
  intro id detector found
  rw [silent.detectors] at found
  exact fitted id detector found

/-- A flagged access changes accounts and what waits. -/
theorem IsFitted.flag (fitted : world.IsFitted) (cell : Cell α) (sighting : Sighting) :
    (world.flag cell sighting).IsFitted := by
  intro id detector found
  rw [flag_eq, detectors_sendReport, detectors_tallyRace] at found
  split at found
  · rw [Option.map_map, Option.map_eq_some_iff] at found
    obtain ⟨before, stored, rfl⟩ := found
    have tallied : (before.tally sighting).IsFitted := (fitted id before stored).of_same rfl rfl
    exact Detector.isFitted_deliver tallied sighting
  · exact fitted id detector found

/-- Detectors stay fitted through an access that is asked for. -/
theorem IsFitted.asksAccess (fitted : world.IsFitted) {thread : ThreadId} {value : ValueId}
    {kind : AccessKind} {attempt : Attempt (Option Sighting)}
    (asked : world.AsksAccess thread value kind next attempt) : next.IsFitted := by
  by_cases flagged : ∃ sighting, attempt = .begun (some sighting)
  · obtain ⟨_, rfl⟩ := flagged
    cases asked with
    | flagged cell lock found taken free on idle something =>
      have tallied := fitted.of_silent (silent_tallyAccess world found ⟨thread, kind⟩)
      exact (tallied.flag _ _).of_silent (kept_take _ value lock).silent
  · exact fitted.of_silent (silent_of_asksAccess asked fun sighting same =>
      flagged ⟨sighting, same⟩)

/-- What is asked of a fitted detector keeps all fitted if it keeps that one fitted. -/
theorem IsFitted.ifInUse (fitted : world.IsFitted) {work : Detector → World α × Reply α}
    (worked : ∀ detector, world.detectors.get? id = some detector → detector.IsFitted →
      (work detector).1.IsFitted) : (world.ifInUse id work).1.IsFitted := by
  obtain ⟨detector, found, -, same⟩ | same := world.ifInUse_cases id work
  · rw [same]
    exact worked detector found (fitted id detector found)
  · rw [same]
    exact fitted

/-- Detectors stay fitted when one is made. -/
theorem IsFitted.newDetector (fitted : world.IsFitted) (config : Option String) :
    (world.newDetector config).1.IsFitted := by
  cases config with
  | none => exact fitted.insert rfl Detector.isFitted_standard
  | some text =>
    cases parsed : DetectorConfig.parse text with
    | error reason =>
      simp only [World.newDetector, parsed]
      exact fitted
    | ok config =>
      cases made : Detector.new config with
      | error failure =>
        cases failure with
        | _ =>
          simp only [World.newDetector, parsed, made]
          exact fitted
      | ok detector =>
        simp only [World.newDetector, parsed, made]
        exact fitted.insert rfl (Detector.isFitted_of_new made)

/-- Detectors stay fitted when a value is taken away. -/
theorem IsFitted.removeCell (fitted : world.IsFitted) (value : ValueId)
    (reply : Cell α → Reply α) : (world.removeCell value reply).1.IsFitted := by
  unfold World.removeCell
  split
  · exact fitted
  · split
    · exact fitted
    · exact fitted

/-- Detectors stay fitted when somebody receives. -/
theorem IsFitted.receive (fitted : world.IsFitted) (receiver : Nat) :
    (world.receive receiver).1.IsFitted := by
  unfold World.receive
  dsimp only
  split
  · exact fitted
  · rename_i id detector channel found
    simp only [Option.bind_eq_bind, Option.bind_eq_some_iff, Option.some.injEq,
      Prod.mk.injEq] at found
    obtain ⟨_, -, _, stored, _, opened, rfl, rfl, rfl⟩ := found
    refine fitted.insert rfl ((fitted _ _ stored).of_same rfl ?_)
    rw [opened]
    exact congrArg some (Channel.capacity_receive _ _)

/-- Every step in which no thread acts keeps detectors fitted. -/
theorem IsFitted.step (fitted : world.IsFitted) {step : Step α} (still : step.isActed = false) :
    (world.step step).1.IsFitted := by
  have ends (thread : ThreadId) (reply : Reply α) :
      (world.ifRunning thread (world.endThread thread, reply)).1.IsFitted := by
    unfold ifRunning
    split
    · have left := (kept_leaveSections world (world.thread thread).sections).silent
      exact fitted.of_silent (left.trans ⟨fun _ => rfl, fun _ => rfl, rfl, rfl⟩)
    · exact fitted
  cases step with
  | spawn name attach =>
    simp only [World.step]
    split
    · exact fitted
    · exact fitted.of_silent (silent_spawn world name attach)
  | exit thread => exact ends thread _
  | crash thread => exact ends thread _
  | newDetector config => exact fitted.newDetector config
  | newValue payload owner label =>
    cases owner with
    | none => exact fitted
    | some owner =>
      exact fitted.ifInUse fun detector _ fits => fitted.insert rfl (fits.of_same rfl rfl)
  | dropDetector other =>
    exact fitted.ifInUse fun detector _ fits => fitted.insert rfl (fits.of_same rfl rfl)
  | dropValue value => exact fitted.removeCell value _
  | intoInner value => exact fitted.removeCell value _
  | stats other => exact fitted.ifInUse fun _ _ _ => fitted
  | total other => exact fitted.ifInUse fun _ _ _ => fitted
  | config other => exact fitted.ifInUse fun _ _ _ => fitted
  | capture other => exact fitted.ifInUse fun _ _ _ => fitted
  | drain other =>
    refine fitted.ifInUse fun detector _ fits => fitted.insert rfl ?_
    change detector.drain.2.IsFitted
    rw [drain_eq]
    refine fits.of_same rfl ?_
    rw [Option.map_map]
    rfl
  | newReceiver other =>
    refine fitted.ifInUse fun detector _ _ => ?_
    unfold newReceiver
    split
    · exact fitted
    · exact fitted
  | receive receiver => exact fitted.receive receiver
  | enter thread value => cases still
  | leave thread => cases still
  | act thread action => cases still

end World

/-- Whatever happened, every detector is fitted. -/
theorem isFitted_of_run {past : History} {scene : Scene α} (run : Run past scene) :
    scene.world.IsFitted := by
  induction run with
  | refl => exact nofun
  | tail path performed ih =>
    have bearing := Scene.bearing_of_perform? performed
    generalize Scene.world _ = world at bearing ⊢
    cases bearing with
    | silent other silent => exact ih.of_silent silent
    | access asked => exact ih.asksAccess asked
    | step still => exact ih.step still

/-- A value that exists is in the ledger of its detector. -/
theorem Booked.mem_madeOf_of_sinkOf {past : History} {world : World α} {value : ValueId}
    {id : DetectorId} (booked : Booked past world) (mine : world.sinkOf value = some id) :
    value ∈ past.madeOf id := by
  obtain ⟨cell, found, -⟩ := Option.bind_eq_some_iff.1 mine
  exact (booked.mem_madeOf_iff_sinkOf ((SortedMap.contains_iff _ _).2 ⟨cell, found⟩) id).2 mine

namespace World

/-- The channel of a detector is there, and no report waits in it. -/
def IsVacant (id : DetectorId) (world : World α) : Prop :=
  ∃ channel, world.channel? id = some channel ∧ channel.queue = []

/-- A flagged access is captured: it is told of, its report is the only one that waits, and nothing
is told of a report that was lost. -/
structure Captures (id : DetectorId) (sighting : Sighting) (before after : World α) : Prop where
  /-- The report waits. -/
  waiting : ∃ channel, after.channel? id = some channel ∧ channel.queue = [sighting]
  /-- It was not lost. -/
  alarms : after.alarms = .raced sighting :: before.alarms

variable {world next : World α} {id : DetectorId}

/-- Taking all reports leaves none. -/
theorem isVacant_of_drain {detector : Detector} {channel : Channel Sighting}
    (found : world.detectors.get? id = some detector) (used : detector.inUse = true)
    (opened : detector.channel = some channel) : (world.step (.drain id)).1.IsVacant id := by
  refine ⟨channel.drain.2, ?_, rfl⟩
  have drained : (world.step (.drain id)).1 = world.setDetector id detector.drain.2 := by
    simp only [World.step, World.ifInUse, found, used, ↓reduceIte]
  rw [drained, channel?_setDetector, drain_eq, opened]
  rfl

/-- A flagged access to a value of a detector with an empty channel is captured. -/
theorem captures_of_vacant (fitted : world.IsFitted) (vacant : world.IsVacant id)
    {sighting : Sighting} (denounces : Denounces world next sighting)
    (mine : world.sinkOf sighting.value = some id) : Captures id sighting world next := by
  obtain ⟨channel, opened, empty⟩ := vacant
  obtain ⟨detector, found, stored⟩ := Option.bind_eq_some_iff.1 opened
  have room : 0 < channel.capacity := (fitted id detector found).pos_capacity stored
  have taken : channel.offer? sighting ≠ none := by
    rw [Ne, Channel.offer?_eq_none_iff, Channel.size, empty]
    exact fun full => absurd full (Nat.ne_of_lt room)
  obtain ⟨longer, offered⟩ := Option.ne_none_iff_exists'.1 taken
  constructor
  · refine ⟨longer, ?_, ?_⟩
    · rw [denounces.channels, if_pos mine, opened, Option.map_some, offered, Option.getD_some]
    · rw [(Channel.queue_of_offer? offered).1, empty, List.nil_append]
  · rw [denounces.alarms, refusals, mine, Option.bind_some, opened]
    simp [offered]

/-- What is done with a detector without a flagged access leaves an empty channel empty. -/
theorem IsVacant.dealing (vacant : world.IsVacant id) {holds : List Hold}
    {receipts : List (Received Sighting)} (dealing : Dealing id world holds receipts next)
    (alarms : next.alarms = world.alarms) : next.IsVacant id := by
  obtain ⟨channel, opened, empty⟩ := vacant
  cases dealing with
  | calm calm => exact ⟨channel, calm.channel.trans opened, empty⟩
  | denounced handle denounces =>
    have more := congrArg List.length (denounces.alarms.symm.trans alarms)
    simp only [List.length_append, List.length_cons] at more
    omega
  | built new handle sinks =>
    rw [channel?, new] at opened
    cases opened
  | attached used new handle sinks same => exact ⟨channel, same.trans opened, empty⟩
  | detached mine handle sinks same => exact ⟨channel, same.trans opened, empty⟩
  | released used handle sinks same => exact ⟨channel, same.trans opened, empty⟩
  | drained used handle sinks same =>
    rw [opened] at same
    exact ⟨_, same, rfl⟩
  | @received _ current found handle sinks same =>
    have waiting : current.queue = [] := by
      rw [found] at opened
      cases opened
      exact empty
    refine ⟨_, same, ?_⟩
    rw [(Channel.receive_of_nil waiting _).2]

end World

variable {past : History} {scene next : Scene α} {id : DetectorId}

/-- A move that flags no access to a value of a detector leaves an empty channel empty. -/
theorem isVacant_of_perform? (run : Run past scene) (vacant : scene.world.IsVacant id)
    {move : Move α} {happenings : List Happening}
    (performed : scene.perform? move = some (next, happenings))
    (unflagged : ∀ value ∈ past.madeOf id, History.flagged happenings value = []) :
    next.world.IsVacant id := by
  have turn := Scene.turn_of_perform? (numbered_of_run run) performed
  by_cases told : ∃ thread value kind sighting,
      .accessed thread value kind (some sighting) ∈ happenings
  · obtain ⟨thread, value, kind, sighting, told⟩ := told
    obtain ⟨-, _, -, -, -, about, -, -⟩ := turn.fits _ told
    have elsewhere : scene.world.sinkOf sighting.value ≠ some id := by
      rw [about]
      intro mine
      have flagged : thread ∈ History.flagged happenings value :=
        History.mem_flagged_iff.2 ⟨kind, sighting, told⟩
      rw [unflagged value ((booked_of_run run).mem_madeOf_of_sinkOf mine)] at flagged
      cases flagged
    obtain ⟨channel, opened, empty⟩ := vacant
    refine ⟨channel, ?_, empty⟩
    rw [(turn.denounces told).channels, if_neg elsewhere, opened]
  · have alarms := turn.alarms_of_unflagged fun thread value kind sighting member =>
      told ⟨thread, value, kind, sighting, member⟩
    exact vacant.dealing (Scene.dealing_of_perform? run performed id) alarms

/-- All reports of a detector that is in use were taken, and since then no access to a value of it
was flagged. -/
inductive Drained (id : DetectorId) : History → Scene α → Prop where
  /-- All reports are taken. -/
  | drain {past told : History} {scene next : Scene α} {detector : Detector}
      (run : Run past scene) (found : scene.world.detectors.get? id = some detector)
      (used : detector.inUse = true) (captured : detector.config.capture.enabled = true)
      (performed : scene.perform? (.step (.drain id)) = some (next, told)) :
      Drained id (told ++ past) next
  /-- Somebody moves, and no access to a value of the detector is flagged. -/
  | tail {past happenings : History} {scene next : Scene α} {move : Move α}
      (drained : Drained id past scene)
      (performed : scene.perform? move = some (next, happenings))
      (unflagged : ∀ value ∈ past.madeOf id, History.flagged happenings value = []) :
      Drained id (happenings ++ past) next

/-- What drains a detector is a run. -/
theorem Drained.run (drained : Drained id past scene) : Run past scene := by
  induction drained with
  | drain run found used captured performed => exact run.tail performed
  | tail drained performed unflagged ih => exact ih.tail performed

/-- As long as no access to a value of it is flagged, the channel stays empty. -/
theorem Drained.isVacant (drained : Drained id past scene) : scene.world.IsVacant id := by
  induction drained with
  | @drain past told scene next detector run found used captured performed =>
    obtain ⟨channel, opened⟩ := (isFitted_of_run run id detector found).exists_channel captured
    have bearing := Scene.bearing_of_perform? performed
    generalize next.world = world at bearing ⊢
    cases bearing with
    | silent other silent => exact absurd rfl (other _)
    | step still => exact World.isVacant_of_drain found used opened
  | tail drained performed unflagged ih =>
    exact isVacant_of_perform? drained.run ih performed unflagged

/-- What becomes of a configuration. -/
structure DetectorConfig.Judged (config : DetectorConfig) : Prop where
  /-- It is accepted exactly if captured reports have room and the level is one of the five. -/
  accepted : config.validate = .ok () ↔ config.HasRoom ∧ config.HasLevel
  /-- The level of one that is accepted has basic characters only. -/
  basic : config.validate = .ok () →
    ∀ char ∈ config.logging.level.toList, Text.isBasic char = true
  /-- A detector is made of it exactly if it is accepted and the channel is feasible. -/
  made : (∃ detector, Detector.new config = .ok detector) ↔
    config.validate = .ok () ∧ config.IsFeasible
  /-- If it is not accepted, the reason is given. -/
  refused : ∀ reason, config.validate = .error reason →
    Detector.new config = .error (.config reason)
  /-- If it is accepted and the channel is not feasible, that is denied. -/
  denied : config.validate = .ok () → ¬ config.IsFeasible →
    ∃ reason, Detector.new config = .error (.denied reason)

/-- Of each configuration becomes what is said of it. -/
theorem DetectorConfig.judged (config : DetectorConfig) : config.Judged where
  accepted := validate_eq_ok_iff
  basic := fun accepted _ member => isBasic_of_toLower_mem (validate_eq_ok_iff.1 accepted).2 member
  made := by
    simp only [Detector.new_eq_ok_iff, exists_and_left, exists_eq, and_true]
  refused := fun reason refused => by simp only [Detector.new, refused]
  denied := fun accepted huge => by
    rw [← Detector.denial?_eq_none_iff] at huge
    obtain ⟨reason, denied⟩ := Option.ne_none_iff_exists'.1 huge
    exact ⟨reason, by simp only [Detector.new, accepted, denied]⟩

/-- A configuration is accepted exactly if it is usable, and a detector is made of each that is
accepted and has a feasible channel. However a detector was made and whatever happened since, it has
no channel or one of the size that its configuration asks for, with room for one report at least. So
the first flagged access after all reports were taken is captured. -/
theorem usable_exact :
    (∀ config : DetectorConfig, config.Judged) ∧
    (∀ detector, detector = Detector.standard ∨ (∃ config, Detector.new config = .ok detector) →
      detector.IsFitted) ∧
    ∀ {past : History} {scene : Scene α}, Run past scene →
      scene.world.IsFitted ∧
      ∀ id, Drained id past scene → ∀ move next happenings thread value kind sighting,
        scene.perform? move = some (next, happenings) →
          .accessed thread value kind (some sighting) ∈ happenings →
            scene.world.sinkOf value = some id →
              World.Captures id sighting scene.world next.world := by
  refine ⟨DetectorConfig.judged, ?_, fun {past scene} run => ⟨isFitted_of_run run, ?_⟩⟩
  · rintro detector (rfl | ⟨config, made⟩)
    · exact Detector.isFitted_standard
    · exact Detector.isFitted_of_new made
  · intro id drained move next happenings thread value kind sighting performed flagged mine
    have turn := Scene.turn_of_perform? (numbered_of_run run) performed
    obtain ⟨-, _, -, -, -, about, -, -⟩ := turn.fits _ flagged
    have sink : scene.world.sinkOf sighting.value = some id := by rw [about, mine]
    exact World.captures_of_vacant (isFitted_of_run run) drained.isVacant (turn.denounces flagged)
      sink

/-- Two threads write to a value without knowing of each other. -/
def unawareMoves : List (Move Nat) :=
  [.step (.spawn none false), .step (.spawn none false), .step (.newDetector none),
    .step (.newValue 7 (some ⟨0⟩) none), .access ⟨0⟩ ⟨0⟩ .write, .finish ⟨0⟩ Nat.succ,
    .access ⟨1⟩ ⟨0⟩ .write, .finish ⟨1⟩ Nat.succ]

/-- The level may be spelled in any case. After the report of one write was taken, and a look at the
value, the report of the next one is captured. -/
theorem first_report_after_drain :
    (DetectorConfig.mk .standard .standard ⟨"WaRn", true⟩).validate = .ok () ∧
    ∃ (past : History) (scene next : Scene Nat), Drained ⟨0⟩ past scene ∧
      World.Captures ⟨0⟩ lateSighting scene.world next.world := by
  obtain ⟨judged, -, captured⟩ := usable_exact (α := Nat)
  have run : Run _ _ := Path.refl.playOut? unawareMoves rfl
  have taken : Drained ⟨0⟩ _ _ := .drain run rfl rfl rfl rfl
  have looked : Drained ⟨0⟩ _ _ :=
    taken.tail (rfl : Scene.perform? _ (.look ⟨1⟩ ⟨0⟩) = some _) (by decide)
  have kept := (captured looked.run).2 ⟨0⟩ looked (.access ⟨0⟩ ⟨0⟩ .write) _ _ ⟨0⟩ ⟨0⟩ .write _ rfl
    (List.mem_singleton_self _) rfl
  exact ⟨(judged _).accepted.2 ⟨.inr (by decide), by decide +kernel⟩, _, _, _, looked, kept⟩

/-- A buffer of so many reports that they cannot be addressed. -/
def hugeBuffer : DetectorConfig := ⟨.standard, ⟨true, 2305843009213693952⟩, .standard⟩

/-- Some accepted configurations make no detector. -/
theorem no_detector_with_hugeBuffer :
    hugeBuffer.validate = .ok () ∧ Detector.new hugeBuffer = .error (.denied .unaddressable) ∧
      ¬ ∀ config : DetectorConfig,
        (∃ detector, Detector.new config = .ok detector) ↔ config.validate = .ok () := by
  have accepted : hugeBuffer.validate = .ok () := by decide +kernel
  have denied : Detector.new hugeBuffer = .error (.denied .unaddressable) := by
    have unaddressable : Detector.denial? hugeBuffer = some .unaddressable := by decide
    simp only [Detector.new, accepted, unaddressable]
  refine ⟨accepted, denied, fun exact' => ?_⟩
  obtain ⟨detector, made⟩ := (exact' hugeBuffer).2 accepted
  rw [denied] at made
  cases made

end RaceSentry
