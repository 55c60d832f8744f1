import RaceSentry.Proofs.Records

/-!
# What is done with a detector

Of all that moves do, few things bear on who may still send reports to a detector and on which
reports wait: the detector is made or given up, a value of it is made or taken away, an access to
one is flagged, and reports are taken. The others leave its handle, its values and its channel as
they are. Main statement: `dealing_of_perform?`, a move does one of these things.
-/

namespace RaceSentry

variable {α : Type}

/-- What is done about the parts that a detector shares with its values. -/
inductive Hold where
  /-- The detector is made. -/
  | built
  /-- A value of it is made. -/
  | attached (value : ValueId)
  /-- A value of it is taken away. -/
  | detached (value : ValueId)
  /-- The detector is given up. -/
  | released
  deriving DecidableEq

namespace World

variable (world : World α)

/-- Whether a detector is in use, if it was ever made. -/
def handle? (id : DetectorId) : Option Bool := (world.detectors.get? id).map Detector.inUse

/-- A detector is in use, or a value of it exists. -/
def Remains (id : DetectorId) : Prop :=
  world.handle? id = some true ∨ ∃ value, world.sinkOf value = some id

/-- What a receiver of the channel of a detector gets. -/
def receipt? (id : DetectorId) (receiver : Nat) : Option (Received Sighting) :=
  match (world.step (.receive receiver)).2 with
  | .received outcome => if world.receivers[receiver]? = some id then some outcome else none
  | _ => none

/-- Reports may be sent to a detector while it or a value of it remains. -/
theorem canReport_iff (id : DetectorId) : world.canReport id = true ↔ world.Remains id := by
  have handle : ((world.detectors.get? id).map Detector.inUse).getD false = true ↔
      world.handle? id = some true := by
    rw [handle?]
    cases (world.detectors.get? id).map Detector.inUse with
    | none => simp
    | some used => simp
  have values : (world.cells.values.any fun cell => cell.sink = some id) = true ↔
      ∃ value, world.sinkOf value = some id := by
    simp only [SortedMap.values, List.any_map, List.any_eq_true, Function.comp_apply,
      decide_eq_true_eq, Prod.exists]
    constructor
    · rintro ⟨value, cell, member, sink⟩
      refine ⟨value, ?_⟩
      rw [sinkOf, (SortedMap.mem_entries_iff _ _ _).1 member]
      exact sink
    · rintro ⟨value, sink⟩
      obtain ⟨cell, found, sink⟩ := Option.bind_eq_some_iff.1 sink
      exact ⟨value, cell, (SortedMap.mem_entries_iff _ _ _).2 found, sink⟩
  rw [canReport, Bool.or_eq_true, handle, values]
  rfl

end World

namespace Step

/-- What a step does about the shared parts of a detector, by its reply. -/
def holds (id : DetectorId) (world : World α) : Step α → Reply α → List Hold
  | .newDetector _, .detector made => if made = id then [.built] else []
  | .newValue _ (some owner) _, .value value _ => if owner = id then [.attached value] else []
  | .dropValue value, .done => if world.sinkOf value = some id then [.detached value] else []
  | .intoInner value, .payload _ =>
    if world.sinkOf value = some id then [.detached value] else []
  | .dropDetector given, .done => if given = id then [.released] else []
  | _, _ => []

/-- What a step takes out of the channel of a detector through a receiver. -/
def receipts (id : DetectorId) (world : World α) : Step α → List (Received Sighting)
  | .receive receiver => (world.receipt? id receiver).toList
  | _ => []

end Step

namespace Move

/-- What a move does about the shared parts of a detector. -/
def holds (id : DetectorId) (scene : Scene α) : Move α → List Hold
  | .step given => given.holds id scene.world (scene.world.step given).2
  | _ => []

/-- What a move takes out of the channel of a detector through a receiver. -/
def receipts (id : DetectorId) (scene : Scene α) : Move α → List (Received Sighting)
  | .step given => given.receipts id scene.world
  | _ => []

end Move

namespace World

/-- Nothing is done with a detector. -/
structure Calm (id : DetectorId) (before after : World α) : Prop where
  /-- It is in use as before. -/
  handle : after.handle? id = before.handle? id
  /-- The same values are of it. -/
  sinks : ∀ value, after.sinkOf value = some id ↔ before.sinkOf value = some id
  /-- The same reports wait. -/
  channel : after.channel? id = before.channel? id

/-- All that a move can do with a detector, what it does about its shared parts, and what it takes
out of its channel through a receiver. -/
inductive Dealing (id : DetectorId) :
    World α → List Hold → List (Received Sighting) → World α → Prop where
  /-- Nothing. -/
  | calm {before after : World α} (calm : Calm id before after) : Dealing id before [] [] after
  /-- An access is flagged, to a value of it or not. -/
  | denounced {before after : World α} {sighting : Sighting}
      (handle : after.handle? id = before.handle? id)
      (denounces : Denounces before after sighting) : Dealing id before [] [] after
  /-- It is made. -/
  | built {before after : World α} (new : before.detectors.get? id = none)
      (handle : after.handle? id = some true)
      (sinks : ∀ value, after.sinkOf value = before.sinkOf value) :
      Dealing id before [.built] [] after
  /-- A value of it is made. -/
  | attached {before after : World α} {value : ValueId}
      (used : before.handle? id = some true) (new : before.sinkOf value = none)
      (handle : after.handle? id = some true)
      (sinks : ∀ other, after.sinkOf other = if other = value then some id else before.sinkOf other)
      (channel : after.channel? id = before.channel? id) :
      Dealing id before [.attached value] [] after
  /-- A value of it is taken away. -/
  | detached {before after : World α} {value : ValueId} (mine : before.sinkOf value = some id)
      (handle : after.handle? id = before.handle? id)
      (sinks : ∀ other, after.sinkOf other = if other = value then none else before.sinkOf other)
      (channel : after.channel? id = before.channel? id) :
      Dealing id before [.detached value] [] after
  /-- It is given up. -/
  | released {before after : World α} (used : before.handle? id = some true)
      (handle : after.handle? id = some false)
      (sinks : ∀ value, after.sinkOf value = before.sinkOf value)
      (channel : after.channel? id = before.channel? id) : Dealing id before [.released] [] after
  /-- Its reports are taken all at once. -/
  | drained {before after : World α} (used : before.handle? id = some true)
      (handle : after.handle? id = some true)
      (sinks : ∀ value, after.sinkOf value = before.sinkOf value)
      (channel : after.channel? id =
        (before.channel? id).map fun channel => channel.drain.2) : Dealing id before [] [] after
  /-- A receiver is asked for a report. -/
  | received {before after : World α} {channel : Channel Sighting}
      (found : before.channel? id = some channel)
      (handle : after.handle? id = before.handle? id)
      (sinks : ∀ value, after.sinkOf value = before.sinkOf value)
      (channel' : after.channel? id = some (channel.receive (before.canReport id)).2) :
      Dealing id before [] [(channel.receive (before.canReport id)).1] after

variable {world next : World α} {id : DetectorId}

/-- Doing nothing is calm. -/
theorem Calm.refl (id : DetectorId) (world : World α) : Calm id world world :=
  ⟨rfl, fun _ => .rfl, rfl⟩

/-- What is silent is calm for every detector. -/
theorem Silent.calm (silent : Silent world next) (id : DetectorId) : Calm id world next where
  handle := by rw [handle?, handle?, silent.detectors]
  sinks := fun value => by rw [silent.sinks]
  channel := silent.channel? id

/-- Another detector may change in any way. -/
theorem calm_of_insert {other : DetectorId} {detector : Detector} (different : id ≠ other)
    (detectors : next.detectors = world.detectors.insert other detector)
    (sinks : ∀ value, next.sinkOf value = some id ↔ world.sinkOf value = some id) :
    Calm id world next where
  handle := by rw [handle?, detectors, SortedMap.get?_insert_of_ne _ _ different, handle?]
  sinks := sinks
  channel := by rw [channel?, detectors, SortedMap.get?_insert_of_ne _ _ different, channel?]

/-- Storing one detector is calm for every other. -/
theorem calm_setDetector {other : DetectorId} (different : id ≠ other) (detector : Detector) :
    Calm id world (world.setDetector other detector) :=
  calm_of_insert different rfl fun _ => .rfl

/-- What is asked of another detector leaves this one alone. -/
theorem calm_ifInUse {other : DetectorId} {work : Detector → World α × Reply α}
    (worked : ∀ detector, world.detectors.get? other = some detector →
      Calm id world (work detector).1) : Calm id world (world.ifInUse other work).1 := by
  unfold ifInUse
  split
  · rename_i detector found
    split
    · exact worked detector found
    · exact .refl id world
  · exact .refl id world

/-- The detectors of values after one is made. -/
theorem sinkOf_addCell (cell : Cell α) (value : ValueId) :
    (world.addCell cell).1.sinkOf value =
      if value = ⟨world.made⟩ then cell.sink else world.sinkOf value := by
  change ((world.cells.insert ⟨world.made⟩ cell).get? value).bind Cell.sink = _
  rw [SortedMap.get?_insert]
  split
  · rfl
  · rfl

/-- A value that was not made is of no detector. -/
theorem sinkOf_made (numbered : Numbered world) : world.sinkOf ⟨world.made⟩ = none := by
  rw [sinkOf, get?_made_of_numbered numbered]
  rfl

/-- A value of another detector, or of none, leaves this one alone. -/
theorem calm_addCell (numbered : Numbered world) {cell : Cell α} (other : cell.sink ≠ some id) :
    Calm id world (world.addCell cell).1 where
  handle := rfl
  sinks := fun value => by
    rw [sinkOf_addCell]
    split
    · rename_i here
      rw [here, sinkOf_made numbered]
      exact iff_of_false other nofun
    · rfl
  channel := rfl

/-- Counting a race leaves every detector in use or out of use. -/
theorem handle?_tallyRace (sink : Option DetectorId) (sighting : Sighting) :
    (world.tallyRace sink sighting).handle? id = world.handle? id := by
  rw [handle?, detectors_tallyRace, handle?]
  split
  · rw [Option.map_map]
    rfl
  · rfl

/-- A detector that is handed a report stays in use or out of use. -/
theorem inUse_deliver (detector : Detector) (sighting : Sighting) :
    (detector.deliver sighting).1.inUse = detector.inUse := by
  unfold Detector.deliver
  split
  · rfl
  · split
    · rfl
    · rfl

/-- Sending a report leaves every detector in use or out of use. -/
theorem handle?_sendReport (sink : Option DetectorId) (sighting : Sighting) :
    (world.sendReport sink sighting).handle? id = world.handle? id := by
  rw [handle?, detectors_sendReport, handle?]
  split
  · rw [Option.map_map]
    congr 1
    funext detector
    exact inUse_deliver detector sighting
  · rfl

/-- A flagged access leaves detectors in use. -/
theorem handle?_flag (cell : Cell α) (sighting : Sighting) :
    (world.flag cell sighting).handle? id = world.handle? id := by
  rw [flag_eq, handle?_sendReport, handle?_tallyRace]
  rfl

/-- An access does nothing with a detector unless it is flagged. -/
theorem dealing_of_asksAccess {thread : ThreadId} {value : ValueId} {kind : AccessKind}
    {attempt : Attempt (Option Sighting)}
    (asked : world.AsksAccess thread value kind next attempt) (id : DetectorId) :
    Dealing id world [] [] next := by
  by_cases flagged : ∃ sighting, attempt = .begun (some sighting)
  · obtain ⟨_, rfl⟩ := flagged
    cases asked with
    | flagged cell lock found taken free on idle something =>
      have tallied := silent_tallyAccess world found ⟨thread, kind⟩
      have stored := get?_tallyAccess world value cell ⟨thread, kind⟩
      refine .denounced ?_ (((denounces_flag _ stored).after tallied).upTo
        (kept_take _ value lock).silent)
      change World.handle? (World.flag _ _ _) id = _
      rw [handle?_flag, (tallied.calm id).handle]
  · have silent := silent_of_asksAccess asked fun sighting same => flagged ⟨sighting, same⟩
    exact .calm (silent.calm id)

/-- What a thread is bears on no detector. -/
theorem silent_setThread (world : World α) (thread : ThreadId) (state : ThreadState) :
    Silent world (world.setThread thread state) :=
  ⟨fun _ => rfl, fun _ => rfl, rfl, rfl⟩

/-- Entering a section does nothing with a detector. -/
theorem silent_of_asksSection {thread : ThreadId} {value : ValueId} {attempt : Attempt Nat}
    (asked : world.AsksSection thread value next attempt) : Silent world next := by
  cases asked with
  | reentered cell lock found taken borrowed => exact .refl world
  | stalled cell lock found taken free busy => exact (kept_note world _ rfl).silent
  | entered cell lock found taken free idle =>
    have locked : ∀ cell : Cell α, ({ cell with lock := lock } : Cell α).account = cell.account :=
      fun _ => rfl
    exact ((kept_note world _ rfl).silent.trans (silent_adoptClock _ thread value cell.clock)).trans
      (kept_modifyCell _ value locked).silent

/-- What is asked of a detector is done, or turned down because it is not in use. -/
theorem ifInUse_cases (world : World α) (id : DetectorId)
    (work : Detector → World α × Reply α) :
    (∃ detector, world.detectors.get? id = some detector ∧ detector.inUse = true ∧
        world.ifInUse id work = work detector) ∨
      world.ifInUse id work = (world, .refused .noDetector) := by
  unfold ifInUse
  split
  · rename_i detector found
    split
    · rename_i used
      exact .inl ⟨detector, found, used, rfl⟩
    · exact .inr rfl
  · exact .inr rfl

/-- A detector that is there is in use or not. -/
theorem handle?_of_get? {detector : Detector} (found : world.detectors.get? id = some detector) :
    world.handle? id = some detector.inUse := by
  rw [handle?, found]
  rfl

/-- A detector that is stored is in use as it says itself. -/
theorem handle?_setDetector (detector : Detector) :
    (world.setDetector id detector).handle? id = some detector.inUse :=
  handle?_of_get? (SortedMap.get?_insert_self _ _ _)

/-- A detector that is stored has its own channel. -/
theorem channel?_setDetector (detector : Detector) :
    (world.setDetector id detector).channel? id = detector.channel := by
  rw [channel?, setDetector, SortedMap.get?_insert_self]
  rfl

/-- The channel of a detector that exists is its own. -/
theorem channel?_of_get? {detector : Detector} (found : world.detectors.get? id = some detector) :
    world.channel? id = detector.channel := by
  rw [channel?, found]
  rfl

/-- A detector that is made is in use. -/
theorem inUse_of_new {config : DetectorConfig} {detector : Detector}
    (made : Detector.new config = .ok detector) : detector.inUse = true := by
  unfold Detector.new at made
  split at made
  · cases made
  · split at made
    · cases made
    · cases made
      rfl

/-- A detector that is made takes the next number. -/
theorem dealing_of_equipped (unused : world.detectors.get? ⟨world.detectors.size⟩ = none)
    {detector : Detector} (used : detector.inUse = true)
    (detectors : next.detectors = world.detectors.insert ⟨world.detectors.size⟩ detector)
    (cells : next.cells = world.cells) :
    Dealing id world (if ⟨world.detectors.size⟩ = id then [.built] else []) [] next := by
  have sinks : ∀ value, next.sinkOf value = world.sinkOf value := fun value => by
    rw [sinkOf, cells, sinkOf]
  split
  · rename_i here
    rw [← here]
    refine .built unused ?_ sinks
    rw [handle?, detectors, SortedMap.get?_insert_self, Option.map_some, used]
  · rename_i other
    exact .calm (calm_of_insert (Ne.symm other) detectors fun value => by rw [sinks])

/-- Making a detector is one of the dealings with any detector. -/
theorem dealing_of_newDetector (unused : world.detectors.get? ⟨world.detectors.size⟩ = none)
    (config : Option String) :
    Dealing id world ((Step.newDetector config).holds id world (world.newDetector config).2) []
      (world.newDetector config).1 := by
  cases config with
  | none => exact dealing_of_equipped unused rfl rfl rfl
  | some text =>
    cases parsed : DetectorConfig.parse text with
    | error reason =>
      simp only [newDetector, parsed]
      exact .calm (.refl id world)
    | ok config =>
      cases made : Detector.new config with
      | error failure =>
        cases failure with
        | _ =>
          simp only [newDetector, parsed, made]
          exact .calm (.refl id world)
      | ok detector =>
        simp only [newDetector, parsed, made]
        exact dealing_of_equipped unused (inUse_of_new made) rfl rfl

/-- Making a value is one of the dealings with any detector. -/
theorem dealing_of_newValue (numbered : Numbered world) (payload : α)
    (owner : Option DetectorId) (label : Option String) :
    Dealing id world
      ((Step.newValue payload owner label).holds id world (world.newValue payload owner label).2) []
      (world.newValue payload owner label).1 := by
  cases owner with
  | none => exact .calm (calm_addCell numbered nofun)
  | some owner =>
    obtain ⟨detector, found, used, same⟩ | same := world.ifInUse_cases owner fun detector =>
      (world.setDetector owner (detector.register ⟨world.made⟩ label)).addCell
        (.new payload label detector.config.raceDetection.enabled (some owner))
    · have sinks : ∀ value, (world.newValue payload (some owner) label).1.sinkOf value =
          if value = ⟨world.made⟩ then some owner else world.sinkOf value := by
        intro value
        rw [newValue, same, sinkOf_addCell]
        rfl
      have detectors : (world.newValue payload (some owner) label).1.detectors =
          world.detectors.insert owner (detector.register ⟨world.made⟩ label) := by
        rw [newValue, same]
        rfl
      have made : (world.newValue payload (some owner) label).2 =
          .value ⟨world.made⟩ label := by
        rw [newValue, same]
        rfl
      rw [made, Step.holds]
      split
      · rename_i mine
        cases mine
        refine .attached ?_ (sinkOf_made numbered) ?_ sinks ?_
        · rw [handle?_of_get? found, used]
        · rw [handle?, detectors, SortedMap.get?_insert_self]
          exact congrArg some used
        · rw [channel?, detectors, SortedMap.get?_insert_self, channel?_of_get? found]
          rfl
      · rename_i other
        refine .calm (calm_of_insert (Ne.symm other) detectors fun value => ?_)
        rw [sinks]
        split
        · rename_i here
          rw [here, sinkOf_made numbered]
          exact iff_of_false (fun same => other (Option.some.inj same)) (Option.some_ne_none _).symm
        · rfl
    · rw [newValue, same]
      exact .calm (.refl id world)

/-- A value that is taken away is one of the detector or not. -/
theorem dealing_of_erased {value : ValueId} :
    Dealing id world (if world.sinkOf value = some id then [.detached value] else []) []
      { world with cells := world.cells.erase value } := by
  have sinks : ∀ other, ({ world with cells := world.cells.erase value } : World α).sinkOf other =
      if other = value then none else world.sinkOf other := by
    intro other
    rw [sinkOf, SortedMap.get?_erase]
    split
    · rfl
    · rfl
  split
  · rename_i mine
    exact .detached mine rfl sinks rfl
  · rename_i other
    refine .calm ⟨rfl, fun value' => ?_, rfl⟩
    rw [sinks]
    split
    · rename_i here
      rw [here]
      exact iff_of_false (Option.some_ne_none _).symm other
    · rfl

/-- Taking a value away is one of the dealings with any detector. -/
theorem dealing_of_removeCell {value : ValueId} {reply : Cell α → Reply α}
    {holds : Reply α → List Hold} (refused : ∀ reason, holds (.refused reason) = [])
    (done : ∀ cell, holds (reply cell) =
      if world.sinkOf value = some id then [.detached value] else []) :
    Dealing id world (holds (world.removeCell value reply).2) []
      (world.removeCell value reply).1 := by
  cases found : world.cells.get? value with
  | none =>
    simp only [removeCell, found, refused]
    exact .calm (.refl id world)
  | some cell =>
    cases held : cell.lock.isHeld with
    | true =>
      simp only [removeCell, found, held, ↓reduceIte, refused]
      exact .calm (.refl id world)
    | false =>
      simp only [removeCell, found, held, Bool.false_eq_true, ↓reduceIte, done]
      exact dealing_of_erased

/-- What a receiver of a channel gets is what its channel gives. -/
theorem receipt?_eq {receiver : Nat} {owner : DetectorId} {channel : Channel Sighting}
    (known : world.receivers[receiver]? = some owner)
    (open' : world.channel? owner = some channel) :
    world.receipt? id receiver =
      if owner = id then some (channel.receive (world.canReport owner)).1 else none := by
  obtain ⟨detector, found, opened⟩ := Option.bind_eq_some_iff.1 open'
  have reply : (world.step (.receive receiver)).2 =
      .received (channel.receive (world.canReport owner)).1 := by
    simp only [World.step, receive, known, found, opened, Option.bind_eq_bind, Option.bind_some]
  rw [receipt?, reply, known]
  simp only [Option.some.injEq]

/-- Receiving from the channel of a detector takes what waits longest. -/
theorem dealing_of_receive (receiver : Nat) :
    Dealing id world [] ((Step.receive receiver : Step α).receipts id world)
      (world.receive receiver).1 := by
  rw [Step.receipts]
  cases known : world.receivers[receiver]? with
  | none =>
    have refused : world.receive receiver = (world, .refused .noReceiver) := by
      simp only [receive, known]
      rfl
    have nothing : world.receipt? id receiver = none := by
      simp only [receipt?, World.step, refused]
    rw [refused, nothing]
    exact .calm (.refl id world)
  | some owner =>
    cases open' : world.channel? owner with
    | none =>
      have refused : world.receive receiver = (world, .refused .noReceiver) := by
        cases found : world.detectors.get? owner with
        | none =>
          simp only [receive, known, found, Option.bind_eq_bind, Option.bind_some,
            Option.bind_none]
        | some detector =>
          have closed : detector.channel = none := (channel?_of_get? found).symm.trans open'
          simp only [receive, known, found, closed, Option.bind_eq_bind, Option.bind_some,
            Option.bind_none]
      have nothing : world.receipt? id receiver = none := by
        simp only [receipt?, World.step, refused]
      rw [refused, nothing]
      exact .calm (.refl id world)
    | some channel =>
      obtain ⟨detector, found, opened⟩ := Option.bind_eq_some_iff.1 open'
      have after : (world.receive receiver).1 = world.setDetector owner
          { detector with channel := some (channel.receive (world.canReport owner)).2 } := by
        simp only [receive, known, found, opened, Option.bind_eq_bind, Option.bind_some]
      rw [receipt?_eq known open', after]
      split
      · rename_i mine
        cases mine
        refine .received open' ?_ (fun _ => rfl) (channel?_setDetector _)
        rw [handle?_setDetector, handle?_of_get? found]
      · rename_i other
        exact .calm (calm_setDetector (Ne.symm other) _)

/-- Taking all reports empties the channel and changes nothing else. -/
theorem drain_eq (detector : Detector) :
    detector.drain.2 =
      { detector with channel := detector.channel.map fun channel => channel.drain.2 } := by
  obtain ⟨config, ledger, channel, used⟩ := detector
  cases channel with
  | none => rfl
  | some channel => rfl

/-- Every step in which no thread acts does one of these things with a detector. -/
theorem dealing_of_step (numbered : Numbered world)
    (unused : world.detectors.get? ⟨world.detectors.size⟩ = none) {step : Step α}
    (still : step.isActed = false) :
    Dealing id world (step.holds id world (world.step step).2) (step.receipts id world)
      (world.step step).1 := by
  have ends (thread : ThreadId) (reply : Reply α) :
      Silent world (world.ifRunning thread (world.endThread thread, reply)).1 := by
    unfold ifRunning
    split
    · have left := (kept_leaveSections world (world.thread thread).sections).silent
      exact left.trans ⟨fun _ => rfl, fun _ => rfl, rfl, rfl⟩
    · exact .refl world
  cases step with
  | spawn name attach =>
    simp only [World.step]
    split
    · exact .calm (.refl id world)
    · exact .calm ((silent_spawn world name attach).calm id)
  | exit thread => exact .calm ((ends thread _).calm id)
  | crash thread => exact .calm ((ends thread _).calm id)
  | newDetector config => exact dealing_of_newDetector unused config
  | newValue payload owner label => exact dealing_of_newValue numbered payload owner label
  | dropDetector other =>
    simp only [World.step]
    obtain ⟨detector, found, used, same⟩ | same := world.ifInUse_cases other fun detector =>
      (world.setDetector other { detector with inUse := false }, .done)
    · rw [same, Step.holds]
      split
      · rename_i mine
        cases mine
        refine .released ?_ (handle?_setDetector _) (fun _ => rfl) ?_
        · rw [handle?_of_get? found, used]
        · rw [channel?_setDetector, channel?_of_get? found]
      · rename_i given
        exact .calm (calm_setDetector (Ne.symm given) _)
    · rw [same]
      exact .calm (.refl id world)
  | dropValue value => exact dealing_of_removeCell (fun _ => rfl) fun _ => rfl
  | intoInner value => exact dealing_of_removeCell (fun _ => rfl) fun _ => rfl
  | stats other => exact .calm (calm_ifInUse fun _ _ => .refl id world)
  | total other => exact .calm (calm_ifInUse fun _ _ => .refl id world)
  | config other => exact .calm (calm_ifInUse fun _ _ => .refl id world)
  | capture other => exact .calm (calm_ifInUse fun _ _ => .refl id world)
  | drain other =>
    simp only [World.step]
    obtain ⟨detector, found, used, same⟩ | same := world.ifInUse_cases other fun detector =>
      (world.setDetector other detector.drain.2, .reports detector.drain.1)
    · rw [same]
      by_cases mine : other = id
      · cases mine
        have handle : world.handle? id = some true := by rw [handle?_of_get? found, used]
        refine .drained handle ?_ (fun _ => rfl) ?_
        · rw [handle?_setDetector, drain_eq, used]
        · rw [channel?_setDetector, channel?_of_get? found, drain_eq]
      · exact .calm (calm_setDetector (Ne.symm mine) _)
    · rw [same]
      exact .calm (.refl id world)
  | newReceiver other =>
    refine .calm (calm_ifInUse fun detector _ => ?_)
    unfold newReceiver
    split
    · exact ⟨rfl, fun _ => .rfl, rfl⟩
    · exact .refl id world
  | receive receiver => exact dealing_of_receive receiver
  | enter thread value => cases still
  | leave thread => cases still
  | act thread action => cases still

end World

namespace Scene

open World

variable {scene next : Scene α} {past : History} {happenings : List Happening} {move : Move α}

/-- How a move can bear on detectors: not at all, as an access, or as a step in which no thread
acts. -/
inductive Bearing (scene : Scene α) : Move α → World α → Prop where
  /-- Not at all. -/
  | silent {move : Move α} {world : World α} (other : ∀ step, move ≠ .step step)
      (silent : Silent scene.world world) : Bearing scene move world
  /-- As an access. -/
  | access {thread : ThreadId} {value : ValueId} {kind : AccessKind} {world : World α}
      {attempt : Attempt (Option Sighting)}
      (asked : scene.world.AsksAccess thread value kind world attempt) :
      Bearing scene (.access thread value kind) world
  /-- As a step. -/
  | step {step : Step α} (still : step.isActed = false) :
      Bearing scene (.step step) (scene.world.step step).1

/-- A move bears on detectors by what is silent, by an access, or by a step. -/
theorem bearing_of_perform? (performed : scene.perform? move = some (next, happenings)) :
    scene.Bearing move next.world := by
  obtain ⟨running, outcome⟩ := perform?_eq_some_iff.1 performed
  cases outcome with
  | access asked => exact .access asked
  | stall asked => exact .access asked
  | reenter asked => exact .access asked
  | finish change frames => exact .silent nofun (kept_endAccess scene.world _ _).silent
  | enter asked => exact .silent nofun (silent_of_asksSection asked)
  | refuseEnter asked => exact .silent nofun (silent_of_asksSection asked)
  | leave frames => exact .silent nofun (kept_leaveSection scene.world _).silent
  | hold asked =>
    exact .silent nofun ((silent_of_asksSection asked).trans (silent_setThread _ _ _))
  | refuseHold asked => exact .silent nofun (silent_of_asksSection asked)
  | drop member =>
    have left := silent_setThread scene.world
    exact .silent nofun ((left _ _).trans (kept_leaveSection _ _).silent)
  | openContext idle => exact .silent nofun (kept_openContext scene.world running).silent
  | refuseContext busy => exact .silent nofun (.refl scene.world)
  | closeContext frames => exact .silent nofun (kept_closeContext scene.world running).silent
  | edit change bound busy known => exact .silent nofun (silent_bindContext scene.world _ _)
  | @attach thread context known idle =>
    have told : Silent scene.world (scene.world.noteAttached context) :=
      (kept_note scene.world _ rfl).silent
    exact .silent nofun (told.trans (silent_bindContext _ thread context))
  | refuseAttach known busy => exact .silent nofun (kept_note scene.world _ rfl).silent
  | look found admitted free => exact .silent nofun (.refl scene.world)
  | refuseLook found admitted borrowed => exact .silent nofun (kept_note scene.world _ rfl).silent
  | step still outside => exact .step still

/-- A move does one of these things with a detector. -/
theorem dealing_of_perform? (run : Run past scene)
    (performed : scene.perform? move = some (next, happenings)) (id : DetectorId) :
    Dealing id scene.world (move.holds id scene) (move.receipts id scene) next.world := by
  have bearing := bearing_of_perform? performed
  generalize next.world = world at bearing ⊢
  cases bearing with
  | silent other silent =>
    have nothing : move.holds id scene = [] ∧ move.receipts id scene = [] := by
      cases move with
      | step given => exact absurd rfl (other given)
      | _ => exact ⟨rfl, rfl⟩
    rw [nothing.1, nothing.2]
    exact .calm (silent.calm id)
  | access asked => exact dealing_of_asksAccess asked id
  | step still =>
    have unused : scene.world.detectors.get? ⟨scene.world.detectors.size⟩ = none := by
      rw [← Option.not_isSome_iff_eq_none]
      intro there
      exact Nat.lt_irrefl _ (((booked_of_run run).numbered _).1 there)
    exact dealing_of_step (numbered_of_run run) unused still

end Scene

end RaceSentry
