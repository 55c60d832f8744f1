import RaceSentry.Proofs.Conservation
import RaceSentry.Proofs.Ownership

/-!
# Reports are not lost when a detector is given up

The channel of a detector stays open while the detector or one of its values is there, and takes
reports all the while. When the last of them is gone nothing more comes in, and the receivers take
what waits, in order and once, before they are told that nothing will come.
Main statement: `no_report_lost_at_shutdown`.
-/

namespace RaceSentry

variable {α : Type}

namespace Channel

/-- What a receiver gets: what waits longest, or word that nothing does. -/
def front {β : Type} (channel : Channel β) (nothing : Received β) : Received β :=
  match channel.queue with
  | [] => nothing
  | message :: _ => .message message

/-- Who receives gets the report in front. -/
theorem receive_eq_front {β : Type} (channel : Channel β) (connected : Bool) :
    (channel.receive connected).1 =
      channel.front (if connected then .empty else .disconnected) := by
  cases waiting : channel.queue with
  | nil => rw [(receive_of_nil waiting connected).1, front, waiting]
  | cons message rest => rw [(receive_of_cons waiting connected).1, front, waiting]

end Channel

namespace World

/-- A flagged access to a value of a detector is counted and sent: the account of the value goes up
by one and no other does, and the report waits behind all others if there is room. -/
structure Reported (id : DetectorId) (value : ValueId) (sighting : Sighting)
    (before after : World α) : Prop where
  /-- The ledger counts the access. -/
  counted : ∃ ledger ledger', before.ledger? id = some ledger ∧ after.ledger? id = some ledger' ∧
    ∀ other, ledger'.races other = ledger.races other + if other = value then 1 else 0
  /-- The channel takes the report unless it is full. -/
  sent : ∃ channel channel', before.channel? id = some channel ∧
    after.channel? id = some channel' ∧ channel'.capacity = channel.capacity ∧
      channel'.queue =
        if channel.size < channel.capacity then channel.queue ++ [sighting] else channel.queue

variable {world next : World α} {id : DetectorId} {channel : Channel Sighting}

/-- A receiver gets what waits longest. -/
theorem receipt?_eq_front {receiver : Nat} (known : world.receivers[receiver]? = some id)
    (opened : world.channel? id = some channel) :
    world.receipt? id receiver =
      some (channel.front (if world.canReport id then .empty else .disconnected)) := by
  rw [receipt?_eq known opened, if_pos rfl, Channel.receive_eq_front]

/-- Nobody gets anything from a channel through the receiver of another one. -/
theorem eq_of_receipt? {receiver : Nat} {outcome : Received Sighting}
    (got : world.receipt? id receiver = some outcome) : world.receivers[receiver]? = some id := by
  unfold receipt? at got
  split at got
  · split at got
    · assumption
    · cases got
  · cases got

/-- A flagged access to a value of a detector is counted and sent, whether the detector is in use or
not. -/
theorem Denounces.reported {sighting : Sighting} (denounces : Denounces world next sighting)
    {value : ValueId} (about : sighting.value = value) (mine : world.sinkOf value = some id)
    (opened : world.channel? id = some channel) : Reported id value sighting world next := by
  have ledgers := denounces.ledgers id
  have channels := denounces.channels id
  rw [about, if_pos mine] at ledgers channels
  constructor
  · obtain ⟨detector, found, -⟩ := Option.bind_eq_some_iff.1 opened
    have ledger : world.ledger? id = some detector.ledger := by rw [ledger?, found]; rfl
    rw [ledger, Option.map_some] at ledgers
    exact ⟨_, _, ledger, ledgers, fun other => Ledger.races_count _ value other _⟩
  · rw [opened, Option.map_some] at channels
    refine ⟨channel, _, opened, channels, ?_⟩
    cases offered : channel.offer? sighting with
    | none =>
      have full := Channel.offer?_eq_none_iff.1 offered
      rw [Option.getD_none, if_neg (by omega)]
      exact ⟨rfl, rfl⟩
    | some longer =>
      have room : channel.size < channel.capacity := by
        have most := channel.bounded
        have notFull : channel.size ≠ channel.capacity := fun full => by
          rw [Channel.offer?_eq_none_iff.2 full] at offered
          cases offered
        change channel.queue.length ≠ channel.capacity at notFull
        change channel.queue.length < channel.capacity
        omega
      obtain ⟨queue, capacity⟩ := Channel.queue_of_offer? offered
      rw [Option.getD_some, if_pos room]
      exact ⟨capacity, queue⟩

/-- What the receivers got since nothing remains of a detector, latest first: the reports that
waited then, in order, and after the last of them that nothing will come. -/
structure Closing (channel : Channel Sighting) (id : DetectorId)
    (receipts : List (Received Sighting)) (world : World α) : Prop where
  /-- Nothing remains. -/
  gone : ¬ world.Remains id
  /-- What was taken and what still waits is what waited. -/
  emptied : ∃ taken rest silences, channel.queue = taken ++ rest ∧
    (world.channel? id).map Channel.queue = some rest ∧
      receipts.reverse = taken.map .message ++ List.replicate silences .disconnected ∧
        (0 < silences → rest = [])

namespace Closing

variable {receipts : List (Received Sighting)}

/-- Nobody can send a report any more. -/
theorem canReport_eq_false (closing : Closing channel id receipts world) :
    world.canReport id = false := by
  rw [← Bool.not_eq_true, canReport_iff]
  exact closing.gone

/-- When nothing of a detector remains, nobody has received anything since. -/
theorem begin (gone : ¬ world.Remains id) (opened : world.channel? id = some channel) :
    Closing channel id [] world :=
  ⟨gone, [], channel.queue, 0, rfl, by rw [opened]; rfl, rfl, fun some => nomatch some⟩

/-- What does not change the detector and its values keeps them gone, and the channel closed. -/
theorem of_same (closing : Closing channel id receipts world)
    (handle : next.handle? id = world.handle? id)
    (sinks : ∀ value, next.sinkOf value = some id ↔ world.sinkOf value = some id)
    (channels : next.channel? id = world.channel? id) : Closing channel id receipts next where
  gone := by
    rw [Remains, handle, exists_congr sinks]
    exact closing.gone
  emptied := by
    rw [channels]
    exact closing.emptied

/-- Only receivers do anything with a detector of which nothing remains. -/
theorem dealing (closing : Closing channel id receipts world) {done : List Hold}
    {got : List (Received Sighting)} (dealing : Dealing id world done got next) :
    Closing channel id (got ++ receipts) next := by
  have unused : world.handle? id ≠ some true := fun used => closing.gone (.inl used)
  have none : ∀ value, world.sinkOf value ≠ some id := fun value mine =>
    closing.gone (.inr ⟨value, mine⟩)
  cases dealing with
  | calm calm => exact closing.of_same calm.handle calm.sinks calm.channel
  | denounced handle denounces =>
    refine closing.of_same handle (fun value => by rw [denounces.sinks]) ?_
    rw [denounces.channels, if_neg (none _)]
  | built new handle sinks =>
    obtain ⟨_, _, _, _, open', _⟩ := closing.emptied
    rw [channel?, new] at open'
    cases open'
  | attached used new handle sinks channels => exact absurd used unused
  | detached mine handle sinks channels => exact absurd mine (none _)
  | released used handle sinks channels => exact absurd used unused
  | drained used handle sinks channels => exact absurd used unused
  | @received _ current found handle sinks channels =>
    obtain ⟨taken, rest, silences, whole, open', got, last⟩ := closing.emptied
    have waiting : current.queue = rest := by
      rw [found] at open'
      exact Option.some.inj open'
    refine ⟨?_, ?_⟩
    · simp only [Remains, handle, sinks]
      exact closing.gone
    · rw [channels, closing.canReport_eq_false, Option.map_some, List.singleton_append,
        List.reverse_cons, got]
      cases rest with
      | nil =>
        obtain ⟨outcome, left⟩ := Channel.receive_of_nil waiting false
        refine ⟨taken, [], silences + 1, whole, by rw [left], ?_, fun _ => rfl⟩
        rw [outcome, List.append_assoc, List.replicate_succ']
        rfl
      | cons report rest =>
        obtain ⟨outcome, left⟩ := Channel.receive_of_cons waiting false
        have never : silences = 0 := Nat.eq_zero_of_not_pos fun some =>
          List.cons_ne_nil _ _ (last some)
        refine ⟨taken ++ [report], rest, 0, ?_, by rw [left], ?_, fun some => ?_⟩
        · rw [whole, List.append_assoc, List.singleton_append]
        · rw [outcome, never, List.map_append]
          simp
        · exact absurd some (Nat.lt_irrefl 0)

end Closing

/-- What is closing goes on closing, whoever moves. -/
theorem closing_of_told {past later : History} {scene next : Scene α}
    {receipts : List (Received Sighting)} (run : Run past scene)
    (gone : ¬ scene.world.Remains id) (opened : scene.world.channel? id = some channel)
    (told : Told (Move.receipts id) scene receipts later next) :
    Closing channel id receipts next.world := by
  induction told with
  | refl => exact .begin gone opened
  | tail before performed ih =>
    exact ih.dealing (Scene.dealing_of_perform? (run.trans before.path) performed id)

end World

/-- The sending end of the channel is owned exactly while a detector or one of its values remains.
Till then no receiver is told that nothing will come, and every flagged access to a value that
remains is counted and sent, whether the detector is in use or not. After that the receivers get the
reports that wait, in order and once, and are told that nothing will come when there are no more,
for ever. -/
theorem no_report_lost_at_shutdown {id : DetectorId} {holds : List Hold} {past : History}
    {scene : Scene α} {channel : Channel Sighting}
    (run : Told (Move.holds id) Scene.empty holds past scene)
    (opened : scene.world.channel? id = some channel) :
    (0 < (Owners.after holds).capture ↔ scene.world.Remains id) ∧
    (scene.world.Remains id → ∀ receiver,
      scene.world.receipt? id receiver ≠ some .disconnected ∧
        (scene.world.receivers[receiver]? = some id →
          scene.world.receipt? id receiver = some (channel.front .empty))) ∧
    (∀ move next happenings thread value kind sighting,
      scene.perform? move = some (next, happenings) →
        .accessed thread value kind (some sighting) ∈ happenings →
          scene.world.sinkOf value = some id →
            World.Reported id value sighting scene.world next.world) ∧
    (¬ scene.world.Remains id → ∀ receipts later next,
      Told (Move.receipts id) scene receipts later next →
        World.Closing channel id receipts next.world ∧
          ∀ left, next.world.channel? id = some left → ∀ receiver,
            next.world.receivers[receiver]? = some id →
              next.world.receipt? id receiver = some (left.front .disconnected)) := by
  refine ⟨pos_capture_iff run, fun remains receiver => ?_, ?_, ?_⟩
  · have connected : scene.world.canReport id = true := (scene.world.canReport_iff id).2 remains
    have gets : scene.world.receivers[receiver]? = some id →
        scene.world.receipt? id receiver = some (channel.front .empty) := by
      intro known
      rw [World.receipt?_eq_front known opened, if_pos connected]
    refine ⟨fun told => ?_, gets⟩
    have got := (gets (World.eq_of_receipt? told)).symm.trans told
    cases waiting : channel.queue with
    | nil =>
      rw [Channel.front, waiting] at got
      cases got
    | cons report rest =>
      rw [Channel.front, waiting] at got
      cases got
  · intro move next happenings thread value kind sighting performed told mine
    have turn := Scene.turn_of_perform? (numbered_of_run run.path) performed
    obtain ⟨_, _, _, _, _, about, _, _⟩ := turn.fits _ told
    exact (turn.denounces told).reported about mine opened
  · intro gone receipts later next told
    have closing := World.closing_of_told run.path gone opened told
    refine ⟨closing, fun left opened' receiver known => ?_⟩
    rw [World.receipt?_eq_front known opened', closing.canReport_eq_false]
    rfl

/-- Two threads write to a value without knowing of each other, and its detector is given up. -/
def shutdownMoves : List (Move Nat) :=
  [.step (.spawn none false), .step (.spawn none false), .step (.newDetector none),
    .step (.newValue 7 (some ⟨0⟩) none), .step (.newReceiver ⟨0⟩), .step (.newReceiver ⟨0⟩),
    .access ⟨0⟩ ⟨0⟩ .write, .finish ⟨0⟩ id, .access ⟨1⟩ ⟨0⟩ .write, .finish ⟨1⟩ id,
    .step (.dropDetector ⟨0⟩)]

/-- Two receivers are asked in turn. -/
def receiveMoves : List (Move Nat) :=
  [.step (.receive 0), .step (.receive 1), .step (.receive 0)]

/-- The second write. -/
def earlySighting : Sighting := ⟨⟨0⟩, none, ⟨⟨1⟩, .write⟩, none, [⟨⟨⟨0⟩, .write⟩, 1, none⟩]⟩

/-- Another write of the first thread, after the detector was given up. -/
def lateSighting : Sighting := ⟨⟨0⟩, none, ⟨⟨0⟩, .write⟩, none, [⟨⟨⟨1⟩, .write⟩, 1, none⟩]⟩

/-- Two reports that wait when their detector is given up come in their order, and then nothing
comes. -/
theorem two_reports_outlive_detector :
    (∃ (holds : List Hold) (past : History) (scene next : Scene Nat),
      Told (Move.holds ⟨0⟩) Scene.empty holds past scene ∧
        scene.world.handle? ⟨0⟩ = some false ∧ 0 < (Owners.after holds).capture ∧
          scene.world.receipt? ⟨0⟩ 1 = some (.message earlySighting) ∧
            World.Reported ⟨0⟩ ⟨0⟩ lateSighting scene.world next.world) ∧
    ∃ (holds : List Hold) (past later : History) (scene next : Scene Nat)
      (channel : Channel Sighting) (receipts : List (Received Sighting)),
      Told (Move.holds ⟨0⟩) Scene.empty holds past scene ∧ ¬ 0 < (Owners.after holds).capture ∧
        channel.queue = [earlySighting, lateSighting] ∧
          Told (Move.receipts ⟨0⟩) scene receipts later next ∧
            receipts.reverse = [.message earlySighting, .message lateSighting, .disconnected] ∧
              World.Closing channel ⟨0⟩ receipts next.world := by
  constructor
  · have run : Told (Move.holds ⟨0⟩) (Scene.empty : Scene Nat) _ _ _ :=
      Told.refl.retell? shutdownMoves rfl
    obtain ⟨owned, heard, reported, -⟩ := no_report_lost_at_shutdown run rfl
    have remains := owned.1 (by decide)
    exact ⟨_, _, _, _, run, rfl, by decide, (heard remains 1).2 rfl,
      reported (.access ⟨0⟩ ⟨0⟩ .write) _ _ _ _ _ _ rfl (List.mem_singleton_self _) rfl⟩
  · have run : Told (Move.holds ⟨0⟩) (Scene.empty : Scene Nat) _ _ _ :=
      Told.refl.retell? (shutdownMoves ++
        [.access ⟨0⟩ ⟨0⟩ .write, .finish ⟨0⟩ id, .step (.dropValue ⟨0⟩)]) rfl
    obtain ⟨owned, -, -, closing⟩ := no_report_lost_at_shutdown run rfl
    have unowned : ¬ 0 < (Owners.after [.detached ⟨0⟩, .released, .attached ⟨0⟩, .built]).capture :=
      by decide
    have gone := fun remains => unowned (owned.2 remains)
    have closed := closing gone _ _ _ (Told.refl.retell? receiveMoves rfl)
    exact ⟨_, _, _, _, _, _, _, run, unowned, rfl, Told.refl.retell? receiveMoves rfl, rfl,
      closed.1⟩

end RaceSentry
