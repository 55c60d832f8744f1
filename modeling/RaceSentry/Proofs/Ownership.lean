import Mathlib.Data.List.Nodup
import RaceSentry.Proofs.Dealing

/-!
# Who keeps a channel open

A detector shares its sink with its values, and its capture with the sink. Both are counted: each
owner that is made adds one, each owner that is gone takes one away, and the last one takes away
what was owned with all that it owned itself. The capture has the only end of the channel that
reports are sent to. Here the counts are followed through a run, by what is done alone, and turn out
to be those of the detector in use and of its values that exist, in whatever order they are made and
dropped. Main statements: `owned_of_told` and `pos_capture_iff`.
-/

namespace RaceSentry

variable {α β : Type}

/-- A path with what is told of each of its moves, latest first. -/
inductive Told (tell : Scene α → Move α → List β) (start : Scene α) :
    List β → History → Scene α → Prop where
  /-- Nobody moves. -/
  | refl : Told tell start [] [] start
  /-- One more move. -/
  | tail {tale : List β} {past : History} {happenings : List Happening} {scene next : Scene α}
      {move : Move α} (before : Told tell start tale past scene)
      (performed : scene.perform? move = some (next, happenings)) :
      Told tell start (tell scene move ++ tale) (happenings ++ past) next

namespace Told

variable {tell : Scene α → Move α → List β} {start middle scene : Scene α} {tale : List β}
  {past : History}

/-- Moves of which something is told lead along a path. -/
theorem path (told : Told tell start tale past scene) : Path start past scene := by
  induction told with
  | refl => exact .refl
  | tail before performed ih => exact ih.tail performed

/-- Of every path something is told. -/
theorem of_path (path : Path start past scene) : ∃ tale, Told tell start tale past scene := by
  induction path with
  | refl => exact ⟨_, .refl⟩
  | tail path performed ih =>
    obtain ⟨tale, told⟩ := ih
    exact ⟨_, told.tail performed⟩

end Told

/-- What comes of moves one after another, if all of them can be made, and what is told of them. -/
def Scene.retell? (tell : Scene α → Move α → List β) (scene : Scene α) (tale : List β)
    (past : History) : List (Move α) → Option (Scene α × List β × History)
  | [] => some (scene, tale, past)
  | move :: rest =>
    match scene.perform? move with
    | none => none
    | some (next, happenings) =>
      next.retell? tell (tell scene move ++ tale) (happenings ++ past) rest

/-- Moves that can be made one after another make a path with a tale. -/
theorem Told.retell? {tell : Scene α → Move α → List β} {start middle scene : Scene α}
    {tale tale' : List β} {past later : History} (told : Told tell start tale past middle)
    (moves : List (Move α))
    (played : middle.retell? tell tale past moves = some (scene, tale', later)) :
    Told tell start tale' later scene := by
  induction moves generalizing middle tale past with
  | nil =>
    cases played
    exact told
  | cons move rest ih =>
    unfold Scene.retell? at played
    split at played
    · cases played
    · rename_i performed
      exact ih (told.tail performed) played

/-- How many own the parts that a detector shares with its values. -/
structure Owners where
  /-- Owners of the sink. -/
  sink : Nat
  /-- Owners of the capture, and with it of the sending end of the channel. -/
  capture : Nat
  deriving DecidableEq

namespace Owners

/-- An owner of the capture lets go. -/
def dropCapture (owners : Owners) : Owners := { owners with capture := owners.capture - 1 }

/-- An owner of the sink lets go. With the last one the sink is gone, which owned the capture. -/
def dropSink (owners : Owners) : Owners :=
  if owners.sink = 1 then { owners.dropCapture with sink := 0 }
  else { owners with sink := owners.sink - 1 }

/-- A detector is made with a capture that it shares with its sink. A value takes hold of the sink
and lets go of it; a detector that is given up lets go of both. -/
def follow (owners : Owners) : Hold → Owners
  | .built => ⟨1, 2⟩
  | .attached _ => { owners with sink := owners.sink + 1 }
  | .detached _ => owners.dropSink
  | .released => owners.dropCapture.dropSink

/-- The owners after all that was done, latest first. -/
def after (holds : List Hold) : Owners := holds.foldr (fun hold owners => owners.follow hold) ⟨0, 0⟩

/-- The counts are right: the detector in use, if it is, and each of its values own the sink, and
the detector and the sink own the capture. -/
structure Counts (handles values : Nat) (owners : Owners) : Prop where
  /-- Owners of the sink are counted. -/
  sink : owners.sink = handles + values
  /-- Owners of the capture are counted. -/
  capture : owners.capture = handles + if 0 < owners.sink then 1 else 0

namespace Counts

variable {handles values : Nat} {owners : Owners}

/-- A new detector owns the sink and the capture, and the sink owns the capture. -/
theorem built (owners : Owners) : Counts 1 0 (owners.follow .built) := ⟨rfl, rfl⟩

/-- Values are made of a detector in use. -/
theorem attached (counts : Counts 1 values owners) (value : ValueId) :
    Counts 1 (values + 1) (owners.follow (.attached value)) := by
  obtain ⟨sink, capture⟩ := counts
  rw [if_pos (by omega)] at capture
  refine ⟨by rw [follow, sink, Nat.add_assoc], ?_⟩
  rw [follow, capture, if_pos (Nat.succ_pos _)]

/-- The last owner of the sink takes it away, whoever that is. -/
theorem dropSink {values' : Nat} (sink : owners.sink = handles + values')
    (fewer : values' = values + 1)
    (capture : owners.capture = handles + 1) : Counts handles values owners.dropSink := by
  unfold Owners.dropSink
  split
  · rename_i last
    refine ⟨by change 0 = handles + values; omega, ?_⟩
    change owners.capture - 1 = handles + if 0 < 0 then 1 else 0
    rw [if_neg (Nat.lt_irrefl 0)]
    omega
  · rename_i more
    refine ⟨by change owners.sink - 1 = handles + values; omega, ?_⟩
    change owners.capture = handles + if 0 < owners.sink - 1 then 1 else 0
    rw [if_pos (by omega)]
    omega

/-- The counts are right after a value lets go of its sink. -/
theorem detached (counts : Counts handles (values + 1) owners) (value : ValueId) :
    Counts handles values (owners.follow (.detached value)) := by
  obtain ⟨sink, capture⟩ := counts
  rw [if_pos (by omega)] at capture
  exact dropSink sink rfl capture

/-- A detector that is given up lets go of the capture first. -/
theorem released (counts : Counts 1 values owners) :
    Counts 0 values (owners.follow .released) := by
  obtain ⟨sink, capture⟩ := counts
  rw [if_pos (by omega)] at capture
  have sink' : owners.dropCapture.sink = 0 + (values + 1) := by
    change owners.sink = _
    omega
  have capture' : owners.dropCapture.capture = 0 + 1 := by
    change owners.capture - 1 = _
    omega
  exact dropSink sink' rfl capture'

/-- The capture is owned while the detector is in use or a value of it exists. -/
theorem pos_capture_iff (counts : Counts handles values owners) :
    0 < owners.capture ↔ 0 < handles ∨ 0 < values := by
  obtain ⟨sink, capture⟩ := counts
  rw [capture, sink]
  split
  · omega
  · omega

end Counts

end Owners

namespace Hold

/-- The values that were made of the detector and not taken away. -/
def survivors : List Hold → List ValueId
  | [] => []
  | .attached value :: earlier => value :: survivors earlier
  | .detached value :: earlier => (survivors earlier).erase value
  | .built :: earlier => survivors earlier
  | .released :: earlier => survivors earlier

end Hold

namespace World

/-- How many handles of a detector are in use. -/
def handles (world : World α) (id : DetectorId) : Nat :=
  if world.handle? id = some true then 1 else 0

/-- What was done with a detector has left these owners. -/
structure Owned (world : World α) (id : DetectorId) (holds : List Hold) : Prop where
  /-- Nothing is done with a detector before it is made. -/
  absent : world.handle? id = none → holds = []
  /-- Values were made and not taken away if they exist. -/
  values : ∀ value, value ∈ Hold.survivors holds ↔ world.sinkOf value = some id
  /-- They were made once. -/
  once : (Hold.survivors holds).Nodup
  /-- They and the detector are counted. -/
  counts : (Owners.after holds).Counts (world.handles id) (Hold.survivors holds).length

namespace Owned

variable {world next : World α} {id : DetectorId} {holds : List Hold}

/-- Where nothing exists, nothing is owned. -/
theorem empty (id : DetectorId) : Owned (World.empty : World α) id [] :=
  ⟨fun _ => rfl, fun _ => iff_of_false nofun nofun, .nil, ⟨rfl, rfl⟩⟩

/-- What does not change the detector and its values changes no owner. -/
theorem of_same (owned : world.Owned id holds) (handle : next.handle? id = world.handle? id)
    (sinks : ∀ value, next.sinkOf value = some id ↔ world.sinkOf value = some id) :
    next.Owned id holds where
  absent := by
    rw [handle]
    exact owned.absent
  values := fun value => (owned.values value).trans (sinks value).symm
  once := owned.once
  counts := by
    rw [handles, handle]
    exact owned.counts

/-- Owners are counted through whatever is done with a detector. -/
theorem dealing (owned : world.Owned id holds) {done : List Hold}
    {receipts : List (Received Sighting)} (dealing : Dealing id world done receipts next) :
    next.Owned id (done ++ holds) := by
  cases dealing with
  | calm calm => exact owned.of_same calm.handle calm.sinks
  | denounced handle denounces =>
    exact owned.of_same handle fun value => by rw [denounces.sinks]
  | built new handle sinks =>
    have absent : holds = [] := owned.absent (by rw [handle?, new]; rfl)
    cases absent
    refine ⟨fun gone => ?_, fun value => ?_, .nil, ?_⟩
    · rw [handle] at gone
      cases gone
    · rw [sinks]
      exact owned.values value
    · rw [handles, if_pos handle]
      exact .built (Owners.after [])
  | @attached _ value used new handle sinks channel =>
    have fresh : value ∉ Hold.survivors holds := by
      rw [owned.values, new]
      exact (Option.some_ne_none id).symm
    have counts := owned.counts
    rw [handles, if_pos used] at counts
    refine ⟨fun gone => ?_, fun other => ?_, List.nodup_cons.2 ⟨fresh, owned.once⟩, ?_⟩
    · rw [handle] at gone
      cases gone
    · rw [sinks]
      change other ∈ value :: Hold.survivors holds ↔ _
      rw [List.mem_cons, owned.values]
      split
      · rename_i here
        exact iff_of_true (.inl here) rfl
      · rename_i elsewhere
        exact or_iff_right elsewhere
    · rw [handles, if_pos handle]
      exact counts.attached value
  | @detached _ value mine handle sinks channel =>
    have member := (owned.values value).2 mine
    have shorter := List.length_erase_add_one member
    have counts := owned.counts
    rw [← shorter] at counts
    refine ⟨fun gone => ?_, fun other => ?_, owned.once.erase value, ?_⟩
    · rw [handle] at gone
      rw [owned.absent gone] at member
      cases member
    · rw [sinks]
      change other ∈ (Hold.survivors holds).erase value ↔ _
      rw [owned.once.mem_erase_iff, owned.values]
      split
      · rename_i here
        exact iff_of_false (fun both => both.1 here) (Option.some_ne_none id).symm
      · rename_i elsewhere
        exact and_iff_right elsewhere
    · rw [handles, handle]
      exact counts.detached value
  | released used handle sinks channel =>
    have counts := owned.counts
    rw [handles, if_pos used] at counts
    refine ⟨fun gone => ?_, fun value => ?_, owned.once, ?_⟩
    · rw [handle] at gone
      cases gone
    · rw [sinks]
      exact owned.values value
    · rw [handles, handle, if_neg (by decide)]
      exact counts.released
  | drained used handle sinks channel =>
    exact owned.of_same (handle.trans used.symm) fun value => by rw [sinks]
  | received found handle sinks channel => exact owned.of_same handle fun value => by rw [sinks]

end Owned

end World

variable {id : DetectorId} {holds : List Hold} {past : History} {scene : Scene α}

/-- Owners are counted through every run. -/
theorem owned_of_told (told : Told (Move.holds id) Scene.empty holds past scene) :
    scene.world.Owned id holds := by
  induction told with
  | refl => exact .empty id
  | tail before performed ih =>
    exact ih.dealing (Scene.dealing_of_perform? before.path performed id)

/-- The sending end of a channel is owned exactly while the detector is in use or a value of it
exists. -/
theorem pos_capture_iff (told : Told (Move.holds id) Scene.empty holds past scene) :
    0 < (Owners.after holds).capture ↔ scene.world.Remains id := by
  have owned := owned_of_told told
  rw [owned.counts.pos_capture_iff, World.handles, List.length_pos_iff_exists_mem]
  refine or_congr ?_ (exists_congr owned.values)
  split
  · rename_i used
    exact iff_of_true Nat.one_pos used
  · rename_i unused
    exact iff_of_false (Nat.lt_irrefl 0) unused

end RaceSentry
