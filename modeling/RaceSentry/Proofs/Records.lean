import RaceSentry.Proofs.Alarms
import RaceSentry.Proofs.History

/-!
# Records of races agree

The racing threads of a value, the ledger of its detector and the journal are kept apart from each
other, and outlive each other. Here they are shown to be records of one thing, the flagged accesses
of the run, whatever was done to contexts by hand.
Main statements: `booked_of_run` and `records_agree`.
-/

namespace RaceSentry

open World

variable {α : Type}

namespace Happening

/-- The thread of a flagged access to a value. -/
def flagged? (value : ValueId) : Happening → Option ThreadId
  | .accessed thread other _ (some _) => if other = value then some thread else none
  | _ => none

/-- The value that is made of a detector. -/
def madeOf? (id : DetectorId) : Happening → Option ValueId
  | .made value _ (some sink) => if sink = id then some value else none
  | _ => none

/-- Whether a happening bears on records: a value is made, or an access is flagged. -/
def isRecorded : Happening → Bool
  | .made _ _ _ => true
  | .accessed _ _ _ (some _) => true
  | _ => false

end Happening

namespace History

variable (past : History)

/-- The threads of the flagged accesses to a value, latest first. -/
def flagged (value : ValueId) : List ThreadId := past.filterMap (Happening.flagged? value)

/-- The number of flagged accesses to a value. -/
def flags (value : ValueId) : Nat := (past.flagged value).length

/-- The values that were made of a detector, latest first. -/
def madeOf (id : DetectorId) : List ValueId := past.filterMap (Happening.madeOf? id)

variable {past : History} {happening : Happening}

/-- What is no recorded access flags nobody. -/
theorem flagged_cons_of_not_isRecorded (other : happening.isRecorded = false) (value : ValueId) :
    History.flagged (happening :: past) value = past.flagged value := by
  cases happening with
  | made _ _ _ => cases other
  | accessed thread target kind sighting =>
    cases sighting with
    | none => rfl
    | some sighting => cases other
  | _ => rfl

/-- What makes no value gives no detector one. -/
theorem madeOf_cons_of_not_isRecorded (other : happening.isRecorded = false) (id : DetectorId) :
    History.madeOf (happening :: past) id = past.madeOf id := by
  cases happening with
  | made _ _ _ => cases other
  | _ => rfl

/-- A flagged access flags its thread on its value. -/
theorem flagged_accessed (thread : ThreadId) (value other : ValueId) (kind : AccessKind)
    (sighting : Sighting) :
    History.flagged (.accessed thread value kind (some sighting) :: past) other =
      if other = value then thread :: past.flagged other else past.flagged other := by
  by_cases here : other = value
  · have found : (Happening.accessed thread value kind (some sighting)).flagged? other =
        some thread := if_pos here.symm
    rw [if_pos here, flagged, List.filterMap_cons_some found, flagged]
  · have elsewhere : (Happening.accessed thread value kind (some sighting)).flagged? other =
        none := if_neg (Ne.symm here)
    rw [if_neg here, flagged, List.filterMap_cons_none elsewhere, flagged]

/-- A value that is made is one of the detector it was made for. -/
theorem madeOf_made (value : ValueId) (detecting : Bool) (sink : Option DetectorId)
    (id : DetectorId) :
    History.madeOf (.made value detecting sink :: past) id =
      if sink = some id then value :: past.madeOf id else past.madeOf id := by
  cases sink with
  | none => rfl
  | some sink =>
    by_cases here : sink = id
    · have found : (Happening.made value detecting (some sink)).madeOf? id = some value :=
        if_pos here
      rw [if_pos (congrArg some here), madeOf, List.filterMap_cons_some found, madeOf]
    · have elsewhere : (Happening.made value detecting (some sink)).madeOf? id = none :=
        if_neg here
      rw [if_neg fun same => here (Option.some.inj same), madeOf,
        List.filterMap_cons_none elsewhere, madeOf]

/-- The values of a detector are those that were made for it. -/
theorem mem_madeOf_iff {value : ValueId} {id : DetectorId} :
    value ∈ past.madeOf id ↔ ∃ detecting, .made value detecting (some id) ∈ past := by
  rw [madeOf, List.mem_filterMap]
  constructor
  · rintro ⟨happening, member, made⟩
    cases happening with
    | made other detecting sink =>
      cases sink with
      | none => cases made
      | some sink =>
        simp only [Happening.madeOf?, Option.ite_none_right_eq_some, Option.some.injEq] at made
        obtain ⟨rfl, rfl⟩ := made
        exact ⟨detecting, member⟩
    | _ => cases made
  · rintro ⟨detecting, member⟩
    exact ⟨_, member, if_pos rfl⟩

/-- The flagged threads of a value are those whose accesses to it were flagged. -/
theorem mem_flagged_iff {thread : ThreadId} {value : ValueId} :
    thread ∈ past.flagged value ↔
      ∃ kind sighting, .accessed thread value kind (some sighting) ∈ past := by
  rw [flagged, List.mem_filterMap]
  constructor
  · rintro ⟨happening, member, made⟩
    cases happening with
    | accessed other target kind sighting =>
      cases sighting with
      | none => cases made
      | some sighting =>
        simp only [Happening.flagged?, Option.ite_none_right_eq_some, Option.some.injEq] at made
        obtain ⟨rfl, rfl⟩ := made
        exact ⟨kind, sighting, member⟩
    | _ => cases made
  · rintro ⟨kind, sighting, member⟩
    exact ⟨_, member, if_pos rfl⟩

end History

/-- How the records of a world agree with what happened. -/
structure Booked (past : History) (world : World α) : Prop where
  /-- The racing threads of a value are those with a flagged access to it. -/
  racing : ∀ value, world.cells.contains value = true →
    ∀ thread, (world.racing value).contains thread = true ↔ thread ∈ past.flagged value
  /-- A value was made of the detector that hears of it. -/
  sinks : ∀ value, world.cells.contains value = true →
    ∃ detecting, .made value detecting (world.sinkOf value) ∈ past
  /-- A value was made once. -/
  once : ∀ value detecting detecting' sink sink', .made value detecting sink ∈ past →
    .made value detecting' sink' ∈ past → sink = sink'
  /-- Values are of detectors that exist. -/
  makers : ∀ value detecting id, .made value detecting (some id) ∈ past →
    world.detectors.contains id = true
  /-- Detectors are numbered in the order of their making. -/
  numbered : ∀ id, world.detectors.contains id = true ↔ id.index < world.detectors.size
  /-- Values were made in the order of their numbers. -/
  descending : ∀ id, (past.madeOf id).Pairwise fun later earlier => earlier.index < later.index
  /-- Accounts are of values that were made of the detector, and count flagged accesses. -/
  ledgers : ∀ id ledger, world.ledger? id = some ledger → ∀ value,
    (SortedMap.get? ledger value).map LedgerEntry.races =
      if value ∈ past.madeOf id then some (past.flags value) else none

namespace Booked

variable {past : History} {world next : World α}

/-- Where nothing happened, the records are empty. -/
theorem empty : Booked [] (World.empty : World α) where
  racing := nofun
  sinks := nofun
  once := nofun
  makers := nofun
  numbered := fun _ => iff_of_false nofun (Nat.not_lt_zero _)
  descending := fun _ => .nil
  ledgers := nofun

/-- Records stay when no value is made and detectors stay as they are, up to channels. -/
theorem of_same (booked : Booked past world)
    (present : ∀ value, next.cells.contains value = true → world.cells.contains value = true)
    (racing : ∀ value, next.cells.contains value = true → next.racing value = world.racing value)
    (sinks : ∀ value, next.cells.contains value = true → next.sinkOf value = world.sinkOf value)
    (ledgers : ∀ id, next.ledger? id = world.ledger? id) : Booked past next := by
  have equipped : ∀ id, next.detectors.contains id = world.detectors.contains id := fun id => by
    rw [← isSome_ledger?, ledgers, isSome_ledger?]
  refine ⟨fun value here thread => ?_, fun value here => ?_, booked.once,
    fun value detecting id made => ?_, fun id => ?_, booked.descending, fun id ledger found => ?_⟩
  · rw [racing value here]
    exact booked.racing value (present value here) thread
  · rw [sinks value here]
    exact booked.sinks value (present value here)
  · rw [equipped]
    exact booked.makers value detecting id made
  · rw [equipped, SortedMap.size_eq_of_contains equipped]
    exact booked.numbered id
  · rw [ledgers] at found
    exact booked.ledgers id ledger found

/-- The records stay right while nothing is written down and the same values exist. -/
theorem of_silent (booked : Booked past world) (silent : Silent world next)
    (present : ∀ value, next.cells.contains value = world.cells.contains value) :
    Booked past next :=
  booked.of_same (fun value here => (present value).symm.trans here)
    (fun value _ => silent.racing value) (fun value _ => silent.sinks value) silent.ledger?

/-- What bears on no record leaves no trace in one. -/
theorem aside (booked : Booked past world) {happening : Happening}
    (other : happening.isRecorded = false) : Booked (happening :: past) world := by
  have old : ∀ {value detecting sink}, .made value detecting sink ∈ happening :: past →
      .made value detecting sink ∈ past := by
    intro value detecting sink member
    cases List.mem_cons.1 member with
    | inl same => rw [← same] at other; cases other
    | inr before => exact before
  refine ⟨fun value here thread => ?_, fun value here => ?_,
    fun value detecting detecting' sink sink' first second => ?_,
    fun value detecting id made => ?_, booked.numbered, fun id => ?_,
    fun id ledger found value => ?_⟩
  · rw [History.flagged_cons_of_not_isRecorded other]
    exact booked.racing value here thread
  · obtain ⟨detecting, member⟩ := booked.sinks value here
    exact ⟨detecting, List.mem_cons_of_mem _ member⟩
  · exact booked.once value detecting detecting' sink sink' (old first) (old second)
  · exact booked.makers value detecting id (old made)
  · rw [History.madeOf_cons_of_not_isRecorded other]
    exact booked.descending id
  · rw [History.madeOf_cons_of_not_isRecorded other, History.flags,
      History.flagged_cons_of_not_isRecorded other]
    exact booked.ledgers id ledger found value

/-- A value that exists is in the ledger of the detector that hears of it, and in no other. -/
theorem mem_madeOf_iff_sinkOf (booked : Booked past world) {value : ValueId}
    (here : world.cells.contains value = true) (id : DetectorId) :
    value ∈ past.madeOf id ↔ world.sinkOf value = some id := by
  obtain ⟨detecting, made⟩ := booked.sinks value here
  rw [History.mem_madeOf_iff]
  constructor
  · rintro ⟨detecting', member⟩
    exact booked.once value detecting detecting' _ _ made member
  · intro sink
    rw [sink] at made
    exact ⟨detecting, made⟩

/-- A flagged access is counted in the account of its value, and in no other. -/
theorem account_denounced (booked : Booked past world) {sighting : Sighting} {thread : ThreadId}
    {value : ValueId} (kind : AccessKind) (denounces : Denounces world next sighting)
    (about : sighting.value = value) (here : world.cells.contains value = true)
    {id : DetectorId} {ledger : Ledger} (found : next.ledger? id = some ledger)
    (other : ValueId) :
    (SortedMap.get? ledger other).map LedgerEntry.races =
      if other ∈ past.madeOf id then
        some (History.flags (.accessed thread value kind (some sighting) :: past) other)
      else none := by
  have mine := booked.mem_madeOf_iff_sinkOf here id
  rw [denounces.ledgers, about] at found
  rw [History.flags, History.flagged_accessed]
  split at found
  · rename_i sink
    obtain ⟨before, stored, rfl⟩ := Option.map_eq_some_iff.1 found
    have member : value ∈ past.madeOf id := mine.2 sink
    have account := booked.ledgers id before stored
    obtain ⟨entry, opened, counted⟩ :=
      Option.map_eq_some_iff.1 ((account value).trans (if_pos member))
    rw [Ledger.map_races_count opened, counted]
    by_cases same : other = value
    · rw [if_pos same, if_pos same, same, if_pos member, List.length_cons]
      rfl
    · rw [if_neg same, if_neg same, account]
      rfl
  · rename_i elsewhere
    have account := booked.ledgers id ledger found other
    by_cases same : other = value
    · have foreign : value ∉ past.madeOf id := fun member => elsewhere (mine.1 member)
      rw [same, if_neg foreign]
      rw [same, if_neg foreign] at account
      exact account
    · rw [if_neg same]
      exact account

/-- A flagged access is booked everywhere. -/
theorem denounced (booked : Booked past world) {sighting : Sighting} {thread : ThreadId}
    {value : ValueId} (kind : AccessKind) (denounces : Denounces world next sighting)
    (about : sighting.value = value) (actor : sighting.key.thread = thread)
    (here : world.cells.contains value = true)
    (present : ∀ other, next.cells.contains other = world.cells.contains other) :
    Booked (.accessed thread value kind (some sighting) :: past) next := by
  have equipped : ∀ id, next.detectors.contains id = world.detectors.contains id := by
    intro id
    rw [← isSome_ledger?, denounces.ledgers, ← isSome_ledger? world]
    split
    · exact Option.isSome_map
    · rfl
  have old : ∀ {other detecting sink},
      .made other detecting sink ∈ .accessed thread value kind (some sighting) :: past →
        .made other detecting sink ∈ past := by
    intro other detecting sink member
    cases member with
    | tail _ before => exact before
  refine ⟨fun other there racer => ?_, fun other there => ?_,
    fun other detecting detecting' sink sink' first second => ?_,
    fun other detecting id made => ?_, fun id => ?_, booked.descending,
    fun id ledger found => booked.account_denounced kind denounces about here found⟩
  · rw [present] at there
    have before := booked.racing other there racer
    rw [denounces.racing, History.flagged_accessed, about]
    split
    · rename_i same
      rw [SortedMap.contains_insert, Bool.or_eq_true, decide_eq_true_eq, List.mem_cons, actor]
      exact or_congr_right before
    · exact before
  · rw [present] at there
    obtain ⟨detecting, member⟩ := booked.sinks other there
    rw [denounces.sinks]
    exact ⟨detecting, List.mem_cons_of_mem _ member⟩
  · exact booked.once other detecting detecting' sink sink' (old first) (old second)
  · rw [equipped]
    exact booked.makers other detecting id (old made)
  · rw [equipped, SortedMap.size_eq_of_contains equipped]
    exact booked.numbered id

/-- Opening an account is registering the value that is made next. -/
theorem ledger?_openAccount (sink : Option DetectorId) (label : Option String)
    (id : DetectorId) :
    (world.openAccount sink label).ledger? id =
      if sink = some id then
        (world.ledger? id).map fun ledger => ledger.register ⟨world.made⟩ label
      else world.ledger? id := by
  cases sink with
  | none => rfl
  | some other =>
    cases found : world.detectors.get? other with
    | none =>
      have same : world.openAccount (some other) label = world := by
        simp only [openAccount, found]
      rw [same]
      split
      · rename_i here
        rw [← Option.some.inj here, ledger?, found]
        rfl
      · rfl
    | some detector =>
      have opened : world.openAccount (some other) label =
          world.setDetector other (detector.register ⟨world.made⟩ label) := by
        simp only [openAccount, found]
      rw [opened, ledger?_setDetector]
      by_cases here : id = other
      · rw [here, if_pos rfl, if_pos rfl, ledger?, found]
        rfl
      · rw [if_neg here, if_neg fun same => here (Option.some.inj same).symm]

/-- Nothing has happened to the value that is made next. -/
theorem unknown_of_dated (dated : past.Dated world) {happening : Happening}
    (member : happening ∈ past) : happening.value? ≠ some ⟨world.made⟩ :=
  fun about => Nat.lt_irrefl _ (dated.values happening member _ about)

/-- Nobody was flagged on a value that is yet to be made. -/
theorem flagged_of_dated (dated : past.Dated world) : past.flagged ⟨world.made⟩ = [] := by
  refine List.eq_nil_iff_forall_not_mem.2 fun thread member => ?_
  obtain ⟨kind, sighting, told⟩ := History.mem_flagged_iff.1 member
  exact unknown_of_dated dated told rfl

/-- Making the next value makes none for the second time. -/
theorem once_made (booked : Booked past world) (dated : past.Dated world) {value : ValueId}
    {made first second : Bool} {sink sink' sink'' : Option DetectorId}
    (member : .made value first sink' ∈ .made ⟨world.made⟩ made sink :: past)
    (member' : .made value second sink'' ∈ .made ⟨world.made⟩ made sink :: past) :
    sink' = sink'' := by
  cases List.mem_cons.1 member with
  | inl new =>
    cases List.mem_cons.1 member' with
    | inl new' =>
      cases new
      cases new'
      rfl
    | inr old =>
      cases new
      exact absurd rfl (unknown_of_dated dated old)
  | inr old =>
    cases List.mem_cons.1 member' with
    | inl new =>
      cases new
      exact absurd rfl (unknown_of_dated dated old)
    | inr old' => exact booked.once value first second sink' sink'' old old'

/-- The account of the value that is made next is added to the ledger of its detector. -/
theorem account_made (booked : Booked past world) (dated : past.Dated world)
    (label : Option String) (detecting : Bool) {sink : Option DetectorId} {id : DetectorId}
    {ledger : Ledger}
    (found : (world.openAccount sink label).ledger? id = some ledger) (value : ValueId) :
    (SortedMap.get? ledger value).map LedgerEntry.races =
      if value ∈ History.madeOf (.made ⟨world.made⟩ detecting sink :: past) id then
        some (past.flags value)
      else none := by
  rw [History.madeOf_made]
  rw [ledger?_openAccount] at found
  split at found
  · rename_i sunk
    obtain ⟨before, stored, rfl⟩ := Option.map_eq_some_iff.1 found
    rw [Ledger.map_races_register, if_pos sunk]
    by_cases here : value = ⟨world.made⟩
    · rw [if_pos here, here, History.flags, flagged_of_dated dated, if_pos List.mem_cons_self]
      rfl
    · rw [if_neg here, booked.ledgers id before stored]
      simp only [List.mem_cons, here, false_or]
  · rename_i other
    rw [if_neg other]
    exact booked.ledgers id ledger found value

/-- An account is opened for detectors that exist. -/
theorem contains_openAccount (sink : Option DetectorId) (label : Option String)
    (id : DetectorId) :
    (world.openAccount sink label).detectors.contains id = world.detectors.contains id := by
  rw [← isSome_ledger?, ledger?_openAccount, ← isSome_ledger? world]
  split
  · exact Option.isSome_map
  · rfl

/-- A value that is made has an account with its detector, in which nothing is counted. -/
theorem registered (booked : Booked past world) (dated : past.Dated world) (payload : α)
    (label : Option String) (detecting : Bool) {sink : Option DetectorId}
    (known : ∀ id, sink = some id → world.detectors.contains id = true) :
    Booked (.made ⟨world.made⟩ detecting sink :: past)
      ((world.openAccount sink label).addCell (.new payload label detecting sink)).1 := by
  have cells : ∀ value, ((world.openAccount sink label).addCell
      (.new payload label detecting sink)).1.cells.get? value =
      if value = ⟨world.made⟩ then some (.new payload label detecting sink)
      else world.cells.get? value := by
    intro value
    change ((World.openAccount _ _ _).cells.insert ⟨(World.openAccount _ _ _).made⟩ _).get? _ = _
    rw [cells_openAccount, made_openAccount, SortedMap.get?_insert]
  have equipped : ∀ id, ((world.openAccount sink label).addCell
      (.new payload label detecting sink)).1.detectors.contains id =
      world.detectors.contains id := contains_openAccount sink label
  refine ⟨fun value there thread => ?_, fun value there => ?_,
    fun value first second sink' sink'' => booked.once_made dated,
    fun value detecting id made => ?_, fun id => ?_, fun id => ?_,
    fun id ledger found => booked.account_made dated label detecting found⟩
  · change _ ↔ thread ∈ past.flagged value
    rw [World.racing, cells]
    split
    · rename_i here
      rw [here, flagged_of_dated dated]
      exact iff_of_false Bool.false_ne_true List.not_mem_nil
    · rename_i elsewhere
      refine booked.racing value ?_ thread
      rw [SortedMap.contains, cells, if_neg elsewhere] at there
      exact there
  · rw [sinkOf, cells]
    split
    · rename_i here
      rw [here]
      exact ⟨detecting, List.mem_cons_self⟩
    · rename_i elsewhere
      rw [SortedMap.contains, cells, if_neg elsewhere] at there
      obtain ⟨detecting, member⟩ := booked.sinks value there
      exact ⟨detecting, List.mem_cons_of_mem _ member⟩
  · rw [equipped]
    cases List.mem_cons.1 made with
    | inl new =>
      cases new
      exact known id rfl
    | inr old => exact booked.makers value detecting id old
  · rw [equipped, SortedMap.size_eq_of_contains equipped]
    exact booked.numbered id
  · rw [History.madeOf_made]
    split
    · refine List.pairwise_cons.2 ⟨fun value member => ?_, booked.descending id⟩
      obtain ⟨detecting, made⟩ := History.mem_madeOf_iff.1 member
      exact dated.values _ made value rfl
    · exact booked.descending id

/-- A detector that is made has an empty ledger. -/
theorem equipped (booked : Booked past world) {detector : Detector}
    (blank : detector.ledger = ∅) :
    Booked past (world.setDetector ⟨world.detectors.size⟩ detector) := by
  have fresh : world.detectors.contains ⟨world.detectors.size⟩ = false :=
    Bool.eq_false_iff.2 fun stored => Nat.lt_irrefl _ ((booked.numbered _).1 stored)
  have contains : ∀ id, (world.setDetector ⟨world.detectors.size⟩ detector).detectors.contains id =
      (decide (id = ⟨world.detectors.size⟩) || world.detectors.contains id) := fun id =>
    SortedMap.contains_insert _ _ id _
  have size : (world.setDetector ⟨world.detectors.size⟩ detector).detectors.size =
      world.detectors.size + 1 := by
    refine (SortedMap.size_insert _ _ _).trans (if_neg ?_)
    rw [fresh]
    exact Bool.false_ne_true
  refine ⟨booked.racing, booked.sinks, booked.once, fun value detecting id made => ?_,
    fun id => ?_, booked.descending, fun id ledger found value => ?_⟩
  · rw [contains, booked.makers value detecting id made, Bool.or_true]
  · rw [contains, size, Bool.or_eq_true, decide_eq_true_eq, booked.numbered]
    constructor
    · rintro (rfl | before)
      · exact Nat.lt_succ_self _
      · exact Nat.lt_succ_of_lt before
    · intro below
      cases Nat.lt_succ_iff_lt_or_eq.1 below with
      | inl before => exact .inr before
      | inr last => exact .inl (Ranked.rank_injective _ _ last)
  · rw [ledger?_setDetector] at found
    split at found
    · rename_i here
      cases found
      have unmade : value ∉ past.madeOf id := by
        intro member
        obtain ⟨detecting, made⟩ := History.mem_madeOf_iff.1 member
        have stored := booked.makers value detecting id made
        rw [here, fresh] at stored
        cases stored
      rw [if_neg unmade, blank]
      rfl
    · exact booked.ledgers id ledger found value

/-- Every turn is booked. -/
theorem turn {happenings : List Happening} (booked : Booked past world) (dated : past.Dated world)
    (turn : Turn world happenings next) : Booked (happenings ++ past) next := by
  induction turn with
  | quiet kept => exact booked.of_silent kept.silent kept.present
  | stalled running found on =>
    exact (booked.of_silent (silent_countAccess _ found _)
      (alike_countAccess _ found _).present).aside rfl
  | clean running found on nothing =>
    exact (booked.of_silent (silent_tallyAccess _ found _)
      (alike_tallyAccess _ running found).present).aside rfl
  | flagged running found on something =>
    exact booked.denounced _ (.after (silent_tallyAccess _ found _)
      (denounces_flag _ (get?_tallyAccess _ _ _ _))) rfl rfl
      ((SortedMap.contains_iff _ _).2 ⟨_, found⟩) (alike_flagged _ running found).present
  | entered running found =>
    exact (booked.of_silent (silent_adoptClock _ _ _ _)
      (alike_adoptClock _ running _ _).present).aside rfl
  | edited running known =>
    exact (booked.of_silent (silent_bindContext _ _ _)
      (alike_bindContext _ running _).present).aside rfl
  | started name attach =>
    exact booked.of_silent (silent_spawn _ name attach) fun value => by rw [cells_spawn]
  | @ended world thread running =>
    have later : Booked past { world with threads := world.threads.erase thread } :=
      booked.of_silent ⟨fun _ => rfl, fun _ => rfl, rfl, rfl⟩ fun _ => rfl
    exact later.aside rfl
  | equipped blank => exact booked.equipped blank
  | @adjusted world id detector changed found same =>
    exact booked.of_same (fun _ there => there) (fun _ _ => rfl) (fun _ _ => rfl)
      (ledger?_adjusted world found same)
  | made known => exact booked.registered dated _ _ _ known
  | @removed world value present =>
    have rest : ∀ other, (world.cells.erase value).contains other = true →
        (world.cells.erase value).get? other = world.cells.get? other := by
      intro other there
      rw [SortedMap.contains_erase, Bool.and_eq_true, Bool.not_eq_true', decide_eq_false_iff_not]
        at there
      rw [SortedMap.get?_erase, if_neg there.1]
    have later : Booked past { world with cells := world.cells.erase value } := by
      refine booked.of_same (fun other there => ?_) (fun other there => ?_)
        (fun other there => ?_) fun _ => rfl
      · rw [SortedMap.contains_erase, Bool.and_eq_true] at there
        exact there.2
      · rw [World.racing, rest other there, World.racing]
      · rw [sinkOf, rest other there, sinkOf]
    exact later.aside rfl
  | after kept turn ih =>
    exact ih (booked.of_silent kept.silent kept.present) (dated.kept kept)
  | upTo turn kept ih => exact (ih booked dated).of_silent kept.silent kept.present

end Booked

/-- The sighting of a flagged access. -/
def Happening.sighting? : Happening → Option Sighting
  | .accessed _ _ _ sighting => sighting
  | _ => none

/-- The sighting of which an event tells. -/
def Event.sighting? : Event → Option Sighting
  | .raced sighting => some sighting
  | _ => none

variable {past : History} {scene : Scene α}

/-- The records are booked after every run. -/
theorem booked_of_run (run : Run past scene) : Booked past scene.world := by
  refine (run_induction (fun past world => past.Dated world ∧ Booked past world)
    ⟨⟨nofun, nofun⟩, .empty⟩ ?_ run).2.2
  intro past world happenings next numbered before turn
  exact ⟨before.1.turn numbered turn, before.2.turn before.1 turn⟩

/-- A lost report tells of no sighting again. -/
theorem filterMap_refusals (world : World α) (sink : Option DetectorId) (sighting : Sighting) :
    (world.refusals sink sighting).filterMap Event.sighting? = [] := by
  unfold refusals
  split
  · rfl
  · split
    · rfl
    · rfl

/-- A turn tells of its sighting, if it has one. -/
theorem World.Turn.sightings {world next : World α} {happenings : List Happening}
    (turn : Turn world happenings next) :
    next.alarms.filterMap Event.sighting? =
      happenings.filterMap Happening.sighting? ++ world.alarms.filterMap Event.sighting? := by
  by_cases flagged : ∃ thread value kind sighting,
      .accessed thread value kind (some sighting) ∈ happenings
  · obtain ⟨thread, value, kind, sighting, told⟩ := flagged
    rcases turn.eq_nil_or_singleton with rfl | ⟨happening, rfl⟩
    · cases told
    · rw [(turn.denounces told).alarms, List.filterMap_append, filterMap_refusals,
        ← List.mem_singleton.1 told]
      rfl
  · have unflagged : ∀ thread value kind sighting,
        .accessed thread value kind (some sighting) ∉ happenings :=
      fun thread value kind sighting told => flagged ⟨thread, value, kind, sighting, told⟩
    have nothing : happenings.filterMap Happening.sighting? = [] := by
      rw [List.filterMap_eq_nil_iff]
      intro happening member
      cases happening with
      | accessed thread value kind sighting =>
        cases sighting with
        | none => rfl
        | some sighting => exact absurd member (unflagged thread value kind sighting)
      | _ => rfl
    rw [turn.alarms_of_unflagged unflagged, nothing, List.nil_append]

/-- The journal tells of every flagged access once, and of no other. -/
theorem sightings_of_run (run : Run past scene) :
    scene.world.alarms.filterMap Event.sighting? = past.filterMap Happening.sighting? := by
  refine (run_induction (fun past world =>
    world.alarms.filterMap Event.sighting? = past.filterMap Happening.sighting?) rfl ?_ run).2
  intro past world happenings next numbered before turn
  rw [turn.sightings, before, List.filterMap_append]

/-- What the records of a world say, in terms of what happened. -/
structure Agreement (past : History) (world : World α) : Prop where
  /-- The racing threads of a value are those with a flagged access to it. -/
  racing : ∀ value cell, world.cells.get? value = some cell → ∀ thread,
    cell.racing.contains thread = true ↔
      ∃ kind sighting, .accessed thread value kind (some sighting) ∈ past
  /-- The ledger of a detector counts the flagged accesses to every value ever made of it, whether
  or not the value still exists and the detector is in use. -/
  accounts : ∀ value detecting id, .made value detecting (some id) ∈ past →
    ∃ detector, world.detectors.get? id = some detector ∧
      SortedMap.contains detector.ledger value = true ∧
      detector.ledger.races value = past.flags value
  /-- The ledger lists these values, in the order of their making, and no others. -/
  listed : ∀ id detector, world.detectors.get? id = some detector →
    SortedMap.keys detector.ledger = (past.madeOf id).reverse
  /-- The total is the sum over these values. -/
  total : ∀ id detector, world.detectors.get? id = some detector →
    detector.ledger.total = sumOver (past.madeOf id) past.flags
  /-- A value has at most as many racing threads as flagged accesses, and none only if there are
  no such accesses. -/
  bounded : ∀ value cell id detector, world.cells.get? value = some cell →
    cell.sink = some id → world.detectors.get? id = some detector →
      cell.raceCount ≤ detector.ledger.races value ∧
        (cell.raceCount = 0 ↔ detector.ledger.races value = 0)
  /-- The journal tells of every flagged access once, and of no other. -/
  told : world.alarms.filterMap Event.sighting? = past.filterMap Happening.sighting?

/-- What one move does to the records. -/
structure Recorded (before after : World α) (move : Move α) (happenings : List Happening) :
    Prop where
  /-- No racing thread of a value is ever removed. -/
  kept : ∀ value cell cell', before.cells.get? value = some cell →
    after.cells.get? value = some cell' → ∀ thread,
      cell.racing.contains thread = true → cell'.racing.contains thread = true
  /-- The only thread that may be added is the one that accesses the value, if it is flagged. -/
  joined : ∀ value cell cell', before.cells.get? value = some cell →
    after.cells.get? value = some cell' → ∀ thread,
      cell'.racing.contains thread = true → cell.racing.contains thread = false →
        ∃ kind sighting, move = .access thread value kind ∧
          happenings = [.accessed thread value kind (some sighting)]
  /-- A flagged access is told of and counted once, and its report is offered once. -/
  flagged : ∀ thread value kind sighting,
    .accessed thread value kind (some sighting) ∈ happenings →
      sighting.value = value ∧ sighting.key = ⟨thread, kind⟩ ∧ Denounces before after sighting
  /-- An access that is not flagged leaves all records as they are. -/
  unflagged : ∀ thread value kind, move = .access thread value kind →
    (∀ sighting, .accessed thread value kind (some sighting) ∉ happenings) → Silent before after
  /-- Nothing but flagged accesses and their lost reports is told of. -/
  quiet : (∀ thread value kind sighting,
    .accessed thread value kind (some sighting) ∉ happenings) → after.alarms = before.alarms

namespace Booked

variable {world : World α}

/-- The ledger of a detector has the accounts of the values that were made of it. -/
theorem contains_ledger_iff (booked : Booked past world) {id : DetectorId} {detector : Detector}
    (found : world.detectors.get? id = some detector) (value : ValueId) :
    SortedMap.contains detector.ledger value = true ↔ value ∈ past.madeOf id := by
  have ledger : world.ledger? id = some detector.ledger := by rw [World.ledger?, found]; rfl
  have account := congrArg Option.isSome (booked.ledgers id _ ledger value)
  rw [Option.isSome_map] at account
  change (SortedMap.get? detector.ledger value).isSome = true ↔ _
  rw [account]
  split
  · rename_i member
    exact iff_of_true rfl member
  · rename_i foreign
    exact iff_of_false Bool.false_ne_true foreign

/-- An account counts the flagged accesses to its value. -/
theorem races_eq_flags (booked : Booked past world) {id : DetectorId} {detector : Detector}
    (found : world.detectors.get? id = some detector) {value : ValueId}
    (made : value ∈ past.madeOf id) : detector.ledger.races value = past.flags value := by
  have ledger : world.ledger? id = some detector.ledger := by rw [World.ledger?, found]; rfl
  have account := (booked.ledgers id _ ledger value).trans (if_pos made)
  obtain ⟨entry, opened, counted⟩ := Option.map_eq_some_iff.1 account
  rw [Ledger.races, opened]
  exact counted

/-- The ledger lists values in the order of their making. -/
theorem keys_ledger (booked : Booked past world) {id : DetectorId} {detector : Detector}
    (found : world.detectors.get? id = some detector) :
    SortedMap.keys detector.ledger = (past.madeOf id).reverse := by
  refine SortedMap.keys_eq_of_mem_iff _ ?_ fun value => ?_
  · exact List.pairwise_reverse.2 (booked.descending id)
  · rw [List.mem_reverse, booked.contains_ledger_iff found]

/-- The racing threads of a value are those that were flagged. -/
theorem racing_iff (booked : Booked past world) {value : ValueId} {cell : Cell α}
    (found : world.cells.get? value = some cell) (thread : ThreadId) :
    cell.racing.contains thread = true ↔ thread ∈ past.flagged value := by
  have here : world.cells.contains value = true := (SortedMap.contains_iff _ _).2 ⟨_, found⟩
  have racing := booked.racing value here thread
  rw [World.racing, found] at racing
  exact racing

/-- Racing threads are at most as many as flagged accesses, and there are some if there is a
flagged access. -/
theorem raceCount_le_flags (booked : Booked past world) {value : ValueId} {cell : Cell α}
    (found : world.cells.get? value = some cell) :
    cell.raceCount ≤ past.flags value ∧ (cell.raceCount = 0 ↔ past.flags value = 0) := by
  have racers : ∀ thread, thread ∈ cell.racing.keys ↔ thread ∈ past.flagged value :=
    fun thread => (SortedMap.mem_keys_iff _ _).trans (booked.racing_iff found thread)
  rw [Cell.raceCount, ← SortedMap.length_keys, History.flags]
  constructor
  · exact (SortedMap.keys_nodup _).length_le_of_subset fun thread => (racers thread).1
  · rw [List.length_eq_zero_iff, List.length_eq_zero_iff, List.eq_nil_iff_forall_not_mem,
      List.eq_nil_iff_forall_not_mem]
    exact forall_congr' fun thread => not_congr (racers thread)

/-- What is booked agrees. -/
theorem agreement (booked : Booked past world)
    (told : world.alarms.filterMap Event.sighting? = past.filterMap Happening.sighting?) :
    Agreement past world where
  racing := fun value cell found thread =>
    (booked.racing_iff found thread).trans History.mem_flagged_iff
  accounts := fun value detecting id made => by
    have member : value ∈ past.madeOf id := History.mem_madeOf_iff.2 ⟨detecting, made⟩
    have stored := booked.makers value detecting id made
    obtain ⟨detector, found⟩ := (SortedMap.contains_iff _ _).1 stored
    exact ⟨detector, found, (booked.contains_ledger_iff found value).2 member,
      booked.races_eq_flags found member⟩
  listed := fun id detector found => booked.keys_ledger found
  total := fun id detector found => by
    calc detector.ledger.total
      _ = sumOver (SortedMap.keys detector.ledger) detector.ledger.races :=
        Ledger.total_eq_sum_races _
      _ = sumOver (past.madeOf id) detector.ledger.races := by
        rw [booked.keys_ledger found, sumOver_reverse]
      _ = sumOver (past.madeOf id) past.flags :=
        sumOver_congr fun value member => booked.races_eq_flags found member
  bounded := fun value cell id detector found sink stored => by
    have here : world.cells.contains value = true := (SortedMap.contains_iff _ _).2 ⟨_, found⟩
    have heard : world.sinkOf value = some id := by rw [sinkOf, found]; exact sink
    have member := (booked.mem_madeOf_iff_sinkOf here id).2 heard
    rw [booked.races_eq_flags stored member]
    exact booked.raceCount_le_flags found
  told := told

end Booked

/-- What is flagged stays flagged. -/
theorem History.flagged_append (later earlier : History) (value : ValueId) :
    History.flagged (later ++ earlier) value = later.flagged value ++ earlier.flagged value :=
  List.filterMap_append

/-- A turn that flags a thread tells of nothing else. -/
theorem World.Turn.eq_singleton {world after : World α} {happenings : List Happening}
    (turn : Turn world happenings after) {happening : Happening} (told : happening ∈ happenings) :
    happenings = [happening] := by
  rcases turn.eq_nil_or_singleton with rfl | ⟨latest, rfl⟩
  · cases told
  · rw [List.mem_singleton.1 told]

/-- What a move does to the records. -/
theorem recorded_of_perform? (run : Run past scene) {next : Scene α} {move : Move α}
    {happenings : List Happening} (performed : scene.perform? move = some (next, happenings)) :
    Recorded scene.world next.world move happenings := by
  have turn := Scene.turn_of_perform? (numbered_of_run run) performed
  have before := booked_of_run run
  have after := booked_of_run (run.tail performed)
  refine ⟨fun value cell cell' found found' thread races => ?_,
    fun value cell cell' found found' thread races raced => ?_,
    fun thread value kind sighting told => ?_, fun thread value kind same unflagged => ?_,
    turn.alarms_of_unflagged⟩
  · rw [before.racing_iff found] at races
    rw [after.racing_iff found', History.flagged_append]
    exact List.mem_append_right _ races
  · have unraced : thread ∉ past.flagged value := by
      rw [← before.racing_iff found, raced]
      exact Bool.false_ne_true
    rw [after.racing_iff found', History.flagged_append, List.mem_append] at races
    obtain ⟨kind, sighting, told⟩ := History.mem_flagged_iff.1 (races.resolve_right unraced)
    exact ⟨kind, sighting, Scene.eq_access_of_perform? performed told rfl, turn.eq_singleton told⟩
  · obtain ⟨_, _, _, _, _, about, key, _⟩ := turn.fits _ told
    exact ⟨about, key, turn.denounces told⟩
  · rw [same] at performed
    obtain ⟨_, attempt, asked, rfl⟩ := Scene.asksAccess_of_perform? performed
    refine silent_of_asksAccess asked ?_
    rintro sighting rfl
    exact unflagged sighting (mem_accessHappenings asked)

/-- After every run, and whatever was done to contexts by hand, the records of races agree with
what happened, and every move goes down in them as it should. -/
theorem records_agree (run : Run past scene) :
    Agreement past scene.world ∧
      ∀ move next happenings, scene.perform? move = some (next, happenings) →
        Recorded scene.world next.world move happenings :=
  ⟨(booked_of_run run).agreement (sightings_of_run run),
    fun _ _ _ performed => recorded_of_perform? run performed⟩

/-- A thread that is flagged twice races once, and the ledger knows of both accesses when the value
and the detector are gone. -/
theorem records_agree_of_dropped :
    ∃ (past : History) (scene : Scene Nat) (detector : Detector), Run past scene ∧
      scene.world.cells.get? ⟨0⟩ = none ∧ scene.world.detectors.get? ⟨0⟩ = some detector ∧
        detector.inUse = false ∧ past.flags ⟨0⟩ = 2 ∧ detector.ledger.total = 2 := by
  obtain ⟨past, scene, detector, run, gone, found, unused, made, flags⟩ :
      ∃ (past : History) (scene : Scene Nat) (detector : Detector), Run past scene ∧
        scene.world.cells.get? ⟨0⟩ = none ∧ scene.world.detectors.get? ⟨0⟩ = some detector ∧
          detector.inUse = false ∧ past.madeOf ⟨0⟩ = [⟨0⟩] ∧ past.flags ⟨0⟩ = 2 :=
    ⟨_, _, _, Path.refl.playOut? [.step (.spawn none false), .step (.spawn none true),
      .step (.newDetector none), .step (.newValue 7 (some ⟨0⟩) none), .access ⟨0⟩ ⟨0⟩ .write,
      .finish ⟨0⟩ Nat.succ, .access ⟨1⟩ ⟨0⟩ .write, .finish ⟨1⟩ Nat.succ, .access ⟨1⟩ ⟨0⟩ .read,
      .finish ⟨1⟩ id, .step (.dropDetector ⟨0⟩), .step (.dropValue ⟨0⟩)] rfl, rfl, rfl, rfl, rfl,
      rfl⟩
  have total := (records_agree run).1.total ⟨0⟩ detector found
  rw [made, sumOver, sumOver, flags] at total
  exact ⟨past, scene, detector, run, gone, found, unused, flags, total⟩

end RaceSentry
