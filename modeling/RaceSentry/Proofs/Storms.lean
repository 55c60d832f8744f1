import Mathlib.Data.List.Nodup
import RaceSentry.Proofs.InTurn

/-!
# Storms come out the same, whatever their schedule

Which accesses of a storm are flagged depends on their order: of a number of writes, all but the
first one are. How many are flagged does not, since by the rule that flags them the accesses of a
storm are flagged all, or none, or all but the first. All threads make all of their accesses, so
nothing else that is counted depends on their order either.
Main statement: `storms_independent_of_schedule`.
-/

namespace RaceSentry

open World

namespace Storm

variable {value : ValueId} {base : Nat} {before told : History} {last : Scene Int}

namespace Phase

/-- The threads of a storm, of which the first has a given number. -/
def enlisted (phase : Phase) (base : Nat) : List ThreadId :=
  (List.range phase.threads).map fun index => ⟨base + index⟩

/-- The accesses of a storm, one thread after another. -/
def keys (phase : Phase) (base : Nat) : List AccessKey :=
  (phase.enlisted base).flatMap fun thread => List.replicate phase.rounds ⟨thread, phase.mode.kind⟩

variable (phase : Phase)

/-- The threads of a storm are those that it enlists. -/
theorem mem_enlisted_iff (base : Nat) (thread : ThreadId) :
    thread ∈ phase.enlisted base ↔ phase.Enlists base thread := by
  rw [enlisted, List.mem_map]
  constructor
  · rintro ⟨index, within, rfl⟩
    have within := List.mem_range.1 within
    exact ⟨Nat.le_add_right _ _, Nat.add_lt_add_left within _⟩
  · rintro ⟨least, most⟩
    exact ⟨thread.index - base, List.mem_range.2 (by omega),
      Ranked.rank_injective _ _ (Nat.add_sub_of_le least)⟩

/-- No thread of a storm is enlisted twice. -/
theorem nodup_enlisted (base : Nat) : (phase.enlisted base).Nodup :=
  List.nodup_range.map fun _ _ same => Nat.add_left_cancel (ThreadId.mk.inj same)

/-- A storm enlists as many threads as its phase asks for. -/
theorem length_enlisted (base : Nat) : (phase.enlisted base).length = phase.threads := by
  rw [enlisted, List.length_map, List.length_range]

/-- Each thread of a storm makes as many accesses as it has rounds, of the kind of the storm. -/
theorem count_keys (base : Nat) (key : AccessKey) : (phase.keys base).count key =
    if phase.Enlists base key.thread ∧ key.kind = phase.mode.kind then phase.rounds else 0 := by
  have counts : List.count key ∘ (fun thread =>
      List.replicate phase.rounds ⟨thread, phase.mode.kind⟩) = fun thread =>
        if thread = key.thread ∧ key.kind = phase.mode.kind then phase.rounds else 0 := by
    funext thread
    rw [Function.comp_apply, List.count_replicate]
    refine if_congr ?_ rfl rfl
    rw [beq_iff_eq]
    constructor
    · rintro rfl
      exact ⟨rfl, rfl⟩
    · rintro ⟨rfl, kind⟩
      rw [← kind]
  rw [keys, List.count_flatMap, counts, List.sum_map_eq_nsmul_single key.thread _
    fun other different _ => if_neg fun both => different both.1,
    (phase.nodup_enlisted base).count]
  by_cases enlists : phase.Enlists base key.thread
  · rw [if_pos ((phase.mem_enlisted_iff _ _).2 enlists), one_nsmul]
    exact if_congr ⟨fun both => ⟨enlists, both.2⟩, fun both => ⟨rfl, both.2⟩⟩ rfl rfl
  · rw [if_neg fun member => enlists ((phase.mem_enlisted_iff _ _).1 member), zero_nsmul,
      if_neg fun both => enlists both.1]

/-- A storm makes as many accesses as its threads have rounds together. -/
theorem length_keys (base : Nat) : (phase.keys base).length = phase.threads * phase.rounds := by
  rw [keys, List.length_flatMap]
  simp [length_enlisted]

/-- The number of flagged accesses of a storm, given whether a conflicting access came before it. -/
def flags (conflicted : Bool) : Nat :=
  if phase.mode.isGuarded then 0
  else if conflicted then phase.threads * phase.rounds
  else match phase.mode.kind with
    | .read => 0
    | .write => phase.threads * phase.rounds - 1

/-- The number of flagged threads of a storm, given whether a conflicting access came before it. -/
def racers (conflicted : Bool) : Nat :=
  if phase.mode.isGuarded then 0
  else if conflicted then if phase.rounds = 0 then 0 else phase.threads
  else match phase.mode.kind with
    | .read => 0
    | .write => phase.threads * phase.rounds - 1

/-- Whether an access of one storm is in conflict with any of the storm before it. -/
def provokes (second : Phase) : Bool :=
  second.mode.kind.conflicts phase.mode.kind && 0 < phase.threads * phase.rounds

/-- The counter of a key after a storm, of which the first thread has a given number. -/
def counter? (base : Nat) (key : AccessKey) : Option Nat :=
  if phase.Enlists base key.thread ∧ key.kind = phase.mode.kind ∧ phase.rounds ≠ 0 then
    some phase.rounds
  else none

end Phase

/-- By the rule, all accesses of a storm are flagged, or none, or all but the first: which of these
does not depend on their order. -/
theorem Mode.flagged_eq (mode : Mode) (before : List AccessKey) {keys : List AccessKey}
    (same : ∀ key ∈ keys, key.kind = mode.kind) :
    mode.flagged before keys =
      if mode.isGuarded then []
      else if before.any fun key => mode.kind.conflicts key.kind then keys.map AccessKey.thread
      else match mode.kind with
        | .read => []
        | .write => (keys.map AccessKey.thread).dropLast := by
  induction keys with
  | nil =>
    split
    · rfl
    · split
      · rfl
      · split
        · rfl
        · rfl
  | cons key earlier ih =>
    obtain ⟨own, others⟩ := List.forall_mem_cons.1 same
    rw [Mode.flagged, ih others, Mode.flagsAfter, List.any_append]
    cases guarded : mode.isGuarded with
    | true => rfl
    | false =>
      cases conflicted : before.any fun key => mode.kind.conflicts key.kind with
      | true => simp
      | false =>
        cases kind : mode.kind with
        | read =>
          have clear : (earlier.any fun key => AccessKind.read.conflicts key.kind) = false := by
            refine List.any_eq_false.2 fun other member => ?_
            rw [others other member, kind]
            decide
          simp [clear]
        | write =>
          cases earlier with
          | nil => rfl
          | cons next rest => simp [AccessKind.conflicts]

namespace Over

variable {phase : Phase} (storm : Over phase value base before told last)

include storm

/-- The accesses of a storm are the same, whatever their order. -/
theorem perm_keys : (told.attempts value).Perm (phase.keys base) :=
  List.perm_iff_count.2 fun key => (storm.counts key).trans (phase.count_keys base key).symm

/-- An access was made by a thread of the storm if it had rounds to go through. -/
theorem mem_attempts_iff {key : AccessKey} : key ∈ told.attempts value ↔
    phase.Enlists base key.thread ∧ key.kind = phase.mode.kind ∧ phase.rounds ≠ 0 := by
  rw [← List.count_pos_iff, storm.counts, ← and_assoc]
  split
  · rename_i own
    exact ⟨fun some => ⟨own, by omega⟩, fun both => by omega⟩
  · rename_i foreign
    exact iff_of_false (Nat.lt_irrefl 0) fun both => foreign both.1

/-- All threads of a storm make all of their accesses. -/
theorem length_attempts : (told.attempts value).length = phase.threads * phase.rounds :=
  storm.perm_keys.length_eq.trans (phase.length_keys base)

/-- Which threads a storm flags is told by its mode, and by what was done before it. -/
theorem flagged_eq : told.flagged value =
    if phase.mode.isGuarded then []
    else if (before.attempts value).any fun key => phase.mode.kind.conflicts key.kind then
      (told.attempts value).map AccessKey.thread
    else match phase.mode.kind with
      | .read => []
      | .write => ((told.attempts value).map AccessKey.thread).dropLast :=
  storm.verdicts.trans (phase.mode.flagged_eq _ fun _ member =>
    (storm.mem_attempts_iff.1 member).2.1)

/-- How many accesses of a storm are flagged does not depend on its schedule. -/
theorem flags_eq : told.flags value = phase.flags
    ((before.attempts value).any fun key => phase.mode.kind.conflicts key.kind) := by
  rw [History.flags, storm.flagged_eq, Phase.flags, ← storm.length_attempts]
  split
  · rfl
  · split
    · exact List.length_map _
    · split
      · rfl
      · rw [List.length_dropLast, List.length_map]

/-- In a storm that writes outside of sections and settles its races, no thread makes two
accesses. -/
theorem nodup_threads (settles : phase.settlesRaces = true)
    (unguarded : phase.mode.isGuarded = false) (writes : phase.mode.kind = .write) :
    ((told.attempts value).map AccessKey.thread).Nodup := by
  have single := Phase.rounds_le_one settles unguarded (by rw [writes]; rfl)
  have once : (told.attempts value).Nodup := by
    refine List.nodup_iff_count_le_one.2 fun key => ?_
    rw [storm.counts]
    split
    · exact single
    · exact Nat.zero_le 1
  refine once.map_on fun key member other member' same => ?_
  have kinds : key.kind = other.kind :=
    (storm.mem_attempts_iff.1 member).2.1.trans (storm.mem_attempts_iff.1 member').2.1.symm
  cases key
  cases other
  exact congrArg₂ AccessKey.mk same kinds

/-- The flagged threads of a storm. How many there are does not depend on its schedule. -/
theorem exists_racers (settles : phase.settlesRaces = true) : ∃ racers : List ThreadId,
    racers.Nodup ∧ (∀ thread, thread ∈ racers ↔ thread ∈ told.flagged value) ∧
      (∀ thread ∈ racers, phase.Enlists base thread) ∧ racers.length = phase.racers
        ((before.attempts value).any fun key => phase.mode.kind.conflicts key.kind) := by
  rw [storm.flagged_eq, Phase.racers, ← storm.length_attempts]
  have enlisted : ∀ thread ∈ (told.attempts value).map AccessKey.thread,
      phase.Enlists base thread := by
    intro thread member
    obtain ⟨key, attempted, rfl⟩ := List.mem_map.1 member
    exact (storm.mem_attempts_iff.1 attempted).1
  split
  · exact ⟨[], List.nodup_nil, fun _ => .rfl, nofun, rfl⟩
  split
  · -- Each thread that has rounds to go through is flagged in all of them.
    by_cases idle : phase.rounds = 0
    · refine ⟨[], List.nodup_nil, fun thread => iff_of_false List.not_mem_nil ?_, nofun,
        (if_pos idle).symm⟩
      intro member
      obtain ⟨key, attempted, -⟩ := List.mem_map.1 member
      exact (storm.mem_attempts_iff.1 attempted).2.2 idle
    · refine ⟨phase.enlisted base, phase.nodup_enlisted base, fun thread => ?_,
        fun thread => (phase.mem_enlisted_iff base thread).1, ?_⟩
      · rw [phase.mem_enlisted_iff]
        refine ⟨fun enlists => ?_, enlisted thread⟩
        exact List.mem_map.2 ⟨⟨thread, phase.mode.kind⟩,
          storm.mem_attempts_iff.2 ⟨enlists, rfl, idle⟩, rfl⟩
      · rw [if_neg idle, phase.length_enlisted]
  · rename_i unguarded _
    split
    · exact ⟨[], List.nodup_nil, fun _ => .rfl, nofun, rfl⟩
    · rename_i writes
      -- Each thread makes one access, and all of these are flagged but the first.
      have single := storm.nodup_threads settles (by simpa using unguarded) writes
      refine ⟨_, single.sublist (List.dropLast_sublist _), fun _ => .rfl,
        fun thread member => ?_, ?_⟩
      · exact enlisted thread (List.mem_of_mem_dropLast member)
      · rw [List.length_dropLast, List.length_map]

/-- The numbers of accesses by key do not depend on the schedule of a storm. -/
theorem number?_eq (key : AccessKey) : told.number? value key = phase.counter? base key := by
  rw [History.number?, storm.counts, Phase.counter?]
  split
  · rename_i own
    by_cases idle : phase.rounds = 0
    · rw [if_pos idle, if_neg fun all => all.2.2 idle]
    · rw [if_neg idle, if_pos ⟨own.1, own.2, idle⟩]
  · rename_i foreign
    rw [if_pos rfl, if_neg fun all => foreign ⟨all.1, all.2.1⟩]

end Over

/-- What is left of storms on a value that was not accessed before them: given are the world before
them, all that happened up to their end, the world after them, the counters of the value, and the
numbers of racing threads and of races. -/
structure Weathered (value : ValueId) (start : World Int) (past : History) (last : World Int)
    (counter? : AccessKey → Option Nat) (racers races : Nat) : Prop where
  /-- So many accesses to the value were flagged. -/
  flagged : past.flags value = races
  /-- The value counts accesses and racing threads. -/
  cell : ∃ cell, last.cells.get? value = some cell ∧
    (∀ key, cell.clock.get? key = counter? key) ∧ cell.raceCount = racers
  /-- The detector of the value counts races. -/
  total : ∀ id, start.sinkOf value = some id → ∃ detector detector',
    start.detectors.get? id = some detector ∧ last.detectors.get? id = some detector' ∧
      detector'.ledger.total = detector.ledger.total + races

section Records

variable {past : History} {scene : Scene Int}

/-- What was flagged was attempted. -/
theorem flagged_eq_nil (fresh : past.attempts value = []) : past.flagged value = [] := by
  refine List.eq_nil_iff_forall_not_mem.2 fun thread member => ?_
  obtain ⟨kind, sighting, happened⟩ := History.mem_flagged_iff.1 member
  have attempted : ⟨thread, kind⟩ ∈ past.attempts value :=
    History.mem_attempts_iff.2 ⟨_, happened, rfl⟩
  rw [fresh] at attempted
  cases attempted

/-- No values are made by a storm. -/
theorem madeOf_eq_nil (only : ∀ happening ∈ told, OfStorm value happening) (id : DetectorId) :
    told.madeOf id = [] := by
  refine List.filterMap_eq_nil_iff.2 fun happening member => ?_
  have ofStorm := only happening member
  cases happening with
  | made other detecting sink => exact ofStorm.elim
  | _ => rfl

/-- No accesses to other values are flagged in a storm. -/
theorem flags_eq_zero (only : ∀ happening ∈ told, OfStorm value happening) {other : ValueId}
    (different : other ≠ value) : told.flags other = 0 := by
  refine List.length_eq_zero_iff.2 (List.eq_nil_iff_forall_not_mem.2 fun thread member => ?_)
  obtain ⟨kind, sighting, happened⟩ := History.mem_flagged_iff.1 member
  exact different (only _ happened)

/-- Sums over values that are listed once grow by what one of them grows by. -/
theorem sumOver_flags (only : ∀ happening ∈ told, OfStorm value happening) {values : List ValueId}
    (once : values.Nodup) (listed : value ∈ values) :
    sumOver values (History.flags (told ++ past)) =
      sumOver values past.flags + told.flags value := by
  have split (other : ValueId) : History.flags (told ++ past) other =
      past.flags other + told.flags other := by
    rw [History.flags, History.flagged_append, List.length_append, Nat.add_comm]
    rfl
  rw [sumOver_eq_sum, sumOver_eq_sum, List.map_congr_left fun other _ => split other,
    List.sum_map_add, List.sum_map_eq_nsmul_single value told.flags fun other different _ =>
      flags_eq_zero only different, List.count_eq_one_of_mem once listed, one_nsmul]

/-- The racing threads are those that were flagged, each of them once. -/
theorem raceCount_eq (run : Run past scene) {cell : Cell Int}
    (found : scene.world.cells.get? value = some cell) {racers : List ThreadId}
    (once : racers.Nodup) (same : ∀ thread, thread ∈ racers ↔ thread ∈ past.flagged value) :
    cell.raceCount = racers.length := by
  rw [Cell.raceCount, ← SortedMap.length_keys]
  refine List.Perm.length_eq ?_
  refine (List.perm_ext_iff_of_nodup (SortedMap.keys_nodup _) once).2 fun thread => ?_
  rw [SortedMap.mem_keys_iff, (booked_of_run run).racing_iff found, same]

/-- The total of the detector of a value grows by the flagged accesses of a storm on this value. -/
theorem total_append (run : Run past scene) (later : Run (told ++ past) last)
    (here : scene.world.cells.contains value = true)
    (only : ∀ happening ∈ told, OfStorm value happening) {id : DetectorId}
    (sink : scene.world.sinkOf value = some id) : ∃ detector detector',
      scene.world.detectors.get? id = some detector ∧
        last.world.detectors.get? id = some detector' ∧
        detector'.ledger.total = detector.ledger.total + told.flags value := by
  have booked := booked_of_run run
  have listed := (booked.mem_madeOf_iff_sinkOf here id).2 sink
  have once : (past.madeOf id).Nodup := (booked.descending id).imp fun before same => by
    rw [same] at before
    exact Nat.lt_irrefl _ before
  have same : History.madeOf (told ++ past) id = past.madeOf id := by
    rw [History.madeOf, List.filterMap_append]
    exact congrArg (· ++ past.madeOf id) (madeOf_eq_nil only id)
  have before := booked.agreement (sightings_of_run run)
  have after := (booked_of_run later).agreement (sightings_of_run later)
  obtain ⟨detecting, made⟩ := History.mem_madeOf_iff.1 listed
  obtain ⟨detector, stored, -⟩ := before.accounts value detecting id made
  obtain ⟨detector', stored', -⟩ := after.accounts value detecting id (List.mem_append_right _ made)
  refine ⟨detector, detector', stored, stored', ?_⟩
  rw [before.total id _ stored, after.total id _ stored', same]
  exact sumOver_flags only once listed

/-- Records after storms on a value that was not accessed before them. -/
theorem weathered (run : Run past scene) (later : Run (told ++ past) last)
    (watched : last.world.watches value = true) (here : scene.world.cells.contains value = true)
    (only : ∀ happening ∈ told, OfStorm value happening) (fresh : past.attempts value = [])
    {racers : List ThreadId} (once : racers.Nodup)
    (same : ∀ thread, thread ∈ racers ↔ thread ∈ told.flagged value) :
    Weathered value scene.world (told ++ past) last.world (told.number? value) racers.length
      (told.flags value) := by
  have flagged : History.flagged (told ++ past) value = told.flagged value := by
    rw [History.flagged_append, flagged_eq_nil fresh, List.append_nil]
  refine ⟨congrArg List.length flagged, ?_, fun id sink => total_append run later here only sink⟩
  cases found : last.world.cells.get? value with
  | none =>
    rw [World.watches, found] at watched
    cases watched
  | some cell =>
    have counted := counted_of_run later (standing?_of_get? _ found)
    refine ⟨cell, rfl, fun key => (counted.get?_clock key).trans ?_,
      raceCount_eq later found once fun thread => by rw [same, flagged]⟩
    rw [History.number?, History.attempts_append, fresh, List.append_nil]
    rfl

namespace Over

variable {phase : Phase}

/-- Records after one storm. -/
theorem weathered (storm : Over phase value base past told last) (run : Run past scene)
    (here : scene.world.cells.contains value = true) (fresh : past.attempts value = [])
    (settles : phase.settlesRaces = true) :
    Weathered value scene.world (told ++ past) last.world (phase.counter? base)
      (phase.racers false) (phase.flags false) := by
  obtain ⟨racers, once, same, -, many⟩ := storm.exists_racers settles
  have records := Storm.weathered run storm.run storm.watched here storm.only fresh once same
  have flags := storm.flags_eq
  rw [fresh, List.any_nil] at many flags
  rw [many, flags, funext storm.number?_eq] at records
  exact records

/-- Whether an access comes after a conflicting one if the accesses before it are those of a
storm. -/
theorem any_conflicts (storm : Over phase value base past told last)
    (fresh : past.attempts value = []) (kind : AccessKind) :
    ((History.attempts (told ++ past) value).any fun key => kind.conflicts key.kind) =
      (kind.conflicts phase.mode.kind && 0 < phase.threads * phase.rounds) := by
  rw [History.attempts_append, fresh, List.append_nil, ← storm.length_attempts, Bool.eq_iff_iff,
    List.any_eq_true, Bool.and_eq_true, decide_eq_true_eq, List.length_pos_iff_exists_mem]
  constructor
  · rintro ⟨key, attempted, conflicting⟩
    rw [(storm.mem_attempts_iff.1 attempted).2.1] at conflicting
    exact ⟨conflicting, key, attempted⟩
  · rintro ⟨conflicting, key, attempted⟩
    refine ⟨key, attempted, ?_⟩
    rw [(storm.mem_attempts_iff.1 attempted).2.1]
    exact conflicting

variable {phase' : Phase} {told' : History} {middle : Scene Int}

/-- Records after two storms, one after the other. -/
theorem weathered_after
    (second : Over phase' value (base + phase.threads) (told ++ past) told' last)
    (first : Over phase value base past told middle) (run : Run past scene)
    (here : scene.world.cells.contains value = true) (fresh : past.attempts value = [])
    (settles : phase.settlesRaces = true) (settles' : phase'.settlesRaces = true) :
    Weathered value scene.world (told' ++ (told ++ past)) last.world
      (fun key => (phase.counter? base key).or (phase'.counter? (base + phase.threads) key))
      (phase.racers false + phase'.racers (phase.provokes phase'))
      (phase.flags false + phase'.flags (phase.provokes phase')) := by
  obtain ⟨racers, once, same, enlisted, many⟩ := first.exists_racers settles
  obtain ⟨racers', once', same', enlisted', many'⟩ := second.exists_racers settles'
  have flags := first.flags_eq
  have flags' := second.flags_eq
  rw [fresh, List.any_nil] at many flags
  rw [first.any_conflicts fresh] at many' flags'
  have apart : ∀ thread, thread ∈ racers' → thread ∉ racers := fun thread late early => by
    have before := (enlisted thread early).2
    have after := (enlisted' thread late).1
    omega
  have only : ∀ happening ∈ told' ++ told, OfStorm value happening :=
    List.forall_mem_append.2 ⟨second.only, first.only⟩
  have later : Run ((told' ++ told) ++ past) last := by
    rw [List.append_assoc]
    exact second.run
  have records := Storm.weathered run later second.watched here only fresh
    (List.nodup_append'.2 ⟨once', once, fun thread => apart thread⟩) (fun thread => by
      rw [History.flagged_append, List.mem_append, List.mem_append, same, same'])
  rw [List.length_append, many, many', Nat.add_comm (phase'.racers _), History.flags,
    History.flagged_append, List.length_append, ← History.flags, ← History.flags, flags, flags',
    Nat.add_comm (phase'.flags _)] at records
  have numbers (key : AccessKey) : History.number? (told' ++ told) value key =
      (phase.counter? base key).or (phase'.counter? (base + phase.threads) key) := by
    rw [History.number?_append fun late early => ?_, first.number?_eq, second.number?_eq]
    have before := (first.mem_attempts_iff.1 early).1.2
    have after := (second.mem_attempts_iff.1 late).1.1
    omega
  rw [funext numbers, List.append_assoc] at records
  exact records

end Over

end Records

/-- A value that is watched, that nobody has accessed yet, and that nobody is inside of. -/
def Fresh (world : World Int) (value : ValueId) : Prop :=
  ∃ cell, world.cells.get? value = some cell ∧ cell.detecting = true ∧ cell.clock = ∅ ∧
    cell.lock = .free ∧ cell.borrowed = false

/-- A value that is watched is fresh when it is made. -/
theorem fresh_addCell (world : World Int) (payload : Int) (label : Option String)
    (sink : Option DetectorId) :
    Fresh (world.addCell (.new payload label true sink)).1 ⟨world.made⟩ :=
  ⟨_, SortedMap.get?_insert_self _ _ _, rfl, rfl, rfl, rfl⟩

/-- Nothing was attempted at a value whose clock table is empty. -/
theorem attempts_of_clock {past : History} {scene : Scene Int} (run : Run past scene)
    {cell : Cell Int} (found : scene.world.cells.get? value = some cell)
    (empty : cell.clock = ∅) : past.attempts value = [] := by
  refine List.eq_nil_iff_forall_not_mem.2 fun key attempted => ?_
  have counted := (counted_of_run run (standing?_of_get? _ found)).get?_clock key
  have none : cell.clock.get? key = none := by
    rw [empty]
    rfl
  exact History.number?_eq_none_iff.1 (counted.symm.trans none) attempted

/-- A storm takes place: the moves of one of its schedules are made, one after another. -/
def Phase.Occurs (phase : Phase) (name : String) (value : ValueId) (past : History)
    (scene : Scene Int) (after : History) (last : Scene Int) : Prop :=
  ∃ moves, phase.Schedule name value scene.world.started moves ∧
    scene.playOut? past moves = some (last, after)

/-- A storm can always take place if its threads can be had, and this is how it is computed. -/
theorem occurs_of_free {past : History} {scene : Scene Int} (run : Run past scene) {phase : Phase}
    (calm : phase.mode ≠ .raise) {name : String} (had : phase.denial? name = none)
    (free : scene.world.guard? value = some (.free, false)) :
    ∃ after world, phase.Occurs name value past scene after (scene.withWorld world) ∧
      phase.run name value scene.world = (world, .calm) ∧ Run after (scene.withWorld world) ∧
      world.guard? value = some (.free, false) := by
  obtain ⟨world, ran, plays, free'⟩ :=
    Phase.run_eq calm had free fun thread new => frames_of_unstarted run new
  obtain ⟨after, played⟩ := plays past
  exact ⟨after, world, ⟨_, phase.schedule_inTurn value _ had, played⟩, ran,
    run.playOut? _ played, free'⟩

/-- Storms come out the same, whatever their schedules. On a fresh value there is a storm, and when
it is over a second one, each of which reads the value, or accesses it in sections, or lets each of
its threads write to it once at most. Then, however their threads take turns:

* There is a counter for each thread that made an access, which is the number of its rounds, and no
  other.
* Of the first storm, all accesses but one are flagged if they write outside of sections, and none
  otherwise.
* Of the second storm, all accesses that are made outside of sections are flagged if the first one
  made an access that is in conflict with them: to reads, a write; to writes, any access. If it made
  none, all but one are flagged if they write, and none otherwise.
* The flagged accesses are added to the total of the detector, and their threads are those that
  race on the value.

Such storms can take place if their threads can be had, and they are computed by one of their
schedules. -/
theorem storms_independent_of_schedule {past : History} {scene : Scene Int} (run : Run past scene)
    (fresh : Fresh scene.world value) {first second : Phase} (calm : first.mode ≠ .raise)
    (calm' : second.mode ≠ .raise) (settles : first.settlesRaces = true)
    (settles' : second.settlesRaces = true) (name : String) :
    (∀ between middle, first.Occurs name value past scene between middle →
      Weathered value scene.world between middle.world (first.counter? scene.world.started)
        (first.racers false) (first.flags false) ∧
      ∀ after last, second.Occurs name value between middle after last →
        Weathered value scene.world after last.world
          (fun key => (first.counter? scene.world.started key).or
            (second.counter? (scene.world.started + first.threads) key))
          (first.racers false + second.racers (first.provokes second))
          (first.flags false + second.flags (first.provokes second))) ∧
    (first.denial? name = none → second.denial? name = none →
      ∃ between middle after last, first.Occurs name value past scene between middle ∧
        Plan.runPhases name value [first] scene.world = (middle.world, .calm) ∧
        second.Occurs name value between middle after last ∧
        Plan.runPhases name value [first, second] scene.world = (last.world, .calm)) := by
  obtain ⟨cell, found, on, empty, unlocked, unlent⟩ := fresh
  have idle := attempts_of_clock run found empty
  have here : scene.world.cells.contains value = true := (SortedMap.contains_iff _ _).2 ⟨_, found⟩
  have watched : scene.world.watches value = true := by
    rw [World.watches, found]
    exact on
  refine ⟨?_, fun had had' => ?_⟩
  · rintro between middle ⟨moves, schedule, played⟩
    obtain ⟨told, rfl, storm⟩ := schedule.outcome run watched settles played
    refine ⟨storm.weathered run here idle settles, ?_⟩
    rintro after last ⟨moves', schedule', played'⟩
    obtain ⟨told', rfl, storm'⟩ := schedule'.outcome storm.run storm.watched settles' played'
    rw [storm.started] at storm'
    exact storm'.weathered_after storm run here idle settles settles'
  · have free : scene.world.guard? value = some (.free, false) := by
      rw [guard?_of_get? _ found, unlocked, unlent]
    obtain ⟨between, world, occurs, ran, reached, free'⟩ := occurs_of_free run calm had free
    obtain ⟨after, world', occurs', ran', -⟩ := occurs_of_free reached calm' had' free'
    change second.run name value world = _ at ran'
    refine ⟨between, _, after, _, occurs, ?_, occurs', ?_⟩
    · rw [Plan.runPhases, ran]
      rfl
    · rw [Plan.runPhases, ran]
      dsimp only
      rw [Plan.runPhases, ran']
      rfl

/-- Two writers and then two readers, each time with the second thread first: one write is flagged,
and both reads. -/
theorem storms_independent_of_schedule_backwards :
    ∃ past scene between middle after last, Run past scene ∧ Fresh scene.world ⟨0⟩ ∧
      Phase.Occurs ⟨.add, 2, 1⟩ "storm" ⟨0⟩ past scene between middle ∧
      Phase.Occurs ⟨.read, 2, 1⟩ "storm" ⟨0⟩ between middle after last ∧
      Weathered ⟨0⟩ scene.world between middle.world (Phase.counter? ⟨.add, 2, 1⟩ 0) 1 1 ∧
      Weathered ⟨0⟩ scene.world after last.world
        (fun key => (Phase.counter? ⟨.add, 2, 1⟩ 0 key).or (Phase.counter? ⟨.read, 2, 1⟩ 2 key))
        3 3 := by
  have occur : ∃ past scene between middle after last, Run past scene ∧ scene.world.started = 0 ∧
      Fresh scene.world ⟨0⟩ ∧ Phase.Occurs ⟨.add, 2, 1⟩ "storm" ⟨0⟩ past scene between middle ∧
      Phase.Occurs ⟨.read, 2, 1⟩ "storm" ⟨0⟩ between middle after last := by
    refine ⟨_, _, _, _, _, _, Path.refl.playOut? [.step (.newDetector none),
      .step (.newValue 0 (some ⟨0⟩) none)] rfl, rfl, fresh_addCell _ _ _ _,
      ⟨[Phase.spawn "storm" 0, Phase.spawn "storm" 1, .access ⟨1⟩ ⟨0⟩ .write,
        .finish ⟨1⟩ (Mode.change .add), .access ⟨0⟩ ⟨0⟩ .write, .step (.exit ⟨1⟩),
        .finish ⟨0⟩ (Mode.change .add), .step (.exit ⟨0⟩)], ?_, rfl⟩,
      ⟨[Phase.spawn "storm" 0, Phase.spawn "storm" 1, .access ⟨3⟩ ⟨0⟩ .read,
        .finish ⟨3⟩ (Mode.change .read), .access ⟨2⟩ ⟨0⟩ .read, .step (.exit ⟨3⟩),
        .finish ⟨2⟩ (Mode.change .read), .step (.exit ⟨2⟩)], ?_, rfl⟩⟩
    · refine .of_about (by decide) rfl (fun index within => ?_) (by decide)
      match index, within with
      | 0, _ => rfl
      | 1, _ => rfl
    · refine .of_about (by decide) rfl (fun index within => ?_) (by decide)
      match index, within with
      | 0, _ => rfl
      | 1, _ => rfl
  obtain ⟨past, scene, between, middle, after, last, run, started, fresh, writes, reads⟩ := occur
  have calm : Phase.mode ⟨.add, 2, 1⟩ ≠ .raise := nofun
  have calm' : Phase.mode ⟨.read, 2, 1⟩ ≠ .raise := nofun
  obtain ⟨first, second⟩ := (storms_independent_of_schedule run fresh calm calm' rfl rfl
    "storm").1 between middle writes
  have second := second after last reads
  rw [started] at first second
  exact ⟨past, scene, between, middle, after, last, run, fresh, writes, reads, first, second⟩

end Storm

end RaceSentry
