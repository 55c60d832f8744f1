import RaceSentry.Channel
import RaceSentry.Config.Basic
import RaceSentry.Denial
import RaceSentry.Error
import RaceSentry.Report

/-!
# Detectors

A detector keeps a ledger of all values it ever monitored, with the number of flagged accesses of
each, and, if reports are captured, a bounded channel of them. Both live on when the detector is
given up, and the ledger keeps values that are gone.
-/

namespace RaceSentry

/-- Identity of a detector: the number of detectors created before it. -/
structure DetectorId where
  /-- Place in the order of creation. -/
  index : Nat
  deriving Repr

instance : Ranked DetectorId where
  rank := DetectorId.index
  rank_injective := fun left right h => by
    cases left
    cases right
    exact congrArg DetectorId.mk h

/-- What the ledger knows of one value. -/
structure LedgerEntry where
  /-- The label of the value. -/
  label : Option String
  /-- The number of flagged accesses. -/
  races : Nat
  deriving DecidableEq, Repr

/-- Flagged accesses by value. -/
abbrev Ledger := SortedMap ValueId LedgerEntry

namespace Ledger

/-- Opens the account of a value. -/
def register (ledger : Ledger) (value : ValueId) (label : Option String) : Ledger :=
  SortedMap.insert ledger value ⟨label, 0⟩

/-- Counts one flagged access. -/
def count (ledger : Ledger) (value : ValueId) (label : Option String) : Ledger :=
  match SortedMap.get? ledger value with
  | some entry => SortedMap.insert ledger value { entry with races := entry.races + 1 }
  | none => SortedMap.insert ledger value ⟨label, 1⟩

/-- The number of flagged accesses of a value. -/
def races (ledger : Ledger) (value : ValueId) : Nat :=
  match SortedMap.get? ledger value with
  | some entry => entry.races
  | none => 0

/-- The number of flagged accesses of all values. -/
def total (ledger : Ledger) : Nat := sumOver (SortedMap.values ledger) LedgerEntry.races

/-- Labels in order: none first, then by code points. -/
def labelLe : Option String → Option String → Bool
  | none, _ => true
  | some _, none => false
  | some left, some right => left ≤ right

/-- The accounts in order of their labels, and those of one label in order of their values. -/
def listing (ledger : Ledger) : List (ValueId × LedgerEntry) :=
  (SortedMap.entries ledger).mergeSort fun left right => labelLe left.2.label right.2.label

/-- Counting a flagged access raises the account of its value by one and no other. -/
theorem races_count (ledger : Ledger) (value other : ValueId) (label : Option String) :
    (ledger.count value label).races other =
      ledger.races other + if other = value then 1 else 0 := by
  unfold races
  cases found : SortedMap.get? ledger value with
  | none =>
    by_cases same : other = value
    · simp [count, found, same]
    · simp [count, found, same, SortedMap.get?_insert_of_ne _ _ same]
  | some entry =>
    by_cases same : other = value
    · simp [count, found, same]
    · simp [count, found, same, SortedMap.get?_insert_of_ne _ _ same]

/-- Counting a flagged access of a value with an account opens no other. -/
theorem map_races_count {ledger : Ledger} {value : ValueId} {entry : LedgerEntry}
    (found : SortedMap.get? ledger value = some entry) (label : Option String)
    (other : ValueId) :
    (SortedMap.get? (ledger.count value label) other).map LedgerEntry.races =
      if other = value then some (entry.races + 1)
      else (SortedMap.get? ledger other).map LedgerEntry.races := by
  rw [count, found, SortedMap.get?_insert]
  split
  · rfl
  · rfl

/-- A new account counts nothing. -/
theorem map_races_register (ledger : Ledger) (value other : ValueId) (label : Option String) :
    (SortedMap.get? (ledger.register value label) other).map LedgerEntry.races =
      if other = value then some 0 else (SortedMap.get? ledger other).map LedgerEntry.races := by
  rw [register, SortedMap.get?_insert]
  split
  · rfl
  · rfl

/-- The total is the sum over the accounts. -/
theorem total_eq_sum_races (ledger : Ledger) :
    ledger.total = sumOver (SortedMap.keys ledger) ledger.races := by
  unfold total SortedMap.values SortedMap.keys
  rw [sumOver_map, sumOver_map]
  apply sumOver_congr
  intro entry member
  have found := (SortedMap.mem_entries_iff ledger entry.1 entry.2).1 member
  simp only [races, found]

end Ledger

/-- Why no detector is made. -/
inductive SetupFailure where
  /-- The configuration cannot be used. -/
  | config (reason : ConfigError)
  /-- The channel of reports cannot be had. -/
  | denied (reason : Denial)
  deriving DecidableEq, Repr

/-- The state of a detector. -/
structure Detector where
  /-- Its configuration. -/
  config : DetectorConfig
  /-- Its accounts. -/
  ledger : Ledger
  /-- The channel of reports, if they are captured. -/
  channel : Option (Channel Sighting)
  /-- Whether it is still in use; its values may go on without it. -/
  inUse : Bool

namespace Detector

/-- A detector with a given configuration, usable or not. -/
def build (config : DetectorConfig) : Detector where
  config := config
  ledger := ∅
  channel := if config.capture.enabled then some (.new config.capture.bufferSize) else none
  inUse := true

/-- Why the channel of reports cannot be had, if there is to be one. -/
def denial? (config : DetectorConfig) : Option Denial :=
  if config.capture.enabled then
    Denial.ofQueue? RaceReport.slotBytes config.capture.bufferSize
  else none

/-- A detector with a usable configuration. -/
def new (config : DetectorConfig) : Except SetupFailure Detector :=
  match config.validate with
  | .error reason => .error (.config reason)
  | .ok () =>
    match denial? config with
    | some reason => .error (.denied reason)
    | none => .ok (build config)

/-- A detector that nobody configured. -/
def standard : Detector := build .standard

/-- Opens the account of a value. -/
def register (detector : Detector) (value : ValueId) (label : Option String) : Detector :=
  { detector with ledger := detector.ledger.register value label }

/-- Counts a flagged access in the ledger. -/
def tally (detector : Detector) (sighting : Sighting) : Detector :=
  { detector with ledger := detector.ledger.count sighting.value sighting.label }

/-- Sends a report to the channel, if there is one; tells if it was lost. -/
def deliver (detector : Detector) (sighting : Sighting) : Detector × Option DetectorError :=
  match detector.channel with
  | none => (detector, none)
  | some channel =>
    match channel.offer? sighting with
    | some channel => ({ detector with channel := some channel }, none)
    | none => (detector, some (.captureFull channel.capacity))

/-- Takes all waiting reports. -/
def drain (detector : Detector) : List Sighting × Detector :=
  match detector.channel with
  | none => ([], detector)
  | some channel =>
    let (reports, channel) := channel.drain
    (reports, { detector with channel := some channel })

end Detector

end RaceSentry
