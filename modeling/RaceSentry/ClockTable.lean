import RaceSentry.Access

/-!
# Clock tables

A clock table counts accesses per key. A counter starts at one with the first access and grows by
one with each further access; a key without accesses has no entry.
-/

namespace RaceSentry

/-- Counters by thread and kind of access. -/
abbrev ClockTable := SortedMap AccessKey Nat

namespace ClockTable

/-- The counter a key gets with its next access. -/
def next (table : ClockTable) (key : AccessKey) : Nat := (table.get? key).getD 0 + 1

/-- Counts one access. -/
def increment (table : ClockTable) (key : AccessKey) : ClockTable :=
  SortedMap.insert table key (table.next key)

/-- The sum of all counters. -/
def total (table : ClockTable) : Nat := sumOver (SortedMap.values table) id

/-- Counting an access of a key raises its counter, and no other. -/
theorem get?_increment (table : ClockTable) (key other : AccessKey) :
    SortedMap.get? (table.increment key) other =
      if other = key then some (table.next key) else SortedMap.get? table other :=
  SortedMap.get?_insert table key other _

/-- An access leaves the counters of other keys as they are. -/
theorem next_increment_of_ne (table : ClockTable) {key other : AccessKey}
    (different : other ≠ key) :
    (table.increment key).next other = table.next other := by
  rw [next, get?_increment, if_neg different, next]

/-- Accesses of different keys are counted in any order. -/
theorem increment_comm (table : ClockTable) {first second : AccessKey}
    (different : first ≠ second) :
    (table.increment first).increment second = (table.increment second).increment first := by
  rw [increment, next_increment_of_ne table (Ne.symm different), increment,
    SortedMap.insert_comm table different, increment,
    next_increment_of_ne table different, increment]

/-- A counter that was just raised is present and positive. -/
theorem get?_increment_self (table : ClockTable) (key : AccessKey) :
    SortedMap.get? (table.increment key) key = some ((table.get? key).getD 0 + 1) := by
  rw [get?_increment, if_pos rfl, next]

end ClockTable

end RaceSentry
