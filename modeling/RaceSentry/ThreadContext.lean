import RaceSentry.ClockTable

/-!
# What one thread has seen

A thread keeps, for each monitored value it touched, a snapshot of that value's clock table. An
access updates the thread's own entry; entering a synchronized section replaces the snapshot.
-/

namespace RaceSentry

/-- One thread's snapshots of the values it touched. -/
structure ThreadContext where
  /-- The thread that the context says it belongs to. -/
  identity : ThreadId
  /-- The thread's name. -/
  name : Option String
  /-- Snapshots by value. -/
  snapshots : SortedMap ValueId ClockTable
  deriving DecidableEq

namespace ThreadContext

/-- A context that has seen nothing. -/
def new (identity : ThreadId) (name : Option String) : ThreadContext := ⟨identity, name, ∅⟩

/-- The snapshot of a value. -/
def snapshot? (context : ThreadContext) (value : ValueId) : Option ClockTable :=
  context.snapshots.get? value

/-- Stores one counter in the snapshot of a value, which is made when there is none. -/
def record (context : ThreadContext) (value : ValueId) (key : AccessKey) (counter : Nat) :
    ThreadContext :=
  let snapshot := (context.snapshot? value).getD ∅
  { context with snapshots := context.snapshots.insert value (snapshot.insert key counter) }

/-- Puts a table in place of the snapshot of a value. -/
def replace (context : ThreadContext) (value : ValueId) (table : ClockTable) : ThreadContext :=
  { context with snapshots := context.snapshots.insert value table }

/-- Drops the snapshot of a value. -/
def forget (context : ThreadContext) (value : ValueId) : ThreadContext :=
  { context with snapshots := context.snapshots.erase value }

/-- The number of values with a snapshot. -/
def tracked (context : ThreadContext) : Nat := context.snapshots.size

/-- A context that is new holds no snapshot. -/
@[simp] theorem snapshot?_new (identity : ThreadId) (name : Option String) (value : ValueId) :
    (new identity name).snapshot? value = none := rfl

/-- Recording a counter puts it into the snapshot of its value, which is made if there is none, and
leaves the other snapshots. -/
theorem snapshot?_record (context : ThreadContext) (value other : ValueId) (key : AccessKey)
    (counter : Nat) :
    (context.record value key counter).snapshot? other =
      if other = value then some (((context.snapshot? value).getD ∅).insert key counter)
      else context.snapshot? other :=
  SortedMap.get?_insert _ _ _ _

/-- Replacing the snapshot of a value leaves the others. -/
theorem snapshot?_replace (context : ThreadContext) (value other : ValueId) (table : ClockTable) :
    (context.replace value table).snapshot? other =
      if other = value then some table else context.snapshot? other :=
  SortedMap.get?_insert _ _ _ _

/-- Forgetting the snapshot of a value leaves the others. -/
theorem snapshot?_forget (context : ThreadContext) (value other : ValueId) :
    (context.forget value).snapshot? other =
      if other = value then none else context.snapshot? other :=
  SortedMap.get?_erase _ _ _

end ThreadContext

end RaceSentry
