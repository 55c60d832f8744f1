import RaceSentry.World.Access

/-!
# How matters stand for one value

Verdicts on accesses to a value depend on its clock table and on what each thread has seen of it.
A standing gathers both for one value, with the threads that race on it. Its operations say what
an access and a section entry do to it.
Main definitions: `Standing.access`, `Standing.entry` and `World.standing?`.
-/

namespace RaceSentry

/-- What verdicts on one value depend on, and the threads flagged so far. -/
@[ext]
structure Standing where
  /-- Whether accesses are counted and judged. -/
  detecting : Bool
  /-- Authoritative counters of all accesses. -/
  clock : ClockTable
  /-- Threads with a flagged access. -/
  racing : SortedMap ThreadId Unit
  /-- What each thread has seen of the counters, if it holds a snapshot. -/
  snapshot? : ThreadId → Option ClockTable

namespace Standing

/-- Nobody has accessed the value. -/
def fresh (detecting : Bool) : Standing := ⟨detecting, ∅, ∅, fun _ => none⟩

/-- Puts something in place of the snapshot of one thread. -/
def withSnapshot (standing : Standing) (thread : ThreadId) (snapshot : Option ClockTable) :
    Standing :=
  { standing with
    snapshot? := fun other => if other = thread then snapshot else standing.snapshot? other }

/-- The counters that a thread has seen. -/
def seen (standing : Standing) (thread : ThreadId) : ClockTable :=
  (standing.snapshot? thread).getD ∅

/-- Counts an access in the authoritative table. -/
def count (standing : Standing) (key : AccessKey) : Standing :=
  { standing with clock := standing.clock.increment key }

/-- Copies one counter into the snapshot of its thread. -/
def copy (standing : Standing) (key : AccessKey) (counter : Nat) : Standing :=
  standing.withSnapshot key.thread (some ((standing.seen key.thread).insert key counter))

/-- What stands against an access whose counter is in both tables. -/
def judge (standing : Standing) (key : AccessKey) : List Conflict :=
  Conflict.unseen standing.clock (standing.seen key.thread) key.kind

/-- Marks a thread as racing. -/
def join (standing : Standing) (thread : ThreadId) : Standing :=
  { standing with racing := standing.racing.insert thread () }

/-- Counts an access in both tables. -/
def tally (standing : Standing) (key : AccessKey) : Standing :=
  (standing.count key).copy key (standing.clock.next key)

/-- What stands against the next access of a key. -/
def verdict (standing : Standing) (key : AccessKey) : List Conflict :=
  if standing.detecting then (standing.tally key).judge key else []

/-- An access: it is counted in both tables, and flagged if anything stands against it. -/
def access (standing : Standing) (key : AccessKey) : Standing :=
  if standing.detecting then
    if standing.verdict key = [] then standing.tally key
    else (standing.tally key).join key.thread
  else standing

/-- A section entry: the snapshot of the thread becomes the authoritative table. -/
def entry (standing : Standing) (thread : ThreadId) : Standing :=
  standing.withSnapshot thread (some standing.clock)

/-- A snapshot that a thread has already changes nothing. -/
@[simp] theorem withSnapshot_self (standing : Standing) (thread : ThreadId) :
    standing.withSnapshot thread (standing.snapshot? thread) = standing := by
  have same : (fun other => if other = thread then standing.snapshot? thread
      else standing.snapshot? other) = standing.snapshot? := by
    funext other
    split
    · rename_i same
      rw [same]
    · rfl
  simp only [withSnapshot, same]

/-- A snapshot that one thread takes leaves those of the others alone. -/
@[simp] theorem snapshot?_withSnapshot (standing : Standing) (thread other : ThreadId)
    (snapshot : Option ClockTable) :
    (standing.withSnapshot thread snapshot).snapshot? other =
      if other = thread then snapshot else standing.snapshot? other := rfl

/-- A counter that is copied is in what its thread has seen. -/
@[simp] theorem seen_copy (standing : Standing) (key : AccessKey) (counter : Nat) :
    (standing.copy key counter).seen key.thread =
      (standing.seen key.thread).insert key counter := by
  simp [seen, copy]

/-- A verdict compares the two tables as they are after the access was counted in both. -/
theorem verdict_of_detecting {standing : Standing} (on : standing.detecting = true)
    (key : AccessKey) :
    standing.verdict key = Conflict.unseen (standing.clock.increment key)
      ((standing.seen key.thread).insert key (standing.clock.next key)) key.kind := by
  rw [verdict, if_pos on, judge, tally, seen_copy]
  rfl

/-- An access raises its own counter and no other, whatever the verdict. -/
theorem clock_access (standing : Standing) (key : AccessKey) :
    (standing.access key).clock =
      if standing.detecting then standing.clock.increment key else standing.clock := by
  unfold access
  split
  · split <;> rfl
  · rfl

/-- An access copies its own counter into the snapshot of its thread, whatever the verdict. -/
theorem snapshot?_access (standing : Standing) (key : AccessKey) :
    (standing.access key).snapshot? =
      if standing.detecting then (standing.tally key).snapshot? else standing.snapshot? := by
  unfold access
  split
  · split <;> rfl
  · rfl

/-- An access never switches detection on or off. -/
@[simp] theorem detecting_access (standing : Standing) (key : AccessKey) :
    (standing.access key).detecting = standing.detecting := by
  unfold access
  split
  · split <;> rfl
  · rfl

end Standing

/-- How matters stand for a value, given what threads have seen of it. -/
def Cell.standing {α : Type} (cell : Cell α) (snapshot? : ThreadId → Option ClockTable) :
    Standing :=
  ⟨cell.detecting, cell.clock, cell.racing, snapshot?⟩

namespace World

variable {α : Type} (world : World α)

/-- What a thread has seen of a value, if it holds a snapshot. -/
def snapshot? (thread : ThreadId) (value : ValueId) : Option ClockTable :=
  (world.thread thread).context.bind fun context => context.snapshot? value

/-- How matters stand for a value that exists. -/
def standing? (value : ValueId) : Option Standing :=
  (world.cells.get? value).map fun cell => cell.standing fun thread => world.snapshot? thread value

/-- A value stands as its cell and the snapshots of it say. -/
theorem standing?_of_get? {value : ValueId} {cell : Cell α}
    (found : world.cells.get? value = some cell) :
    world.standing? value = some (cell.standing fun thread => world.snapshot? thread value) := by
  rw [standing?, found, Option.map_some]

/-- A value that exists has a standing, and conversely. -/
theorem standing?_eq_some_iff {value : ValueId} {standing : Standing} :
    world.standing? value = some standing ↔
      ∃ cell, world.cells.get? value = some cell ∧
        (cell.standing fun thread => world.snapshot? thread value) = standing := by
  rw [standing?, Option.map_eq_some_iff]

/-- Matters stand alike for a value in worlds that agree on its cell's accounts and on its
snapshots. -/
theorem standing?_congr {world next : World α} {value : ValueId}
    (cells : (next.cells.get? value).map (fun cell => cell.standing fun _ => none) =
      (world.cells.get? value).map fun cell => cell.standing fun _ => none)
    (snapshots : ∀ thread, next.snapshot? thread value = world.snapshot? thread value) :
    next.standing? value = world.standing? value := by
  have same : (fun thread => next.snapshot? thread value) =
      fun thread => world.snapshot? thread value := funext snapshots
  have seen := congrArg (Option.map fun standing : Standing =>
    { standing with snapshot? := fun thread => world.snapshot? thread value }) cells
  simp only [Option.map_map] at seen
  rw [standing?, standing?, same]
  exact seen

end World

end RaceSentry
