import RaceSentry.SortedMap

/-!
# Threads, values and kinds of access

A thread and a monitored value are known by the place at which they were created; places are
never used twice. Accesses are reads or writes, and only two reads are compatible.
-/

namespace RaceSentry

/-- Identity of a thread: the number of threads created before it. -/
structure ThreadId where
  /-- Place in the order of creation. -/
  index : Nat
  deriving Repr

namespace ThreadId

instance : Ranked ThreadId where
  rank := ThreadId.index
  rank_injective := fun left right h => by cases left; cases right; exact congrArg ThreadId.mk h

/-- Written form, such as `t3`. -/
def text (thread : ThreadId) : String := "t" ++ toString thread.index

end ThreadId

/-- Identity of a monitored value: the number of values created before it. -/
structure ValueId where
  /-- Place in the order of creation. -/
  index : Nat
  deriving Repr

namespace ValueId

instance : Ranked ValueId where
  rank := ValueId.index
  rank_injective := fun left right h => by cases left; cases right; exact congrArg ValueId.mk h

/-- Written form, such as `v0`. -/
def text (value : ValueId) : String := "v" ++ toString value.index

end ValueId

/-- What an access does to the payload. -/
inductive AccessKind where
  /-- Looks at the payload. -/
  | read
  /-- May change the payload. -/
  | write
  deriving DecidableEq, Repr

namespace AccessKind

/-- Two accesses conflict unless both only look. -/
def conflicts : AccessKind → AccessKind → Bool
  | .read, .read => false
  | _, _ => true

/-- The kind as it stands in messages. -/
def text : AccessKind → String
  | .read => "read"
  | .write => "write"

/-- The kind as it stands in exported records. -/
def tag : AccessKind → String
  | .read => "Read"
  | .write => "Write"

/-- The kind with a given tag. -/
def ofTag? : String → Option AccessKind
  | "Read" => some .read
  | "Write" => some .write
  | _ => none

/-- Reads stand before writes. -/
def rank : AccessKind → Nat
  | .read => 0
  | .write => 1

/-- Conflicting does not depend on which of two kinds comes first. -/
theorem conflicts_comm (first second : AccessKind) :
    first.conflicts second = second.conflicts first := by
  cases first <;> cases second <;> rfl

/-- The tag of a kind is read back as the kind. -/
theorem ofTag?_tag (kind : AccessKind) : ofTag? kind.tag = some kind := by
  cases kind <;> rfl

/-- A rank is zero or one. -/
theorem rank_lt_two (kind : AccessKind) : kind.rank < 2 := by
  cases kind <;> decide

/-- Kinds of one rank are the same. -/
theorem rank_inj {first second : AccessKind} (h : first.rank = second.rank) : first = second := by
  cases first <;> cases second <;> first | rfl | exact absurd h (by decide)

end AccessKind

/-- One thread's accesses of one kind; the key of every clock table. -/
structure AccessKey where
  /-- The accessing thread. -/
  thread : ThreadId
  /-- What it does. -/
  kind : AccessKind
  deriving Repr

namespace AccessKey

/-- Keys are ordered by thread, and a thread's reads stand before its writes. -/
instance : Ranked AccessKey where
  rank := fun key => 2 * key.thread.index + key.kind.rank
  rank_injective := fun left right h => by
    have leftSmall := left.kind.rank_lt_two
    have rightSmall := right.kind.rank_lt_two
    have sameThread : left.thread.index = right.thread.index := by omega
    have sameKind : left.kind = right.kind := AccessKind.rank_inj (by omega)
    rcases left with ⟨⟨leftIndex⟩, leftKind⟩
    rcases right with ⟨⟨rightIndex⟩, rightKind⟩
    cases sameThread
    cases sameKind
    rfl

/-- Written form, such as `t1/write`. -/
def text (key : AccessKey) : String := key.thread.text ++ "/" ++ key.kind.text

end AccessKey

end RaceSentry
