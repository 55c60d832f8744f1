import RaceSentry.Access

/-!
# Re-entrant locks

A lock is held by one thread at a time, which may take it again and then has to give it up as
often as it took it.
-/

namespace RaceSentry

/-- A lock that its owner may take again. -/
inductive Lock where
  /-- Nobody holds it. -/
  | free
  /-- A thread took it once, and that many times again. -/
  | held (owner : ThreadId) (again : Nat)
  deriving DecidableEq, Repr

namespace Lock

/-- Whether a thread can take the lock now. -/
def admits (lock : Lock) (thread : ThreadId) : Bool :=
  match lock with
  | .free => true
  | .held owner _ => owner = thread

/-- Takes the lock, unless another thread holds it. -/
def acquire? (lock : Lock) (thread : ThreadId) : Option Lock :=
  match lock with
  | .free => some (.held thread 0)
  | .held owner again => if owner = thread then some (.held owner (again + 1)) else none

/-- Gives the lock up once. -/
def release : Lock → Lock
  | .free => .free
  | .held _ 0 => .free
  | .held owner (again + 1) => .held owner again

/-- Whether somebody holds the lock. -/
def isHeld : Lock → Bool
  | .free => false
  | .held _ _ => true

/-- Giving up what was taken restores the lock. -/
theorem release_acquire? {lock taken : Lock} {thread : ThreadId}
    (got : lock.acquire? thread = some taken) : taken.release = lock := by
  cases lock with
  | free =>
    cases got
    rfl
  | held owner again =>
    simp only [acquire?, Option.ite_none_right_eq_some, Option.some.injEq] at got
    rw [← got.2, release]

/-- Taking succeeds exactly when the lock admits the thread. -/
theorem isSome_acquire?_iff (lock : Lock) (thread : ThreadId) :
    (lock.acquire? thread).isSome = lock.admits thread := by
  cases lock with
  | free => rfl
  | held owner again =>
    simp only [acquire?, admits]
    split <;> simp_all

end Lock

end RaceSentry
