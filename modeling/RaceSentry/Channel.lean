/-!
# Bounded report queues

A channel holds at most its capacity, hands messages out in the order of their acceptance, and
refuses an offer without changing when it is full. A channel of capacity zero refuses every offer.
-/

namespace RaceSentry

/-- A bounded first-in, first-out queue. -/
structure Channel (α : Type) where
  /-- The most messages it holds. -/
  capacity : Nat
  /-- Waiting messages, oldest first. -/
  queue : List α
  /-- The bound is kept. -/
  bounded : queue.length ≤ capacity

/-- What a receiver gets. -/
inductive Received (α : Type) where
  /-- The oldest waiting message. -/
  | message (value : α)
  /-- Nothing waits, but more may come. -/
  | empty
  /-- Nothing waits and nothing will come. -/
  | disconnected
  deriving Repr

namespace Channel

variable {α : Type}

/-- An empty channel. -/
def new (capacity : Nat) : Channel α := ⟨capacity, [], Nat.zero_le _⟩

/-- The number of waiting messages. -/
def size (channel : Channel α) : Nat := channel.queue.length

/-- Whether no message waits. -/
def isEmpty (channel : Channel α) : Bool := channel.queue.isEmpty

/-- Accepts a message when there is room. -/
def offer? (channel : Channel α) (message : α) : Option (Channel α) :=
  if room : channel.queue.length < channel.capacity then
    some ⟨channel.capacity, channel.queue ++ [message], by
      rw [List.length_append, List.length_singleton]; exact room⟩
  else
    none

/-- Takes the oldest message. With nothing waiting the answer tells whether more may come. -/
def receive (channel : Channel α) (connected : Bool) : Received α × Channel α :=
  match channel with
  | ⟨capacity, message :: rest, bounded⟩ =>
    (.message message, ⟨capacity, rest, Nat.le_of_succ_le bounded⟩)
  | ⟨capacity, [], bounded⟩ =>
    (if connected then .empty else .disconnected, ⟨capacity, [], bounded⟩)

/-- Takes all waiting messages, oldest first. -/
def drain (channel : Channel α) : List α × Channel α := (channel.queue, new channel.capacity)

/-- An offer is refused exactly when the channel is full. -/
theorem offer?_eq_none_iff {channel : Channel α} {message : α} :
    channel.offer? message = none ↔ channel.size = channel.capacity := by
  have := channel.bounded
  unfold offer? size
  split <;> simp <;> omega

/-- An accepted message waits behind all others. -/
theorem queue_of_offer? {channel next : Channel α} {message : α}
    (accepted : channel.offer? message = some next) :
    next.queue = channel.queue ++ [message] ∧ next.capacity = channel.capacity := by
  unfold offer? at accepted
  split at accepted
  · cases accepted
    exact ⟨rfl, rfl⟩
  · cases accepted

/-- Receiving keeps the bound. -/
theorem capacity_receive (channel : Channel α) (connected : Bool) :
    (channel.receive connected).2.capacity = channel.capacity := by
  match channel with
  | ⟨_, [], _⟩ => rfl
  | ⟨_, _ :: _, _⟩ => rfl

end Channel

end RaceSentry
