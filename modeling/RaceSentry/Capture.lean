import RaceSentry.Channel
import RaceSentry.Error

/-!
# Captures of reports

A capture keeps both ends of a bounded channel and hands out further receiving ends, which all
share its queue. The sending end is never handed out, so nothing more can come once the capture is
given up. A report cannot be delivered when no receiving end is left, and is refused when the
channel is full.
-/

namespace RaceSentry

/-- A bounded channel of reports with its ends. -/
structure Capture (α : Type) where
  /-- The bound told with a refusal. -/
  capacity : Nat
  /-- The channel. -/
  channel : Channel α
  /-- The bound told is the one that is kept. -/
  agrees : channel.capacity = capacity
  /-- Whether the capture is still there, with its end of either kind. -/
  inUse : Bool
  /-- Whether each receiver handed out so far is still there. -/
  receivers : List Bool

/-- What may be asked of a capture and of the receivers it handed out. -/
inductive CaptureRequest (α : Type) where
  /-- Capture a report. -/
  | send (report : α)
  /-- Take all waiting reports. -/
  | drain
  /-- Tell how many reports wait, whether none does, and how many can. -/
  | measure
  /-- Hand out a receiver. -/
  | newReceiver
  /-- Take the oldest waiting report through a receiver. -/
  | receive (receiver : Nat)
  /-- Give a receiver up. -/
  | dropReceiver (receiver : Nat)
  /-- Give the capture up. -/
  | drop
  deriving Repr

/-- What is answered. -/
inductive CaptureReply (α : Type) where
  /-- Whether the report waits now. -/
  | sent (outcome : Except DetectorError Unit)
  /-- The reports taken, oldest first. -/
  | drained (reports : List α)
  /-- How many reports wait, whether none does, and how many can. -/
  | measured (size : Nat) (isEmpty : Bool) (capacity : Nat)
  /-- The number of a new receiver. -/
  | receiver (index : Nat)
  /-- What a receiver got. -/
  | received (received : Received α)
  /-- Something was given up. -/
  | dropped
  /-- There is no such capture or receiver. -/
  | absent

/-- A request with its answer. -/
abbrev CaptureEntry (α : Type) := CaptureRequest α × CaptureReply α

namespace Capture

variable {α : Type}

/-- A capture of nothing yet. -/
def new (capacity : Nat) : Capture α := ⟨capacity, .new capacity, rfl, true, []⟩

/-- The capture with another channel of the same bound. -/
def put (capture : Capture α) (channel : Channel α)
    (kept : channel.capacity = capture.channel.capacity) : Capture α :=
  { capture with channel := channel, agrees := kept.trans capture.agrees }

/-- Whether a receiving end is left. -/
def isHeard (capture : Capture α) : Bool := capture.inUse || capture.receivers.any id

/-- Whether a receiver is there. -/
def hasReceiver (capture : Capture α) (receiver : Nat) : Bool :=
  capture.receivers[receiver]? == some true

/-- Captures a report. -/
def send (capture : Capture α) (report : α) : Except DetectorError Unit × Capture α :=
  if capture.isHeard then
    match accepted : capture.channel.offer? report with
    | some channel => (.ok (), capture.put channel (Channel.queue_of_offer? accepted).2)
    | none => (.error (.captureFull capture.capacity), capture)
  else
    (.error .captureDisconnected, capture)

/-- Takes all waiting reports. -/
def drain (capture : Capture α) : List α × Capture α :=
  (capture.channel.drain.1, capture.put capture.channel.drain.2 rfl)

/-- Takes the oldest waiting report. -/
def receive (capture : Capture α) : Received α × Capture α :=
  ((capture.channel.receive capture.inUse).1,
    capture.put (capture.channel.receive capture.inUse).2
      (capture.channel.capacity_receive capture.inUse))

/-- Hands out a receiver. -/
def newReceiver (capture : Capture α) : Nat × Capture α :=
  (capture.receivers.length, { capture with receivers := capture.receivers ++ [true] })

/-- Whether what is asked is there to answer. -/
def isServed (capture : Capture α) : CaptureRequest α → Bool
  | .receive receiver => capture.hasReceiver receiver
  | .dropReceiver receiver => capture.hasReceiver receiver
  | .drop => true
  | _ => capture.inUse

/-- Answers a request to a capture or receiver that is there. -/
def serve (capture : Capture α) : CaptureRequest α → CaptureReply α × Capture α
  | .send report => (.sent (capture.send report).1, (capture.send report).2)
  | .drain => (.drained capture.drain.1, capture.drain.2)
  | .measure =>
    (.measured capture.channel.size capture.channel.isEmpty capture.capacity, capture)
  | .newReceiver => (.receiver capture.newReceiver.1, capture.newReceiver.2)
  | .receive _ => (.received capture.receive.1, capture.receive.2)
  | .dropReceiver receiver =>
    (.dropped, { capture with receivers := capture.receivers.set receiver false })
  | .drop => (.dropped, { capture with inUse := false })

/-- Answers a request. -/
def answer (capture : Capture α) (request : CaptureRequest α) : CaptureReply α × Capture α :=
  if capture.isServed request then capture.serve request else (.absent, capture)

/-- Answers requests one after another, and keeps what was asked and answered. -/
def answers (capture : Capture α) :
    List (CaptureRequest α) → List (CaptureEntry α) × Capture α
  | [] => ([], capture)
  | request :: rest =>
    let (reply, next) := capture.answer request
    let (entries, last) := next.answers rest
    ((request, reply) :: entries, last)

end Capture

end RaceSentry
