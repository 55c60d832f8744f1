import RaceSentry.Capture
import RaceSentry.Detector

/-!
# Conservation of reports

Every report that a capture accepts is either taken once, by a drain or through one of the
receivers, or still waits, and the order of acceptance is the order of taking. The one-step law
`Capture.answer_conserves` speaks of any capture in any state; it carries over to any requests in
any order.

## Main statement

`Capture.reports_conserved`: the reports taken, followed by those that wait, are the reports
accepted; never more wait than the bound allows, a report is refused exactly when that many wait,
and no report is undeliverable.
-/

namespace RaceSentry

variable {α : Type}

namespace CaptureEntry

/-- The report that was to be captured. -/
def attempted : CaptureEntry α → List α
  | (.send report, .sent _) => [report]
  | _ => []

/-- The report that was captured. -/
def accepted : CaptureEntry α → List α
  | (.send report, .sent (.ok ())) => [report]
  | _ => []

/-- The report that was refused. -/
def refused : CaptureEntry α → List α
  | (.send report, .sent (.error _)) => [report]
  | _ => []

/-- The reports that left the channel. -/
def taken : CaptureEntry α → List α
  | (_, .drained reports) => reports
  | (_, .received (.message report)) => [report]
  | _ => []

/-- A report is either accepted or refused. -/
theorem length_accepted_add_length_refused (entry : CaptureEntry α) :
    entry.accepted.length + entry.refused.length = entry.attempted.length := by
  obtain ⟨request, reply⟩ := entry
  cases request with
  | send report =>
    cases reply with
    | sent outcome => cases outcome <;> rfl
    | _ => rfl
  | _ => rfl

/-- Of many reports each is either accepted or refused. -/
theorem length_flatMap_accepted_add_length_flatMap_refused (log : List (CaptureEntry α)) :
    (log.flatMap accepted).length + (log.flatMap refused).length =
      (log.flatMap attempted).length := by
  induction log with
  | nil => rfl
  | cons entry rest ih =>
    have first := length_accepted_add_length_refused entry
    simp only [List.flatMap_cons, List.length_append]
    omega

end CaptureEntry

namespace Channel

/-- With room left an offer is accepted. -/
theorem exists_offer?_eq_some {channel : Channel α} (message : α)
    (room : channel.size < channel.capacity) :
    ∃ next, channel.offer? message = some next ∧ next.queue = channel.queue ++ [message] := by
  cases offered : channel.offer? message with
  | none => exact absurd (offer?_eq_none_iff.1 offered) (Nat.ne_of_lt room)
  | some next => exact ⟨next, rfl, (queue_of_offer? offered).1⟩

/-- The oldest waiting message is received. -/
theorem receive_of_cons {channel : Channel α} {message : α} {rest : List α}
    (front : channel.queue = message :: rest) (connected : Bool) :
    (channel.receive connected).1 = .message message ∧
      (channel.receive connected).2.queue = rest := by
  obtain ⟨capacity, queue, bounded⟩ := channel
  cases front
  exact ⟨rfl, rfl⟩

/-- With nothing waiting nothing is received. -/
theorem receive_of_nil {channel : Channel α} (nothing : channel.queue = []) (connected : Bool) :
    (channel.receive connected).1 = (if connected then .empty else .disconnected) ∧
      (channel.receive connected).2.queue = [] := by
  obtain ⟨capacity, queue, bounded⟩ := channel
  cases nothing
  exact ⟨rfl, rfl⟩

end Channel

namespace Capture

/-- A capture in use keeps a receiving end of its own. -/
theorem isHeard_of_inUse {capture : Capture α} (used : capture.inUse = true) :
    capture.isHeard = true := by
  rw [isHeard, used, Bool.true_or]

/-- What a capture in use does with a report is what its channel does with the offer. -/
theorem send_of_offer?_eq_some {capture : Capture α} (used : capture.inUse = true) {report : α}
    {next : Channel α} (offered : capture.channel.offer? report = some next) :
    capture.send report = (.ok (), capture.put next (Channel.queue_of_offer? offered).2) := by
  unfold send
  rw [if_pos (isHeard_of_inUse used)]
  split
  · rename_i accepted same
    cases offered.symm.trans same
    rfl
  · rename_i same
    cases offered.symm.trans same

/-- A report for which there is room waits behind all others. -/
theorem send_of_lt {capture : Capture α} (used : capture.inUse = true) (report : α)
    (room : capture.channel.size < capture.capacity) :
    (capture.send report).1 = .ok () ∧
      (capture.send report).2.channel.queue = capture.channel.queue ++ [report] := by
  obtain ⟨next, offered, queue⟩ := Channel.exists_offer?_eq_some report (capture.agrees ▸ room)
  rw [send_of_offer?_eq_some used offered]
  exact ⟨rfl, queue⟩

/-- A channel whose report has no room refuses the offer. -/
theorem offer?_of_le {capture : Capture α} (report : α)
    (full : capture.capacity ≤ capture.channel.size) :
    capture.channel.offer? report = none :=
  Channel.offer?_eq_none_iff.2
    (Nat.le_antisymm capture.channel.bounded (capture.agrees.symm ▸ full))

/-- A report for which there is no room is refused, and nothing changes. -/
theorem send_of_le {capture : Capture α} (used : capture.inUse = true) (report : α)
    (full : capture.capacity ≤ capture.channel.size) :
    capture.send report = (.error (.captureFull capture.capacity), capture) := by
  have offered := offer?_of_le report full
  unfold send
  rw [if_pos (isHeard_of_inUse used)]
  split
  · rename_i accepted same
    cases offered.symm.trans same
  · rfl

/-- A request to a capture or receiver that is there is served. -/
theorem answer_of_isServed (capture : Capture α) (request : CaptureRequest α)
    (served : capture.isServed request = true) :
    capture.answer request = capture.serve request := if_pos served

/-- What a request takes, followed by what waits then, is what waited before, followed by what it
adds. -/
theorem serve_conserves (capture : Capture α) (request : CaptureRequest α)
    (served : capture.isServed request = true) :
    CaptureEntry.taken (request, (capture.serve request).1) ++
        (capture.serve request).2.channel.queue =
      capture.channel.queue ++ CaptureEntry.accepted (request, (capture.serve request).1) := by
  cases request with
  | send report =>
    by_cases room : capture.channel.size < capture.capacity
    · obtain ⟨sent, queue⟩ := send_of_lt served report room
      rw [serve, sent, queue]
      rfl
    · rw [serve, send_of_le served report (Nat.le_of_not_lt room)]
      exact (List.append_nil _).symm
  | drain => rfl
  | receive receiver =>
    change CaptureEntry.taken (_, .received (capture.channel.receive capture.inUse).1) ++
      (capture.channel.receive capture.inUse).2.queue = capture.channel.queue ++ []
    cases waiting : capture.channel.queue with
    | nil =>
      obtain ⟨received, queue⟩ := Channel.receive_of_nil waiting capture.inUse
      rw [received, queue]
      cases capture.inUse <;> rfl
    | cons report rest =>
      obtain ⟨received, queue⟩ := Channel.receive_of_cons waiting capture.inUse
      rw [received, queue, List.append_nil]
      rfl
  | measure => exact (List.append_nil _).symm
  | newReceiver => exact (List.append_nil _).symm
  | dropReceiver receiver => exact (List.append_nil _).symm
  | drop => exact (List.append_nil _).symm

/-- A request that finds nobody to answer it adds nothing. -/
theorem accepted_absent (request : CaptureRequest α) :
    CaptureEntry.accepted (request, .absent) = [] := by
  cases request <;> rfl

/-- One request: what it takes, followed by what waits then, is what waited before, followed by
what it adds. -/
theorem answer_conserves (capture : Capture α) (request : CaptureRequest α) :
    CaptureEntry.taken (request, (capture.answer request).1) ++
        (capture.answer request).2.channel.queue =
      capture.channel.queue ++ CaptureEntry.accepted (request, (capture.answer request).1) := by
  unfold answer
  split
  · rename_i served
    exact capture.serve_conserves request served
  · rw [accepted_absent, List.append_nil]
    rfl

/-- Sending keeps the bound and the capture. -/
theorem send_keeps (capture : Capture α) (report : α) :
    (capture.send report).2.capacity = capture.capacity ∧
      (capture.send report).2.inUse = capture.inUse := by
  unfold send
  split
  · split
    · exact ⟨rfl, rfl⟩
    · exact ⟨rfl, rfl⟩
  · exact ⟨rfl, rfl⟩

/-- No request changes the bound. -/
theorem capacity_answer (capture : Capture α) (request : CaptureRequest α) :
    (capture.answer request).2.capacity = capture.capacity := by
  unfold answer
  split
  · cases request with
    | send report => exact (capture.send_keeps report).1
    | _ => rfl
  · rfl

/-- A capture is there until it is given up. -/
theorem inUse_answer (capture : Capture α) (request : CaptureRequest α) :
    (capture.answer request).2.inUse = true ↔ capture.inUse = true ∧ request ≠ .drop := by
  cases request with
  | drop => simp [answer, serve, isServed]
  | send report =>
    unfold answer
    split
    · simp [serve, (capture.send_keeps report).2]
    · simp
  | _ =>
    unfold answer
    split <;> simp [serve, put, drain, receive, newReceiver]

/-- No report is undeliverable, since a capture that is asked to take one hears it itself. -/
theorem answer_ne_disconnected (capture : Capture α) (request : CaptureRequest α) :
    (capture.answer request).1 ≠ .sent (.error .captureDisconnected) := by
  unfold answer
  split
  · rename_i served
    cases request with
    | send report =>
      by_cases room : capture.channel.size < capture.capacity
      · simp [serve, (send_of_lt served report room).1]
      · simp [serve, send_of_le served report (Nat.le_of_not_lt room)]
    | _ => simp [serve]
  · simp

/-- The entry of the first request, followed by those of the others. -/
theorem answers_cons (capture : Capture α) (request : CaptureRequest α)
    (rest : List (CaptureRequest α)) :
    capture.answers (request :: rest) =
      ((request, (capture.answer request).1) :: ((capture.answer request).2.answers rest).1,
        ((capture.answer request).2.answers rest).2) := rfl

/-- Many requests: what they take, followed by what waits in the end, is what waited before,
followed by what they add. -/
theorem answers_conserves (capture : Capture α) (requests : List (CaptureRequest α)) :
    (capture.answers requests).1.flatMap CaptureEntry.taken ++
        (capture.answers requests).2.channel.queue =
      capture.channel.queue ++ (capture.answers requests).1.flatMap CaptureEntry.accepted := by
  induction requests generalizing capture with
  | nil => simp [answers]
  | cons request rest ih =>
    have first := capture.answer_conserves request
    have others := ih (capture.answer request).2
    rw [answers_cons, List.flatMap_cons, List.flatMap_cons, List.append_assoc, others,
      ← List.append_assoc, first, List.append_assoc]

/-- No requests change the bound. -/
theorem capacity_answers (capture : Capture α) (requests : List (CaptureRequest α)) :
    (capture.answers requests).2.capacity = capture.capacity := by
  induction requests generalizing capture with
  | nil => rfl
  | cons request rest ih => exact (ih _).trans (capture.capacity_answer request)

/-- A capture is there as long as no request has given it up. -/
theorem inUse_answers (capture : Capture α) (requests : List (CaptureRequest α)) :
    (capture.answers requests).2.inUse = true ↔
      capture.inUse = true ∧ CaptureRequest.drop ∉ requests := by
  induction requests generalizing capture with
  | nil => simp [answers]
  | cons request rest ih =>
    rw [answers_cons, ih, inUse_answer, List.mem_cons, not_or, and_assoc, ne_comm]

/-- No reports are undeliverable. -/
theorem answers_ne_disconnected (capture : Capture α) (requests : List (CaptureRequest α))
    {entry : CaptureEntry α} (member : entry ∈ (capture.answers requests).1) :
    entry.2 ≠ .sent (.error .captureDisconnected) := by
  induction requests generalizing capture with
  | nil => cases member
  | cons request rest ih =>
    cases member with
    | head => exact capture.answer_ne_disconnected request
    | tail _ later => exact ih (capture.answer request).2 later

/-- Draining is receiving until nothing waits any more. -/
theorem drain_eq_receive (capture : Capture α) {receiver : Nat}
    (there : capture.hasReceiver receiver = true) :
    (capture.answers (List.replicate capture.channel.size (.receive receiver))).1.flatMap
        CaptureEntry.taken = capture.drain.1 ∧
      (capture.answers (List.replicate capture.channel.size (.receive receiver))).2 =
        capture.drain.2 := by
  obtain ⟨capacity, ⟨bound, queue, bounded⟩, agrees, used, receivers⟩ := capture
  induction queue with
  | nil => exact ⟨rfl, rfl⟩
  | cons report rest ih =>
    obtain ⟨taken, left⟩ := ih (Nat.le_of_succ_le bounded) agrees there
    have answered : answer ⟨capacity, ⟨bound, report :: rest, bounded⟩, agrees, used, receivers⟩
        (.receive receiver) =
        (.received (.message report),
          ⟨capacity, ⟨bound, rest, Nat.le_of_succ_le bounded⟩, agrees, used, receivers⟩) := by
      rw [answer_of_isServed _ (.receive receiver) there]
      rfl
    change
      (answers _ (.receive receiver :: List.replicate rest.length (.receive receiver))).1.flatMap
        _ = _ ∧
      (answers _ (.receive receiver :: List.replicate rest.length (.receive receiver))).2 = _
    rw [answers_cons, answered]
    exact ⟨congrArg (report :: ·) taken, left⟩

/-- What a capture that is there does next. -/
structure Serves (capture : Capture α) (capacity : Nat) : Prop where
  /-- A report for which there is room is accepted, and waits behind all others. -/
  accepts : ∀ report, capture.channel.size < capacity →
    (capture.answer (.send report)).1 = .sent (.ok ()) ∧
      (capture.answer (.send report)).2.channel.queue = capture.channel.queue ++ [report]
  /-- A report for which there is no room is refused, and nothing changes. -/
  refuses : ∀ report, capacity ≤ capture.channel.size →
    capture.answer (.send report) = (.sent (.error (.captureFull capacity)), capture)
  /-- A drain takes all waiting reports. -/
  drains : (capture.answer .drain).1 = .drained capture.channel.queue ∧
    (capture.answer .drain).2.channel.queue = []
  /-- Every receiver takes the oldest waiting report. -/
  receives : ∀ receiver report rest, capture.hasReceiver receiver = true →
    capture.channel.queue = report :: rest →
      (capture.answer (.receive receiver)).1 = .received (.message report) ∧
        (capture.answer (.receive receiver)).2.channel.queue = rest
  /-- With nothing waiting no receiver takes anything. -/
  waits : ∀ receiver, capture.hasReceiver receiver = true → capture.channel.queue = [] →
    (capture.answer (.receive receiver)).1 = .received .empty ∧
      (capture.answer (.receive receiver)).2.channel.queue = []
  /-- To tell how many reports wait changes nothing. -/
  measures : capture.answer .measure =
    (.measured capture.channel.queue.length capture.channel.queue.isEmpty capacity, capture)

/-- A capture in use serves within its bound. -/
theorem serves_of_inUse {capture : Capture α} (used : capture.inUse = true) :
    capture.Serves capture.capacity where
  accepts report room := by
    obtain ⟨sent, queue⟩ := send_of_lt used report room
    rw [capture.answer_of_isServed (.send report) used, serve, sent]
    exact ⟨rfl, queue⟩
  refuses report full := by
    rw [capture.answer_of_isServed (.send report) used, serve, send_of_le used report full]
  drains := by
    rw [capture.answer_of_isServed .drain used]
    exact ⟨rfl, rfl⟩
  receives receiver report rest there front := by
    obtain ⟨received, queue⟩ := Channel.receive_of_cons front capture.inUse
    rw [capture.answer_of_isServed (.receive receiver) there]
    exact ⟨congrArg CaptureReply.received received, queue⟩
  waits receiver there nothing := by
    obtain ⟨received, queue⟩ := Channel.receive_of_nil nothing capture.inUse
    rw [capture.answer_of_isServed (.receive receiver) there]
    rw [if_pos used] at received
    exact ⟨congrArg CaptureReply.received received, queue⟩
  measures := by
    rw [capture.answer_of_isServed .measure used]
    rfl

/-- Whatever is asked of a new capture, in whatever order: never more reports wait than its bound
allows, the reports taken, followed by those that wait, are those accepted, in the same order, every
report is either accepted or refused, and none is undeliverable. As long as the capture is not
given up it accepts a report exactly when there is room. -/
theorem reports_conserved (capacity : Nat) (requests : List (CaptureRequest α)) :
    let log := ((new capacity).answers requests).1
    let capture := ((new capacity).answers requests).2
    capture.channel.size ≤ capacity ∧
    log.flatMap CaptureEntry.taken ++ capture.channel.queue =
      log.flatMap CaptureEntry.accepted ∧
    (log.flatMap CaptureEntry.accepted).length + (log.flatMap CaptureEntry.refused).length =
      (log.flatMap CaptureEntry.attempted).length ∧
    (∀ entry ∈ log, entry.2 ≠ .sent (.error .captureDisconnected)) ∧
    (CaptureRequest.drop ∉ requests → capture.Serves capacity) := by
  intro log capture
  have bound : capture.capacity = capacity := (new capacity).capacity_answers requests
  refine ⟨?_, ?_, ?_, ?_, ?_⟩
  · exact bound ▸ capture.agrees ▸ capture.channel.bounded
  · exact (new capacity).answers_conserves requests
  · exact CaptureEntry.length_flatMap_accepted_add_length_flatMap_refused log
  · exact fun entry member => (new capacity).answers_ne_disconnected requests member
  · intro kept
    have used : capture.inUse = true := ((new capacity).inUse_answers requests).2 ⟨rfl, kept⟩
    exact bound ▸ serves_of_inUse used

/-- A capture of one report: the second is refused, and accepted again once a receiver has taken
the first. -/
theorem reports_conserved_of_one :
    (CaptureRequest.drop : CaptureRequest Nat) ∉
        [.send 7, .newReceiver, .send 8, .receive 0, .send 9] ∧
      ((new 1).answers [.send 7, .newReceiver, .send 8, .receive 0, .send 9]).1.flatMap
        CaptureEntry.accepted = [7, 9] ∧
      ((new 1).answers [.send 7, .newReceiver, .send 8, .receive 0, .send 9]).2.Serves 1 := by
  have kept : (CaptureRequest.drop : CaptureRequest Nat) ∉
      [.send 7, .newReceiver, .send 8, .receive 0, .send 9] := by simp
  obtain ⟨-, conserved, -, -, serves⟩ :=
    reports_conserved 1 [.send 7, .newReceiver, .send 8, .receive 0, .send 9]
  exact ⟨kept, conserved.symm.trans rfl, serves kept⟩

end Capture

namespace Detector

/-- A detector delivers a report as a capture of its channel does, and keeps the refusal. -/
theorem deliver_eq_send {detector : Detector} {capture : Capture Sighting}
    (held : detector.channel = some capture.channel) (used : capture.inUse = true)
    (sighting : Sighting) :
    detector.deliver sighting =
      match capture.send sighting with
      | (.ok (), next) => ({ detector with channel := some next.channel }, none)
      | (.error reason, _) => (detector, some reason) := by
  unfold deliver
  rw [held]
  by_cases room : capture.channel.size < capture.capacity
  · obtain ⟨next, offered, -⟩ :=
      Channel.exists_offer?_eq_some sighting (capture.agrees ▸ room)
    rw [Capture.send_of_offer?_eq_some used offered]
    simp only [offered]
    rfl
  · have full := Nat.le_of_not_lt room
    rw [Capture.send_of_le used sighting full]
    simp only [Capture.offer?_of_le sighting full, capture.agrees]

/-- A detector drains its reports as a capture of its channel does. -/
theorem drain_eq_drain {detector : Detector} {capture : Capture Sighting}
    (held : detector.channel = some capture.channel) :
    detector.drain =
      (capture.drain.1, { detector with channel := some capture.drain.2.channel }) := by
  rw [drain, held]
  rfl

end Detector

end RaceSentry
