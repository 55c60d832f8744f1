import RaceSentry.Proofs.Script

/-!
# What a thread leaves alone

Whatever a thread does, it works on its own context only, and there on the snapshots of values that
it accesses, on which it enters sections, or that it edits by hand. This is shown stage by stage,
and for whole steps with everything that closures and blocks do inside of them, whether they run to
their end or are cut short.
Main statement: `confined_of_step`.
-/

namespace RaceSentry

variable {α β : Type}

namespace ContextRequest

/-- Whether a request edits the snapshot of a value by hand. -/
def edits (value : ValueId) : ContextRequest → Bool
  | .record other _ _ => decide (other = value)
  | .replace other _ => decide (other = value)
  | .forget other => decide (other = value)
  | .attach _ => true
  | _ => false

/-- Whether a request puts another context in place of the one that is bound. -/
def attaches : ContextRequest → Bool
  | .attach _ => true
  | _ => false

end ContextRequest

/-- The requests that the closure of an access makes. -/
def World.accessRequests (world : World α) (thread : ThreadId) (value : ValueId)
    (kind : AccessKind) (inside : World α → List ContextRequest) : List ContextRequest :=
  match world.beginAccess thread value kind with
  | (next, .begun _) => inside next
  | _ => []

namespace Action

mutual

/-- The requests to its context that a thread makes in an action, latest first. -/
def requests (thread : ThreadId) : Action α → World α → List ContextRequest
  | .readWith value body _, world =>
    world.accessRequests thread value .read (requestsInside thread body)
  | .update value body _, world =>
    world.accessRequests thread value .write (requestsInside thread body)
  | .synchronized value _ body, world =>
    match world.enterSection thread value with
    | (next, .begun _) => requestsBody thread body next
    | _ => []
  | .attempt body, world => requestsBody thread body world
  | .withContext body, world =>
    match world.openContext thread with
    | (next, .ok ()) => requestsBody thread body next
    | (_, .error _) => []
  | .context request, _ => [request]
  | .read _, _ => []
  | .write _ _, _ => []
  | .replace _ _, _ => []
  | .raise _, _ => []
  | .query _ _, _ => []
  | .describe _ _, _ => []
  | .unclear _, _ => []

/-- The requests that are made in a body, up to the first fault. -/
def requestsBody (thread : ThreadId) : List (Action α) → World α → List ContextRequest
  | [], _ => []
  | action :: rest, world =>
    match action.run thread world with
    | (_, .error _) => requests thread action world
    | (next, .ok _) => requestsBody thread rest next ++ requests thread action world

/-- The requests that are made in the body of a closure, if it has one. -/
def requestsInside (thread : ThreadId) :
    Option (List (Action α)) → World α → List ContextRequest
  | none, _ => []
  | some body, world => requestsBody thread body world

end

end Action

namespace Step

/-- The thread that a step lets act. -/
def actor? : Step α → Option ThreadId
  | .enter thread _ => some thread
  | .leave thread => some thread
  | .act thread _ => some thread
  | _ => none

/-- The requests to its context that a thread makes in a step, latest first. -/
def requests (world : World α) : Step α → List ContextRequest
  | .act thread action =>
    if world.threads.contains thread then action.requests thread world else []
  | _ => []

end Step

/-- Whether a thread renews its snapshot of a value: it accesses the value, or enters a section on
it. -/
def Happening.renews (thread : ThreadId) (value : ValueId) : Happening → Bool
  | .accessed other target _ _ => decide (other = thread ∧ target = value)
  | .entered other target _ => decide (other = thread ∧ target = value)
  | _ => false

/-- The thread that a context says it belongs to, with its name. -/
def ThreadContext.owner (context : ThreadContext) : ThreadId × Option String :=
  (context.identity, context.name)

/-- The owner of a context that an event tells to be bound. -/
def Event.attached? : Event → Option (ThreadId × Option String)
  | .attached identity name => some (identity, name)
  | _ => none

namespace World

/-- Whose context is bound to a thread, as it says itself. -/
def owner? (world : World α) (thread : ThreadId) : Option (ThreadId × Option String) :=
  (world.thread thread).context.map ThreadContext.owner

/-- The owners of contexts that were told to be bound, latest first. -/
def attachments (world : World α) : List (ThreadId × Option String) :=
  world.journal.filterMap Event.attached?

/-- What may become of the context of a thread: it stays that of its owner, or there was none and
the thread gets its own, which is told. -/
inductive Fastens (thread : ThreadId) (world next : World α) : Prop where
  /-- The context stays that of its owner. -/
  | kept (owner : next.owner? thread = world.owner? thread)
      (attachments : next.attachments = world.attachments)
  /-- The thread gets its own context. -/
  | first (blank : world.owner? thread = none)
      (owner : next.owner? thread = some (thread, (world.thread thread).name))
      (attachments : next.attachments = (thread, (world.thread thread).name) :: world.attachments)

/-- What a thread leaves alone that makes requests to its context and of which something is told. -/
structure Confined (thread : ThreadId) (requests : List ContextRequest) (told : History)
    (world next : World α) : Prop where
  /-- Other threads are as before. -/
  others : ∀ other, other ≠ thread → next.threads.get? other = world.threads.get? other
  /-- The thread has the name it had. -/
  name : (next.thread thread).name = (world.thread thread).name
  /-- Its snapshots of values that it neither renews nor edits by hand are as before. -/
  snapshots : ∀ value, (∀ request ∈ requests, request.edits value = false) →
    (∀ happening ∈ told, happening.renews thread value = false) →
      next.snapshot? thread value = world.snapshot? thread value
  /-- It has the context of the same owner, or is given its own for the first time. -/
  fastens : (∀ request ∈ requests, request.attaches = false) → Fastens thread world next

namespace Confined

variable {world between next : World α} {thread : ThreadId}
  {requests more : List ContextRequest} {told later : History}

/-- What touches no thread and tells of no context. -/
theorem of_threads (threads : next.threads = world.threads)
    (attachments : next.attachments = world.attachments) :
    Confined thread requests told world next := by
  have same : ∀ other, next.thread other = world.thread other := fun other => by
    rw [World.thread, threads, World.thread]
  refine ⟨fun other _ => by rw [threads], by rw [same], fun value _ _ => ?_, fun _ => ?_⟩
  · exact snapshot?_congr threads thread value
  · exact .kept (by rw [owner?, same, owner?]) attachments

/-- Doing nothing is confined to any thread. -/
theorem refl (world : World α) : Confined thread requests told world world :=
  of_threads rfl rfl

/-- A thread may make more requests, and more may be told of it. -/
theorem mono (confined : Confined thread requests told world next) (fewer : requests ⊆ more)
    (less : told ⊆ later) : Confined thread more later world next where
  others := confined.others
  name := confined.name
  snapshots := fun value untouched unrenewed => confined.snapshots value
    (fun request member => untouched request (fewer member))
    (fun happening member => unrenewed happening (less member))
  fastens := fun unattached => confined.fastens fun request member =>
    unattached request (fewer member)

/-- What is confined to a thread twice is confined to it in all. -/
theorem trans (first : Confined thread requests told world between)
    (second : Confined thread requests told between next) :
    Confined thread requests told world next where
  others := fun other different =>
    (second.others other different).trans (first.others other different)
  name := second.name.trans first.name
  snapshots := fun value untouched unrenewed =>
    (second.snapshots value untouched unrenewed).trans (first.snapshots value untouched unrenewed)
  fastens := fun unattached => by
    cases first.fastens unattached with
    | kept owner attachments =>
      cases second.fastens unattached with
      | kept owner' attachments' =>
        exact .kept (owner'.trans owner) (attachments'.trans attachments)
      | first blank owner' attachments' =>
        rw [first.name] at owner' attachments'
        rw [attachments] at attachments'
        exact .first (owner.symm.trans blank) owner' attachments'
    | first blank owner attachments =>
      cases second.fastens unattached with
      | kept owner' attachments' =>
        exact .first blank (owner'.trans owner) (attachments'.trans attachments)
      | first blank' =>
        -- A thread that was given its context has one.
        rw [owner] at blank'
        cases blank'

/-- One thing after another. -/
theorem append (first : Confined thread requests told world between)
    (second : Confined thread more later between next) :
    Confined thread (more ++ requests) (later ++ told) world next :=
  (first.mono (List.subset_append_right _ _) (List.subset_append_right _ _)).trans
    (second.mono (List.subset_append_left _ _) (List.subset_append_left _ _))

end Confined

variable (world : World α) {thread : ThreadId} {requests : List ContextRequest} {told : History}

/-- An event that tells of no attached context leaves the list of those that do. -/
theorem attachments_note {event : Event} (other : event.attached? = none) :
    (world.note event).attachments = world.attachments :=
  List.filterMap_cons_none other

/-- Writing down an event that tells of no attached context is confined. -/
theorem confined_note {event : Event} (other : event.attached? = none) :
    Confined thread requests told world (world.note event) :=
  .of_threads rfl (attachments_note world other)

/-- Rewriting a value is confined. -/
theorem confined_modifyCell (value : ValueId) (change : Cell α → Cell α) :
    Confined thread requests told world (world.modifyCell value change) :=
  .of_threads rfl rfl

/-- A thread may change in anything but its name and its context. -/
theorem confined_setThread {state : ThreadState} (name : state.name = (world.thread thread).name)
    (context : state.context = (world.thread thread).context) :
    Confined thread requests told world (world.setThread thread state) where
  others := fun other different => SortedMap.get?_insert_of_ne _ _ different
  name := by
    rw [thread_setThread, if_pos rfl, name]
  snapshots := fun value _ _ => by
    rw [snapshot?, thread_setThread, if_pos rfl, context, snapshot?]
  fastens := fun _ => .kept (by rw [owner?, thread_setThread, if_pos rfl, context, owner?]) rfl

/-- A thread without a context is given its own. -/
theorem confined_ensureContext :
    Confined thread requests told world (world.ensureContext thread).1 := by
  cases bound : (world.thread thread).context with
  | some context =>
    rw [ensureContext_of_some world bound]
    exact .refl world
  | none =>
    rw [ensureContext_of_none world bound]
    have blank : world.owner? thread = none := by rw [owner?, bound]; rfl
    refine ⟨fun other different => SortedMap.get?_insert_of_ne _ _ different, ?_,
      fun value _ _ => ?_, fun _ => .first blank ?_ rfl⟩
    · rw [thread_bindContext, if_pos rfl]
      rfl
    · rw [snapshot?_bindContext, if_pos rfl, snapshot?, bound]
      rfl
    · rw [owner?, thread_bindContext, if_pos rfl]
      rfl

/-- Work on the context of a thread leaves it to its owner, and leaves what it spares. -/
theorem confined_work (change : ThreadContext → ThreadContext)
    (keeps : ∀ context, (change context).owner = context.owner)
    (spares : ∀ value, (∀ request ∈ requests, request.edits value = false) →
      (∀ happening ∈ told, happening.renews thread value = false) →
        ∀ context, (change context).snapshot? value = context.snapshot? value) :
    Confined thread requests told world
      ((world.ensureContext thread).1.bindContext thread
        (change (world.ensureContext thread).2)) := by
  refine (confined_ensureContext world).trans ⟨fun other different => ?_, ?_,
    fun value untouched unrenewed => ?_, fun _ => .kept ?_ rfl⟩
  · exact SortedMap.get?_insert_of_ne _ _ different
  · rw [thread_bindContext, if_pos rfl]
  · rw [snapshot?_bindContext, if_pos rfl, spares value untouched unrenewed,
      snapshot?_ensureContext, snapshot?_ensureContext_world]
  · rw [owner?, thread_bindContext, if_pos rfl, owner?, thread_ensureContext, if_pos rfl]
    exact congrArg some (keeps _)

/-- Work on the context of a thread is confined if it keeps the owner of the context, and the
snapshots that nothing edits or renews. -/
theorem confined_withContext {work : ThreadContext → ThreadContext × β}
    (keeps : ∀ context, (work context).1.owner = context.owner)
    (spares : ∀ value, (∀ request ∈ requests, request.edits value = false) →
      (∀ happening ∈ told, happening.renews thread value = false) →
        ∀ context, (work context).1.snapshot? value = context.snapshot? value) :
    Confined thread requests told world (world.withContext thread work).1 := by
  cases busy : (world.thread thread).contextInUse with
  | true =>
    rw [withContext_of_inUse world thread work busy]
    exact .refl world
  | false =>
    rw [withContext_eq world thread work busy]
    exact confined_work world (fun context => (work context).1) keeps spares

/-- Beginning to work on the own context is confined. -/
theorem confined_openContext :
    Confined thread requests told world (world.openContext thread).1 := by
  unfold openContext
  split
  · exact .refl world
  · exact (confined_ensureContext world).trans (confined_setThread _ rfl rfl)

/-- Ending the work on the own context is confined. -/
theorem confined_closeContext :
    Confined thread requests told world (world.closeContext thread) :=
  confined_setThread world rfl rfl

/-- Leaving a section is confined. -/
theorem confined_leaveSection (value : ValueId) :
    Confined thread requests told world (world.leaveSection value) :=
  (confined_note world rfl).trans (confined_modifyCell _ value _)

/-- Flagging an access is no matter of contexts. -/
theorem confined_flag (cell : Cell α) (sighting : Sighting) :
    Confined thread requests told world (world.flag cell sighting) := by
  have reported (world : World α) (sink : Option DetectorId) :
      Confined thread requests told world (world.report sink sighting) := by
    unfold report
    split
    · exact .refl world
    · split
      · exact .refl world
      · split
        · exact .of_threads rfl rfl
        · exact .of_threads rfl (attachments_note _ rfl)
  have joined : Confined thread requests told world (world.joinRace cell sighting) :=
    .of_threads rfl (attachments_note _ rfl)
  exact joined.trans (reported _ _)

/-- An access renews the snapshot of its value. -/
theorem confined_tallyAccess (value : ValueId) (cell : Cell α) (kind : AccessKind)
    (renews : ∃ happening ∈ told, happening.renews thread value = true) :
    Confined thread requests told world (world.tallyAccess value cell ⟨thread, kind⟩) := by
  have counted : Confined thread requests told world
      (world.countAccess value cell ⟨thread, kind⟩) :=
    .of_threads rfl (attachments_note _ rfl)
  refine counted.trans (confined_work _ (fun context =>
    context.record value ⟨thread, kind⟩ (cell.clock.next ⟨thread, kind⟩)) (fun _ => rfl)
      fun other _ unrenewed context => ?_)
  rw [ThreadContext.snapshot?_record, if_neg]
  rintro rfl
  obtain ⟨happening, member, renewed⟩ := renews
  rw [unrenewed happening member] at renewed
  cases renewed

/-- A section entry renews the snapshot of its value. -/
theorem confined_adoptClock (value : ValueId) (clock : ClockTable)
    (renews : ∃ happening ∈ told, happening.renews thread value = true) :
    Confined thread requests told world (world.adoptClock thread value clock) := by
  refine confined_work _ (fun context => context.replace value clock) (fun _ => rfl)
    fun other _ unrenewed context => ?_
  rw [ThreadContext.snapshot?_replace, if_neg]
  rintro rfl
  obtain ⟨happening, member, renewed⟩ := renews
  rw [unrenewed happening member] at renewed
  cases renewed

variable {world}

/-- Asking for an access is confined to the thread that asks, with the accesses that it tells of. -/
theorem AsksAccess.confined {next : World α} {value : ValueId} {kind : AccessKind}
    {attempt : Attempt (Option Sighting)}
    (asked : world.AsksAccess thread value kind next attempt) :
    Confined thread requests (world.accessHappenings thread value kind attempt) world next := by
  have renews (cell : Cell α) (found : world.cells.get? value = some cell)
      (on : cell.detecting = true) (sighting : Option Sighting) :
      ∃ happening ∈ world.accessHappenings thread value kind (.begun sighting),
        happening.renews thread value = true := by
    have watched : world.watches value = true := by rw [watches, found]; exact on
    refine ⟨.accessed thread value kind sighting, ?_, by simp [Happening.renews]⟩
    rw [accessHappenings, if_pos watched]
    exact List.mem_singleton_self _
  cases asked with
  | reentered cell lock found taken borrowed => exact confined_note world rfl
  | stalled cell lock found taken free on busy => exact .of_threads rfl (attachments_note _ rfl)
  | unwatched cell lock found taken free off => exact confined_modifyCell world value _
  | clean cell lock found taken free on idle nothing =>
    have tallied : Confined thread requests
        (world.accessHappenings thread value kind (.begun none)) world _ :=
      confined_tallyAccess world value cell kind (renews cell found on none)
    exact tallied.trans (confined_modifyCell _ value _)
  | flagged cell lock found taken free on idle something =>
    have tallied : Confined thread requests (world.accessHappenings thread value kind
        (.begun (some (world.sightingOf value cell ⟨thread, kind⟩)))) world _ :=
      confined_tallyAccess world value cell kind (renews cell found on _)
    exact (tallied.trans (confined_flag _ _ _)).trans (confined_modifyCell _ value _)

/-- Asking for a section is confined to the thread that asks, with the entry that it tells of. -/
theorem AsksSection.confined {next : World α} {value : ValueId} {attempt : Attempt Nat}
    (asked : world.AsksSection thread value next attempt) :
    Confined thread requests
      (match attempt with
        | .begun _ => [.entered thread value (world.clockOf value)]
        | _ => []) world next := by
  cases asked with
  | reentered cell lock found taken borrowed => exact .refl world
  | stalled cell lock found taken free busy => exact confined_note world rfl
  | entered cell lock found taken free idle =>
    refine ((confined_note world rfl).trans (confined_adoptClock _ value cell.clock ?_)).trans
      (confined_modifyCell _ value _)
    exact ⟨_, List.mem_singleton_self _, by simp [Happening.renews]⟩

end World

open World

section Bodies

variable {world : World α} {thread : ThreadId} {value : ValueId}

/-- An access with everything that its closure does. -/
theorem confined_access (kind : AccessKind)
    {body : World α → World α × Option (List (Answer α)) × Option Fault}
    {requests : World α → List ContextRequest} {told : World α → History}
    {work : α → α × Except String (Result α)}
    (inside : ∀ world : World α, Confined thread (requests world) (told world) world
      (body world).1) :
    Confined thread (world.accessRequests thread value kind requests)
      (world.accessTells thread value kind told) world
      (world.access thread value kind body work).1 := by
  unfold World.access World.accessRequests World.accessTells
  cases asked : world.beginAccess thread value kind with
  | mk begun attempt =>
    cases attempt with
    | noValue =>
      rw [show begun = world from eq_of_beginAccess asked (.inl rfl)]
      exact .refl world
    | blocked =>
      rw [show begun = world from eq_of_beginAccess asked (.inr rfl)]
      exact .refl world
    | faulted fault => exact (asksAccess_of_beginAccess asked nofun nofun).confined
    | begun sighting =>
      have begins : Confined thread [] _ world begun :=
        (asksAccess_of_beginAccess asked nofun nofun).confined
      have within := begins.append (inside begun)
      rw [List.append_nil] at within
      dsimp only
      cases done : body begun with
      | mk after outcome =>
        rw [done] at within
        obtain ⟨answers, fault⟩ := outcome
        cases fault with
        | some fault => exact within.trans (confined_modifyCell _ value _)
        | none =>
          dsimp only
          cases left : after.cells.get? value with
          | none => exact within
          | some cell =>
            have ended := within.trans (confined_modifyCell after value fun cell' =>
              { cell'.unlock with payload := (work cell.payload).1, borrowed := false })
            dsimp only
            cases (work cell.payload).2 with
            | error text => exact ended
            | ok result => exact ended

/-- An access whose closure does nothing but look at the content or change it. -/
theorem confined_plainAccess (kind : AccessKind) {work : α → α × Except String (Result α)} :
    Confined thread [] (world.accessTells thread value kind fun _ => []) world
      (world.access thread value kind Action.noBody work).1 := by
  have confined : Confined thread (world.accessRequests thread value kind fun _ => [])
      (world.accessTells thread value kind fun _ => []) world
      (world.access thread value kind Action.noBody work).1 :=
    confined_access kind fun world => .refl world
  refine confined.mono (fun request member => ?_) (List.Subset.refl _)
  unfold accessRequests at member
  split at member
  · exact member
  · exact member

/-- A section with everything that its block does. -/
theorem confined_section (world : World α) (value : ValueId) {body : World α → World α × β}
    {requests : World α → List ContextRequest} {told : World α → History}
    (inside : ∀ world : World α, Confined thread (requests world) (told world) world
      (body world).1) :
    Confined thread
      (match world.enterSection thread value with
        | (next, .begun _) => requests next
        | _ => [])
      (world.sectionTells thread value told) world
      (match world.enterSection thread value with
        | (next, .begun _) => (body next).1.leaveSection value
        | (next, _) => next) := by
  unfold World.sectionTells
  cases asked : world.enterSection thread value with
  | mk begun attempt =>
    cases attempt with
    | noValue =>
      rw [show begun = world from eq_of_enterSection asked (.inl rfl)]
      exact .refl world
    | blocked =>
      rw [show begun = world from eq_of_enterSection asked (.inr rfl)]
      exact .refl world
    | faulted fault => exact (asksSection_of_enterSection asked nofun nofun).confined
    | begun entries =>
      have begins : Confined thread [] _ world begun :=
        (asksSection_of_enterSection asked nofun nofun).confined
      have within := begins.append (inside begun)
      rw [List.append_nil] at within
      exact within.trans (confined_leaveSection _ value)

/-- A question to a value leaves at most a note that the value was used by its own closure. -/
theorem eq_or_note_of_answerQuery (world : World α) (thread : ThreadId) (value : ValueId)
    (query : Query) :
    (world.answerQuery thread value query).1 = world ∨
      (world.answerQuery thread value query).1 = world.note (.reentered value) := by
  have looked (look : Cell α → Answer α) {next : World α} {attempt : Attempt (Answer α)}
      (asked : world.inspect thread value look = (next, attempt)) :
      next = world ∨ next = world.note (.reentered value) := by
    unfold inspect at asked
    split at asked
    · exact .inl (Prod.mk.inj asked).1.symm
    · split at asked
      · exact .inl (Prod.mk.inj asked).1.symm
      · split at asked
        · exact .inr (Prod.mk.inj asked).1.symm
        · exact .inl (Prod.mk.inj asked).1.symm
  cases query with
  | isRacing other =>
    unfold answerQuery
    dsimp only
    split
    · exact .inl rfl
    · split
      · exact .inl rfl
      · split
        · exact .inl rfl
        · split
          · exact looked _ ‹_›
          · exact looked _ ‹_›
  | _ =>
    unfold answerQuery
    dsimp only
    split
    · exact looked _ ‹_›
    · exact looked _ ‹_›

/-- Asking a question about a value is confined. -/
theorem confined_answerQuery (query : Query) {requests : List ContextRequest} {told : History} :
    Confined thread requests told world (world.answerQuery thread value query).1 := by
  obtain same | noted := eq_or_note_of_answerQuery world thread value query
  · rw [same]
    exact .refl world
  · rw [noted]
    exact confined_note world rfl

/-- A request to a context edits the snapshot that it names, and one to attach another context may
do anything to the thread's own. -/
theorem confined_answerContext (request : ContextRequest) {told : History} :
    Confined thread [request] told world (world.answerContext thread request).1 := by
  unfold answerContext
  split
  · exact .refl world
  · cases request with
    | key kind => exact .refl world
    | summary => exact confined_withContext world (fun _ => rfl) fun _ _ _ _ => rfl
    | snapshot value => exact confined_withContext world (fun _ => rfl) fun _ _ _ _ => rfl
    | snapshotOf value =>
      unfold answerRequest
      dsimp only
      split
      · exact .refl world
      · exact .refl world
    | record value key counter =>
      refine confined_withContext world (fun _ => rfl) fun other untouched _ context => ?_
      have different := untouched _ (List.mem_singleton_self _)
      rw [ThreadContext.snapshot?_record, if_neg (Ne.symm (of_decide_eq_false different))]
    | replace value entries =>
      refine confined_withContext world (fun _ => rfl) fun other untouched _ context => ?_
      have different := untouched _ (List.mem_singleton_self _)
      rw [ThreadContext.snapshot?_replace, if_neg (Ne.symm (of_decide_eq_false different))]
    | forget value =>
      refine confined_withContext world (fun _ => rfl) fun other untouched _ context => ?_
      have different := untouched _ (List.mem_singleton_self _)
      rw [ThreadContext.snapshot?_forget, if_neg (Ne.symm (of_decide_eq_false different))]
    | attach origin =>
      have noted (context : ThreadContext) :
          Confined thread [.attach origin] told world (world.noteAttached context) := by
        refine ⟨fun _ _ => rfl, rfl, fun _ _ _ => rfl, fun unattached => ?_⟩
        cases unattached _ (List.mem_singleton_self _)
      have bound (world : World α) (context : ThreadContext) :
          Confined thread [.attach origin] told world (world.bindContext thread context) := by
        refine ⟨fun other different => SortedMap.get?_insert_of_ne _ _ different, ?_,
          fun value untouched => ?_, fun unattached => ?_⟩
        · rw [thread_bindContext, if_pos rfl]
        · cases untouched _ (List.mem_singleton_self _)
        · cases unattached _ (List.mem_singleton_self _)
      unfold answerRequest
      dsimp only
      split
      · exact noted _
      · exact (noted _).trans (bound _ _)

mutual

/-- An action of a thread leaves alone what is not its own, with everything inside of it and however
it ends. -/
theorem confined_run (thread : ThreadId) (action : Action α) (world : World α) :
    Confined thread (action.requests thread world) (action.tells thread world) world
      (action.run thread world).1 := by
  cases action with
  | read value =>
    unfold Action.run Action.tells Action.requests
    exact confined_plainAccess .read
  | readWith value body measure =>
    unfold Action.run Action.tells Action.requests
    exact confined_access .read fun world => confined_runInside thread body world
  | write value payload =>
    unfold Action.run Action.tells Action.requests
    exact confined_plainAccess .write
  | replace value payload =>
    unfold Action.run Action.tells Action.requests
    exact confined_plainAccess .write
  | update value body change =>
    unfold Action.run Action.tells Action.requests
    exact confined_access .write fun world => confined_runInside thread body world
  | synchronized value route body =>
    have confined := confined_section world value fun world =>
      confined_runBody thread body world
    unfold Action.run Action.tells Action.requests
    cases asked : world.enterSection thread value with
    | mk begun attempt =>
      rw [asked] at confined
      cases attempt with
      | begun entries =>
        dsimp only at confined ⊢
        cases done : Action.runBody thread body begun with
        | mk later outcome =>
          rw [done] at confined
          obtain ⟨answers, fault⟩ := outcome
          cases fault with
          | none => exact confined
          | some fault => exact confined
      | _ => exact confined
  | attempt body => exact confined_runBody thread body world
  | raise text => exact .refl world
  | query value question => exact confined_answerQuery question
  | describe value spread =>
    unfold Action.run
    split
    · exact .refl world
    · exact .refl world
  | context request => exact confined_answerContext request
  | withContext body =>
    unfold Action.run Action.tells Action.requests
    cases idle : (world.thread thread).contextInUse with
    | true =>
      rw [openContext_of_inUse world idle]
      exact .refl world
    | false =>
      rw [openContext_of_idle world idle]
      dsimp only
      have confined := (confined_openContext world).trans
        (confined_runBody thread body (world.openContext thread).1)
      cases done : Action.runBody thread body (world.openContext thread).1 with
      | mk later outcome =>
        rw [done] at confined
        obtain ⟨answers, fault⟩ := outcome
        cases fault with
        | none => exact confined.trans (confined_closeContext later)
        | some fault => exact confined.trans (confined_closeContext later)
  | unclear fragment => exact .refl world

/-- The same of a body, whether it runs to its end or is cut short. -/
theorem confined_runBody (thread : ThreadId) (body : List (Action α)) (world : World α) :
    Confined thread (Action.requestsBody thread body world) (Action.tellsBody thread body world)
      world (Action.runBody thread body world).1 := by
  cases body with
  | nil => exact .refl world
  | cons action rest =>
    have first := confined_run thread action world
    unfold Action.runBody Action.tellsBody Action.requestsBody
    cases done : action.run thread world with
    | mk between outcome =>
      rw [done] at first
      cases outcome with
      | error fault => exact first
      | ok answer => exact first.append (confined_runBody thread rest between)

/-- What a closure does inside of an access is confined, with the requests that it makes and the
happenings that it tells of. -/
theorem confined_runInside (thread : ThreadId) (body : Option (List (Action α)))
    (world : World α) :
    Confined thread (Action.requestsInside thread body world)
      (Action.tellsInside thread body world) world (Action.runInside thread body world).1 := by
  cases body with
  | none => exact .refl world
  | some body => exact confined_runBody thread body world

end

end Bodies

section Steps

variable {world : World α} {thread : ThreadId}

/-- Entering a section by a step is confined, with the entry that it tells of. -/
theorem confined_enter (value : ValueId) :
    Confined thread [] (world.sectionTells thread value fun _ => []) world
      (world.enter thread value).1 := by
  unfold World.enter World.sectionTells
  cases asked : world.enterSection thread value with
  | mk begun attempt =>
    cases attempt with
    | noValue =>
      rw [show begun = world from eq_of_enterSection asked (.inl rfl)]
      exact .refl world
    | blocked =>
      rw [show begun = world from eq_of_enterSection asked (.inr rfl)]
      exact .refl world
    | faulted fault => exact (asksSection_of_enterSection asked nofun nofun).confined
    | begun entries =>
      have begins : Confined thread [] _ world begun :=
        (asksSection_of_enterSection asked nofun nofun).confined
      exact begins.trans (confined_setThread _ rfl rfl)

/-- Leaving a section by a step is confined. -/
theorem confined_leave {requests : List ContextRequest} {told : History} :
    Confined thread requests told world (world.leave thread).1 := by
  unfold World.leave
  dsimp only
  split
  · exact .refl world
  · rename_i outer _
    have dropped : Confined thread requests told world
        (world.setThread thread { world.thread thread with sections := outer }) :=
      confined_setThread world rfl rfl
    exact dropped.trans (confined_leaveSection _ _)

/-- A step in which a thread acts leaves alone what is not its own. -/
theorem confined_of_step (world : World α) (step : Step α) (acts : step.actor? = some thread) :
    Confined thread (step.requests world) (step.tells world) world (world.step step).1 := by
  cases step with
  | enter actor value =>
    cases acts
    unfold World.step Step.tells World.ifRunning
    dsimp only
    split
    · exact confined_enter value
    · exact .refl world
  | leave actor =>
    cases acts
    unfold World.step World.ifRunning
    dsimp only
    split
    · exact confined_leave
    · exact .refl world
  | act actor action =>
    cases acts
    unfold World.step Step.tells Step.requests World.ifRunning
    dsimp only
    split
    · have confined := confined_run thread action world
      unfold World.act
      split
      · rename_i same
        rw [same] at confined
        exact confined
      · rename_i same
        rw [same] at confined
        exact confined
    · exact .refl world
  | _ => cases acts

end Steps

end RaceSentry
