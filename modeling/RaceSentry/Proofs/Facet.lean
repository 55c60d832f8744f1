import RaceSentry.Proofs.Shift

/-!
# What a value depends on

Of all that threads, contexts and detectors are and hold, little bears on any one value: whether
threads run and work on their contexts, what they have seen of this value, how often they have a
section open on it, and its own account in every ledger. A facet gathers this together with the
value. What is done to another value does not touch it.
Main statements: `facet_of_asksAccess` and `facet_of_asksSection`, with one lemma for each stage.
-/

namespace RaceSentry

open World

variable {α : Type}

/-- What a thread is to a value: its name, whether it works on a context and has one, and how often
it has a section open on the value that outlasts its moves. -/
def ThreadState.facet (value : ValueId) (state : ThreadState) :
    Option String × Option Bool × Nat :=
  (state.name, if state.contextInUse then some state.context.isSome else none,
    state.sections.count value)

/-- What a detector is to a value: its configuration, whether it is in use, and its account of the
value. -/
def Detector.facet (value : ValueId) (detector : Detector) :
    DetectorConfig × Bool × Option LedgerEntry :=
  (detector.config, detector.inUse, SortedMap.get? detector.ledger value)

/-- All that bears on one value. -/
@[ext]
structure Facet (α : Type) where
  /-- The number of threads ever started. -/
  started : Nat
  /-- Whether the value was ever made. -/
  made : Bool
  /-- What every running thread is to the value. -/
  threads : ThreadId → Option (Option String × Option Bool × Nat)
  /-- What each thread has seen of the value, if it holds a snapshot. -/
  seen : ThreadId → Option ClockTable
  /-- The value, if it exists. -/
  cell : Option (Cell α)
  /-- What every detector is to the value. -/
  detectors : DetectorId → Option (DetectorConfig × Bool × Option LedgerEntry)
  /-- The number of detectors ever made. -/
  equipped : Nat

/-- All that bears on a value. -/
def World.facet (world : World α) (value : ValueId) : Facet α where
  started := world.started
  made := decide (value.index < world.made)
  threads := fun thread => (world.threads.get? thread).map (ThreadState.facet value)
  seen := fun thread => world.snapshot? thread value
  cell := world.cells.get? value
  detectors := fun id => (world.detectors.get? id).map (Detector.facet value)
  equipped := world.detectors.size

namespace Facet

variable (facet : Facet α)

/-- A thread sees another table, or none. -/
def see (thread : ThreadId) (table : Option ClockTable) : Facet α :=
  { facet with seen := fun other => if other = thread then table else facet.seen other }

/-- The value becomes another one. -/
def put (cell : Option (Cell α)) : Facet α := { facet with cell := cell }

/-- A thread is something else to the value. -/
def bear (thread : ThreadId) (bearing : Option (Option String × Option Bool × Nat)) : Facet α :=
  { facet with
    threads := fun other => if other = thread then bearing else facet.threads other }

/-- The ledger counts a flagged access. -/
def tally (sink : Option DetectorId) (label : Option String) : Facet α :=
  { facet with
    detectors := fun id =>
      if sink = some id then
        (facet.detectors id).map fun detector =>
          (detector.1, detector.2.1, some (.counted label detector.2.2))
      else facet.detectors id }

/-- A thread that sees what it saw before leaves the facet alone. -/
theorem see_self {thread : ThreadId} {table : Option ClockTable}
    (same : facet.seen thread = table) : facet.see thread table = facet := by
  refine Facet.ext rfl rfl rfl (funext fun other => ?_) rfl rfl rfl
  by_cases here : other = thread
  · exact (if_pos here).trans (by rw [here, same])
  · exact if_neg here

/-- A value that is put in place of itself leaves the facet alone. -/
theorem put_self {cell : Option (Cell α)} (same : facet.cell = cell) :
    facet.put cell = facet := by
  rw [put, ← same]

/-- A thread that is to the value what it was before leaves the facet alone. -/
theorem bear_self {thread : ThreadId} {bearing : Option (Option String × Option Bool × Nat)}
    (same : facet.threads thread = bearing) : facet.bear thread bearing = facet := by
  refine Facet.ext rfl rfl (funext fun other => ?_) rfl rfl rfl rfl
  by_cases here : other = thread
  · exact (if_pos here).trans (by rw [here, same])
  · exact if_neg here

/-- Where there is no detector nothing is counted. -/
theorem tally_of_absent {sink : Option DetectorId} (label : Option String)
    (absent : ∀ id, sink = some id → facet.detectors id = none) :
    facet.tally sink label = facet := by
  refine Facet.ext rfl rfl rfl rfl rfl (funext fun id => ?_) rfl
  rw [tally]
  dsimp only
  split
  · rename_i here
    rw [absent id here]
    rfl
  · rfl

end Facet

namespace World

variable (world : World α)

/-- An event in the journal does not bear on any value. -/
theorem facet_note (event : Event) (value : ValueId) :
    (world.note event).facet value = world.facet value := rfl

/-- A value that is replaced bears on itself alone. -/
theorem facet_setCell (value other : ValueId) (cell : Cell α) :
    (world.setCell value cell).facet other =
      if other = value then (world.facet other).put (some cell) else world.facet other := by
  split
  · rename_i here
    refine Facet.ext rfl rfl rfl rfl ?_ rfl rfl
    exact (SortedMap.get?_insert _ _ _ _).trans (if_pos here)
  · rename_i different
    refine Facet.ext rfl rfl rfl rfl ?_ rfl rfl
    exact (SortedMap.get?_insert _ _ _ _).trans (if_neg different)

/-- A change of a value bears on that value alone. -/
theorem facet_modifyCell (value other : ValueId) (change : Cell α → Cell α) :
    (world.modifyCell value change).facet other =
      if other = value then (world.facet other).put ((world.facet other).cell.map change)
      else world.facet other := by
  split
  · rename_i here
    refine Facet.ext rfl rfl rfl rfl ?_ rfl rfl
    exact (SortedMap.get?_modify _ _ _ _).trans ((if_pos here).trans (by rw [← here]; rfl))
  · rename_i different
    refine Facet.ext rfl rfl rfl rfl ?_ rfl rfl
    exact (SortedMap.get?_modify _ _ _ _).trans (if_neg different)

/-- A section that is left bears on its own value alone. -/
theorem facet_leaveSection (value other : ValueId) :
    (world.leaveSection value).facet other =
      if other = value then (world.facet other).put ((world.facet other).cell.map Cell.unlock)
      else world.facet other :=
  facet_modifyCell (world.note (.leaving value)) value other Cell.unlock

/-- A closure that ends bears on its own value alone. -/
theorem facet_endAccess (value other : ValueId) (change : α → α) :
    (world.endAccess value change).facet other =
      if other = value then
        (world.facet other).put ((world.facet other).cell.map fun cell =>
          { cell.unlock with payload := change cell.payload, borrowed := false })
      else world.facet other :=
  facet_modifyCell world value other _

/-- What becomes of a thread is all that changes. -/
theorem facet_setThread (thread : ThreadId) (state : ThreadState) (value : ValueId) :
    (world.setThread thread state).facet value =
      ((world.facet value).bear thread (some (state.facet value))).see thread
        (state.context.bind fun context => context.snapshot? value) := by
  refine Facet.ext rfl rfl (funext fun other => ?_) (funext fun other => ?_) rfl rfl rfl
  · change (SortedMap.get? (world.threads.insert thread state) other).map _ = _
    rw [SortedMap.get?_insert, apply_ite (Option.map (ThreadState.facet value))]
    rfl
  · change (((world.setThread thread state).thread other).context.bind _) = _
    rw [thread_setThread, apply_ite ThreadState.context, Facet.see]
    dsimp only
    split
    · rfl
    · rfl

/-- A thread that keeps its context sees what it saw. -/
theorem facet_setThread_of_context {thread : ThreadId} {state : ThreadState}
    (same : state.context = (world.thread thread).context) (value : ValueId) :
    (world.setThread thread state).facet value =
      (world.facet value).bear thread (some (state.facet value)) := by
  rw [facet_setThread, same]
  exact Facet.see_self _ rfl

section Contexts

variable {thread : ThreadId} (runs : world.threads.contains thread = true)

include runs

/-- A running thread is what its state says. -/
theorem threads_facet (value : ValueId) :
    (world.facet value).threads thread = some ((world.thread thread).facet value) := by
  obtain ⟨state, found⟩ := (SortedMap.contains_iff _ _).1 runs
  change (world.threads.get? thread).map _ = _
  rw [World.thread, found]
  rfl

/-- Sections on other values bear on no value. -/
theorem facet_setSections {sections : List ValueId} {value : ValueId}
    (same : sections.count value = (world.thread thread).sections.count value) :
    (world.setThread thread { world.thread thread with sections := sections }).facet value =
      world.facet value := by
  have kept : ({ world.thread thread with sections := sections } : ThreadState).context =
      (world.thread thread).context := rfl
  rw [facet_setThread_of_context world kept]
  refine Facet.bear_self _ ((threads_facet world runs value).trans ?_)
  rw [ThreadState.facet, ThreadState.facet, same]

/-- A context is bound to a thread that has one or works on none. -/
theorem facet_bindContext
    (calm : (world.thread thread).contextInUse = true →
      (world.thread thread).context.isSome = true)
    (context : ThreadContext) (value : ValueId) :
    (world.bindContext thread context).facet value =
      (world.facet value).see thread (context.snapshot? value) := by
  have same : ({ world.thread thread with context := some context } : ThreadState).facet value =
      (world.thread thread).facet value := by
    refine congrArg (Prod.mk _) (congrArg (Prod.mk · _) ?_)
    cases busy : (world.thread thread).contextInUse with
    | false => rfl
    | true => simp only [if_true, calm busy, Option.isSome_some]
  rw [bindContext, facet_setThread, same, ← threads_facet world runs, Facet.bear_self _ rfl]
  rfl

/-- A context that is made has seen nothing. -/
theorem facet_ensureContext (idle : (world.thread thread).contextInUse = false)
    (value : ValueId) : (world.ensureContext thread).1.facet value = world.facet value := by
  cases bound : (world.thread thread).context with
  | some context => rw [ensureContext_of_some world bound]
  | none =>
    rw [ensureContext_of_none world bound]
    have seen := facet_bindContext
      (world.noteAttached (.new thread (world.thread thread).name)) runs
      (fun busy => absurd (idle.symm.trans busy) Bool.false_ne_true)
      (.new thread (world.thread thread).name) value
    refine seen.trans (Facet.see_self _ ?_)
    change ((world.thread thread).context.bind _) = _
    rw [bound]
    rfl

/-- Editing the context of a thread that works on none. -/
theorem facet_editContext (idle : (world.thread thread).contextInUse = false)
    (change : ThreadContext → ThreadContext) (value : ValueId) :
    ((world.ensureContext thread).1.bindContext thread
      (change (world.ensureContext thread).2)).facet value =
      (world.facet value).see thread ((change (world.ensureContext thread).2).snapshot? value) := by
  have state := thread_ensureContext world thread thread
  rw [if_pos rfl] at state
  have running : (world.ensureContext thread).1.threads.contains thread = true :=
    ((parallel_ensureContext world runs).running thread).symm.trans runs
  rw [facet_bindContext _ running (by rw [state]; exact fun _ => rfl),
    facet_ensureContext world runs idle]

end Contexts

/-- Copying a counter bears on its own value only. -/
theorem facet_copyCounter {key : AccessKey} (runs : world.threads.contains key.thread = true)
    (idle : (world.thread key.thread).contextInUse = false) (value : ValueId) (counter : Nat)
    (other : ValueId) :
    (world.copyCounter value key counter).facet other =
      if other = value then
        (world.facet other).see key.thread
          (some ((((world.facet other).seen key.thread).getD ∅).insert key counter))
      else world.facet other := by
  have edited := facet_editContext world runs idle
    (fun context => context.record value key counter) other
  rw [ThreadContext.snapshot?_record, snapshot?_ensureContext, snapshot?_ensureContext] at edited
  refine edited.trans ?_
  split
  · rename_i here
    rw [here]
    rfl
  · exact Facet.see_self _ rfl

/-- Adopting a clock table bears on its own value only. -/
theorem facet_adoptClock {thread : ThreadId} (runs : world.threads.contains thread = true)
    (idle : (world.thread thread).contextInUse = false) (value : ValueId) (clock : ClockTable)
    (other : ValueId) :
    (world.adoptClock thread value clock).facet other =
      if other = value then (world.facet other).see thread (some clock)
      else world.facet other := by
  have edited := facet_editContext world runs idle
    (fun context => context.replace value clock) other
  rw [ThreadContext.snapshot?_replace, snapshot?_ensureContext] at edited
  refine edited.trans ?_
  split
  · rfl
  · exact Facet.see_self _ rfl

/-- A counted access bears on its own value alone. -/
theorem facet_countAccess (value : ValueId) (cell : Cell α) (key : AccessKey) (other : ValueId) :
    (world.countAccess value cell key).facet other =
      if other = value then (world.facet other).put (some (cell.count key))
      else world.facet other :=
  facet_setCell world value other (cell.count key)

/-- Counting an access in both tables bears on its own value only. -/
theorem facet_tallyAccess {key : AccessKey} (runs : world.threads.contains key.thread = true)
    (idle : (world.thread key.thread).contextInUse = false) (value : ValueId) (cell : Cell α)
    (other : ValueId) :
    (world.tallyAccess value cell key).facet other =
      if other = value then
        ((world.facet other).put (some (cell.count key))).see key.thread
          (some ((((world.facet other).seen key.thread).getD ∅).insert key (cell.clock.next key)))
      else world.facet other := by
  rw [tallyAccess, facet_copyCounter (world.countAccess value cell key) runs idle,
    facet_countAccess]
  split
  · rfl
  · rfl

/-- Rewriting a detector is all that changes. -/
theorem facet_setDetector_of_get? {id : DetectorId} {detector : Detector}
    (found : world.detectors.get? id = some detector) (changed : Detector) (value : ValueId) :
    (world.setDetector id changed).facet value =
      { world.facet value with
        detectors := fun other =>
          if other = id then some (changed.facet value)
          else (world.facet value).detectors other } := by
  refine Facet.ext rfl rfl rfl rfl rfl (funext fun other => ?_) ?_
  · change (SortedMap.get? (world.detectors.insert id changed) other).map _ = _
    rw [SortedMap.get?_insert, apply_ite (Option.map (Detector.facet value))]
    rfl
  · change (world.detectors.insert id changed).size = _
    rw [SortedMap.size_insert, if_pos ((SortedMap.contains_iff _ _).2 ⟨detector, found⟩)]
    rfl

/-- What a detector is to a value is all of it that matters. -/
theorem facet_setDetector {id : DetectorId} {detector changed : Detector}
    (found : world.detectors.get? id = some detector) {value : ValueId}
    (same : changed.facet value = detector.facet value) :
    (world.setDetector id changed).facet value = world.facet value := by
  rw [facet_setDetector_of_get? world found, same]
  refine Facet.ext rfl rfl rfl rfl rfl (funext fun other => ?_) rfl
  by_cases here : other = id
  · refine (if_pos here).trans ?_
    change _ = (world.detectors.get? other).map _
    rw [here, found]
    rfl
  · exact if_neg here

/-- A detector that counts a flagged access changes its account of one value. -/
theorem facet_tallyRace (sink : Option DetectorId) (sighting : Sighting) (value : ValueId) :
    (world.tallyRace sink sighting).facet value =
      if value = sighting.value then (world.facet value).tally sink sighting.label
      else world.facet value := by
  cases sink with
  | none =>
    rw [Facet.tally_of_absent _ _ (by rintro _ ⟨⟩), ite_self]
    rfl
  | some id =>
    cases found : world.detectors.get? id with
    | none =>
      have absent : ∀ other, some id = some other → (world.facet value).detectors other = none := by
        intro other same
        rw [← Option.some.inj same]
        exact Option.map_eq_none_iff.2 found
      rw [Facet.tally_of_absent _ _ absent, ite_self]
      simp only [tallyRace, found]
    | some detector =>
      have account := Ledger.get?_count detector.ledger sighting.value value sighting.label
      simp only [tallyRace, found]
      split
      · rename_i here
        rw [if_pos here] at account
        rw [facet_setDetector_of_get? world found]
        refine Facet.ext rfl rfl rfl rfl rfl (funext fun other => ?_) rfl
        by_cases same : other = id
        · refine (if_pos same).trans (Eq.symm ((if_pos (congrArg some same.symm)).trans ?_))
          change Option.map _ ((world.detectors.get? other).map _) = _
          rw [same, found, Detector.facet, Detector.tally, account, ← here]
          rfl
        · exact (if_neg same).trans (if_neg fun equal => same (Option.some.inj equal).symm).symm
      · rename_i different
        rw [if_neg different] at account
        exact facet_setDetector world found
          (congrArg (Prod.mk _) (congrArg (Prod.mk _) account))

/-- A report in the channel of a detector does not bear on any value. -/
theorem facet_deliver (detector : Detector) (sighting : Sighting) (value : ValueId) :
    (detector.deliver sighting).1.facet value = detector.facet value := by
  unfold Detector.deliver
  split
  · rfl
  · split
    · rfl
    · rfl

/-- The channel of a detector bears on no value. -/
theorem facet_sendReport (sink : Option DetectorId) (sighting : Sighting) (value : ValueId) :
    (world.sendReport sink sighting).facet value = world.facet value := by
  unfold sendReport
  split
  · rfl
  · split
    · rfl
    · rename_i detector found
      have same := facet_deliver detector sighting value
      split
      · rename_i sent
        rw [sent] at same
        exact facet_setDetector world found same
      · rename_i sent
        rw [sent] at same
        exact facet_setDetector world found same

/-- Flagging an access bears on its own value only. -/
theorem facet_flag (cell : Cell α) (sighting : Sighting) (value : ValueId) :
    (world.flag cell sighting).facet value =
      if value = sighting.value then
        ((world.facet value).put (some (cell.flag sighting.key.thread))).tally cell.sink
          sighting.label
      else world.facet value := by
  rw [flag_eq, facet_sendReport, facet_tallyRace, joinRace, facet_note, facet_setCell]
  split
  · rfl
  · rfl

section Aside

variable {world next : World α} {thread : ThreadId} {value other : ValueId}
  (runs : world.threads.contains thread = true) (different : other ≠ value)

include runs different

/-- An access bears on its own value only. -/
theorem facet_of_asksAccess {kind : AccessKind} {attempt : Attempt (Option Sighting)}
    (asked : world.AsksAccess thread value kind next attempt) :
    next.facet other = world.facet other := by
  cases asked with
  | reentered cell lock found taken borrowed => rfl
  | stalled cell lock found taken free on busy => rw [facet_countAccess, if_neg different]
  | unwatched cell lock found taken free off => rw [facet_modifyCell, if_neg different]
  | clean cell lock found taken free on idle nothing =>
    rw [facet_modifyCell, if_neg different, facet_tallyAccess world runs idle, if_neg different]
  | flagged cell lock found taken free on idle something =>
    rw [facet_modifyCell, if_neg different, facet_flag,
      show (world.sightingOf value cell ⟨thread, kind⟩).value = value from rfl, if_neg different,
      facet_tallyAccess world runs idle, if_neg different]

/-- A section entry bears on its own value only. -/
theorem facet_of_asksSection {attempt : Attempt Nat}
    (asked : world.AsksSection thread value next attempt) :
    next.facet other = world.facet other := by
  cases asked with
  | reentered cell lock found taken borrowed => rfl
  | stalled cell lock found taken free busy => rfl
  | entered cell lock found taken free idle =>
    have adopted := facet_adoptClock (world.note (.entering value cell.label cell.clock.size)) runs
      idle value cell.clock other
    rw [facet_modifyCell, if_neg different, adopted, if_neg different, facet_note]

end Aside

end World

namespace Facet

variable (facet : Facet α)

/-- A thread with a name is started. -/
def spawn (name : Option String) : Facet α :=
  { (facet.bear ⟨facet.started⟩ (some (name, none, 0))).see ⟨facet.started⟩ none with
    started := facet.started + 1 }

/-- How often a thread has a section open on the value that outlasts its moves. -/
def held (thread : ThreadId) : Nat :=
  ((facet.threads thread).map fun bearing => bearing.2.2).getD 0

/-- A thread ends, and leaves its sections. -/
def leave (thread : ThreadId) : Facet α :=
  ((facet.put (facet.cell.map fun cell =>
    { cell with lock := Nat.repeat Lock.release (facet.held thread) cell.lock })).bear thread
      none).see thread none

/-- A detector with nothing in its ledger is made. -/
def equip (config : DetectorConfig) (inUse : Bool) : Facet α :=
  { facet with
    detectors := fun id =>
      if id = ⟨facet.equipped⟩ then some (config, inUse, none) else facet.detectors id
    equipped :=
      if (facet.detectors ⟨facet.equipped⟩).isSome then facet.equipped else facet.equipped + 1 }

/-- A detector becomes something else to the value. -/
def adjust (id : DetectorId) (detector : DetectorConfig × Bool × Option LedgerEntry) : Facet α :=
  { facet with
    detectors := fun other => if other = id then some detector else facet.detectors other }

/-- The value is made. -/
def make (cell : Cell α) : Facet α := { facet.put (some cell) with made := true }

/-- The value is made, of a detector in use if one is named. -/
def create (payload : α) (label : Option String) : Option DetectorId → Facet α
  | none => facet.make (.new payload none true none)
  | some id =>
    match facet.detectors id with
    | some (config, true, _) =>
      (facet.adjust id (config, true, some ⟨label, 0⟩)).make
        (.new payload label config.raceDetection.enabled (some id))
    | _ => facet

/-- The value is taken away, unless a thread has its lock. -/
def remove : Facet α :=
  if facet.cell.any fun cell => cell.lock.isHeld then facet else facet.put none

end Facet

namespace World

variable (world : World α)

/-- A thread that starts bears on every value in one way. -/
theorem facet_startThread (name : Option String) (value : ValueId) :
    (world.startThread name).facet value = (world.facet value).spawn name := by
  have begun := facet_setThread world ⟨world.started⟩ (.new name) value
  exact congrArg (fun facet : Facet α => { facet with started := world.started + 1 }) begun

/-- A thread that is started is the same to every value, with a context or without. -/
theorem facet_spawn (name : Option String) (attach : Bool) (value : ValueId) :
    (world.spawn name attach).1.facet value = (world.facet value).spawn name := by
  have new : (world.startThread name).thread ⟨world.started⟩ = .new name := by
    change (world.setThread ⟨world.started⟩ (.new name)).thread ⟨world.started⟩ = _
    rw [thread_setThread, if_pos rfl]
  rw [spawn_eq]
  split
  · refine (facet_bindContext ((world.startThread name).noteAttached _)
      (running_startThread world name) (fun busy => ?_) _ value).trans ?_
    · change ((world.startThread name).thread ⟨world.started⟩).contextInUse = true at busy
      rw [new] at busy
      cases busy
    · rw [noteAttached, facet_note, facet_startThread]
      exact Facet.see_self _ (if_pos rfl)
  · exact facet_startThread world name value

/-- Of the sections that a thread leaves, each releases the lock of its value once. -/
theorem facet_leaveSections (left : List ValueId) (value : ValueId) :
    (left.foldl World.leaveSection world).facet value =
      (world.facet value).put ((world.facet value).cell.map fun cell =>
        { cell with lock := Nat.repeat Lock.release (left.count value) cell.lock }) := by
  induction left generalizing world with
  | nil => exact (Facet.put_self _ Option.map_id'.symm).symm
  | cons first rest ih =>
    rw [List.foldl_cons, ih, facet_leaveSection]
    by_cases here : value = first
    · rw [if_pos here, ← here, List.count_cons_self, Facet.put, Facet.put, Option.map_map]
      simp only [Function.comp_def, repeat_release]
      rfl
    · rw [if_neg here, List.count_cons_of_ne (Ne.symm here)]

/-- A thread that ends bears on a value by what it has seen of it and by its sections on it. -/
theorem facet_endThread {thread : ThreadId} (runs : world.threads.contains thread = true)
    (value : ValueId) :
    (world.endThread thread).facet value = (world.facet value).leave thread := by
  have held : (world.facet value).held thread = (world.thread thread).sections.count value := by
    rw [Facet.held, threads_facet world runs]
    rfl
  have left := facet_leaveSections world (world.thread thread).sections value
  rw [Facet.leave, held, ← left]
  refine Facet.ext rfl rfl (funext fun other => ?_) (funext fun other => ?_) rfl rfl rfl
  · change (SortedMap.get? (SortedMap.erase _ thread) other).map _ = _
    rw [SortedMap.get?_erase, apply_ite (Option.map (ThreadState.facet value))]
    rfl
  · exact snapshot?_erase _ thread other value

/-- A detector without any account bears on every value in one way. -/
theorem facet_equip {detector : Detector} (blank : detector.ledger = ∅) (value : ValueId) :
    (world.setDetector ⟨world.detectors.size⟩ detector).facet value =
      (world.facet value).equip detector.config detector.inUse := by
  refine Facet.ext rfl rfl rfl rfl rfl (funext fun id => ?_) ?_
  · change (SortedMap.get? (world.detectors.insert _ detector) id).map _ = _
    rw [SortedMap.get?_insert, apply_ite (Option.map (Detector.facet value)), Option.map_some,
      Detector.facet, blank]
    rfl
  · change (world.detectors.insert _ detector).size = _
    rw [SortedMap.size_insert, Facet.equip]
    change _ = if ((world.detectors.get? _).map _).isSome then _ else _
    rw [Option.isSome_map]
    rfl

/-- A value is made. -/
theorem facet_addCell (cell : Cell α) (value : ValueId) :
    (world.addCell cell).1.facet value =
      if value = ⟨world.made⟩ then (world.facet value).make cell else world.facet value := by
  have stored : (world.addCell cell).1.cells.get? value =
      if value = ⟨world.made⟩ then some cell else world.cells.get? value :=
    SortedMap.get?_insert _ _ _ _
  by_cases here : value = ⟨world.made⟩
  · rw [if_pos here] at stored ⊢
    refine Facet.ext rfl ?_ rfl rfl stored rfl rfl
    rw [here]
    exact decide_eq_true (Nat.lt_succ_self _)
  · rw [if_neg here] at stored ⊢
    refine Facet.ext rfl ?_ rfl rfl stored rfl rfl
    have other : value.index ≠ world.made := fun same => here (congrArg ValueId.mk same)
    change decide (value.index < world.made + 1) = decide (value.index < world.made)
    rw [decide_eq_decide]
    omega

/-- A value that is made is of a detector in use, if one is named. -/
theorem facet_newValue (payload : α) (sink : Option DetectorId) (label : Option String)
    (value : ValueId) :
    (world.newValue payload sink label).1.facet value =
      if value = ⟨world.made⟩ then (world.facet value).create payload label sink
      else world.facet value := by
  cases sink with
  | none => exact facet_addCell world _ value
  | some id =>
    unfold newValue ifInUse
    dsimp only
    cases found : world.detectors.get? id with
    | none =>
      have absent : (world.facet value).detectors id = none := Option.map_eq_none_iff.2 found
      simp only [Facet.create, absent, ite_self]
    | some detector =>
      have known : (world.facet value).detectors id = some (detector.facet value) :=
        congrArg (Option.map _) found
      cases inUse : detector.inUse with
      | false =>
        simp only [Bool.false_eq_true, ↓reduceIte, Facet.create, known, Detector.facet, inUse,
          ite_self]
      | true =>
        have account : (detector.register ⟨world.made⟩ label).facet value =
            (detector.config, true, if value = ⟨world.made⟩ then some ⟨label, 0⟩
              else SortedMap.get? detector.ledger value) :=
          congrArg (Prod.mk _) (congr (congrArg Prod.mk inUse) (SortedMap.get?_insert _ _ _ _))
        simp only
        rw [if_pos inUse, facet_addCell, facet_setDetector_of_get? world found, account]
        change (if value = ⟨world.made⟩ then _ else _) = _
        split
        · simp only [Facet.create, known, Detector.facet, inUse]
          rfl
        · refine Facet.ext rfl rfl rfl rfl rfl (funext fun other => ?_) rfl
          dsimp only
          split
          · rename_i here
            rw [here, known, Detector.facet, inUse]
          · rfl

/-- A value that is taken away bears on no other one. -/
theorem facet_removeCell (other : ValueId) (reply : Cell α → Reply α) (value : ValueId) :
    (world.removeCell other reply).1.facet value =
      if value = other then (world.facet value).remove else world.facet value := by
  unfold removeCell
  cases found : world.cells.get? other with
  | none =>
    have absent : value = other → (world.facet value).cell = none := fun here => here ▸ found
    simp only
    split
    · rename_i here
      rw [Facet.remove, absent here]
      exact (Facet.put_self _ (absent here)).symm
    · rfl
  | some cell =>
    have present : value = other → (world.facet value).cell = some cell := fun here => here ▸ found
    simp only
    by_cases here : value = other
    · rw [if_pos here, Facet.remove, present here, Option.any_some]
      cases cell.lock.isHeld with
      | true => rfl
      | false =>
        refine Facet.ext rfl rfl rfl rfl ?_ rfl rfl
        exact (SortedMap.get?_erase _ _ _).trans (if_pos here)
    · rw [if_neg here]
      split
      · rfl
      · refine Facet.ext rfl rfl rfl rfl ?_ rfl rfl
        exact (SortedMap.get?_erase _ _ _).trans (if_neg here)

end World

/-- Whether a step makes or takes away a value. -/
def Step.isOfValue : Step α → Bool
  | .newValue _ _ _ => true
  | .dropValue _ => true
  | .intoInner _ => true
  | _ => false

/-- There is no value, and nobody has seen anything of it. -/
structure Facet.Blank (facet : Facet α) : Prop where
  /-- There is no value. -/
  cell : facet.cell = none
  /-- Nobody has a snapshot. -/
  seen : ∀ thread, facet.seen thread = none

/-- What a step does to any value, as long as it makes or takes away none, is the same for all of
them. -/
structure Step.Uniform (step : Step α) (change : Facet α → Facet α) : Prop where
  /-- What becomes of a facet depends on the facet alone. -/
  facet : ∀ (world : World α) (value : ValueId),
    (world.step step).1.facet value = change (world.facet value)
  /-- No value comes of it. -/
  blank : ∀ facet, facet.Blank → (change facet).Blank

/-- What is done to a detector in use may leave it as it is to a value. -/
theorem World.facet_ifInUse {world : World α} {id : DetectorId} {value : ValueId}
    {work : Detector → World α × Reply α}
    (same : ∀ detector, world.detectors.get? id = some detector →
      (work detector).1.facet value = world.facet value) :
    (world.ifInUse id work).1.facet value = world.facet value := by
  unfold World.ifInUse
  split
  · rename_i detector found
    split
    · exact same detector found
    · rfl
  · rfl

/-- A detector is given up. -/
def Facet.retire (facet : Facet α) (id : DetectorId) : Facet α :=
  { facet with
    detectors := fun other =>
      if other = id then
        (facet.detectors other).map fun detector => (detector.1, false, detector.2.2)
      else facet.detectors other }

/-- A detector that is given up bears on every value in one way. -/
theorem World.facet_dropDetector (world : World α) (id : DetectorId) (value : ValueId) :
    (world.step (.dropDetector id)).1.facet value = (world.facet value).retire id := by
  have retired (same : ((world.facet value).detectors id).map
      (fun detector => (detector.1, false, detector.2.2)) = (world.facet value).detectors id) :
      world.facet value = (world.facet value).retire id := by
    refine Facet.ext rfl rfl rfl rfl rfl (funext fun other => ?_) rfl
    by_cases here : other = id
    · rw [here]
      exact ((if_pos rfl).trans same).symm
    · exact (if_neg here).symm
  have known : (world.facet value).detectors id =
      (world.detectors.get? id).map (Detector.facet value) := rfl
  simp only [World.step, ifInUse]
  cases found : world.detectors.get? id with
  | none =>
    rw [found] at known
    exact retired (by rw [known]; rfl)
  | some detector =>
    rw [found] at known
    cases inUse : detector.inUse with
    | false =>
      simp only [inUse, Bool.false_eq_true, ↓reduceIte]
      refine retired ?_
      rw [known, Option.map_some, Option.map_some, Detector.facet, inUse]
    | true =>
      simp only [inUse, ↓reduceIte]
      rw [facet_setDetector_of_get? world found]
      refine Facet.ext rfl rfl rfl rfl rfl (funext fun other => ?_) rfl
      rw [Facet.retire]
      dsimp only
      split
      · rename_i here
        rw [here, known]
        rfl
      · rfl

namespace Step.Uniform

variable {step : Step α}

/-- A step that does nothing to any value. -/
theorem idle (same : ∀ (world : World α) (value : ValueId),
    (world.step step).1.facet value = world.facet value) : step.Uniform id :=
  ⟨same, fun _ blank => blank⟩

/-- A detector is made in one way for all values. -/
theorem newDetector (config : Option String) :
    ∃ change, (Step.newDetector config : Step α).Uniform change := by
  have equips {detector : Detector} (blank : detector.ledger = ∅)
      (does : ∀ (world : World α) (value : ValueId),
        (world.step (.newDetector config)).1.facet value =
          (world.setDetector ⟨world.detectors.size⟩ detector).facet value) :
      ∃ change, (Step.newDetector config : Step α).Uniform change :=
    ⟨fun facet => facet.equip detector.config detector.inUse,
      fun world value => (does world value).trans (facet_equip world blank value),
      fun _ blank => ⟨blank.cell, blank.seen⟩⟩
  cases config with
  | none => exact equips rfl fun _ _ => rfl
  | some text =>
    cases parsed : DetectorConfig.parse text with
    | error reason =>
      refine ⟨id, .idle fun world value => ?_⟩
      simp only [World.step, World.newDetector, parsed]
    | ok config =>
      cases new : Detector.new config with
      | error failure =>
        refine ⟨id, .idle fun world value => ?_⟩
        cases failure with
        | config reason => simp only [World.step, World.newDetector, parsed, new]
        | denied reason => simp only [World.step, World.newDetector, parsed, new]
      | ok detector =>
        refine equips (ledger_of_new new) fun world value => ?_
        simp only [World.step, World.newDetector, parsed, new]
        rfl

/-- A thread ends in one way for all values, if it runs. -/
theorem endThread {thread : ThreadId} {reply : Reply α}
    (does : ∀ world : World α,
      world.step step = world.ifRunning thread (world.endThread thread, reply)) :
    step.Uniform fun facet =>
      if (facet.threads thread).isSome then facet.leave thread else facet := by
  refine ⟨fun world value => ?_, fun facet blank => ?_⟩
  · have running : ((world.facet value).threads thread).isSome =
        world.threads.contains thread := Option.isSome_map
    rw [does, ifRunning, running]
    split
    · rename_i runs
      exact facet_endThread world runs value
    · rfl
  · split
    · refine ⟨Option.map_eq_none_iff.2 blank.cell, fun other => ?_⟩
      change (if other = thread then none else facet.seen other) = none
      rw [blank.seen, ite_self]
    · exact blank

/-- A report that is taken out of a channel bears on no value. -/
theorem receive (receiver : Nat) : (Step.receive receiver : Step α).Uniform id := by
  refine .idle fun world value => ?_
  change (world.receive receiver).1.facet value = _
  unfold World.receive
  dsimp only
  split
  · rfl
  · rename_i id detector channel found
    simp only [Option.bind_eq_bind, Option.bind_eq_some_iff, Option.some.injEq,
      Prod.mk.injEq] at found
    obtain ⟨_, _, _, stored, _, _, rfl, rfl, rfl⟩ := found
    exact facet_setDetector world stored rfl

end Step.Uniform

/-- Steps that make or take away no value do the same to every value. -/
theorem Step.uniform {step : Step α} (still : step.isActed = false)
    (general : step.isOfValue = false) : ∃ change, step.Uniform change := by
  cases step with
  | spawn name attach =>
    cases denied : name.bind Denial.ofThreadName? with
    | some reason =>
      refine ⟨id, .idle fun world value => ?_⟩
      simp only [World.step, denied]
    | none =>
      refine ⟨fun facet => facet.spawn name, fun world value => ?_, fun facet blank => ?_⟩
      · simp only [World.step, denied]
        exact facet_spawn world name attach value
      · refine ⟨blank.cell, fun thread => ?_⟩
        change (if thread = ⟨facet.started⟩ then none else facet.seen thread) = none
        rw [blank.seen, ite_self]
  | exit thread => exact ⟨_, .endThread fun world => rfl⟩
  | crash thread => exact ⟨_, .endThread fun world => rfl⟩
  | newDetector config => exact Uniform.newDetector config
  | dropDetector id =>
    exact ⟨fun facet => facet.retire id, fun world value => facet_dropDetector world id value,
      fun _ blank => ⟨blank.cell, blank.seen⟩⟩
  | stats id => exact ⟨_, .idle fun world value => facet_ifInUse fun _ _ => rfl⟩
  | total id => exact ⟨_, .idle fun world value => facet_ifInUse fun _ _ => rfl⟩
  | config id => exact ⟨_, .idle fun world value => facet_ifInUse fun _ _ => rfl⟩
  | capture id => exact ⟨_, .idle fun world value => facet_ifInUse fun _ _ => rfl⟩
  | drain id =>
    refine ⟨_, .idle fun world value => facet_ifInUse fun detector found => ?_⟩
    refine facet_setDetector world found ?_
    unfold Detector.drain
    split
    · rfl
    · rfl
  | newReceiver id =>
    refine ⟨_, .idle fun world value => facet_ifInUse fun detector found => ?_⟩
    unfold World.newReceiver
    split
    · rfl
    · rfl
  | receive receiver => exact ⟨_, .receive receiver⟩
  | newValue payload sink label => cases general
  | dropValue value => cases general
  | intoInner value => cases general
  | enter thread value => cases still
  | leave thread => cases still
  | act thread action => cases still

end RaceSentry
