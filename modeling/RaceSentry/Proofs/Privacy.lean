import RaceSentry.Proofs.Bystander
import RaceSentry.Proofs.Recall

/-!
# Contexts are private

A thread does nothing to the contexts of others, and to its own only what it says: a recorded access
puts one counter into one snapshot, a section entry replaces one snapshot, and edits by hand do what
they are asked for. As long as nobody puts a context in place of another one, each thread is given
at most one in its life: its own, when it first needs one, and that is told once.
Main statement: `contexts_private`.
-/

namespace RaceSentry

open World

variable {α : Type}

/-- The law of runs in which nobody puts a context in place of another one, and edits by hand leave
it to contexts whose they are. -/
def Unattached (_ : Scene α) (move : Move α) (_ : List Happening) : Prop :=
  match move with
  | .attach _ _ => False
  | .edit _ change => ∀ context, (change context).owner = context.owner
  | _ => True

/-- Whether a move edits a context by hand, or puts another one in its place. -/
def Move.isManual : Move α → Bool
  | .edit _ _ => true
  | .attach _ _ => true
  | _ => false

/-- The occasions on which a thread needs a context: it is started with one, a watched access of it
is recorded, it enters a section, or it begins to work on its context. -/
def Occasion (scene : Scene α) (move : Move α) (told : History) (thread : ThreadId) : Prop :=
  (∃ value, ∃ happening ∈ told, happening.renews thread value = true) ∨
    (move = .openContext thread ∧ (scene.world.thread thread).contextInUse = false) ∨
      ∃ name, move = .step (.spawn (some name) true) ∧ Denial.ofThreadName? name = none ∧
        thread = ⟨scene.world.started⟩

/-- Every thread has the context of the same owner, and none was told to be bound. -/
structure World.Steady (world next : World α) : Prop where
  /-- Owners are the same. -/
  owners : ∀ thread, next.owner? thread = world.owner? thread
  /-- No context was bound. -/
  attachments : next.attachments = world.attachments

namespace Scene

variable {scene next : Scene α} {move : Move α} {told : History} {thread : ThreadId}

/-- Where threads and the journal of contexts stay, contexts keep their owners. -/
theorem steady_of_threads {world next : World α} (threads : next.threads = world.threads)
    (attachments : next.attachments = world.attachments) : Steady world next :=
  ⟨fun thread => by rw [owner?, World.thread, threads, owner?, World.thread], attachments⟩

/-- A thread may change in anything but its context. -/
theorem steady_setThread (world : World α) {state : ThreadState}
    (same : state.context.map ThreadContext.owner = world.owner? thread) :
    Steady world (world.setThread thread state) := by
  refine ⟨fun other => ?_, rfl⟩
  rw [owner?, thread_setThread]
  split
  · rename_i here
    rw [here, same]
  · rfl

/-- What a thread does that does not work on its context by hand is confined to what it needs. -/
theorem Outcome.confined (outcome : scene.Outcome move next told)
    (mover : move.thread? = some thread) (plain : move.isManual = false) :
    Confined thread [] told scene.world next.world := by
  cases outcome with
  | access asked =>
    cases mover
    exact asked.confined
  | stall asked =>
    cases mover
    exact asked.confined
  | reenter asked =>
    cases mover
    exact asked.confined
  | finish change frames => exact confined_modifyCell _ _ _
  | enter asked =>
    cases mover
    exact asked.confined
  | refuseEnter asked =>
    cases mover
    exact asked.confined
  | leave frames => exact confined_leaveSection _ _
  | hold asked =>
    cases mover
    have entered : Confined thread [] _ _ _ := asked.confined
    exact entered.trans (confined_setThread _ rfl rfl)
  | refuseHold asked =>
    cases mover
    exact asked.confined
  | @drop actor value member =>
    cases mover
    have dropped : Confined thread [] [] scene.world (scene.world.setThread thread
        { scene.world.thread thread with
          sections := (scene.world.thread thread).sections.erase value }) :=
      confined_setThread scene.world rfl rfl
    exact dropped.trans (confined_leaveSection _ value)
  | openContext idle =>
    cases mover
    exact confined_openContext scene.world
  | refuseContext busy => exact .refl _
  | closeContext frames =>
    cases mover
    exact confined_closeContext scene.world
  | edit => cases plain
  | attach => cases plain
  | refuseAttach => cases plain
  | look found admitted free => exact .refl _
  | refuseLook found admitted borrowed => exact confined_note _ rfl
  | step still outside => cases mover

/-- Edits by hand are done to the thread's own context. -/
theorem Outcome.others (outcome : scene.Outcome move next told)
    (mover : move.thread? = some thread) {other : ThreadId} (different : other ≠ thread) :
    next.world.threads.get? other = scene.world.threads.get? other := by
  cases manual : move.isManual with
  | false => exact (outcome.confined mover manual).others other different
  | true =>
    cases outcome with
    | edit change bound busy known =>
      cases mover
      exact SortedMap.get?_insert_of_ne _ _ different
    | attach known idle =>
      cases mover
      exact SortedMap.get?_insert_of_ne _ _ different
    | refuseAttach known busy => rfl
    | _ => cases manual

/-- A move of a thread leaves owners as they are, or it is an occasion on which the thread needs a
context. -/
theorem Outcome.steady_or_occasion (outcome : scene.Outcome move next told)
    (mover : move.thread? = some thread) (obeys : Unattached scene move told) :
    Steady scene.world next.world ∨
      Occasion scene move told thread ∧ move.isManual = false := by
  cases outcome with
  | @access actor value kind world sighting asked =>
    cases mover
    cases watched : scene.world.watches value with
    | true =>
      refine .inr ⟨.inl ⟨value, .accessed thread value kind sighting, ?_, ?_⟩, rfl⟩
      · rw [if_pos rfl]
        exact List.mem_singleton_self _
      · simp [Happening.renews]
    | false =>
      have unmoved := (asked.unmoved watched).1
      exact .inl (steady_of_threads unmoved.threads unmoved.attachments)
  | stall asked =>
    cases asked with
    | stalled => exact .inl (steady_of_threads rfl (attachments_note _ rfl))
  | reenter asked =>
    cases asked with
    | reentered => exact .inl (steady_of_threads rfl (attachments_note _ rfl))
  | finish change frames => exact .inl (steady_of_threads rfl rfl)
  | @enter actor value world entries asked =>
    cases mover
    exact .inr ⟨.inl ⟨value, _, List.mem_singleton_self _, by simp [Happening.renews]⟩, rfl⟩
  | refuseEnter asked =>
    cases asked with
    | reentered => exact .inl (steady_of_threads rfl rfl)
    | stalled => exact .inl (steady_of_threads rfl (attachments_note _ rfl))
  | leave frames => exact .inl (steady_of_threads rfl (attachments_note _ rfl))
  | @hold actor value world entries asked =>
    cases mover
    exact .inr ⟨.inl ⟨value, _, List.mem_singleton_self _, by simp [Happening.renews]⟩, rfl⟩
  | refuseHold asked =>
    cases asked with
    | reentered => exact .inl (steady_of_threads rfl rfl)
    | stalled => exact .inl (steady_of_threads rfl (attachments_note _ rfl))
  | @drop actor value member =>
    have dropped : Steady scene.world (scene.world.setThread actor
        { scene.world.thread actor with
          sections := (scene.world.thread actor).sections.erase value }) :=
      steady_setThread scene.world rfl
    exact .inl ⟨dropped.owners, (attachments_note _ rfl).trans dropped.attachments⟩
  | openContext idle =>
    cases mover
    exact .inr ⟨.inr (.inl ⟨rfl, idle⟩), rfl⟩
  | refuseContext busy => exact .inl (steady_of_threads rfl rfl)
  | closeContext frames => exact .inl (steady_setThread scene.world rfl)
  | @edit actor context change bound busy known =>
    refine .inl (steady_setThread scene.world ?_)
    rw [Option.map_some, obeys context, owner?, bound]
    rfl
  | attach => exact obeys.elim
  | refuseAttach => exact obeys.elim
  | look found admitted free => exact .inl (steady_of_threads rfl rfl)
  | refuseLook found admitted borrowed =>
    exact .inl (steady_of_threads rfl (attachments_note _ rfl))
  | step still outside => cases mover

end Scene

section Steps

variable {world : World α} {thread : ThreadId}

/-- What is done to a detector in use leaves threads alone if it does for every detector. -/
theorem threads_ifInUse {id : DetectorId} {work : Detector → World α × Reply α}
    (worked : ∀ detector, (work detector).1.threads = world.threads ∧
      (work detector).1.attachments = world.attachments) :
    (world.ifInUse id work).1.threads = world.threads ∧
      (world.ifInUse id work).1.attachments = world.attachments := by
  unfold World.ifInUse
  split
  · split
    · exact worked _
    · exact ⟨rfl, rfl⟩
  · exact ⟨rfl, rfl⟩

/-- A value that is made leaves threads and the journal of contexts alone. -/
theorem threads_addCell (world : World α) (cell : Cell α) :
    (world.addCell cell).1.threads = world.threads ∧
      (world.addCell cell).1.attachments = world.attachments :=
  ⟨rfl, attachments_note world rfl⟩

/-- A value that is taken away leaves threads and the journal of contexts alone. -/
theorem threads_removeCell (value : ValueId) (reply : Cell α → Reply α) :
    (world.removeCell value reply).1.threads = world.threads ∧
      (world.removeCell value reply).1.attachments = world.attachments := by
  unfold World.removeCell
  split
  · exact ⟨rfl, rfl⟩
  · split
    · exact ⟨rfl, rfl⟩
    · exact ⟨rfl, rfl⟩

/-- A step that starts no thread, ends none and lets none act does nothing to threads. -/
theorem threads_of_quiet (world : World α) {step : Step α} (still : step.isActed = false)
    (starts : ∀ name attach, step ≠ .spawn name attach) (ends : step.ends? = none) :
    (world.step step).1.threads = world.threads ∧
      (world.step step).1.attachments = world.attachments := by
  cases step with
  | spawn name attach => exact absurd rfl (starts name attach)
  | exit thread => cases ends
  | crash thread => cases ends
  | newDetector config =>
    unfold World.step World.newDetector
    dsimp only
    split
    · exact ⟨rfl, rfl⟩
    · split
      · exact ⟨rfl, rfl⟩
      · split
        · exact ⟨rfl, rfl⟩
        · exact ⟨rfl, rfl⟩
        · exact ⟨rfl, attachments_note _ rfl⟩
  | newValue payload sink label =>
    unfold World.step World.newValue
    dsimp only
    split
    · exact threads_addCell world _
    · exact threads_ifInUse fun detector => threads_addCell (world.setDetector _ _) _
  | dropDetector id => exact threads_ifInUse fun _ => ⟨rfl, rfl⟩
  | dropValue value => exact threads_removeCell value _
  | intoInner value => exact threads_removeCell value _
  | stats id => exact threads_ifInUse fun _ => ⟨rfl, rfl⟩
  | total id => exact threads_ifInUse fun _ => ⟨rfl, rfl⟩
  | config id => exact threads_ifInUse fun _ => ⟨rfl, rfl⟩
  | capture id => exact threads_ifInUse fun _ => ⟨rfl, rfl⟩
  | drain id => exact threads_ifInUse fun _ => ⟨rfl, rfl⟩
  | newReceiver id =>
    refine threads_ifInUse fun detector => ?_
    unfold World.newReceiver
    split
    · exact ⟨rfl, rfl⟩
    · exact ⟨rfl, rfl⟩
  | receive receiver =>
    unfold World.step World.receive
    dsimp only
    split
    · exact ⟨rfl, rfl⟩
    · exact ⟨rfl, rfl⟩
  | enter thread value => cases still
  | leave thread => cases still
  | act thread action => cases still

/-- What a step does to threads in which none acts: nothing, or it starts one, or it ends one. -/
theorem threads_of_step (world : World α) {step : Step α} (still : step.isActed = false) :
    ((world.step step).1.threads = world.threads ∧
      (world.step step).1.attachments = world.attachments ∧
        ∀ name attach, step = .spawn name attach → name.bind Denial.ofThreadName? ≠ none) ∨
    (∃ name attach, step = .spawn name attach ∧ name.bind Denial.ofThreadName? = none ∧
      (world.step step).1 = (world.spawn name attach).1) ∨
    ∃ thread, step.ends? = some thread ∧
      step.happenings world (world.step step).1 = [.ended thread] ∧
        (world.step step).1 = world.endThread thread := by
  by_cases begins : ∃ name attach, step = .spawn name attach
  · obtain ⟨name, attach, rfl⟩ := begins
    cases named : name.bind Denial.ofThreadName? with
    | some reason =>
      have same : (world.step (.spawn name attach)).1 = world := by
        simp only [World.step, named]
      refine .inl ⟨by rw [same], by rw [same], fun _ _ starts => ?_⟩
      cases starts
      rw [named]
      exact Option.some_ne_none _
    | none => exact .inr (.inl ⟨name, attach, rfl, named, by simp only [World.step, named]⟩)
  have other : ∀ name attach, step ≠ .spawn name attach :=
    fun name attach starts => begins ⟨name, attach, starts⟩
  have aside (same : (world.step step).1.threads = world.threads ∧
      (world.step step).1.attachments = world.attachments) :
      (world.step step).1.threads = world.threads ∧
        (world.step step).1.attachments = world.attachments ∧
          ∀ name attach, step = .spawn name attach → name.bind Denial.ofThreadName? ≠ none :=
    ⟨same.1, same.2, fun name attach starts => absurd starts (other name attach)⟩
  cases ends : step.ends? with
  | none => exact .inl (aside (threads_of_quiet world still other ends))
  | some thread =>
    by_cases runs : world.threads.contains thread = true
    · refine .inr (.inr ⟨thread, rfl, ?_⟩)
      cases step with
      | exit | crash =>
        cases ends
        exact ⟨if_pos runs, by rw [World.step, World.ifRunning, if_pos runs]⟩
      | _ => cases ends
    · refine .inl (aside ?_)
      cases step with
      | exit | crash =>
        cases ends
        rw [World.step, World.ifRunning, if_neg runs]
        exact ⟨rfl, rfl⟩
      | _ => cases ends

/-- Sections that are left give nobody a context. -/
theorem attachments_leaveSections (world : World α) (left : List ValueId) :
    (left.foldl World.leaveSection world).attachments = world.attachments := by
  induction left generalizing world with
  | nil => rfl
  | cons value rest ih => exact (ih _).trans (attachments_note world rfl)

/-- A thread that is started gets its own context at once if it has a name and that is wanted. -/
theorem owner?_spawn (world : World α) (name : Option String) (attach : Bool) (other : ThreadId) :
    (world.spawn name attach).1.owner? other =
      if other = ⟨world.started⟩ then
        if attach ∧ name.isSome then some (⟨world.started⟩, name) else none
      else world.owner? other := by
  have begun : (world.startThread name).owner? other =
      if other = ⟨world.started⟩ then none else world.owner? other := by
    change Option.map _ ((world.setThread ⟨world.started⟩ (.new name)).thread other).context = _
    rw [thread_setThread]
    split
    · rfl
    · rfl
  rw [spawn_eq]
  by_cases wanted : attach ∧ name.isSome
  · rw [if_pos wanted, if_pos wanted, owner?, thread_bindContext]
    by_cases here : other = ⟨world.started⟩
    · rw [if_pos here, if_pos here]
      rfl
    · rw [if_neg here, if_neg here]
      rw [if_neg here] at begun
      exact begun
  · rw [if_neg wanted, if_neg wanted]
    exact begun

/-- A thread that starts is given a context if this is asked for and it has a name. -/
theorem attachments_spawn (world : World α) (name : Option String) (attach : Bool) :
    (world.spawn name attach).1.attachments =
      if attach ∧ name.isSome then (⟨world.started⟩, name) :: world.attachments
      else world.attachments := by
  rw [spawn_eq]
  split
  · rfl
  · rfl

/-- A thread that starts has the name that it was given. -/
theorem name_spawn (world : World α) (name : Option String) (attach : Bool) :
    ((world.spawn name attach).1.thread ⟨world.started⟩).name = name := by
  have begun : ((world.startThread name).thread ⟨world.started⟩).name = name := by
    change ((world.setThread ⟨world.started⟩ (.new name)).thread _).name = name
    rw [thread_setThread, if_pos rfl]
    rfl
  rw [spawn_eq]
  split
  · rw [thread_bindContext, if_pos rfl]
    exact begun
  · exact begun

/-- Other threads are as before when one is started. -/
theorem get?_spawn (world : World α) (name : Option String) (attach : Bool) {other : ThreadId}
    (different : other ≠ ⟨world.started⟩) :
    (world.spawn name attach).1.threads.get? other = world.threads.get? other := by
  have begun : (world.startThread name).threads.get? other = world.threads.get? other :=
    SortedMap.get?_insert_of_ne _ _ different
  rw [spawn_eq]
  split
  · exact (SortedMap.get?_insert_of_ne _ _ different).trans begun
  · exact begun

end Steps

/-- What a move does to threads and snapshots. -/
structure Renewed (scene : Scene α) (move : Move α) (told : History) (next : Scene α) :
    Prop where
  /-- Threads that do not move are as before unless they end. -/
  others : ∀ other state, move.thread? ≠ some other →
    scene.world.threads.get? other = some state → .ended other ∉ told →
      next.world.threads.get? other = some state
  /-- Snapshots are as before that are neither renewed, nor edited by hand, nor given up. -/
  untouched : ∀ thread value, (∀ happening ∈ told, happening.renews thread value = false) →
    (∀ context, .edited thread context ∉ told) → .ended thread ∉ told →
      next.world.snapshot? thread value = scene.world.snapshot? thread value
  /-- A recorded access puts its counter into the snapshot of its value, and changes no other
  entry and no other snapshot. -/
  accessed : ∀ thread value kind sighting, .accessed thread value kind sighting ∈ told →
    ∃ counter, (next.world.clockOf value).get? ⟨thread, kind⟩ = some counter ∧
      ∀ other, next.world.snapshot? thread other =
        if other = value then
          some (((scene.world.snapshot? thread value).getD ∅).insert ⟨thread, kind⟩ counter)
        else scene.world.snapshot? thread other
  /-- A section entry makes the snapshot of its value the authoritative table, and changes no other
  snapshot. -/
  entered : ∀ thread value clock, .entered thread value clock ∈ told →
    clock = next.world.clockOf value ∧
      ∀ other, next.world.snapshot? thread other =
        if other = value then some clock else scene.world.snapshot? thread other
  /-- An access to a value that is not watched changes at most who has the lock and the content. -/
  unwatched : ∀ thread value kind, move = .access thread value kind →
    scene.world.watches value = false → told = [] ∧ Unmoved scene.world next.world
  /-- The end of a closure changes at most the content and who has it. -/
  finished : ∀ thread change, move = .finish thread change → Unmoved scene.world next.world

/-- What may become of contexts with a move of a run in which nobody puts one in place of another:
all stay those of their owners, or one thread gets its own, because it needs one and has none. -/
inductive Attaching (scene : Scene α) (move : Move α) (told : History) (next : Scene α) :
    Prop where
  /-- Owners are as before, and who needs a context has one. -/
  | steady
      (owners : ∀ thread, .ended thread ∉ told →
        next.world.owner? thread = scene.world.owner? thread)
      (attachments : next.world.attachments = scene.world.attachments)
      (bound : ∀ thread, Occasion scene move told thread → (scene.world.owner? thread).isSome)
  /-- A thread gets its own context. -/
  | first (thread : ThreadId) (occasion : Occasion scene move told thread)
      (blank : scene.world.owner? thread = none)
      (owner : next.world.owner? thread = some (thread, (next.world.thread thread).name))
      (attachments : next.world.attachments =
        (thread, (next.world.thread thread).name) :: scene.world.attachments)
      (others : ∀ other, other ≠ thread → next.world.owner? other = scene.world.owner? other)

section Moves

variable {past : History} {scene next : Scene α} {move : Move α} {told : History}
  {thread : ThreadId} {value : ValueId}

/-- Threads that do not move are as before unless they end. -/
theorem get?_of_perform? (numbered : Numbered scene.world)
    (performed : scene.perform? move = some (next, told)) {state : ThreadState}
    (still : move.thread? ≠ some thread) (before : scene.world.threads.get? thread = some state)
    (unended : .ended thread ∉ told) : next.world.threads.get? thread = some state := by
  obtain ⟨-, outcome⟩ := Scene.perform?_eq_some_iff.1 performed
  cases mover : move.thread? with
  | some actor =>
    rw [outcome.others mover fun same => still (by rw [mover, same])]
    exact before
  | none =>
    cases outcome with
    | step quiet outside =>
      obtain ⟨same, -, -⟩ | ⟨name, attach, rfl, -, starts⟩ | ⟨other, -, ends, gone⟩ :=
        threads_of_step scene.world quiet
      · exact (congrArg (SortedMap.get? · thread) same).trans before
      · have different : thread ≠ ⟨scene.world.started⟩ := by
          rintro rfl
          have runs := (SortedMap.contains_iff _ _).2 ⟨_, before⟩
          exact Nat.lt_irrefl _ (numbered.threads _ runs)
        change (World.step _ _).1.threads.get? thread = _
        rw [starts, get?_spawn _ _ _ different]
        exact before
      · have different : thread ≠ other := by
          rintro rfl
          rw [ends] at unended
          exact unended (List.mem_singleton_self _)
        change (World.step _ _).1.threads.get? thread = _
        rw [gone, get?_endThread, if_neg different]
        exact before
    | _ => cases mover

/-- What renews no snapshot of a thread leaves it as it is, unless the thread edits its context or
ends. -/
theorem Happening.reveal_of_quiet {happening : Happening} {value : ValueId}
    (quiet : happening.renews thread value = false)
    (unedited : ∀ context, happening ≠ .edited thread context) (unended : happening ≠ .ended thread)
    (clock : ClockTable) (before : Option ClockTable) :
    happening.reveal thread value clock before = before := by
  cases happening with
  | accessed other target kind sighting =>
    refine if_neg fun own => ?_
    simp only [renews, own.1, own.2, and_self, decide_true] at quiet
    cases quiet
  | entered other target clock =>
    refine if_neg fun own => ?_
    simp only [renews, own.1, own.2, and_self, decide_true] at quiet
    cases quiet
  | edited other context => exact if_neg fun own => unedited context (by rw [own])
  | ended other => exact if_neg fun own => unended (by rw [own])
  | _ => rfl

/-- What a move does to threads and snapshots is what it tells. -/
theorem renewed_of_run (run : Run past scene)
    (performed : scene.perform? move = some (next, told)) : Renewed scene move told next := by
  have numbered := numbered_of_run run
  have turn := Scene.turn_of_perform? numbered performed
  have revealed (thread : ThreadId) (value : ValueId) : next.world.snapshot? thread value =
      told.foldr (fun happening before =>
        happening.reveal thread value (scene.world.clockOf value) before)
        (scene.world.snapshot? thread value) := turn.snapshot?_eq numbered thread
  refine ⟨fun other state still before unended => ?_,
    fun thread value unrenewed unedited unended => ?_,
    fun thread value kind sighting member => ?_, fun thread value clock member => ?_,
    fun thread value kind asks unwatched => ?_, fun thread change ends => ?_⟩
  · exact get?_of_perform? numbered performed still before unended
  · rw [revealed]
    rcases turn.eq_nil_or_singleton with rfl | ⟨happening, rfl⟩
    · rfl
    refine Happening.reveal_of_quiet (unrenewed happening (List.mem_singleton_self _))
      (fun context same => unedited context ?_) (fun same => unended ?_) _ _
    · rw [same]
      exact List.mem_singleton_self _
    · rw [same]
      exact List.mem_singleton_self _
  · obtain rfl := turn.eq_singleton member
    obtain ⟨-, standing, stands, on, -⟩ := turn.fits _ member
    have after := turn.standing? numbered value
    rw [stands, Happening.outcome, List.foldr_cons, List.foldr_nil, Happening.bear, if_pos rfl,
      Option.map_some] at after
    refine ⟨(scene.world.clockOf value).next ⟨thread, kind⟩, ?_, fun other => ?_⟩
    · rw [clockOf_of_standing? after, clockOf_of_standing? stands, Standing.clock_access,
        if_pos on]
      exact ClockTable.get?_increment_self _ _
    · rw [revealed]
      by_cases here : other = value
      · subst here
        rw [if_pos rfl]
        exact if_pos ⟨rfl, rfl⟩
      · rw [if_neg here]
        exact if_neg fun own => here own.2
  · obtain rfl := turn.eq_singleton member
    obtain ⟨-, standing, stands, same⟩ := turn.fits _ member
    have after := turn.standing? numbered value
    rw [stands, Happening.outcome, List.foldr_cons, List.foldr_nil, Happening.bear, if_pos rfl,
      Option.map_some] at after
    refine ⟨by rw [clockOf_of_standing? after]; exact same.symm, fun other => ?_⟩
    rw [revealed]
    by_cases here : other = value
    · subst here
      rw [if_pos rfl, ← same, ← clockOf_of_standing? stands]
      exact if_pos ⟨rfl, rfl⟩
    · rw [if_neg here]
      exact if_neg fun own => here own.2
  · subst asks
    obtain ⟨-, attempt, asked, rfl⟩ := Scene.asksAccess_of_perform? performed
    exact (asked.unmoved unwatched).symm
  · subst ends
    obtain ⟨-, outcome⟩ := Scene.perform?_eq_some_iff.1 performed
    cases outcome with
    | finish change frames => exact unmoved_modifyCell _ _ fun _ => rfl

/-- Who has a snapshot has a context. -/
theorem isSome_owner?_of_snapshot? {world : World α} {snapshot : ClockTable}
    (held : world.snapshot? thread value = some snapshot) : (world.owner? thread).isSome := by
  rw [World.snapshot?, Option.bind_eq_some_iff] at held
  obtain ⟨context, bound, -⟩ := held
  rw [owner?, bound]
  rfl

/-- Who needs a context has one afterwards. -/
theorem isSome_owner?_of_occasion (run : Run past scene)
    (performed : scene.perform? move = some (next, told))
    (occasion : Occasion scene move told thread) : (next.world.owner? thread).isSome := by
  have renewed := renewed_of_run run performed
  obtain ⟨value, happening, member, renews⟩ | ⟨rfl, idle⟩ | ⟨name, rfl, named, rfl⟩ := occasion
  · cases happening with
    | accessed other target kind sighting =>
      obtain ⟨rfl, rfl⟩ := of_decide_eq_true renews
      obtain ⟨counter, -, snapshots⟩ := renewed.accessed _ _ _ _ member
      exact isSome_owner?_of_snapshot? ((snapshots target).trans (if_pos rfl))
    | entered other target clock =>
      obtain ⟨rfl, rfl⟩ := of_decide_eq_true renews
      obtain ⟨-, snapshots⟩ := renewed.entered _ _ _ member
      exact isSome_owner?_of_snapshot? ((snapshots target).trans (if_pos rfl))
    | _ => cases renews
  · obtain ⟨-, outcome⟩ := Scene.perform?_eq_some_iff.1 performed
    cases outcome with
    | openContext =>
      change ((scene.world.openContext thread).1.owner? thread).isSome = true
      rw [World.openContext, if_neg (by simp [idle])]
      dsimp only
      rw [owner?, thread_setThread, if_pos rfl, thread_ensureContext, if_pos rfl]
      rfl
    | refuseContext busy => exact absurd (idle.symm.trans busy) (by decide)
  · obtain ⟨-, outcome⟩ := Scene.perform?_eq_some_iff.1 performed
    cases outcome with
    | step still outside =>
      have starts : (scene.world.step (.spawn (some name) true)).1 =
          (scene.world.spawn (some name) true).1 := by
        simp only [World.step, Option.bind_some, named]
      change ((World.step _ _).1.owner? _).isSome = true
      rw [starts, owner?_spawn, if_pos rfl, if_pos ⟨rfl, rfl⟩]
      rfl

/-- Steps in which no thread acts renew nothing. -/
theorem eq_spawn_of_occasion {step : Step α}
    (occasion : Occasion scene (.step step) (step.happenings scene.world (scene.world.step step).1)
      thread) :
    ∃ name, step = .spawn (some name) true ∧ Denial.ofThreadName? name = none ∧
      thread = ⟨scene.world.started⟩ := by
  obtain ⟨value, happening, member, renews⟩ | ⟨opens, -⟩ | ⟨name, starts, named, rfl⟩ := occasion
  · obtain ⟨_, _, rfl⟩ | ⟨_, _, _, rfl⟩ | ⟨_, rfl⟩ := Scene.eq_of_mem_happenings member
    · cases renews
    · cases renews
    · cases renews
  · cases opens
  · exact ⟨name, Move.step.inj starts, named, rfl⟩

/-- Nothing is bound to a thread that was not started. -/
theorem owner?_started (numbered : Numbered scene.world) :
    scene.world.owner? ⟨scene.world.started⟩ = none := by
  cases found : scene.world.threads.get? ⟨scene.world.started⟩ with
  | none => rw [owner?, World.thread, found]; rfl
  | some state =>
    have below := numbered.threads _ ((SortedMap.contains_iff _ _).2 ⟨state, found⟩)
    exact absurd below (Nat.lt_irrefl _)

/-- A step in which no thread acts. -/
theorem attaching_of_step (numbered : Numbered scene.world) {step : Step α}
    (still : step.isActed = false) :
    Attaching scene (.step step) (step.happenings scene.world (scene.world.step step).1)
      (scene.withWorld (scene.world.step step).1) := by
  obtain ⟨same, attachments, unnamed⟩ | ⟨name, attach, rfl, named, starts⟩ |
    ⟨thread, ends, told, gone⟩ := threads_of_step scene.world still
  · refine .steady (fun other _ => ?_) attachments fun other occasion => ?_
    · change (World.step _ _).1.owner? other = _
      rw [owner?, World.thread, same, owner?, World.thread]
    · obtain ⟨name, starts, named, -⟩ := eq_spawn_of_occasion occasion
      exact absurd named (unnamed _ _ starts)
  · -- The thread that is started is the only one that may get a context.
    have owners := owner?_spawn scene.world name attach
    have attachments := attachments_spawn scene.world name attach
    by_cases wanted : attach ∧ name.isSome
    · obtain ⟨rfl, some⟩ := wanted
      obtain ⟨name, rfl⟩ := Option.isSome_iff_exists.1 some
      rw [if_pos ⟨rfl, rfl⟩] at attachments
      refine .first ⟨scene.world.started⟩ (.inr (.inr ⟨name, rfl, named, rfl⟩))
        (owner?_started numbered) ?_ ?_ fun other different => ?_
      · change (World.step _ _).1.owner? _ = Option.some (_, ((World.step _ _).1.thread _).name)
        rw [starts, owners, if_pos rfl, if_pos ⟨rfl, rfl⟩, name_spawn]
      · change (World.step _ _).1.attachments = (_, ((World.step _ _).1.thread _).name) :: _
        rw [starts, attachments, name_spawn]
      · change (World.step _ _).1.owner? _ = _
        rw [starts, owners, if_neg different]
    · rw [if_neg wanted] at attachments
      refine .steady (fun other _ => ?_) ?_ fun other occasion => ?_
      · change (World.step _ _).1.owner? _ = _
        rw [starts, owners, if_neg wanted]
        by_cases here : other = ⟨scene.world.started⟩
        · rw [if_pos here, here, owner?_started numbered]
        · rw [if_neg here]
      · change (World.step _ _).1.attachments = _
        rw [starts, attachments]
      · obtain ⟨name', same, -⟩ := eq_spawn_of_occasion occasion
        cases same
        exact absurd ⟨rfl, rfl⟩ wanted
  · refine .steady (fun other unended => ?_) ?_ fun other occasion => ?_
    · have different : other ≠ thread := fun same =>
        unended (by rw [told, same]; exact List.mem_singleton_self _)
      change (World.step _ _).1.owner? _ = _
      rw [gone, owner?, thread_endThread, if_neg different, owner?]
    · change (World.step _ _).1.attachments = _
      rw [gone]
      exact attachments_leaveSections _ _
    · obtain ⟨name, rfl, -, -⟩ := eq_spawn_of_occasion occasion
      cases ends

/-- A move of a run in which nobody puts a context in place of another. -/
theorem attaching_of_run (run : Run past scene)
    (performed : scene.perform? move = some (next, told)) (obeys : Unattached scene move told) :
    Attaching scene move told next := by
  have bound (thread : ThreadId) (occasion : Occasion scene move told thread) :
      (next.world.owner? thread).isSome := isSome_owner?_of_occasion run performed occasion
  obtain ⟨-, outcome⟩ := Scene.perform?_eq_some_iff.1 performed
  cases mover : move.thread? with
  | some thread =>
    have others : ∀ other, other ≠ thread →
        next.world.owner? other = scene.world.owner? other := fun other different => by
      rw [owner?, World.thread, outcome.others mover different, owner?, World.thread]
    have kept (owner : next.world.owner? thread = scene.world.owner? thread) :
        ∀ other, next.world.owner? other = scene.world.owner? other := fun other => by
      by_cases here : other = thread
      · rw [here, owner]
      · exact others other here
    obtain steady | ⟨occasion, plain⟩ := outcome.steady_or_occasion mover obeys
    · exact .steady (fun other _ => steady.owners other) steady.attachments
        fun other occasion => steady.owners other ▸ bound other occasion
    · have confined := outcome.confined mover plain
      cases confined.fastens (List.forall_mem_nil _) with
      | kept owner attachments =>
        exact .steady (fun other _ => kept owner other) attachments
          fun other occasion => kept owner other ▸ bound other occasion
      | first blank owner attachments =>
        rw [← confined.name] at owner attachments
        exact .first thread occasion blank owner attachments others
  | none =>
    cases outcome with
    | step still outside => exact attaching_of_step (numbered_of_run run) still
    | _ => cases mover

end Moves

/-- The contexts that were told to be bound to a thread, latest first. -/
def World.attachmentsOf (world : World α) (thread : ThreadId) : List (ThreadId × Option String) :=
  world.attachments.filter fun owner => owner.1 = thread

/-- A thread is given at most one context in its life, its own, and this is told exactly once. -/
structure AttachedOnce (world : World α) (thread : ThreadId) : Prop where
  /-- At most one context was bound, whether the thread still runs or not. -/
  once : (world.attachmentsOf thread).length ≤ 1
  /-- A context that is bound is the thread's own, and was told once. -/
  bound : ∀ owner, world.owner? thread = some owner →
    owner = (thread, (world.thread thread).name) ∧ world.attachmentsOf thread = [owner]
  /-- To a thread that runs without a context none was bound. -/
  blank : world.threads.contains thread = true → world.owner? thread = none →
    world.attachmentsOf thread = []
  /-- To a thread that was not started none was bound. -/
  unstarted : world.started ≤ thread.index → world.attachmentsOf thread = []

section Runs

variable {past : History} {scene next : Scene α} {move : Move α} {told : History}
  {thread : ThreadId}

/-- Who has a context runs. -/
theorem running_of_owner? {world : World α} {owner : ThreadId × Option String}
    (bound : world.owner? thread = some owner) : world.threads.contains thread = true := by
  cases runs : world.threads.contains thread with
  | true => rfl
  | false =>
    have absent : world.threads.get? thread = none := Option.isNone_iff_eq_none.1
      (Option.isSome_eq_false_iff.1 runs)
    rw [owner?, World.thread, absent] at bound
    cases bound

/-- A thread has the same name as long as it runs. -/
theorem name_of_perform? (run : Run past scene)
    (performed : scene.perform? move = some (next, told))
    (runs : scene.world.threads.contains thread = true) (unended : .ended thread ∉ told) :
    (next.world.thread thread).name = (scene.world.thread thread).name := by
  obtain ⟨-, outcome⟩ := Scene.perform?_eq_some_iff.1 performed
  by_cases mover : move.thread? = some thread
  · cases manual : move.isManual with
    | false => exact (outcome.confined mover manual).name
    | true =>
      cases outcome with
      | edit change bound busy known =>
        cases mover
        change ((World.bindContext _ _ _).thread thread).name = _
        rw [thread_bindContext, if_pos rfl]
      | attach known idle =>
        cases mover
        change ((World.bindContext _ _ _).thread thread).name = _
        rw [thread_bindContext, if_pos rfl]
        rfl
      | refuseAttach known busy => rfl
      | _ => cases manual
  · obtain ⟨state, before⟩ := (SortedMap.contains_iff _ _).1 runs
    have after := (renewed_of_run run performed).others _ _ mover before unended
    rw [World.thread, World.thread, before, after]

/-- What holds of the contexts that were bound goes on to hold. -/
theorem AttachedOnce.perform? (run : Run past scene)
    (performed : scene.perform? move = some (next, told)) (obeys : Unattached scene move told)
    (before : AttachedOnce scene.world thread) : AttachedOnce next.world thread := by
  have numbered := numbered_of_run run
  have turn := Scene.turn_of_perform? numbered performed
  have unended (runs : next.world.threads.contains thread = true) : .ended thread ∉ told :=
    fun member => Bool.false_ne_true ((turn.gone member).symm.trans runs)
  have unbound (runs : next.world.threads.contains thread = true)
      (none : scene.world.owner? thread = none) : scene.world.attachmentsOf thread = [] := by
    obtain running | unstarted := turn.running_before runs
    · exact before.blank running none
    · exact before.unstarted unstarted
  cases attaching_of_run run performed obeys with
  | steady owners attachments _ =>
    have same : next.world.attachmentsOf thread = scene.world.attachmentsOf thread := by
      rw [World.attachmentsOf, attachments, World.attachmentsOf]
    refine ⟨same ▸ before.once, fun owner bound => ?_, fun runs none => ?_, fun unstarted => ?_⟩
    · have alive := unended (running_of_owner? bound)
      rw [owners thread alive] at bound
      rw [same, name_of_perform? run performed (running_of_owner? bound) alive]
      exact before.bound owner bound
    · rw [owners thread (unended runs)] at none
      rw [same, unbound runs none]
    · rw [same]
      exact before.unstarted (turn.started_le.trans unstarted)
  | first other _ blank owner attachments others =>
    by_cases here : thread = other
    · subst here
      have runs := running_of_owner? owner
      have once : next.world.attachmentsOf thread =
          [(thread, (next.world.thread thread).name)] := by
        rw [World.attachmentsOf, attachments, List.filter_cons_of_pos (by simp),
          ← World.attachmentsOf, unbound runs blank]
      refine ⟨by rw [once]; exact Nat.le_refl _, fun owner' bound => ?_, fun _ none => ?_,
        fun unstarted => ?_⟩
      · cases owner.symm.trans bound
        exact ⟨rfl, once⟩
      · cases owner.symm.trans none
      · exact absurd ((turn.numbered numbered).threads thread runs) (Nat.not_lt.2 unstarted)
    · have same : next.world.attachmentsOf thread = scene.world.attachmentsOf thread := by
        rw [World.attachmentsOf, attachments,
          List.filter_cons_of_neg (by simpa using Ne.symm here), World.attachmentsOf]
      refine ⟨same ▸ before.once, fun owner' bound => ?_, fun runs none => ?_,
        fun unstarted => ?_⟩
      · have alive := unended (running_of_owner? bound)
        rw [others thread here] at bound
        rw [same, name_of_perform? run performed (running_of_owner? bound) alive]
        exact before.bound owner' bound
      · rw [others thread here] at none
        rw [same, unbound runs none]
      · rw [same]
        exact before.unstarted (turn.started_le.trans unstarted)

/-- While no context is put in place of another one, each thread is given one at most. -/
theorem attachedOnce_of_lawful (lawful : Lawful Unattached .empty past scene)
    (thread : ThreadId) : AttachedOnce scene.world thread := by
  induction lawful with
  | refl => exact ⟨Nat.zero_le _, nofun, nofun, fun _ => rfl⟩
  | tail before performed obeys ih => exact ih.perform? before.path performed obeys

end Runs

/-- Contexts are the business of their threads, in a scene to which a run leads. -/
structure Private (past : History) (scene : Scene α) : Prop where
  /-- A step in which a thread acts, with everything inside of it and however it ends, leaves other
  threads alone, and of the thread's own context what it neither renews nor edits by hand. -/
  steps : ∀ (world : World α) (step : Step α) (thread : ThreadId), step.actor? = some thread →
    Confined thread (step.requests world) (step.tells world) world (world.step step).1
  /-- A move changes threads and snapshots as it tells. -/
  moves : ∀ (move : Move α) (next : Scene α) (told : History),
    scene.perform? move = some (next, told) → Renewed scene move told next
  /-- If nobody ever put a context in place of another, each thread was given at most one. -/
  once : Lawful Unattached .empty past scene →
    ∀ thread, AttachedOnce scene.world thread
  /-- A thread is given its context when it first needs one. -/
  occasions : ∀ (move : Move α) (next : Scene α) (told : History),
    scene.perform? move = some (next, told) → Unattached scene move told →
      Attaching scene move told next
  /-- Questions, descriptions, copies of snapshots and accesses to values that are not watched
  leave threads, values and detectors alone, but for contents that are stored. -/
  bystanders : ∀ (world : World α) (thread : ThreadId) (action : Action α),
    world.threads.contains thread = true →
      action.bystands (fun value => !world.watches value) = true →
        LeftAlone (action.stores thread world) world (action.run thread world).1

/-- Thread contexts are private, after every run. -/
theorem contexts_private {past : History} {scene : Scene α} (run : Run past scene) :
    Private past scene where
  steps := fun world step _ acts => confined_of_step world step acts
  moves := fun _ _ _ performed => renewed_of_run run performed
  once := fun lawful thread => attachedOnce_of_lawful lawful thread
  occasions := fun _ _ _ performed obeys => attaching_of_run run performed obeys
  bystanders := fun _ _ _ runs bystands => leftAlone_run runs bystands

/-- A thread that drops its snapshot of a value changes it without accessing the value or entering a
section on it; and a thread that writes to a value that is not watched changes the content. -/
theorem snapshot_changed_by_hand :
    (∃ (world : World Nat) (step : Step Nat), step.actor? = some ⟨0⟩ ∧
        (∀ happening ∈ step.tells world, happening.renews ⟨0⟩ ⟨0⟩ = false) ∧
        world.snapshot? ⟨0⟩ ⟨0⟩ = some (.ofList [(⟨⟨0⟩, .read⟩, 1)]) ∧
        (world.step step).1.snapshot? ⟨0⟩ ⟨0⟩ = none) ∧
      ∃ world : World Nat, world.watches ⟨0⟩ = false ∧ world.payload? ⟨0⟩ = some 0 ∧
        ((Action.write ⟨0⟩ 1).run ⟨0⟩ world).1.payload? ⟨0⟩ = some 1 := by
  refine ⟨⟨World.empty.after [.spawn none false, .newValue 0 none none, .act ⟨0⟩ (.read ⟨0⟩)],
    .act ⟨0⟩ (.context (.forget ⟨0⟩)), rfl, by decide, rfl, rfl⟩,
    ⟨World.empty.after [.spawn none false,
      .newDetector (some "[race_detection]\nenabled = false"), .newValue 0 (some ⟨0⟩) none],
    by decide +kernel, by decide +kernel, by decide +kernel⟩⟩

/-- Two threads without contexts share a value. The first one has accessed it; when the second one
does, it is given its context, and the first one keeps its own. -/
theorem contexts_private_of_first_access :
    ∃ (past : History) (scene next : Scene Nat) (told : History) (state : ThreadState),
      Run past scene ∧ Lawful Unattached .empty past scene ∧
        scene.world.attachmentsOf ⟨0⟩ = [(⟨0⟩, none)] ∧ AttachedOnce scene.world ⟨0⟩ ∧
        scene.world.owner? ⟨1⟩ = none ∧
        scene.perform? (.access ⟨1⟩ ⟨0⟩ .write) = some (next, told) ∧
        Attaching scene (.access ⟨1⟩ ⟨0⟩ .write) told next ∧
        next.world.owner? ⟨1⟩ = some (⟨1⟩, none) ∧
        scene.world.threads.get? ⟨0⟩ = some state ∧ next.world.threads.get? ⟨0⟩ = some state := by
  obtain ⟨past, scene, next, told, state, lawful, once, blank, performed, owner, first, unended⟩ :
      ∃ (past : History) (scene next : Scene Nat) (told : History) (state : ThreadState),
        Lawful Unattached .empty past scene ∧
          scene.world.attachmentsOf ⟨0⟩ = [(⟨0⟩, none)] ∧ scene.world.owner? ⟨1⟩ = none ∧
          scene.perform? (.access ⟨1⟩ ⟨0⟩ .write) = some (next, told) ∧
          next.world.owner? ⟨1⟩ = some (⟨1⟩, none) ∧
          scene.world.threads.get? ⟨0⟩ = some state ∧ .ended ⟨0⟩ ∉ told := by
    refine ⟨_, _, _, _, _, Lawful.refl.playOut? [.step (.spawn none false),
      .step (.spawn none false), .step (.newValue 7 none none), .access ⟨0⟩ ⟨0⟩ .read,
      .finish ⟨0⟩ id] ?_ rfl, rfl, rfl, rfl, rfl, rfl, by decide⟩
    simp only [List.forall_mem_cons]
    exact ⟨fun _ _ => trivial, fun _ _ => trivial, fun _ _ => trivial, fun _ _ => trivial,
      fun _ _ => trivial, nofun⟩
  have priv := contexts_private lawful.path
  exact ⟨past, scene, next, told, state, lawful.path, lawful, once, priv.once lawful ⟨0⟩, blank,
    performed, priv.occasions _ _ _ performed trivial, owner, first,
    (priv.moves _ _ _ performed).others ⟨0⟩ state (by decide) first unended⟩

end RaceSentry
