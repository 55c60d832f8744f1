import RaceSentry.Proofs.Reentry
import RaceSentry.Proofs.Staleness

/-!
# Accesses that are cut short

A thread that works on its context can neither enter sections nor access values that are watched:
both want the context. A section entry asks for the context before it changes anything. An access
counts itself in the clock table of its value first, and is refused the context afterwards, when its
count would be copied into the snapshot. So the count stays without a copy, and the thread is behind
with its own accesses. The accesses of the other kind that it makes later are flagged against it,
until it makes another one of the same kind, or enters a section.
Main statement: `stalled_access_stays_counted`.
-/

namespace RaceSentry

open World

variable {α : Type}

section Engaged

variable {past : History} {scene next : Scene α} {move : Move α} {happenings : List Happening}
  {thread : ThreadId}

/-- A thread is inside of work on its context once while the context is in use, and not at all
otherwise. -/
def Scene.Engaged (scene : Scene α) (thread : ThreadId) : Prop :=
  (scene.frames thread).count .context = (scene.world.thread thread).contextInUse.toNat

namespace Scene

/-- A thread that goes into something is inside of it, and of all that it was inside of. -/
theorem frames_into (world : World α) (frame : Frame) :
    (scene.into world thread frame).frames thread = frame :: scene.frames thread := if_pos rfl

/-- A thread that comes out of something is inside of the rest. -/
theorem frames_become (world : World α) (rest : List Frame) :
    (scene.become world thread rest).frames thread = rest := if_pos rfl

/-- A thread that goes into something else goes on with its work on the context. -/
theorem Engaged.into {world : World α} {frame : Frame} (engaged : scene.Engaged thread)
    (other : frame ≠ .context)
    (same : (world.thread thread).contextInUse = (scene.world.thread thread).contextInUse) :
    (scene.into world thread frame).Engaged thread := by
  rw [Engaged, frames_into, List.count_cons_of_ne other]
  exact engaged.trans (congrArg Bool.toNat same.symm)

/-- It goes on with it when it comes out of something else. -/
theorem Engaged.become {world : World α} {frame : Frame} {rest : List Frame}
    (engaged : scene.Engaged thread) (frames : scene.frames thread = frame :: rest)
    (other : frame ≠ .context)
    (same : (world.thread thread).contextInUse = (scene.world.thread thread).contextInUse) :
    (scene.become world thread rest).Engaged thread := by
  rw [Engaged, frames, List.count_cons_of_ne other] at engaged
  rw [Engaged, frames_become]
  exact engaged.trans (congrArg Bool.toNat same.symm)

/-- It goes on with it where it is. -/
theorem Engaged.stays (engaged : scene.Engaged thread) (frames : next.frames thread =
      scene.frames thread)
    (same : (next.world.thread thread).contextInUse =
      (scene.world.thread thread).contextInUse) : next.Engaged thread := by
  rw [Engaged, frames]
  exact engaged.trans (congrArg Bool.toNat same.symm)

/-- What a thread does keeps it engaged as it should be. -/
theorem Outcome.engaged (outcome : scene.Outcome move next happenings)
    (mover : move.thread? = some thread) (runs : scene.world.threads.contains thread = true)
    (engaged : scene.Engaged thread) : next.Engaged thread := by
  have bound (world : World α) (context : ThreadContext) :
      ((world.bindContext thread context).thread thread).contextInUse =
        (world.thread thread).contextInUse := by
    rw [thread_bindContext, if_pos rfl]
  have put (world : World α) (state : ThreadState) :
      ((world.setThread thread state).thread thread).contextInUse = state.contextInUse := by
    rw [thread_setThread, if_pos rfl]
  cases outcome with
  | access asked =>
    cases mover
    obtain ⟨_, faulted, _⟩ | ⟨_, _, _, later, _, _, _, _, unseen, rfl⟩ := asked.seen runs
    · cases faulted
    · exact engaged.into nofun (unseen.contextInUse thread).symm
  | stall asked =>
    cases mover
    exact engaged.stays rfl ((unseen_of_asksAccess runs asked).contextInUse thread).symm
  | reenter asked =>
    cases mover
    exact engaged.stays rfl ((unseen_of_asksAccess runs asked).contextInUse thread).symm
  | finish change frames =>
    cases mover
    exact engaged.become frames nofun rfl
  | enter asked =>
    cases mover
    obtain ⟨_, faulted, _⟩ | ⟨_, _, _, later, _, _, _, _, unseen, rfl⟩ := asked.seen runs
    · cases faulted
    · exact engaged.into nofun (unseen.contextInUse thread).symm
  | refuseEnter asked =>
    cases mover
    exact engaged.stays rfl ((unseen_of_asksSection runs asked).contextInUse thread).symm
  | leave frames =>
    cases mover
    exact engaged.become frames nofun rfl
  | hold asked =>
    cases mover
    obtain ⟨_, faulted, _⟩ | ⟨_, _, _, later, _, _, _, _, unseen, rfl⟩ := asked.seen runs
    · cases faulted
    · exact engaged.stays rfl ((put _ _).trans (unseen.contextInUse thread).symm)
  | refuseHold asked =>
    cases mover
    exact engaged.stays rfl ((unseen_of_asksSection runs asked).contextInUse thread).symm
  | drop member =>
    cases mover
    exact engaged.stays rfl (put _ _)
  | openContext idle =>
    cases mover
    have opened : ((scene.world.openContext thread).1.thread thread).contextInUse = true := by
      unfold World.openContext
      rw [if_neg (by simp [idle])]
      exact put _ _
    rw [Engaged, idle] at engaged
    rw [Engaged, frames_into, List.count_cons_self, engaged]
    exact congrArg Bool.toNat opened.symm
  | refuseContext inUse => exact engaged
  | @closeContext thread rest frames =>
    cases mover
    have closed : ((scene.world.closeContext thread).thread thread).contextInUse = false := put _ _
    rw [Engaged, frames, List.count_cons_self] at engaged
    have once := Bool.toNat_le (scene.world.thread thread).contextInUse
    have nothing : rest.count .context = false.toNat := by
      rw [Bool.toNat_false]
      omega
    rw [Engaged, frames_become, nothing]
    exact congrArg Bool.toNat closed.symm
  | edit change stored inUse known =>
    cases mover
    exact engaged.stays rfl (bound _ _)
  | attach known idle =>
    cases mover
    exact engaged.stays rfl (bound _ _)
  | refuseAttach known inUse => exact engaged
  | look found admitted free => exact engaged
  | refuseLook found admitted borrowed => exact engaged
  | step acts outside => cases mover

/-- What others do does not concern the work of a thread on its context; a thread begins, and ends,
without any. -/
theorem Outcome.engaged_of_ne (outcome : scene.Outcome move next happenings)
    (still : move.thread? ≠ some thread)
    (new : scene.world.started ≤ thread.index → scene.frames thread = [])
    (engaged : scene.Engaged thread) : next.Engaged thread := by
  have frames := outcome.frames_of_ne still
  cases mover : move.thread? with
  | some other =>
    have different : thread ≠ other := by
      rintro rfl
      exact still mover
    refine engaged.stays frames ?_
    rw [World.thread, outcome.others mover different, World.thread]
  | none =>
    have alone (world : World α) (outside : scene.frames thread = [])
        (idle : (world.thread thread).contextInUse = false) :
        (scene.withWorld world).Engaged thread := by
      change (scene.frames thread).count _ = (world.thread thread).contextInUse.toNat
      rw [outside, idle]
      rfl
    cases outcome with
    | @step step acts outside =>
      obtain ⟨same, -, -⟩ | ⟨name, attach, -, -, same⟩ | ⟨other, ends, -, same⟩ :=
        threads_of_step scene.world acts
      · refine engaged.stays rfl ?_
        change ((scene.world.step step).1.thread thread).contextInUse = _
        rw [World.thread, same, World.thread]
      · rw [same]
        by_cases here : thread = ⟨scene.world.started⟩
        · subst here
          exact alone _ (new (Nat.le_refl _)) (contextInUse_spawn _ name attach)
        · refine engaged.stays rfl ?_
          change ((scene.world.spawn name attach).1.thread thread).contextInUse = _
          rw [World.thread, get?_spawn _ _ _ here, World.thread]
      · rw [same]
        by_cases here : thread = other
        · subst here
          refine alone _ (outside thread ends) ?_
          rw [thread_endThread, if_pos rfl]
          rfl
        · refine engaged.stays rfl ?_
          change ((scene.world.endThread other).thread thread).contextInUse = _
          rw [thread_endThread, if_neg here]
    | _ => cases mover

end Scene

/-- In every run contexts are in use by threads that are inside of work on them. -/
theorem engaged_of_run (run : Run past scene) (thread : ThreadId) : scene.Engaged thread := by
  induction run with
  | refl => rfl
  | @tail past happenings scene next move path performed ih =>
    obtain ⟨runs, outcome⟩ := Scene.perform?_eq_some_iff.1 performed
    by_cases mover : move.thread? = some thread
    · rw [mover] at runs
      exact outcome.engaged mover runs ih
    · exact outcome.engaged_of_ne mover (frames_of_unstarted path) ih

/-- The context of a thread is in use while the thread is inside of work on it. -/
theorem inUse_of_mem_frames (run : Run past scene) (inside : .context ∈ scene.frames thread) :
    (scene.world.thread thread).contextInUse = true := by
  have engaged := engaged_of_run run thread
  cases busy : (scene.world.thread thread).contextInUse with
  | true => rfl
  | false =>
    rw [Scene.Engaged, busy] at engaged
    exact absurd inside (List.count_eq_zero.1 engaged)

end Engaged

namespace World

section Busy

variable {world : World α} {thread : ThreadId} {value : ValueId} {cell : Cell α} {lock : Lock}
  (found : world.cells.get? value = some cell) (taken : cell.lock.acquire? thread = some lock)
  (free : cell.borrowed = false) (busy : (world.thread thread).contextInUse = true)

include found taken free busy

/-- A section is refused, whatever its block would do. -/
theorem run_synchronized_of_inUse (route : Route) (body : List (Action α)) :
    (Action.synchronized value route body).run thread world =
      (world.note (.entering value cell.label cell.clock.size), .error .borrowed) :=
  (of_enterSection_faulted (enterSection_of_inUse world busy found taken free) route body).1

/-- A section is refused while its thread works on its context. -/
theorem enter_of_inUse : world.enter thread value =
    (world.note (.entering value cell.label cell.clock.size), .faulted .borrowed) := by
  simp only [World.enter, enterSection_of_inUse world busy found taken free]

variable (on : cell.detecting = true)

include on

/-- An access is counted and refused while its thread works on its context. -/
theorem beginAccess_of_inUse (kind : AccessKind) : world.beginAccess thread value kind =
    (world.countAccess value cell ⟨thread, kind⟩, .faulted .borrowed) :=
  (AsksAccess.stalled cell lock found taken free on busy).eq

/-- An access is counted and refused, whatever its closure would do. -/
theorem run_of_inUse {action : Action α} {kind : AccessKind}
    (accesses : action.accesses? = some (value, kind)) : action.run thread world =
      (world.countAccess value cell ⟨thread, kind⟩, .error .borrowed) :=
  (of_beginAccess_faulted (beginAccess_of_inUse found taken free busy on kind) accesses).1

end Busy

/-- An access of a key was counted in the clock table of a value. Nothing else is different but what
the journal tells. -/
structure Counted (world next : World α) (value : ValueId) (key : AccessKey) : Prop where
  /-- The same threads run, with the same contexts and snapshots and the same sections open. -/
  threads : next.threads = world.threads
  /-- As many threads were started. -/
  started : next.started = world.started
  /-- The value has one more access in its clock table, and the content, the lock and the racing
  threads that it had; all other values are as they were. -/
  cells : ∀ other, next.cells.get? other = (world.cells.get? other).map fun cell =>
    if other = value then { cell with clock := cell.clock.increment key } else cell
  /-- As many values were made. -/
  made : next.made = world.made
  /-- Every ledger and every channel is as it was. -/
  detectors : next.detectors = world.detectors
  /-- The same receivers take from channels. -/
  receivers : next.receivers = world.receivers

/-- An access that is counted changes the clock table of its value alone. -/
theorem counted_countAccess {world : World α} {value : ValueId} {cell : Cell α}
    (found : world.cells.get? value = some cell) (key : AccessKey) :
    Counted world (world.countAccess value cell key) value key where
  threads := rfl
  started := rfl
  cells := fun other => by
    change (world.cells.insert value (cell.count key)).get? other = _
    rw [SortedMap.get?_insert]
    split
    · rename_i here
      rw [here, found]
      rfl
    · exact Option.map_id'.symm ▸ rfl
  made := rfl
  detectors := rfl
  receivers := rfl

/-- What a thread has seen of the accesses of a key is what the clock table of the value has. -/
def Agrees (world : World α) (value : ValueId) (key : AccessKey) : Prop :=
  ((world.snapshot? key.thread value).getD ∅).get? key = (world.clockOf value).get? key

instance (world : World α) (value : ValueId) (key : AccessKey) :
    Decidable (world.Agrees value key) :=
  inferInstanceAs (Decidable (_ = _))

/-- A thread falls behind with the accesses of a key that are counted without being seen, and with
no others. -/
theorem agrees_countAccess_iff {world : World α} {value : ValueId} {cell : Cell α}
    (found : world.cells.get? value = some cell) {key other : AccessKey}
    (agrees : world.Agrees value other) :
    (world.countAccess value cell key).Agrees value other ↔ other ≠ key := by
  have clock : (world.countAccess value cell key).clockOf value = cell.clock.increment key := by
    rw [clockOf, (counted_countAccess found key).cells, found, Option.map_some, if_pos rfl]
    rfl
  have before : world.clockOf value = cell.clock := by
    rw [clockOf, found]
    rfl
  rw [Agrees, before] at agrees
  rw [Agrees, clock, ClockTable.get?_increment]
  change ((world.snapshot? other.thread value).getD ∅).get? other = _ ↔ _
  rw [agrees]
  split
  · rename_i same
    refine iff_of_false (fun counted => ?_) fun different => different same
    rw [same, ClockTable.next] at counted
    have numbers := congrArg (Option.getD · 0) counted
    simp only [Option.getD_some] at numbers
    omega
  · rename_i different
    exact iff_of_true rfl different

end World

section Blame

variable {past told : History} {scene next : Scene α} {move : Move α}
  {happenings : List Happening} {thread : ThreadId} {value : ValueId} {kind kind' : AccessKind}

/-- There are only two kinds of accesses. -/
theorem AccessKind.eq_of_ne {first second third : AccessKind} (different : first ≠ third)
    (different' : second ≠ third) : first = second := by
  cases first with
  | read =>
    cases second with
    | read => rfl
    | write =>
      cases third with
      | read => exact absurd rfl different
      | write => exact absurd rfl different'
  | write =>
    cases second with
    | write => rfl
    | read =>
      cases third with
      | read => exact absurd rfl different'
      | write => exact absurd rfl different

/-- An access is flagged, and accesses of a key stand against it. -/
def Blames (sighting : Option Sighting) (key : AccessKey) : Prop :=
  ∃ flagged, sighting = some flagged ∧ ∃ conflict ∈ flagged.candidates, conflict.key = key

/-- Accesses of a thread stand against another one of it exactly if they are of the other kind, and
the thread lost their number. -/
theorem blames_own_iff (run : Run past scene) (forgetful : past.Forgetful)
    (performed : scene.perform? move = some (next, happenings)) {sighting : Option Sighting}
    (told : .accessed thread value kind' sighting ∈ happenings) (kind : AccessKind) :
    Blames sighting ⟨thread, kind⟩ ↔ kind ≠ kind' ∧ past.Lost thread value kind := by
  obtain ⟨standing, stands, on, alive, -, candidates⟩ := exists_candidate_iff run performed told
  have own : _ ↔ ∃ other, other ≠ kind' ∧ past.Lost thread value other :=
    exists_own_conflict_iff run forgetful alive stands on
  refine (candidates fun conflict => conflict.key = ⟨thread, kind⟩).trans ?_
  constructor
  · rintro ⟨conflict, member, same⟩
    have different : kind ≠ kind' := by
      rintro rfl
      exact ((Standing.mem_verdict_iff on).1 member).1 same
    obtain ⟨other, different', lost⟩ := own.1 ⟨conflict, member, by rw [same]⟩
    rw [AccessKind.eq_of_ne different' different] at lost
    exact ⟨different, lost⟩
  · rintro ⟨different, lost⟩
    obtain ⟨⟨⟨_, other⟩, _, _⟩, member, rfl⟩ := own.2 ⟨kind, different, lost⟩
    have different' : other ≠ kind' := by
      rintro rfl
      exact ((Standing.mem_verdict_iff on).1 member).1 rfl
    exact ⟨_, member, congrArg (AccessKey.mk _) (AccessKind.eq_of_ne different' different)⟩

/-- What was lost stays lost until it is restored. -/
theorem History.Lost.later (lost : past.Lost thread value kind)
    (unrestored : ∀ happening ∈ told, happening.restores thread value kind = false) :
    History.Lost (told ++ past) thread value kind := by
  obtain ⟨attempted, happening, member, loses⟩ := lost
  refine ⟨?_, happening, ?_, loses⟩
  · rw [attempts_append]
    exact List.mem_append_right _ attempted
  · rw [List.takeWhile_append_of_pos fun other within => by simp [unrestored other within]]
    exact List.mem_append_right _ member

/-- What is restored stays so until the thread has another access of the kind cut short, if nobody
edits contexts. -/
theorem History.not_lost_of_restored {newer older : History} {happening : Happening}
    (restores : happening.restores thread value kind = true)
    (unedited : History.Unedited (newer ++ happening :: older))
    (smooth : .stalled thread value kind ∉ newer) :
    ¬ History.Lost (newer ++ happening :: older) thread value kind := by
  rintro ⟨-, found, member, loses⟩
  -- What was lost was lost after it was restored.
  have since : found ∈ newer := by
    induction newer with
    | nil =>
      rw [List.nil_append, List.takeWhile_cons_of_neg (by simp [restores])] at member
      cases member
    | cons first newer ih =>
      rw [List.cons_append, List.takeWhile_cons] at member
      split at member
      · rcases List.mem_cons.1 member with rfl | member
        · exact List.mem_cons_self
        · refine List.mem_cons_of_mem _ (ih (fun other context within => ?_)
            (fun within => smooth (List.mem_cons_of_mem _ within)) member)
          exact unedited other context (List.mem_cons_of_mem _ within)
      · cases member
  cases found with
  | edited other context => exact unedited other context (List.mem_append_left _ since)
  | stalled other target kind' =>
    obtain ⟨rfl, rfl, rfl⟩ := of_decide_eq_true loses
    exact smooth since
  | _ => cases loses

/-- An access that is cut short is no edit. -/
theorem History.Unedited.stalled (unedited : History.Unedited (told ++ past)) (thread : ThreadId)
    (value : ValueId) (kind : AccessKind) :
    History.Unedited (told ++ .stalled thread value kind :: past) := by
  intro other context member
  rcases List.mem_append.1 member with member | member
  · exact unedited other context (List.mem_append_left _ member)
  · refine unedited other context (List.mem_append_right _ ?_)
    exact (List.mem_cons.1 member).resolve_left nofun

/-- A thread has lost the number of its accesses of a kind when one of them was cut short. -/
theorem History.lost_stalled (past : History) (thread : ThreadId) (value : ValueId)
    (kind : AccessKind) :
    History.Lost (.stalled thread value kind :: past) thread value kind := by
  have attempted : (Happening.stalled thread value kind).attempt? value = some ⟨thread, kind⟩ :=
    if_pos rfl
  refine lost_cons_of_loses (decide_eq_true ⟨rfl, rfl, rfl⟩) ?_
  rw [attempts_cons_of_eq attempted]
  exact List.mem_cons_self

end Blame

/-- What comes of an access that a thread asks for while it works on its context. -/
structure StaysCounted (past : History) (scene : Scene α) (thread : ThreadId) (value : ValueId)
    (kind : AccessKind) (next : World α) : Prop where
  /-- Every action that makes the access is cut short, whatever closure it brings along. -/
  refused : ∀ action : Action α, action.accesses? = some (value, kind) →
    action.run thread scene.world = (next, .error .borrowed)
  /-- Everybody stays inside of what they are in. -/
  stays : scene.perform? (.access thread value kind) =
    some (scene.withWorld next, [.stalled thread value kind])
  /-- The access is counted, and nothing else is different. -/
  counted : Counted scene.world next value ⟨thread, kind⟩
  /-- The thread falls behind with its accesses of the kind, and nobody with any others. -/
  behind : ∀ key, scene.world.Agrees value key →
    (next.Agrees value key ↔ key ≠ ⟨thread, kind⟩)
  /-- Until the thread makes another access of the kind, or enters a section, its accesses of the
  other kind are flagged for it, if nobody edits contexts. -/
  blamed : ∀ told later, Path (scene.withWorld next) told later → History.Unedited (told ++ past) →
    (∀ happening ∈ told, happening.restores thread value kind = false) →
      ∀ move after happenings kind' sighting,
        later.perform? move = some (after, happenings) →
        .accessed thread value kind' sighting ∈ happenings →
          (Blames sighting ⟨thread, kind⟩ ↔ kind ≠ kind')
  /-- Afterwards they are not, unless another access is cut short. -/
  forgiven : ∀ newer happening older later,
    Path (scene.withWorld next) (newer ++ happening :: older) later →
    History.Unedited ((newer ++ happening :: older) ++ past) →
    happening.restores thread value kind = true → .stalled thread value kind ∉ newer →
      ∀ move after happenings kind' sighting,
        later.perform? move = some (after, happenings) →
        .accessed thread value kind' sighting ∈ happenings → ¬ Blames sighting ⟨thread, kind⟩

/-- What comes of a section that a thread asks for while it works on its context. -/
structure StaysOut (scene : Scene α) (thread : ThreadId) (value : ValueId) (next : World α) :
    Prop where
  /-- The entry is refused by every route, whatever the block would do. -/
  refused : ∀ (route : Route) (body : List (Action α)),
    (Action.synchronized value route body).run thread scene.world = (next, .error .borrowed)
  /-- It is refused as well if the section would outlast the action. -/
  held : scene.world.enter thread value = (next, .faulted .borrowed)
  /-- Everybody stays inside of what they are in. -/
  stays : ∀ move : Move α, move = .enter thread value ∨ move = .hold thread value →
    scene.perform? move = some (scene.withWorld next, [])
  /-- Nothing is different but what the journal tells. -/
  untouched : Untouched scene.world next

section Main

variable {past : History} {scene : Scene α} {thread : ThreadId} {value : ValueId}
  {cell : Cell α} {lock : Lock}

/-- An access that a thread asks for while it works on its context is cut short but counted, so that
the thread is flagged for it later on; a section is refused without a trace. -/
theorem stalled_access_stays_counted (run : Run past scene)
    (inside : .context ∈ scene.frames thread)
    (found : scene.world.cells.get? value = some cell) (on : cell.detecting = true)
    (taken : cell.lock.acquire? thread = some lock) (free : cell.borrowed = false) :
    (∀ kind, ∃ next, StaysCounted past scene thread value kind next) ∧
      ∃ next, StaysOut scene thread value next := by
  have runs := runs_of_frames run (List.ne_nil_of_mem inside)
  have busy := inUse_of_mem_frames run inside
  refine ⟨fun kind => ⟨scene.world.countAccess value cell ⟨thread, kind⟩, ?_⟩,
    scene.world.note (.entering value cell.label cell.clock.size), ?_⟩
  · have asked : scene.world.AsksAccess thread value kind _ (.faulted .borrowed) :=
      .stalled cell lock found taken free on busy
    have performed := Scene.Outcome.perform? (.stall asked) rfl runs
    have stalled : Run (.stalled thread value kind :: past) _ := run.tail performed
    refine ⟨fun action accesses => run_of_inUse found taken free busy on accesses, performed,
      counted_countAccess found _, fun key agrees => agrees_countAccess_iff found agrees,
      fun told later path unedited unrestored => ?_,
      fun newer happening older later path unedited restores smooth => ?_⟩
    · intro move after happenings kind' sighting accessed member
      have calm := unedited.stalled thread value kind
      rw [blames_own_iff (stalled.trans path) calm.forgetful accessed member]
      exact and_iff_left ((History.lost_stalled past thread value kind).later unrestored)
    · intro move after happenings kind' sighting accessed member
      have calm := unedited.stalled thread value kind
      rw [blames_own_iff (stalled.trans path) calm.forgetful accessed member]
      rintro ⟨-, lost⟩
      rw [List.append_assoc, List.cons_append] at calm lost
      exact History.not_lost_of_restored restores calm smooth lost
  · have asked : scene.world.AsksSection thread value _ (.faulted .borrowed) :=
      .stalled cell lock found taken free busy
    refine ⟨run_synchronized_of_inUse found taken free busy, enter_of_inUse found taken free busy,
      ?_, ⟨rfl, rfl, rfl, rfl, rfl, rfl⟩⟩
    rintro move (rfl | rfl)
    · exact Scene.Outcome.perform? (.refuseEnter asked) rfl runs
    · exact Scene.Outcome.perform? (.refuseHold asked) rfl runs

/-- A thread that has written a value, and is inside of a section on it and then of work on its
context, writes it again and tries to enter a second section. -/
theorem stalled_access_stays_counted_of_write :
    ∃ (past : History) (scene : Scene Nat) (cell : Cell Nat) (lock : Lock), Run past scene ∧
      .context ∈ scene.frames ⟨0⟩ ∧ scene.world.cells.get? ⟨0⟩ = some cell ∧
      cell.detecting = true ∧ cell.lock.acquire? ⟨0⟩ = some lock ∧ cell.borrowed = false ∧
      (∃ next, StaysCounted past scene ⟨0⟩ ⟨0⟩ .write next) ∧
      ∃ next, StaysOut scene ⟨0⟩ ⟨0⟩ next := by
  obtain ⟨past, scene, cell, lock, run, inside, found, on, taken, free⟩ :
      ∃ (past : History) (scene : Scene Nat) (cell : Cell Nat) (lock : Lock), Run past scene ∧
        .context ∈ scene.frames ⟨0⟩ ∧ scene.world.cells.get? ⟨0⟩ = some cell ∧
        cell.detecting = true ∧ cell.lock.acquire? ⟨0⟩ = some lock ∧ cell.borrowed = false :=
    ⟨_, _, _, _, Path.refl.playOut? [.step (.spawn none false), .step (.newDetector none),
      .step (.newValue 7 (some ⟨0⟩) none), .access ⟨0⟩ ⟨0⟩ .write, .finish ⟨0⟩ Nat.succ,
      .enter ⟨0⟩ ⟨0⟩, .openContext ⟨0⟩] rfl, .head _, rfl, rfl, rfl, rfl⟩
  have cut := stalled_access_stays_counted run inside found on taken free
  exact ⟨past, scene, cell, lock, run, inside, found, on, taken, free, cut.1 .write, cut.2⟩

/-- The only thread writes a value, and once more while it works on its context. The second write is
cut short, but the thread has fallen behind with its own writes, and when it reads the value later
on it is flagged. So a failed access leaves a trace. -/
theorem own_read_flagged_after_stalled_write :
    ∃ (past : History) (scene next later after : Scene Nat) (sighting : Sighting),
      Run past scene ∧ .context ∈ scene.frames ⟨0⟩ ∧ scene.world.watches ⟨0⟩ = true ∧
        scene.perform? (.access ⟨0⟩ ⟨0⟩ .write) = some (next, [.stalled ⟨0⟩ ⟨0⟩ .write]) ∧
        next.world.clockOf ⟨0⟩ ≠ scene.world.clockOf ⟨0⟩ ∧
        scene.world.Agrees ⟨0⟩ ⟨⟨0⟩, .write⟩ ∧ ¬ next.world.Agrees ⟨0⟩ ⟨⟨0⟩, .write⟩ ∧
        next.perform? (.closeContext ⟨0⟩) = some (later, []) ∧
        later.perform? (.access ⟨0⟩ ⟨0⟩ .read) =
          some (after, [.accessed ⟨0⟩ ⟨0⟩ .read (some sighting)]) :=
  ⟨_, _, _, _, _, _, Path.refl.playOut? [.step (.spawn none false), .step (.newDetector none),
    .step (.newValue 7 (some ⟨0⟩) none), .access ⟨0⟩ ⟨0⟩ .write, .finish ⟨0⟩ Nat.succ,
    .openContext ⟨0⟩] rfl, .head _, rfl, rfl, by decide, by decide, by decide, rfl, rfl⟩

end Main

end RaceSentry
