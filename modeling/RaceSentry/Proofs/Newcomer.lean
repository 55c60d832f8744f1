import Mathlib.Data.List.TakeWhile
import RaceSentry.Proofs.Attempts
import RaceSentry.Proofs.Privacy
import RaceSentry.Proofs.Seclusion

/-!
# Newcomers, and threads left alone

A thread that was not started yet is inside of nothing, and has done and seen nothing, so it knows
every value. A context is in use only while its thread is inside of work on it. And while a thread
has a section open on a value, no other thread attempts an access to it.
Main statements: `frames_of_unstarted`, `knows_of_unstarted`, `mem_frames_of_inUse` and
`alone_of_run`.
-/

namespace RaceSentry

open World

variable {α : Type} {past : History} {scene next : Scene α} {move : Move α}
  {happenings : List Happening} {thread : ThreadId} {value : ValueId}

/-- A thread does not begin with work on its context. -/
theorem World.contextInUse_spawn (world : World α) (name : Option String) (attach : Bool) :
    ((world.spawn name attach).1.thread ⟨world.started⟩).contextInUse = false := by
  have begun : ((world.startThread name).thread ⟨world.started⟩).contextInUse = false := by
    change ((world.setThread ⟨world.started⟩ (.new name)).thread _).contextInUse = false
    rw [thread_setThread, if_pos rfl]
    rfl
  rw [spawn_eq]
  split
  · rw [thread_bindContext, if_pos rfl]
    exact begun
  · exact begun

namespace Scene

/-- What a thread is inside of changes by its own moves only. -/
theorem Outcome.frames_of_ne (outcome : scene.Outcome move next happenings)
    (still : move.thread? ≠ some thread) : next.frames thread = scene.frames thread := by
  have aside {other : ThreadId} (mover : move.thread? = some other) : thread ≠ other := by
    rintro rfl
    exact still mover
  cases outcome with
  | access asked => exact if_neg (aside rfl)
  | finish change frames => exact if_neg (aside rfl)
  | enter asked => exact if_neg (aside rfl)
  | leave frames => exact if_neg (aside rfl)
  | openContext idle => exact if_neg (aside rfl)
  | closeContext frames => exact if_neg (aside rfl)
  | _ => rfl

/-- Whether a context is in use changes by moves of its thread only, but for the end of the
thread. -/
theorem Outcome.inUse_of_ne (outcome : scene.Outcome move next happenings)
    (still : move.thread? ≠ some thread)
    (busy : (next.world.thread thread).contextInUse = true) :
    (scene.world.thread thread).contextInUse = true := by
  cases mover : move.thread? with
  | some other =>
    have different : thread ≠ other := by
      rintro rfl
      exact still mover
    rwa [World.thread, outcome.others mover different] at busy
  | none =>
    cases outcome with
    | step acts outside =>
      obtain ⟨same, -, -⟩ | ⟨name, attach, -, -, same⟩ | ⟨other, -, -, same⟩ :=
        threads_of_step scene.world acts
      · change ((scene.world.step _).1.thread thread).contextInUse = true at busy
        rwa [World.thread, same] at busy
      · change ((scene.world.step _).1.thread thread).contextInUse = true at busy
        rw [same] at busy
        by_cases here : thread = ⟨scene.world.started⟩
        · subst here
          rw [contextInUse_spawn] at busy
          cases busy
        · rwa [World.thread, get?_spawn _ _ _ here] at busy
      · change ((scene.world.step _).1.thread thread).contextInUse = true at busy
        rw [same, thread_endThread] at busy
        split at busy
        · cases busy
        · exact busy
    | _ => cases mover

/-- A thread that works on its context goes on with this work inside of something else. -/
theorem mem_frames_into {world : World α} {frame : Frame}
    (before : (scene.world.thread thread).contextInUse = true → .context ∈ scene.frames thread)
    (same : (world.thread thread).contextInUse = (scene.world.thread thread).contextInUse)
    (busy : (world.thread thread).contextInUse = true) :
    .context ∈ (scene.into world thread frame).frames thread := by
  change .context ∈ if thread = thread then frame :: scene.frames thread else _
  rw [if_pos rfl]
  exact List.mem_cons_of_mem _ (before (same.symm.trans busy))

/-- It goes on with this work when it comes out of something else. -/
theorem mem_frames_become {world : World α} {frame : Frame} {rest : List Frame}
    (before : (scene.world.thread thread).contextInUse = true → .context ∈ scene.frames thread)
    (frames : scene.frames thread = frame :: rest) (other : frame ≠ .context)
    (same : (world.thread thread).contextInUse = (scene.world.thread thread).contextInUse)
    (busy : (world.thread thread).contextInUse = true) :
    .context ∈ (scene.become world thread rest).frames thread := by
  change .context ∈ if thread = thread then rest else _
  rw [if_pos rfl]
  have inside := before (same.symm.trans busy)
  rw [frames] at inside
  exact (List.mem_cons.1 inside).resolve_left (Ne.symm other)

/-- A thread that works on its context is inside of this work, and stays so until it ends it. -/
theorem Outcome.mem_frames (outcome : scene.Outcome move next happenings)
    (mover : move.thread? = some thread) (runs : scene.world.threads.contains thread = true)
    (before : (scene.world.thread thread).contextInUse = true → .context ∈ scene.frames thread)
    (busy : (next.world.thread thread).contextInUse = true) : .context ∈ next.frames thread := by
  have bound (world : World α) (context : ThreadContext) :
      ((world.bindContext thread context).thread thread).contextInUse =
        (world.thread thread).contextInUse := by
    rw [thread_bindContext, if_pos rfl]
  cases outcome with
  | access asked =>
    cases mover
    obtain ⟨_, faulted, _⟩ | ⟨_, _, _, later, _, _, _, _, unseen, rfl⟩ := asked.seen runs
    · cases faulted
    · exact mem_frames_into before (unseen.contextInUse thread).symm busy
  | stall asked =>
    cases mover
    exact before (((unseen_of_asksAccess runs asked).contextInUse thread).trans busy)
  | reenter asked =>
    cases mover
    exact before (((unseen_of_asksAccess runs asked).contextInUse thread).trans busy)
  | finish change frames =>
    cases mover
    exact mem_frames_become before frames nofun rfl busy
  | enter asked =>
    cases mover
    obtain ⟨_, faulted, _⟩ | ⟨_, _, _, later, _, _, _, _, unseen, rfl⟩ := asked.seen runs
    · cases faulted
    · exact mem_frames_into before (unseen.contextInUse thread).symm busy
  | refuseEnter asked =>
    cases mover
    exact before (((unseen_of_asksSection runs asked).contextInUse thread).trans busy)
  | leave frames =>
    cases mover
    exact mem_frames_become before frames nofun rfl busy
  | hold asked =>
    cases mover
    obtain ⟨_, faulted, _⟩ | ⟨_, _, _, later, _, _, _, _, unseen, rfl⟩ := asked.seen runs
    · cases faulted
    · refine before ((unseen.contextInUse thread).trans ?_)
      change ((World.setThread _ _ _).thread thread).contextInUse = true at busy
      rwa [thread_setThread, if_pos rfl] at busy
  | refuseHold asked =>
    cases mover
    exact before (((unseen_of_asksSection runs asked).contextInUse thread).trans busy)
  | drop member =>
    cases mover
    refine before ?_
    change ((World.setThread _ _ _).thread thread).contextInUse = true at busy
    rwa [thread_setThread, if_pos rfl] at busy
  | openContext idle =>
    cases mover
    change .context ∈ if thread = thread then .context :: scene.frames thread else _
    rw [if_pos rfl]
    exact List.mem_cons_self
  | refuseContext inUse => exact before busy
  | closeContext frames =>
    cases mover
    change ((World.setThread _ _ _).thread thread).contextInUse = true at busy
    rw [thread_setThread, if_pos rfl] at busy
    cases busy
  | edit change stored inUse known =>
    cases mover
    exact before ((bound _ _).symm.trans busy)
  | attach known idle =>
    cases mover
    exact before ((bound _ _).symm.trans busy)
  | refuseAttach known inUse => exact before busy
  | look found admitted free => exact before busy
  | refuseLook found admitted borrowed => exact before busy
  | step acts outside => cases mover

end Scene

/-- A context is in use only while its thread is inside of work on it. -/
theorem mem_frames_of_inUse (run : Run past scene)
    (busy : (scene.world.thread thread).contextInUse = true) :
    .context ∈ scene.frames thread := by
  induction run with
  | refl => cases busy
  | @tail past happenings scene next move path performed ih =>
    obtain ⟨runs, outcome⟩ := Scene.perform?_eq_some_iff.1 performed
    by_cases mover : move.thread? = some thread
    · rw [mover] at runs
      exact outcome.mem_frames mover runs ih busy
    · rw [outcome.frames_of_ne mover]
      exact ih (outcome.inUse_of_ne mover busy)

/-- A thread that moves was started. -/
theorem Scene.index_lt_of_perform? (numbered : Numbered scene.world)
    (performed : scene.perform? move = some (next, happenings))
    (mover : move.thread? = some thread) : thread.index < scene.world.started := by
  obtain ⟨runs, -⟩ := Scene.perform?_eq_some_iff.1 performed
  rw [mover] at runs
  exact numbered.threads thread runs

/-- A thread that was not started yet is inside of nothing. -/
theorem frames_of_unstarted (run : Run past scene) (new : scene.world.started ≤ thread.index) :
    scene.frames thread = [] := by
  induction run with
  | refl => rfl
  | @tail past happenings scene next move path performed ih =>
    have numbered := numbered_of_run path
    have turn := Scene.turn_of_perform? numbered performed
    have before : scene.world.started ≤ thread.index := turn.started_le.trans new
    obtain ⟨-, outcome⟩ := Scene.perform?_eq_some_iff.1 performed
    rw [outcome.frames_of_ne fun mover => ?_]
    · exact ih before
    · exact absurd (Scene.index_lt_of_perform? numbered performed mover) (Nat.not_lt.2 before)

/-- The thread that does what happens. -/
def Happening.actor? : Happening → Option ThreadId
  | .made _ _ _ => none
  | .removed _ => none
  | .accessed thread _ _ _ => some thread
  | .stalled thread _ _ => some thread
  | .entered thread _ _ => some thread
  | .edited thread _ => some thread
  | .ended thread => some thread

namespace Happening

variable {happening : Happening}

/-- An attempt at an access is made by the thread of its key. -/
theorem actor?_of_attempt {kind : AccessKind}
    (attempted : happening.attempt? value = some ⟨thread, kind⟩) :
    happening.actor? = some thread := by
  have told := attempt?_eq_some_iff.1 attempted
  cases happening with
  | accessed other target kind sighting =>
    cases told
    rfl
  | stalled other target kind =>
    cases told
    rfl
  | _ => cases told

/-- An entry is made by its own thread. -/
theorem actor?_of_isEntry (entry : happening.isEntry thread value = true) :
    happening.actor? = some thread := by
  cases happening with
  | entered other target clock =>
    rw [isEntry, entryClock?, Option.isSome_ite] at entry
    rw [actor?, entry.1]
  | _ => cases entry

/-- What misleads a thread is done by itself. -/
theorem actor?_of_misleads {snapshot : Option ClockTable}
    (misleads : happening.Misleads thread value snapshot) : happening.actor? = some thread := by
  cases happening with
  | edited other context =>
    rw [actor?, misleads.1]
  | stalled other target kind =>
    rw [actor?, misleads.1]
  | _ => exact misleads.elim

end Happening

/-- Those that do something were started. -/
theorem index_lt_of_actor (run : Run past scene) {happening : Happening}
    (member : happening ∈ past) (actor : happening.actor? = some thread) :
    thread.index < scene.world.started := by
  refine (run_induction (fun past world => ∀ happening ∈ past, ∀ thread,
    happening.actor? = some thread → thread.index < world.started) nofun ?_ run).2
    happening member thread actor
  intro past world happenings next numbered before turn happening member thread actor
  refine Nat.lt_of_lt_of_le ?_ turn.started_le
  cases List.mem_append.1 member with
  | inr earlier => exact before happening earlier thread actor
  | inl told =>
    refine numbered.threads thread ?_
    have fits := turn.fits happening told
    cases happening with
    | made value detecting sink => cases actor
    | removed value => cases actor
    | accessed other value kind sighting =>
      cases actor
      exact fits.1
    | stalled other value kind =>
      cases actor
      exact fits.1
    | entered other value clock =>
      cases actor
      exact fits.1
    | edited other context =>
      cases actor
      exact fits.1
    | ended other =>
      cases actor
      exact fits

/-- A thread that was not started yet attempted nothing. -/
theorem not_mem_attempts_of_unstarted (run : Run past scene)
    (new : scene.world.started ≤ thread.index) (kind : AccessKind) :
    ⟨thread, kind⟩ ∉ past.attempts value := by
  intro attempted
  obtain ⟨happening, member, told⟩ := List.mem_filterMap.1 attempted
  have actor := Happening.actor?_of_attempt told
  exact absurd (index_lt_of_actor run member actor) (Nat.not_lt.2 new)

/-- A thread that was not started yet entered no section. -/
theorem upToEntry_of_unstarted (run : Run past scene)
    (new : scene.world.started ≤ thread.index) : past.upToEntry thread value = [] := by
  refine List.dropWhile_eq_nil_iff.2 fun happening member => ?_
  cases entry : happening.isEntry thread value with
  | false => rfl
  | true =>
    have actor := Happening.actor?_of_isEntry entry
    exact absurd (index_lt_of_actor run member actor) (Nat.not_lt.2 new)

/-- A thread that was not started yet knows every value. -/
theorem knows_of_unstarted (run : Run past scene) (new : scene.world.started ≤ thread.index)
    (value : ValueId) : scene.world.Knows past thread value := by
  intro standing stands
  have absent : scene.world.threads.contains thread = false :=
    Bool.eq_false_iff.2 fun runs =>
      absurd ((numbered_of_run run).threads thread runs) (Nat.not_lt.2 new)
  refine .of_idle ?_ (fun kind => not_mem_attempts_of_unstarted run new kind)
    (upToEntry_of_unstarted run new)
  rw [snapshot?_of_standing? stands]
  exact snapshot?_of_not_running _ absent value

/-- What happened since a section entry happened just now or was since this entry before. -/
theorem History.mem_sinceEntry_cons {found happening : Happening}
    (member : found ∈ History.sinceEntry (happening :: past) thread value) :
    found = happening ∨ found ∈ past.sinceEntry thread value := by
  rw [sinceEntry, List.takeWhile_cons] at member
  split at member
  · exact List.mem_cons.1 member
  · cases member

/-- While a thread has a section open on a value, no other thread attempted an access to the value
since the thread last entered one. -/
theorem alone_of_run (run : Run past scene) (inside : 0 < scene.sections thread value)
    {other : ThreadId} (different : other ≠ thread) (kind : AccessKind) :
    ⟨other, kind⟩ ∉ (past.sinceEntry thread value).attempts value := by
  induction run with
  | refl => exact absurd inside (Nat.lt_irrefl 0)
  | @tail past happenings scene next move path performed ih =>
    have numbered := numbered_of_run path
    have guarded := guarded_of_run path
    have turn := Scene.turn_of_perform? numbered performed
    have shift := Scene.shift_of_perform? numbered performed
    by_cases more : scene.sections thread value < next.sections thread value
    · obtain ⟨clock, rfl⟩ := shift.entered more
      have entry := Happening.isEntry_entered thread value clock
      have since : History.sinceEntry (.entered thread value clock :: past) thread value = [] :=
        List.takeWhile_cons_of_neg (by simp [entry])
      change _ ∉ History.attempts (History.sinceEntry (_ :: past) thread value) value
      rw [since]
      exact List.not_mem_nil
    · have before : 0 < scene.sections thread value := by omega
      rcases turn.eq_nil_or_singleton with rfl | ⟨happening, rfl⟩
      · exact ih before
      intro attempted
      obtain ⟨found, member, told⟩ := History.mem_attempts_iff.1 attempted
      cases History.mem_sinceEntry_cons member with
      | inl latest =>
        exact different (Scene.eq_of_attempted performed (guarded.depth_of_sections before)
          (List.mem_singleton.2 latest) told)
      | inr earlier => exact ih before (History.mem_attempts_iff.2 ⟨found, earlier, told⟩)

section Admitted

variable {kind : AccessKind}

/-- No closure of its own is in the way of a thread that is inside of none on the value. -/
theorem Scene.Guarded.unborrowed (guarded : scene.Guarded) {cell : Cell α} {lock : Lock}
    (found : scene.world.cells.get? value = some cell)
    (taken : cell.lock.acquire? thread = some lock)
    (outside : scene.closures thread value = 0) : cell.borrowed = false := by
  refine Bool.eq_false_iff.2 fun borrowed => ?_
  have lent : scene.world.lends value = true :=
    (lends_of_guard? (guard?_of_get? _ found)).trans borrowed
  obtain ⟨other, inside⟩ := (guarded.lends value).1 lent
  have has := guarded.depth_of_closures inside
  rw [depth_of_guard? (guard?_of_get? _ found)] at has
  have same : thread = other := Lock.eq_of_acquire? has taken
  rw [same] at outside
  omega

/-- A thread that is inside of no work on its context, and of no closure on the value, has its
access begun if the value is watched and the lock admits it. -/
theorem begins_of_perform? (run : Run past scene) (watched : scene.world.watches value = true)
    (calm : .context ∉ scene.frames thread) (outside : scene.closures thread value = 0)
    (performed : scene.perform? (.access thread value kind) = some (next, happenings)) :
    ∃ sighting, happenings = [.accessed thread value kind sighting] ∧
      next.frames thread = .closure value kind :: scene.frames thread := by
  obtain ⟨runs, outcome⟩ := Scene.perform?_eq_some_iff.1 performed
  cases outcome with
  | @access thread value kind world sighting asked =>
    rw [if_pos watched]
    exact ⟨sighting, rfl, if_pos rfl⟩
  | stall asked =>
    cases asked with
    | stalled cell lock found taken free on busy =>
      exact absurd (mem_frames_of_inUse run busy) calm
  | reenter asked =>
    cases asked with
    | reentered cell lock found taken borrowed =>
      rw [(guarded_of_run run).unborrowed found taken outside] at borrowed
      cases borrowed

/-- Such a thread also enters a section, if the lock admits it. -/
theorem enters_of_perform? (run : Run past scene) (calm : .context ∉ scene.frames thread)
    (outside : scene.closures thread value = 0)
    (performed : scene.perform? (.enter thread value) = some (next, happenings)) :
    ∃ clock, happenings = [.entered thread value clock] ∧
      next.frames thread = .block value :: scene.frames thread := by
  obtain ⟨runs, outcome⟩ := Scene.perform?_eq_some_iff.1 performed
  cases outcome with
  | enter asked => exact ⟨_, rfl, if_pos rfl⟩
  | refuseEnter asked =>
    cases asked with
    | reentered cell lock found taken borrowed =>
      rw [(guarded_of_run run).unborrowed found taken outside] at borrowed
      cases borrowed
    | stalled cell lock found taken free busy =>
      exact absurd (mem_frames_of_inUse run busy) calm

end Admitted

end RaceSentry
