import RaceSentry.Proofs.Move
import RaceSentry.Proofs.Stages

/-!
# What comes of a move

A move is given by a function that looks at locks, frames and contexts. Here all that can come of
one is set out case by case, each with what it needs, so that whatever holds of moves is shown by
these cases. Main statement: `perform?_eq_some_iff`, what comes of a move is one of these outcomes,
and each of them can come of one.
-/

namespace RaceSentry

variable {α : Type}

/-- What the closure of an access of a kind may do to the content. -/
def AccessKind.permitted (kind : AccessKind) (change : α → α) : α → α :=
  match kind with
  | .read => id
  | .write => change

/-- Where there is nothing to change, closures of either kind change nothing. -/
theorem AccessKind.permitted_id (kind : AccessKind) : kind.permitted (id : α → α) = id := by
  cases kind with
  | read => rfl
  | write => rfl

namespace Scene

open World

variable {scene next : Scene α} {move : Move α} {happenings : List Happening} {thread : ThreadId}

/-- What can come of a move, besides that it has to wait or that there is nothing to move. -/
inductive Outcome (scene : Scene α) : Move α → Scene α → List Happening → Prop where
  /-- The closure of an access begins. -/
  | access {thread : ThreadId} {value : ValueId} {kind : AccessKind} {world : World α}
      {sighting : Option Sighting}
      (asked : scene.world.AsksAccess thread value kind world (.begun sighting)) :
      Outcome scene (.access thread value kind)
        (scene.into world thread (.closure value kind))
        (if scene.world.watches value then [.accessed thread value kind sighting] else [])
  /-- The access cannot be judged, since the context is being worked on. -/
  | stall {thread : ThreadId} {value : ValueId} {kind : AccessKind} {world : World α}
      (asked : scene.world.AsksAccess thread value kind world (.faulted .borrowed)) :
      Outcome scene (.access thread value kind) (scene.withWorld world) [.stalled thread value kind]
  /-- A closure of the same thread has the content already. -/
  | reenter {thread : ThreadId} {value : ValueId} {kind : AccessKind} {world : World α}
      (asked : scene.world.AsksAccess thread value kind world (.faulted (.reentered value))) :
      Outcome scene (.access thread value kind) (scene.withWorld world) []
  /-- A closure ends. -/
  | finish {thread : ThreadId} {value : ValueId} {kind : AccessKind} {rest : List Frame}
      (change : α → α) (frames : scene.frames thread = .closure value kind :: rest) :
      Outcome scene (.finish thread change)
        (scene.become (scene.world.endAccess value (kind.permitted change)) thread rest) []
  /-- The block of a section begins. -/
  | enter {thread : ThreadId} {value : ValueId} {world : World α} {entries : Nat}
      (asked : scene.world.AsksSection thread value world (.begun entries)) :
      Outcome scene (.enter thread value) (scene.into world thread (.block value))
        [.entered thread value (scene.world.clockOf value)]
  /-- The section cannot be entered. -/
  | refuseEnter {thread : ThreadId} {value : ValueId} {world : World α} {fault : Fault}
      (asked : scene.world.AsksSection thread value world (.faulted fault)) :
      Outcome scene (.enter thread value) (scene.withWorld world) []
  /-- The block of a section ends. -/
  | leave {thread : ThreadId} {value : ValueId} {rest : List Frame}
      (frames : scene.frames thread = .block value :: rest) :
      Outcome scene (.leave thread)
        (scene.become (scene.world.leaveSection value) thread rest) []
  /-- A section begins that outlasts the move. -/
  | hold {thread : ThreadId} {value : ValueId} {world : World α} {entries : Nat}
      (asked : scene.world.AsksSection thread value world (.begun entries)) :
      Outcome scene (.hold thread value)
        (scene.withWorld (world.setThread thread
          { world.thread thread with sections := value :: (world.thread thread).sections }))
        [.entered thread value (scene.world.clockOf value)]
  /-- The section cannot be entered. -/
  | refuseHold {thread : ThreadId} {value : ValueId} {world : World α} {fault : Fault}
      (asked : scene.world.AsksSection thread value world (.faulted fault)) :
      Outcome scene (.hold thread value) (scene.withWorld world) []
  /-- A section ends that outlasted the move that began it. -/
  | drop {thread : ThreadId} {value : ValueId}
      (member : value ∈ (scene.world.thread thread).sections) :
      Outcome scene (.drop thread value)
        (scene.withWorld ((scene.world.setThread thread
          { scene.world.thread thread with
            sections := (scene.world.thread thread).sections.erase value }).leaveSection value)) []
  /-- Work on the context begins. -/
  | openContext {thread : ThreadId} (idle : (scene.world.thread thread).contextInUse = false) :
      Outcome scene (.openContext thread)
        (scene.into (scene.world.openContext thread).1 thread .context) []
  /-- The context is being worked on already. -/
  | refuseContext {thread : ThreadId} (busy : (scene.world.thread thread).contextInUse = true) :
      Outcome scene (.openContext thread) (scene.withWorld scene.world) []
  /-- Work on the context ends. -/
  | closeContext {thread : ThreadId} {rest : List Frame}
      (frames : scene.frames thread = .context :: rest) :
      Outcome scene (.closeContext thread)
        (scene.become (scene.world.closeContext thread) thread rest) []
  /-- The context that is being worked on is changed. -/
  | edit {thread : ThreadId} {context : ThreadContext} (change : ThreadContext → ThreadContext)
      (bound : (scene.world.thread thread).context = some context)
      (busy : (scene.world.thread thread).contextInUse = true)
      (known : scene.world.knowsAll (change context) = true) :
      Outcome scene (.edit thread change)
        (scene.withWorld (scene.world.bindContext thread (change context)))
        [.edited thread (change context)]
  /-- A context is put in place of the one that was bound. -/
  | attach {thread : ThreadId} {context : ThreadContext}
      (known : scene.world.knowsAll context = true)
      (idle : (scene.world.thread thread).contextInUse = false) :
      Outcome scene (.attach thread context)
        (scene.withWorld ((scene.world.noteAttached context).bindContext thread context))
        (if (scene.world.thread thread).context.isNone && context.snapshots.isEmpty then []
          else [.edited thread context])
  /-- The context that is bound is being worked on. -/
  | refuseAttach {thread : ThreadId} {context : ThreadContext}
      (known : scene.world.knowsAll context = true)
      (busy : (scene.world.thread thread).contextInUse = true) :
      Outcome scene (.attach thread context) (scene.withWorld (scene.world.noteAttached context)) []
  /-- A value is looked at. -/
  | look {thread : ThreadId} {value : ValueId} {cell : Cell α}
      (found : scene.world.cells.get? value = some cell)
      (admitted : cell.lock.admits thread = true) (free : cell.borrowed = false) :
      Outcome scene (.look thread value) (scene.withWorld scene.world) []
  /-- A closure of the same thread has the content. -/
  | refuseLook {thread : ThreadId} {value : ValueId} {cell : Cell α}
      (found : scene.world.cells.get? value = some cell)
      (admitted : cell.lock.admits thread = true) (borrowed : cell.borrowed = true) :
      Outcome scene (.look thread value) (scene.withWorld (scene.world.note (.reentered value))) []
  /-- A step in which no thread acts. -/
  | step {step : Step α} (still : step.isActed = false)
      (outside : ∀ thread, step.ends? = some thread → scene.frames thread = []) :
      Outcome scene (.step step) (scene.withWorld (scene.world.step step).1)
        (step.happenings scene.world (scene.world.step step).1)

/-- An access has one of the outcomes of an access. -/
theorem outcome_of_access {value : ValueId} {kind : AccessKind}
    (performed : scene.carryOut? (.access thread value kind) = some (next, happenings)) :
    scene.Outcome (.access thread value kind) next happenings := by
  unfold carryOut? at performed
  dsimp only at performed
  split at performed
  · rename_i asked
    cases performed
    exact .access (asksAccess_of_beginAccess asked nofun nofun)
  · rename_i asked
    cases performed
    exact .stall (asksAccess_of_beginAccess asked nofun nofun)
  · rename_i other asked
    cases performed
    have asks := asksAccess_of_beginAccess asked nofun nofun
    cases asks with
    | reentered cell lock found taken borrowed =>
      exact .reenter (.reentered cell lock found taken borrowed)
    | stalled => exact (other rfl).elim
  · cases performed

/-- A section that is kept open has one of the outcomes of such a move. -/
theorem outcome_of_hold {value : ValueId}
    (performed : scene.carryOut? (.hold thread value) = some (next, happenings)) :
    scene.Outcome (.hold thread value) next happenings := by
  unfold carryOut? World.enter at performed
  dsimp only at performed
  cases asked : scene.world.enterSection thread value with
  | mk world attempt =>
    rw [asked] at performed
    cases attempt with
    | noValue => cases performed
    | blocked => cases performed
    | faulted fault =>
      cases performed
      exact .refuseHold (asksSection_of_enterSection asked nofun nofun)
    | begun entries =>
      cases performed
      exact .hold (asksSection_of_enterSection asked nofun nofun)

/-- A look at a value has one of the outcomes of a look. -/
theorem outcome_of_look {value : ValueId}
    (performed : scene.carryOut? (.look thread value) = some (next, happenings)) :
    scene.Outcome (.look thread value) next happenings := by
  unfold carryOut? World.inspect at performed
  cases found : scene.world.cells.get? value with
  | none =>
    simp only [found] at performed
    cases performed
  | some cell =>
    cases admitted : cell.lock.admits thread with
    | false =>
      simp only [found, admitted, Bool.not_false, ↓reduceIte] at performed
      cases performed
    | true =>
      simp only [found, admitted, Bool.not_true, Bool.false_eq_true, ↓reduceIte] at performed
      cases borrowed : cell.borrowed with
      | true =>
        simp only [borrowed, ↓reduceIte] at performed
        cases performed
        exact .refuseLook found admitted borrowed
      | false =>
        simp only [borrowed, Bool.false_eq_true, ↓reduceIte] at performed
        cases performed
        exact .look found admitted borrowed

/-- What comes of a move is one of the outcomes. -/
theorem outcome_of_carryOut? (performed : scene.carryOut? move = some (next, happenings)) :
    scene.Outcome move next happenings := by
  cases move with
  | access thread value kind => exact outcome_of_access performed
  | hold thread value => exact outcome_of_hold performed
  | look thread value => exact outcome_of_look performed
  | finish thread change =>
    unfold carryOut? at performed
    dsimp only at performed
    split at performed
    · rename_i frames
      cases performed
      exact .finish change frames
    · rename_i frames
      cases performed
      exact .finish change frames
    · cases performed
  | enter thread value =>
    unfold carryOut? at performed
    dsimp only at performed
    split at performed
    · rename_i asked
      cases performed
      exact .enter (asksSection_of_enterSection asked nofun nofun)
    · rename_i asked
      cases performed
      exact .refuseEnter (asksSection_of_enterSection asked nofun nofun)
    · cases performed
  | leave thread =>
    unfold carryOut? at performed
    dsimp only at performed
    split at performed
    · rename_i frames
      cases performed
      exact .leave frames
    · cases performed
  | drop thread value =>
    unfold carryOut? at performed
    dsimp only at performed
    split at performed
    · rename_i member
      cases performed
      exact .drop member
    · cases performed
  | openContext thread =>
    unfold carryOut? at performed
    dsimp only at performed
    cases idle : (scene.world.thread thread).contextInUse with
    | true =>
      rw [openContext_of_inUse scene.world idle] at performed
      cases performed
      exact .refuseContext idle
    | false =>
      rw [openContext_of_idle scene.world idle] at performed
      cases performed
      exact .openContext idle
  | closeContext thread =>
    unfold carryOut? at performed
    dsimp only at performed
    split at performed
    · rename_i frames
      cases performed
      exact .closeContext frames
    · cases performed
  | edit thread change =>
    unfold carryOut? at performed
    dsimp only at performed
    split at performed
    · rename_i bound
      split at performed
      · rename_i allowed
        cases performed
        obtain ⟨busy, known⟩ := Bool.and_eq_true_iff.1 allowed
        exact .edit change bound busy known
      · cases performed
    · cases performed
  | attach thread context =>
    unfold carryOut? at performed
    dsimp only at performed
    split at performed
    · cases performed
    · rename_i known
      have known : scene.world.knowsAll context = true := by simpa using known
      split at performed
      · rename_i busy
        cases performed
        exact .refuseAttach known busy
      · rename_i idle
        cases performed
        exact .attach known (Bool.eq_false_iff.2 idle)
  | step step =>
    unfold carryOut? at performed
    dsimp only at performed
    split at performed
    · rename_i allowed
      obtain ⟨still, outside⟩ := Bool.and_eq_true_iff.1 allowed
      cases performed
      refine .step (by simpa using still) fun thread ends => ?_
      rw [ends] at outside
      exact List.isEmpty_iff.1 outside
    · cases performed

/-- Each of the outcomes can come of the move. -/
theorem Outcome.carryOut? (outcome : scene.Outcome move next happenings) :
    scene.carryOut? move = some (next, happenings) := by
  unfold Scene.carryOut?
  cases outcome with
  | access asked => simp only [asked.eq]
  | stall asked => simp only [asked.eq]
  | reenter asked => simp only [asked.eq]
  | @finish thread value kind rest change frames =>
    cases kind with
    | read => simp only [frames, AccessKind.permitted]
    | write => simp only [frames, AccessKind.permitted]
  | enter asked => simp only [asked.eq]
  | refuseEnter asked => simp only [asked.eq]
  | leave frames => simp only [frames]
  | hold asked => simp only [World.enter, asked.eq]
  | refuseHold asked => simp only [World.enter, asked.eq]
  | drop member => simp only [member, if_true]
  | openContext idle =>
    dsimp only
    rw [openContext_of_idle scene.world idle]
  | refuseContext busy => simp only [openContext_of_inUse scene.world busy]
  | closeContext frames => simp only [frames]
  | edit change bound busy known => simp only [bound, busy, known, Bool.and_self, if_true]
  | attach known idle => simp [known, idle]
  | refuseAttach known busy => simp [known, busy]
  | look found admitted free => simp [World.inspect, found, admitted, free]
  | refuseLook found admitted borrowed => simp [World.inspect, found, admitted, borrowed]
  | @step step still outside =>
    have left : (step.ends?.all fun thread => (scene.frames thread).isEmpty) = true := by
      cases ends : step.ends? with
      | none => rfl
      | some thread => exact List.isEmpty_iff.2 (outside thread ends)
    simp only [still, left, Bool.not_false, Bool.and_self, if_true]

/-- Running threads move. -/
theorem perform?_of_runs (mover : move.thread? = some thread)
    (runs : scene.world.threads.contains thread = true) :
    scene.perform? move = scene.carryOut? move := by
  rw [perform?, if_pos]
  rw [mover]
  exact runs

/-- Each of the outcomes comes of the move of a running thread. -/
theorem Outcome.perform? (outcome : scene.Outcome move next happenings)
    (mover : move.thread? = some thread) (runs : scene.world.threads.contains thread = true) :
    scene.perform? move = some (next, happenings) := by
  rw [perform?_of_runs mover runs, outcome.carryOut?]

/-- What comes of a move is one of the outcomes, if its thread runs. -/
theorem perform?_eq_some_iff : scene.perform? move = some (next, happenings) ↔
    move.thread?.all scene.world.threads.contains = true ∧ scene.Outcome move next happenings := by
  unfold perform?
  constructor
  · intro performed
    split at performed
    · rename_i runs
      exact ⟨runs, outcome_of_carryOut? performed⟩
    · cases performed
  · rintro ⟨runs, outcome⟩
    rw [if_pos runs, outcome.carryOut?]

end Scene

end RaceSentry
