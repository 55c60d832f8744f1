import RaceSentry.Proofs.Confinement
import RaceSentry.Proofs.Unwinding

/-!
# Bystanders

To ask or describe a value, to copy a snapshot, and to access a value that is not watched takes no
context and changes no thread and no detector; of values it changes contents only, and these only
as they are stored. The same holds of whatever is put together from such actions.
Main statement: `leftAlone_run`.
-/

namespace RaceSentry

open World

variable {α β : Type}

namespace World

/-- Nothing is different but contents, locks, and what was written down of things other than
contexts. -/
structure Unmoved (world next : World α) : Prop where
  /-- Threads are the same, with their contexts. -/
  threads : next.threads = world.threads
  /-- No thread was started. -/
  started : next.started = world.started
  /-- No value was made. -/
  made : next.made = world.made
  /-- Values are the same up to contents and locks. -/
  accounts : ∀ value, (next.cells.get? value).map Cell.account =
    (world.cells.get? value).map Cell.account
  /-- Ledgers and channels are the same. -/
  detectors : next.detectors = world.detectors
  /-- Receivers are the same. -/
  receivers : next.receivers = world.receivers
  /-- No context was bound. -/
  attachments : next.attachments = world.attachments

namespace Unmoved

variable {world between next : World α}

/-- Doing nothing moves no context. -/
theorem refl (world : World α) : Unmoved world world :=
  ⟨rfl, rfl, rfl, fun _ => rfl, rfl, rfl, rfl⟩

/-- What moves no context twice moves none in all. -/
theorem trans (first : Unmoved world between) (second : Unmoved between next) :
    Unmoved world next where
  threads := second.threads.trans first.threads
  started := second.started.trans first.started
  made := second.made.trans first.made
  accounts := fun value => (second.accounts value).trans (first.accounts value)
  detectors := second.detectors.trans first.detectors
  receivers := second.receivers.trans first.receivers
  attachments := second.attachments.trans first.attachments

/-- The same values are watched. -/
theorem watches (unmoved : Unmoved world next) (value : ValueId) :
    next.watches value = world.watches value := by
  have same := congrArg (Option.any Cell.detecting) (unmoved.accounts value)
  rw [Option.any_map, Option.any_map] at same
  exact same

end Unmoved

variable (world : World α)

/-- An event that tells of no attached context moves none. -/
theorem unmoved_note {event : Event} (other : event.attached? = none) :
    Unmoved world (world.note event) :=
  ⟨rfl, rfl, rfl, fun _ => rfl, rfl, rfl, attachments_note world other⟩

/-- Contents and locks bear on nothing else. -/
theorem unmoved_modifyCell (value : ValueId) {change : Cell α → Cell α}
    (same : ∀ cell, (change cell).account = cell.account) :
    Unmoved world (world.modifyCell value change) :=
  ⟨rfl, rfl, rfl, (kept_modifyCell world value same).accounts, rfl, rfl, rfl⟩

variable {world}

/-- An access to a value that is not watched takes the lock and nothing else, and nothing is told
of it. -/
theorem AsksAccess.unmoved {next : World α} {thread : ThreadId} {value : ValueId}
    {kind : AccessKind} {attempt : Attempt (Option Sighting)}
    (asked : world.AsksAccess thread value kind next attempt)
    (unwatched : world.watches value = false) :
    Unmoved world next ∧ world.accessHappenings thread value kind attempt = [] := by
  have off {cell : Cell α} (found : world.cells.get? value = some cell) :
      cell.detecting ≠ true := by
    rw [watches, found] at unwatched
    exact Bool.eq_false_iff.1 unwatched
  cases asked with
  | reentered cell lock found taken borrowed => exact ⟨unmoved_note world rfl, rfl⟩
  | unwatched cell lock found taken free _ =>
    exact ⟨unmoved_modifyCell world value fun _ => rfl, if_neg (by simp [unwatched])⟩
  | stalled cell lock found taken free on busy => exact absurd on (off found)
  | clean cell lock found taken free on idle nothing => exact absurd on (off found)
  | flagged cell lock found taken free on idle something => exact absurd on (off found)

end World

namespace Action

mutual

/-- Whether an action does nothing but ask and describe values, copy snapshots, and access values at
which nobody looks, with everything inside of it. -/
def bystands (ignored : ValueId → Bool) : Action α → Bool
  | .read value => ignored value
  | .readWith value body _ => ignored value && bystandsInside ignored body
  | .write value _ => ignored value
  | .replace value _ => ignored value
  | .update value body _ => ignored value && bystandsInside ignored body
  | .attempt body => bystandsBody ignored body
  | .raise _ => true
  | .query _ _ => true
  | .describe _ _ => true
  | .context (.snapshotOf _) => true
  | .unclear _ => true
  | _ => false

/-- The same of all actions of a body. -/
def bystandsBody (ignored : ValueId → Bool) : List (Action α) → Bool
  | [] => true
  | action :: rest => bystands ignored action && bystandsBody ignored rest

/-- The same of the body of a closure, if it has one. -/
def bystandsInside (ignored : ValueId → Bool) : Option (List (Action α)) → Bool
  | none => true
  | some body => bystandsBody ignored body

end

end Action

section Bystanders

variable {thread : ThreadId} {value : ValueId} {ignored : ValueId → Bool}

/-- An access to a value that is not watched, with a closure that leaves everything alone. -/
theorem unmoved_access {world : World α} (kind : AccessKind)
    {body : World α → World α × Option (List (Answer α)) × Option Fault}
    {work : α → α × Except String (Result α)} (unwatched : world.watches value = false)
    (inside : ∀ later : World α, Unmoved world later → Unmoved later (body later).1) :
    Unmoved world (world.access thread value kind body work).1 := by
  unfold World.access
  cases asked : world.beginAccess thread value kind with
  | mk begun attempt =>
    cases attempt with
    | noValue =>
      rw [show begun = world from eq_of_beginAccess asked (.inl rfl)]
      exact .refl world
    | blocked =>
      rw [show begun = world from eq_of_beginAccess asked (.inr rfl)]
      exact .refl world
    | faulted fault =>
      exact ((asksAccess_of_beginAccess asked nofun nofun).unmoved unwatched).1
    | begun sighting =>
      have begins := ((asksAccess_of_beginAccess asked nofun nofun).unmoved unwatched).1
      have within := begins.trans (inside begun begins)
      dsimp only
      cases done : body begun with
      | mk after outcome =>
        rw [done] at within
        obtain ⟨answers, fault⟩ := outcome
        cases fault with
        | some fault => exact within.trans (unmoved_modifyCell after value fun _ => rfl)
        | none =>
          dsimp only
          cases left : after.cells.get? value with
          | none => exact within
          | some cell =>
            have ended : Unmoved world (after.endAccess value fun _ => (work cell.payload).1) :=
              within.trans (unmoved_modifyCell after value fun _ => rfl)
            dsimp only
            cases (work cell.payload).2 with
            | error text => exact ended
            | ok result => exact ended

/-- A question about a value moves no context. -/
theorem unmoved_answerQuery (world : World α) (thread : ThreadId) (value : ValueId)
    (query : Query) : Unmoved world (world.answerQuery thread value query).1 := by
  obtain same | noted := eq_or_note_of_answerQuery world thread value query
  · rw [same]
    exact .refl world
  · rw [noted]
    exact unmoved_note world rfl

mutual

/-- A bystander leaves everything alone but contents. -/
theorem unmoved_run (thread : ThreadId) (action : Action α) (world : World α)
    (bystands : action.bystands ignored = true)
    (unwatched : ∀ value, ignored value = true → world.watches value = false) :
    Unmoved world (action.run thread world).1 := by
  cases action with
  | read value =>
    unfold Action.run
    exact unmoved_access .read (unwatched value bystands) fun later _ => .refl later
  | readWith value body measure =>
    obtain ⟨ignores, quiet⟩ := Bool.and_eq_true_iff.1 bystands
    unfold Action.run
    exact unmoved_access .read (unwatched value ignores) fun later same =>
      unmoved_runInside thread body later quiet fun other ignores =>
        (same.watches other).trans (unwatched other ignores)
  | write value payload =>
    unfold Action.run
    exact unmoved_access .write (unwatched value bystands) fun later _ => .refl later
  | replace value payload =>
    unfold Action.run
    exact unmoved_access .write (unwatched value bystands) fun later _ => .refl later
  | update value body change =>
    obtain ⟨ignores, quiet⟩ := Bool.and_eq_true_iff.1 bystands
    unfold Action.run
    exact unmoved_access .write (unwatched value ignores) fun later same =>
      unmoved_runInside thread body later quiet fun other ignores =>
        (same.watches other).trans (unwatched other ignores)
  | synchronized value route body => cases bystands
  | attempt body => exact unmoved_runBody thread body world bystands unwatched
  | raise text => exact .refl world
  | query value question => exact unmoved_answerQuery world thread value question
  | describe value spread =>
    unfold Action.run
    split
    · exact .refl world
    · exact .refl world
  | context request =>
    cases request with
    | snapshotOf value =>
      unfold Action.run answerContext answerRequest
      dsimp only
      split
      · exact .refl world
      · split
        · exact .refl world
        · exact .refl world
    | _ => cases bystands
  | withContext body => cases bystands
  | unclear fragment => exact .refl world

/-- A body that bystands moves no context. -/
theorem unmoved_runBody (thread : ThreadId) (body : List (Action α)) (world : World α)
    (bystands : Action.bystandsBody ignored body = true)
    (unwatched : ∀ value, ignored value = true → world.watches value = false) :
    Unmoved world (Action.runBody thread body world).1 := by
  cases body with
  | nil => exact .refl world
  | cons action rest =>
    obtain ⟨quiet, after⟩ := Bool.and_eq_true_iff.1 bystands
    have first := unmoved_run thread action world quiet unwatched
    unfold Action.runBody
    cases done : action.run thread world with
    | mk between outcome =>
      rw [done] at first
      cases outcome with
      | error fault => exact first
      | ok answer =>
        exact first.trans (unmoved_runBody thread rest between after fun value ignores =>
          (first.watches value).trans (unwatched value ignores))

/-- What a closure does inside of an access moves no context if it bystands. -/
theorem unmoved_runInside (thread : ThreadId) (body : Option (List (Action α)))
    (world : World α) (bystands : Action.bystandsInside ignored body = true)
    (unwatched : ∀ value, ignored value = true → world.watches value = false) :
    Unmoved world (Action.runInside thread body world).1 := by
  cases body with
  | none => exact .refl world
  | some body => exact unmoved_runBody thread body world bystands unwatched

end

/-- A cell is given by its account, its lock, its loan and its content. -/
theorem Cell.eq_of_account {cell after : Cell α} (account : after.account = cell.account)
    (lock : after.lock = cell.lock) (borrowed : after.borrowed = cell.borrowed) :
    after = { cell with payload := after.payload } := by
  cases cell
  cases after
  cases account
  cases lock
  cases borrowed
  rfl

/-- A bystander leaves threads, values and detectors alone. Values have the contents that were
stored. -/
structure LeftAlone (stored : List (ValueId × α)) (world next : World α) : Prop
    extends Unmoved world next where
  /-- Values are the same up to the contents that were stored. -/
  cells : ∀ value, next.cells.get? value = (world.cells.get? value).map fun cell =>
    { cell with payload := (stored.lookup value).getD cell.payload }

/-- An action that bystands changes nothing but the contents that its closures store. -/
theorem leftAlone_run {world : World α} {action : Action α}
    (runs : world.threads.contains thread = true)
    (bystands : action.bystands (fun value => !world.watches value) = true) :
    LeftAlone (action.stores thread world) world (action.run thread world).1 := by
  have unmoved := unmoved_run thread action world bystands fun value ignores => by
    simpa using ignores
  refine ⟨unmoved, fun value => ?_⟩
  -- Contents and locks are told by one half of what is known, and everything else by the other.
  have outside := unmoved.accounts value
  have surface := (unwound_run thread action world runs).cells value
  cases found : world.cells.get? value with
  | none =>
    rw [found] at outside
    exact Option.map_eq_none_iff.1 outside
  | some cell =>
    rw [found] at outside surface
    obtain ⟨after, left, account⟩ := Option.map_eq_some_iff.1 outside
    rw [left] at surface ⊢
    simp only [Option.map_some, Option.some.injEq, Cell.surface, Prod.mk.injEq] at surface
    obtain ⟨payload, lock, borrowed⟩ := surface
    rw [Option.map_some, ← payload]
    exact congrArg some (Cell.eq_of_account account lock borrowed)

end Bystanders

end RaceSentry
