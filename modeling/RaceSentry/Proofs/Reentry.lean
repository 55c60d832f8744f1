import RaceSentry.Proofs.Newcomer
import RaceSentry.Proofs.Recall
import RaceSentry.Proofs.Seclusion
import RaceSentry.Proofs.Unwinding

/-!
# Closures that reach for their own value

A closure may reach for the value whose content it has. The lock lets its thread pass, since the
thread has it already, and the content is what stands in the way. The thread is turned away before
any closure or block that it brings along is run, and nothing is different afterwards but what the
journal tells. So if the closure catches the fault, it goes on with the content and the lock that it
had, and the access that it belongs to is counted once, as it would have been anyway.
Main statement: `refusal_leaves_no_trace`.
-/

namespace RaceSentry

open World

variable {α β : Type}

/-- The value that an action reaches for under its lock, and whether it does so to enter a section.
What cannot be understood, or asks about a thread that was never started, does not get that far. -/
def Action.reach? (world : World α) : Action α → Option (ValueId × Bool)
  | .read value => some (value, false)
  | .readWith value _ _ => some (value, false)
  | .write value _ => some (value, false)
  | .replace value _ => some (value, false)
  | .update value _ _ => some (value, false)
  | .query value .raceCount => some (value, false)
  | .query value .racing => some (value, false)
  | .query value .clock => some (value, false)
  | .query value (.isRacing thread) => if world.knows thread then some (value, false) else none
  | .synchronized value _ _ => some (value, true)
  | _ => none

/-- The value that an action accesses, and how. -/
def Action.accesses? : Action α → Option (ValueId × AccessKind)
  | .read value => some (value, .read)
  | .readWith value _ _ => some (value, .read)
  | .write value _ => some (value, .write)
  | .replace value _ => some (value, .write)
  | .update value _ _ => some (value, .write)
  | _ => none

/-- An action reaches for a value by accessing it, by asking about it, or by entering a section. -/
theorem Action.reach?_cases {world : World α} {action : Action α} {value : ValueId} {enters : Bool}
    (reaches : action.reach? world = some (value, enters)) :
    (enters = false ∧ ∃ kind, action.accesses? = some (value, kind)) ∨
    (enters = false ∧ ∃ question, action = .query value question ∧
      ∀ other, question = .isRacing other → world.knows other = true) ∨
    (enters = true ∧ ∃ route body, action = .synchronized value route body) := by
  cases action with
  | read target =>
    cases reaches
    exact .inl ⟨rfl, _, rfl⟩
  | readWith target body measure =>
    cases reaches
    exact .inl ⟨rfl, _, rfl⟩
  | write target payload =>
    cases reaches
    exact .inl ⟨rfl, _, rfl⟩
  | replace target payload =>
    cases reaches
    exact .inl ⟨rfl, _, rfl⟩
  | update target body change =>
    cases reaches
    exact .inl ⟨rfl, _, rfl⟩
  | query target question =>
    refine .inr (.inl ?_)
    cases question with
    | isRacing other =>
      obtain ⟨known, same⟩ := Option.ite_none_right_eq_some.1 reaches
      cases same
      refine ⟨rfl, _, rfl, fun third same => ?_⟩
      cases same
      exact known
    | _ =>
      cases reaches
      refine ⟨rfl, _, rfl, fun third same => ?_⟩
      cases same
  | synchronized target route body =>
    cases reaches
    exact .inr (.inr ⟨rfl, _, _, rfl⟩)
  | _ => cases reaches

/-- The thread that reaches for a value with a move, the value, and whether it does so to enter a
section. -/
def Move.reach? : Move α → Option (ThreadId × ValueId × Bool)
  | .access thread value _ => some (thread, value, false)
  | .look thread value => some (thread, value, false)
  | .enter thread value => some (thread, value, true)
  | .hold thread value => some (thread, value, true)
  | _ => none

namespace World

/-- What becomes of a thread that reaches for a value from inside of its own closure on it. The
misuse is told, unless the thread wants to enter a section. -/
def turnAway (world : World α) (value : ValueId) (enters : Bool) : World α × Fault :=
  if enters then (world, .borrowed) else (world.note (.reentered value), .reentered value)

/-- Nothing is different but what the journal tells. -/
structure Untouched (world next : World α) : Prop where
  /-- The same threads run, with the same contexts and snapshots and the same sections open. -/
  threads : next.threads = world.threads
  /-- As many threads were started. -/
  started : next.started = world.started
  /-- The same values exist, with the same contents, locks, clock tables and racing threads. -/
  cells : next.cells = world.cells
  /-- As many values were made. -/
  made : next.made = world.made
  /-- Every ledger and every channel is as it was. -/
  detectors : next.detectors = world.detectors
  /-- The same receivers take from channels. -/
  receivers : next.receivers = world.receivers

/-- Who is turned away leaves everything untouched but the journal. -/
theorem untouched_turnAway (world : World α) (value : ValueId) (enters : Bool) :
    Untouched world (world.turnAway value enters).1 := by
  cases enters with
  | false => exact ⟨rfl, rfl, rfl, rfl, rfl, rfl⟩
  | true => exact ⟨rfl, rfl, rfl, rfl, rfl, rfl⟩

end World

/-- A thread that has a lock can take it again. -/
theorem Lock.exists_acquire?_of_depth {lock : Lock} {thread : ThreadId}
    (has : 0 < lock.depth thread) : ∃ taken, lock.acquire? thread = some taken := by
  cases lock with
  | free => exact absurd has (Nat.lt_irrefl 0)
  | held owner again =>
    rw [depth] at has
    split at has
    · rename_i mine
      exact ⟨_, if_pos mine⟩
    · exact absurd has (Nat.lt_irrefl 0)

/-- A closure of a thread has the content of its value, and the thread can take the lock again. -/
theorem Scene.Guarded.exists_borrowed {scene : Scene α} (guarded : scene.Guarded)
    {thread : ThreadId} {value : ValueId} (inside : 0 < scene.closures thread value) :
    ∃ cell lock, scene.world.cells.get? value = some cell ∧
      cell.lock.acquire? thread = some lock ∧ cell.borrowed = true := by
  have has := guarded.depth_of_closures inside
  obtain ⟨cell, found⟩ := exists_get?_of_depth has
  have stored := guard?_of_get? scene.world found
  rw [depth_of_guard? stored] at has
  obtain ⟨lock, taken⟩ := Lock.exists_acquire?_of_depth has
  have lent := (guarded.lends value).2 ⟨thread, inside⟩
  rw [lends_of_guard? stored] at lent
  exact ⟨cell, lock, found, taken, lent⟩

namespace World

section Faulted

variable {world next : World α} {thread : ThreadId} {value : ValueId} {fault : Fault}

/-- An access that cannot begin is cut short whatever its closure would do: nothing is stored by it,
and no more is told of it than that it could not begin. -/
theorem of_beginAccess_faulted {action : Action α} {kind : AccessKind}
    (begins : world.beginAccess thread value kind = (next, .faulted fault))
    (accesses : action.accesses? = some (value, kind)) :
    action.run thread world = (next, .error fault) ∧ action.stores thread world = [] ∧
      action.tells thread world = world.accessHappenings thread value kind (.faulted fault) := by
  cases action with
  | read target =>
    cases accesses
    simp only [Action.run, Action.stores, Action.tells, access, accessStores, accessTells, begins,
      notBegun, and_self]
  | readWith target body measure =>
    cases accesses
    simp only [Action.run, Action.stores, Action.tells, access, accessStores, accessTells, begins,
      notBegun, and_self]
  | write target payload =>
    cases accesses
    simp only [Action.run, Action.stores, Action.tells, access, accessStores, accessTells, begins,
      notBegun, and_self]
  | replace target payload =>
    cases accesses
    simp only [Action.run, Action.stores, Action.tells, access, accessStores, accessTells, begins,
      notBegun, and_self]
  | update target body change =>
    cases accesses
    simp only [Action.run, Action.stores, Action.tells, access, accessStores, accessTells, begins,
      notBegun, and_self]
  | _ => cases accesses

/-- A section that cannot begin is cut short whatever its block would do. -/
theorem of_enterSection_faulted (begins : world.enterSection thread value = (next, .faulted fault))
    (route : Route) (body : List (Action α)) :
    (Action.synchronized value route body).run thread world = (next, .error fault) ∧
      (Action.synchronized value route body).stores thread world = [] ∧
      (Action.synchronized value route body).tells thread world = [] := by
  simp only [Action.run, Action.stores, Action.tells, sectionTells, begins, notBegun, and_self]

end Faulted

section Borrowed

variable {world : World α} {thread : ThreadId} {value : ValueId} {cell : Cell α} {lock : Lock}
  (found : world.cells.get? value = some cell) (taken : cell.lock.acquire? thread = some lock)
  (borrowed : cell.borrowed = true)

include found taken borrowed

/-- An access to a value from inside of a closure on it is refused, and told. -/
theorem beginAccess_of_borrowed (kind : AccessKind) : world.beginAccess thread value kind =
    (world.note (.reentered value), .faulted (.reentered value)) :=
  (AsksAccess.reentered cell lock found taken borrowed).eq

/-- A section on a value is refused from inside of a closure on it, and nothing is told. -/
theorem enterSection_of_borrowed :
    world.enterSection thread value = (world, .faulted .borrowed) :=
  (AsksSection.reentered cell lock found taken borrowed).eq

omit found borrowed in
/-- A lock lets in the thread that has it. -/
theorem admits_of_taken : cell.lock.admits thread = true := by
  rw [← Lock.isSome_acquire?_iff, taken]
  rfl

/-- A look at a value from inside of a closure on it is refused, and told. -/
theorem inspect_of_borrowed (look : Cell α → β) : world.inspect thread value look =
    (world.note (.reentered value), .faulted (.reentered value)) := by
  have admitted := admits_of_taken taken
  simp only [inspect, found, admitted, borrowed, Bool.not_true, Bool.false_eq_true, ↓reduceIte]

/-- A question about a thread that was started is turned away like all others. -/
theorem answerQuery_of_borrowed (query : Query)
    (known : ∀ other, query = .isRacing other → world.knows other = true) :
    world.answerQuery thread value query =
      (world.note (.reentered value), .error (.reentered value)) := by
  cases query with
  | isRacing other =>
    have admitted := admits_of_taken taken
    simp only [answerQuery, found, admitted, known other rfl, Bool.not_true, Bool.false_eq_true,
      ↓reduceIte, inspect_of_borrowed found taken borrowed, notBegun]
  | _ => simp only [answerQuery, inspect_of_borrowed found taken borrowed, notBegun]

/-- An action that reaches for the value is turned away, whatever it would do with it. Nothing is
stored by it, and nothing is told of it that bears on clock tables, snapshots or racing threads. -/
theorem of_borrowed {action : Action α} {enters : Bool}
    (reaches : action.reach? world = some (value, enters)) :
    action.run thread world =
        ((world.turnAway value enters).1, .error (world.turnAway value enters).2) ∧
      action.stores thread world = [] ∧ action.tells thread world = [] := by
  obtain ⟨rfl, kind, accesses⟩ | ⟨rfl, question, rfl, known⟩ | ⟨rfl, route, body, rfl⟩ :=
    Action.reach?_cases reaches
  · exact of_beginAccess_faulted (beginAccess_of_borrowed found taken borrowed kind) accesses
  · refine ⟨?_, rfl, rfl⟩
    rw [Action.run]
    exact answerQuery_of_borrowed found taken borrowed question known
  · exact of_enterSection_faulted (enterSection_of_borrowed found taken borrowed) route body

/-- A thread that catches the fault goes on with the rest of its body. -/
theorem runBody_attempt_of_borrowed {action : Action α} {enters : Bool}
    (reaches : action.reach? world = some (value, enters)) (rest more : List (Action α)) :
    Action.runBody thread (.attempt (action :: rest) :: more) world =
      let after := Action.runBody thread more (world.turnAway value enters).1
      (after.1, .caught [] (some (world.turnAway value enters).2) :: after.2.1, after.2.2) := by
  simp only [Action.runBody, Action.run, (of_borrowed found taken borrowed reaches).1]

end Borrowed

end World

section Moves

variable {past told : History} {scene next later : Scene α} {move : Move α}
  {happenings : List Happening} {thread : ThreadId} {value : ValueId}

/-- A thread that is inside of something runs. -/
theorem runs_of_frames (run : Run past scene) (inside : scene.frames thread ≠ []) :
    scene.world.threads.contains thread = true := by
  induction run with
  | refl => exact absurd rfl inside
  | @tail past happenings scene next move path performed ih =>
    obtain ⟨runs, outcome⟩ := Scene.perform?_eq_some_iff.1 performed
    have turn := Scene.turn_of_perform? (numbered_of_run path) performed
    by_cases mover : move.thread? = some thread
    · rw [mover] at runs
      refine turn.running runs fun ended => ?_
      obtain ⟨step, rfl, -⟩ := Scene.eq_step_of_ended performed ended
      cases mover
    · rw [outcome.frames_of_ne mover] at inside
      refine turn.running (ih inside) fun ended => ?_
      obtain ⟨step, rfl, ends⟩ := Scene.eq_step_of_ended performed ended
      cases outcome with
      | step still outside => exact inside (outside thread ends)

/-- A thread that is inside of a closure is inside of something. -/
theorem Scene.frames_of_closures (inside : 0 < scene.closures thread value) :
    scene.frames thread ≠ [] := by
  intro outside
  rw [closures, outside] at inside
  exact Nat.lt_irrefl 0 inside

/-- A move with which a thread reaches for a value whose content its closure has leaves everybody
inside of what they are in. -/
theorem perform?_of_closures (run : Run past scene) (inside : 0 < scene.closures thread value)
    {enters : Bool} (reaches : move.reach? = some (thread, value, enters)) :
    scene.perform? move = some (scene.withWorld (scene.world.turnAway value enters).1, []) := by
  obtain ⟨cell, lock, found, taken, borrowed⟩ := (guarded_of_run run).exists_borrowed inside
  have runs := runs_of_frames run (Scene.frames_of_closures inside)
  have entered := AsksSection.reentered cell lock found taken borrowed
  cases move with
  | access other target kind =>
    cases reaches
    exact Scene.Outcome.perform? (.reenter (.reentered cell lock found taken borrowed)) rfl runs
  | look other target =>
    cases reaches
    exact Scene.Outcome.perform? (.refuseLook found (admits_of_taken taken) borrowed) rfl runs
  | enter other target =>
    cases reaches
    exact Scene.Outcome.perform? (.refuseEnter entered) rfl runs
  | hold other target =>
    cases reaches
    exact Scene.Outcome.perform? (.refuseHold entered) rfl runs
  | _ => cases reaches

/-- While a closure has the content of a value, nobody begins an access to it. -/
theorem quiet_of_closures (run : Run past scene) (inside : 0 < scene.closures thread value)
    (performed : scene.perform? move = some (next, happenings)) {happening : Happening}
    (told : happening ∈ happenings) (other : ThreadId) (kind : AccessKind) :
    happening.access? ≠ some (other, value, kind) := by
  intro about
  have has := (guarded_of_run run).depth_of_closures inside
  obtain rfl := Scene.eq_of_attempted performed has told about
  obtain rfl := Scene.eq_access_of_perform? performed told about
  rw [perform?_of_closures run inside rfl] at performed
  cases performed
  cases told

/-- The racing threads of a value are those of its standing. -/
theorem World.racing_of_standing? {world : World α} {standing : Standing}
    (stands : world.standing? value = some standing) : world.racing value = standing.racing := by
  obtain ⟨cell, found, rfl⟩ := (standing?_eq_some_iff world).1 stands
  rw [World.racing, found]
  rfl

/-- Closures are begun by accesses. -/
theorem Scene.Shift.exists_access (shift : scene.Shift move happenings next)
    (more : scene.closures thread value < next.closures thread value) :
    ∃ kind, move = .access thread value kind := by
  cases shift with
  | began other target kind lock taken free got guards closures sections =>
    rw [closures] at more
    split at more
    · rename_i here
      rw [here.1, here.2]
      exact ⟨kind, rfl⟩
    · exact absurd more (Nat.lt_irrefl _)
  | finished other target change guards closures sections =>
    rw [closures] at more
    omega
  | _ =>
    rename_i closures _
    rw [closures] at more
    exact absurd more (Nat.lt_irrefl _)

/-- No move bears on the clock table of a value while a closure has its content, nor on the threads
that race on it. -/
theorem tables_of_closures (run : Run past scene) (inside : 0 < scene.closures thread value)
    (performed : scene.perform? move = some (next, happenings)) :
    next.world.clockOf value = scene.world.clockOf value ∧
      next.world.racing value = scene.world.racing value := by
  have numbered := numbered_of_run run
  have has := (guarded_of_run run).depth_of_closures inside
  have turn := Scene.turn_of_perform? numbered performed
  obtain ⟨guard, stays⟩ := (Scene.shift_of_perform? numbered performed).exists_guard? has
  obtain ⟨cell, found, -⟩ := Option.map_eq_some_iff.1 stays
  have stands := standing?_of_get? next.world found
  have told := turn.standing? numbered value
  rcases turn.eq_nil_or_singleton with rfl | ⟨happening, rfl⟩
  · rw [stands] at told
    exact ⟨(clockOf_of_standing? stands).trans (clockOf_of_standing? told.symm).symm,
      (racing_of_standing? stands).trans (racing_of_standing? told.symm).symm⟩
  · rw [stands] at told
    have old : ∀ detecting sink, happening ≠ .made value detecting sink := by
      rintro detecting sink rfl
      have made : value.index = scene.world.made := turn.fits _ (List.mem_singleton_self _)
      exact Nat.ne_of_lt (index_lt_of_depth numbered has) made
    obtain ⟨before, stood, -, clock, racing⟩ := Happening.bear_aside
      (quiet_of_closures run inside performed (List.mem_singleton_self _)) old told.symm
    exact ⟨(clockOf_of_standing? stands).trans (clock.trans (clockOf_of_standing? stood).symm),
      (racing_of_standing? stands).trans (racing.trans (racing_of_standing? stood).symm)⟩

/-- Moves before each of which a thread is inside of a closure on a value. -/
abbrev During (thread : ThreadId) (value : ValueId) : Scene α → History → Scene α → Prop :=
  Lawful fun scene _ _ => 0 < scene.closures thread value

/-- Nobody begins an access to a value while a closure has its content, and nothing bears on its
clock table and on the threads that race on it. -/
theorem During.tables (during : During thread value scene told later) (run : Run past scene) :
    told.attempts value = [] ∧ later.world.clockOf value = scene.world.clockOf value ∧
      later.world.racing value = scene.world.racing value := by
  induction during with
  | refl => exact ⟨rfl, rfl, rfl⟩
  | @tail told happenings later next move during performed inside ih =>
    have reached : Run (told ++ past) later := run.trans during.path
    obtain ⟨unattempted, clock, racing⟩ := ih
    obtain ⟨clock', racing'⟩ := tables_of_closures reached inside performed
    refine ⟨?_, clock'.trans clock, racing'.trans racing⟩
    rw [History.attempts_append, unattempted, List.append_nil]
    refine List.filterMap_eq_nil_iff.2 fun happening member => ?_
    exact Happening.attempt?_eq_none_iff.2 (quiet_of_closures reached inside performed member)

/-- A thread that is inside of a closure on a value began with an access to it, and has been inside
of the closure since then. -/
theorem exists_beginning (run : Run past scene) (inside : 0 < scene.closures thread value) :
    ∃ kind earlier begun since before start, Run earlier before ∧
      before.closures thread value = 0 ∧
      before.perform? (.access thread value kind) = some (start, begun) ∧
      0 < start.closures thread value ∧ During thread value start since scene ∧
      past = since ++ (begun ++ earlier) := by
  induction run with
  | refl => exact absurd inside (Nat.lt_irrefl 0)
  | @tail past happenings scene next move path performed ih =>
    by_cases already : 0 < scene.closures thread value
    · obtain ⟨kind, earlier, begun, since, before, start, run, outside, begins, started, during,
        same⟩ := ih already
      rw [same, ← List.append_assoc]
      exact ⟨kind, earlier, begun, happenings ++ since, before, start, run, outside, begins,
        started, during.tail performed already, rfl⟩
    · have outside : scene.closures thread value = 0 := Nat.eq_zero_of_not_pos already
      have shift := Scene.shift_of_perform? (numbered_of_run path) performed
      obtain ⟨kind, rfl⟩ := shift.exists_access (outside ▸ inside)
      exact ⟨kind, past, happenings, [], scene, next, path, outside, performed, inside, .refl,
        rfl⟩

/-- The access with which a closure begins is counted if its value is watched. -/
theorem counted_of_beginning (run : Run past scene) {kind : AccessKind}
    (outside : scene.closures thread value = 0) (inside : 0 < next.closures thread value)
    (performed : scene.perform? (.access thread value kind) = some (next, happenings)) :
    History.attempts happenings value =
        (if scene.world.watches value then [⟨thread, kind⟩] else []) ∧
      next.world.clockOf value =
        if scene.world.watches value then (scene.world.clockOf value).increment ⟨thread, kind⟩
        else scene.world.clockOf value := by
  have turn := Scene.turn_of_perform? (numbered_of_run run) performed
  have stands := turn.standing? (numbered_of_run run) value
  obtain ⟨-, outcome⟩ := Scene.perform?_eq_some_iff.1 performed
  cases outcome with
  | stall asked => exact absurd (outside ▸ inside : 0 < 0) (Nat.lt_irrefl 0)
  | reenter asked => exact absurd (outside ▸ inside : 0 < 0) (Nat.lt_irrefl 0)
  | @access thread value kind world sighting asked =>
    obtain ⟨cell, lock, found, -⟩ := asked.admitted
    have stood := standing?_of_get? scene.world found
    have watched : scene.world.watches value = cell.detecting := by
      rw [World.watches, found, Option.any_some]
    rw [watched, stood] at stands
    rw [watched, clockOf_of_standing? stood]
    cases on : cell.detecting with
    | false =>
      rw [on] at stands
      exact ⟨rfl, clockOf_of_standing? stands⟩
    | true =>
      rw [on, if_pos rfl, Happening.outcome, List.foldr_cons, List.foldr_nil, Happening.bear,
        if_pos rfl, Option.map_some] at stands
      refine ⟨List.filterMap_cons_some (if_pos rfl), (clockOf_of_standing? stands).trans ?_⟩
      exact (Standing.clock_access _ _).trans (if_pos on)

end Moves

/-- An access of a thread to a value that began in one scene was counted once until another one, if
the value is watched, with all that was told in between. -/
structure CountedOnce (thread : ThreadId) (value : ValueId) (kind : AccessKind) (before : Scene α)
    (told : History) (later : Scene α) : Prop where
  /-- It is the only access that was begun. -/
  attempts : told.attempts value = if before.world.watches value then [⟨thread, kind⟩] else []
  /-- The clock table has it once more. -/
  clock : later.world.clockOf value =
    if before.world.watches value then (before.world.clockOf value).increment ⟨thread, kind⟩
    else before.world.clockOf value

/-- How a value turns away a thread that is inside of a closure on it. -/
structure TurnsAway (past : History) (scene : Scene α) (thread : ThreadId) (value : ValueId) :
    Prop where
  /-- Every action that reaches for the value is cut short, whatever closure or block it brings
  along: nothing is stored by it, and nothing happens in it. -/
  refused : ∀ (action : Action α) (enters : Bool),
    action.reach? scene.world = some (value, enters) →
      action.run thread scene.world =
          ((scene.world.turnAway value enters).1, .error (scene.world.turnAway value enters).2) ∧
        action.stores thread scene.world = [] ∧ action.tells thread scene.world = []
  /-- A section that would outlast the action is refused as well. -/
  held : scene.world.enter thread value =
    ((scene.world.turnAway value true).1, .faulted (scene.world.turnAway value true).2)
  /-- Nothing is different afterwards but what the journal tells. -/
  untouched : ∀ enters, Untouched scene.world (scene.world.turnAway value enters).1
  /-- Everybody stays inside of what they are in, and nothing happens. -/
  stays : ∀ (move : Move α) (enters : Bool), move.reach? = some (thread, value, enters) →
    scene.perform? move = some (scene.withWorld (scene.world.turnAway value enters).1, [])
  /-- If the fault is caught, the closure goes on from there, -/
  caught : ∀ (action : Action α) (enters : Bool) (rest more : List (Action α)),
    action.reach? scene.world = some (value, enters) →
      Action.runBody thread (.attempt (action :: rest) :: more) scene.world =
        let after := Action.runBody thread more (scene.world.turnAway value enters).1
        (after.1, .caught [] (some (scene.world.turnAway value enters).2) :: after.2.1,
          after.2.2)
  /-- with the content, and with the lock as often as before. -/
  keeps : ∃ cell, cell.borrowed = true ∧ cell.lock.depth thread = scene.holds thread value ∧
    scene.world.cells.get? value = some cell ∧
      ∀ enters, (scene.world.turnAway value enters).1.cells.get? value = some cell
  /-- The access that the closure belongs to is counted once, however it goes on until the closure
  is over. -/
  counted : ∃ kind earlier told before, Run earlier before ∧ past = told ++ earlier ∧
    before.closures thread value = 0 ∧ ∀ more later, During thread value scene more later →
      CountedOnce thread value kind before (more ++ told) later ∧
        later.world.racing value = scene.world.racing value
  /-- A description says that the value is borrowed, and does nothing. -/
  described : (∀ cell, scene.world.cells.get? value = some cell →
      cell.stateOutline thread = [("state", .word "<borrowed>")]) ∧
    ∀ spread, ∃ text,
      (Action.describe value spread).run thread scene.world = (scene.world, .ok (.text text))

section Main

variable {past : History} {scene : Scene α} {thread : ThreadId} {value : ValueId}

/-- The access to which a closure belongs is counted when it begins, and not again until the closure
is over. -/
theorem countedOnce_of_run (run : Run past scene) (inside : 0 < scene.closures thread value) :
    ∃ kind earlier told before, Run earlier before ∧ past = told ++ earlier ∧
      before.closures thread value = 0 ∧ ∀ more later, During thread value scene more later →
        CountedOnce thread value kind before (more ++ told) later ∧
          later.world.racing value = scene.world.racing value := by
  obtain ⟨kind, earlier, begun, since, before, start, run', outside, begins, started, during,
    rfl⟩ := exists_beginning run inside
  refine ⟨kind, earlier, since ++ begun, before, run', (List.append_assoc _ _ _).symm, outside,
    fun more later after => ?_⟩
  obtain ⟨first, clock⟩ := counted_of_beginning run' outside started begins
  obtain ⟨unattempted, same, -⟩ := during.tables (run'.tail begins)
  obtain ⟨unattempted', same', racing⟩ := after.tables run
  refine ⟨⟨?_, (same'.trans same).trans clock⟩, racing⟩
  rw [History.attempts_append, History.attempts_append, unattempted', unattempted]
  exact first

/-- Whatever a thread that is inside of a closure on a value asks of the value, it is turned away,
and leaves no trace. -/
theorem refusal_leaves_no_trace (run : Run past scene)
    (inside : 0 < scene.closures thread value) : TurnsAway past scene thread value := by
  have guarded := guarded_of_run run
  obtain ⟨cell, lock, found, taken, borrowed⟩ := guarded.exists_borrowed inside
  refine ⟨fun action enters reaches => of_borrowed found taken borrowed reaches, ?_,
    untouched_turnAway scene.world value,
    fun move enters reaches => perform?_of_closures run inside reaches,
    fun action enters rest more reaches =>
      runBody_attempt_of_borrowed found taken borrowed reaches rest more,
    ⟨cell, borrowed, ?_, found, fun enters => ?_⟩, countedOnce_of_run run inside,
    fun cell' found' => ?_, fun spread => ?_⟩
  · simp only [World.enter, enterSection_of_borrowed found taken borrowed]
    rfl
  · rw [← depth_of_guard? (guard?_of_get? _ found), guarded.depth]
  · rw [(untouched_turnAway scene.world value enters).cells]
    exact found
  · cases found.symm.trans found'
    simp only [Cell.stateOutline, admits_of_taken taken, borrowed, Bool.not_true,
      Bool.false_eq_true, ↓reduceIte]
  · simp only [Action.run, found]
    exact ⟨_, rfl⟩

/-- Two threads race on a value. One of them has a section open on it, and in this a closure on
another value, and in this a section and a closure on the first one. -/
theorem refusal_leaves_no_trace_of_nested :
    ∃ (past : History) (scene : Scene Nat), Run past scene ∧ scene.sections ⟨1⟩ ⟨0⟩ = 2 ∧
      scene.closures ⟨1⟩ ⟨1⟩ = 1 ∧ 0 < scene.closures ⟨1⟩ ⟨0⟩ ∧
      (scene.world.racing ⟨0⟩).contains ⟨1⟩ = true ∧ TurnsAway past scene ⟨1⟩ ⟨0⟩ := by
  obtain ⟨past, scene, run, sections, closures, inside, races⟩ :
      ∃ (past : History) (scene : Scene Nat), Run past scene ∧ scene.sections ⟨1⟩ ⟨0⟩ = 2 ∧
        scene.closures ⟨1⟩ ⟨1⟩ = 1 ∧ 0 < scene.closures ⟨1⟩ ⟨0⟩ ∧
        (scene.world.racing ⟨0⟩).contains ⟨1⟩ = true :=
    ⟨_, _, Path.refl.playOut? [.step (.spawn none false), .step (.spawn none true),
      .step (.newDetector none), .step (.newValue 7 (some ⟨0⟩) none),
      .step (.newValue 8 (some ⟨0⟩) none), .access ⟨0⟩ ⟨0⟩ .write, .finish ⟨0⟩ Nat.succ,
      .access ⟨1⟩ ⟨0⟩ .read, .finish ⟨1⟩ id, .hold ⟨1⟩ ⟨0⟩, .access ⟨1⟩ ⟨1⟩ .write,
      .enter ⟨1⟩ ⟨0⟩, .access ⟨1⟩ ⟨0⟩ .write] rfl, rfl, rfl, by decide +kernel, rfl⟩
  exact ⟨past, scene, run, sections, closures, inside, races, refusal_leaves_no_trace run inside⟩

end Main

end RaceSentry
