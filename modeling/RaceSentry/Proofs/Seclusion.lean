import RaceSentry.Proofs.Custody
import RaceSentry.Proofs.Unraced

/-!
# Sections are exclusive and clean

While a thread has a section open on a value, at any depth and among any other sections and
closures, nobody else gets at the value, and the thread has seen every access to it. So none of its
accesses is flagged, and nothing is written down about the value. The lock is given up when the
last of its closures and sections on the value ends, and no sooner.
Main statement: `section_exclusive_and_clean`.
-/

namespace RaceSentry

open World

variable {α : Type}

/-- No entry stands against an access of a thread that has seen the table as it is. -/
theorem Conflict.unseen_self (table : ClockTable) (kind : AccessKind) :
    Conflict.unseen table table kind = [] := by
  refine List.eq_nil_iff_forall_not_mem.2 fun conflict member => ?_
  obtain ⟨stored, observed, _, different⟩ := mem_unseen_iff.1 member
  exact different (observed.symm.trans stored)

/-- A thread has seen every access to a value. -/
def Standing.Abreast (standing : Standing) (thread : ThreadId) : Prop :=
  standing.snapshot? thread = some standing.clock

namespace Standing.Abreast

variable {standing : Standing} {key : AccessKey} {thread : ThreadId}

/-- A thread that has seen every access has a snapshot equal to the clock table. -/
theorem seen (abreast : standing.Abreast thread) : standing.seen thread = standing.clock := by
  rw [Standing.seen, show standing.snapshot? thread = some standing.clock from abreast,
    Option.getD_some]

/-- Nothing stands against an access of a thread that has seen all others. -/
theorem verdict (abreast : standing.Abreast key.thread) : standing.verdict key = [] := by
  by_cases on : standing.detecting = true
  · rw [verdict_of_detecting on, abreast.seen]
    exact Conflict.unseen_self _ _
  · rw [Standing.verdict, if_neg on]

/-- A thread sees its own accesses. -/
theorem access (abreast : standing.Abreast key.thread) :
    (standing.access key).Abreast key.thread := by
  by_cases on : standing.detecting = true
  · rw [Standing.Abreast, snapshot?_access, clock_access, if_pos on, if_pos on, tally, copy,
      snapshot?_withSnapshot, if_pos rfl]
    change some ((standing.seen key.thread).insert key _) = _
    rw [abreast.seen]
    rfl
  · rw [Standing.access, if_neg on]
    exact abreast

/-- A section entry shows the value as it is, and changes nothing for other threads. -/
theorem entry {other : ThreadId} (abreast : thread ≠ other → standing.Abreast thread) :
    (standing.entry other).Abreast thread := by
  rw [Standing.Abreast, Standing.entry, snapshot?_withSnapshot]
  split
  · rfl
  · rename_i different
    exact abreast different

end Standing.Abreast

namespace Scene

variable {scene next : Scene α} {move : Move α} {happenings : List Happening}

/-- Sections are opened by moves that tell of it. -/
theorem Shift.entered (shift : scene.Shift move happenings next) {thread : ThreadId}
    {value : ValueId} (more : scene.sections thread value < next.sections thread value) :
    ∃ clock, happenings = [.entered thread value clock] := by
  cases shift with
  | opened other target clock lock taken asks free got guards closures sections =>
    rw [sections] at more
    split at more
    · rename_i here
      rw [here.1, here.2]
      exact ⟨clock, rfl⟩
    · exact absurd more (Nat.lt_irrefl _)
  | closed other target ends guards closures sections =>
    rw [sections] at more
    omega
  | ended other step ends guards outside closures sections =>
    rw [sections] at more
    split at more
    · exact absurd more (Nat.not_lt_zero _)
    · exact absurd more (Nat.lt_irrefl _)
  | _ =>
    rename_i sections
    rw [sections] at more
    exact absurd more (Nat.lt_irrefl _)

/-- A value stays as long as somebody has its lock. -/
theorem Shift.exists_guard? (shift : scene.Shift move happenings next) {thread : ThreadId}
    {value : ValueId} (has : 0 < scene.world.depth thread value) :
    ∃ guard, next.world.guard? value = some guard := by
  obtain ⟨guard, found⟩ := exists_guard?_of_depth has
  have turned : ∀ {target : ValueId} {turn : Lock × Bool → Lock × Bool},
      Turns target turn scene.world next.world →
        ∃ guard, next.world.guard? value = some guard := by
    intro target turn guards
    rw [guards]
    split
    · rename_i here
      rw [← here, found]
      exact ⟨_, rfl⟩
    · exact ⟨guard, found⟩
  cases shift with
  | still guards closures sections => exact ⟨guard, (guards value).trans found⟩
  | began other target kind lock taken free got guards closures sections => exact turned guards
  | finished other target change guards closures sections => exact turned guards
  | opened other target clock lock taken asks free got guards closures sections =>
    exact turned guards
  | closed other target ends guards closures sections => exact turned guards
  | ended other step ends guards outside closures sections =>
    rw [guards, found]
    exact ⟨_, rfl⟩
  | made target new guards closures sections =>
    rw [guards]
    split
    · exact ⟨_, rfl⟩
    · exact ⟨guard, found⟩
  | removed target borrowed free guards closures sections =>
    rw [guards]
    split
    · rename_i here
      rw [here, depth_of_guard? free] at has
      exact absurd has (Nat.lt_irrefl 0)
    · exact ⟨guard, found⟩

/-- A thread is ended by a step, and only by one that ends it. -/
theorem eq_step_of_ended (performed : scene.perform? move = some (next, happenings))
    {thread : ThreadId} (told : .ended thread ∈ happenings) :
    ∃ step, move = .step step ∧ step.ends? = some thread := by
  obtain ⟨-, outcome⟩ := perform?_eq_some_iff.1 performed
  cases outcome with
  | access asked =>
    split at told
    · cases List.mem_singleton.1 told
    · cases told
  | stall asked => cases List.mem_singleton.1 told
  | enter asked => cases List.mem_singleton.1 told
  | hold asked => cases List.mem_singleton.1 told
  | edit change bound busy known => cases List.mem_singleton.1 told
  | attach known idle =>
    split at told
    · cases told
    · cases List.mem_singleton.1 told
  | @step step still outside =>
    obtain ⟨other, ends, same⟩ | ⟨_, _, _, same⟩ | ⟨_, same⟩ := eq_of_mem_happenings told
    · cases same
      exact ⟨step, rfl, ends⟩
    · cases same
    · cases same
  | _ => cases told

/-- A thread that ends leaves no section open. -/
theorem sections_of_ended (turn : Turn scene.world happenings next.world)
    (performed : scene.perform? move = some (next, happenings)) {thread : ThreadId}
    (told : .ended thread ∈ happenings) (value : ValueId) : next.sections thread value = 0 := by
  have gone : next.world.threads.get? thread = none := by
    have absent := turn.gone told
    rwa [SortedMap.contains, Option.isSome_eq_false_iff, Option.isNone_iff_eq_none] at absent
  obtain ⟨step, rfl, ends⟩ := eq_step_of_ended performed told
  obtain ⟨-, outcome⟩ := perform?_eq_some_iff.1 performed
  cases outcome with
  | step still outside =>
    change (scene.frames thread).countP _ + _ = 0
    rw [outside thread ends, World.thread, gone]
    rfl

end Scene

/-- The value with whose lock an action begins. -/
def Action.needs : Action α → Option ValueId
  | .read value => some value
  | .readWith value _ _ => some value
  | .write value _ => some value
  | .replace value _ => some value
  | .update value _ _ => some value
  | .synchronized value _ _ => some value
  | .query value _ => some value
  | .unclear fragment => if fragment.waits then fragment.value else none
  | _ => none

namespace World

variable {world : World α} {thread other : ThreadId} {value : ValueId} {cell : Cell α}

/-- Nobody can take a lock that another thread has. -/
theorem acquire?_eq_none_of_depth (has : 0 < world.depth thread value) (different : other ≠ thread)
    (found : world.cells.get? value = some cell) : cell.lock.acquire? other = none := by
  rw [depth_of_guard? (guard?_of_get? world found)] at has
  cases taken : cell.lock.acquire? other with
  | none => rfl
  | some lock => exact absurd (Lock.eq_of_acquire? has taken) different

/-- An access is not held up by a lock. -/
theorem AsksAccess.admitted {next : World α} {kind : AccessKind}
    {attempt : Attempt (Option Sighting)}
    (asked : world.AsksAccess thread value kind next attempt) :
    ∃ cell lock, world.cells.get? value = some cell ∧ cell.lock.acquire? thread = some lock := by
  cases asked with
  | _ => exact ⟨_, _, by assumption, by assumption⟩

/-- A lock that one thread has lets no other one in. -/
theorem admits_eq_false_of_depth (has : 0 < world.depth thread value) (different : other ≠ thread)
    (found : world.cells.get? value = some cell) : cell.lock.admits other = false := by
  rw [← Lock.isSome_acquire?_iff, acquire?_eq_none_of_depth has different found]
  rfl

section Held

variable (has : 0 < world.depth thread value) (different : other ≠ thread)

include has different

/-- The value of a lock that somebody has, which admits nobody else. -/
theorem exists_of_depth : ∃ cell, world.cells.get? value = some cell ∧
    cell.lock.acquire? other = none ∧ cell.lock.admits other = false := by
  obtain ⟨cell, found⟩ := exists_get?_of_depth has
  exact ⟨cell, found, acquire?_eq_none_of_depth has different found,
    admits_eq_false_of_depth has different found⟩

/-- An access of another thread has to wait. -/
theorem beginAccess_of_depth (kind : AccessKind) :
    world.beginAccess other value kind = (world, .blocked) := by
  obtain ⟨cell, found, none, _⟩ := exists_of_depth has different
  simp only [World.beginAccess, found, none]

/-- A section of another thread has to wait. -/
theorem enterSection_of_depth : world.enterSection other value = (world, .blocked) := by
  obtain ⟨cell, found, none, _⟩ := exists_of_depth has different
  simp only [World.enterSection, found, none]

/-- A look of another thread has to wait. -/
theorem inspect_of_depth {β : Type} (look : Cell α → β) :
    world.inspect other value look = (world, .blocked) := by
  obtain ⟨cell, found, _, unadmitted⟩ := exists_of_depth has different
  simp only [World.inspect, found, unadmitted, Bool.not_false, ↓reduceIte]

/-- A question of another thread has to wait. -/
theorem answerQuery_of_depth (query : Query) :
    world.answerQuery other value query = (world, .ok .blocked) := by
  obtain ⟨cell, found, _, unadmitted⟩ := exists_of_depth has different
  cases query with
  | isRacing third =>
    simp only [World.answerQuery, found, unadmitted, Bool.not_false, ↓reduceIte]
  | _ => simp only [World.answerQuery, inspect_of_depth has different, notBegun]

/-- A fragment of another thread that needs the lock has to wait. -/
theorem answerUnclear_of_depth {fragment : Fragment} (about : fragment.value = some value)
    (waits : fragment.waits = true) : world.answerUnclear other fragment = .blocked := by
  obtain ⟨cell, found, _, unadmitted⟩ := exists_of_depth has different
  simp only [World.answerUnclear, about, found, waits, unadmitted, Bool.not_false, Bool.and_self,
    ↓reduceIte]

/-- An action that begins with a lock that another thread has does nothing. -/
theorem run_of_depth {action : Action α} (needs : action.needs = some value) :
    action.run other world = (world, .ok .blocked) := by
  have held := beginAccess_of_depth has different
  cases action with
  | read target =>
    cases needs
    simp only [Action.run, World.access, held, notBegun]
  | readWith target body measure =>
    cases needs
    simp only [Action.run, World.access, held, notBegun]
  | write target payload =>
    cases needs
    simp only [Action.run, World.access, held, notBegun]
  | replace target payload =>
    cases needs
    simp only [Action.run, World.access, held, notBegun]
  | update target body change =>
    cases needs
    simp only [Action.run, World.access, held, notBegun]
  | synchronized target route body =>
    cases needs
    simp only [Action.run, enterSection_of_depth has different, notBegun]
  | query target question =>
    cases needs
    exact answerQuery_of_depth has different question
  | unclear fragment =>
    simp only [Action.needs, Option.ite_none_right_eq_some] at needs
    simp only [Action.run, answerUnclear_of_depth has different needs.2 needs.1]
  | _ => cases needs

end Held

end World

namespace Scene

variable {scene next : Scene α} {move : Move α} {happenings : List Happening}

/-- While a thread has the lock of a value, it is the one that attempts accesses to it. -/
theorem eq_of_attempted (performed : scene.perform? move = some (next, happenings))
    {thread other : ThreadId} {value : ValueId} {kind : AccessKind} {happening : Happening}
    (has : 0 < scene.world.depth thread value) (told : happening ∈ happenings)
    (about : happening.access? = some (other, value, kind)) : other = thread := by
  obtain rfl := eq_access_of_perform? performed told about
  obtain ⟨_, attempt, asked, _⟩ := asksAccess_of_perform? performed
  obtain ⟨cell, lock, found, got⟩ := asked.admitted
  refine Decidable.byContradiction fun different => ?_
  have none := acquire?_eq_none_of_depth has different found
  rw [none] at got
  cases got

/-- While a thread has the lock of a value, the accesses to it are its own. -/
theorem eq_of_accessed (performed : scene.perform? move = some (next, happenings))
    {thread other : ThreadId} {value : ValueId} {kind : AccessKind} {sighting : Option Sighting}
    (has : 0 < scene.world.depth thread value)
    (told : .accessed other value kind sighting ∈ happenings) : other = thread :=
  eq_of_attempted performed has told rfl

/-- Threads have seen every access to the values on which they have a section open. -/
def Abreast (scene : Scene α) : Prop :=
  ∀ thread value standing, 0 < scene.sections thread value →
    scene.world.standing? value = some standing → standing.Abreast thread

/-- No move makes a thread with a section open fall behind. -/
theorem Abreast.perform? (abreast : scene.Abreast) (numbered : Numbered scene.world)
    (guarded : scene.Guarded) (performed : scene.perform? move = some (next, happenings))
    (undisturbed : History.Undisturbed happenings) : next.Abreast := by
  intro thread value after inside stands
  have turn := turn_of_perform? numbered performed
  have shift := shift_of_perform? numbered performed
  rw [turn.standing? numbered] at stands
  have stayed : (∀ clock, happenings ≠ [.entered thread value clock]) →
      0 < scene.sections thread value := by
    intro unentered
    by_cases more : scene.sections thread value < next.sections thread value
    · obtain ⟨clock, told⟩ := shift.entered more
      exact absurd told (unentered clock)
    · omega
  rcases turn.eq_nil_or_singleton with rfl | ⟨happening, rfl⟩
  · exact abreast thread value after (stayed (by simp)) stands
  have told := List.mem_singleton_self happening
  have fits := turn.fits happening told
  change happening.bear value (scene.world.standing? value) = some after at stands
  cases happening with
  | made other detecting sink =>
    rw [Happening.bear] at stands
    split at stands
    · rename_i here
      have old := index_lt_of_depth numbered (guarded.depth_of_sections (stayed (by simp)))
      rw [here] at old
      exact absurd old (fits ▸ Nat.lt_irrefl _)
    · exact abreast thread value after (stayed (by simp)) stands
  | removed other =>
    rw [Happening.bear] at stands
    split at stands
    · cases stands
    · exact abreast thread value after (stayed (by simp)) stands
  | accessed other target kind sighting =>
    have before := abreast thread value
    rw [Happening.bear] at stands
    split at stands
    · rename_i here
      subst here
      obtain ⟨standing, stood, rfl⟩ := Option.map_eq_some_iff.1 stands
      have inside := stayed (by simp)
      obtain rfl := eq_of_accessed performed (guarded.depth_of_sections inside) told
      have mine : standing.Abreast (AccessKey.mk other kind).thread := before standing inside stood
      exact mine.access
    · exact before after (stayed (by simp)) stands
  | stalled other target kind =>
    exact absurd (undisturbed _ told).symm Bool.false_ne_true
  | entered other target clock =>
    rw [Happening.bear] at stands
    split at stands
    · rename_i here
      subst here
      obtain ⟨standing, stood, rfl⟩ := Option.map_eq_some_iff.1 stands
      refine Standing.Abreast.entry fun different => ?_
      refine abreast thread value standing (stayed fun clock same => different ?_) stood
      cases same
      rfl
    · rename_i elsewhere
      refine abreast thread value after (stayed fun clock same => elsewhere ?_) stands
      cases same
      rfl
  | edited other context =>
    exact absurd (undisturbed _ told).symm Bool.false_ne_true
  | ended other =>
    obtain ⟨standing, stood, rfl⟩ := Option.map_eq_some_iff.1 stands
    have different : thread ≠ other := by
      rintro rfl
      rw [sections_of_ended turn performed told] at inside
      exact Nat.lt_irrefl 0 inside
    have before := abreast thread value standing (stayed (by simp)) stood
    rw [Standing.Abreast, Standing.snapshot?_withSnapshot, if_neg different]
    exact before

end Scene

/-- Threads have seen every access to the values on which they have a section open, after every run
in which nobody disturbed the contexts. -/
theorem abreast_of_run {past : History} {scene : Scene α} (run : Run past scene)
    (undisturbed : past.Undisturbed) : scene.Abreast := by
  induction run with
  | refl => exact fun _ _ _ inside _ => absurd inside (Nat.lt_irrefl 0)
  | tail path performed ih =>
    have before := ih fun happening member =>
      undisturbed happening (List.mem_append_right _ member)
    exact before.perform? (numbered_of_run path) (guarded_of_run path) performed
      fun happening member => undisturbed happening (List.mem_append_left _ member)

/-- The ways in which a thread comes out of closures and sections on a value. -/
def Move.Ends (move : Move α) (thread : ThreadId) (value : ValueId) : Prop :=
  (∃ change, move = .finish thread change) ∨ move = .leave thread ∨ move = .drop thread value ∨
    ∃ step, move = .step step ∧ step.ends? = some thread

namespace Scene

variable {scene next : Scene α} {move : Move α} {happenings : List Happening}
  {thread : ThreadId} {value : ValueId}

/-- No access to a value is flagged while a section is open on it. -/
theorem Abreast.unflagged (abreast : scene.Abreast) (numbered : Numbered scene.world)
    (guarded : scene.Guarded) (inside : 0 < scene.sections thread value)
    (performed : scene.perform? move = some (next, happenings)) :
    History.Unflagged happenings value := by
  intro other kind sighting told
  obtain ⟨_, standing, stood, _, against, _⟩ := (turn_of_perform? numbered performed).fits _ told
  obtain rfl := eq_of_accessed performed (guarded.depth_of_sections inside) told
  exact against (abreast other value standing inside stood).verdict

/-- A value on which a section is open is not taken away. -/
theorem Guarded.stays (guarded : scene.Guarded) (numbered : Numbered scene.world)
    (inside : 0 < scene.sections thread value)
    (performed : scene.perform? move = some (next, happenings)) : .removed value ∉ happenings := by
  intro told
  have turn := turn_of_perform? numbered performed
  obtain ⟨guard, found⟩ := (shift_of_perform? numbered performed).exists_guard?
    (guarded.depth_of_sections inside)
  obtain ⟨cell, stored, _⟩ := Option.map_eq_some_iff.1 found
  have gone : next.world.standing? value = none := by
    rw [turn.standing? numbered, turn.eq_singleton told]
    exact if_pos rfl
  rw [standing?_of_get? _ stored] at gone
  cases gone

/-- A thread comes out of closures and sections by its own moves, and by its end. -/
theorem Shift.ends (shift : scene.Shift move happenings next)
    (fewer : next.holds thread value < scene.holds thread value) : move.Ends thread value := by
  rw [holds, holds] at fewer
  cases shift with
  | still guards closures sections =>
    rw [closures, sections] at fewer
    exact absurd fewer (Nat.lt_irrefl _)
  | began other target kind lock taken free got guards closures sections =>
    rw [closures, sections] at fewer
    omega
  | finished other target change guards closures sections =>
    rw [closures, sections] at fewer
    split at fewer
    · rename_i here
      rw [here.1]
      exact .inl ⟨change, rfl⟩
    · exact absurd fewer (Nat.lt_irrefl _)
  | opened other target clock lock taken asks free got guards closures sections =>
    rw [closures, sections] at fewer
    omega
  | closed other target ends guards closures sections =>
    rw [closures, sections] at fewer
    split at fewer
    · rename_i here
      rw [here.1, here.2]
      exact .inr (ends.imp_right .inl)
    · exact absurd fewer (Nat.lt_irrefl _)
  | ended other step ends guards outside closures sections =>
    rw [closures, sections] at fewer
    split at fewer
    · rename_i here
      rw [here]
      exact .inr (.inr (.inr ⟨step, rfl, ends⟩))
    · exact absurd fewer (Nat.lt_irrefl _)
  | made target new guards closures sections =>
    rw [closures, sections] at fewer
    exact absurd fewer (Nat.lt_irrefl _)
  | removed target borrowed free guards closures sections =>
    rw [closures, sections] at fewer
    exact absurd fewer (Nat.lt_irrefl _)

end Scene

/-- Moves that lead from one scene to another, before each of which a thread has a section open on a
value. -/
inductive Within (thread : ThreadId) (value : ValueId) (start : Scene α) :
    History → Scene α → Prop where
  /-- Nobody moves. -/
  | refl : Within thread value start [] start
  /-- One more move. -/
  | tail {past : History} {happenings : List Happening} {scene next : Scene α} {move : Move α}
      (within : Within thread value start past scene) (inside : 0 < scene.sections thread value)
      (performed : scene.perform? move = some (next, happenings)) :
      Within thread value start (happenings ++ past) next

namespace Within

variable {start scene : Scene α} {past told : History} {thread : ThreadId} {value : ValueId}

/-- Moves inside of a section are moves. -/
theorem path (within : Within thread value start told scene) : Path start told scene := by
  induction within with
  | refl => exact .refl
  | tail within inside performed ih => exact ih.tail performed

/-- Nothing is written down about a value while a section is open on it. -/
theorem unraced (within : Within thread value start told scene) (run : Run past start)
    (undisturbed : (told ++ past).Undisturbed) : Unraced value start.world told scene.world := by
  induction within with
  | refl => exact .refl value start.world
  | @tail told happenings scene next move within inside performed ih =>
    rw [List.append_assoc] at undisturbed
    have calm : History.Undisturbed (told ++ past) := fun happening member =>
      undisturbed happening (List.mem_append_right _ member)
    have reached : Run (told ++ past) scene := run.trans within.path
    have numbered := numbered_of_run reached
    have guarded := guarded_of_run reached
    have old := index_lt_of_depth numbered (guarded.depth_of_sections inside)
    exact (ih calm).trans (unraced_of_perform? reached performed old
      ((abreast_of_run reached calm).unflagged numbered guarded inside performed)
      (guarded.stays numbered inside performed))

end Within

/-- A value on which a thread has a section open. -/
structure Secluded (past : History) (scene : Scene α) (thread : ThreadId) (value : ValueId) :
    Prop where
  /-- The thread has seen every access to it. -/
  seen : ∃ cell, scene.world.cells.get? value = some cell ∧
    scene.world.snapshot? thread value = some cell.clock
  /-- No other thread can access it, enter a section on it, or ask it anything. -/
  excluded : ∀ other, other ≠ thread →
    (∀ kind, scene.perform? (.access other value kind) = none) ∧
      scene.perform? (.enter other value) = none ∧ scene.perform? (.hold other value) = none ∧
      scene.perform? (.look other value) = none
  /-- No action of another thread that begins with its lock does anything. -/
  blocked : ∀ other, other ≠ thread → ∀ action : Action α, action.needs = some value →
    action.run other scene.world = (scene.world, .ok .blocked)
  /-- To other threads it is described as locked. -/
  described : ∀ other, other ≠ thread → ∀ cell, scene.world.cells.get? value = some cell →
    cell.stateOutline other = [("state", .word "<locked>")]
  /-- As long as a section stays open, nothing is flagged, counted, told or reported about it. -/
  unraced : ∀ told later, Within thread value scene told later → (told ++ past).Undisturbed →
    Unraced value scene.world told later.world

/-- Locks are had by those who are inside of closures and sections that need them. -/
structure Locked (scene : Scene α) : Prop where
  /-- A thread has to give a lock up as often as it is inside of something that needs it. -/
  depth : ∀ thread value, scene.world.depth thread value = scene.holds thread value
  /-- A lock is free when nobody is inside of anything that needs it, and not before. -/
  free : ∀ value cell, scene.world.cells.get? value = some cell →
    (cell.lock = .free ↔ ∀ thread, scene.holds thread value = 0)
  /-- A thread has a lock less often after its own closures and sections, and after its end. -/
  ends : ∀ move next happenings thread value, scene.perform? move = some (next, happenings) →
    next.world.depth thread value < scene.world.depth thread value → move.Ends thread value

section Main

variable {past : History} {scene : Scene α}

/-- In a run without disturbances a value on which a thread has a section open is secluded. -/
theorem secluded_of_run (run : Run past scene) (undisturbed : past.Undisturbed)
    {thread : ThreadId} {value : ValueId} (inside : 0 < scene.sections thread value) :
    Secluded past scene thread value := by
  have guarded := guarded_of_run run
  have has := guarded.depth_of_sections inside
  refine ⟨?_, fun other different => ⟨fun kind => ?_, ?_, ?_, ?_⟩,
    fun other different action needs => run_of_depth has different needs,
    fun other different cell found => ?_, fun told later within calm => within.unraced run calm⟩
  · obtain ⟨cell, stored⟩ := exists_get?_of_depth has
    exact ⟨cell, stored, abreast_of_run run undisturbed thread value _ inside
      (standing?_of_get? _ stored)⟩
  · simp only [Scene.perform?, Scene.carryOut?, beginAccess_of_depth has different, ite_self]
  · simp only [Scene.perform?, Scene.carryOut?, enterSection_of_depth has different, ite_self]
  · simp only [Scene.perform?, Scene.carryOut?, World.enter, enterSection_of_depth has different,
      ite_self]
  · simp only [Scene.perform?, Scene.carryOut?, inspect_of_depth has different, ite_self]
  · rw [Cell.stateOutline, admits_eq_false_of_depth has different found]
    rfl

/-- In every run locks are had by those who need them. -/
theorem locked_of_run (run : Run past scene) : Locked scene := by
  have guarded := guarded_of_run run
  refine ⟨guarded.depth, fun value cell found => ⟨fun free thread => ?_, fun outside => ?_⟩,
    fun move next happenings thread value performed fewer => ?_⟩
  · rw [← guarded.depth, depth_of_guard? (guard?_of_get? _ found), free]
    rfl
  · refine Lock.eq_free_of_depth fun thread => ?_
    rw [← outside thread, ← guarded.depth, depth_of_guard? (guard?_of_get? _ found)]
  · rw [guarded.depth, (guarded_of_run (run.tail performed)).depth] at fewer
    exact (Scene.shift_of_perform? (numbered_of_run run) performed).ends fewer

/-- After every run in which nobody disturbed the contexts, a value is secluded while a thread has a
section open on it, and locks are had by those who are inside of closures and sections. -/
theorem section_exclusive_and_clean (run : Run past scene) (undisturbed : past.Undisturbed) :
    (∀ thread value, 0 < scene.sections thread value → Secluded past scene thread value) ∧
      Locked scene :=
  ⟨fun _ _ inside => secluded_of_run run undisturbed inside, locked_of_run run⟩

/-- A thread that was flagged opens a section by guard, one by block, and in it a closure on another
value, from which it writes to the first one. -/
theorem section_exclusive_and_clean_of_nested :
    ∃ (past : History) (scene : Scene Nat), Run past scene ∧ scene.sections ⟨1⟩ ⟨0⟩ = 2 ∧
      scene.closures ⟨1⟩ ⟨1⟩ = 1 ∧ (scene.world.racing ⟨0⟩).contains ⟨1⟩ = true ∧
      Secluded past scene ⟨1⟩ ⟨0⟩ ∧ Locked scene := by
  obtain ⟨past, scene, run, undisturbed, sections, closures, races⟩ :
      ∃ (past : History) (scene : Scene Nat), Run past scene ∧ past.Undisturbed ∧
        scene.sections ⟨1⟩ ⟨0⟩ = 2 ∧ scene.closures ⟨1⟩ ⟨1⟩ = 1 ∧
        (scene.world.racing ⟨0⟩).contains ⟨1⟩ = true :=
    ⟨_, _, Path.refl.playOut? [.step (.spawn none false), .step (.spawn none true),
      .step (.newDetector none), .step (.newValue 7 (some ⟨0⟩) none),
      .step (.newValue 8 (some ⟨0⟩) none), .access ⟨0⟩ ⟨0⟩ .write, .finish ⟨0⟩ Nat.succ,
      .access ⟨1⟩ ⟨0⟩ .read, .finish ⟨1⟩ id, .hold ⟨1⟩ ⟨0⟩, .enter ⟨1⟩ ⟨0⟩,
      .access ⟨1⟩ ⟨1⟩ .write, .access ⟨1⟩ ⟨0⟩ .write, .finish ⟨1⟩ Nat.succ] rfl,
      by decide +kernel, rfl, rfl, rfl⟩
  have clean := section_exclusive_and_clean run undisturbed
  exact ⟨past, scene, run, sections, closures, races,
    clean.1 ⟨1⟩ ⟨0⟩ (by rw [sections]; decide), clean.2⟩

end Main

end RaceSentry
