import RaceSentry.Proofs.View

/-!
# Accesses that are halfway

An access that is interrupted between two stages has done a part of what it does as a whole. Which
part, and what is left to do, is said here for each stage, as far as the view of its value shows
it.
Main statement: `furthers_nextStage`.
-/

namespace RaceSentry

open World

variable {α : Type}

/-- How far an access has come whose value looked in one way when its lock was taken: what its
closure has still to do, at which stage it is, and how the value looks now. -/
inductive Halfway (view : View α) (value : ValueId) (key : AccessKey) (name : Option String)
    (whole : Closure α) : Closure α → AccessStage α → View α → Prop where
  /-- Nothing is done yet. -/
  | begun : Halfway view value key name whole whole .begun view
  /-- The access is counted. -/
  | counted (on : view.cell.detecting = true) :
      Halfway view value key name whole whole (.counted (view.cell.clock.next key))
        (view.count key)
  /-- The counter is copied. -/
  | copied (on : view.cell.detecting = true) :
      Halfway view value key name whole whole .copied (view.counted key)
  /-- The access is judged. -/
  | judged (on : view.cell.detecting = true) (something : (view.counted key).against key ≠ []) :
      Halfway view value key name whole whole (.judged (view.sighting value key name))
        (view.counted key)
  /-- The thread races. -/
  | joined (on : view.cell.detecting = true) (something : (view.counted key).against key ≠ []) :
      Halfway view value key name whole whole (.joined (view.sighting value key name))
        ((view.counted key).join key.thread)
  /-- The ledger has counted the access. -/
  | tallied (on : view.cell.detecting = true) (something : (view.counted key).against key ≠ []) :
      Halfway view value key name whole whole (.tallied (view.sighting value key name))
        (((view.counted key).join key.thread).tally view.cell.label)
  /-- The access is recorded, and the closure will make of the content what it would have made
  without a break. -/
  | running (closure : Closure α) (payload : α)
      (same : closure.work payload = whole.work view.cell.payload) :
      Halfway view value key name whole closure (.running (view.recorded value key name).2)
        ((view.recorded value key name).1.store payload)
  /-- The closure has ended. -/
  | ended (closure : Closure α) :
      Halfway view value key name whole closure
        (.ended (view.recorded value key name).2 (view.access value key name whole).2)
        (view.access value key name whole).1

/-- What comes next brings an access further, and touches nothing but its value. -/
def Furthers (view : View α) (value : ValueId) (key : AccessKey) (name : Option String)
    (whole : Closure α) (world : World α) (next : World α × Closure α × AccessStage α) : Prop :=
  ∃ later, Halfway view value key name whole next.2.1 next.2.2 later ∧
    Alters value (fun _ => later) (fun guard => (guard.1, next.2.2.borrows)) world next.1

section

variable {world : World α} {thread : ThreadId} {value : ValueId} {kind : AccessKind}
  {cell : Cell α} {view now : View α} {whole : Closure α}

/-- An access comes further with the content at its disposal. -/
theorem furthers_of_alters {key : AccessKey} {name : Option String} {later : View α}
    {next : World α} {closure : Closure α} {stage : AccessStage α} {change : View α → View α}
    (found : world.cells.get? value = some cell) (shown : world.view? value = some now)
    (borrowed : cell.borrowed = true) (alters : Alters value change id world next)
    (halfway : Halfway view value key name whole closure stage later) (same : change now = later)
    (borrows : stage.borrows = true) :
    Furthers view value key name whole world (next, closure, stage) := by
  refine ⟨later, halfway, alters.congr ?_ ?_⟩
  · rw [shown, Option.map_some, Option.map_some, same]
  · rw [guard?_of_get? world found, borrowed, Option.map_some, Option.map_some, borrows]
    rfl

/-- A view shows the cell as it is when nobody uses it. -/
theorem atRest_of_view? (found : world.cells.get? value = some cell)
    (shown : world.view? value = some now) : cell.atRest = now.cell := by
  rw [view?_of_get? world found, Option.some.injEq] at shown
  rw [← shown]

/-- A view shows what every thread has seen. -/
theorem snapshot?_of_view? (shown : world.view? value = some now) (thread : ThreadId) :
    world.snapshot? thread value = now.seen thread := by
  obtain ⟨cell, found, rfl⟩ := Option.map_eq_some_iff.1 shown
  rfl

/-- An access that has begun counts itself, or goes on to its closure if nothing is detected. -/
theorem furthers_begun (found : world.cells.get? value = some cell)
    (shown : world.view? value = some view) (borrowed : cell.borrowed = true) :
    Furthers view value ⟨thread, kind⟩ (world.thread thread).name whole world
      (world.nextStage thread value kind cell whole .begun) := by
  have rest := atRest_of_view? found shown
  have detecting : cell.detecting = view.cell.detecting := by rw [← rest]; rfl
  have clock : cell.clock = view.cell.clock := by rw [← rest]; rfl
  rw [nextStage]
  split
  · rename_i on
    rw [clock]
    exact furthers_of_alters found shown borrowed (alters_countAccess world found _)
      (.counted (detecting.symm.trans on)) rfl rfl
  · rename_i off
    have recorded : view.recorded value ⟨thread, kind⟩ (world.thread thread).name =
        (view, none) := by
      rw [View.recorded, if_neg (by rw [← detecting]; exact off)]
    have halfway : Halfway view value ⟨thread, kind⟩ (world.thread thread).name whole whole _ _ :=
      .running whole view.cell.payload rfl
    rw [recorded] at halfway
    exact furthers_of_alters found shown borrowed (alters_of_same value rfl rfl fun _ => rfl)
      halfway rfl rfl

/-- An access that is counted copies its counter. -/
theorem furthers_counted (found : world.cells.get? value = some cell)
    (shown : world.view? value = some (view.count ⟨thread, kind⟩)) (borrowed : cell.borrowed = true)
    (idle : (world.thread thread).contextInUse = false) (on : view.cell.detecting = true) :
    Furthers view value ⟨thread, kind⟩ (world.thread thread).name whole world
      (world.nextStage thread value kind cell whole
        (.counted (view.cell.clock.next ⟨thread, kind⟩))) := by
  rw [nextStage, withContext_eq world thread _ idle]
  exact furthers_of_alters found shown borrowed (alters_copyCounter world found ⟨thread, kind⟩ _)
    (.copied on) rfl rfl

/-- An access whose counter is copied is judged, and goes on to its closure if nothing stands
against it. -/
theorem furthers_copied (found : world.cells.get? value = some cell)
    (shown : world.view? value = some (view.counted ⟨thread, kind⟩))
    (borrowed : cell.borrowed = true) (on : view.cell.detecting = true) :
    Furthers view value ⟨thread, kind⟩ (world.thread thread).name whole world
      (world.nextStage thread value kind cell whole .copied) := by
  have rest := atRest_of_view? found shown
  have clock : cell.clock = (view.counted ⟨thread, kind⟩).cell.clock := by rw [← rest]; rfl
  have label : cell.atRest.label = view.cell.label := by rw [rest]; rfl
  have nothing : Alters value id id world world := alters_of_same value rfl rfl fun _ => rfl
  -- The counter was copied, so there is a snapshot to compare with.
  obtain ⟨snapshot, held⟩ : ∃ snapshot, (view.counted ⟨thread, kind⟩).seen thread = some snapshot :=
    ⟨_, if_pos rfl⟩
  have seen := (snapshot?_of_view? shown thread).trans held
  have against : Conflict.unseen cell.clock snapshot kind =
      (view.counted ⟨thread, kind⟩).against ⟨thread, kind⟩ := by
    rw [clock, View.against, held]
    rfl
  simp only [nextStage, seen, against]
  cases judged : (view.counted ⟨thread, kind⟩).against ⟨thread, kind⟩ with
  | nil =>
    have recorded : view.recorded value ⟨thread, kind⟩ (world.thread thread).name =
        (view.counted ⟨thread, kind⟩, none) := by
      rw [View.recorded, if_pos on, if_pos judged]
    have halfway : Halfway view value ⟨thread, kind⟩ (world.thread thread).name whole whole _ _ :=
      .running whole view.cell.payload rfl
    rw [recorded] at halfway
    exact furthers_of_alters found shown borrowed nothing halfway rfl rfl
  | cons first others =>
    have something : (view.counted ⟨thread, kind⟩).against ⟨thread, kind⟩ ≠ [] := by
      rw [judged]
      exact List.cons_ne_nil _ _
    have sighting : (⟨value, cell.label, ⟨thread, kind⟩, (world.thread thread).name,
        first :: others⟩ : Sighting) =
        view.sighting value ⟨thread, kind⟩ (world.thread thread).name := by
      rw [View.sighting, judged, ← label]
      rfl
    have halfway : Halfway view value ⟨thread, kind⟩ (world.thread thread).name whole whole _ _ :=
      .judged on something
    rw [← sighting] at halfway
    exact furthers_of_alters found shown borrowed nothing halfway rfl rfl

/-- An access that is judged lets its thread join those that race. -/
theorem furthers_judged {name : Option String} (found : world.cells.get? value = some cell)
    (shown : world.view? value = some (view.counted ⟨thread, kind⟩))
    (borrowed : cell.borrowed = true) (on : view.cell.detecting = true)
    (something : (view.counted ⟨thread, kind⟩).against ⟨thread, kind⟩ ≠ []) :
    Furthers view value ⟨thread, kind⟩ name whole world
      (world.nextStage thread value kind cell whole
        (.judged (view.sighting value ⟨thread, kind⟩ name))) := by
  have joining : Alters value (View.join · thread) id world
      (world.joinRace cell (view.sighting value ⟨thread, kind⟩ name)) :=
    alters_joinRace world (view.sighting value ⟨thread, kind⟩ name) found
  rw [nextStage]
  exact furthers_of_alters found shown borrowed joining (.joined on something) rfl rfl

/-- An access whose thread races is counted in the ledger. -/
theorem furthers_joined {name : Option String} (found : world.cells.get? value = some cell)
    (shown : world.view? value = some ((view.counted ⟨thread, kind⟩).join thread))
    (borrowed : cell.borrowed = true) (on : view.cell.detecting = true)
    (something : (view.counted ⟨thread, kind⟩).against ⟨thread, kind⟩ ≠ []) :
    Furthers view value ⟨thread, kind⟩ name whole world
      (world.nextStage thread value kind cell whole
        (.joined (view.sighting value ⟨thread, kind⟩ name))) := by
  have tallying : Alters value (View.tally · view.cell.label) id world
      (world.tallyRace cell.sink (view.sighting value ⟨thread, kind⟩ name)) :=
    alters_tallyRace world (view.sighting value ⟨thread, kind⟩ name) found
  rw [nextStage]
  exact furthers_of_alters found shown borrowed tallying (.tallied on something) rfl rfl

/-- An access that the ledger has counted is reported, and goes on to its closure. -/
theorem furthers_tallied {name : Option String} (found : world.cells.get? value = some cell)
    (shown : world.view? value =
      some (((view.counted ⟨thread, kind⟩).join thread).tally view.cell.label))
    (borrowed : cell.borrowed = true) (on : view.cell.detecting = true)
    (something : (view.counted ⟨thread, kind⟩).against ⟨thread, kind⟩ ≠ []) :
    Furthers view value ⟨thread, kind⟩ name whole world
      (world.nextStage thread value kind cell whole
        (.tallied (view.sighting value ⟨thread, kind⟩ name))) := by
  have recorded : view.recorded value ⟨thread, kind⟩ name =
      (((view.counted ⟨thread, kind⟩).join thread).tally view.cell.label,
        some (view.sighting value ⟨thread, kind⟩ name)) := by
    rw [View.recorded, if_pos on, if_neg something]
  have halfway : Halfway view value ⟨thread, kind⟩ name whole whole _ _ :=
    .running whole view.cell.payload rfl
  rw [recorded] at halfway
  rw [nextStage]
  exact furthers_of_alters found shown borrowed (alters_sendReport world value _ _) halfway rfl rfl

/-- Closures work on the content bit by bit, and come to the same end. -/
theorem furthers_running {name : Option String} {closure : Closure α} {payload : α}
    (found : world.cells.get? value = some cell)
    (shown : world.view? value =
      some ((view.recorded value ⟨thread, kind⟩ name).1.store payload))
    (borrowed : cell.borrowed = true)
    (same : closure.work payload = whole.work view.cell.payload) :
    Furthers view value ⟨thread, kind⟩ name whole world
      (world.nextStage thread value kind cell closure
        (.running (view.recorded value ⟨thread, kind⟩ name).2)) := by
  have rest := atRest_of_view? found shown
  have content : cell.atRest.payload = payload := by rw [rest]; rfl
  change cell.payload = payload at content
  cases closure with
  | stretch change later =>
    have halfway : Halfway view value ⟨thread, kind⟩ name whole (later payload) _ _ :=
      .running (later payload) (change payload) same
    rw [nextStage, content]
    exact furthers_of_alters found shown borrowed (alters_stretch world value change) halfway rfl
      rfl
  | last work =>
    change work payload = _ at same
    have races : cell.raceCount =
        (view.recorded value ⟨thread, kind⟩ name).1.cell.raceCount := by
      change cell.atRest.raceCount = _
      rw [rest]
      rfl
    have answer : answerOf cell (view.recorded value ⟨thread, kind⟩ name).2 (work payload).2 =
        (view.access value ⟨thread, kind⟩ name whole).2 := by
      rw [same, View.access]
      unfold answerOf
      rw [races]
    rw [nextStage, content, answer]
    refine ⟨_, .ended _, (alters_last world value fun payload => (work payload).1).congr ?_ rfl⟩
    rw [shown, Option.map_some, Option.map_some, View.access, ← same]
    rfl

end

/-- The next stage brings an access further, and touches nothing but its value. -/
theorem furthers_nextStage {world : World α} {thread : ThreadId} {value : ValueId}
    {kind : AccessKind} {cell : Cell α} {view now : View α} {whole closure : Closure α}
    {stage : AccessStage α} (found : world.cells.get? value = some cell)
    (shown : world.view? value = some now) (borrowed : cell.borrowed = true)
    (idle : (world.thread thread).contextInUse = false)
    (halfway : Halfway view value ⟨thread, kind⟩ (world.thread thread).name whole closure stage now)
    (going : stage.borrows = true) :
    Furthers view value ⟨thread, kind⟩ (world.thread thread).name whole world
      (world.nextStage thread value kind cell closure stage) := by
  cases halfway with
  | begun => exact furthers_begun found shown borrowed
  | counted on => exact furthers_counted found shown borrowed idle on
  | copied on => exact furthers_copied found shown borrowed on
  | judged on something => exact furthers_judged found shown borrowed on something
  | joined on something => exact furthers_joined found shown borrowed on something
  | tallied on something => exact furthers_tallied found shown borrowed on something
  | running _ payload same => exact furthers_running found shown borrowed same
  | ended closure => cases going

end RaceSentry
