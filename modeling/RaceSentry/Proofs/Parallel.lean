import RaceSentry.Proofs.Turn

/-!
# Worlds that look the same to a program

A program sees contents, locks, open sections and its own faults, and nothing of clock tables,
contexts, ledgers, channels and the journal. Two worlds that agree on what it sees go on agreeing,
whatever the program does in both of them: detection only ever changes what is not seen. It is the
one access from inside of work on a context that would tell the difference.
Main statements: `Parallel.beginAccess` and `Parallel.enterSection`.
-/

namespace RaceSentry

variable {α β γ : Type}

/-- What a program sees of a value: the content, the lock, and whether a closure has the content. -/
def Cell.surface (cell : Cell α) : α × Lock × Bool := (cell.payload, cell.lock, cell.borrowed)

/-- What a program sees of a thread: its name, whether it works on its context, and its open
sections. -/
def ThreadState.surface (state : ThreadState) : Option String × Bool × List ValueId :=
  (state.name, state.contextInUse, state.sections)

/-- A program sees the same of two values if they have the same content, lock and borrow. -/
theorem Cell.surface_eq_iff {cell cell' : Cell α} : cell.surface = cell'.surface ↔
    cell.payload = cell'.payload ∧ cell.lock = cell'.lock ∧ cell.borrowed = cell'.borrowed := by
  simp only [surface, Prod.mk.injEq]

/-- A program sees the same of two threads if they have the same name, borrow and sections. -/
theorem ThreadState.surface_eq_iff {state state' : ThreadState} :
    state.surface = state'.surface ↔ state.name = state'.name ∧
      state.contextInUse = state'.contextInUse ∧ state.sections = state'.sections := by
  simp only [surface, Prod.mk.injEq]

/-- How an attempt came out, as far as its result is seen. -/
def Attempt.map (see : β → γ) : Attempt β → Attempt γ
  | .noValue => .noValue
  | .blocked => .blocked
  | .faulted fault => .faulted fault
  | .begun result => .begun (see result)

/-- How an attempt came out, without what detection tells of it. -/
def Attempt.blind (attempt : Attempt β) : Attempt Unit := attempt.map fun _ => ()

/-- Two attempts come out the same, as far as their results are seen. -/
inductive Attempt.Meets (see : β → γ) : Attempt β → Attempt β → Prop where
  /-- There is no value for either. -/
  | noValue : Meets see .noValue .noValue
  /-- Both wait for a lock. -/
  | blocked : Meets see .blocked .blocked
  /-- Both are cut short by the same fault. -/
  | faulted (fault : Fault) : Meets see (.faulted fault) (.faulted fault)
  /-- Both begin. -/
  | begun {result result' : β} (same : see result = see result') :
      Meets see (.begun result) (.begun result')

/-- Attempts that look the same come out the same. -/
theorem Attempt.meets_of_map_eq {see : β → γ} {attempt attempt' : Attempt β}
    (same : attempt.map see = attempt'.map see) : Attempt.Meets see attempt attempt' := by
  cases attempt with
  | noValue =>
    cases attempt' with
    | noValue => exact .noValue
    | _ => cases same
  | blocked =>
    cases attempt' with
    | blocked => exact .blocked
    | _ => cases same
  | faulted fault =>
    cases attempt' with
    | faulted fault' =>
      cases same
      exact .faulted fault
    | _ => cases same
  | begun result =>
    cases attempt' with
    | begun result' => exact .begun (Attempt.begun.inj same)
    | _ => cases same

namespace World

/-- Two worlds look the same to a program. -/
structure Parallel (world world' : World α) : Prop where
  /-- As many threads were started. -/
  started : world.started = world'.started
  /-- As many values were made. -/
  made : world.made = world'.made
  /-- The same threads run, and look the same. -/
  threads : ∀ thread, (world.threads.get? thread).map ThreadState.surface =
    (world'.threads.get? thread).map ThreadState.surface
  /-- The same values exist, and look the same. -/
  cells : ∀ value, (world.cells.get? value).map Cell.surface =
    (world'.cells.get? value).map Cell.surface

/-- A thread runs, and works on its context only if it is inside of such work. -/
structure Poised (thread : ThreadId) (inside : Bool) (world : World α) : Prop where
  /-- The thread runs. -/
  runs : world.threads.contains thread = true
  /-- Its context is in use only inside. -/
  calm : (world.thread thread).contextInUse = true → inside = true

namespace Parallel

variable {world world' next : World α} {thread : ThreadId} {value : ValueId}

/-- A world looks the same as itself. -/
theorem refl (world : World α) : Parallel world world := ⟨rfl, rfl, fun _ => rfl, fun _ => rfl⟩

/-- A world looks the same as those that look the same as it. -/
theorem symm (parallel : Parallel world world') : Parallel world' world :=
  ⟨parallel.started.symm, parallel.made.symm, fun thread => (parallel.threads thread).symm,
    fun value => (parallel.cells value).symm⟩

/-- A world looks the same as those that look the same as one that does. -/
theorem trans (first : Parallel world world') (second : Parallel world' next) :
    Parallel world next :=
  ⟨first.started.trans second.started, first.made.trans second.made,
    fun thread => (first.threads thread).trans (second.threads thread),
    fun value => (first.cells value).trans (second.cells value)⟩

/-- A change that is not seen may be made on either side. -/
theorem aside (parallel : Parallel world world') {later later' : World α}
    (unseen : Parallel world later) (unseen' : Parallel world' later') : Parallel later later' :=
  (unseen.symm.trans parallel).trans unseen'

/-- A program sees the same of a thread in both worlds. -/
theorem surface (parallel : Parallel world world') (thread : ThreadId) :
    (world.thread thread).surface = (world'.thread thread).surface := by
  have same := parallel.threads thread
  unfold World.thread
  cases found : world.threads.get? thread with
  | none =>
    rw [found] at same
    rw [Option.map_eq_none_iff.1 same.symm]
  | some state =>
    rw [found] at same
    obtain ⟨state', found', equal⟩ := Option.map_eq_some_iff.1 same.symm
    rw [found']
    exact equal.symm

/-- A thread works on its context in both worlds or in none. -/
theorem contextInUse (parallel : Parallel world world') (thread : ThreadId) :
    (world.thread thread).contextInUse = (world'.thread thread).contextInUse :=
  (ThreadState.surface_eq_iff.1 (parallel.surface thread)).2.1

/-- A thread has the same sections open in both worlds. -/
theorem sections (parallel : Parallel world world') (thread : ThreadId) :
    (world.thread thread).sections = (world'.thread thread).sections :=
  (ThreadState.surface_eq_iff.1 (parallel.surface thread)).2.2

/-- The same threads run in both worlds. -/
theorem running (parallel : Parallel world world') (thread : ThreadId) :
    world.threads.contains thread = world'.threads.contains thread := by
  have same := congrArg Option.isSome (parallel.threads thread)
  rw [Option.isSome_map, Option.isSome_map] at same
  exact same

/-- The same values exist in both worlds. -/
theorem present (parallel : Parallel world world') (value : ValueId) :
    world.cells.contains value = world'.cells.contains value := by
  have same := congrArg Option.isSome (parallel.cells value)
  rw [Option.isSome_map, Option.isSome_map] at same
  exact same

/-- The same values are known in both worlds. -/
theorem knows (parallel : Parallel world world') : world.knows = world'.knows := by
  funext thread
  unfold World.knows
  rw [parallel.started]

/-- A value that is gone in one world is gone in the other. -/
theorem absent (parallel : Parallel world world') (gone : world.cells.get? value = none) :
    world'.cells.get? value = none := by
  have same := parallel.cells value
  rw [gone] at same
  exact Option.map_eq_none_iff.1 same.symm

/-- A value that exists in one world exists in the other, and looks the same. -/
theorem found (parallel : Parallel world world') {cell : Cell α}
    (found : world.cells.get? value = some cell) :
    ∃ cell', world'.cells.get? value = some cell' ∧ cell'.payload = cell.payload ∧
      cell'.lock = cell.lock ∧ cell'.borrowed = cell.borrowed := by
  have same := parallel.cells value
  rw [found] at same
  obtain ⟨cell', found', surface⟩ := Option.map_eq_some_iff.1 same.symm
  exact ⟨cell', found', Cell.surface_eq_iff.1 surface⟩

/-- A thread is as it should be in both worlds or in none. -/
theorem poised (parallel : Parallel world world') {inside : Bool}
    (poised : Poised thread inside world) : Poised thread inside world' where
  runs := (parallel.running thread).symm.trans poised.runs
  calm := fun busy => poised.calm ((parallel.contextInUse thread).trans busy)

/-- The same change to what is seen of a value. -/
theorem modifyCell (parallel : Parallel world world') (value : ValueId)
    {change change' : Cell α → Cell α}
    (same : ∀ cell cell', cell.surface = cell'.surface →
      (change cell).surface = (change' cell').surface) :
    Parallel (world.modifyCell value change) (world'.modifyCell value change') where
  started := parallel.started
  made := parallel.made
  threads := parallel.threads
  cells := fun other => by
    rw [World.modifyCell, World.modifyCell, SortedMap.get?_modify, SortedMap.get?_modify]
    split
    · cases found : world.cells.get? value with
      | none =>
        rw [parallel.absent found]
        rfl
      | some cell =>
        obtain ⟨cell', found', seen⟩ := parallel.found found
        rw [found']
        exact congrArg some (same cell cell' (Cell.surface_eq_iff.2 seen).symm)
    · exact parallel.cells other

/-- The same change to what is seen of a thread. -/
theorem setThread (parallel : Parallel world world') (thread : ThreadId)
    {state state' : ThreadState} (same : state.surface = state'.surface) :
    Parallel (world.setThread thread state) (world'.setThread thread state') where
  started := parallel.started
  made := parallel.made
  threads := fun other => by
    rw [World.setThread, World.setThread, SortedMap.get?_insert, SortedMap.get?_insert]
    split
    · exact congrArg some same
    · exact parallel.threads other
  cells := parallel.cells

end Parallel

variable (world : World α)

/-- Detectors, receivers and the journal are not seen. -/
theorem parallel_of_same {next : World α} (threads : next.threads = world.threads)
    (started : next.started = world.started) (cells : next.cells = world.cells)
    (made : next.made = world.made) : Parallel world next :=
  ⟨started.symm, made.symm, fun thread => by rw [threads], fun value => by rw [cells]⟩

/-- A program does not see the journal. -/
theorem parallel_note (event : Event) : Parallel world (world.note event) :=
  parallel_of_same world rfl rfl rfl rfl

/-- The context of a running thread is not seen. -/
theorem parallel_bindContext {thread : ThreadId}
    (runs : world.threads.contains thread = true) (context : ThreadContext) :
    Parallel world (world.bindContext thread context) where
  started := rfl
  made := rfl
  threads := fun other => by
    obtain ⟨state, found⟩ := (SortedMap.contains_iff _ _).1 runs
    have stored : world.thread thread = state := by rw [World.thread, found, Option.getD_some]
    rw [bindContext, World.setThread, SortedMap.get?_insert, stored]
    split
    · rename_i here
      rw [here, found]
      rfl
    · rfl
  cells := fun _ => rfl

/-- Another context in place of the own one is not seen. -/
theorem parallel_attach {thread : ThreadId} (runs : world.threads.contains thread = true)
    (context : ThreadContext) :
    Parallel world ((world.noteAttached context).bindContext thread context) :=
  (parallel_note world (.attached context.identity context.name)).trans
    (parallel_bindContext (world.noteAttached context) runs context)

/-- The accounts of a value are not seen. -/
theorem parallel_setCell {value : ValueId} {cell changed : Cell α}
    (found : world.cells.get? value = some cell) (same : changed.surface = cell.surface) :
    Parallel world (world.setCell value changed) where
  started := rfl
  made := rfl
  threads := fun _ => rfl
  cells := fun other => by
    rw [World.setCell, SortedMap.get?_insert]
    split
    · rename_i here
      rw [here, found]
      exact congrArg some same.symm
    · rfl

/-- A program does not see whether a thread has a context before it works on it. -/
theorem parallel_ensureContext {thread : ThreadId}
    (runs : world.threads.contains thread = true) :
    Parallel world (world.ensureContext thread).1 := by
  cases bound : (world.thread thread).context with
  | some context =>
    rw [ensureContext_of_some world bound]
    exact .refl world
  | none =>
    rw [ensureContext_of_none world bound]
    exact parallel_attach world runs _

/-- Work on a context that is over at once is not seen, except that it is refused when the context
is in use. -/
theorem parallel_withContext {thread : ThreadId} (runs : world.threads.contains thread = true)
    (work : ThreadContext → ThreadContext × β) :
    Parallel world (world.withContext thread work).1 := by
  cases idle : (world.thread thread).contextInUse with
  | true =>
    rw [withContext_of_inUse world thread work idle]
    exact .refl world
  | false =>
    rw [withContext_eq world thread work idle]
    have ensured := parallel_ensureContext world runs
    exact ensured.trans (parallel_bindContext _ ((ensured.running thread).symm.trans runs) _)

/-- A program does not see the ledger of a sink. -/
theorem parallel_tallyRace (sink : Option DetectorId) (sighting : Sighting) :
    Parallel world (world.tallyRace sink sighting) := by
  unfold tallyRace
  split
  · exact .refl world
  · split
    · exact .refl world
    · exact parallel_of_same world rfl rfl rfl rfl

/-- Whether a report is lost is not seen. -/
theorem parallel_sendReport (sink : Option DetectorId) (sighting : Sighting) :
    Parallel world (world.sendReport sink sighting) := by
  unfold sendReport
  split
  · exact .refl world
  · split
    · exact .refl world
    · split
      · exact parallel_of_same world rfl rfl rfl rfl
      · exact parallel_of_same world rfl rfl rfl rfl

/-- Flagging an access is not seen. -/
theorem parallel_flag {cell : Cell α} {sighting : Sighting}
    (found : world.cells.get? sighting.value = some cell) :
    Parallel world (world.flag cell sighting) := by
  have joined : Parallel world (world.setCell sighting.value (cell.flag sighting.key.thread)) :=
    parallel_setCell world found rfl
  rw [flag_eq]
  exact ((joined.trans (parallel_note _ (.raced sighting))).trans (parallel_tallyRace _ _ _)).trans
    (parallel_sendReport _ _ _)

/-- Counting an access in both tables is not seen. -/
theorem parallel_tallyAccess {value : ValueId} {cell : Cell α} {key : AccessKey}
    (runs : world.threads.contains key.thread = true)
    (found : world.cells.get? value = some cell) :
    Parallel world (world.tallyAccess value cell key) := by
  have set : Parallel world (world.setCell value (cell.count key)) :=
    parallel_setCell world found rfl
  have counted : Parallel world (world.countAccess value cell key) :=
    set.trans (parallel_note _ (.recorded value key (cell.clock.next key)))
  have ensured : Parallel (world.countAccess value cell key)
      ((world.countAccess value cell key).ensureContext key.thread).1 :=
    parallel_ensureContext _ runs
  have runs' := ((counted.trans ensured).running key.thread).symm.trans runs
  exact (counted.trans ensured).trans (parallel_bindContext _ runs' _)

/-- Counting and judging an access is not seen, whatever the verdict. -/
theorem parallel_recordAccess {value : ValueId} {cell : Cell α} {key : AccessKey}
    (runs : world.threads.contains key.thread = true)
    (found : world.cells.get? value = some cell)
    (idle : (world.thread key.thread).contextInUse = false) :
    ∃ sighting later, world.recordAccess value cell key = (later, .ok sighting) ∧
      Parallel world later := by
  cases on : cell.detecting with
  | false => exact ⟨none, world, recordAccess_of_not_detecting world on, .refl world⟩
  | true =>
    have tallied := parallel_tallyAccess world runs found
    have stored : (world.tallyAccess value cell key).cells.get?
        (world.sightingOf value cell key).value = some (cell.count key) := by
      rw [tallyAccess, cells_copyCounter]
      exact SortedMap.get?_insert_self _ _ _
    rw [recordAccess_eq world on idle]
    split
    · exact ⟨_, _, rfl, tallied⟩
    · exact ⟨_, _, rfl, tallied.trans (parallel_flag _ stored)⟩

/-- An access that finds the content at rest is begun, whatever is recorded of it. -/
theorem beginAccess_of_idle {thread : ThreadId} {value : ValueId} {cell : Cell α} {lock : Lock}
    (kind : AccessKind) (runs : world.threads.contains thread = true)
    (idle : (world.thread thread).contextInUse = false)
    (found : world.cells.get? value = some cell) (taken : cell.lock.acquire? thread = some lock)
    (rest : cell.borrowed = false) :
    ∃ sighting later, Parallel world later ∧ world.beginAccess thread value kind =
      (later.modifyCell value fun cell => cell.take lock, .begun sighting) := by
  have records : ∃ sighting later, world.recordAccess value cell ⟨thread, kind⟩ =
      (later, .ok sighting) ∧ Parallel world later :=
    parallel_recordAccess world runs found idle
  obtain ⟨sighting, later, recorded, unseen⟩ := records
  refine ⟨sighting, later, unseen, ?_⟩
  unfold beginAccess
  simp only [found, taken, rest, Bool.false_eq_true, ↓reduceIte, recorded]
  rfl

/-- A section on a value at rest is entered, whatever the snapshot becomes. -/
theorem enterSection_of_idle {thread : ThreadId} {value : ValueId} {cell : Cell α} {lock : Lock}
    (runs : world.threads.contains thread = true)
    (idle : (world.thread thread).contextInUse = false)
    (found : world.cells.get? value = some cell) (taken : cell.lock.acquire? thread = some lock)
    (rest : cell.borrowed = false) :
    ∃ entries later, Parallel world later ∧ world.enterSection thread value =
      (later.modifyCell value fun cell => { cell with lock := lock }, .begun entries) := by
  have noted : Parallel world (world.note (.entering value cell.label cell.clock.size)) :=
    parallel_note world _
  have runs' := (noted.running thread).symm.trans runs
  refine ⟨cell.clock.size, _, noted.trans (parallel_withContext _ runs' fun context =>
    (context.replace value cell.clock, ())), ?_⟩
  have adopted := withContext_eq (world.note (.entering value cell.label cell.clock.size)) thread
    (fun context => (context.replace value cell.clock, ())) idle
  unfold enterSection
  simp only [found, taken, rest, Bool.false_eq_true, ↓reduceIte, adopted]

/-- What is done in two worlds comes out the same as far as it is seen, in worlds that look the
same, with the thread as it should be. -/
structure Agree (thread : ThreadId) (inside : Bool) (see : β → γ)
    (result result' : World α × β) : Prop where
  /-- The worlds look the same. -/
  parallel : Parallel result.1 result'.1
  /-- The thread works on its context only inside. -/
  poised : Poised thread inside result.1
  /-- What is seen of the outcomes is the same. -/
  same : see result.2 = see result'.2

/-- Attempts that agree come out the same, in worlds that look the same. -/
theorem Agree.meets {thread : ThreadId} {inside : Bool} {see : β → γ}
    {result result' : World α × Attempt β}
    (agree : Agree thread inside (Attempt.map see) result result') :
    ∃ next next' attempt attempt', result = (next, attempt) ∧ result' = (next', attempt') ∧
      Parallel next next' ∧ Poised thread inside next ∧ attempt.Meets see attempt' :=
  ⟨_, _, _, _, rfl, rfl, agree.parallel, agree.poised, Attempt.meets_of_map_eq agree.same⟩

section Seen

variable {world world' next : World α} {thread : ThreadId} {inside : Bool}

/-- A thread stands as before where no thread changes. -/
theorem Poised.of_same (poised : Poised thread inside world) (same : next.threads = world.threads) :
    Poised thread inside next where
  runs := by
    rw [same]
    exact poised.runs
  calm := by
    unfold World.thread
    rw [same]
    exact poised.calm

/-- A thread outside of work on its context does not have it in use. -/
theorem Poised.idle (poised : Poised thread false world) :
    (world.thread thread).contextInUse = false := by
  cases busy : (world.thread thread).contextInUse with
  | false => rfl
  | true => exact absurd (poised.calm busy) (by decide)

/-- An access comes out the same, and leaves worlds that look the same. -/
theorem Parallel.beginAccess (parallel : Parallel world world') (poised : Poised thread false world)
    (value : ValueId) (kind : AccessKind) :
    Agree thread false Attempt.blind (world.beginAccess thread value kind)
      (world'.beginAccess thread value kind) := by
  have poised' : Poised thread false world' := parallel.poised poised
  cases found : world.cells.get? value with
  | none =>
    have found' : world'.cells.get? value = none := parallel.absent found
    simp only [World.beginAccess, found, found']
    exact ⟨parallel, poised, rfl⟩
  | some cell =>
    obtain ⟨cell', found', _, lock, borrowed⟩ := parallel.found found
    cases taken : cell.lock.acquire? thread with
    | none =>
      simp only [World.beginAccess, found, found', lock, taken]
      exact ⟨parallel, poised, rfl⟩
    | some held =>
      have taken' : cell'.lock.acquire? thread = some held := lock ▸ taken
      cases rest : cell.borrowed with
      | true =>
        simp only [World.beginAccess, found, found', taken, taken', borrowed, rest, ↓reduceIte]
        exact ⟨parallel.aside (parallel_note _ _) (parallel_note _ _), poised.of_same rfl, rfl⟩
      | false =>
        -- What is recorded on either side is not seen; then the same is done to both cells.
        obtain ⟨sighting, later, unseen, begun⟩ :=
          beginAccess_of_idle world kind poised.runs poised.idle found taken rest
        obtain ⟨sighting', later', unseen', begun'⟩ :=
          beginAccess_of_idle world' kind poised'.runs poised'.idle found' taken'
            (borrowed.trans rest)
        rw [begun, begun']
        have held : Parallel (later.modifyCell value fun cell => cell.take held)
            (later'.modifyCell value fun cell => cell.take held) :=
          (parallel.aside unseen unseen').modifyCell value fun cell cell' same =>
            congrArg (fun seen => (seen.1, held, true)) same
        exact ⟨held, (unseen.poised poised).of_same rfl, rfl⟩

/-- Giving the lock up looks the same. -/
theorem surface_unlock {cell cell' : Cell α} (same : cell.surface = cell'.surface) :
    cell.unlock.surface = cell'.unlock.surface :=
  congrArg (fun seen => (seen.1, seen.2.1.release, seen.2.2)) same

/-- The end of a closure looks the same in both worlds. -/
theorem Parallel.endAccess (parallel : Parallel world world') (value : ValueId)
    (change : α → α) : Parallel (world.endAccess value change) (world'.endAccess value change) :=
  parallel.modifyCell value fun _ _ same =>
    congrArg (fun seen => (change seen.1, seen.2.1.release, false)) same

/-- Entering a section looks the same, whatever the clock tables are. -/
theorem Parallel.enterSection (parallel : Parallel world world')
    (poised : Poised thread inside world) (value : ValueId) :
    Agree thread inside Attempt.blind (world.enterSection thread value)
      (world'.enterSection thread value) := by
  have poised' : Poised thread inside world' := parallel.poised poised
  cases found : world.cells.get? value with
  | none =>
    have found' : world'.cells.get? value = none := parallel.absent found
    simp only [World.enterSection, found, found']
    exact ⟨parallel, poised, rfl⟩
  | some cell =>
    obtain ⟨cell', found', _, lock, borrowed⟩ := parallel.found found
    cases taken : cell.lock.acquire? thread with
    | none =>
      simp only [World.enterSection, found, found', lock, taken]
      exact ⟨parallel, poised, rfl⟩
    | some held =>
      have taken' : cell'.lock.acquire? thread = some held := lock ▸ taken
      cases rest : cell.borrowed with
      | true =>
        simp only [World.enterSection, found, found', taken, taken', borrowed, rest, ↓reduceIte]
        exact ⟨parallel, poised, rfl⟩
      | false =>
        cases busy : (world.thread thread).contextInUse with
        | true =>
          have busy' := (parallel.contextInUse thread).symm.trans busy
          rw [enterSection_of_inUse world busy found taken rest,
            enterSection_of_inUse world' busy' found' taken' (borrowed.trans rest)]
          exact ⟨parallel.aside (parallel_note _ _) (parallel_note _ _), poised.of_same rfl, rfl⟩
        | false =>
          have idle' := (parallel.contextInUse thread).symm.trans busy
          obtain ⟨entries, later, unseen, begun⟩ :=
            enterSection_of_idle world poised.runs busy found taken rest
          obtain ⟨entries', later', unseen', begun'⟩ :=
            enterSection_of_idle world' poised'.runs idle' found' taken' (borrowed.trans rest)
          rw [begun, begun']
          have entered : Parallel (later.modifyCell value fun cell => { cell with lock := held })
              (later'.modifyCell value fun cell => { cell with lock := held }) :=
            (parallel.aside unseen unseen').modifyCell value fun cell cell' same =>
              congrArg (fun seen => (seen.1, held, seen.2.2)) same
          exact ⟨entered, (unseen.poised poised).of_same rfl, rfl⟩

/-- The end of a section looks the same in both worlds. -/
theorem Parallel.leaveSection (parallel : Parallel world world') (value : ValueId) :
    Parallel (world.leaveSection value) (world'.leaveSection value) := by
  have noted : Parallel (world.note (.leaving value)) (world'.note (.leaving value)) :=
    parallel.aside (parallel_note _ _) (parallel_note _ _)
  exact noted.modifyCell value fun _ _ => surface_unlock

/-- A look at a value is refused alike. -/
theorem Parallel.inspect (parallel : Parallel world world') (poised : Poised thread inside world)
    (value : ValueId) (look : Cell α → β) (see : β → γ)
    (same : ∀ cell cell', see (look cell) = see (look cell')) :
    Agree thread inside (Attempt.map see) (world.inspect thread value look)
      (world'.inspect thread value look) := by
  cases found : world.cells.get? value with
  | none =>
    have found' : world'.cells.get? value = none := parallel.absent found
    simp only [World.inspect, found, found']
    exact ⟨parallel, poised, rfl⟩
  | some cell =>
    obtain ⟨cell', found', _, lock, borrowed⟩ := parallel.found found
    simp only [World.inspect, found, found', lock, borrowed]
    split
    · exact ⟨parallel, poised, rfl⟩
    · split
      · exact ⟨parallel.aside (parallel_note _ _) (parallel_note _ _), poised.of_same rfl, rfl⟩
      · exact ⟨parallel, poised, congrArg Attempt.begun (same cell cell')⟩

/-- Work on a context that is over at once is refused alike. -/
theorem Parallel.withContext (parallel : Parallel world world')
    (poised : Poised thread inside world) (work : ThreadContext → ThreadContext × β)
    (see : β → γ) (same : ∀ context context', see (work context).2 = see (work context').2) :
    Agree thread inside (Except.map see) (world.withContext thread work)
      (world'.withContext thread work) := by
  have poised' : Poised thread inside world' := parallel.poised poised
  have unseen := parallel_withContext world poised.runs work
  have unseen' := parallel_withContext world' poised'.runs work
  refine ⟨parallel.aside unseen unseen', unseen.poised poised, ?_⟩
  cases busy : (world.thread thread).contextInUse with
  | true =>
    have busy' := (parallel.contextInUse thread).symm.trans busy
    rw [withContext_of_inUse world thread work busy, withContext_of_inUse world' thread work busy']
  | false =>
    have idle' := (parallel.contextInUse thread).symm.trans busy
    rw [withContext_eq world thread work busy, withContext_eq world' thread work idle']
    exact congrArg Except.ok (same _ _)

/-- Work on a context that lasts begins alike. -/
theorem Parallel.openContext (parallel : Parallel world world')
    (runs : world.threads.contains thread = true)
    (idle : (world.thread thread).contextInUse = false) :
    Parallel (world.openContext thread).1 (world'.openContext thread).1 := by
  have runs' := (parallel.running thread).symm.trans runs
  have idle' := (parallel.contextInUse thread).symm.trans idle
  have ensured : Parallel (world.ensureContext thread).1 (world'.ensureContext thread).1 :=
    parallel.aside (parallel_ensureContext world runs) (parallel_ensureContext world' runs')
  unfold World.openContext
  rw [if_neg (by simp [idle]), if_neg (by simp [idle'])]
  exact ensured.setThread thread
    (congrArg (fun seen => (seen.1, true, seen.2.2)) (ensured.surface thread))

/-- A thread that is in the middle of work on its context is inside of it. -/
theorem Poised.of_runs (runs : world.threads.contains thread = true) : Poised thread true world :=
  ⟨runs, fun _ => rfl⟩

/-- A thread that closes its context is as it should be outside of such work. -/
theorem Poised.closeContext (poised : Poised thread true world) :
    Poised thread inside (world.closeContext thread) where
  runs := ((alike_setThread world poised.runs _).running thread).trans poised.runs
  calm := fun busy => by
    rw [World.closeContext, thread_setThread, if_pos rfl] at busy
    exact absurd busy Bool.false_ne_true

/-- A context that is closed looks the same in both worlds. -/
theorem Parallel.closeContext (parallel : Parallel world world') (thread : ThreadId) :
    Parallel (world.closeContext thread) (world'.closeContext thread) :=
  parallel.setThread thread
    (congrArg (fun seen => (seen.1, false, seen.2.2)) (parallel.surface thread))

end Seen

end World

end RaceSentry
