import RaceSentry.Proofs.Parallel

/-!
# Actions that cannot tell

Whatever an action does in two worlds that look the same, it comes out the same: the same contents
and measurements, the same faults, caught at the same places. Only what it asks of detection itself
may be answered differently, and an access from inside of work on a context may be cut short in one
world and not in the other; actions that make none are considerate.
Main statement: `agree_run`.
-/

namespace RaceSentry

open World

variable {α β γ : Type}

namespace Answer

mutual

/-- An answer without what detection tells: sightings, racing threads, tables and snapshots. -/
def blind : Answer α → Answer α
  | .access result _ _ body => .access result none 0 (blindInside body)
  | .block body => .block (blindBody body)
  | .caught body fault => .caught (blindBody body) fault
  | .blocked => .blocked
  | .refused reason => .refused reason
  | .key own => .key own
  | .done => .done
  | .count _ => .done
  | .racing _ => .done
  | .truth _ => .done
  | .clock _ => .done
  | .snapshot _ => .done
  | .summary _ => .done
  | .text _ => .done

/-- The answers of a body without what detection tells. -/
def blindBody : List (Answer α) → List (Answer α)
  | [] => []
  | answer :: rest => blind answer :: blindBody rest

/-- The answers of a closure, if it has a body, without what detection tells. -/
def blindInside : Option (List (Answer α)) → Option (List (Answer α))
  | none => none
  | some body => some (blindBody body)

end

/-- How a body came out, without what detection tells. -/
def blindRun (outcome : List (Answer α) × Option Fault) : List (Answer α) × Option Fault :=
  (blindBody outcome.1, outcome.2)

/-- How a closure came out, without what detection tells. -/
def blindClosure (outcome : Option (List (Answer α)) × Option Fault) :
    Option (List (Answer α)) × Option Fault :=
  (blindInside outcome.1, outcome.2)

/-- How an action came out, without what detection tells. -/
def blindOutcome (outcome : Except Fault (Answer α)) : Except Fault (Answer α) :=
  outcome.map blind

end Answer

namespace Action

mutual

/-- Whether an action makes no access from inside of work on the context. -/
def considerate (inside : Bool) : Action α → Bool
  | .read _ => !inside
  | .readWith _ body _ => !inside && considerateInside inside body
  | .write _ _ => !inside
  | .replace _ _ => !inside
  | .update _ body _ => !inside && considerateInside inside body
  | .synchronized _ _ body => considerateBody inside body
  | .attempt body => considerateBody inside body
  | .withContext body => considerateBody true body
  | .raise _ => true
  | .query _ _ => true
  | .describe _ _ => true
  | .context _ => true
  | .unclear _ => true

/-- Whether no action of a body makes an access from inside of work on the context. -/
def considerateBody (inside : Bool) : List (Action α) → Bool
  | [] => true
  | action :: rest => considerate inside action && considerateBody inside rest

/-- Whether a closure makes no access from inside of work on the context. -/
def considerateInside (inside : Bool) : Option (List (Action α)) → Bool
  | none => true
  | some body => considerateBody inside body

end

end Action

section Parts

variable {world world' : World α} {thread : ThreadId} {inside : Bool}

/-- An access comes out the same if its closure does. -/
theorem agree_access (parallel : Parallel world world') (poised : Poised thread false world)
    (value : ValueId) (kind : AccessKind)
    {body : World α → World α × Option (List (Answer α)) × Option Fault}
    (bodies : ∀ next next' : World α, Parallel next next' → Poised thread false next →
      Agree thread false Answer.blindClosure (body next) (body next'))
    (work : α → α × Except String (Result α)) :
    Agree thread false Answer.blindOutcome (world.access thread value kind body work)
      (world'.access thread value kind body work) := by
  obtain ⟨next, next', attempt, attempt', asked, asked', parallel, poised, meets⟩ :=
    (parallel.beginAccess poised value kind).meets
  unfold World.access
  rw [asked, asked']
  cases meets with
  | noValue => exact ⟨parallel, poised, rfl⟩
  | blocked => exact ⟨parallel, poised, rfl⟩
  | faulted fault => exact ⟨parallel, poised, rfl⟩
  | @begun sighting sighting' _ =>
    have ran := bodies next next' parallel poised
    dsimp only
    generalize body next = result at ran
    generalize body next' = result' at ran
    obtain ⟨later, answers, fault⟩ := result
    obtain ⟨later', answers', fault'⟩ := result'
    have parallel : Parallel later later' := ran.parallel
    have poised : Poised thread false later := ran.poised
    have seen : Answer.blindInside answers = Answer.blindInside answers' :=
      congrArg Prod.fst ran.same
    have faults : fault = fault' := congrArg Prod.snd ran.same
    cases faults with
    | refl =>
      cases fault with
      | some fault => exact ⟨parallel.endAccess value id, poised.of_same rfl, rfl⟩
      | none =>
        cases found : later.cells.get? value with
        | none =>
          have found' : later'.cells.get? value = none := parallel.absent found
          simp only [found, found']
          exact ⟨parallel, poised, rfl⟩
        | some cell =>
          obtain ⟨cell', found', content, _⟩ := parallel.found found
          have ended := parallel.endAccess value fun _ => (work cell.payload).1
          simp only [found, found', content]
          cases made : (work cell.payload).2 with
          | error text => exact ⟨ended, poised.of_same rfl, rfl⟩
          | ok result =>
            have told : Answer.blindOutcome (.ok (.access result sighting cell.raceCount answers)) =
                Answer.blindOutcome (.ok (.access result sighting' cell'.raceCount answers')) :=
              congrArg (fun body => Except.ok (Answer.access result none 0 body)) seen
            exact ⟨ended, poised.of_same rfl, told⟩

/-- A block that is left comes out the same if what it did does. -/
theorem agree_block {within : Bool} {body : World α → World α × List (Answer α) × Option Fault}
    (ran : Agree thread within Answer.blindRun (body world) (body world'))
    (leave : World α → World α)
    (left : Parallel (leave (body world).1) (leave (body world').1))
    (poised : Poised thread inside (leave (body world).1)) :
    Agree thread inside Answer.blindOutcome
      (match body world with
        | (world, _, some fault) => (leave world, .error fault)
        | (world, answers, none) => (leave world, .ok (.block answers)))
      (match body world' with
        | (world, _, some fault) => (leave world, .error fault)
        | (world, answers, none) => (leave world, .ok (.block answers))) := by
  generalize body world = outcome at *
  generalize body world' = outcome' at *
  obtain ⟨later, answers, fault⟩ := outcome
  obtain ⟨later', answers', fault'⟩ := outcome'
  have seen : Answer.blindBody answers = Answer.blindBody answers' := congrArg Prod.fst ran.same
  have faults : fault = fault' := congrArg Prod.snd ran.same
  cases faults with
  | refl =>
    cases fault with
    | some fault => exact ⟨left, poised, rfl⟩
    | none => exact ⟨left, poised, congrArg (fun body => Except.ok (Answer.block body)) seen⟩

/-- A section comes out the same if its block does. -/
theorem agree_section (parallel : Parallel world world') (poised : Poised thread inside world)
    (value : ValueId) {body : World α → World α × List (Answer α) × Option Fault}
    (bodies : ∀ next next' : World α, Parallel next next' → Poised thread inside next →
      Agree thread inside Answer.blindRun (body next) (body next')) :
    Agree thread inside Answer.blindOutcome
      (match world.enterSection thread value with
        | (world, .begun _) =>
          match body world with
          | (world, _, some fault) => (world.leaveSection value, .error fault)
          | (world, answers, none) => (world.leaveSection value, .ok (.block answers))
        | (world, outcome) => (world, notBegun outcome))
      (match world'.enterSection thread value with
        | (world, .begun _) =>
          match body world with
          | (world, _, some fault) => (world.leaveSection value, .error fault)
          | (world, answers, none) => (world.leaveSection value, .ok (.block answers))
        | (world, outcome) => (world, notBegun outcome)) := by
  obtain ⟨next, next', attempt, attempt', asked, asked', parallel, poised, meets⟩ :=
    (parallel.enterSection poised value).meets
  rw [asked, asked']
  cases meets with
  | noValue => exact ⟨parallel, poised, rfl⟩
  | blocked => exact ⟨parallel, poised, rfl⟩
  | faulted fault => exact ⟨parallel, poised, rfl⟩
  | begun _ =>
    have ran := bodies next next' parallel poised
    exact agree_block ran (fun world => world.leaveSection value)
      (ran.parallel.leaveSection value) (ran.poised.of_same rfl)

/-- Work on a context comes out the same if its body does. -/
theorem agree_withContext (parallel : Parallel world world') (poised : Poised thread inside world)
    {body : World α → World α × List (Answer α) × Option Fault}
    (bodies : ∀ next next' : World α, Parallel next next' → Poised thread true next →
      Agree thread true Answer.blindRun (body next) (body next')) :
    Agree thread inside Answer.blindOutcome
      (match world.openContext thread with
        | (world, .error fault) => (world, .error fault)
        | (world, .ok ()) =>
          match body world with
          | (world, _, some fault) => (world.closeContext thread, .error fault)
          | (world, answers, none) => (world.closeContext thread, .ok (.block answers)))
      (match world'.openContext thread with
        | (world, .error fault) => (world, .error fault)
        | (world, .ok ()) =>
          match body world with
          | (world, _, some fault) => (world.closeContext thread, .error fault)
          | (world, answers, none) => (world.closeContext thread, .ok (.block answers))) := by
  cases busy : (world.thread thread).contextInUse with
  | true =>
    have busy' := (parallel.contextInUse thread).symm.trans busy
    rw [openContext_of_inUse world busy, openContext_of_inUse world' busy']
    exact ⟨parallel, poised, rfl⟩
  | false =>
    have idle' := (parallel.contextInUse thread).symm.trans busy
    have opened := parallel.openContext poised.runs busy
    have runs : (world.openContext thread).1.threads.contains thread = true :=
      ((kept_openContext world poised.runs).running thread).trans poised.runs
    have ran := bodies _ _ opened (.of_runs runs)
    rw [openContext_of_idle world busy, openContext_of_idle world' idle']
    exact agree_block ran (fun world => world.closeContext thread)
      (ran.parallel.closeContext thread) ran.poised.closeContext

/-- What is asked of a value comes out the same: it is refused alike, and what it tells is of
detection. -/
theorem agree_looked (parallel : Parallel world world') (poised : Poised thread inside world)
    (value : ValueId) {look : Cell α → Answer α} (told : ∀ cell, (look cell).blind = .done) :
    Agree thread inside Answer.blindOutcome
      (match world.inspect thread value look with
        | (world, .begun answer) => (world, .ok answer)
        | (world, attempt) => (world, notBegun attempt))
      (match world'.inspect thread value look with
        | (world, .begun answer) => (world, .ok answer)
        | (world, attempt) => (world, notBegun attempt)) := by
  have same : ∀ cell cell', (look cell).blind = (look cell').blind := fun cell cell' =>
    (told cell).trans (told cell').symm
  obtain ⟨next, next', attempt, attempt', asked, asked', parallel, poised, meets⟩ :=
    (parallel.inspect poised value look Answer.blind same).meets
  rw [asked, asked']
  cases meets with
  | noValue => exact ⟨parallel, poised, rfl⟩
  | blocked => exact ⟨parallel, poised, rfl⟩
  | faulted fault => exact ⟨parallel, poised, rfl⟩
  | begun same => exact ⟨parallel, poised, congrArg Except.ok same⟩

/-- A question about a value is answered alike in worlds that differ in what detection tells
alone. -/
theorem agree_answerQuery (parallel : Parallel world world') (poised : Poised thread inside world)
    (value : ValueId) (query : Query) :
    Agree thread inside Answer.blindOutcome (world.answerQuery thread value query)
      (world'.answerQuery thread value query) := by
  cases query with
  | raceCount => exact agree_looked parallel poised value fun _ => rfl
  | racing => exact agree_looked parallel poised value fun _ => rfl
  | clock => exact agree_looked parallel poised value fun _ => rfl
  | isRacing other =>
    unfold World.answerQuery
    cases found : world.cells.get? value with
    | none =>
      have found' : world'.cells.get? value = none := parallel.absent found
      simp only [found']
      exact ⟨parallel, poised, rfl⟩
    | some cell =>
      obtain ⟨cell', found', _, lock, _⟩ := parallel.found found
      simp only [found', lock, ← parallel.knows]
      split
      · exact ⟨parallel, poised, rfl⟩
      · split
        · exact ⟨parallel, poised, rfl⟩
        · exact agree_looked parallel poised value fun _ => rfl

/-- A context that is asked for by name is found alike. -/
theorem World.Parallel.lookUp (parallel : Parallel world world') (request : ContextRequest) :
    world.lookUp request = world'.lookUp request := by
  have knows := parallel.knows
  have present (value : ValueId) : world.cells.contains value = world'.cells.contains value :=
    parallel.present value
  cases request with
  | attach origin =>
    cases origin with
    | none => rfl
    | some origin => simp only [World.lookUp, knows]
  | _ => simp only [World.lookUp, knows, present]

/-- A request to the own context is answered alike. -/
theorem agree_answerRequest (parallel : Parallel world world')
    (poised : Poised thread inside world) (request : ContextRequest) :
    Agree thread inside Answer.blindOutcome (world.answerRequest thread request)
      (world'.answerRequest thread request) := by
  have busy := parallel.contextInUse thread
  unfold World.answerRequest
  cases request with
  | key kind => exact ⟨parallel, poised, rfl⟩
  | snapshotOf value =>
    dsimp only
    rw [busy]
    split
    · exact ⟨parallel, poised, rfl⟩
    · exact ⟨parallel, poised, rfl⟩
  | summary => exact parallel.withContext poised _ Answer.blind fun _ _ => rfl
  | snapshot value => exact parallel.withContext poised _ Answer.blind fun _ _ => rfl
  | record value key counter => exact parallel.withContext poised _ Answer.blind fun _ _ => rfl
  | replace value entries => exact parallel.withContext poised _ Answer.blind fun _ _ => rfl
  | forget value => exact parallel.withContext poised _ Answer.blind fun _ _ => rfl
  | attach origin =>
    dsimp only
    rw [busy]
    have bound (context context' : ThreadContext) :
        Parallel ((world.noteAttached context).bindContext thread context)
          ((world'.noteAttached context').bindContext thread context') :=
      parallel.aside (parallel_attach world poised.runs context)
        (parallel_attach world' (parallel.poised poised).runs context')
    split
    · exact ⟨parallel.aside (parallel_note _ _) (parallel_note _ _), poised.of_same rfl, rfl⟩
    · exact ⟨bound _ _, (parallel_attach world poised.runs _).poised poised, rfl⟩

/-- A request to a context is answered alike, whether it is in use or not. -/
theorem agree_answerContext (parallel : Parallel world world')
    (poised : Poised thread inside world) (request : ContextRequest) :
    Agree thread inside Answer.blindOutcome (world.answerContext thread request)
      (world'.answerContext thread request) := by
  unfold World.answerContext
  rw [← parallel.lookUp request]
  split
  · exact ⟨parallel, poised, rfl⟩
  · exact agree_answerRequest parallel poised request

/-- A request that cannot be understood is answered alike. -/
theorem World.Parallel.answerUnclear (parallel : Parallel world world') (thread : ThreadId)
    (fragment : Fragment) :
    world.answerUnclear thread fragment = world'.answerUnclear thread fragment := by
  unfold World.answerUnclear
  rw [← parallel.knows]
  cases fragment.value with
  | none => rfl
  | some value =>
    cases found : world.cells.get? value with
    | none =>
      have found' : world'.cells.get? value = none := parallel.absent found
      simp only [found, found']
    | some cell =>
      obtain ⟨cell', found', _, lock, _⟩ := parallel.found found
      simp only [found, found', lock]

end Parts

mutual

/-- A considerate action comes out the same in worlds that look the same, and leaves worlds that
look the same. -/
theorem agree_run {world world' : World α} (thread : ThreadId) (action : Action α) (inside : Bool)
    (considerate : action.considerate inside = true) (parallel : Parallel world world')
    (poised : Poised thread inside world) :
    Agree thread inside Answer.blindOutcome (action.run thread world)
      (action.run thread world') := by
  unfold Action.run
  -- Inside of work on a context no access is considerate; outside of it the thread is idle, and
  -- the closure runs outside of it, too.
  cases action with
  | read value =>
    cases inside with
    | false =>
      exact agree_access parallel poised value .read
        (fun _ _ parallel poised => ⟨parallel, poised, rfl⟩) _
    | true => cases considerate
  | readWith value body measure =>
    cases inside with
    | false =>
      exact agree_access parallel poised value .read
        (fun _ _ parallel poised => agree_runInside thread body false considerate parallel poised) _
    | true => cases considerate
  | write value payload =>
    cases inside with
    | false =>
      exact agree_access parallel poised value .write
        (fun _ _ parallel poised => ⟨parallel, poised, rfl⟩) _
    | true => cases considerate
  | replace value payload =>
    cases inside with
    | false =>
      exact agree_access parallel poised value .write
        (fun _ _ parallel poised => ⟨parallel, poised, rfl⟩) _
    | true => cases considerate
  | update value body change =>
    cases inside with
    | false =>
      exact agree_access parallel poised value .write
        (fun _ _ parallel poised => agree_runInside thread body false considerate parallel poised) _
    | true => cases considerate
  | synchronized value route body =>
    exact agree_section parallel poised value fun _ _ parallel poised =>
      agree_runBody thread body inside considerate parallel poised
  | attempt body =>
    have ran := agree_runBody thread body inside considerate parallel poised
    have told := congrArg (fun outcome : List (Answer α) × Option Fault =>
      (Except.ok (.caught outcome.1 outcome.2) : Except Fault (Answer α))) ran.same
    exact ⟨ran.parallel, ran.poised, told⟩
  | raise text => exact ⟨parallel, poised, rfl⟩
  | query value question => exact agree_answerQuery parallel poised value question
  | describe value spread =>
    dsimp only
    cases found : world.cells.get? value with
    | none =>
      have found' : world'.cells.get? value = none := parallel.absent found
      rw [found']
      exact ⟨parallel, poised, rfl⟩
    | some cell =>
      obtain ⟨cell', found', _⟩ := parallel.found found
      rw [found']
      exact ⟨parallel, poised, rfl⟩
  | context request => exact agree_answerContext parallel poised request
  | withContext body =>
    exact agree_withContext parallel poised fun _ _ parallel poised =>
      agree_runBody thread body true considerate parallel poised
  | unclear fragment =>
    exact ⟨parallel, poised,
      congrArg (fun answer => Except.ok (Answer.blind answer))
        (parallel.answerUnclear thread fragment)⟩

/-- Bodies that are considerate come out alike, step by step. -/
theorem agree_runBody {world world' : World α} (thread : ThreadId) (body : List (Action α))
    (inside : Bool) (considerate : Action.considerateBody inside body = true)
    (parallel : Parallel world world') (poised : Poised thread inside world) :
    Agree thread inside Answer.blindRun (Action.runBody thread body world)
      (Action.runBody thread body world') := by
  cases body with
  | nil => exact ⟨parallel, poised, rfl⟩
  | cons action rest =>
    have both : action.considerate inside = true ∧ Action.considerateBody inside rest = true :=
      Bool.and_eq_true_iff.1 considerate
    have first := agree_run thread action inside both.1 parallel poised
    unfold Action.runBody
    generalize action.run thread world = ran at first
    generalize action.run thread world' = ran' at first
    obtain ⟨next, outcome⟩ := ran
    obtain ⟨next', outcome'⟩ := ran'
    cases outcome with
    | error fault =>
      cases outcome' with
      | error fault' =>
        cases first.same
        exact ⟨first.parallel, first.poised, rfl⟩
      | ok answer' => cases first.same
    | ok answer =>
      cases outcome' with
      | error fault' => cases first.same
      | ok answer' =>
        have later := agree_runBody thread rest inside both.2 first.parallel first.poised
        have seen : answer.blind = answer'.blind := Except.ok.inj first.same
        have told := congr (congrArg (fun answer (outcome : List (Answer α) × Option Fault) =>
          (answer :: outcome.1, outcome.2)) seen) later.same
        exact ⟨later.parallel, later.poised, told⟩

/-- What a closure does inside of an access comes out alike. -/
theorem agree_runInside {world world' : World α} (thread : ThreadId)
    (body : Option (List (Action α))) (inside : Bool)
    (considerate : Action.considerateInside inside body = true)
    (parallel : Parallel world world') (poised : Poised thread inside world) :
    Agree thread inside Answer.blindClosure (Action.runInside thread body world)
      (Action.runInside thread body world') := by
  cases body with
  | none => exact ⟨parallel, poised, rfl⟩
  | some body =>
    have ran := agree_runBody thread body inside considerate parallel poised
    exact ⟨ran.parallel, ran.poised,
      congrArg (fun outcome => (some outcome.1, outcome.2)) ran.same⟩

end

end RaceSentry
