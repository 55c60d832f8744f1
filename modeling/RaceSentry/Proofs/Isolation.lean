import RaceSentry.Proofs.Twin

/-!
# Values are isolated from each other

Of a run, whatever is done to other values may be left out: then the same accesses to one value come
out the same, with the same conflicts, and in the end its clock table, its racing threads, its
snapshots and its accounts in the ledgers are the same. A section on another value never makes a
difference, and what is done inside of another value's closure is as if it were done outside.
Main statement: `value_isolated`.
-/

namespace RaceSentry

open World

variable {α : Type}

namespace Scene

/-- A move out of something is left if what it leads out of is left. -/
theorem echo_out {value twin : ValueId} {scene scene' : Scene α} {world : World α}
    {thread : ThreadId} (lone : Lone value twin scene scene') {move : Move α} {frame : Frame}
    {rest : List Frame}
    (left : scene.lone? value twin move =
      if scene.inside value twin thread then some move else none)
    (frames : scene.frames thread = frame :: rest)
    (untouched : frame.lone value twin = none → world.facet value = scene.world.facet value)
    (goes : ∀ frame', frame.lone value twin = some frame' →
      scene'.frames thread = frame' :: rest.filterMap (Frame.lone value twin) →
        ∃ world', scene'.perform? move =
            some (scene'.become world' thread (rest.filterMap (Frame.lone value twin)), []) ∧
          Along value twin scene.world scene'.world world world') :
    Echo value twin scene' (scene.become world thread rest) [] (scene.lone? value twin move) := by
  have inside : scene.inside value twin thread = (frame.lone value twin).isSome := by
    rw [Scene.inside, frames, List.head?_cons, Option.bind_some]
  have frames' := lone.frames thread
  rw [frames] at frames'
  rw [left, inside]
  cases kept : frame.lone value twin with
  | none => exact .aside (lone.become_aside (untouched kept) frames kept) rfl
  | some frame' =>
    rw [List.filterMap_cons_some kept] at frames'
    obtain ⟨world', performed, along⟩ := goes frame' kept frames'
    exact .along performed (lone.become along rest) rfl

/-- A context that is edited by hand, or put in place of another one, is left with the snapshot of
the value. -/
theorem knowsAll_adopt {value twin : ValueId} {scene scene' : Scene α}
    (lone : Lone value twin scene scene') (own : ThreadContext)
    (blank : ∀ other, other ≠ twin → own.snapshot? other = none) {context : ThreadContext}
    (known : scene.world.knowsAll context = true) :
    scene'.world.knowsAll (own.adopt twin (context.snapshot? value)) = true := by
  refine knowsAll_of_snapshot? fun other held => ?_
  rw [ThreadContext.snapshot?_adopt] at held
  split at held
  · rename_i here
    have made := index_lt_of_knowsAll scene.world known held
    rw [lone.made, if_pos made, here]
    exact Nat.lt_succ_self _
  · rename_i different
    rw [blank other different] at held
    cases held

section Moves

variable {value twin other : ValueId} {scene scene' next : Scene α} {world world' : World α}
  {thread : ThreadId} {kind : AccessKind} {told : History}
  (lone : Lone value twin scene scene')
  (runs : scene.world.threads.contains thread = true)

include lone runs

/-- An access that is asked for comes out as on the twin, or does not touch the value. -/
theorem along_of_asksAccess {attempt : Attempt (Option Sighting)}
    (asked : scene.world.AsksAccess thread value kind world attempt) :
    ∃ world', scene'.world.AsksAccess thread twin kind world' (attempt.of twin) ∧
      Along value twin scene.world scene'.world world world' := by
  have runs' := (lone.running thread).trans runs
  obtain ⟨world', asked', facet⟩ := asked.alike lone.facet runs
  exact ⟨world', asked', .of_facet facet (alike_of_asksAccess runs asked).made
    (alike_of_asksAccess runs' asked').made fun _ different =>
      facet_of_asksAccess runs' different asked'⟩

/-- A section that is asked for comes out as on the twin, or does not touch the value. -/
theorem along_of_asksSection {attempt : Attempt Nat}
    (asked : scene.world.AsksSection thread other world attempt) :
    (other = value ∧ ∃ world', scene'.world.AsksSection thread twin world' attempt ∧
      Along value twin scene.world scene'.world world world') ∨
    (other ≠ value ∧ world.facet value = scene.world.facet value) := by
  by_cases here : other = value
  · subst here
    have runs' := (lone.running thread).trans runs
    obtain ⟨world', asked', facet⟩ := asked.alike lone.facet runs
    exact .inl ⟨rfl, world', asked', .of_facet facet (alike_of_asksSection runs asked).made
      (alike_of_asksSection runs' asked').made fun _ different =>
        facet_of_asksSection runs' different asked'⟩
  · exact .inr ⟨here, facet_of_asksSection runs (Ne.symm here) asked⟩

/-- A thread that runs in one scene can move in the other one. -/
theorem perform?_of_outcome {move : Move α} (mover : move.thread? = some thread)
    (outcome : scene'.Outcome move next told) : scene'.perform? move = some (next, told) :=
  outcome.perform? mover ((lone.running thread).trans runs)

/-- An access that is begun is left if it is one to the value. -/
theorem echo_access {sighting : Option Sighting}
    (asked : scene.world.AsksAccess thread other kind world (.begun sighting)) :
    Echo value twin scene' (scene.into world thread (.closure other kind))
      (if scene.world.watches other then [.accessed thread other kind sighting] else [])
      (scene.lone? value twin (.access thread other kind)) := by
  rw [lone?]
  by_cases here : other = value
  · subst here
    obtain ⟨world', asked', along⟩ := along_of_asksAccess lone runs asked
    rw [if_pos rfl]
    refine .along (perform?_of_outcome lone runs rfl (.access asked'))
      (lone.into along (if_pos rfl)) ?_
    rw [watches, get?_of_facet lone.facet, ← watches]
    cases scene.world.watches other with
    | false => rfl
    | true => cases sighting <;> simp [History.of, Happening.of, Sighting.of]
  · rw [if_neg here]
    refine .aside (lone.into_aside (facet_of_asksAccess runs (Ne.symm here) asked) (if_neg here)) ?_
    cases scene.world.watches other with
    | false => rfl
    | true => simp [History.of, Happening.of, here]

/-- An access that is cut short is left if it is one to the value. -/
theorem echo_stall
    (asked : scene.world.AsksAccess thread other kind world (.faulted .borrowed)) :
    Echo value twin scene' (scene.withWorld world) [.stalled thread other kind]
      (scene.lone? value twin (.access thread other kind)) := by
  rw [lone?]
  by_cases here : other = value
  · subst here
    obtain ⟨world', asked', along⟩ := along_of_asksAccess lone runs asked
    rw [if_pos rfl]
    exact .along (perform?_of_outcome lone runs rfl (.stall asked')) (lone.withWorld along)
      (by simp [History.of, Happening.of])
  · rw [if_neg here]
    have facet := facet_of_asksAccess runs (Ne.symm here) asked
    exact .aside (lone.aside facet fun _ => rfl) (by simp [History.of, Happening.of, here])

/-- An access that is refused is left if it is one to the value. -/
theorem echo_reenter
    (asked : scene.world.AsksAccess thread other kind world (.faulted (.reentered other))) :
    Echo value twin scene' (scene.withWorld world) []
      (scene.lone? value twin (.access thread other kind)) := by
  rw [lone?]
  by_cases here : other = value
  · subst here
    obtain ⟨world', asked', along⟩ := along_of_asksAccess lone runs asked
    rw [if_pos rfl]
    exact .along (perform?_of_outcome lone runs rfl (.reenter asked')) (lone.withWorld along) rfl
  · rw [if_neg here]
    exact .aside (lone.aside (facet_of_asksAccess runs (Ne.symm here) asked) fun _ => rfl) rfl

/-- The end of a closure is left if the closure is one on the value. -/
theorem echo_finish {kind : AccessKind} {rest : List Frame} (change : α → α)
    (frames : scene.frames thread = .closure other kind :: rest) :
    Echo value twin scene'
      (scene.become (scene.world.endAccess other (kind.permitted change)) thread rest) []
      (scene.lone? value twin (.finish thread change)) := by
  refine echo_out lone rfl frames (fun gone => ?_) fun frame' kept frames' => ?_
  · have different : other ≠ value := fun here => by simp [Frame.lone, here] at gone
    exact (facet_endAccess _ other value _).trans (if_neg (Ne.symm different))
  · obtain ⟨rfl, rfl⟩ : other = value ∧ frame' = .closure twin kind := by
      simpa [Frame.lone, eq_comm] using kept
    exact ⟨_, perform?_of_outcome lone runs rfl (.finish change frames'),
      .modifyCell lone.facet _⟩

/-- A section that is entered is left if it is one on the value. -/
theorem echo_enter {entries : Nat}
    (asked : scene.world.AsksSection thread other world (.begun entries)) :
    Echo value twin scene' (scene.into world thread (.block other))
      [.entered thread other (scene.world.clockOf other)]
      (scene.lone? value twin (.enter thread other)) := by
  rw [lone?]
  obtain ⟨rfl, world', asked', along⟩ | ⟨different, facet⟩ := along_of_asksSection lone runs asked
  · rw [if_pos rfl]
    refine .along (perform?_of_outcome lone runs rfl (.enter asked'))
      (lone.into along (if_pos rfl)) ?_
    rw [clockOf, get?_of_facet lone.facet, ← clockOf]
    simp [History.of, Happening.of]
  · rw [if_neg different]
    exact .aside (lone.into_aside facet (if_neg different))
      (by simp [History.of, Happening.of, different])

/-- A section that is refused is left if it is one on the value. -/
theorem echo_refuseEnter {fault : Fault}
    (asked : scene.world.AsksSection thread other world (.faulted fault)) :
    Echo value twin scene' (scene.withWorld world) []
      (scene.lone? value twin (.enter thread other)) := by
  rw [lone?]
  obtain ⟨rfl, world', asked', along⟩ | ⟨different, facet⟩ := along_of_asksSection lone runs asked
  · rw [if_pos rfl]
    exact .along (perform?_of_outcome lone runs rfl (.refuseEnter asked'))
      (lone.withWorld along) rfl
  · rw [if_neg different]
    exact .aside (lone.aside facet fun _ => rfl) rfl

/-- The end of a section is left if the section is one on the value. -/
theorem echo_leave {rest : List Frame} (frames : scene.frames thread = .block other :: rest) :
    Echo value twin scene' (scene.become (scene.world.leaveSection other) thread rest) []
      (scene.lone? value twin (.leave thread)) := by
  refine echo_out lone rfl frames (fun gone => ?_) fun frame' kept frames' => ?_
  · have different : other ≠ value := fun here => by simp [Frame.lone, here] at gone
    exact (facet_leaveSection _ other value).trans (if_neg (Ne.symm different))
  · obtain ⟨rfl, rfl⟩ : other = value ∧ frame' = .block twin := by
      simpa [Frame.lone, eq_comm] using kept
    exact ⟨_, perform?_of_outcome lone runs rfl (.leave frames'), .leaveSection lone.facet⟩

/-- A section that is kept open is left if it is one on the value. -/
theorem echo_hold {entries : Nat}
    (asked : scene.world.AsksSection thread other world (.begun entries)) :
    Echo value twin scene'
      (scene.withWorld (world.setThread thread
        { world.thread thread with sections := other :: (world.thread thread).sections }))
      [.entered thread other (scene.world.clockOf other)]
      (scene.lone? value twin (.hold thread other)) := by
  rw [lone?]
  obtain ⟨rfl, world', asked', along⟩ | ⟨different, facet⟩ := along_of_asksSection lone runs asked
  · have count : (twin :: (world'.thread thread).sections).count twin =
        (other :: (world.thread thread).sections).count other := by
      rw [List.count_cons_self, List.count_cons_self, count_of_facet along.facet]
    rw [if_pos rfl]
    refine .along (perform?_of_outcome lone runs rfl (.hold asked'))
      (lone.withWorld (along.trans (.setSections along.facet count))) ?_
    rw [clockOf, get?_of_facet lone.facet, ← clockOf]
    simp [History.of, Happening.of]
  · have running := ((alike_of_asksSection runs asked).running thread).trans runs
    have same := facet_setSections world running (List.count_cons_of_ne different)
    rw [if_neg different]
    exact .aside (lone.aside (same.trans facet) fun _ => rfl)
      (by simp [History.of, Happening.of, different])

/-- A refusal to keep a section open is left if the section is one on the value. -/
theorem echo_refuseHold {fault : Fault}
    (asked : scene.world.AsksSection thread other world (.faulted fault)) :
    Echo value twin scene' (scene.withWorld world) []
      (scene.lone? value twin (.hold thread other)) := by
  rw [lone?]
  obtain ⟨rfl, world', asked', along⟩ | ⟨different, facet⟩ := along_of_asksSection lone runs asked
  · rw [if_pos rfl]
    exact .along (perform?_of_outcome lone runs rfl (.refuseHold asked')) (lone.withWorld along) rfl
  · rw [if_neg different]
    exact .aside (lone.aside facet fun _ => rfl) rfl

/-- The end of a section that was kept open is left if the section is one on the value. -/
theorem echo_drop (member : other ∈ (scene.world.thread thread).sections) :
    Echo value twin scene'
      (scene.withWorld ((scene.world.setThread thread
        { scene.world.thread thread with
          sections := (scene.world.thread thread).sections.erase other }).leaveSection other)) []
      (scene.lone? value twin (.drop thread other)) := by
  rw [lone?]
  by_cases here : other = value
  · subst here
    have count := count_of_facet lone.facet thread
    have member' : twin ∈ (scene'.world.thread thread).sections :=
      List.count_pos_iff.1 (count ▸ List.count_pos_iff.2 member)
    have erased : ((scene'.world.thread thread).sections.erase twin).count twin =
        ((scene.world.thread thread).sections.erase other).count other := by
      rw [List.count_erase_self, List.count_erase_self, count]
    have along : Along other twin scene.world scene'.world (scene.world.setThread thread _)
        (scene'.world.setThread thread _) := .setSections lone.facet erased
    rw [if_pos rfl]
    exact .along (perform?_of_outcome lone runs rfl (.drop member'))
      (lone.withWorld (along.trans (.leaveSection along.facet))) rfl
  · have same := facet_setSections scene.world runs (List.count_erase_of_ne (Ne.symm here))
    rw [if_neg here]
    refine .aside (lone.aside (Eq.trans ?_ same) fun _ => rfl) rfl
    exact (facet_leaveSection _ other value).trans (if_neg (Ne.symm here))

/-- Work on a context is left. -/
theorem echo_openContext (idle : (scene.world.thread thread).contextInUse = false) :
    Echo value twin scene' (scene.into (scene.world.openContext thread).1 thread .context) []
      (scene.lone? value twin (.openContext thread)) := by
  have runs' := (lone.running thread).trans runs
  have idle' := (contextInUse_of_facet lone.facet thread).trans idle
  refine .along (perform?_of_outcome lone runs rfl (.openContext idle')) (lone.into ?_ rfl) rfl
  have ensured : Along value twin scene.world scene'.world (scene.world.ensureContext thread).1
      (scene'.world.ensureContext thread).1 := by
    refine .of_facet ?_ (parallel_ensureContext scene.world runs).made.symm
      (parallel_ensureContext scene'.world runs').made.symm fun other _ =>
        facet_ensureContext scene'.world runs' idle' other
    rw [facet_ensureContext scene.world runs idle, facet_ensureContext scene'.world runs' idle',
      lone.facet]
  unfold World.openContext
  rw [if_neg (by simp [idle]), if_neg (by simp [idle'])]
  refine ensured.trans (.setThread ensured.facet rfl rfl ?_)
  have bearing := bearing_of_facet ensured.facet thread
  have bound := thread_ensureContext scene.world thread thread
  have bound' := thread_ensureContext scene'.world thread thread
  rw [if_pos rfl] at bound bound'
  simp only [ThreadState.facet, Prod.mk.injEq] at bearing ⊢
  refine ⟨bearing.1, ?_, bearing.2.2⟩
  rw [bound, bound']
  rfl

/-- The end of work on a context is left. -/
theorem echo_closeContext {rest : List Frame}
    (frames : scene.frames thread = .context :: rest) :
    Echo value twin scene' (scene.become (scene.world.closeContext thread) thread rest) []
      (scene.lone? value twin (.closeContext thread)) := by
  refine echo_out lone rfl frames nofun fun frame' kept frames' => ?_
  cases kept
  have bearing := bearing_of_facet lone.facet thread
  refine ⟨_, perform?_of_outcome lone runs rfl (.closeContext frames'),
    .setThread lone.facet rfl rfl ?_⟩
  simp only [ThreadState.facet, Prod.mk.injEq] at bearing ⊢
  exact ⟨bearing.1, rfl, bearing.2.2⟩

/-- Contexts that are bound to a thread show it the same table of the value. -/
theorem along_bindContext (own : ThreadContext)
    (blank : ∀ other, other ≠ twin → own.snapshot? other = none) (context : ThreadContext)
    (calm : (scene.world.thread thread).contextInUse = true →
      (scene.world.thread thread).context.isSome = true) :
    Along value twin scene.world scene'.world (scene.world.bindContext thread context)
      (scene'.world.bindContext thread (own.adopt twin (context.snapshot? value))) := by
  have runs' := (lone.running thread).trans runs
  have calm' : (scene'.world.thread thread).contextInUse = true →
      (scene'.world.thread thread).context.isSome = true := fun busy =>
    have busy' := (contextInUse_of_facet lone.facet thread).symm.trans busy
    context_of_facet lone.facet busy' (calm busy')
  refine ⟨?_, rfl, rfl, fun other different empty => ?_⟩
  · rw [facet_bindContext scene.world runs calm, facet_bindContext scene'.world runs' calm',
      ThreadContext.snapshot?_adopt, if_pos rfl, lone.facet]
  · rw [facet_bindContext scene'.world runs' calm', ThreadContext.snapshot?_adopt,
      if_neg different, blank other different]
    refine ⟨empty.cell, fun actor => ?_⟩
    change (if actor = thread then none else _) = none
    rw [empty.seen, ite_self]

/-- An edit by hand is left, with what it does to the snapshot of the value. -/
theorem echo_edit {context : ThreadContext} (change : ThreadContext → ThreadContext)
    (bound : (scene.world.thread thread).context = some context)
    (busy : (scene.world.thread thread).contextInUse = true)
    (known : scene.world.knowsAll (change context) = true) :
    Echo value twin scene' (scene.withWorld (scene.world.bindContext thread (change context)))
      [.edited thread (change context)] (scene.lone? value twin (.edit thread change)) := by
  have bound' : (scene'.world.thread thread).context.isSome = true :=
    context_of_facet lone.facet busy (by rw [bound]; rfl)
  obtain ⟨own, owned⟩ := Option.isSome_iff_exists.1 bound'
  have blank : ∀ other, other ≠ twin → own.snapshot? other = none := by
    intro other different
    have unseen := (lone.blank other different).seen thread
    change ((scene'.world.thread thread).context.bind _) = none at unseen
    rwa [owned] at unseen
  have outcome : scene'.Outcome _ _ _ := .edit
    (fun own => own.adopt twin ((change context).snapshot? value)) owned
    ((contextInUse_of_facet lone.facet thread).trans busy) (knowsAll_adopt lone own blank known)
  rw [lone?, bound]
  exact .along (perform?_of_outcome lone runs rfl outcome)
    (lone.withWorld (along_bindContext lone runs own blank _ fun _ => by rw [bound]; rfl)) rfl

/-- A context that is put in place of another one is left, with its snapshot of the value. -/
theorem echo_attach {context : ThreadContext} (known : scene.world.knowsAll context = true)
    (idle : (scene.world.thread thread).contextInUse = false) :
    Echo value twin scene'
      (scene.withWorld ((scene.world.noteAttached context).bindContext thread context))
      (if (scene.world.thread thread).context.isNone && context.snapshots.isEmpty then []
        else [.edited thread context])
      (scene.lone? value twin (.attach thread context)) := by
  have known' := knowsAll_adopt lone (.new context.identity context.name) (fun _ _ => rfl) known
  have along := along_bindContext lone runs (.new context.identity context.name)
    (fun _ _ => rfl) context fun busy => absurd (idle.symm.trans busy) Bool.false_ne_true
  have quiet (blank : Bool) (context : ThreadContext) (value twin : ValueId) :
      History.of (if blank then [] else [.edited thread context]) value twin = [] := by
    cases blank with
    | _ => rfl
  refine .along (perform?_of_outcome lone runs rfl
    (.attach known' ((contextInUse_of_facet lone.facet thread).trans idle)))
    (lone.withWorld ⟨along.facet, along.made, along.made', along.blank⟩) ?_
  exact (quiet _ _ twin twin).trans (quiet _ _ value twin).symm

/-- A refusal to replace a context in use is left. -/
theorem echo_refuseAttach {context : ThreadContext} (known : scene.world.knowsAll context = true)
    (busy : (scene.world.thread thread).contextInUse = true) :
    Echo value twin scene' (scene.withWorld (scene.world.noteAttached context)) []
      (scene.lone? value twin (.attach thread context)) := by
  have known' := knowsAll_adopt lone (.new context.identity context.name) (fun _ _ => rfl) known
  exact .along (perform?_of_outcome lone runs rfl
    (.refuseAttach known' ((contextInUse_of_facet lone.facet thread).trans busy)))
    (lone.withWorld (.of_facet lone.facet rfl rfl fun _ _ => rfl)) rfl

/-- A look at a value is left if it is the value. -/
theorem echo_look {cell : Cell α} (found : scene.world.cells.get? other = some cell)
    (admitted : cell.lock.admits thread = true) (free : cell.borrowed = false) :
    Echo value twin scene' (scene.withWorld scene.world) []
      (scene.lone? value twin (.look thread other)) := by
  rw [lone?]
  by_cases here : other = value
  · subst here
    rw [if_pos rfl]
    exact .along (perform?_of_outcome lone runs rfl
      (.look ((get?_of_facet lone.facet).trans found) admitted free))
      (lone.withWorld (.refl lone.facet)) rfl
  · rw [if_neg here]
    exact .aside (lone.aside rfl fun _ => rfl) rfl

/-- A refused look at a value is left if it is the value. -/
theorem echo_refuseLook {cell : Cell α} (found : scene.world.cells.get? other = some cell)
    (admitted : cell.lock.admits thread = true) (borrowed : cell.borrowed = true) :
    Echo value twin scene' (scene.withWorld (scene.world.note (.reentered other))) []
      (scene.lone? value twin (.look thread other)) := by
  rw [lone?]
  by_cases here : other = value
  · subst here
    rw [if_pos rfl]
    exact .along (perform?_of_outcome lone runs rfl
      (.refuseLook ((get?_of_facet lone.facet).trans found) admitted borrowed))
      (lone.withWorld (.of_facet lone.facet rfl rfl fun _ _ => rfl)) rfl
  · rw [if_neg here]
    exact .aside (lone.aside rfl fun _ => rfl) rfl

end Moves

/-- Steps that make or take away no value leave the number of values made. -/
theorem made_of_general {step : Step α} (still : step.isActed = false)
    (general : step.isOfValue = false) (world : World α) :
    (world.step step).1.made = world.made := by
  have ended (thread : ThreadId) (reply : Reply α) :
      (world.ifRunning thread (world.endThread thread, reply)).1.made = world.made := by
    unfold World.ifRunning
    split
    · exact (kept_leaveSections world (world.thread thread).sections).made
    · rfl
  cases step with
  | spawn name attach =>
    simp only [World.step]
    split
    · rfl
    · rw [spawn_eq]
      split
      · rfl
      · rfl
  | exit thread => exact ended thread _
  | crash thread => exact ended thread _
  | newValue payload sink label => cases general
  | dropValue value => cases general
  | intoInner value => cases general
  | enter thread value => cases still
  | leave thread => cases still
  | act thread action => cases still
  | _ => exact (parallel_errand rfl).made.symm

/-- At most one value is made at a time. -/
theorem made_newValue (world : World α) (payload : α) (sink : Option DetectorId)
    (label : Option String) :
    (world.newValue payload sink label).1.made = world.made ∨
      (world.newValue payload sink label).1.made = world.made + 1 := by
  cases sink with
  | none => exact .inr rfl
  | some id =>
    unfold World.newValue World.ifInUse
    dsimp only
    split
    · split
      · exact .inr rfl
      · exact .inl rfl
    · exact .inl rfl

section Steps

variable {value twin other : ValueId} {scene scene' next : Scene α} {told : History}
  (lone : Lone value twin scene scene')

include lone

/-- Nobody is inside of anything on the way to a step that is left. -/
theorem perform?_of_lone {step : Step α} (step' : Step α) (still : step'.isActed = false)
    (ends : step'.ends? = step.ends?)
    (outside : ∀ thread, step.ends? = some thread → scene.frames thread = []) :
    scene'.perform? (.step step') = some (scene'.withWorld (scene'.world.step step').1,
      step'.happenings scene'.world (scene'.world.step step').1) := by
  refine perform?_eq_some_iff.2 ⟨rfl, .step still fun thread ended => ?_⟩
  rw [lone.frames, outside thread (ends.symm.trans ended)]
  rfl

/-- A step that makes or takes away no value is left as it is. -/
theorem echo_general {step : Step α} (still : step.isActed = false)
    (general : step.isOfValue = false)
    (outside : ∀ thread, step.ends? = some thread → scene.frames thread = []) :
    Echo value twin scene' (scene.withWorld (scene.world.step step).1)
      (step.happenings scene.world (scene.world.step step).1)
      (scene.lone? value twin (.step step)) := by
  obtain ⟨change, uniform⟩ := Step.uniform still general
  have performs := perform?_of_lone lone _ still rfl outside
  have left : scene.lone? value twin (.step step) = some (.step step) := by
    cases step with
    | newValue => cases general
    | dropValue => cases general
    | intoInner => cases general
    | _ => rfl
  rw [left]
  have happenings : History.of (step.happenings scene'.world (scene'.world.step step).1) twin twin =
      History.of (step.happenings scene.world (scene.world.step step).1) value twin := by
    have ended (thread : ThreadId) :
        History.of (if scene'.world.threads.contains thread then [.ended thread] else [])
            twin twin =
          History.of (if scene.world.threads.contains thread then [.ended thread] else [])
            value twin := by
      rw [lone.running]
      cases scene.world.threads.contains thread with
      | _ => rfl
    cases step with
    | exit thread => exact ended thread
    | crash thread => exact ended thread
    | newValue => cases general
    | dropValue => cases general
    | intoInner => cases general
    | _ => rfl
  have made := made_of_general still general (α := α)
  refine .along performs (lone.withWorld ⟨?_, made _, made _, fun other _ blank => ?_⟩) happenings
  · rw [uniform.facet, uniform.facet, lone.facet]
  · rw [uniform.facet]
    exact uniform.blank _ blank

/-- A value is made next in one scene if it is made next in the other. -/
theorem echo_newValue (payload : α) (sink : Option DetectorId) (label : Option String) :
    Echo value twin scene'
      (scene.withWorld (scene.world.step (.newValue payload sink label)).1)
      ((Step.newValue payload sink label).happenings scene.world
        (scene.world.step (.newValue payload sink label)).1)
      (scene.lone? value twin (.step (.newValue payload sink label))) := by
  have performs : scene'.perform? (.step (.newValue payload sink label)) = _ :=
    perform?_of_lone lone (.newValue payload sink label) rfl rfl (by simp [Step.ends?])
  have facet := facet_newValue scene.world payload sink label value
  have left : scene.lone? value twin (.step (.newValue payload sink label)) =
      if value = ⟨scene.world.made⟩ then some (.step (.newValue payload sink label)) else none := by
    rw [lone?, Step.lone?, apply_ite (Option.map Move.step)]
    rfl
  rw [left]
  by_cases here : value = ⟨scene.world.made⟩
  · have turn : twin = ⟨scene'.world.made⟩ := by
      rw [lone.made, here, if_neg (Nat.lt_irrefl _)]
    have facet' := facet_newValue scene'.world payload sink label
    rw [if_pos here] at facet ⊢
    have same : (scene'.world.newValue payload sink label).1.facet twin =
        (scene.world.newValue payload sink label).1.facet value := by
      rw [facet', if_pos turn, facet, lone.facet]
    refine .along performs ⟨same, lone.frames, ?_, fun other different => ?_⟩ ?_
    · have turned : twin.index = scene'.world.made := congrArg ValueId.index turn
      have decided : decide (twin.index < (scene'.world.newValue payload sink label).1.made) =
          decide (value.index < (scene.world.newValue payload sink label).1.made) :=
        congrArg Facet.made same
      have next := made_newValue scene'.world payload sink label
      change (scene'.world.newValue payload sink label).1.made =
        if value.index < (scene.world.newValue payload sink label).1.made then _ else _
      rw [decide_eq_decide] at decided
      split
      · omega
      · omega
    · have still := (facet' other).trans (if_neg fun next => different (next.trans turn.symm))
      exact still.symm ▸ lone.blank other different
    · have made' : (scene'.world.step (.newValue payload sink label)).1.cells.get? twin =
          (scene.world.step (.newValue payload sink label)).1.cells.get? value :=
        get?_of_facet same
      unfold Step.happenings
      dsimp only
      rw [← turn, ← here, get?_of_facet lone.facet, made']
      cases scene.world.cells.get? value with
      | some cell => rfl
      | none =>
        cases (scene.world.step (.newValue payload sink label)).1.cells.get? value with
        | none => rfl
        | some cell => simp [History.of, Happening.of]
  · rw [if_neg here] at facet ⊢
    refine .aside (lone.aside facet fun _ => rfl) ?_
    unfold Step.happenings
    dsimp only
    split
    · simp [History.of, Happening.of, Ne.symm here]
    · rfl

/-- A value is taken away in one scene if it is in the other. -/
theorem echo_removeCell {step : Step α} (step' : Step α) {reply : Cell α → Reply α}
    (does : ∀ world : World α, world.step step = world.removeCell other reply)
    (does' : ∀ world : World α, world.step step' = world.removeCell twin reply)
    (tells : ∀ before after : World α, step.happenings before after =
      if before.cells.contains other && !after.cells.contains other then [.removed other] else [])
    (tells' : ∀ before after : World α, step'.happenings before after =
      if before.cells.contains twin && !after.cells.contains twin then [.removed twin] else [])
    (still : step'.isActed = false) (outside : step'.ends? = none)
    (left : scene.lone? value twin (.step step) =
      if other = value then some (.step step') else none) :
    Echo value twin scene' (scene.withWorld (scene.world.step step).1)
      (step.happenings scene.world (scene.world.step step).1)
      (scene.lone? value twin (.step step)) := by
  have performs := perform?_of_lone lone step' still rfl (by simp [outside])
  have facet := facet_removeCell scene.world other reply value
  have kept (world : World α) (other : ValueId) :
      (world.removeCell other reply).1.made = world.made := by
    unfold World.removeCell
    split
    · rfl
    · split
      · rfl
      · rfl
  rw [left, does, tells]
  rw [does', tells'] at performs
  by_cases here : other = value
  · subst here
    have facet' := facet_removeCell scene'.world twin reply
    rw [if_pos rfl] at facet ⊢
    have same : (scene'.world.removeCell twin reply).1.facet twin =
        (scene.world.removeCell other reply).1.facet other := by
      rw [facet', if_pos rfl, facet, lone.facet]
    refine .along performs (lone.withWorld (.of_facet same (kept _ _) (kept _ _)
      fun other' different => (facet' other').trans (if_neg different))) ?_
    rw [SortedMap.contains, SortedMap.contains, get?_of_facet lone.facet, get?_of_facet same,
      ← SortedMap.contains, ← SortedMap.contains]
    split
    · simp [History.of, Happening.of]
    · rfl
  · rw [if_neg here]
    refine .aside (lone.aside (facet.trans (if_neg (Ne.symm here))) fun _ => rfl) ?_
    split
    · simp [History.of, Happening.of, here]
    · rfl

/-- A step is left unless it makes or takes away another value. -/
theorem echo_step {step : Step α} (still : step.isActed = false)
    (outside : ∀ thread, step.ends? = some thread → scene.frames thread = []) :
    Echo value twin scene' (scene.withWorld (scene.world.step step).1)
      (step.happenings scene.world (scene.world.step step).1)
      (scene.lone? value twin (.step step)) := by
  cases general : step.isOfValue with
  | false => exact echo_general lone still general outside
  | true =>
    cases step with
    | newValue payload sink label => exact echo_newValue lone payload sink label
    | dropValue other =>
      refine echo_removeCell lone (.dropValue twin) (fun _ => rfl) (fun _ => rfl)
        (fun _ _ => rfl) (fun _ _ => rfl) rfl rfl ?_
      rw [lone?, Step.lone?, apply_ite (Option.map Move.step)]
      rfl
    | intoInner other =>
      refine echo_removeCell lone (.intoInner twin) (fun _ => rfl) (fun _ => rfl)
        (fun _ _ => rfl) (fun _ _ => rfl) rfl rfl ?_
      rw [lone?, Step.lone?, apply_ite (Option.map Move.step)]
      rfl
    | _ => cases general

/-- What is left of a move can be made, and does the same to the value. -/
theorem echo_of_perform? {move : Move α} (performed : scene.perform? move = some (next, told)) :
    Echo value twin scene' next told (scene.lone? value twin move) := by
  obtain ⟨runs, outcome⟩ := perform?_eq_some_iff.1 performed
  cases outcome with
  | access asked => exact echo_access lone runs asked
  | stall asked => exact echo_stall lone runs asked
  | reenter asked => exact echo_reenter lone runs asked
  | finish change frames => exact echo_finish lone runs change frames
  | enter asked => exact echo_enter lone runs asked
  | refuseEnter asked => exact echo_refuseEnter lone runs asked
  | leave frames => exact echo_leave lone runs frames
  | hold asked => exact echo_hold lone runs asked
  | refuseHold asked => exact echo_refuseHold lone runs asked
  | drop member => exact echo_drop lone runs member
  | openContext idle => exact echo_openContext lone runs idle
  | @refuseContext thread busy =>
    have busy' := (contextInUse_of_facet lone.facet thread).trans busy
    exact .along (perform?_of_outcome lone runs rfl (.refuseContext busy'))
      (lone.withWorld (.refl lone.facet)) rfl
  | closeContext frames => exact echo_closeContext lone runs frames
  | edit change bound busy known => exact echo_edit lone runs change bound busy known
  | attach known idle => exact echo_attach lone runs known idle
  | refuseAttach known busy => exact echo_refuseAttach lone runs known busy
  | look found admitted free => exact echo_look lone runs found admitted free
  | refuseLook found admitted borrowed => exact echo_refuseLook lone runs found admitted borrowed
  | step still outside => exact echo_step lone still outside

end Steps

end Scene

/-- What two parts of a history tell of a value is told by both of them together. -/
theorem History.of_append (later past : History) (value twin : ValueId) :
    (later ++ past : History).of value twin = later.of value twin ++ past.of value twin :=
  List.filterMap_append

/-- What is left of moves one after another can be made, and does the same to the value. -/
theorem Scene.Lone.playOut? {value twin : ValueId} (moves : List (Move α))
    {scene scene' last : Scene α} {past past' later : History}
    (lone : Scene.Lone value twin scene scene') (same : past'.of twin twin = past.of value twin)
    (played : scene.playOut? past moves = some (last, later)) :
    ∃ last' later', scene'.playOut? past' (scene.lone value twin moves) = some (last', later') ∧
      Scene.Lone value twin last last' ∧ later'.of twin twin = later.of value twin := by
  induction moves generalizing scene scene' past past' with
  | nil =>
    cases played
    exact ⟨scene', past', rfl, lone, same⟩
  | cons move rest ih =>
    unfold Scene.playOut? at played
    split at played
    · cases played
    · rename_i next told performed
      have echo := Scene.echo_of_perform? lone performed
      simp only [Scene.lone, performed]
      cases left : scene.lone? value twin move with
      | none =>
        rw [left] at echo
        cases echo with
        | aside lone' untold =>
          refine ih lone' ?_ played
          rw [History.of_append, untold]
          exact same
      | some move' =>
        rw [left] at echo
        cases echo with
        | @along _ next' told' performed' lone' echoes =>
          have same' : History.of (told' ++ past') twin twin =
              History.of (told ++ past) value twin := by
            rw [History.of_append, History.of_append, echoes, same]
          obtain ⟨last', later', played', result⟩ := ih lone' same' played
          refine ⟨last', later', ?_, result⟩
          simp only [Option.toList_some, List.singleton_append, Scene.playOut?, performed']
          exact played'

/-- A value of one run and its twin in another run come out the same. -/
structure Isolated (value twin : ValueId) (past past' : History) (scene scene' : Scene α) :
    Prop where
  /-- The same is told of them in the same order: all accesses come out the same, flagged or not and
  with the same conflicts, and so do all section entries. -/
  told : past'.of twin twin = past.of value twin
  /-- They have the same clock table, the same racing threads, the same content and lock, or are
  both gone. -/
  cell : scene'.world.cells.get? twin = scene.world.cells.get? value
  /-- Every thread has seen the same of them. -/
  snapshots : ∀ thread, scene'.world.snapshot? thread twin = scene.world.snapshot? thread value
  /-- They have the same accounts in all ledgers. -/
  ledgers : ∀ id, (scene'.world.ledger? id).map (fun ledger => SortedMap.get? ledger twin) =
    (scene.world.ledger? id).map fun ledger => SortedMap.get? ledger value
  /-- In the other run there is no other value, and nobody has seen anything of one. -/
  alone : ∀ other, other ≠ twin → scene'.world.cells.get? other = none ∧
    ∀ thread, scene'.world.snapshot? thread other = none

/-- Whatever is done to other values in a run may be left out of it: what is left of the moves is a
run, in which the same is told of the value, and which leaves it the same. -/
theorem value_isolated (value : ValueId) {moves : List (Move α)} {past : History} {scene : Scene α}
    (played : Scene.empty.playOut? [] moves = some (scene, past)) :
    ∃ past' scene',
      Scene.empty.playOut? [] (Scene.empty.lone value ⟨0⟩ moves) = some (scene', past') ∧
        Isolated value ⟨0⟩ past past' scene scene' := by
  have start : Scene.Lone value ⟨0⟩ (Scene.empty : Scene α) Scene.empty :=
    ⟨rfl, fun _ => rfl, rfl, fun _ _ => ⟨rfl, fun _ => rfl⟩⟩
  have untold : History.of [] (⟨0⟩ : ValueId) ⟨0⟩ = History.of [] value ⟨0⟩ := rfl
  obtain ⟨scene', past', played', lone, told⟩ := start.playOut? moves untold played
  refine ⟨past', scene', played', told, get?_of_facet lone.facet, snapshot?_of_facet lone.facet,
    fun id => ?_, fun other different => ?_⟩
  · have detectors := congrFun (congrArg Facet.detectors lone.facet) id
    have accounts := congrArg (Option.map fun detector => detector.2.2) detectors
    change ((scene'.world.detectors.get? id).map _).map _ =
      ((scene.world.detectors.get? id).map _).map _ at accounts
    rw [World.ledger?, World.ledger?, Option.map_map, Option.map_map]
    rw [Option.map_map, Option.map_map] at accounts
    exact accounts
  · exact ⟨(lone.blank other different).cell, (lone.blank other different).seen⟩

/-- One thread writes to a value from inside of its closure on another one, and another thread reads
it inside of a section on a third one, and is flagged. Of seventeen moves eight are left. -/
theorem value_isolated_of_nested :
    ∃ (moves left : List (Move Nat)) (past past' : History) (scene scene' : Scene Nat),
      Scene.empty.playOut? [] moves = some (scene, past) ∧ moves.length = 17 ∧
      Scene.empty.lone ⟨1⟩ ⟨0⟩ moves = left ∧ left.length = 8 ∧
      Scene.empty.playOut? [] left = some (scene', past') ∧
      (scene.world.racing ⟨1⟩).contains ⟨1⟩ = true ∧ Isolated ⟨1⟩ ⟨0⟩ past past' scene scene' := by
  let moves : List (Move Nat) := [.step (.spawn none false), .step (.spawn (some "reader") true),
    .step (.newDetector none), .step (.newValue 6 (some ⟨0⟩) none),
    .step (.newValue 7 (some ⟨0⟩) (some "shared")), .step (.newValue 8 none none),
    .access ⟨0⟩ ⟨0⟩ .write, .access ⟨0⟩ ⟨1⟩ .write, .finish ⟨0⟩ Nat.succ, .enter ⟨1⟩ ⟨2⟩,
    .access ⟨1⟩ ⟨1⟩ .read, .finish ⟨0⟩ Nat.succ, .finish ⟨1⟩ id, .leave ⟨1⟩,
    .access ⟨1⟩ ⟨0⟩ .read, .finish ⟨1⟩ id, .step (.dropValue ⟨0⟩)]
  obtain ⟨past, scene, played, races⟩ : ∃ (past : History) (scene : Scene Nat),
      Scene.empty.playOut? [] moves = some (scene, past) ∧
        (scene.world.racing ⟨1⟩).contains ⟨1⟩ = true := ⟨_, _, rfl, rfl⟩
  obtain ⟨past', scene', played', isolated⟩ := value_isolated ⟨1⟩ played
  exact ⟨moves, _, past, past', scene, scene', played, rfl, rfl, rfl, played', races, isolated⟩

end RaceSentry
