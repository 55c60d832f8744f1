import RaceSentry.Proofs.Facet

/-!
# One value alone

Leaving out whatever is done to other values leaves one value alone. Values are numbered in the
order of their making, so there it goes by another number, its twin. Here is what is left of frames,
steps and moves, what it means for a scene that one value is alone in it, and how two worlds that
are the same to a value go on being the same.
Main statements: `AsksAccess.alike` and `AsksSection.alike`.
-/

namespace RaceSentry

open World

variable {α : Type}

namespace World

section Same

variable {world world' next : World α} {value twin : ValueId} {thread : ThreadId}
  (same : world'.facet twin = world.facet value)

include same

/-- The same threads run. -/
theorem running_of_facet (thread : ThreadId) :
    world'.threads.contains thread = world.threads.contains thread := by
  have alike := congrArg Option.isSome (congrFun (congrArg Facet.threads same) thread)
  change ((world'.threads.get? thread).map _).isSome = ((world.threads.get? thread).map _).isSome
    at alike
  rwa [Option.isSome_map, Option.isSome_map] at alike

/-- Threads are the same to the value, whether they run or not. -/
theorem bearing_of_facet (thread : ThreadId) :
    (world'.thread thread).facet twin = (world.thread thread).facet value := by
  have alike := congrArg (Option.getD · ((ThreadState.new none).facet value))
    (congrFun (congrArg Facet.threads same) thread)
  change ((world'.threads.get? thread).map (ThreadState.facet twin)).getD
    ((ThreadState.new none).facet twin) =
      ((world.threads.get? thread).map (ThreadState.facet value)).getD _ at alike
  rwa [Option.getD_map, Option.getD_map] at alike

/-- Threads have the same names. -/
theorem name_of_facet (thread : ThreadId) :
    (world'.thread thread).name = (world.thread thread).name :=
  congrArg Prod.fst (bearing_of_facet same thread)

/-- The same threads work on their contexts. -/
theorem contextInUse_of_facet (thread : ThreadId) :
    (world'.thread thread).contextInUse = (world.thread thread).contextInUse := by
  have alike := congrArg (fun bearing => Option.isSome bearing.2.1) (bearing_of_facet same thread)
  simp only [ThreadState.facet] at alike
  cases busy : (world.thread thread).contextInUse with
  | _ =>
    cases busy' : (world'.thread thread).contextInUse with
    | _ => simp [busy, busy'] at alike ⊢

/-- Threads that work on their contexts have them in both worlds. -/
theorem context_of_facet (busy : (world.thread thread).contextInUse = true)
    (bound : (world.thread thread).context.isSome = true) :
    (world'.thread thread).context.isSome = true := by
  have busy' := (contextInUse_of_facet same thread).trans busy
  have alike := congrArg (fun bearing => bearing.2.1) (bearing_of_facet same thread)
  simp only [ThreadState.facet, busy, busy', if_true, bound, Option.some.injEq] at alike
  exact alike

/-- Threads have as many sections open on the twin as on the value. -/
theorem count_of_facet (thread : ThreadId) :
    (world'.thread thread).sections.count twin = (world.thread thread).sections.count value :=
  congrArg (fun bearing => bearing.2.2) (bearing_of_facet same thread)

/-- The twin is as the value is. -/
theorem get?_of_facet : world'.cells.get? twin = world.cells.get? value := congrArg Facet.cell same

/-- Threads have seen of the twin what they have seen of the value. -/
theorem snapshot?_of_facet (thread : ThreadId) :
    world'.snapshot? thread twin = world.snapshot? thread value :=
  congrFun (congrArg Facet.seen same) thread

/-- The same stands against an access to the twin as to the value. -/
theorem against_of_facet (cell : Cell α) (key : AccessKey) :
    world'.against twin cell key = world.against value cell key := by
  rw [against, snapshot?_of_facet same, against]

end Same

end World

/-- The same sighting, of a value with another number. -/
def Sighting.of (sighting : Sighting) (twin : ValueId) : Sighting := { sighting with value := twin }

/-- What came of asking for an access, of a value with another number. -/
def Attempt.of (attempt : Attempt (Option Sighting)) (twin : ValueId) :
    Attempt (Option Sighting) :=
  match attempt with
  | .begun sighting => .begun (sighting.map fun sighting => sighting.of twin)
  | .faulted (.reentered _) => .faulted (.reentered twin)
  | attempt => attempt

namespace World

section Twins

variable {world world' next : World α} {value twin : ValueId} {thread : ThreadId}
  (same : world'.facet twin = world.facet value)
  (runs : world.threads.contains thread = true)

include same runs

/-- An access comes out the same in worlds that are the same to its value. -/
theorem AsksAccess.alike {kind : AccessKind} {attempt : Attempt (Option Sighting)}
    (asked : world.AsksAccess thread value kind next attempt) :
    ∃ next', world'.AsksAccess thread twin kind next' (attempt.of twin) ∧
      next'.facet twin = next.facet value := by
  have runs' := (running_of_facet same thread).trans runs
  cases asked with
  | reentered cell lock found taken borrowed =>
    exact ⟨_, .reentered cell lock ((get?_of_facet same).trans found) taken borrowed, same⟩
  | stalled cell lock found taken free on busy =>
    refine ⟨_, .stalled cell lock ((get?_of_facet same).trans found) taken free on
      ((contextInUse_of_facet same thread).trans busy), ?_⟩
    rw [facet_countAccess, facet_countAccess, if_pos rfl, if_pos rfl, same]
  | unwatched cell lock found taken free off =>
    refine ⟨_, .unwatched cell lock ((get?_of_facet same).trans found) taken free off, ?_⟩
    rw [facet_modifyCell, facet_modifyCell, if_pos rfl, if_pos rfl, same]
  | clean cell lock found taken free on idle nothing =>
    have idle' := (contextInUse_of_facet same thread).trans idle
    refine ⟨_, .clean cell lock ((get?_of_facet same).trans found) taken free on idle'
      ((against_of_facet same cell _).trans nothing), ?_⟩
    rw [facet_modifyCell, facet_modifyCell, if_pos rfl, if_pos rfl,
      facet_tallyAccess world runs idle, facet_tallyAccess world' runs' idle', if_pos rfl,
      if_pos rfl, same]
  | flagged cell lock found taken free on idle something =>
    have idle' := (contextInUse_of_facet same thread).trans idle
    have sighting : world'.sightingOf twin cell ⟨thread, kind⟩ =
        (world.sightingOf value cell ⟨thread, kind⟩).of twin := by
      rw [sightingOf, against_of_facet same, name_of_facet same]
      rfl
    have flagged : world'.AsksAccess thread twin kind _ _ := .flagged cell lock
      ((get?_of_facet same).trans found) taken free on idle' (by rwa [against_of_facet same])
    rw [sighting] at flagged
    refine ⟨_, flagged, ?_⟩
    rw [facet_modifyCell, facet_modifyCell, if_pos rfl, if_pos rfl, facet_flag, facet_flag,
      show (world.sightingOf value cell ⟨thread, kind⟩).value = value from rfl,
      show ((world.sightingOf value cell ⟨thread, kind⟩).of twin).value = twin from rfl,
      if_pos rfl, if_pos rfl, facet_tallyAccess world runs idle,
      facet_tallyAccess world' runs' idle', if_pos rfl, if_pos rfl, same]
    rfl

/-- A section is entered alike in worlds that are the same to its value. -/
theorem AsksSection.alike {attempt : Attempt Nat}
    (asked : world.AsksSection thread value next attempt) :
    ∃ next', world'.AsksSection thread twin next' attempt ∧
      next'.facet twin = next.facet value := by
  have runs' := (running_of_facet same thread).trans runs
  cases asked with
  | reentered cell lock found taken borrowed =>
    exact ⟨_, .reentered cell lock ((get?_of_facet same).trans found) taken borrowed, same⟩
  | stalled cell lock found taken free busy =>
    exact ⟨_, .stalled cell lock ((get?_of_facet same).trans found) taken free
      ((contextInUse_of_facet same thread).trans busy), same⟩
  | entered cell lock found taken free idle =>
    have idle' := (contextInUse_of_facet same thread).trans idle
    have adopted := facet_adoptClock (world.note (.entering value cell.label cell.clock.size)) runs
      idle value cell.clock value
    have adopted' := facet_adoptClock (world'.note (.entering twin cell.label cell.clock.size))
      runs' idle' twin cell.clock twin
    refine ⟨_, .entered cell lock ((get?_of_facet same).trans found) taken free idle', ?_⟩
    rw [facet_modifyCell, facet_modifyCell, if_pos rfl, if_pos rfl, adopted, adopted', if_pos rfl,
      if_pos rfl, facet_note, facet_note, same]

end Twins

end World

/-- What is left of a frame when a value is left alone. -/
def Frame.lone (value twin : ValueId) : Frame → Option Frame
  | .closure other kind => if other = value then some (.closure twin kind) else none
  | .block other => if other = value then some (.block twin) else none
  | .context => some .context

namespace ThreadContext

/-- Puts a table in place of the snapshot of a value, or drops it. -/
def adopt (context : ThreadContext) (value : ValueId) : Option ClockTable → ThreadContext
  | some table => context.replace value table
  | none => context.forget value

/-- A context that adopts a table holds it, and the rest stays. -/
theorem snapshot?_adopt (context : ThreadContext) (value other : ValueId)
    (table : Option ClockTable) :
    (context.adopt value table).snapshot? other =
      if other = value then table else context.snapshot? other := by
  cases table with
  | none => exact snapshot?_forget context value other
  | some table => exact snapshot?_replace context value other table

end ThreadContext

/-- What is left of a step when a value is left alone: steps that make or take away another value
are left out. -/
def Step.lone? (value twin : ValueId) (world : World α) : Step α → Option (Step α)
  | .newValue payload sink label =>
    if value = ⟨world.made⟩ then some (.newValue payload sink label) else none
  | .dropValue other => if other = value then some (.dropValue twin) else none
  | .intoInner other => if other = value then some (.intoInner twin) else none
  | step => some step

namespace Scene

variable (scene : Scene α)

/-- Whether a thread is in a frame, innermost, that is left when a value is left alone. -/
def inside (value twin : ValueId) (thread : ThreadId) : Bool :=
  ((scene.frames thread).head?.bind (Frame.lone value twin)).isSome

/-- What is left of a move when a value is left alone. Whatever is done to other values is left out:
their accesses, sections, questions, making and taking away. Of a context that is edited or put in
place of another one, the snapshot of the value is left. -/
def lone? (value twin : ValueId) : Move α → Option (Move α)
  | .access thread other kind => if other = value then some (.access thread twin kind) else none
  | .finish thread change =>
    if scene.inside value twin thread then some (.finish thread change) else none
  | .enter thread other => if other = value then some (.enter thread twin) else none
  | .leave thread => if scene.inside value twin thread then some (.leave thread) else none
  | .hold thread other => if other = value then some (.hold thread twin) else none
  | .drop thread other => if other = value then some (.drop thread twin) else none
  | .openContext thread => some (.openContext thread)
  | .closeContext thread =>
    if scene.inside value twin thread then some (.closeContext thread) else none
  | .edit thread change =>
    (scene.world.thread thread).context.map fun context =>
      .edit thread fun own => own.adopt twin ((change context).snapshot? value)
  | .attach thread context =>
    some (.attach thread
      ((ThreadContext.new context.identity context.name).adopt twin (context.snapshot? value)))
  | .look thread other => if other = value then some (.look thread twin) else none
  | .step step => (step.lone? value twin scene.world).map .step

/-- What is left of moves one after another, as long as they can be made. -/
def lone (value twin : ValueId) (scene : Scene α) : List (Move α) → List (Move α)
  | [] => []
  | move :: rest =>
    match scene.perform? move with
    | none => []
    | some (next, _) => (scene.lone? value twin move).toList ++ next.lone value twin rest

end Scene

/-- What is told of a value, under the number of its twin, and of threads that end. -/
def Happening.of (value twin : ValueId) : Happening → Option Happening
  | .made other detecting sink => if other = value then some (.made twin detecting sink) else none
  | .removed other => if other = value then some (.removed twin) else none
  | .accessed thread other kind sighting =>
    if other = value then
      some (.accessed thread twin kind (sighting.map fun sighting => sighting.of twin))
    else none
  | .stalled thread other kind => if other = value then some (.stalled thread twin kind) else none
  | .entered thread other clock => if other = value then some (.entered thread twin clock) else none
  | .edited _ _ => none
  | .ended thread => some (.ended thread)

/-- What a history tells of a value, under the number of its twin. -/
def History.of (past : History) (value twin : ValueId) : History :=
  past.filterMap (Happening.of value twin)

/-- A scene in which a value is alone, under the number of its twin, and all that bears on it is as
in another scene. -/
structure Scene.Lone (value twin : ValueId) (scene scene' : Scene α) : Prop where
  /-- All that bears on the value is the same. -/
  facet : scene'.world.facet twin = scene.world.facet value
  /-- Threads are inside of what has to do with the value. -/
  frames : ∀ thread, scene'.frames thread =
    (scene.frames thread).filterMap (Frame.lone value twin)
  /-- The value is the next one to be made, or was the last one. -/
  made : scene'.world.made =
    if value.index < scene.world.made then twin.index + 1 else twin.index
  /-- There is no other value. -/
  blank : ∀ other, other ≠ twin → (scene'.world.facet other).Blank

/-- What becomes of two worlds that are the same to a value, one of which has no other value. -/
structure World.Along (value twin : ValueId) (world world' next next' : World α) : Prop where
  /-- They stay the same to the value. -/
  facet : next'.facet twin = next.facet value
  /-- No value is made in the first one. -/
  made : next.made = world.made
  /-- No value is made in the second one. -/
  made' : next'.made = world'.made
  /-- There is still no other value in the second one. -/
  blank : ∀ other, other ≠ twin → (world'.facet other).Blank → (next'.facet other).Blank

/-- What is left of a move does in a scene with one value alone what the move did. -/
inductive Scene.Echo (value twin : ValueId) (scene' next : Scene α) (told : History) :
    Option (Move α) → Prop where
  /-- Nothing is left, and nothing was told of the value. -/
  | aside (lone : Lone value twin next scene') (untold : told.of value twin = []) :
      Echo value twin scene' next told none
  /-- The move that is left can be made, and tells the same of the value. -/
  | along {move' : Move α} {next' : Scene α} {told' : History}
      (performed : scene'.perform? move' = some (next', told'))
      (lone : Lone value twin next next') (same : told'.of twin twin = told.of value twin) :
      Echo value twin scene' next told (some move')

namespace Scene

variable {value twin other : ValueId} {scene scene' next : Scene α} {world world' : World α}
  {thread : ThreadId} {frame frame' : Frame} {rest : List Frame} {told : History}

/-- What is left of the frames of the other threads stays when one thread comes out of something. -/
theorem filterMap_become (value twin : ValueId) (actor : ThreadId) :
    ((scene.become world thread rest).frames actor).filterMap (Frame.lone value twin) =
      if actor = thread then rest.filterMap (Frame.lone value twin)
      else (scene.frames actor).filterMap (Frame.lone value twin) :=
  apply_ite (List.filterMap (Frame.lone value twin)) _ _ _

namespace Lone

variable (lone : Lone value twin scene scene')

include lone

/-- The same threads run in both scenes. -/
theorem running (thread : ThreadId) :
    scene'.world.threads.contains thread = scene.world.threads.contains thread :=
  running_of_facet lone.facet thread

/-- Whatever does not touch the value may be left out. -/
theorem aside (facet : next.world.facet value = scene.world.facet value)
    (frames : ∀ thread, (next.frames thread).filterMap (Frame.lone value twin) =
      (scene.frames thread).filterMap (Frame.lone value twin)) :
    Lone value twin next scene' where
  facet := lone.facet.trans facet.symm
  frames := fun thread => (lone.frames thread).trans (frames thread).symm
  made := by
    have made : decide (value.index < next.world.made) =
        decide (value.index < scene.world.made) := congrArg Facet.made facet
    rw [lone.made]
    simp only [decide_eq_decide.1 made]
  blank := lone.blank

/-- Everybody stays where they are. -/
theorem withWorld (along : Along value twin scene.world scene'.world world world') :
    Lone value twin (scene.withWorld world) (scene'.withWorld world') where
  facet := along.facet
  frames := lone.frames
  made := by
    change world'.made = if value.index < world.made then _ else _
    rw [along.made, along.made', lone.made]
  blank := fun other different => along.blank other different (lone.blank other different)

/-- A thread comes to be inside of something else. -/
theorem become (along : Along value twin scene.world scene'.world world world')
    (rest : List Frame) :
    Lone value twin (scene.become world thread rest)
      (scene'.become world' thread (rest.filterMap (Frame.lone value twin))) where
  facet := along.facet
  frames := fun actor => by
    rw [filterMap_become, ← lone.frames]
    rfl
  made := (lone.withWorld along).made
  blank := (lone.withWorld along).blank

/-- A thread goes into something that is left. -/
theorem into (along : Along value twin scene.world scene'.world world world')
    (left : frame.lone value twin = some frame') :
    Lone value twin (scene.into world thread frame) (scene'.into world' thread frame') := by
  have becomes : Lone value twin _ (scene'.become world' thread _) :=
    lone.become along (frame :: scene.frames thread)
  rw [List.filterMap_cons_some left, ← lone.frames] at becomes
  exact becomes

/-- A thread goes into something that is not left. -/
theorem into_aside (facet : world.facet value = scene.world.facet value)
    (left : frame.lone value twin = none) :
    Lone value twin (scene.into world thread frame) scene' := by
  refine lone.aside facet fun actor => ?_
  rw [Scene.into, filterMap_become, List.filterMap_cons_none left]
  split
  · rename_i here
    rw [here]
  · rfl

/-- A thread comes out of something that is not left. -/
theorem become_aside (facet : world.facet value = scene.world.facet value)
    (frames : scene.frames thread = frame :: rest) (left : frame.lone value twin = none) :
    Lone value twin (scene.become world thread rest) scene' := by
  refine lone.aside facet fun actor => ?_
  rw [filterMap_become]
  split
  · rename_i here
    rw [here, frames, List.filterMap_cons_none left]
  · rfl

end Lone

end Scene

namespace World.Along

variable {value twin : ValueId} {world world' next next' : World α} {thread : ThreadId}
  {kind : AccessKind}

/-- Other values are not touched. -/
theorem of_facet (facet : next'.facet twin = next.facet value) (made : next.made = world.made)
    (made' : next'.made = world'.made)
    (others : ∀ other, other ≠ twin → next'.facet other = world'.facet other) :
    Along value twin world world' next next' :=
  ⟨facet, made, made', fun other different blank => (others other different).symm ▸ blank⟩

/-- Nothing becomes of two worlds in which nothing is done. -/
theorem refl (same : world'.facet twin = world.facet value) :
    Along value twin world world' world world' :=
  ⟨same, rfl, rfl, fun _ _ blank => blank⟩

/-- What becomes of two worlds one after another becomes of them. -/
theorem trans {later later' : World α} (first : Along value twin world world' next next')
    (second : Along value twin next next' later later') :
    Along value twin world world' later later' :=
  ⟨second.facet, second.made.trans first.made, second.made'.trans first.made',
    fun other different blank =>
      second.blank other different (first.blank other different blank)⟩

/-- The same becomes of a thread that keeps its context. -/
theorem setThread (same : world'.facet twin = world.facet value) {state state' : ThreadState}
    (kept : state.context = (world.thread thread).context)
    (kept' : state'.context = (world'.thread thread).context)
    (alike : state'.facet twin = state.facet value) :
    Along value twin world world' (world.setThread thread state)
      (world'.setThread thread state') := by
  refine ⟨?_, rfl, rfl, fun other _ blank => ?_⟩
  · rw [facet_setThread_of_context world kept, facet_setThread_of_context world' kept', same, alike]
  · rw [facet_setThread_of_context world' kept']
    exact ⟨blank.cell, blank.seen⟩

/-- A thread has a section open on a value as often as on its twin. -/
theorem setSections (same : world'.facet twin = world.facet value)
    {sections sections' : List ValueId} (alike : sections'.count twin = sections.count value) :
    Along value twin world world'
      (world.setThread thread { world.thread thread with sections := sections })
      (world'.setThread thread { world'.thread thread with sections := sections' }) := by
  have bearing := bearing_of_facet same thread
  refine setThread same rfl rfl ?_
  simp only [ThreadState.facet, Prod.mk.injEq] at bearing ⊢
  exact ⟨bearing.1, bearing.2.1, alike⟩

/-- The same is done to a value and to its twin. -/
theorem modifyCell (same : world'.facet twin = world.facet value) (change : Cell α → Cell α) :
    Along value twin world world' (world.modifyCell value change)
      (world'.modifyCell twin change) := by
  refine of_facet ?_ rfl rfl fun other different => ?_
  · rw [facet_modifyCell, facet_modifyCell, if_pos rfl, if_pos rfl, same]
  · rw [facet_modifyCell, if_neg different]

/-- A section that is left on the value is left on the twin. -/
theorem leaveSection (same : world'.facet twin = world.facet value) :
    Along value twin world world' (world.leaveSection value) (world'.leaveSection twin) := by
  have noted : Along value twin world world' (world.note (.leaving value))
      (world'.note (.leaving twin)) := .of_facet same rfl rfl fun _ _ => rfl
  exact noted.trans (.modifyCell noted.facet _)

end World.Along

end RaceSentry
