import RaceSentry.Proofs.Turn

/-!
# What happenings do to standings

How matters stand for a value changes with what happens to the value and to the contexts of
threads, and with nothing else. So the standing of a value is read off the happenings alone.
Main statements: `Turn.standing?`, `Turn.fits` and `standing?_of_run`.
-/

namespace RaceSentry

variable {α : Type}

namespace Happening

/-- What a happening does to how matters stand for a value. -/
def bear (value : ValueId) : Happening → Option Standing → Option Standing
  | .made other detecting _, before => if value = other then some (.fresh detecting) else before
  | .removed other, before => if value = other then none else before
  | .accessed thread other kind _, before =>
    if value = other then before.map fun standing => standing.access ⟨thread, kind⟩ else before
  | .stalled thread other kind, before =>
    if value = other then before.map fun standing => standing.count ⟨thread, kind⟩ else before
  | .entered thread other _, before =>
    if value = other then before.map fun standing => standing.entry thread else before
  | .edited thread context, before =>
    before.map fun standing => standing.withSnapshot thread (context.snapshot? value)
  | .ended thread, before => before.map fun standing => standing.withSnapshot thread none

/-- What is not an access to a value, and does not make it, changes at most what threads have seen
of it. -/
theorem bear_aside {value : ValueId} {happening : Happening}
    (quiet : ∀ thread kind, happening.access? ≠ some (thread, value, kind))
    (old : ∀ detecting sink, happening ≠ .made value detecting sink) {before : Option Standing}
    {after : Standing} (stands : happening.bear value before = some after) :
    ∃ standing, before = some standing ∧ after.detecting = standing.detecting ∧
      after.clock = standing.clock ∧ after.racing = standing.racing := by
  cases happening with
  | made other detecting sink =>
    rw [bear, if_neg fun here => old detecting sink (by rw [here])] at stands
    exact ⟨after, stands, rfl, rfl, rfl⟩
  | removed other =>
    rw [bear] at stands
    split at stands
    · cases stands
    · exact ⟨after, stands, rfl, rfl, rfl⟩
  | accessed thread other kind sighting =>
    rw [bear, if_neg fun here => quiet thread kind (by rw [here]; rfl)] at stands
    exact ⟨after, stands, rfl, rfl, rfl⟩
  | stalled thread other kind =>
    rw [bear, if_neg fun here => quiet thread kind (by rw [here]; rfl)] at stands
    exact ⟨after, stands, rfl, rfl, rfl⟩
  | entered thread other clock =>
    rw [bear] at stands
    split at stands
    · obtain ⟨standing, stood, rfl⟩ := Option.map_eq_some_iff.1 stands
      exact ⟨standing, stood, rfl, rfl, rfl⟩
    · exact ⟨after, stands, rfl, rfl, rfl⟩
  | edited thread context =>
    obtain ⟨standing, stood, rfl⟩ := Option.map_eq_some_iff.1 stands
    exact ⟨standing, stood, rfl, rfl, rfl⟩
  | ended thread =>
    obtain ⟨standing, stood, rfl⟩ := Option.map_eq_some_iff.1 stands
    exact ⟨standing, stood, rfl, rfl, rfl⟩

/-- What a sighting tells of an access against which a list of conflicts stands. -/
def Tells (value : ValueId) (key : AccessKey) (conflicts : List Conflict) :
    Option Sighting → Prop
  | none => conflicts = []
  | some sighting =>
    conflicts ≠ [] ∧ sighting.value = value ∧ sighting.key = key ∧ sighting.candidates = conflicts

/-- How a happening agrees with the world in which it happens. -/
def Fits (world : World α) : Happening → Prop
  | .made value _ _ => value.index = world.made
  | .removed value => world.cells.contains value = true
  | .accessed thread value kind sighting =>
    world.threads.contains thread = true ∧
      ∃ standing, world.standing? value = some standing ∧ standing.detecting = true ∧
        Tells value ⟨thread, kind⟩ (standing.verdict ⟨thread, kind⟩) sighting
  | .stalled thread value _ =>
    world.threads.contains thread = true ∧ world.cells.contains value = true
  | .entered thread value clock =>
    world.threads.contains thread = true ∧
      ∃ standing, world.standing? value = some standing ∧ standing.clock = clock
  | .edited thread context =>
    world.threads.contains thread = true ∧ world.knowsAll context = true
  | .ended thread => world.threads.contains thread = true

/-- How matters stand for a value after a number of happenings. -/
def outcome (value : ValueId) (past : History) (before : Option Standing) :
    Option Standing :=
  past.foldr (bear value) before

/-- What two parts of a history come to for a value is what the later one makes of the earlier
one. -/
theorem outcome_append (value : ValueId) (later earlier : History)
    (before : Option Standing) :
    outcome value (later ++ earlier) before = outcome value later (outcome value earlier before) :=
  List.foldr_append

end Happening

namespace World

variable (world : World α)

/-- A recorded access adds to the standing of its own value, and to no other standing. -/
theorem standing?_tallyAccess {value : ValueId} {cell : Cell α}
    (found : world.cells.get? value = some cell) (key : AccessKey) (other : ValueId) :
    (world.tallyAccess value cell key).standing? other =
      if other = value then (world.standing? value).map fun standing => standing.tally key
      else world.standing? other := by
  rw [tallyAccess, standing?_copyCounter]
  split
  · rw [standing?_countAccess world found, if_pos rfl, Option.map_map,
      standing?_of_get? world found]
    rfl
  · rename_i different
    rw [standing?_countAccess world found, if_neg different]

/-- What stands against an access is a matter of how matters stand. -/
theorem against_eq_verdict {value : ValueId} {cell : Cell α} (on : cell.detecting = true)
    (key : AccessKey) :
    world.against value cell key =
      (cell.standing fun thread => world.snapshot? thread value).verdict key := by
  have detecting : (cell.standing fun thread => world.snapshot? thread value).detecting = true := on
  rw [Standing.verdict, if_pos detecting, Standing.judge, Standing.tally, Standing.seen_copy]
  rfl

/-- The cell that an access is recorded in. -/
theorem get?_tallyAccess (value : ValueId) (cell : Cell α) (key : AccessKey) :
    (world.tallyAccess value cell key).cells.get? value = some (cell.count key) := by
  rw [tallyAccess, cells_copyCounter]
  exact SortedMap.get?_insert_self _ _ _

/-- A flagged conflict lets a thread join those that race on its value, and no others. -/
theorem standing?_flag {cell : Cell α} {sighting : Sighting}
    (found : world.cells.get? sighting.value = some cell) (other : ValueId) :
    (world.flag cell sighting).standing? other =
      if other = sighting.value then
        (world.standing? sighting.value).map fun standing => standing.join sighting.key.thread
      else world.standing? other := by
  rw [flag_eq, standing?_sendReport, standing?_tallyRace, standing?_joinRace world found]

/-- Flagging an access changes what nobody has seen. -/
theorem snapshot?_flag (cell : Cell α) (sighting : Sighting) (thread : ThreadId)
    (value : ValueId) :
    (world.flag cell sighting).snapshot? thread value = world.snapshot? thread value := by
  rw [flag_eq, snapshot?_congr (threads_sendReport _ _ _),
    snapshot?_congr (threads_tallyRace _ _ _)]
  rfl

/-- Nothing is known of a value that was not made. -/
theorem snapshot?_made_of_numbered {world : World α} (numbered : Numbered world)
    (thread : ThreadId) : world.snapshot? thread ⟨world.made⟩ = none := by
  cases held : world.snapshot? thread ⟨world.made⟩ with
  | none => rfl
  | some snapshot =>
    have below := numbered.snapshots thread ⟨world.made⟩ (by rw [held]; rfl)
    exact absurd below (Nat.lt_irrefl _)

/-- A ledger entry for a value makes no value. -/
@[simp] theorem made_openAccount (sink : Option DetectorId) (label : Option String) :
    (world.openAccount sink label).made = world.made := by
  unfold openAccount
  split
  · rfl
  · split
    · rfl
    · rfl

/-- What threads have seen is untouched when a value is made. -/
theorem snapshot?_addCell (sink : Option DetectorId) (label : Option String) (cell : Cell α)
    (thread : ThreadId) (value : ValueId) :
    ((world.openAccount sink label).addCell cell).1.snapshot? thread value =
      world.snapshot? thread value :=
  snapshot?_congr (threads_openAccount world sink label) thread value

/-- Nobody has seen anything of a value that is made. -/
theorem standing?_addCell {world : World α} (numbered : Numbered world) (payload : α)
    (label : Option String) (detecting : Bool) (sink : Option DetectorId) (value : ValueId) :
    ((world.openAccount sink label).addCell (.new payload label detecting sink)).1.standing?
        value =
      if value = ⟨world.made⟩ then some (.fresh detecting) else world.standing? value := by
  have stored : ((world.openAccount sink label).addCell
      (.new payload label detecting sink)).1.cells =
      world.cells.insert ⟨world.made⟩ (.new payload label detecting sink) := by
    change (World.openAccount _ _ _).cells.insert ⟨(World.openAccount _ _ _).made⟩ _ = _
    rw [cells_openAccount, made_openAccount]
  by_cases here : value = ⟨world.made⟩
  · subst here
    have unseen : (fun thread => ((world.openAccount sink label).addCell
        (.new payload label detecting sink)).1.snapshot? thread ⟨world.made⟩) =
        fun _ => none := by
      funext thread
      rw [snapshot?_addCell, snapshot?_made_of_numbered numbered]
    rw [if_pos rfl, standing?, stored, SortedMap.get?_insert_self, Option.map_some, unseen]
    rfl
  · rw [if_neg here]
    refine standing?_congr ?_ fun thread => snapshot?_addCell world sink label _ thread value
    rw [stored, SortedMap.get?_insert_of_ne _ _ here]

/-- A thread that is not running has seen nothing. -/
theorem snapshot?_of_not_running {thread : ThreadId}
    (gone : world.threads.contains thread = false) (value : ValueId) :
    world.snapshot? thread value = none := by
  have absent : world.threads.get? thread = none := Option.isSome_eq_false_iff.1 gone |> fun h =>
    Option.isNone_iff_eq_none.1 h
  rw [snapshot?, World.thread, absent]
  rfl

/-- A thread that is started has seen nothing, with a context or without. -/
theorem snapshot?_spawn {world : World α} (numbered : Numbered world) (name : Option String)
    (attach : Bool) (thread : ThreadId) (value : ValueId) :
    (world.spawn name attach).1.snapshot? thread value = world.snapshot? thread value := by
  have unknown : world.snapshot? ⟨world.started⟩ value = none := by
    cases running : world.threads.contains ⟨world.started⟩ with
    | true => exact absurd (numbered.threads _ running) (Nat.lt_irrefl _)
    | false => exact snapshot?_of_not_running world running value
  have begun : ∀ state : ThreadState, (state.context.bind fun context =>
      context.snapshot? value) = none →
      (world.setThread ⟨world.started⟩ state).snapshot? thread value =
        world.snapshot? thread value := by
    intro state blank
    rw [snapshot?, thread_setThread]
    split
    · rename_i here
      rw [blank, here, unknown]
    · rfl
  unfold spawn
  dsimp only
  split
  · rw [snapshot?_bindContext]
    split
    · rename_i here
      rw [here, unknown]
      rfl
    · exact begun (.new name) rfl
  · exact begun (.new name) rfl

/-- A thread that ended has seen nothing. -/
theorem snapshot?_erase (id thread : ThreadId) (value : ValueId) :
    ({ world with threads := world.threads.erase id } : World α).snapshot? thread value =
      if thread = id then none else world.snapshot? thread value := by
  rw [snapshot?, World.thread, SortedMap.get?_erase]
  split
  · rfl
  · rfl

/-- A thread that starts leaves the values alone. -/
@[simp] theorem cells_spawn (name : Option String) (attach : Bool) :
    (world.spawn name attach).1.cells = world.cells := by
  unfold spawn
  dsimp only
  split
  · rfl
  · rfl

/-- An access against which nothing stands is counted. -/
theorem standing?_clean {value : ValueId} {cell : Cell α} {key : AccessKey}
    (found : world.cells.get? value = some cell) (on : cell.detecting = true)
    (nothing : world.against value cell key = []) (other : ValueId) :
    (world.tallyAccess value cell key).standing? other =
      if other = value then (world.standing? other).map fun standing => standing.access key
      else world.standing? other := by
  rw [against_eq_verdict world on] at nothing
  rw [standing?_tallyAccess world found]
  split
  · rename_i here
    rw [here, standing?_of_get? world found, Option.map_some, Option.map_some, Standing.access,
      if_pos nothing, if_pos (show (cell.standing _).detecting = true from on)]
  · rfl

/-- An access against which something stands is counted and flagged. -/
theorem standing?_flagged {value : ValueId} {cell : Cell α} {key : AccessKey}
    (found : world.cells.get? value = some cell) (on : cell.detecting = true)
    (something : world.against value cell key ≠ []) (other : ValueId) :
    ((world.tallyAccess value cell key).flag (cell.count key)
        (world.sightingOf value cell key)).standing? other =
      if other = value then (world.standing? other).map fun standing => standing.access key
      else world.standing? other := by
  rw [against_eq_verdict world on] at something
  have stored : (world.tallyAccess value cell key).cells.get?
      (world.sightingOf value cell key).value = some (cell.count key) :=
    get?_tallyAccess world value cell key
  rw [standing?_flag _ stored]
  change (if other = value then _ else _) = _
  split
  · rename_i here
    rw [here, show (world.sightingOf value cell key).value = value from rfl,
      standing?_tallyAccess world found, if_pos rfl, standing?_of_get? world found,
      Option.map_some, Option.map_some, Option.map_some, Standing.access, if_neg something,
      if_pos (show (cell.standing _).detecting = true from on)]
    rfl
  · rename_i different
    rw [standing?_tallyAccess world found, if_neg different]

/-- A section entry makes the thread see the value as it is. -/
theorem standing?_entered {value : ValueId} {cell : Cell α}
    (found : world.cells.get? value = some cell) (thread : ThreadId) (other : ValueId) :
    (world.adoptClock thread value cell.clock).standing? other =
      if other = value then (world.standing? other).map fun standing => standing.entry thread
      else world.standing? other := by
  rw [standing?_adoptClock]
  split
  · rename_i here
    rw [here, standing?_of_get? world found]
    rfl
  · rfl

/-- The snapshots of a thread go with it. -/
theorem standing?_erase (id : ThreadId) (value : ValueId) :
    ({ world with threads := world.threads.erase id } : World α).standing? value =
      (world.standing? value).map fun standing => standing.withSnapshot id none := by
  have seen : (fun thread => ({ world with threads := world.threads.erase id } :
      World α).snapshot? thread value) =
      fun thread => if thread = id then none else world.snapshot? thread value := by
    funext thread
    rw [snapshot?_erase]
  rw [standing?, standing?, seen, Option.map_map]
  rfl

/-- Nothing matters to a value that is taken away. -/
theorem standing?_removed (value other : ValueId) :
    ({ world with cells := world.cells.erase value } : World α).standing? other =
      if other = value then none else world.standing? other := by
  rw [standing?, SortedMap.get?_erase]
  split
  · rfl
  · rfl

/-- The standing of each value changes by what happens and by nothing else. -/
theorem Turn.standing? {world next : World α} {happenings : List Happening}
    (turn : Turn world happenings next) (numbered : Numbered world) (value : ValueId) :
    next.standing? value = Happening.outcome value happenings (world.standing? value) := by
  induction turn with
  | quiet kept => exact kept.standing? value
  | @stalled world thread other kind cell running found on =>
    rw [standing?_countAccess _ found]
    by_cases here : value = other
    · rw [here]
      rfl
    · rw [if_neg here]
      exact (if_neg here).symm
  | clean running found on nothing => exact standing?_clean _ found on nothing value
  | flagged running found on something => exact standing?_flagged _ found on something value
  | entered running found => exact standing?_entered _ found _ value
  | edited running known => exact standing?_bindContext _ _ _ value
  | started name attach =>
    exact standing?_congr (by rw [cells_spawn]) fun thread => snapshot?_spawn numbered _ _ thread _
  | ended running => exact standing?_erase _ _ value
  | equipped blank => rfl
  | adjusted found same => rfl
  | made known => exact standing?_addCell numbered _ _ _ _ value
  | removed present => exact standing?_removed _ _ value
  | after kept turn ih => rw [ih (kept.numbered numbered), kept.standing? value]
  | upTo turn kept ih => rw [kept.standing?, ih numbered]

/-- A happening agrees with every world that is alike in what verdicts depend on. -/
theorem Kept.fits {world next : World α} (kept : Kept world next) {happening : Happening}
    (fits : happening.Fits next) : happening.Fits world := by
  cases happening with
  | made value detecting sink => exact fits.trans kept.made
  | removed value => exact (kept.present value).symm.trans fits
  | accessed thread value kind sighting =>
    obtain ⟨running, standing, found, told⟩ := fits
    rw [kept.standing?] at found
    rw [kept.running] at running
    exact ⟨running, standing, found, told⟩
  | stalled thread value kind =>
    exact ⟨(kept.running thread).symm.trans fits.1, (kept.present value).symm.trans fits.2⟩
  | entered thread value clock =>
    obtain ⟨running, standing, found, same⟩ := fits
    rw [kept.standing?] at found
    rw [kept.running] at running
    exact ⟨running, standing, found, same⟩
  | edited thread context =>
    refine ⟨(kept.running thread).symm.trans fits.1, ?_⟩
    rw [← fits.2, knowsAll, knowsAll, kept.made]
  | ended thread => exact (kept.running thread).symm.trans fits

/-- What a turn tells agrees with the world in which it is made. -/
theorem Turn.fits {world next : World α} {happenings : List Happening}
    (turn : Turn world happenings next) : ∀ happening ∈ happenings, happening.Fits world := by
  induction turn with
  | quiet kept => exact nofun
  | stalled running found on =>
    exact List.forall_mem_singleton.2 ⟨running, (SortedMap.contains_iff _ _).2 ⟨_, found⟩⟩
  | clean running found on nothing =>
    rw [against_eq_verdict _ on] at nothing
    exact List.forall_mem_singleton.2 ⟨running, _, standing?_of_get? _ found, on, nothing⟩
  | @flagged world thread value kind cell running found on something =>
    have told : world.against value cell ⟨thread, kind⟩ = _ :=
      against_eq_verdict world on ⟨thread, kind⟩
    exact List.forall_mem_singleton.2 ⟨running, _, standing?_of_get? _ found, on,
      told ▸ something, rfl, rfl, told⟩
  | entered running found =>
    exact List.forall_mem_singleton.2 ⟨running, _, standing?_of_get? _ found, rfl⟩
  | edited running known => exact List.forall_mem_singleton.2 ⟨running, known⟩
  | started name attach => exact nofun
  | ended running => exact List.forall_mem_singleton.2 running
  | equipped blank => exact nofun
  | adjusted found same => exact nofun
  | made known => exact List.forall_mem_singleton.2 rfl
  | removed present => exact List.forall_mem_singleton.2 present
  | after kept turn ih => exact fun happening told => kept.fits (ih happening told)
  | upTo turn kept ih => exact ih

/-- A move tells at most one thing. -/
theorem Turn.eq_nil_or_singleton {world next : World α} {happenings : List Happening}
    (turn : Turn world happenings next) :
    happenings = [] ∨ ∃ happening, happenings = [happening] := by
  induction turn with
  | quiet kept => exact .inl rfl
  | started name attach => exact .inl rfl
  | equipped blank => exact .inl rfl
  | adjusted found same => exact .inl rfl
  | after kept turn ih => exact ih
  | upTo turn kept ih => exact ih
  | _ => exact .inr ⟨_, rfl⟩

/-- Accesses that are told of are to watched values. -/
theorem Turn.watched {world next : World α} {happenings : List Happening}
    (turn : Turn world happenings next) {happening : Happening} (told : happening ∈ happenings)
    {value : ValueId} {thread : ThreadId} {kind : AccessKind}
    (about : happening.access? = some (thread, value, kind)) :
    ∃ standing, world.standing? value = some standing ∧ standing.detecting = true := by
  induction turn with
  | stalled running found on =>
    cases List.mem_singleton.1 told
    cases about
    exact ⟨_, standing?_of_get? _ found, on⟩
  | clean running found on nothing =>
    cases List.mem_singleton.1 told
    cases about
    exact ⟨_, standing?_of_get? _ found, on⟩
  | flagged running found on something =>
    cases List.mem_singleton.1 told
    cases about
    exact ⟨_, standing?_of_get? _ found, on⟩
  | after kept turn ih =>
    rw [← kept.standing?]
    exact ih told
  | upTo turn kept ih => exact ih told
  | quiet kept => cases told
  | started name attach => cases told
  | equipped blank => cases told
  | adjusted found same => cases told
  | _ =>
    cases List.mem_singleton.1 told
    cases about

/-- Numbers stay in order when nothing is made and nobody learns of values that do not exist. -/
theorem Alike.numbered {world next : World α} (alike : Alike world next)
    (numbered : Numbered world)
    (learnt : ∀ thread value, (next.snapshot? thread value).isSome →
      (world.snapshot? thread value).isSome ∨ value.index < world.made) : Numbered next where
  threads := fun thread running => by
    rw [alike.running] at running
    rw [alike.started]
    exact numbered.threads thread running
  cells := fun value present => by
    rw [alike.present] at present
    rw [alike.made]
    exact numbered.cells value present
  snapshots := fun thread value held => by
    rw [alike.made]
    cases learnt thread value held with
    | inl before => exact numbered.snapshots thread value before
    | inr made => exact made

/-- A context that speaks of values that were made only. -/
theorem index_lt_of_knowsAll {context : ThreadContext} (known : world.knowsAll context = true)
    {value : ValueId} (held : (context.snapshot? value).isSome) : value.index < world.made := by
  obtain ⟨snapshot, found⟩ := Option.isSome_iff_exists.1 held
  have member : value ∈ context.snapshots.keys :=
    List.mem_map.2 ⟨(value, snapshot), (SortedMap.mem_entries_iff _ _ _).2 found, rfl⟩
  simpa using List.all_eq_true.1 known value member

/-- An access gives a snapshot only of a value that was made. -/
theorem learnt_tallyAccess {world : World α} (numbered : Numbered world) {value : ValueId}
    {cell : Cell α} (found : world.cells.get? value = some cell) (key : AccessKey)
    (thread : ThreadId) (other : ValueId)
    (held : ((world.tallyAccess value cell key).snapshot? thread other).isSome) :
    (world.snapshot? thread other).isSome ∨ other.index < world.made := by
  rw [tallyAccess, snapshot?_copyCounter] at held
  split at held
  · rename_i here
    rw [here.2]
    exact .inr (numbered.cells value ((SortedMap.contains_iff _ _).2 ⟨cell, found⟩))
  · exact .inl held

/-- A section entry gives a snapshot only of a value that was made. -/
theorem learnt_adoptClock {world : World α} (numbered : Numbered world) {value : ValueId}
    {cell : Cell α} (found : world.cells.get? value = some cell) (id thread : ThreadId)
    (other : ValueId)
    (held : ((world.adoptClock id value cell.clock).snapshot? thread other).isSome) :
    (world.snapshot? thread other).isSome ∨ other.index < world.made := by
  rw [snapshot?_adoptClock] at held
  split at held
  · rename_i here
    rw [here.2]
    exact .inr (numbered.cells value ((SortedMap.contains_iff _ _).2 ⟨cell, found⟩))
  · exact .inl held

/-- A thread that starts makes no value. -/
@[simp] theorem made_spawn (name : Option String) (attach : Bool) :
    (world.spawn name attach).1.made = world.made := by
  unfold spawn
  dsimp only
  split
  · rfl
  · rfl

/-- A thread that starts is counted. -/
@[simp] theorem started_spawn (name : Option String) (attach : Bool) :
    (world.spawn name attach).1.started = world.started + 1 := by
  unfold spawn
  dsimp only
  split
  · rfl
  · rfl

/-- Numbers stay in order. -/
theorem Turn.numbered {world next : World α} {happenings : List Happening}
    (turn : Turn world happenings next) (numbered : Numbered world) : Numbered next := by
  induction turn with
  | quiet kept => exact kept.numbered numbered
  | stalled running found on =>
    exact (alike_countAccess _ found _).numbered numbered fun _ _ held => .inl held
  | clean running found on nothing =>
    exact (alike_tallyAccess _ running found).numbered numbered
      (learnt_tallyAccess numbered found _)
  | flagged running found on something =>
    refine (alike_flagged _ running found).numbered numbered fun thread value held => ?_
    rw [snapshot?_flag] at held
    exact learnt_tallyAccess numbered found _ thread value held
  | entered running found =>
    exact (alike_adoptClock _ running _ _).numbered numbered (learnt_adoptClock numbered found _)
  | edited running known =>
    refine (alike_bindContext _ running _).numbered numbered fun thread value held => ?_
    rw [snapshot?_bindContext] at held
    split at held
    · exact .inr (index_lt_of_knowsAll _ known held)
    · exact .inl held
  | started name attach =>
    refine ⟨fun thread running => ?_, fun value present => ?_, fun thread value held => ?_⟩
    · rw [contains_spawn, Bool.or_eq_true, decide_eq_true_eq] at running
      rw [started_spawn]
      cases running with
      | inl same => rw [same]; exact Nat.lt_succ_self _
      | inr before => exact Nat.lt_succ_of_lt (numbered.threads thread before)
    · rw [cells_spawn] at present
      rw [made_spawn]
      exact numbered.cells value present
    · rw [snapshot?_spawn numbered] at held
      rw [made_spawn]
      exact numbered.snapshots thread value held
  | ended running =>
    refine ⟨fun thread running => ?_, numbered.cells, fun thread value held => ?_⟩
    · rw [SortedMap.contains_erase, Bool.and_eq_true] at running
      exact numbered.threads thread running.2
    · rw [snapshot?_erase] at held
      split at held
      · cases held
      · exact numbered.snapshots thread value held
  | equipped blank => exact ⟨numbered.threads, numbered.cells, numbered.snapshots⟩
  | adjusted found same => exact ⟨numbered.threads, numbered.cells, numbered.snapshots⟩
  | @made world payload label detecting sink known =>
    have opened := alike_openAccount world sink label
    refine ⟨fun thread running => ?_, fun value present => ?_, fun thread value held => ?_⟩
    · change thread.index < (world.openAccount sink label).started
      rw [opened.started]
      exact numbered.threads thread ((opened.running thread).symm.trans running)
    · change value.index < (world.openAccount sink label).made + 1
      rw [contains_addCell, opened.made, opened.present, Bool.or_eq_true,
        decide_eq_true_eq] at present
      rw [opened.made]
      cases present with
      | inl same => rw [same]; exact Nat.lt_succ_self _
      | inr before => exact Nat.lt_succ_of_lt (numbered.cells value before)
    · change value.index < (world.openAccount sink label).made + 1
      rw [snapshot?_addCell] at held
      rw [opened.made]
      exact Nat.lt_succ_of_lt (numbered.snapshots thread value held)
  | removed present =>
    refine ⟨numbered.threads, fun value present => ?_, numbered.snapshots⟩
    rw [SortedMap.contains_erase, Bool.and_eq_true] at present
    exact numbered.cells value present.2
  | after kept turn ih => exact ih (kept.numbered numbered)
  | upTo turn kept ih => exact kept.numbered (ih numbered)

/-- Threads that were started stay so. -/
theorem Turn.started_le {world next : World α} {happenings : List Happening}
    (turn : Turn world happenings next) : world.started ≤ next.started := by
  induction turn with
  | quiet kept => exact Nat.le_of_eq kept.started.symm
  | clean running found on nothing =>
    exact Nat.le_of_eq (alike_tallyAccess _ running found).started.symm
  | flagged running found on something =>
    exact Nat.le_of_eq (alike_flagged _ running found).started.symm
  | entered running found => exact Nat.le_of_eq (alike_adoptClock _ running _ _).started.symm
  | started name attach =>
    rw [started_spawn]
    exact Nat.le_succ _
  | made known => exact Nat.le_of_eq (alike_openAccount _ _ _).started.symm
  | after kept turn ih =>
    rw [← kept.started]
    exact ih
  | upTo turn kept ih =>
    rw [kept.started]
    exact ih
  | _ => exact Nat.le_refl _

/-- Values that were made stay so. -/
theorem Turn.made_le {world next : World α} {happenings : List Happening}
    (turn : Turn world happenings next) : world.made ≤ next.made := by
  induction turn with
  | quiet kept => exact Nat.le_of_eq kept.made.symm
  | clean running found on nothing =>
    exact Nat.le_of_eq (alike_tallyAccess _ running found).made.symm
  | flagged running found on something =>
    exact Nat.le_of_eq (alike_flagged _ running found).made.symm
  | entered running found => exact Nat.le_of_eq (alike_adoptClock _ running _ _).made.symm
  | started name attach => exact Nat.le_of_eq (made_spawn _ name attach).symm
  | @made world payload label detecting sink known =>
    change world.made ≤ (world.openAccount sink label).made + 1
    rw [made_openAccount]
    exact Nat.le_succ _
  | after kept turn ih =>
    rw [← kept.made]
    exact ih
  | upTo turn kept ih =>
    rw [kept.made]
    exact ih
  | _ => exact Nat.le_refl _

/-- A value that is made counts among those that were made. -/
theorem Turn.index_lt_of_made {world next : World α} {happenings : List Happening}
    (turn : Turn world happenings next) {value : ValueId} {detecting : Bool}
    {sink : Option DetectorId} (told : .made value detecting sink ∈ happenings) :
    value.index < next.made := by
  induction turn with
  | @made world payload label detecting sink known =>
    change value.index < (world.openAccount sink label).made + 1
    simp only [List.mem_singleton, Happening.made.injEq] at told
    rw [made_openAccount, told.1]
    exact Nat.lt_succ_self _
  | after kept turn ih => exact ih told
  | upTo turn kept ih =>
    rw [kept.made]
    exact ih told
  | _ => simp at told

/-- A thread that runs afterwards ran before or was started just now. -/
theorem Turn.running_before {world next : World α} {happenings : List Happening}
    (turn : Turn world happenings next) {thread : ThreadId}
    (after : next.threads.contains thread = true) :
    world.threads.contains thread = true ∨ world.started ≤ thread.index := by
  induction turn with
  | quiet kept => exact .inl ((kept.running thread).symm.trans after)
  | clean running found on nothing =>
    exact .inl (((alike_tallyAccess _ running found).running thread).symm.trans after)
  | flagged running found on something =>
    exact .inl (((alike_flagged _ running found).running thread).symm.trans after)
  | entered running found =>
    exact .inl (((alike_adoptClock _ running _ _).running thread).symm.trans after)
  | edited running known =>
    exact .inl (((alike_bindContext _ running _).running thread).symm.trans after)
  | started name attach =>
    rw [contains_spawn, Bool.or_eq_true, decide_eq_true_eq] at after
    cases after with
    | inl same =>
      rw [same]
      exact .inr (Nat.le_refl _)
    | inr before => exact .inl before
  | ended running =>
    rw [SortedMap.contains_erase, Bool.and_eq_true] at after
    exact .inl after.2
  | made known =>
    exact .inl (((alike_openAccount _ _ _).running thread).symm.trans after)
  | after kept turn ih =>
    rw [← kept.running, ← kept.started]
    exact ih after
  | upTo turn kept ih => exact ih ((kept.running thread).symm.trans after)
  | _ => exact .inl after

/-- A thread that ended does not run. -/
theorem Turn.gone {world next : World α} {happenings : List Happening}
    (turn : Turn world happenings next) {thread : ThreadId} (told : .ended thread ∈ happenings) :
    next.threads.contains thread = false := by
  induction turn with
  | ended running =>
    rw [List.mem_singleton.1 told |> Happening.ended.inj, SortedMap.contains_erase]
    simp
  | after kept turn ih => exact ih told
  | upTo turn kept ih =>
    rw [kept.running]
    exact ih told
  | _ => simp at told

end World

open World

variable {past : History} {scene : Scene α}

/-- Where nothing exists, everything is numbered. -/
theorem numbered_empty : Numbered (World.empty : World α) :=
  ⟨nofun, nofun, nofun⟩

/-- What holds of nothing, and is kept by every turn, holds after every run. -/
theorem run_induction (holds : History → World α → Prop) (start : holds [] .empty)
    (kept : ∀ past world happenings next, Numbered world → holds past world →
      Turn world happenings next → holds (happenings ++ past) next)
    (run : Run past scene) : Numbered scene.world ∧ holds past scene.world := by
  induction run with
  | refl => exact ⟨numbered_empty, start⟩
  | tail path performed ih =>
    have turn := Scene.turn_of_perform? ih.1 performed
    exact ⟨turn.numbered ih.1, kept _ _ _ _ ih.1 ih.2 turn⟩

/-- Numbers are in order after every run. -/
theorem numbered_of_run (run : Run past scene) : Numbered scene.world :=
  (run_induction (fun _ _ => True) trivial (fun _ _ _ _ _ _ _ => trivial) run).1

/-- After every run the standing of each value is read off the happenings. -/
theorem standing?_of_run (run : Run past scene) (value : ValueId) :
    scene.world.standing? value = Happening.outcome value past none := by
  refine (run_induction (fun past world =>
    world.standing? value = Happening.outcome value past none) rfl ?_ run).2
  intro past world happenings next numbered before turn
  rw [turn.standing? numbered, before, Happening.outcome_append]

/-- Every happening of a run happened at some scene of it. -/
theorem exists_scene_of_run {newer older : History} {happening : Happening}
    (run : Run (newer ++ happening :: older) scene) :
    ∃ before next, Run older before ∧
      (∃ move, before.perform? move = some (next, [happening])) ∧ Path next newer scene := by
  generalize whole : newer ++ happening :: older = past at run
  induction run generalizing newer with
  | refl => exact absurd whole (List.append_ne_nil_of_right_ne_nil _ (List.cons_ne_nil _ _))
  | @tail past happenings scene next move path performed ih =>
    have turn := Scene.turn_of_perform? (numbered_of_run path) performed
    rcases turn.eq_nil_or_singleton with rfl | ⟨latest, rfl⟩
    · obtain ⟨before, after, run, told, rest⟩ := ih whole
      exact ⟨before, after, run, told, rest.tail performed⟩
    · cases newer with
      | nil =>
        obtain ⟨rfl, rfl⟩ := List.cons.inj whole
        exact ⟨scene, next, path, ⟨move, performed⟩, .refl⟩
      | cons first newer =>
        obtain ⟨rfl, remains⟩ := List.cons.inj whole
        obtain ⟨before, after, run, told, rest⟩ := ih remains
        exact ⟨before, after, run, told, rest.tail performed⟩

end RaceSentry
