import Mathlib.Algebra.BigOperators.Group.List.Lemmas
import Mathlib.Algebra.GroupWithZero.Nat
import RaceSentry.Proofs.History
import RaceSentry.Proofs.Script

/-!
# Clock tables as accounts

The clock table of a watched value is an account of all accesses to it: each counter is the number
of accesses of its key, so that the table has as many entries as there are keys that accessed the
value, and its total is the number of accesses. Hand edits of contexts do not matter here, only
accesses that were cut short do, since those are counted without being recorded.
Main statement: `clock_accounts_for_accesses`.
-/

namespace RaceSentry

open World

variable {α : Type} {past : History} {scene : Scene α} {value : ValueId}

/-- The key with which a value was accessed. -/
def Happening.accessKey? (value : ValueId) : Happening → Option AccessKey
  | .accessed thread other kind _ => if other = value then some ⟨thread, kind⟩ else none
  | _ => none

/-- What is not an access to a value has no key of one. -/
theorem Happening.accessKey?_of_quiet {happening : Happening}
    (quiet : ∀ thread kind, happening.access? ≠ some (thread, value, kind)) :
    happening.accessKey? value = none := by
  cases happening with
  | accessed thread other kind sighting =>
    exact if_neg fun here => quiet thread kind (by rw [here]; rfl)
  | _ => rfl

namespace History

/-- The keys of all accesses to a value, latest first. -/
def accesses (past : History) (value : ValueId) : List AccessKey :=
  past.filterMap (Happening.accessKey? value)

/-- No access to a value was cut short because the context of its thread was in use. -/
def Unstalled (past : History) (value : ValueId) : Prop :=
  ∀ thread kind, .stalled thread value kind ∉ past

/-- A tally counts the accesses of one key. -/
theorem count_accesses (past : History) (value : ValueId) (key : AccessKey) :
    (past.accesses value).count key = past.tally value key := by
  rw [accesses, List.count_filterMap, tally]
  refine List.countP_congr fun happening _ => ?_
  cases happening with
  | accessed thread other kind sighting =>
    by_cases here : other = value
    · simp [Happening.accessKey?, Happening.isAccess, here]
    · simp [Happening.accessKey?, Happening.isAccess, here]
  | _ => simp [Happening.accessKey?, Happening.isAccess]

/-- The counter of a key is how often it is among the accesses, and there is none if it is not. -/
theorem counter?_eq_count (past : History) (value : ValueId) (key : AccessKey) :
    past.counter? value key = if (past.accesses value).count key = 0 then none
      else some ((past.accesses value).count key) := by
  rw [count_accesses]
  rfl

/-- Counters never go down as time goes on. -/
theorem counter?_append_le {key : AccessKey} {counter : Nat} (later : History)
    (counted : past.counter? value key = some counter) :
    ∃ more, History.counter? (later ++ past) value key = some more ∧ counter ≤ more := by
  have both : History.tally (later ++ past) value key =
      later.tally value key + past.tally value key := List.countP_append
  unfold counter? at counted ⊢
  split at counted
  · cases counted
  · cases counted
    rw [if_neg (by omega), both]
    exact ⟨_, rfl, Nat.le_add_left _ _⟩

/-- What holds no stalled access as a whole holds none in its earlier part. -/
theorem Unstalled.of_append {later : History}
    (unstalled : History.Unstalled (later ++ past) value) : past.Unstalled value :=
  fun thread kind member => unstalled thread kind (List.mem_append_right _ member)

/-- Two parts without a stalled access make up a history without one. -/
theorem Unstalled.append {later : History} (first : later.Unstalled value)
    (second : past.Unstalled value) : History.Unstalled (later ++ past) value :=
  fun thread kind member => (List.mem_append.1 member).elim (first thread kind) (second thread kind)

end History

section Tables

variable {table : ClockTable} {keys : List AccessKey}

/-- Sums over lists are sums of lists. -/
theorem sumOver_eq_sum {β : Type} (items : List β) (measure : β → Nat) :
    sumOver items measure = (items.map measure).sum := by
  induction items with
  | nil => rfl
  | cons item rest ih => rw [sumOver, ih, List.map_cons, List.sum_cons]

/-- A table counts a list of keys: its entries are the numbers of their occurrences. -/
def ClockTable.Counts (table : ClockTable) (keys : List AccessKey) : Prop :=
  ∀ key, table.get? key = if keys.count key = 0 then none else some (keys.count key)

/-- Counts accesses, of which the latest comes first. -/
def ClockTable.raise (table : ClockTable) (keys : List AccessKey) : ClockTable :=
  keys.foldr (fun key raised => raised.increment key) table

namespace ClockTable.Counts

/-- A table without entries counts nothing. -/
theorem empty : ClockTable.Counts ∅ [] := fun _ => rfl

/-- One more access is one more occurrence of its key. -/
theorem increment (counts : table.Counts keys) (key : AccessKey) :
    (table.increment key).Counts (key :: keys) := by
  intro other
  have before := counts key
  rw [ClockTable.get?_increment, List.count_cons]
  by_cases here : other = key
  · rw [if_pos here, here, beq_self_eq_true, if_pos rfl, if_neg (Nat.succ_ne_zero _),
      ClockTable.next, before]
    split
    · rename_i zero
      rw [zero]
      rfl
    · rfl
  · rw [if_neg here, counts, beq_eq_false_iff_ne.2 (Ne.symm here)]
    rfl

/-- A table that counts keys counts more of them after they are raised one by one. -/
theorem raise (counts : table.Counts keys) (later : List AccessKey) :
    (table.raise later).Counts (later ++ keys) := by
  induction later with
  | nil => exact counts
  | cons key rest ih => exact ih.increment key

/-- The keys of the table are those of the list, each once. -/
theorem keys_perm (counts : table.Counts keys) : table.keys.Perm keys.dedup := by
  refine (List.perm_ext_iff_of_nodup (SortedMap.keys_nodup table) (List.nodup_dedup keys)).2 ?_
  intro key
  rw [SortedMap.mem_keys_iff, SortedMap.contains, counts, List.mem_dedup, ← List.count_pos_iff]
  split
  · rename_i zero
    simp [zero]
  · rename_i positive
    simp [Nat.pos_of_ne_zero positive]

/-- There are as many entries as there are different keys. -/
theorem size_eq (counts : table.Counts keys) : table.size = keys.dedup.length := by
  rw [← SortedMap.length_keys]
  exact counts.keys_perm.length_eq

/-- The total is the length of the list. -/
theorem total_eq (counts : table.Counts keys) : table.total = keys.length := by
  have entry : ∀ entry ∈ table.entries, entry.2 = keys.count entry.1 := by
    intro entry member
    have stored : table.get? entry.1 = some entry.2 :=
      (SortedMap.mem_entries_iff table entry.1 entry.2).1 member
    rw [counts] at stored
    split at stored
    · cases stored
    · exact (Option.some.inj stored).symm
  calc table.total
      = sumOver table.entries fun entry => entry.2 := by
        rw [ClockTable.total, SortedMap.values, sumOver_map]
        rfl
    _ = sumOver table.entries fun entry => keys.count entry.1 := sumOver_congr entry
    _ = sumOver table.keys fun key => keys.count key := by
        rw [SortedMap.keys, sumOver_map]
    _ = (table.keys.map fun key => keys.count key).sum := sumOver_eq_sum _ _
    _ = (keys.dedup.map fun key => keys.count key).sum := (counts.keys_perm.map _).sum_eq
    _ = keys.length := List.sum_map_count_dedup_eq_length keys

end ClockTable.Counts

end Tables

section Turns

variable {world next : World α} {happenings : List Happening} {after : Standing}

/-- A value that was not made before a turn is made by it, and nobody has accessed it. -/
theorem World.Turn.fresh (turn : Turn world happenings next) (numbered : Numbered world)
    (new : ¬ value.index < world.made) (stands : next.standing? value = some after) :
    after.clock = ∅ ∧ History.accesses happenings value = [] := by
  have absent : world.standing? value = none := by
    cases stood : world.standing? value with
    | none => rfl
    | some before =>
      obtain ⟨cell, found, _⟩ := (standing?_eq_some_iff world).1 stood
      exact absurd (numbered.cells value ((SortedMap.contains_iff _ _).2 ⟨cell, found⟩)) new
  rw [turn.standing? numbered, absent] at stands
  rcases turn.eq_nil_or_singleton with rfl | ⟨happening, rfl⟩
  · cases stands
  · change happening.bear value none = some after at stands
    cases happening with
    | made other detecting sink =>
      rw [Happening.bear] at stands
      split at stands
      · cases stands
        exact ⟨rfl, rfl⟩
      · cases stands
    | _ => simp [Happening.bear] at stands

/-- A turn counts the accesses that are told of it in the clock table of a watched value, and does
nothing else to the table. -/
theorem World.Turn.clock_eq (turn : Turn world happenings next) (numbered : Numbered world)
    (old : value.index < world.made) (unstalled : History.Unstalled happenings value)
    (stands : next.standing? value = some after) :
    ∃ before, world.standing? value = some before ∧ before.detecting = after.detecting ∧
      (after.detecting = true →
        after.clock = before.clock.raise (History.accesses happenings value)) := by
  rw [turn.standing? numbered] at stands
  rcases turn.eq_nil_or_singleton with rfl | ⟨happening, rfl⟩
  · exact ⟨after, stands, rfl, fun _ => rfl⟩
  · have fits := turn.fits happening (List.mem_singleton_self _)
    change happening.bear value (world.standing? value) = some after at stands
    by_cases accesses : ∃ thread kind, happening.access? = some (thread, value, kind)
    · obtain ⟨thread, kind, about⟩ := accesses
      cases happening with
      | accessed other target kind' sighting =>
        cases about
        rw [Happening.bear, if_pos rfl] at stands
        obtain ⟨before, stood, rfl⟩ := Option.map_eq_some_iff.1 stands
        refine ⟨before, stood, (before.detecting_access _).symm, fun on => ?_⟩
        rw [Standing.detecting_access] at on
        rw [Standing.clock_access, if_pos on, History.accesses, List.filterMap_cons,
          Happening.accessKey?, if_pos rfl]
        rfl
      | stalled other target kind' =>
        cases about
        exact absurd (List.mem_singleton_self _) (unstalled thread kind)
      | _ => cases about
    · have quiet : ∀ thread kind, happening.access? ≠ some (thread, value, kind) :=
        fun thread kind about => accesses ⟨thread, kind, about⟩
      have unmade : ∀ detecting sink, happening ≠ .made value detecting sink := by
        rintro detecting sink rfl
        exact Nat.ne_of_lt old fits
      obtain ⟨before, stood, detecting, clock, _⟩ := Happening.bear_aside quiet unmade stands
      refine ⟨before, stood, detecting.symm, fun _ => ?_⟩
      rw [clock, History.accesses, List.filterMap_cons, Happening.accessKey?_of_quiet quiet]
      rfl

end Turns

/-- What happened so far was about values that were made. -/
theorem History.Dated.accesses_eq_nil {world : World α} (dated : past.Dated world)
    (new : ¬ value.index < world.made) : past.accesses value = [] := by
  refine List.filterMap_eq_nil_iff.2 fun happening member => ?_
  cases happening with
  | accessed thread other kind sighting =>
    refine if_neg ?_
    rintro rfl
    exact new (dated.values _ member _ rfl)
  | _ => rfl

/-- At every moment of a run, the clock table of a watched value counts its accesses. -/
theorem counts_of_run (run : Run past scene) (unstalled : past.Unstalled value)
    {standing : Standing} (stands : scene.world.standing? value = some standing)
    (on : standing.detecting = true) : standing.clock.Counts (past.accesses value) := by
  have all := (run_induction (fun past world => past.Dated world ∧
    ∀ standing, past.Unstalled value → world.standing? value = some standing →
      standing.detecting = true → standing.clock.Counts (past.accesses value))
    ⟨⟨nofun, nofun⟩, fun _ _ absent => nomatch absent⟩ ?_ run).2.2
  · exact all standing unstalled stands on
  · intro past world happenings next numbered holds turn
    obtain ⟨dated, counts⟩ := holds
    refine ⟨dated.turn numbered turn, fun after unstalled stands on => ?_⟩
    have joined : History.accesses (happenings ++ past) value =
        History.accesses happenings value ++ past.accesses value := List.filterMap_append
    rw [joined]
    by_cases old : value.index < world.made
    · have calm : History.Unstalled happenings value := fun thread kind member =>
        unstalled thread kind (List.mem_append_left _ member)
      obtain ⟨before, stood, same, raised⟩ := turn.clock_eq numbered old calm stands
      rw [raised on]
      exact (counts before unstalled.of_append stood (same.trans on)).raise _
    · obtain ⟨blank, nothing⟩ := turn.fresh numbered old stands
      rw [blank, nothing, dated.accesses_eq_nil old]
      exact .empty

/-- A value that exists after a path, and was made before it, was there before it, and is watched if
it was. -/
theorem Path.exists_before {start : Scene α} {later : History} (path : Path start later scene)
    (numbered : Numbered start.world) (old : value.index < start.world.made)
    (unstalled : later.Unstalled value) {after : Standing}
    (stands : scene.world.standing? value = some after) :
    ∃ before, start.world.standing? value = some before ∧
      before.detecting = after.detecting := by
  suffices whole : value.index < scene.world.made ∧ ∀ after,
      scene.world.standing? value = some after →
        ∃ before, start.world.standing? value = some before ∧
          before.detecting = after.detecting from
    whole.2 after stands
  clear stands after
  induction path with
  | refl => exact ⟨old, fun after stands => ⟨after, stands, rfl⟩⟩
  | @tail earlier happenings middle next move path performed ih =>
    obtain ⟨made, through⟩ := ih unstalled.of_append
    have turn := Scene.turn_of_perform? (path.numbered numbered) performed
    refine ⟨Nat.lt_of_lt_of_le made turn.made_le, fun after stands => ?_⟩
    have calm : History.Unstalled happenings value := fun thread kind member =>
      unstalled thread kind (List.mem_append_left _ member)
    obtain ⟨between, stood, same, _⟩ :=
      turn.clock_eq (path.numbered numbered) made calm stands
    obtain ⟨before, there, alike⟩ := through between stood
    exact ⟨before, there, alike.trans same⟩

section Moves

variable {next : Scene α} {happenings : List Happening} {cell after : Cell α}

/-- A move counts the accesses that are told of it, and does nothing else to a clock table. -/
theorem clock_of_perform? {move : Move α} (run : Run past scene)
    (found : scene.world.cells.get? value = some cell) (on : cell.detecting = true)
    (performed : scene.perform? move = some (next, happenings))
    (unstalled : History.Unstalled happenings value)
    (stays : next.world.cells.get? value = some after) :
    after.clock = cell.clock.raise (History.accesses happenings value) := by
  have numbered := numbered_of_run run
  have turn := Scene.turn_of_perform? numbered performed
  have old := numbered.cells value ((SortedMap.contains_iff _ _).2 ⟨cell, found⟩)
  obtain ⟨before, stood, same, raised⟩ :=
    turn.clock_eq numbered old unstalled (standing?_of_get? _ stays)
  rw [standing?_of_get? _ found] at stood
  cases stood
  exact raised (same.symm.trans on)

/-- Moves other than accesses to a value tell of none. -/
theorem accesses_of_perform? {move : Move α}
    (performed : scene.perform? move = some (next, happenings))
    (other : ∀ thread kind, move ≠ .access thread value kind) :
    History.accesses happenings value = [] ∧ History.Unstalled happenings value := by
  constructor
  · refine List.filterMap_eq_nil_iff.2 fun happening member => ?_
    cases happening with
    | accessed thread target kind sighting =>
      refine if_neg ?_
      rintro rfl
      exact other thread kind (Scene.eq_access_of_perform? performed member rfl)
    | _ => rfl
  · intro thread kind member
    exact other thread kind (Scene.eq_access_of_perform? performed member rfl)

/-- An access to a watched value that is begun tells of itself. -/
theorem accesses_accessHappenings {world : World α} {thread : ThreadId} {kind : AccessKind}
    {sighting : Option Sighting} (watched : world.watches value = true) :
    History.accesses (world.accessHappenings thread value kind (.begun sighting)) value =
      [⟨thread, kind⟩] := by
  rw [accessHappenings, if_pos watched, History.accesses, List.filterMap_cons,
    Happening.accessKey?, if_pos rfl]
  rfl

/-- An access to a watched value tells of itself, unless it is refused or cut short. -/
theorem accesses_of_access {thread : ThreadId} {kind : AccessKind}
    (found : scene.world.cells.get? value = some cell) (on : cell.detecting = true)
    (performed : scene.perform? (.access thread value kind) = some (next, happenings))
    (unstalled : History.Unstalled happenings value) :
    History.accesses happenings value = if cell.borrowed then [] else [⟨thread, kind⟩] := by
  have watched : scene.world.watches value = true := by
    rw [watches, found]
    exact on
  obtain ⟨_, attempt, asked, rfl⟩ := Scene.asksAccess_of_perform? performed
  generalize next.world = begun at asked
  cases asked with
  | reentered stored lock there taken borrowed =>
    cases found.symm.trans there
    rw [if_pos borrowed]
    rfl
  | stalled => exact absurd (List.mem_singleton_self _) (unstalled thread kind)
  | unwatched stored lock there taken free off =>
    cases found.symm.trans there
    exact absurd (off.symm.trans on) Bool.false_ne_true
  | clean stored lock there taken free =>
    cases found.symm.trans there
    rw [accesses_accessHappenings watched, free]
    rfl
  | flagged stored lock there taken free =>
    cases found.symm.trans there
    rw [accesses_accessHappenings watched, free]
    rfl

end Moves

/-- How the clock table of a watched value accounts for what happened to the value. -/
structure Accounted (past : History) (scene : Scene α) (value : ValueId) (cell : Cell α) :
    Prop where
  /-- Each counter is the number of accesses of its key; there is none without an access. -/
  entries : ∀ key, cell.clock.get? key = past.counter? value key
  /-- There are as many entries as there are keys that accessed the value. -/
  size : cell.clock.size = (past.accesses value).dedup.length
  /-- The total is the number of accesses. -/
  total : cell.clock.total = (past.accesses value).length
  /-- A further access raises its own counter by one, and no other, unless it is refused because a
  closure has the content. -/
  raised : ∀ thread kind next happenings after,
    scene.perform? (.access thread value kind) = some (next, happenings) →
    History.Unstalled happenings value → next.world.cells.get? value = some after →
      after.clock = if cell.borrowed then cell.clock else cell.clock.increment ⟨thread, kind⟩
  /-- No other move changes the table. -/
  spared : ∀ move next happenings after, (∀ thread kind, move ≠ .access thread value kind) →
    scene.perform? move = some (next, happenings) → next.world.cells.get? value = some after →
      after.clock = cell.clock
  /-- Entries are never removed or lowered. -/
  lasting : ∀ later next after, Path scene later next → later.Unstalled value →
    next.world.cells.get? value = some after → ∀ key counter, cell.clock.get? key = some counter →
      ∃ more, after.clock.get? key = some more ∧ counter ≤ more
  /-- A whole action of a thread, with everything that its closures do, and whether it is cut short
  or not, counts the accesses that are told of it. -/
  acted : ∀ thread (action : Action α) after, scene.world.threads.contains thread = true →
    (action.tells thread scene.world).Unstalled value →
    (action.run thread scene.world).1.cells.get? value = some after →
      ∀ key, after.clock.get? key =
        History.counter? (action.tells thread scene.world ++ past) value key

/-- At every moment of every run, the clock table of a watched value is an exact account of the
accesses to it, provided that none of them was cut short. -/
theorem clock_accounts_for_accesses {cell : Cell α} (run : Run past scene)
    (unstalled : past.Unstalled value) (found : scene.world.cells.get? value = some cell)
    (on : cell.detecting = true) : Accounted past scene value cell := by
  have numbered := numbered_of_run run
  have stood := standing?_of_get? _ found
  have counts : cell.clock.Counts (past.accesses value) := counts_of_run run unstalled stood on
  have old : value.index < scene.world.made :=
    numbered.cells value ((SortedMap.contains_iff _ _).2 ⟨cell, found⟩)
  -- Whatever happens later, the value is still watched, and its table still counts.
  have later : ∀ more next after, Path scene more next → more.Unstalled value →
      next.world.cells.get? value = some after →
        ∀ key, after.clock.get? key = History.counter? (more ++ past) value key := by
    intro more next after path calm stays key
    have stands := standing?_of_get? _ stays
    obtain ⟨before, there, same⟩ := path.exists_before numbered old calm stands
    cases stood.symm.trans there
    have still := counts_of_run (Path.trans run path) (calm.append unstalled) stands
      (same.symm.trans on)
    rw [History.counter?_eq_count]
    exact still key
  refine ⟨fun key => ?_, counts.size_eq, counts.total_eq, ?_, ?_, ?_, ?_⟩
  · rw [History.counter?_eq_count]
    exact counts key
  · intro thread kind next happenings after performed calm stays
    rw [clock_of_perform? run found on performed calm stays,
      accesses_of_access found on performed calm]
    split
    · rfl
    · rfl
  · intro move next happenings after other performed stays
    obtain ⟨nothing, calm⟩ := accesses_of_perform? performed other
    rw [clock_of_perform? run found on performed calm stays, nothing]
    rfl
  · intro more next after path calm stays key counter counted
    rw [later more next after path calm stays key]
    rw [counts key, ← History.counter?_eq_count] at counted
    exact History.counter?_append_le more counted
  · intro thread action after runs calm stays
    have leads := leads_run thread action scene runs numbered
    exact later _ _ after leads.1 calm stays

/-- A thread that writes, asks in vain for the value from inside of its closure and gives up there,
has written once; another one that attaches a context and forgets a snapshot has read once. -/
theorem clock_accounts_for_refused_access :
    ∃ (scene : Scene Nat) (cell : Cell Nat),
      Run [.accessed ⟨1⟩ ⟨0⟩ .read (some ⟨⟨0⟩, none, ⟨⟨1⟩, .read⟩, none,
            [⟨⟨⟨0⟩, .write⟩, 1, none⟩]⟩),
          .edited ⟨1⟩ ⟨⟨1⟩, none, ∅⟩, .accessed ⟨0⟩ ⟨0⟩ .write none, .made ⟨0⟩ true none] scene ∧
        scene.world.cells.get? ⟨0⟩ = some cell ∧ cell.detecting = true ∧
        cell.clock = .ofList [(⟨⟨0⟩, .write⟩, 1), (⟨⟨1⟩, .read⟩, 1)] ∧
        Accounted [.accessed ⟨1⟩ ⟨0⟩ .read (some ⟨⟨0⟩, none, ⟨⟨1⟩, .read⟩, none,
            [⟨⟨⟨0⟩, .write⟩, 1, none⟩]⟩),
          .edited ⟨1⟩ ⟨⟨1⟩, none, ∅⟩, .accessed ⟨0⟩ ⟨0⟩ .write none, .made ⟨0⟩ true none] scene
          ⟨0⟩ cell := by
  obtain ⟨scene, cell, run, found, on, clock⟩ :
      ∃ (scene : Scene Nat) (cell : Cell Nat),
        Run [.accessed ⟨1⟩ ⟨0⟩ .read (some ⟨⟨0⟩, none, ⟨⟨1⟩, .read⟩, none,
              [⟨⟨⟨0⟩, .write⟩, 1, none⟩]⟩),
            .edited ⟨1⟩ ⟨⟨1⟩, none, ∅⟩, .accessed ⟨0⟩ ⟨0⟩ .write none, .made ⟨0⟩ true none]
          scene ∧
          scene.world.cells.get? ⟨0⟩ = some cell ∧ cell.detecting = true ∧
          cell.clock = .ofList [(⟨⟨0⟩, .write⟩, 1), (⟨⟨1⟩, .read⟩, 1)] :=
    ⟨_, _, Path.refl.playOut? [.step (.spawn none false), .step (.spawn none false),
      .step (.newValue 7 none none), .access ⟨0⟩ ⟨0⟩ .write, .access ⟨0⟩ ⟨0⟩ .read,
      .finish ⟨0⟩ id, .openContext ⟨1⟩, .edit ⟨1⟩ (fun context => context.forget ⟨0⟩),
      .closeContext ⟨1⟩, .access ⟨1⟩ ⟨0⟩ .read] rfl, rfl, rfl, rfl⟩
  refine ⟨scene, cell, run, found, on, clock, clock_accounts_for_accesses run ?_ found on⟩
  intro thread kind member
  simp at member

end RaceSentry
