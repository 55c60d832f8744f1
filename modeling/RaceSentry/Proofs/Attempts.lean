import RaceSentry.Proofs.Accounting

/-!
# Attempts, and threads that know of them

An access that is cut short because the context of its thread is in use has been counted all the
same. So the clock table of a value counts attempts, whatever is done to contexts by hand. A thread
knows a value if its snapshot holds its own attempts as they are, and those of others as they were
at its last section entry. What one thread knows is spoilt by its own doings only, and is put right
by a section entry.
Main statements: `counted_of_run`, `Standing.Knows.bear` and `Standing.Knows.verdict_eq_nil_iff`.
-/

namespace RaceSentry

open World

variable {α : Type} {past : History} {scene next : Scene α} {value : ValueId}

/-- The key with which an access to a value was made, recorded or cut short. -/
def Happening.attempt? (value : ValueId) (happening : Happening) : Option AccessKey :=
  happening.access?.bind fun (thread, other, kind) =>
    if other = value then some ⟨thread, kind⟩ else none

/-- A happening is an attempt of a key at a value exactly if it tells of an access of this thread,
value and kind. -/
theorem Happening.attempt?_eq_some_iff {happening : Happening} {key : AccessKey} :
    happening.attempt? value = some key ↔
      happening.access? = some (key.thread, value, key.kind) := by
  rw [attempt?, Option.bind_eq_some_iff]
  constructor
  · rintro ⟨⟨thread, other, kind⟩, told, same⟩
    dsimp only at same
    split at same
    · rename_i here
      cases same
      rw [told, here]
    · cases same
  · intro told
    exact ⟨_, told, if_pos rfl⟩

/-- A happening is no attempt at a value exactly if it tells of no access to it. -/
theorem Happening.attempt?_eq_none_iff {happening : Happening} :
    happening.attempt? value = none ↔
      ∀ thread kind, happening.access? ≠ some (thread, value, kind) := by
  rw [Option.eq_none_iff_forall_ne_some]
  constructor
  · intro never thread kind told
    exact never ⟨thread, kind⟩ (attempt?_eq_some_iff.2 told)
  · intro never key attempted
    exact never _ _ (attempt?_eq_some_iff.1 attempted)

namespace History

/-- The keys of all attempts at a value, latest first. -/
def attempts (past : History) (value : ValueId) : List AccessKey :=
  past.filterMap (Happening.attempt? value)

/-- The number of attempts of a key: there is none before the first. -/
def number? (past : History) (value : ValueId) (key : AccessKey) : Option Nat :=
  if (past.attempts value).count key = 0 then none else some ((past.attempts value).count key)

variable {happening : Happening} {thread : ThreadId} {key : AccessKey}

/-- A key is among the attempts at a value exactly if something tells of an access of it. -/
theorem mem_attempts_iff : key ∈ past.attempts value ↔
    ∃ happening ∈ past, happening.access? = some (key.thread, value, key.kind) := by
  rw [attempts, List.mem_filterMap]
  exact exists_congr fun happening => and_congr_right fun _ => Happening.attempt?_eq_some_iff

/-- The attempts of two histories in a row are those of the later and those of the earlier one. -/
theorem attempts_append (later earlier : History) (value : ValueId) :
    History.attempts (later ++ earlier) value = later.attempts value ++ earlier.attempts value :=
  List.filterMap_append

/-- An attempt comes first among those of the history that it is the last of. -/
theorem attempts_cons_of_eq (attempted : happening.attempt? value = some key) :
    History.attempts (happening :: past) value = key :: past.attempts value :=
  List.filterMap_cons_some attempted

/-- What is no attempt adds none. -/
theorem attempts_cons_of_quiet (quiet : happening.attempt? value = none) :
    History.attempts (happening :: past) value = past.attempts value :=
  List.filterMap_cons_none quiet

/-- A key has no number exactly if it never attempted an access. -/
theorem number?_eq_none_iff : past.number? value key = none ↔ key ∉ past.attempts value := by
  rw [number?, ← List.count_eq_zero]
  split
  · rename_i zero
    exact iff_of_true rfl zero
  · rename_i positive
    exact iff_of_false (Option.some_ne_none _) positive

/-- An attempt of another key, or none at all, leaves a number as it is. -/
theorem number?_cons_of_ne (other : happening.attempt? value ≠ some key) :
    History.number? (happening :: past) value key = past.number? value key := by
  cases attempted : happening.attempt? value with
  | none => rw [number?, attempts_cons_of_quiet attempted, number?]
  | some found =>
    have different : found ≠ key := fun same => other (attempted.trans (congrArg some same))
    rw [number?, attempts_cons_of_eq attempted, List.count_cons_of_ne different, number?]

/-- An attempt raises its number, or starts it at one. -/
theorem number?_cons_of_eq (attempted : happening.attempt? value = some key) :
    History.number? (happening :: past) value key =
      some ((past.number? value key).getD 0 + 1) := by
  rw [number?, attempts_cons_of_eq attempted, List.count_cons_self, if_neg (Nat.succ_ne_zero _),
    number?]
  split
  · rename_i zero
    rw [zero]
    rfl
  · rfl

/-- A key that is attempted in one of two parts of a history has the number that it has there. -/
theorem number?_append {later earlier : History}
    (apart : key ∈ later.attempts value → key ∉ earlier.attempts value) :
    History.number? (later ++ earlier) value key =
      (earlier.number? value key).or (later.number? value key) := by
  have sum : ((later ++ earlier : History).attempts value).count key =
      (later.attempts value).count key + (earlier.attempts value).count key := by
    rw [attempts_append, List.count_append]
  by_cases early : key ∈ earlier.attempts value
  · have late : key ∉ later.attempts value := fun late => apart late early
    rw [number?_eq_none_iff.2 late, Option.or_none, number?, sum, List.count_eq_zero.2 late,
      Nat.zero_add, number?]
  · rw [number?_eq_none_iff.2 early, Option.none_or, number?, sum, List.count_eq_zero.2 early,
      Nat.add_zero, number?]

/-- A number stands still exactly if there was no attempt since. -/
theorem number?_upToEntry_eq_iff :
    (past.upToEntry thread value).number? value key = past.number? value key ↔
      key ∉ (past.sinceEntry thread value).attempts value := by
  have parts : past.sinceEntry thread value ++ past.upToEntry thread value = past :=
    List.takeWhile_append_dropWhile
  have sum : (past.attempts value).count key =
      ((past.sinceEntry thread value).attempts value).count key +
        ((past.upToEntry thread value).attempts value).count key := by
    rw [← List.count_append, ← attempts_append, parts]
  rw [← List.count_eq_zero, number?, number?, sum]
  by_cases before : ((past.upToEntry thread value).attempts value).count key = 0
  · rw [if_pos before, before, Nat.add_zero]
    split
    · rename_i zero
      exact iff_of_true rfl zero
    · rename_i positive
      exact iff_of_false (Option.some_ne_none _).symm positive
  · rw [if_neg before, if_neg (by omega), Option.some.injEq]
    omega

end History

/-- An attempt raises one counter of a value that is watched. -/
theorem Happening.bear_attempt {happening : Happening} {key : AccessKey} {before : Standing}
    (attempted : happening.attempt? value = some key) (on : before.detecting = true) :
    ∃ after, happening.bear value (some before) = some after ∧
      after.detecting = before.detecting ∧ after.clock = before.clock.increment key := by
  have about := attempt?_eq_some_iff.1 attempted
  cases happening with
  | accessed thread other kind sighting =>
    cases about
    refine ⟨before.access key, if_pos rfl, Standing.detecting_access _ _, ?_⟩
    rw [Standing.clock_access, if_pos on]
  | stalled thread other kind =>
    cases about
    exact ⟨before.count key, if_pos rfl, rfl, rfl⟩
  | _ => cases about

/-- The clock table of a value counts the attempts at it, of which there are none while it is not
watched. -/
structure Standing.Counted (standing : Standing) (past : History) (value : ValueId) : Prop where
  /-- Counters are numbers of attempts. -/
  counts : standing.clock.Counts (past.attempts value)
  /-- Nothing is counted while detection is off. -/
  idle : standing.detecting = false → past.attempts value = []

namespace Standing.Counted

variable {standing : Standing}

/-- The clock table of a value has the number of attempts of each key. -/
theorem get?_clock (counted : standing.Counted past value) (key : AccessKey) :
    standing.clock.get? key = past.number? value key :=
  counted.counts key

/-- The next access of a key is counted after all that it attempted. -/
theorem next_clock (counted : standing.Counted past value) (key : AccessKey) :
    standing.clock.next key = (past.number? value key).getD 0 + 1 := by
  rw [ClockTable.next, counted.get?_clock]

/-- A value that was just made counts nothing. -/
theorem fresh {detecting : Bool} (nothing : past.attempts value = []) :
    (Standing.fresh detecting).Counted past value where
  counts := by
    rw [nothing]
    exact .empty
  idle := fun _ => nothing

/-- A value counts one more happening if that is an attempt at it. -/
theorem bear {happening : Happening} {before after : Standing}
    (counted : before.Counted past value)
    (watched : happening.attempt? value ≠ none → before.detecting = true)
    (old : ∀ detecting sink, happening ≠ .made value detecting sink)
    (stands : happening.bear value (some before) = some after) :
    after.Counted (happening :: past) value := by
  cases attempted : happening.attempt? value with
  | none =>
    obtain ⟨standing, same, detecting, clock, -⟩ :=
      Happening.bear_aside (Happening.attempt?_eq_none_iff.1 attempted) old stands
    cases same
    refine ⟨?_, fun off => ?_⟩
    · rw [clock, History.attempts_cons_of_quiet attempted]
      exact counted.counts
    · rw [History.attempts_cons_of_quiet attempted]
      exact counted.idle (detecting.symm.trans off)
  | some key =>
    have on : before.detecting = true := watched (by
      rw [attempted]
      exact Option.some_ne_none key)
    obtain ⟨_, same, detecting, clock⟩ := Happening.bear_attempt attempted on
    cases same.symm.trans stands
    refine ⟨?_, fun off => ?_⟩
    · rw [clock, History.attempts_cons_of_eq attempted]
      exact counted.counts.increment key
    · rw [detecting, on] at off
      cases off

end Standing.Counted

/-- What happened so far was attempted at values that were made. -/
theorem History.Dated.attempts_eq_nil {world : World α} (dated : past.Dated world)
    (new : ¬ value.index < world.made) : past.attempts value = [] := by
  refine List.filterMap_eq_nil_iff.2 fun happening member => ?_
  refine Happening.attempt?_eq_none_iff.2 fun thread kind told => new ?_
  refine dated.values happening member value ?_
  cases happening with
  | accessed _ _ _ _ =>
    cases told
    rfl
  | stalled _ _ _ =>
    cases told
    rfl
  | _ => cases told

/-- After every run, whatever was done to contexts by hand, clock tables count attempts. -/
theorem counted_of_run (run : Run past scene) {standing : Standing}
    (stands : scene.world.standing? value = some standing) : standing.Counted past value := by
  have all := (run_induction (fun past world => past.Dated world ∧
    ∀ value standing, world.standing? value = some standing → standing.Counted past value)
    ⟨⟨nofun, nofun⟩, fun _ _ absent => nomatch absent⟩ ?_ run).2.2
  · exact all value standing stands
  intro past world happenings next numbered ⟨dated, counted⟩ turn
  refine ⟨dated.turn numbered turn, fun value after stands => ?_⟩
  rw [turn.standing? numbered] at stands
  rcases turn.eq_nil_or_singleton with rfl | ⟨happening, rfl⟩
  · exact counted value after stands
  have told := List.mem_singleton_self happening
  change happening.bear value (world.standing? value) = some after at stands
  by_cases made : ∃ detecting sink, happening = .made value detecting sink
  · obtain ⟨detecting, sink, rfl⟩ := made
    have index : value.index = world.made := turn.fits _ told
    rw [Happening.bear, if_pos rfl] at stands
    cases stands
    exact .fresh (dated.attempts_eq_nil (by omega))
  · have old : ∀ detecting sink, happening ≠ .made value detecting sink :=
      fun detecting sink same => made ⟨detecting, sink, same⟩
    cases stood : world.standing? value with
    | none =>
      rw [stood] at stands
      cases happening with
      | made other detecting sink =>
        rw [Happening.bear, if_neg fun here => old detecting sink (by rw [here])] at stands
        cases stands
      | _ => simp [Happening.bear] at stands
    | some before =>
      rw [stood] at stands
      refine (counted value before stood).bear (fun attempted => ?_) old stands
      obtain ⟨key, attempted⟩ := Option.ne_none_iff_exists'.1 attempted
      obtain ⟨standing, same, on⟩ :=
        turn.watched told (Happening.attempt?_eq_some_iff.1 attempted)
      rw [stood] at same
      cases same
      exact on

namespace Standing

variable {standing : Standing} {thread : ThreadId}

/-- What stands against an access is every counter of a conflicting kind, other than its own, of
which the snapshot of its thread tells otherwise. -/
theorem mem_verdict_iff (on : standing.detecting = true) {key : AccessKey} {conflict : Conflict} :
    conflict ∈ standing.verdict key ↔
      conflict.key ≠ key ∧ key.kind.conflicts conflict.key.kind = true ∧
        standing.clock.get? conflict.key = some conflict.authoritative ∧
        (standing.seen key.thread).get? conflict.key = conflict.observed ∧
        conflict.observed ≠ some conflict.authoritative := by
  rw [verdict_of_detecting on, Conflict.mem_unseen_iff, ClockTable.get?_increment,
    SortedMap.get?_insert]
  by_cases own : conflict.key = key
  · rw [if_pos own, if_pos own]
    refine iff_of_false ?_ fun stands => stands.1 own
    rintro ⟨stored, observed, _, different⟩
    exact different (observed.symm.trans stored)
  · rw [if_neg own, if_neg own]
    constructor
    · rintro ⟨stored, observed, conflicting, different⟩
      exact ⟨own, conflicting, stored, observed, different⟩
    · rintro ⟨_, conflicting, stored, observed, different⟩
      exact ⟨stored, observed, conflicting, different⟩

/-- A thread knows a value: it has seen all that it attempted itself, all that others attempted up
to its last section entry, and nothing else. -/
def Knows (standing : Standing) (past : History) (thread : ThreadId) (value : ValueId) : Prop :=
  ∀ key, (standing.seen thread).get? key =
    if key.thread = thread then past.number? value key
    else (past.upToEntry thread value).number? value key

end Standing

/-- A thread does something to its own snapshot of a value that the value's clock table does not
bear out. -/
def Happening.Misleads (thread : ThreadId) (value : ValueId) (snapshot : Option ClockTable) :
    Happening → Prop
  | .edited other context => other = thread ∧ context.snapshot? value ≠ snapshot
  | .stalled other target _ => other = thread ∧ target = value
  | _ => False

namespace Standing.Knows

variable {standing before after : Standing} {thread : ThreadId} {happening : Happening}

/-- A thread that has seen nothing of a value, and has done nothing to it, knows it. -/
theorem of_idle (unseen : standing.snapshot? thread = none)
    (idle : ∀ kind, ⟨thread, kind⟩ ∉ past.attempts value)
    (never : past.upToEntry thread value = []) : standing.Knows past thread value := by
  intro key
  rw [Standing.seen, unseen, never]
  split
  · rename_i mine
    subst mine
    exact (History.number?_eq_none_iff.2 (idle key.kind)).symm
  · rfl

/-- A thread knows a value if its snapshot is the clock table of the value. -/
theorem of_entry (counted : before.Counted past value) (clock : ClockTable) :
    (before.entry thread).Knows (.entered thread value clock :: past) thread value := by
  intro key
  have entry := Happening.isEntry_entered thread value clock
  have quiet : (Happening.entered thread value clock).attempt? value ≠ some key := nofun
  rw [History.upToEntry_cons_of_isEntry entry, ite_self, History.number?_cons_of_ne quiet,
    Standing.seen, Standing.entry, snapshot?_withSnapshot, if_pos rfl, Option.getD_some]
  exact counted.get?_clock key

/-- What is no attempt of a thread, no section entry of it, and leaves its snapshot as it is, leaves
what it knows. -/
theorem aside (knows : before.Knows past thread value)
    (same : after.snapshot? thread = before.snapshot? thread)
    (foreign : ∀ kind, happening.attempt? value ≠ some ⟨thread, kind⟩)
    (elsewhere : happening.isEntry thread value = false) :
    after.Knows (happening :: past) thread value := by
  intro key
  rw [Standing.seen, same, History.upToEntry_cons elsewhere]
  refine (knows key).trans ?_
  split
  · rename_i mine
    subst mine
    exact (History.number?_cons_of_ne (foreign key.kind)).symm
  · rfl

/-- A thread knows of its own access. -/
theorem access (knows : before.Knows past thread value) (counted : before.Counted past value)
    (on : before.detecting = true) (kind : AccessKind) (sighting : Option Sighting) :
    (before.access ⟨thread, kind⟩).Knows (.accessed thread value kind sighting :: past)
      thread value := by
  intro key
  have attempted : (Happening.accessed thread value kind sighting).attempt? value =
      some ⟨thread, kind⟩ := if_pos rfl
  have seen : (before.access ⟨thread, kind⟩).seen thread =
      (before.seen thread).insert ⟨thread, kind⟩ (before.clock.next ⟨thread, kind⟩) := by
    rw [Standing.seen, snapshot?_access, if_pos on, tally]
    exact seen_copy _ ⟨thread, kind⟩ _
  rw [seen, SortedMap.get?_insert, History.upToEntry_cons rfl]
  by_cases own : key = ⟨thread, kind⟩
  · rw [if_pos own, own, if_pos rfl, History.number?_cons_of_eq attempted, counted.next_clock]
  · rw [if_neg own, History.number?_cons_of_ne fun same => own ?_]
    · exact knows key
    · exact (Option.some.inj (attempted.symm.trans same)).symm

/-- What a thread knows of a value outlasts all that happens, unless the thread misleads itself or
ends. -/
theorem bear (knows : before.Knows past thread value) (counted : before.Counted past value)
    (watched : happening.attempt? value ≠ none → before.detecting = true)
    (honest : ¬ happening.Misleads thread value (before.snapshot? thread))
    (old : ∀ detecting sink, happening ≠ .made value detecting sink)
    (stays : happening ≠ .ended thread)
    (stands : happening.bear value (some before) = some after) :
    after.Knows (happening :: past) thread value := by
  cases happening with
  | made other detecting sink =>
    rw [Happening.bear, if_neg fun here => old detecting sink (by rw [here])] at stands
    cases stands
    exact knows.aside rfl (fun _ => (Option.some_ne_none _).symm) rfl
  | removed other =>
    rw [Happening.bear] at stands
    split at stands
    · cases stands
    · cases stands
      exact knows.aside rfl (fun _ => (Option.some_ne_none _).symm) rfl
  | accessed other target kind sighting =>
    rw [Happening.bear] at stands
    split at stands
    · rename_i here
      subst here
      cases stands
      have attempted : (Happening.accessed other value kind sighting).attempt? value =
          some ⟨other, kind⟩ := if_pos rfl
      have on : before.detecting = true := watched (by
        rw [attempted]
        exact Option.some_ne_none _)
      by_cases mine : other = thread
      · subst mine
        exact knows.access counted on kind sighting
      · refine knows.aside ?_ (fun _ same => mine ?_) rfl
        · rw [snapshot?_access, if_pos on]
          exact if_neg fun same => mine same.symm
        · exact congrArg AccessKey.thread (Option.some.inj (attempted.symm.trans same))
    · rename_i elsewhere
      cases stands
      refine knows.aside rfl (fun _ same => elsewhere ?_) rfl
      cases Happening.attempt?_eq_some_iff.1 same
      rfl
  | stalled other target kind =>
    rw [Happening.bear] at stands
    have foreign : ∀ kind', (Happening.stalled other target kind).attempt? value ≠
        some ⟨thread, kind'⟩ := by
      intro kind' same
      cases Happening.attempt?_eq_some_iff.1 same
      exact honest ⟨rfl, rfl⟩
    split at stands
    · cases stands
      exact knows.aside rfl foreign rfl
    · cases stands
      exact knows.aside rfl foreign rfl
  | entered other target clock =>
    rw [Happening.bear] at stands
    split at stands
    · rename_i here
      subst here
      cases stands
      by_cases mine : other = thread
      · subst mine
        exact of_entry counted clock
      · refine knows.aside ?_ (fun _ => (Option.some_ne_none _).symm)
          (Happening.isEntry_entered_of_ne (fun same => mine same.symm) value clock)
        exact if_neg fun same => mine same.symm
    · rename_i elsewhere
      cases stands
      refine knows.aside rfl (fun _ => (Option.some_ne_none _).symm) ?_
      rw [Happening.isEntry, Happening.entryClock?, if_neg fun both => elsewhere both.2.symm]
      rfl
  | edited other context =>
    cases stands
    refine knows.aside ?_ (fun _ => (Option.some_ne_none _).symm) rfl
    rw [snapshot?_withSnapshot]
    split
    · rename_i here
      subst here
      exact Classical.byContradiction fun different => honest ⟨rfl, different⟩
    · rfl
  | ended other =>
    cases stands
    refine knows.aside ?_ (fun _ => (Option.some_ne_none _).symm) rfl
    exact if_neg fun here => stays (by rw [here])

/-- The counters that a thread has seen are those of the table, but for attempts of others since
its last section entry. -/
theorem seen_eq_clock_iff (knows : standing.Knows past thread value)
    (counted : standing.Counted past value) (key : AccessKey) :
    (standing.seen thread).get? key = standing.clock.get? key ↔
      key.thread = thread ∨ key ∉ (past.sinceEntry thread value).attempts value := by
  rw [knows key, counted.get?_clock]
  split
  · rename_i mine
    exact iff_of_true rfl (.inl mine)
  · rename_i foreign
    rw [or_iff_right foreign]
    exact History.number?_upToEntry_eq_iff

/-- Nothing stands against an access of a thread that knows the value exactly if no other thread
attempted a conflicting one since its last section entry. -/
theorem verdict_eq_nil_iff (knows : standing.Knows past thread value)
    (counted : standing.Counted past value) (on : standing.detecting = true) (kind : AccessKind) :
    standing.verdict ⟨thread, kind⟩ = [] ↔
      ∀ other, other ≠ thread → ∀ kind', kind.conflicts kind' = true →
        ⟨other, kind'⟩ ∉ (past.sinceEntry thread value).attempts value := by
  rw [List.eq_nil_iff_forall_not_mem]
  constructor
  · intro clear other different kind' conflicting attempted
    have behind := fun same => ((knows.seen_eq_clock_iff counted ⟨other, kind'⟩).1 same).elim
      different fun never => never attempted
    obtain ⟨counter, stored⟩ : ∃ counter, standing.clock.get? ⟨other, kind'⟩ = some counter := by
      refine Option.ne_none_iff_exists'.1 fun absent => ?_
      rw [counted.get?_clock] at absent
      refine History.number?_eq_none_iff.1 absent ?_
      exact ((List.takeWhile_sublist _).filterMap _).mem attempted
    refine clear ⟨⟨other, kind'⟩, counter, (standing.seen thread).get? ⟨other, kind'⟩⟩
      ((mem_verdict_iff on).2 ⟨fun same => ?_, conflicting, stored, rfl, stored ▸ behind⟩)
    exact different (congrArg AccessKey.thread same)
  · intro clear conflict member
    obtain ⟨own, conflicting, stored, observed, different⟩ := (mem_verdict_iff on).1 member
    refine different (observed.symm.trans (Eq.trans ?_ stored))
    refine (knows.seen_eq_clock_iff counted conflict.key).2 ?_
    by_cases mine : conflict.key.thread = thread
    · exact .inl mine
    · exact .inr (clear _ mine _ conflicting)

end Standing.Knows

/-- How matters stand for a value includes what each thread has seen of it. -/
theorem World.snapshot?_of_standing? {world : World α} {standing : Standing}
    (stands : world.standing? value = some standing) (thread : ThreadId) :
    standing.snapshot? thread = world.snapshot? thread value := by
  obtain ⟨_, _, rfl⟩ := (standing?_eq_some_iff world).1 stands
  rfl

/-- A thread knows a value, if the value exists. -/
def World.Knows (world : World α) (past : History) (thread : ThreadId) (value : ValueId) : Prop :=
  ∀ standing, world.standing? value = some standing → standing.Knows past thread value

namespace World.Knows

variable {thread : ThreadId} {move : Move α} {happenings : List Happening}

/-- What a thread knows of a value outlasts every move that neither misleads nor ends it. -/
theorem perform? (knows : scene.world.Knows past thread value) (run : Run past scene)
    (old : value.index < scene.world.made)
    (performed : scene.perform? move = some (next, happenings))
    (honest : ∀ happening ∈ happenings,
      ¬ happening.Misleads thread value (scene.world.snapshot? thread value))
    (stays : .ended thread ∉ happenings) :
    next.world.Knows (happenings ++ past) thread value := by
  intro after stands
  have numbered := numbered_of_run run
  have turn := Scene.turn_of_perform? numbered performed
  rw [turn.standing? numbered] at stands
  rcases turn.eq_nil_or_singleton with rfl | ⟨happening, rfl⟩
  · exact knows after stands
  have told := List.mem_singleton_self happening
  have fits := turn.fits _ told
  change happening.bear value (scene.world.standing? value) = some after at stands
  have unmade : ∀ detecting sink, happening ≠ .made value detecting sink := by
    rintro detecting sink rfl
    exact Nat.ne_of_lt old fits
  cases stood : scene.world.standing? value with
  | none =>
    rw [stood] at stands
    cases happening with
    | made other detecting sink =>
      rw [Happening.bear, if_neg fun here => unmade detecting sink (by rw [here])] at stands
      cases stands
    | _ => simp [Happening.bear] at stands
  | some before =>
    rw [stood] at stands
    refine (knows before stood).bear (counted_of_run run stood) (fun attempted => ?_) ?_ unmade
      (fun same => stays (List.mem_singleton.2 same.symm)) stands
    · obtain ⟨key, attempted⟩ := Option.ne_none_iff_exists'.1 attempted
      obtain ⟨standing, same, on⟩ :=
        turn.watched told (Happening.attempt?_eq_some_iff.1 attempted)
      cases stood.symm.trans same
      exact on
    · rw [snapshot?_of_standing? stood]
      exact honest happening told

/-- An access of a thread that knows the value is flagged exactly if another thread attempted a
conflicting one since its last section entry. -/
theorem isSome_sighting_iff (knows : scene.world.Knows past thread value) (run : Run past scene)
    {kind : AccessKind} {sighting : Option Sighting}
    (performed : scene.perform? move = some (next, happenings))
    (told : .accessed thread value kind sighting ∈ happenings) :
    sighting.isSome ↔ ∃ other kind', other ≠ thread ∧ kind.conflicts kind' = true ∧
      ⟨other, kind'⟩ ∈ (past.sinceEntry thread value).attempts value := by
  have turn := Scene.turn_of_perform? (numbered_of_run run) performed
  obtain ⟨_, standing, stands, on, tells⟩ := turn.fits _ told
  have clear := (knows standing stands).verdict_eq_nil_iff (counted_of_run run stands) on kind
  cases sighting with
  | none =>
    refine iff_of_false Bool.false_ne_true ?_
    rintro ⟨other, kind', different, conflicting, attempted⟩
    exact clear.1 tells other different kind' conflicting attempted
  | some flagged =>
    refine iff_of_true rfl (Classical.byContradiction fun never => tells.1 (clear.2 ?_))
    intro other different kind' conflicting attempted
    exact never ⟨other, kind', different, conflicting, attempted⟩

end World.Knows

end RaceSentry
