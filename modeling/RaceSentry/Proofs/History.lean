import RaceSentry.Proofs.Effect

/-!
# Counters and snapshots as history

Clock tables and snapshots are numbers that nobody can read a run off. Here they are tied to it:
a counter is the number of accesses so far, and a snapshot holds a thread's own counters as they
are and those of others as they were at its last section entry.
Main statements: `Standing.reflects_of_run` and `Standing.Reflects.verdict_eq_nil_iff`.
-/

namespace RaceSentry

namespace Happening

/-- Whether a happening is an access of a key to a value. -/
def isAccess (value : ValueId) (key : AccessKey) : Happening → Bool
  | .accessed thread other kind _ => decide (other = value ∧ (⟨thread, kind⟩ : AccessKey) = key)
  | _ => false

/-- The clock table that a thread adopts with a section entry on a value. -/
def entryClock? (thread : ThreadId) (value : ValueId) : Happening → Option ClockTable
  | .entered other target clock => if other = thread ∧ target = value then some clock else none
  | _ => none

/-- Whether a happening is a section entry of a thread on a value. -/
def isEntry (thread : ThreadId) (value : ValueId) (happening : Happening) : Bool :=
  (happening.entryClock? thread value).isSome

/-- The value that a happening is about. -/
def value? : Happening → Option ValueId
  | .made value _ _ => some value
  | .removed value => some value
  | .accessed _ value _ _ => some value
  | .stalled _ value _ => some value
  | .entered _ value _ => some value
  | .edited _ _ => none
  | .ended _ => none

/-- Accesses of a key to a value are what was told as such. -/
theorem isAccess_iff {value : ValueId} {key : AccessKey} {happening : Happening} :
    happening.isAccess value key = true ↔
      ∃ sighting, happening = .accessed key.thread value key.kind sighting := by
  cases happening with
  | accessed thread other kind sighting =>
    simp only [isAccess, decide_eq_true_eq, accessed.injEq]
    constructor
    · rintro ⟨rfl, rfl⟩
      exact ⟨sighting, rfl, rfl, rfl, rfl⟩
    · rintro ⟨_, rfl, rfl, rfl, _⟩
      exact ⟨rfl, rfl⟩
  | _ => simp [isAccess]

/-- An access is one of its own key to its own value. -/
theorem isAccess_accessed (thread : ThreadId) (value : ValueId) (kind : AccessKind)
    (sighting : Option Sighting) :
    (accessed thread value kind sighting).isAccess value ⟨thread, kind⟩ = true :=
  isAccess_iff.2 ⟨sighting, rfl⟩

/-- A happening is no access to a value and no section entry on it. -/
def Spares (value : ValueId) (happening : Happening) : Prop :=
  (∀ key, happening.isAccess value key = false) ∧
    ∀ thread, happening.entryClock? thread value = none

/-- What is about another value spares this one. -/
theorem spares_of_value? {value : ValueId} {happening : Happening}
    (elsewhere : happening.value? ≠ some value) : happening.Spares value := by
  constructor
  · intro key
    cases found : happening.isAccess value key with
    | false => rfl
    | true =>
      obtain ⟨sighting, rfl⟩ := isAccess_iff.1 found
      exact absurd rfl elsewhere
  · intro thread
    cases happening with
    | entered other target clock =>
      have different : target ≠ value := fun same => elsewhere (congrArg some same)
      exact if_neg fun both => different both.2
    | _ => rfl

/-- An entry knows the table that it found. -/
theorem entryClock?_entered (thread : ThreadId) (value : ValueId) (clock : ClockTable) :
    (entered thread value clock).entryClock? thread value = some clock :=
  if_pos ⟨rfl, rfl⟩

/-- An entry is one of its own thread to its own value. -/
theorem isEntry_entered (thread : ThreadId) (value : ValueId) (clock : ClockTable) :
    (entered thread value clock).isEntry thread value = true := by
  rw [isEntry, entryClock?_entered]
  rfl

/-- An entry is none of another thread. -/
theorem isEntry_entered_of_ne {thread other : ThreadId} (different : other ≠ thread)
    (value : ValueId) (clock : ClockTable) :
    (entered thread value clock).isEntry other value = false := by
  rw [isEntry, entryClock?, if_neg fun both => different both.1.symm]
  rfl

end Happening

namespace History

variable (past : History)

/-- How often a key accessed a value. -/
def tally (value : ValueId) (key : AccessKey) : Nat := past.countP (Happening.isAccess value key)

/-- The counter of a key: there is none before its first access. -/
def counter? (value : ValueId) (key : AccessKey) : Option Nat :=
  if past.tally value key = 0 then none else some (past.tally value key)

/-- The clock table that a thread adopted with its last section entry on a value. -/
def entryClock? (thread : ThreadId) (value : ValueId) : Option ClockTable :=
  past.findSome? (Happening.entryClock? thread value)

/-- What happened after the last section entry of a thread on a value. -/
def sinceEntry (thread : ThreadId) (value : ValueId) : History :=
  past.takeWhile fun happening => !happening.isEntry thread value

/-- What happened up to the last section entry of a thread on a value. -/
def upToEntry (thread : ThreadId) (value : ValueId) : History :=
  past.dropWhile fun happening => !happening.isEntry thread value

/-- A thread accessed a value, and the access was recorded. -/
def Accessed (thread : ThreadId) (value : ValueId) : Prop :=
  ∃ kind sighting, .accessed thread value kind sighting ∈ past

/-- A thread entered a section on a value. -/
def Entered (thread : ThreadId) (value : ValueId) : Prop :=
  ∃ clock, .entered thread value clock ∈ past

variable {past : History} {happening : Happening} {thread : ThreadId} {value : ValueId}
  {key : AccessKey}

/-- The tally grows by one with an access of its key, and by nothing else. -/
theorem tally_cons (happening : Happening) (past : History) (value : ValueId) (key : AccessKey) :
    History.tally (happening :: past) value key =
      past.tally value key + if happening.isAccess value key then 1 else 0 :=
  List.countP_cons

/-- What is not an access of the key leaves the tally. -/
theorem tally_cons_of_not_isAccess (other : happening.isAccess value key = false) :
    History.tally (happening :: past) value key = past.tally value key := by
  rw [tally_cons, other]
  rfl

/-- What is not an access of the key leaves its counter. -/
theorem counter?_cons_of_not_isAccess (other : happening.isAccess value key = false) :
    History.counter? (happening :: past) value key = past.counter? value key := by
  rw [counter?, counter?, tally_cons_of_not_isAccess other]

/-- An access raises its counter, or starts it at one. -/
theorem counter?_cons_of_isAccess (found : happening.isAccess value key = true) :
    History.counter? (happening :: past) value key =
      some ((past.counter? value key).getD 0 + 1) := by
  rw [counter?, tally_cons, found, if_pos rfl, if_neg (Nat.succ_ne_zero _), counter?]
  split
  · rename_i zero
    rw [zero]
    rfl
  · rfl

/-- A key is tallied zero times if there was no access of it. -/
theorem tally_eq_zero_iff :
    past.tally value key = 0 ↔ ∀ sighting, .accessed key.thread value key.kind sighting ∉ past := by
  rw [tally, List.countP_eq_zero]
  constructor
  · intro never sighting member
    exact never _ member (Happening.isAccess_iff.2 ⟨sighting, rfl⟩)
  · intro never happening member found
    obtain ⟨sighting, rfl⟩ := Happening.isAccess_iff.1 found
    exact never sighting member

/-- A key has no counter if there was no access of it. -/
theorem counter?_eq_none_iff :
    past.counter? value key = none ↔
      ∀ sighting, .accessed key.thread value key.kind sighting ∉ past := by
  rw [← tally_eq_zero_iff, counter?]
  split
  · rename_i zero
    simp [zero]
  · rename_i positive
    simp [positive]

/-- What happened after the last section entry, and what happened up to it. -/
theorem tally_split (past : History) (thread : ThreadId) (value : ValueId) (key : AccessKey) :
    past.tally value key =
      (past.sinceEntry thread value).tally value key +
        (past.upToEntry thread value).tally value key := by
  have parts : past.sinceEntry thread value ++ past.upToEntry thread value = past :=
    List.takeWhile_append_dropWhile
  calc past.tally value key
      = History.tally (past.sinceEntry thread value ++ past.upToEntry thread value) value key := by
        rw [parts]
    _ = _ := List.countP_append

/-- A counter stands still exactly if no access was made since. -/
theorem counter?_upToEntry_eq_iff :
    (past.upToEntry thread value).counter? value key = past.counter? value key ↔
      ∀ sighting,
        .accessed key.thread value key.kind sighting ∉ past.sinceEntry thread value := by
  rw [← tally_eq_zero_iff, counter?, counter?, tally_split past thread value key]
  by_cases before : (past.upToEntry thread value).tally value key = 0
  · rw [if_pos before, before, Nat.add_zero]
    split
    · rename_i zero
      simp [zero]
    · rename_i positive
      simp [positive]
  · rw [if_neg before, if_neg (by omega), Option.some.injEq]
    omega

/-- What is no entry leaves what was up to the last one. -/
theorem upToEntry_cons (other : happening.isEntry thread value = false) :
    History.upToEntry (happening :: past) thread value = past.upToEntry thread value :=
  List.dropWhile_cons_of_pos (by rw [other]; rfl)

/-- The last entry is itself the latest of what was up to it. -/
theorem upToEntry_cons_of_isEntry (found : happening.isEntry thread value = true) :
    History.upToEntry (happening :: past) thread value = happening :: past :=
  List.dropWhile_cons_of_neg (by simp [found])

/-- The last entry tells the table that it found. -/
theorem entryClock?_cons_of_isEntry (found : happening.isEntry thread value = true) :
    History.entryClock? (happening :: past) thread value = happening.entryClock? thread value := by
  obtain ⟨clock, adopted⟩ := Option.isSome_iff_exists.1 found
  rw [entryClock?, List.findSome?_cons, adopted]

/-- What is no entry leaves the table that the last one found. -/
theorem entryClock?_cons (other : happening.isEntry thread value = false) :
    History.entryClock? (happening :: past) thread value = past.entryClock? thread value := by
  have absent : happening.entryClock? thread value = none := Option.not_isSome_iff_eq_none.1 (by
    rw [← Happening.isEntry, other]
    exact Bool.false_ne_true)
  rw [entryClock?, List.findSome?_cons, absent]
  rfl

/-- A thread has accessed a value if the latest happening is such an access, or if it had before. -/
theorem accessed_cons_iff :
    History.Accessed (happening :: past) thread value ↔
      (∃ kind sighting, happening = .accessed thread value kind sighting) ∨
        past.Accessed thread value := by
  simp only [Accessed, List.mem_cons]
  constructor
  · rintro ⟨kind, sighting, rfl | member⟩
    · exact .inl ⟨kind, sighting, rfl⟩
    · exact .inr ⟨kind, sighting, member⟩
  · rintro (⟨kind, sighting, rfl⟩ | ⟨kind, sighting, member⟩)
    · exact ⟨kind, sighting, .inl rfl⟩
    · exact ⟨kind, sighting, .inr member⟩

/-- A thread has entered a section on a value if the latest happening is such an entry, or if it had
before. -/
theorem entered_cons_iff :
    History.Entered (happening :: past) thread value ↔
      (∃ clock, happening = .entered thread value clock) ∨ past.Entered thread value := by
  simp only [Entered, List.mem_cons]
  constructor
  · rintro ⟨clock, rfl | member⟩
    · exact .inl ⟨clock, rfl⟩
    · exact .inr ⟨clock, member⟩
  · rintro (⟨clock, rfl⟩ | ⟨clock, member⟩)
    · exact ⟨clock, .inl rfl⟩
    · exact ⟨clock, .inr member⟩

/-- An access raises its own counter. -/
theorem counter?_accessed (thread : ThreadId) (kind : AccessKind) (sighting : Option Sighting) :
    History.counter? (.accessed thread value kind sighting :: past) value key =
      if key = ⟨thread, kind⟩ then some ((past.counter? value ⟨thread, kind⟩).getD 0 + 1)
      else past.counter? value key := by
  split
  · rename_i same
    rw [same]
    exact counter?_cons_of_isAccess (Happening.isAccess_accessed thread value kind sighting)
  · rename_i different
    exact counter?_cons_of_not_isAccess (decide_eq_false fun both => different both.2.symm)

/-- After an access to a value its thread has accessed it. -/
theorem accessed_accessed_iff {other : ThreadId} {kind : AccessKind}
    {sighting : Option Sighting} :
    History.Accessed (.accessed thread value kind sighting :: past) other value ↔
      other = thread ∨ past.Accessed other value := by
  rw [accessed_cons_iff]
  refine or_congr_left ⟨?_, ?_⟩
  · rintro ⟨_, _, same⟩
    exact (Happening.accessed.inj same).1.symm
  · rintro rfl
    exact ⟨kind, sighting, rfl⟩

/-- An access is no entry. -/
theorem entered_accessed_iff {other : ThreadId} {kind : AccessKind}
    {sighting : Option Sighting} :
    History.Entered (.accessed thread value kind sighting :: past) other value ↔
      past.Entered other value := by
  rw [entered_cons_iff]
  exact or_iff_right fun ⟨_, same⟩ => nomatch same

/-- An entry is no access. -/
theorem accessed_entered_iff {other : ThreadId} {clock : ClockTable} :
    History.Accessed (.entered thread value clock :: past) other value ↔
      past.Accessed other value := by
  rw [accessed_cons_iff]
  exact or_iff_right fun ⟨_, _, same⟩ => nomatch same

/-- After an entry on a value its thread has entered a section on it. -/
theorem entered_entered_iff {other : ThreadId} {clock : ClockTable} :
    History.Entered (.entered thread value clock :: past) other value ↔
      other = thread ∨ past.Entered other value := by
  rw [entered_cons_iff]
  refine or_congr_left ⟨?_, ?_⟩
  · rintro ⟨_, same⟩
    exact (Happening.entered.inj same).1.symm
  · rintro rfl
    exact ⟨clock, rfl⟩

/-- What happened up to an entry has happened. -/
theorem mem_of_mem_upToEntry (member : happening ∈ past.upToEntry thread value) :
    happening ∈ past :=
  (List.dropWhile_sublist _).mem member

/-- A key that did not access a value has no counter. -/
theorem counter?_of_not_accessed (never : ¬ past.Accessed key.thread value) :
    past.counter? value key = none :=
  counter?_eq_none_iff.2 fun sighting member => never ⟨key.kind, sighting, member⟩

end History

namespace Standing

/-- How a clock table and snapshots reflect what happened to a value: its counters are numbers of
accesses; threads that accessed it or entered sections on it hold snapshots, in which their own
counters are up to date, and those of others are as they were at the last section entry. -/
structure Reflects (standing : Standing) (past : History) (value : ValueId) : Prop where
  /-- Counters are numbers of accesses. -/
  clock : ∀ key, standing.clock.get? key = past.counter? value key
  /-- Nothing is recorded while detection is off. -/
  idle : standing.detecting = false → ∀ thread, ¬ past.Accessed thread value
  /-- Who holds a snapshot. -/
  held : ∀ thread, .ended thread ∉ past →
    ((standing.snapshot? thread).isSome ↔ past.Accessed thread value ∨ past.Entered thread value)
  /-- What is in a snapshot. -/
  seen : ∀ thread, .ended thread ∉ past → ∀ key, (standing.seen thread).get? key =
    if key.thread = thread then past.counter? value key
    else (past.upToEntry thread value).counter? value key
  /-- What is adopted with a section entry is what was counted up to it. -/
  adopted : ∀ thread key, ((past.entryClock? thread value).bind fun clock => clock.get? key) =
    (past.upToEntry thread value).counter? value key

namespace Reflects

variable {standing : Standing} {past : History} {value : ValueId}

/-- A value that was just made has no past. -/
theorem fresh (detecting : Bool) (unknown : ∀ happening ∈ past, happening.value? ≠ some value) :
    (Standing.fresh detecting).Reflects past value := by
  have unaccessed : ∀ thread, ¬ past.Accessed thread value := by
    rintro thread ⟨kind, sighting, member⟩
    exact unknown _ member rfl
  have unentered : ∀ thread, ¬ past.Entered thread value := by
    rintro thread ⟨clock, member⟩
    exact unknown _ member rfl
  have noCounter : ∀ key, past.counter? value key = none := fun key =>
    History.counter?_of_not_accessed (unaccessed key.thread)
  have nothing : ∀ thread key, (past.upToEntry thread value).counter? value key = none :=
    fun thread key => History.counter?_eq_none_iff.2 fun sighting member =>
      unknown _ (History.mem_of_mem_upToEntry member) rfl
  refine ⟨fun key => (noCounter key).symm, fun _ => unaccessed, fun thread _ => ?_,
    fun thread _ key => ?_, fun thread key => ?_⟩
  · exact ⟨nofun, fun touched => touched.elim (absurd · (unaccessed thread))
      (absurd · (unentered thread))⟩
  · rw [nothing, noCounter]
    split
    · rfl
    · rfl
  · have noClock : past.entryClock? thread value = none :=
      List.findSome?_eq_none_iff.2 fun happening member =>
        (Happening.spares_of_value? (unknown happening member)).2 thread
    rw [nothing, noClock]
    rfl

/-- What spares a value leaves no trace in its standing. -/
theorem aside (reflects : standing.Reflects past value) {happening : Happening}
    (spares : happening.Spares value) : standing.Reflects (happening :: past) value := by
  have noEntry : ∀ thread, happening.isEntry thread value = false := fun thread => by
    rw [Happening.isEntry, spares.2]
    rfl
  have counters : ∀ key, History.counter? (happening :: past) value key =
      past.counter? value key := fun key =>
    History.counter?_cons_of_not_isAccess (spares.1 key)
  have accessed : ∀ thread, History.Accessed (happening :: past) thread value ↔
      past.Accessed thread value := fun thread => by
    rw [History.accessed_cons_iff]
    refine or_iff_right ?_
    rintro ⟨kind, sighting, rfl⟩
    exact Bool.false_ne_true ((spares.1 ⟨thread, kind⟩).symm.trans
      (Happening.isAccess_accessed thread value kind sighting))
  have entered : ∀ thread, History.Entered (happening :: past) thread value ↔
      past.Entered thread value := fun thread => by
    rw [History.entered_cons_iff]
    refine or_iff_right ?_
    rintro ⟨clock, rfl⟩
    exact Bool.false_ne_true
      ((noEntry thread).symm.trans (Happening.isEntry_entered thread value _))
  refine ⟨fun key => ?_, fun off thread => ?_, fun thread unended => ?_,
    fun thread unended key => ?_, fun thread key => ?_⟩
  · rw [counters, reflects.clock]
  · rw [accessed]
    exact reflects.idle off thread
  · rw [accessed, entered]
    exact reflects.held thread (List.not_mem_of_not_mem_cons unended)
  · rw [counters, History.upToEntry_cons (noEntry thread)]
    exact reflects.seen thread (List.not_mem_of_not_mem_cons unended) key
  · rw [History.upToEntry_cons (noEntry thread), History.entryClock?_cons (noEntry thread)]
    exact reflects.adopted thread key

/-- What a thread had seen is of no account once it ended. -/
theorem withSnapshot_of_ended (reflects : standing.Reflects past value) {thread : ThreadId}
    (ended : .ended thread ∈ past) (snapshot : Option ClockTable) :
    (standing.withSnapshot thread snapshot).Reflects past value := by
  have same : ∀ other, .ended other ∉ past →
      (standing.withSnapshot thread snapshot).snapshot? other = standing.snapshot? other := by
    intro other unended
    refine if_neg fun here => unended ?_
    rw [here]
    exact ended
  refine ⟨reflects.clock, reflects.idle, fun other unended => ?_, fun other unended key => ?_,
    reflects.adopted⟩
  · rw [same other unended]
    exact reflects.held other unended
  · rw [Standing.seen, same other unended]
    exact reflects.seen other unended key

/-- An access is counted by its counter and no other, in both tables. -/
theorem access (reflects : standing.Reflects past value) (on : standing.detecting = true)
    (thread : ThreadId) (kind : AccessKind) (sighting : Option Sighting) :
    (standing.access ⟨thread, kind⟩).Reflects (.accessed thread value kind sighting :: past)
      value := by
  have raised : standing.clock.next ⟨thread, kind⟩ =
      (past.counter? value ⟨thread, kind⟩).getD 0 + 1 := by
    rw [ClockTable.next, reflects.clock]
  have snapshot? : (standing.access ⟨thread, kind⟩).snapshot? = fun other =>
      if other = thread then some ((standing.seen thread).insert ⟨thread, kind⟩
        (standing.clock.next ⟨thread, kind⟩)) else standing.snapshot? other := by
    rw [snapshot?_access, if_pos on]
    rfl
  refine ⟨fun key => ?_, fun off => ?_, fun other unended => ?_, fun other unended key => ?_,
    fun other key => ?_⟩
  · rw [clock_access, if_pos on, ClockTable.get?_increment, History.counter?_accessed, raised,
      reflects.clock]
  · rw [detecting_access, on] at off
    cases off
  · have before := reflects.held other (List.not_mem_of_not_mem_cons unended)
    rw [History.accessed_accessed_iff, History.entered_accessed_iff, snapshot?]
    dsimp only
    split
    · rename_i here
      simp [here]
    · rename_i different
      rw [before, or_iff_right different]
  · have before := reflects.seen other (List.not_mem_of_not_mem_cons unended) key
    rw [History.upToEntry_cons rfl, History.counter?_accessed, Standing.seen, snapshot?]
    dsimp only
    by_cases here : other = thread
    · subst here
      rw [if_pos rfl, Option.getD_some, SortedMap.get?_insert, raised, before]
      by_cases same : key = ⟨other, kind⟩
      · rw [same]
        simp only [↓reduceIte]
      · simp only [same, ↓reduceIte]
    · rw [if_neg here]
      change (standing.seen other).get? key = _
      rw [before]
      by_cases mine : key.thread = other
      · have different : key ≠ ⟨thread, kind⟩ := fun same => here (mine ▸ congrArg _ same)
        rw [if_pos mine, if_pos mine, if_neg different]
      · rw [if_neg mine, if_neg mine]
  · rw [History.upToEntry_cons rfl, History.entryClock?_cons rfl]
    exact reflects.adopted other key

/-- A section entry makes the thread see all that was counted. -/
theorem entry (reflects : standing.Reflects past value) (thread : ThreadId) :
    (standing.entry thread).Reflects (.entered thread value standing.clock :: past) value := by
  have counters : ∀ key, History.counter? (.entered thread value standing.clock :: past) value
      key = past.counter? value key := fun key => History.counter?_cons_of_not_isAccess rfl
  refine ⟨fun key => ?_, fun off other => ?_, fun other unended => ?_,
    fun other unended key => ?_, fun other key => ?_⟩
  · rw [counters]
    exact reflects.clock key
  · rw [History.accessed_entered_iff]
    exact reflects.idle off other
  · have before := reflects.held other (List.not_mem_of_not_mem_cons unended)
    rw [History.accessed_entered_iff, History.entered_entered_iff, Standing.entry,
      snapshot?_withSnapshot]
    split
    · rename_i here
      simp [here]
    · rename_i different
      rw [before, or_iff_right different]
  · have before := reflects.seen other (List.not_mem_of_not_mem_cons unended) key
    rw [counters, Standing.seen, Standing.entry, snapshot?_withSnapshot]
    by_cases here : other = thread
    · rw [here, if_pos rfl, Option.getD_some, reflects.clock,
        History.upToEntry_cons_of_isEntry (Happening.isEntry_entered thread value _), counters,
        ite_self]
    · rw [if_neg here, History.upToEntry_cons (Happening.isEntry_entered_of_ne here value _)]
      exact before
  · by_cases here : other = thread
    · have found := Happening.isEntry_entered thread value standing.clock
      rw [here, History.entryClock?_cons_of_isEntry found,
        History.upToEntry_cons_of_isEntry found, counters, Happening.entryClock?_entered]
      exact reflects.clock key
    · have other := Happening.isEntry_entered_of_ne here value standing.clock
      rw [History.entryClock?_cons other, History.upToEntry_cons other]
      exact reflects.adopted _ key

/-- The counters that a thread has seen are those of the table, but for accesses of others since
its last section entry. -/
theorem seen_eq_clock_iff (reflects : standing.Reflects past value) {thread : ThreadId}
    (unended : .ended thread ∉ past) (key : AccessKey) :
    (standing.seen thread).get? key = standing.clock.get? key ↔
      key.thread = thread ∨ ∀ sighting,
        .accessed key.thread value key.kind sighting ∉ past.sinceEntry thread value := by
  rw [reflects.seen thread unended, reflects.clock]
  split
  · rename_i mine
    exact iff_of_true rfl (.inl mine)
  · rename_i foreign
    rw [or_iff_right foreign]
    exact History.counter?_upToEntry_eq_iff

/-- Nothing stands against an access exactly if no other thread made a conflicting one since the
last section entry. -/
theorem verdict_eq_nil_iff (reflects : standing.Reflects past value)
    (on : standing.detecting = true) {thread : ThreadId} (unended : .ended thread ∉ past)
    (kind : AccessKind) :
    standing.verdict ⟨thread, kind⟩ = [] ↔
      ∀ other, other ≠ thread → ∀ kind', kind.conflicts kind' = true → ∀ sighting,
        .accessed other value kind' sighting ∉ past.sinceEntry thread value := by
  rw [verdict_of_detecting on, List.eq_nil_iff_forall_not_mem]
  constructor
  · intro clear other different kind' conflicting sighting member
    -- The counter of that access is in the table, and the thread has not seen it.
    have behind : (standing.seen thread).get? ⟨other, kind'⟩ ≠
        standing.clock.get? ⟨other, kind'⟩ := fun same =>
      ((reflects.seen_eq_clock_iff unended ⟨other, kind'⟩).1 same).elim different
        fun never => never sighting member
    have fresh : (⟨other, kind'⟩ : AccessKey) ≠ ⟨thread, kind⟩ := fun same =>
      different (congrArg AccessKey.thread same)
    obtain ⟨counter, counted⟩ : ∃ counter, standing.clock.get? ⟨other, kind'⟩ = some counter := by
      rw [reflects.clock]
      refine Option.ne_none_iff_exists'.1 fun absent => ?_
      exact History.counter?_eq_none_iff.1 absent sighting
        ((List.takeWhile_sublist _).mem member)
    refine clear ⟨⟨other, kind'⟩, counter, (standing.seen thread).get? ⟨other, kind'⟩⟩
      (Conflict.mem_unseen_iff.2 ⟨?_, ?_, conflicting, counted ▸ behind⟩)
    · rw [ClockTable.get?_increment, if_neg fresh, counted]
    · exact SortedMap.get?_insert_of_ne _ _ fresh
  · intro clear conflict member
    obtain ⟨stored, observed, conflicting, different⟩ := Conflict.mem_unseen_iff.1 member
    rw [ClockTable.get?_increment] at stored
    rw [SortedMap.get?_insert] at observed
    by_cases own : conflict.key = ⟨thread, kind⟩
    · rw [if_pos own] at stored observed
      exact different (observed.symm.trans stored)
    · rw [if_neg own] at stored observed
      refine different (observed.symm.trans (Eq.trans ?_ stored))
      refine (reflects.seen_eq_clock_iff unended conflict.key).2 ?_
      by_cases mine : conflict.key.thread = thread
      · exact .inl mine
      · exact .inr fun sighting => clear _ mine _ conflicting sighting

end Reflects

end Standing

open World

variable {α : Type} {past : History} {scene : Scene α}

/-- How what happened is bounded by what was made and started. -/
structure History.Dated (past : History) (world : World α) : Prop where
  /-- What happened was about values that were made. -/
  values : ∀ happening ∈ past, ∀ value, happening.value? = some value → value.index < world.made
  /-- Threads that ended were started and do not run. -/
  ended : ∀ thread, .ended thread ∈ past →
    thread.index < world.started ∧ world.threads.contains thread = false

/-- A value that a happening is about exists before, or is made just then. -/
theorem World.Turn.value_lt {world next : World α} {happenings : List Happening}
    (turn : Turn world happenings next) (numbered : Numbered world) {happening : Happening}
    (told : happening ∈ happenings) {value : ValueId} (about : happening.value? = some value) :
    value.index < next.made := by
  have exists_lt : ∀ {value : ValueId} {standing : Standing},
      world.standing? value = some standing → value.index < next.made := by
    intro value standing found
    obtain ⟨cell, stored, _⟩ := (standing?_eq_some_iff world).1 found
    exact Nat.lt_of_lt_of_le (numbered.cells value ((SortedMap.contains_iff _ _).2 ⟨cell, stored⟩))
      turn.made_le
  have fits := turn.fits happening told
  cases happening with
  | made other detecting sink =>
    cases about
    exact turn.index_lt_of_made told
  | removed other =>
    cases about
    exact Nat.lt_of_lt_of_le (numbered.cells _ fits) turn.made_le
  | accessed thread other kind sighting =>
    cases about
    obtain ⟨_, standing, found, _⟩ := fits
    exact exists_lt found
  | stalled thread other kind =>
    cases about
    exact Nat.lt_of_lt_of_le (numbered.cells _ fits.2) turn.made_le
  | entered thread other clock =>
    cases about
    obtain ⟨_, standing, found, _⟩ := fits
    exact exists_lt found
  | edited thread context => cases about
  | ended thread => cases about

/-- A history stays bounded where nothing changes that verdicts and records depend on. -/
theorem History.Dated.kept {world next : World α} (dated : past.Dated world)
    (kept : Kept world next) : past.Dated next where
  values := fun happening member value about => by
    rw [kept.made]
    exact dated.values happening member value about
  ended := fun thread member => by
    rw [kept.started, kept.running]
    exact dated.ended thread member

/-- What happens is bounded by what was made and started. -/
theorem History.Dated.turn {world next : World α} {happenings : List Happening}
    (dated : past.Dated world) (numbered : Numbered world)
    (turn : Turn world happenings next) : History.Dated (happenings ++ past) next where
  values := fun happening member value about => by
    cases List.mem_append.1 member with
    | inl told => exact turn.value_lt numbered told about
    | inr before =>
      exact Nat.lt_of_lt_of_le (dated.values happening before value about) turn.made_le
  ended := fun thread member => by
    cases List.mem_append.1 member with
    | inl told =>
      have ran : world.threads.contains thread = true := turn.fits _ told
      exact ⟨Nat.lt_of_lt_of_le (numbered.threads thread ran) turn.started_le, turn.gone told⟩
    | inr before =>
      obtain ⟨started, gone⟩ := dated.ended thread before
      refine ⟨Nat.lt_of_lt_of_le started turn.started_le, ?_⟩
      cases after : next.threads.contains thread with
      | false => rfl
      | true =>
        cases turn.running_before after with
        | inl ran => exact ran.symm.trans gone
        | inr new => exact absurd started (Nat.not_lt.2 new)

/-- What happened in a run is bounded by what was made and started in it. -/
theorem dated_of_run (run : Run past scene) : past.Dated scene.world :=
  (run_induction History.Dated ⟨nofun, nofun⟩
    (fun _ _ _ _ numbered dated turn => dated.turn numbered turn) run).2

/-- A running thread did not end. -/
theorem not_ended_of_run (run : Run past scene) {thread : ThreadId}
    (running : scene.world.threads.contains thread = true) : .ended thread ∉ past := fun member =>
  Bool.false_ne_true (((dated_of_run run).ended thread member).2.symm.trans running)

/-- One more happening is reflected by what it does to the standing. -/
theorem Standing.Reflects.turn {world next : World α} {happenings : List Happening}
    (numbered : Numbered world) (dated : past.Dated world)
    (reflects : ∀ value standing, world.standing? value = some standing →
      standing.Reflects past value)
    (turn : Turn world happenings next) (undisturbed : History.Undisturbed happenings)
    (value : ValueId) (standing : Standing) (found : next.standing? value = some standing) :
    standing.Reflects (happenings ++ past) value := by
  rw [turn.standing? numbered] at found
  rcases turn.eq_nil_or_singleton with rfl | ⟨happening, rfl⟩
  · exact reflects value standing found
  · have fits := turn.fits happening (List.mem_singleton_self _)
    change happening.bear value (world.standing? value) = some standing at found
    cases happening with
    | made other detecting sink =>
      have spares : (Happening.made other detecting sink).Spares value :=
        ⟨fun _ => rfl, fun _ => rfl⟩
      rw [Happening.bear] at found
      split at found
      · rename_i here
        cases found
        refine (Standing.Reflects.fresh detecting fun earlier member about => ?_).aside spares
        have old := dated.values earlier member value about
        rw [here, fits] at old
        exact Nat.lt_irrefl _ old
      · exact (reflects value standing found).aside spares
    | removed other =>
      rw [Happening.bear] at found
      split at found
      · cases found
      · exact (reflects value standing found).aside ⟨fun _ => rfl, fun _ => rfl⟩
    | accessed thread other kind sighting =>
      rw [Happening.bear] at found
      split at found
      · rename_i here
        obtain ⟨before, stood, rfl⟩ := Option.map_eq_some_iff.1 found
        obtain ⟨_, same, stands, on, _⟩ := fits
        rw [← here, stood] at stands
        cases stands
        rw [← here]
        exact (reflects value before stood).access on thread kind sighting
      · rename_i elsewhere
        refine (reflects value standing found).aside (Happening.spares_of_value? fun same => ?_)
        exact elsewhere (Option.some.inj same).symm
    | stalled thread other kind =>
      exact absurd (undisturbed _ (List.mem_singleton_self _)).symm Bool.false_ne_true
    | entered thread other clock =>
      rw [Happening.bear] at found
      split at found
      · rename_i here
        obtain ⟨before, stood, rfl⟩ := Option.map_eq_some_iff.1 found
        obtain ⟨_, same, stands, adopted⟩ := fits
        rw [← here, stood] at stands
        cases stands
        rw [← here, ← adopted]
        exact (reflects value before stood).entry thread
      · rename_i elsewhere
        refine (reflects value standing found).aside (Happening.spares_of_value? fun same => ?_)
        exact elsewhere (Option.some.inj same).symm
    | edited thread context =>
      exact absurd (undisturbed _ (List.mem_singleton_self _)).symm Bool.false_ne_true
    | ended thread =>
      obtain ⟨before, stood, rfl⟩ := Option.map_eq_some_iff.1 found
      have spares : (Happening.ended thread).Spares value := ⟨fun _ => rfl, fun _ => rfl⟩
      have later := (reflects value before stood).aside spares
      exact later.withSnapshot_of_ended List.mem_cons_self none

/-- After every run in which nobody disturbed the contexts, clock tables and snapshots reflect
what happened. -/
theorem reflects_of_run (run : Run past scene) (undisturbed : past.Undisturbed) {value : ValueId}
    {standing : Standing} (found : scene.world.standing? value = some standing) :
    standing.Reflects past value := by
  have all := (run_induction (fun past world => past.Dated world ∧ (past.Undisturbed →
    ∀ value standing, world.standing? value = some standing → standing.Reflects past value))
    ⟨⟨nofun, nofun⟩, fun _ _ _ absent => nomatch absent⟩ ?_ run).2.2
  · exact all undisturbed value standing found
  · intro past world happenings next numbered holds turn
    refine ⟨holds.1.turn numbered turn, fun undisturbed => ?_⟩
    refine Standing.Reflects.turn numbered holds.1 (holds.2 fun happening member => ?_) turn
      fun happening member => ?_
    · exact undisturbed happening (List.mem_append_right _ member)
    · exact undisturbed happening (List.mem_append_left _ member)

end RaceSentry
