import RaceSentry.Proofs.Replay

/-!
# Verdicts depend on the order of what clashes

Accesses of different threads to one value clash unless both only look, and an access clashes with
a section entry of another thread on the value. Any two other occurrences of different threads may
trade places: neither changes what the other is judged by or copies. So two runs in which every
thread does the same in the same order, and in which what clashes comes in the same order, reach
the same verdicts and the same records.
Main statements: `Rearranged.agree` and `same_end_of_rearranged`.
-/

namespace RaceSentry

open World

namespace Standing

variable {standing : Standing} {first second : AccessKey}

/-- Snapshots of two threads are put in place in any order. -/
theorem withSnapshot_comm (standing : Standing) {thread other : ThreadId}
    (apart : thread ≠ other) (snapshot snapshot' : Option ClockTable) :
    (standing.withSnapshot thread snapshot).withSnapshot other snapshot' =
      (standing.withSnapshot other snapshot').withSnapshot thread snapshot := by
  have same : ∀ third, (if third = other then snapshot' else
      if third = thread then snapshot else standing.snapshot? third) =
      if third = thread then snapshot else
        if third = other then snapshot' else standing.snapshot? third := by
    intro third
    split
    · rename_i here
      rw [if_neg fun there => apart (there.symm.trans here)]
    · rfl
  exact Standing.ext rfl rfl rfl (funext same)

/-- What threads have seen after an access. -/
theorem snapshot?_access_eq (on : standing.detecting = true) (thread : ThreadId) :
    (standing.access first).snapshot? thread =
      if thread = first.thread then
        some ((standing.seen first.thread).insert first (standing.clock.next first))
      else standing.snapshot? thread := by
  rw [snapshot?_access, if_pos on]
  rfl

/-- An access leaves what other threads have seen as it is. -/
theorem seen_access (on : standing.detecting = true) {thread : ThreadId}
    (apart : thread ≠ first.thread) :
    (standing.access first).seen thread = standing.seen thread := by
  rw [seen, snapshot?_access_eq on, if_neg apart, seen]

/-- An access makes its thread race if anything stands against it. -/
theorem racing_access (on : standing.detecting = true) :
    (standing.access first).racing =
      if standing.verdict first = [] then standing.racing
      else standing.racing.insert first.thread () := by
  rw [access, if_pos on]
  split
  · rfl
  · rfl

section Apart

variable (on : standing.detecting = true) (apart : first.thread ≠ second.thread)
  (harmless : first.kind.conflicts second.kind = false)

include on apart

/-- An access is counted alike after an access of another thread. -/
theorem next_access : (standing.access first).clock.next second = standing.clock.next second := by
  rw [clock_access, if_pos on]
  exact ClockTable.next_increment_of_ne _ fun same => apart (congrArg AccessKey.thread same).symm

include harmless

/-- An access is judged alike after an access of another thread if their kinds do not conflict. -/
theorem verdict_access : (standing.access first).verdict second = standing.verdict second := by
  have different : first ≠ second := fun same => apart (congrArg AccessKey.thread same)
  have still : (standing.access first).detecting = true :=
    (detecting_access standing first).trans on
  have mild : second.kind.conflicts first.kind = false :=
    (AccessKind.conflicts_comm _ _).trans harmless
  rw [verdict_of_detecting still, verdict_of_detecting on, next_access on apart,
    seen_access on apart.symm, clock_access, if_pos on, ClockTable.increment_comm _ different]
  exact Conflict.unseen_insert _ _ mild _

/-- Accesses of two threads trade places if their kinds do not conflict. -/
theorem access_comm :
    (standing.access first).access second = (standing.access second).access first := by
  have different : first ≠ second := fun same => apart (congrArg AccessKey.thread same)
  have mild : second.kind.conflicts first.kind = false :=
    (AccessKind.conflicts_comm _ _).trans harmless
  have still : ∀ key, (standing.access key).detecting = true := fun key =>
    (detecting_access standing key).trans on
  refine Standing.ext ?detecting ?clock ?racing (funext fun thread => ?snapshot?)
  case detecting => simp only [detecting_access]
  case clock =>
    simp only [clock_access, detecting_access, if_pos on]
    exact ClockTable.increment_comm _ different
  case racing =>
    rw [racing_access (still first), racing_access (still second), racing_access on,
      racing_access on, verdict_access on apart harmless, verdict_access on apart.symm mild]
    by_cases clean : standing.verdict first = []
    · simp only [if_pos clean]
    · by_cases clean' : standing.verdict second = []
      · simp only [if_neg clean, if_pos clean']
      · simp only [if_neg clean, if_neg clean']
        exact SortedMap.insert_comm _ apart _ _
  case snapshot? =>
    rw [snapshot?_access_eq (still first), snapshot?_access_eq (still second),
      snapshot?_access_eq on, snapshot?_access_eq on, next_access on apart,
      next_access on apart.symm, seen_access on apart, seen_access on apart.symm]
    by_cases here : thread = first.thread
    · rw [if_neg fun there => apart (here.symm.trans there), if_pos here, if_pos here]
    · simp only [if_neg here]

end Apart

/-- Section entries of two threads trade places. -/
theorem entry_comm (standing : Standing) {thread other : ThreadId} (apart : thread ≠ other) :
    (standing.entry thread).entry other = (standing.entry other).entry thread :=
  withSnapshot_comm standing apart _ _

end Standing

namespace Occurrence

/-- The thread that accessed or entered. -/
def thread : Occurrence → ThreadId
  | .access thread _ _ => thread
  | .entry thread _ => thread

/-- Occurrences of two threads on one value: two accesses of conflicting kinds, or an access and a
section entry. -/
def Clashes : Occurrence → Occurrence → Prop
  | .access thread value kind, .access thread' value' kind' =>
    thread ≠ thread' ∧ value = value' ∧ kind.conflicts kind' = true
  | .access thread value _, .entry thread' value' => thread ≠ thread' ∧ value = value'
  | .entry thread value, .access thread' value' _ => thread ≠ thread' ∧ value = value'
  | .entry _ _, .entry _ _ => False

instance : DecidableRel Clashes
  | .access _ _ _, .access _ _ _ => inferInstanceAs (Decidable (_ ∧ _))
  | .access _ _ _, .entry _ _ => inferInstanceAs (Decidable (_ ∧ _))
  | .entry _ _, .access _ _ _ => inferInstanceAs (Decidable (_ ∧ _))
  | .entry _ _, .entry _ _ => inferInstanceAs (Decidable False)

/-- What stands against an occurrence after others. -/
def verdict (earlier : List Occurrence) : Occurrence → List Conflict
  | .access thread value kind => (replay value earlier).verdict ⟨thread, kind⟩
  | .entry _ _ => []

/-- Occurrences with what stands against each of them. -/
def verdicts : List Occurrence → List (Occurrence × List Conflict)
  | [] => []
  | occurrence :: earlier => (occurrence, occurrence.verdict earlier) :: verdicts earlier

/-- What is flagged is that against which something stands. -/
theorem judged_eq_map (occurrences : List Occurrence) :
    judged occurrences = (verdicts occurrences).map fun found => (found.1, !found.2.isEmpty) := by
  induction occurrences with
  | nil => rfl
  | cons occurrence earlier ih =>
    rw [judged, verdicts, List.map_cons, ih]
    cases occurrence with
    | access thread value kind => rfl
    | entry thread value => rfl

/-- Occurrences of two threads that do not clash. -/
def Apart (first second : Occurrence) : Prop :=
  first.thread ≠ second.thread ∧ ¬ first.Clashes second

variable {first second : Occurrence}

/-- Clashes go both ways. -/
theorem Clashes.symm (clash : first.Clashes second) : second.Clashes first := by
  cases first with
  | access thread value kind =>
    cases second with
    | access thread' value' kind' =>
      exact ⟨clash.1.symm, clash.2.1.symm, (AccessKind.conflicts_comm _ _).trans clash.2.2⟩
    | entry thread' value' => exact ⟨clash.1.symm, clash.2.symm⟩
  | entry thread value =>
    cases second with
    | access thread' value' kind' => exact ⟨clash.1.symm, clash.2.symm⟩
    | entry thread' value' => exact clash

/-- Being apart goes both ways. -/
theorem Apart.symm (apart : first.Apart second) : second.Apart first :=
  ⟨apart.1.symm, fun clash => apart.2 clash.symm⟩

/-- An access changes the standing of its own value. -/
@[simp] theorem bear_access (thread : ThreadId) (value : ValueId) (kind : AccessKind)
    (standing : Standing) :
    (access thread value kind).bear value standing = standing.access ⟨thread, kind⟩ := if_pos rfl

/-- A section entry changes the standing of its own value. -/
@[simp] theorem bear_entry (thread : ThreadId) (value : ValueId) (standing : Standing) :
    (entry thread value).bear value standing = standing.entry thread := if_pos rfl

/-- What does not clash bears on a standing in any order. -/
theorem bear_comm (apart : first.Apart second) (value : ValueId) {standing : Standing}
    (on : standing.detecting = true) :
    second.bear value (first.bear value standing) =
      first.bear value (second.bear value standing) := by
  by_cases here : first.value = value
  case neg => rw [bear_of_ne here, bear_of_ne here]
  by_cases there : second.value = value
  case neg => rw [bear_of_ne there, bear_of_ne there]
  cases here
  cases first with
  | access thread other kind =>
    cases second with
    | access thread' other' kind' =>
      cases there
      have harmless : kind.conflicts kind' = false :=
        Bool.eq_false_iff.2 fun clash => apart.2 ⟨apart.1, rfl, clash⟩
      simp only [value, bear_access]
      exact Standing.access_comm on apart.1 harmless
    | entry thread' other' => exact absurd ⟨apart.1, there.symm⟩ apart.2
  | entry thread other =>
    cases second with
    | access thread' other' kind' => exact absurd ⟨apart.1, there.symm⟩ apart.2
    | entry thread' other' =>
      cases there
      simp only [value, bear_entry]
      exact Standing.entry_comm _ apart.1

/-- What does not clash is judged alike without the other. -/
theorem verdict_cons (apart : first.Apart second) (earlier : List Occurrence) :
    second.verdict (first :: earlier) = second.verdict earlier := by
  cases second with
  | entry thread' other' => rfl
  | access thread' other' kind' =>
    change (first.bear other' (replay other' earlier)).verdict _ = _
    by_cases here : first.value = other'
    case neg =>
      rw [bear_of_ne here]
      rfl
    cases here
    cases first with
    | entry thread other => exact absurd ⟨apart.1, rfl⟩ apart.2
    | access thread other kind =>
      have harmless : kind.conflicts kind' = false :=
        Bool.eq_false_iff.2 fun clash => apart.2 ⟨apart.1, rfl, clash⟩
      rw [value, bear_access]
      exact Standing.verdict_access (detecting_replay _ _) apart.1 harmless

/-- Occurrences that come to the same: standings are the same, and so is what stands against the
occurrences of each thread. -/
structure Agree (earlier later : List Occurrence) : Prop where
  /-- The same standings. -/
  replays : ∀ value, replay value earlier = replay value later
  /-- The same verdicts for each thread, in its own order. -/
  threads : ∀ thread, (verdicts earlier).filter (fun found => found.1.thread = thread) =
    (verdicts later).filter fun found => found.1.thread = thread
  /-- The same verdicts altogether. -/
  all : (verdicts earlier).Perm (verdicts later)

namespace Agree

variable {earlier middle later : List Occurrence}

/-- Occurrences come to the same as themselves. -/
theorem refl (occurrences : List Occurrence) : Agree occurrences occurrences :=
  ⟨fun _ => rfl, fun _ => rfl, .refl _⟩

/-- Occurrences come to the same as those that come to the same as others that do. -/
theorem trans (agree : Agree earlier middle) (agree' : Agree middle later) : Agree earlier later :=
  ⟨fun value => (agree.replays value).trans (agree'.replays value),
    fun thread => (agree.threads thread).trans (agree'.threads thread), agree.all.trans agree'.all⟩

/-- What comes later is judged alike by what comes to the same. -/
theorem cons (agree : Agree earlier later) (occurrence : Occurrence) :
    Agree (occurrence :: earlier) (occurrence :: later) := by
  have verdict : occurrence.verdict earlier = occurrence.verdict later := by
    cases occurrence with
    | access thread value kind => rw [Occurrence.verdict, Occurrence.verdict, agree.replays]
    | entry thread value => rfl
  refine ⟨fun value => ?_, fun thread => ?_, ?_⟩
  · exact congrArg (occurrence.bear value) (agree.replays value)
  · rw [verdicts, verdicts, verdict, List.filter_cons, List.filter_cons, agree.threads]
  · rw [verdicts, verdicts, verdict]
    exact agree.all.cons _

/-- Neighbours that do not clash trade places. -/
theorem swap (apart : first.Apart second) (occurrences : List Occurrence) :
    Agree (second :: first :: occurrences) (first :: second :: occurrences) := by
  refine ⟨fun value => bear_comm apart value (detecting_replay _ _), fun thread => ?_, ?_⟩
  · simp only [verdicts, verdict_cons apart, verdict_cons apart.symm, List.filter_cons]
    by_cases here : second.thread = thread
    · have elsewhere : ¬ first.thread = thread := fun same => apart.1 (same.trans here.symm)
      simp only [elsewhere, decide_false, Bool.false_eq_true, if_false]
    · simp only [here, decide_false, Bool.false_eq_true, if_false]
  · simp only [verdicts, verdict_cons apart, verdict_cons apart.symm]
    exact .swap _ _ _

/-- What does not clash with anything later may as well come last. -/
theorem moved {latest : Occurrence} {after before : List Occurrence}
    (apart : ∀ occurrence ∈ after, latest.Apart occurrence) :
    Agree (after ++ latest :: before) (latest :: (after ++ before)) := by
  induction after with
  | nil => exact refl _
  | cons occurrence after ih =>
    have rest := ih fun other member => apart other (List.mem_cons_of_mem _ member)
    exact (rest.cons occurrence).trans (swap (apart occurrence List.mem_cons_self) _)

end Agree

/-- Every thread does the same in the same order, and what clashes comes in the same order. -/
structure Rearranged (first second : List Occurrence) : Prop where
  /-- Each thread by itself does the same. -/
  threads : ∀ thread, first.filter (fun occurrence => occurrence.thread = thread) =
    second.filter fun occurrence => occurrence.thread = thread
  /-- Of any two that clash, all repetitions come in the same order. -/
  clashes : ∀ one ∈ first, ∀ other ∈ first, one.Clashes other →
    first.filter (fun occurrence => occurrence = one ∨ occurrence = other) =
      second.filter fun occurrence => occurrence = one ∨ occurrence = other

/-- What is taken out of two lists alike is alike without its first element. -/
theorem filter_moved {latest : Occurrence} {after before rest : List Occurrence}
    {keep : Occurrence → Bool} (new : latest ∉ after)
    (same : (after ++ latest :: before).filter keep = (latest :: rest).filter keep) :
    (keep latest = true → after.filter keep = []) ∧
      (after ++ before).filter keep = rest.filter keep := by
  rw [List.filter_append] at same ⊢
  cases kept : keep latest with
  | false =>
    rw [List.filter_cons_of_neg (by rw [kept]; decide),
      List.filter_cons_of_neg (by rw [kept]; decide)] at same
    exact ⟨nofun, same⟩
  | true =>
    rw [List.filter_cons_of_pos kept, List.filter_cons_of_pos kept] at same
    cases none : after.filter keep with
    | nil =>
      rw [none] at same
      exact ⟨fun _ => rfl, (List.cons.inj same).2⟩
    | cons head tail =>
      rw [none] at same
      have member : head ∈ after.filter keep := none ▸ List.mem_cons_self
      have found : latest ∈ after := (List.cons.inj same).1 ▸ (List.mem_filter.1 member).1
      exact absurd found new

namespace Rearranged

variable {latest : Occurrence} {after before rest : List Occurrence}

/-- What comes last in one order clashes with nothing that comes after it in the other one. -/
theorem apart (rearranged : Rearranged (after ++ latest :: before) (latest :: rest))
    (new : latest ∉ after) : ∀ occurrence ∈ after, latest.Apart occurrence := by
  intro occurrence member
  constructor
  · intro same
    have none := (filter_moved new (rearranged.threads latest.thread)).1 (decide_eq_true rfl)
    exact List.filter_eq_nil_iff.1 none occurrence member (decide_eq_true same.symm)
  · intro clash
    have same := rearranged.clashes latest (List.mem_append_right _ List.mem_cons_self)
      occurrence (List.mem_append_left _ member) clash
    have none := (filter_moved new same).1 (decide_eq_true (.inl rfl))
    exact List.filter_eq_nil_iff.1 none occurrence member (decide_eq_true (.inr rfl))

/-- Without what comes last in one of them, both are still rearranged. -/
theorem without (rearranged : Rearranged (after ++ latest :: before) (latest :: rest))
    (new : latest ∉ after) : Rearranged (after ++ before) rest := by
  have found : ∀ occurrence ∈ after ++ before, occurrence ∈ after ++ latest :: before :=
    fun _ member => (List.mem_append.1 member).elim (List.mem_append_left _) fun old =>
      List.mem_append_right _ (List.mem_cons_of_mem _ old)
  refine ⟨fun thread => (filter_moved new (rearranged.threads thread)).2, ?_⟩
  intro one member other member' clash
  exact (filter_moved new (rearranged.clashes one (found one member) other (found other member')
    clash)).2

/-- Rearranged occurrences come to the same. -/
theorem agree {first second : List Occurrence} (rearranged : Rearranged first second) :
    Agree first second := by
  induction second generalizing first with
  | nil =>
    have nothing : first = [] := List.eq_nil_iff_forall_not_mem.2 fun occurrence member =>
      List.filter_eq_nil_iff.1 (rearranged.threads occurrence.thread) occurrence member
        (decide_eq_true rfl)
    rw [nothing]
    exact .refl _
  | cons latest rest ih =>
    have kept : latest ∈ (latest :: rest).filter fun occurrence =>
        occurrence.thread = latest.thread :=
      List.mem_filter.2 ⟨List.mem_cons_self, decide_eq_true rfl⟩
    have member : latest ∈ first :=
      (List.mem_filter.1 (rearranged.threads latest.thread ▸ kept)).1
    obtain ⟨after, before, rfl, new⟩ := List.eq_append_cons_of_mem member
    have moved : Agree (after ++ latest :: before) (latest :: (after ++ before)) :=
      .moved (rearranged.apart new)
    exact moved.trans ((ih (rearranged.without new)).cons latest)

end Rearranged

/-- Whether one list is rearranged to the other can be told from the occurrences in both. -/
theorem rearranged_iff {first second : List Occurrence} :
    Rearranged first second ↔
      (∀ occurrence ∈ first ++ second,
        first.filter (fun other => other.thread = occurrence.thread) =
          second.filter fun other => other.thread = occurrence.thread) ∧
      ∀ one ∈ first, ∀ other ∈ first, one.Clashes other →
        first.filter (fun occurrence => occurrence = one ∨ occurrence = other) =
          second.filter fun occurrence => occurrence = one ∨ occurrence = other := by
  refine ⟨fun rearranged => ⟨fun _ _ => rearranged.threads _, rearranged.clashes⟩, ?_⟩
  rintro ⟨threads, clashes⟩
  refine ⟨fun thread => ?_, clashes⟩
  by_cases acts : ∃ occurrence ∈ first ++ second, occurrence.thread = thread
  · obtain ⟨occurrence, member, rfl⟩ := acts
    exact threads occurrence member
  · have idle : ∀ occurrence ∈ first ++ second, ¬ decide (occurrence.thread = thread) = true :=
      fun occurrence member same => acts ⟨occurrence, member, of_decide_eq_true same⟩
    rw [List.filter_eq_nil_iff.2 fun occurrence member =>
        idle occurrence (List.mem_append_left _ member),
      List.filter_eq_nil_iff.2 fun occurrence member =>
        idle occurrence (List.mem_append_right _ member)]

instance (first second : List Occurrence) : Decidable (Rearranged first second) :=
  decidable_of_iff _ rearranged_iff.symm

end Occurrence

/-- What verdicts depend on in a happening, with what was found to stand against it. -/
def Happening.finding? : Happening → Option (Occurrence × List Conflict)
  | .accessed thread value kind sighting =>
    some (.access thread value kind, (sighting.map Sighting.candidates).getD [])
  | .entered thread value _ => some (.entry thread value, [])
  | _ => none

/-- What was found to stand against accesses, latest first. -/
def History.findings (past : History) : List (Occurrence × List Conflict) :=
  past.filterMap Happening.finding?

variable {α β : Type} {past : History}

/-- One more happening was found to be what it is judged to be. -/
theorem Happening.finding?_of_fits {world : World α} (replayed : Replayed past world)
    (dated : past.Dated world) {happening : Happening} (fits : happening.Fits world) :
    happening.finding? = happening.occurrence?.map fun occurrence =>
      (occurrence, occurrence.verdict past.occurrences) := by
  cases happening with
  | accessed thread value kind sighting =>
    obtain ⟨running, standing, stood, on, told⟩ := fits
    have alive : .ended thread ∉ past := fun member =>
      Bool.false_ne_true ((dated.ended thread member).2.symm.trans running)
    have verdict : standing.verdict ⟨thread, kind⟩ =
        (Occurrence.replay value past.occurrences).verdict ⟨thread, kind⟩ :=
      (replayed.matches_standing stood).verdict_eq on (Occurrence.detecting_replay _ _) alive
    rw [finding?, occurrence?, Option.map_some, Occurrence.verdict, ← verdict]
    cases sighting with
    | none => rw [show standing.verdict ⟨thread, kind⟩ = [] from told, Option.map_none,
        Option.getD_none]
    | some flagged => rw [Option.map_some, Option.getD_some, told.2.2.2]
  | _ => rfl

/-- What was found in a run in which nobody disturbed the contexts is what its occurrences are
judged to be. -/
theorem findings_of_run {scene : Scene α} (run : Run past scene) (undisturbed : past.Undisturbed) :
    past.findings = Occurrence.verdicts past.occurrences := by
  induction run with
  | refl => rfl
  | @tail past happenings scene next move path performed ih =>
    have before := ih fun happening member =>
      undisturbed happening (List.mem_append_right _ member)
    have replayed := replayed_of_run path fun happening member =>
      undisturbed happening (List.mem_append_right _ member)
    have turn := Scene.turn_of_perform? (numbered_of_run path) performed
    rcases turn.eq_nil_or_singleton with rfl | ⟨happening, rfl⟩
    · exact before
    · have fits := turn.fits happening (List.mem_singleton_self _)
      have found := Happening.finding?_of_fits replayed (dated_of_run path) fits
      change List.filterMap _ (happening :: past) = Occurrence.verdicts (List.filterMap _
        (happening :: past))
      cases told : happening.occurrence? with
      | none =>
        rw [told, Option.map_none] at found
        rw [List.filterMap_cons_none found, List.filterMap_cons_none told]
        exact before
      | some occurrence =>
        rw [told, Option.map_some] at found
        rw [List.filterMap_cons_some found, List.filterMap_cons_some told, Occurrence.verdicts]
        exact congrArg _ before

/-- Two runs end alike, though not all of their accesses came in the same order. -/
structure SameEnd (past past' : History) (world : World α) (world' : World β) : Prop where
  /-- Against the accesses of each thread, in its own order, the same was found to stand. -/
  verdicts : ∀ thread, past.findings.filter (fun found => found.1.thread = thread) =
    past'.findings.filter fun found => found.1.thread = thread
  /-- What was found is the same, but for the order. -/
  findings : past.findings.Perm past'.findings
  /-- Clock tables are the same. -/
  clocks : ∀ value cell cell', world.cells.get? value = some cell →
    world'.cells.get? value = some cell' → cell.clock = cell'.clock
  /-- Racing threads are the same. -/
  racing : ∀ value cell cell', world.cells.get? value = some cell →
    world'.cells.get? value = some cell' → cell.racing = cell'.racing
  /-- Snapshots are the same, unless a thread ended in one of the runs only. -/
  snapshots : ∀ thread value, (.ended thread ∈ past ↔ .ended thread ∈ past') →
    world.snapshot? thread value = world'.snapshot? thread value
  /-- Ledgers count the same, whichever detector a value was made of. -/
  ledgers : ∀ value watched watched' id id' detector detector',
    .made value watched (some id) ∈ past → .made value watched' (some id') ∈ past' →
      world.detectors.get? id = some detector → world'.detectors.get? id' = some detector' →
        detector.ledger.races value = detector'.ledger.races value

/-- How often a value was flagged is a matter of what was found. -/
theorem flags_of_run {scene : Scene α} (run : Run past scene) (undisturbed : past.Undisturbed)
    (value : ValueId) :
    past.flags value = ((past.findings.map fun found => (found.1, !found.2.isEmpty)).filterMap
      (Occurrence.flaggedThread? value)).length := by
  rw [History.flags, History.flagged_eq_marks, (replayed_of_run run undisturbed).marks,
    Occurrence.judged_eq_map, findings_of_run run undisturbed]

/-- Threads that end have seen nothing. -/
theorem snapshot?_of_ended {scene : Scene α} (run : Run past scene) {thread : ThreadId}
    (ended : .ended thread ∈ past) (value : ValueId) : scene.world.snapshot? thread value = none :=
  snapshot?_of_not_running _ ((dated_of_run run).ended thread ended).2 value

/-- Two runs in which nobody disturbed the contexts end alike if the occurrences of the one are
those of the other, rearranged without changing the order of what clashes; so do two scenarios. -/
theorem same_end_of_rearranged :
    (∀ (past past' : History) (scene : Scene α) (scene' : Scene β), Run past scene →
      Run past' scene' → past.Undisturbed → past'.Undisturbed →
        Occurrence.Rearranged past.occurrences past'.occurrences →
          SameEnd past past' scene.world scene'.world) ∧
    (∀ (steps : List (Step α)) (steps' : List (Step β)), (World.empty.tells steps).Undisturbed →
      (World.empty.tells steps').Undisturbed →
        Occurrence.Rearranged (World.empty.tells steps).occurrences
          (World.empty.tells steps').occurrences →
            SameEnd (World.empty.tells steps) (World.empty.tells steps')
              (World.empty.after steps) (World.empty.after steps')) := by
  have runs : ∀ (past past' : History) (scene : Scene α) (scene' : Scene β), Run past scene →
      Run past' scene' → past.Undisturbed → past'.Undisturbed →
        Occurrence.Rearranged past.occurrences past'.occurrences →
          SameEnd past past' scene.world scene'.world := by
    intro past past' scene scene' run run' undisturbed undisturbed' rearranged
    have replayed := replayed_of_run run undisturbed
    have replayed' := replayed_of_run run' undisturbed'
    have agree := rearranged.agree
    have findings : past.findings.Perm past'.findings := by
      rw [findings_of_run run undisturbed, findings_of_run run' undisturbed']
      exact agree.all
    refine ⟨fun thread => ?_, findings, ?_, ?_, ?_, ?_⟩
    · rw [findings_of_run run undisturbed, findings_of_run run' undisturbed', agree.threads]
    · intro value cell cell' found found'
      have clock := (replayed.standings value _ (standing?_of_get? _ found)).1
      have clock' := (replayed'.standings value _ (standing?_of_get? _ found')).1
      rw [agree.replays] at clock
      exact clock.trans clock'.symm
    · intro value cell cell' found found'
      have racing := (replayed.standings value _ (standing?_of_get? _ found)).2
      have racing' := (replayed'.standings value _ (standing?_of_get? _ found')).2
      rw [agree.replays] at racing
      exact racing.trans racing'.symm
    · intro thread value both
      by_cases ended : .ended thread ∈ past
      · rw [snapshot?_of_ended run ended, snapshot?_of_ended run' (both.1 ended)]
      · rw [replayed.snapshots thread value ended,
          replayed'.snapshots thread value fun ended' => ended (both.2 ended'), agree.replays]
    · intro value watched watched' id id' detector detector' made made' found found'
      have counted := (booked_of_run run).races_eq_flags found
        (History.mem_madeOf_iff.2 ⟨watched, made⟩)
      have counted' := (booked_of_run run').races_eq_flags found'
        (History.mem_madeOf_iff.2 ⟨watched', made'⟩)
      rw [counted, counted', flags_of_run run undisturbed, flags_of_run run' undisturbed']
      exact ((findings.map _).filterMap _).length_eq
  refine ⟨runs, fun steps steps' undisturbed undisturbed' rearranged => ?_⟩
  exact runs _ _ _ _ (run_of_steps steps) (run_of_steps steps') undisturbed undisturbed' rearranged

/-- Three threads read what one of them wrote, two of them in another order, and one of them enters
a section on another value earlier. -/
theorem same_end_of_swapped_reads :
    ∃ steps steps' : List (Step Nat),
      (World.empty.tells steps).occurrences ≠ (World.empty.tells steps').occurrences ∧
      (World.empty.tells steps).marks ≠ (World.empty.tells steps').marks ∧
      SameEnd (World.empty.tells steps) (World.empty.tells steps')
        (World.empty.after steps) (World.empty.after steps') := by
  refine ⟨[.spawn none false, .spawn none false, .spawn none false, .newDetector none,
      .newValue 7 (some ⟨0⟩) none, .newValue 8 (some ⟨0⟩) none, .act ⟨0⟩ (.write ⟨0⟩ 8),
      .act ⟨1⟩ (.read ⟨0⟩), .act ⟨2⟩ (.read ⟨0⟩), .act ⟨2⟩ (.synchronized ⟨1⟩ .method []),
      .act ⟨0⟩ (.write ⟨0⟩ 9)],
    [.spawn none false, .spawn none false, .spawn none false, .newDetector none,
      .newValue 7 (some ⟨0⟩) none, .newValue 8 (some ⟨0⟩) none, .act ⟨0⟩ (.write ⟨0⟩ 8),
      .act ⟨2⟩ (.read ⟨0⟩), .act ⟨2⟩ (.synchronized ⟨1⟩ .method []), .act ⟨1⟩ (.read ⟨0⟩),
      .act ⟨0⟩ (.write ⟨0⟩ 9)], by decide +kernel, by decide +kernel, ?_⟩
  exact same_end_of_rearranged.2 _ _ (by decide +kernel) (by decide +kernel) (by decide +kernel)

end RaceSentry
