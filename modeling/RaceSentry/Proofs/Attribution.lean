import Mathlib.Data.List.TakeWhile
import RaceSentry.Proofs.Attempts
import RaceSentry.Proofs.Records
import RaceSentry.Proofs.Search

/-!
# What reports put a flagged access down to

A flagged access has one entry of the clock table held against it, the first that a search comes
upon. In which order the search goes through the table is not known, so an event and a report may
name any entry that stands against the access. Every one of them tells of another thread's
conflicting accesses: how many there were, and how many of them the thread had seen.
Main statement: `reports_attest_accesses`.
-/

namespace RaceSentry

open World

variable {α : Type} {past : History} {scene next : Scene α} {thread : ThreadId} {value : ValueId}
  {kind : AccessKind}

namespace Conflict

/-- How an entry that is held against an access tells of the past. -/
structure Attests (conflict : Conflict) (past : History) (thread : ThreadId) (value : ValueId)
    (kind : AccessKind) : Prop where
  /-- It is of another thread. -/
  foreign : conflict.key.thread ≠ thread
  /-- Accesses of its kind conflict with the access. -/
  conflicting : kind.conflicts conflict.key.kind = true
  /-- It tells how often its key accessed the value. -/
  counted : conflict.authoritative = past.tally value conflict.key
  /-- There was such an access. -/
  positive : 1 ≤ conflict.authoritative
  /-- What it says was seen is what there was at the last section entry of the thread. -/
  seen : ∀ counter, conflict.observed = some counter ↔ past.Entered thread value ∧ 1 ≤ counter ∧
    (past.upToEntry thread value).tally value conflict.key = counter
  /-- Nothing was seen without a section entry, or when there was nothing then. -/
  unseen : conflict.observed = none ↔ ¬ past.Entered thread value ∨
    (past.upToEntry thread value).tally value conflict.key = 0
  /-- What was seen is less than what there is. -/
  behind : ∀ counter, conflict.observed = some counter → counter < conflict.authoritative

end Conflict

namespace History

variable {key : AccessKey} {counter : Nat}

/-- A key has a counter exactly if it made that many accesses, one at least. -/
theorem counter?_eq_some_iff :
    past.counter? value key = some counter ↔ 1 ≤ counter ∧ past.tally value key = counter := by
  rw [counter?]
  split
  · rename_i zero
    apply iff_of_false (Option.some_ne_none _).symm
    omega
  · rename_i positive
    rw [Option.some.injEq]
    omega

/-- A thread that entered no section has nothing from before one. -/
theorem upToEntry_of_not_entered (never : ¬ past.Entered thread value) :
    past.upToEntry thread value = [] := by
  refine List.dropWhile_eq_nil_iff.2 fun happening member => ?_
  cases happening with
  | entered other target clock =>
    by_cases own : other = thread ∧ target = value
    · obtain ⟨rfl, rfl⟩ := own
      exact absurd ⟨clock, member⟩ never
    · rw [Happening.isEntry, Happening.entryClock?, if_neg own]
      rfl
  | _ => rfl

/-- What a thread has seen of others is what there was at its last section entry. -/
theorem counter?_upToEntry_eq_some_iff :
    (past.upToEntry thread value).counter? value key = some counter ↔
      past.Entered thread value ∧ 1 ≤ counter ∧
        (past.upToEntry thread value).tally value key = counter := by
  rw [counter?_eq_some_iff]
  by_cases entered : past.Entered thread value
  · exact (and_iff_right entered).symm
  · rw [upToEntry_of_not_entered entered]
    apply iff_of_false
    · rintro ⟨positive, nothing⟩
      exact absurd nothing (Nat.ne_of_lt positive)
    · exact fun all => entered all.1

/-- A thread has seen nothing of others if it entered no section, or if there was nothing then. -/
theorem counter?_upToEntry_eq_none_iff :
    (past.upToEntry thread value).counter? value key = none ↔
      ¬ past.Entered thread value ∨ (past.upToEntry thread value).tally value key = 0 := by
  have zero : (past.upToEntry thread value).counter? value key = none ↔
      (past.upToEntry thread value).tally value key = 0 :=
    counter?_eq_none_iff.trans tally_eq_zero_iff.symm
  rw [zero]
  refine ⟨.inr, fun either => either.elim (fun never => ?_) id⟩
  rw [upToEntry_of_not_entered never]
  rfl

end History

/-- What stands against an access are the entries that tell of conflicting accesses of other
threads, and of them all those of which the thread has not seen as many as there are. -/
theorem Standing.Reflects.mem_verdict_iff {standing : Standing}
    (reflects : standing.Reflects past value) (on : standing.detecting = true)
    (unended : .ended thread ∉ past) {conflict : Conflict} :
    conflict ∈ standing.verdict ⟨thread, kind⟩ ↔ conflict.Attests past thread value kind := by
  rw [Standing.mem_verdict_iff on, reflects.clock, reflects.seen thread unended]
  constructor
  · rintro ⟨_, conflicting, stored, observed, different⟩
    -- Of its own accesses a thread has seen all, so the entry is not one of these.
    have foreign : conflict.key.thread ≠ thread := by
      intro mine
      rw [if_pos mine] at observed
      exact different (observed.symm.trans stored)
    rw [if_neg foreign] at observed
    obtain ⟨positive, counted⟩ := History.counter?_eq_some_iff.1 stored
    refine ⟨foreign, conflicting, counted.symm, positive, fun counter => ?_, ?_, ?_⟩
    · rw [← observed]
      exact History.counter?_upToEntry_eq_some_iff
    · rw [← observed]
      exact History.counter?_upToEntry_eq_none_iff
    · intro counter seen
      have upTo := (History.counter?_upToEntry_eq_some_iff.1 (observed.trans seen)).2.2
      have parts := past.tally_split thread value conflict.key
      have unequal : counter ≠ conflict.authoritative := by
        rintro rfl
        exact different seen
      omega
  · intro attests
    have observed : (past.upToEntry thread value).counter? value conflict.key =
        conflict.observed := by
      apply Option.ext
      intro counter
      exact History.counter?_upToEntry_eq_some_iff.trans (attests.seen counter).symm
    refine ⟨fun own => attests.foreign (congrArg AccessKey.thread own), attests.conflicting,
      ?_, ?_, ?_⟩
    · exact History.counter?_eq_some_iff.2 ⟨attests.positive, attests.counted.symm⟩
    · rw [if_neg attests.foreign, observed]
    · intro same
      exact Nat.lt_irrefl _ (attests.behind _ same)

/-- An access is judged by the tables that it leaves behind. -/
theorem Standing.unseen_access {standing : Standing} (on : standing.detecting = true)
    (key : AccessKey) :
    Conflict.unseen (standing.access key).clock ((standing.access key).seen key.thread) key.kind =
      standing.verdict key := by
  have seen : (standing.access key).seen key.thread = (standing.tally key).seen key.thread := by
    rw [Standing.seen, Standing.snapshot?_access, if_pos on, Standing.seen]
  rw [seen, Standing.clock_access, if_pos on, Standing.verdict, if_pos on]
  rfl

/-- What stands against an access that is recorded stands in the tables afterwards. -/
theorem World.Turn.unseen_eq {world after : World α} {happenings : List Happening}
    (turn : Turn world happenings after) (numbered : Numbered world) {sighting : Option Sighting}
    (told : .accessed thread value kind sighting ∈ happenings) {standing : Standing}
    (stands : world.standing? value = some standing) (on : standing.detecting = true) :
    Conflict.unseen (after.clockOf value) ((after.snapshot? thread value).getD ∅) kind =
      standing.verdict ⟨thread, kind⟩ := by
  obtain rfl := turn.eq_singleton told
  have left : after.standing? value = some (standing.access ⟨thread, kind⟩) := by
    rw [turn.standing? numbered]
    show (Happening.accessed thread value kind sighting).bear value (world.standing? value) = _
    rw [stands, Happening.bear, if_pos rfl, Option.map_some]
  obtain ⟨cell, found, same⟩ := (standing?_eq_some_iff after).1 left
  have clock : after.clockOf value = (standing.access ⟨thread, kind⟩).clock := by
    rw [← same, clockOf, found]
    rfl
  rw [clock, ← snapshot?_of_standing? left]
  exact standing.unseen_access on ⟨thread, kind⟩

/-- A flagged access is sighted under the label of its value. -/
theorem World.Turn.label_eq {world after : World α} {happenings : List Happening}
    (turn : Turn world happenings after) {sighting : Sighting}
    (told : .accessed thread value kind (some sighting) ∈ happenings) :
    ∃ cell, world.cells.get? value = some cell ∧ sighting.label = cell.label := by
  induction turn with
  | flagged running found on something =>
    cases List.mem_singleton.1 told
    exact ⟨_, found, rfl⟩
  | after kept turn ih =>
    obtain ⟨cell, found, label⟩ := ih told
    have accounts := kept.accounts value
    rw [found] at accounts
    obtain ⟨before, stored, same⟩ := Option.map_eq_some_iff.1 accounts.symm
    exact ⟨before, stored, label.trans (congrArg Cell.label same).symm⟩
  | upTo turn kept ih => exact ih told
  | _ => simp at told

/-- The report of a flagged access that puts it down to one entry. The identities and the moment
are chosen by whoever reports. -/
def Sighting.report (sighting : Sighting) (id valueId : Uuid) (moment : Timestamp)
    (conflict : Conflict) : RaceReport :=
  .new id valueId moment sighting.label sighting.key sighting.threadName conflict

/-- What a report tells of an earlier access, in the words of an event. -/
def ConflictingAccess.fields (access : ConflictingAccess) : List (String × FieldValue) :=
  [("conflicting", .text (access.thread ++ "/" ++ access.access.text)),
    ("authoritative", .count access.authoritative),
    ("observed", .text (Conflict.observedText access.observed))]

/-- What a report tells, in the words of an event. -/
def RaceReport.fields (report : RaceReport) (value : ValueId) : List (String × FieldValue) :=
  [("value", .text value.text), ("label", .text (report.label.getD "")),
    ("thread", .text report.thread), ("access", .text report.access.text)] ++
    report.conflicting.fields

/-- How the report of a flagged access that puts it down to one entry agrees with the access, and
with the event that tells of it. -/
structure RaceReport.Retells (report : RaceReport) (valueId : Uuid) (label : Option String)
    (key : AccessKey) (told : List (String × FieldValue)) (value : ValueId) : Prop where
  /-- It names the value. -/
  valueId : report.valueId = valueId
  /-- It carries the label of the value. -/
  label : report.label = label
  /-- It names the accessing thread. -/
  thread : report.thread = key.thread.text
  /-- It says what the thread did. -/
  access : report.access = key.kind
  /-- It says what the event says. -/
  fields : report.fields value = told

/-- A report is about the access that was sighted, and tells of it and of the entry what the event
tells. -/
theorem Sighting.retells_report (sighting : Sighting) (id valueId : Uuid) (moment : Timestamp)
    (conflict : Conflict) :
    (sighting.report id valueId moment conflict).Retells valueId sighting.label sighting.key
      ((Event.raced sighting).fields ++ conflict.fields) sighting.value :=
  ⟨rfl, rfl, rfl, rfl, rfl⟩

/-- Whatever order the clock table is gone through in, a flagged access is put down to an entry
that tells of another thread's conflicting accesses: how many there were, and how many of them
there were when the thread last entered a section. Every entry that tells of such accesses may be
the one. The event and the report are about the access, and name the same entry. -/
theorem reports_attest_accesses {move : Move α} {happenings : List Happening}
    {sighting : Sighting} (run : Run past scene) (undisturbed : past.Undisturbed)
    (performed : scene.perform? move = some (next, happenings))
    (told : .accessed thread value kind (some sighting) ∈ happenings) :
    Denounces scene.world next.world sighting ∧
      ∃ cell, scene.world.cells.get? value = some cell ∧
        (∀ entries, entries.Perm (next.world.clockOf value).entries → ∃ conflict,
          Conflict.find? entries ((next.world.snapshot? thread value).getD ∅) kind =
              some conflict ∧
            conflict ∈ sighting.candidates ∧ conflict.Attests past thread value kind ∧
            ∀ (id valueId : Uuid) (moment : Timestamp),
              (sighting.report id valueId moment conflict).Retells valueId cell.label
                ⟨thread, kind⟩ ((Event.raced sighting).fields ++ conflict.fields) value) ∧
        ∀ conflict : Conflict, conflict.Attests past thread value kind →
          ∃ entries, entries.Perm (next.world.clockOf value).entries ∧
            Conflict.find? entries ((next.world.snapshot? thread value).getD ∅) kind =
              some conflict := by
  have numbered := numbered_of_run run
  have turn := Scene.turn_of_perform? numbered performed
  obtain ⟨running, standing, stands, on, something, about, key, candidates⟩ := turn.fits _ told
  obtain ⟨cell, found, label⟩ := turn.label_eq told
  have against := turn.unseen_eq numbered told stands on
  have attests : ∀ conflict, conflict ∈ standing.verdict ⟨thread, kind⟩ ↔
      conflict.Attests past thread value kind := fun conflict =>
    (reflects_of_run run undisturbed stands).mem_verdict_iff on (not_ended_of_run run running)
  refine ⟨turn.denounces told, cell, found, fun entries order => ?_, fun conflict holds => ?_⟩
  · obtain ⟨conflict, first⟩ := Conflict.exists_find?_eq_some order (against ▸ something)
    have member := Conflict.mem_unseen_of_find? order first
    rw [against] at member
    refine ⟨conflict, first, candidates ▸ member, (attests conflict).1 member,
      fun id valueId moment => ?_⟩
    rw [← label, ← key, ← about]
    exact sighting.retells_report id valueId moment conflict
  · apply Conflict.exists_order_of_mem_unseen
    rw [against]
    exact (attests conflict).2 holds

/-- A thread reads what two others wrote: the one before and after the thread entered a section, the
other one only after it. -/
theorem exists_read_after_two_writers :
    ∃ (past : History) (scene next : Scene Nat) (sighting : Sighting),
      Run past scene ∧ past.Undisturbed ∧
        scene.perform? (.access ⟨1⟩ ⟨0⟩ .read) =
          some (next, [.accessed ⟨1⟩ ⟨0⟩ .read (some sighting)]) ∧
        sighting.candidates = [⟨⟨⟨0⟩, .write⟩, 2, some 1⟩, ⟨⟨⟨2⟩, .write⟩, 1, none⟩] ∧
        Conflict.find? (next.world.clockOf ⟨0⟩).entries
            ((next.world.snapshot? ⟨1⟩ ⟨0⟩).getD ∅) .read = some ⟨⟨⟨0⟩, .write⟩, 2, some 1⟩ ∧
        Conflict.find? (next.world.clockOf ⟨0⟩).entries.reverse
            ((next.world.snapshot? ⟨1⟩ ⟨0⟩).getD ∅) .read = some ⟨⟨⟨2⟩, .write⟩, 1, none⟩ :=
  ⟨_, _, _, _, Path.refl.playOut? [.step (.spawn none false), .step (.spawn none true),
    .step (.spawn none false), .step (.newDetector none),
    .step (.newValue 7 (some ⟨0⟩) (some "hits")), .access ⟨0⟩ ⟨0⟩ .write, .finish ⟨0⟩ Nat.succ,
    .enter ⟨1⟩ ⟨0⟩, .leave ⟨1⟩, .access ⟨0⟩ ⟨0⟩ .write, .finish ⟨0⟩ Nat.succ,
    .access ⟨2⟩ ⟨0⟩ .write, .finish ⟨2⟩ Nat.succ] rfl, by decide, rfl, rfl, rfl, rfl⟩

/-- Of two writers that stand against a read, one is named by a search in the order of the table,
and the other one by a search in the opposite order. -/
theorem either_writer_attested :
    ∃ (past : History) (scene next : Scene Nat) (sighting : Sighting),
      Run past scene ∧ past.Undisturbed ∧
        scene.perform? (.access ⟨1⟩ ⟨0⟩ .read) =
          some (next, [.accessed ⟨1⟩ ⟨0⟩ .read (some sighting)]) ∧
        Denounces scene.world next.world sighting ∧
        Conflict.Attests ⟨⟨⟨0⟩, .write⟩, 2, some 1⟩ past ⟨1⟩ ⟨0⟩ .read ∧
        Conflict.Attests ⟨⟨⟨2⟩, .write⟩, 1, none⟩ past ⟨1⟩ ⟨0⟩ .read := by
  obtain ⟨past, scene, next, sighting, run, undisturbed, performed, _, forwards, backwards⟩ :=
    exists_read_after_two_writers
  obtain ⟨denounced, _, _, named, _⟩ :=
    reports_attest_accesses run undisturbed performed (List.mem_singleton_self _)
  obtain ⟨_, first, _, attests, _⟩ := named _ (List.Perm.refl _)
  cases forwards.symm.trans first
  obtain ⟨_, last, _, attests', _⟩ := named _ (List.reverse_perm _)
  cases backwards.symm.trans last
  exact ⟨past, scene, next, sighting, run, undisturbed, performed, denounced, attests, attests'⟩

end RaceSentry
