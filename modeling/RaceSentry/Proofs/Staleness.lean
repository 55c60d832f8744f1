import RaceSentry.Proofs.Attribution
import RaceSentry.Proofs.SelfConflict

/-!
# Reports of threads that fell behind

A report calls its thread stale if the thread had seen accesses of the key that the report names.
That is not the same as having entered a section before: who entered one before there were such
accesses has seen none of them, and is told that it never caught up. So it depends on the entry
that is named whether a report is stale.
Main statement: `isStale_iff_seen_at_entry`.
-/

namespace RaceSentry

open World

variable {α : Type} {past : History} {scene next : Scene α} {thread : ThreadId} {value : ValueId}
  {kind : AccessKind}

namespace History

/-- Nobody edited a context by hand. -/
def Unedited (past : History) : Prop := ∀ thread context, .edited thread context ∉ past

/-- A thread was made aware of accesses of a key: one of its own was recorded, or there were some
when it last entered a section. -/
def Aware (past : History) (thread : ThreadId) (value : ValueId) (key : AccessKey) : Prop :=
  (key.thread = thread ∧ ∃ sighting, .accessed thread value key.kind sighting ∈ past) ∨
    key ∈ (past.upToEntry thread value).attempts value

variable {happening : Happening} {key : AccessKey}

/-- Who is undisturbed has not edited anything by hand. -/
theorem Unedited.undisturbed (undisturbed : past.Undisturbed) : past.Unedited :=
  fun _ _ member => Bool.noConfusion (undisturbed _ member)

/-- Where nothing is edited, nothing is edited but for the worse. -/
theorem Unedited.forgetful (unedited : past.Unedited) : past.Forgetful := by
  induction past with
  | nil => trivial
  | cons happening past ih =>
    refine ⟨?_, ih fun thread context member => unedited thread context (.tail _ member)⟩
    rintro thread context rfl
    exact absurd List.mem_cons_self (unedited thread context)

/-- Who was made aware of another thread's accesses entered a section. -/
theorem Aware.entered (aware : past.Aware thread value key) (foreign : key.thread ≠ thread) :
    past.Entered thread value ∧ key ∈ (past.upToEntry thread value).attempts value := by
  have attempted := aware.resolve_left fun own => foreign own.1
  refine ⟨Classical.byContradiction fun never => ?_, attempted⟩
  rw [upToEntry_of_not_entered never] at attempted
  cases attempted

/-- What is no section entry of a thread makes it aware of accesses only if it is one. -/
theorem aware_cons_iff (other : happening.isEntry thread value = false) :
    History.Aware (happening :: past) thread value key ↔
      (key.thread = thread ∧ ∃ sighting, happening = .accessed thread value key.kind sighting) ∨
        past.Aware thread value key := by
  simp only [Aware, upToEntry_cons other, List.mem_cons, exists_or, and_or_left, or_assoc,
    eq_comm]

/-- A section entry makes a thread aware of all accesses there were. -/
theorem aware_entered_iff {clock : ClockTable} :
    History.Aware (.entered thread value clock :: past) thread value key ↔
      key ∈ past.attempts value := by
  have entry := Happening.isEntry_entered thread value clock
  rw [Aware, upToEntry_cons_of_isEntry entry]
  refine ⟨fun either => either.elim ?_ id, .inr⟩
  rintro ⟨rfl, sighting, member⟩
  rcases List.mem_cons.1 member with same | member
  · cases same
  · exact mem_attempts_iff.2 ⟨_, member, rfl⟩

/-- What a thread has seen of a value is what it was made aware of, unless somebody edited its
context. -/
theorem isSome_get?_iff_aware (unedited : past.Unedited) (alive : .ended thread ∉ past)
    (key : AccessKey) :
    (((past.sight? thread value).getD ∅).get? key).isSome = true ↔
      past.Aware thread value key := by
  induction past with
  | nil =>
    apply iff_of_false Bool.false_ne_true
    rintro (⟨_, _, member⟩ | member)
    · cases member
    · cases member
  | cons happening past ih =>
    have before := ih (fun thread context member => unedited thread context (.tail _ member))
      (List.not_mem_of_not_mem_cons alive)
    -- What neither shows the thread anything nor is an entry of its own changes neither side.
    have aside (other : happening.isEntry thread value = false)
        (never : ∀ kind sighting, happening ≠ .accessed thread value kind sighting)
        (same : History.sight? thread value (happening :: past) =
          History.sight? thread value past) :
        (((History.sight? thread value (happening :: past)).getD ∅).get? key).isSome = true ↔
          History.Aware (happening :: past) thread value key := by
      rw [same, before, aware_cons_iff other]
      exact (or_iff_right fun ⟨_, sighting, told⟩ => never _ sighting told).symm
    cases happening with
    | made other detecting sink => exact aside rfl nofun rfl
    | removed other => exact aside rfl nofun rfl
    | stalled other target kind => exact aside rfl nofun rfl
    | edited other context => exact absurd List.mem_cons_self (unedited other context)
    | ended other =>
      have different : thread ≠ other := by
        rintro rfl
        exact alive List.mem_cons_self
      exact aside rfl nofun (if_neg different)
    | accessed other target kind sighting =>
      by_cases own : thread = other ∧ value = target
      · obtain ⟨rfl, rfl⟩ := own
        rw [aware_cons_iff rfl, sight?, Happening.reveal, if_pos ⟨rfl, rfl⟩, Option.getD_some,
          SortedMap.get?_insert]
        by_cases same : key = ⟨thread, kind⟩
        · rw [if_pos same, same]
          exact iff_of_true rfl (.inl ⟨rfl, sighting, rfl⟩)
        · rw [if_neg same, before]
          refine (or_iff_right ?_).symm
          rintro ⟨mine, _, told⟩
          cases told
          exact same (congrArg (AccessKey.mk · key.kind) mine)
      · refine aside rfl ?_ (if_neg own)
        rintro kind sighting told
        cases told
        exact own ⟨rfl, rfl⟩
    | entered other target clock =>
      by_cases own : thread = other ∧ value = target
      · obtain ⟨rfl, rfl⟩ := own
        rw [aware_entered_iff, sight?, Happening.reveal, if_pos ⟨rfl, rfl⟩, Option.getD_some,
          get?_clock, ← not_iff_not, Option.not_isSome_iff_eq_none, number?_eq_none_iff]
      · refine aside ?_ (fun kind sighting told => Happening.noConfusion told) (if_neg own)
        rw [Happening.isEntry, Happening.entryClock?,
          if_neg fun both => own ⟨both.1.symm, both.2.symm⟩]
        rfl

/-- While nobody edits contexts, a thread loses the number of its accesses only by having one of
them cut short. -/
theorem Lost.stalled (lost : past.Lost thread value kind) (unedited : past.Unedited) :
    .stalled thread value kind ∈ past := by
  obtain ⟨_, happening, since, loses⟩ := lost
  have member : happening ∈ past := (List.takeWhile_sublist _).mem since
  cases happening with
  | edited other context => exact absurd member (unedited other context)
  | stalled other target kind' =>
    obtain ⟨rfl, rfl, rfl⟩ := of_decide_eq_true loses
    exact member
  | _ => cases loses

end History

/-- While nobody edits contexts, a report of a flagged access is stale as its thread was made aware
of accesses of the key that the report names. Of another thread's accesses it was made aware by a
section entry, if there were some by then. Its own ones are named only if one of them was cut
short; of these it is aware without any section entry. -/
theorem isStale_iff_seen_at_entry {move : Move α} {happenings : List Happening}
    {sighting : Sighting} (run : Run past scene) (unedited : past.Unedited)
    (performed : scene.perform? move = some (next, happenings))
    (told : .accessed thread value kind (some sighting) ∈ happenings) :
    ∀ conflict ∈ sighting.candidates, ∀ (id valueId : Uuid) (moment : Timestamp),
      (conflict.key.thread ≠ thread →
        ((sighting.report id valueId moment conflict).isStale = true ↔
          past.Entered thread value ∧
            conflict.key ∈ (past.upToEntry thread value).attempts value)) ∧
      (conflict.key.thread = thread →
        .stalled thread value conflict.key.kind ∈ past ∧
          ((sighting.report id valueId moment conflict).isStale = true ↔
            (∃ earlier, .accessed thread value conflict.key.kind earlier ∈ past) ∨
              conflict.key ∈ (past.upToEntry thread value).attempts value)) := by
  intro conflict member id valueId moment
  have turn := Scene.turn_of_perform? (numbered_of_run run) performed
  obtain ⟨running, standing, stands, on, _, _, _, candidates⟩ := turn.fits _ told
  have alive := not_ended_of_run run running
  rw [candidates, Standing.mem_verdict_iff on] at member
  obtain ⟨_, _, stored, observed, different⟩ := member
  have seen : standing.seen thread = (past.sight? thread value).getD ∅ := by
    rw [Standing.seen, snapshot?_of_standing? stands, snapshot?_of_run run]
  rw [seen] at observed
  have stale : (sighting.report id valueId moment conflict).isStale = true ↔
      past.Aware thread value conflict.key := by
    show conflict.observed.isSome = true ↔ _
    rw [← observed]
    exact History.isSome_get?_iff_aware unedited alive conflict.key
  rw [stale]
  constructor
  · intro foreign
    exact ⟨fun aware => aware.entered foreign, fun both => .inr both.2⟩
  · intro mine
    refine ⟨?_, or_congr_left (and_iff_right mine)⟩
    have lost : past.Lost thread value conflict.key.kind := by
      apply Classical.byContradiction
      intro unlost
      have known := (History.owns_of_forgetful unedited.forgetful alive value
        conflict.key.kind).known unlost
      have same : (⟨thread, conflict.key.kind⟩ : AccessKey) = conflict.key :=
        congrArg (AccessKey.mk · conflict.key.kind) mine.symm
      rw [same, ← (counted_of_run run stands).get?_clock, stored, observed] at known
      exact different known
    exact lost.stalled unedited

/-- Of two writers that stand against a read, the thread had seen the one and not the other when it
entered a section: the report is stale if it names the one, and not if it names the other. -/
theorem stale_as_writer_named :
    ∃ (past : History) (scene next : Scene Nat) (sighting : Sighting),
      Run past scene ∧ past.Unedited ∧
        scene.perform? (.access ⟨1⟩ ⟨0⟩ .read) =
          some (next, [.accessed ⟨1⟩ ⟨0⟩ .read (some sighting)]) ∧
        ∀ (id valueId : Uuid) (moment : Timestamp),
          ((sighting.report id valueId moment ⟨⟨⟨0⟩, .write⟩, 2, some 1⟩).isStale = true ∧
            past.Entered ⟨1⟩ ⟨0⟩ ∧
            ⟨⟨0⟩, .write⟩ ∈ (past.upToEntry ⟨1⟩ ⟨0⟩).attempts ⟨0⟩) ∧
          (sighting.report id valueId moment ⟨⟨⟨2⟩, .write⟩, 1, none⟩).isStale = false ∧
            ⟨⟨2⟩, .write⟩ ∉ (past.upToEntry ⟨1⟩ ⟨0⟩).attempts ⟨0⟩ := by
  obtain ⟨past, scene, next, sighting, run, undisturbed, performed, candidates, _⟩ :=
    exists_read_after_two_writers
  have unedited := History.Unedited.undisturbed undisturbed
  have verdicts := isStale_iff_seen_at_entry run unedited performed (List.mem_singleton_self _)
  rw [candidates] at verdicts
  refine ⟨past, scene, next, sighting, run, unedited, performed, fun id valueId moment => ?_⟩
  have first := (verdicts _ (.head _) id valueId moment).1 (by decide)
  have second := (verdicts _ (.tail _ (.head _)) id valueId moment).1 (by decide)
  have entered := first.1 rfl
  exact ⟨⟨rfl, entered⟩, rfl, fun attempted => Bool.false_ne_true (second.2 ⟨entered.1, attempted⟩)⟩

/-- A thread that entered a section while nobody had accessed the value is flagged for the first
write after it, and its report is not stale. -/
theorem fresh_report_after_entry :
    ∃ (past : History) (scene next : Scene Nat) (sighting : Sighting),
      Run past scene ∧ past.Undisturbed ∧ past.Entered ⟨1⟩ ⟨0⟩ ∧
        scene.perform? (.access ⟨1⟩ ⟨0⟩ .read) =
          some (next, [.accessed ⟨1⟩ ⟨0⟩ .read (some sighting)]) ∧
        sighting.candidates ≠ [] ∧
        ∀ conflict ∈ sighting.candidates, ∀ (id valueId : Uuid) (moment : Timestamp),
          (sighting.report id valueId moment conflict).isStale = false := by
  refine ⟨_, _, _, _, Path.refl.playOut? [.step (.spawn none false), .step (.spawn none false),
    .step (.newDetector none), .step (.newValue 7 (some ⟨0⟩) none), .enter ⟨1⟩ ⟨0⟩, .leave ⟨1⟩,
    .access ⟨0⟩ ⟨0⟩ .write, .finish ⟨0⟩ Nat.succ] rfl, by decide,
    ⟨∅, .tail _ (.head _)⟩, rfl, List.cons_ne_nil _ _, fun conflict member id valueId moment => ?_⟩
  cases List.mem_singleton.1 member
  rfl

/-- A thread that never entered a section, and had a write cut short, is flagged against itself with
a stale report. -/
theorem stale_report_without_entry :
    ∃ (past : History) (scene next : Scene Nat) (sighting : Sighting),
      Run past scene ∧ past.Unedited ∧ ¬ past.Entered ⟨0⟩ ⟨0⟩ ∧
        scene.perform? (.access ⟨0⟩ ⟨0⟩ .read) =
          some (next, [.accessed ⟨0⟩ ⟨0⟩ .read (some sighting)]) ∧
        sighting.candidates ≠ [] ∧
        ∀ conflict ∈ sighting.candidates, ∀ (id valueId : Uuid) (moment : Timestamp),
          (sighting.report id valueId moment conflict).isStale = true := by
  refine ⟨[.stalled ⟨0⟩ ⟨0⟩ .write, .accessed ⟨0⟩ ⟨0⟩ .write none, .made ⟨0⟩ true (some ⟨0⟩)], _, _,
    _, Path.refl.playOut? [.step (.spawn none false), .step (.newDetector none),
    .step (.newValue 7 (some ⟨0⟩) none), .access ⟨0⟩ ⟨0⟩ .write, .finish ⟨0⟩ Nat.succ,
    .openContext ⟨0⟩, .access ⟨0⟩ ⟨0⟩ .write, .closeContext ⟨0⟩] rfl,
    fun _ _ member => ?_, ?_, rfl, List.cons_ne_nil _ _,
    fun conflict member id valueId moment => ?_⟩
  · simp at member
  · rintro ⟨_, member⟩
    simp at member
  · cases List.mem_singleton.1 member
    rfl

end RaceSentry
