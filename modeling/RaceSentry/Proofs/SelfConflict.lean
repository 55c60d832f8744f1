import RaceSentry.Proofs.Recall

/-!
# Threads that are flagged against themselves

Nothing keeps an access from being judged by counters of its own thread: that they do not stand
against it rests on the snapshot, in which the thread finds both of them as they are. A thread that
drops its snapshot of a value loses them, and so does one that has an access cut short. From then
on its next access of the other kind is flagged against itself, until it makes another access of
the kind that was lost, or enters a section.
Main statement: `self_conflict_iff_lost`.
-/

namespace RaceSentry

open World

variable {α : Type} {past : History} {scene next : Scene α} {value : ValueId} {thread : ThreadId}
  {kind : AccessKind}

/-- A move that does nothing to contexts by hand but drop the snapshot of a value, or put a fresh
context in place of one. -/
def Move.Forgets : Move α → Prop
  | .edit _ change => ∃ value, change = fun context => context.forget value
  | .attach _ context => context.snapshots = ∅
  | _ => True

/-- The law of runs in which contexts are only dropped from or made afresh by hand. -/
def Forgetting (_ : Scene α) (move : Move α) (_ : List Happening) : Prop := move.Forgets

namespace Happening

/-- A thread gets to know its number of accesses of a kind: one of them is recorded, or it enters a
section. -/
def restores (thread : ThreadId) (value : ValueId) (kind : AccessKind) : Happening → Bool
  | .accessed other target kind' _ => decide (other = thread ∧ target = value ∧ kind' = kind)
  | .entered other target _ => decide (other = thread ∧ target = value)
  | _ => false

/-- A thread loses its number of accesses of a kind: it is without a snapshot after an edit, or one
of the accesses is cut short. -/
def loses (thread : ThreadId) (value : ValueId) (kind : AccessKind) : Happening → Bool
  | .edited other context => decide (other = thread ∧ context.snapshot? value = none)
  | .stalled other target kind' => decide (other = thread ∧ target = value ∧ kind' = kind)
  | _ => false

end Happening

namespace History

/-- A thread has accessed a value, and has lost the number of its accesses of a kind since it last
got to know it. -/
def Lost (past : History) (thread : ThreadId) (value : ValueId) (kind : AccessKind) : Prop :=
  ⟨thread, kind⟩ ∈ past.attempts value ∧
    ∃ happening ∈ past.takeWhile fun happening => !happening.restores thread value kind,
      happening.loses thread value kind = true

/-- Edits by hand leave snapshots as they are or take them away. -/
def Forgetful : History → Prop
  | [] => True
  | happening :: earlier =>
    (∀ thread context, happening = .edited thread context → ∀ value,
      context.snapshot? value = none ∨ context.snapshot? value = sight? thread value earlier) ∧
      Forgetful earlier

variable {happening : Happening}

/-- What restores a number leaves nothing lost. -/
theorem not_lost_of_restores (restores : happening.restores thread value kind = true) :
    ¬ History.Lost (happening :: past) thread value kind := by
  rintro ⟨_, lost, member, _⟩
  rw [List.takeWhile_cons_of_neg (by simp [restores])] at member
  cases member

/-- What neither restores nor loses a number, and is no access of the kind, changes nothing. -/
theorem lost_cons_iff (keeps : happening.restores thread value kind = false)
    (spares : happening.loses thread value kind = false)
    (other : happening.attempt? value ≠ some ⟨thread, kind⟩) :
    History.Lost (happening :: past) thread value kind ↔ past.Lost thread value kind := by
  have same : ⟨thread, kind⟩ ∈ History.attempts (happening :: past) value ↔
      ⟨thread, kind⟩ ∈ past.attempts value := by
    rw [← not_iff_not, ← number?_eq_none_iff, ← number?_eq_none_iff, number?_cons_of_ne other]
  rw [Lost, same, List.takeWhile_cons_of_pos (by simp [keeps]), List.exists_mem_cons_iff,
    or_iff_right (by simp [spares]), Lost]

/-- What loses a number of accesses has it lost, if there are any. -/
theorem lost_cons_of_loses (loses : happening.loses thread value kind = true)
    (attempted : ⟨thread, kind⟩ ∈ History.attempts (happening :: past) value) :
    History.Lost (happening :: past) thread value kind := by
  refine ⟨attempted, happening, ?_, loses⟩
  have keeps : happening.restores thread value kind = false := by
    cases happening with
    | edited _ _ => rfl
    | stalled _ _ _ => rfl
    | _ => cases loses
  rw [List.takeWhile_cons_of_pos (by simp [keeps])]
  exact List.mem_cons_self

/-- How a thread's own number of accesses of a kind stands in its snapshot of a value: it is as it
is, unless it was lost, and then the snapshot has none or a smaller one. -/
structure Owns (past : History) (thread : ThreadId) (value : ValueId) (kind : AccessKind) :
    Prop where
  /-- A number that was not lost is as it is. -/
  known : ¬ past.Lost thread value kind →
    ((past.sight? thread value).getD ∅).get? ⟨thread, kind⟩ = past.number? value ⟨thread, kind⟩
  /-- A number that was lost is behind. -/
  behind : past.Lost thread value kind → ∀ counter,
    ((past.sight? thread value).getD ∅).get? ⟨thread, kind⟩ = some counter →
      counter < (past.number? value ⟨thread, kind⟩).getD 0

namespace Owns

/-- What concerns neither a number, nor what the thread has seen of it, nor whether it was lost. -/
theorem aside (owns : past.Owns thread value kind)
    (keeps : happening.restores thread value kind = false)
    (spares : happening.loses thread value kind = false)
    (other : happening.attempt? value ≠ some ⟨thread, kind⟩)
    (same : ((History.sight? thread value (happening :: past)).getD ∅).get? ⟨thread, kind⟩ =
      ((past.sight? thread value).getD ∅).get? ⟨thread, kind⟩) :
    History.Owns (happening :: past) thread value kind := by
  have lost : History.Lost (happening :: past) thread value kind ↔ past.Lost thread value kind :=
    lost_cons_iff keeps spares other
  have number : History.number? (happening :: past) value ⟨thread, kind⟩ =
      past.number? value ⟨thread, kind⟩ := number?_cons_of_ne other
  refine ⟨fun unlost => ?_, fun gone => ?_⟩
  · rw [same, number]
    exact owns.known fun gone => unlost (lost.2 gone)
  · rw [same, number]
    exact owns.behind (lost.1 gone)

/-- A number that is restored is as it is. -/
theorem restored (restores : happening.restores thread value kind = true)
    (seen : ((History.sight? thread value (happening :: past)).getD ∅).get? ⟨thread, kind⟩ =
      History.number? (happening :: past) value ⟨thread, kind⟩) :
    History.Owns (happening :: past) thread value kind :=
  ⟨fun _ => seen, fun lost => absurd lost (not_lost_of_restores restores)⟩

/-- An access of the thread shows it the number of its kind, and leaves the other one. -/
theorem accessed (owns : past.Owns thread value kind) (kind' : AccessKind)
    (sighting : Option Sighting) :
    History.Owns (.accessed thread value kind' sighting :: past) thread value kind := by
  have attempted : (Happening.accessed thread value kind' sighting).attempt? value =
      some ⟨thread, kind'⟩ := if_pos rfl
  have seen : History.sight? thread value (.accessed thread value kind' sighting :: past) =
      some (((past.sight? thread value).getD ∅).insert ⟨thread, kind'⟩
        ((past.clock value).next ⟨thread, kind'⟩)) := if_pos ⟨rfl, rfl⟩
  by_cases same : kind' = kind
  · subst same
    refine restored (decide_eq_true ⟨rfl, rfl, rfl⟩) ?_
    rw [seen, Option.getD_some, SortedMap.get?_insert_self, number?_cons_of_eq attempted,
      ClockTable.next, get?_clock]
  · have different : (⟨thread, kind⟩ : AccessKey) ≠ ⟨thread, kind'⟩ := fun equal =>
      same (congrArg AccessKey.kind equal).symm
    refine owns.aside (decide_eq_false fun all => same all.2.2) rfl (fun equal => ?_) ?_
    · exact different (Option.some.inj (attempted.symm.trans equal)).symm
    · rw [seen, Option.getD_some, SortedMap.get?_insert_of_ne _ _ different]

/-- An access of the kind that is cut short is counted, and not seen. -/
theorem stalled (owns : past.Owns thread value kind) :
    History.Owns (.stalled thread value kind :: past) thread value kind := by
  have attempted : (Happening.stalled thread value kind).attempt? value =
      some ⟨thread, kind⟩ := if_pos rfl
  have lost : History.Lost (.stalled thread value kind :: past) thread value kind :=
    lost_cons_of_loses (decide_eq_true ⟨rfl, rfl, rfl⟩)
      (attempts_cons_of_eq attempted ▸ List.mem_cons_self)
  refine ⟨fun unlost => absurd lost unlost, fun _ counter seen => ?_⟩
  rw [number?_cons_of_eq attempted, Option.getD_some]
  change ((past.sight? thread value).getD ∅).get? _ = some counter at seen
  by_cases before : past.Lost thread value kind
  · exact Nat.lt_succ_of_lt (owns.behind before counter seen)
  · rw [← owns.known before, seen, Option.getD_some]
    exact Nat.lt_succ_self counter

/-- A thread without a snapshot has lost the number of its accesses, if there are any. -/
theorem dropped {context : ThreadContext} (gone : context.snapshot? value = none) :
    History.Owns (.edited thread context :: past) thread value kind := by
  have unseen : History.sight? thread value (.edited thread context :: past) = none :=
    (if_pos rfl).trans gone
  by_cases attempted : ⟨thread, kind⟩ ∈ past.attempts value
  · have lost : History.Lost (.edited thread context :: past) thread value kind :=
      lost_cons_of_loses (decide_eq_true ⟨rfl, gone⟩) attempted
    refine ⟨fun unlost => absurd lost unlost, fun _ counter seen => ?_⟩
    rw [unseen] at seen
    cases seen
  · refine ⟨fun _ => ?_, fun lost => absurd lost.1 attempted⟩
    rw [unseen]
    exact (number?_eq_none_iff.2 attempted).symm

end Owns

/-- While contexts are only dropped from or made afresh by hand, every thread that did not end has
its own numbers as they are, but for those that it lost. -/
theorem owns_of_forgetful (forgetful : past.Forgetful) (alive : .ended thread ∉ past)
    (value : ValueId) (kind : AccessKind) : past.Owns thread value kind := by
  induction past with
  | nil => exact ⟨fun _ => rfl, fun lost => absurd lost.1 List.not_mem_nil⟩
  | cons happening past ih =>
    have owns := ih forgetful.2 fun ended => alive (List.mem_cons_of_mem _ ended)
    cases happening with
    | made other detecting sink => exact owns.aside rfl rfl (Option.some_ne_none _).symm rfl
    | removed other => exact owns.aside rfl rfl (Option.some_ne_none _).symm rfl
    | accessed other target kind' sighting =>
      by_cases mine : other = thread ∧ target = value
      · obtain ⟨rfl, rfl⟩ := mine
        exact owns.accessed kind' sighting
      · refine owns.aside (decide_eq_false fun all => mine ⟨all.1, all.2.1⟩) rfl ?_ ?_
        · intro same
          cases Happening.attempt?_eq_some_iff.1 same
          exact mine ⟨rfl, rfl⟩
        · rw [sight?, Happening.reveal, if_neg fun own => mine ⟨own.1.symm, own.2.symm⟩]
    | stalled other target kind' =>
      by_cases mine : other = thread ∧ target = value ∧ kind' = kind
      · obtain ⟨rfl, rfl, rfl⟩ := mine
        exact owns.stalled
      · refine owns.aside rfl (decide_eq_false mine) (fun same => ?_) rfl
        cases Happening.attempt?_eq_some_iff.1 same
        exact mine ⟨rfl, rfl, rfl⟩
    | entered other target clock =>
      by_cases mine : other = thread ∧ target = value
      · obtain ⟨rfl, rfl⟩ := mine
        have seen : History.sight? other target (.entered other target clock :: past) =
            some (History.clock past target) := if_pos ⟨rfl, rfl⟩
        refine Owns.restored (decide_eq_true ⟨rfl, rfl⟩) ?_
        have quiet : (Happening.entered other target clock).attempt? target ≠
            some ⟨other, kind⟩ := (Option.some_ne_none _).symm
        rw [seen, Option.getD_some, get?_clock, number?_cons_of_ne quiet]
      · refine owns.aside (decide_eq_false mine) rfl (Option.some_ne_none _).symm ?_
        rw [sight?, Happening.reveal, if_neg fun own => mine ⟨own.1.symm, own.2.symm⟩]
    | edited other context =>
      by_cases mine : other = thread
      · subst mine
        by_cases gone : context.snapshot? value = none
        · exact .dropped gone
        · have kept := (forgetful.1 other context rfl value).resolve_left gone
          refine owns.aside rfl (decide_eq_false fun both => gone both.2)
            (Option.some_ne_none _).symm ?_
          rw [sight?, Happening.reveal, if_pos rfl, kept]
      · refine owns.aside rfl (decide_eq_false fun both => mine both.1)
          (Option.some_ne_none _).symm ?_
        rw [sight?, Happening.reveal, if_neg fun own => mine own.symm]
    | ended other =>
      have apart : thread ≠ other := fun same => alive (same ▸ List.mem_cons_self)
      refine owns.aside rfl rfl (Option.some_ne_none _).symm ?_
      rw [sight?, Happening.reveal, if_neg apart]

end History

/-- A context that is dropped from or made afresh has of each value what it had, or nothing. -/
theorem Move.Forgets.snapshot? {move : Move α} {happenings : List Happening}
    (forgets : move.Forgets) (performed : scene.perform? move = some (next, happenings))
    {context : ThreadContext} (told : .edited thread context ∈ happenings) (value : ValueId) :
    context.snapshot? value = none ∨
      context.snapshot? value = scene.world.snapshot? thread value := by
  obtain ⟨-, outcome⟩ := Scene.perform?_eq_some_iff.1 performed
  cases outcome with
  | @edit thread bound change held busy known =>
    cases List.mem_singleton.1 told
    obtain ⟨target, rfl⟩ := forgets
    rw [ThreadContext.snapshot?_forget, World.snapshot?, held]
    split
    · exact .inl rfl
    · exact .inr rfl
  | attach known idle =>
    split at told
    · cases told
    · cases List.mem_singleton.1 told
      exact .inl (by rw [ThreadContext.snapshot?, show context.snapshots = ∅ from forgets]; rfl)
  | access asked =>
    split at told
    · cases List.mem_singleton.1 told
    · cases told
  | stall asked => cases List.mem_singleton.1 told
  | enter asked => cases List.mem_singleton.1 told
  | hold asked => cases List.mem_singleton.1 told
  | step still outside =>
    obtain ⟨_, _, same⟩ | ⟨_, _, _, same⟩ | ⟨_, same⟩ := Scene.eq_of_mem_happenings told
    · cases same
    · cases same
    · cases same
  | _ => cases told

/-- What happens while contexts are only dropped from or made afresh by hand is forgetful. -/
theorem forgetful_of_lawful (lawful : Lawful Forgetting .empty past scene) : past.Forgetful := by
  induction lawful with
  | refl => trivial
  | @tail past happenings scene next move before performed obeys ih =>
    have turn := Scene.turn_of_perform? (numbered_of_run before.path) performed
    rcases turn.eq_nil_or_singleton with rfl | ⟨happening, rfl⟩
    · exact ih
    refine ⟨?_, ih⟩
    rintro thread context rfl value
    change _ ∨ _ = past.sight? thread value
    rw [← snapshot?_of_run before.path]
    exact Move.Forgets.snapshot? obeys performed (List.mem_singleton_self _) value

/-- A thread's own counters stand against its access exactly if it lost the number of its accesses
of the other kind. -/
theorem exists_own_conflict_iff (run : Run past scene) (forgetful : past.Forgetful)
    (alive : .ended thread ∉ past) {standing : Standing}
    (stands : scene.world.standing? value = some standing) (on : standing.detecting = true) :
    (∃ conflict ∈ standing.verdict ⟨thread, kind⟩, conflict.key.thread = thread) ↔
      ∃ kind', kind' ≠ kind ∧ past.Lost thread value kind' := by
  have counted := counted_of_run run stands
  have seen : standing.seen thread = (past.sight? thread value).getD ∅ := by
    rw [Standing.seen, snapshot?_of_standing? stands, snapshot?_of_run run]
  constructor
  · rintro ⟨⟨⟨_, kind'⟩, counter, observed⟩, member, rfl⟩
    obtain ⟨own, _, stored, shown, different⟩ := (Standing.mem_verdict_iff on).1 member
    refine ⟨kind', fun same => own (by rw [same]), Classical.byContradiction fun unlost => ?_⟩
    have known := (History.owns_of_forgetful forgetful alive value kind').known unlost
    rw [← seen, ← counted.get?_clock] at known
    exact different (shown.symm.trans (known.trans stored))
  · rintro ⟨kind', different, lost⟩
    have behind := (History.owns_of_forgetful forgetful alive value kind').behind lost
    obtain ⟨counter, number⟩ : ∃ counter, past.number? value ⟨thread, kind'⟩ = some counter :=
      Option.ne_none_iff_exists'.1 fun absent => History.number?_eq_none_iff.1 absent lost.1
    rw [number, Option.getD_some, ← seen] at behind
    refine ⟨⟨⟨thread, kind'⟩, counter, (standing.seen thread).get? ⟨thread, kind'⟩⟩,
      (Standing.mem_verdict_iff on).2 ⟨fun same => ?_, ?_, ?_, rfl, fun same => ?_⟩, rfl⟩
    · exact different (congrArg AccessKey.kind same)
    · cases kind with
      | read =>
        cases kind' with
        | read => exact absurd rfl different
        | write => rfl
      | write => rfl
    · exact (counted.get?_clock _).trans number
    · exact Nat.lt_irrefl counter (behind counter same)

/-- A flagged access is flagged for what stands against it. -/
theorem exists_candidate_iff {move : Move α} {happenings : List Happening} (run : Run past scene)
    (performed : scene.perform? move = some (next, happenings)) {sighting : Option Sighting}
    (told : .accessed thread value kind sighting ∈ happenings) :
    ∃ standing, scene.world.standing? value = some standing ∧ standing.detecting = true ∧
      .ended thread ∉ past ∧ (sighting.isSome ↔ standing.verdict ⟨thread, kind⟩ ≠ []) ∧
      ∀ holds : Conflict → Prop,
        (∃ flagged, sighting = some flagged ∧ ∃ conflict ∈ flagged.candidates, holds conflict) ↔
          ∃ conflict ∈ standing.verdict ⟨thread, kind⟩, holds conflict := by
  have turn := Scene.turn_of_perform? (numbered_of_run run) performed
  obtain ⟨running, standing, stands, on, tells⟩ := turn.fits _ told
  refine ⟨standing, stands, on, not_ended_of_run run running, ?_, fun holds => ?_⟩
  · cases sighting with
    | none => exact iff_of_false Bool.false_ne_true (not_not.2 tells)
    | some flagged => exact iff_of_true rfl tells.1
  · cases sighting with
    | none =>
      rw [show standing.verdict ⟨thread, kind⟩ = [] from tells]
      exact iff_of_false nofun nofun
    | some flagged =>
      rw [← tells.2.2.2]
      constructor
      · rintro ⟨other, same, found⟩
        cases same
        exact found
      · intro found
        exact ⟨flagged, rfl, found⟩

namespace History.Forgetful

/-- Edits that only forget up to now have only forgotten up to then. -/
theorem of_append {newer : History} (forgetful : History.Forgetful (newer ++ past)) :
    past.Forgetful := by
  induction newer with
  | nil => exact forgetful
  | cons happening newer ih => exact ih forgetful.2

/-- An access is flagged against its own thread exactly if the thread lost the number of its
accesses of the other kind. -/
theorem self_conflict_iff {move : Move α} {happenings : List Happening}
    (forgetful : past.Forgetful) (run : Run past scene)
    (performed : scene.perform? move = some (next, happenings)) {sighting : Option Sighting}
    (told : .accessed thread value kind sighting ∈ happenings) :
    (∃ flagged, sighting = some flagged ∧
        ∃ conflict ∈ flagged.candidates, conflict.key.thread = thread) ↔
      ∃ kind', kind' ≠ kind ∧ past.Lost thread value kind' := by
  obtain ⟨standing, stands, on, alive, -, candidates⟩ := exists_candidate_iff run performed told
  exact (candidates _).trans (exists_own_conflict_iff run forgetful alive stands on)

/-- An access to a value that no other thread accesses is flagged exactly if its thread lost the
number of its accesses of the other kind. -/
theorem isSome_sighting_iff {move : Move α} {happenings : List Happening}
    (forgetful : past.Forgetful) (run : Run past scene)
    (performed : scene.perform? move = some (next, happenings)) {sighting : Option Sighting}
    (told : .accessed thread value kind sighting ∈ happenings)
    (alone : ∀ key ∈ past.attempts value, key.thread = thread) :
    sighting.isSome ↔ ∃ kind', kind' ≠ kind ∧ past.Lost thread value kind' := by
  obtain ⟨standing, stands, on, alive, flagged, -⟩ := exists_candidate_iff run performed told
  rw [flagged, ← exists_own_conflict_iff run forgetful alive stands on]
  constructor
  · intro something
    obtain ⟨conflict, member⟩ := List.exists_mem_of_ne_nil _ something
    obtain ⟨_, _, stored, _, _⟩ := (Standing.mem_verdict_iff on).1 member
    rw [(counted_of_run run stands).get?_clock] at stored
    refine ⟨conflict, member, alone _ (Decidable.not_not.1 fun never => ?_)⟩
    cases (History.number?_eq_none_iff.2 never).symm.trans stored
  · rintro ⟨conflict, member, _⟩ nothing
    rw [nothing] at member
    cases member

end History.Forgetful

/-- While contexts are only dropped from or made afresh by hand, an access is flagged against its
own thread exactly if the thread lost the number of its accesses of the other kind, by dropping its
snapshot or by having an access cut short. So a value that only one thread accesses has no racing
threads exactly if the thread made no access in such a state. -/
theorem self_conflict_iff_lost (lawful : Lawful Forgetting .empty past scene) :
    (∀ (move : Move α) (next : Scene α) (happenings : List Happening) (thread : ThreadId)
        (value : ValueId) (kind : AccessKind) (sighting : Option Sighting),
      scene.perform? move = some (next, happenings) →
      .accessed thread value kind sighting ∈ happenings →
        ((∃ flagged, sighting = some flagged ∧
            ∃ conflict ∈ flagged.candidates, conflict.key.thread = thread) ↔
          ∃ kind', kind' ≠ kind ∧ past.Lost thread value kind')) ∧
      ∀ (value : ValueId) (cell : Cell α) (thread : ThreadId),
        scene.world.cells.get? value = some cell →
        (∀ key ∈ past.attempts value, key.thread = thread) →
          (cell.raceCount = 0 ↔ ∀ (newer older : History) (kind : AccessKind)
            (sighting : Option Sighting),
              past = newer ++ .accessed thread value kind sighting :: older →
                ∀ kind', kind' ≠ kind → ¬ older.Lost thread value kind') := by
  have forgetful := forgetful_of_lawful lawful
  refine ⟨fun move next happenings thread value kind sighting performed told =>
    forgetful.self_conflict_iff lawful.path performed told,
    fun value cell thread found alone => ?_⟩
  -- Each access of the past is judged by what was before it.
  have judged : ∀ (newer older : History) (kind : AccessKind) (sighting : Option Sighting),
      past = newer ++ .accessed thread value kind sighting :: older →
        (sighting.isSome ↔ ∃ kind', kind' ≠ kind ∧ older.Lost thread value kind') := by
    rintro newer older kind sighting rfl
    obtain ⟨before, after, run, ⟨move, performed⟩, -⟩ := exists_scene_of_run lawful.path
    refine (forgetful.of_append.2).isSome_sighting_iff run performed
      (List.mem_singleton_self _) fun key member => alone key ?_
    rw [History.attempts_append, List.mem_append]
    exact .inr (List.Sublist.mem member ((List.sublist_cons_self _ _).filterMap _))
  rw [((booked_of_run lawful.path).raceCount_le_flags found).2, History.flags,
    List.length_eq_zero_iff]
  constructor
  · rintro none newer older kind sighting whole kind' different lost
    have flagged := (judged newer older kind sighting whole).2 ⟨kind', different, lost⟩
    obtain ⟨sighting, rfl⟩ := Option.isSome_iff_exists.1 flagged
    have member : thread ∈ past.flagged value := History.mem_flagged_iff.2 ⟨kind, sighting, by
      rw [whole]
      exact List.mem_append_right _ List.mem_cons_self⟩
    rw [none] at member
    cases member
  · intro never
    refine List.eq_nil_iff_forall_not_mem.2 fun other member => ?_
    obtain ⟨kind, sighting, told⟩ := History.mem_flagged_iff.1 member
    obtain rfl : other = thread := alone ⟨other, kind⟩ (History.mem_attempts_iff.2 ⟨_, told, rfl⟩)
    obtain ⟨newer, older, whole⟩ := List.append_of_mem told
    obtain ⟨kind', different, lost⟩ := (judged newer older kind _ whole).1 rfl
    exact never newer older kind _ whole kind' different lost

/-- A thread that reads, drops its snapshot and writes is flagged against its own read, though
nobody else accesses the value. -/
theorem own_read_conflicts_after_drop :
    ∃ (past : History) (scene next : Scene Nat) (cell : Cell Nat) (sighting : Sighting),
      Lawful Forgetting .empty past scene ∧ (∀ key ∈ past.attempts ⟨0⟩, key.thread = ⟨0⟩) ∧
        scene.perform? (.access ⟨0⟩ ⟨0⟩ .write) =
          some (next, [.accessed ⟨0⟩ ⟨0⟩ .write (some sighting)]) ∧
        sighting.candidates = [⟨⟨⟨0⟩, .read⟩, 1, none⟩] ∧
        next.world.cells.get? ⟨0⟩ = some cell ∧ cell.racing.keys = [⟨0⟩] := by
  refine ⟨_, _, _, _, _, Lawful.refl.playOut? [.step (.spawn none false),
    .step (.newValue 7 none none), .access ⟨0⟩ ⟨0⟩ .read, .finish ⟨0⟩ id, .openContext ⟨0⟩,
    .edit ⟨0⟩ (·.forget ⟨0⟩), .closeContext ⟨0⟩] ?_ rfl, by decide, rfl, rfl, rfl, rfl⟩
  simp only [List.forall_mem_cons]
  exact ⟨fun _ _ => trivial, fun _ _ => trivial, fun _ _ => trivial, fun _ _ => trivial,
    fun _ _ => trivial, fun _ _ => ⟨⟨0⟩, rfl⟩, fun _ _ => trivial, nofun⟩

/-- A thread that reads again after it dropped its snapshot has lost nothing, and its write is not
flagged against itself. -/
theorem no_self_conflict_after_restored_read :
    ∃ (past : History) (scene next : Scene Nat) (sighting : Option Sighting),
      Lawful Forgetting .empty past scene ∧
        (∃ context newer older, past = newer ++ .edited ⟨0⟩ context :: older ∧
          context.snapshot? ⟨0⟩ = none) ∧
        scene.perform? (.access ⟨0⟩ ⟨0⟩ .write) =
          some (next, [.accessed ⟨0⟩ ⟨0⟩ .write sighting]) ∧
        ¬ ∃ flagged, sighting = some flagged ∧
          ∃ conflict ∈ flagged.candidates, conflict.key.thread = ⟨0⟩ := by
  obtain ⟨older, scene, next, sighting, lawful, performed⟩ :
      ∃ (older : History) (scene next : Scene Nat) (sighting : Option Sighting),
        Lawful Forgetting .empty (.accessed ⟨0⟩ ⟨0⟩ .read none ::
            .edited ⟨0⟩ ⟨⟨0⟩, none, ∅⟩ :: older) scene ∧
          scene.perform? (.access ⟨0⟩ ⟨0⟩ .write) =
            some (next, [.accessed ⟨0⟩ ⟨0⟩ .write sighting]) := by
    refine ⟨_, _, _, _, Lawful.refl.playOut? [.step (.spawn none false),
      .step (.newValue 7 none none), .access ⟨0⟩ ⟨0⟩ .read, .finish ⟨0⟩ id, .openContext ⟨0⟩,
      .edit ⟨0⟩ (·.forget ⟨0⟩), .closeContext ⟨0⟩, .access ⟨0⟩ ⟨0⟩ .read, .finish ⟨0⟩ id] ?_ rfl,
      rfl⟩
    simp only [List.forall_mem_cons]
    exact ⟨fun _ _ => trivial, fun _ _ => trivial, fun _ _ => trivial, fun _ _ => trivial,
      fun _ _ => trivial, fun _ _ => ⟨⟨0⟩, rfl⟩, fun _ _ => trivial, fun _ _ => trivial,
      fun _ _ => trivial, nofun⟩
  refine ⟨_, scene, next, sighting, lawful, ⟨_, [_], older, rfl, rfl⟩, performed, ?_⟩
  rw [(self_conflict_iff_lost lawful).1 _ _ _ _ _ _ _ performed (List.mem_singleton_self _)]
  rintro ⟨kind', different, lost⟩
  cases kind' with
  | read => exact History.not_lost_of_restores (by decide) lost
  | write => exact different rfl

end RaceSentry
