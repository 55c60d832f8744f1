import RaceSentry.Proofs.Recall

/-!
# Section entries repair snapshots

A thread may put anything into its snapshot of a value by hand, or put a context of somebody else in
place of its own. A section entry puts all of it right: from then on, and until the thread edits
the snapshot again, its accesses to the value are judged by what others did since, and nothing that
is told of the value depends on what was edited before.
Main statement: `section_entry_repairs_snapshot`.
-/

namespace RaceSentry

open World

variable {α β : Type} {past since : History} {before entry later : Scene α} {value : ValueId}
  {thread : ThreadId}

/-- A move after which a thread's snapshot of a value is what it was, or what an access or a section
entry makes of it: the thread does not edit the snapshot by hand, puts no other context in place of
its own, and has no access to the value cut short. -/
def Unedited (thread : ThreadId) (value : ValueId) (scene : Scene α) (_ : Move α)
    (happenings : List Happening) : Prop :=
  ∀ happening ∈ happenings, ¬ happening.Misleads thread value (scene.world.snapshot? thread value)

/-- While nobody disturbs the contexts, nobody edits a snapshot. -/
theorem lawful_of_undisturbed (path : Path entry since later) (undisturbed : since.Undisturbed) :
    Lawful (Unedited thread value) entry since later := by
  induction path with
  | refl => exact .refl
  | @tail since happenings scene next move path performed ih =>
    have calm : since.Undisturbed := fun happening member =>
      undisturbed happening (List.mem_append_right _ member)
    refine (ih calm).tail performed fun happening member misleads => ?_
    have quiet := undisturbed happening (List.mem_append_left _ member)
    cases happening with
    | edited other context => cases quiet
    | stalled other target kind => cases quiet
    | _ => exact misleads

/-- A thread that enters a section on a value knows it, whatever it had in its snapshot. -/
theorem knows_of_entered (run : Run past before) {move : Move α} {clock : ClockTable}
    (performed : before.perform? move = some (entry, [.entered thread value clock])) :
    entry.world.Knows (.entered thread value clock :: past) thread value := by
  intro after stands
  have numbered := numbered_of_run run
  rw [(Scene.turn_of_perform? numbered performed).standing? numbered] at stands
  change (if value = value then _ else _) = some after at stands
  rw [if_pos rfl] at stands
  obtain ⟨standing, stood, rfl⟩ := Option.map_eq_some_iff.1 stands
  exact .of_entry (counted_of_run run stood) clock

/-- A thread that knows a value it has entered a section on goes on to know it. -/
theorem knows_of_lawful (run : Run past entry) (knows : entry.world.Knows past thread value)
    (entered : past.Entered thread value)
    (lawful : Lawful (Unedited thread value) entry since later) (alive : .ended thread ∉ since) :
    later.world.Knows (since ++ past) thread value := by
  induction lawful with
  | refl => exact knows
  | @tail since happenings scene next move earlier performed obeys ih =>
    have reached := run.trans earlier.path
    obtain ⟨clock, member⟩ := entered
    have old : value.index < scene.world.made :=
      (dated_of_run reached).values _ (List.mem_append_right _ member) value rfl
    rw [List.append_assoc]
    exact (ih fun ended => alive (List.mem_append_right _ ended)).perform? reached old performed
      obeys fun ended => alive (List.mem_append_left _ ended)

namespace History

/-- What happened after the last of some section entries is the same, whatever was before the first
of them. -/
theorem sinceEntry_append {clock : ClockTable} (since past : History) :
    History.sinceEntry (since ++ .entered thread value clock :: past) thread value =
      since.sinceEntry thread value := by
  have entry := Happening.isEntry_entered thread value clock
  induction since with
  | nil => exact List.takeWhile_cons_of_neg (by simp [entry])
  | cons happening since ih =>
    change List.takeWhile _ (happening :: (since ++ _)) = List.takeWhile _ (happening :: since)
    rw [List.takeWhile_cons, List.takeWhile_cons]
    split
    · exact congrArg _ ih
    · rfl

end History

/-- What a path adds to the accounts of a value: its flagged threads race, and the ledger counts
them. -/
structure Added (value : ValueId) (past since : History) (world next : World α) : Prop where
  /-- Nobody joins the racing threads but those that were flagged, and nobody leaves them. -/
  racing : ∀ cell after, world.cells.get? value = some cell →
    next.cells.get? value = some after → ∀ thread,
      (after.racing.contains thread = true ↔
        cell.racing.contains thread = true ∨ thread ∈ since.flagged value)
  /-- The ledger counts the flagged accesses. -/
  ledger : ∀ id detecting detector after, .made value detecting (some id) ∈ past →
    world.detectors.get? id = some detector → next.detectors.get? id = some after →
      after.ledger.races value = detector.ledger.races value + since.flags value

/-- A path adds what was flagged on it to the accounts of a value. -/
theorem added_of_path (run : Run past entry) (path : Path entry since later) :
    Added value past since entry.world later.world where
  racing := fun cell after found found' thread => by
    rw [(booked_of_run run).racing_iff found, (booked_of_run (run.trans path)).racing_iff found',
      History.flagged_append, List.mem_append, or_comm]
  ledger := fun id detecting detector after made found found' => by
    have mine : value ∈ past.madeOf id := History.mem_madeOf_iff.2 ⟨detecting, made⟩
    have still : value ∈ History.madeOf (since ++ past) id :=
      History.mem_madeOf_iff.2 ⟨detecting, List.mem_append_right _ made⟩
    rw [(booked_of_run run).races_eq_flags found mine,
      (booked_of_run (run.trans path)).races_eq_flags found' still, History.flags,
      History.flagged_append, List.length_append, Nat.add_comm]
    rfl

namespace Happening

/-- A happening without the verdict and the table that it tells of, unless it is an edit of a
context by a certain thread. -/
def besides? (thread : ThreadId) : Happening → Option Happening
  | .accessed other value kind _ => some (.accessed other value kind none)
  | .entered other value _ => some (.entered other value ∅)
  | .edited other context => if other = thread then none else some (.edited other context)
  | happening => some happening

/-- What is left out is an edit by the thread. -/
theorem eq_edited_of_besides? {happening : Happening} (out : happening.besides? thread = none) :
    ∃ context, happening = .edited thread context := by
  cases happening with
  | edited other context =>
    rw [besides?] at out
    split at out
    · rename_i here
      exact ⟨context, by rw [here]⟩
    · cases out
  | _ => cases out

/-- What is kept is the same attempt and the same access, and shows the same. -/
theorem alike_of_besides? {happening kept : Happening}
    (same : happening.besides? thread = some kept) :
    (∀ value, kept.attempt? value = happening.attempt? value) ∧
      (∀ value, kept.accessKey? value = happening.accessKey? value) ∧
      ∀ other value clock before,
        kept.reveal other value clock before = happening.reveal other value clock before := by
  cases happening with
  | edited other context =>
    rw [besides?] at same
    split at same
    · cases same
    · cases same
      exact ⟨fun _ => rfl, fun _ => rfl, fun _ _ _ _ => rfl⟩
  | _ =>
    cases same
    exact ⟨fun _ => rfl, fun _ => rfl, fun _ _ _ _ => rfl⟩

end Happening

namespace History

/-- What happened, latest first, without what a thread did to contexts by hand, and without what
came of it: verdicts and tables. -/
def besides (past : History) (thread : ThreadId) : History :=
  past.filterMap (Happening.besides? thread)

/-- Edits are left out of two parts of a history as out of each. -/
theorem besides_append (later earlier : History) (thread : ThreadId) :
    History.besides (later ++ earlier) thread = later.besides thread ++ earlier.besides thread :=
  List.filterMap_append

/-- An edit of the thread is left out. -/
theorem besides_cons_edited (past : History) (thread : ThreadId) (context : ThreadContext) :
    History.besides (.edited thread context :: past) thread = past.besides thread :=
  List.filterMap_cons_none (if_pos rfl)

/-- What is no edit of the thread stays, but for what came of it. -/
theorem besides_cons {happening kept : Happening} (same : happening.besides? thread = some kept) :
    History.besides (happening :: past) thread = kept :: past.besides thread :=
  List.filterMap_cons_some same

/-- Edits are no attempts. -/
theorem attempts_besides (past : History) (thread : ThreadId) (value : ValueId) :
    (past.besides thread).attempts value = past.attempts value := by
  rw [attempts, besides, List.filterMap_filterMap]
  refine congrArg (List.filterMap · past) (funext fun happening => ?_)
  cases same : happening.besides? thread with
  | none =>
    obtain ⟨context, rfl⟩ := Happening.eq_edited_of_besides? same
    rfl
  | some kept => exact (Happening.alike_of_besides? same).1 value

/-- Edits leave the clock table of a history alone. -/
theorem clock_besides (past : History) (thread : ThreadId) (value : ValueId) :
    (past.besides thread).clock value = past.clock value := by
  rw [clock, attempts_besides, clock]

/-- What is kept shows the same after what is the same. -/
theorem sight?_besides_cons {happening kept : Happening} {other : ThreadId}
    (same : happening.besides? thread = some kept)
    (seen : (past.besides thread).sight? other value = past.sight? other value) :
    (History.besides (happening :: past) thread).sight? other value =
      History.sight? other value (happening :: past) := by
  rw [besides_cons same, sight?, sight?, clock_besides, seen]
  exact (Happening.alike_of_besides? same).2.2 other value _ _

/-- What other threads have seen has nothing to do with what a thread did by hand. -/
theorem sight?_besides_of_ne {other : ThreadId} (different : other ≠ thread) (past : History)
    (value : ValueId) : (past.besides thread).sight? other value = past.sight? other value := by
  induction past with
  | nil => rfl
  | cons happening past ih =>
    cases same : happening.besides? thread with
    | none =>
      obtain ⟨context, rfl⟩ := Happening.eq_edited_of_besides? same
      rw [besides_cons_edited, ih, sight?, Happening.reveal, if_neg different]
    | some kept => exact sight?_besides_cons same ih

end History

section Repaired

variable {clock : ClockTable} (run : Run (.entered thread value clock :: past) entry)
  (lawful : Lawful (Unedited thread value) entry since later)

include run lawful

/-- After a section entry, what anybody has seen of the value has nothing to do with what the thread
did by hand. -/
theorem sight?_besides_of_lawful (other : ThreadId) :
    (History.besides (since ++ .entered thread value clock :: past) thread).sight? other value =
      History.sight? other value (since ++ .entered thread value clock :: past) := by
  by_cases different : other ≠ thread
  · exact History.sight?_besides_of_ne different _ value
  obtain rfl : other = thread := Decidable.not_not.1 different
  induction lawful with
  | refl =>
    -- The entry shows the table, whatever was seen before.
    have shown : ∀ (table : ClockTable) (earlier : History), History.sight? other value
        (.entered other value table :: earlier) = some (earlier.clock value) :=
      fun _ _ => if_pos ⟨rfl, rfl⟩
    rw [List.nil_append, History.besides_cons rfl, shown, shown, History.clock_besides]
  | @tail since happenings scene next move earlier performed obeys ih =>
    have reached := run.trans earlier.path
    have turn := Scene.turn_of_perform? (numbered_of_run reached) performed
    rcases turn.eq_nil_or_singleton with rfl | ⟨happening, rfl⟩
    · exact ih
    cases same : happening.besides? other with
    | none =>
      obtain ⟨context, rfl⟩ := Happening.eq_edited_of_besides? same
      -- An edit that obeys the law leaves the snapshot as it is.
      have kept : context.snapshot? value = scene.world.snapshot? other value :=
        Classical.byContradiction fun changed =>
          obeys _ (List.mem_singleton_self _) ⟨rfl, changed⟩
      change (History.besides (.edited other context :: (since ++ _)) other).sight? other value =
        if other = other then context.snapshot? value else _
      rw [History.besides_cons_edited, if_pos rfl, kept, snapshot?_of_run reached]
      exact ih
    | some kept => exact History.sight?_besides_cons same ih

/-- After a section entry, verdicts on accesses to the value have nothing to do with what the thread
did by hand. -/
theorem judged_besides :
    History.judged (History.besides (.entered thread value clock :: past) thread) value
        (since.besides thread) =
      History.judged (.entered thread value clock :: past) value since := by
  induction lawful with
  | refl => rfl
  | @tail since happenings scene next move earlier performed obeys ih =>
    have reached := run.trans earlier.path
    have turn := Scene.turn_of_perform? (numbered_of_run reached) performed
    rcases turn.eq_nil_or_singleton with rfl | ⟨happening, rfl⟩
    · exact ih
    have against : ∀ key, History.against (since.besides thread ++
        History.besides (.entered thread value clock :: past) thread) value key =
          History.against (since ++ .entered thread value clock :: past) value key := by
      intro key
      rw [← History.besides_append, History.against, History.clock_besides,
        sight?_besides_of_lawful run earlier, History.against]
    cases same : happening.besides? thread with
    | none =>
      obtain ⟨context, rfl⟩ := Happening.eq_edited_of_besides? same
      exact (congrArg (History.judged _ value)
        (History.besides_cons_edited since thread context)).trans ih
    | some kept =>
      have alike := (Happening.alike_of_besides? same).2.1 value
      change History.judged _ value (History.besides (happening :: since) thread) =
        History.judged _ value (happening :: since)
      rw [History.besides_cons same, History.judged, History.judged, alike]
      split
      · exact ih
      · rw [against, ih]

end Repaired

/-- Nothing that is told of a value tells two continuations apart. -/
structure SameSince (value : ValueId) (since since' : History) (world : World α)
    (world' : World β) : Prop where
  /-- The same accesses came to the same verdicts. -/
  verdicts : since.verdicts value = since'.verdicts value
  /-- The same threads were flagged, in the same order. -/
  flagged : since.flagged value = since'.flagged value
  /-- Clock tables are the same. -/
  clocks : ∀ cell cell', world.cells.get? value = some cell →
    world'.cells.get? value = some cell' → cell.clock = cell'.clock
  /-- Every thread has seen the same of the value. -/
  snapshots : ∀ other, world.snapshot? other value = world'.snapshot? other value

/-- Continuations of two runs are the same if they differ in edits by a thread, verdicts and tables
only, and both come after a section entry of the thread. -/
theorem same_since_of_besides {past' since' : History} {entry' later' : Scene β}
    {clock clock' : ClockTable} (run : Run (.entered thread value clock :: past) entry)
    (run' : Run (.entered thread value clock' :: past') entry')
    (lawful : Lawful (Unedited thread value) entry since later)
    (lawful' : Lawful (Unedited thread value) entry' since' later')
    (same : past.besides thread = past'.besides thread)
    (same' : since.besides thread = since'.besides thread) :
    SameSince value since since' later.world later'.world := by
  have whole : History.besides (.entered thread value clock :: past) thread =
      History.besides (.entered thread value clock' :: past') thread := by
    rw [History.besides_cons rfl, History.besides_cons rfl, same]
  have both : History.besides (since ++ .entered thread value clock :: past) thread =
      History.besides (since' ++ .entered thread value clock' :: past') thread := by
    rw [History.besides_append, History.besides_append, whole, same']
  have verdicts : since.verdicts value = since'.verdicts value := by
    rw [verdicts_of_path run lawful.path, verdicts_of_path run' lawful'.path,
      ← judged_besides run lawful, ← judged_besides run' lawful', whole, same']
  refine ⟨verdicts, ?_, fun cell cell' found found' => ?_, fun other => ?_⟩
  · rw [History.flagged_eq_verdicts, verdicts, ← History.flagged_eq_verdicts]
  · have counted := counted_of_run (run.trans lawful.path) (standing?_of_get? _ found)
    have counted' := counted_of_run (run'.trans lawful'.path) (standing?_of_get? _ found')
    refine counted.clock_eq.trans (Eq.trans ?_ counted'.clock_eq.symm)
    rw [← History.clock_besides _ thread, both, History.clock_besides]
  · rw [snapshot?_of_run (run.trans lawful.path), snapshot?_of_run (run'.trans lawful'.path),
      ← sight?_besides_of_lawful run lawful, both, sight?_besides_of_lawful run' lawful']

/-- A section entry repairs the snapshot of its thread, whatever was done before by anybody and
whatever the thread had put into its context by hand. From then on, and as long as the thread does
not edit the snapshot again, each of its accesses to the value is flagged exactly if another thread
made a conflicting one, recorded or cut short, since the thread's last section entry on the value;
and of any two such runs that differ in edits by the thread only, everything that is told of the
value is the same from then on. -/
theorem section_entry_repairs_snapshot {move : Move α} {clock : ClockTable}
    (run : Run past before)
    (entered : before.perform? move = some (entry, [.entered thread value clock]))
    (lawful : Lawful (Unedited thread value) entry since later) :
    (∀ kind sighting next,
      later.perform? (.access thread value kind) =
          some (next, [.accessed thread value kind sighting]) →
        (sighting.isSome ↔ ∃ other kind', ∃ happening ∈ since.sinceEntry thread value,
          happening.access? = some (other, value, kind') ∧ other ≠ thread ∧
            kind.conflicts kind' = true)) ∧
      Added value (.entered thread value clock :: past) since entry.world later.world ∧
      ∀ (past' since' : History) (before' entry' later' : Scene α) (move' : Move α)
        (clock' : ClockTable), Run past' before' →
        before'.perform? move' = some (entry', [.entered thread value clock']) →
        Lawful (Unedited thread value) entry' since' later' →
        past.besides thread = past'.besides thread →
        since.besides thread = since'.besides thread →
          SameSince value since since' later.world later'.world := by
  have started : Run (.entered thread value clock :: past) entry := run.tail entered
  have reached := started.trans lawful.path
  refine ⟨fun kind sighting next performed => ?_, added_of_path started lawful.path, ?_⟩
  · have told := List.mem_singleton_self (Happening.accessed thread value kind sighting)
    have running := (Scene.turn_of_perform? (numbered_of_run reached) performed).fits _ told |>.1
    have alive : .ended thread ∉ since := fun ended =>
      not_ended_of_run reached running (List.mem_append_left _ ended)
    have knows := knows_of_lawful started (knows_of_entered run entered)
      ⟨clock, List.mem_cons_self⟩ lawful alive
    rw [knows.isSome_sighting_iff reached performed told, History.sinceEntry_append]
    constructor
    · rintro ⟨other, kind', different, conflicting, attempted⟩
      obtain ⟨happening, member, about⟩ := History.mem_attempts_iff.1 attempted
      exact ⟨other, kind', happening, member, about, different, conflicting⟩
    · rintro ⟨other, kind', happening, member, about, different, conflicting⟩
      exact ⟨other, kind', different, conflicting,
        History.mem_attempts_iff.2 ⟨happening, member, about⟩⟩
  · intro past' since' before' entry' later' move' clock' run' entered' lawful' same same'
    exact same_since_of_besides started (run'.tail entered') lawful lawful' same same'

/-- A thread that planted a counter which was never reached is judged after its section entry like
one that did not: it is flagged for the write that came after the entry. -/
theorem section_entry_repairs_planted_counter :
    ∃ (before entry later next before' entry' later' : Scene Nat) (sighting : Option Sighting),
      Run [.edited ⟨1⟩ ⟨⟨1⟩, none, .ofList [(⟨0⟩, .ofList [(⟨⟨0⟩, .write⟩, 9)])]⟩,
          .accessed ⟨0⟩ ⟨0⟩ .write none, .made ⟨0⟩ true none] before ∧
        before.perform? (.enter ⟨1⟩ ⟨0⟩) =
          some (entry, [.entered ⟨1⟩ ⟨0⟩ (.ofList [(⟨⟨0⟩, .write⟩, 1)])]) ∧
        Lawful (Unedited ⟨1⟩ ⟨0⟩) entry [.accessed ⟨0⟩ ⟨0⟩ .write none] later ∧
        later.perform? (.access ⟨1⟩ ⟨0⟩ .read) =
          some (next, [.accessed ⟨1⟩ ⟨0⟩ .read sighting]) ∧
        Run [.accessed ⟨0⟩ ⟨0⟩ .write none, .made ⟨0⟩ true none] before' ∧
        before'.perform? (.enter ⟨1⟩ ⟨0⟩) =
          some (entry', [.entered ⟨1⟩ ⟨0⟩ (.ofList [(⟨⟨0⟩, .write⟩, 1)])]) ∧
        Lawful (Unedited ⟨1⟩ ⟨0⟩) entry' [.accessed ⟨0⟩ ⟨0⟩ .write none] later' ∧
        sighting.isSome ∧
        SameSince ⟨0⟩ [.accessed ⟨0⟩ ⟨0⟩ .write none] [.accessed ⟨0⟩ ⟨0⟩ .write none] later.world
          later'.world := by
  obtain ⟨before, entry, later, next, sighting, run, entered, path, performed⟩ :
      ∃ (before entry later next : Scene Nat) (sighting : Option Sighting),
        Run [.edited ⟨1⟩ ⟨⟨1⟩, none, .ofList [(⟨0⟩, .ofList [(⟨⟨0⟩, .write⟩, 9)])]⟩,
            .accessed ⟨0⟩ ⟨0⟩ .write none, .made ⟨0⟩ true none] before ∧
          before.perform? (.enter ⟨1⟩ ⟨0⟩) =
            some (entry, [.entered ⟨1⟩ ⟨0⟩ (.ofList [(⟨⟨0⟩, .write⟩, 1)])]) ∧
          Path entry [.accessed ⟨0⟩ ⟨0⟩ .write none] later ∧
          later.perform? (.access ⟨1⟩ ⟨0⟩ .read) =
            some (next, [.accessed ⟨1⟩ ⟨0⟩ .read sighting]) :=
    ⟨_, _, _, _, _, Path.refl.playOut? [.step (.spawn none false), .step (.spawn none false),
      .step (.newValue 7 none none), .access ⟨0⟩ ⟨0⟩ .write, .finish ⟨0⟩ Nat.succ,
      .openContext ⟨1⟩, .edit ⟨1⟩ (·.replace ⟨0⟩ (.ofList [(⟨⟨0⟩, .write⟩, 9)])),
      .closeContext ⟨1⟩] rfl, rfl,
      Path.refl.playOut? [.leave ⟨1⟩, .access ⟨0⟩ ⟨0⟩ .write, .finish ⟨0⟩ Nat.succ] rfl, rfl⟩
  obtain ⟨before', entry', later', run', entered', path'⟩ :
      ∃ before' entry' later' : Scene Nat,
        Run [.accessed ⟨0⟩ ⟨0⟩ .write none, .made ⟨0⟩ true none] before' ∧
          before'.perform? (.enter ⟨1⟩ ⟨0⟩) =
            some (entry', [.entered ⟨1⟩ ⟨0⟩ (.ofList [(⟨⟨0⟩, .write⟩, 1)])]) ∧
          Path entry' [.accessed ⟨0⟩ ⟨0⟩ .write none] later' :=
    ⟨_, _, _, Path.refl.playOut? [.step (.spawn none false), .step (.spawn none false),
      .step (.newValue 7 none none), .access ⟨0⟩ ⟨0⟩ .write, .finish ⟨0⟩ Nat.succ] rfl, rfl,
      Path.refl.playOut? [.leave ⟨1⟩, .access ⟨0⟩ ⟨0⟩ .write, .finish ⟨0⟩ Nat.succ] rfl⟩
  have lawful : Lawful (Unedited ⟨1⟩ ⟨0⟩) entry _ later :=
    lawful_of_undisturbed path (by decide)
  have lawful' : Lawful (Unedited ⟨1⟩ ⟨0⟩) entry' _ later' :=
    lawful_of_undisturbed path' (by decide)
  obtain ⟨flagged, -, same⟩ := section_entry_repairs_snapshot run entered lawful
  exact ⟨before, entry, later, next, before', entry', later', sighting, run, entered, lawful,
    performed, run', entered', lawful',
    (flagged .read sighting next performed).2
      ⟨⟨0⟩, .write, _, List.mem_singleton_self _, rfl, by decide, rfl⟩,
    same _ _ before' entry' later' _ _ run' entered' lawful' rfl rfl⟩

end RaceSentry
