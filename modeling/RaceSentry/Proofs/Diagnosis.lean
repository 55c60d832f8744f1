import RaceSentry.Proofs.Reentry

/-!
# How the misuse of a value is told

A closure that reaches for its own value is cut short. Whether its author is told what went wrong
depends on what the closure wanted. An access or a question writes an error that names the value
into the journal, and gives up with words that name it, too. The entry into a section gives up
without a word, by whatever route, and the journal has nothing about it.
Main statement: `diagnosed_iff_not_entering`.
-/

namespace RaceSentry

open World

variable {α : Type}

/-- The words in which a value is told to have been used from inside of its own closure. -/
def ValueId.misuse (value : ValueId) : String :=
  "monitored value " ++ value.text ++
    " accessed again from inside its own read_with/update closure; " ++
    "copy what you need out of the closure first"

/-- The misuse of a value is told: by one more event in the journal, an error that names the value,
and by the words of the fault. -/
structure World.Diagnosed (world next : World α) (value : ValueId) (fault : Fault) : Prop where
  /-- The journal has one error more, which names the value. -/
  told : ∃ event : Event, next.journal = event :: world.journal ∧ event.level = .error ∧
    event.message = "monitored value accessed from inside its own access closure" ∧
    event.fields = [("value", .text value.text)]
  /-- The fault has words that name the value. -/
  worded : fault.message? = some value.misuse

/-- The misuse of a value goes without a word. -/
structure World.Unexplained (world next : World α) (fault : Fault) : Prop where
  /-- The journal has no more than before. -/
  untold : next.journal = world.journal
  /-- The fault has no words. -/
  wordless : fault.message? = none

/-- A refusal that is not explained is no diagnosis. -/
theorem World.Unexplained.not_diagnosed {world next : World α} {fault : Fault} {value : ValueId}
    (unexplained : Unexplained world next fault) : ¬ Diagnosed world next value fault := by
  intro diagnosed
  have words := unexplained.wordless.symm.trans diagnosed.worded
  cases words

/-- A thread that is turned away from an access is told why. -/
theorem World.diagnosed_turnAway (world : World α) (value : ValueId) :
    Diagnosed world (world.turnAway value false).1 value (world.turnAway value false).2 :=
  ⟨⟨.reentered value, rfl, rfl, rfl, rfl⟩, rfl⟩

/-- A thread that is turned away from a section is not told why. -/
theorem World.unexplained_turnAway (world : World α) (value : ValueId) :
    Unexplained world (world.turnAway value true).1 (world.turnAway value true).2 :=
  ⟨rfl, rfl⟩

/-- A thread that is turned away is told of its misuse unless it wants to enter a section. -/
theorem World.diagnosed_turnAway_iff (world : World α) (value : ValueId) (enters : Bool) :
    Diagnosed world (world.turnAway value enters).1 value (world.turnAway value enters).2 ↔
      enters = false := by
  cases enters with
  | false => exact iff_of_true (diagnosed_turnAway world value) rfl
  | true => exact iff_of_false (unexplained_turnAway world value).not_diagnosed nofun

/-- An action that reaches for a value does so to enter a section exactly if it runs a block. -/
theorem Action.enters_iff {world : World α} {action : Action α} {value : ValueId} {enters : Bool}
    (reaches : action.reach? world = some (value, enters)) :
    enters = true ↔ ∃ route body, action = .synchronized value route body := by
  constructor
  · rintro rfl
    obtain ⟨accesses, -⟩ | ⟨asks, -⟩ | ⟨-, entered⟩ := reach?_cases reaches
    · cases accesses
    · cases asks
    · exact entered
  · rintro ⟨route, body, rfl⟩
    cases reaches
    rfl

section Main

variable {past : History} {scene : Scene α} {thread : ThreadId} {value : ValueId}

/-- Whatever a thread that is inside of a closure on a value asks of the value, it is cut short. It
is told of the misuse exactly if it did not want to enter a section; what wants to enter one is cut
short without a word, also if the section would outlast the closure. -/
theorem diagnosed_iff_not_entering (run : Run past scene)
    (inside : 0 < scene.closures thread value) :
    (∀ (action : Action α) (enters : Bool), action.reach? scene.world = some (value, enters) →
      ∃ next fault, action.run thread scene.world = (next, .error fault) ∧
        (Diagnosed scene.world next value fault ↔
          ¬ ∃ route body, action = .synchronized value route body) ∧
        ((∃ route body, action = .synchronized value route body) →
          Unexplained scene.world next fault)) ∧
      ∃ next fault, scene.world.enter thread value = (next, .faulted fault) ∧
        Unexplained scene.world next fault := by
  obtain ⟨cell, lock, found, taken, borrowed⟩ := (guarded_of_run run).exists_borrowed inside
  refine ⟨fun action enters reaches => ?_, ?_⟩
  · refine ⟨_, _, (of_borrowed found taken borrowed reaches).1, ?_, fun route => ?_⟩
    · rw [diagnosed_turnAway_iff, ← Action.enters_iff reaches, Bool.not_eq_true]
    · rw [(Action.enters_iff reaches).2 route]
      exact unexplained_turnAway scene.world value
  · refine ⟨scene.world, .borrowed, ?_, unexplained_turnAway scene.world value⟩
    simp only [World.enter, enterSection_of_borrowed found taken borrowed]

/-- From inside of a closure, and of a section in it, a value is read, asked and entered. -/
theorem diagnosed_iff_not_entering_of_nested :
    ∃ (past : History) (scene : Scene Nat), Run past scene ∧ 0 < scene.closures ⟨0⟩ ⟨0⟩ ∧
      (∃ next fault, (Action.read ⟨0⟩).run ⟨0⟩ scene.world = (next, .error fault) ∧
        Diagnosed scene.world next ⟨0⟩ fault) ∧
      (∃ next fault, (Action.query ⟨0⟩ (.isRacing ⟨0⟩)).run ⟨0⟩ scene.world =
          (next, .error fault) ∧ Diagnosed scene.world next ⟨0⟩ fault) ∧
      ∀ route, ∃ next fault, (Action.synchronized ⟨0⟩ route [.read ⟨0⟩]).run ⟨0⟩ scene.world =
        (next, .error fault) ∧ Unexplained scene.world next fault := by
  obtain ⟨past, scene, run, inside, known⟩ :
      ∃ (past : History) (scene : Scene Nat), Run past scene ∧ 0 < scene.closures ⟨0⟩ ⟨0⟩ ∧
        scene.world.knows ⟨0⟩ = true :=
    ⟨_, _, Path.refl.playOut? [.step (.spawn none true), .step (.newValue 7 none none),
      .step (.newValue 8 none none), .enter ⟨0⟩ ⟨0⟩, .access ⟨0⟩ ⟨0⟩ .read,
      .enter ⟨0⟩ ⟨1⟩] rfl, by decide, rfl⟩
  have turned := (diagnosed_iff_not_entering run inside).1
  obtain ⟨next, fault, ran, told, -⟩ := turned (.read ⟨0⟩) false rfl
  obtain ⟨next', fault', ran', told', -⟩ :=
    turned (.query ⟨0⟩ (.isRacing ⟨0⟩)) false (if_pos known)
  refine ⟨past, scene, run, inside, ⟨next, fault, ran, told.2 nofun⟩,
    ⟨next', fault', ran', told'.2 nofun⟩, fun route => ?_⟩
  obtain ⟨next, fault, ran, -, silent⟩ :=
    turned (.synchronized ⟨0⟩ route [.read ⟨0⟩]) true rfl
  exact ⟨next, fault, ran, silent ⟨route, _, rfl⟩⟩

/-- A closure that enters a section on its own value is cut short without a word, though one that
only reads the value is told what is wrong. So not every misuse is told. -/
theorem section_entry_undiagnosed :
    ∃ (past : History) (scene : Scene Nat), Run past scene ∧ 0 < scene.closures ⟨0⟩ ⟨0⟩ ∧
      ∃ (action : Action Nat) (enters : Bool) (next : World Nat) (fault : Fault),
        action.reach? scene.world = some (⟨0⟩, enters) ∧
        action.run ⟨0⟩ scene.world = (next, .error fault) ∧
        ¬ Diagnosed scene.world next ⟨0⟩ fault := by
  obtain ⟨past, scene, run, inside, ran⟩ :
      ∃ (past : History) (scene : Scene Nat), Run past scene ∧ 0 < scene.closures ⟨0⟩ ⟨0⟩ ∧
        (Action.synchronized ⟨0⟩ .free []).run ⟨0⟩ scene.world =
          (scene.world, .error .borrowed) :=
    ⟨_, _, Path.refl.playOut? [.step (.spawn none true), .step (.newValue 0 none none),
      .access ⟨0⟩ ⟨0⟩ .write] rfl, by decide, rfl⟩
  have silent : Unexplained scene.world scene.world .borrowed := ⟨rfl, rfl⟩
  exact ⟨past, scene, run, inside, _, true, _, _, rfl, ran, silent.not_diagnosed⟩

end Main

end RaceSentry
