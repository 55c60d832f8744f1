import RaceSentry.Proofs.Alarms
import RaceSentry.Proofs.History

/-!
# Verdicts are exact

The judgement on an access compares numbers and never looks back. All the same it is the judgement
on the run: an access is flagged exactly if another thread made a conflicting access that the
thread has not caught up with by a section entry.
Main statement: `isSome_sighting_iff_conflict_since_entry`.
-/

namespace RaceSentry

open World

variable {α : Type} {past : History} {scene next : Scene α}

/-- An access is flagged exactly if another thread made a conflicting access since the last section
entry of its thread. A flagged access is written down, and one that is not flagged is not. -/
theorem isSome_sighting_iff_conflict_since_entry {thread : ThreadId} {value : ValueId}
    {kind : AccessKind} {sighting : Option Sighting} (run : Run past scene)
    (undisturbed : past.Undisturbed)
    (recorded : scene.perform? (.access thread value kind) =
      some (next, [.accessed thread value kind sighting])) :
    (sighting.isSome ↔ ∃ other kind' earlier, other ≠ thread ∧ kind.conflicts kind' = true ∧
        .accessed other value kind' earlier ∈ past.sinceEntry thread value) ∧
      (∀ flagged, sighting = some flagged → flagged.value = value ∧
        flagged.key = ⟨thread, kind⟩ ∧ Denounces scene.world next.world flagged) ∧
      (sighting = none → Silent scene.world next.world) := by
  have turn := Scene.turn_of_perform? (numbered_of_run run) recorded
  obtain ⟨running, standing, found, on, told⟩ := turn.fits _ (List.mem_singleton_self _)
  have clear := (reflects_of_run run undisturbed found).verdict_eq_nil_iff on
    (not_ended_of_run run running) kind
  cases sighting with
  | none =>
    refine ⟨?_, nofun, fun _ => turn.silent_of_clean (List.mem_singleton_self _)⟩
    refine iff_of_false Bool.false_ne_true ?_
    rintro ⟨other, kind', earlier, different, conflicting, member⟩
    exact clear.1 told other different kind' conflicting earlier member
  | some flagged =>
    obtain ⟨something, about, key, _⟩ := told
    refine ⟨iff_of_true rfl ?_, fun _ same => ?_, nofun⟩
    · refine Classical.byContradiction fun never => something (clear.2 ?_)
      intro other different kind' conflicting earlier member
      exact never ⟨other, kind', earlier, different, conflicting, member⟩
    · cases same
      exact ⟨about, key, turn.denounces (List.mem_singleton_self _)⟩

/-- A thread that entered a section is flagged for what was written after it, and not for what was
written before. -/
theorem isSome_sighting_of_write_after_entry :
    ∃ scene next : Scene Nat,
      Run [.accessed ⟨0⟩ ⟨0⟩ .write none, .entered ⟨1⟩ ⟨0⟩ (.ofList [(⟨⟨0⟩, .write⟩, 1)]),
          .accessed ⟨0⟩ ⟨0⟩ .write none, .made ⟨0⟩ true (some ⟨0⟩)] scene ∧
        scene.perform? (.access ⟨1⟩ ⟨0⟩ .read) =
          some (next, [.accessed ⟨1⟩ ⟨0⟩ .read (some ⟨⟨0⟩, none, ⟨⟨1⟩, .read⟩, none,
            [⟨⟨⟨0⟩, .write⟩, 2, some 1⟩]⟩)]) ∧
        Denounces scene.world next.world
          ⟨⟨0⟩, none, ⟨⟨1⟩, .read⟩, none, [⟨⟨⟨0⟩, .write⟩, 2, some 1⟩]⟩ := by
  obtain ⟨scene, next, run, recorded⟩ : ∃ scene next : Scene Nat,
      Run [.accessed ⟨0⟩ ⟨0⟩ .write none, .entered ⟨1⟩ ⟨0⟩ (.ofList [(⟨⟨0⟩, .write⟩, 1)]),
          .accessed ⟨0⟩ ⟨0⟩ .write none, .made ⟨0⟩ true (some ⟨0⟩)] scene ∧
        scene.perform? (.access ⟨1⟩ ⟨0⟩ .read) =
          some (next, [.accessed ⟨1⟩ ⟨0⟩ .read (some ⟨⟨0⟩, none, ⟨⟨1⟩, .read⟩, none,
            [⟨⟨⟨0⟩, .write⟩, 2, some 1⟩]⟩)]) :=
    ⟨_, _, Path.refl.playOut? [.step (.spawn none false), .step (.spawn none true),
      .step (.newDetector none), .step (.newValue 7 (some ⟨0⟩) none), .access ⟨0⟩ ⟨0⟩ .write,
      .finish ⟨0⟩ Nat.succ, .enter ⟨1⟩ ⟨0⟩, .leave ⟨1⟩, .access ⟨0⟩ ⟨0⟩ .write,
      .finish ⟨0⟩ Nat.succ] rfl, rfl⟩
  have verdict := isSome_sighting_iff_conflict_since_entry run (by decide) recorded
  exact ⟨scene, next, run, recorded, (verdict.2.1 _ rfl).2.2⟩

end RaceSentry
