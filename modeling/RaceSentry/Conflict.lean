import RaceSentry.ClockTable

/-!
# What an access has not caught up with

An access of a thread is judged by comparing the value's own clock table with the thread's
snapshot of it. An entry stands against the access when its kind conflicts and the snapshot lacks
the entry or holds another counter. `Conflict.unseen` lists them all; a search in any order finds
one of them, and finds none exactly when the list is empty.
-/

namespace RaceSentry

/-- An entry of the authoritative table that a snapshot has not caught up with. -/
structure Conflict where
  /-- Whose accesses, and of which kind. -/
  key : AccessKey
  /-- The counter in the authoritative table. -/
  authoritative : Nat
  /-- The counter in the snapshot, if it has one. -/
  observed : Option Nat
  deriving DecidableEq, Repr

namespace Conflict

/-- The judgement on one entry of the authoritative table. -/
def judge? (snapshot : ClockTable) (kind : AccessKind) (entry : AccessKey × Nat) :
    Option Conflict :=
  let observed := snapshot.get? entry.1
  if kind.conflicts entry.1.kind && observed != some entry.2 then
    some ⟨entry.1, entry.2, observed⟩
  else
    none

/-- The first entry, in the order given, that stands against an access. -/
def find? (entries : List (AccessKey × Nat)) (snapshot : ClockTable) (kind : AccessKind) :
    Option Conflict :=
  entries.findSome? (judge? snapshot kind)

/-- All entries that stand against an access, by thread and with reads before writes. -/
def unseen (authoritative snapshot : ClockTable) (kind : AccessKind) : List Conflict :=
  authoritative.entries.filterMap (judge? snapshot kind)

/-- The thread had once seen the other thread's accesses of this kind, but fell behind. -/
def isStale (conflict : Conflict) : Bool := conflict.observed.isSome

/-- An entry stands against an access exactly if its kind conflicts and the snapshot lacks it or has
another counter; the conflict tells of both tables. -/
theorem judge?_eq_some_iff {snapshot : ClockTable} {kind : AccessKind}
    {entry : AccessKey × Nat} {conflict : Conflict} :
    judge? snapshot kind entry = some conflict ↔
      conflict = ⟨entry.1, entry.2, snapshot.get? entry.1⟩ ∧
        kind.conflicts entry.1.kind = true ∧ snapshot.get? entry.1 ≠ some entry.2 := by
  simp only [judge?, Option.ite_none_right_eq_some, Option.some.injEq, Bool.and_eq_true,
    bne_iff_ne]
  constructor
  · rintro ⟨against, same⟩
    exact ⟨same.symm, against⟩
  · rintro ⟨same, against⟩
    exact ⟨against, same.symm⟩

/-- The entries listed are those of conflicting kind on which the tables differ. -/
theorem mem_unseen_iff {authoritative snapshot : ClockTable} {kind : AccessKind}
    {conflict : Conflict} :
    conflict ∈ unseen authoritative snapshot kind ↔
      authoritative.get? conflict.key = some conflict.authoritative ∧
        snapshot.get? conflict.key = conflict.observed ∧
        kind.conflicts conflict.key.kind = true ∧
        conflict.observed ≠ some conflict.authoritative := by
  simp only [unseen, List.mem_filterMap, judge?_eq_some_iff]
  constructor
  · rintro ⟨⟨key, counter⟩, member, rfl, conflicting, different⟩
    exact ⟨(SortedMap.mem_entries_iff _ _ _).1 member, rfl, conflicting, different⟩
  · rintro ⟨stored, seen, conflicting, different⟩
    refine ⟨(conflict.key, conflict.authoritative),
      (SortedMap.mem_entries_iff _ _ _).2 stored, ?_, conflicting, ?_⟩
    · rcases conflict with ⟨key, counter, observed⟩
      simp only at seen
      rw [seen]
    · rw [seen]
      exact different

/-- An entry of a kind that does not conflict stands against nothing, wherever it is put. -/
theorem filterMap_judge?_insert {snapshot : ClockTable} {kind : AccessKind} {key : AccessKey}
    (harmless : kind.conflicts key.kind = false) (counter : Nat)
    (entries : List (AccessKey × Nat)) :
    (Entries.insert key counter entries).filterMap (judge? snapshot kind) =
      entries.filterMap (judge? snapshot kind) := by
  have ignored : ∀ counter, judge? snapshot kind (key, counter) = none := by
    intro counter
    rw [judge?, harmless, Bool.false_and, if_neg Bool.false_ne_true]
  induction entries with
  | nil => exact List.filterMap_cons_none (ignored counter)
  | cons entry rest ih =>
    rw [Entries.insert]
    split
    · exact List.filterMap_cons_none (ignored counter)
    · split
      · rename_i same
        have stored : entry = (key, entry.2) := Prod.ext (Ranked.rank_eq_iff.1 same).symm rfl
        rw [List.filterMap_cons_none (ignored counter), stored,
          List.filterMap_cons_none (ignored entry.2)]
      · rw [List.filterMap_cons, List.filterMap_cons, ih]

/-- Counters of a kind that does not conflict stand against nothing, whatever they are. -/
theorem unseen_insert (authoritative snapshot : ClockTable) {kind : AccessKind} {key : AccessKey}
    (harmless : kind.conflicts key.kind = false) (counter : Nat) :
    unseen (authoritative.insert key counter) snapshot kind =
      unseen authoritative snapshot kind :=
  filterMap_judge?_insert harmless counter authoritative.entries

end Conflict

end RaceSentry
