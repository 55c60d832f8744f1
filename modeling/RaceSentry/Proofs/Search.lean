import RaceSentry.Conflict

/-!
# Searches in any order

A search goes through the entries of a clock table in an order that nobody chooses, and ends at the
first entry that stands against the access. Which entry that is depends on the order. Whether there
is one does not: nothing is found exactly if the snapshot has every entry of a conflicting kind,
with the same counter. The two tables need not have anything to do with each other.
Main statement: `search_exact`.
-/

namespace RaceSentry.Conflict

variable {authoritative snapshot : ClockTable} {kind : AccessKind}
  {entries : List (AccessKey × Nat)} {conflict : Conflict}

/-- In whatever order a search goes through the table, it finds what stands against the access. -/
theorem mem_unseen_of_find? (order : entries.Perm authoritative.entries)
    (found : find? entries snapshot kind = some conflict) :
    conflict ∈ unseen authoritative snapshot kind := by
  obtain ⟨entry, member, judged⟩ := List.exists_of_findSome?_eq_some found
  exact List.mem_filterMap.2 ⟨entry, order.mem_iff.1 member, judged⟩

/-- In whatever order a search goes through the table, it finds something if anything stands
against the access. -/
theorem exists_find?_eq_some (order : entries.Perm authoritative.entries)
    (something : unseen authoritative snapshot kind ≠ []) :
    ∃ conflict, find? entries snapshot kind = some conflict := by
  refine Option.ne_none_iff_exists'.1 fun nothing => something ?_
  refine List.filterMap_eq_nil_iff.2 fun entry member => ?_
  exact List.findSome?_eq_none_iff.1 nothing entry (order.mem_iff.2 member)

/-- Everything that stands against the access is found by a search in some order. -/
theorem exists_order_of_mem_unseen (member : conflict ∈ unseen authoritative snapshot kind) :
    ∃ entries, entries.Perm authoritative.entries ∧
      find? entries snapshot kind = some conflict := by
  obtain ⟨entry, stored, judged⟩ := List.mem_filterMap.1 member
  obtain ⟨before, after, parts⟩ := List.append_of_mem stored
  refine ⟨entry :: (before ++ after), ?_, ?_⟩
  · rw [parts]
    exact List.perm_middle.symm
  · rw [find?, List.findSome?_cons, judged]

/-- In whatever order a search goes through the table, it finds nothing exactly if nothing stands
against the access. -/
theorem find?_eq_none_iff (order : entries.Perm authoritative.entries) :
    find? entries snapshot kind = none ↔ unseen authoritative snapshot kind = [] := by
  constructor
  · intro nothing
    apply Classical.byContradiction
    intro something
    obtain ⟨conflict, found⟩ := exists_find?_eq_some order something
    rw [nothing] at found
    cases found
  · intro nothing
    cases found : find? entries snapshot kind with
    | none => rfl
    | some conflict =>
      have member := mem_unseen_of_find? order found
      rw [nothing] at member
      cases member

/-- Nothing stands against an access exactly if the snapshot has every entry of a conflicting kind
as the table has it. -/
theorem unseen_eq_nil_iff :
    unseen authoritative snapshot kind = [] ↔
      ∀ key counter, authoritative.get? key = some counter → kind.conflicts key.kind = true →
        snapshot.get? key = some counter := by
  rw [List.eq_nil_iff_forall_not_mem]
  constructor
  · intro nothing key counter stored conflicting
    apply Classical.byContradiction
    intro different
    exact nothing ⟨key, counter, snapshot.get? key⟩
      (mem_unseen_iff.2 ⟨stored, rfl, conflicting, different⟩)
  · intro same conflict member
    obtain ⟨stored, seen, conflicting, different⟩ := mem_unseen_iff.1 member
    have observed := same conflict.key conflict.authoritative stored conflicting
    exact different (seen.symm.trans observed)

/-- An entry of a kind that does not conflict is passed over. -/
theorem judge?_of_not_conflicts {entry : AccessKey × Nat}
    (harmless : kind.conflicts entry.1.kind = false) : judge? snapshot kind entry = none := by
  rw [judge?, harmless, Bool.false_and, if_neg Bool.false_ne_true]

/-- A search might as well leave out the entries whose kind does not conflict. -/
theorem find?_filter_conflicts (entries : List (AccessKey × Nat)) (snapshot : ClockTable)
    (kind : AccessKind) :
    find? (entries.filter fun entry => kind.conflicts entry.1.kind) snapshot kind =
      find? entries snapshot kind := by
  induction entries with
  | nil => rfl
  | cons entry rest ih =>
    cases conflicting : kind.conflicts entry.1.kind with
    | true =>
      simp only [List.filter_cons, conflicting, ↓reduceIte]
      simp only [find?, List.findSome?_cons] at ih ⊢
      rw [ih]
    | false =>
      have passed : judge? snapshot kind entry = none := judge?_of_not_conflicts conflicting
      simp only [List.filter_cons, conflicting, Bool.false_eq_true, ↓reduceIte]
      simp only [find?, List.findSome?_cons, passed] at ih ⊢
      exact ih

/-- Of a snapshot a search looks at the conflicting keys only that it comes upon. -/
theorem find?_congr {other : ClockTable}
    (same : ∀ entry ∈ entries, kind.conflicts entry.1.kind = true →
      other.get? entry.1 = snapshot.get? entry.1) :
    find? entries other kind = find? entries snapshot kind := by
  induction entries with
  | nil => rfl
  | cons entry rest ih =>
    have later := ih fun entry member => same entry (List.mem_cons_of_mem _ member)
    have here : judge? other kind entry = judge? snapshot kind entry := by
      cases conflicting : kind.conflicts entry.1.kind with
      | true => rw [judge?, judge?, same entry List.mem_cons_self conflicting]
      | false => rw [judge?_of_not_conflicts conflicting, judge?_of_not_conflicts conflicting]
    simp only [find?, List.findSome?_cons] at later ⊢
    rw [here, later]

/-- A search that leaves entries of other kinds out, and looks into a snapshot that has the same of
the rest, finds the same. -/
theorem find?_eq_of_filter_eq {other : ClockTable} {entries' : List (AccessKey × Nat)}
    (conflicting : (entries'.filter fun entry => kind.conflicts entry.1.kind) =
      entries.filter fun entry => kind.conflicts entry.1.kind)
    (same : ∀ entry ∈ entries, kind.conflicts entry.1.kind = true →
      other.get? entry.1 = snapshot.get? entry.1) :
    find? entries' other kind = find? entries snapshot kind := by
  calc find? entries' other kind
    _ = find? (entries'.filter fun entry => kind.conflicts entry.1.kind) other kind :=
      (find?_filter_conflicts entries' other kind).symm
    _ = find? (entries.filter fun entry => kind.conflicts entry.1.kind) other kind := by
      rw [conflicting]
    _ = find? entries other kind := find?_filter_conflicts entries other kind
    _ = find? entries snapshot kind := find?_congr same

/-- What a search through a table in some order tells of the table and a snapshot. -/
structure Tells (authoritative snapshot : ClockTable) (kind : AccessKind)
    (entries : List (AccessKey × Nat)) : Prop where
  /-- Nothing is found exactly if the snapshot has every entry of a conflicting kind as it is. -/
  none_iff : find? entries snapshot kind = none ↔
    ∀ key counter, authoritative.get? key = some counter → kind.conflicts key.kind = true →
      snapshot.get? key = some counter
  /-- What is found is in the table and of a conflicting kind, and the snapshot lacks it or has
  another counter. -/
  found : ∀ conflict, find? entries snapshot kind = some conflict →
    authoritative.get? conflict.key = some conflict.authoritative ∧
      kind.conflicts conflict.key.kind = true ∧
        conflict.observed = snapshot.get? conflict.key ∧
          conflict.observed ≠ some conflict.authoritative
  /-- Keys of the snapshot that are not in the table, and keys of either table whose kind does not
  conflict, make no difference to what is found. -/
  blind : ∀ (other : ClockTable) (entries' : List (AccessKey × Nat)),
    (entries'.filter fun entry => kind.conflicts entry.1.kind) =
        (entries.filter fun entry => kind.conflicts entry.1.kind) →
      (∀ key, authoritative.contains key = true → kind.conflicts key.kind = true →
        other.get? key = snapshot.get? key) →
        find? entries' other kind = find? entries snapshot kind
  /-- Every order finds something, or none does. -/
  everyOrder : ∀ entries', entries'.Perm authoritative.entries →
    (find? entries' snapshot kind).isSome = (find? entries snapshot kind).isSome

/-- What a search through two given tables finds is exact, in whatever order it goes through the
first of them. What makes it find something for a read makes it find something for a write. -/
theorem search_exact (authoritative snapshot : ClockTable) (kind : AccessKind)
    (entries : List (AccessKey × Nat)) (order : entries.Perm authoritative.entries) :
    Tells authoritative snapshot kind entries ∧
      ((find? entries snapshot .read).isSome = true →
        ∀ entries', entries'.Perm authoritative.entries →
          (find? entries' snapshot .write).isSome = true) := by
  have nothing : ∀ (kind : AccessKind) (entries' : List (AccessKey × Nat)),
      entries'.Perm authoritative.entries →
        (find? entries' snapshot kind = none ↔
          ∀ key counter, authoritative.get? key = some counter →
            kind.conflicts key.kind = true → snapshot.get? key = some counter) :=
    fun kind entries' order' => (find?_eq_none_iff order').trans unseen_eq_nil_iff
  refine ⟨⟨nothing kind entries order, ?_, ?_, ?_⟩, ?_⟩
  · intro conflict found
    have member := mem_unseen_of_find? order found
    obtain ⟨stored, seen, conflicting, different⟩ := mem_unseen_iff.1 member
    exact ⟨stored, conflicting, seen.symm, different⟩
  · intro other entries' conflicting same
    apply find?_eq_of_filter_eq conflicting
    intro entry member against
    have stored := (SortedMap.mem_entries_iff _ _ _).1 (order.mem_iff.1 member)
    exact same entry.1 ((SortedMap.contains_iff _ _).2 ⟨entry.2, stored⟩) against
  · intro entries' order'
    have both := (nothing kind entries' order').trans (nothing kind entries order).symm
    rw [Bool.eq_iff_iff, Option.isSome_iff_ne_none, Option.isSome_iff_ne_none]
    exact not_congr both
  · intro read entries' order'
    rw [Option.isSome_iff_ne_none] at read ⊢
    intro clear
    apply read
    rw [nothing .read entries order]
    intro key counter stored _
    -- A write conflicts with every kind, so whatever is in the table was compared for it.
    have conflicting : AccessKind.write.conflicts key.kind = true := rfl
    exact (nothing .write entries' order').1 clear key counter stored conflicting

/-- The snapshot is ahead of the table in one entry, lacks another one, and has two that the table
lacks. For a read only the first counts, and it is found in the opposite order, too. -/
theorem search_exact_of_unrelated_tables :
    ∃ authoritative snapshot : ClockTable,
      authoritative = .ofList [(⟨⟨0⟩, .read⟩, 3), (⟨⟨0⟩, .write⟩, 2), (⟨⟨1⟩, .write⟩, 1)] ∧
      snapshot = .ofList
        [(⟨⟨0⟩, .write⟩, 5), (⟨⟨1⟩, .write⟩, 1), (⟨⟨2⟩, .write⟩, 9), (⟨⟨2⟩, .read⟩, 9)] ∧
      authoritative.entries.reverse.Perm authoritative.entries ∧
      Tells authoritative snapshot .read authoritative.entries.reverse ∧
      find? authoritative.entries.reverse snapshot .read = some ⟨⟨⟨0⟩, .write⟩, 2, some 5⟩ ∧
      (find? authoritative.entries snapshot .write).isSome = true := by
  refine ⟨_, _, rfl, rfl, List.reverse_perm _,
    (search_exact _ _ .read _ (List.reverse_perm _)).1, rfl, ?_⟩
  refine (search_exact _ _ .read _ (List.reverse_perm _)).2 ?_ _ (List.Perm.refl _)
  rfl

end RaceSentry.Conflict
