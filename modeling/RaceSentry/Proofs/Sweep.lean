import Mathlib.Data.List.Nodup
import RaceSentry.Detector
import RaceSentry.Proofs.ByteOrder

/-!
# Ledgers that are read while they grow

Reading a ledger takes its accounts one by one, in an order that nobody chooses; between two of them
races may be counted and accounts opened. Each account that was there in the beginning is taken
once, and one that was opened meanwhile at most once. So the sum of what was taken lies between the
totals of the ledger in the beginning and in the end, and sorted by label and place it is a list in
which every account has one place of its own, whatever the order in which they were taken.
Main statements: `Sweep.total_le_tally`, `Sweep.tally_le_total`, `stats_pairwise` and
`stats_eq_of_perm`.
-/

namespace RaceSentry.Ledger

/-- An account: a value with what the ledger knows of it. -/
abbrev Account := ValueId × LedgerEntry

variable {place : ValueId → Nat} {accounts seen : List Account} {left right : Account}

/-- The number of flagged accesses in the accounts that were taken. -/
def tally (accounts : List Account) : Nat := sumOver accounts fun account => account.2.races

/-- The total is the sum over all accounts. -/
theorem total_eq_tally (ledger : Ledger) : ledger.total = tally (SortedMap.entries ledger) :=
  sumOver_map _ _ _

/-- Accounts of different values that are covered by others do not sum up to more. The induction
takes the account that covers the first one out of the others. -/
theorem tally_le_tally {accounts others : List Account}
    (names : (accounts.map Prod.fst).Nodup)
    (covered : ∀ account ∈ accounts, ∃ other ∈ others,
      other.1 = account.1 ∧ account.2.races ≤ other.2.races) :
    tally accounts ≤ tally others := by
  induction accounts generalizing others with
  | nil => exact Nat.zero_le _
  | cons account rest ih =>
    rw [List.map_cons, List.nodup_cons] at names
    obtain ⟨other, member, same, less⟩ := covered account (List.mem_cons_self ..)
    obtain ⟨before, after, rfl⟩ := List.append_of_mem member
    have fewer : tally rest ≤ tally (before ++ after) := by
      refine ih names.2 fun account' member' => ?_
      obtain ⟨other', member, same', less'⟩ := covered account' (List.mem_cons_of_mem _ member')
      have different : other' ≠ other := by
        rintro rfl
        exact names.1 (List.mem_map.2 ⟨account', member', same'.symm.trans same⟩)
      refine ⟨other', ?_, same', less'⟩
      simpa [different] using member
    unfold tally at fewer ⊢
    rw [sumOver_append] at fewer
    rw [sumOver_append, sumOver, sumOver]
    omega

/-- Labels in order: none first, then by their bytes. -/
def LabelBefore : Option String → Option String → Prop
  | none, some _ => True
  | some left, some right => Text.bytes left < Text.bytes right
  | _, none => False

/-- Accounts in order: by their labels, and those of one label by the places of their values. -/
def Before (place : ValueId → Nat) (left right : Account) : Prop :=
  LabelBefore left.2.label right.2.label ∨
    left.2.label = right.2.label ∧ place left.1 < place right.1

/-- Compares labels first and places then. -/
def accountLe (place : ValueId → Nat) (left right : Account) : Bool :=
  if left.2.label = right.2.label then place left.1 ≤ place right.1
  else labelLe left.2.label right.2.label

/-- The accounts that were taken in order. -/
def stats (place : ValueId → Nat) (accounts : List Account) : List Account :=
  accounts.mergeSort (accountLe place)

/-- Labels are in order if they are the same or one comes before the other. -/
theorem labelLe_iff (left right : Option String) :
    labelLe left right = true ↔ left = right ∨ LabelBefore left right := by
  cases left with
  | none =>
    cases right with
    | none => simp [labelLe]
    | some right => simp [labelLe, LabelBefore]
  | some left =>
    cases right with
    | none => simp [labelLe, LabelBefore]
    | some right =>
      simp only [labelLe, LabelBefore, decide_eq_true_eq, Option.some.injEq,
        ← Text.lt_iff_bytes_lt]
      rw [le_iff_lt_or_eq, or_comm]

/-- Of two labels one comes first. -/
theorem labelLe_total (left right : Option String) :
    (labelLe left right || labelLe right left) = true := by
  cases left with
  | none => rfl
  | some left =>
    cases right with
    | none => rfl
    | some right => simpa [labelLe] using le_total left right

/-- The order of labels is transitive. -/
theorem labelLe_trans {first second third : Option String} (one : labelLe first second = true)
    (two : labelLe second third = true) : labelLe first third = true := by
  cases first with
  | none => rfl
  | some first =>
    cases second with
    | none => cases one
    | some second =>
      cases third with
      | none => cases two
      | some third =>
        simp only [labelLe, decide_eq_true_eq] at one two ⊢
        exact le_trans one two

/-- Labels that come before each other are the same. -/
theorem labelLe_antisymm {left right : Option String} (one : labelLe left right = true)
    (two : labelLe right left = true) : left = right := by
  cases left with
  | none =>
    cases right with
    | none => rfl
    | some right => cases two
  | some left =>
    cases right with
    | none => cases one
    | some right =>
      simp only [labelLe, decide_eq_true_eq] at one two
      rw [le_antisymm one two]

/-- What is not after is before, or at the same place with the same label. -/
theorem accountLe_iff :
    accountLe place left right = true ↔
      labelLe left.2.label right.2.label = true ∧
        (left.2.label = right.2.label → place left.1 ≤ place right.1) := by
  unfold accountLe
  split
  · rename_i same
    have le : labelLe left.2.label right.2.label = true := (labelLe_iff _ _).2 (.inl same)
    rw [decide_eq_true_eq]
    exact ⟨fun less => ⟨le, fun _ => less⟩, fun both => both.2 same⟩
  · rename_i different
    simp [different]

/-- Of two accounts one comes first. -/
theorem accountLe_total (left right : Account) :
    (accountLe place left right || accountLe place right left) = true := by
  rw [Bool.or_eq_true, accountLe_iff, accountLe_iff]
  by_cases same : left.2.label = right.2.label
  · have le := (labelLe_iff left.2.label right.2.label).2 (.inl same)
    have ge := (labelLe_iff right.2.label left.2.label).2 (.inl same.symm)
    rcases Nat.le_total (place left.1) (place right.1) with less | more
    · exact .inl ⟨le, fun _ => less⟩
    · exact .inr ⟨ge, fun _ => more⟩
  · have either := labelLe_total left.2.label right.2.label
    rw [Bool.or_eq_true] at either
    rcases either with le | ge
    · exact .inl ⟨le, fun same' => absurd same' same⟩
    · exact .inr ⟨ge, fun same' => absurd same'.symm same⟩

/-- The order of accounts is transitive. -/
theorem accountLe_trans (first second third : Account)
    (one : accountLe place first second = true) (two : accountLe place second third = true) :
    accountLe place first third = true := by
  rw [accountLe_iff] at one two ⊢
  refine ⟨labelLe_trans one.1 two.1, fun same => ?_⟩
  have back : labelLe second.2.label first.2.label = true := by rw [same]; exact two.1
  have middle := labelLe_antisymm one.1 back
  have less := one.2 middle
  have less' := two.2 (middle.symm.trans same)
  omega

/-- The accounts in order are all that were taken. -/
theorem stats_perm (place : ValueId → Nat) (accounts : List Account) :
    (stats place accounts).Perm accounts :=
  List.mergeSort_perm _ _

/-- The accounts are in order. -/
theorem pairwise_accountLe (place : ValueId → Nat) (accounts : List Account) :
    (stats place accounts).Pairwise fun left right => accountLe place left right = true :=
  List.pairwise_mergeSort accountLe_trans accountLe_total accounts

/-- Accounts of different values are strictly in order. -/
theorem stats_pairwise (injective : Function.Injective place)
    (names : (accounts.map Prod.fst).Nodup) : (stats place accounts).Pairwise (Before place) := by
  have different : (stats place accounts).Pairwise fun left right => left.1 ≠ right.1 := by
    have names' : ((stats place accounts).map Prod.fst).Nodup :=
      ((stats_perm place accounts).map Prod.fst).nodup_iff.2 names
    exact List.pairwise_map.1 names'
  refine (pairwise_accountLe place accounts).imp₂ (fun left right le apart => ?_) different
  obtain ⟨le, less⟩ := accountLe_iff.1 le
  rcases (labelLe_iff _ _).1 le with same | before
  · have elsewhere : place left.1 ≠ place right.1 := fun same => apart (injective same)
    exact .inr ⟨same, Nat.lt_of_le_of_ne (less same) elsewhere⟩
  · exact .inl before

/-- There is one way to put accounts of different values in order. -/
theorem eq_of_accountLe (injective : Function.Injective place)
    (names : (accounts.map Prod.fst).Nodup) {one two : List Account} (perm : one.Perm accounts)
    (perm' : two.Perm accounts)
    (sorted : one.Pairwise fun left right => accountLe place left right = true)
    (sorted' : two.Pairwise fun left right => accountLe place left right = true) : one = two := by
  refine (perm.trans perm'.symm).eq_of_pairwise (fun left right member member' le ge => ?_)
    sorted sorted'
  rw [accountLe_iff] at le ge
  have label := labelLe_antisymm le.1 ge.1
  have same : left.1 = right.1 := injective (Nat.le_antisymm (le.2 label) (ge.2 label.symm))
  exact List.inj_on_of_nodup_map names (perm.mem_iff.1 member) (perm'.mem_iff.1 member') same

/-- The order in which accounts of different values are taken does not matter. -/
theorem stats_eq_of_perm (injective : Function.Injective place)
    (names : (accounts.map Prod.fst).Nodup) (perm : seen.Perm accounts) :
    stats place seen = stats place accounts :=
  eq_of_accountLe injective names ((stats_perm place seen).trans perm) (stats_perm place accounts)
    (pairwise_accountLe place seen) (pairwise_accountLe place accounts)

/-- The order of accounts by their labels alone is transitive. -/
theorem labelLe_account_trans (first second third : Account) :
    labelLe first.2.label second.2.label = true → labelLe second.2.label third.2.label = true →
      labelLe first.2.label third.2.label = true := labelLe_trans

/-- Of two accounts one comes first by its label. -/
theorem labelLe_account_total (left right : Account) :
    (labelLe left.2.label right.2.label || labelLe right.2.label left.2.label) = true :=
  labelLe_total _ _

section

variable (ledger : Ledger)

/-- No value has two accounts. -/
theorem names_entries : ((SortedMap.entries ledger).map Prod.fst).Nodup :=
  SortedMap.keys_nodup ledger

/-- The listing has all accounts of the ledger. -/
theorem listing_perm : ledger.listing.Perm (SortedMap.entries ledger) := List.mergeSort_perm _ _

/-- The listing is in order of labels. -/
theorem pairwise_labelLe :
    ledger.listing.Pairwise fun left right => labelLe left.2.label right.2.label = true :=
  List.pairwise_mergeSort labelLe_account_trans labelLe_account_total _

/-- Sorting by labels keeps the order of the accounts with one label. -/
theorem filter_listing (label : Option String) :
    ledger.listing.filter (fun account => account.2.label = label) =
      (SortedMap.entries ledger).filter fun account => account.2.label = label := by
  have alike : ((SortedMap.entries ledger).filter fun account =>
      account.2.label = label).Pairwise fun left right =>
        labelLe left.2.label right.2.label = true := by
    refine List.pairwise_of_forall_mem_list fun left member right member' => ?_
    have one := (List.mem_filter.1 member).2
    have two := (List.mem_filter.1 member').2
    rw [decide_eq_true_eq] at one two
    rw [one, two, labelLe_iff]
    exact .inl rfl
  have kept := List.sublist_mergeSort labelLe_account_trans labelLe_account_total alike
    List.filter_sublist
  have within := kept.filter fun account => decide (account.2.label = label)
  rw [List.filter_filter] at within
  simp only [Bool.and_self] at within
  exact (within.eq_of_length ((listing_perm ledger).filter _).length_eq.symm).symm

/-- Accounts of one label stand in the order of their values. -/
theorem pairwise_listing :
    ledger.listing.Pairwise fun left right => accountLe ValueId.index left right = true := by
  have byLabel := pairwise_labelLe ledger
  rw [List.pairwise_iff_forall_sublist] at byLabel ⊢
  intro left right pair
  refine accountLe_iff.2 ⟨byLabel pair, fun same => ?_⟩
  have both := pair.filter fun account => decide (account.2.label = right.2.label)
  rw [filter_listing] at both
  simp only [List.filter_cons, same, decide_true, ↓reduceIte, List.filter_nil] at both
  have ascending := (SortedMap.ascending ledger).sublist (both.trans List.filter_sublist)
  have before : rank left.1 < rank right.1 := by simpa using ascending
  exact Nat.le_of_lt before

/-- The listing of a ledger is all its accounts in order. -/
theorem listing_eq_stats : ledger.listing = stats ValueId.index (SortedMap.entries ledger) :=
  eq_of_accountLe Ranked.rank_injective (names_entries ledger) (listing_perm ledger)
    (stats_perm _ _) (pairwise_listing ledger) (pairwise_accountLe _ _)

end

/-- Accounts stay, under their labels, and do not come to count less. -/
def Grows (before after : Ledger) : Prop :=
  ∀ value entry, SortedMap.get? before value = some entry →
    ∃ entry', SortedMap.get? after value = some entry' ∧ entry'.label = entry.label ∧
      entry.races ≤ entry'.races

namespace Grows

variable {before between after : Ledger}

/-- A ledger grows by nothing when nothing happens. -/
theorem refl (ledger : Ledger) : Grows ledger ledger :=
  fun _ entry found => ⟨entry, found, rfl, Nat.le_refl _⟩

/-- A ledger that has grown twice has grown. -/
theorem trans (first : Grows before between) (second : Grows between after) :
    Grows before after := by
  intro value entry found
  obtain ⟨entry', found', label, less⟩ := first value entry found
  obtain ⟨entry'', found'', label', less'⟩ := second value entry' found'
  exact ⟨entry'', found'', label'.trans label, Nat.le_trans less less'⟩

/-- Counting a race raises one account, or opens it. -/
theorem count (ledger : Ledger) (value : ValueId) (label : Option String) :
    Grows ledger (ledger.count value label) := by
  intro other entry found
  by_cases here : other = value
  · rw [here] at found ⊢
    refine ⟨{ entry with races := entry.races + 1 }, ?_, rfl, Nat.le_succ entry.races⟩
    rw [Ledger.count, found, SortedMap.get?_insert_self]
  · refine ⟨entry, ?_, rfl, Nat.le_refl _⟩
    unfold Ledger.count
    split
    · rw [SortedMap.get?_insert_of_ne _ _ here, found]
    · rw [SortedMap.get?_insert_of_ne _ _ here, found]

/-- A new account leaves all others. -/
theorem register {ledger : Ledger} {value : ValueId} (new : SortedMap.get? ledger value = none)
    (label : Option String) : Grows ledger (ledger.register value label) := by
  intro other entry found
  have elsewhere : other ≠ value := by
    rintro rfl
    rw [new] at found
    cases found
  refine ⟨entry, ?_, rfl, Nat.le_refl _⟩
  rw [Ledger.register, SortedMap.get?_insert_of_ne _ _ elsewhere, found]

/-- What grows does not come to have less in all. -/
theorem total_le_total (grows : Grows before after) : before.total ≤ after.total := by
  rw [total_eq_tally, total_eq_tally]
  refine tally_le_tally (names_entries before) fun account member => ?_
  obtain ⟨entry, found, -, less⟩ :=
    grows account.1 account.2 ((SortedMap.mem_entries_iff _ _ _).1 member)
  exact ⟨(account.1, entry), (SortedMap.mem_entries_iff _ _ _).2 found, rfl, less⟩

end Grows

/-- What was taken of a ledger so far, latest first, while it has grown. An account is taken as it
is at that moment, and none is taken twice. -/
inductive Sweep (start : Ledger) : List Account → Ledger → Prop where
  /-- Nothing is taken yet. -/
  | begin : Sweep start [] start
  /-- One more account is taken. -/
  | take {seen : List Account} {now : Ledger} {value : ValueId} {entry : LedgerEntry}
      (sweep : Sweep start seen now) (found : SortedMap.get? now value = some entry)
      (new : value ∉ seen.map Prod.fst) : Sweep start ((value, entry) :: seen) now
  /-- The ledger grows. -/
  | wait {seen : List Account} {now later : Ledger} (sweep : Sweep start seen now)
      (grows : Grows now later) : Sweep start seen later

/-- All accounts that were there in the beginning were taken. -/
def Covers (start : Ledger) (seen : List Account) : Prop :=
  ∀ value, SortedMap.contains start value = true → value ∈ seen.map Prod.fst

namespace Sweep

variable {start now : Ledger}

/-- A ledger grows while it is read. -/
theorem grows (sweep : Sweep start seen now) : Grows start now := by
  induction sweep with
  | begin => exact .refl start
  | take sweep found new ih => exact ih
  | wait sweep grows ih => exact ih.trans grows

/-- No account is taken twice. -/
theorem names (sweep : Sweep start seen now) : (seen.map Prod.fst).Nodup := by
  induction sweep with
  | begin => exact .nil
  | take sweep found new ih => exact List.nodup_cons.2 ⟨new, ih⟩
  | wait sweep grows ih => exact ih

/-- What was taken is still there under its label, and counts no less. -/
theorem after (sweep : Sweep start seen now) {value : ValueId} {entry : LedgerEntry}
    (member : (value, entry) ∈ seen) :
    ∃ entry', SortedMap.get? now value = some entry' ∧ entry'.label = entry.label ∧
      entry.races ≤ entry'.races := by
  induction sweep with
  | begin => cases member
  | take sweep found new ih =>
    cases member with
    | head => exact ⟨_, found, rfl, Nat.le_refl _⟩
    | tail _ member => exact ih member
  | wait sweep grows ih =>
    obtain ⟨entry', found, label, less⟩ := ih member
    obtain ⟨entry'', found', label', less'⟩ := grows value entry' found
    exact ⟨entry'', found', label'.trans label, Nat.le_trans less less'⟩

/-- What was taken of an account of the beginning has its label, and counts no less. -/
theorem before (sweep : Sweep start seen now) {value : ValueId} {entry first : LedgerEntry}
    (member : (value, entry) ∈ seen) (found : SortedMap.get? start value = some first) :
    entry.label = first.label ∧ first.races ≤ entry.races := by
  induction sweep with
  | begin => cases member
  | take sweep taken new ih =>
    cases member with
    | head =>
      obtain ⟨entry', found', label, less⟩ := sweep.grows value first found
      rw [taken] at found'
      cases found'
      exact ⟨label, less⟩
    | tail _ member => exact ih member
  | wait sweep grows ih => exact ih member

/-- What is there in the beginning is among what was taken. -/
theorem exists_mem (sweep : Sweep start seen now) (covers : start.Covers seen) {value : ValueId}
    {first : LedgerEntry} (found : SortedMap.get? start value = some first) :
    ∃ entry, (value, entry) ∈ seen ∧ entry.label = first.label ∧ first.races ≤ entry.races := by
  have present := covers value ((SortedMap.contains_iff _ _).2 ⟨first, found⟩)
  obtain ⟨⟨_, entry⟩, member, rfl⟩ := List.mem_map.1 present
  exact ⟨entry, member, sweep.before member found⟩

/-- At least what was counted in the beginning was taken. -/
theorem total_le_tally (sweep : Sweep start seen now) (covers : start.Covers seen) :
    start.total ≤ tally seen := by
  rw [total_eq_tally]
  refine tally_le_tally (names_entries start) fun account member => ?_
  obtain ⟨entry, taken, -, less⟩ :=
    sweep.exists_mem covers ((SortedMap.mem_entries_iff start account.1 account.2).1 member)
  exact ⟨(account.1, entry), taken, rfl, less⟩

/-- At most what is counted in the end was taken. -/
theorem tally_le_total (sweep : Sweep start seen now) : tally seen ≤ now.total := by
  rw [total_eq_tally]
  refine tally_le_tally sweep.names fun account member => ?_
  obtain ⟨entry, found, -, less⟩ := sweep.after member
  exact ⟨(account.1, entry), (SortedMap.mem_entries_iff _ _ _).2 found, rfl, less⟩

/-- Of a ledger that is in the end as in the beginning all accounts were taken as they are. -/
theorem perm_entries (sweep : Sweep start seen start) (covers : start.Covers seen) :
    seen.Perm (SortedMap.entries start) := by
  have nodup (accounts : List Account) (names : (accounts.map Prod.fst).Nodup) :
      accounts.Nodup := .of_map _ names
  have same {value : ValueId} {entry first : LedgerEntry} (member : (value, entry) ∈ seen)
      (found : SortedMap.get? start value = some first) : entry = first := by
    obtain ⟨entry', found', label, less⟩ := sweep.after member
    obtain ⟨label', less'⟩ := sweep.before member found
    rw [found] at found'
    cases found'
    cases entry
    cases first
    simp_all
    omega
  refine (List.perm_ext_iff_of_nodup (nodup _ sweep.names) (nodup _ (names_entries start))).2 ?_
  rintro ⟨value, entry⟩
  rw [SortedMap.mem_entries_iff]
  constructor
  · intro member
    obtain ⟨entry', found, -, -⟩ := sweep.after member
    rw [same member found, found]
  · intro found
    obtain ⟨entry', member, -, -⟩ := sweep.exists_mem covers found
    rw [same member found] at member
    exact member

end Sweep

end RaceSentry.Ledger
