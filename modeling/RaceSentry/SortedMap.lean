/-!
# Finite maps in key order

A map is the list of its entries, strictly ascending in the rank of the keys, so two maps that
answer every lookup alike are equal. Listing a map shows its entries in that order.
Main statements: `get?_insert`, `get?_erase` and `SortedMap.ext_get?`.
-/

namespace RaceSentry

/-- Keys are told apart, and put in order, by a natural number. -/
class Ranked (κ : Type) where
  /-- The place of a key in the order. -/
  rank : κ → Nat
  /-- No two keys share a place. -/
  rank_injective : ∀ left right : κ, rank left = rank right → left = right

export Ranked (rank)

namespace Ranked

variable {κ : Type} [Ranked κ]

/-- Equal places are equal keys. -/
theorem rank_eq_iff {left right : κ} : rank left = rank right ↔ left = right :=
  ⟨rank_injective left right, fun h => h ▸ rfl⟩

/-- Equality of keys is decided on their places. -/
instance (priority := low) : DecidableEq κ := fun left right =>
  decidable_of_iff (rank left = rank right) rank_eq_iff

end Ranked

namespace Entries

variable {κ ν : Type} [Ranked κ]

/-- Entries are ascending when each key stands strictly before all later ones. -/
def Ascending (entries : List (κ × ν)) : Prop :=
  entries.Pairwise (fun earlier later => rank earlier.1 < rank later.1)

/-- The value stored with a key. -/
def lookup (key : κ) : List (κ × ν) → Option ν
  | [] => none
  | entry :: rest => if rank key = rank entry.1 then some entry.2 else lookup key rest

/-- Puts an entry at its place, over an entry of the same key. -/
def insert (key : κ) (value : ν) : List (κ × ν) → List (κ × ν)
  | [] => [(key, value)]
  | entry :: rest =>
    if rank key < rank entry.1 then (key, value) :: entry :: rest
    else if rank key = rank entry.1 then (key, value) :: rest
    else entry :: insert key value rest

/-- Takes the entry of a key out. -/
def erase (key : κ) : List (κ × ν) → List (κ × ν)
  | [] => []
  | entry :: rest => if rank key = rank entry.1 then rest else entry :: erase key rest

/-- An inserted list holds the new entry and entries it had before. -/
theorem mem_insert {key : κ} {value : ν} {entries : List (κ × ν)} {entry : κ × ν}
    (h : entry ∈ insert key value entries) : entry = (key, value) ∨ entry ∈ entries := by
  induction entries with
  | nil => simpa [insert] using h
  | cons first rest ih =>
    unfold insert at h
    split at h
    · simpa using h
    · split at h
      · rcases List.mem_cons.1 h with h | h
        · exact .inl h
        · exact .inr (List.mem_cons_of_mem _ h)
      · rcases List.mem_cons.1 h with h | h
        · exact .inr (h ▸ List.mem_cons_self)
        · rcases ih h with h | h
          · exact .inl h
          · exact .inr (List.mem_cons_of_mem _ h)

/-- Taking an entry out adds none. -/
theorem mem_of_mem_erase {key : κ} {entries : List (κ × ν)} {entry : κ × ν}
    (h : entry ∈ erase key entries) : entry ∈ entries := by
  induction entries with
  | nil => simp [erase] at h
  | cons first rest ih =>
    unfold erase at h
    split at h
    · exact List.mem_cons_of_mem _ h
    · rcases List.mem_cons.1 h with h | h
      · exact h ▸ List.mem_cons_self
      · exact List.mem_cons_of_mem _ (ih h)

/-- Insertion keeps the order. -/
theorem Ascending.insert {entries : List (κ × ν)} (sorted : Ascending entries) (key : κ)
    (value : ν) : Ascending (Entries.insert key value entries) := by
  induction entries with
  | nil => exact List.pairwise_singleton _ _
  | cons first rest ih =>
    have parts := List.pairwise_cons.1 sorted
    unfold Entries.insert
    split
    · rename_i before
      refine List.pairwise_cons.2 ⟨fun entry member => ?_, sorted⟩
      rcases List.mem_cons.1 member with rfl | member
      · exact before
      · exact Nat.lt_trans before (parts.1 entry member)
    · split
      · rename_i same
        refine List.pairwise_cons.2 ⟨fun entry member => ?_, parts.2⟩
        have later := parts.1 entry member
        simpa [same] using later
      · rename_i notBefore notSame
        refine List.pairwise_cons.2 ⟨fun entry member => ?_, ih parts.2⟩
        rcases mem_insert member with rfl | member
        · exact Nat.lt_of_le_of_ne (Nat.le_of_not_lt notBefore) (Ne.symm notSame)
        · exact parts.1 entry member

/-- Taking an entry out keeps the order. -/
theorem Ascending.erase {entries : List (κ × ν)} (sorted : Ascending entries) (key : κ) :
    Ascending (Entries.erase key entries) := by
  induction entries with
  | nil => exact List.Pairwise.nil
  | cons first rest ih =>
    have parts := List.pairwise_cons.1 sorted
    unfold Entries.erase
    split
    · exact parts.2
    · exact List.pairwise_cons.2
        ⟨fun entry member => parts.1 entry (mem_of_mem_erase member), ih parts.2⟩

/-- A key below the first entry is not stored. -/
theorem lookup_eq_none_of_lt {key : κ} {entries : List (κ × ν)}
    (below : ∀ entry ∈ entries, rank key < rank entry.1) : lookup key entries = none := by
  induction entries with
  | nil => rfl
  | cons first rest ih =>
    have here := below first List.mem_cons_self
    rw [lookup, if_neg (Nat.ne_of_lt here)]
    exact ih fun entry member => below entry (List.mem_cons_of_mem _ member)

/-- Lookup after insertion. -/
theorem lookup_insert (key other : κ) (value : ν) (entries : List (κ × ν)) :
    lookup other (insert key value entries) =
      if other = key then some value else lookup other entries := by
  induction entries with
  | nil =>
    simp only [insert, lookup, Ranked.rank_eq_iff]
  | cons first rest ih =>
    unfold insert
    split
    · simp only [lookup, Ranked.rank_eq_iff]
    · split
      · rename_i same
        have same := Ranked.rank_eq_iff.1 same
        by_cases h : other = key
        · simp [lookup, h]
        · simp [lookup, h, ← same, Ranked.rank_eq_iff]
      · rename_i notSame
        have notSame : ¬ key = first.1 := fun h => notSame (Ranked.rank_eq_iff.2 h)
        by_cases h : other = first.1
        · have different : ¬ first.1 = key := fun same => notSame same.symm
          simp [lookup, h, different]
        · simp [lookup, h, ih, Ranked.rank_eq_iff]

/-- Insertion adds an entry unless it puts one in place of another. -/
theorem length_insert {entries : List (κ × ν)} (sorted : Ascending entries) (key : κ)
    (value : ν) :
    (insert key value entries).length =
      if (lookup key entries).isSome then entries.length else entries.length + 1 := by
  induction entries with
  | nil => rfl
  | cons first rest ih =>
    have parts := List.pairwise_cons.1 sorted
    unfold insert lookup
    split
    · rename_i before
      have absent : lookup key rest = none := lookup_eq_none_of_lt fun entry member =>
        Nat.lt_trans before (parts.1 entry member)
      rw [if_neg (Nat.ne_of_lt before), absent]
      rfl
    · split
      · rfl
      · rw [List.length_cons, ih parts.2, List.length_cons]
        split
        · rfl
        · rfl

/-- Lookup after taking an entry out. -/
theorem lookup_erase {entries : List (κ × ν)} (sorted : Ascending entries) (key other : κ) :
    lookup other (erase key entries) = if other = key then none else lookup other entries := by
  induction entries with
  | nil => simp [erase, lookup]
  | cons first rest ih =>
    have parts := List.pairwise_cons.1 sorted
    unfold erase
    split
    · rename_i same
      have same := Ranked.rank_eq_iff.1 same
      by_cases h : other = key
      · subst h same
        simp [lookup_eq_none_of_lt parts.1]
      · simp [lookup, h, ← same, Ranked.rank_eq_iff]
    · rename_i notSame
      have notSame : ¬ key = first.1 := fun h => notSame (Ranked.rank_eq_iff.2 h)
      by_cases h : other = first.1
      · have different : ¬ first.1 = key := fun same => notSame same.symm
        simp [lookup, h, different]
      · simp [lookup, h, ih parts.2, Ranked.rank_eq_iff]

/-- An entry of an ascending list is what its key looks up, and conversely. -/
theorem mem_iff_lookup {entries : List (κ × ν)} (sorted : Ascending entries) (key : κ)
    (value : ν) : (key, value) ∈ entries ↔ lookup key entries = some value := by
  induction entries with
  | nil => simp [lookup]
  | cons first rest ih =>
    have parts := List.pairwise_cons.1 sorted
    rw [List.mem_cons, lookup]
    split
    · rename_i same
      have absent : (key, value) ∉ rest := fun member =>
        Nat.ne_of_lt (parts.1 _ member) same.symm
      have same := Ranked.rank_eq_iff.1 same
      rcases first with ⟨firstKey, firstValue⟩
      subst same
      simp only [absent, or_false, Prod.mk.injEq, true_and, Option.some.injEq]
      exact eq_comm
    · rename_i notSame
      rw [← ih parts.2]
      constructor
      · rintro (h | h)
        · exact absurd (congrArg (fun entry : κ × ν => rank entry.1) h) notSame
        · exact h
      · exact .inr

/-- Ascending lists that answer every lookup alike are one list. -/
theorem eq_of_lookup {left right : List (κ × ν)} (leftSorted : Ascending left)
    (rightSorted : Ascending right) (same : ∀ key, lookup key left = lookup key right) :
    left = right := by
  induction left generalizing right with
  | nil =>
    cases right with
    | nil => rfl
    | cons first rest => simpa [lookup] using same first.1
  | cons leftFirst leftRest ih =>
    cases right with
    | nil => simpa [lookup] using same leftFirst.1
    | cons rightFirst rightRest =>
      have leftParts := List.pairwise_cons.1 leftSorted
      have rightParts := List.pairwise_cons.1 rightSorted
      have inRight := (mem_iff_lookup rightSorted leftFirst.1 leftFirst.2).2
        (by rw [← same]; simp [lookup])
      have inLeft := (mem_iff_lookup leftSorted rightFirst.1 rightFirst.2).2
        (by rw [same]; simp [lookup])
      have first : leftFirst = rightFirst := by
        rcases List.mem_cons.1 inRight with h | h
        · exact h
        · rcases List.mem_cons.1 inLeft with h' | h'
          · exact h'.symm
          · exact absurd (Nat.lt_trans (leftParts.1 _ h') (rightParts.1 _ h)) (Nat.lt_irrefl _)
      subst first
      congr 1
      refine ih leftParts.2 rightParts.2 fun key => ?_
      by_cases h : key = leftFirst.1
      · rw [lookup_eq_none_of_lt (by rw [h]; exact leftParts.1),
          lookup_eq_none_of_lt (by rw [h]; exact rightParts.1)]
      · simpa [lookup, Ranked.rank_eq_iff, h] using same key

end Entries

/-- A finite map, kept as its entries in ascending key order. -/
structure SortedMap (κ ν : Type) [Ranked κ] where
  /-- The entries, lowest key first. -/
  entries : List (κ × ν)
  /-- Keys ascend strictly, so each occurs once. -/
  ascending : Entries.Ascending entries

namespace SortedMap

variable {κ ν : Type} [Ranked κ]

/-- The map without entries. -/
def empty : SortedMap κ ν := ⟨[], List.Pairwise.nil⟩

instance : EmptyCollection (SortedMap κ ν) := ⟨empty⟩

instance : Inhabited (SortedMap κ ν) := ⟨empty⟩

instance [DecidableEq ν] : DecidableEq (SortedMap κ ν) := fun left right =>
  decidable_of_iff (left.entries = right.entries) (by cases left; cases right; simp)

/-- The value stored with a key. -/
def get? (map : SortedMap κ ν) (key : κ) : Option ν := Entries.lookup key map.entries

/-- Stores a value, over a value already stored with the key. -/
def insert (map : SortedMap κ ν) (key : κ) (value : ν) : SortedMap κ ν :=
  ⟨Entries.insert key value map.entries, map.ascending.insert key value⟩

/-- Forgets a key. -/
def erase (map : SortedMap κ ν) (key : κ) : SortedMap κ ν :=
  ⟨Entries.erase key map.entries, map.ascending.erase key⟩

/-- Whether a key is stored. -/
def contains (map : SortedMap κ ν) (key : κ) : Bool := (map.get? key).isSome

/-- The number of entries. -/
def size (map : SortedMap κ ν) : Nat := map.entries.length

/-- Whether the map has no entries. -/
def isEmpty (map : SortedMap κ ν) : Bool := map.entries.isEmpty

/-- The keys in ascending order. -/
def keys (map : SortedMap κ ν) : List κ := map.entries.map Prod.fst

/-- The values in the order of their keys. -/
def values (map : SortedMap κ ν) : List ν := map.entries.map Prod.snd

/-- Rewrites the value of a key that is stored. -/
def modify (map : SortedMap κ ν) (key : κ) (change : ν → ν) : SortedMap κ ν :=
  match map.get? key with
  | some value => map.insert key (change value)
  | none => map

/-- Stores entries one after another, so that a later one wins. -/
def ofList (entries : List (κ × ν)) : SortedMap κ ν :=
  entries.foldl (fun map entry => map.insert entry.1 entry.2) empty

/-- Nothing is in the empty map. -/
@[simp] theorem get?_empty (key : κ) : (∅ : SortedMap κ ν).get? key = none := rfl

/-- After storing a value under a key, that key has this value and all others have what they had. -/
theorem get?_insert (map : SortedMap κ ν) (key other : κ) (value : ν) :
    (map.insert key value).get? other = if other = key then some value else map.get? other :=
  Entries.lookup_insert key other value map.entries

/-- A value that is stored is found. -/
@[simp] theorem get?_insert_self (map : SortedMap κ ν) (key : κ) (value : ν) :
    (map.insert key value).get? key = some value := by
  rw [get?_insert, if_pos rfl]

/-- Storing under one key leaves the others as they are. -/
theorem get?_insert_of_ne (map : SortedMap κ ν) {key other : κ} (value : ν) (h : other ≠ key) :
    (map.insert key value).get? other = map.get? other := by
  rw [get?_insert, if_neg h]

/-- After erasing a key, it has no value and all others have what they had. -/
theorem get?_erase (map : SortedMap κ ν) (key other : κ) :
    (map.erase key).get? other = if other = key then none else map.get? other :=
  Entries.lookup_erase map.ascending key other

/-- After rewriting the value of a key, it has the changed value, if it had one, and all others have
what they had. -/
theorem get?_modify (map : SortedMap κ ν) (key other : κ) (change : ν → ν) :
    (map.modify key change).get? other =
      if other = key then (map.get? key).map change else map.get? other := by
  unfold modify
  split
  · rename_i value found
    rw [get?_insert, found]
    rfl
  · rename_i absent
    split
    · rename_i same
      rw [same, absent]
      rfl
    · rfl

/-- A key is stored exactly if looking it up finds something. -/
theorem contains_iff (map : SortedMap κ ν) (key : κ) :
    map.contains key = true ↔ ∃ value, map.get? key = some value :=
  Option.isSome_iff_exists

/-- Storing under a key adds this key and no other. -/
theorem contains_insert (map : SortedMap κ ν) (key other : κ) (value : ν) :
    (map.insert key value).contains other = (decide (other = key) || map.contains other) := by
  unfold contains
  rw [get?_insert]
  by_cases same : other = key
  · simp [same]
  · simp [same]

/-- Storing under a key that is stored already stores no further key. -/
theorem contains_insert_of_contains {map : SortedMap κ ν} {key : κ}
    (stored : map.contains key = true) (value : ν) (other : κ) :
    (map.insert key value).contains other = map.contains other := by
  rw [contains_insert]
  by_cases same : other = key
  · rw [same, stored, Bool.or_true]
  · rw [decide_eq_false same, Bool.false_or]

/-- Erasing a key removes this key and no other. -/
theorem contains_erase (map : SortedMap κ ν) (key other : κ) :
    (map.erase key).contains other = (!decide (other = key) && map.contains other) := by
  unfold contains
  rw [get?_erase]
  by_cases same : other = key
  · simp [same]
  · simp [same]

/-- Rewriting a value neither adds nor removes keys. -/
@[simp] theorem contains_modify (map : SortedMap κ ν) (key other : κ) (change : ν → ν) :
    (map.modify key change).contains other = map.contains other := by
  unfold contains
  rw [get?_modify]
  by_cases same : other = key
  · rw [if_pos same, Option.isSome_map, same]
  · rw [if_neg same]

/-- Storing adds an entry unless the key is stored already. -/
theorem size_insert (map : SortedMap κ ν) (key : κ) (value : ν) :
    (map.insert key value).size = if map.contains key then map.size else map.size + 1 :=
  Entries.length_insert map.ascending key value

/-- The entries are exactly what lookups find. -/
theorem mem_entries_iff (map : SortedMap κ ν) (key : κ) (value : ν) :
    (key, value) ∈ map.entries ↔ map.get? key = some value :=
  Entries.mem_iff_lookup map.ascending key value

/-- A key is listed exactly if it is stored. -/
theorem mem_keys_iff (map : SortedMap κ ν) (key : κ) :
    key ∈ map.keys ↔ map.contains key = true := by
  rw [contains_iff, keys, List.mem_map]
  constructor
  · rintro ⟨entry, member, rfl⟩
    exact ⟨entry.2, (mem_entries_iff map _ _).1 member⟩
  · rintro ⟨value, found⟩
    exact ⟨(key, value), (mem_entries_iff map _ _).2 found, rfl⟩

/-- Keys are listed in ascending order. -/
theorem keys_ascending (map : SortedMap κ ν) :
    map.keys.Pairwise fun earlier later => rank earlier < rank later :=
  List.pairwise_map.2 map.ascending

/-- No key is listed twice. -/
theorem keys_nodup (map : SortedMap κ ν) : map.keys.Nodup :=
  map.keys_ascending.imp fun before same => Nat.ne_of_lt before (congrArg rank same)

/-- The keys are the one ascending list of what is stored. -/
theorem keys_eq_of_mem_iff (map : SortedMap κ ν) {keys : List κ}
    (ascending : keys.Pairwise fun earlier later => rank earlier < rank later)
    (members : ∀ key, key ∈ keys ↔ map.contains key = true) : map.keys = keys := by
  have nodup : keys.Nodup :=
    ascending.imp fun before same => Nat.ne_of_lt before (congrArg rank same)
  refine List.Perm.eq_of_pairwise ?_ map.keys_ascending ascending
    ((List.perm_ext_iff_of_nodup map.keys_nodup nodup).2 fun key => ?_)
  · intro left right _ _ before after
    exact absurd (Nat.lt_trans before after) (Nat.lt_irrefl _)
  · rw [mem_keys_iff, members]

/-- There are as many keys as entries. -/
theorem length_keys (map : SortedMap κ ν) : map.keys.length = map.size :=
  List.length_map _

/-- Maps that store the same keys are of one size. -/
theorem size_eq_of_contains {μ : Type} {left : SortedMap κ ν} {right : SortedMap κ μ}
    (same : ∀ key, left.contains key = right.contains key) : left.size = right.size := by
  rw [← length_keys, ← length_keys, left.keys_eq_of_mem_iff right.keys_ascending fun key => by
    rw [mem_keys_iff, same]]

/-- Maps that answer every lookup alike are equal. -/
theorem ext_get? {left right : SortedMap κ ν} (same : ∀ key, left.get? key = right.get? key) :
    left = right := by
  cases left with
  | mk leftEntries leftSorted =>
    cases right with
    | mk rightEntries rightSorted =>
      have := Entries.eq_of_lookup leftSorted rightSorted same
      subst this
      rfl

/-- Of two values stored with one key the later one stays. -/
theorem insert_insert (map : SortedMap κ ν) (key : κ) (first second : ν) :
    (map.insert key first).insert key second = map.insert key second := by
  apply ext_get?
  intro other
  simp only [get?_insert]
  split
  · rfl
  · rfl

/-- Values of different keys are stored in any order. -/
theorem insert_comm (map : SortedMap κ ν) {first second : κ} (different : first ≠ second)
    (value value' : ν) :
    (map.insert first value).insert second value' =
      (map.insert second value').insert first value := by
  apply ext_get?
  intro other
  simp only [get?_insert]
  split
  · rename_i here
    rw [if_neg fun same => different (same.symm.trans here)]
  · rfl

/-- Storing what is stored already changes nothing. -/
theorem insert_of_get? {map : SortedMap κ ν} {key : κ} {value : ν}
    (found : map.get? key = some value) : map.insert key value = map := by
  apply ext_get?
  intro other
  rw [get?_insert]
  split
  · rename_i same
    rw [same, found]
  · rfl

/-- Rewriting a stored value stores the new one. -/
theorem modify_of_get? {map : SortedMap κ ν} {key : κ} {value : ν}
    (found : map.get? key = some value) (change : ν → ν) :
    map.modify key change = map.insert key (change value) := by
  rw [modify, found]

/-- Nothing is rewritten under a key that is not stored. -/
theorem modify_of_get?_none {map : SortedMap κ ν} {key : κ} (absent : map.get? key = none)
    (change : ν → ν) : map.modify key change = map := by
  rw [modify, absent]

end SortedMap

variable {β γ : Type}

/-- The sum of a measure over the items of a list. -/
def sumOver : List β → (β → Nat) → Nat
  | [], _ => 0
  | item :: rest, measure => measure item + sumOver rest measure

/-- Measures that agree on all items have the same sum. -/
theorem sumOver_congr {items : List β} {measure other : β → Nat}
    (same : ∀ item ∈ items, measure item = other item) :
    sumOver items measure = sumOver items other := by
  induction items with
  | nil => rfl
  | cons item rest ih =>
    rw [sumOver, sumOver, same item List.mem_cons_self,
      ih fun item member => same item (List.mem_cons_of_mem _ member)]

/-- Measuring changed items is measuring the items by the change and the measure together. -/
theorem sumOver_map (items : List β) (change : β → γ) (measure : γ → Nat) :
    sumOver (items.map change) measure = sumOver items fun item => measure (change item) := by
  induction items with
  | nil => rfl
  | cons item rest ih => rw [List.map_cons, sumOver, sumOver, ih]

/-- The sum over two lists in a row is the sum over the first and the sum over the second. -/
theorem sumOver_append (front back : List β) (measure : β → Nat) :
    sumOver (front ++ back) measure = sumOver front measure + sumOver back measure := by
  induction front with
  | nil => exact (Nat.zero_add _).symm
  | cons item rest ih => rw [List.cons_append, sumOver, sumOver, ih, Nat.add_assoc]

/-- The order of the items does not matter to their sum. -/
theorem sumOver_reverse (items : List β) (measure : β → Nat) :
    sumOver items.reverse measure = sumOver items measure := by
  induction items with
  | nil => rfl
  | cons item rest ih =>
    rw [List.reverse_cons, sumOver_append, ih, sumOver, sumOver, sumOver, Nat.add_zero,
      Nat.add_comm]

end RaceSentry
