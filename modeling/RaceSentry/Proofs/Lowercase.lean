import RaceSentry.Text.Lowercase

/-!
# Lower case and basic letters

Basic characters are those with a code point below 128, and only the capitals A to Z among them have
a lower-case form other than themselves. No other character has one that is basic throughout, save
for the kelvin sign, which becomes `k`: the dotted capital I becomes `i` with a dot of its own. So a
basic text without a `k` is the lower case of those texts alone that are spelled with its letters,
small or capital.
Main statement: `lowercase_eq_iff`.
-/

namespace RaceSentry.Text

/-- Whether a character has a code point below 128. -/
def isBasic (char : Char) : Bool := char.toNat < 128

/-- The row of the capitals A to Z. -/
def capitals : CaseRow := ⟨0x41, 0x5A, 1, 0x61⟩

/-- The row of the kelvin sign, whose lower-case form is `k`. -/
def kelvin : CaseRow := ⟨0x212A, 0x212A, 1, 0x6B⟩

/-- Neither the characters of a row nor their lower-case forms are basic, and the latter exist. -/
def CaseRow.IsForeign (row : CaseRow) : Prop :=
  128 ≤ row.first ∧ 128 ≤ row.target ∧
    (row.target + (row.last - row.first) < 0xD800 ∨
      0xDFFF < row.target ∧ row.target + (row.last - row.first) < 0x110000)

instance (row : CaseRow) : Decidable row.IsForeign :=
  inferInstanceAs (Decidable (_ ∧ _ ∧ _))

deriving instance DecidableEq for CaseRow

/-- The capitals are the first row. -/
theorem lowercaseRows_eq_cons : lowercaseRows = capitals :: lowercaseRows.tail := rfl

/-- Of the other rows the kelvin sign alone has a basic form. -/
theorem isForeign_of_mem_tail :
    ∀ row ∈ lowercaseRows.tail, row = kelvin ∨ row.IsForeign := by
  decide +kernel

/-- A row maps characters of its range only. -/
theorem CaseRow.range_of_maps {row : CaseRow} {char : Char} (mapped : row.maps char = true) :
    row.first ≤ char.toNat ∧ char.toNat ≤ row.last := by
  simp only [CaseRow.maps, Bool.and_eq_true, decide_eq_true_eq] at mapped
  exact mapped.1

/-- The code point of a lower-case form. -/
theorem CaseRow.toNat_apply {row : CaseRow} (foreign : row.IsForeign) {char : Char}
    (mapped : row.maps char = true) :
    (row.apply char).toNat = row.target + (char.toNat - row.first) := by
  obtain ⟨least, most⟩ := CaseRow.range_of_maps mapped
  obtain ⟨_, _, exist⟩ := foreign
  have valid : (row.target + (char.toNat - row.first)).isValidChar := by
    unfold Nat.isValidChar
    omega
  rw [CaseRow.apply, Char.ofNat, dif_pos valid]
  rfl

/-- Of basic characters the capitals have another lower-case form. -/
theorem lowerChar_of_isBasic {char : Char} (basic : isBasic char = true) :
    lowerChar char = char.toLower := by
  have small : char.toNat < 128 := by simpa [isBasic] using basic
  have table : ∀ code : Fin 128, lowerChar (Char.ofNat code) = (Char.ofNat code).toLower := by
    decide +kernel
  have found := table ⟨char.toNat, small⟩
  rwa [Char.ofNat_toNat] at found

/-- The lower-case form of another character is the letter k or is not basic either. -/
theorem isBasic_lowerChar {char : Char} (foreign : isBasic char = false) :
    lowerChar char = 'k' ∨ isBasic (lowerChar char) = false := by
  have large : 128 ≤ char.toNat := by simpa [isBasic] using foreign
  unfold lowerChar
  cases found : lowercaseRows.find? (·.maps char) with
  | none => exact .inr foreign
  | some row =>
    have mapped : row.maps char = true := by simpa using List.find?_some found
    have listed := List.mem_of_find?_eq_some found
    rw [lowercaseRows_eq_cons, List.mem_cons] at listed
    rcases listed with rfl | listed
    · have range := CaseRow.range_of_maps mapped
      have most : char.toNat ≤ 0x5A := range.2
      omega
    · rcases isForeign_of_mem_tail row listed with rfl | strange
      · obtain ⟨least, most⟩ := CaseRow.range_of_maps mapped
        have place : char.toNat = 0x212A := Nat.le_antisymm most least
        left
        simp [CaseRow.apply, kelvin, place]
      · right
        have code := CaseRow.toNat_apply strange mapped
        have far : 128 ≤ row.target := strange.2.1
        simp only [isBasic, decide_eq_false_iff_not]
        omega

/-- Basic texts lower-case letter by letter. -/
theorem lowerFrom_of_isBasic {chars : List Char} (basic : ∀ char ∈ chars, isBasic char = true)
    (before : List Char) : lowerFrom before chars = chars.map Char.toLower := by
  induction chars generalizing before with
  | nil => rfl
  | cons char after ih =>
    have head : isBasic char = true := basic char (List.mem_cons_self ..)
    have notDotted : char ≠ '\u0130' := by
      rintro rfl
      exact absurd head (by decide)
    have notSigma : char ≠ '\u03a3' := by
      rintro rfl
      exact absurd head (by decide)
    have rest := ih (fun other member => basic other (List.mem_cons_of_mem _ member))
      (char :: before)
    rw [lowerFrom, if_neg notDotted, if_neg notSigma, lowerChar_of_isBasic head, rest]
    rfl

/-- The lower case of a text that is not basic has a k or is not basic either. -/
theorem exists_foreign_of_mem {chars : List Char} {char : Char} (member : char ∈ chars)
    (foreign : isBasic char = false) (before : List Char) :
    ∃ lowered ∈ lowerFrom before chars, lowered = 'k' ∨ isBasic lowered = false := by
  induction chars generalizing before with
  | nil => cases member
  | cons first after ih =>
    rw [lowerFrom]
    rcases List.mem_cons.1 member with rfl | member
    · by_cases dotted : char = '\u0130'
      · refine ⟨'\u0307', ?_, .inr (by decide)⟩
        simp [dotted]
      · by_cases isSigma : char = '\u03a3'
        · refine ⟨sigma before after, ?_, .inr ?_⟩
          · simp [isSigma]
          · unfold sigma
            split
            · decide
            · decide
        · refine ⟨lowerChar char, ?_, isBasic_lowerChar foreign⟩
          simp [dotted, isSigma]
    · obtain ⟨lowered, found, strange⟩ := ih member (first :: before)
      exact ⟨lowered, List.mem_append_right _ found, strange⟩

/-- A character that is not basic is its own lower case among the letters A to Z. -/
theorem toLower_of_foreign {char : Char} (foreign : isBasic char = false) :
    char.toLower = char := by
  have large : 128 ≤ char.toNat := by simpa [isBasic] using foreign
  have beyond : 'Z'.val.toNat < char.val.toNat := Nat.lt_of_lt_of_le (by decide) large
  have outside : ¬ (char.val ≥ 'A'.val ∧ char.val ≤ 'Z'.val) := by
    rw [UInt32.le_iff_toNat_le (b := 'Z'.val)]
    omega
  exact dif_neg outside

/-- A basic text without a k is the lower case of its own letters alone, small or capital. -/
theorem lowercase_eq_iff {name : String}
    (plain : ∀ char ∈ name.toList, char ≠ 'k' ∧ isBasic char = true) (text : String) :
    lowercase text = name ↔ text.toLower = name := by
  have letters : text.toLower.toList = text.toList.map Char.toLower := String.toList_map
  by_cases basic : ∀ char ∈ text.toList, isBasic char = true
  · have same : lowercase text = text.toLower := by
      rw [lowercase, lowerFrom_of_isBasic basic, ← letters, String.ofList_toList]
    rw [same]
  · obtain ⟨char, member, foreign⟩ : ∃ char ∈ text.toList, isBasic char = false := by
      simpa using basic
    constructor
    · rintro rfl
      obtain ⟨lowered, found, strange⟩ := exists_foreign_of_mem member foreign []
      have kept := plain lowered (by rwa [lowercase, String.toList_ofList])
      simp [kept] at strange
    · rintro rfl
      have kept := plain char (by
        rw [letters, List.mem_map]
        exact ⟨char, member, toLower_of_foreign foreign⟩)
      simp [kept] at foreign

end RaceSentry.Text
