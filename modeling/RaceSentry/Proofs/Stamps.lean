import Mathlib.Algebra.GroupWithZero.Nat
import Mathlib.Data.List.TakeWhile
import RaceSentry.Calendar.Timestamp
import RaceSentry.Uuid

/-!
# Identifiers and moments read back

What is written of an identifier or of a moment is read as it. Both are written in parts of known
widths, and a reader takes from the text as many characters as were written for each part: a part of
fixed width by its width, the year and the fraction of a second by the mark after them.
Main statements: `Uuid.parse?_text` and `Timestamp.parse?_text`.
-/

namespace RaceSentry

namespace Uuid

/-- Digits in base sixteen are read as they were written. -/
theorem mapM_hexValue?_map_hexDigit (digits : List (Fin 16)) :
    (digits.map Text.hexDigit).mapM Text.hexValue? = some digits := by
  induction digits with
  | nil => rfl
  | cons digit rest ih =>
    rw [List.map_cons, List.mapM_cons, Text.hexValue?_hexDigit, ih]
    rfl

/-- Written digits are the identifier. -/
theorem ofDigits?_map_hexDigit (id : Uuid) : ofDigits? (id.digits.map Text.hexDigit) = some id := by
  rw [ofDigits?, mapM_hexValue?_map_hexDigit]
  simp only [id.size, ↓reduceDIte]

/-- Groups of the five widths are put together without their hyphens. -/
theorem ofGroups?_groups {first second third fourth fifth : List Char} (one : first.length = 8)
    (two : second.length = 4) (three : third.length = 4) (four : fourth.length = 4)
    (five : fifth.length = 12) :
    ofGroups? (first ++ '-' :: second ++ '-' :: third ++ '-' :: fourth ++ '-' :: fifth) =
      ofDigits? (first ++ second ++ third ++ fourth ++ fifth) := by
  rw [ofGroups?, if_pos]
  · congr 1
    simp (disch := omega) [List.drop_append, List.drop_of_length_le, one, two, three, four]
  · simp [List.getElem?_append, List.getElem?_cons, one, two, three, four, five]

/-- An identifier is read as it was written. -/
theorem parse?_text (id : Uuid) : parse? id.text = some id := by
  have size : (id.digits.map Text.hexDigit).length = 32 := by rw [List.length_map, id.size]
  have long : id.chars.length = 36 := by simp [chars, size]
  have groups : ofGroups? id.chars = some id := by
    rw [chars, ofGroups?_groups (by simp [size]) (by simp [size]) (by simp [size])
      (by simp [size]) (by simp [size]), ← List.take_add, ← List.take_add, ← List.take_add,
      List.take_append_drop, ofDigits?_map_hexDigit]
  rw [parse?, text, String.toList_ofList]
  simp [long, groups]

end Uuid

namespace Timestamp

/-- Padded numbers are written in digits. -/
theorem isDigit_of_mem_padded {width number : Nat} {char : Char}
    (member : char ∈ padded width number) : char.isDigit = true := by
  cases List.mem_append.1 member with
  | inl zero => rw [List.eq_of_mem_replicate zero]; decide
  | inr digit => exact Nat.isDigit_of_mem_toDigits (by decide) (by decide) digit

/-- A padded number is never empty. -/
theorem padded_ne_nil (width number : Nat) : padded width number ≠ [] := by
  intro empty
  exact Nat.toDigits_ne_nil (List.append_eq_nil_iff.1 empty).2

/-- Zeros in front come to zero. -/
theorem ofDigitChars_replicate_zero (count : Nat) :
    Nat.ofDigitChars 10 (List.replicate count '0') 0 = 0 := by
  induction count with
  | zero => rfl
  | succ count ih => rw [List.replicate_succ, Nat.ofDigitChars_cons]; exact ih

/-- Zeros in front do not change a number. -/
theorem ofDigitChars_padded (width number : Nat) :
    Nat.ofDigitChars 10 (padded width number) 0 = number := by
  rw [padded, Nat.ofDigitChars_append, ofDigitChars_replicate_zero,
    Nat.ofDigitChars_toDigits (by decide) (by decide)]

/-- A number that fits its width fills it. -/
theorem length_padded {width number : Nat} (wide : 0 < width) (fits : number < 10 ^ width) :
    (padded width number).length = width := by
  have short : (Nat.toDigits 10 number).length ≤ width :=
    (Nat.length_toDigits_le_iff (by decide) wide).2 fits
  rw [padded, List.length_append, List.length_replicate]
  omega

/-- Digits are told from what follows: either no more are looked for, or what follows is none. -/
theorem takeWhile_isDigit {most : Nat} {digits rest : List Char}
    (numeral : ∀ char ∈ digits, char.isDigit = true) (short : digits.length ≤ most)
    (ended : digits.length = most ∨ ∀ char ∈ rest.head?, char.isDigit = false) :
    ((digits ++ rest).take most).takeWhile Char.isDigit = digits := by
  rw [List.take_append, List.take_of_length_le short, List.takeWhile_append_of_pos numeral]
  suffices none : (rest.take (most - digits.length)).takeWhile Char.isDigit = [] by
    rw [none, List.append_nil]
  cases ended with
  | inl full => rw [full, Nat.sub_self, List.take_zero, List.takeWhile_nil]
  | inr other =>
    cases rest with
    | nil => rw [List.take_nil, List.takeWhile_nil]
    | cons char more =>
      cases most - digits.length with
      | zero => rfl
      | succ left =>
        rw [List.take_succ_cons, List.takeWhile_cons_of_neg (by simp [other char rfl])]

/-- A number is read as it was written. -/
theorem number?_padded {most width number : Nat} {rest : List Char}
    (short : (padded width number).length ≤ most)
    (ended : (padded width number).length = most ∨ ∀ char ∈ rest.head?, char.isDigit = false) :
    number? most (padded width number ++ rest) = some (number, rest) := by
  have digits := takeWhile_isDigit (fun _ => isDigit_of_mem_padded) short ended
  simp only [number?, digits, List.isEmpty_iff, padded_ne_nil, ↓reduceIte, ofDigitChars_padded,
    List.drop_left]

/-- A digit is no blank. -/
theorem isBlank_of_isDigit {char : Char} (digit : char.isDigit = true) :
    Text.isBlank char = false := by
  obtain ⟨least, most⟩ := Char.isDigit_iff_toNat.1 digit
  change 48 ≤ char.toNat at least
  change char.toNat ≤ 57 at most
  simp only [Text.isBlank, Text.covers, Text.blankRanges, List.any_cons, List.any_nil,
    Bool.or_false, Bool.or_eq_false_iff, Bool.and_eq_false_iff, decide_eq_false_iff_not]
  omega

/-- There is nothing to skip before a mark that is no blank. -/
theorem skipBlanks_cons {char : Char} (mark : Text.isBlank char = false) (rest : List Char) :
    Text.skipBlanks (char :: rest) = char :: rest :=
  List.dropWhile_cons_of_neg (by simp [mark])

/-- There is a first digit. -/
theorem exists_padded_eq_cons (width number : Nat) :
    ∃ digit more, padded width number = digit :: more ∧ digit.isDigit = true := by
  cases digits : padded width number with
  | nil => exact absurd digits (padded_ne_nil width number)
  | cons digit more =>
    exact ⟨digit, more, rfl, isDigit_of_mem_padded (digits ▸ List.mem_cons_self)⟩

/-- No blanks stand before a number. -/
theorem skipBlanks_padded (width number : Nat) (rest : List Char) :
    Text.skipBlanks (padded width number ++ rest) = padded width number ++ rest := by
  obtain ⟨digit, more, first, numeral⟩ := exists_padded_eq_cons width number
  rw [first]
  exact skipBlanks_cons (isBlank_of_isDigit numeral) _

/-- A padded number of two digits is read as it was written. -/
theorem field?_padded {number : Nat} (fits : number < 100) (rest : List Char) :
    field? (padded 2 number ++ rest) = some (number, rest) := by
  have full : (padded 2 number).length = 2 := length_padded (by decide) fits
  rw [field?, skipBlanks_padded, number?_padded full.le (.inl full)]

/-- A separator that stands where it should is passed. -/
theorem separator?_cons {mark : Char} (noBlank : Text.isBlank mark = false) (rest : List Char) :
    separator? mark (mark :: rest) = some rest := by
  rw [separator?, skipBlanks_cons noBlank]
  exact if_pos rfl

/-- A year is read as it was written, if no digit follows. -/
theorem year?_yearChars (year : Int) {rest : List Char}
    (ended : ∀ char ∈ rest.head?, char.isDigit = false) :
    year? (yearChars year ++ rest) = some (year, rest) := by
  unfold yearChars
  split
  · rename_i plain
    have full : (padded 4 year.toNat).length = 4 := length_padded (by decide) (by omega)
    have read : number? 4 (padded 4 year.toNat ++ rest) = some (year.toNat, rest) :=
      number?_padded full.le (.inl full)
    obtain ⟨digit, more, first, numeral⟩ := exists_padded_eq_cons 4 year.toNat
    unfold year?
    rw [skipBlanks_padded]
    split
    · rename_i minus
      rw [first] at minus
      rw [(List.cons.inj minus).1] at numeral
      exact absurd numeral (by decide)
    · rename_i plus
      rw [first] at plus
      rw [(List.cons.inj plus).1] at numeral
      exact absurd numeral (by decide)
    · rw [read]
      exact congrArg some (Prod.ext (Int.toNat_of_nonneg plain.1) rfl)
  · rename_i signed
    have short : (padded 4 year.natAbs).length ≤ (padded 4 year.natAbs ++ rest).length := by
      rw [List.length_append]
      exact Nat.le_add_right _ _
    have read := number?_padded short (.inr ended)
    split
    · rename_i negative
      rw [List.cons_append, year?, skipBlanks_cons (by decide)]
      simp only [read, Option.map_some]
      rw [Int.ofNat_natAbs_of_nonpos (by omega), Int.neg_neg]
    · rename_i late
      rw [List.cons_append, year?, skipBlanks_cons (by decide)]
      simp only [read, Option.map_some]
      rw [Int.natAbs_of_nonneg (by omega)]

/-- A fraction is read to its place, if no digit follows. -/
theorem fraction?_padded {width number : Nat} (wide : 0 < width) (small : width ≤ 9)
    (fits : number < 10 ^ width) {rest : List Char}
    (ended : ∀ char ∈ rest.head?, char.isDigit = false) :
    fraction? ('.' :: padded width number ++ rest) =
      some (number * 10 ^ (9 - width), rest) := by
  have full := length_padded wide fits
  have short : (padded width number).length ≤ (padded width number ++ rest).length := by
    rw [List.length_append]
    exact Nat.le_add_right _ _
  have digits := takeWhile_isDigit (fun _ => isDigit_of_mem_padded) short (.inr ended)
  rw [List.take_length] at digits
  have kept : (padded width number).take 9 = padded width number :=
    List.take_of_length_le (full.trans_le small)
  simp only [List.cons_append, fraction?, digits, List.isEmpty_iff, padded_ne_nil, ↓reduceIte,
    kept, ofDigitChars_padded, full, List.drop_left' full]
  rfl

/-- A fraction of a second is read as it was written, in whichever of the widths that was. -/
theorem fraction?_fractionChars {nanos : Nat} (within : nanos < 1000000000) {rest : List Char} :
    fraction? (fractionChars nanos ++ 'Z' :: rest) = some (nanos, 'Z' :: rest) := by
  have ended : ∀ char ∈ ('Z' :: rest).head?, char.isDigit = false := by
    rintro char ⟨⟩
    decide
  unfold fractionChars
  split
  · rename_i zero
    rw [zero]
    rfl
  · split
    · rename_i millis
      rw [fraction?_padded (by decide) (by decide) (by omega) ended]
      congr 2
      omega
    · split
      · rename_i micros
        rw [fraction?_padded (by decide) (by decide) (by omega) ended]
        congr 2
        omega
      · rw [fraction?_padded (by decide) (by decide) within ended]
        congr 2
        omega

/-- A date is read as it was written. -/
theorem date?_chars (date : Date) (rest : List Char) :
    date? (yearChars date.year ++ '-' :: padded 2 date.month ++ '-' :: padded 2 date.day ++
      rest) = some (date, rest) := by
  have month : date.month < 100 := by
    have := date.month_within
    omega
  have day : date.day < 100 := by
    have most : daysInMonth date.year date.month ≤ 31 := by
      unfold daysInMonth
      split_ifs <;> decide
    have := date.day_within
    omega
  simp only [date?, List.append_assoc, List.cons_append]
  rw [year?_yearChars date.year (by rintro char ⟨⟩; decide)]
  have hyphen : ∀ rest, separator? '-' ('-' :: rest) = some rest := separator?_cons (by decide)
  simp only [Option.bind_eq_bind, Option.bind_some, hyphen, field?_padded month,
    field?_padded day, Date.ofParts?_parts]

/-- A time of day is read as it was written, a leap second among them. -/
theorem timeOfDay?_chars (time : Timestamp) :
    timeOfDay? (padded 2 (time.second / 3600) ++ ':' :: padded 2 (time.second / 60 % 60) ++
      ':' :: padded 2 (time.second % 60 + time.nanos / 1000000000) ++
        fractionChars (time.nanos % 1000000000) ++ ['Z']) =
      some (time.second, time.nanos, ['Z']) := by
  have second := time.second_within
  have nanos := time.nanos_within
  have leap := time.leap
  have hours : time.second / 3600 < 100 := by omega
  have minutes : time.second / 60 % 60 < 100 := by omega
  have seconds : time.second % 60 + time.nanos / 1000000000 < 100 := by omega
  have colon : ∀ rest, separator? ':' (':' :: rest) = some rest := separator?_cons (by decide)
  have fraction : fraction? (fractionChars (time.nanos % 1000000000) ++ ['Z']) =
      some (time.nanos % 1000000000, ['Z']) := fraction?_fractionChars (Nat.mod_lt _ (by decide))
  simp only [timeOfDay?, List.append_assoc, List.cons_append, Option.bind_eq_bind,
    Option.bind_some, colon, field?_padded hours, field?_padded minutes, field?_padded seconds,
    fraction]
  rw [if_pos (by omega)]
  -- The second that was written is 60 in a leap second only.
  split
  · rename_i sixty
    congr 2
    · omega
    · congr 1
      omega
  · rename_i ordinary
    congr 2
    · omega
    · congr 1
      omega

/-- A clock of universal time shows the moment itself. -/
theorem ofLocal?_zero (time : Timestamp) :
    ofLocal? time.date time.second time.nanos 0 = some time := by
  have second := time.second_within
  rw [ofLocal?, Int.sub_zero, if_neg (by omega), if_pos (by omega), Int.toNat_natCast, ofParts?,
    dif_pos time.second_within, dif_pos time.nanos_within, dif_pos time.leap]

/-- A moment is read as it was written. -/
theorem parse?_text (time : Timestamp) : parse? time.text = some time := by
  have date := date?_chars time.date
  have timeOfDay := timeOfDay?_chars time
  have noBlank : Text.skipBlanks ['Z'] = ['Z'] := skipBlanks_cons (by decide) []
  have universal : offset? ['Z'] = some (0, []) := by decide
  simp only [List.append_assoc, List.cons_append] at date timeOfDay
  simp only [parse?, text, String.toList_ofList, chars, List.append_assoc, List.cons_append, date,
    Option.bind_eq_bind, Option.bind_some, Char.reduceEq, or_true, or_false, ↓reduceIte]
  rw [timeOfDay, Option.bind_some, noBlank, universal, Option.bind_some, if_pos ⟨rfl, by decide⟩,
    ofLocal?_zero]

end Timestamp

end RaceSentry
