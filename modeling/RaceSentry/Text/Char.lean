/-!
# Characters

Sets of characters are listed as ranges of code points, both ends included; white space is one of
them. Hexadecimal digits are written in lower case and read in either case.
-/

namespace RaceSentry.Text

/-- Whether a character lies in one of the ranges. -/
def covers (ranges : List (Nat × Nat)) (char : Char) : Bool :=
  ranges.any fun range => range.1 ≤ char.toNat && char.toNat ≤ range.2

/-- Code points that are white space. -/
def blankRanges : List (Nat × Nat) := [
  (0x9, 0xD), (0x20, 0x20), (0x85, 0x85), (0xA0, 0xA0), (0x1680, 0x1680), (0x2000, 0x200A),
  (0x2028, 0x2029), (0x202F, 0x202F), (0x205F, 0x205F), (0x3000, 0x3000)]

/-- Whether a character is white space. -/
def isBlank (char : Char) : Bool := covers blankRanges char

/-- The text without the white space at its front. -/
def skipBlanks (chars : List Char) : List Char := chars.dropWhile isBlank

/-- There are hexadecimal digits. -/
instance neZero_sixteen : @NeZero Nat Zero.ofOfNat0 16 := ⟨by decide⟩

/-- The value of a hexadecimal digit. -/
def hexValue? (digit : Char) : Option (Fin 16) :=
  let code := digit.toNat
  if 48 ≤ code ∧ code ≤ 57 then some (Fin.ofNat 16 (code - 48))
  else if 97 ≤ code ∧ code ≤ 102 then some (Fin.ofNat 16 (code - 87))
  else if 65 ≤ code ∧ code ≤ 70 then some (Fin.ofNat 16 (code - 55))
  else none

/-- The lower-case digit of a value. -/
def hexDigit (value : Fin 16) : Char :=
  if value.val < 10 then Char.ofNat (48 + value.val) else Char.ofNat (87 + value.val)

/-- The number spelled by hexadecimal digits, most significant first. -/
def hexNumber? (digits : List Char) : Option Nat :=
  digits.foldlM (fun number digit => (hexValue? digit).map fun value => 16 * number + value.val) 0

/-- A written digit reads back. -/
theorem hexValue?_hexDigit (value : Fin 16) : hexValue? (hexDigit value) = some value := by
  revert value
  decide

end RaceSentry.Text
