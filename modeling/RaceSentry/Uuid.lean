import RaceSentry.Text.Char

/-!
# Universally unique identifiers

An identifier is 32 hexadecimal digits. It is written in lower case in five groups, and read in
either case from that form, from that form in braces or after `urn:uuid:` in either case, and
without hyphens.
-/

namespace RaceSentry

/-- A universally unique identifier. -/
structure Uuid where
  /-- Hexadecimal digits, most significant first. -/
  digits : List (Fin 16)
  /-- There are 32 of them. -/
  size : digits.length = 32
  deriving DecidableEq, Repr

namespace Uuid

/-- The identifier of all zeros. -/
def nil : Uuid := ⟨List.replicate 32 0, List.length_replicate⟩

/-- The version of the identifier, its thirteenth digit. -/
def version (id : Uuid) : Nat := ((id.digits[12]?).getD 0).val

/-- An identifier of version four made from the digits of a random one: the thirteenth digit is
the version, and the highest bits of the seventeenth are its variant. -/
def random (source : Uuid) : Uuid :=
  ⟨(source.digits.set 12 4).set 16 (Fin.ofNat 16 (8 + ((source.digits[16]?).getD 0).val % 4)), by
    simp [source.size]⟩

/-- The written form: groups of 8, 4, 4, 4 and 12 digits. -/
def chars (id : Uuid) : List Char :=
  let digits := id.digits.map Text.hexDigit
  digits.take 8 ++ '-' :: (digits.drop 8).take 4 ++ '-' :: (digits.drop 12).take 4 ++
    '-' :: (digits.drop 16).take 4 ++ '-' :: digits.drop 20

/-- The written form as a text. -/
def text (id : Uuid) : String := String.ofList id.chars

/-- Reads 32 digits without hyphens. -/
def ofDigits? (chars : List Char) : Option Uuid :=
  match chars.mapM Text.hexValue? with
  | none => none
  | some digits => if size : digits.length = 32 then some ⟨digits, size⟩ else none

/-- Reads five groups of digits with hyphens between them. -/
def ofGroups? (chars : List Char) : Option Uuid :=
  if chars.length = 36 ∧ [8, 13, 18, 23].all fun place => chars[place]? == some '-' then
    ofDigits? (chars.take 8 ++ (chars.drop 9).take 4 ++ (chars.drop 14).take 4 ++
      (chars.drop 19).take 4 ++ chars.drop 24)
  else none

/-- Reads any of the four forms. -/
def parse? (text : String) : Option Uuid :=
  let chars := text.toList
  let urn := "urn:uuid:".toList
  if chars.length = 32 then ofDigits? chars
  else if chars.length = 38 ∧ chars.head? = some '{' ∧ chars.getLast? = some '}' then
    ofGroups? (chars.drop 1).dropLast
  else if chars.length = 45 ∧ (chars.take urn.length).map Char.toLower = urn then
    ofGroups? (chars.drop urn.length)
  else ofGroups? chars

end Uuid

end RaceSentry
