import RaceSentry.Text.CaseTable
import RaceSentry.Text.Char

/-!
# Lower case

Lower-casing maps each character on its own, with two exceptions: the capital dotted I becomes
two characters, and a capital sigma at the end of a word takes its final form.
-/

namespace RaceSentry.Text

/-- Letters that have case. -/
def isCased (char : Char) : Bool := covers casedRanges char

/-- Characters that stand inside words without being letters, such as accents and apostrophes. -/
def isCaseIgnorable (char : Char) : Bool := covers caseIgnorableRanges char

namespace CaseRow

/-- Whether a character is mapped by this row. -/
def maps (row : CaseRow) (char : Char) : Bool :=
  row.first ≤ char.toNat && char.toNat ≤ row.last && (char.toNat - row.first) % row.step == 0

/-- The lower-case form of a character of this row. -/
def apply (row : CaseRow) (char : Char) : Char :=
  Char.ofNat (row.target + (char.toNat - row.first))

end CaseRow

/-- Lower case of a character on its own, as one character. -/
def lowerChar (char : Char) : Char :=
  match lowercaseRows.find? (·.maps char) with
  | some row => row.apply char
  | none => char

/-- Whether the next letter, past all that stands inside words, has case. -/
def meetsCased (chars : List Char) : Bool :=
  match chars.dropWhile isCaseIgnorable with
  | [] => false
  | char :: _ => isCased char

/-- The form of a lower-case sigma, given what stands before it, nearest first, and after it. -/
def sigma (before after : List Char) : Char :=
  if meetsCased before && !meetsCased after then '\u03c2' else '\u03c3'

/-- Lower-cases a text, given what stands before it, nearest first. -/
def lowerFrom (before : List Char) : List Char → List Char
  | [] => []
  | char :: after =>
    let lowered :=
      if char = '\u0130' then ['i', '\u0307']
      else if char = '\u03a3' then [sigma before after]
      else [lowerChar char]
    lowered ++ lowerFrom (char :: before) after

/-- The text in lower case. -/
def lowercase (text : String) : String := String.ofList (lowerFrom [] text.toList)

end RaceSentry.Text
