import RaceSentry.Calendar.Date
import RaceSentry.Text.Char

/-!
# Points in time

A timestamp is a moment of universal time with nanoseconds. It is written as RFC 3339 asks, with
no fraction or one of three, six or nine digits, whichever is the shortest that loses nothing. A
leap second is kept as second 60. The reader is lenient: numbers may be shorter than they are
written, blanks may stand before them and around separators, and any offset is brought to
universal time.
-/

namespace RaceSentry

/-- A moment of universal time. -/
structure Timestamp where
  /-- The date. -/
  date : Date
  /-- Seconds since midnight. -/
  second : Nat
  /-- Nanoseconds since that second began; a thousand million and more lie in a leap second. -/
  nanos : Nat
  /-- The day has that second. -/
  second_within : second < 86400
  /-- At most two seconds of nanoseconds. -/
  nanos_within : nanos < 2000000000
  /-- A leap second ends its minute. -/
  leap : 1000000000 ≤ nanos → second % 60 = 59
  deriving DecidableEq

namespace Timestamp

/-- The moment with the given parts, if there is one. -/
def ofParts? (date : Date) (second nanos : Nat) : Option Timestamp :=
  if secondWithin : second < 86400 then
    if nanosWithin : nanos < 2000000000 then
      if leap : 1000000000 ≤ nanos → second % 60 = 59 then
        some ⟨date, second, nanos, secondWithin, nanosWithin, leap⟩
      else none
    else none
  else none

/-- The moment at which a clock that is `offset` seconds ahead shows the given time. -/
def ofLocal? (date : Date) (second nanos : Nat) (offset : Int) : Option Timestamp :=
  let universal := (second : Int) - offset
  if universal < 0 then
    date.previous?.bind fun date => ofParts? date (universal + 86400).toNat nanos
  else if universal < 86400 then ofParts? date universal.toNat nanos
  else date.next?.bind fun date => ofParts? date (universal - 86400).toNat nanos

/-- A number with at least so many digits, zeros in front if need be. -/
def padded (width number : Nat) : List Char :=
  let digits := Nat.toDigits 10 number
  List.replicate (width - digits.length) '0' ++ digits

/-- A year as it is written: four digits, and a sign on years that four digits do not hold. -/
def yearChars (year : Int) : List Char :=
  if 0 ≤ year ∧ year ≤ 9999 then padded 4 year.toNat
  else (if year < 0 then '-' else '+') :: padded 4 year.natAbs

/-- A fraction of a second as it is written. -/
def fractionChars (nanos : Nat) : List Char :=
  if nanos = 0 then []
  else if nanos % 1000000 = 0 then '.' :: padded 3 (nanos / 1000000)
  else if nanos % 1000 = 0 then '.' :: padded 6 (nanos / 1000)
  else '.' :: padded 9 nanos

/-- The written form. -/
def chars (time : Timestamp) : List Char :=
  let leap := time.nanos / 1000000000
  yearChars time.date.year ++ '-' :: padded 2 time.date.month ++ '-' :: padded 2 time.date.day ++
    'T' :: padded 2 (time.second / 3600) ++ ':' :: padded 2 (time.second / 60 % 60) ++
    ':' :: padded 2 (time.second % 60 + leap) ++ fractionChars (time.nanos % 1000000000) ++ ['Z']

/-- The written form as a text. -/
def text (time : Timestamp) : String := String.ofList time.chars

/-- Reads a number of at most so many digits, and gives what follows. -/
def number? (most : Nat) (chars : List Char) : Option (Nat × List Char) :=
  let digits := (chars.take most).takeWhile Char.isDigit
  if digits.isEmpty then none
  else some (Nat.ofDigitChars 10 digits 0, chars.drop digits.length)

/-- Reads a number before which blanks may stand. -/
def field? (chars : List Char) : Option (Nat × List Char) := number? 2 (Text.skipBlanks chars)

/-- Reads a separator before which blanks may stand. -/
def separator? (mark : Char) (chars : List Char) : Option (List Char) :=
  match Text.skipBlanks chars with
  | [] => none
  | char :: rest => if char = mark then some rest else none

/-- Reads a year: up to four digits, or a sign and any number of digits. -/
def year? (chars : List Char) : Option (Int × List Char) :=
  match Text.skipBlanks chars with
  | '-' :: rest => (number? rest.length rest).map fun (year, rest) => (-(year : Int), rest)
  | '+' :: rest => (number? rest.length rest).map fun (year, rest) => ((year : Int), rest)
  | rest => (number? 4 rest).map fun (year, rest) => ((year : Int), rest)

/-- Reads the fraction of a second as nanoseconds, if there is one. Digits after the ninth are
dropped. -/
def fraction? (chars : List Char) : Option (Nat × List Char) :=
  match chars with
  | '.' :: rest =>
    let digits := rest.takeWhile Char.isDigit
    if digits.isEmpty then none
    else
      let kept := digits.take 9
      some (Nat.ofDigitChars 10 kept 0 * Nat.pow 10 (9 - kept.length), rest.drop digits.length)
  | rest => some (0, rest)

/-- Reads the hours and minutes of an offset, between which colons and blanks may stand. -/
def offsetSize? (chars : List Char) : Option (Nat × List Char) := do
  let twoDigits : List Char → Option (Nat × List Char)
    | tens :: units :: rest =>
      if tens.isDigit && units.isDigit then some (Nat.ofDigitChars 10 [tens, units] 0, rest)
      else none
    | _ => none
  let (hours, rest) ← twoDigits chars
  let (minutes, rest) ← twoDigits (rest.dropWhile fun char => char == ':' || Text.isBlank char)
  if minutes < 60 then some (hours * 3600 + minutes * 60, rest) else none

/-- Reads an offset from universal time in seconds: `Z`, `UTC`, or a sign, hours and minutes. -/
def offset? (chars : List Char) : Option (Int × List Char) :=
  if (chars.take 3).map Char.toUpper = ['U', 'T', 'C'] then some (0, chars.drop 3)
  else
    match chars with
    | [] => none
    | sign :: rest =>
      if sign = 'Z' ∨ sign = 'z' then some (0, rest)
      else if sign = '+' then
        (offsetSize? rest).map fun (size, rest) => ((size : Int), rest)
      else if sign = '-' ∨ sign = '\u2212' then
        (offsetSize? rest).map fun (size, rest) => (-(size : Int), rest)
      else none

/-- Reads a date and gives what follows. -/
def date? (chars : List Char) : Option (Date × List Char) := do
  let (year, rest) ← year? chars
  let rest ← separator? '-' rest
  let (month, rest) ← field? rest
  let rest ← separator? '-' rest
  let (day, rest) ← field? rest
  let date ← Date.ofParts? year month day
  some (date, rest)

/-- Reads a time of day as seconds and nanoseconds. Second 60 is the leap second after second
59. -/
def timeOfDay? (chars : List Char) : Option (Nat × Nat × List Char) := do
  let (hour, rest) ← field? chars
  let rest ← separator? ':' rest
  let (minute, rest) ← field? rest
  let rest ← separator? ':' rest
  let (second, rest) ← field? rest
  let (nanos, rest) ← fraction? rest
  if hour < 24 ∧ minute < 60 ∧ second ≤ 60 then
    let start := hour * 3600 + minute * 60
    if second = 60 then some (start + 59, nanos + 1000000000, rest)
    else some (start + second, nanos, rest)
  else none

/-- Reads a moment. -/
def parse? (text : String) : Option Timestamp := do
  let (date, rest) ← date? text.toList
  let rest ← match rest with
    | [] => none
    | mark :: rest => if mark = 't' ∨ mark = 'T' ∨ mark = ' ' then some rest else none
  let (second, nanos, rest) ← timeOfDay? rest
  let (offset, rest) ← offset? (Text.skipBlanks rest)
  if (Text.skipBlanks rest).isEmpty ∧ offset.natAbs < 86400 then
    ofLocal? date second nanos offset
  else none

end Timestamp

end RaceSentry
