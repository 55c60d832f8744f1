import RaceSentry.Calendar.Date
import RaceSentry.Text.Char
import RaceSentry.Toml.Value

/-!
# Numbers, truth values and points in time

A scalar without quotes is one word, but for a date and a time of day that a space separates.
Whole numbers must fit 64 bits with sign. A number with a fraction or an exponent must not be
above the largest finite double. Dates must exist.
-/

namespace RaceSentry.Toml

/-- Characters of which unquoted scalars are made. -/
def isScalarChar (char : Char) : Bool :=
  char.isAlphanum || char == '_' || char == '+' || char == '-' || char == '.' || char == ':'

/-- Digits with single underscores between them; the underscores are dropped. -/
def grouped? (isDigit : Char → Bool) : List Char → Option (List Char)
  | [] => none
  | [digit] => if isDigit digit then some [digit] else none
  | digit :: '_' :: rest =>
    if isDigit digit then (grouped? isDigit rest).map (digit :: ·) else none
  | digit :: rest => if isDigit digit then (grouped? isDigit rest).map (digit :: ·) else none

/-- Decimal digits without a leading zero, unless zero is the number. -/
def decimal? (chars : List Char) : Option (List Char) :=
  (grouped? Char.isDigit chars).bind fun digits =>
    if digits.head? = some '0' ∧ digits.length ≠ 1 then none else some digits

/-- Whether a number has the sign minus, and the rest of it after its sign. -/
def splitSign : List Char → Bool × List Char
  | '-' :: rest => (true, rest)
  | '+' :: rest => (false, rest)
  | rest => (false, rest)

/-- The number spelled by digits of a base up to sixteen. -/
def number? (base : Nat) (digits : List Char) : Option Nat :=
  digits.foldlM (fun number digit =>
    (Text.hexValue? digit).bind fun value =>
      if value.val < base then some (base * number + value.val) else none) 0

/-- Whether a whole number fits 64 bits with sign. -/
def fits (value : Int) : Bool := -0x8000000000000000 ≤ value && value < 0x8000000000000000

/-- The base that a mark after a zero announces. -/
def base? (mark : Char) : Option Nat :=
  match mark with
  | 'x' => some 16
  | 'o' => some 8
  | 'b' => some 2
  | _ => none

/-- Reads a whole number: decimal with a sign or none, or without sign in another base. -/
def integer? (chars : List Char) : Option Int :=
  let decimalNumber : Option Int := do
    let (negative, size) := splitSign chars
    let digits ← decimal? size
    let size := Nat.ofDigitChars 10 digits 0
    some (if negative then -(size : Int) else size)
  let found := match chars with
    | '0' :: mark :: digits =>
      match base? mark with
      | some base => do
        let digits ← grouped? (fun digit => (Text.hexValue? digit).isSome) digits
        let size ← number? base digits
        some (size : Int)
      | none => decimalNumber
    | _ => decimalNumber
  found.bind fun value => if fits value then some value else none

/-- The parts of a decimal number with a fraction or an exponent. -/
structure Decimal where
  /-- The number is below zero, or minus zero. -/
  negative : Bool
  /-- The digits before the point. -/
  whole : List Char
  /-- The digits after it. -/
  fraction : List Char
  /-- The power of ten. -/
  exponent : Int

namespace Decimal

/-- Reads an exponent, if the text is one. -/
def exponent? : List Char → Option Int
  | mark :: rest =>
    if mark = 'e' ∨ mark = 'E' then do
      let (negative, size) := splitSign rest
      let digits ← grouped? Char.isDigit size
      let size := Nat.ofDigitChars 10 digits 0
      some (if negative then -(size : Int) else size)
    else none
  | [] => none

/-- Digits and underscores. -/
def isDigitOrGap (char : Char) : Bool := char.isDigit || char == '_'

/-- Reads a number that has a fraction, an exponent, or both. -/
def ofChars? (chars : List Char) : Option Decimal := do
  let (negative, size) := splitSign chars
  let whole ← decimal? (size.takeWhile isDigitOrGap)
  match size.dropWhile isDigitOrGap with
  | '.' :: rest =>
    let fraction ← grouped? Char.isDigit (rest.takeWhile isDigitOrGap)
    match rest.dropWhile isDigitOrGap with
    | [] => some ⟨negative, whole, fraction, 0⟩
    | tail => (exponent? tail).map fun exponent => ⟨negative, whole, fraction, exponent⟩
  | tail => (exponent? tail).map fun exponent => ⟨negative, whole, [], exponent⟩

/-- Halfway between the largest finite double and the next power of two; numbers from here on are
rounded to infinity. -/
def overflowBound : Nat := Nat.pow 2 1024 - Nat.pow 2 970

/-- Whether the size of the number is rounded to infinity. The count of digits before the point
settles all cases but one. -/
def overflows (number : Decimal) : Bool :=
  let digits := (number.whole ++ number.fraction).dropWhile (· == '0')
  let power := number.exponent - number.fraction.length
  let places := digits.length + power
  if digits.isEmpty || places < 309 then false
  else if 309 < places then true
  else
    let size := Nat.ofDigitChars 10 digits 0
    if 0 ≤ power then overflowBound ≤ size * Nat.pow 10 power.toNat
    else overflowBound * Nat.pow 10 power.natAbs ≤ size

end Decimal

/-- Whether a word is an infinity or no number, with a sign or none. -/
def isSpecialFloat (chars : List Char) : Bool :=
  let name := (splitSign chars).2
  name == ['i', 'n', 'f'] || name == ['n', 'a', 'n']

/-- Whether a word is a number with a fraction or an exponent, or a special one. Infinity is not
reached from above. -/
def isFloat (chars : List Char) : Bool :=
  isSpecialFloat chars ||
    match Decimal.ofChars? chars with
    | some number => number.negative || !number.overflows
    | none => false

namespace Moment

/-- Takes a number of exactly so many digits. -/
def digits? (count : Nat) (chars : List Char) : Option (Nat × List Char) :=
  let digits := chars.take count
  if digits.length = count ∧ digits.all Char.isDigit then
    some (Nat.ofDigitChars 10 digits 0, chars.drop count)
  else none

/-- Takes a number of two digits within limits. -/
def field? (least most : Nat) (chars : List Char) : Option (Nat × List Char) :=
  (digits? 2 chars).bind fun (value, rest) =>
    if least ≤ value ∧ value ≤ most then some (value, rest) else none

/-- Takes a given character. -/
def mark? (wanted : Char) : List Char → Option (List Char)
  | [] => none
  | char :: rest => if char = wanted then some rest else none

/-- Takes a date. -/
def date? (chars : List Char) : Option (List Char) := do
  let (year, rest) ← digits? 4 chars
  let rest ← mark? '-' rest
  let (month, rest) ← field? 1 12 rest
  let rest ← mark? '-' rest
  let (_, rest) ← field? 1 (daysInMonth year month) rest
  some rest

/-- Takes a time of day. -/
def time? (chars : List Char) : Option (List Char) := do
  let (_, rest) ← field? 0 23 chars
  let rest ← mark? ':' rest
  let (_, rest) ← field? 0 59 rest
  let rest ← mark? ':' rest
  let (_, rest) ← field? 0 60 rest
  match rest with
  | '.' :: fraction =>
    if (fraction.takeWhile Char.isDigit).isEmpty then none
    else some (fraction.dropWhile Char.isDigit)
  | rest => some rest

/-- Whether a text is an offset from universal time. -/
def isOffset : List Char → Bool
  | ['Z'] => true
  | ['z'] => true
  | sign :: rest =>
    (sign == '+' || sign == '-') &&
      ((do
        let (_, rest) ← field? 0 23 rest
        let rest ← mark? ':' rest
        let (_, rest) ← field? 0 59 rest
        some rest) == some [])
  | [] => false

/-- Whether a text is a time of day, with an offset or without. -/
def isTimeAndOffset (chars : List Char) : Bool :=
  match time? chars with
  | some [] => true
  | some rest => isOffset rest
  | none => false

/-- Whether a word is a date. -/
def isDate (word : List Char) : Bool := date? word == some []

/-- Whether a word is a date, a time of day, or a date and a time of day. -/
def isMoment (word : List Char) : Bool :=
  match date? word with
  | some [] => true
  | some (mark :: rest) => (mark == 'T' || mark == 't') && isTimeAndOffset rest
  | none => time? word == some []

end Moment

/-- The value of an unquoted word. -/
def wordValue? (word : List Char) : Option Value :=
  if word = ['t', 'r', 'u', 'e'] then some (.boolean true)
  else if word = ['f', 'a', 'l', 's', 'e'] then some (.boolean false)
  else if Moment.isMoment word then some (.moment (String.ofList word))
  else if isFloat word then some (.float (String.ofList word))
  else (integer? word).map .integer

/-- Reads an unquoted scalar. -/
def scalar? (chars : List Char) : Option (Value × List Char) :=
  let word := chars.takeWhile isScalarChar
  let rest := chars.dropWhile isScalarChar
  match rest with
  | ' ' :: digit :: after =>
    if Moment.isDate word && digit.isDigit then
      let time := (digit :: after).takeWhile isScalarChar
      if Moment.isTimeAndOffset time then
        some (.moment (String.ofList (word ++ ' ' :: time)),
          (digit :: after).dropWhile isScalarChar)
      else none
    else (wordValue? word).map fun value => (value, rest)
  | _ => (wordValue? word).map fun value => (value, rest)

end RaceSentry.Toml
