import RaceSentry.Json.Basic
import RaceSentry.Text.Char

/-!
# Words of JSON text

A text is read as a list of tokens, with blanks between them dropped. `Token.text` writes a token
and `Token.scan?` reads a text. Strings are first taken apart into code units, so that an escape
of a high surrogate can be joined with the low surrogate that follows it.
-/

namespace RaceSentry.Json

/-- One word of a JSON text. -/
inductive Token where
  /-- `\x7b` opens an object. -/
  | openObject
  /-- `\x7d` closes an object. -/
  | closeObject
  /-- `[` opens an array. -/
  | openArray
  /-- `]` closes an array. -/
  | closeArray
  /-- `,` stands between items. -/
  | comma
  /-- `:` stands between name and value. -/
  | colon
  /-- The word `null`. -/
  | null
  /-- The words `true` and `false`. -/
  | bool (value : Bool)
  /-- A number. -/
  | number (value : Number)
  /-- A string literal. -/
  | string (value : Spelling)
  deriving DecidableEq, Repr

/-- Space, tab, line feed and carriage return separate tokens. -/
def isBlank (char : Char) : Bool :=
  char == ' ' || char == '\t' || char == '\n' || char == '\r'

/-- The token that one character of punctuation makes. -/
def punctuation? (char : Char) : Option Token :=
  match char with
  | '{' => some .openObject
  | '}' => some .closeObject
  | '[' => some .openArray
  | ']' => some .closeArray
  | ',' => some .comma
  | ':' => some .colon
  | _ => none

/-- Characters of which numbers and the three words are made. -/
def isWordChar (char : Char) : Bool :=
  char.isAlphanum || char == '-' || char == '+' || char == '.'

namespace Number

/-- The digits at the front, of which there is at least one, and what follows them. -/
def digits? (chars : List Char) : Option (List Char × List Char) :=
  match chars.span Char.isDigit with
  | ([], _) => none
  | (digits, rest) => some (digits, rest)

/-- Whether a text is empty or an exponent: `e` or `E`, a sign or none, and digits. -/
def isExponent : List Char → Bool
  | [] => true
  | mark :: rest =>
    (mark == 'e' || mark == 'E') &&
      match digits? (match rest with
        | '+' :: digits => digits
        | '-' :: digits => digits
        | digits => digits) with
      | some (_, []) => true
      | _ => false

/-- Whether a text is what may follow the digits before the point: a fraction or none, then an
exponent or none. -/
def isTail : List Char → Bool
  | '.' :: rest =>
    match digits? rest with
    | some (_, exponent) => isExponent exponent
    | none => false
  | rest => isExponent rest

/-- Whether a whole number fits a word of 64 bits, which has a sign for negative numbers only. -/
def fitsWord (value : Int) : Bool :=
  -0x8000000000000000 ≤ value && value < 0x10000000000000000

/-- Reads a number: a minus or none, digits without a leading zero, a fraction or none, an
exponent or none. -/
def ofChars? (chars : List Char) : Option Number :=
  let negative := chars.head? == some '-'
  match digits? (if negative then chars.tail else chars) with
  | none => none
  | some (digits, tail) =>
    if digits.head? == some '0' && digits.length != 1 then none
    else if !isTail tail then none
    else
      let size : Int := Nat.ofDigitChars 10 digits 0
      let value := if negative then -size else size
      if tail.isEmpty && fitsWord value && !(negative && value == 0) then some (.whole value)
      else some (.real (String.ofList chars))

/-- A number as it is written. -/
def text : Number → List Char
  | .whole (.ofNat size) => Nat.toDigits 10 size
  | .whole (.negSucc size) => '-' :: Nat.toDigits 10 (size + 1)
  | .real literal => literal.toList

end Number

/-- Reads a word: a number or one of the three names. -/
def wordToken? (word : List Char) : Option Token :=
  if word = ['n', 'u', 'l', 'l'] then some .null
  else if word = ['t', 'r', 'u', 'e'] then some (.bool true)
  else if word = ['f', 'a', 'l', 's', 'e'] then some (.bool false)
  else (Number.ofChars? word).map .number

/-- The code unit of a one-letter escape. -/
def escapedUnit? (letter : Char) : Option Nat :=
  match letter with
  | '"' => some 0x22
  | '\\' => some 0x5C
  | '/' => some 0x2F
  | 'b' => some 0x08
  | 'f' => some 0x0C
  | 'n' => some 0x0A
  | 'r' => some 0x0D
  | 't' => some 0x09
  | _ => none

/-- Reads a string up to its closing quote: the code units it spells, and the text after it.
Control characters must be escaped. -/
def units? : List Char → Option (List Nat × List Char)
  | [] => none
  | '"' :: rest => some ([], rest)
  | '\\' :: 'u' :: first :: second :: third :: fourth :: rest => do
    let unit ← Text.hexNumber? [first, second, third, fourth]
    let (units, rest) ← units? rest
    some (unit :: units, rest)
  | '\\' :: letter :: rest => do
    let unit ← escapedUnit? letter
    let (units, rest) ← units? rest
    some (unit :: units, rest)
  | char :: rest =>
    if char.toNat < 0x20 then none
    else do
      let (units, rest) ← units? rest
      some (char.toNat :: units, rest)

/-- The first half of a surrogate pair. -/
def isHighSurrogate (unit : Nat) : Bool := 0xD800 ≤ unit && unit < 0xDC00

/-- The second half of a surrogate pair. -/
def isLowSurrogate (unit : Nat) : Bool := 0xDC00 ≤ unit && unit < 0xE000

/-- The characters spelled by code units: a surrogate pair spells one, half a pair none. -/
def charsOfUnits? : List Nat → Option (List Char)
  | [] => some []
  | unit :: rest =>
    if isHighSurrogate unit then
      match rest with
      | low :: rest =>
        if isLowSurrogate low then
          (charsOfUnits? rest).map
            (Char.ofNat (0x10000 + (unit - 0xD800) * 0x400 + (low - 0xDC00)) :: ·)
        else none
      | [] => none
    else if isLowSurrogate unit then none
    else (charsOfUnits? rest).map (Char.ofNat unit :: ·)

/-- What remains after a string is shorter than the text it was read from. -/
theorem units?_length {chars rest : List Char} {units : List Nat}
    (found : units? chars = some (units, rest)) : rest.length < chars.length := by
  fun_induction units? chars generalizing units rest with
  | case1 => simp at found
  | case2 tail =>
    simp only [Option.some.injEq, Prod.mk.injEq] at found
    rw [found.2]
    exact Nat.lt_succ_self _
  | case3 first second third fourth tail ih =>
    simp only [bind, Option.bind_eq_some_iff, Option.some.injEq, Prod.mk.injEq] at found
    obtain ⟨_, _, ⟨_, after⟩, inner, _, rfl⟩ := found
    have := ih inner
    simp only [List.length_cons]
    omega
  | case4 letter tail _ ih =>
    simp only [bind, Option.bind_eq_some_iff, Option.some.injEq, Prod.mk.injEq] at found
    obtain ⟨_, _, ⟨_, after⟩, inner, _, rfl⟩ := found
    have := ih inner
    simp only [List.length_cons]
    omega
  | case5 => simp at found
  | case6 char tail _ _ _ _ ih =>
    simp only [bind, Option.bind_eq_some_iff, Option.some.injEq, Prod.mk.injEq] at found
    obtain ⟨⟨_, after⟩, inner, _, rfl⟩ := found
    have := ih inner
    simp only [List.length_cons]
    omega

namespace Token

/-- Splits a text into tokens. -/
def scan? (chars : List Char) : Option (List Token) :=
  match chars with
  | [] => some []
  | char :: rest =>
    if isBlank char then scan? rest
    else if char = '"' then
      match _found : units? rest with
      | none => none
      | some (units, after) =>
        (scan? after).map
          (.string ((charsOfUnits? units).map String.ofList) :: ·)
    else
      match punctuation? char with
      | some token => (scan? rest).map (token :: ·)
      | none =>
        if isWordChar char then
          match wordToken? (char :: rest.takeWhile isWordChar) with
          | none => none
          | some token => (scan? (rest.dropWhile isWordChar)).map (token :: ·)
        else none
termination_by chars.length
decreasing_by
  · simp
  · have := units?_length _found
    simp only [List.length_cons]
    omega
  · simp
  · have := (rest.dropWhile_sublist isWordChar).length_le
    simp only [List.length_cons]
    omega

/-- Two hexadecimal digits of a control character. -/
def controlDigits (code : Nat) : List Char :=
  [Text.hexDigit (Fin.ofNat 16 (code / 16)), Text.hexDigit (Fin.ofNat 16 code)]

/-- A character as it stands in a string: quote, backslash and control characters are escaped. -/
def escaped (char : Char) : List Char :=
  match char with
  | '"' => ['\\', '"']
  | '\\' => ['\\', '\\']
  | '\n' => ['\\', 'n']
  | '\r' => ['\\', 'r']
  | '\t' => ['\\', 't']
  | '\x08' => ['\\', 'b']
  | '\x0c' => ['\\', 'f']
  | char =>
    if char.toNat < 0x20 then ['\\', 'u', '0', '0'] ++ controlDigits char.toNat else [char]

/-- A token as it is written. Half a surrogate pair is written as one of its escapes. -/
def text : Token → List Char
  | .openObject => ['{']
  | .closeObject => ['}']
  | .openArray => ['[']
  | .closeArray => [']']
  | .comma => [',']
  | .colon => [':']
  | .null => ['n', 'u', 'l', 'l']
  | .bool true => ['t', 'r', 'u', 'e']
  | .bool false => ['f', 'a', 'l', 's', 'e']
  | .number value => value.text
  | .string (some value) => '"' :: value.toList.flatMap escaped ++ ['"']
  | .string none => ['"', '\\', 'u', 'd', '8', '0', '0', '"']

end Token

end RaceSentry.Json
