import Mathlib.Data.List.Chain
import Mathlib.Data.List.TakeDrop
import Mathlib.Data.List.TakeWhile
import RaceSentry.Json.Text

/-!
# JSON text read back

What is written as JSON is read as what was written. A text is the row of its tokens: each token is
cut off where it was written to end, since two words, which only their neighbours keep apart, never
stand side by side. The machine that reads tokens builds the value that they spell, however deep it
is inside of others.
Main statements: `Token.scan?_flatMap_text`, `ofTokens?_tokens` and `parse?_render`.
-/

namespace RaceSentry.Json

namespace Number

/-- The digits of a number are digits, and there are some. -/
theorem digits?_toDigits (size : Nat) :
    digits? (Nat.toDigits 10 size) = some (Nat.toDigits 10 size, []) := by
  have numeral : ∀ char ∈ Nat.toDigits 10 size, char.isDigit = true := fun char member =>
    Nat.isDigit_of_mem_toDigits (by decide) (by decide) member
  rw [digits?, List.span_eq_takeWhile_dropWhile, List.takeWhile_eq_self_iff.2 numeral,
    List.dropWhile_eq_nil_iff.2 numeral]
  split
  · rename_i none
    exact absurd (Prod.mk.inj none).1 Nat.toDigits_ne_nil
  · rename_i found
    rw [← found]

/-- Only zero is written with a zero in front. -/
theorem eq_zero_of_head?_toDigits {size : Nat}
    (zero : (Nat.toDigits 10 size).head? = some '0') : size = 0 := by
  induction size using Nat.strongRecOn with
  | ind size ih =>
    by_cases small : size < 10
    · rw [Nat.toDigits_of_lt_base small] at zero
      exact Nat.digitChar_eq_zero.1 (Option.some.inj zero)
    · have large : 10 ≤ size := Nat.le_of_not_lt small
      have something : (Nat.toDigits 10 (size / 10)).head?.isSome = true := by
        simp [Nat.toDigits_ne_nil]
      rw [Nat.toDigits_of_base_le (by decide) large, List.head?_append,
        Option.or_of_isSome something] at zero
      have quotient : size / 10 = 0 := ih (size / 10) (by omega) zero
      omega

/-- No number but zero is written with a zero that leads. -/
theorem no_leading_zero (size : Nat) :
    ((Nat.toDigits 10 size).head? == some '0' && (Nat.toDigits 10 size).length != 1) = false := by
  by_cases zero : (Nat.toDigits 10 size).head? = some '0'
  · rw [eq_zero_of_head?_toDigits zero, Nat.toDigits_zero]
    rfl
  · rw [beq_eq_false_iff_ne.2 zero, Bool.false_and]

/-- A minus is no digit. -/
theorem head?_toDigits_ne_minus (size : Nat) :
    ((Nat.toDigits 10 size).head? == some '-') = false := by
  refine beq_eq_false_iff_ne.2 fun minus => ?_
  have digit : '-'.isDigit = true := Nat.isDigit_of_mem_toDigits (by decide) (by decide)
    (List.mem_of_mem_head? minus)
  exact absurd digit (by decide)

/-- The digits of a natural number that fits a word are read as it. -/
theorem ofChars?_natural {size : Nat} (fits : fitsWord size = true) :
    ofChars? (Nat.toDigits 10 size) = some (.whole size) := by
  unfold ofChars?
  simp only [head?_toDigits_ne_minus, Bool.false_eq_true, ↓reduceIte, digits?_toDigits,
    no_leading_zero, isTail, isExponent, Bool.not_true, List.isEmpty_nil,
    Nat.ofDigitChars_toDigits (show 1 < 10 by decide) (show 10 ≤ 10 by decide), fits,
    Bool.false_and, Bool.not_false, Bool.and_self]

/-- A minus and the digits of a negative number that fits a word are read as it. -/
theorem ofChars?_negative {size : Nat} (fits : fitsWord (Int.negSucc size) = true) :
    ofChars? ('-' :: Nat.toDigits 10 (size + 1)) = some (.whole (.negSucc size)) := by
  have value : -((size + 1 : Nat) : Int) = Int.negSucc size := rfl
  unfold ofChars?
  simp only [List.head?_cons, BEq.rfl, ↓reduceIte, List.tail_cons, digits?_toDigits,
    no_leading_zero, Bool.false_eq_true, isTail, isExponent, Bool.not_true, List.isEmpty_nil,
    Nat.ofDigitChars_toDigits (show 1 < 10 by decide) (show 10 ≤ 10 by decide), value, fits,
    Bool.true_and]
  rfl

/-- A whole number that fits a word is read as it was written. -/
theorem ofChars?_text {value : Int} (fits : fitsWord value = true) :
    ofChars? (text (.whole value)) = some (.whole value) := by
  cases value with
  | ofNat size => exact ofChars?_natural fits
  | negSucc size => exact ofChars?_negative fits

end Number

/-- A character is spelled by itself, as one unit. -/
theorem charsOfUnits?_map_toNat (chars : List Char) :
    charsOfUnits? (chars.map Char.toNat) = some chars := by
  induction chars with
  | nil => rfl
  | cons char rest ih =>
    have valid : char.toNat < 0xD800 ∨ 0xDFFF < char.toNat ∧ char.toNat < 0x110000 := char.valid
    have notHigh : isHighSurrogate char.toNat = false := by
      simp only [isHighSurrogate, Bool.and_eq_false_iff, decide_eq_false_iff_not]
      omega
    have notLow : isLowSurrogate char.toNat = false := by
      simp only [isLowSurrogate, Bool.and_eq_false_iff, decide_eq_false_iff_not]
      omega
    rw [List.map_cons, charsOfUnits?.eq_def]
    simp only [notHigh, notLow, ih, Bool.false_eq_true, ↓reduceIte, Option.map_some,
      Char.ofNat_toNat]

/-- The digits of a control character name it. -/
theorem hexNumber?_controlDigits {code : Nat} (control : code < 0x20) :
    Text.hexNumber? ('0' :: '0' :: Token.controlDigits code) = some code := by
  have all : ∀ code : Fin 0x20,
      Text.hexNumber? ('0' :: '0' :: Token.controlDigits code.val) = some code.val := by decide
  exact all ⟨code, control⟩

/-- A character that stands for itself is one unit. -/
theorem units?_cons {char : Char} (printed : ¬ char.toNat < 0x20) (noQuote : char ≠ '"')
    (noEscape : char ≠ '\\') (rest : List Char) :
    units? (char :: rest) = (units? rest).map fun read => (char.toNat :: read.1, read.2) := by
  rw [units?.eq_def]
  split
  · contradiction
  · rename_i same
    exact absurd (List.cons.inj same).1 noQuote
  · rename_i same
    exact absurd (List.cons.inj same).1 noEscape
  · rename_i same
    exact absurd (List.cons.inj same).1 noEscape
  · rename_i same
    cases same
    rw [if_neg printed]
    cases units? rest with
    | none => rfl
    | some read => rfl

/-- A character with an escape of one letter is the unit that the letter names. -/
theorem units?_escape {letter : Char} {unit : Nat} (named : escapedUnit? letter = some unit)
    (rest : List Char) :
    units? ('\\' :: letter :: rest) = (units? rest).map fun read => (unit :: read.1, read.2) := by
  have noCode : letter ≠ 'u' := by
    rintro rfl
    cases named
  rw [units?.eq_def]
  split
  · contradiction
  · rename_i same
    exact absurd (List.cons.inj same).1 (by decide)
  · rename_i same
    exact absurd (List.cons.inj (List.cons.inj same).2).1 noCode
  · rename_i same
    cases same
    rw [named]
    cases units? rest with
    | none => rfl
    | some read => rfl
  · rename_i other same
    cases same
    exact (other letter rest rfl rfl).elim

/-- A character is read as it was escaped. -/
theorem units?_escaped (char : Char) (rest : List Char) :
    units? (Token.escaped char ++ rest) =
      (units? rest).map fun read => (char.toNat :: read.1, read.2) := by
  unfold Token.escaped
  split
  · exact units?_escape rfl rest
  · exact units?_escape rfl rest
  · exact units?_escape rfl rest
  · exact units?_escape rfl rest
  · exact units?_escape rfl rest
  · exact units?_escape rfl rest
  · exact units?_escape rfl rest
  · rename_i noQuote noEscape _ _ _ _ _
    split
    · rename_i control
      have named := hexNumber?_controlDigits control
      rw [Token.controlDigits] at named ⊢
      simp only [List.cons_append, List.nil_append, units?, named]
      cases units? rest with
      | none => rfl
      | some read => rfl
    · rename_i printed
      exact units?_cons printed noQuote noEscape rest

/-- A string is read up to the quote that was written after it. -/
theorem units?_flatMap_escaped (chars rest : List Char) :
    units? (chars.flatMap Token.escaped ++ '"' :: rest) = some (chars.map Char.toNat, rest) := by
  induction chars with
  | nil => rfl
  | cons char more ih =>
    rw [List.flatMap_cons, List.append_assoc, units?_escaped, ih]
    rfl

namespace Token

/-- A word is what only its neighbours tell apart from more of it. -/
def isWord : Token → Bool
  | .null => true
  | .bool _ => true
  | .number _ => true
  | _ => false

/-- A token that is read as it is written: a number that fits a word, a string that spells a
text, or anything else. -/
def isPlain : Token → Bool
  | .number (.whole value) => Number.fitsWord value
  | .number (.real _) => false
  | .string spelling => spelling.isSome
  | _ => true

/-- The characters of numbers belong to words. -/
theorem isWordChar_of_isDigit {char : Char} (digit : char.isDigit = true) :
    isWordChar char = true := by
  rw [isWordChar, Char.isAlphanum, digit]
  simp

/-- Words are written in characters of words. -/
theorem isWordChar_of_mem_text {token : Token} (word : token.isWord = true)
    (plain : token.isPlain = true) {char : Char} (member : char ∈ token.text) :
    isWordChar char = true := by
  cases token with
  | null =>
    have letters : (text .null).all isWordChar = true := by decide
    exact List.all_eq_true.1 letters char member
  | bool value =>
    have letters : (text (.bool value)).all isWordChar = true := by
      cases value with
      | false => decide
      | true => decide
    exact List.all_eq_true.1 letters char member
  | number value =>
    cases value with
    | real literal => cases plain
    | whole value =>
      cases value with
      | ofNat size =>
        exact isWordChar_of_isDigit (Nat.isDigit_of_mem_toDigits (by decide) (by decide) member)
      | negSucc size =>
        cases List.mem_cons.1 member with
        | inl minus => rw [minus]; decide
        | inr digit =>
          exact isWordChar_of_isDigit (Nat.isDigit_of_mem_toDigits (by decide) (by decide) digit)
  | _ => cases word

/-- The characters of words are no blanks, no quotes and no punctuation. -/
theorem not_special_of_isWordChar {char : Char} (word : isWordChar char = true) :
    isBlank char = false ∧ char ≠ '"' ∧ punctuation? char = none := by
  refine ⟨?_, ?_, ?_⟩
  · cases blank : isBlank char with
    | false => rfl
    | true =>
      simp only [isBlank, Bool.or_eq_true, beq_iff_eq] at blank
      obtain ((rfl | rfl) | rfl) | rfl := blank
      all_goals exact absurd word (by decide)
  · rintro rfl
    exact absurd word (by decide)
  · unfold punctuation?
    split
    all_goals first | rfl | exact absurd word (by decide)

/-- A word is read as it was written. -/
theorem wordToken?_text {token : Token} (word : token.isWord = true)
    (plain : token.isPlain = true) : wordToken? token.text = some token := by
  cases token with
  | null => rfl
  | bool value => cases value <;> rfl
  | number value =>
    cases value with
    | real literal => cases plain
    | whole value =>
      -- The three names are no numbers.
      have read := Number.ofChars?_text plain
      have named : ∀ name, Number.ofChars? name = none → text (.number (.whole value)) ≠ name := by
        rintro name unread rfl
        exact Option.some_ne_none _ (read.symm.trans unread)
      rw [wordToken?, if_neg (named _ rfl), if_neg (named _ rfl), if_neg (named _ rfl)]
      exact congrArg (Option.map Token.number) read
  | _ => cases word

/-- A mark is read by itself, and the rest goes on. -/
theorem scan?_punctuation {char : Char} {token : Token} (mark : punctuation? char = some token)
    (noBlank : isBlank char = false) (noQuote : char ≠ '"') (rest : List Char) :
    scan? (char :: rest) = (scan? rest).map (token :: ·) := by
  rw [scan?]
  simp only [noBlank, Bool.false_eq_true, ↓reduceIte, noQuote, mark]

/-- A word is cut off where it was written to end. -/
theorem scan?_word {token : Token} (word : token.isWord = true) (plain : token.isPlain = true)
    {rest : List Char} (ended : ∀ char ∈ rest.head?, isWordChar char = false) :
    scan? (token.text ++ rest) = (scan? rest).map (token :: ·) := by
  have letters : ∀ char ∈ token.text, isWordChar char = true := fun char =>
    isWordChar_of_mem_text word plain
  have read := wordToken?_text word plain
  cases chars : token.text with
  | nil =>
    rw [chars] at read
    cases read
  | cons char more =>
    rw [chars] at letters read
    obtain ⟨noBlank, noQuote, noMark⟩ := not_special_of_isWordChar (letters char List.mem_cons_self)
    have inside : ∀ char ∈ more, isWordChar char = true := fun char member =>
      letters char (List.mem_cons_of_mem _ member)
    have taken : (more ++ rest).takeWhile isWordChar = more := by
      rw [List.takeWhile_append_of_pos inside]
      cases rest with
      | nil => rw [List.takeWhile_nil, List.append_nil]
      | cons char rest =>
        rw [List.takeWhile_cons_of_neg (by simp [ended char rfl]), List.append_nil]
    have left : (more ++ rest).dropWhile isWordChar = rest := by
      rw [List.dropWhile_append_of_pos inside]
      cases rest with
      | nil => rfl
      | cons char rest => rw [List.dropWhile_cons_of_neg (by simp [ended char rfl])]
    rw [List.cons_append, scan?]
    simp only [noBlank, Bool.false_eq_true, ↓reduceIte, noQuote, noMark,
      letters char List.mem_cons_self, taken, read, left]

/-- A string is cut off at its closing quote. -/
theorem scan?_string (value : String) (rest : List Char) :
    scan? (text (.string (some value)) ++ rest) =
      (scan? rest).map (.string (some value) :: ·) := by
  have read := units?_flatMap_escaped value.toList rest
  have noBlank : isBlank '"' = false := by decide
  rw [text, List.append_assoc, List.singleton_append, List.cons_append, scan?]
  simp only [noBlank, Bool.false_eq_true, ↓reduceIte]
  split
  · rename_i unread
    exact absurd (read.symm.trans unread) (Option.some_ne_none _)
  · rename_i units after found
    cases read.symm.trans found
    rw [charsOfUnits?_map_toNat, Option.map_some, String.ofList_toList]

/-- A token is cut off where it was written to end, unless it is a word that goes on. -/
theorem scan?_append {token : Token} (plain : token.isPlain = true) {rest : List Char}
    (ended : token.isWord = true → ∀ char ∈ rest.head?, isWordChar char = false) :
    scan? (token.text ++ rest) = (scan? rest).map (token :: ·) := by
  cases token with
  | null => exact scan?_word rfl plain (ended rfl)
  | bool value => exact scan?_word rfl plain (ended rfl)
  | number value => exact scan?_word rfl plain (ended rfl)
  | string spelling =>
    cases spelling with
    | none => cases plain
    | some value => exact scan?_string value rest
  | openObject => exact scan?_punctuation rfl (by decide) (by decide) rest
  | closeObject => exact scan?_punctuation rfl (by decide) (by decide) rest
  | openArray => exact scan?_punctuation rfl (by decide) (by decide) rest
  | closeArray => exact scan?_punctuation rfl (by decide) (by decide) rest
  | comma => exact scan?_punctuation rfl (by decide) (by decide) rest
  | colon => exact scan?_punctuation rfl (by decide) (by decide) rest

/-- Two tokens may stand side by side, unless both are words. -/
def Apart (first second : Token) : Prop := first.isWord = false ∨ second.isWord = false

/-- What is no word begins with a character that belongs to none. -/
theorem head_text_of_not_isWord {token : Token} (other : token.isWord = false) :
    ∀ char ∈ token.text.head?, isWordChar char = false := by
  cases token with
  | null => cases other
  | bool value => cases other
  | number value => cases other
  | string spelling =>
    cases spelling with
    | none =>
      rintro char ⟨⟩
      decide
    | some value =>
      rintro char ⟨⟩
      decide
  | _ =>
    rintro char ⟨⟩
    decide

/-- Every token is written in some characters. -/
theorem text_ne_nil {token : Token} (plain : token.isPlain = true) : token.text ≠ [] := by
  cases token with
  | bool value => cases value <;> exact List.cons_ne_nil _ _
  | number value =>
    cases value with
    | real literal => cases plain
    | whole value =>
      cases value with
      | ofNat size => exact Nat.toDigits_ne_nil
      | negSucc size => exact List.cons_ne_nil _ _
  | string spelling => cases spelling <;> exact List.cons_ne_nil _ _
  | _ => exact List.cons_ne_nil _ _

/-- A row of tokens in which no two words stand side by side is read as it was written. -/
theorem scan?_flatMap_text {tokens : List Token} (apart : tokens.IsChain Apart)
    (plain : ∀ token ∈ tokens, token.isPlain = true) :
    scan? (tokens.flatMap text) = some tokens := by
  induction tokens with
  | nil => rw [List.flatMap_nil, scan?]
  | cons token rest ih =>
    obtain ⟨first, apart⟩ := List.isChain_cons.1 apart
    have read := ih apart fun other member => plain other (List.mem_cons_of_mem _ member)
    rw [List.flatMap_cons, scan?_append (plain token List.mem_cons_self), read, Option.map_some]
    intro word char begins
    cases rest with
    | nil => cases begins
    | cons next more =>
      have something : next.text.head?.isSome = true := by
        simp [text_ne_nil (plain next (List.mem_cons_of_mem _ List.mem_cons_self))]
      rw [List.flatMap_cons, List.head?_append, Option.or_of_isSome something] at begins
      have other : next.isWord = false := (first next rfl).resolve_left (by simp [word])
      exact head_text_of_not_isWord other char begins

end Token

/-- A value whose tokens are read as they are written: its numbers are whole and fit a word, and
its strings and names are texts. -/
def Plain (json : Json) : Prop := ∀ token ∈ tokens json, token.isPlain = true

instance (json : Json) : Decidable json.Plain :=
  inferInstanceAs (Decidable (∀ token ∈ tokens json, token.isPlain = true))

/-- The first token of a value may stand first in an array as it may stand after a comma. -/
theorem step_firstItem {token : Token} (opens : token ≠ .closeArray) (frames : List Frame) :
    Reader.step ⟨.firstItem, frames⟩ token = Reader.step ⟨.value, .array [] :: frames⟩ token := by
  cases token with
  | closeArray => exact absurd rfl opens
  | _ => rfl

/-- No value begins with the end of an array. -/
theorem exists_tokens_eq_cons (json : Json) :
    ∃ token rest, tokens json = token :: rest ∧ token ≠ .closeArray := by
  cases json with
  | _ =>
    rw [tokens]
    exact ⟨_, _, rfl, nofun⟩

/-- An array with an item does not begin with its end. -/
theorem exists_itemTokens_eq_cons (item : Json) (more : List Json) :
    ∃ token rest, itemTokens (item :: more) = token :: rest ∧ token ≠ .closeArray := by
  obtain ⟨token, rest, first, opens⟩ := exists_tokens_eq_cons item
  cases more with
  | nil =>
    rw [itemTokens, first]
    exact ⟨token, _, rfl, opens⟩
  | cons next more =>
    rw [itemTokens, first]
    exact ⟨token, _, rfl, opens⟩

/-- An object with a field begins with the name of the field. -/
theorem exists_fieldTokens_eq_cons (field : Spelling × Json) (more : List (Spelling × Json)) :
    ∃ name rest, fieldTokens (field :: more) = .string name :: rest := by
  cases more with
  | nil => exact ⟨field.1, _, rfl⟩
  | cons next more => exact ⟨field.1, _, rfl⟩

mutual

/-- The tokens of a value make a reader that wants a value have it, and nothing else. -/
theorem foldlM_tokens (frames : List Frame) : ∀ json : Json,
    (tokens json).foldlM Reader.step ⟨.value, frames⟩ = some ⟨.after json, frames⟩
  | .null => rfl
  | .bool value => rfl
  | .number value => rfl
  | .string value => rfl
  | .array [] => rfl
  | .array (item :: rest) => by
    have items := foldlM_itemTokens frames [] (item :: rest) (List.cons_ne_nil _ _)
    obtain ⟨token, more, first, opens⟩ := exists_itemTokens_eq_cons item rest
    rw [first, List.foldlM_cons, ← step_firstItem opens] at items
    rw [tokens, first]
    exact items
  | .object [] => rfl
  | .object (field :: rest) => by
    have fields := foldlM_fieldTokens frames [] (field :: rest) (List.cons_ne_nil _ _)
    obtain ⟨name, more, first⟩ := exists_fieldTokens_eq_cons field rest
    rw [first] at fields
    rw [tokens, first]
    exact fields

/-- The tokens of items complete the array that a reader is inside of. -/
theorem foldlM_itemTokens (frames : List Frame) (items : List Json) :
    ∀ rest : List Json, rest ≠ [] →
      (itemTokens rest).foldlM Reader.step ⟨.value, .array items :: frames⟩ =
        some ⟨.after (.array (items.reverse ++ rest)), frames⟩
  | [], something => absurd rfl something
  | [item], _ => by
    rw [itemTokens, List.foldlM_append, foldlM_tokens _ item]
    change some (Reader.mk (.after (.array (item :: items).reverse)) frames) = _
    rw [List.reverse_cons]
  | item :: next :: more, _ => by
    have later := foldlM_itemTokens frames (item :: items) (next :: more) (List.cons_ne_nil _ _)
    rw [itemTokens, List.foldlM_append, foldlM_tokens _ item]
    rw [List.reverse_cons, List.append_assoc, List.singleton_append] at later
    exact later

/-- The tokens of fields, of which the name of the first was read, complete the object that a reader
is inside of. -/
theorem foldlM_fieldTokens (frames : List Frame) (fields : List (Spelling × Json)) :
    ∀ rest : List (Spelling × Json), rest ≠ [] →
      (fieldTokens rest).foldlM Reader.step ⟨.name fields, frames⟩ =
        some ⟨.after (.object (fields.reverse ++ rest)), frames⟩
  | [], something => absurd rfl something
  | [(name, value)], _ => by
    have read := foldlM_tokens (.object fields name :: frames) value
    have closed : (tokens value ++ [Token.closeObject]).foldlM Reader.step
        ⟨.value, .object fields name :: frames⟩ =
          some ⟨.after (.object ((name, value) :: fields).reverse), frames⟩ := by
      rw [List.foldlM_append, read]
      rfl
    rw [List.reverse_cons] at closed
    exact closed
  | (name, value) :: next :: more, _ => by
    have read := foldlM_tokens (.object fields name :: frames) value
    have later := foldlM_fieldTokens frames ((name, value) :: fields) (next :: more)
      (List.cons_ne_nil _ _)
    have going : (tokens value ++ Token.comma :: fieldTokens (next :: more)).foldlM Reader.step
        ⟨.value, .object fields name :: frames⟩ =
          some ⟨.after (.object (((name, value) :: fields).reverse ++ next :: more)), frames⟩ := by
      rw [List.foldlM_append, read]
      exact later
    rw [List.reverse_cons, List.append_assoc, List.singleton_append] at going
    exact going

end

/-- The tokens of a value spell it, whatever it is. -/
theorem ofTokens?_tokens (json : Json) : ofTokens? (tokens json) = some json := by
  rw [ofTokens?, Reader.start, foldlM_tokens [] json]
  rfl

namespace Token

/-- What is no word may stand in front of anything. -/
theorem isChain_cons_of_not_isWord {token : Token} (other : token.isWord = false)
    {rest : List Token} (apart : rest.IsChain Apart) : (token :: rest).IsChain Apart :=
  List.isChain_cons.2 ⟨fun _ _ => .inl other, apart⟩

/-- Two rows of tokens may stand side by side if the second begins with what is no word. -/
theorem isChain_append_of_not_isWord {token : Token} (other : token.isWord = false)
    {first rest : List Token} (before : first.IsChain Apart)
    (after : (token :: rest).IsChain Apart) : (first ++ token :: rest).IsChain Apart := by
  refine List.isChain_append.2 ⟨before, after, ?_⟩
  intro last _ begins same
  cases same
  exact .inr other

end Token

mutual

/-- No two words stand side by side among the tokens of a value. -/
theorem isChain_tokens : ∀ json : Json, (tokens json).IsChain Token.Apart
  | .null => List.isChain_singleton _
  | .bool _ => List.isChain_singleton _
  | .number _ => List.isChain_singleton _
  | .string _ => List.isChain_singleton _
  | .array items => Token.isChain_cons_of_not_isWord rfl (isChain_itemTokens items)
  | .object fields => Token.isChain_cons_of_not_isWord rfl (isChain_fieldTokens fields)

/-- No two words stand side by side in the tokens of an array. -/
theorem isChain_itemTokens : ∀ items : List Json, (itemTokens items).IsChain Token.Apart
  | [] => List.isChain_singleton _
  | [item] =>
    Token.isChain_append_of_not_isWord rfl (isChain_tokens item) (List.isChain_singleton _)
  | item :: next :: more =>
    Token.isChain_append_of_not_isWord rfl (isChain_tokens item)
      (Token.isChain_cons_of_not_isWord rfl (isChain_itemTokens (next :: more)))

/-- No two words stand side by side in the tokens of an object. -/
theorem isChain_fieldTokens :
    ∀ fields : List (Spelling × Json), (fieldTokens fields).IsChain Token.Apart
  | [] => List.isChain_singleton _
  | [(_, value)] =>
    Token.isChain_cons_of_not_isWord rfl (Token.isChain_cons_of_not_isWord rfl
      (Token.isChain_append_of_not_isWord rfl (isChain_tokens value) (List.isChain_singleton _)))
  | (_, value) :: next :: more =>
    Token.isChain_cons_of_not_isWord rfl (Token.isChain_cons_of_not_isWord rfl
      (Token.isChain_append_of_not_isWord rfl (isChain_tokens value)
        (Token.isChain_cons_of_not_isWord rfl (isChain_fieldTokens (next :: more)))))

end

/-- The text of a plain value is read as that value. -/
theorem parse?_render {json : Json} (plain : json.Plain) : parse? json.render = some json := by
  rw [parse?, render, String.toList_ofList,
    Token.scan?_flatMap_text (isChain_tokens json) plain, Option.bind_some, ofTokens?_tokens]

/-- The value that is nothing is plain. -/
theorem plain_null : Plain .null := by decide

/-- Truth values are plain. -/
theorem plain_bool (value : Bool) : Plain (.bool value) := by
  cases value <;> decide

/-- Texts are plain. -/
theorem plain_text (value : String) : Plain (.text value) := fun token member => by
  rw [List.mem_singleton.1 member]
  rfl

/-- A natural number that fits a word is plain. -/
theorem plain_nat {value : Nat} (fits : value < 0x10000000000000000) : Plain (.nat value) := by
  intro token member
  rw [List.mem_singleton.1 member, Token.isPlain, Number.fitsWord]
  simp only [Bool.and_eq_true, decide_eq_true_eq]
  omega

/-- What may be missing is plain if it is plain when it is there. -/
theorem plain_option {α : Type} {toJson : α → Json} {value : Option α}
    (plain : ∀ inner ∈ value, (toJson inner).Plain) : (option toJson value).Plain := by
  cases value with
  | none => exact plain_null
  | some inner => exact plain inner rfl

/-- Fields of plain values with texts for names are read as they are written. -/
theorem isPlain_of_mem_fieldTokens {fields : List (String × Json)}
    (plain : ∀ field ∈ fields, field.2.Plain) :
    ∀ token ∈ fieldTokens (fields.map fun field => (some field.1, field.2)),
      token.isPlain = true := by
  induction fields with
  | nil => decide
  | cons field rest ih =>
    have first : ∀ token ∈ tokens field.2, token.isPlain = true := plain field List.mem_cons_self
    have later := ih fun other member => plain other (List.mem_cons_of_mem _ member)
    cases rest with
    | nil =>
      simp only [List.map_cons, List.map_nil, fieldTokens, List.cons_append, List.forall_mem_cons,
        List.forall_mem_append]
      exact ⟨rfl, rfl, first, rfl, nofun⟩
    | cons next more =>
      simp only [List.map_cons, fieldTokens, List.cons_append, List.forall_mem_cons,
        List.forall_mem_append] at later ⊢
      exact ⟨rfl, rfl, first, rfl, later⟩

/-- A record of plain values is plain. -/
theorem plain_record {fields : List (String × Json)} (plain : ∀ field ∈ fields, field.2.Plain) :
    (record fields).Plain := by
  rw [Plain, record, tokens, List.forall_mem_cons]
  exact ⟨rfl, isPlain_of_mem_fieldTokens plain⟩

end RaceSentry.Json
