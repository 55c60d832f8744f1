/-!
# Readers of text

A reader takes something off the front of a text, or refuses. What it leaves is never longer than
what it was given, and carries the proof, so a repetition ends when nothing more is taken.
-/

namespace RaceSentry.Text

/-- What a reader took, and what it left of a text of the given length. -/
structure Taken (α : Type) (length : Nat) where
  /-- The value read. -/
  value : α
  /-- The text after it. -/
  rest : List Char
  /-- Nothing was put back beyond what was there. -/
  within : rest.length ≤ length

/-- Takes a value off the front of a text. -/
def Reader (α : Type) := (chars : List Char) → Option (Taken α chars.length)

namespace Reader

variable {α β : Type}

/-- Takes nothing. -/
def give (value : α) : Reader α := fun chars => some ⟨value, chars, Nat.le_refl _⟩

/-- Reads one thing, then another that may depend on it. -/
def next (first : Reader α) (second : α → Reader β) : Reader β := fun chars =>
  match first chars with
  | none => none
  | some taken =>
    match second taken.value taken.rest with
    | none => none
    | some later => some ⟨later.value, later.rest, Nat.le_trans later.within taken.within⟩

instance : Monad Reader where
  pure := give
  bind := next

/-- Refuses every text. -/
def refuse : Reader α := fun _ => none

/-- Reads with a function on lists, and refuses if that leaves more than it was given. -/
def lift (read : List Char → Option (α × List Char)) : Reader α := fun chars =>
  match read chars with
  | none => none
  | some (value, rest) =>
    if within : rest.length ≤ chars.length then some ⟨value, rest, within⟩ else none

/-- Looks at the first character without taking it. -/
def peek : Reader (Option Char) := fun chars => some ⟨chars.head?, chars, Nat.le_refl _⟩

/-- Whether the text starts with the given characters; nothing is taken. -/
def startsWith (start : List Char) : Reader Bool := fun chars =>
  some ⟨start.isPrefixOf chars, chars, Nat.le_refl _⟩

/-- Takes the given character. -/
def char (wanted : Char) : Reader Unit := fun chars =>
  match chars with
  | [] => none
  | first :: rest => if first = wanted then some ⟨(), rest, Nat.le_succ _⟩ else none

/-- Takes characters while they belong to a class. -/
def takeWhile (accept : Char → Bool) : Reader (List Char) := fun chars =>
  some ⟨chars.takeWhile accept, chars.dropWhile accept,
    (chars.dropWhile_sublist accept).length_le⟩

/-- Reads something if it is there. -/
def optional (reader : Reader α) : Reader (Option α) := fun chars =>
  match reader chars with
  | none => some ⟨none, chars, Nat.le_refl _⟩
  | some taken => some ⟨some taken.value, taken.rest, taken.within⟩

/-- Succeeds at the end of the text only. -/
def finish : Reader Unit := fun chars =>
  match chars with
  | [] => some ⟨(), [], Nat.le_refl _⟩
  | _ :: _ => none

/-- Reads as often as possible. A reading that takes nothing is the last. -/
def many (item : Reader α) (chars : List Char) : Option (Taken (List α) chars.length) :=
  match item chars with
  | none => some ⟨[], chars, Nat.le_refl _⟩
  | some taken =>
    if _shorter : taken.rest.length < chars.length then
      match many item taken.rest with
      | none => none
      | some later =>
        some ⟨taken.value :: later.value, later.rest, Nat.le_trans later.within taken.within⟩
    else some ⟨[taken.value], taken.rest, taken.within⟩
termination_by chars.length

/-- Reads items with a separator between any two of them; there is at least one. -/
def separated (item : Reader α) (separator : Reader Unit) : Reader (List α) := do
  let first ← item
  let others ← many (do separator; item)
  return first :: others

/-- Reads a whole text. -/
def run? (reader : Reader α) (chars : List Char) : Option α :=
  match next reader (fun value => next finish fun _ => give value) chars with
  | none => none
  | some taken => some taken.value

end Reader

end RaceSentry.Text
