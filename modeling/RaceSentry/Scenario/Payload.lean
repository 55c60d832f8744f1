import RaceSentry.Json.Basic

/-!
# Contents of values in scenarios

Values of a scenario hold JSON values. Here are the closures that scenarios run on them.
-/

namespace RaceSentry.Payload

/-- How an update changes a content. -/
inductive Change where
  /-- Not at all. -/
  | keep
  /-- Adds a number. -/
  | add (amount : Json)
  /-- Puts a text behind a text. -/
  | append (text : Json)
  /-- Puts an item behind the items of an array. -/
  | push (item : Json)
  /-- Loses the content, and gives up. -/
  | wipe

/-- A whole number of 64 bits with sign. -/
def word? (json : Json) : Option Int :=
  json.asInt?.bind fun value =>
    if -0x8000000000000000 ≤ value ∧ value < 0x8000000000000000 then some value else none

/-- The sum of two words, brought back into their range. -/
def wrappingAdd (left right : Int) : Int := Int.bmod (left + right) 0x10000000000000000

/-- The size of a content: characters of a text, items of an array, minus one for the rest. -/
def measure : Json → Int
  | .string (some text) => text.length
  | .array items => items.length
  | _ => -1

namespace Change

/-- Changes a content; with the new content there may be a text with which the closure gives
up. -/
def apply (change : Change) (payload : Json) : Json × Option String :=
  match change with
  | .keep => (payload, none)
  | .add amount =>
    match word? payload, word? amount with
    | some left, some right => (.int (wrappingAdd left right), none)
    | _, _ => (payload, some "add needs an integer")
  | .append text =>
    match payload, text with
    | .string (some front), .string (some back) => (.text (front ++ back), none)
    | _, _ => (payload, some "append needs a string")
  | .push item =>
    match payload with
    | .array items => (.array (items ++ [item]), none)
    | _ => (payload, some "push needs an array")
  | .wipe => (.null, some "wiped")

end Change

end RaceSentry.Payload
