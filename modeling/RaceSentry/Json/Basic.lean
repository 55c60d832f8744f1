/-!
# JSON values

A value of the data format in which records are exported and payloads of scenarios are written.
Fields keep their order and may repeat; who reads a record decides what a repeated field means.
-/

namespace RaceSentry

namespace Json

/-- A number. Only whole numbers are computed with; any other is kept as it is written. -/
inductive Number where
  /-- A number written without fraction and exponent that fits a word, minus zero excepted. -/
  | whole (value : Int)
  /-- Any other number. -/
  | real (literal : String)
  deriving DecidableEq, Repr

/-- What a string literal spells. Escapes can name half of a surrogate pair, which belongs to no
text: such a literal is well-formed, and spells `none`. -/
abbrev Spelling := Option String

end Json

/-- A JSON value. -/
inductive Json where
  /-- The value `null`. -/
  | null
  /-- A truth value. -/
  | bool (value : Bool)
  /-- A number. -/
  | number (value : Json.Number)
  /-- A string. -/
  | string (value : Json.Spelling)
  /-- A list of values. -/
  | array (items : List Json)
  /-- A list of named values. -/
  | object (fields : List (Json.Spelling × Json))
  deriving Repr

namespace Json

instance : Inhabited Json := ⟨null⟩

/-- A text as a value. -/
def text (value : String) : Json := .string (some value)

/-- A whole number as a value. -/
def int (value : Int) : Json := .number (.whole value)

/-- A natural number as a value. -/
def nat (value : Nat) : Json := int value

/-- A record with the given fields. -/
def record (fields : List (String × Json)) : Json :=
  .object (fields.map fun field => (some field.1, field.2))

/-- A value that may be missing, `null` if it is. -/
def option {α : Type} (toJson : α → Json) : Option α → Json
  | none => .null
  | some value => toJson value

/-- The value of a field of an object; of a repeated field, the last. -/
def field? (json : Json) (name : String) : Option Json :=
  match json with
  | .object fields => (fields.reverse.find? fun field => field.1 == some name).map Prod.snd
  | _ => none

/-- The text of a string. -/
def asText? : Json → Option String
  | .string value => value
  | _ => none

/-- The value of a whole number. -/
def asInt? : Json → Option Int
  | .number (.whole value) => some value
  | _ => none

/-- The value of a whole number that is not negative. -/
def asNat? (json : Json) : Option Nat := json.asInt?.bind Int.toNat?

/-- The value of a truth value. -/
def asBool? : Json → Option Bool
  | .bool value => some value
  | _ => none

/-- The items of an array. -/
def asArray? : Json → Option (List Json)
  | .array items => some items
  | _ => none

end Json

end RaceSentry
