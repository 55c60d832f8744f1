import RaceSentry.Json.Basic

/-!
# Records in JSON

A record is read from an object, in which the order of fields is free and unknown fields are
skipped, or from an array of its fields in their order. A known field may stand only once. A
field that is missing may have a stand-in, and which one may depend on the form of the record.
-/

namespace RaceSentry.Json

/-- A record on its way in. -/
inductive RecordForm where
  /-- Fields by name. -/
  | named (fields : List (String × Json))
  /-- Fields by place. -/
  | placed (items : List Json)

namespace RecordForm

/-- Takes a record apart, given the names of its fields. -/
def ofJson? (names : List String) : Json → Option RecordForm
  | .object fields => do
    let fields ← fields.mapM fun field => field.1.map fun name => (name, field.2)
    if names.all fun name => (fields.filter fun field => field.1 == name).length ≤ 1 then
      some (.named fields)
    else none
  | .array items => if items.length ≤ names.length then some (.placed items) else none
  | _ => none

/-- Reads one field. `absent` stands in for it in an object and `short` in an array. -/
def field? {α : Type} (form : RecordForm) (place : Nat) (name : String) (read : Json → Option α)
    (absent short : Option α) : Option α :=
  match form with
  | .named fields =>
    match fields.lookup name with
    | some value => read value
    | none => absent
  | .placed items =>
    match items[place]? with
    | some value => read value
    | none => short

/-- Reads a field that must be there. -/
def required? {α : Type} (form : RecordForm) (place : Nat) (name : String)
    (read : Json → Option α) : Option α :=
  form.field? place name read none none

/-- Reads a field that may be `null`, and in an object may be left out. -/
def optional? {α : Type} (form : RecordForm) (place : Nat) (name : String)
    (read : Json → Option α) : Option (Option α) :=
  let readOption : Json → Option (Option α)
    | .null => some none
    | value => (read value).map some
  form.field? place name readOption (some none) none

/-- Reads a field that has a stand-in wherever it is missing. -/
def defaulted? {α : Type} (form : RecordForm) (place : Nat) (name : String)
    (read : Json → Option α) (standIn : α) : Option α :=
  form.field? place name read (some standIn) (some standIn)

end RecordForm

/-- Reads a counter: a whole number that fits 64 bits without sign. -/
def counter? (json : Json) : Option Nat :=
  json.asNat?.bind fun value => if value < 0x10000000000000000 then some value else none

end RaceSentry.Json
