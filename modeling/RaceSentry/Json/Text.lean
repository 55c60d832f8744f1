import RaceSentry.Json.Token

/-!
# JSON text

`Json.parse?` reads a text and `Json.render` writes one without blanks. Reading is a machine that
takes one token at a time and keeps the containers it is inside of, innermost first, so nesting
has no limit. Writing lists the tokens of a value.
-/

namespace RaceSentry.Json

/-- A container that is being read, with its items so far, latest first. -/
inductive Frame where
  /-- An array. -/
  | array (items : List Json)
  /-- An object that waits for the value of a name. -/
  | object (fields : List (Spelling × Json)) (name : Spelling)

/-- What has just been read, and so what may come. -/
inductive Expected where
  /-- A value must come. -/
  | value
  /-- An array was opened: a value, or its end. -/
  | firstItem
  /-- An object was opened: a name, or its end. -/
  | firstName
  /-- A comma was read inside an object: a name. -/
  | name (fields : List (Spelling × Json))
  /-- A name was read: a colon. -/
  | colon (fields : List (Spelling × Json)) (name : Spelling)
  /-- A value is complete: a comma or the end of its container. -/
  | after (value : Json)

/-- A reader between two tokens. -/
structure Reader where
  /-- What may come. -/
  expected : Expected
  /-- Open containers, innermost first. -/
  frames : List Frame

namespace Reader

/-- Nothing has been read. -/
def start : Reader := ⟨.value, []⟩

/-- Reads the first token of a value. -/
def beginValue (frames : List Frame) : Token → Option Reader
  | .null => some ⟨.after .null, frames⟩
  | .bool value => some ⟨.after (.bool value), frames⟩
  | .number value => some ⟨.after (.number value), frames⟩
  | .string value => some ⟨.after (.string value), frames⟩
  | .openArray => some ⟨.firstItem, frames⟩
  | .openObject => some ⟨.firstName, frames⟩
  | _ => none

/-- Reads a token after a complete value. -/
def afterValue (value : Json) (frames : List Frame) (token : Token) : Option Reader :=
  match frames, token with
  | .array items :: outer, .comma => some ⟨.value, .array (value :: items) :: outer⟩
  | .array items :: outer, .closeArray => some ⟨.after (.array (value :: items).reverse), outer⟩
  | .object fields name :: outer, .comma => some ⟨.name ((name, value) :: fields), outer⟩
  | .object fields name :: outer, .closeObject =>
    some ⟨.after (.object ((name, value) :: fields).reverse), outer⟩
  | _, _ => none

/-- Reads one token. -/
def step (reader : Reader) (token : Token) : Option Reader :=
  match reader.expected, token with
  | .value, token => beginValue reader.frames token
  | .firstItem, .closeArray => some ⟨.after (.array []), reader.frames⟩
  | .firstItem, token => beginValue (.array [] :: reader.frames) token
  | .firstName, .closeObject => some ⟨.after (.object []), reader.frames⟩
  | .firstName, .string name => some ⟨.colon [] name, reader.frames⟩
  | .name fields, .string name => some ⟨.colon fields name, reader.frames⟩
  | .colon fields name, .colon => some ⟨.value, .object fields name :: reader.frames⟩
  | .after value, token => afterValue value reader.frames token
  | _, _ => none

/-- The value that was read, when it is complete and nothing is open. -/
def result? : Reader → Option Json
  | ⟨.after value, []⟩ => some value
  | _ => none

end Reader

/-- The value that a list of tokens spells. -/
def ofTokens? (tokens : List Token) : Option Json :=
  (tokens.foldlM Reader.step Reader.start).bind Reader.result?

/-- Reads a text. -/
def parse? (text : String) : Option Json :=
  (Token.scan? text.toList).bind ofTokens?

mutual

/-- The tokens that spell a value. -/
def tokens : Json → List Token
  | .null => [.null]
  | .bool value => [.bool value]
  | .number value => [.number value]
  | .string value => [.string value]
  | .array items => .openArray :: itemTokens items
  | .object fields => .openObject :: fieldTokens fields

/-- The tokens that spell items, a comma between two of them, and the end of their array. -/
def itemTokens : List Json → List Token
  | [] => [.closeArray]
  | [item] => tokens item ++ [.closeArray]
  | item :: next :: rest => tokens item ++ .comma :: itemTokens (next :: rest)

/-- The tokens that spell fields, a comma between two of them, and the end of their object. -/
def fieldTokens : List (Spelling × Json) → List Token
  | [] => [.closeObject]
  | [(name, value)] => .string name :: .colon :: tokens value ++ [.closeObject]
  | (name, value) :: next :: rest =>
    .string name :: .colon :: tokens value ++ .comma :: fieldTokens (next :: rest)

end

/-- Writes a value without blanks. -/
def render (json : Json) : String :=
  String.ofList ((tokens json).flatMap Token.text)

end RaceSentry.Json
