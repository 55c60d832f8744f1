import RaceSentry.Text.Reader
import RaceSentry.Toml.Quoted
import RaceSentry.Toml.Scalar
import RaceSentry.Toml.Value

/-!
# TOML text

The grammar of documents. A line holds a header, an assignment or nothing, and may end in a
comment. Arrays may be spread over lines, inline tables may not. Main function: `parse?`.
-/

namespace RaceSentry.Toml

open RaceSentry.Text

/-- Arrays and inline tables are not nested deeper than this. -/
def nestingLimit : Nat := 79

/-- A dotted key has no more parts than this. -/
def pathLimit : Nat := 79

/-- Spaces and tabs. -/
def isSpace (char : Char) : Bool := char == ' ' || char == '\t'

/-- Characters of keys without quotes. -/
def isBareKeyChar (char : Char) : Bool := char.isAlphanum || char == '_' || char == '-'

/-- Drops spaces and tabs. -/
def spaces : Reader Unit := do
  let _ ← Reader.takeWhile isSpace
  return ()

/-- Reads a line break. -/
def lineBreak : Reader Unit := Reader.lift fun chars =>
  match chars with
  | '\n' :: rest => some ((), rest)
  | '\r' :: '\n' :: rest => some ((), rest)
  | _ => none

/-- Reads a comment, but not the line break after it. -/
def comment : Reader Unit := do
  Reader.char '#'
  let _ ← Reader.takeWhile isPlain
  return ()

/-- Reads what may stand after a header or an assignment, up to the end of the line or text. -/
def lineEnd : Reader Unit := do
  spaces
  let _ ← Reader.optional comment
  match ← Reader.peek with
  | none => return ()
  | some _ => lineBreak

/-- Drops blanks, line breaks, and comments that a line break ends. -/
def filler : Reader Unit := do
  spaces
  let _ ← Reader.many (do
    let _ ← Reader.optional comment
    lineBreak
    spaces)
  return ()

/-- Reads one part of a key. -/
def simpleKey : Reader String := do
  match ← Reader.peek with
  | some '"' => do
    Reader.char '"'
    return String.ofList (← Reader.lift basic?)
  | some '\'' => do
    Reader.char '\''
    return String.ofList (← Reader.lift literal?)
  | _ => do
    let name ← Reader.takeWhile isBareKeyChar
    if name.isEmpty then Reader.refuse else return String.ofList name

/-- Reads a dotted key: the path, and the last part. -/
def key : Reader (List String × String) := do
  let part : Reader String := do
    spaces
    let name ← simpleKey
    spaces
    return name
  let parts ← Reader.separated part (Reader.char '.')
  if pathLimit < parts.length then Reader.refuse
  else
    match parts.getLast? with
    | some name => return (parts.dropLast, name)
    | none => Reader.refuse

/-- Reads a key, an equality sign and a value. -/
def assignment (value : Reader Value) : Reader (List String × String × Value) := do
  let (path, name) ← key
  Reader.char '='
  spaces
  let value ← value
  return (path, name, value)

/-- Reads the items of an array and its end. A comma may follow the last item. -/
def arrayRest (value : Reader Value) : Reader Value := do
  let item : Reader Value := do
    filler
    let value ← value
    filler
    return value
  let items ← Reader.optional (do
    let items ← Reader.separated item (Reader.char ',')
    let _ ← Reader.optional (Reader.char ',')
    return items)
  filler
  Reader.char ']'
  return .array (items.getD [])

/-- Reads the assignments of an inline table and its end. -/
def inlineTableRest (value : Reader Value) : Reader Value := do
  spaces
  let field := do
    let field ← assignment value
    spaces
    return field
  let fields ← Reader.optional (Reader.separated field (Reader.char ','))
  spaces
  Reader.char '}'
  let entries := (fields.getD []).foldlM (fun table (path, name, value) =>
    Table.assign? path name value table) []
  match entries with
  | some entries => return .table (Table.values entries)
  | none => Reader.refuse

/-- Reads a value in which arrays and inline tables are nested at most so deep. -/
def value : Nat → Reader Value
  | 0 => do
    match ← Reader.peek with
    | some '"' | some '\'' => return .string (String.ofList (← Reader.lift string?))
    | _ => Reader.lift scalar?
  | room + 1 => do
    match ← Reader.peek with
    | some '[' => do
      Reader.char '['
      arrayRest (value room)
    | some '{' => do
      Reader.char '{'
      inlineTableRest (value room)
    | some '"' | some '\'' => return .string (String.ofList (← Reader.lift string?))
    | _ => Reader.lift scalar?

/-- Reads the header of a table, or of one more table of an array. -/
def header : Reader Statement := do
  Reader.char '['
  if ← Reader.startsWith ['['] then do
    Reader.char '['
    let (path, name) ← key
    Reader.char ']'
    Reader.char ']'
    return .openNext path name
  else do
    let (path, name) ← key
    Reader.char ']'
    return .openTable path name

/-- Reads one line, or the lines of one assignment. -/
def line : Reader (Option Statement) := do
  spaces
  match ← Reader.peek with
  | none => Reader.refuse
  | some '#' | some '\n' | some '\r' => do
    lineEnd
    return none
  | some '[' => do
    let statement ← header
    lineEnd
    return some statement
  | some _ => do
    let (path, name, value) ← assignment (value nestingLimit)
    lineEnd
    return some (.assign path name value)

/-- Reads the statements of a document. -/
def statements : Reader (List Statement) := do
  let lines ← Reader.many line
  spaces
  return lines.filterMap id

/-- Reads a document. A byte order mark before it is dropped. -/
def parse? (text : String) : Option (List (String × Value)) :=
  let chars := text.toList
  let chars := if chars.head? = some '\ufeff' then chars.tail else chars
  (statements.run? chars).bind Document.ofStatements?

end RaceSentry.Toml
