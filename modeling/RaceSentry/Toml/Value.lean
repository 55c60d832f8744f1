/-!
# TOML documents

A document is a table. It is built statement by statement: a header opens a table, or one more
table of an array, and an assignment puts a value at a dotted path below the open table. Each
table remembers how it came to be, because that decides who may still add to it.
Main operations: `Document.extend?`, and `Table.assign?` for the braces of an inline table.
-/

namespace RaceSentry.Toml

/-- A value. Of numbers with fractions and of points in time only the spelling is kept. -/
inductive Value where
  /-- A truth value. -/
  | boolean (value : Bool)
  /-- A whole number. -/
  | integer (value : Int)
  /-- A number with a fraction or an exponent, an infinity, or no number. -/
  | float (literal : String)
  /-- A date, a time of day, or both. -/
  | moment (literal : String)
  /-- A text. -/
  | string (value : String)
  /-- A list of values. -/
  | array (items : List Value)
  /-- Named values. No name occurs twice. -/
  | table (entries : List (String × Value))

/-- How a table came to be. -/
inductive Origin where
  /-- It was opened by a header of its own. -/
  | header
  /-- It was named on the way to the table of a header. -/
  | passed
  /-- It was named on the way to the last key of an assignment. -/
  | dotted
  deriving DecidableEq

/-- A part of a document that is being read. -/
inductive Node where
  /-- A complete value. -/
  | closed (value : Value)
  /-- A table that may still grow. -/
  | table (origin : Origin) (entries : List (String × Node))
  /-- An array of tables: complete ones, latest first, and the one that may still grow. -/
  | tables (earlier : List Value) (entries : List (String × Node))

/-- Entries of a table that is being read, in the order of their appearance. -/
abbrev Table := List (String × Node)

mutual

/-- What a part of a document stands for. -/
def Node.value : Node → Value
  | .closed value => value
  | .table _ entries => .table (Table.values entries)
  | .tables earlier entries => .array (earlier.reverse ++ [.table (Table.values entries)])

/-- The entries of a table with what they stand for. -/
def Table.values : List (String × Node) → List (String × Value)
  | [] => []
  | (name, node) :: rest => (name, node.value) :: Table.values rest

end

namespace Table

/-- Puts a part in the place of the one of the same name. -/
def put (table : Table) (name : String) (node : Node) : Table :=
  table.map fun entry => if entry.1 == name then (name, node) else entry

/-- Works on the table at the end of a path, which is told how that table came to be. Tables on
the way that do not exist are made. A path of dotted keys does not lead through tables with a
header of their own, and no path leads through a complete value. -/
def atPath? (dotted : Bool) (work : Origin → Table → Option Table) :
    Origin → List String → Table → Option Table
  | origin, [], table => work origin table
  | _, name :: path, table =>
    match table.lookup name with
    | none =>
      let origin := if dotted then .dotted else .passed
      (atPath? dotted work origin path []).map fun inner => table ++ [(name, .table origin inner)]
    | some (.closed _) => none
    | some (.tables earlier entries) =>
      (atPath? dotted work .header path entries).map fun inner =>
        put table name (.tables earlier inner)
    | some (.table origin entries) =>
      if dotted ∧ origin = .header then none
      else
        (atPath? dotted work origin path entries).map fun inner =>
          put table name (.table origin inner)

/-- Puts a value under a new name, after a dotted path. A path ends in a table made by dotted
keys; without a path the table must not be one of those. -/
def assign? (path : List String) (name : String) (value : Value) (table : Table) : Option Table :=
  let work (origin : Origin) (inner : Table) : Option Table :=
    if (origin = .dotted) ↔ path.isEmpty then none
    else if (inner.lookup name).isSome then none
    else some (inner ++ [(name, .closed value)])
  atPath? true work .header path table

/-- Opens a table. It may have been passed on the way to another, but not opened before. -/
def openTable? (path : List String) (name : String) (table : Table) : Option Table :=
  let work (_ : Origin) (inner : Table) : Option Table :=
    match inner.lookup name with
    | none => some (inner ++ [(name, .table .header [])])
    | some (.table .passed entries) => some (put inner name (.table .header entries))
    | _ => none
  atPath? false work .header path table

/-- Opens one more table of an array. -/
def openNext? (path : List String) (name : String) (table : Table) : Option Table :=
  let work (_ : Origin) (inner : Table) : Option Table :=
    match inner.lookup name with
    | none => some (inner ++ [(name, .tables [] [])])
    | some (.tables earlier entries) =>
      some (put inner name (.tables (.table (values entries) :: earlier) []))
    | _ => none
  atPath? false work .header path table

end Table

/-- One line of a document, or several lines if its value spans them. -/
inductive Statement where
  /-- A value for a key, after a dotted path. -/
  | assign (path : List String) (name : String) (value : Value)
  /-- The header of a table, after a dotted path. -/
  | openTable (path : List String) (name : String)
  /-- The header of one more table of an array, after a dotted path. -/
  | openNext (path : List String) (name : String)

/-- A document that is being read. -/
structure Document where
  /-- Everything so far. -/
  root : Table
  /-- The path of the table that was opened last. -/
  current : List String

namespace Document

/-- Nothing has been read. -/
def empty : Document := ⟨[], []⟩

/-- Takes one statement in. -/
def extend? (document : Document) : Statement → Option Document
  | .assign path name value =>
    (Table.atPath? false (fun _ table => Table.assign? path name value table) .header
      document.current document.root).map fun root => ⟨root, document.current⟩
  | .openTable path name =>
    (document.root.openTable? path name).map fun root => ⟨root, path ++ [name]⟩
  | .openNext path name =>
    (document.root.openNext? path name).map fun root => ⟨root, path ++ [name]⟩

/-- The table that a list of statements makes. -/
def ofStatements? (statements : List Statement) : Option (List (String × Value)) :=
  (statements.foldlM extend? empty).map fun document => Table.values document.root

end Document

end RaceSentry.Toml
