import RaceSentry.Text.Quoted
import RaceSentry.World.Basic

/-!
# Descriptions of values

A value is described for people without waiting for its lock and without cutting any work short.
What cannot be looked at now is said to be borrowed or locked.
-/

namespace RaceSentry

/-- The parts of a description. -/
inductive Outline where
  /-- A word. -/
  | word (text : String)
  /-- A name with one part in parentheses. -/
  | wrapped (name : String) (part : Outline)

namespace Outline

/-- A part on one line. -/
def compact : Outline → String
  | .word text => text
  | .wrapped name part => name ++ "(" ++ part.compact ++ ")"

/-- A part spread over lines that start with the given indentation, after the first. -/
def spread (indent : String) : Outline → String
  | .word text => text
  | .wrapped name part =>
    name ++ "(\n" ++ indent ++ "    " ++ part.spread (indent ++ "    ") ++ ",\n" ++ indent ++ ")"

end Outline

namespace Cell

variable {α : Type}

/-- What a thread sees of the state of a value. -/
def stateOutline (cell : Cell α) (thread : ThreadId) : List (String × Outline) :=
  if !cell.lock.admits thread then [("state", .word "<locked>")]
  else if cell.borrowed then [("state", .word "<borrowed>")]
  else
    [("clock_entries", .word (toString cell.clock.size)),
      ("racing_threads", .word (toString cell.raceCount))]

/-- All parts of the description of a value. -/
def outline (cell : Cell α) (id : ValueId) (thread : ThreadId) : List (String × Outline) :=
  let label := match cell.label with
    | none => Outline.word "None"
    | some label => .wrapped "Some" (.word (Text.quoted label))
  [("id", .wrapped "ValueId" (.word id.text)), ("label", label)] ++ cell.stateOutline thread

/-- The description of a value on one line. -/
def describe (cell : Cell α) (id : ValueId) (thread : ThreadId) : String :=
  "MonitoredValue \x7b " ++
    String.join ((cell.outline id thread).map fun (name, part) =>
      name ++ ": " ++ part.compact ++ ", ") ++ ".. \x7d"

/-- The description of a value with a line for each part. -/
def describeSpread (cell : Cell α) (id : ValueId) (thread : ThreadId) : String :=
  "MonitoredValue \x7b\n" ++
    String.join ((cell.outline id thread).map fun (name, part) =>
      "    " ++ name ++ ": " ++ part.spread "    " ++ ",\n") ++ "    ..\n\x7d"

end Cell

end RaceSentry
