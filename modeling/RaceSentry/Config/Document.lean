import RaceSentry.Config.Basic
import RaceSentry.Toml.Text

/-!
# Configurations as documents

A configuration is read from a TOML document. Something stands in for a setting that the document
leaves out, and the standard section for a section; what a configuration does not know is skipped.
A section is a table, or an array of its settings in their order. A section that is a point in time
counts as a table in which nothing is known.
-/

namespace RaceSentry

/-- A section on its way in. -/
inductive ConfigSection where
  /-- Settings by name. -/
  | named (entries : List (String × Toml.Value))
  /-- Settings by place; further items mean nothing. -/
  | placed (items : List Toml.Value)

namespace ConfigSection

/-- Takes a section apart. -/
def ofValue? : Toml.Value → Option ConfigSection
  | .table entries => some (.named entries)
  | .array items => some (.placed items)
  | .moment _ => some (.named [])
  | _ => none

/-- Reads one setting. Something stands in for it when it is not there. -/
def setting? {α : Type} (form : ConfigSection) (place : Nat) (name : String)
    (read : Toml.Value → Option α) (standIn : α) : Option α :=
  let found := match form with
    | .named entries => entries.lookup name
    | .placed items => items[place]?
  match found with
  | some value => read value
  | none => some standIn

/-- A truth value. -/
def flag? : Toml.Value → Option Bool
  | .boolean value => some value
  | _ => none

/-- A whole number that is not negative. -/
def size? : Toml.Value → Option Nat
  | .integer value => value.toNat?
  | _ => none

/-- A text. -/
def text? : Toml.Value → Option String
  | .string value => some value
  | _ => none

end ConfigSection

namespace RaceDetectionConfig

/-- Reads the section on detection. -/
def ofSection? (form : ConfigSection) : Option RaceDetectionConfig := do
  let enabled ← form.setting? 0 "enabled" ConfigSection.flag? StandIn.switch
  some ⟨enabled⟩

end RaceDetectionConfig

namespace CaptureConfig

/-- Reads the section on reports. -/
def ofSection? (form : ConfigSection) : Option CaptureConfig := do
  let enabled ← form.setting? 0 "enabled" ConfigSection.flag? StandIn.switch
  let bufferSize ← form.setting? 1 "buffer_size" ConfigSection.size? StandIn.bufferSize
  some ⟨enabled, bufferSize⟩

end CaptureConfig

namespace LoggingConfig

/-- Reads the section on logging. A missing switch for modules is what truth values are by
default. -/
def ofSection? (form : ConfigSection) : Option LoggingConfig := do
  let level ← form.setting? 0 "level" ConfigSection.text? StandIn.level
  let includeModules ← form.setting? 1 "include_modules" ConfigSection.flag? default
  some ⟨level, includeModules⟩

end LoggingConfig

namespace DetectorConfig

/-- Reads a configuration from the entries of a document. -/
def ofToml? (entries : List (String × Toml.Value)) : Option DetectorConfig := do
  let section? {α : Type} (name : String) (read : ConfigSection → Option α) (standard : α) :
      Option α :=
    match entries.lookup name with
    | none => some standard
    | some value => (ConfigSection.ofValue? value).bind read
  let raceDetection ← section? "race_detection" RaceDetectionConfig.ofSection? .standard
  let capture ← section? "capture" CaptureConfig.ofSection? .standard
  let logging ← section? "logging" LoggingConfig.ofSection? .standard
  some ⟨raceDetection, capture, logging⟩

/-- Reads a configuration from a text. -/
def parse (text : String) : Except ConfigError DetectorConfig :=
  match (Toml.parse? text).bind ofToml? with
  | some config => .ok config
  | none => .error .malformed

/-- Reads a configuration from the content of a file, `none` if there is no file. -/
def ofFile (content : Option ByteArray) : Except ConfigError DetectorConfig :=
  match content.bind String.fromUTF8? with
  | none => .error .unreadable
  | some text =>
    match (Toml.parse? text).bind ofToml? with
    | some config => .ok config
    | none => .error .malformedFile

/-- The configuration in a file, or the standard one if there is none to be had. -/
def ofFileOrStandard (content : Option ByteArray) : DetectorConfig :=
  match ofFile content with
  | .ok config => config
  | .error _ => standard

/-- A character of a level as it stands between quotes. -/
def levelChar (char : Char) : List Char :=
  if char = '"' ∨ char = '\\' then ['\\', char]
  else if Toml.isPlain char then [char]
  else
    ['\\', 'u', '0', '0', Text.hexDigit (Fin.ofNat 16 (char.toNat / 16)),
      Text.hexDigit (Fin.ofNat 16 char.toNat)]

/-- Writes a configuration as a document. -/
def toToml (config : DetectorConfig) : String :=
  let flag (value : Bool) : String := if value then "true" else "false"
  let level := String.ofList (config.logging.level.toList.flatMap levelChar)
  "[race_detection]\n" ++
  "enabled = " ++ flag config.raceDetection.enabled ++ "\n\n" ++
  "[capture]\n" ++
  "enabled = " ++ flag config.capture.enabled ++ "\n" ++
  "buffer_size = " ++ toString config.capture.bufferSize ++ "\n\n" ++
  "[logging]\n" ++
  "level = \"" ++ level ++ "\"\n" ++
  "include_modules = " ++ flag config.logging.includeModules ++ "\n"

/-- A document that sets everything. -/
def sampleText : String :=
  "[race_detection]\nenabled = true\n\n[capture]\nenabled = true\nbuffer_size = 256\n\n" ++
  "[logging]\nlevel = \"debug\"\ninclude_modules = true\n"

end DetectorConfig

end RaceSentry
