import RaceSentry.Config.Basic
import RaceSentry.Json.Record
import RaceSentry.Json.Text
import RaceSentry.Report

/-!
# Exported records

Reports, statistics, identities, kinds of access and configurations are exported as JSON and read
back. Each has a writer `toJson` and a reader `ofJson?`; the reader knows more forms than the
writer uses.
-/

namespace RaceSentry

namespace AccessKind

/-- A kind is its tag. -/
def toJson (kind : AccessKind) : Json := .text kind.tag

/-- A kind is its tag, alone or as the only name of an object, with `null`. -/
def ofJson? : Json → Option AccessKind
  | .string (some tag) => ofTag? tag
  | .object [(some tag, .null)] => ofTag? tag
  | _ => none

end AccessKind

namespace Uuid

/-- An identity is its written form. -/
def toJson (id : Uuid) : Json := .text id.text

/-- An identity is any of its forms. -/
def ofJson? (json : Json) : Option Uuid := json.asText?.bind parse?

end Uuid

namespace Timestamp

/-- A moment is its written form. -/
def toJson (time : Timestamp) : Json := .text time.text

/-- A moment is any of its forms. -/
def ofJson? (json : Json) : Option Timestamp := json.asText?.bind parse?

end Timestamp

namespace ConflictingAccess

/-- Names of the fields. -/
def fieldNames : List String := ["thread", "access", "authoritative", "observed"]

/-- Writes a record of all fields. -/
def toJson (conflicting : ConflictingAccess) : Json :=
  .record [
    ("thread", .text conflicting.thread),
    ("access", conflicting.access.toJson),
    ("authoritative", .nat conflicting.authoritative),
    ("observed", .option .nat conflicting.observed)]

/-- Reads a record. -/
def ofJson? (json : Json) : Option ConflictingAccess := do
  let form ← Json.RecordForm.ofJson? fieldNames json
  let thread ← form.required? 0 "thread" Json.asText?
  let access ← form.required? 1 "access" AccessKind.ofJson?
  let authoritative ← form.required? 2 "authoritative" Json.counter?
  let observed ← form.optional? 3 "observed" Json.counter?
  some ⟨thread, access, authoritative, observed⟩

end ConflictingAccess

namespace RaceReport

/-- Names of the fields. -/
def fieldNames : List String :=
  ["id", "value_id", "label", "thread", "thread_name", "access", "conflicting", "timestamp"]

/-- Writes a record of all fields. -/
def toJson (report : RaceReport) : Json :=
  .record [
    ("id", report.id.toJson),
    ("value_id", report.valueId.toJson),
    ("label", .option .text report.label),
    ("thread", .text report.thread),
    ("thread_name", .option .text report.threadName),
    ("access", report.access.toJson),
    ("conflicting", report.conflicting.toJson),
    ("timestamp", report.timestamp.toJson)]

/-- Reads a record. -/
def ofJson? (json : Json) : Option RaceReport := do
  let form ← Json.RecordForm.ofJson? fieldNames json
  let id ← form.required? 0 "id" Uuid.ofJson?
  let valueId ← form.required? 1 "value_id" Uuid.ofJson?
  let label ← form.optional? 2 "label" Json.asText?
  let thread ← form.required? 3 "thread" Json.asText?
  let threadName ← form.optional? 4 "thread_name" Json.asText?
  let access ← form.required? 5 "access" AccessKind.ofJson?
  let conflicting ← form.required? 6 "conflicting" ConflictingAccess.ofJson?
  let timestamp ← form.required? 7 "timestamp" Timestamp.ofJson?
  some ⟨id, valueId, label, thread, threadName, access, conflicting, timestamp⟩

end RaceReport

namespace ValueRaceStats

/-- Names of the fields. -/
def fieldNames : List String := ["value_id", "label", "races"]

/-- Writes a record of all fields. -/
def toJson (stats : ValueRaceStats) : Json :=
  .record [
    ("value_id", stats.valueId.toJson),
    ("label", .option .text stats.label),
    ("races", .nat stats.races)]

/-- Reads a record. -/
def ofJson? (json : Json) : Option ValueRaceStats := do
  let form ← Json.RecordForm.ofJson? fieldNames json
  let valueId ← form.required? 0 "value_id" Uuid.ofJson?
  let label ← form.optional? 1 "label" Json.asText?
  let races ← form.required? 2 "races" Json.counter?
  some ⟨valueId, label, races⟩

end ValueRaceStats

namespace RaceDetectionConfig

/-- Writes the section. -/
def toJson (config : RaceDetectionConfig) : Json := .record [("enabled", .bool config.enabled)]

/-- Reads the section. -/
def ofJson? (json : Json) : Option RaceDetectionConfig := do
  let form ← Json.RecordForm.ofJson? ["enabled"] json
  let enabled ← form.defaulted? 0 "enabled" Json.asBool? StandIn.switch
  some ⟨enabled⟩

end RaceDetectionConfig

namespace CaptureConfig

/-- Writes the section. -/
def toJson (config : CaptureConfig) : Json :=
  .record [("enabled", .bool config.enabled), ("buffer_size", .nat config.bufferSize)]

/-- Reads the section. -/
def ofJson? (json : Json) : Option CaptureConfig := do
  let form ← Json.RecordForm.ofJson? ["enabled", "buffer_size"] json
  let enabled ← form.defaulted? 0 "enabled" Json.asBool? StandIn.switch
  let bufferSize ← form.defaulted? 1 "buffer_size" Json.counter? StandIn.bufferSize
  some ⟨enabled, bufferSize⟩

end CaptureConfig

namespace LoggingConfig

/-- Writes the section. -/
def toJson (config : LoggingConfig) : Json :=
  .record [("level", .text config.level), ("include_modules", .bool config.includeModules)]

/-- Reads the section. -/
def ofJson? (json : Json) : Option LoggingConfig := do
  let form ← Json.RecordForm.ofJson? ["level", "include_modules"] json
  let level ← form.defaulted? 0 "level" Json.asText? StandIn.level
  let includeModules ← form.defaulted? 1 "include_modules" Json.asBool? default
  some ⟨level, includeModules⟩

end LoggingConfig

namespace DetectorConfig

/-- Names of the sections. -/
def fieldNames : List String := ["race_detection", "capture", "logging"]

/-- Writes a record of all sections. -/
def toJson (config : DetectorConfig) : Json :=
  .record [
    ("race_detection", config.raceDetection.toJson),
    ("capture", config.capture.toJson),
    ("logging", config.logging.toJson)]

/-- Reads a record. Sections that are missing are the standard ones. -/
def ofJson? (json : Json) : Option DetectorConfig := do
  let form ← Json.RecordForm.ofJson? fieldNames json
  let raceDetection ←
    form.defaulted? 0 "race_detection" RaceDetectionConfig.ofJson? .standard
  let capture ← form.defaulted? 1 "capture" CaptureConfig.ofJson? .standard
  let logging ← form.defaulted? 2 "logging" LoggingConfig.ofJson? .standard
  some ⟨raceDetection, capture, logging⟩

end DetectorConfig

end RaceSentry
