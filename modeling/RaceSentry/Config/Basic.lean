import RaceSentry.Text.Lowercase

/-!
# Configuration of a detector

A configuration has three sections, each with settings of its own. It is usable when reports have
room to wait, if they are captured at all, and when the log level is one of five, in any case.
-/

namespace RaceSentry

/-- Whether accesses are recorded and judged at all. -/
structure RaceDetectionConfig where
  /-- Off, values keep no clocks and flag nobody. -/
  enabled : Bool
  deriving DecidableEq, Repr

/-- How reports are kept until somebody takes them. -/
structure CaptureConfig where
  /-- Off, reports are counted but not kept. -/
  enabled : Bool
  /-- The most reports that wait. -/
  bufferSize : Nat
  deriving DecidableEq, Repr

/-- What is logged. -/
structure LoggingConfig where
  /-- The least severe level that is logged. -/
  level : String
  /-- Whether lines name the module they come from. -/
  includeModules : Bool
  deriving DecidableEq, Repr

/-- The configuration of a detector. -/
structure DetectorConfig where
  /-- Detection. -/
  raceDetection : RaceDetectionConfig
  /-- Reports. -/
  capture : CaptureConfig
  /-- Logging. -/
  logging : LoggingConfig
  deriving DecidableEq, Repr

/-- Why there is no usable configuration. -/
inductive ConfigError where
  /-- The text is no configuration. -/
  | malformed
  /-- The file cannot be read as text. -/
  | unreadable
  /-- The text of the file is no configuration. -/
  | malformedFile
  /-- Reports are captured, but none may wait. -/
  | noBuffer
  /-- The log level, here in lower case, is none of the five. -/
  | unknownLevel (level : String)
  deriving DecidableEq, Repr

namespace ConfigError

/-- The reason in words. -/
def message : ConfigError → String
  | .malformed => "Failed to parse config"
  | .unreadable => "Failed to read config file"
  | .malformedFile => "Failed to parse config file"
  | .noBuffer => "capture.buffer_size must be greater than 0 when capture is enabled"
  | .unknownLevel level => "Invalid log level: " ++ level

end ConfigError

namespace StandIn

/-- What stands in for a missing switch of detection or of reports: they are on. -/
def switch : Bool := true

/-- What stands in for a missing size of the buffer. -/
def bufferSize : Nat := 10000

/-- What stands in for a missing level. -/
def level : String := "info"

end StandIn

namespace RaceDetectionConfig

/-- Accesses are recorded. -/
def standard : RaceDetectionConfig := ⟨true⟩

end RaceDetectionConfig

namespace CaptureConfig

/-- Ten thousand reports may wait. -/
def standard : CaptureConfig := ⟨true, StandIn.bufferSize⟩

end CaptureConfig

namespace LoggingConfig

/-- The level is `info`, and modules are not named. -/
def standard : LoggingConfig := ⟨StandIn.level, false⟩

end LoggingConfig

namespace DetectorConfig

/-- The configuration of a detector that nobody configured. -/
def standard : DetectorConfig := ⟨.standard, .standard, .standard⟩

/-- The levels, from the most talkative to the quietest. -/
def levelNames : List String := ["trace", "debug", "info", "warn", "error"]

/-- What makes a configuration unusable. The buffer is looked at first. -/
def fault? (config : DetectorConfig) : Option ConfigError :=
  let level := Text.lowercase config.logging.level
  if config.capture.enabled ∧ config.capture.bufferSize = 0 then some .noBuffer
  else if level ∈ levelNames then none
  else some (.unknownLevel level)

/-- Accepts a usable configuration. -/
def validate (config : DetectorConfig) : Except ConfigError Unit :=
  match config.fault? with
  | some reason => .error reason
  | none => .ok ()

/-- Warnings only, and a buffer for a test that produces some reports. -/
def captureSample : DetectorConfig :=
  { standard with capture := ⟨true, 1024⟩, logging := ⟨"warn", false⟩ }

/-- Warnings only, and a buffer that a test can fill. -/
def tinyBuffer (capacity : Nat) : DetectorConfig :=
  { captureSample with capture := ⟨true, capacity⟩ }

end DetectorConfig

end RaceSentry
