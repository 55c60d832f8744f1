import RaceSentry.Config.Document
import RaceSentry.Proofs.Documents

/-!
# Settings given by a document

A configuration has five settings, in three sections. A document gives a setting if the section is
a table with its name or an array that reaches to its place. The document is a configuration exactly
if its sections are tables and arrays and what they give is of the right type. Then each setting is
what the document gives for it, or else what it is in the standard configuration.
Main statement: `completed_by_defaults`.
-/

namespace RaceSentry

open Toml (Value)

/-- The settings of a configuration. -/
inductive ConfigField where
  /-- Whether accesses are recorded and judged. -/
  | detection
  /-- Whether reports are kept. -/
  | capture
  /-- The most reports that wait. -/
  | bufferSize
  /-- The level of the log. -/
  | level
  /-- Whether lines of the log name modules. -/
  | includeModules
  deriving DecidableEq

/-- A document: values by name. -/
abbrev TomlDocument := List (String × Value)

namespace ConfigField

/-- The names of the sections. -/
def sectionNames : List String := ["race_detection", "capture", "logging"]

/-- The name of the section that a setting is in. -/
def sectionName : ConfigField → String
  | .detection => "race_detection"
  | .capture => "capture"
  | .bufferSize => "capture"
  | .level => "logging"
  | .includeModules => "logging"

/-- The name of a setting in a section that is a table. -/
def name : ConfigField → String
  | .detection => "enabled"
  | .capture => "enabled"
  | .bufferSize => "buffer_size"
  | .level => "level"
  | .includeModules => "include_modules"

/-- The place of a setting in a section that is an array. -/
def place : ConfigField → Nat
  | .detection => 0
  | .capture => 0
  | .bufferSize => 1
  | .level => 0
  | .includeModules => 1

/-- The values that a setting may have. -/
def Admits : ConfigField → Value → Prop
  | .bufferSize, .integer number => 0 ≤ number
  | .level, .string _ => True
  | .detection, .boolean _ => True
  | .capture, .boolean _ => True
  | .includeModules, .boolean _ => True
  | _, _ => False

/-- The value of a setting in a configuration. -/
def of (config : DetectorConfig) : ConfigField → Value
  | .detection => .boolean config.raceDetection.enabled
  | .capture => .boolean config.capture.enabled
  | .bufferSize => .integer config.capture.bufferSize
  | .level => .string config.logging.level
  | .includeModules => .boolean config.logging.includeModules

/-- Whether a document gives a setting a value, by name or by place. -/
def Given (setting : ConfigField) (document : TomlDocument) (value : Value) : Prop :=
  (∃ entries, (setting.sectionName, .table entries) ∈ document ∧ (setting.name, value) ∈ entries) ∨
    ∃ items, (setting.sectionName, .array items) ∈ document ∧ items[setting.place]? = some value

end ConfigField

namespace TomlDocument

/-- Whether a section is a point in time. -/
def hasMoment (document : TomlDocument) : Bool :=
  document.any fun entry =>
    decide (entry.1 ∈ ConfigField.sectionNames) && match entry.2 with
      | .moment _ => true
      | _ => false

/-- Each section that is there is a table or an array. -/
def IsShaped (document : TomlDocument) : Prop :=
  ∀ name ∈ ConfigField.sectionNames, ∀ value, (name, value) ∈ document →
    (∃ entries, value = .table entries) ∨ ∃ items, value = .array items

/-- Each section that is there is a table whose known names, or an array whose leading items, have
the right types. -/
structure WellTyped (document : TomlDocument) : Prop where
  /-- Sections are tables and arrays. -/
  shaped : document.IsShaped
  /-- Settings have the right types. -/
  typed : ∀ (setting : ConfigField) value, setting.Given document value → setting.Admits value

end TomlDocument

namespace ConfigSection

variable {α : Type}

/-- What a section has for a setting. -/
def item? (form : ConfigSection) (place : Nat) (name : String) : Option Value :=
  match form with
  | .named entries => entries.lookup name
  | .placed items => items[place]?

/-- A setting is what the section has for it, or else what stands in for it. -/
theorem setting?_eq_some_iff {read : Value → Option α} {write : α → Value}
    (reads : ∀ value result, read value = some result ↔ write result = value)
    {form : ConfigSection} {place : Nat} {name : String} {standIn result : α} :
    form.setting? place name read standIn = some result ↔
      write result = (form.item? place name).getD (write standIn) := by
  have inverse : read (write standIn) = some standIn := (reads _ _).2 rfl
  have split : form.setting? place name read standIn =
      read ((form.item? place name).getD (write standIn)) := by
    cases form with
    | named entries =>
      simp only [setting?, item?]
      cases entries.lookup name with
      | none => exact inverse.symm
      | some value => rfl
    | placed items =>
      simp only [setting?, item?]
      cases items[place]? with
      | none => exact inverse.symm
      | some value => rfl
  rw [split, reads]

/-- A flag is read from the boolean that spells it. -/
theorem flag?_eq_some_iff (value : Value) (flag : Bool) :
    flag? value = some flag ↔ Value.boolean flag = value := by
  cases value <;> simp [flag?, eq_comm]

/-- A text is read from the string that spells it. -/
theorem text?_eq_some_iff (value : Value) (text : String) :
    text? value = some text ↔ Value.string text = value := by
  cases value <;> simp [text?, eq_comm]

/-- A size is read from the integer that spells it. -/
theorem size?_eq_some_iff (value : Value) (size : Nat) :
    size? value = some size ↔ Value.integer size = value := by
  cases value with
  | integer number =>
    cases number with
    | ofNat number =>
      have read : size? (.integer (.ofNat number)) = some number := rfl
      rw [read, Option.some.injEq, Value.integer.injEq]
      exact ⟨fun same => congrArg Int.ofNat same.symm, fun same => (Int.ofNat.inj same).symm⟩
    | negSucc number =>
      have refused : size? (.integer (.negSucc number)) = none := rfl
      rw [refused]
      simp
  | _ => simp [size?]

end ConfigSection

/-- A section about detection is read if what it has, or what stands in for it, is of the right
type. -/
theorem RaceDetectionConfig.ofSection?_eq_some_iff {form : ConfigSection}
    {detection : RaceDetectionConfig} :
    ofSection? form = some detection ↔
      Value.boolean detection.enabled =
        (form.item? 0 "enabled").getD (.boolean StandIn.switch) := by
  rw [← ConfigSection.setting?_eq_some_iff ConfigSection.flag?_eq_some_iff, ofSection?]
  obtain ⟨enabled⟩ := detection
  simp [Option.bind_eq_some_iff]

/-- A section about capture is read if what it has, or what stands in for it, is of the right
type. -/
theorem CaptureConfig.ofSection?_eq_some_iff {form : ConfigSection} {capture : CaptureConfig} :
    ofSection? form = some capture ↔
      Value.boolean capture.enabled =
          (form.item? 0 "enabled").getD (.boolean StandIn.switch) ∧
        Value.integer capture.bufferSize =
          (form.item? 1 "buffer_size").getD (.integer StandIn.bufferSize) := by
  rw [← ConfigSection.setting?_eq_some_iff ConfigSection.flag?_eq_some_iff,
    ← @ConfigSection.setting?_eq_some_iff _ _ (fun size => .integer (Nat.cast size))
      ConfigSection.size?_eq_some_iff, ofSection?]
  obtain ⟨enabled, bufferSize⟩ := capture
  simp [Option.bind_eq_some_iff]

/-- A section about logging is read if what it has, or what stands in for it, is of the right
type. -/
theorem LoggingConfig.ofSection?_eq_some_iff {form : ConfigSection} {logging : LoggingConfig} :
    ofSection? form = some logging ↔
      Value.string logging.level =
          (form.item? 0 "level").getD (.string StandIn.level) ∧
        Value.boolean logging.includeModules =
          (form.item? 1 "include_modules").getD (.boolean default) := by
  rw [← ConfigSection.setting?_eq_some_iff ConfigSection.flag?_eq_some_iff,
    ← ConfigSection.setting?_eq_some_iff ConfigSection.text?_eq_some_iff, ofSection?]
  obtain ⟨level, includeModules⟩ := logging
  simp [Option.bind_eq_some_iff]

namespace TomlDocument

variable {document : TomlDocument}

/-- What a section that is a table or an array has; without a section there is nothing in it. -/
def form? (document : TomlDocument) (name : String) : Option ConfigSection :=
  match document.lookup name with
  | none => some (.named [])
  | some value => ConfigSection.ofValue? value

/-- What a document has for a setting. -/
def found? (document : TomlDocument) (setting : ConfigField) : Option Value :=
  (document.form? setting.sectionName).bind fun form => form.item? setting.place setting.name

/-- A setting of a configuration is what the document has for it, or else the standard one. -/
def Settles (document : TomlDocument) (config : DetectorConfig) (setting : ConfigField) : Prop :=
  setting.of config = (document.found? setting).getD (setting.of .standard)

/-- A section that is missing is read like one in which nothing is set. -/
theorem section_eq {α : Type} (document : TomlDocument) (name : String)
    (read : ConfigSection → Option α) (standard : α) (blank : read (.named []) = some standard) :
    (match document.lookup name with
      | none => some standard
      | some value => (ConfigSection.ofValue? value).bind read) =
      (document.form? name).bind read := by
  unfold form?
  cases document.lookup name with
  | none => exact blank.symm
  | some value => rfl

/-- The settings of a section have stand-ins of their own, beside the standard section. Together
they make up the standard section. -/
theorem standard_of_standIns {form : ConfigSection} (empty : form = .named [] ∨ form = .placed []) :
    RaceDetectionConfig.ofSection? form = some .standard ∧
      CaptureConfig.ofSection? form = some .standard ∧
        LoggingConfig.ofSection? form = some .standard := by
  rcases empty with rfl | rfl
  · exact ⟨rfl, rfl, rfl⟩
  · exact ⟨rfl, rfl, rfl⟩

/-- The three sections are read one by one. -/
theorem ofToml?_eq (document : TomlDocument) :
    DetectorConfig.ofToml? document =
      ((document.form? "race_detection").bind RaceDetectionConfig.ofSection?).bind fun detection =>
        ((document.form? "capture").bind CaptureConfig.ofSection?).bind fun capture =>
          ((document.form? "logging").bind LoggingConfig.ofSection?).bind fun logging =>
            some ⟨detection, capture, logging⟩ := by
  obtain ⟨noDetection, noCapture, noLogging⟩ := standard_of_standIns (.inl rfl)
  have detection :=
    section_eq document "race_detection" RaceDetectionConfig.ofSection? .standard noDetection
  have capture := section_eq document "capture" CaptureConfig.ofSection? .standard noCapture
  have logging := section_eq document "logging" LoggingConfig.ofSection? .standard noLogging
  rw [← detection, ← capture, ← logging]
  rfl

variable {config : DetectorConfig}

/-- The section about detection is read if it has a form and settles its setting. -/
theorem detection_eq_some_iff :
    (document.form? "race_detection").bind RaceDetectionConfig.ofSection? =
        some config.raceDetection ↔
      (document.form? "race_detection").isSome ∧ document.Settles config .detection := by
  rw [Settles, found?, ConfigField.sectionName]
  cases document.form? "race_detection" with
  | none => simp
  | some form =>
    rw [Option.bind_some, RaceDetectionConfig.ofSection?_eq_some_iff]
    exact (and_iff_right rfl).symm

/-- The section about capture is read if it has a form and settles its settings. -/
theorem capture_eq_some_iff :
    (document.form? "capture").bind CaptureConfig.ofSection? = some config.capture ↔
      (document.form? "capture").isSome ∧ document.Settles config .capture ∧
        document.Settles config .bufferSize := by
  rw [Settles, Settles, found?, found?, ConfigField.sectionName, ConfigField.sectionName]
  cases document.form? "capture" with
  | none => simp
  | some form =>
    rw [Option.bind_some, CaptureConfig.ofSection?_eq_some_iff]
    exact (and_iff_right rfl).symm

/-- The section about logging is read if it has a form and settles its settings. -/
theorem logging_eq_some_iff :
    (document.form? "logging").bind LoggingConfig.ofSection? = some config.logging ↔
      (document.form? "logging").isSome ∧ document.Settles config .level ∧
        document.Settles config .includeModules := by
  rw [Settles, Settles, found?, found?, ConfigField.sectionName, ConfigField.sectionName]
  cases document.form? "logging" with
  | none => simp
  | some form =>
    rw [Option.bind_some, LoggingConfig.ofSection?_eq_some_iff]
    exact (and_iff_right rfl).symm

/-- A configuration is read exactly if each section can be read and each setting is settled. -/
theorem ofToml?_eq_some_iff :
    DetectorConfig.ofToml? document = some config ↔
      (∀ name ∈ ConfigField.sectionNames, (document.form? name).isSome) ∧
        ∀ setting, document.Settles config setting := by
  have sections : DetectorConfig.ofToml? document = some config ↔
      (document.form? "race_detection").bind RaceDetectionConfig.ofSection? =
          some config.raceDetection ∧
        (document.form? "capture").bind CaptureConfig.ofSection? = some config.capture ∧
          (document.form? "logging").bind LoggingConfig.ofSection? = some config.logging := by
    rw [ofToml?_eq]
    constructor
    · intro whole
      obtain ⟨detection, one, rest⟩ := Option.bind_eq_some_iff.1 whole
      obtain ⟨capture, two, rest⟩ := Option.bind_eq_some_iff.1 rest
      obtain ⟨logging, three, same⟩ := Option.bind_eq_some_iff.1 rest
      cases same
      exact ⟨one, two, three⟩
    · rintro ⟨one, two, three⟩
      rw [one, two, three]
      rfl
  rw [sections, detection_eq_some_iff, capture_eq_some_iff, logging_eq_some_iff]
  constructor
  · rintro ⟨⟨one, detection⟩, ⟨two, capture, bufferSize⟩, three, level, includeModules⟩
    constructor
    · simp [ConfigField.sectionNames, one, two, three]
    · intro setting
      cases setting with
      | detection => exact detection
      | capture => exact capture
      | bufferSize => exact bufferSize
      | level => exact level
      | includeModules => exact includeModules
  · rintro ⟨formed, settled⟩
    simp only [ConfigField.sectionNames, List.forall_mem_cons] at formed
    obtain ⟨one, two, three, -⟩ := formed
    exact ⟨⟨one, settled _⟩, ⟨two, settled _, settled _⟩, three, settled _, settled _⟩

/-- What a document has for a setting is what it gives. -/
theorem found?_eq_some_iff (unambiguous : (Value.table document).Unambiguous)
    (setting : ConfigField) (value : Value) :
    document.found? setting = some value ↔ setting.Given document value := by
  cases unambiguous with
  | table names each =>
    simp only [ConfigField.Given, ← Toml.lookup_eq_some_iff_mem names]
    unfold found? form?
    cases looked : document.lookup setting.sectionName with
    | none => simp [ConfigSection.item?]
    | some part =>
      cases part with
      | table entries =>
        cases each _ (Toml.mem_of_lookup looked) with
        | table names each =>
          have key : entries.lookup setting.name = some value ↔ (setting.name, value) ∈ entries :=
            Toml.lookup_eq_some_iff_mem names
          simp [ConfigSection.ofValue?, ConfigSection.item?, key]
      | array items => simp [ConfigSection.ofValue?, ConfigSection.item?]
      | moment literal => simp [ConfigSection.ofValue?, ConfigSection.item?]
      | _ => simp [ConfigSection.ofValue?]

/-- The sections can be read exactly if they are tables and arrays. -/
theorem isSome_form?_iff (unambiguous : (Value.table document).Unambiguous)
    (dated : document.hasMoment = false) :
    (∀ name ∈ ConfigField.sectionNames, (document.form? name).isSome) ↔ document.IsShaped := by
  refine forall₂_congr fun name listed => ?_
  have timeless : ∀ literal, document.lookup name ≠ some (.moment literal) := by
    intro literal looked
    rw [hasMoment, List.any_eq_false] at dated
    have here := dated _ (Toml.mem_of_lookup looked)
    simp [listed] at here
  cases unambiguous with
  | table names each =>
    simp only [← Toml.lookup_eq_some_iff_mem names]
    unfold form?
    cases looked : document.lookup name with
    | none => simp
    | some part =>
      cases part with
      | moment literal => exact absurd looked (timeless literal)
      | _ => simp [ConfigSection.ofValue?]

/-- Two documents give the same settings, and the sections of both are tables and arrays or those of
neither. They may differ in everything else, and in the order of their names. -/
structure Alike (document other : TomlDocument) : Prop where
  /-- Sections. -/
  shaped : other.IsShaped ↔ document.IsShaped
  /-- Settings. -/
  given : ∀ (setting : ConfigField) value, setting.Given other value ↔ setting.Given document value

/-- A section is missing or has nothing in it. -/
def IsBlank (document : TomlDocument) (name : String) : Prop :=
  ∀ value, (name, value) ∈ document → value = .table [] ∨ value = .array []

/-- What becomes of a document. -/
structure Completed (document : TomlDocument) (outcome : Except ConfigError DetectorConfig) :
    Prop where
  /-- It is a configuration exactly if it is well typed. -/
  accepted : (∃ config, outcome = .ok config) ↔ document.WellTyped
  /-- Otherwise it is malformed. -/
  refused : ¬ document.WellTyped → outcome = .error .malformed
  /-- A setting that it gives has the given value. -/
  given : ∀ config, outcome = .ok config → ∀ (setting : ConfigField) value,
    setting.Given document value → setting.of config = value
  /-- A setting that it does not give is standard. -/
  omitted : ∀ config, outcome = .ok config → ∀ setting : ConfigField,
    (∀ value, ¬ setting.Given document value) → setting.of config = setting.of .standard
  /-- A section with nothing in it is standard. -/
  blank : ∀ config, outcome = .ok config →
    (document.IsBlank "race_detection" → config.raceDetection = .standard) ∧
      (document.IsBlank "capture" → config.capture = .standard) ∧
        (document.IsBlank "logging" → config.logging = .standard)
  /-- So is all that comes of an empty document. -/
  empty : document = [] → outcome = .ok .standard

end TomlDocument

namespace ConfigField

/-- A configuration has settings of the right types. -/
theorem admits_of (setting : ConfigField) (config : DetectorConfig) :
    setting.Admits (setting.of config) := by
  cases setting with
  | bufferSize => exact Int.natCast_nonneg _
  | _ => trivial

/-- There is a configuration for any settings of the right types. -/
theorem exists_of {values : ConfigField → Value}
    (typed : ∀ setting : ConfigField, setting.Admits (values setting)) :
    ∃ config, ∀ setting : ConfigField, setting.of config = values setting := by
  have flag (setting : ConfigField) (onlyFlags : ∀ value, setting.Admits value →
      ∃ flag, value = .boolean flag) : ∃ flag, values setting = .boolean flag :=
    onlyFlags _ (typed setting)
  obtain ⟨detection, detection'⟩ := flag .detection fun
    | .boolean flag, _ => ⟨flag, rfl⟩
  obtain ⟨capture, capture'⟩ := flag .capture fun
    | .boolean flag, _ => ⟨flag, rfl⟩
  obtain ⟨modules, modules'⟩ := flag .includeModules fun
    | .boolean flag, _ => ⟨flag, rfl⟩
  obtain ⟨size, size'⟩ : ∃ size : Nat, values .bufferSize = .integer size := by
    have admits := typed .bufferSize
    match values .bufferSize, admits with
    | .integer number, natural => exact ⟨number.toNat, by rw [Int.toNat_of_nonneg natural]⟩
  obtain ⟨level, level'⟩ : ∃ level, values .level = .string level := by
    have admits := typed .level
    match values .level, admits with
    | .string text, _ => exact ⟨text, rfl⟩
  refine ⟨⟨⟨detection⟩, ⟨capture, size⟩, ⟨level, modules⟩⟩, fun setting => ?_⟩
  cases setting with
  | detection => exact detection'.symm
  | capture => exact capture'.symm
  | bufferSize => exact size'.symm
  | level => exact level'.symm
  | includeModules => exact modules'.symm

end ConfigField

namespace TomlDocument

variable {document other : TomlDocument}

section

variable {config : DetectorConfig} {setting : ConfigField}
  (unambiguous : (Value.table document).Unambiguous)

include unambiguous

/-- A setting that is given is settled so. -/
theorem Settles.eq_of_given (settled : document.Settles config setting) {value : Value}
    (given : setting.Given document value) : setting.of config = value := by
  rw [Settles, (found?_eq_some_iff unambiguous setting value).2 given] at settled
  exact settled

/-- A setting that is not given is standard. -/
theorem Settles.eq_standard (settled : document.Settles config setting)
    (absent : ∀ value, ¬ setting.Given document value) :
    setting.of config = setting.of .standard := by
  have none : document.found? setting = none := by
    rw [Option.eq_none_iff_forall_ne_some]
    intro value found
    exact absent value ((found?_eq_some_iff unambiguous setting value).1 found)
  rw [Settles, none] at settled
  exact settled

end

/-- Documents are read exactly if they are well typed. -/
theorem isOk_iff_wellTyped (unambiguous : (Value.table document).Unambiguous)
    (dated : document.hasMoment = false) :
    (∃ config, DetectorConfig.ofToml? document = some config) ↔ document.WellTyped := by
  simp only [ofToml?_eq_some_iff, isSome_form?_iff unambiguous dated, exists_and_left]
  constructor
  · rintro ⟨shaped, config, settled⟩
    refine ⟨shaped, fun setting value given => ?_⟩
    rw [← (settled setting).eq_of_given unambiguous given]
    exact setting.admits_of config
  · rintro ⟨shaped, typed⟩
    refine ⟨shaped, ConfigField.exists_of fun setting => ?_⟩
    cases found : document.found? setting with
    | none => exact setting.admits_of .standard
    | some value =>
      exact typed setting value ((found?_eq_some_iff unambiguous setting value).1 found)

/-- Documents that give the same settings are the same configuration. -/
theorem ofToml?_eq_of_alike (unambiguous : (Value.table document).Unambiguous)
    (dated : document.hasMoment = false) (unambiguous' : (Value.table other).Unambiguous)
    (dated' : other.hasMoment = false) (alike : document.Alike other) :
    DetectorConfig.ofToml? other = DetectorConfig.ofToml? document := by
  have found (setting : ConfigField) : other.found? setting = document.found? setting := by
    apply Option.ext
    intro value
    rw [found?_eq_some_iff unambiguous, found?_eq_some_iff unambiguous']
    exact alike.given setting value
  apply Option.ext
  intro config
  simp only [ofToml?_eq_some_iff, isSome_form?_iff unambiguous dated,
    isSome_form?_iff unambiguous' dated', Settles, found, alike.shaped]

/-- A section with nothing in it gives nothing. -/
theorem IsBlank.not_given {name : String} (blank : document.IsBlank name) {setting : ConfigField}
    (inside : setting.sectionName = name) (value : Value) : ¬ setting.Given document value := by
  rw [← inside] at blank
  rintro (⟨entries, listed, member⟩ | ⟨items, listed, placed⟩)
  · rcases blank _ listed with same | same
    · cases same
      cases member
    · cases same
  · rcases blank _ listed with same | same
    · cases same
    · cases same
      cases placed

/-- Sections with nothing in them are standard if the settings that are not given are. -/
theorem IsBlank.standard {config : DetectorConfig}
    (omitted : ∀ setting : ConfigField, (∀ value, ¬ setting.Given document value) →
      setting.of config = setting.of .standard) :
    (document.IsBlank "race_detection" → config.raceDetection = .standard) ∧
      (document.IsBlank "capture" → config.capture = .standard) ∧
        (document.IsBlank "logging" → config.logging = .standard) := by
  refine ⟨fun blank => ?_, fun blank => ?_, fun blank => ?_⟩
  · have enabled := omitted .detection (blank.not_given rfl)
    exact congrArg RaceDetectionConfig.mk (Value.boolean.inj enabled)
  · have enabled := omitted .capture (blank.not_given rfl)
    have bufferSize := omitted .bufferSize (blank.not_given rfl)
    change CaptureConfig.mk config.capture.enabled config.capture.bufferSize = _
    rw [Value.boolean.inj enabled, Int.ofNat.inj (Value.integer.inj bufferSize)]
    rfl
  · have level := omitted .level (blank.not_given rfl)
    have includeModules := omitted .includeModules (blank.not_given rfl)
    change LoggingConfig.mk config.logging.level config.logging.includeModules = _
    rw [Value.string.inj level, Value.boolean.inj includeModules]
    rfl

end TomlDocument

open TomlDocument

/-- Reading a text that is a document is reading the document. -/
theorem DetectorConfig.parse_eq {text : String} {document : TomlDocument}
    (parsed : Toml.parse? text = some document) :
    DetectorConfig.parse text =
      match DetectorConfig.ofToml? document with
      | some config => .ok config
      | none => .error .malformed := by
  cases found : ofToml? document with
  | none => simp only [parse, parsed, Option.bind_some, found]
  | some config => simp only [parse, parsed, Option.bind_some, found]

/-- A text is read as a configuration if its document is. -/
theorem DetectorConfig.parse_eq_ok_iff {text : String} {document : TomlDocument}
    (parsed : Toml.parse? text = some document) {config : DetectorConfig} :
    DetectorConfig.parse text = .ok config ↔ DetectorConfig.ofToml? document = some config := by
  rw [parse_eq parsed]
  cases DetectorConfig.ofToml? document with
  | none => simp
  | some found => simp

/-- A document in which no section is a point in time is a configuration exactly if its sections are
tables and arrays and the settings that it gives have the right types. Then each setting is as given
or else standard, and whatever else is in the document changes nothing, nor does the order of
names. -/
theorem completed_by_defaults {text : String} {document : TomlDocument}
    (parsed : Toml.parse? text = some document) (dated : document.hasMoment = false) :
    document.Completed (DetectorConfig.parse text) ∧
    ∀ {text' : String} {other : TomlDocument}, Toml.parse? text' = some other →
      other.hasMoment = false → document.Alike other →
        DetectorConfig.parse text' = DetectorConfig.parse text := by
  have unambiguous := Toml.unambiguous_of_parse? parsed
  have accepted : (∃ config, DetectorConfig.parse text = .ok config) ↔ document.WellTyped := by
    simp only [DetectorConfig.parse_eq_ok_iff parsed]
    exact isOk_iff_wellTyped unambiguous dated
  have settles {config : DetectorConfig} (read : DetectorConfig.parse text = .ok config)
      (setting : ConfigField) : document.Settles config setting :=
    (ofToml?_eq_some_iff.1 ((DetectorConfig.parse_eq_ok_iff parsed).1 read)).2 setting
  have omitted {config : DetectorConfig} (read : DetectorConfig.parse text = .ok config)
      (setting : ConfigField) (absent : ∀ value, ¬ setting.Given document value) :
      setting.of config = setting.of .standard :=
    (settles read setting).eq_standard unambiguous absent
  refine ⟨⟨accepted, ?_, ?_, ?_, ?_, ?_⟩, ?_⟩
  · intro wrong
    rw [← accepted] at wrong
    rw [DetectorConfig.parse_eq parsed] at wrong ⊢
    cases read : DetectorConfig.ofToml? document with
    | none => rfl
    | some config => exact absurd ⟨config, by rw [read]⟩ wrong
  · exact fun config read setting value given =>
      (settles read setting).eq_of_given unambiguous given
  · exact fun config read => omitted read
  · exact fun config read => IsBlank.standard (omitted read)
  · rintro rfl
    rw [DetectorConfig.parse_eq parsed]
    rfl
  · intro text' other parsed' dated' alike
    have unambiguous' := Toml.unambiguous_of_parse? parsed'
    rw [DetectorConfig.parse_eq parsed, DetectorConfig.parse_eq parsed',
      ofToml?_eq_of_alike unambiguous dated unambiguous' dated' alike]

/-- A document with an array for one section, a table for another, and much that is unknown. -/
def partialText : String :=
  "since = 1979-05-27\ncapture = [false]\n\n[logging]\nfile = \x7bsizes = [1, 2.5]\x7d\n" ++
  "include_modules = true\n\n[[extra.deep]]\nlevel = 7\n"

/-- Two settings are given and three are standard. -/
theorem partialText_completed :
    ∃ document : TomlDocument, Toml.parse? partialText = some document ∧
      document.Completed (DetectorConfig.parse partialText) ∧
        DetectorConfig.parse partialText = .ok ⟨⟨true⟩, ⟨false, 10000⟩, ⟨"info", true⟩⟩ := by
  have timeless : (Toml.parse? partialText).map hasMoment = some false := by decide +kernel
  have read : (Toml.parse? partialText).bind DetectorConfig.ofToml? =
      some ⟨⟨true⟩, ⟨false, 10000⟩, ⟨"info", true⟩⟩ := by decide +kernel
  obtain ⟨document, parsed, dated⟩ := Option.map_eq_some_iff.1 timeless
  refine ⟨document, parsed, (completed_by_defaults parsed dated).1, ?_⟩
  rw [DetectorConfig.parse, read]

end RaceSentry
