import Mathlib.Data.List.Nodup
import RaceSentry.Export
import RaceSentry.Proofs.Stamps
import RaceSentry.Proofs.Tokens

/-!
# Exported records read back

What is exported is read back as what it was. A writer and a reader agree on a value if what is
written is read as JSON the way it was written, and then as the value. They agree on a record when
they agree on each of its fields, whichever of them are missing.
Main statement: `exported_records_return`.
-/

namespace RaceSentry

/-- A writer and a reader agree on a value. -/
structure AgreeOn {α : Type} (toJson : α → Json) (ofJson? : Json → Option α) (value : α) :
    Prop where
  /-- The text of what is written is read as that. -/
  plain : (toJson value).Plain
  /-- What is written is the value. -/
  read : ofJson? (toJson value) = some value

/-- The text that a value is written as is read as a value equal to it, and that is written as the
same text again. -/
def Returns {α : Type} (toJson : α → Json) (ofJson? : Json → Option α) (value : α) : Prop :=
  ∃ back, (Json.parse? (toJson value).render).bind ofJson? = some back ∧ back = value ∧
    (toJson back).render = (toJson value).render

/-- A value returns if its writer and its reader agree on it. -/
theorem AgreeOn.returns {α : Type} {toJson : α → Json} {ofJson? : Json → Option α} {value : α}
    (agree : AgreeOn toJson ofJson? value) : Returns toJson ofJson? value :=
  ⟨value, by rw [Json.parse?_render agree.plain, Option.bind_some, agree.read], rfl, rfl⟩

/-- Texts are read as they were written. -/
theorem agreeOn_text (value : String) : AgreeOn Json.text Json.asText? value :=
  ⟨Json.plain_text value, rfl⟩

/-- Truth values are read as they were written. -/
theorem agreeOn_bool (value : Bool) : AgreeOn Json.bool Json.asBool? value :=
  ⟨Json.plain_bool value, rfl⟩

/-- Counters are written and read in full, up to the largest that a word holds. -/
theorem agreeOn_counter {value : Nat} (fits : value < 0x10000000000000000) :
    AgreeOn Json.nat Json.counter? value :=
  ⟨Json.plain_nat fits, if_pos fits⟩

namespace Json.RecordForm

/-- The names of fields that all have one are found. -/
theorem mapM_named (fields : List (String × Json)) :
    (fields.map fun field => (some field.1, field.2)).mapM
      (fun field : Spelling × Json => field.1.map fun name => (name, field.2)) = some fields := by
  induction fields with
  | nil => rfl
  | cons field rest ih =>
    rw [List.map_cons, List.mapM_cons, ih]
    rfl

/-- A record whose fields have different names is taken apart into them. -/
theorem ofJson?_record {names : List String} (distinct : names.Nodup)
    {fields : List (String × Json)} (named : fields.map Prod.fst = names) :
    ofJson? names (.record fields) = some (.named fields) := by
  have once : ∀ name, (fields.filter fun field => field.1 == name).length ≤ 1 := by
    intro name
    rw [← List.countP_eq_length_filter]
    have most := List.nodup_iff_count_le_one.1 distinct name
    rwa [← named, List.count, List.countP_map] at most
  rw [record, ofJson?, mapM_named, Option.bind_eq_bind, Option.bind_some, if_pos]
  simp only [List.all_eq_true, decide_eq_true_eq]
  exact fun name _ => once name

variable {α β : Type} {toJson : α → Json} {read : Json → Option α}
  {fields : List (String × Json)} {name : String}

/-- Reading a record begins with its fields. -/
theorem bind_ofJson?_record {names : List String} (distinct : names.Nodup)
    (named : fields.map Prod.fst = names) {next : RecordForm → Option β} :
    (ofJson? names (.record fields) >>= next) = next (.named fields) := by
  rw [ofJson?_record distinct named, Option.bind_eq_bind, Option.bind_some]

/-- Reading goes on with the value of a field that must be there. -/
theorem bind_required?_named {value : α} (place : Nat) (agree : AgreeOn toJson read value)
    {next : α → Option β} (there : fields.lookup name = some (toJson value)) :
    ((named fields).required? place name read >>= next) = next value := by
  simp only [required?, field?, there, agree.read, Option.bind_eq_bind, Option.bind_some]

/-- Reading goes on with the value of a field that has a stand-in. -/
theorem bind_defaulted?_named {value : α} (place : Nat) (agree : AgreeOn toJson read value)
    {standIn : α} {next : α → Option β} (there : fields.lookup name = some (toJson value)) :
    ((named fields).defaulted? place name read standIn >>= next) = next value := by
  simp only [defaulted?, field?, there, agree.read, Option.bind_eq_bind, Option.bind_some]

/-- Reading goes on with the value of a field that may be `null`, if `null` is none of its
values. -/
theorem bind_optional?_named {value : Option α} (place : Nat) (noNull : read .null = none)
    (agree : ∀ inner ∈ value, AgreeOn toJson read inner) {next : Option α → Option β}
    (there : fields.lookup name = some (.option toJson value)) :
    ((named fields).optional? place name read >>= next) = next value := by
  simp only [optional?, field?, there, Option.bind_eq_bind]
  cases value with
  | none => rfl
  | some inner =>
    have back := (agree inner rfl).read
    rw [option]
    split
    · rename_i null
      rw [null, noNull] at back
      cases back
    · rw [back, Option.map_some, Option.bind_some]

end Json.RecordForm

/-- Kinds of accesses are read as they were written. -/
theorem AccessKind.agreeOn (kind : AccessKind) : AgreeOn toJson ofJson? kind :=
  ⟨Json.plain_text kind.tag, ofTag?_tag kind⟩

/-- Identifiers of values are read as they were written. -/
theorem Uuid.agreeOn (id : Uuid) : AgreeOn toJson ofJson? id :=
  ⟨Json.plain_text id.text, parse?_text id⟩

/-- Times are read as they were written. -/
theorem Timestamp.agreeOn (time : Timestamp) : AgreeOn toJson ofJson? time where
  plain := Json.plain_text time.text
  read := by
    simp only [toJson, ofJson?, Json.text, Json.asText?, Option.bind_some, parse?_text]

namespace ConflictingAccess

/-- Its counters fit a word. -/
def Fits (conflicting : ConflictingAccess) : Prop :=
  conflicting.authoritative < 0x10000000000000000 ∧
    ∀ counter ∈ conflicting.observed, counter < 0x10000000000000000

/-- A conflicting access is read as it was written, if its counters fit a word. -/
theorem agreeOn {conflicting : ConflictingAccess} (fits : conflicting.Fits) :
    AgreeOn toJson ofJson? conflicting := by
  have distinct : fieldNames.Nodup := by decide
  have thread := agreeOn_text conflicting.thread
  have access := conflicting.access.agreeOn
  have authoritative := agreeOn_counter fits.1
  have observed := fun counter told => agreeOn_counter (fits.2 counter told)
  constructor
  · apply Json.plain_record
    simp only [List.forall_mem_cons]
    exact ⟨thread.plain, access.plain, authoritative.plain,
      Json.plain_option fun counter told => (observed counter told).plain, nofun⟩
  · rw [toJson, ofJson?, Json.RecordForm.bind_ofJson?_record distinct rfl,
      Json.RecordForm.bind_required?_named 0 thread,
      Json.RecordForm.bind_required?_named 1 access,
      Json.RecordForm.bind_required?_named 2 authoritative,
      Json.RecordForm.bind_optional?_named 3 rfl observed]
    all_goals rfl

end ConflictingAccess

/-- A report is read as it was written, if the counters of its conflicting access fit a word. -/
theorem RaceReport.agreeOn {report : RaceReport} (fits : report.conflicting.Fits) :
    AgreeOn toJson ofJson? report := by
  have distinct : fieldNames.Nodup := by decide
  have id := report.id.agreeOn
  have valueId := report.valueId.agreeOn
  have label := fun label (_ : label ∈ report.label) => agreeOn_text label
  have thread := agreeOn_text report.thread
  have threadName := fun name (_ : name ∈ report.threadName) => agreeOn_text name
  have access := report.access.agreeOn
  have conflicting := ConflictingAccess.agreeOn fits
  have timestamp := report.timestamp.agreeOn
  constructor
  · apply Json.plain_record
    simp only [List.forall_mem_cons]
    exact ⟨id.plain, valueId.plain, Json.plain_option fun inner told => (label inner told).plain,
      thread.plain, Json.plain_option fun inner told => (threadName inner told).plain,
      access.plain, conflicting.plain, timestamp.plain, nofun⟩
  · rw [toJson, ofJson?, Json.RecordForm.bind_ofJson?_record distinct rfl,
      Json.RecordForm.bind_required?_named 0 id,
      Json.RecordForm.bind_required?_named 1 valueId,
      Json.RecordForm.bind_optional?_named 2 rfl label,
      Json.RecordForm.bind_required?_named 3 thread,
      Json.RecordForm.bind_optional?_named 4 rfl threadName,
      Json.RecordForm.bind_required?_named 5 access,
      Json.RecordForm.bind_required?_named 6 conflicting,
      Json.RecordForm.bind_required?_named 7 timestamp]
    all_goals rfl

/-- An account of a value is read as it was written, if its number of races fits a word. -/
theorem ValueRaceStats.agreeOn {stats : ValueRaceStats}
    (fits : stats.races < 0x10000000000000000) : AgreeOn toJson ofJson? stats := by
  have distinct : fieldNames.Nodup := by decide
  have valueId := stats.valueId.agreeOn
  have label := fun label (_ : label ∈ stats.label) => agreeOn_text label
  have races := agreeOn_counter fits
  constructor
  · apply Json.plain_record
    simp only [List.forall_mem_cons]
    exact ⟨valueId.plain, Json.plain_option fun inner told => (label inner told).plain,
      races.plain, nofun⟩
  · rw [toJson, ofJson?, Json.RecordForm.bind_ofJson?_record distinct rfl,
      Json.RecordForm.bind_required?_named 0 valueId,
      Json.RecordForm.bind_optional?_named 1 rfl label,
      Json.RecordForm.bind_required?_named 2 races]
    all_goals rfl

/-- The section of a configuration about detection is read as it was written. -/
theorem RaceDetectionConfig.agreeOn (config : RaceDetectionConfig) :
    AgreeOn toJson ofJson? config := by
  have distinct : ["enabled"].Nodup := by decide
  have enabled := agreeOn_bool config.enabled
  constructor
  · apply Json.plain_record
    simp only [List.forall_mem_cons]
    exact ⟨enabled.plain, nofun⟩
  · rw [toJson, ofJson?, Json.RecordForm.bind_ofJson?_record distinct rfl,
      Json.RecordForm.bind_defaulted?_named 0 enabled]
    rfl

/-- The section about capture is read as it was written, if its buffer size fits a word. -/
theorem CaptureConfig.agreeOn {config : CaptureConfig}
    (fits : config.bufferSize < 0x10000000000000000) : AgreeOn toJson ofJson? config := by
  have distinct : ["enabled", "buffer_size"].Nodup := by decide
  have enabled := agreeOn_bool config.enabled
  have bufferSize := agreeOn_counter fits
  constructor
  · apply Json.plain_record
    simp only [List.forall_mem_cons]
    exact ⟨enabled.plain, bufferSize.plain, nofun⟩
  · rw [toJson, ofJson?, Json.RecordForm.bind_ofJson?_record distinct rfl,
      Json.RecordForm.bind_defaulted?_named 0 enabled,
      Json.RecordForm.bind_defaulted?_named 1 bufferSize]
    all_goals rfl

/-- The section about logging is read as it was written. -/
theorem LoggingConfig.agreeOn (config : LoggingConfig) : AgreeOn toJson ofJson? config := by
  have distinct : ["level", "include_modules"].Nodup := by decide
  have level := agreeOn_text config.level
  have includeModules := agreeOn_bool config.includeModules
  constructor
  · apply Json.plain_record
    simp only [List.forall_mem_cons]
    exact ⟨level.plain, includeModules.plain, nofun⟩
  · rw [toJson, ofJson?, Json.RecordForm.bind_ofJson?_record distinct rfl,
      Json.RecordForm.bind_defaulted?_named 0 level,
      Json.RecordForm.bind_defaulted?_named 1 includeModules]
    all_goals rfl

/-- An object or an array without fields is read as what is standard: what stands in for settings
one by one makes up the standard sections, as in a document. -/
theorem standard_of_empty_json {json : Json} (empty : json = .object [] ∨ json = .array []) :
    RaceDetectionConfig.ofJson? json = some .standard ∧
      CaptureConfig.ofJson? json = some .standard ∧
        LoggingConfig.ofJson? json = some .standard ∧
          DetectorConfig.ofJson? json = some .standard := by
  rcases empty with rfl | rfl
  · exact ⟨rfl, rfl, rfl, rfl⟩
  · exact ⟨rfl, rfl, rfl, rfl⟩

/-- A configuration is read as it was written, if its buffer size fits a word. -/
theorem DetectorConfig.agreeOn {config : DetectorConfig}
    (fits : config.capture.bufferSize < 0x10000000000000000) :
    AgreeOn toJson ofJson? config := by
  have distinct : fieldNames.Nodup := by decide
  have raceDetection := config.raceDetection.agreeOn
  have capture := CaptureConfig.agreeOn fits
  have logging := config.logging.agreeOn
  constructor
  · apply Json.plain_record
    simp only [List.forall_mem_cons]
    exact ⟨raceDetection.plain, capture.plain, logging.plain, nofun⟩
  · rw [toJson, ofJson?, Json.RecordForm.bind_ofJson?_record distinct rfl,
      Json.RecordForm.bind_defaulted?_named 0 raceDetection,
      Json.RecordForm.bind_defaulted?_named 1 capture,
      Json.RecordForm.bind_defaulted?_named 2 logging]
    all_goals rfl

/-- Every exported record, identity and configuration is read from its text as a value equal to it,
which is written as the same text. Counters may be as large as a word holds; texts, identities and
moments are any. -/
theorem exported_records_return :
    (∀ report : RaceReport, report.conflicting.Fits →
      Returns RaceReport.toJson RaceReport.ofJson? report) ∧
    (∀ conflicting : ConflictingAccess, conflicting.Fits →
      Returns ConflictingAccess.toJson ConflictingAccess.ofJson? conflicting) ∧
    (∀ stats : ValueRaceStats, stats.races < 0x10000000000000000 →
      Returns ValueRaceStats.toJson ValueRaceStats.ofJson? stats) ∧
    (∀ id : Uuid, Returns Uuid.toJson Uuid.ofJson? id) ∧
    (∀ kind : AccessKind, Returns AccessKind.toJson AccessKind.ofJson? kind) ∧
    (∀ config : DetectorConfig, config.capture.bufferSize < 0x10000000000000000 →
      Returns DetectorConfig.toJson DetectorConfig.ofJson? config) := by
  refine ⟨?_, ?_, ?_, ?_, ?_, ?_⟩
  · intro report fits
    exact (RaceReport.agreeOn fits).returns
  · intro conflicting fits
    exact (ConflictingAccess.agreeOn fits).returns
  · intro stats fits
    exact (ValueRaceStats.agreeOn fits).returns
  · intro id
    exact id.agreeOn.returns
  · intro kind
    exact kind.agreeOn.returns
  · intro config fits
    exact (DetectorConfig.agreeOn fits).returns

/-- A report of the largest counters, of texts with quotes, controls and characters beyond the
basic plane, and of a moment in the year zero. -/
def farReport : RaceReport where
  id := .nil
  valueId := ⟨List.replicate 32 15, rfl⟩
  label := some "a \"quoted\" \\ line\n\u0001"
  thread := "t0"
  threadName := none
  access := .write
  conflicting := ⟨"😀", .read, 0xffffffffffffffff, some 0xfffffffffffffffe⟩
  timestamp := ⟨⟨0, 2, 29, by decide, by decide, by decide⟩, 86399, 120000, by decide, by decide,
    by decide⟩

/-- Values at the far ends of what fits return. -/
theorem exported_extremes_return :
    farReport.conflicting.Fits ∧ farReport.timestamp.text = "0000-02-29T23:59:59.000120Z" ∧
      Returns RaceReport.toJson RaceReport.ofJson? farReport ∧
      Returns ConflictingAccess.toJson ConflictingAccess.ofJson? farReport.conflicting ∧
      Returns ValueRaceStats.toJson ValueRaceStats.ofJson? ⟨.nil, none, 0xffffffffffffffff⟩ ∧
      Returns DetectorConfig.toJson DetectorConfig.ofJson?
        (.tinyBuffer 0xffffffffffffffff) := by
  have fits : farReport.conflicting.Fits := by
    constructor
    · decide
    · rintro counter ⟨⟩
      decide
  obtain ⟨report, conflicting, stats, -, -, config⟩ := exported_records_return
  exact ⟨fits, by decide, report farReport fits, conflicting farReport.conflicting fits,
    stats ⟨.nil, none, 0xffffffffffffffff⟩ (by decide),
    config (.tinyBuffer 0xffffffffffffffff) (by decide)⟩

end RaceSentry
