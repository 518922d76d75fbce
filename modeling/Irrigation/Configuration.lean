import Irrigation.Text
import Mathlib.Data.List.Nodup
import Mathlib.Data.Vector.Basic

/-! The persisted configuration and its validator. The fixed arrays keep their
source capacities and may hold anything beyond the counts; `live` is the part the
counts make visible, and validity is a property of that part alone. -/
namespace Irrigation

def irrigationLocalOutputCount : Nat := 8
abbrev irrigationMaxZones : Nat := 8
abbrev irrigationMaxPrograms : Nat := 4
abbrev irrigationMaxProgramSteps : Nat := 8
abbrev irrigationMaxSchedules : Nat := 16
def irrigationConfigurationSchemaVersion : UInt16 := 1
def irrigationConfigurationMaxStepDurationMs : UInt32 := 3600000

inductive IrrigationResult where
  | ok | rejected | invalidState | notFound | timeout | internalError | notSupported | referenced
  deriving DecidableEq, Repr

/-- A logical output; the index is the driver's, not a GPIO. -/
structure Output where
  id : CString
  driverOutputIndex : Nat
  deriving DecidableEq, Repr

/-- A board zone. Board tables are compile-time constants without NULL pointers. -/
structure Zone where
  id : CString
  output : Output
  enabled : Bool
  defaultDurationMs : UInt32
  deriving DecidableEq, Repr

structure IrrigationZoneConfiguration where
  zoneId : IdText
  displayName : NameText
  deriving DecidableEq, Repr

structure IrrigationProgramStepConfiguration where
  zoneId : IdText
  durationMs : UInt32
  deriving DecidableEq, Repr

structure IrrigationProgramConfiguration where
  programId : IdText
  displayName : NameText
  steps : Vector IrrigationProgramStepConfiguration irrigationMaxProgramSteps
  stepCount : UInt8
  deriving DecidableEq, Repr

structure IrrigationScheduleConfiguration where
  scheduleId : IdText
  enabled : Bool
  weekdayMask : UInt8
  hour : UInt8
  minute : UInt8
  programId : IdText
  deriving DecidableEq, Repr

structure IrrigationConfiguration where
  schemaVersion : UInt16
  zones : Vector IrrigationZoneConfiguration irrigationMaxZones
  programs : Vector IrrigationProgramConfiguration irrigationMaxPrograms
  schedules : Vector IrrigationScheduleConfiguration irrigationMaxSchedules
  zoneCount : UInt8
  programCount : UInt8
  scheduleCount : UInt8
  nextProgramId : UInt32
  nextScheduleId : UInt32
  deriving DecidableEq, Repr

/-! ### Zeroed arrays -/

/-- The zeroed array with the given entries stored from its start. -/
def fill {α : Type} {n : Nat} (zero : α) (entries : List α) : Vector α n :=
  Vector.ofFn fun index => entries.getD index zero

theorem fill_toList {α : Type} {n : Nat} (zero : α) (entries : List α) (room : entries.length ≤ n) :
    (fill zero entries : Vector α n).toList = entries ++ .replicate (n - entries.length) zero := by
  apply List.ext_getElem
  · simp [room]
  · intro i inside bound
    by_cases front : i < entries.length
    · simp [fill,front]
    · simp [fill,front,List.getElem_append_right (Nat.not_lt.mp front)]

theorem fill_toList_take {α : Type} (n : Nat) (zero : α) (entries : List α) (room : entries.length ≤ n) :
    (fill zero entries : Vector α n).toList.take entries.length = entries := by
  apply List.ext_getElem
  · simp [room]
  · intro i inside bound
    simp [fill,List.getElem?_eq_getElem bound]

def zeroStep : IrrigationProgramStepConfiguration := ⟨.empty,0⟩
def zeroZone : IrrigationZoneConfiguration := ⟨.empty,.empty⟩
def zeroProgram : IrrigationProgramConfiguration := ⟨.empty,.empty,.replicate _ zeroStep,0⟩
def zeroSchedule : IrrigationScheduleConfiguration := ⟨.empty,false,0,0,0,.empty⟩

/-! ### The live part -/

structure LiveProgram where
  programId : IdText
  displayName : NameText
  steps : List IrrigationProgramStepConfiguration
  deriving DecidableEq, Repr

/-- What the counts make visible of a configuration. -/
structure LiveConfiguration where
  schemaVersion : UInt16
  zones : List IrrigationZoneConfiguration
  programs : List LiveProgram
  schedules : List IrrigationScheduleConfiguration
  nextProgramId : UInt32
  nextScheduleId : UInt32
  deriving DecidableEq, Repr

namespace IrrigationProgramConfiguration

def liveSteps (program : IrrigationProgramConfiguration) : List IrrigationProgramStepConfiguration :=
  program.steps.toList.take program.stepCount.toNat

def live (program : IrrigationProgramConfiguration) : LiveProgram :=
  ⟨program.programId,program.displayName,program.liveSteps⟩

@[simp] theorem live_programId (program : IrrigationProgramConfiguration) :
    program.live.programId = program.programId := rfl

@[simp] theorem live_steps (program : IrrigationProgramConfiguration) :
    program.live.steps = program.liveSteps := rfl

end IrrigationProgramConfiguration

namespace IrrigationConfiguration

variable (configuration : IrrigationConfiguration)

def liveZones : List IrrigationZoneConfiguration :=
  configuration.zones.toList.take configuration.zoneCount.toNat

def livePrograms : List IrrigationProgramConfiguration :=
  configuration.programs.toList.take configuration.programCount.toNat

def liveSchedules : List IrrigationScheduleConfiguration :=
  configuration.schedules.toList.take configuration.scheduleCount.toNat

def live : LiveConfiguration where
  schemaVersion := configuration.schemaVersion
  zones := configuration.liveZones
  programs := configuration.livePrograms.map (·.live)
  schedules := configuration.liveSchedules
  nextProgramId := configuration.nextProgramId
  nextScheduleId := configuration.nextScheduleId

/-- No count exceeds the array it counts. -/
structure WithinCapacity : Prop where
  zones : configuration.zoneCount.toNat ≤ irrigationMaxZones
  programs : configuration.programCount.toNat ≤ irrigationMaxPrograms
  schedules : configuration.scheduleCount.toNat ≤ irrigationMaxSchedules
  steps : ∀ program ∈ configuration.livePrograms, program.stepCount.toNat ≤ irrigationMaxProgramSteps

namespace WithinCapacity

variable {configuration : IrrigationConfiguration}

theorem livePrograms_length (capacity : configuration.WithinCapacity) :
    configuration.livePrograms.length = configuration.programCount.toNat := by
  have room : configuration.programCount.toNat ≤ 4 := capacity.programs
  simp [livePrograms,room]

theorem liveSchedules_length (capacity : configuration.WithinCapacity) :
    configuration.liveSchedules.length = configuration.scheduleCount.toNat := by
  have room : configuration.scheduleCount.toNat ≤ 16 := capacity.schedules
  simp [liveSchedules,room]

theorem liveSteps_length (capacity : configuration.WithinCapacity) {program : IrrigationProgramConfiguration}
    (member : program ∈ configuration.livePrograms) : program.liveSteps.length = program.stepCount.toNat := by
  simpa [IrrigationProgramConfiguration.liveSteps] using capacity.steps program member

end WithinCapacity

end IrrigationConfiguration

/-! ### Validation, as the source computes it -/

/-- `isalnum` of the C locale, blank, hyphen and underscore. -/
def textCharacterIsValid (character : UInt8) : Bool :=
  (48 ≤ character && character ≤ 57) || (65 ≤ character && character ≤ 90) ||
    (97 ≤ character && character ≤ 122) || character == 32 || character == 45 || character == 95

def textIsValid {n : Nat} (text : CharArray n) (maximumLength : Nat) : Bool :=
  if text.bytes = [] ∨ text.strnlen maximumLength ≥ maximumLength then false
  else text.bytes.all textCharacterIsValid

def boardZoneExists (boardZones : List Zone) (zoneId : IdText) : Bool :=
  boardZones.any fun zone => zone.id == zoneId.toCString

def programExists (configuration : IrrigationConfiguration) (programId : IdText) : Bool :=
  configuration.livePrograms.any fun program => program.programId == programId

/-- The validator's loops test every entry against the ones before it. -/
def checkEach {α : Type} (check : List α → α → Bool) : List α → List α → Bool
  | _, [] => true
  | previous, entry :: rest => check previous entry && checkEach check (previous ++ [entry]) rest

def zoneIsValid (boardZones : List Zone) (previous : List IrrigationZoneConfiguration)
    (zone : IrrigationZoneConfiguration) : Bool :=
  textIsValid zone.zoneId irrigationConfigurationIdSize &&
  textIsValid zone.displayName irrigationConfigurationNameSize &&
  boardZoneExists boardZones zone.zoneId &&
  previous.all fun earlier => earlier.zoneId != zone.zoneId

def stepIsValid (boardZones : List Zone) (step : IrrigationProgramStepConfiguration) : Bool :=
  textIsValid step.zoneId irrigationConfigurationIdSize &&
  boardZoneExists boardZones step.zoneId &&
  step.durationMs != 0 && step.durationMs ≤ irrigationConfigurationMaxStepDurationMs

def configuredProgramIsValid (boardZones : List Zone) (previous : List IrrigationProgramConfiguration)
    (program : IrrigationProgramConfiguration) : Bool :=
  textIsValid program.programId irrigationConfigurationIdSize &&
  textIsValid program.displayName irrigationConfigurationNameSize &&
  program.stepCount.toNat ≤ irrigationMaxProgramSteps &&
  (previous.all fun earlier => earlier.programId != program.programId) &&
  program.liveSteps.all (stepIsValid boardZones)

def scheduleIsValid (configuration : IrrigationConfiguration)
    (previous : List IrrigationScheduleConfiguration) (schedule : IrrigationScheduleConfiguration) : Bool :=
  textIsValid schedule.scheduleId irrigationConfigurationIdSize &&
  textIsValid schedule.programId irrigationConfigurationIdSize &&
  programExists configuration schedule.programId &&
  schedule.weekdayMask != 0 && (schedule.weekdayMask &&& ~~~(127 : UInt8)) == 0 &&
  schedule.hour < 24 && schedule.minute < 60 &&
  previous.all fun earlier => earlier.scheduleId != schedule.scheduleId

def irrigationConfigurationValidate (configuration : IrrigationConfiguration)
    (boardZones : List Zone) : IrrigationResult :=
  if configuration.schemaVersion ≠ irrigationConfigurationSchemaVersion ∨
      boardZones.length > irrigationMaxZones ∨
      configuration.zoneCount.toNat ≠ boardZones.length ∨
      configuration.programCount.toNat > irrigationMaxPrograms ∨
      configuration.scheduleCount.toNat > irrigationMaxSchedules then .rejected
  else if !checkEach (zoneIsValid boardZones) [] configuration.liveZones then .rejected
  else if !checkEach (configuredProgramIsValid boardZones) [] configuration.livePrograms then .rejected
  else if !checkEach (scheduleIsValid configuration) [] configuration.liveSchedules then .rejected
  else .ok

/-! ### What the validator accepts -/

/-- A nonempty, terminated text over the accepted characters. -/
structure ValidText {n : Nat} (text : CharArray n) : Prop where
  nonempty : text.bytes ≠ []
  terminated : text.bytes.length < n
  characters : ∀ character ∈ text.bytes, textCharacterIsValid character = true

theorem textIsValid_iff {n : Nat} (text : CharArray n) : textIsValid text n = true ↔ ValidText text := by
  have fits := text.fits
  unfold textIsValid
  constructor
  · intro accepted
    split at accepted
    · contradiction
    · next kept =>
      simp only [not_or,CharArray.strnlen] at kept
      exact ⟨kept.1,by omega,by simpa using accepted⟩
  · rintro ⟨nonempty,terminated,characters⟩
    rw [if_neg (by simp only [not_or,CharArray.strnlen]; exact ⟨nonempty,by omega⟩)]
    simpa using characters

/-- When each test is an own condition and freshness of a key, the loop accepts
exactly the lists whose entries meet the condition and have distinct keys. -/
theorem checkEach_iff {α κ : Type} {check : List α → α → Bool} {own : α → Prop} {key : α → κ}
    (tests : ∀ previous entry, check previous entry = true ↔
      own entry ∧ ∀ earlier ∈ previous, key earlier ≠ key entry) (entries : List α) :
    checkEach check [] entries = true ↔ (∀ entry ∈ entries, own entry) ∧ (entries.map key).Nodup := by
  suffices general : ∀ previous : List α, (previous.map key).Nodup →
      (checkEach check previous entries = true ↔
        (∀ entry ∈ entries, own entry) ∧ ((previous ++ entries).map key).Nodup) by
    simpa using general [] (by simp)
  induction entries with
  | nil => intro previous distinct; simpa [checkEach] using distinct
  | cons entry rest ih =>
    intro previous distinct
    have split : ((previous ++ [entry]).map key).Nodup ↔ ∀ earlier ∈ previous, key earlier ≠ key entry := by
      rw [List.map_append,List.nodup_append]
      simp [distinct]
    have front : ((previous ++ entry :: rest).map key).Nodup → ((previous ++ [entry]).map key).Nodup := by
      intro nodup
      refine nodup.sublist (List.Sublist.map key ?_)
      exact (List.Sublist.refl previous).append (List.singleton_sublist.mpr (by simp))
    rw [checkEach,Bool.and_eq_true,tests,List.forall_mem_cons]
    constructor
    · rintro ⟨⟨holds,fresh⟩,accepted⟩
      have tail := (ih _ (split.mpr fresh)).mp accepted
      exact ⟨⟨holds,tail.1⟩,by simpa using tail.2⟩
    · rintro ⟨⟨holds,others⟩,nodup⟩
      have fresh := front nodup
      exact ⟨⟨holds,split.mp fresh⟩,(ih _ fresh).mpr ⟨others,by simpa using nodup⟩⟩

/-- A board zone carries this id. -/
def OnBoard (boardZones : List Zone) (zoneId : IdText) : Prop :=
  ∃ zone ∈ boardZones, zone.id = zoneId.toCString

structure ValidZone (boardZones : List Zone) (zone : IrrigationZoneConfiguration) : Prop where
  zoneId : ValidText zone.zoneId
  displayName : ValidText zone.displayName
  onBoard : OnBoard boardZones zone.zoneId

structure ValidStep (boardZones : List Zone) (step : IrrigationProgramStepConfiguration) : Prop where
  zoneId : ValidText step.zoneId
  onBoard : OnBoard boardZones step.zoneId
  positive : step.durationMs ≠ 0
  bounded : step.durationMs ≤ irrigationConfigurationMaxStepDurationMs

structure ValidProgram (boardZones : List Zone) (program : LiveProgram) : Prop where
  programId : ValidText program.programId
  displayName : ValidText program.displayName
  room : program.steps.length ≤ irrigationMaxProgramSteps
  steps : ∀ step ∈ program.steps, ValidStep boardZones step

structure ValidSchedule (programs : List LiveProgram) (schedule : IrrigationScheduleConfiguration) :
    Prop where
  scheduleId : ValidText schedule.scheduleId
  programId : ValidText schedule.programId
  program : ∃ program ∈ programs, program.programId = schedule.programId
  weekday : schedule.weekdayMask ≠ 0
  weekdays : schedule.weekdayMask &&& ~~~(127 : UInt8) = 0
  hour : schedule.hour < 24
  minute : schedule.minute < 60

theorem weekdaysOnly_iff (mask : UInt8) : mask &&& ~~~(127 : UInt8) = 0 ↔ mask < 128 := by
  have checked : (List.range 256).all fun number =>
      decide (UInt8.ofNat number &&& ~~~(127 : UInt8) = 0) == decide (UInt8.ofNat number < 128) := by
    decide +kernel
  have this := List.all_eq_true.mp checked mask.toNat (List.mem_range.mpr mask.toNat_lt)
  rw [UInt8.ofNat_toNat,beq_iff_eq,decide_eq_decide] at this
  exact this

/-- The validator's contract, stated on the live part only. -/
structure LiveConfiguration.Valid (boardZones : List Zone) (live : LiveConfiguration) : Prop where
  schemaVersion : live.schemaVersion = irrigationConfigurationSchemaVersion
  boardRoom : boardZones.length ≤ irrigationMaxZones
  zoneCount : live.zones.length = boardZones.length
  programCount : live.programs.length ≤ irrigationMaxPrograms
  scheduleCount : live.schedules.length ≤ irrigationMaxSchedules
  zones : ∀ zone ∈ live.zones, ValidZone boardZones zone
  zonesDistinct : (live.zones.map (·.zoneId)).Nodup
  programs : ∀ program ∈ live.programs, ValidProgram boardZones program
  programsDistinct : (live.programs.map (·.programId)).Nodup
  schedules : ∀ schedule ∈ live.schedules, ValidSchedule live.programs schedule
  schedulesDistinct : (live.schedules.map (·.scheduleId)).Nodup

theorem boardZoneExists_iff (boardZones : List Zone) (zoneId : IdText) :
    boardZoneExists boardZones zoneId = true ↔ OnBoard boardZones zoneId := by
  simp [boardZoneExists,OnBoard]

theorem programExists_iff (configuration : IrrigationConfiguration) (programId : IdText) :
    programExists configuration programId = true ↔
      ∃ program ∈ configuration.live.programs, program.programId = programId := by
  simp [programExists,IrrigationConfiguration.live]

theorem zoneIsValid_iff (boardZones : List Zone) (previous : List IrrigationZoneConfiguration)
    (zone : IrrigationZoneConfiguration) : zoneIsValid boardZones previous zone = true ↔
      ValidZone boardZones zone ∧ ∀ earlier ∈ previous, earlier.zoneId ≠ zone.zoneId := by
  simp only [zoneIsValid,Bool.and_eq_true,textIsValid_iff,boardZoneExists_iff,List.all_eq_true,bne_iff_ne]
  exact ⟨fun h => ⟨⟨h.1.1.1,h.1.1.2,h.1.2⟩,h.2⟩,fun h => ⟨⟨⟨h.1.1,h.1.2⟩,h.1.3⟩,h.2⟩⟩

theorem stepIsValid_iff (boardZones : List Zone) (step : IrrigationProgramStepConfiguration) :
    stepIsValid boardZones step = true ↔ ValidStep boardZones step := by
  simp only [stepIsValid,Bool.and_eq_true,textIsValid_iff,boardZoneExists_iff,bne_iff_ne,
    decide_eq_true_eq]
  exact ⟨fun h => ⟨h.1.1.1,h.1.1.2,h.1.2,h.2⟩,fun h => ⟨⟨⟨h.1,h.2⟩,h.3⟩,h.4⟩⟩

theorem configuredProgramIsValid_iff (boardZones : List Zone) (previous : List IrrigationProgramConfiguration)
    (program : IrrigationProgramConfiguration) : configuredProgramIsValid boardZones previous program = true ↔
      (ValidProgram boardZones program.live ∧ program.stepCount.toNat ≤ irrigationMaxProgramSteps) ∧
        ∀ earlier ∈ previous, earlier.programId ≠ program.programId := by
  simp only [configuredProgramIsValid,Bool.and_eq_true,textIsValid_iff,List.all_eq_true,bne_iff_ne,
    decide_eq_true_eq,stepIsValid_iff]
  constructor
  · intro h
    refine ⟨⟨⟨h.1.1.1.1,h.1.1.1.2,?_,h.2⟩,h.1.1.2⟩,h.1.2⟩
    simp [IrrigationProgramConfiguration.liveSteps]
  · exact fun h => ⟨⟨⟨⟨h.1.1.1,h.1.1.2⟩,h.1.2⟩,h.2⟩,h.1.1.4⟩

theorem scheduleIsValid_iff (configuration : IrrigationConfiguration)
    (previous : List IrrigationScheduleConfiguration) (schedule : IrrigationScheduleConfiguration) :
    scheduleIsValid configuration previous schedule = true ↔
      ValidSchedule configuration.live.programs schedule ∧
        ∀ earlier ∈ previous, earlier.scheduleId ≠ schedule.scheduleId := by
  simp only [scheduleIsValid,Bool.and_eq_true,textIsValid_iff,programExists_iff,List.all_eq_true,
    bne_iff_ne,beq_iff_eq,decide_eq_true_eq]
  exact ⟨fun h => ⟨⟨h.1.1.1.1.1.1.1,h.1.1.1.1.1.1.2,h.1.1.1.1.1.2,h.1.1.1.1.2,h.1.1.1.2,h.1.1.2,h.1.2⟩,h.2⟩,
    fun h => ⟨⟨⟨⟨⟨⟨⟨h.1.1,h.1.2⟩,h.1.3⟩,h.1.4⟩,h.1.5⟩,h.1.6⟩,h.1.7⟩,h.2⟩⟩

/-- Validation accepts exactly the configurations whose counts fit their arrays
and whose live part is valid. -/
theorem validate_ok_iff (configuration : IrrigationConfiguration) (boardZones : List Zone) :
    irrigationConfigurationValidate configuration boardZones = .ok ↔
      configuration.WithinCapacity ∧ configuration.live.Valid boardZones := by
  have zones := checkEach_iff (zoneIsValid_iff boardZones) configuration.liveZones
  have programs := checkEach_iff (configuredProgramIsValid_iff boardZones) configuration.livePrograms
  have schedules := checkEach_iff (scheduleIsValid_iff configuration) configuration.liveSchedules
  unfold irrigationConfigurationValidate
  constructor
  · intro accepted
    split at accepted
    · contradiction
    next counts =>
    split at accepted
    · contradiction
    next zonesOk =>
    split at accepted
    · contradiction
    next programsOk =>
    split at accepted
    · contradiction
    next schedulesOk =>
    simp only [not_or,ne_eq,not_not,not_lt,gt_iff_lt] at counts
    simp only [Bool.not_eq_true,Bool.not_eq_false'] at zonesOk programsOk schedulesOk
    obtain ⟨schema,board,zoneCount,programCount,scheduleCount⟩ := counts
    have zoneFacts := zones.mp zonesOk
    have programFacts := programs.mp programsOk
    have scheduleFacts := schedules.mp schedulesOk
    refine ⟨⟨by omega,programCount,scheduleCount,fun program member => (programFacts.1 program member).2⟩,
      schema,board,?_,?_,?_,zoneFacts.1,zoneFacts.2,?_,?_,scheduleFacts.1,scheduleFacts.2⟩
    · simp [IrrigationConfiguration.live,IrrigationConfiguration.liveZones]; omega
    · simp [IrrigationConfiguration.live,IrrigationConfiguration.livePrograms]
    · simp [IrrigationConfiguration.live,IrrigationConfiguration.liveSchedules]
    · simpa [IrrigationConfiguration.live] using fun program member => (programFacts.1 program member).1
    · simpa [IrrigationConfiguration.live,Function.comp_def] using programFacts.2
  · rintro ⟨capacity,valid⟩
    have counts : configuration.zoneCount.toNat = boardZones.length := by
      have h := valid.zoneCount
      have := capacity.zones
      simp [IrrigationConfiguration.live,IrrigationConfiguration.liveZones] at h
      omega
    have programFacts : (configuration.livePrograms.map (·.programId)).Nodup := by
      simpa [IrrigationConfiguration.live,Function.comp_def] using valid.programsDistinct
    have programsOk := programs.mpr ⟨fun program member =>
      ⟨valid.programs _ (List.mem_map_of_mem member),capacity.steps program member⟩,programFacts⟩
    rw [if_neg,if_neg,if_neg,if_neg]
    · simpa using schedules.mpr ⟨valid.schedules,valid.schedulesDistinct⟩
    · simpa using programsOk
    · simpa using zones.mpr ⟨valid.zones,valid.zonesDistinct⟩
    · have := valid.schemaVersion
      have := valid.boardRoom
      have := capacity.programs
      have := capacity.schedules
      simp only [not_or,ne_eq,not_not,not_lt,gt_iff_lt]
      exact ⟨valid.schemaVersion,valid.boardRoom,counts,capacity.programs,capacity.schedules⟩

end Irrigation
