import Irrigation.Library.CheckedMemory
import Irrigation.Repository

/-! The configuration as it lies in memory, all characters of its texts and all entries of its
arrays, and the validator over it: every access is checked. -/
namespace Irrigation

open CheckedMemory
open Repository (DecodeStop)

abbrev RawText (n : Nat) := Vector UInt8 n
abbrev RawId := RawText irrigationConfigurationIdSize
abbrev RawName := RawText irrigationConfigurationNameSize

structure RawZone where
  zoneId : RawId
  displayName : RawName
  deriving DecidableEq, Repr

structure RawStep where
  zoneId : RawId
  durationMs : UInt32
  deriving DecidableEq, Repr

structure RawProgram where
  programId : RawId
  displayName : RawName
  steps : Vector RawStep irrigationMaxProgramSteps
  stepCount : UInt8
  deriving DecidableEq, Repr

structure RawSchedule where
  scheduleId : RawId
  enabled : Bool
  weekdayMask : UInt8
  hour : UInt8
  minute : UInt8
  programId : RawId
  deriving DecidableEq, Repr

structure RawConfiguration where
  schemaVersion : UInt16
  zones : Vector RawZone irrigationMaxZones
  programs : Vector RawProgram irrigationMaxPrograms
  schedules : Vector RawSchedule irrigationMaxSchedules
  zoneCount : UInt8
  programCount : UInt8
  scheduleCount : UInt8
  nextProgramId : UInt32
  nextScheduleId : UInt32
  deriving DecidableEq, Repr

/-! ### The validator -/

/-- An access that leaves its object. -/
abbrev invalidAccess : DecodeStop := .outOfBounds

abbrev Checked := Except DecodeStop

def rawTextIsValid {n : Nat} (text : RawText n) (maximumLength : Nat) : Checked Bool := do
  let first ← load invalidAccess text 0
  if first = 0 then pure false
  else
    let length ← strnlen invalidAccess text.toList maximumLength
    if length ≥ maximumLength then pure false
    else allCharacters invalidAccess textCharacterIsValid text.toList

/-- A board id is a string literal. -/
def rawBoardZoneExists (boardZones : List Zone) (zoneId : RawId) : Checked Bool :=
  boardZones.anyM fun zone => strcmp invalidAccess (zone.id.bytes ++ [0]) zoneId.toList

/-- The loops over the entries in front of one, and over all entries of a count. -/
def allBelow (count : Nat) (body : Nat → Checked Bool) : Checked Bool := (List.range count).allM body

def anyBelow (count : Nat) (body : Nat → Checked Bool) : Checked Bool := (List.range count).anyM body

def differs {n : Nat} (first second : RawText n) : Checked Bool := do
  let same ← strcmp invalidAccess first.toList second.toList
  pure !same

def rawZoneIsValid (raw : RawConfiguration) (boardZones : List Zone) (index : Nat) : Checked Bool := do
  let zone ← load invalidAccess raw.zones index
  rawTextIsValid zone.zoneId irrigationConfigurationIdSize <&&>
    rawTextIsValid zone.displayName irrigationConfigurationNameSize <&&>
    rawBoardZoneExists boardZones zone.zoneId <&&>
    allBelow index fun previous => do
      let earlier ← load invalidAccess raw.zones previous
      differs earlier.zoneId zone.zoneId

def rawStepIsValid (program : RawProgram) (boardZones : List Zone) (index : Nat) : Checked Bool := do
  let step ← load invalidAccess program.steps index
  rawTextIsValid step.zoneId irrigationConfigurationIdSize <&&>
    rawBoardZoneExists boardZones step.zoneId <&&>
    pure (step.durationMs != 0 && step.durationMs ≤ irrigationConfigurationMaxStepDurationMs)

def rawProgramIsValid (raw : RawConfiguration) (boardZones : List Zone) (index : Nat) : Checked Bool := do
  let program ← load invalidAccess raw.programs index
  rawTextIsValid program.programId irrigationConfigurationIdSize <&&>
    rawTextIsValid program.displayName irrigationConfigurationNameSize <&&>
    pure (program.stepCount.toNat ≤ irrigationMaxProgramSteps) <&&>
    (allBelow index fun previous => do
      let earlier ← load invalidAccess raw.programs previous
      differs earlier.programId program.programId) <&&>
    allBelow program.stepCount.toNat (rawStepIsValid program boardZones)

def rawProgramExists (raw : RawConfiguration) (programId : RawId) : Checked Bool :=
  anyBelow raw.programCount.toNat fun index => do
    let program ← load invalidAccess raw.programs index
    strcmp invalidAccess program.programId.toList programId.toList

def rawScheduleIsValid (raw : RawConfiguration) (index : Nat) : Checked Bool := do
  let schedule ← load invalidAccess raw.schedules index
  rawTextIsValid schedule.scheduleId irrigationConfigurationIdSize <&&>
    rawTextIsValid schedule.programId irrigationConfigurationIdSize <&&>
    rawProgramExists raw schedule.programId <&&>
    pure (schedule.weekdayMask != 0 && (schedule.weekdayMask &&& ~~~(127 : UInt8)) == 0 &&
      schedule.hour < 24 && schedule.minute < 60) <&&>
    allBelow index fun previous => do
      let earlier ← load invalidAccess raw.schedules previous
      differs earlier.scheduleId schedule.scheduleId

def rawConfigurationValidate (raw : RawConfiguration) (boardZones : List Zone) : Checked IrrigationResult := do
  if raw.schemaVersion ≠ irrigationConfigurationSchemaVersion ∨
      boardZones.length > irrigationMaxZones ∨
      raw.zoneCount.toNat ≠ boardZones.length ∨
      raw.programCount.toNat > irrigationMaxPrograms ∨
      raw.scheduleCount.toNat > irrigationMaxSchedules then pure .rejected
  else
    let accepted ← allBelow raw.zoneCount.toNat (rawZoneIsValid raw boardZones) <&&>
      allBelow raw.programCount.toNat (rawProgramIsValid raw boardZones) <&&>
      allBelow raw.scheduleCount.toNat (rawScheduleIsValid raw)
    pure (if accepted then .ok else .rejected)

/-! ### What the memory holds -/

def RawText.text {n : Nat} (raw : RawText n) : CharArray n where
  bytes := content raw.toList
  noNul := fun byte member => by simpa using List.mem_takeWhile_imp member
  fits := (content_length_le _).trans (Nat.le_of_eq Vector.length_toList)

def RawZone.zone (raw : RawZone) : IrrigationZoneConfiguration := ⟨raw.zoneId.text,raw.displayName.text⟩

def RawStep.step (raw : RawStep) : IrrigationProgramStepConfiguration := ⟨raw.zoneId.text,raw.durationMs⟩

def RawProgram.program (raw : RawProgram) : IrrigationProgramConfiguration :=
  ⟨raw.programId.text,raw.displayName.text,raw.steps.map RawStep.step,raw.stepCount⟩

def RawSchedule.schedule (raw : RawSchedule) : IrrigationScheduleConfiguration :=
  ⟨raw.scheduleId.text,raw.enabled,raw.weekdayMask,raw.hour,raw.minute,raw.programId.text⟩

def RawConfiguration.configuration (raw : RawConfiguration) : IrrigationConfiguration where
  schemaVersion := raw.schemaVersion
  zones := raw.zones.map RawZone.zone
  programs := raw.programs.map RawProgram.program
  schedules := raw.schedules.map RawSchedule.schedule
  zoneCount := raw.zoneCount
  programCount := raw.programCount
  scheduleCount := raw.scheduleCount
  nextProgramId := raw.nextProgramId
  nextScheduleId := raw.nextScheduleId

/-! ### Texts -/

section Texts

variable {n : Nat}

theorem rawTextIsValid_eq (raw : RawText n) (room : 0 < n) : rawTextIsValid raw n = .ok (textIsValid raw.text n) := by
  have size : raw.toList.length = n := Vector.length_toList
  have split : raw.toList = raw[0] :: raw.toList.drop 1 := by
    have first := List.drop_eq_getElem_cons (l := raw.toList) (i := 0) (by omega)
    simpa using first
  have length := strnlen_eq invalidAccess (Nat.le_of_eq size.symm)
  have shorter := content_length_le raw.toList
  have verdict : textIsValid raw.text n = if content raw.toList = [] ∨ min (content raw.toList).length n ≥ n then false
      else (content raw.toList).all textCharacterIsValid := rfl
  rw [rawTextIsValid,load_of_lt invalidAccess room,length,verdict]
  simp only [bind,Except.bind,pure,Except.pure]
  by_cases empty : raw[0] = 0
  · have nothing : content raw.toList = [] := by rw [split,empty,content_cons_zero]
    rw [if_pos empty,if_pos (Or.inl nothing)]
  · have some : content raw.toList ≠ [] := by
      rw [split,content_cons empty]
      exact List.cons_ne_nil _ _
    rw [if_neg empty]
    by_cases full : (content raw.toList).length < n
    · rw [if_neg (by omega),if_neg (by simp only [not_or]; exact ⟨some,by omega⟩),
        allCharacters_eq invalidAccess _ (terminated (by omega))]
    · rw [if_pos (by omega),if_pos (Or.inr (by omega))]

/-- A valid text is terminated in memory. -/
theorem ends_of_valid {raw : RawText n} (valid : textIsValid raw.text n = true) : 0 ∈ raw.toList := by
  refine terminated ?_
  rw [Vector.length_toList]
  exact ((textIsValid_iff _).mp valid).terminated

theorem strcmp_text {first second : RawText n} (firstEnds : 0 ∈ first.toList) (secondEnds : 0 ∈ second.toList) :
    strcmp invalidAccess first.toList second.toList = .ok (first.text == second.text) := by
  have same : first.text = second.text ↔ content first.toList = content second.toList :=
    ⟨fun same => congrArg (fun text => text.bytes) same,fun same => CharArray.ext same⟩
  rw [strcmp_eq invalidAccess firstEnds secondEnds,← decide_eq_decide.mpr same]
  rfl

theorem differs_eq {first second : RawText n} (firstEnds : 0 ∈ first.toList) (secondEnds : 0 ∈ second.toList) :
    differs first second = .ok (first.text != second.text) := by
  rw [differs,strcmp_text firstEnds secondEnds]
  rfl

theorem rawBoardZoneExists_eq (boardZones : List Zone) {zoneId : RawId} (ends : 0 ∈ zoneId.toList) :
    rawBoardZoneExists boardZones zoneId = .ok (boardZoneExists boardZones zoneId.text) := by
  have compare (zone : Zone) : strcmp invalidAccess (zone.id.bytes ++ [0]) zoneId.toList =
      .ok (zone.id == zoneId.text.toCString) := by
    have noNul : 0 ∉ zone.id.bytes := fun member => zone.id.noNul 0 member rfl
    have same : zone.id = zoneId.text.toCString ↔ zone.id.bytes = content zoneId.toList :=
      ⟨fun same => congrArg CString.bytes same,fun same => CString.ext same⟩
    rw [strcmp_eq invalidAccess (by simp) ends,content_append noNul,← decide_eq_decide.mpr same]
    rfl
  unfold rawBoardZoneExists boardZoneExists
  induction boardZones with
  | nil => rfl
  | cons zone rest ih =>
    rw [List.anyM,List.any_cons,compare]
    cases zone.id == zoneId.text.toCString with
    | true => rfl
    | false => exact ih

end Texts

/-! ### Loops -/

section Loops

variable {α : Type}

theorem and_ok {first second : Checked Bool} {value next : Bool} (front : first = .ok value)
    (back : value = true → second = .ok next) : (first <&&> second) = .ok (value && next) := by
  subst front
  cases value with
  | false => rfl
  | true => exact back rfl

theorem checkEach_append (check : List α → α → Bool) (before front back : List α) :
    checkEach check before (front ++ back) =
      (checkEach check before front && checkEach check (before ++ front) back) := by
  induction front generalizing before with
  | nil => simp [checkEach]
  | cons entry rest ih => simp [checkEach,ih,Bool.and_assoc]

theorem checkEach_all (test : α → Bool) (before entries : List α) :
    checkEach (fun _ => test) before entries = entries.all test := by
  induction entries generalizing before with
  | nil => rfl
  | cons entry rest ih => rw [checkEach,ih,List.all_cons]

/-- An entry is only reached when those before it passed. -/
theorem allBelow_checkEach {check : List α → α → Bool} {entries : List α} {body : Nat → Checked Bool}
    (each : ∀ index (inside : index < entries.length), checkEach check [] (entries.take index) = true →
      body index = .ok (check (entries.take index) entries[index])) :
    allBelow entries.length body = .ok (checkEach check [] entries) := by
  have onwards : ∀ rest previous, entries = previous ++ rest → checkEach check [] previous = true →
      (List.range' previous.length rest.length).allM body = .ok (checkEach check previous rest) := by
    intro rest
    induction rest with
    | nil => exact fun _ _ _ => rfl
    | cons entry rest ih =>
      intro previous split passed
      have inside : previous.length < entries.length := by rw [split,List.length_append,List.length_cons]; omega
      have front : entries.take previous.length = previous := by rw [split,List.take_left]
      have here : entries[previous.length] = entry := by simp [split]
      have verdict := each previous.length inside (by rwa [front])
      rw [front,here] at verdict
      rw [List.length_cons,List.range'_succ,List.allM,verdict,checkEach]
      cases accepted : check previous entry with
      | false => rfl
      | true =>
        have next := ih (previous ++ [entry]) (by rw [split]; simp)
          (by simp [checkEach_append,passed,checkEach,accepted])
        rw [List.length_append,List.length_singleton] at next
        exact next
  have all := onwards entries [] rfl rfl
  rw [List.length_nil,← List.range_eq_range'] at all
  exact all

theorem allBelow_all {test : α → Bool} {entries : List α} {body : Nat → Checked Bool}
    (each : ∀ index (inside : index < entries.length), body index = .ok (test entries[index])) :
    allBelow entries.length body = .ok (entries.all test) := by
  rw [← checkEach_all test []]
  exact allBelow_checkEach fun index inside _ => each index inside

theorem anyBelow_any {test : α → Bool} {entries : List α} {body : Nat → Checked Bool}
    (each : ∀ index (inside : index < entries.length), body index = .ok (test entries[index])) :
    anyBelow entries.length body = .ok (entries.any test) := by
  have onwards : ∀ rest previous, entries = previous ++ rest →
      (List.range' previous.length rest.length).anyM body = .ok (rest.any test) := by
    intro rest
    induction rest with
    | nil => exact fun _ _ => rfl
    | cons entry rest ih =>
      intro previous split
      have inside : previous.length < entries.length := by rw [split,List.length_append,List.length_cons]; omega
      have here : entries[previous.length] = entry := by simp [split]
      have verdict := each previous.length inside
      rw [here] at verdict
      rw [List.length_cons,List.range'_succ,List.anyM,verdict,List.any_cons]
      cases test entry with
      | true => rfl
      | false =>
        have next := ih (previous ++ [entry]) (by rw [split]; simp)
        rw [List.length_append,List.length_singleton] at next
        exact next
  have all := onwards entries [] rfl
  rw [List.length_nil,← List.range_eq_range'] at all
  exact all

end Loops

/-! ### Entries -/

section Entries

variable {ρ α : Type} {n m : Nat} (view : ρ → α) (array : Vector ρ n)

/-- The entries in front of an index. -/
def front (index : Nat) : List α := (array.map view).toList.take index

theorem front_length {index : Nat} (room : index ≤ n) : (front view array index).length = index := by
  simp [front,room]

theorem front_take {index count : Nat} (below : index ≤ count) :
    (front view array count).take index = front view array index := by
  rw [front,List.take_take,Nat.min_eq_left below,front]

theorem front_getElem {index count : Nat} (inside : index < (front view array count).length) (room : index < n) :
    (front view array count)[index] = view array[index] := by
  simp [front]

variable {view} {array}

/-- The loop over the entries that a count makes visible. -/
theorem allBelow_front {check : List α → α → Bool} {count : Nat} (room : count ≤ n) {body : Nat → Checked Bool}
    (each : ∀ index (inside : index < n), checkEach check [] (front view array index) = true →
      body index = .ok (check (front view array index) (view array[index]))) :
    allBelow count body = .ok (checkEach check [] (front view array count)) := by
  have size := front_length view array room
  have looped : allBelow (front view array count).length body = .ok (checkEach check [] (front view array count)) := by
    refine allBelow_checkEach fun index inside passed => ?_
    have below : index < n := by omega
    rw [front_take view array (by omega)] at passed ⊢
    rw [front_getElem view array inside below]
    exact each index below passed
  rwa [size] at looped

/-- The loop that looks for an earlier entry with the same key. -/
theorem allBelow_differs (view : ρ → α) (key : ρ → RawText m) (text : α → CharArray m)
    (same : ∀ raw, text (view raw) = (key raw).text) {index : Nat} (room : index ≤ n)
    (valid : ∀ entry ∈ front view array index, textIsValid (text entry) m = true) {own : RawText m}
    (ends : 0 ∈ own.toList) : (allBelow index fun previous => do
        let earlier ← load invalidAccess array previous
        differs (key earlier) own) =
      .ok ((front view array index).all fun earlier => text earlier != own.text) := by
  have size := front_length view array room
  have looped : (allBelow (front view array index).length fun previous => do
        let earlier ← load invalidAccess array previous
        differs (key earlier) own) =
      .ok ((front view array index).all fun earlier => text earlier != own.text) := by
    refine allBelow_all fun previous inside => ?_
    have below : previous < n := by omega
    have entry := front_getElem view array inside below
    have earlier := valid _ (List.getElem_mem inside)
    rw [entry,same] at earlier
    rw [entry,same,load_of_lt invalidAccess below]
    exact differs_eq (ends_of_valid earlier) ends
  rwa [size] at looped

end Entries

/-! ### The verdict -/

section Verdict

variable (raw : RawConfiguration) (boardZones : List Zone)

theorem rawZoneIsValid_eq {index : Nat} (inside : index < irrigationMaxZones)
    (passed : checkEach (zoneIsValid boardZones) [] (front RawZone.zone raw.zones index) = true) :
    rawZoneIsValid raw boardZones index =
      .ok (zoneIsValid boardZones (front RawZone.zone raw.zones index) raw.zones[index].zone) := by
  have earlier := ((checkEach_iff (zoneIsValid_iff boardZones) _).mp passed).1
  have names : ∀ entry ∈ front RawZone.zone raw.zones index,
      textIsValid entry.zoneId irrigationConfigurationIdSize = true :=
    fun entry member => (textIsValid_iff _).mpr (earlier entry member).zoneId
  rw [rawZoneIsValid,load_of_lt invalidAccess inside,zoneIsValid,Bool.and_assoc,Bool.and_assoc]
  refine and_ok (rawTextIsValid_eq _ (by decide)) fun valid => ?_
  refine and_ok (rawTextIsValid_eq _ (by decide)) fun _ => ?_
  refine and_ok (rawBoardZoneExists_eq _ (ends_of_valid valid)) fun _ => ?_
  exact allBelow_differs RawZone.zone (·.zoneId) (·.zoneId) (fun _ => rfl) (Nat.le_of_lt inside) names
    (ends_of_valid valid)

theorem rawStepIsValid_eq (program : RawProgram) {index : Nat} (inside : index < irrigationMaxProgramSteps) :
    rawStepIsValid program boardZones index = .ok (stepIsValid boardZones program.steps[index].step) := by
  rw [rawStepIsValid,load_of_lt invalidAccess inside,stepIsValid,Bool.and_assoc,Bool.and_assoc]
  refine and_ok (rawTextIsValid_eq _ (by decide)) fun valid => ?_
  refine and_ok (rawBoardZoneExists_eq _ (ends_of_valid valid)) fun _ => ?_
  rfl

theorem rawProgramIsValid_eq {index : Nat} (inside : index < irrigationMaxPrograms)
    (passed : checkEach (configuredProgramIsValid boardZones) [] (front RawProgram.program raw.programs index) = true) :
    rawProgramIsValid raw boardZones index =
      .ok (configuredProgramIsValid boardZones (front RawProgram.program raw.programs index)
        raw.programs[index].program) := by
  have earlier := ((checkEach_iff (configuredProgramIsValid_iff boardZones) _).mp passed).1
  have names : ∀ entry ∈ front RawProgram.program raw.programs index,
      textIsValid entry.programId irrigationConfigurationIdSize = true :=
    fun entry member => (textIsValid_iff _).mpr (earlier entry member).1.programId
  rw [rawProgramIsValid,load_of_lt invalidAccess inside,configuredProgramIsValid,Bool.and_assoc,Bool.and_assoc,
    Bool.and_assoc]
  refine and_ok (rawTextIsValid_eq _ (by decide)) fun valid => ?_
  refine and_ok (rawTextIsValid_eq _ (by decide)) fun _ => ?_
  refine and_ok rfl fun room => ?_
  refine and_ok (allBelow_differs RawProgram.program (·.programId) (·.programId) (fun _ => rfl) (Nat.le_of_lt inside)
    names (ends_of_valid valid)) fun _ => ?_
  have count : raw.programs[index].stepCount.toNat ≤ irrigationMaxProgramSteps := of_decide_eq_true room
  have size := front_length RawStep.step raw.programs[index].steps count
  have looped : allBelow (front RawStep.step raw.programs[index].steps raw.programs[index].stepCount.toNat).length
      (rawStepIsValid raw.programs[index] boardZones) =
      .ok ((front RawStep.step raw.programs[index].steps raw.programs[index].stepCount.toNat).all
        (stepIsValid boardZones)) := by
    refine allBelow_all fun step inside => ?_
    have below : step < irrigationMaxProgramSteps := by omega
    rw [front_getElem RawStep.step _ inside below]
    exact rawStepIsValid_eq boardZones _ below
  rwa [size] at looped

theorem rawProgramExists_eq (room : raw.programCount.toNat ≤ irrigationMaxPrograms) {programId : RawId}
    (ends : 0 ∈ programId.toList) (names : ∀ entry ∈ front RawProgram.program raw.programs raw.programCount.toNat,
      textIsValid entry.programId irrigationConfigurationIdSize = true) :
    rawProgramExists raw programId = .ok (programExists raw.configuration programId.text) := by
  have size := front_length RawProgram.program raw.programs room
  have looped : (anyBelow (front RawProgram.program raw.programs raw.programCount.toNat).length fun index => do
        let program ← load invalidAccess raw.programs index
        strcmp invalidAccess program.programId.toList programId.toList) =
      .ok ((front RawProgram.program raw.programs raw.programCount.toNat).any fun program =>
        program.programId == programId.text) := by
    refine anyBelow_any fun index inside => ?_
    have below : index < irrigationMaxPrograms := by omega
    have entry := front_getElem RawProgram.program raw.programs inside below
    have valid := names _ (List.getElem_mem inside)
    rw [entry] at valid
    rw [entry,load_of_lt invalidAccess below]
    exact strcmp_text (ends_of_valid valid) ends
  rwa [size] at looped

theorem rawScheduleIsValid_eq (programs : raw.programCount.toNat ≤ irrigationMaxPrograms)
    (names : ∀ entry ∈ front RawProgram.program raw.programs raw.programCount.toNat,
      textIsValid entry.programId irrigationConfigurationIdSize = true) {index : Nat}
    (inside : index < irrigationMaxSchedules)
    (passed : checkEach (scheduleIsValid raw.configuration) []
      (front RawSchedule.schedule raw.schedules index) = true) :
    rawScheduleIsValid raw index =
      .ok (scheduleIsValid raw.configuration (front RawSchedule.schedule raw.schedules index)
        raw.schedules[index].schedule) := by
  have earlier := ((checkEach_iff (scheduleIsValid_iff raw.configuration) _).mp passed).1
  have ids : ∀ entry ∈ front RawSchedule.schedule raw.schedules index,
      textIsValid entry.scheduleId irrigationConfigurationIdSize = true :=
    fun entry member => (textIsValid_iff _).mpr (earlier entry member).scheduleId
  rw [rawScheduleIsValid,load_of_lt invalidAccess inside]
  have verdict : scheduleIsValid raw.configuration (front RawSchedule.schedule raw.schedules index)
      raw.schedules[index].schedule =
      (textIsValid raw.schedules[index].scheduleId.text irrigationConfigurationIdSize &&
        (textIsValid raw.schedules[index].programId.text irrigationConfigurationIdSize &&
        (programExists raw.configuration raw.schedules[index].programId.text &&
        ((raw.schedules[index].weekdayMask != 0 && (raw.schedules[index].weekdayMask &&& ~~~(127 : UInt8)) == 0 &&
          raw.schedules[index].hour < 24 && raw.schedules[index].minute < 60) &&
        (front RawSchedule.schedule raw.schedules index).all fun earlier =>
          earlier.scheduleId != raw.schedules[index].scheduleId.text)))) := by
    simp only [scheduleIsValid,Bool.and_assoc]
    rfl
  rw [verdict]
  refine and_ok (rawTextIsValid_eq _ (by decide)) fun valid => ?_
  refine and_ok (rawTextIsValid_eq _ (by decide)) fun program => ?_
  refine and_ok (rawProgramExists_eq raw programs (ends_of_valid program) names) fun _ => and_ok rfl fun _ => ?_
  exact allBelow_differs RawSchedule.schedule (·.scheduleId) (·.scheduleId) (fun _ => rfl) (Nat.le_of_lt inside) ids
    (ends_of_valid valid)

/-- The validator leaves no object, whatever lies in memory, and its verdict is that on what it holds. -/
theorem rawConfigurationValidate_eq :
    rawConfigurationValidate raw boardZones = .ok (irrigationConfigurationValidate raw.configuration boardZones) := by
  unfold rawConfigurationValidate irrigationConfigurationValidate
  by_cases counts : raw.schemaVersion ≠ irrigationConfigurationSchemaVersion ∨ boardZones.length > irrigationMaxZones ∨
      raw.zoneCount.toNat ≠ boardZones.length ∨ raw.programCount.toNat > irrigationMaxPrograms ∨
      raw.scheduleCount.toNat > irrigationMaxSchedules
  · rw [if_pos counts]
    exact (congrArg Except.ok (if_pos counts)).symm
  · have inside := counts
    simp only [not_or,ne_eq,not_not,not_lt,gt_iff_lt] at inside
    obtain ⟨_,board,zoneCount,programCount,scheduleCount⟩ := inside
    have accepted : (allBelow raw.zoneCount.toNat (rawZoneIsValid raw boardZones) <&&>
        allBelow raw.programCount.toNat (rawProgramIsValid raw boardZones) <&&>
        allBelow raw.scheduleCount.toNat (rawScheduleIsValid raw)) =
        .ok (checkEach (zoneIsValid boardZones) [] raw.configuration.liveZones &&
          (checkEach (configuredProgramIsValid boardZones) [] raw.configuration.livePrograms &&
            checkEach (scheduleIsValid raw.configuration) [] raw.configuration.liveSchedules)) := by
      refine and_ok (allBelow_front (by omega) fun index inside => rawZoneIsValid_eq raw boardZones inside) fun _ => ?_
      refine and_ok (allBelow_front programCount fun index inside => rawProgramIsValid_eq raw boardZones inside)
        fun passed => ?_
      have programs := ((checkEach_iff (configuredProgramIsValid_iff boardZones) _).mp passed).1
      exact allBelow_front scheduleCount fun index inside => rawScheduleIsValid_eq raw programCount
        (fun entry member => (textIsValid_iff _).mpr (programs entry member).1.programId) inside
    rw [if_neg counts,accepted]
    refine congrArg Except.ok (Eq.trans ?_ (if_neg counts).symm)
    cases checkEach (zoneIsValid boardZones) [] raw.configuration.liveZones <;>
      cases checkEach (configuredProgramIsValid boardZones) [] raw.configuration.livePrograms <;>
      cases checkEach (scheduleIsValid raw.configuration) [] raw.configuration.liveSchedules <;> rfl

end Verdict

end Irrigation
