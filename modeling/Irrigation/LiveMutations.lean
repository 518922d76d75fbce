import Irrigation.MutationSteps

/-! The mutations on what the counts make visible: lists instead of arrays with leftover
entries. The one leftover that a mutation reads is an argument here. -/
namespace Irrigation

/-! ### Arrays as lists -/

section Arrays

variable {α : Type} {n : Nat}

theorem changeAt_live (entries : Vector α n) (index count : Nat) (change : α → α) :
    (changeAt entries index change).toList.take count = (entries.toList.take count).modify index change := by
  apply List.ext_getElem
  · simp
  · intro position inside bound
    simp only [changeAt,List.getElem_take,Vector.getElem_toList,Vector.getElem_ofFn,List.getElem_modify]
    by_cases same : position = index
    · simp [same]
    · simp [same,Ne.symm same]

theorem changeAt_append (entries : Vector α n) {count : Nat} (room : count < n) (change : α → α) :
    (changeAt entries count change).toList.take (count + 1) = entries.toList.take count ++ [change entries[count]] := by
  apply List.ext_getElem
  · simp
    omega
  · intro position inside bound
    simp only [List.length_take,Vector.length_toList] at inside
    simp only [changeAt,List.getElem_take,Vector.getElem_toList,Vector.getElem_ofFn]
    by_cases last : position = count
    · subst last
      rw [List.getElem_append_right (by simp)]
      simp
    · rw [List.getElem_append_left (by simp; omega)]
      simp [last]

theorem removeAt_live (entries : Vector α n) {index count : Nat} (inside : index < count) (room : count ≤ n) :
    (removeAt entries index count).toList.take (count - 1) = (entries.toList.take count).eraseIdx index := by
  apply List.ext_getElem
  · have present : index < (entries.toList.take count).length := by
      simp
      omega
    rw [List.length_eraseIdx,if_pos present]
    simp
    omega
  · intro position below bound
    simp only [List.length_take,Vector.length_toList] at below
    simp only [removeAt,List.getElem_take,Vector.getElem_toList,Vector.getElem_ofFn,List.getElem_eraseIdx]
    by_cases before : position < index
    · simp [before,Nat.not_le.mpr before]
    · have moved : index ≤ position ∧ position + 1 < count := ⟨by omega,by omega⟩
      simp only [before,dite_false,moved]
      rw [List.getD_eq_getElem?_getD,List.getElem?_eq_getElem (by simp; omega)]
      simp

theorem storeFront_live (entries : Vector α n) {values : List α} (room : values.length ≤ n) :
    (storeFront entries values).toList.take values.length = values := by
  apply List.ext_getElem
  · simp [room]
  · intro position inside bound
    simp only [storeFront,List.getElem_take,Vector.getElem_toList,Vector.getElem_ofFn,List.getD_eq_getElem?_getD]
    simp [bound]

theorem map_modify {β : Type} (field : α → β) (change : α → α) (changed : β → β)
    (same : ∀ entry, field (change entry) = changed (field entry)) (entries : List α) (index : Nat) :
    (entries.modify index change).map field = (entries.map field).modify index changed := by
  apply List.ext_getElem
  · simp
  · intro position inside bound
    simp only [List.getElem_map,List.getElem_modify]
    split
    · exact same _
    · rfl

theorem modify_concat {entries : List α} {index : Nat} (size : entries.length = index) (last : α) (change : α → α) :
    (entries ++ [last]).modify index change = entries ++ [change last] := by
  subst size
  induction entries with
  | nil => rfl
  | cons first rest ih => simpa using ih

end Arrays

theorem toNat_next {count : UInt8} {bound : Nat} (small : bound < 256) (below : count.toNat < bound) :
    (count + 1).toNat = count.toNat + 1 := by
  rw [UInt8.toNat_add]
  have one : (1 : UInt8).toNat = 1 := rfl
  omega

/-! ### Mutations of lists -/

namespace LiveConfiguration

variable (live : LiveConfiguration)

def renameZone (zoneId displayName : Option CString) : Except IrrigationResult LiveConfiguration :=
  match zoneId, displayName with
  | some zoneId, some displayName =>
    match live.zones.findIdx? fun zone => zone.zoneId.toCString = zoneId with
    | some index => .ok { live with
        zones := live.zones.modify index fun zone => { zone with displayName := copyText displayName } }
    | none => .error .notFound
  | _, _ => .error .rejected

def saveProgram (programIndex : Option Nat) (displayName : Option CString)
    (steps : Option (List IrrigationProgramStepConfiguration)) : Except IrrigationResult LiveConfiguration :=
  match displayName, steps with
  | some displayName, some steps =>
    if steps.length > irrigationMaxProgramSteps then .error .rejected
    else match programIndex with
      | none =>
        if live.programs.length ≥ irrigationMaxPrograms then .error .rejected
        else .ok { live with
          programs := live.programs ++
            [⟨copyText (.numbered "program-" live.nextProgramId.toNat),copyText displayName,steps⟩]
          nextProgramId := live.nextProgramId + 1 }
      | some index =>
        if index ≥ live.programs.length then .error .notFound
        else .ok { live with
          programs := live.programs.modify index fun program => ⟨program.programId,copyText displayName,steps⟩ }
  | _, _ => .error .rejected

def deleteProgram (programIndex : Nat) : Except IrrigationResult LiveConfiguration :=
  match live.programs[programIndex]? with
  | none => .error .notFound
  | some program =>
    if live.schedules.any fun schedule => schedule.programId = program.programId then .error .referenced
    else .ok { live with programs := live.programs.eraseIdx programIndex }

/-- A new schedule is as enabled as what it revives. -/
def saveSchedule (revived : Bool) (scheduleIndex : Option Nat) (weekdayMask hour minute : UInt8)
    (programId : Option CString) : Except IrrigationResult LiveConfiguration :=
  match programId with
  | none => .error .rejected
  | some programId =>
    match scheduleIndex with
    | none =>
      if live.schedules.length ≥ irrigationMaxSchedules then .error .rejected
      else .ok { live with
        schedules := live.schedules ++ [⟨copyText (.numbered "schedule-" live.nextScheduleId.toNat),revived,
          weekdayMask,hour,minute,copyText programId⟩]
        nextScheduleId := live.nextScheduleId + 1 }
    | some index =>
      if index ≥ live.schedules.length then .error .notFound
      else .ok { live with schedules := live.schedules.modify index (.save weekdayMask hour minute programId) }

def deleteSchedule (scheduleIndex : Nat) : Except IrrigationResult LiveConfiguration :=
  if scheduleIndex ≥ live.schedules.length then .error .notFound
  else .ok { live with schedules := live.schedules.eraseIdx scheduleIndex }

def setScheduleEnabled (scheduleIndex : Nat) (enabled : Bool) : Except IrrigationResult LiveConfiguration :=
  if scheduleIndex ≥ live.schedules.length then .error .notFound
  else .ok { live with schedules := live.schedules.modify scheduleIndex (.enable enabled) }

end LiveConfiguration

/-- What a call prepares from the live lists and the enabled flag left behind the live schedules. -/
def Mutation.prepareLive (live : LiveConfiguration) (revived : Bool) :
    Mutation → Except IrrigationResult LiveConfiguration
  | .renameZone zoneId displayName => live.renameZone zoneId displayName
  | .createProgram displayName steps => live.saveProgram none displayName steps
  | .updateProgram programIndex displayName steps => live.saveProgram (some programIndex) displayName steps
  | .deleteProgram programIndex => live.deleteProgram programIndex
  | .createSchedule weekdayMask hour minute programId =>
    live.saveSchedule revived none weekdayMask hour minute programId
  | .updateSchedule scheduleIndex weekdayMask hour minute programId =>
    live.saveSchedule revived (some scheduleIndex) weekdayMask hour minute programId
  | .deleteSchedule scheduleIndex => live.deleteSchedule scheduleIndex
  | .setScheduleEnabled scheduleIndex enabled => live.setScheduleEnabled scheduleIndex enabled
  | .replace none => .error .rejected
  | .replace (some candidate) => .ok candidate.live

/-- The enabled flag of the entry that the next created schedule takes over. -/
def IrrigationConfiguration.revivedEnabled (configuration : IrrigationConfiguration) : Bool :=
  (configuration.schedules.toList.getD configuration.scheduleCount.toNat zeroSchedule).enabled

/-! ### The arrays refine the lists -/

section Refinement

variable {configuration : IrrigationConfiguration}

theorem saved_live {steps : List IrrigationProgramStepConfiguration} (room : steps.length ≤ irrigationMaxProgramSteps)
    (displayName : CString) (program : IrrigationProgramConfiguration) :
    (program.save displayName steps).live = ⟨program.programId,copyText displayName,steps⟩ := by
  have count : steps.length.toUInt8.toNat = steps.length := by
    have bound : steps.length ≤ 8 := room
    simp
    omega
  simp only [IrrigationProgramConfiguration.live,IrrigationProgramConfiguration.liveSteps,
    IrrigationProgramConfiguration.save,count,storeFront_live program.steps room]

theorem renameZone_live (zoneId displayName : Option CString) :
    (renameZone configuration zoneId displayName).map (·.live) = configuration.live.renameZone zoneId displayName := by
  have zones : configuration.live.zones = configuration.liveZones := rfl
  cases zoneId with
  | none => rfl
  | some zoneId =>
    cases displayName with
    | none => rfl
    | some displayName =>
      simp only [renameZone,LiveConfiguration.renameZone,zones]
      cases configuration.liveZones.findIdx? fun zone => zone.zoneId.toCString = zoneId with
      | none => rfl
      | some index =>
        simp only [Except.map,IrrigationConfiguration.live,IrrigationConfiguration.liveZones,
          IrrigationConfiguration.livePrograms,IrrigationConfiguration.liveSchedules,changeAt_live]

theorem storeProgram_live (index : Nat) (displayName : CString) {steps : List IrrigationProgramStepConfiguration}
    (room : steps.length ≤ irrigationMaxProgramSteps) :
    (storeProgram configuration index displayName steps).live = { configuration.live with
      programs := configuration.live.programs.modify index fun program =>
        ⟨program.programId,copyText displayName,steps⟩ } := by
  have names (programs : List IrrigationProgramConfiguration) :
      (programs.modify index (.save displayName steps)).map (·.live) =
        (programs.map (·.live)).modify index fun program => ⟨program.programId,copyText displayName,steps⟩ :=
    map_modify _ _ _ (saved_live room displayName) programs index
  simp only [storeProgram,IrrigationConfiguration.live,IrrigationConfiguration.liveZones,
    IrrigationConfiguration.livePrograms,IrrigationConfiguration.liveSchedules,changeAt_live,names]

theorem appendProgram_live (below : configuration.programCount.toNat < irrigationMaxPrograms) (displayName : CString)
    {steps : List IrrigationProgramStepConfiguration} (room : steps.length ≤ irrigationMaxProgramSteps) :
    (storeProgram (appendProgram configuration) configuration.programCount.toNat displayName steps).live =
      { configuration.live with
        programs := configuration.live.programs ++
          [⟨copyText (.numbered "program-" configuration.nextProgramId.toNat),copyText displayName,steps⟩]
        nextProgramId := configuration.nextProgramId + 1 } := by
  have count := toNat_next (by decide) below
  have appended : (appendProgram configuration).livePrograms = configuration.livePrograms ++
      [.number configuration.nextProgramId configuration.programs[configuration.programCount.toNat]] := by
    simp only [IrrigationConfiguration.livePrograms,appendProgram,count]
    exact changeAt_append configuration.programs below _
  have size : configuration.live.programs.length = configuration.programCount.toNat := by
    have bound : configuration.programCount.toNat < 4 := below
    simp [IrrigationConfiguration.live,IrrigationConfiguration.livePrograms]
    omega
  have programs : (appendProgram configuration).live.programs = configuration.live.programs ++
      [(IrrigationProgramConfiguration.number configuration.nextProgramId
        configuration.programs[configuration.programCount.toNat]).live] := by
    rw [IrrigationConfiguration.live,appended,List.map_append]
    rfl
  rw [storeProgram_live _ _ room,programs,modify_concat size]
  simp only [IrrigationConfiguration.live,IrrigationConfiguration.liveZones,IrrigationConfiguration.livePrograms,
    IrrigationConfiguration.liveSchedules,appendProgram,IrrigationProgramConfiguration.live,
    IrrigationProgramConfiguration.number]

theorem saveProgram_live (capacity : configuration.WithinCapacity) (programIndex : Option Nat)
    (displayName : Option CString) (steps : Option (List IrrigationProgramStepConfiguration)) :
    (saveProgram configuration programIndex displayName steps).map (·.live) =
      configuration.live.saveProgram programIndex displayName steps := by
  have count : configuration.live.programs.length = configuration.programCount.toNat := by
    rw [IrrigationConfiguration.live,List.length_map,capacity.livePrograms_length]
  cases displayName with
  | none => rfl
  | some displayName =>
    cases steps with
    | none => rfl
    | some steps =>
      simp only [saveProgram,LiveConfiguration.saveProgram,count]
      by_cases long : steps.length > irrigationMaxProgramSteps
      · rw [if_pos long,if_pos long]
        rfl
      · rw [if_neg long,if_neg long]
        have room := Nat.not_lt.mp long
        cases programIndex with
        | some index =>
          dsimp only
          by_cases outside : index ≥ configuration.programCount.toNat
          · rw [if_pos outside,if_pos outside]
            rfl
          · rw [if_neg outside,if_neg outside,Except.map,storeProgram_live index displayName room]
        | none =>
          dsimp only
          by_cases full : configuration.programCount.toNat ≥ irrigationMaxPrograms
          · rw [if_pos full,if_pos full]
            rfl
          · rw [if_neg full,if_neg full,Except.map,appendProgram_live (Nat.not_le.mp full) displayName room]
            rfl

theorem deleteProgram_live (capacity : configuration.WithinCapacity) (programIndex : Nat) :
    (deleteProgram configuration programIndex).map (·.live) = configuration.live.deleteProgram programIndex := by
  have programs : configuration.live.programs[programIndex]? = configuration.livePrograms[programIndex]?.map (·.live) :=
    List.getElem?_map ..
  have schedules : configuration.live.schedules = configuration.liveSchedules := rfl
  simp only [deleteProgram,LiveConfiguration.deleteProgram,programs,schedules]
  cases found : configuration.livePrograms[programIndex]? with
  | none => rfl
  | some program =>
    have named : (configuration.liveSchedules.any fun schedule => schedule.programId = program.live.programId) =
        configuration.liveSchedules.any fun schedule => schedule.programId = program.programId := rfl
    dsimp only [Option.map_some]
    rw [named]
    by_cases referenced : (configuration.liveSchedules.any fun schedule => schedule.programId = program.programId) = true
    · rw [if_pos referenced,if_pos referenced]
      rfl
    · rw [if_neg referenced,if_neg referenced]
      have inside := (List.getElem?_eq_some_iff.mp found).1
      rw [capacity.livePrograms_length] at inside
      have removed : ((removeAt configuration.programs programIndex configuration.programCount.toNat).toList.take
          (configuration.programCount - 1).toNat).map (·.live) =
            (configuration.livePrograms.map (·.live)).eraseIdx programIndex := by
        rw [toNat_predecessor (by omega),removeAt_live configuration.programs inside capacity.programs,List.eraseIdx_map]
        rfl
      simp only [Except.map,IrrigationConfiguration.live,IrrigationConfiguration.liveZones,
        IrrigationConfiguration.livePrograms,IrrigationConfiguration.liveSchedules,removed]

theorem storeSchedule_live (index : Nat) (weekdayMask hour minute : UInt8) (programId : CString) :
    (storeSchedule configuration index weekdayMask hour minute programId).live = { configuration.live with
      schedules := configuration.live.schedules.modify index (.save weekdayMask hour minute programId) } := by
  simp only [storeSchedule,IrrigationConfiguration.live,IrrigationConfiguration.liveZones,
    IrrigationConfiguration.livePrograms,IrrigationConfiguration.liveSchedules,changeAt_live]

theorem appendSchedule_live (below : configuration.scheduleCount.toNat < irrigationMaxSchedules)
    (weekdayMask hour minute : UInt8) (programId : CString) :
    (storeSchedule (appendSchedule configuration) configuration.scheduleCount.toNat weekdayMask hour minute
        programId).live = { configuration.live with
      schedules := configuration.live.schedules ++ [⟨copyText (.numbered "schedule-" configuration.nextScheduleId.toNat),
        configuration.revivedEnabled,weekdayMask,hour,minute,copyText programId⟩]
      nextScheduleId := configuration.nextScheduleId + 1 } := by
  have count := toNat_next (by decide) below
  have appended : (appendSchedule configuration).liveSchedules = configuration.liveSchedules ++
      [.number configuration.nextScheduleId configuration.schedules[configuration.scheduleCount.toNat]] := by
    simp only [IrrigationConfiguration.liveSchedules,appendSchedule,count]
    exact changeAt_append configuration.schedules below _
  have size : configuration.live.schedules.length = configuration.scheduleCount.toNat := by
    have bound : configuration.scheduleCount.toNat < 16 := below
    simp [IrrigationConfiguration.live,IrrigationConfiguration.liveSchedules]
    omega
  have revived : configuration.revivedEnabled = configuration.schedules[configuration.scheduleCount.toNat].enabled := by
    rw [IrrigationConfiguration.revivedEnabled,List.getD_eq_getElem?_getD,
      List.getElem?_eq_getElem (by rw [Vector.length_toList]; exact below)]
    rfl
  have schedules : (appendSchedule configuration).live.schedules = configuration.live.schedules ++
      [.number configuration.nextScheduleId configuration.schedules[configuration.scheduleCount.toNat]] := appended
  rw [storeSchedule_live,schedules,modify_concat size,revived]
  simp only [IrrigationConfiguration.live,IrrigationConfiguration.liveZones,IrrigationConfiguration.livePrograms,
    IrrigationConfiguration.liveSchedules,appendSchedule,IrrigationScheduleConfiguration.save,
    IrrigationScheduleConfiguration.number]

theorem saveSchedule_live (capacity : configuration.WithinCapacity) (scheduleIndex : Option Nat)
    (weekdayMask hour minute : UInt8) (programId : Option CString) :
    (saveSchedule configuration scheduleIndex weekdayMask hour minute programId).map (·.live) =
      configuration.live.saveSchedule configuration.revivedEnabled scheduleIndex weekdayMask hour minute programId := by
  have count : configuration.live.schedules.length = configuration.scheduleCount.toNat := capacity.liveSchedules_length
  cases programId with
  | none => rfl
  | some programId =>
    simp only [saveSchedule,LiveConfiguration.saveSchedule,count]
    cases scheduleIndex with
    | some index =>
      dsimp only
      by_cases outside : index ≥ configuration.scheduleCount.toNat
      · rw [if_pos outside,if_pos outside]
        rfl
      · rw [if_neg outside,if_neg outside,Except.map,storeSchedule_live]
    | none =>
      dsimp only
      by_cases full : configuration.scheduleCount.toNat ≥ irrigationMaxSchedules
      · rw [if_pos full,if_pos full]
        rfl
      · rw [if_neg full,if_neg full,Except.map,appendSchedule_live (Nat.not_le.mp full)]
        rfl

theorem deleteSchedule_live (capacity : configuration.WithinCapacity) (scheduleIndex : Nat) :
    (deleteSchedule configuration scheduleIndex).map (·.live) = configuration.live.deleteSchedule scheduleIndex := by
  have count : configuration.live.schedules.length = configuration.scheduleCount.toNat := capacity.liveSchedules_length
  simp only [deleteSchedule,LiveConfiguration.deleteSchedule,count]
  by_cases outside : scheduleIndex ≥ configuration.scheduleCount.toNat
  · rw [if_pos outside,if_pos outside]
    rfl
  · have removed : (removeAt configuration.schedules scheduleIndex configuration.scheduleCount.toNat).toList.take
        (configuration.scheduleCount - 1).toNat = configuration.liveSchedules.eraseIdx scheduleIndex := by
      rw [toNat_predecessor (by omega),removeAt_live configuration.schedules (Nat.not_le.mp outside) capacity.schedules]
      rfl
    rw [if_neg outside,if_neg outside]
    simp only [Except.map,IrrigationConfiguration.live,IrrigationConfiguration.liveZones,
      IrrigationConfiguration.livePrograms,IrrigationConfiguration.liveSchedules,removed]

theorem setScheduleEnabled_live (capacity : configuration.WithinCapacity) (scheduleIndex : Nat) (enabled : Bool) :
    (setScheduleEnabled configuration scheduleIndex enabled).map (·.live) =
      configuration.live.setScheduleEnabled scheduleIndex enabled := by
  have count : configuration.live.schedules.length = configuration.scheduleCount.toNat := capacity.liveSchedules_length
  simp only [setScheduleEnabled,LiveConfiguration.setScheduleEnabled,count]
  by_cases outside : scheduleIndex ≥ configuration.scheduleCount.toNat
  · rw [if_pos outside,if_pos outside]
    rfl
  · rw [if_neg outside,if_neg outside]
    simp only [Except.map,IrrigationConfiguration.live,IrrigationConfiguration.liveZones,
      IrrigationConfiguration.livePrograms,IrrigationConfiguration.liveSchedules,changeAt_live]

/-- The live part of what a call prepares, or its refusal, depends on the live part it starts
from and on the flag that a created schedule takes over. -/
theorem prepare_live (capacity : configuration.WithinCapacity) (mutation : Mutation) :
    (mutation.prepare configuration).map (·.live) =
      mutation.prepareLive configuration.live configuration.revivedEnabled := by
  cases mutation with
  | renameZone zoneId displayName => exact renameZone_live zoneId displayName
  | createProgram displayName steps => exact saveProgram_live capacity none displayName steps
  | updateProgram programIndex displayName steps =>
    exact saveProgram_live capacity (some programIndex) displayName steps
  | deleteProgram programIndex => exact deleteProgram_live capacity programIndex
  | createSchedule weekdayMask hour minute programId =>
    exact saveSchedule_live capacity none weekdayMask hour minute programId
  | updateSchedule scheduleIndex weekdayMask hour minute programId =>
    exact saveSchedule_live capacity (some scheduleIndex) weekdayMask hour minute programId
  | deleteSchedule scheduleIndex => exact deleteSchedule_live capacity scheduleIndex
  | setScheduleEnabled scheduleIndex enabled => exact setScheduleEnabled_live capacity scheduleIndex enabled
  | replace candidate => cases candidate <;> rfl

end Refinement

end Irrigation
