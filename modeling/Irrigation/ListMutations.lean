import Irrigation.FreshIds
import Irrigation.ReplacementVerdicts

/-! What the mutations do to the lists of the live configuration: when an edit is allowed,
and the one entry that it then changes. -/
namespace Irrigation

/-! ### Allowed edits and their results -/

/-- A text that names a zone or a program. -/
structure ValidName (text : CString) : Prop where
  nonempty : text.bytes ≠ []
  short : text.bytes.length ≤ 31
  characters : ∀ character ∈ text.bytes, textCharacterIsValid character = true

structure ValidContent (boardZones : List Zone) (displayName : CString)
    (steps : List IrrigationProgramStepConfiguration) : Prop where
  name : ValidName displayName
  room : steps.length ≤ irrigationMaxProgramSteps
  steps : ∀ step ∈ steps, ValidStep boardZones step

structure ValidTime (weekdayMask hour minute : UInt8) : Prop where
  someDay : weekdayMask ≠ 0
  weekdays : weekdayMask < 128
  hour : hour < 24
  minute : minute < 60

namespace LiveConfiguration

variable (live : LiveConfiguration)

def HasProgram (programId : CString) : Prop := ∃ program ∈ live.programs, program.programId.toCString = programId

/-- The ids that the counters give next. -/
def nextProgram : IdText := numberedId programSpace.stem live.nextProgramId.toNat
def nextSchedule : IdText := numberedId scheduleSpace.stem live.nextScheduleId.toNat

/-- No live entry has an id that is given next. -/
structure NextUnused : Prop where
  program : live.nextProgram ∉ live.programs.map (·.programId)
  schedule : live.nextSchedule ∉ live.schedules.map (·.scheduleId)

end LiveConfiguration

/-- When the lists of a configuration admit an edit. -/
def Mutation.Allowed (boardZones : List Zone) (live : LiveConfiguration) : Mutation → Prop
  | .renameZone (some zoneId) (some displayName) =>
    (∃ zone ∈ live.zones, zone.zoneId.toCString = zoneId) ∧ ValidName displayName
  | .createProgram (some displayName) (some steps) => live.programs.length < irrigationMaxPrograms ∧
    ValidContent boardZones displayName steps ∧ live.nextProgram ∉ live.programs.map (·.programId)
  | .updateProgram programIndex (some displayName) (some steps) =>
    programIndex < live.programs.length ∧ ValidContent boardZones displayName steps
  | .deleteProgram programIndex => ∃ program, live.programs[programIndex]? = some program ∧
    ∀ schedule ∈ live.schedules, schedule.programId ≠ program.programId
  | .createSchedule weekdayMask hour minute (some programId) => live.schedules.length < irrigationMaxSchedules ∧
    ValidTime weekdayMask hour minute ∧ live.HasProgram programId ∧
    live.nextSchedule ∉ live.schedules.map (·.scheduleId)
  | .updateSchedule scheduleIndex weekdayMask hour minute (some programId) =>
    scheduleIndex < live.schedules.length ∧ ValidTime weekdayMask hour minute ∧ live.HasProgram programId
  | .deleteSchedule scheduleIndex | .setScheduleEnabled scheduleIndex _ => scheduleIndex < live.schedules.length
  | _ => False

/-- What an allowed edit makes of the lists. How enabled a created schedule is stays open. -/
def Mutation.Result (live next : LiveConfiguration) : Mutation → Prop
  | .renameZone (some zoneId) (some displayName) => ∃ index zone name, live.zones[index]? = some zone ∧
    zone.zoneId.toCString = zoneId ∧ name.toCString = displayName ∧
    next = { live with zones := live.zones.set index ⟨zone.zoneId,name⟩ }
  | .createProgram (some displayName) (some steps) => ∃ name, name.toCString = displayName ∧ next = { live with
    programs := live.programs ++ [⟨live.nextProgram,name,steps⟩]
    nextProgramId := live.nextProgramId + 1 }
  | .updateProgram programIndex (some displayName) (some steps) => ∃ program name,
    live.programs[programIndex]? = some program ∧ name.toCString = displayName ∧
    next = { live with programs := live.programs.set programIndex ⟨program.programId,name,steps⟩ }
  | .deleteProgram programIndex => next = { live with programs := live.programs.eraseIdx programIndex }
  | .createSchedule weekdayMask hour minute (some programId) => ∃ enabled id, id.toCString = programId ∧
    next = { live with
      schedules := live.schedules ++ [⟨live.nextSchedule,enabled,weekdayMask,hour,minute,id⟩]
      nextScheduleId := live.nextScheduleId + 1 }
  | .updateSchedule scheduleIndex weekdayMask hour minute (some programId) => ∃ schedule id,
    live.schedules[scheduleIndex]? = some schedule ∧ id.toCString = programId ∧ next = { live with
      schedules := live.schedules.set scheduleIndex ⟨schedule.scheduleId,schedule.enabled,weekdayMask,hour,minute,id⟩ }
  | .deleteSchedule scheduleIndex => next = { live with schedules := live.schedules.eraseIdx scheduleIndex }
  | .setScheduleEnabled scheduleIndex enabled => ∃ schedule, live.schedules[scheduleIndex]? = some schedule ∧
    next = { live with schedules := live.schedules.set scheduleIndex { schedule with enabled } }
  | _ => False

/-- The names and program ids of a call fit the manager's buffers. -/
def Mutation.ShortTexts : Mutation → Prop
  | .renameZone _ (some text) | .createProgram (some text) _ | .updateProgram _ (some text) _
  | .createSchedule _ _ _ (some text) | .updateSchedule _ _ _ _ (some text) => text.bytes.length ≤ 31
  | _ => True

/-! ### Texts -/

theorem validText_copyText_iff {text : CString} (short : text.bytes.length ≤ 31) :
    ValidText (copyText text : CharArray 32) ↔ ValidName text := by
  have bytes : (copyText text : CharArray 32).bytes = text.bytes := by rw [copyText_toCString _ (Nat.lt_succ_of_le short)]
  constructor
  · rintro ⟨nonempty,_,characters⟩
    rw [bytes] at nonempty characters
    exact ⟨nonempty,short,characters⟩
  · rintro ⟨nonempty,_,characters⟩
    refine ⟨?_,?_,?_⟩
    · rw [bytes]
      exact nonempty
    · rw [bytes]
      omega
    · rw [bytes]
      exact characters

theorem numberedId_valid {stem : String} (plain : PlainStem stem)
    (valid : stem.toList.all (fun letter => textCharacterIsValid letter.toNat.toUInt8) = true) (number : UInt32) :
    ValidText (numberedId stem number.toNat) := by
  have bytes := numberedId_bytes plain number.toNat_lt
  have digits : (Nat.toDigits 10 number.toNat).length ≤ 10 :=
    (Nat.length_toDigits_le_iff (by decide) (by decide)).mpr (Nat.lt_trans number.toNat_lt (by decide))
  refine ⟨?_,?_,fun character member => ?_⟩
  · rw [bytes]
    simp
  · have short := plain.short
    rw [bytes,List.length_map,List.length_append]
    change _ < 32
    omega
  · rw [bytes] at member
    obtain ⟨letter,inside,rfl⟩ := List.mem_map.mp member
    rcases List.mem_append.mp inside with stem | digit
    · exact List.all_eq_true.mp valid letter stem
    · have isDigit := Nat.isDigit_of_mem_toDigits (by decide) (by decide) digit
      have range : 48 ≤ letter.toNat ∧ letter.toNat ≤ 57 := by
        simpa [Char.isDigit,UInt32.le_iff_toNat_le] using isDigit
      have byte : letter.toNat.toUInt8.toNat = letter.toNat := by
        simp
        omega
      simp [textCharacterIsValid,UInt8.le_iff_toNat_le,byte,range]

theorem nextProgram_valid (live : LiveConfiguration) : ValidText live.nextProgram :=
  numberedId_valid ⟨by decide,by decide⟩ (by decide) live.nextProgramId

theorem nextSchedule_valid (live : LiveConfiguration) : ValidText live.nextSchedule :=
  numberedId_valid ⟨by decide,by decide⟩ (by decide) live.nextScheduleId

/-! ### One entry set -/

section Entries

variable {α : Type} {entries : List α} {index : Nat} {old new : α}

theorem modify_eq_set_of (given : entries[index]? = some old) (change : α → α) :
    entries.modify index change = entries.set index (change old) := by
  rw [List.modify_eq_set_getElem?,given]
  rfl

theorem forall_mem_set_iff {property : α → Prop} (all : ∀ entry ∈ entries, property entry)
    (given : entries[index]? = some old) : (∀ entry ∈ entries.set index new, property entry) ↔ property new := by
  have inside := (List.getElem?_eq_some_iff.mp given).1
  constructor
  · intro everywhere
    exact everywhere new (List.mem_set inside new)
  · intro holds entry member
    rcases List.mem_or_eq_of_mem_set member with kept | rfl
    · exact all entry kept
    · exact holds

theorem map_set_kept {β : Type} {key : α → β} (given : entries[index]? = some old) (same : key new = key old) :
    (entries.set index new).map key = entries.map key := by
  obtain ⟨inside,rfl⟩ := List.getElem?_eq_some_iff.mp given
  have room : index < (entries.map key).length := by rwa [List.length_map]
  have here : (entries.map key)[index] = key entries[index] := List.getElem_map ..
  rw [List.map_set,same,← here]
  exact List.set_getElem_self ..

theorem nodup_concat {keys : List IdText} (distinct : keys.Nodup) (key : IdText) : (keys ++ [key]).Nodup ↔ key ∉ keys := by
  rw [List.nodup_append]
  constructor
  · rintro ⟨_,_,apart⟩ member
    exact apart key member key (List.mem_singleton_self key) rfl
  · intro fresh
    refine ⟨distinct,List.nodup_singleton key,?_⟩
    rintro other member _ (_ | ⟨_,⟨⟩⟩) rfl
    exact fresh member

end Entries

/-! ### Validity of the changed lists -/

section Validity

variable {boardZones : List Zone} {live : LiveConfiguration}

theorem ValidSchedule.of_programs {programs others : List LiveProgram} {schedule : IrrigationScheduleConfiguration}
    (valid : ValidSchedule programs schedule) (kept : ∃ program ∈ others, program.programId = schedule.programId) :
    ValidSchedule others schedule :=
  ⟨valid.scheduleId,valid.programId,kept,valid.weekday,valid.weekdays,valid.hour,valid.minute⟩

namespace LiveConfiguration.Valid

theorem withZones_iff (valid : live.Valid boardZones) (zones : List IrrigationZoneConfiguration)
    (ids : zones.map (·.zoneId) = live.zones.map (·.zoneId)) :
    { live with zones }.Valid boardZones ↔ ∀ zone ∈ zones, ValidZone boardZones zone := by
  have count : zones.length = live.zones.length := by simpa using congrArg List.length ids
  constructor
  · exact fun changed => changed.zones
  · intro all
    refine ⟨valid.schemaVersion,valid.boardRoom,count.trans valid.zoneCount,valid.programCount,valid.scheduleCount,all,
      ?_,valid.programs,valid.programsDistinct,valid.schedules,valid.schedulesDistinct⟩
    exact ids ▸ valid.zonesDistinct

theorem withPrograms_iff (valid : live.Valid boardZones) (programs : List LiveProgram) (nextProgramId : UInt32)
    (kept : ∀ schedule ∈ live.schedules, ∃ program ∈ programs, program.programId = schedule.programId) :
    { live with programs, nextProgramId }.Valid boardZones ↔ programs.length ≤ irrigationMaxPrograms ∧
      (∀ program ∈ programs, ValidProgram boardZones program) ∧ (programs.map (·.programId)).Nodup := by
  constructor
  · exact fun changed => ⟨changed.programCount,changed.programs,changed.programsDistinct⟩
  · rintro ⟨room,all,distinct⟩
    exact ⟨valid.schemaVersion,valid.boardRoom,valid.zoneCount,room,valid.scheduleCount,valid.zones,valid.zonesDistinct,
      all,distinct,fun schedule member => (valid.schedules schedule member).of_programs (kept schedule member),
      valid.schedulesDistinct⟩

theorem withSchedules_iff (valid : live.Valid boardZones) (schedules : List IrrigationScheduleConfiguration)
    (nextScheduleId : UInt32) : { live with schedules, nextScheduleId }.Valid boardZones ↔
      schedules.length ≤ irrigationMaxSchedules ∧ (∀ schedule ∈ schedules, ValidSchedule live.programs schedule) ∧
      (schedules.map (·.scheduleId)).Nodup := by
  constructor
  · exact fun changed => ⟨changed.scheduleCount,changed.schedules,changed.schedulesDistinct⟩
  · rintro ⟨room,all,distinct⟩
    exact ⟨valid.schemaVersion,valid.boardRoom,valid.zoneCount,valid.programCount,room,valid.zones,valid.zonesDistinct,
      valid.programs,valid.programsDistinct,all,distinct⟩

theorem zoneNamed_iff (valid : live.Valid boardZones) {index : Nat} {zone : IrrigationZoneConfiguration}
    (given : live.zones[index]? = some zone) (name : NameText) :
    { live with zones := live.zones.set index ⟨zone.zoneId,name⟩ }.Valid boardZones ↔ ValidText name := by
  have known := valid.zones zone (List.mem_of_getElem? given)
  have ids : (live.zones.set index ⟨zone.zoneId,name⟩).map (·.zoneId) = live.zones.map (·.zoneId) :=
    map_set_kept given rfl
  rw [valid.withZones_iff _ ids,forall_mem_set_iff valid.zones given]
  exact ⟨fun changed => changed.displayName,fun named => ⟨known.zoneId,named,known.onBoard⟩⟩

theorem programSet_iff (valid : live.Valid boardZones) {index : Nat} {program : LiveProgram}
    (given : live.programs[index]? = some program) (name : NameText) (steps : List IrrigationProgramStepConfiguration) :
    { live with programs := live.programs.set index ⟨program.programId,name,steps⟩ }.Valid boardZones ↔
      ValidText name ∧ steps.length ≤ irrigationMaxProgramSteps ∧ ∀ step ∈ steps, ValidStep boardZones step := by
  have known := valid.programs program (List.mem_of_getElem? given)
  have ids : (live.programs.set index ⟨program.programId,name,steps⟩).map (·.programId) =
      live.programs.map (·.programId) := map_set_kept given rfl
  have kept (schedule : IrrigationScheduleConfiguration) (member : schedule ∈ live.schedules) :
      ∃ other ∈ live.programs.set index (⟨program.programId,name,steps⟩ : LiveProgram),
        other.programId = schedule.programId := by
    apply List.mem_map.mp
    rw [ids]
    exact List.mem_map.mpr (valid.schedules schedule member).program
  rw [valid.withPrograms_iff _ live.nextProgramId kept,forall_mem_set_iff valid.programs given,ids,List.length_set]
  constructor
  · rintro ⟨_,⟨_,named,room,all⟩,_⟩
    exact ⟨named,room,all⟩
  · rintro ⟨named,room,all⟩
    exact ⟨valid.programCount,⟨known.programId,named,room,all⟩,valid.programsDistinct⟩

theorem programAdded_iff (valid : live.Valid boardZones) (name : NameText)
    (steps : List IrrigationProgramStepConfiguration) :
    LiveConfiguration.Valid boardZones { live with
      programs := live.programs ++ [⟨live.nextProgram,name,steps⟩]
      nextProgramId := live.nextProgramId + 1 } ↔
      live.programs.length < irrigationMaxPrograms ∧ (ValidText name ∧ steps.length ≤ irrigationMaxProgramSteps ∧
        ∀ step ∈ steps, ValidStep boardZones step) ∧ live.nextProgram ∉ live.programs.map (·.programId) := by
  have kept (schedule : IrrigationScheduleConfiguration) (member : schedule ∈ live.schedules) :
      ∃ other ∈ live.programs ++ [(⟨live.nextProgram,name,steps⟩ : LiveProgram)], other.programId = schedule.programId := by
    obtain ⟨program,inside,named⟩ := (valid.schedules schedule member).program
    exact ⟨program,List.mem_append_left _ inside,named⟩
  rw [valid.withPrograms_iff _ _ kept,List.length_append,List.forall_mem_append,List.forall_mem_singleton,List.map_append]
  change _ ∧ _ ∧ (live.programs.map (·.programId) ++ [live.nextProgram]).Nodup ↔ _
  rw [nodup_concat valid.programsDistinct]
  constructor
  · rintro ⟨room,⟨_,_,named,short,all⟩,fresh⟩
    exact ⟨room,⟨named,short,all⟩,fresh⟩
  · rintro ⟨room,⟨named,short,all⟩,fresh⟩
    exact ⟨room,⟨valid.programs,nextProgram_valid live,named,short,all⟩,fresh⟩

/-- A program that no schedule names can go. -/
theorem programErased (valid : live.Valid boardZones) {index : Nat} {program : LiveProgram}
    (given : live.programs[index]? = some program)
    (unscheduled : ∀ schedule ∈ live.schedules, schedule.programId ≠ program.programId) :
    { live with programs := live.programs.eraseIdx index }.Valid boardZones := by
  refine (valid.withPrograms_iff _ live.nextProgramId fun schedule member => ?_).mpr ⟨?_,?_,?_⟩
  · obtain ⟨other,inside,named⟩ := (valid.schedules schedule member).program
    obtain ⟨position,atPosition⟩ := List.mem_iff_getElem?.mp inside
    refine ⟨other,List.mem_eraseIdx_iff_getElem?.mpr ⟨position,?_,atPosition⟩,named⟩
    rintro rfl
    rw [given,Option.some_inj] at atPosition
    exact unscheduled schedule member (by rw [← named,atPosition])
  · exact (List.length_eraseIdx_le ..).trans valid.programCount
  · exact fun other member => valid.programs other (List.mem_of_mem_eraseIdx member)
  · exact valid.programsDistinct.sublist (List.Sublist.map _ (List.eraseIdx_sublist ..))

theorem scheduleErased (valid : live.Valid boardZones) (index : Nat) :
    { live with schedules := live.schedules.eraseIdx index }.Valid boardZones := by
  refine (valid.withSchedules_iff _ live.nextScheduleId).mpr ⟨?_,?_,?_⟩
  · exact (List.length_eraseIdx_le ..).trans valid.scheduleCount
  · exact fun other member => valid.schedules other (List.mem_of_mem_eraseIdx member)
  · exact valid.schedulesDistinct.sublist (List.Sublist.map _ (List.eraseIdx_sublist ..))

theorem scheduleSet_iff (valid : live.Valid boardZones) {index : Nat} {schedule : IrrigationScheduleConfiguration}
    (given : live.schedules[index]? = some schedule) (new : IrrigationScheduleConfiguration)
    (same : new.scheduleId = schedule.scheduleId) :
    { live with schedules := live.schedules.set index new }.Valid boardZones ↔ ValidSchedule live.programs new := by
  have ids : (live.schedules.set index new).map (·.scheduleId) = live.schedules.map (·.scheduleId) :=
    map_set_kept given same
  rw [valid.withSchedules_iff _ live.nextScheduleId,forall_mem_set_iff valid.schedules given,ids,
    List.length_set]
  exact ⟨fun changed => changed.2.1,fun set => ⟨valid.scheduleCount,set,valid.schedulesDistinct⟩⟩

theorem scheduleAdded_iff (valid : live.Valid boardZones) {new : IrrigationScheduleConfiguration}
    (numbered : new.scheduleId = live.nextSchedule) :
    LiveConfiguration.Valid boardZones { live with
      schedules := live.schedules ++ [new]
      nextScheduleId := live.nextScheduleId + 1 } ↔
      live.schedules.length < irrigationMaxSchedules ∧ ValidSchedule live.programs new ∧
        live.nextSchedule ∉ live.schedules.map (·.scheduleId) := by
  rw [valid.withSchedules_iff,List.length_append,List.forall_mem_append,List.forall_mem_singleton,List.map_append]
  change _ ∧ _ ∧ (live.schedules.map (·.scheduleId) ++ [new.scheduleId]).Nodup ↔ _
  rw [numbered,nodup_concat valid.schedulesDistinct]
  exact ⟨fun changed => ⟨changed.1,changed.2.1.2,changed.2.2⟩,
    fun added => ⟨added.1,⟨valid.schedules,added.2.1⟩,added.2.2⟩⟩

/-- A schedule saved over an id is valid when its time is and its program exists. -/
theorem scheduleSaved_iff (valid : live.Valid boardZones) {scheduleId : IdText} (named : ValidText scheduleId)
    (enabled : Bool) (weekdayMask hour minute : UInt8) {programId : CString} (short : programId.bytes.length ≤ 31) :
    ValidSchedule live.programs ⟨scheduleId,enabled,weekdayMask,hour,minute,copyText programId⟩ ↔
      ValidTime weekdayMask hour minute ∧ live.HasProgram programId := by
  constructor
  · rintro ⟨_,_,⟨program,member,same⟩,someDay,weekdays,hour,minute⟩
    exact ⟨⟨someDay,(weekdaysOnly_iff _).mp weekdays,hour,minute⟩,program,member,by rw [same,copyText_toCString _ (Nat.lt_succ_of_le short)]⟩
  · rintro ⟨⟨someDay,weekdays,hour,minute⟩,program,member,rfl⟩
    have known := (valid.programs program member).programId
    have same : copyText program.programId.toCString = program.programId :=
      copyText_of_lt program.programId known.terminated
    refine ⟨named,?_,⟨program,member,same.symm⟩,someDay,(weekdaysOnly_iff _).mpr weekdays,hour,minute⟩
    change ValidText (copyText program.programId.toCString : IdText)
    rw [same]
    exact known

end LiveConfiguration.Valid

end Validity

end Irrigation
