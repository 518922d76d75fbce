import Irrigation.ConfigurationManager

/-! When the runtime views mirror a configuration. A rebuild over views of another
configuration claims its slots before the other's are given up, so it needs room for the
ids of both. -/
namespace Irrigation

open KeyedSlots

/-! ### What the views should show -/

/-- A live program as the program service sees it. -/
def LiveProgram.runtime (program : LiveProgram) : Program where
  id := some program.displayName.toCString
  steps := program.steps.map fun step => ⟨some step.zoneId.toCString,step.durationMs⟩
  postProgramDelayMs := 0

structure ScheduleMirrored (views : RuntimeViews) (configured : IrrigationScheduleConfiguration)
    (entry : SchedulerEntry) : Prop where
  id : entry.idText views.memory = some configured.scheduleId.toCString
  enabled : entry.enabled = configured.enabled
  weekdayMask : entry.weekdayMask = configured.weekdayMask
  hour : entry.hour = configured.hour
  minute : entry.minute = configured.minute
  program : ∃ slot, programSlotForId views configured.programId = some slot ∧ entry.program = some slot.val

/-- The views of a manager show a live configuration. -/
structure Mirrors (manager : ConfigurationManager) (live : LiveConfiguration) : Prop where
  programs : ∀ index program, live.programs[index]? = some program → ∃ address,
    configurationManagerProgramAt manager index = some address ∧
      manager.views.memory.program address = program.runtime
  schedules : ∀ index configured, live.schedules[index]? = some configured →
    ScheduleMirrored manager.views configured (manager.views.schedules index)

def programIds (live : LiveConfiguration) : Finset IdText := (live.programs.map (·.programId)).toFinset

def scheduleIds (live : LiveConfiguration) : Finset IdText := (live.schedules.map (·.scheduleId)).toFinset

/-- Two configurations have no more ids between them than there are slots. -/
structure Fits (old new : LiveConfiguration) : Prop where
  programs : (programIds old ∪ programIds new).card ≤ irrigationMaxPrograms
  schedules : (scheduleIds old ∪ scheduleIds new).card ≤ irrigationMaxSchedules

instance (old new : LiveConfiguration) : Decidable (Fits old new) :=
  decidable_of_iff ((programIds old ∪ programIds new).card ≤ irrigationMaxPrograms ∧
      (scheduleIds old ∪ scheduleIds new).card ≤ irrigationMaxSchedules)
    ⟨fun both => ⟨both.1,both.2⟩,fun fits => ⟨fits.1,fits.2⟩⟩

/-! ### Valid configurations -/

section Entries

variable {boardZones : List Zone} {configuration : IrrigationConfiguration}
  (valid : configuration.live.Valid boardZones)

include valid

theorem validProgram {configured : IrrigationProgramConfiguration} (member : configured ∈ configuration.livePrograms) :
    ValidProgram boardZones configured.live :=
  valid.programs _ (List.mem_map_of_mem member)

theorem programEntry_valid {configured : IrrigationProgramConfiguration}
    (member : configured ∈ configuration.livePrograms) :
    programEntry configured = ⟨configured.programId,configured.live.runtime⟩ := by
  have program := validProgram valid member
  have steps : ∀ step ∈ configured.liveSteps, (copyText step.zoneId.toCString : IdText) = step.zoneId :=
    fun step inside => copyText_of_lt _ (program.steps step inside).zoneId.terminated
  have id : copyText configured.programId.toCString = configured.programId :=
    copyText_of_lt _ program.programId.terminated
  have name : copyText configured.displayName.toCString = configured.displayName :=
    copyText_of_lt _ program.displayName.terminated
  rw [programEntry,runtimeProgram,id,name]
  simp only [LiveProgram.runtime,IrrigationProgramConfiguration.live]
  congr 2
  apply List.map_congr_left
  intro step inside
  rw [steps step inside]

theorem scheduleEntry_valid {configured : IrrigationScheduleConfiguration}
    (member : configured ∈ configuration.liveSchedules) : scheduleEntry configured = ⟨configured.scheduleId,()⟩ := by
  have id : copyText configured.scheduleId.toCString = configured.scheduleId :=
    copyText_of_lt _ (valid.schedules _ member).scheduleId.terminated
  rw [scheduleEntry,id]

theorem programEntries_keys :
    (configuration.livePrograms.map programEntry).map (·.key) = configuration.live.programs.map (·.programId) := by
  rw [List.map_map,IrrigationConfiguration.live,List.map_map]
  apply List.map_congr_left
  intro configured member
  rw [Function.comp_apply,programEntry_valid valid member]
  rfl

theorem scheduleEntries_keys :
    (configuration.liveSchedules.map scheduleEntry).map (·.key) = configuration.live.schedules.map (·.scheduleId) := by
  rw [List.map_map]
  apply List.map_congr_left
  intro configured member
  rw [Function.comp_apply,scheduleEntry_valid valid member]

theorem programEntries_nodup : ((configuration.livePrograms.map programEntry).map (·.key)).Nodup := by
  rw [programEntries_keys valid]
  exact valid.programsDistinct

theorem scheduleEntries_nodup : ((configuration.liveSchedules.map scheduleEntry).map (·.key)).Nodup := by
  rw [scheduleEntries_keys valid]
  exact valid.schedulesDistinct

theorem entryKeys_programs : Slots.entryKeys (configuration.livePrograms.map programEntry) =
    programIds configuration.live := by
  rw [Slots.entryKeys,programEntries_keys valid,programIds]

theorem entryKeys_schedules : Slots.entryKeys (configuration.liveSchedules.map scheduleEntry) =
    scheduleIds configuration.live := by
  rw [Slots.entryKeys,scheduleEntries_keys valid,scheduleIds]

theorem scheduled_configured {configured : IrrigationScheduleConfiguration}
    (member : configured ∈ configuration.liveSchedules) :
    ∃ index program, programIndexForId configuration configured.programId = some index ∧
      configuration.livePrograms[index]? = some program ∧ program.programId = configured.programId := by
  obtain ⟨live,inside,named⟩ := (valid.schedules _ member).program
  obtain ⟨program,known,rfl⟩ := List.mem_map.mp inside
  cases found : programIndexForId configuration configured.programId with
  | none =>
    have absent := List.findIdx?_eq_none_iff.mp found program known
    simp only [decide_eq_false_iff_not] at absent
    exact absurd named absent
  | some index =>
    obtain ⟨bound,hit,_⟩ := List.findIdx?_eq_some_iff_getElem.mp found
    exact ⟨index,_,rfl,List.getElem?_eq_getElem bound,by simpa using hit⟩

end Entries

/-! ### Views that track a configuration -/

/-- The slots hold exactly the configuration, and its schedules are written in order. -/
structure Tracks (views : RuntimeViews) (configuration : IrrigationConfiguration) : Prop where
  programs : views.programs.Holds (configuration.livePrograms.map programEntry)
  scheduleIds : views.scheduleIds.Holds (configuration.liveSchedules.map scheduleEntry)
  schedules : ∀ index configured, configuration.liveSchedules[index]? = some configured → ∃ slot program,
    views.scheduleIds.slotForKey configured.scheduleId = some slot ∧
      programSlotForId views configured.programId = some program ∧
      views.schedules index = runtimeSchedule slot program configured

theorem RuntimeViews.memory_program (views : RuntimeViews) (slot : Fin irrigationMaxPrograms) :
    views.memory.program slot = views.programs.value slot := dif_pos slot.isLt

theorem RuntimeViews.memory_text (views : RuntimeViews) (slot : Fin irrigationMaxSchedules) :
    views.memory.text slot = (views.scheduleIds.key slot).toCString := dif_pos slot.isLt

section Tracking

variable {boardZones : List Zone} {views : RuntimeViews} {configuration : IrrigationConfiguration}

theorem programSlot_held (valid : configuration.live.Valid boardZones)
    (holds : views.programs.Holds (configuration.livePrograms.map programEntry))
    {configured : IrrigationProgramConfiguration} (member : configured ∈ configuration.livePrograms) :
    ∃ slot, programSlotForId views configured.programId = some slot ∧
      views.programs.value slot = configured.live.runtime := by
  have entry := holds.stored _ (List.mem_map_of_mem member)
  rw [programEntry_valid valid member] at entry
  exact entry

theorem scheduledProgram_held (valid : configuration.live.Valid boardZones)
    (holds : views.programs.Holds (configuration.livePrograms.map programEntry))
    {configured : IrrigationScheduleConfiguration} (member : configured ∈ configuration.liveSchedules) :
    ∃ slot, programSlotForId views configured.programId = some slot ∧
      scheduledProgram views configuration configured = some slot := by
  obtain ⟨index,program,found,given,named⟩ := scheduled_configured valid member
  obtain ⟨slot,held,_⟩ := programSlot_held valid holds (List.mem_of_getElem? given)
  refine ⟨slot,named ▸ held,?_⟩
  simp only [scheduledProgram,found,given,Option.bind_eq_bind,Option.bind_some]
  exact held

theorem storeSchedules_held (valid : configuration.live.Valid boardZones)
    (holds : views.programs.Holds (configuration.livePrograms.map programEntry)) :
    storeSchedules views configuration =
      Slots.storeAll (configuration.liveSchedules.map scheduleEntry) views.scheduleIds := by
  rw [storeSchedules,Slots.storeAll,List.map_map]
  congr 1
  apply List.map_congr_left
  intro configured member
  obtain ⟨slot,_,scheduled⟩ := scheduledProgram_held valid holds member
  rw [scheduled]
  rfl

theorem writtenSchedule_held (valid : configuration.live.Valid boardZones)
    (holds : views.programs.Holds (configuration.livePrograms.map programEntry)) {index : Nat}
    {configured : IrrigationScheduleConfiguration} {slot : Fin irrigationMaxSchedules}
    (given : configuration.liveSchedules[index]? = some configured)
    (chosen : (storeSchedules views configuration).chosen[index]? = some slot) :
    ∃ program, programSlotForId views configured.programId = some program ∧
      writtenSchedule views configuration index = some (runtimeSchedule slot program configured) := by
  obtain ⟨program,held,scheduled⟩ := scheduledProgram_held valid holds (List.mem_of_getElem? given)
  refine ⟨program,held,?_⟩
  simp only [writtenSchedule,chosen,given,scheduled,Option.bind_eq_bind,Option.bind_some]
  rfl

/-- Rebuilding the schedules over held programs, with room for their ids. -/
theorem rebuildSchedules_tracks (valid : configuration.live.Valid boardZones)
    (holds : views.programs.Holds (configuration.livePrograms.map programEntry))
    (distinct : views.scheduleIds.Distinct)
    (complete : (Slots.storeAll (configuration.liveSchedules.map scheduleEntry) views.scheduleIds).complete = true) :
    Tracks (rebuildSchedules views configuration) configuration where
  programs := holds
  scheduleIds := by
    have settled := Slots.settle_holds distinct (scheduleEntries_nodup valid) complete
    rw [← storeSchedules_held valid holds] at settled
    exact settled
  schedules := by
    intro index configured given
    have atIndex : (configuration.liveSchedules.map scheduleEntry)[index]? = some (scheduleEntry configured) := by
      rw [List.getElem?_map,given]
      rfl
    obtain ⟨slot,chosen,found⟩ := Slots.settle_slotForKey distinct complete atIndex
    rw [← storeSchedules_held valid holds] at chosen found
    rw [scheduleEntry_valid valid (List.mem_of_getElem? given)] at found
    obtain ⟨program,held,written⟩ := writtenSchedule_held valid holds given chosen
    refine ⟨slot,program,found,held,?_⟩
    change (writtenSchedule views configuration index).getD _ = _
    rw [written]
    rfl

/-- A schedule id that no slot holds is not shown at any position. -/
theorem not_mirrored_of_absent {later : RuntimeViews} {configured : IrrigationScheduleConfiguration}
    (nonempty : configured.scheduleId.bytes ≠ []) (full : ∀ slot, later.scheduleIds.used slot = true)
    (absent : configured.scheduleId ∉ later.scheduleIds.keys) (entry : SchedulerEntry) :
    ¬ScheduleMirrored later configured entry := by
  intro mirrored
  have text := mirrored.id
  unfold SchedulerEntry.idText at text
  obtain ⟨address,_,shown⟩ := Option.map_eq_some_iff.mp text
  by_cases inside : address < irrigationMaxSchedules
  · rw [later.memory_text ⟨address,inside⟩,CharArray.toCString_inj] at shown
    exact absent (Slots.mem_keys.mpr ⟨_,full _,shown⟩)
  · have outside : later.memory.text address = .literal "" := dif_neg inside
    rw [outside] at shown
    exact nonempty (congrArg CString.bytes shown).symm

/-- Rebuilding the schedules without room for their ids leaves one of them out. -/
theorem rebuildSchedules_full (valid : configuration.live.Valid boardZones)
    (holds : views.programs.Holds (configuration.livePrograms.map programEntry))
    (stopped : (Slots.storeAll (configuration.liveSchedules.map scheduleEntry) views.scheduleIds).complete = false) :
    ∃ (index : Nat) (configured : _), configuration.liveSchedules[index]? = some configured ∧ ∀ entry,
      ¬ScheduleMirrored (rebuildSchedules views configuration) configured entry := by
  have passing := Slots.storeAll_passing (configuration.liveSchedules.map scheduleEntry) views.scheduleIds
  obtain ⟨full,missing,atEnd,absent⟩ := passing.incomplete stopped
  have settled := Slots.settle_incomplete stopped
  rw [← storeSchedules_held valid holds] at full atEnd absent settled
  rw [List.getElem?_map] at atEnd
  obtain ⟨configured,given,rfl⟩ := Option.map_eq_some_iff.mp atEnd
  have member := List.mem_of_getElem? given
  rw [scheduleEntry_valid valid member] at absent
  have ids : (rebuildSchedules views configuration).scheduleIds = (storeSchedules views configuration).slots := settled
  refine ⟨_,configured,given,not_mirrored_of_absent (valid.schedules _ member).scheduleId.nonempty ?_ ?_⟩
  · rw [ids]; exact full
  · rw [ids]; exact absent

end Tracking

/-! ### One rebuild -/

/-- How a rebuild goes: a program finds no slot, or all of them do and the schedules follow. -/
inductive Rebuilding (views : RuntimeViews) (configuration : IrrigationConfiguration) : RuntimeViews → Prop
  | programsFull (stopped : (storePrograms views configuration).complete = false)
      (noRoom : ¬(views.programs.keys ∪ programIds configuration.live).card ≤ irrigationMaxPrograms) :
      Rebuilding views configuration { views with programs := Slots.settle (storePrograms views configuration) }
  | reached {base : RuntimeViews} (refilled : Slots.Refilled views.programs base.programs)
      (holds : base.programs.Holds (configuration.livePrograms.map programEntry))
      (room : (views.programs.keys ∪ programIds configuration.live).card ≤ irrigationMaxPrograms)
      (ids : base.scheduleIds = views.scheduleIds) (kept : base.schedules = views.schedules) :
      Rebuilding views configuration (rebuildSchedules base configuration)

section Rebuilding

variable {boardZones : List Zone} {views later : RuntimeViews} {configuration old : IrrigationConfiguration}

/-- The programs may only be passed over when the slots hold them already. -/
theorem rebuild_cases (valid : configuration.live.Valid boardZones) (distinct : views.programs.Distinct)
    {rebuildPrograms : Bool}
    (same : rebuildPrograms = false → views.programs.Holds (configuration.livePrograms.map programEntry)) :
    Rebuilding views configuration (rebuildRuntimeViews views configuration rebuildPrograms) := by
  cases rebuildPrograms with
  | false =>
    refine .reached .same (same rfl) ?_ rfl rfl
    rw [(same rfl).keys,entryKeys_programs valid,Finset.union_self,← entryKeys_programs valid,← (same rfl).keys]
    exact Slots.card_keys_le _
  | true =>
    have room := (Slots.storeAll_passing (configuration.livePrograms.map programEntry) views.programs).complete_iff distinct
    rw [entryKeys_programs valid] at room
    cases complete : (storePrograms views configuration).complete with
    | false =>
      simp only [rebuildRuntimeViews,complete,Bool.false_eq_true,if_false,if_true]
      refine .programsFull complete fun fits => ?_
      have done := room.mpr fits
      rw [storePrograms] at complete
      rw [complete] at done
      contradiction
    | true =>
      simp only [rebuildRuntimeViews,complete,if_true]
      exact .reached (.settled _) (Slots.settle_holds distinct (programEntries_nodup valid) complete)
        (room.mp complete) rfl rfl

/-- A rebuild with room for the ids in use and its own leaves views that track it. -/
theorem Rebuilding.tracks (rebuilding : Rebuilding views configuration later)
    (valid : configuration.live.Valid boardZones) (distinct : views.scheduleIds.Distinct)
    (programs : (views.programs.keys ∪ programIds configuration.live).card ≤ irrigationMaxPrograms)
    (schedules : (views.scheduleIds.keys ∪ scheduleIds configuration.live).card ≤ irrigationMaxSchedules) :
    Tracks later configuration := by
  cases rebuilding with
  | programsFull _ noRoom => exact absurd programs noRoom
  | @reached base _ holds _ ids _ =>
    rw [← ids] at distinct schedules
    apply rebuildSchedules_tracks valid holds distinct
    rw [(Slots.storeAll_passing _ _).complete_iff distinct,entryKeys_schedules valid]
    exact schedules

/-- A rebuild without that room leaves views that do not show what it was for. -/
theorem Rebuilding.not_mirrors {manager : ConfigurationManager}
    (rebuilding : Rebuilding views manager.configuration manager.views)
    (valid : manager.configuration.live.Valid boardZones) (distinct : views.scheduleIds.Distinct)
    (noRoom : ¬((views.programs.keys ∪ programIds manager.configuration.live).card ≤ irrigationMaxPrograms ∧
      (views.scheduleIds.keys ∪ scheduleIds manager.configuration.live).card ≤ irrigationMaxSchedules)) :
    ¬Mirrors manager manager.configuration.live := by
  obtain ⟨later,laterEq⟩ : ∃ later, later = manager.views := ⟨_,rfl⟩
  rw [← laterEq] at rebuilding
  intro mirrors
  cases rebuilding with
  | programsFull stopped _ =>
    obtain ⟨_,missing,atEnd,absent⟩ := (Slots.storeAll_passing _ _).incomplete stopped
    rw [List.getElem?_map] at atEnd
    obtain ⟨configured,given,rfl⟩ := Option.map_eq_some_iff.mp atEnd
    rw [programEntry_valid valid (List.mem_of_getElem? given)] at absent
    have live : manager.configuration.live.programs[(storePrograms views manager.configuration).chosen.length]? =
        some configured.live := by
      rw [IrrigationConfiguration.live,List.getElem?_map]
      exact congrArg (Option.map (·.live)) given
    obtain ⟨address,shown,_⟩ := mirrors.programs _ _ live
    have none : programSlotForId manager.views configured.programId = none := by
      rw [programSlotForId,← laterEq,Slots.slotForKey_eq_none_iff]
      change _ ∉ (Slots.settle (storePrograms views manager.configuration)).keys
      rw [storePrograms,Slots.settle_incomplete stopped]
      exact absent
    have configuredAt : manager.configuration.livePrograms[(storePrograms views manager.configuration).chosen.length]? =
        some configured := given
    simp only [configurationManagerProgramAt,configuredAt,none,Option.bind_eq_bind,Option.bind_some,Option.bind_none] at shown
    contradiction
  | @reached base _ holds room ids _ =>
    have full : ¬(base.scheduleIds.keys ∪ scheduleIds manager.configuration.live).card ≤ irrigationMaxSchedules := by
      rw [ids]
      exact fun fits => noRoom ⟨room,fits⟩
    rw [← ids] at distinct
    have stopped : (Slots.storeAll (manager.configuration.liveSchedules.map scheduleEntry)
        base.scheduleIds).complete = false := by
      rw [← Bool.not_eq_true,(Slots.storeAll_passing _ _).complete_iff distinct,entryKeys_schedules valid]
      exact full
    obtain ⟨index,configured,given,hidden⟩ := rebuildSchedules_full valid holds stopped
    rw [laterEq] at hidden
    exact hidden _ (mirrors.schedules index configured given)

end Rebuilding

end Irrigation
