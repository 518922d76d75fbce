import Irrigation.SlotTables
import Irrigation.HandledOccurrences

/-! Which live schedules stand through a failed replacement: their program is on its slot again
after both rebuilds, and the candidate's list holds what the scheduler knows of them. -/
namespace Irrigation

open KeyedSlots

variable {ε σ : Type}

/-- The program is also the candidate's, or the candidate's programs found no room, or the free
slot that it gets on the way back is the one it had. -/
def ProgramBack (manager : ConfigurationManager) (candidate : IrrigationConfiguration) (programId : IdText) : Prop :=
  programId ∈ programIds candidate.live ∨ ¬manager.views.idSlots.programs.Room (storedProgramIds candidate) ∨
    (candidateSlots manager candidate).programs.place (storedProgramIds manager.configuration) programId =
      manager.views.idSlots.programs.slotForKey programId

/-- The candidate's list holds the schedule, or its entry behind those that found a slot. -/
def ListedFor (manager : ConfigurationManager) (candidate : IrrigationConfiguration) (index : Nat)
    (schedule : IrrigationScheduleConfiguration) : Prop :=
  schedule ∈ candidateListed manager candidate ∨
    ∃ position < candidate.scheduleCount.toNat, (candidateListed manager candidate).length ≤ position ∧
      manager.views.schedules position = manager.views.schedules index

/-- A refused list changes nothing of what is handled. -/
def Stands (manager : ConfigurationManager) (candidate : IrrigationConfiguration) (index : Nat)
    (schedule : IrrigationScheduleConfiguration) : Prop :=
  ProgramBack manager candidate schedule.programId ∧
    (CandidateTaken manager candidate → ListedFor manager candidate index schedule)

instance (manager : ConfigurationManager) (candidate : IrrigationConfiguration) (index : Nat)
    (schedule : IrrigationScheduleConfiguration) : Decidable (Stands manager candidate index schedule) :=
  inferInstanceAs (Decidable ((_ ∨ _ ∨ _) ∧ (_ → _ ∨ _)))

section Held

variable {manager : ConfigurationManager} {candidate : IrrigationConfiguration}

theorem storedProgramIds_valid {boardZones : List Zone} {configuration : IrrigationConfiguration}
    (valid : configuration.live.Valid boardZones) :
    storedProgramIds configuration = configuration.live.programs.map (·.programId) := by
  rw [← programEntries_keys valid,List.map_map]
  rfl

theorem mem_programIds {live : LiveConfiguration} {programId : IdText} :
    programId ∈ programIds live ↔ programId ∈ live.programs.map (·.programId) := List.mem_toFinset

/-- Programs that fit are held before the loop over the schedules. -/
theorem Faithful.programsHeld (faithful : Faithful manager)
    (valid : irrigationConfigurationValidate candidate manager.boardZones = .ok)
    (fits : manager.views.idSlots.ProgramsFit candidate (programsChanged manager candidate)) :
    (rebuildPrograms manager.views candidate (programsChanged manager candidate)).programs.Holds
      (candidate.livePrograms.map programEntry) := by
  have live := ((validate_ok_iff _ _).mp valid).2
  cases changed : programsChanged manager candidate with
  | false =>
    rw [programsChanged,Bool.not_eq_false'] at changed
    rw [← programsAreEqual_entries changed]
    exact faithful.tracks.programs
  | true =>
    have room := fits changed
    rw [storedProgramIds_valid live,← programEntries_keys live] at room
    exact Slots.settle_holds faithful.tracks.programs.distinct (programEntries_nodup live)
      ((Slots.storeAll_filling _ _).complete.mpr room)

/-- A list that is cut short though the programs fit has every slot in use. -/
theorem Faithful.full_of_short (faithful : Faithful manager)
    (valid : irrigationConfigurationValidate candidate manager.boardZones = .ok)
    (fits : manager.views.idSlots.ProgramsFit candidate (programsChanged manager candidate))
    (short : (candidateListed manager candidate).length < candidate.liveSchedules.length)
    (slot : Fin irrigationMaxSchedules) : (candidateViews manager candidate).scheduleIds.used slot = true := by
  have live := ((validate_ok_iff _ _).mp valid).2
  have holds := faithful.programsHeld valid fits
  have rebuilt := candidateViews_rebuiltBy manager candidate
  generalize candidateViews manager candidate = later at rebuilt
  cases rebuilt with
  | programs unfit => exact absurd fits unfit
  | schedules _ listed =>
    rw [candidateListed,listed,← storeSchedules_chosen] at short
    have held := storeSchedules_held live holds
    rw [held] at short
    have passing := Slots.storeAll_passing (candidate.liveSchedules.map scheduleEntry)
      (rebuildPrograms manager.views candidate (programsChanged manager candidate)).scheduleIds
    have stopped : (Slots.storeAll (candidate.liveSchedules.map scheduleEntry)
        (rebuildPrograms manager.views candidate (programsChanged manager candidate)).scheduleIds).complete = false := by
      rw [← Bool.not_eq_true]
      intro complete
      have lengths := passing.chosen_length.2 complete
      rw [List.length_map] at lengths
      omega
    change (Slots.settle (storeSchedules _ candidate)).used slot = true
    rw [held,Slots.settle_incomplete stopped]
    exact (passing.incomplete stopped).1 slot

theorem candidateViews_programs (manager : ConfigurationManager) (candidate : IrrigationConfiguration) :
    (candidateViews manager candidate).programs =
      (rebuildPrograms manager.views candidate (programsChanged manager candidate)).programs := by
  have rebuilt := candidateViews_rebuiltBy manager candidate
  generalize candidateViews manager candidate = later at rebuilt
  cases rebuilt <;> rfl

theorem restoredViews_programs (manager : ConfigurationManager) (candidate : IrrigationConfiguration) :
    (restoredViews manager candidate).programs = (rebuildPrograms (candidateViews manager candidate)
      manager.configuration (programsChanged manager candidate)).programs := by
  have rebuilt := restoredViews_rebuiltBy manager candidate
  generalize restoredViews manager candidate = later at rebuilt
  cases rebuilt <;> rfl

theorem Faithful.program_live (faithful : Faithful manager) {index : Nat} {schedule : IrrigationScheduleConfiguration}
    (given : manager.configuration.liveSchedules[index]? = some schedule) :
    schedule.programId ∈ programIds manager.configuration.live := by
  obtain ⟨program,known,named⟩ := (faithful.live.schedules _ (List.mem_of_getElem? given)).program
  exact mem_programIds.mpr (List.mem_map.mpr ⟨program,known,named⟩)

/-- A program that the candidate has too, or whose slot is not given up, stays in it. -/
theorem Faithful.program_stays (faithful : Faithful manager)
    (valid : irrigationConfigurationValidate candidate manager.boardZones = .ok) {programId : IdText}
    (live : programId ∈ programIds manager.configuration.live) (stays : programId ∈ programIds candidate.live ∨
      ¬manager.views.idSlots.programs.Room (storedProgramIds candidate)) :
    programSlotForId (candidateViews manager candidate) programId = programSlotForId manager.views programId := by
  have refilled := ((faithful.rebuilding valid).refilled ((validate_ok_iff _ _).mp valid).2).1
  rw [← faithful.programKeys,Slots.mem_keys] at live
  obtain ⟨slot,held⟩ := live
  have found := (Slots.slotForKey_eq_some_iff faithful.tracks.programs.distinct).mpr held
  have kept : programId ∈ (candidateViews manager candidate).programs.keys := by
    rw [candidateViews_programs]
    by_cases fits : manager.views.idSlots.ProgramsFit candidate (programsChanged manager candidate)
    · rcases stays with other | crowded
      · rwa [(faithful.programsHeld valid fits).keys,entryKeys_programs ((validate_ok_iff _ _).mp valid).2]
      · have same : programsChanged manager candidate = false := by
          rw [← Bool.not_eq_true]
          exact fun changed => crowded (fits changed)
        rw [same]
        exact Slots.mem_keys.mpr ⟨slot,held⟩
    · obtain ⟨changed,crowded⟩ := not_forall.mp fits
      have filling := Slots.storeAll_filling (candidate.livePrograms.map programEntry) manager.views.programs
      have stopped : (Slots.storeAll (candidate.livePrograms.map programEntry) manager.views.programs).complete = false := by
        rw [← Bool.not_eq_true,filling.complete,List.map_map]
        exact crowded
      rw [changed]
      change programId ∈ (Slots.settle (storePrograms manager.views candidate)).keys
      rw [storePrograms,Slots.settle_incomplete stopped]
      exact (Slots.storeAll_passing _ _).keeps.keys (Slots.mem_keys.mpr ⟨slot,held⟩)
  rw [programSlotForId,programSlotForId,found]
  exact refilled.stable faithful.tracks.programs.distinct found kept

/-- Programs that compare equal stay where they are. -/
theorem programs_unchanged (same : programsChanged manager candidate = false) :
    (restoredViews manager candidate).programs = manager.views.programs := by
  rw [restoredViews_programs,same]
  change (candidateViews manager candidate).programs = _
  rw [candidateViews_programs,same]
  rfl

theorem Faithful.programBack_iff (faithful : Faithful manager)
    (valid : irrigationConfigurationValidate candidate manager.boardZones = .ok) {programId : IdText}
    (live : programId ∈ programIds manager.configuration.live) :
    programSlotForId (restoredViews manager candidate) programId = programSlotForId manager.views programId ↔
      ProgramBack manager candidate programId := by
  cases changed : programsChanged manager candidate with
  | false =>
    have programs := programs_unchanged changed
    rw [programsChanged,Bool.not_eq_false'] at changed
    refine iff_of_true (by rw [programSlotForId,programs]; rfl) (.inl ?_)
    rwa [programIds,← programsAreEqual_live changed]
  | true =>
    have refilled := ((faithful.rebuilding valid).refilled ((validate_ok_iff _ _).mp valid).2).1
    have room := (Slots.storeAll_filling _ _).complete.mp (refilled.back faithful.tracks.programs)
    have keys : (manager.configuration.livePrograms.map programEntry).map (·.key) = storedProgramIds manager.configuration := by
      rw [storedProgramIds_valid faithful.live,programEntries_keys faithful.live]
    have slots : (candidateSlots manager candidate).programs = (candidateViews manager candidate).programs.bare :=
      congrArg IdSlots.programs (candidateViews_idSlots manager candidate).symm
    have back : programSlotForId (restoredViews manager candidate) programId =
        (candidateSlots manager candidate).programs.place (storedProgramIds manager.configuration) programId := by
      rw [programSlotForId,restoredViews_programs,changed,slots,← keys]
      refine Slots.settle_place (refilled.distinct faithful.tracks.programs.distinct) room ?_
      rwa [programEntries_keys faithful.live,← mem_programIds]
    rw [back]
    constructor
    · exact fun same => .inr (.inr same)
    · rw [ProgramBack,← or_assoc]
      rintro (stays | same)
      · have kept := faithful.program_stays valid live stays
        obtain ⟨slot,held⟩ := Slots.mem_keys.mp (faithful.programKeys ▸ live)
        have found := (Slots.slotForKey_eq_some_iff faithful.tracks.programs.distinct).mpr held
        rw [programSlotForId,programSlotForId,found] at kept
        rw [slots]
        change ((candidateViews manager candidate).programs.slotForKey programId).or _ = _
        rw [kept,programSlotForId,found]
        rfl
      · exact same

/-- What a listed schedule's entry says. -/
theorem listed_content {index : Nat} {schedule : IrrigationScheduleConfiguration}
    (valid : irrigationConfigurationValidate candidate manager.boardZones = .ok)
    (given : (candidateListed manager candidate)[index]? = some schedule) :
    ((candidateViews manager candidate).schedules index).content (candidateViews manager candidate).memory =
      scheduledContent (candidateViews manager candidate) schedule := by
  have rebuilt := candidateViews_rebuiltBy manager candidate
  obtain ⟨slot,program,entry,_,named,found⟩ := rebuilt.written given
  have inside := (List.prefix_iff_getElem?.mp rebuilt.given index (List.getElem?_eq_some_iff.mp given).1).symm
  have member : schedule ∈ candidate.liveSchedules := by
    obtain ⟨bound,rfl⟩ := List.getElem?_eq_some_iff.mp given
    exact List.mem_of_getElem? inside.symm
  have key : schedule.key = schedule.scheduleId :=
    congrArg Entry.key (scheduleEntry_valid ((validate_ok_iff _ _).mp valid).2 member)
  rw [entry,scheduledContent,found]
  simp only [SchedulerEntry.content,SchedulerEntry.idText,runtimeSchedule,Option.map_some,RuntimeViews.memory_text,
    named,key]

/-- A live schedule's entry still says what it did. -/
theorem Faithful.live_content (faithful : Faithful manager)
    (valid : irrigationConfigurationValidate candidate manager.boardZones = .ok) {index : Nat}
    {schedule : IrrigationScheduleConfiguration} (given : manager.configuration.liveSchedules[index]? = some schedule) :
    (manager.views.schedules index).content (candidateViews manager candidate).memory =
      scheduledContent manager.views schedule :=
  faithful.tracks.content ((faithful.rebuilding valid).refilled ((validate_ok_iff _ _).mp valid).2).2 given

theorem Faithful.live_unique (faithful : Faithful manager) {first second : Nat}
    {one other : IrrigationScheduleConfiguration} (firstGiven : manager.configuration.liveSchedules[first]? = some one)
    (secondGiven : manager.configuration.liveSchedules[second]? = some other)
    (same : scheduledContent manager.views one = scheduledContent manager.views other) : first = second := by
  have ids : one.scheduleId = other.scheduleId := CharArray.toCString_injective (Option.some_inj.mp (congrArg EntryContent.id same))
  have distinct := faithful.live.schedulesDistinct
  change (manager.configuration.liveSchedules.map (·.scheduleId)).Nodup at distinct
  have atFirst : (manager.configuration.liveSchedules.map (·.scheduleId))[first]? = some one.scheduleId := by
    rw [List.getElem?_map,firstGiven]
    rfl
  have atSecond : (manager.configuration.liveSchedules.map (·.scheduleId))[second]? = some one.scheduleId := by
    rw [List.getElem?_map,secondGiven,ids]
    rfl
  exact (List.getElem?_inj (List.getElem?_eq_some_iff.mp atFirst).1 distinct).mp (atFirst.trans atSecond.symm)

/-- A listed schedule that says what a live one says is that one. -/
theorem Faithful.listed_inj (faithful : Faithful manager)
    (valid : irrigationConfigurationValidate candidate manager.boardZones = .ok)
    {old new : IrrigationScheduleConfiguration} (oldMember : old ∈ manager.configuration.liveSchedules)
    (newMember : new ∈ candidateListed manager candidate) :
    scheduledContent (candidateViews manager candidate) new = scheduledContent manager.views old ↔ new = old := by
  have refilled := ((faithful.rebuilding valid).refilled ((validate_ok_iff _ _).mp valid).2).1
  obtain ⟨oldSlot,oldFound,_⟩ := scheduledProgram_held faithful.live faithful.tracks.programs oldMember
  obtain ⟨index,given⟩ := List.mem_iff_getElem?.mp newMember
  obtain ⟨_,newSlot,_,_,_,newFound⟩ := (candidateViews_rebuiltBy manager candidate).written given
  exact scheduledContent_inj_of_refilled refilled faithful.tracks.programs.distinct oldFound newFound

/-- An entry from before that says what a live schedule's entry says is that entry, once every slot is in use. -/
theorem Faithful.entry_of_content (faithful : Faithful manager)
    (valid : irrigationConfigurationValidate candidate manager.boardZones = .ok)
    (full : ∀ slot, (candidateViews manager candidate).scheduleIds.used slot = true) {index : Nat}
    {schedule : IrrigationScheduleConfiguration} (given : manager.configuration.liveSchedules[index]? = some schedule)
    {entry : SchedulerEntry} (same : entry.content (candidateViews manager candidate).memory =
      scheduledContent manager.views schedule) : entry = manager.views.schedules index := by
  have refilled := ((faithful.rebuilding valid).refilled ((validate_ok_iff _ _).mp valid).2).2
  obtain ⟨slot,program,found,held,written⟩ := faithful.tracks.schedules index schedule given
  obtain ⟨used,named⟩ := Slots.slotForKey_some found
  rw [scheduledContent,held] at same
  simp only [SchedulerEntry.content,SchedulerEntry.idText,EntryContent.mk.injEq,Option.map_some] at same
  obtain ⟨id,enabled,weekdayMask,hour,minute,programs⟩ := same
  obtain ⟨address,pointer,shown⟩ := Option.map_eq_some_iff.mp id
  have place : address = slot := by
    by_cases inside : address < irrigationMaxSchedules
    · rw [RuntimeViews.memory_text _ ⟨address,inside⟩,CharArray.toCString_inj] at shown
      have kept := refilled.key_of_used used
      exact congrArg Fin.val (refilled.distinct faithful.tracks.scheduleIds.distinct ⟨address,inside⟩ slot (full _) (full _)
        (shown.trans (kept.trans named).symm))
    · have outside : (candidateViews manager candidate).memory.text address = .literal "" := dif_neg inside
      rw [outside] at shown
      have nonempty := (faithful.live.schedules _ (List.mem_of_getElem? given)).scheduleId.nonempty
      exact absurd (congrArg CString.bytes shown).symm nonempty
  rw [written]
  cases entry
  simp only at pointer enabled weekdayMask hour minute programs
  rw [pointer,enabled,weekdayMask,hour,minute,programs,place,runtimeSchedule]

/-- The candidate's list says what a live schedule's entry says exactly when it is listed for it. -/
theorem Faithful.listedFor_iff (faithful : Faithful manager)
    (valid : irrigationConfigurationValidate candidate manager.boardZones = .ok) {index : Nat}
    {schedule : IrrigationScheduleConfiguration} (given : manager.configuration.liveSchedules[index]? = some schedule) :
    scheduledContent manager.views schedule ∈ ((candidateViews manager candidate).entries
        candidate.scheduleCount.toNat).map (·.content (candidateViews manager candidate).memory) ↔
      ListedFor manager candidate index schedule := by
  have rebuilt := candidateViews_rebuiltBy manager candidate
  have counts : candidate.liveSchedules.length = candidate.scheduleCount.toNat :=
    ((validate_ok_iff _ _).mp valid).1.liveSchedules_length
  have member := List.mem_of_getElem? given
  have live := faithful.live_content valid given
  rw [RuntimeViews.entries,List.map_map,List.mem_map]
  simp only [List.mem_range,Function.comp_apply]
  constructor
  · rintro ⟨position,inside,same⟩
    cases listed : (candidateListed manager candidate)[position]? with
    | some new =>
      have newMember := List.mem_of_getElem? listed
      rw [listed_content valid listed,faithful.listed_inj valid member newMember] at same
      exact .inl (same ▸ newMember)
    | none =>
      have behind := List.getElem?_eq_none_iff.mp listed
      rw [rebuilt.kept listed] at same
      refine .inr ?_
      by_cases early : index < (candidateListed manager candidate).length
      · -- the list is cut short by the slots, so every slot shows its own id
        have fits : manager.views.idSlots.ProgramsFit candidate (programsChanged manager candidate) := by
          by_contra unfit
          rw [candidateListed,IdSlots.listed,if_neg unfit] at early
          exact absurd early (Nat.not_lt_zero _)
        have full := faithful.full_of_short valid fits (by omega)
        exact ⟨position,inside,behind,faithful.entry_of_content valid full given same⟩
      · by_cases late : index < candidate.scheduleCount.toNat
        · exact ⟨index,late,Nat.not_lt.mp early,rfl⟩
        · -- no entry before the live schedule's own says what it says
          have bound := (List.getElem?_eq_some_iff.mp given).1
          have before := List.getElem?_eq_getElem (show position < manager.configuration.liveSchedules.length by omega)
          rw [faithful.live_content valid before] at same
          have here := faithful.live_unique before given same
          omega
  · rintro (listed | ⟨position,inside,behind,same⟩)
    · obtain ⟨position,atPosition⟩ := List.mem_iff_getElem?.mp listed
      have bound := (List.getElem?_eq_some_iff.mp (List.prefix_iff_getElem?.mp rebuilt.given position
        (List.getElem?_eq_some_iff.mp atPosition).1)).1
      refine ⟨position,counts ▸ bound,?_⟩
      rw [listed_content valid atPosition,(faithful.listed_inj valid member listed).mpr rfl]
    · exact ⟨position,inside,by rw [rebuilt.kept (List.getElem?_eq_none behind),same,live]⟩

end Held

end Irrigation
