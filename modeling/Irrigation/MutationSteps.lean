import Irrigation.ViewMirroring

/-! What one mutation does to the manager, case by case, and which candidates the
mutations prepare. Only a replacement can bring in ids that do not fit beside the old ones. -/
namespace Irrigation

open KeyedSlots

/-! ### Arrays -/

section Arrays

variable {α β : Type} {n : Nat}

theorem changeAt_map (field : α → β) (entries : Vector α n) (index : Nat) (change : α → α)
    (kept : ∀ entry, field (change entry) = field entry) :
    (changeAt entries index change).toList.map field = entries.toList.map field := by
  apply List.ext_getElem
  · simp
  · intro position inside bound
    simp only [changeAt,List.getElem_map,Vector.getElem_toList,Vector.getElem_ofFn]
    split
    · exact kept _
    · rfl

theorem changeAt_take (entries : Vector α n) (index : Nat) (change : α → α) :
    (changeAt entries index change).toList.take index = entries.toList.take index := by
  apply List.ext_getElem
  · simp
  · intro position inside bound
    have below : position < index := by
      rw [List.length_take] at inside
      omega
    simp only [changeAt,List.getElem_take,Vector.getElem_toList,Vector.getElem_ofFn]
    exact if_neg (Nat.ne_of_lt below)

theorem removeAt_take (entries : Vector α n) (index count : Nat) {entry : α}
    (member : entry ∈ (removeAt entries index count).toList.take (count - 1)) : entry ∈ entries.toList.take count := by
  obtain ⟨position,inside,rfl⟩ := List.mem_iff_getElem.mp member
  simp only [List.length_take,Vector.length_toList] at inside
  simp only [removeAt,List.getElem_take,Vector.getElem_toList,Vector.getElem_ofFn]
  rw [List.mem_take_iff_getElem]
  split
  · next moved =>
    by_cases last : position + 1 < n
    · refine ⟨position + 1,by simp; omega,?_⟩
      rw [List.getD_eq_getElem?_getD,List.getElem?_eq_getElem (by simpa using last)]
      rfl
    · refine ⟨position,by simp; omega,?_⟩
      rw [List.getD_eq_getElem?_getD,List.getElem?_eq_none (by simp; omega)]
      rfl
  · exact ⟨position,by simp; omega,by simp⟩

/-- The ids of the entries below a count. -/
def arrayIds [DecidableEq β] (id : α → β) (entries : Vector α n) (count : Nat) : Finset β :=
  ((entries.toList.map id).take count).toFinset

variable [DecidableEq β] (id : α → β) (entries : Vector α n)

theorem arrayIds_changeAt (index count : Nat) (change : α → α) (kept : ∀ entry, id (change entry) = id entry) :
    arrayIds id (changeAt entries index change) count = arrayIds id entries count := by
  rw [arrayIds,arrayIds,changeAt_map id entries index change kept]

theorem arrayIds_append {count next : Nat} (more : count ≤ next) (change : α → α) :
    arrayIds id entries count ⊆ arrayIds id (changeAt entries count change) next := by
  rw [arrayIds,← List.map_take,← changeAt_take entries count change,List.map_take]
  intro key member
  rw [List.mem_toFinset] at member
  exact List.mem_toFinset.mpr (List.take_subset_take_left _ more member)

theorem arrayIds_removeAt (index count : Nat) :
    arrayIds id (removeAt entries index count) (count - 1) ⊆ arrayIds id entries count := by
  intro key member
  rw [arrayIds,List.mem_toFinset,← List.map_take] at member
  obtain ⟨entry,inside,rfl⟩ := List.mem_map.mp member
  rw [arrayIds,List.mem_toFinset,← List.map_take]
  exact List.mem_map_of_mem (removeAt_take entries index count inside)

end Arrays

/-! ### Ids of a prepared candidate -/

theorem programIds_eq (configuration : IrrigationConfiguration) : programIds configuration.live =
    arrayIds (·.programId) configuration.programs configuration.programCount.toNat := by
  rw [programIds,IrrigationConfiguration.live,List.map_map,IrrigationConfiguration.livePrograms,arrayIds,
    ← List.map_take]
  rfl

theorem scheduleIds_eq (configuration : IrrigationConfiguration) : scheduleIds configuration.live =
    arrayIds (·.scheduleId) configuration.schedules configuration.scheduleCount.toNat := by
  rw [scheduleIds,IrrigationConfiguration.live,IrrigationConfiguration.liveSchedules,arrayIds,← List.map_take]

/-- One of the two sets contains the other. -/
def Nested (first second : Finset IdText) : Prop := first ⊆ second ∨ second ⊆ first

theorem Nested.of_eq {first second : Finset IdText} (same : second = first) : Nested first second :=
  .inl (same ▸ Finset.Subset.refl _)

theorem Nested.card {first second : Finset IdText} (nested : Nested first second) {bound : Nat}
    (firstRoom : first.card ≤ bound) (secondRoom : second.card ≤ bound) : (first ∪ second).card ≤ bound := by
  rcases nested with below | above
  · rwa [Finset.union_eq_right.mpr below]
  · rwa [Finset.union_eq_left.mpr above]

theorem programIds_card {boardZones : List Zone} {live : LiveConfiguration} (valid : live.Valid boardZones) :
    (programIds live).card ≤ irrigationMaxPrograms := by
  calc (programIds live).card ≤ (live.programs.map (·.programId)).length := List.toFinset_card_le _
    _ ≤ irrigationMaxPrograms := by rw [List.length_map]; exact valid.programCount

theorem scheduleIds_card {boardZones : List Zone} {live : LiveConfiguration} (valid : live.Valid boardZones) :
    (scheduleIds live).card ≤ irrigationMaxSchedules := by
  calc (scheduleIds live).card ≤ (live.schedules.map (·.scheduleId)).length := List.toFinset_card_le _
    _ ≤ irrigationMaxSchedules := by rw [List.length_map]; exact valid.scheduleCount

theorem fits_of_nested {boardZones : List Zone} {old new : LiveConfiguration} (oldValid : old.Valid boardZones)
    (newValid : new.Valid boardZones) (programs : Nested (programIds old) (programIds new))
    (schedules : Nested (scheduleIds old) (scheduleIds new)) : Fits old new where
  programs := programs.card (programIds_card oldValid) (programIds_card newValid)
  schedules := schedules.card (scheduleIds_card oldValid) (scheduleIds_card newValid)

theorem toNat_successor {count : UInt8} {bound : Nat} (small : bound < 256) (below : ¬count.toNat ≥ bound) :
    count.toNat ≤ (count + 1).toNat := by
  rw [UInt8.toNat_add]
  have one : (1 : UInt8).toNat = 1 := rfl
  omega

theorem toNat_predecessor {count : UInt8} (positive : 0 < count.toNat) : (count - 1).toNat = count.toNat - 1 := by
  have one : (1 : UInt8) ≤ count := UInt8.le_iff_toNat_le.mpr positive
  rw [UInt8.toNat_sub_of_le _ _ one]
  rfl

section Prepared

variable {configuration candidate : IrrigationConfiguration}

theorem storeProgram_programIds (index : Nat) (displayName : CString)
    (steps : List IrrigationProgramStepConfiguration) :
    programIds (storeProgram configuration index displayName steps).live = programIds configuration.live := by
  simp only [programIds_eq,storeProgram]
  exact arrayIds_changeAt _ configuration.programs index _ (.save displayName steps) fun _ => rfl

theorem storeSchedule_scheduleIds (index : Nat) (weekdayMask hour minute : UInt8) (programId : CString) :
    scheduleIds (storeSchedule configuration index weekdayMask hour minute programId).live =
      scheduleIds configuration.live := by
  simp only [scheduleIds_eq,storeSchedule]
  exact arrayIds_changeAt _ configuration.schedules index _ (.save weekdayMask hour minute programId) fun _ => rfl

theorem appendProgram_programIds (below : ¬configuration.programCount.toNat ≥ irrigationMaxPrograms) :
    programIds configuration.live ⊆ programIds (appendProgram configuration).live := by
  simp only [programIds_eq,appendProgram]
  exact arrayIds_append _ configuration.programs (toNat_successor (by decide) below)
    (.number configuration.nextProgramId)

theorem appendSchedule_scheduleIds (below : ¬configuration.scheduleCount.toNat ≥ irrigationMaxSchedules) :
    scheduleIds configuration.live ⊆ scheduleIds (appendSchedule configuration).live := by
  simp only [scheduleIds_eq,appendSchedule]
  exact arrayIds_append _ configuration.schedules (toNat_successor (by decide) below)
    (.number configuration.nextScheduleId)

/-- The ids of a candidate contain the old ones or are among them. -/
def NestedIds (configuration candidate : IrrigationConfiguration) : Prop :=
  Nested (programIds configuration.live) (programIds candidate.live) ∧
    Nested (scheduleIds configuration.live) (scheduleIds candidate.live)

theorem renameZone_nested {zoneId displayName : Option CString}
    (prepared : renameZone configuration zoneId displayName = .ok candidate) : NestedIds configuration candidate := by
  unfold renameZone at prepared
  split at prepared
  · split at prepared
    · cases prepared
      exact ⟨.of_eq (by simp only [programIds_eq]),.of_eq (by simp only [scheduleIds_eq])⟩
    · contradiction
  · contradiction

theorem saveProgram_nested {programIndex : Option Nat} {displayName : Option CString}
    {steps : Option (List IrrigationProgramStepConfiguration)}
    (prepared : saveProgram configuration programIndex displayName steps = .ok candidate) :
    NestedIds configuration candidate := by
  unfold saveProgram at prepared
  split at prepared
  · split at prepared
    · contradiction
    · split at prepared
      · split at prepared
        · contradiction
        · next below =>
          cases prepared
          refine ⟨.inl ?_,.of_eq (by simp only [scheduleIds_eq,storeProgram,appendProgram])⟩
          rw [storeProgram_programIds]
          exact appendProgram_programIds below
      · split at prepared
        · contradiction
        · cases prepared
          exact ⟨.of_eq (storeProgram_programIds ..),.of_eq (by simp only [scheduleIds_eq,storeProgram])⟩
  · contradiction

theorem deleteProgram_nested {programIndex : Nat}
    (prepared : deleteProgram configuration programIndex = .ok candidate) : NestedIds configuration candidate := by
  unfold deleteProgram at prepared
  split at prepared
  · contradiction
  · next program given =>
    split at prepared
    · contradiction
    · cases prepared
      have inside := (List.getElem?_eq_some_iff.mp given).1
      rw [IrrigationConfiguration.livePrograms,List.length_take] at inside
      refine ⟨.inr ?_,.of_eq (by simp only [scheduleIds_eq])⟩
      rw [programIds_eq,programIds_eq,toNat_predecessor (by omega)]
      exact arrayIds_removeAt _ configuration.programs programIndex configuration.programCount.toNat

theorem saveSchedule_nested {scheduleIndex : Option Nat} {weekdayMask hour minute : UInt8}
    {programId : Option CString}
    (prepared : saveSchedule configuration scheduleIndex weekdayMask hour minute programId = .ok candidate) :
    NestedIds configuration candidate := by
  unfold saveSchedule at prepared
  split at prepared
  · contradiction
  · split at prepared
    · split at prepared
      · contradiction
      · next below =>
        cases prepared
        refine ⟨.of_eq (by simp only [programIds_eq,storeSchedule,appendSchedule]),.inl ?_⟩
        rw [storeSchedule_scheduleIds]
        exact appendSchedule_scheduleIds below
    · split at prepared
      · contradiction
      · cases prepared
        exact ⟨.of_eq (by simp only [programIds_eq,storeSchedule]),.of_eq (storeSchedule_scheduleIds ..)⟩

theorem deleteSchedule_nested {scheduleIndex : Nat}
    (prepared : deleteSchedule configuration scheduleIndex = .ok candidate) : NestedIds configuration candidate := by
  unfold deleteSchedule at prepared
  split at prepared
  · contradiction
  · cases prepared
    refine ⟨.of_eq (by simp only [programIds_eq]),.inr ?_⟩
    rw [scheduleIds_eq,scheduleIds_eq,toNat_predecessor (by omega)]
    exact arrayIds_removeAt _ configuration.schedules scheduleIndex configuration.scheduleCount.toNat

theorem setScheduleEnabled_nested {scheduleIndex : Nat} {enabled : Bool}
    (prepared : setScheduleEnabled configuration scheduleIndex enabled = .ok candidate) :
    NestedIds configuration candidate := by
  unfold setScheduleEnabled at prepared
  split at prepared
  · contradiction
  · cases prepared
    refine ⟨.of_eq (by simp only [programIds_eq]),.of_eq ?_⟩
    rw [scheduleIds_eq,scheduleIds_eq]
    exact arrayIds_changeAt _ configuration.schedules scheduleIndex _ (.enable enabled) fun _ => rfl

/-- Every mutation but a replacement stays within the ids it started from, or adds to them. -/
theorem prepare_nested {mutation : Mutation} (incremental : ∀ candidate, mutation ≠ .replace candidate)
    (prepared : mutation.prepare configuration = .ok candidate) : NestedIds configuration candidate := by
  cases mutation <;> simp only [Mutation.prepare] at prepared
  case renameZone => exact renameZone_nested prepared
  case createProgram => exact saveProgram_nested prepared
  case updateProgram => exact saveProgram_nested prepared
  case deleteProgram => exact deleteProgram_nested prepared
  case createSchedule => exact saveSchedule_nested prepared
  case updateSchedule => exact saveSchedule_nested prepared
  case deleteSchedule => exact deleteSchedule_nested prepared
  case setScheduleEnabled => exact setScheduleEnabled_nested prepared
  case replace candidate => exact absurd rfl (incremental candidate)

end Prepared

/-! ### One mutation -/

theorem prepare_error {mutation : Mutation} {configuration : IrrigationConfiguration} {result : IrrigationResult}
    (refused : mutation.prepare configuration = .error result) : result ≠ .ok := by
  rintro rfl
  cases mutation with
  | replace candidate => cases candidate <;> simp [Mutation.prepare] at refused
  | _ =>
    simp only [Mutation.prepare,renameZone,saveProgram,deleteProgram,saveSchedule,deleteSchedule,
      setScheduleEnabled] at refused
    repeat' split at refused
    all_goals simp at refused

/-- What replacing the live configuration by a candidate does to the manager. -/
inductive ManagerStep (manager : ConfigurationManager) (candidate : IrrigationConfiguration) :
    IrrigationResult → ConfigurationManager → Prop
  | refused {result : IrrigationResult} (failed : result ≠ .ok) : ManagerStep manager candidate result manager
  | rolledBack {result : IrrigationResult}
      (valid : irrigationConfigurationValidate candidate manager.boardZones = .ok) (failed : result ≠ .ok) :
      ManagerStep manager candidate result { manager with
        views := rebuildRuntimeViews
          (rebuildRuntimeViews manager.views candidate (programsChanged manager candidate))
          manager.configuration (programsChanged manager candidate) }
  | installed (valid : irrigationConfigurationValidate candidate manager.boardZones = .ok) :
      ManagerStep manager candidate .ok { manager with
        configuration := candidate
        views := rebuildRuntimeViews manager.views candidate (programsChanged manager candidate) }

section Steps

variable {ε σ : Type} (device : Repository.ConfigurationRepositoryStorage σ)

@[simp] theorem schedule_manager {α : Type} (service : Service ε α) (system : ManagedSystem ε σ) :
    (system.schedule service).2.manager = system.manager := rfl

@[simp] theorem persistCandidate_manager (candidate : IrrigationConfiguration) (system : ManagedSystem ε σ) :
    (persistCandidate device candidate system).2.manager = system.manager := by
  unfold persistCandidate
  split <;> rfl

theorem rollBack_failed {failure : IrrigationResult} (failed : failure ≠ .ok) (changed : Bool)
    (system : ManagedSystem ε σ) : (rollBack failure changed system).1 ≠ .ok := by
  simp only [rollBack]
  split
  · exact failed
  · simp

theorem rollBack_manager (failure : IrrigationResult) (changed : Bool) (system : ManagedSystem ε σ) :
    (rollBack failure changed system).2.manager = { system.manager with
      views := rebuildRuntimeViews system.manager.views system.manager.configuration changed } := rfl

variable {candidate : IrrigationConfiguration} {system : ManagedSystem ε σ}

theorem replaceBound_step
    (valid : irrigationConfigurationValidate candidate system.manager.boardZones = .ok) :
    ManagerStep system.manager candidate
      (replaceBound device candidate (programsChanged system.manager candidate) system).1
      (replaceBound device candidate (programsChanged system.manager candidate) system).2.manager := by
  unfold replaceBound
  dsimp only
  split
  · next failed => exact .rolledBack valid (rollBack_failed failed _ _)
  · split
    · next failed =>
      rw [rollBack_manager,persistCandidate_manager]
      exact .rolledBack valid (rollBack_failed failed _ _)
    · rw [schedule_manager,ManagedSystem.install,persistCandidate_manager]
      exact .installed valid

theorem replaceUnbound_step
    (valid : irrigationConfigurationValidate candidate system.manager.boardZones = .ok) :
    ManagerStep system.manager candidate
      (replaceUnbound device candidate (programsChanged system.manager candidate) system).1
      (replaceUnbound device candidate (programsChanged system.manager candidate) system).2.manager := by
  unfold replaceUnbound
  dsimp only
  split
  · next failed =>
    rw [persistCandidate_manager]
    exact .refused failed
  · rw [ManagedSystem.rebuild,ManagedSystem.install,persistCandidate_manager]
    exact .installed valid

theorem replaceCandidate_step (candidate : IrrigationConfiguration) (system : ManagedSystem ε σ) :
    ManagerStep system.manager candidate (replaceCandidate device candidate system).1
      (replaceCandidate device candidate system).2.manager := by
  unfold replaceCandidate
  by_cases valid : configurationManagerValidateCandidate system.manager candidate = .ok
  · simp only [valid,ne_eq,not_true_eq_false,if_false]
    split
    · exact replaceBound_step device valid
    · exact replaceUnbound_step device valid
  · simp only [valid,ne_eq,not_false_eq_true,if_true]
    exact .refused valid

/-- A call is refused before anything changed, or it replaces the live configuration by a candidate. -/
theorem mutate_cases (mutation : Mutation) (system : ManagedSystem ε σ) :
    (∃ result, result ≠ .ok ∧ mutation.prepare system.manager.configuration = .error result ∧
      mutate device mutation system = (result,system)) ∨
    ∃ candidate, mutation.prepare system.manager.configuration = .ok candidate ∧
      mutate device mutation system = replaceCandidate device candidate system := by
  rw [mutate_eq]
  cases prepared : mutation.prepare system.manager.configuration with
  | error result => exact .inl ⟨result,prepare_error prepared,rfl,rfl⟩
  | ok candidate => exact .inr ⟨candidate,rfl,rfl⟩

end Steps

/-! ### Faithful managers -/

theorem programsAreEqual_live {left right : IrrigationConfiguration} (equal : programsAreEqual left right = true) :
    left.live.programs = right.live.programs := by
  rw [programsAreEqual,Bool.and_eq_true,beq_iff_eq,List.all_eq_true] at equal
  obtain ⟨count,pairs⟩ := equal
  have lengths : left.livePrograms.length = right.livePrograms.length := by
    simp [IrrigationConfiguration.livePrograms,count]
  rw [IrrigationConfiguration.live,IrrigationConfiguration.live]
  apply List.ext_getElem
  · simpa using lengths
  · intro index inside bound
    rw [List.length_map] at inside bound
    have pair := pairs (left.livePrograms[index],right.livePrograms[index]) (by
      rw [List.mem_iff_getElem]
      exact ⟨index,by simp; omega,by simp⟩)
    simp only [Bool.and_eq_true,beq_iff_eq] at pair
    obtain ⟨⟨⟨id,name⟩,_⟩,steps⟩ := pair
    simp only [List.getElem_map,IrrigationProgramConfiguration.live,id,name,steps]

theorem programEntry_live {left right : IrrigationProgramConfiguration} (same : left.live = right.live) :
    programEntry left = programEntry right := by
  simp only [IrrigationProgramConfiguration.live,LiveProgram.mk.injEq] at same
  simp only [programEntry,runtimeProgram,same]

theorem programsAreEqual_entries {left right : IrrigationConfiguration} (equal : programsAreEqual left right = true) :
    left.livePrograms.map programEntry = right.livePrograms.map programEntry := by
  apply List.ext_getElem?
  intro index
  have atIndex : (left.livePrograms.map (·.live))[index]? = (right.livePrograms.map (·.live))[index]? :=
    congrArg (·[index]?) (programsAreEqual_live equal)
  rw [List.getElem?_map,List.getElem?_map] at atIndex ⊢
  cases first : left.livePrograms[index]? <;> cases second : right.livePrograms[index]? <;>
    simp only [first,second,Option.map_none,Option.map_some,Option.some.injEq,reduceCtorEq] at atIndex ⊢
  exact programEntry_live atIndex

/-- The live configuration is valid and the views track it. -/
structure Faithful (manager : ConfigurationManager) : Prop where
  valid : irrigationConfigurationValidate manager.configuration manager.boardZones = .ok
  tracks : Tracks manager.views manager.configuration

section Faithful

variable {manager next : ConfigurationManager} {candidate : IrrigationConfiguration} {result : IrrigationResult}

theorem Faithful.live (faithful : Faithful manager) : manager.configuration.live.Valid manager.boardZones :=
  ((validate_ok_iff _ _).mp faithful.valid).2

theorem Faithful.programKeys (faithful : Faithful manager) :
    manager.views.programs.keys = programIds manager.configuration.live := by
  rw [faithful.tracks.programs.keys,entryKeys_programs faithful.live]

theorem Faithful.scheduleKeys (faithful : Faithful manager) :
    manager.views.scheduleIds.keys = scheduleIds manager.configuration.live := by
  rw [faithful.tracks.scheduleIds.keys,entryKeys_schedules faithful.live]

/-- The rebuild for a candidate from faithful views. -/
theorem Faithful.rebuilding (faithful : Faithful manager)
    (valid : irrigationConfigurationValidate candidate manager.boardZones = .ok) :
    Rebuilding manager.views candidate
      (rebuildRuntimeViews manager.views candidate (programsChanged manager candidate)) := by
  apply rebuild_cases ((validate_ok_iff _ _).mp valid).2 faithful.tracks.programs.distinct
  intro same
  rw [programsChanged,Bool.not_eq_false'] at same
  rw [← programsAreEqual_entries same]
  exact faithful.tracks.programs

theorem Rebuilding.refilled {boardZones : List Zone} {views later : RuntimeViews}
    {configuration : IrrigationConfiguration} (rebuilding : Rebuilding views configuration later)
    (valid : configuration.live.Valid boardZones) : Slots.Refilled views.programs later.programs ∧
      Slots.Refilled views.scheduleIds later.scheduleIds := by
  cases rebuilding with
  | programsFull => exact ⟨.settled _,.same⟩
  | @reached base refilled holds _ ids _ =>
    refine ⟨refilled,?_⟩
    change Slots.Refilled views.scheduleIds (Slots.settle (storeSchedules base configuration))
    rw [storeSchedules_held valid holds,ids]
    exact .settled _

/-- The second rebuild, back to the live configuration. -/
theorem Faithful.rebuildingBack (faithful : Faithful manager)
    (valid : irrigationConfigurationValidate candidate manager.boardZones = .ok) :
    Rebuilding (rebuildRuntimeViews manager.views candidate (programsChanged manager candidate)) manager.configuration
      (rebuildRuntimeViews (rebuildRuntimeViews manager.views candidate (programsChanged manager candidate))
        manager.configuration (programsChanged manager candidate)) := by
  obtain ⟨programs,_⟩ := (faithful.rebuilding valid).refilled ((validate_ok_iff _ _).mp valid).2
  apply rebuild_cases faithful.live (programs.distinct faithful.tracks.programs.distinct)
  intro same
  rw [same]
  exact faithful.tracks.programs

/-- The second rebuild finds room for the live configuration again. -/
theorem Faithful.back (faithful : Faithful manager)
    (valid : irrigationConfigurationValidate candidate manager.boardZones = .ok) :
    Tracks (rebuildRuntimeViews (rebuildRuntimeViews manager.views candidate (programsChanged manager candidate))
      manager.configuration (programsChanged manager candidate)) manager.configuration := by
  obtain ⟨programs,schedules⟩ := (faithful.rebuilding valid).refilled ((validate_ok_iff _ _).mp valid).2
  have programsDistinct := programs.distinct faithful.tracks.programs.distinct
  have schedulesDistinct := schedules.distinct faithful.tracks.scheduleIds.distinct
  have programsRoom := programs.back faithful.tracks.programs
  have schedulesRoom := schedules.back faithful.tracks.scheduleIds
  rw [(Slots.storeAll_passing _ _).complete_iff programsDistinct,entryKeys_programs faithful.live] at programsRoom
  rw [(Slots.storeAll_passing _ _).complete_iff schedulesDistinct,entryKeys_schedules faithful.live] at schedulesRoom
  exact (faithful.rebuildingBack valid).tracks faithful.live schedulesDistinct programsRoom schedulesRoom

/-- A configuration installed over a faithful manager's views, with room for the ids of both. -/
theorem Faithful.installed (faithful : Faithful manager)
    (valid : irrigationConfigurationValidate next.configuration next.boardZones = .ok)
    (rebuilding : Rebuilding manager.views next.configuration next.views)
    (fits : Fits manager.configuration.live next.configuration.live) : Faithful next := by
  refine ⟨valid,?_⟩
  apply rebuilding.tracks ((validate_ok_iff _ _).mp valid).2 faithful.tracks.scheduleIds.distinct
  · rw [faithful.programKeys]
    exact fits.programs
  · rw [faithful.scheduleKeys]
    exact fits.schedules

/-- Without that room the new configuration is not shown. -/
theorem Faithful.fits_of_mirrors (faithful : Faithful manager)
    (valid : irrigationConfigurationValidate next.configuration next.boardZones = .ok)
    (rebuilding : Rebuilding manager.views next.configuration next.views)
    (mirrors : Mirrors next next.configuration.live) : Fits manager.configuration.live next.configuration.live := by
  by_contra unfit
  refine rebuilding.not_mirrors ((validate_ok_iff _ _).mp valid).2 faithful.tracks.scheduleIds.distinct ?_ mirrors
  rw [faithful.programKeys,faithful.scheduleKeys]
  exact fun room => unfit ⟨room.1,room.2⟩

/-- Every outcome but an installed candidate that does not fit keeps the manager faithful. -/
theorem ManagerStep.faithful (step : ManagerStep manager candidate result next) (faithful : Faithful manager)
    (fits : result = .ok → Fits manager.configuration.live candidate.live) : Faithful next := by
  cases step with
  | refused => exact faithful
  | rolledBack valid => exact ⟨faithful.valid,faithful.back valid⟩
  | installed valid => exact faithful.installed valid (faithful.rebuilding valid) (fits rfl)

/-- An installed candidate that is shown fits beside the configuration it replaced. -/
theorem ManagerStep.fits_of_mirrors (step : ManagerStep manager candidate .ok next) (faithful : Faithful manager)
    (mirrors : Mirrors next next.configuration.live) : Fits manager.configuration.live candidate.live := by
  cases step with
  | refused failed => exact absurd rfl failed
  | rolledBack _ failed => exact absurd rfl failed
  | installed valid => exact faithful.fits_of_mirrors valid (faithful.rebuilding valid) mirrors

/-- A faithful manager shows its live configuration. -/
theorem Faithful.mirrors (faithful : Faithful manager) : Mirrors manager manager.configuration.live where
  programs := by
    intro index program given
    rw [IrrigationConfiguration.live,List.getElem?_map] at given
    obtain ⟨configured,atIndex,rfl⟩ := Option.map_eq_some_iff.mp given
    obtain ⟨slot,held,shown⟩ := programSlot_held faithful.live faithful.tracks.programs (List.mem_of_getElem? atIndex)
    refine ⟨slot,?_,?_⟩
    · simp only [configurationManagerProgramAt,atIndex,held,Option.bind_eq_bind,Option.bind_some]
      rfl
    · rw [RuntimeViews.memory_program]
      exact shown
  schedules := by
    intro index configured given
    obtain ⟨slot,program,found,held,written⟩ := faithful.tracks.schedules index configured given
    obtain ⟨_,named⟩ := Slots.slotForKey_some found
    rw [written]
    refine ⟨?_,rfl,rfl,rfl,rfl,program,held,rfl⟩
    change some (manager.views.memory.text slot) = _
    rw [RuntimeViews.memory_text,named]

end Faithful

end Irrigation
