import Irrigation.LiveMutations
import Irrigation.ConfigurationRollback

/-! What a mutation returns: its candidate stays within capacity, and the validator, the scheduler
and the repository decide the result between them. -/
namespace Irrigation

open KeyedSlots

/-! ### Candidates stay within capacity -/

section Capacity

variable {configuration candidate : IrrigationConfiguration}

theorem saved_stepCount {steps : List IrrigationProgramStepConfiguration} (room : steps.length ≤ irrigationMaxProgramSteps)
    (displayName : CString) (program : IrrigationProgramConfiguration) :
    (program.save displayName steps).stepCount.toNat ≤ irrigationMaxProgramSteps := by
  have bound : steps.length ≤ 8 := room
  change steps.length.toUInt8.toNat ≤ 8
  simp
  omega

theorem storeProgram_capacity (capacity : configuration.WithinCapacity) (index : Nat) (displayName : CString)
    {steps : List IrrigationProgramStepConfiguration} (room : steps.length ≤ irrigationMaxProgramSteps) :
    (storeProgram configuration index displayName steps).WithinCapacity := by
  refine ⟨capacity.zones,capacity.programs,capacity.schedules,fun program member => ?_⟩
  rw [IrrigationConfiguration.livePrograms,storeProgram,changeAt_live] at member
  obtain ⟨position,inside,rfl⟩ := List.mem_iff_getElem.mp member
  rw [List.getElem_modify]
  split
  · exact saved_stepCount room displayName _
  · exact capacity.steps _ (List.getElem_mem _)

theorem appendProgram_capacity (capacity : configuration.WithinCapacity)
    (below : configuration.programCount.toNat < irrigationMaxPrograms) (displayName : CString)
    {steps : List IrrigationProgramStepConfiguration} (room : steps.length ≤ irrigationMaxProgramSteps) :
    (storeProgram (appendProgram configuration) configuration.programCount.toNat displayName steps).WithinCapacity := by
  have count : (configuration.programCount + 1).toNat = configuration.programCount.toNat + 1 :=
    toNat_next (by decide) below
  have more : (configuration.programCount + 1).toNat ≤ irrigationMaxPrograms := by rw [count]; exact below
  refine ⟨capacity.zones,more,capacity.schedules,fun program member => ?_⟩
  rw [IrrigationConfiguration.livePrograms,storeProgram,changeAt_live] at member
  simp only [appendProgram,count] at member
  have size : (configuration.programs.toList.take configuration.programCount.toNat).length =
      configuration.programCount.toNat := capacity.livePrograms_length
  rw [changeAt_append configuration.programs below,modify_concat size] at member
  rcases List.mem_append.mp member with old | new
  · exact capacity.steps program old
  · rw [List.mem_singleton.mp new]
    exact saved_stepCount room displayName _

theorem saveProgram_capacity (capacity : configuration.WithinCapacity) {programIndex : Option Nat}
    {displayName : Option CString} {steps : Option (List IrrigationProgramStepConfiguration)}
    (prepared : saveProgram configuration programIndex displayName steps = .ok candidate) : candidate.WithinCapacity := by
  unfold saveProgram at prepared
  split at prepared
  · split at prepared
    · contradiction
    · next long =>
      split at prepared
      · split at prepared
        · contradiction
        · next full =>
          cases prepared
          exact appendProgram_capacity capacity (Nat.not_le.mp full) _ (Nat.not_lt.mp long)
      · split at prepared
        · contradiction
        · cases prepared
          exact storeProgram_capacity capacity _ _ (Nat.not_lt.mp long)
  · contradiction

theorem deleteProgram_capacity (capacity : configuration.WithinCapacity) {programIndex : Nat}
    (prepared : deleteProgram configuration programIndex = .ok candidate) : candidate.WithinCapacity := by
  unfold deleteProgram at prepared
  split at prepared
  · contradiction
  · next found =>
    split at prepared
    · contradiction
    · cases prepared
      have inside := (List.getElem?_eq_some_iff.mp found).1
      rw [capacity.livePrograms_length] at inside
      have fewer : (configuration.programCount - 1).toNat = configuration.programCount.toNat - 1 :=
        toNat_predecessor (by omega)
      have room : configuration.programCount.toNat ≤ 4 := capacity.programs
      refine ⟨capacity.zones,?_,capacity.schedules,fun program member => ?_⟩
      · change (configuration.programCount - 1).toNat ≤ 4
        omega
      · rw [IrrigationConfiguration.livePrograms,fewer] at member
        exact capacity.steps program (removeAt_take configuration.programs _ _ member)

theorem withSchedules_capacity (capacity : configuration.WithinCapacity)
    (schedules : Vector IrrigationScheduleConfiguration irrigationMaxSchedules) {scheduleCount : UInt8}
    (room : scheduleCount.toNat ≤ irrigationMaxSchedules) (nextScheduleId : UInt32) :
    { configuration with schedules, scheduleCount, nextScheduleId }.WithinCapacity :=
  ⟨capacity.zones,capacity.programs,room,capacity.steps⟩

theorem saveSchedule_capacity (capacity : configuration.WithinCapacity) {scheduleIndex : Option Nat}
    {weekdayMask hour minute : UInt8} {programId : Option CString}
    (prepared : saveSchedule configuration scheduleIndex weekdayMask hour minute programId = .ok candidate) :
    candidate.WithinCapacity := by
  unfold saveSchedule at prepared
  split at prepared
  · contradiction
  · split at prepared
    · split at prepared
      · contradiction
      · next full =>
        cases prepared
        have count : (configuration.scheduleCount + 1).toNat = configuration.scheduleCount.toNat + 1 :=
          toNat_next (by decide) (Nat.not_le.mp full)
        have more : (configuration.scheduleCount + 1).toNat ≤ irrigationMaxSchedules := by
          rw [count]
          exact Nat.not_le.mp full
        rw [storeSchedule,appendSchedule]
        exact withSchedules_capacity capacity _ more _
    · split at prepared
      · contradiction
      · cases prepared
        rw [storeSchedule]
        exact withSchedules_capacity capacity _ capacity.schedules _

theorem deleteSchedule_capacity (capacity : configuration.WithinCapacity) {scheduleIndex : Nat}
    (prepared : deleteSchedule configuration scheduleIndex = .ok candidate) : candidate.WithinCapacity := by
  unfold deleteSchedule at prepared
  split at prepared
  · contradiction
  · cases prepared
    have fewer : (configuration.scheduleCount - 1).toNat = configuration.scheduleCount.toNat - 1 :=
      toNat_predecessor (by omega)
    have room : configuration.scheduleCount.toNat ≤ 16 := capacity.schedules
    apply withSchedules_capacity capacity
    change (configuration.scheduleCount - 1).toNat ≤ 16
    omega

/-- An edit's candidate has no count beyond its array. -/
theorem prepare_capacity {mutation : Mutation} (incremental : ∀ candidate, mutation ≠ .replace candidate)
    (capacity : configuration.WithinCapacity) (prepared : mutation.prepare configuration = .ok candidate) :
    candidate.WithinCapacity := by
  cases mutation <;> simp only [Mutation.prepare] at prepared
  case renameZone =>
    unfold renameZone at prepared
    split at prepared
    · split at prepared
      · cases prepared
        exact ⟨capacity.zones,capacity.programs,capacity.schedules,capacity.steps⟩
      · contradiction
    · contradiction
  case createProgram => exact saveProgram_capacity capacity prepared
  case updateProgram => exact saveProgram_capacity capacity prepared
  case deleteProgram => exact deleteProgram_capacity capacity prepared
  case createSchedule => exact saveSchedule_capacity capacity prepared
  case updateSchedule => exact saveSchedule_capacity capacity prepared
  case deleteSchedule => exact deleteSchedule_capacity capacity prepared
  case setScheduleEnabled =>
    unfold setScheduleEnabled at prepared
    split at prepared
    · contradiction
    · cases prepared
      exact withSchedules_capacity capacity _ capacity.schedules _
  case replace candidate => exact absurd rfl (incremental candidate)

end Capacity

theorem validate_cases (configuration : IrrigationConfiguration) (boardZones : List Zone) :
    irrigationConfigurationValidate configuration boardZones = .ok ∨
      irrigationConfigurationValidate configuration boardZones = .rejected := by
  unfold irrigationConfigurationValidate
  repeat' split
  all_goals simp

/-- Within capacity the validator sees nothing but the live part. -/
theorem validate_of_live {first second : IrrigationConfiguration} (firstRoom : first.WithinCapacity)
    (secondRoom : second.WithinCapacity) {boardZones : List Zone}
    (same : first.live.Valid boardZones ↔ second.live.Valid boardZones) :
    irrigationConfigurationValidate first boardZones = .ok ↔ irrigationConfigurationValidate second boardZones = .ok := by
  rw [validate_ok_iff,validate_ok_iff]
  exact ⟨fun valid => ⟨secondRoom,same.mp valid.2⟩,fun valid => ⟨firstRoom,same.mpr valid.2⟩⟩

/-! ### The result of a replacement -/

section Verdicts

variable {ε σ : Type} (device : Repository.ConfigurationRepositoryStorage σ) (candidate : IrrigationConfiguration)

/-- What a replacement returns, and what decides it. -/
inductive Verdict (system : ManagedSystem ε σ) : IrrigationResult → Prop
  | invalid (invalid : irrigationConfigurationValidate candidate system.manager.boardZones ≠ .ok) :
      Verdict system .rejected
  | refused (valid : irrigationConfigurationValidate candidate system.manager.boardZones = .ok)
      (bound : system.manager.schedulerService = true) (unaccepted : ¬CandidateTaken system.manager candidate) :
      Verdict system (if LiveTaken system.manager candidate then .rejected else .internalError)
  | unsaved (valid : irrigationConfigurationValidate candidate system.manager.boardZones = .ok)
      (accepted : system.manager.schedulerService = true → CandidateTaken system.manager candidate)
      (unsaved : ¬Persists device candidate system) : Verdict system .internalError
  | installed (valid : irrigationConfigurationValidate candidate system.manager.boardZones = .ok)
      (accepted : system.manager.schedulerService = true → CandidateTaken system.manager candidate)
      (persists : Persists device candidate system) : Verdict system .ok

variable {system : ManagedSystem ε σ}

theorem rollBack_result (capacity : system.manager.configuration.WithinCapacity) (failure : IrrigationResult)
    (tried : World ε) (storage : σ) :
    (rollBack failure (programsChanged system.manager candidate)
      ⟨{ system.manager with views := candidateViews system.manager candidate },tried,storage⟩).1 =
      if LiveTaken system.manager candidate then failure else .internalError := by
  have offering := offered (restoredViews system.manager candidate) capacity.schedules
    (tried.showing (restoredViews system.manager candidate))
  have accepts : (schedulerServiceConfigureLocked ((restoredViews system.manager candidate).entries
      system.manager.configuration.scheduleCount.toNat) (tried.showing (restoredViews system.manager candidate))).1 =
        .ok ↔ LiveTaken system.manager candidate :=
    offering.ok_iff.trans (restoredAccepted_iff system.manager candidate)
  by_cases accepted : LiveTaken system.manager candidate
  · rw [if_pos accepted]
    exact if_pos (accepts.mpr accepted)
  · rw [if_neg accepted]
    exact if_neg fun ok => accepted (accepts.mp ok)

theorem replaceBound_verdict (capacity : system.manager.configuration.WithinCapacity)
    (valid : irrigationConfigurationValidate candidate system.manager.boardZones = .ok)
    (bound : system.manager.schedulerService = true) : Verdict device candidate system
      (replaceBound device candidate (programsChanged system.manager candidate) system).1 := by
  have room : candidate.scheduleCount.toNat ≤ irrigationMaxSchedules := ((validate_ok_iff _ _).mp valid).1.schedules
  have offering := offered (candidateViews system.manager candidate) room
    (system.world.locked.showing (candidateViews system.manager candidate))
  cases outcome : schedulerServiceConfigureLocked ((candidateViews system.manager candidate).entries
      candidate.scheduleCount.toNat) (system.world.locked.showing (candidateViews system.manager candidate)) with
  | mk answer tried =>
    rw [outcome] at offering
    have accepts : answer = .ok ↔ CandidateTaken system.manager candidate := offered_ok_iff offering
    simp only [replaceBound,reconfigure_candidate outcome]
    by_cases refused : answer = .ok
    · rw [if_neg (not_not.mpr refused)]
      have accepted := accepts.mp refused
      obtain ⟨storage,⟨persists,saved⟩ | ⟨unsaved,failed⟩⟩ := persistCandidate_cases device candidate
        ⟨{ system.manager with views := candidateViews system.manager candidate },tried,system.storage⟩
      · rw [saved]
        exact .installed valid (fun _ => accepted) persists
      · rw [failed]
        dsimp only
        rw [if_pos (by simp),rollBack_result candidate capacity,ite_self]
        exact .unsaved valid (fun _ => accepted) unsaved
    · rw [if_pos refused,rollBack_result candidate capacity]
      have rejected : answer = .rejected := by
        cases offering with
        | refused => rfl
        | taken => exact absurd rfl refused
      rw [rejected]
      exact .refused valid bound fun accepted => refused (accepts.mpr accepted)

theorem replaceCandidate_verdict (capacity : system.manager.configuration.WithinCapacity) :
    Verdict device candidate system (replaceCandidate device candidate system).1 := by
  unfold replaceCandidate configurationManagerValidateCandidate
  by_cases valid : irrigationConfigurationValidate candidate system.manager.boardZones = .ok
  · simp only [valid,ne_eq,not_true_eq_false,if_false]
    by_cases bound : system.manager.schedulerService = true
    · rw [if_pos bound]
      exact replaceBound_verdict device candidate capacity valid bound
    · rw [if_neg bound]
      obtain ⟨storage,⟨persists,saved⟩ | ⟨unsaved,failed⟩⟩ := persistCandidate_cases device candidate system
      · simp only [replaceUnbound,saved,ne_eq,not_true_eq_false,if_false]
        exact .installed valid (fun other => absurd other bound) persists
      · simp only [replaceUnbound,failed,ne_eq,reduceCtorEq,not_false_eq_true,if_true]
        exact .unsaved valid (fun other => absurd other bound) unsaved
  · have rejected := (validate_cases candidate system.manager.boardZones).resolve_left valid
    simp only [rejected,ne_eq,reduceCtorEq,not_false_eq_true,if_true]
    exact .invalid valid

end Verdicts

end Irrigation
