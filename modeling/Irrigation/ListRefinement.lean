import Irrigation.DeletedEntries
import Irrigation.ListMutations

/-! The manager's edits refine the list operations: every call answers OK exactly when the
edit of the lists is allowed, and the live configuration is then the edited one. -/
namespace Irrigation

open Repository

/-! ### What an edit prepares -/

section Preparing

variable {boardZones : List Zone} {live next : LiveConfiguration} {mutation : Mutation}

/-- An edit prepares its list result, and a valid one exactly when it is allowed. -/
structure Prepares (boardZones : List Zone) (live : LiveConfiguration) (mutation : Mutation)
    (prepared : Except IrrigationResult LiveConfiguration) : Prop where
  allowed : (∃ next, prepared = .ok next ∧ next.Valid boardZones) ↔ mutation.Allowed boardZones live
  result : ∀ next, prepared = .ok next → mutation.Result live next

theorem Prepares.refused {failure : IrrigationResult} (forbidden : ¬mutation.Allowed boardZones live) :
    Prepares boardZones live mutation (.error failure) := by
  refine ⟨iff_of_false ?_ forbidden,fun _ made => by contradiction⟩
  rintro ⟨_,made,_⟩
  contradiction

theorem Prepares.made (valid : next.Valid boardZones ↔ mutation.Allowed boardZones live)
    (result : mutation.Result live next) : Prepares boardZones live mutation (.ok next) := by
  refine ⟨Iff.trans ?_ valid,?_⟩
  · constructor
    · rintro ⟨_,⟨⟩,accepted⟩
      exact accepted
    · exact fun accepted => ⟨next,rfl,accepted⟩
  · rintro _ ⟨⟩
    exact result

variable (valid : live.Valid boardZones)

include valid in
theorem renameZone_prepares (zoneId : CString) {displayName : CString} (short : displayName.bytes.length ≤ 31) :
    Prepares boardZones live (.renameZone (some zoneId) (some displayName))
      (live.renameZone (some zoneId) (some displayName)) := by
  simp only [LiveConfiguration.renameZone]
  cases found : live.zones.findIdx? fun zone => zone.zoneId.toCString = zoneId with
  | none =>
    apply Prepares.refused
    rintro ⟨⟨zone,member,named⟩,_⟩
    have other := List.findIdx?_eq_none_iff.mp found zone member
    rw [decide_eq_false_iff_not] at other
    exact other named
  | some index =>
    obtain ⟨inside,named,_⟩ := List.findIdx?_eq_some_iff_getElem.mp found
    rw [decide_eq_true_eq] at named
    have given : live.zones[index]? = some live.zones[index] := List.getElem?_eq_getElem inside
    dsimp only
    rw [modify_eq_set_of given]
    refine .made ?_ ⟨index,_,_,given,named,copyText_toCString _ (Nat.lt_succ_of_le short),rfl⟩
    rw [valid.zoneNamed_iff given,validText_copyText_iff short]
    exact ⟨fun name => ⟨⟨_,List.getElem_mem inside,named⟩,name⟩,fun allowed => allowed.2⟩

theorem validContent_iff {displayName : CString} (short : displayName.bytes.length ≤ 31)
    (steps : List IrrigationProgramStepConfiguration) : ValidContent boardZones displayName steps ↔
      ValidText (copyText displayName : NameText) ∧ steps.length ≤ irrigationMaxProgramSteps ∧
        ∀ step ∈ steps, ValidStep boardZones step := by
  rw [validText_copyText_iff short]
  exact ⟨fun content => ⟨content.name,content.room,content.steps⟩,fun parts => ⟨parts.1,parts.2.1,parts.2.2⟩⟩

include valid in
theorem createProgram_prepares {displayName : CString} (short : displayName.bytes.length ≤ 31)
    (steps : List IrrigationProgramStepConfiguration) :
    Prepares boardZones live (.createProgram (some displayName) (some steps))
      (live.saveProgram none (some displayName) (some steps)) := by
  simp only [LiveConfiguration.saveProgram]
  by_cases long : steps.length > irrigationMaxProgramSteps
  · rw [if_pos long]
    exact .refused fun allowed => Nat.not_le.mpr long allowed.2.1.room
  · by_cases full : live.programs.length ≥ irrigationMaxPrograms
    · rw [if_neg long,if_pos full]
      exact .refused fun allowed => Nat.not_le.mpr allowed.1 full
    · rw [if_neg long,if_neg full]
      refine .made ?_ ⟨_,copyText_toCString _ (Nat.lt_succ_of_le short),rfl⟩
      change LiveConfiguration.Valid boardZones { live with
        programs := live.programs ++ [⟨live.nextProgram,copyText displayName,steps⟩]
        nextProgramId := live.nextProgramId + 1 } ↔ _
      rw [valid.programAdded_iff,← validContent_iff short]
      exact Iff.rfl

include valid in
theorem updateProgram_prepares (programIndex : Nat) {displayName : CString} (short : displayName.bytes.length ≤ 31)
    (steps : List IrrigationProgramStepConfiguration) :
    Prepares boardZones live (.updateProgram programIndex (some displayName) (some steps))
      (live.saveProgram (some programIndex) (some displayName) (some steps)) := by
  simp only [LiveConfiguration.saveProgram]
  by_cases long : steps.length > irrigationMaxProgramSteps
  · rw [if_pos long]
    exact .refused fun allowed => Nat.not_le.mpr long allowed.2.room
  · by_cases outside : programIndex ≥ live.programs.length
    · rw [if_neg long,if_pos outside]
      exact .refused fun allowed => Nat.not_le.mpr allowed.1 outside
    · rw [if_neg long,if_neg outside]
      have inside := Nat.not_le.mp outside
      have given : live.programs[programIndex]? = some live.programs[programIndex] := List.getElem?_eq_getElem inside
      rw [modify_eq_set_of given]
      refine .made ?_ ⟨_,_,given,copyText_toCString _ (Nat.lt_succ_of_le short),rfl⟩
      rw [valid.programSet_iff given,← validContent_iff short]
      exact ⟨fun content => ⟨inside,content⟩,fun allowed => allowed.2⟩

include valid in
theorem deleteProgram_prepares (programIndex : Nat) :
    Prepares boardZones live (.deleteProgram programIndex) (live.deleteProgram programIndex) := by
  unfold LiveConfiguration.deleteProgram
  cases given : live.programs[programIndex]? with
  | none =>
    apply Prepares.refused
    rintro ⟨program,found,_⟩
    rw [given] at found
    contradiction
  | some program =>
    dsimp only
    split
    · next referenced =>
      apply Prepares.refused
      rintro ⟨other,found,unscheduled⟩
      rw [given,Option.some_inj] at found
      subst found
      obtain ⟨schedule,member,named⟩ := List.any_eq_true.mp referenced
      exact unscheduled schedule member (of_decide_eq_true named)
    · next unreferenced =>
      have unscheduled (schedule : IrrigationScheduleConfiguration) (member : schedule ∈ live.schedules) :
          schedule.programId ≠ program.programId :=
        fun named => unreferenced (List.any_eq_true.mpr ⟨schedule,member,decide_eq_true named⟩)
      exact .made (iff_of_true (valid.programErased given unscheduled) ⟨program,given,unscheduled⟩) rfl

include valid in
theorem createSchedule_prepares (revived : Bool) (weekdayMask hour minute : UInt8) {programId : CString}
    (short : programId.bytes.length ≤ 31) :
    Prepares boardZones live (.createSchedule weekdayMask hour minute (some programId))
      (live.saveSchedule revived none weekdayMask hour minute (some programId)) := by
  simp only [LiveConfiguration.saveSchedule]
  by_cases full : live.schedules.length ≥ irrigationMaxSchedules
  · rw [if_pos full]
    exact .refused fun allowed => Nat.not_le.mpr allowed.1 full
  · rw [if_neg full]
    refine .made ?_ ⟨_,_,copyText_toCString _ (Nat.lt_succ_of_le short),rfl⟩
    rw [valid.scheduleAdded_iff rfl]
    change _ ∧ ValidSchedule live.programs ⟨live.nextSchedule,revived,weekdayMask,hour,minute,copyText programId⟩ ∧ _ ↔ _
    rw [valid.scheduleSaved_iff (nextSchedule_valid live) revived weekdayMask hour minute short]
    constructor
    · rintro ⟨room,⟨time,program⟩,unused⟩
      exact ⟨room,time,program,unused⟩
    · rintro ⟨room,time,program,unused⟩
      exact ⟨room,⟨time,program⟩,unused⟩

include valid in
theorem updateSchedule_prepares (revived : Bool) (scheduleIndex : Nat) (weekdayMask hour minute : UInt8)
    {programId : CString} (short : programId.bytes.length ≤ 31) :
    Prepares boardZones live (.updateSchedule scheduleIndex weekdayMask hour minute (some programId))
      (live.saveSchedule revived (some scheduleIndex) weekdayMask hour minute (some programId)) := by
  simp only [LiveConfiguration.saveSchedule]
  by_cases outside : scheduleIndex ≥ live.schedules.length
  · rw [if_pos outside]
    exact .refused fun allowed => Nat.not_le.mpr allowed.1 outside
  · rw [if_neg outside]
    have inside := Nat.not_le.mp outside
    have given : live.schedules[scheduleIndex]? = some live.schedules[scheduleIndex] := List.getElem?_eq_getElem inside
    have known := (valid.schedules _ (List.getElem_mem inside)).scheduleId
    rw [modify_eq_set_of given]
    refine .made ?_ ⟨_,_,given,copyText_toCString _ (Nat.lt_succ_of_le short),rfl⟩
    rw [valid.scheduleSet_iff given (.save weekdayMask hour minute programId live.schedules[scheduleIndex]) rfl]
    change ValidSchedule live.programs ⟨live.schedules[scheduleIndex].scheduleId,
      live.schedules[scheduleIndex].enabled,weekdayMask,hour,minute,copyText programId⟩ ↔ _
    rw [valid.scheduleSaved_iff known _ weekdayMask hour minute short]
    exact ⟨fun saved => ⟨inside,saved⟩,fun allowed => allowed.2⟩

include valid in
theorem deleteSchedule_prepares (scheduleIndex : Nat) :
    Prepares boardZones live (.deleteSchedule scheduleIndex) (live.deleteSchedule scheduleIndex) := by
  unfold LiveConfiguration.deleteSchedule
  split
  · next outside => exact .refused (Nat.not_lt.mpr outside)
  · next inside => exact .made (iff_of_true (valid.scheduleErased scheduleIndex) (Nat.not_le.mp inside)) rfl

include valid in
theorem setScheduleEnabled_prepares (scheduleIndex : Nat) (enabled : Bool) :
    Prepares boardZones live (.setScheduleEnabled scheduleIndex enabled)
      (live.setScheduleEnabled scheduleIndex enabled) := by
  unfold LiveConfiguration.setScheduleEnabled
  split
  · next outside => exact .refused (Nat.not_lt.mpr outside)
  · next unbounded =>
    have inside := Nat.not_le.mp unbounded
    have given : live.schedules[scheduleIndex]? = some live.schedules[scheduleIndex] := List.getElem?_eq_getElem inside
    have known := valid.schedules _ (List.getElem_mem inside)
    rw [modify_eq_set_of given]
    refine .made (iff_of_true ?_ inside) ⟨_,given,rfl⟩
    refine (valid.scheduleSet_iff given (.enable enabled live.schedules[scheduleIndex]) rfl).mpr ?_
    exact ⟨known.scheduleId,known.programId,known.program,known.weekday,known.weekdays,known.hour,known.minute⟩

include valid in
theorem prepareLive_prepares (revived : Bool) (edits : ∀ candidate, mutation ≠ .replace candidate)
    (short : mutation.ShortTexts) :
    Prepares boardZones live mutation (mutation.prepareLive live revived) := by
  cases mutation with
  | renameZone zoneId displayName =>
    cases zoneId with
    | none => exact .refused id
    | some zoneId =>
      cases displayName with
      | none => exact .refused id
      | some displayName => exact renameZone_prepares valid zoneId short
  | createProgram displayName steps =>
    cases displayName with
    | none => exact .refused id
    | some displayName =>
      cases steps with
      | none => exact .refused id
      | some steps => exact createProgram_prepares valid short steps
  | updateProgram programIndex displayName steps =>
    cases displayName with
    | none => exact .refused id
    | some displayName =>
      cases steps with
      | none => exact .refused id
      | some steps => exact updateProgram_prepares valid programIndex short steps
  | deleteProgram programIndex => exact deleteProgram_prepares valid programIndex
  | createSchedule weekdayMask hour minute programId =>
    cases programId with
    | none => exact .refused id
    | some programId => exact createSchedule_prepares valid revived weekdayMask hour minute short
  | updateSchedule scheduleIndex weekdayMask hour minute programId =>
    cases programId with
    | none => exact .refused id
    | some programId => exact updateSchedule_prepares valid revived scheduleIndex weekdayMask hour minute short
  | deleteSchedule scheduleIndex => exact deleteSchedule_prepares valid scheduleIndex
  | setScheduleEnabled scheduleIndex enabled => exact setScheduleEnabled_prepares valid scheduleIndex enabled
  | replace candidate => exact absurd rfl (edits candidate)

end Preparing

/-! ### Calls -/

section Calls

variable {ε σ : Type} (device : ConfigurationRepositoryStorage σ) (boardZones : List Zone)

/-- One call against the lists it starts from. -/
structure RefinesLists (mutation : Mutation) (before after : ManagedSystem ε σ) (answer : IrrigationResult) : Prop where
  accepted : answer = .ok ↔ mutation.Allowed boardZones before.manager.configuration.live
  installed : answer = .ok → mutation.Result before.manager.configuration.live after.manager.configuration.live
  kept : answer ≠ .ok → after.manager.configuration = before.manager.configuration
  valid : irrigationConfigurationValidate after.manager.configuration boardZones = .ok
  scheduled : ∀ schedule ∈ after.manager.configuration.live.schedules,
    ∃ program ∈ after.manager.configuration.live.programs, program.programId = schedule.programId

/-- A manager of the board with a valid configuration. -/
structure Governs (system : ManagedSystem ε σ) : Prop where
  board : system.manager.boardZones = boardZones
  valid : irrigationConfigurationValidate system.manager.configuration boardZones = .ok

variable {device boardZones} {system : ManagedSystem ε σ}

/-- A call leaves the configuration, or it installs the valid one that it prepared. -/
theorem mutate_installs (device : ConfigurationRepositoryStorage σ) (mutation : Mutation) (system : ManagedSystem ε σ) :
    (mutated device mutation system).manager.boardZones = system.manager.boardZones ∧
    ((mutate device mutation system).1 ≠ .ok ∧
      (mutated device mutation system).manager.configuration = system.manager.configuration ∨
    (mutate device mutation system).1 = .ok ∧
      mutation.prepare system.manager.configuration = .ok (mutated device mutation system).manager.configuration ∧
      irrigationConfigurationValidate (mutated device mutation system).manager.configuration
        system.manager.boardZones = .ok) := by
  unfold mutated
  rcases mutate_cases device mutation system with ⟨result,failed,_,call⟩ | ⟨candidate,prepared,call⟩
  · rw [call]
    exact ⟨rfl,.inl ⟨failed,rfl⟩⟩
  · have step := replaceCandidate_step device candidate system
    have configuration := replaceCandidate_configuration device candidate system
    rw [call]
    refine ⟨step.kept.2,?_⟩
    by_cases ok : (replaceCandidate device candidate system).1 = .ok
    · rw [if_pos ok] at configuration
      rw [ok] at step
      rw [configuration]
      exact .inr ⟨ok,prepared,step.valid⟩
    · rw [if_neg ok] at configuration
      exact .inl ⟨ok,configuration⟩

theorem Governs.mutated (governs : Governs boardZones system) (device : ConfigurationRepositoryStorage σ)
    (mutation : Mutation) :
    Governs boardZones (mutated device mutation system) := by
  obtain ⟨board,⟨_,same⟩ | ⟨_,_,valid⟩⟩ := mutate_installs device mutation system
  · exact ⟨board.trans governs.board,by rw [same]; exact governs.valid⟩
  · rw [governs.board] at valid
    exact ⟨board.trans governs.board,valid⟩

/-- Without a scheduler a call whose candidate is valid and persists is answered OK. -/
theorem mutate_ok (governs : Governs boardZones system) (unbound : system.manager.schedulerService = false)
    {mutation : Mutation} {candidate : IrrigationConfiguration}
    (prepared : mutation.prepare system.manager.configuration = .ok candidate)
    (valid : irrigationConfigurationValidate candidate boardZones = .ok) (persists : Persists device candidate system) :
    (mutate device mutation system).1 = .ok := by
  have capacity := ((validate_ok_iff _ _).mp governs.valid).1
  rcases mutate_cases device mutation system with ⟨_,_,refused,_⟩ | ⟨other,same,call⟩
  · rw [prepared] at refused
    contradiction
  · rw [prepared] at same
    cases same
    have verdict := replaceCandidate_verdict device candidate capacity
    rw [call]
    generalize (replaceCandidate device candidate system).1 = answer at verdict
    cases verdict with
    | invalid invalid =>
      rw [governs.board] at invalid
      exact absurd valid invalid
    | refused _ bound => exact absurd (bound.symm.trans unbound) (by decide)
    | unsaved _ _ unsaved => exact absurd persists unsaved
    | installed => rfl

theorem mutate_refines (governs : Governs boardZones system) (unbound : system.manager.schedulerService = false)
    {mutation : Mutation} (edits : ∀ candidate, mutation ≠ .replace candidate) (short : mutation.ShortTexts)
    (persists : ∀ candidate, mutation.prepare system.manager.configuration = .ok candidate →
      Persists device candidate system) :
    RefinesLists boardZones mutation system (mutate device mutation system).2 (mutate device mutation system).1 := by
  obtain ⟨capacity,live⟩ := (validate_ok_iff _ _).mp governs.valid
  have prepares := prepareLive_prepares live system.manager.configuration.revivedEnabled edits short
  have lists := prepare_live capacity mutation
  have next := governs.mutated device mutation
  have installs := (mutate_installs device mutation system).2
  have accepted : (mutate device mutation system).1 = .ok ↔
      mutation.Allowed boardZones system.manager.configuration.live := by
    rw [← prepares.allowed,← lists]
    constructor
    · intro ok
      obtain ⟨refused,_⟩ | ⟨_,prepared,_⟩ := installs
      · exact absurd ok refused
      · rw [prepared]
        exact ⟨_,rfl,((validate_ok_iff _ _).mp next.valid).2⟩
    · rintro ⟨edited,made,valid⟩
      cases prepared : mutation.prepare system.manager.configuration with
      | error failure =>
        rw [prepared] at made
        contradiction
      | ok candidate =>
        rw [prepared] at made
        cases made
        have room := prepare_capacity edits capacity prepared
        exact mutate_ok governs unbound prepared ((validate_ok_iff _ _).mpr ⟨room,valid⟩) (persists candidate prepared)
  refine ⟨accepted,fun ok => ?_,fun failed => ?_,next.valid,fun schedule member => ?_⟩
  · obtain ⟨refused,_⟩ | ⟨_,prepared,_⟩ := installs
    · exact absurd ok refused
    · apply prepares.result
      rw [← lists,prepared]
      rfl
  · obtain ⟨_,same⟩ | ⟨ok,_⟩ := installs
    · exact same
    · exact absurd ok failed
  · exact (((validate_ok_iff _ _).mp next.valid).2.schedules schedule member).program

end Calls

/-! ### From the defaults on -/

/-- An action on the manager, or another load of the stored configuration over the live one. -/
inductive ManagerCall (ε : Type) where
  | act (action : ManagerAction ε)
  | reload

section Runs

variable {ε σ : Type} (device : ConfigurationRepositoryStorage σ) (boardZones : List Zone)

def reloaded (system : ManagedSystem ε σ) : ManagedSystem ε σ :=
  let (_,manager,storage) := configurationManagerLoadOrPersistDefaults device system.manager system.storage
  ⟨manager,{ system.world with memory := manager.views.memory },storage⟩

def managerCall (call : ManagerCall ε) (system : ManagedSystem ε σ) : ManagedSystem ε σ :=
  match call with
  | .act action => act device boardZones action system
  | .reload => reloaded device system

/-- The creation that a call is, if it goes through. -/
def ManagerCall.created (call : ManagerCall ε) (system : ManagedSystem ε σ) : List Mutation :=
  match call with
  | .act (.mutate mutation) =>
    if mutation.creates ∧ (Irrigation.mutate device mutation system).1 = .ok then [mutation] else []
  | _ => []

/-- Only edits go through, and a load brings the live configuration or the defaults back. -/
def Remembers (call : ManagerCall ε) (system : ManagedSystem ε σ) : Prop :=
  match call with
  | .act (.mutate mutation) => ∀ candidate, mutation ≠ .replace candidate
  | .act (.elapse _) => True
  | call => (managerCall device boardZones call system).manager.configuration.live = system.manager.configuration.live ∨
    (managerCall device boardZones call system).manager.configuration.live = (devKitDefaults boardZones).live

/-- A manager that has just been initialized, with what is set and bound on it. -/
def initialSystem (repository persistenceRequired scheduler : Bool) (manager : ConfigurationManager) (world : World ε)
    (storage : σ) : ManagedSystem ε σ :=
  ⟨started repository persistenceRequired scheduler manager,world,storage⟩

variable {device boardZones} {system : ManagedSystem ε σ} {manager : ConfigurationManager}

/-! #### Validity -/

theorem bootable_of_initialized {unbooted : ConfigurationManager}
    (initialized : configurationManagerInitDevKitDefaults boardZones unbooted = (.ok,manager)) : Bootable boardZones := by
  intro other
  unfold configurationManagerInitDevKitDefaults at initialized ⊢
  split at initialized
  · exact absurd (congrArg Prod.fst initialized) (by simp)
  · next board =>
    rw [if_neg board]
    exact congrArg Prod.fst initialized

theorem initialSystem_governs {unbooted : ConfigurationManager}
    (initialized : configurationManagerInitDevKitDefaults boardZones unbooted = (.ok,manager))
    (repository persistenceRequired scheduler : Bool) (world : World ε) (storage : σ) :
    Governs boardZones (initialSystem repository persistenceRequired scheduler manager world storage) := by
  obtain ⟨board,_,faithful⟩ := init_faithful initialized
  refine ⟨board,?_⟩
  rw [← board]
  exact faithful.valid

/-- A load installs a valid configuration or leaves the manager's. -/
theorem load_governs (board : manager.boardZones = boardZones)
    (valid : irrigationConfigurationValidate manager.configuration boardZones = .ok) (state : σ) :
    (configurationManagerLoadOrPersistDefaults device manager state).2.1.boardZones = boardZones ∧
      irrigationConfigurationValidate
        (configurationManagerLoadOrPersistDefaults device manager state).2.1.configuration boardZones = .ok := by
  cases run : configurationRepositoryLoad device manager.boardZones state with
  | mk outcome next =>
    cases outcome with
    | ok found =>
      obtain ⟨loaded,generation⟩ := found
      have load := congrArg Prod.fst run
      rw [(loadOrPersistDefaults_loaded load).2]
      rw [board] at load
      exact ⟨board,load_valid load⟩
    | error failure =>
      have kept : (configurationManagerLoadOrPersistDefaults device manager state).2.1 = manager := by
        cases failure <;> simp only [configurationManagerLoadOrPersistDefaults,run]
        split <;> rfl
      rw [kept]
      exact ⟨board,valid⟩

theorem Governs.call (governs : Governs boardZones system) (bootable : Bootable boardZones) (call : ManagerCall ε) :
    Governs boardZones (managerCall device boardZones call system) := by
  cases call with
  | reload =>
    obtain ⟨board,valid⟩ := load_governs governs.board governs.valid system.storage
    exact ⟨board,valid⟩
  | act action =>
    cases action with
    | mutate mutation => exact governs.mutated device mutation
    | elapse world => exact ⟨governs.board,governs.valid⟩
    | restart persistenceRequired scheduler world =>
      obtain ⟨defaults,initialized,board,_,valid⟩ := bootable.initialized system.manager
      obtain ⟨loadedBoard,loadedValid⟩ := load_governs board valid system.storage
      simp only [managerCall,act,restart,initialized]
      exact ⟨loadedBoard,loadedValid⟩

/-! #### Ids -/

/-- The entries' ids are the default one or were given before the counter got here, and the
counter stays behind a number of creations. -/
structure IdSpace.Tracked (space : IdSpace) (live : LiveConfiguration) (count : Nat) : Prop where
  known : ∀ id ∈ space.ids live, id ∈ Numbering.Given {space.default} (numberedId space.stem) (space.next live).toNat
  counted : (space.next live).toNat ≤ count + 1

theorem IdSpace.Tracked.steps {space : IdSpace} {live next : LiveConfiguration} {count : Nat} {creates : Bool}
    (tracked : space.Tracked live count) (steps : space.Steps creates live next) :
    space.Tracked next (count + creates.toNat) := by
  refine ⟨steps.allots.known tracked.known,?_⟩
  have counted := tracked.counted
  have further := steps.counted
  omega

theorem IdSpace.Tracked.more {space : IdSpace} {live : LiveConfiguration} {count : Nat}
    (tracked : space.Tracked live count) (extra : Nat) : space.Tracked live (count + extra) :=
  ⟨tracked.known,tracked.counted.trans (by omega)⟩

theorem IdSpace.Tracked.unused {space : IdSpace} {live : LiveConfiguration} {count : Nat} (distinct : space.Distinct)
    (tracked : space.Tracked live count) : numberedId space.stem (space.next live).toNat ∉ space.ids live :=
  fun taken => distinct.fresh (UInt32.toNat_lt _) (tracked.known _ taken)

/-- Programs and schedules together. -/
def Tracked (live : LiveConfiguration) (count : Nat) : Prop :=
  programSpace.Tracked live count ∧ scheduleSpace.Tracked live count

theorem defaults_tracked (boardZones : List Zone) (count : Nat) : Tracked (devKitDefaults boardZones).live count := by
  constructor
  · refine ⟨fun id member => .inl ?_,Nat.le_add_left 1 count⟩
    rw [programSpace_ids,devKitDefaults_livePrograms] at member
    exact List.mem_singleton.mp member
  · refine ⟨fun id member => .inl ?_,Nat.le_add_left 1 count⟩
    rw [scheduleSpace_ids,devKitDefaults_liveSchedules] at member
    exact List.mem_singleton.mp member

theorem Tracked.nextUnused {live : LiveConfiguration} {count : Nat} (tracked : Tracked live count) : live.NextUnused :=
  ⟨tracked.1.unused programSpace_distinct,tracked.2.unused scheduleSpace_distinct⟩

theorem Tracked.call {count : Nat} (tracked : Tracked system.manager.configuration.live count)
    (governs : Governs boardZones system) {call : ManagerCall ε} (remembers : Remembers device boardZones call system)
    (few : count + 2 < 2 ^ 32) : Tracked (managerCall device boardZones call system).manager.configuration.live
      (count + (call.created device system).length) := by
  have recalled (same : (managerCall device boardZones call system).manager.configuration.live =
      system.manager.configuration.live ∨ (managerCall device boardZones call system).manager.configuration.live =
        (devKitDefaults boardZones).live) : Tracked (managerCall device boardZones call system).manager.configuration.live
        (count + (call.created device system).length) := by
    rcases same with same | same
    · rw [same]
      exact ⟨tracked.1.more _,tracked.2.more _⟩
    · rw [same]
      exact defaults_tracked ..
  cases call with
  | reload => exact recalled remembers
  | act action =>
    cases action with
    | restart => exact recalled remembers
    | elapse world => exact recalled (.inl rfl)
    | mutate mutation =>
      rcases (mutate_installs device mutation system).2 with ⟨_,same⟩ | ⟨ok,prepared,_⟩
      · exact recalled (.inl (congrArg (·.live) same))
      · have lists := prepare_live ((validate_ok_iff _ _).mp governs.valid).1 mutation
        rw [prepared] at lists
        have programs := tracked.1.counted
        have schedules := tracked.2.counted
        have programRoom : system.manager.configuration.nextProgramId.toNat + 1 < 2 ^ 32 := by
          change system.manager.configuration.nextProgramId.toNat ≤ count + 1 at programs
          omega
        have scheduleRoom : system.manager.configuration.nextScheduleId.toNat + 1 < 2 ^ 32 := by
          change system.manager.configuration.nextScheduleId.toNat ≤ count + 1 at schedules
          omega
        have stepping := prepareLive_steps (fun candidate => remembers (some candidate)) programRoom scheduleRoom lists.symm
        have counts : (ManagerCall.created device (.act (.mutate mutation)) system).length = mutation.creates.toNat := by
          cases creates : mutation.creates <;> simp [ManagerCall.created,creates,ok]
        rw [counts]
        exact ⟨tracked.1.steps stepping.1,tracked.2.steps stepping.2⟩

theorem Tracked.after {count : Nat} (tracked : Tracked system.manager.configuration.live count)
    (governs : Governs boardZones system) (bootable : Bootable boardZones) {calls : List (ManagerCall ε)}
    (remembers : Runs.Along (managerCall device boardZones) (Remembers device boardZones) calls system)
    (few : count + (Runs.log (managerCall device boardZones) (ManagerCall.created device) calls system).length + 2 < 2 ^ 32) :
    Tracked (Runs.after (managerCall device boardZones) calls system).manager.configuration.live
      (count + (Runs.log (managerCall device boardZones) (ManagerCall.created device) calls system).length) := by
  induction calls generalizing system count with
  | nil => exact tracked
  | cons call rest ih =>
    rw [Runs.log,List.length_append] at few ⊢
    rw [← Nat.add_assoc] at few ⊢
    exact ih (tracked.call governs remembers.1 (by omega)) (governs.call bootable call) remembers.2 few

/-- Whatever calls and loads came before, on whatever device: without a scheduler and with nothing to
persist or a save that succeeds, an edit is answered OK exactly when its list operation is allowed, and
then the live configuration is the list result; otherwise it stays. The ids that the counters give next
are unused as long as loads bring nothing foreign and fewer than 2 ^ 32 - 1 entries are created. -/
theorem edits_refine_lists (device : ConfigurationRepositoryStorage σ) {unbooted : ConfigurationManager}
    (initialized : configurationManagerInitDevKitDefaults boardZones unbooted = (.ok,manager))
    (repository persistenceRequired scheduler : Bool) (world : World ε) (storage : σ) (calls : List (ManagerCall ε))
    {mutation : Mutation} (edits : ∀ candidate, mutation ≠ .replace candidate) (short : mutation.ShortTexts) :
    let first := initialSystem repository persistenceRequired scheduler manager world storage
    let system := Runs.after (managerCall device boardZones) calls first
    (system.manager.schedulerService = false →
      (∀ candidate, mutation.prepare system.manager.configuration = .ok candidate → Persists device candidate system) →
      RefinesLists boardZones mutation system (mutate device mutation system).2 (mutate device mutation system).1) ∧
    (Runs.Along (managerCall device boardZones) (Remembers device boardZones) calls first →
      (Runs.log (managerCall device boardZones) (ManagerCall.created device) calls first).length + 1 < 2 ^ 32 - 1 →
      system.manager.configuration.live.NextUnused) := by
  intro first system
  have bootable := bootable_of_initialized initialized
  have governed : Governs boardZones first :=
    initialSystem_governs initialized repository persistenceRequired scheduler world storage
  have governs : Governs boardZones system :=
    Runs.invariant_after (fun call _ governs => governs.call bootable call) governed calls
  refine ⟨fun unbound persists => mutate_refines governs unbound edits short persists,fun remembers few => ?_⟩
  have defaults : first.manager.configuration = devKitDefaults boardZones := (init_faithful initialized).2.1
  have tracked : Tracked first.manager.configuration.live 0 := by
    rw [defaults]
    exact defaults_tracked ..
  exact (tracked.after governed bootable remembers (by omega)).nextUnused

/-- Restarts on a reliable store bring back what was live. -/
theorem restart_remembers {contents : σ → SlotContents} (reliable : Reliable device contents)
    (bootable : Bootable boardZones) (durable : Durable contents boardZones system)
    (persistenceRequired scheduler : Bool) (world : World ε) :
    Remembers device boardZones (.act (.restart persistenceRequired scheduler world)) system :=
  .inl (restart_durable reliable bootable durable persistenceRequired scheduler world).2

end Runs

/-- A program is created, and the store that holds nothing yet is loaded again. -/
def devEdits : List (ManagerCall UInt64) :=
  [.act (.mutate (.createProgram (some (.literal "lawn")) (some []))),.reload]

def emptySlots : SlotContents := fun _ => none

theorem devEdits_remembers : Runs.Along (managerCall memoryStorage devZones) (Remembers memoryStorage devZones) devEdits
    (initialSystem false false false devManager (devWorld devProgram) emptySlots) := by
  refine ⟨nofun,?_,trivial⟩
  apply Or.inl
  decide +kernel

theorem edits_refine_lists_devEdits :
    let first := initialSystem false false false devManager (devWorld devProgram) emptySlots
    let system := Runs.after (managerCall memoryStorage devZones) devEdits first
    let mutation : Mutation := .createSchedule 1 7 0 (some (.literal "program-1"))
    RefinesLists devZones mutation system (mutate memoryStorage mutation system).2 (mutate memoryStorage mutation system).1 ∧
      system.manager.configuration.live.NextUnused := by
  have short : (CString.literal "program-1").bytes.length ≤ 31 := by decide
  have edits : ∀ candidate, Mutation.createSchedule 1 7 0 (some (.literal "program-1")) ≠ .replace candidate := nofun
  obtain ⟨refines,unused⟩ := edits_refine_lists memoryStorage devManager_initialized false false false (devWorld devProgram)
    emptySlots devEdits edits short
  refine ⟨refines ?_ fun candidate _ => ?_,unused devEdits_remembers ?_⟩
  · decide +kernel
  · rw [Persists,if_neg]
    · decide +kernel
    · decide +kernel
  · decide +kernel

end Irrigation
