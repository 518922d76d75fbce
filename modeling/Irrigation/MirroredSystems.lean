import Irrigation.InstalledConfigurations
import Irrigation.Operations

/-! The manager with a scheduler that runs the entries its views show, what a locked
replacement does to both, and that every edit leaves them in step. -/
namespace Irrigation

open KeyedSlots

variable {ε σ : Type}

/-- A bound scheduler runs the runtime schedules of a manager whose views track its configuration. -/
structure Mirrored (system : ManagedSystem ε σ) : Prop where
  faithful : Faithful system.manager
  bound : system.manager.schedulerService = true
  linked : system.world.memory = system.manager.views.memory
  entries : system.world.entries = system.manager.views.entries system.manager.configuration.scheduleCount.toNat

/-! ### A locked replacement -/

/-- The views rebuilt for a candidate. -/
def candidateViews (manager : ConfigurationManager) (candidate : IrrigationConfiguration) : RuntimeViews :=
  rebuildRuntimeViews manager.views candidate (programsChanged manager candidate)

/-- The views rebuilt for a candidate and then for the live configuration again. -/
def restoredViews (manager : ConfigurationManager) (candidate : IrrigationConfiguration) : RuntimeViews :=
  rebuildRuntimeViews (candidateViews manager candidate) manager.configuration (programsChanged manager candidate)

def World.locked (world : World ε) : World ε := (schedulerServiceLock world).2

def World.unlocked (world : World ε) : World ε := (schedulerServiceUnlock world).2

/-- The world once the manager rebuilt its views. -/
def World.showing (world : World ε) (views : RuntimeViews) : World ε := { world with memory := views.memory }

/-- Whether a candidate gets past the repository. -/
def Persists (device : Repository.ConfigurationRepositoryStorage σ) (candidate : IrrigationConfiguration)
    (system : ManagedSystem ε σ) : Prop :=
  if system.manager.repository then
    (Repository.configurationRepositorySave device candidate system.manager.boardZones system.storage).1 = .ok
  else system.manager.persistenceRequired = false

/-- Entries offered to the scheduler are refused or taken on. -/
inductive Offered (world : World ε) (entries : List SchedulerEntry) : IrrigationResult → World ε → Prop
  | refused (unaccepted : entriesAreAccepted world.memory entries = false) : Offered world entries .rejected world
  | taken {next : World ε} (accepted : entriesAreAccepted world.memory entries = true)
      (reconfigured : Reconfigured world next entries) : Offered world entries .ok next

theorem offered (views : RuntimeViews) {count : Nat} (room : count ≤ irrigationMaxSchedules) (world : World ε) :
    Offered world (views.entries count) (schedulerServiceConfigureLocked (views.entries count) world).1
      (schedulerServiceConfigureLocked (views.entries count) world).2 := by
  rw [← views.entries_length count] at room
  rcases schedulerServiceConfigureLocked_cases (views.entries count) world with
    ⟨refused,run⟩ | ⟨⟨_,accepted⟩,next,run,reconfigured⟩
  · rw [run]
    exact .refused (refused.resolve_left (Nat.not_lt.mpr room))
  · rw [run]
    exact .taken accepted reconfigured

theorem Offered.ok_iff {world next : World ε} {entries : List SchedulerEntry} {answer : IrrigationResult}
    (offered : Offered world entries answer next) : answer = .ok ↔ entriesAreAccepted world.memory entries = true := by
  cases offered with
  | refused unaccepted => exact ⟨nofun,fun accepted => absurd (accepted.symm.trans unaccepted) (by simp)⟩
  | taken accepted => exact ⟨fun _ => accepted,fun _ => rfl⟩

section Replacing

variable (device : Repository.ConfigurationRepositoryStorage σ) (candidate : IrrigationConfiguration)

/-- The scheduler is offered the candidate's entries; then the candidate is installed, or the
live configuration's entries are taken on again. -/
inductive Replacing (system : ManagedSystem ε σ) : IrrigationResult → ManagedSystem ε σ → Prop
  | installed {tried : World ε} {storage : σ} (persists : Persists device candidate system)
      (taken : Offered (system.world.locked.showing (candidateViews system.manager candidate))
        ((candidateViews system.manager candidate).entries candidate.scheduleCount.toNat) .ok tried) :
      Replacing system .ok ⟨{ system.manager with
        configuration := candidate, views := candidateViews system.manager candidate },tried.unlocked,storage⟩
  | restored {answer : IrrigationResult} {tried back : World ε} {storage : σ}
      (failed : answer = .ok → ¬Persists device candidate system)
      (offered : Offered (system.world.locked.showing (candidateViews system.manager candidate))
        ((candidateViews system.manager candidate).entries candidate.scheduleCount.toNat) answer tried)
      (taken : Offered (tried.showing (restoredViews system.manager candidate))
        ((restoredViews system.manager candidate).entries system.manager.configuration.scheduleCount.toNat) .ok back) :
      Replacing system (if answer = .ok then .internalError else answer) ⟨{ system.manager with
        views := restoredViews system.manager candidate },back.unlocked,storage⟩

/-- Persisting touches nothing but the device. -/
theorem persistCandidate_cases (system : ManagedSystem ε σ) : ∃ storage,
    Persists device candidate system ∧ persistCandidate device candidate system = (.ok,{ system with storage }) ∨
    ¬Persists device candidate system ∧
      persistCandidate device candidate system = (.internalError,{ system with storage }) := by
  unfold persistCandidate Persists
  by_cases repository : system.manager.repository = true
  · rw [if_pos repository,if_pos repository]
    cases saved : Repository.configurationRepositorySave device candidate system.manager.boardZones system.storage with
    | mk result storage =>
      refine ⟨storage,?_⟩
      by_cases done : result = .ok <;> simp [done]
  · rw [if_neg repository,if_neg repository]
    refine ⟨system.storage,?_⟩
    cases system.manager.persistenceRequired <;> simp

variable {device candidate} {system : ManagedSystem ε σ}

theorem reconfigure_run (configuration : IrrigationConfiguration) (changed : Bool) (system : ManagedSystem ε σ) :
    reconfigure configuration changed system =
      let views := rebuildRuntimeViews system.manager.views configuration changed
      let outcome := schedulerServiceConfigureLocked (views.entries configuration.scheduleCount.toNat)
        (system.world.showing views)
      (outcome.1,⟨{ system.manager with views },outcome.2,system.storage⟩) := rfl

/-- The first reconfiguration of a replacement. -/
theorem reconfigure_candidate {answer : IrrigationResult} {tried : World ε}
    (outcome : schedulerServiceConfigureLocked
      ((candidateViews system.manager candidate).entries candidate.scheduleCount.toNat)
      (system.world.locked.showing (candidateViews system.manager candidate)) = (answer,tried)) :
    reconfigure candidate (programsChanged system.manager candidate) (system.schedule schedulerServiceLock).2 =
      (answer,⟨{ system.manager with views := candidateViews system.manager candidate },tried,system.storage⟩) := by
  rw [reconfigure_run]
  change ((schedulerServiceConfigureLocked ((candidateViews system.manager candidate).entries
    candidate.scheduleCount.toNat) (system.world.locked.showing (candidateViews system.manager candidate))).1,_) = _
  rw [outcome]
  congr 2
  exact congrArg Prod.snd outcome

/-- From views that track the live configuration the rollback is taken on. -/
theorem rollBack_taken (faithful : Faithful system.manager)
    (valid : irrigationConfigurationValidate candidate system.manager.boardZones = .ok) (tried : World ε) :
    Offered (tried.showing (restoredViews system.manager candidate))
      ((restoredViews system.manager candidate).entries system.manager.configuration.scheduleCount.toNat) .ok
      (schedulerServiceConfigureLocked
        ((restoredViews system.manager candidate).entries system.manager.configuration.scheduleCount.toNat)
        (tried.showing (restoredViews system.manager candidate))).2 ∧
      (schedulerServiceConfigureLocked
        ((restoredViews system.manager candidate).entries system.manager.configuration.scheduleCount.toNat)
        (tried.showing (restoredViews system.manager candidate))).1 = .ok := by
  have back : Faithful { system.manager with views := restoredViews system.manager candidate } :=
    ⟨faithful.valid,faithful.back valid⟩
  have accepted := entries_accepted back.valid back.mirrors
  have room : system.manager.configuration.scheduleCount.toNat ≤ irrigationMaxSchedules :=
    ((validate_ok_iff _ _).mp faithful.valid).1.schedules
  have offering := offered (restoredViews system.manager candidate) room
    (tried.showing (restoredViews system.manager candidate))
  cases result : schedulerServiceConfigureLocked ((restoredViews system.manager candidate).entries
      system.manager.configuration.scheduleCount.toNat) (tried.showing (restoredViews system.manager candidate)) with
  | mk answer back =>
    rw [result] at offering
    cases offering with
    | refused unaccepted =>
      change entriesAreAccepted (restoredViews system.manager candidate).memory _ = false at unaccepted
      rw [accepted] at unaccepted
      contradiction
    | taken accepted reconfigured => exact ⟨.taken accepted reconfigured,rfl⟩

/-- The end of a replacement that failed with its views rebuilt and its entries offered. -/
theorem rollBack_restored (faithful : Faithful system.manager)
    (valid : irrigationConfigurationValidate candidate system.manager.boardZones = .ok) {answer : IrrigationResult}
    {tried : World ε} (storage : σ) (failed : answer = .ok → ¬Persists device candidate system)
    (offering : Offered (system.world.locked.showing (candidateViews system.manager candidate))
      ((candidateViews system.manager candidate).entries candidate.scheduleCount.toNat) answer tried) :
    let outcome := rollBack (if answer = .ok then .internalError else answer)
      (programsChanged system.manager candidate)
      ⟨{ system.manager with views := candidateViews system.manager candidate },tried,storage⟩
    Replacing device candidate system outcome.1 outcome.2 := by
  intro outcome
  obtain ⟨taken,result⟩ := rollBack_taken faithful valid tried
  have run : outcome = (if answer = .ok then .internalError else answer,
      ⟨{ system.manager with views := restoredViews system.manager candidate },
        (schedulerServiceConfigureLocked ((restoredViews system.manager candidate).entries
          system.manager.configuration.scheduleCount.toNat)
          (tried.showing (restoredViews system.manager candidate))).2.unlocked,storage⟩) := by
    change (if (schedulerServiceConfigureLocked ((restoredViews system.manager candidate).entries
          system.manager.configuration.scheduleCount.toNat)
          (tried.showing (restoredViews system.manager candidate))).1 = .ok then _ else _,_) = _
    rw [if_pos result]
    rfl
  rw [run]
  exact .restored failed offering taken

theorem replaceBound_replacing (faithful : Faithful system.manager)
    (valid : irrigationConfigurationValidate candidate system.manager.boardZones = .ok) :
    Replacing device candidate system
      (replaceBound device candidate (programsChanged system.manager candidate) system).1
      (replaceBound device candidate (programsChanged system.manager candidate) system).2 := by
  have room : candidate.scheduleCount.toNat ≤ irrigationMaxSchedules := ((validate_ok_iff _ _).mp valid).1.schedules
  have offering := offered (candidateViews system.manager candidate) room
    (system.world.locked.showing (candidateViews system.manager candidate))
  cases outcome : schedulerServiceConfigureLocked ((candidateViews system.manager candidate).entries
      candidate.scheduleCount.toNat) (system.world.locked.showing (candidateViews system.manager candidate)) with
  | mk answer tried =>
    rw [outcome] at offering
    simp only [replaceBound,reconfigure_candidate outcome]
    by_cases refused : answer = .ok
    · subst refused
      rw [if_neg (not_not.mpr rfl)]
      obtain ⟨storage,⟨persists,saved⟩ | ⟨unsaved,failed⟩⟩ := persistCandidate_cases device candidate
        ⟨{ system.manager with views := candidateViews system.manager candidate },tried,system.storage⟩
      · rw [saved]
        exact .installed persists offering
      · rw [failed]
        exact rollBack_restored faithful valid storage (fun _ => unsaved) offering
    · rw [if_pos refused]
      have restored : let outcome := rollBack (if answer = .ok then .internalError else answer) _ _
          Replacing device candidate system outcome.1 outcome.2 :=
        rollBack_restored faithful valid system.storage (fun ok => absurd ok refused) offering
      rw [if_neg refused] at restored
      exact restored

variable (device) in
/-- A call is refused before it touched anything, or it runs the locked section for a valid candidate. -/
theorem mutate_replacing (mirrored : Mirrored system) (mutation : Mutation) :
    (∃ result, result ≠ .ok ∧ mutate device mutation system = (result,system) ∧
      ∀ candidate, mutation.prepare system.manager.configuration = .ok candidate →
        irrigationConfigurationValidate candidate system.manager.boardZones ≠ .ok) ∨
    ∃ candidate, mutation.prepare system.manager.configuration = .ok candidate ∧
      irrigationConfigurationValidate candidate system.manager.boardZones = .ok ∧
      Replacing device candidate system (mutate device mutation system).1 (mutate device mutation system).2 := by
  rcases mutate_cases device mutation system with ⟨result,failed,refused,run⟩ | ⟨candidate,prepared,run⟩
  · refine .inl ⟨result,failed,run,fun candidate prepared => ?_⟩
    rw [refused] at prepared
    contradiction
  · by_cases valid : irrigationConfigurationValidate candidate system.manager.boardZones = .ok
    · refine .inr ⟨candidate,prepared,valid,?_⟩
      rw [run]
      simp only [replaceCandidate,configurationManagerValidateCandidate,valid,ne_eq,not_true_eq_false,if_false,
        mirrored.bound,if_true]
      exact replaceBound_replacing mirrored.faithful valid
    · refine .inl ⟨_,valid,?_,fun other otherPrepared => ?_⟩
      · rw [run]
        simp only [replaceCandidate,configurationManagerValidateCandidate,valid,ne_eq,not_false_eq_true,if_true]
      · rw [prepared] at otherPrepared
        cases otherPrepared
        exact valid

end Replacing

/-! ### What a replacement leaves -/

theorem Offered.memory {world next : World ε} {entries : List SchedulerEntry} {answer : IrrigationResult}
    (offered : Offered world entries answer next) : next.memory = world.memory := by
  cases offered with
  | refused => rfl
  | taken _ reconfigured => exact reconfigured.memory

theorem Offered.reconfigured {world next : World ε} {entries : List SchedulerEntry}
    (offered : Offered world entries .ok next) : Reconfigured world next entries := by
  cases offered with
  | taken _ reconfigured => exact reconfigured

section Edits

variable {device : Repository.ConfigurationRepositoryStorage σ} {candidate : IrrigationConfiguration}
  {system next : ManagedSystem ε σ} {result : IrrigationResult}

/-- Unless it installs a candidate that does not fit, a replacement keeps the system mirrored. -/
theorem Replacing.mirrored (replacing : Replacing device candidate system result next) (mirrored : Mirrored system)
    (valid : irrigationConfigurationValidate candidate system.manager.boardZones = .ok)
    (fits : result = .ok → Fits system.manager.configuration.live candidate.live) : Mirrored next := by
  cases replacing with
  | installed _ taken =>
    exact ⟨mirrored.faithful.installed valid (mirrored.faithful.rebuilding valid) (fits rfl),mirrored.bound,
      taken.memory,taken.reconfigured.entries⟩
  | restored _ _ taken =>
    exact ⟨⟨mirrored.faithful.valid,mirrored.faithful.back valid⟩,mirrored.bound,taken.memory,
      taken.reconfigured.entries⟩

/-- Every edit keeps the system mirrored. -/
theorem mutated_mirrored {mutation : Mutation} (incremental : ∀ candidate, mutation ≠ .replace candidate)
    (mirrored : Mirrored system) : Mirrored (mutate device mutation system).2 := by
  rcases mutate_replacing device mirrored mutation with ⟨_,_,run,_⟩ | ⟨candidate,prepared,valid,replacing⟩
  · rw [run]
    exact mirrored
  · exact replacing.mirrored mirrored valid fun _ => prepared_fits mirrored.faithful prepared valid incremental

/-- The manager a fitting candidate would leave is faithful. -/
theorem Faithful.replaced (faithful : Faithful system.manager)
    (valid : irrigationConfigurationValidate candidate system.manager.boardZones = .ok)
    (fits : Fits system.manager.configuration.live candidate.live) : Faithful { system.manager with
      configuration := candidate, views := candidateViews system.manager candidate } :=
  faithful.installed valid (faithful.rebuilding valid) fits

/-- A program of the live configuration and the candidate keeps its slot. -/
theorem candidateViews_programSlot (faithful : Faithful system.manager)
    (valid : irrigationConfigurationValidate candidate system.manager.boardZones = .ok)
    (fits : Fits system.manager.configuration.live candidate.live) {programId : IdText}
    (before : programId ∈ programIds system.manager.configuration.live) (after : programId ∈ programIds candidate.live) :
    programSlotForId (candidateViews system.manager candidate) programId =
      programSlotForId system.manager.views programId := by
  have rebuilding := faithful.rebuilding valid
  have keys : (candidateViews system.manager candidate).programs.keys = programIds candidate.live :=
    (faithful.replaced valid fits).programKeys
  rw [← faithful.programKeys] at before
  obtain ⟨slot,used,named⟩ := Slots.mem_keys.mp before
  have found := (Slots.slotForKey_eq_some_iff faithful.tracks.programs.distinct).mpr ⟨used,named⟩
  have kept := (rebuilding.refilled ((validate_ok_iff _ _).mp valid).2).1.stable
    faithful.tracks.programs.distinct found (keys ▸ after)
  rw [programSlotForId,programSlotForId,found]
  exact kept

/-- Programs that compare equal are not rebuilt. -/
theorem rebuildRuntimeViews_programs (views : RuntimeViews) (configuration : IrrigationConfiguration) :
    (rebuildRuntimeViews views configuration false).programs = views.programs := rfl

theorem programsAreEqual_of_live {left right : IrrigationConfiguration} (leftRoom : left.WithinCapacity)
    (rightRoom : right.WithinCapacity) (same : left.live.programs = right.live.programs) :
    programsAreEqual left right = true := by
  have counts : left.programCount = right.programCount := by
    apply UInt8.toNat_inj.mp
    rw [← leftRoom.livePrograms_length,← rightRoom.livePrograms_length]
    simpa [IrrigationConfiguration.live] using congrArg List.length same
  rw [programsAreEqual,Bool.and_eq_true,beq_iff_eq,List.all_eq_true]
  refine ⟨counts,fun pair member => ?_⟩
  obtain ⟨index,inside,rfl⟩ := List.mem_iff_getElem.mp member
  rw [List.length_zip,Nat.lt_min] at inside
  rw [List.getElem_zip]
  have live : left.livePrograms[index].live = right.livePrograms[index].live := by
    have atIndex := congrArg (fun programs => programs[index]?) same
    simpa [IrrigationConfiguration.live,inside.1,inside.2] using atIndex
  have steps := congrArg List.length (congrArg LiveProgram.steps live)
  rw [IrrigationProgramConfiguration.live_steps,IrrigationProgramConfiguration.live_steps,
    leftRoom.liveSteps_length (List.getElem_mem _),rightRoom.liveSteps_length (List.getElem_mem _)] at steps
  simp only [IrrigationProgramConfiguration.live,LiveProgram.mk.injEq] at live
  simp [live,UInt8.toNat_inj.mp steps]

/-- A replacement that failed does not return OK. -/
theorem rolledBack_failed (answer : IrrigationResult) : (if answer = .ok then .internalError else answer) ≠ .ok := by
  split
  · simp
  · assumption

/-- A replacement that returns OK installed its candidate. -/
theorem Replacing.of_ok (replacing : Replacing device candidate system result next) (ok : result = .ok) :
    Persists device candidate system ∧ ∃ tried storage,
      Offered (system.world.locked.showing (candidateViews system.manager candidate))
        ((candidateViews system.manager candidate).entries candidate.scheduleCount.toNat) .ok tried ∧
      next = ⟨{ system.manager with
        configuration := candidate, views := candidateViews system.manager candidate },tried.unlocked,storage⟩ := by
  cases replacing with
  | installed persists taken => exact ⟨persists,_,_,taken,rfl⟩
  | @restored answer => exact absurd ok (rolledBack_failed answer)

/-- A replacement that compares its programs equal writes to none. -/
theorem Replacing.programs (replacing : Replacing device candidate system result next)
    (same : programsChanged system.manager candidate = false) :
    next.manager.views.programs = system.manager.views.programs := by
  have rebuilt : (candidateViews system.manager candidate).programs = system.manager.views.programs := by
    rw [candidateViews,same,rebuildRuntimeViews_programs]
  cases replacing with
  | installed => exact rebuilt
  | restored =>
    change (restoredViews system.manager candidate).programs = _
    rw [restoredViews,same,rebuildRuntimeViews_programs,rebuilt]

theorem programsChanged_of_live (faithful : Faithful system.manager)
    (valid : irrigationConfigurationValidate candidate system.manager.boardZones = .ok)
    (same : candidate.live.programs = system.manager.configuration.live.programs) :
    programsChanged system.manager candidate = false := by
  rw [programsChanged,programsAreEqual_of_live ((validate_ok_iff _ _).mp faithful.valid).1
    ((validate_ok_iff _ _).mp valid).1 same.symm]
  rfl

/-- Every edit keeps the views, the scheduler's entries and the live configuration in step. One
that returns OK moves no program that stays, and one that changes no program finds them equal and
writes to none. -/
theorem edited_mirrored {mutation : Mutation} (incremental : ∀ candidate, mutation ≠ .replace candidate)
    (mirrored : Mirrored system) :
    let outcome := mutate device mutation system
    Mirrored outcome.2 ∧
    (outcome.1 = .ok → ∀ programId ∈ programIds system.manager.configuration.live,
      programId ∈ programIds outcome.2.manager.configuration.live →
      programSlotForId outcome.2.manager.views programId = programSlotForId system.manager.views programId) ∧
    ((∀ candidate, mutation.prepare system.manager.configuration = .ok candidate →
        candidate.live.programs = system.manager.configuration.live.programs) →
      (∀ candidate, mutation.prepare system.manager.configuration = .ok candidate →
        irrigationConfigurationValidate candidate system.manager.boardZones = .ok →
          programsChanged system.manager candidate = false) ∧
      outcome.2.manager.views.programs = system.manager.views.programs) := by
  intro outcome
  refine ⟨mutated_mirrored incremental mirrored,?_⟩
  have equal (unchanged : ∀ candidate, mutation.prepare system.manager.configuration = .ok candidate →
      candidate.live.programs = system.manager.configuration.live.programs) :
      ∀ candidate, mutation.prepare system.manager.configuration = .ok candidate →
        irrigationConfigurationValidate candidate system.manager.boardZones = .ok →
          programsChanged system.manager candidate = false :=
    fun candidate prepared valid => programsChanged_of_live mirrored.faithful valid (unchanged candidate prepared)
  rcases mutate_replacing device mirrored mutation with ⟨_,failed,run,_⟩ | ⟨candidate,prepared,valid,replacing⟩
  · have same : outcome = (_,system) := run
    rw [same]
    exact ⟨fun ok => absurd ok failed,fun unchanged => ⟨equal unchanged,rfl⟩⟩
  · have fits := prepared_fits mirrored.faithful prepared valid incremental
    constructor
    · intro ok programId before after
      obtain ⟨_,tried,storage,_,installed⟩ := replacing.of_ok ok
      have same : outcome.2 = _ := installed
      rw [same] at after ⊢
      exact candidateViews_programSlot mirrored.faithful valid fits before after
    · intro unchanged
      exact ⟨equal unchanged,replacing.programs (equal unchanged candidate prepared valid)⟩

end Edits

/-! ### A configured scheduler -/

/-- A manager configures the scheduler that `app_main` then binds to it. -/
def scheduled (manager : ConfigurationManager) (world : World ε) (storage : σ) : ManagedSystem ε σ where
  manager := configurationManagerBindScheduler true manager
  world := (configurationManagerConfigureScheduler manager (world.showing manager.views)).2
  storage := storage

theorem scheduled_taken {manager : ConfigurationManager} (faithful : Faithful manager) (world : World ε) :
    ∃ next, Offered (world.showing manager.views).locked
        (manager.views.entries manager.configuration.scheduleCount.toNat) .ok next ∧
      (configurationManagerConfigureScheduler manager (world.showing manager.views)).2 = next.unlocked := by
  have room : manager.configuration.scheduleCount.toNat ≤ irrigationMaxSchedules :=
    ((validate_ok_iff _ _).mp faithful.valid).1.schedules
  have offering := offered manager.views room (world.showing manager.views).locked
  cases run : schedulerServiceConfigureLocked (manager.views.entries manager.configuration.scheduleCount.toNat)
      (world.showing manager.views).locked with
  | mk answer next =>
    rw [run] at offering
    refine ⟨next,?_,congrArg (·.2.unlocked) run⟩
    cases offering with
    | refused unaccepted =>
      have accepted := entries_accepted faithful.valid faithful.mirrors
      change entriesAreAccepted manager.views.memory _ = false at unaccepted
      rw [accepted] at unaccepted
      contradiction
    | taken accepted reconfigured => exact .taken accepted reconfigured

theorem scheduled_mirrored {manager : ConfigurationManager} (faithful : Faithful manager) (world : World ε)
    (storage : σ) : Mirrored (scheduled manager world storage) := by
  obtain ⟨next,taken,run⟩ := scheduled_taken faithful world
  refine ⟨⟨faithful.valid,faithful.tracks⟩,rfl,?_,?_⟩
  · rw [scheduled,run]
    exact taken.memory
  · rw [scheduled,run]
    exact taken.reconfigured.entries

/-- The default schedule switched on. -/
def enabledDefaults : IrrigationConfiguration :=
  { devKitDefaults devZones with schedules := fill zeroSchedule [defaultSchedule.enable true] }

/-- The development kit's manager once it loaded a configuration. -/
def devLoaded (configuration : IrrigationConfiguration) : ConfigurationManager :=
  { devManager with configuration, views := rebuildRuntimeViews devManager.views configuration true }

theorem devLoaded_faithful {configuration : IrrigationConfiguration}
    (valid : irrigationConfigurationValidate configuration devZones = .ok)
    (fits : Fits (devKitDefaults devZones).live configuration.live) : Faithful (devLoaded configuration) := by
  obtain ⟨board,defaults,faithful⟩ := init_faithful devManager_initialized
  have rebuilding : Rebuilding devManager.views configuration (rebuildRuntimeViews devManager.views configuration true) :=
    rebuild_cases ((validate_ok_iff _ _).mp valid).2 faithful.tracks.programs.distinct nofun
  refine faithful.installed ?_ rebuilding ?_
  · rw [← board] at valid
    exact valid
  · rw [defaults]
    exact fits

theorem enabledDefaults_faithful : Faithful (devLoaded enabledDefaults) :=
  devLoaded_faithful (by decide +kernel) (by decide +kernel)

theorem Faithful.started {manager : ConfigurationManager} (faithful : Faithful manager)
    (repository persistenceRequired scheduler : Bool) :
    Faithful (started repository persistenceRequired scheduler manager) := ⟨faithful.valid,faithful.tracks⟩

/-- The development kit with its default schedule switched on. -/
def devSystem (repository persistenceRequired : Bool) : ManagedSystem UInt64 Repository.SlotContents :=
  scheduled (started repository persistenceRequired false (devLoaded enabledDefaults)) (devWorld devProgram)
    (storedOnce enabledDefaults.live)

theorem devSystem_mirrored (repository persistenceRequired : Bool) :
    Mirrored (devSystem repository persistenceRequired) :=
  scheduled_mirrored (enabledDefaults_faithful.started ..) _ _

theorem edited_mirrored_devSystem : Mirrored
    (mutate Repository.memoryStorage (.createProgram (some (.literal "lawn")) (some [])) (devSystem true true)).2 := by
  refine (edited_mirrored ?_ (devSystem_mirrored true true)).1
  simp

end Irrigation
