import Irrigation.DueOccurrences
import Irrigation.Firmware
import Irrigation.ListRefinement
import Irrigation.WebResponses

/-! What every request and every iteration of the task keep: the store is safe, the scheduler runs
what the configuration says, and the programs have durations that a request can give. -/
namespace Irrigation

variable {ε σ : Type}

/-! ### Edits and the devices -/

/-- From one world to the next only the scheduler, the objects and the locks changed. -/
structure Rescheduled (world next : World ε) : Prop where
  store : ∃ scheduler, next.store = { world.store with scheduler }
  calls : next.calls = world.calls
  environment : next.environment = world.environment
  program : next.program = world.program
  startContext : next.startContext = world.startContext
  events : next.events = world.events

theorem Rescheduled.refl (world : World ε) : Rescheduled world world := ⟨⟨world.store.scheduler,rfl⟩,rfl,rfl,rfl,rfl,rfl⟩

theorem Rescheduled.trans {world middle next : World ε} (front : Rescheduled world middle)
    (back : Rescheduled middle next) : Rescheduled world next := by
  obtain ⟨scheduler,stored⟩ := front.store
  obtain ⟨final,last⟩ := back.store
  exact ⟨⟨final,by rw [last,stored]⟩,back.calls.trans front.calls,back.environment.trans front.environment,
    back.program.trans front.program,back.startContext.trans front.startContext,back.events.trans front.events⟩

theorem rescheduled_locked (world : World ε) : Rescheduled world world.locked :=
  ⟨⟨world.store.scheduler,rfl⟩,rfl,rfl,rfl,rfl,rfl⟩

theorem rescheduled_unlocked (world : World ε) : Rescheduled world world.unlocked :=
  ⟨⟨world.store.scheduler,rfl⟩,rfl,rfl,rfl,rfl,rfl⟩

theorem rescheduled_showing (world : World ε) (views : RuntimeViews) : Rescheduled world (world.showing views) :=
  ⟨⟨world.store.scheduler,rfl⟩,rfl,rfl,rfl,rfl,rfl⟩

theorem rescheduled_configured (entries : List SchedulerEntry) (world : World ε) :
    Rescheduled world (schedulerServiceConfigureLocked entries world).2 := by
  rcases schedulerServiceConfigureLocked_cases entries world with ⟨_,run⟩ | ⟨_,next,run,reconfigured⟩
  · rw [run]
    exact .refl world
  · obtain ⟨scheduler,rfl⟩ := reconfigured.taken
    rw [run]
    exact ⟨⟨scheduler,rfl⟩,rfl,rfl,rfl,rfl,rfl⟩

section Edits

variable {device : Repository.ConfigurationRepositoryStorage σ} (configuration candidate : IrrigationConfiguration)
  (programsChanged : Bool) (system : ManagedSystem ε σ)

theorem reconfigure_rescheduled :
    Rescheduled system.world (reconfigure configuration programsChanged system).2.world :=
  (rescheduled_showing system.world _).trans (rescheduled_configured _ _)

theorem rollBack_rescheduled (failure : IrrigationResult) :
    Rescheduled system.world (rollBack failure programsChanged system).2.world :=
  (reconfigure_rescheduled _ programsChanged system).trans (rescheduled_unlocked _)

theorem replaceBound_rescheduled :
    Rescheduled system.world (replaceBound device candidate programsChanged system).2.world := by
  obtain ⟨tried,triedEq⟩ : ∃ tried, tried = reconfigure candidate programsChanged (system.schedule schedulerServiceLock).2 :=
    ⟨_,rfl⟩
  have shown : Rescheduled system.world tried.2.world := by
    rw [triedEq]
    exact (rescheduled_locked system.world).trans
      (reconfigure_rescheduled candidate programsChanged (system.schedule schedulerServiceLock).2)
  have persisted : (persistCandidate device candidate tried.2).2.world = tried.2.world := persistCandidate_world ..
  simp only [replaceBound,← triedEq]
  split
  · exact shown.trans (rollBack_rescheduled programsChanged tried.2 _)
  · split
    · have back := rollBack_rescheduled programsChanged (persistCandidate device candidate tried.2).2
        (persistCandidate device candidate tried.2).1
      rw [persisted] at back
      exact shown.trans back
    · refine shown.trans ?_
      change Rescheduled tried.2.world (persistCandidate device candidate tried.2).2.world.unlocked
      rw [persisted]
      exact rescheduled_unlocked _

theorem replaceCandidate_rescheduled :
    Rescheduled system.world (replaceCandidate device candidate system).2.world := by
  simp only [replaceCandidate]
  split
  · exact .refl _
  · split
    · exact replaceBound_rescheduled candidate _ system
    · have persisted : (persistCandidate device candidate system).2.world = system.world := persistCandidate_world ..
      simp only [replaceUnbound]
      split
      · rw [persisted]
        exact .refl _
      · rw [← persisted]
        exact rescheduled_showing _ _

/-- An edit issues no driver call and changes nothing in the store but the scheduler's record. -/
theorem mutate_rescheduled (device : Repository.ConfigurationRepositoryStorage σ) (mutation : Mutation)
    (system : ManagedSystem ε σ) : Rescheduled system.world (mutate device mutation system).2.world := by
  rcases mutate_cases device mutation system with ⟨_,_,_,run⟩ | ⟨candidate,_,run⟩
  · rw [run]
    exact .refl _
  · rw [run]
    exact replaceCandidate_rescheduled candidate system

theorem Rescheduled.meets {drivers : Drivers ε} {invariant : RuntimeState → List DriverCall → ε → Prop}
    (kept : DeviceInvariant drivers invariant) {world next : World ε} (rescheduled : Rescheduled world next)
    (holds : world.Meets invariant) : next.Meets invariant := by
  obtain ⟨scheduler,stored⟩ := rescheduled.store
  rw [World.Meets,stored,rescheduled.calls,rescheduled.environment]
  exact kept.program world.store.program scheduler holds

/-- What single service calls keep of the store, the calls and the devices, requests and iterations keep. -/
theorem DeviceInvariant.across {drivers : Drivers ε} {invariant : RuntimeState → List DriverCall → ε → Prop}
    (kept : DeviceInvariant drivers invariant) :
    SystemInvariant drivers device fun system : ManagedSystem ε σ => system.world.Meets invariant where
  commanded command _ holds := kept.relation.operate command _ holds
  edited mutation _ holds _ := (mutate_rescheduled device mutation _).meets kept holds

end Edits

/-! ### Services and the scheduler -/

section Services

variable {drivers : Drivers ε} {device : Repository.ConfigurationRepositoryStorage σ}

/-- A command leaves the entries and their objects, and the record in step with them. -/
theorem operate_inStep (drivers : Drivers ε) (command : Command) {world : World ε} (inStep : InStep world) :
    (operate drivers command world).entries = world.entries ∧ (operate drivers command world).memory = world.memory ∧
      InStep (operate drivers command world) := by
  by_cases tick : ∃ now, command = .schedulerProcess now
  · obtain ⟨now,rfl⟩ := tick
    by_cases valid : schedulerTimeIsValid now = true
    · obtain ⟨next,ticked,run⟩ := operate_ticked drivers inStep valid
      obtain ⟨entries,memory,_⟩ := ticked.kept
      rw [run]
      exact ⟨entries,memory,(ticked.inStep inStep).unlocked⟩
    · have run : operate drivers (.schedulerProcess now) world = world.locked.unlocked := by
        have lock : schedulerServiceLock world = ((),world.locked) := rfl
        simp only [operate,execute,schedulerServiceProcess,run_bind_of lock,valid]
        rfl
      rw [run]
      exact ⟨rfl,rfl,inStep.locked.unlocked⟩
  · have silent : ∀ now, command ≠ .schedulerProcess now := fun now same => tick ⟨now,same⟩
    obtain ⟨entries,memory⟩ := operate_frame drivers silent world
    obtain ⟨_,outcome,_⟩ := operate_outcome drivers command world
    refine ⟨entries,memory,?_,?_,?_⟩
    · rw [entries,outcome.scheduler silent]
      exact inStep.count
    · rw [entries,memory]
      exact inStep.accepted
    · rw [outcome.scheduler silent]
      exact inStep.tidy

theorem Aligned.commanded {system : ManagedSystem ε σ} (aligned : Aligned system) (command : Command) :
    Aligned { system with world := operate drivers command system.world } := by
  obtain ⟨entries,memory,inStep⟩ := operate_inStep drivers command aligned.inStep
  exact ⟨⟨aligned.faithful,aligned.bound,memory.trans aligned.linked,entries.trans aligned.entries⟩,inStep.count,
    inStep.tidy⟩

end Services

/-! ### Durations -/

/-- Every program of a configuration can be given by a request. -/
def LiveConfiguration.InSeconds (live : LiveConfiguration) : Prop :=
  ∀ program ∈ live.programs, ∀ step ∈ program.steps, Irrigation.InSeconds step

theorem forall_mem_modify {α : Type} {property : α → Prop} {entries : List α} (all : ∀ entry ∈ entries, property entry)
    (index : Nat) {change : α → α} (changed : ∀ entry, property (change entry)) :
    ∀ entry ∈ entries.modify index change, property entry := by
  intro entry member
  obtain ⟨position,inside,rfl⟩ := List.mem_iff_getElem.mp member
  rw [List.getElem_modify]
  split
  · exact changed _
  · exact all _ (List.getElem_mem _)

section Durations

variable {live next : LiveConfiguration}

theorem saveProgram_inSeconds (seconds : live.InSeconds) {programIndex : Option Nat} {displayName : Option CString}
    {steps : Option (List IrrigationProgramStepConfiguration)}
    (given : ∀ list, steps = some list → ∀ step ∈ list, Irrigation.InSeconds step)
    (prepared : live.saveProgram programIndex displayName steps = .ok next) : next.InSeconds := by
  unfold LiveConfiguration.saveProgram at prepared
  cases displayName with
  | none => contradiction
  | some displayName =>
    cases steps with
    | none => contradiction
    | some steps =>
      have each := given steps rfl
      dsimp only at prepared
      split at prepared
      · contradiction
      · cases programIndex with
        | none =>
          dsimp only at prepared
          split at prepared
          · contradiction
          · cases prepared
            intro program member
            rcases List.mem_append.mp member with old | new
            · exact seconds program old
            · rw [List.mem_singleton.mp new]
              exact each
        | some index =>
          dsimp only at prepared
          split at prepared
          · contradiction
          · cases prepared
            exact forall_mem_modify seconds index fun _ => each

/-- Every edit of a request keeps the durations such that a request can give them. -/
theorem prepareLive_inSeconds (seconds : live.InSeconds) {mutation : Mutation} {revived : Bool}
    (incremental : ∀ candidate, mutation ≠ .replace candidate) (given : mutation.InSeconds)
    (prepared : mutation.prepareLive live revived = .ok next) : next.InSeconds := by
  cases mutation with
  | replace candidate => exact absurd rfl (incremental candidate)
  | createProgram displayName steps =>
    change live.saveProgram none displayName steps = .ok next at prepared
    refine saveProgram_inSeconds seconds (fun list same => ?_) prepared
    subst same
    exact given
  | updateProgram programIndex displayName steps =>
    change live.saveProgram (some programIndex) displayName steps = .ok next at prepared
    refine saveProgram_inSeconds seconds (fun list same => ?_) prepared
    subst same
    exact given
  | renameZone zoneId displayName =>
    simp only [Mutation.prepareLive,LiveConfiguration.renameZone] at prepared
    split at prepared
    · split at prepared
      · cases prepared
        exact seconds
      · contradiction
    · contradiction
  | deleteProgram programIndex =>
    simp only [Mutation.prepareLive,LiveConfiguration.deleteProgram] at prepared
    split at prepared
    · contradiction
    · split at prepared
      · contradiction
      · cases prepared
        exact fun program member => seconds program (List.mem_of_mem_eraseIdx member)
  | createSchedule weekdayMask hour minute programId =>
    simp only [Mutation.prepareLive,LiveConfiguration.saveSchedule] at prepared
    split at prepared
    · contradiction
    · split at prepared
      · contradiction
      · cases prepared
        exact seconds
  | updateSchedule scheduleIndex weekdayMask hour minute programId =>
    simp only [Mutation.prepareLive,LiveConfiguration.saveSchedule] at prepared
    split at prepared
    · contradiction
    · split at prepared
      · contradiction
      · cases prepared
        exact seconds
  | deleteSchedule scheduleIndex =>
    simp only [Mutation.prepareLive,LiveConfiguration.deleteSchedule] at prepared
    split at prepared
    · contradiction
    · cases prepared
      exact seconds
  | setScheduleEnabled scheduleIndex enabled =>
    simp only [Mutation.prepareLive,LiveConfiguration.setScheduleEnabled] at prepared
    split at prepared
    · contradiction
    · cases prepared
      exact seconds

end Durations

/-! ### A sound system -/

/-- What holds of the firmware between any two requests or iterations. -/
structure Sound (zones : List Zone) (system : ManagedSystem ε σ) : Prop extends Aligned system where
  board : system.manager.boardZones = zones
  safe : Invariant system.world.store
  shown : system.world.store.zones.entries.map (·.zoneId) = zones.map (·.id)
  seconds : system.manager.configuration.live.InSeconds

section Soundness

variable {drivers : Drivers ε} {device : Repository.ConfigurationRepositoryStorage σ} {zones : List Zone}

theorem Sound.aged {system : ManagedSystem ε σ} (sound : Sound zones system) (environment : ε) :
    Sound zones (system.at environment) :=
  ⟨⟨⟨sound.faithful,sound.bound,sound.linked,sound.entries⟩,sound.count,sound.tidy⟩,sound.board,sound.safe,sound.shown,
    sound.seconds⟩

theorem Sound.commanded {system : ManagedSystem ε σ} (sound : Sound zones system) (drivers : Drivers ε)
    (command : Command) : Sound zones { system with world := operate drivers command system.world } := by
  obtain ⟨_,outcome,_⟩ := operate_outcome drivers command system.world
  exact ⟨sound.toAligned.commanded command,sound.board,outcome.invariant drivers sound.safe,
    (zoneIds_kept drivers _).relation.operate command system.world sound.shown,sound.seconds⟩

theorem Sound.edited {system : ManagedSystem ε σ} (sound : Sound zones system)
    (device : Repository.ConfigurationRepositoryStorage σ) {mutation : Mutation}
    (edit : WebEdit system.world.store mutation) : Sound zones (mutate device mutation system).2 := by
  obtain ⟨scheduler,stored⟩ := (mutate_rescheduled device mutation system).store
  obtain ⟨board,⟨_,same⟩ | ⟨_,prepared,_⟩⟩ := mutate_installs device mutation system
  · refine ⟨mutated_aligned edit.incremental sound.toAligned,board.trans sound.board,?_,?_,?_⟩
    · rw [stored]
      exact sound.safe.program _ scheduler
    · rw [stored]
      exact sound.shown
    · change (mutated device mutation system).manager.configuration.live.InSeconds
      rw [same]
      exact sound.seconds
  · refine ⟨mutated_aligned edit.incremental sound.toAligned,board.trans sound.board,?_,?_,?_⟩
    · rw [stored]
      exact sound.safe.program _ scheduler
    · rw [stored]
      exact sound.shown
    · have live := prepare_live sound.faithful.capacity mutation
      rw [prepared] at live
      exact prepareLive_inSeconds sound.seconds edit.incremental edit.seconds live.symm

theorem sound_kept : SystemInvariant drivers device (Sound zones : ManagedSystem ε σ → Prop) where
  commanded command _ sound := sound.commanded drivers command
  edited _ _ sound edit := sound.edited device edit

/-- The firmware stays sound, whatever it is asked and however the drivers and the storage answer. -/
theorem Sound.throughout {firmware : Firmware ε σ} (library : QueryKeyValue) (initially : Sound zones firmware.system)
    (steps : List (FirmwareStep ε)) :
    Runs.Throughout (firmwareStep drivers device library zones) (fun firmware => Sound zones firmware.system) steps
      firmware :=
  sound_kept.throughout library zones (fun _ _ => True) (fun environment _ _ sound => sound.aged environment)
    initially (Runs.along_true steps firmware)

theorem Sound.valid {system : ManagedSystem ε σ} (sound : Sound zones system) :
    system.manager.configuration.live.Valid zones := by
  rw [← sound.board]
  exact sound.faithful.live

/-- What an edit makes of the live lists, by its answer. -/
theorem Sound.answered {system : ManagedSystem ε σ} (sound : Sound zones system)
    (device : Repository.ConfigurationRepositoryStorage σ) {mutation : Mutation}
    (edits : ∀ candidate, mutation ≠ .replace candidate) (short : mutation.ShortTexts) :
    ((mutate device mutation system).1 = .ok ∧ mutation.Result system.manager.configuration.live
      (mutate device mutation system).2.manager.configuration.live) ∨
    ((mutate device mutation system).1 ≠ .ok ∧
      (mutate device mutation system).2.manager.configuration = system.manager.configuration) := by
  rcases (mutate_installs device mutation system).2 with ⟨failed,same⟩ | ⟨ok,prepared,_⟩
  · exact .inr ⟨failed,same⟩
  · have lists := prepare_live sound.faithful.capacity mutation
    rw [prepared] at lists
    have prepares := prepareLive_prepares sound.valid system.manager.configuration.revivedEnabled edits short
    exact .inl ⟨ok,prepares.result _ lists.symm⟩

/-- An allowed edit prepares its candidate, and is answered OK exactly when that persists. -/
theorem Sound.saves {system : ManagedSystem ε σ} (sound : Sound zones system)
    (device : Repository.ConfigurationRepositoryStorage σ) {mutation : Mutation}
    (edits : ∀ candidate, mutation ≠ .replace candidate) (short : mutation.ShortTexts)
    (allowed : mutation.Allowed zones system.manager.configuration.live) : ∃ candidate,
      mutation.prepare system.manager.configuration = .ok candidate ∧
      mutation.Result system.manager.configuration.live candidate.live ∧
      ((mutate device mutation system).1 = .ok ↔ Persists device candidate system) := by
  have prepares := prepareLive_prepares sound.valid system.manager.configuration.revivedEnabled edits short
  have lists := prepare_live sound.faithful.capacity mutation
  obtain ⟨next,made,live⟩ := prepares.allowed.mpr allowed
  have result := prepares.result next made
  rw [← lists] at made
  cases prepared : mutation.prepare system.manager.configuration with
  | error failure =>
    rw [prepared] at made
    contradiction
  | ok candidate =>
    rw [prepared] at made
    cases made
    have valid : irrigationConfigurationValidate candidate system.manager.boardZones = .ok := by
      rw [sound.board]
      exact (validate_ok_iff _ _).mpr ⟨prepare_capacity edits sound.faithful.capacity prepared,live⟩
    have fits := prepared_fits sound.faithful prepared valid edits
    have run : mutate device mutation system = replaceCandidate device candidate system := by
      rw [mutate_eq,prepared]
      rfl
    have verdict := replaceCandidate_verdict device candidate sound.faithful.capacity
    refine ⟨candidate,rfl,result,?_⟩
    rw [run,verdict.ok_iff]
    exact ⟨fun installed => installed.2.2,
      fun persists => ⟨valid,fun _ => candidateTaken_of_fits sound.faithful valid fits,persists⟩⟩

/-- The configuration of the scheduler at the start changes its record only. -/
theorem scheduled_rescheduled (manager : ConfigurationManager) (world : World ε) (storage : σ) :
    Rescheduled world (scheduled manager world storage).world :=
  (rescheduled_showing world manager.views).trans ((rescheduled_locked _).trans
    ((rescheduled_configured _ _).trans (rescheduled_unlocked _)))

/-- Services that are set up over a booted store, for a manager that shows its configuration. -/
theorem scheduled_sound {manager : ConfigurationManager} (faithful : Faithful manager)
    (board : manager.boardZones = zones) (seconds : manager.configuration.live.InSeconds) {world : World ε}
    {preOpenDelayMs : UInt32} (booted : boot zones preOpenDelayMs = .ok world.store) (storage : σ) :
    Sound zones (scheduled manager world storage) := by
  obtain ⟨scheduler,stored⟩ := (scheduled_rescheduled manager world storage).store
  obtain ⟨accepted,configured⟩ := boot_ok booted
  have tidy : world.store.scheduler.Tidy := by
    rw [configured]
    exact fun _ _ => rfl
  refine ⟨aligned_scheduled faithful tidy storage,board,?_,?_,seconds⟩
  · rw [stored]
    exact (boot_invariant booted).program _ scheduler
  · rw [stored,configured]
    simp only [bootedStore,configuredTable,List.map_pmap]
    exact List.pmap_eq_map _

end Soundness

theorem enabledDefaults_inSeconds : enabledDefaults.live.InSeconds := by
  refine List.forall_mem_singleton.mpr fun step member => ?_
  rcases List.mem_pair.mp member with rfl | rfl
  · exact ⟨30,by decide,by decide,rfl⟩
  · exact ⟨30,by decide,by decide,rfl⟩

theorem devSystem_sound (repository persistenceRequired : Bool) :
    Sound devZones (devSystem repository persistenceRequired) := by
  have booted : boot devZones 0 = .ok (devWorld devProgram).store := boot_of_configurable devZones_configurable 0
  have board : devManager.boardZones = devZones := (init_faithful devManager_initialized).1
  exact scheduled_sound (enabledDefaults_faithful.started ..) board enabledDefaults_inSeconds booted _

end Irrigation
