import Irrigation.SystemBoot

/-! The firmware from power-up to power-up. Its storage keeps the live configuration, and what a boot
takes over decides how the next period of power begins. -/
namespace Irrigation

open Repository

variable {ε σ : Type}

/-! ### The firmware that a boot leaves -/

section Started

variable {boardZones : List Zone} {defaults : ConfigurationManager} {taken : Option IrrigationConfiguration}

/-- What a boot takes over is shown next to the defaults, and requests could have given its programs. -/
structure Resumes (taken : Option IrrigationConfiguration) : Prop where
  program : ∀ loaded ∈ taken, KeepsProgram loaded.live
  schedule : ∀ loaded ∈ taken, KeepsSchedule loaded.live
  seconds : ∀ loaded ∈ taken, loaded.live.InSeconds

theorem bootManager_configuration
    (initialized : configurationManagerInitDevKitDefaults boardZones zeroManager = (.ok,defaults))
    (taken : Option IrrigationConfiguration) (repository : Bool) :
    (bootManager repository defaults taken).configuration = taken.getD (devKitDefaults boardZones) := by
  cases taken with
  | none => exact (init_faithful initialized).2.1
  | some loaded => rfl

theorem bootManager_boardZones
    (initialized : configurationManagerInitDevKitDefaults boardZones zeroManager = (.ok,defaults))
    (taken : Option IrrigationConfiguration) (repository : Bool) :
    (bootManager repository defaults taken).boardZones = boardZones := by
  cases taken with
  | none => exact (init_faithful initialized).1
  | some loaded => exact (init_faithful initialized).1

theorem bootManager_faithful
    (initialized : configurationManagerInitDevKitDefaults boardZones zeroManager = (.ok,defaults))
    (valid : ∀ loaded ∈ taken, irrigationConfigurationValidate loaded boardZones = .ok) (resumes : Resumes taken)
    (repository : Bool) : Faithful (bootManager repository defaults taken) := by
  obtain ⟨board,configuration,faithful⟩ := init_faithful initialized
  cases taken with
  | none => exact ⟨faithful.valid,faithful.tracks⟩
  | some loaded =>
    have legal := valid loaded rfl
    have live := ((validate_ok_iff _ _).mp legal).2
    have rebuilding : Rebuilding defaults.views loaded (rebuildRuntimeViews defaults.views loaded true) :=
      rebuild_cases live faithful.tracks.programs.distinct nofun
    have fits : Fits defaults.configuration.live loaded.live := by
      rw [configuration]
      exact (fits_defaults_iff live).mpr ⟨resumes.program loaded rfl,resumes.schedule loaded rfl⟩
    rw [← board] at legal
    have installed : Faithful { defaults with
        configuration := loaded, views := rebuildRuntimeViews defaults.views loaded true } :=
      faithful.installed legal rebuilding fits
    exact ⟨installed.valid,installed.tracks⟩

/-- What fits on the defaults is all that a boot can take over and show. -/
theorem keeps_of_bootManager_mirrors
    (initialized : configurationManagerInitDevKitDefaults boardZones zeroManager = (.ok,defaults))
    (valid : ∀ loaded ∈ taken, irrigationConfigurationValidate loaded boardZones = .ok) (repository : Bool)
    (mirrors : Mirrors (bootManager repository defaults taken) (bootManager repository defaults taken).configuration.live) :
    KeepsProgram (bootManager repository defaults taken).configuration.live := by
  obtain ⟨board,configuration,faithful⟩ := init_faithful initialized
  cases taken with
  | none =>
    refine .inl ?_
    rw [bootManager_configuration initialized none,Option.getD_none,IrrigationConfiguration.live,
      devKitDefaults_livePrograms]
    exact (by decide : 1 < 4)
  | some loaded =>
    have legal := valid loaded rfl
    have live := ((validate_ok_iff _ _).mp legal).2
    have rebuilding : Rebuilding defaults.views loaded (rebuildRuntimeViews defaults.views loaded true) :=
      rebuild_cases live faithful.tracks.programs.distinct (fun passedOver => absurd passedOver (by decide))
    rw [← board] at legal
    have shown : Mirrors { defaults with
      configuration := loaded, views := rebuildRuntimeViews defaults.views loaded true } loaded.live :=
      ⟨mirrors.programs,mirrors.schedules⟩
    have fits := faithful.fits_of_mirrors legal rebuilding shown
    rw [configuration] at fits
    exact ((fits_defaults_iff live).mp fits).1

/-- The steps of the default program take half a minute each. -/
theorem devKitDefaults_inSeconds
    (initialized : configurationManagerInitDevKitDefaults boardZones zeroManager = (.ok,defaults)) :
    (devKitDefaults boardZones).live.InSeconds := by
  have atLeast : 2 ≤ boardZones.length := by
    unfold configurationManagerInitDevKitDefaults at initialized
    split at initialized
    · exact absurd (congrArg Prod.fst initialized) (by simp)
    · omega
  rw [LiveConfiguration.InSeconds,IrrigationConfiguration.live,devKitDefaults_livePrograms]
  refine List.forall_mem_singleton.mpr ?_
  rw [IrrigationProgramConfiguration.live_steps,defaultProgram_liveSteps atLeast]
  intro step member
  obtain ⟨zone,_,rfl⟩ := List.mem_map.mp member
  exact ⟨30,by decide,by decide,rfl⟩

end Started

/-! ### What a period of power does to the storage -/

section Lasting

variable {drivers : Drivers ε} {device : ConfigurationRepositoryStorage σ} {contents : σ → SlotContents}
  {boardZones : List Zone}

/-- The storage has the live configuration, and requests could have given its programs. -/
structure Lasting (contents : σ → SlotContents) (boardZones : List Zone) (system : ManagedSystem ε σ) : Prop
    extends Durable contents boardZones system where
  seconds : system.manager.configuration.live.InSeconds

theorem lasting_kept (reliable : Reliable device contents) :
    SystemInvariant drivers device (Lasting contents boardZones : ManagedSystem ε σ → Prop) where
  commanded _ _ lasting :=
    ⟨⟨lasting.repository,lasting.board,lasting.valid,lasting.intact,lasting.stored⟩,lasting.seconds⟩
  edited mutation system lasting edit := by
    obtain ⟨durable,⟨_,same⟩ | ⟨_,prepared⟩⟩ := mutate_durable reliable lasting.toDurable mutation
    · refine ⟨durable,?_⟩
      change (mutated device mutation system).manager.configuration.live.InSeconds
      rw [same]
      exact lasting.seconds
    · have live := prepare_live ((validate_ok_iff _ _).mp lasting.valid).1 mutation
      rw [prepared] at live
      exact ⟨durable,prepareLive_inSeconds lasting.seconds edit.incremental edit.seconds live.symm⟩

/-- The manager has no repository and would need one to change anything. -/
structure Detached (configuration : IrrigationConfiguration) (storage : σ) (system : ManagedSystem ε σ) : Prop where
  repository : system.manager.repository = false
  required : system.manager.persistenceRequired = true
  configuration : system.manager.configuration = configuration
  storage : system.storage = storage

variable {configuration candidate : IrrigationConfiguration} {storage : σ} {system : ManagedSystem ε σ}

theorem Detached.replaceBound (detached : Detached configuration storage system) (changed : Bool) :
    Detached configuration storage (replaceBound device candidate changed system).2 := by
  obtain ⟨tried,triedEq⟩ : ∃ tried, tried = reconfigure candidate changed (system.schedule schedulerServiceLock).2 :=
    ⟨_,rfl⟩
  have still : Detached configuration storage tried.2 := by
    rw [triedEq]
    exact ⟨detached.repository,detached.required,detached.configuration,detached.storage⟩
  have rolled (failure : IrrigationResult) (again : Bool) :
      Detached configuration storage (rollBack failure again tried.2).2 :=
    ⟨still.repository,still.required,still.configuration,still.storage⟩
  have unsaved : persistCandidate device candidate tried.2 = (.internalError,tried.2) := by
    simp only [persistCandidate,still.repository,still.required,Bool.false_eq_true,if_false,if_true]
  simp only [Irrigation.replaceBound,← triedEq,unsaved]
  split
  · exact rolled _ _
  · exact rolled _ _

theorem Detached.replaceCandidate (detached : Detached configuration storage system) :
    Detached configuration storage (replaceCandidate device candidate system).2 := by
  unfold Irrigation.replaceCandidate
  dsimp only
  split
  · exact detached
  · split
    · exact detached.replaceBound _
    · simp only [replaceUnbound,persistCandidate,detached.repository,detached.required,Bool.false_eq_true,if_false,
        if_true,ne_eq,reduceCtorEq,not_false_eq_true]
      exact detached

theorem detached_kept (configuration : IrrigationConfiguration) (storage : σ) :
    SystemInvariant drivers device (Detached configuration storage : ManagedSystem ε σ → Prop) where
  commanded _ _ detached := ⟨detached.repository,detached.required,detached.configuration,detached.storage⟩
  edited mutation system detached _ := by
    rcases mutate_cases device mutation system with ⟨_,_,_,call⟩ | ⟨candidate,_,call⟩
    · rw [call]
      exact detached
    · rw [call]
      exact detached.replaceCandidate

end Lasting

/-! ### Boots over a kept storage -/

section Boots

variable {device : ConfigurationRepositoryStorage σ} {contents : σ → SlotContents} {boardZones : List Zone}
  {defaults : ConfigurationManager} {found : PowerUp ε} {storage : σ} {last : Option LiveConfiguration}

/-- The storage is as it was delivered, or it has a configuration. -/
inductive Holding (contents : σ → SlotContents) (boardZones : List Zone) (storage : σ) : Option LiveConfiguration → Prop
  | blank (empty : ∀ key, contents storage key = none) : Holding contents boardZones storage none
  | configured {live : LiveConfiguration} (intact : Intact boardZones (contents storage))
      (stored : Stored boardZones (contents storage) live) (seconds : live.InSeconds) :
      Holding contents boardZones storage (some live)

theorem Lasting.holding {system : ManagedSystem ε σ} (lasting : Lasting contents boardZones system) :
    Holding contents boardZones system.storage (some system.manager.configuration.live) :=
  .configured lasting.intact lasting.stored lasting.seconds

theorem Holding.same {other : σ} (holding : Holding contents boardZones storage last)
    (same : contents other = contents storage) : Holding contents boardZones other last := by
  cases holding with
  | blank empty => exact .blank fun key => by rw [same,empty]
  | configured intact stored seconds => exact .configured (by rwa [same]) (by rwa [same]) seconds

/-- A boot takes over what the storage has. -/
theorem Holding.takenOver (holding : Holding contents boardZones storage last) (reads : ReadsContents device contents)
    (opened : found.repository = true) :
    (takenOver device boardZones found storage).map (·.live) = last := by
  rw [Irrigation.takenOver,if_pos opened]
  cases holding with
  | blank empty => rw [load_empty reads boardZones empty]; rfl
  | configured _ stored =>
    obtain ⟨loaded,generation,taken,rfl⟩ := stored
    rw [(load_ok_iff reads storage loaded generation).mpr taken]
    rfl

/-- With its partition a boot ends up with a configuration that the storage has. -/
theorem Holding.initialized (holding : Holding contents boardZones storage last) (reliable : Reliable device contents)
    (initialized : configurationManagerInitDevKitDefaults boardZones zeroManager = (.ok,defaults)) :
    ∃ manager next, initializeConfiguration device boardZones true storage = (some manager,next) ∧
      manager.configuration.live = last.getD (devKitDefaults boardZones).live ∧
      ∀ world : World ε, Lasting contents boardZones ⟨manager,world,next⟩ := by
  obtain ⟨board,configuration,faithful⟩ := init_faithful initialized
  have kept := load_kept reliable.read boardZones storage
  have valid := faithful.valid
  subst board
  simp only [initializeConfiguration,initialized,configurationManagerLoadOrPersistDefaults,Bool.true_eq_false,if_false]
  cases holding with
  | blank empty =>
    have load := load_empty reliable.read defaults.boardZones empty
    cases run : configurationRepositoryLoad device defaults.boardZones storage with
    | mk outcome next =>
      rw [run] at load kept
      dsimp only at load kept
      subst load
      dsimp only
      rw [← kept] at empty
      have saved := save_empty reliable valid empty
      obtain ⟨intact,stored⟩ := save_stored reliable (fun key => .inl (empty key)) saved
      cases save : configurationRepositorySave device defaults.configuration defaults.boardZones next with
      | mk result last =>
        rw [save] at saved intact stored
        dsimp only at saved intact stored
        subst saved
        refine ⟨configurationManagerSetRepository true true defaults,_,rfl,congrArg (·.live) configuration,
          fun world => ⟨⟨rfl,rfl,valid,intact,stored⟩,?_⟩⟩
        change defaults.configuration.live.InSeconds
        rw [configuration]
        exact devKitDefaults_inSeconds initialized
  | configured intact stored seconds =>
    obtain ⟨loaded,generation,taken,rfl⟩ := stored
    have load := (load_ok_iff reliable.read storage loaded generation).mpr taken
    cases run : configurationRepositoryLoad device defaults.boardZones storage with
    | mk outcome next =>
      rw [run] at load kept
      dsimp only at load kept
      subst load
      refine ⟨_,_,rfl,rfl,fun world => ⟨⟨rfl,rfl,load_valid (congrArg Prod.fst run),?_,?_⟩,seconds⟩⟩
      · rw [kept]
        exact intact
      · rw [kept]
        exact ⟨loaded,generation,taken,rfl⟩

/-- A boot that loads a configuration only reads the storage. -/
theorem initializeConfiguration_loaded (bootable : Bootable boardZones) {loaded : IrrigationConfiguration}
    {generation : UInt32} (load : (configurationRepositoryLoad device boardZones storage).1 = .ok (loaded,generation)) :
    (initializeConfiguration device boardZones true storage).2 =
      (configurationRepositoryLoad device boardZones storage).2 := by
  obtain ⟨defaults,initialized,board,_⟩ := bootable.initialized zeroManager
  subst board
  cases run : configurationRepositoryLoad device defaults.boardZones storage with
  | mk outcome next =>
    rw [run] at load
    dsimp only at load
    subst load
    simp only [initializeConfiguration,initialized,configurationManagerLoadOrPersistDefaults,Bool.true_eq_false,if_false,run]

variable (device storage) in
/-- Without its partition a boot keeps the defaults, and leaves the storage alone. -/
theorem detached_initialized
    (initialized : configurationManagerInitDevKitDefaults boardZones zeroManager = (.ok,defaults)) (world : World ε) :
    ∃ manager, initializeConfiguration device boardZones false storage = (some manager,storage) ∧
      Detached (devKitDefaults boardZones) storage ⟨manager,world,storage⟩ := by
  simp only [initializeConfiguration,initialized,if_true]
  exact ⟨_,rfl,rfl,rfl,(init_faithful initialized).2.1,rfl⟩

variable {system : ManagedSystem ε σ} {next : σ} (bootable : Bootable boardZones)
  (accepted : ConfigurableZones boardZones)

include bootable accepted

/-- A boot that completes with its partition leaves a system whose configuration lasts. -/
theorem Holding.booted (holding : Holding contents boardZones storage last) (reliable : Reliable device contents)
    (opened : found.repository = true) (completed : Boot.appMain device boardZones found storage = (.ok system,next)) :
    Lasting contents boardZones system ∧
      system.manager.configuration.live = last.getD (devKitDefaults boardZones).live := by
  have booting := appMain_booting bootable accepted device found storage
  rw [completed,opened] at booting
  cases booting with
  | @started defaults manager repository _ _ initialized _ offers _ =>
    obtain ⟨configured,after,run,live,lasting⟩ := holding.initialized (ε := ε) reliable initialized
    rw [run] at offers ⊢
    obtain rfl : configured = manager := Option.some.inj offers
    have kept := lasting (initialWorld (bootedStore boardZones accepted 500) configured.views.memory found.environment)
    exact ⟨⟨⟨kept.repository,kept.board,kept.valid,kept.intact,kept.stored⟩,kept.seconds⟩,live⟩

/-- A boot that completes without its partition leaves the defaults, which nothing changes. -/
theorem detached_booted (closed : found.repository = false)
    (completed : Boot.appMain device boardZones found storage = (.ok system,next)) :
    Detached (devKitDefaults boardZones) storage system := by
  have booting := appMain_booting bootable accepted device found storage
  rw [completed,closed] at booting
  cases booting with
  | @started defaults manager repository _ _ initialized _ offers _ =>
    obtain ⟨configured,run,detached⟩ := detached_initialized device storage initialized
      (initialWorld (bootedStore boardZones accepted 500) manager.views.memory found.environment)
    rw [run] at offers ⊢
    obtain rfl : configured = manager := Option.some.inj offers
    exact ⟨detached.repository,detached.required,detached.configuration,detached.storage⟩

/-- A boot that ends early leaves a storage that the next boot takes over the same way. -/
theorem Holding.halted {failure : BootFailure} (holding : Holding contents boardZones storage last)
    (reliable : Reliable device contents)
    (ended : Boot.appMain device boardZones found storage = (.error failure,next)) :
    ∃ after, Holding contents boardZones next after ∧
      after.getD (devKitDefaults boardZones).live = last.getD (devKitDefaults boardZones).live := by
  have left : ∃ after, Holding contents boardZones (initializeConfiguration device boardZones found.repository storage).2
      after ∧ after.getD (devKitDefaults boardZones).live = last.getD (devKitDefaults boardZones).live := by
    obtain ⟨defaults,initialized,_⟩ := bootable.initialized zeroManager
    have world := initialWorld (bootedStore boardZones accepted 500) defaults.views.memory found.environment
    cases found.repository with
    | true =>
      obtain ⟨manager,after,run,live,lasting⟩ := holding.initialized (ε := ε) reliable initialized
      rw [run]
      exact ⟨_,(lasting world).holding,live⟩
    | false =>
      obtain ⟨manager,run,_⟩ := detached_initialized device storage initialized world
      rw [run]
      exact ⟨_,holding,rfl⟩
  have booting := appMain_booting bootable accepted device found storage
  rw [ended] at booting
  cases booting with
  | unswitched => exact ⟨_,holding,rfl⟩
  | mutexless => exact left
  | refused => exact left

omit bootable accepted in
/-- The defaults themselves start again. -/
theorem devKitDefaults_restartable : Restartable (devKitDefaults boardZones).live := by
  refine .inl ⟨.inl ?_,.inl ?_⟩
  · rw [IrrigationConfiguration.live,devKitDefaults_livePrograms]
    exact (by decide : 1 < 4)
  · rw [IrrigationConfiguration.live,devKitDefaults_liveSchedules]
    exact (by decide : 1 < 16)

theorem Holding.completes_iff (holding : Holding contents boardZones storage last) (reads : ReadsContents device contents)
    (opened : found.repository = true) :
    (∃ system, (Boot.appMain device boardZones found storage).1 = .ok system) ↔ found.safeOff = .ok ∧ found.mutex = true ∧
      Restartable (last.getD (devKitDefaults boardZones).live) := by
  have took := holding.takenOver reads opened
  rw [appMain_completes_iff bootable accepted device found storage]
  refine and_congr_right fun _ => and_congr_right fun _ => ?_
  rw [BootsOver,← took]
  cases Irrigation.takenOver device boardZones found storage with
  | none => exact iff_of_true nofun devKitDefaults_restartable
  | some loaded => exact ⟨fun all => all loaded rfl,fun restartable other same => Option.some.inj same ▸ restartable⟩

/-- A boot that completes shows what it took over exactly when the default program has a place in it. -/
theorem Holding.booted_sound_iff (holding : Holding contents boardZones storage last)
    (reliable : Reliable device contents) (opened : found.repository = true)
    (completed : Boot.appMain device boardZones found storage = (.ok system,next)) :
    Sound boardZones system ↔ KeepsProgram (last.getD (devKitDefaults boardZones).live) := by
  obtain ⟨lasting,live⟩ := holding.booted bootable accepted reliable opened completed
  have restartable := ((holding.completes_iff bootable accepted reliable.read opened).mp ⟨_,congrArg Prod.fst completed⟩).2.2
  rw [← live] at restartable ⊢
  have booting := appMain_booting bootable accepted device found storage
  rw [completed] at booting
  cases booting with
  | @started defaults manager repository _ _ initialized booted _ _ =>
    have valid := fun (loaded : IrrigationConfiguration)
      (took : Irrigation.takenOver device boardZones found storage = some loaded) => takenOver_valid took
    have board := bootManager_boardZones initialized (Irrigation.takenOver device boardZones found storage) repository
    have configuration := bootManager_configuration initialized (Irrigation.takenOver device boardZones found storage)
      repository
    have faithfulOf := bootManager_faithful initialized valid
    generalize Irrigation.takenOver device boardZones found storage = taken at booted valid board configuration faithfulOf
    subst booted
    constructor
    · intro sound
      have mirrors := sound.faithful.mirrors
      exact keeps_of_bootManager_mirrors initialized valid repository ⟨mirrors.programs,mirrors.schedules⟩
    · intro keeps
      have kept : KeepsProgram (bootManager repository defaults taken).configuration.live ∧
          KeepsSchedule (bootManager repository defaults taken).configuration.live :=
        restartable.resolve_right fun lost => lost.1 keeps
      rw [configuration] at kept
      refine scheduled_sound (faithfulOf ⟨?_,?_,?_⟩ repository) board lasting.seconds
        (boot_of_configurable accepted 500) _
      · rintro loaded rfl
        exact kept.1
      · rintro loaded rfl
        exact kept.2
      · rintro loaded rfl
        exact lasting.seconds

end Boots

/-! ### Periods of power -/

/-- What is found at power-up, and what happens until the power goes. -/
structure PowerPeriod (ε : Type) where
  found : PowerUp ε
  steps : List (FirmwareStep ε)

section Periods

variable (drivers : Drivers ε) (device : ConfigurationRepositoryStorage σ) (library : QueryKeyValue)
  (boardZones : List Zone)

/-- The firmware when the power goes, if it ever started, and the storage. -/
def powerPeriod (period : PowerPeriod ε) (storage : σ) : Option (Firmware ε σ) × σ :=
  match Boot.appMain device boardZones period.found storage with
  | (.error _,storage) => (none,storage)
  | (.ok system,_) =>
    let firmware := Runs.after (firmwareStep drivers device library boardZones) period.steps ⟨system,0⟩
    (some firmware,firmware.system.storage)

/-- The storage once the power went. -/
def powerCycle (period : PowerPeriod ε) (storage : σ) : σ := (powerPeriod drivers device library boardZones period storage).2

/-- What a period of power may make of the configuration that the storage has. -/
inductive Succession (boardZones : List Zone) (period : PowerPeriod ε) (last : Option LiveConfiguration) :
    Option (Firmware ε σ) → Option LiveConfiguration → Prop
  | halted {next : Option LiveConfiguration}
      (same : next.getD (devKitDefaults boardZones).live = last.getD (devKitDefaults boardZones).live) :
      Succession boardZones period last none next
  | detached {firmware : Firmware ε σ} (closed : period.found.repository = false)
      (defaults : firmware.system.manager.configuration = devKitDefaults boardZones) :
      Succession boardZones period last (some firmware) last
  | attached {firmware : Firmware ε σ} (opened : period.found.repository = true) :
      Succession boardZones period last (some firmware) (some firmware.system.manager.configuration.live)

variable {drivers device boardZones} {contents : σ → SlotContents} {storage : σ} {last : Option LiveConfiguration}

theorem SystemInvariant.powered {invariant : ManagedSystem ε σ → Prop} (kept : SystemInvariant drivers device invariant)
    (aging : ∀ environment (system : ManagedSystem ε σ), invariant system → invariant (system.at environment))
    {system : ManagedSystem ε σ} (initially : invariant system) (zones : List Zone) (steps : List (FirmwareStep ε))
    (tickCount : UInt16) :
    invariant (Runs.after (firmwareStep drivers device library zones) steps ⟨system,tickCount⟩).system := by
  have everywhere : Runs.Throughout (firmwareStep drivers device library zones)
      (fun firmware => invariant firmware.system) steps ⟨system,tickCount⟩ :=
    kept.throughout library zones (fun _ _ => True) (fun environment system _ holds => aging environment system holds)
      initially (Runs.along_true steps _)
  exact everywhere steps [] (List.append_nil steps).symm

/-- One period of power: the storage has the configuration that was live when the power went. -/
theorem powerPeriod_succession (reliable : Reliable device contents) (bootable : Bootable boardZones)
    (accepted : ConfigurableZones boardZones) (holding : Holding contents boardZones storage last)
    (period : PowerPeriod ε) :
    ∃ next, Holding contents boardZones (powerCycle drivers device library boardZones period storage) next ∧
      Succession boardZones period last (powerPeriod drivers device library boardZones period storage).1 next := by
  rw [powerCycle,powerPeriod]
  cases boot : Boot.appMain device boardZones period.found storage with
  | mk outcome left =>
    cases outcome with
    | error failure =>
      obtain ⟨next,kept,same⟩ := holding.halted bootable accepted reliable boot
      exact ⟨next,kept,.halted same⟩
    | ok system =>
      dsimp only
      cases opened : period.found.repository with
      | true =>
        obtain ⟨lasting,_⟩ := holding.booted bootable accepted reliable opened boot
        have lasts : SystemInvariant drivers device (Lasting contents boardZones : ManagedSystem ε σ → Prop) :=
          lasting_kept reliable
        have ended := lasts.powered library (fun _ _ lasting =>
          ⟨⟨lasting.repository,lasting.board,lasting.valid,lasting.intact,lasting.stored⟩,lasting.seconds⟩)
          lasting boardZones period.steps 0
        exact ⟨_,ended.holding,.attached opened⟩
      | false =>
        have stays : SystemInvariant drivers device
            (Detached (devKitDefaults boardZones) storage : ManagedSystem ε σ → Prop) := detached_kept _ _
        have ended := stays.powered library (fun _ _ detached =>
          ⟨detached.repository,detached.required,detached.configuration,detached.storage⟩)
          (detached_booted bootable accepted opened boot) boardZones period.steps 0
        refine ⟨last,?_,.detached opened ended.configuration⟩
        rw [ended.storage]
        exact holding

variable (drivers device boardZones)

/-- The configuration that was live when the power went for the last time, of those that could be stored. -/
def remembered : List (PowerPeriod ε) → σ → LiveConfiguration → LiveConfiguration
  | [], _, live => live
  | period :: later, storage, live =>
    let (ended,next) := powerPeriod drivers device library boardZones period storage
    remembered later next (match ended with
      | some firmware => if period.found.repository then firmware.system.manager.configuration.live else live
      | none => live)

variable {device boardZones}

theorem periods_remembered (reliable : Reliable device contents) (bootable : Bootable boardZones)
    (accepted : ConfigurableZones boardZones) (holding : Holding contents boardZones storage last)
    (periods : List (PowerPeriod ε)) :
    ∃ next, Holding contents boardZones (Runs.after (powerCycle drivers device library boardZones) periods storage) next ∧
      next.getD (devKitDefaults boardZones).live = remembered drivers device library boardZones periods storage
        (last.getD (devKitDefaults boardZones).live) := by
  induction periods generalizing storage last with
  | nil => exact ⟨last,holding,rfl⟩
  | cons period later ih =>
    obtain ⟨middle,kept,succession⟩ := powerPeriod_succession library reliable bootable accepted holding period
    obtain ⟨next,final,same⟩ := ih kept
    refine ⟨next,final,same.trans ?_⟩
    simp only [remembered,powerCycle]
    generalize powerPeriod drivers device library boardZones period storage = outcome at succession
    obtain ⟨ended,left⟩ := outcome
    congr 1
    cases succession with
    | halted same => exact same
    | detached closed => simp only [closed,Bool.false_eq_true,if_false]
    | attached opened => simp only [opened,if_true,Option.getD_some]

variable {drivers}

/-- From delivery on, a boot goes through exactly when the configuration that was live when the power
went is restartable. It takes that configuration over; and the firmware is sound, now and in every state
that it reaches, exactly when the default program has a place in it. -/
theorem power_up_remembers (library : QueryKeyValue) (reliable : Reliable device contents)
    (bootable : Bootable boardZones) (accepted : ConfigurableZones boardZones)
    (delivered : ∀ key, contents storage key = none) (periods : List (PowerPeriod ε)) (found : PowerUp ε)
    (opened : found.repository = true) :
    let left := Runs.after (powerCycle drivers device library boardZones) periods storage
    let live := remembered drivers device library boardZones periods storage (devKitDefaults boardZones).live
    ((∃ system, (Boot.appMain device boardZones found left).1 = .ok system) ↔
      found.safeOff = .ok ∧ found.mutex = true ∧ Restartable live) ∧
    ∀ system next, Boot.appMain device boardZones found left = (.ok system,next) →
      system.manager.configuration.live = live ∧
      (KeepsProgram live ↔ ∀ steps, Runs.Throughout (firmwareStep drivers device library boardZones)
        (fun firmware => Sound boardZones firmware.system) steps ⟨system,0⟩) := by
  intro left live
  obtain ⟨last,holding,same⟩ := periods_remembered drivers library reliable bootable accepted
    (.blank delivered : Holding contents boardZones storage none) periods
  rw [Option.getD_none] at same
  constructor
  · rw [holding.completes_iff bootable accepted reliable.read opened,same]
  · intro system next completed
    obtain ⟨_,taken⟩ := holding.booted bootable accepted reliable opened completed
    have sound := holding.booted_sound_iff bootable accepted reliable opened completed
    rw [same] at taken sound
    refine ⟨taken,sound.symm.trans ⟨fun initially steps => initially.throughout library steps,fun everywhere => ?_⟩⟩
    exact everywhere [] [] [] rfl

/-- A zone is renamed in the first period of power. -/
def devFirstPeriod : PowerPeriod UInt64 where
  found := devPowerUp
  steps := [.request 10 ⟨.post,.literal "/zone/name",
    ⟨.literal "/zone/name?id=zone-1&name=beds",some (.literal "id=zone-1&name=beds")⟩⟩]

theorem power_up_remembers_renamed : ∃ system next,
    Boot.appMain memoryStorage devZones devPowerUp
      (powerCycle quietDrivers memoryStorage pairLookup devZones devFirstPeriod emptySlots) = (.ok system,next) ∧
    system.manager.configuration.live.zones.head?.map (·.displayName.toCString) = some (.literal "beds") := by
  have remembers := @power_up_remembers _ _ quietDrivers _ _ _ _ pairLookup memoryStorage_reliable devZones_bootable
    devZones_configurable (fun _ => rfl) [devFirstPeriod] devPowerUp rfl
  have renamed : (remembered quietDrivers memoryStorage pairLookup devZones [devFirstPeriod] emptySlots
      (devKitDefaults devZones).live).zones.head?.map (·.displayName.toCString) = some (.literal "beds") := by
    decide +kernel
  obtain ⟨system,completed⟩ := remembers.1.mpr ⟨rfl,rfl,by decide +kernel⟩
  cases run : Boot.appMain memoryStorage devZones devPowerUp
      (powerCycle quietDrivers memoryStorage pairLookup devZones devFirstPeriod emptySlots) with
  | mk outcome next =>
    have ran : (Boot.appMain memoryStorage devZones devPowerUp
      (powerCycle quietDrivers memoryStorage pairLookup devZones devFirstPeriod emptySlots)).1 = .ok system := completed
    rw [run] at ran
    obtain rfl : outcome = .ok system := ran
    refine ⟨system,next,rfl,?_⟩
    rw [(remembers.2 system next run).1]
    exact renamed

variable (drivers) in
theorem halted_period (library : QueryKeyValue) (reads : ReadsContents device contents)
    (bootable : Bootable boardZones) (accepted : ConfigurableZones boardZones) {live : LiveConfiguration}
    (stored : Stored boardZones (contents storage) live) (lost : ¬Restartable live) {period : PowerPeriod ε}
    (opened : period.found.repository = true) :
    (powerPeriod drivers device library boardZones period storage).1 = none ∧
      contents (powerCycle drivers device library boardZones period storage) = contents storage := by
  obtain ⟨loaded,generation,taken,rfl⟩ := stored
  have load := (load_ok_iff reads storage loaded generation).mpr taken
  have took : takenOver device boardZones period.found storage = some loaded := by
    rw [takenOver,if_pos opened,load]
    rfl
  have kept := initializeConfiguration_loaded bootable load
  have booting := appMain_booting bootable accepted device period.found storage
  rw [powerCycle,powerPeriod]
  rw [took,opened] at booting
  generalize Boot.appMain device boardZones period.found storage = outcome at booting
  cases booting with
  | unswitched => exact ⟨rfl,rfl⟩
  | mutexless =>
    refine ⟨rfl,?_⟩
    rw [kept]
    exact load_kept reads boardZones storage
  | refused =>
    refine ⟨rfl,?_⟩
    rw [kept]
    exact load_kept reads boardZones storage
  | started _ _ _ _ _ boots => exact absurd (boots loaded rfl) lost

def numberedSchedule (number : Nat) : IrrigationScheduleConfiguration :=
  { defaultSchedule with
    scheduleId := copyText (.numbered "schedule-" number)
    programId := copyText (.numbered "program-" 1) }

/-- Four programs and two schedules, none of them the default ones. -/
def stuckDefaults : IrrigationConfiguration :=
  { fullPrograms with
    schedules := fill zeroSchedule [numberedSchedule 1,numberedSchedule 2]
    scheduleCount := 2
    nextScheduleId := 3 }

theorem stuckDefaults_stored : Stored devZones (storedOnce stuckDefaults.live) stuckDefaults.live := by
  have valid : irrigationConfigurationValidate stuckDefaults devZones = .ok := by decide +kernel
  obtain ⟨loaded,load,same⟩ := storedOnce_loads ((validate_ok_iff _ _).mp valid).2
  exact ⟨loaded,1,(load_ok_iff memoryStorage_reliable.read _ _ _).mp load,same⟩

/-- Once the configuration is not restartable, no boot that finds it goes through, and none changes it. -/
theorem halted_for_good (library : QueryKeyValue) (reads : ReadsContents device contents)
    (bootable : Bootable boardZones) (accepted : ConfigurableZones boardZones) {live : LiveConfiguration}
    (stored : Stored boardZones (contents storage) live) (lost : ¬Restartable live) (periods : List (PowerPeriod ε))
    (opened : ∀ period ∈ periods, period.found.repository = true) :
    Runs.Along (powerCycle drivers device library boardZones) (fun period storage =>
      (powerPeriod drivers device library boardZones period storage).1 = none) periods storage ∧
      contents (Runs.after (powerCycle drivers device library boardZones) periods storage) = contents storage := by
  induction periods generalizing storage with
  | nil => exact ⟨trivial,rfl⟩
  | cons period later ih =>
    obtain ⟨ended,kept⟩ := halted_period drivers library reads bootable accepted stored lost
      (opened period (List.mem_cons_self ..))
    rw [← kept] at stored
    obtain ⟨halts,unchanged⟩ := ih stored fun other member => opened other (List.mem_cons_of_mem _ member)
    exact ⟨⟨ended,halts⟩,unchanged.trans kept⟩

theorem halted_for_good_stuck :
    (powerPeriod quietDrivers memoryStorage pairLookup devZones ⟨devPowerUp,[]⟩ (storedOnce stuckDefaults.live)).1 = none :=
  (halted_for_good pairLookup memoryStorage_reliable.read devZones_bootable devZones_configurable stuckDefaults_stored
    (by decide +kernel) [⟨devPowerUp,[]⟩] (by simp [devPowerUp])).1.1

end Periods

end Irrigation
