import Irrigation.FreshIds
import Irrigation.SoundFirmware

/-! `app_main`, up to the start of its task and its web server. A stored configuration may be one
that it cannot start with; the boot then ends, and so does every later one. -/
namespace Irrigation

open KeyedSlots Repository

/-! ### The event bus -/

abbrev eventBusMaxSubscribers : Nat := 4

inductive EventSubscriber where
  | logEvent | programExecutionHistoryHandleEvent
  deriving DecidableEq, Repr

abbrev EventBus := Vector (Option EventSubscriber) eventBusMaxSubscribers

def eventBusInit (subscriber : Option EventSubscriber) : EventBus := (Vector.replicate _ none).set 0 subscriber

def eventBusSubscribe (subscriber : EventSubscriber) (bus : EventBus) : IrrigationResult × EventBus :=
  match (List.finRange eventBusMaxSubscribers).find? fun slot => bus[slot].isNone with
  | some slot => (.ok,bus.set slot (some subscriber))
  | none => (.rejected,bus)

/-! ### The boot -/

/-- Where `app_main` returns early. -/
inductive BootFailure where
  | safeOutputs | ready | configuration | zones | history | mutex | scheduler
  deriving DecidableEq, Repr

/-- What a boot finds: the answer of the drivers to switching all outputs off and what that leaves,
whether the configuration's partition can be opened, and whether there is a mutex to be had. -/
structure PowerUp (ε : Type) where
  safeOff : IrrigationResult
  environment : ε
  repository : Bool
  mutex : Bool

section Boot

variable {ε σ : Type} (device : ConfigurationRepositoryStorage σ) (boardZones : List Zone)

/-- Without its partition, and after an error of the storage, the manager refuses to change anything. -/
def initializeConfiguration (repository : Bool) (storage : σ) : Option ConfigurationManager × σ :=
  match configurationManagerInitDevKitDefaults boardZones zeroManager with
  | (.ok,manager) =>
    if repository = false then (some (configurationManagerSetRepository false true manager),storage)
    else match configurationManagerLoadOrPersistDefaults device manager storage with
    | (.defaultsStorageError,manager,storage) => (some (configurationManagerSetRepository false true manager),storage)
    | (_,manager,storage) => (some (configurationManagerSetRepository true true manager),storage)
  | _ => (none,storage)

/-- The services as they are initialised over the store. -/
def initialWorld (store : RuntimeState) (memory : Memory) (environment : ε) : World ε where
  store := store
  memory := memory
  program := none
  startContext := programStartContextManual
  entries := []
  environment := environment
  calls := []
  events := []
  synchronization := []

/-- `app_main` from the configuration of the zones on. -/
def startServices (found : PowerUp ε) (store : RuntimeState) (manager : ConfigurationManager) (storage : σ) :
    Except BootFailure (ManagedSystem ε σ) :=
  match stateStoreConfigureZones store boardZones with
  | .error _ => .error .zones
  | .ok configured =>
    let store := (stateStoreConfigureMasterValve configured 500).toOption.getD configured
    if (eventBusSubscribe .programExecutionHistoryHandleEvent (eventBusInit (some .logEvent))).1 ≠ .ok then .error .history
    else if found.mutex = false then .error .mutex
    else
      let (result,world) := configurationManagerConfigureScheduler manager
        (initialWorld store manager.views.memory found.environment)
      if result ≠ .ok then .error .scheduler
      else .ok ⟨configurationManagerBindScheduler true manager,world,storage⟩

/-- The firmware that a boot leaves, or where it ended; and the storage. -/
def Boot.appMain (found : PowerUp ε) (storage : σ) : Except BootFailure (ManagedSystem ε σ) × σ :=
  if found.safeOff ≠ .ok then (.error .safeOutputs,storage)
  else match stateStoreTransitionSystem stateStoreInit .ready with
  | .error _ => (.error .ready,storage)
  | .ok store =>
    match initializeConfiguration device boardZones found.repository storage with
    | (none,storage) => (.error .configuration,storage)
    | (some manager,storage) => (startServices boardZones found store manager storage,storage)

end Boot

/-! ### Configurations that a boot can start with -/

/-- The default program is among the programs, or there is room for it. -/
def KeepsProgram (live : LiveConfiguration) : Prop :=
  live.programs.length < irrigationMaxPrograms ∨
    ∃ program ∈ live.programs, program.programId.toCString = .literal "dev-program"

/-- The default schedule is among the schedules, or there is room for it. -/
def KeepsSchedule (live : LiveConfiguration) : Prop :=
  live.schedules.length < irrigationMaxSchedules ∨
    ∃ schedule ∈ live.schedules, schedule.scheduleId.toCString = .literal "dev-monday-0600"

instance (live : LiveConfiguration) : Decidable (KeepsProgram live) := by unfold KeepsProgram; infer_instance

instance (live : LiveConfiguration) : Decidable (KeepsSchedule live) := by unfold KeepsSchedule; infer_instance

/-- Without room for the programs nothing is rebuilt, which goes unnoticed up to one schedule. -/
def Restartable (live : LiveConfiguration) : Prop :=
  KeepsProgram live ∧ KeepsSchedule live ∨ ¬KeepsProgram live ∧ live.schedules.length ≤ 1

instance (live : LiveConfiguration) : Decidable (Restartable live) := by unfold Restartable; infer_instance

theorem card_insert_le_iff {α : Type} [DecidableEq α] (room : Nat) (single : α) {keys : List α} (distinct : keys.Nodup)
    (bounded : keys.length ≤ room) : ({single} ∪ keys.toFinset).card ≤ room ↔ keys.length < room ∨ single ∈ keys := by
  have count : keys.toFinset.card = keys.length := List.toFinset_card_of_nodup distinct
  rw [← Finset.insert_eq]
  by_cases member : single ∈ keys
  · rw [Finset.insert_eq_of_mem (List.mem_toFinset.mpr member),count]
    exact iff_of_true bounded (.inr member)
  · rw [Finset.card_insert_of_notMem fun inside => member (List.mem_toFinset.mp inside),count]
    exact ⟨.inl,fun either => either.resolve_right member⟩

theorem mem_ids_iff {ids : List IdText} (id : CString) (short : id.bytes.length < 32) :
    (copyText id : IdText) ∈ ids ↔ ∃ other ∈ ids, other.toCString = id := by
  have same := copyText_toCString (n := 32) id short
  constructor
  · exact fun member => ⟨_,member,same⟩
  · rintro ⟨other,member,named⟩
    rwa [← CharArray.toCString_injective (named.trans same.symm)]

section Fitting

variable {boardZones : List Zone} {live : LiveConfiguration}

theorem programsFit_iff (valid : live.Valid boardZones) :
    (programIds (devKitDefaults boardZones).live ∪ programIds live).card ≤ irrigationMaxPrograms ↔ KeepsProgram live := by
  have defaults : programIds (devKitDefaults boardZones).live = {(copyText (.literal "dev-program") : IdText)} := by
    simp only [programIds,IrrigationConfiguration.live,devKitDefaults_livePrograms]
    rfl
  have room := card_insert_le_iff irrigationMaxPrograms (copyText (.literal "dev-program") : IdText)
    valid.programsDistinct (by rw [List.length_map]; exact valid.programCount)
  rw [List.length_map,mem_ids_iff _ (by decide)] at room
  rw [defaults]
  exact room.trans (or_congr_right (by simp))

theorem schedulesFit_iff (valid : live.Valid boardZones) :
    (scheduleIds (devKitDefaults boardZones).live ∪ scheduleIds live).card ≤ irrigationMaxSchedules ↔
      KeepsSchedule live := by
  have defaults : scheduleIds (devKitDefaults boardZones).live = {(copyText (.literal "dev-monday-0600") : IdText)} := by
    simp only [scheduleIds,IrrigationConfiguration.live,devKitDefaults_liveSchedules]
    rfl
  have room := card_insert_le_iff irrigationMaxSchedules (copyText (.literal "dev-monday-0600") : IdText)
    valid.schedulesDistinct (by rw [List.length_map]; exact valid.scheduleCount)
  rw [List.length_map,mem_ids_iff _ (by decide)] at room
  rw [defaults]
  exact room.trans (or_congr_right (by simp))

/-- A configuration fits beside the defaults exactly when it keeps a place for both of their ids. -/
theorem fits_defaults_iff (valid : live.Valid boardZones) :
    Fits (devKitDefaults boardZones).live live ↔ KeepsProgram live ∧ KeepsSchedule live :=
  ⟨fun fits => ⟨(programsFit_iff valid).mp fits.programs,(schedulesFit_iff valid).mp fits.schedules⟩,
    fun kept => ⟨(programsFit_iff valid).mpr kept.1,(schedulesFit_iff valid).mpr kept.2⟩⟩

end Fitting

/-! ### What the scheduler is offered -/

section Offers

variable {views : RuntimeViews} {configuration : IrrigationConfiguration}

/-- Entries behind the schedules of a configuration are not written. -/
theorem rebuild_unwritten {index : Nat} (behind : configuration.liveSchedules.length ≤ index) :
    (rebuildRuntimeViews views configuration true).schedules index = views.schedules index := by
  have unwritten (base : RuntimeViews) : writtenSchedule base configuration index = none := by
    rw [writtenSchedule,List.getElem?_eq_none behind]
    cases (storeSchedules base configuration).chosen[index]? <;> rfl
  rw [rebuildRuntimeViews,if_pos rfl]
  split
  · simp only [rebuildSchedules,unwritten,Option.getD_none]
  · rfl

theorem rejected_of_blank {memory : Memory} {count index : Nat} (inside : index < count)
    (blank : (views.schedules index).id = none) : entriesAreAccepted memory (views.entries count) = false := by
  refine Bool.eq_false_iff.mpr fun accepted => ?_
  have valid := ((entriesAreAccepted_iff _ _).mp accepted).1 (views.schedules index)
    (List.mem_map.mpr ⟨index,List.mem_range.mpr inside,rfl⟩)
  rw [entryIsValid,blank] at valid
  contradiction

/-- The entry of the default schedule is the only one that the defaults leave. -/
structure OnlyDefault (views : RuntimeViews) : Prop where
  first : entryIsValid (views.schedules 0) = true
  blank : ∀ index, 1 ≤ index → (views.schedules index).id = none

theorem OnlyDefault.accepted_iff (only : OnlyDefault views) (memory : Memory) (count : Nat) :
    entriesAreAccepted memory (views.entries count) = true ↔ count ≤ 1 := by
  constructor
  · intro accepted
    by_contra more
    rw [rejected_of_blank (Nat.not_le.mp more) (only.blank 1 (Nat.le_refl 1))] at accepted
    contradiction
  · intro few
    rw [entriesAreAccepted_iff]
    cases count with
    | zero => exact ⟨nofun,List.nodup_nil⟩
    | succ count =>
      obtain rfl : count = 0 := by omega
      exact ⟨List.forall_mem_singleton.mpr only.first,List.nodup_singleton _⟩

/-- A rebuild over the defaults' entry is accepted exactly for the restartable configurations. -/
theorem Rebuilding.accepted_iff {boardZones : List Zone} {manager : ConfigurationManager}
    (faithful : Faithful manager) (board : manager.boardZones = boardZones)
    (defaults : manager.configuration = devKitDefaults boardZones) (only : OnlyDefault manager.views)
    (valid : irrigationConfigurationValidate configuration boardZones = .ok)
    (rebuilding : Rebuilding manager.views configuration views) :
    entriesAreAccepted views.memory (views.entries configuration.scheduleCount.toNat) = true ↔
      Restartable configuration.live := by
  obtain ⟨capacity,live⟩ := (validate_ok_iff _ _).mp valid
  have count : configuration.live.schedules.length = configuration.scheduleCount.toNat := capacity.liveSchedules_length
  have programs := programsFit_iff live
  have schedules := schedulesFit_iff live
  rw [← defaults,← faithful.programKeys] at programs
  rw [← defaults,← faithful.scheduleKeys] at schedules
  by_cases keepsProgram : KeepsProgram configuration.live
  · by_cases keepsSchedule : KeepsSchedule configuration.live
    · refine iff_of_true ?_ (.inl ⟨keepsProgram,keepsSchedule⟩)
      have fits : Fits manager.configuration.live configuration.live := by
        rw [defaults]
        exact (fits_defaults_iff live).mpr ⟨keepsProgram,keepsSchedule⟩
      have boardValid : irrigationConfigurationValidate configuration manager.boardZones = .ok := by rwa [board]
      have installed : Faithful { manager with configuration, views } := faithful.installed boardValid rebuilding fits
      exact entries_accepted installed.valid installed.mirrors
    · refine iff_of_false ?_ ?_
      · cases rebuilding with
        | programsFull _ noRoom => exact absurd (programs.mpr keepsProgram) noRoom
        | @reached base _ holds _ ids kept =>
          have stopped : (storeSchedules base configuration).complete = false := by
            refine Bool.eq_false_iff.mpr fun complete => keepsSchedule (schedules.mp ?_)
            have distinct := faithful.tracks.scheduleIds.distinct
            rw [← ids] at distinct ⊢
            rw [storeSchedules_held live holds,(Slots.storeAll_passing _ _).complete_iff distinct,
              entryKeys_schedules live] at complete
            exact complete
          have early : (storeSchedules base configuration).chosen.length < configuration.live.schedules.length := by
            rw [storeSchedules_held live holds] at stopped ⊢
            obtain ⟨_,_,atEnd,_⟩ := (Slots.storeAll_passing _ _).incomplete stopped
            have inside := (List.getElem?_eq_some_iff.mp atEnd).1
            rwa [List.length_map] at inside
          have many : ¬configuration.live.schedules.length < 16 := fun fewer => keepsSchedule (.inl fewer)
          -- Behind the last slot that was found, and behind the default's.
          have index : max 1 (storeSchedules base configuration).chosen.length < configuration.scheduleCount.toNat := by
            omega
          rw [Bool.not_eq_true]
          refine rejected_of_blank index ?_
          have unwritten : writtenSchedule base configuration
              (max 1 (storeSchedules base configuration).chosen.length) = none := by
            rw [writtenSchedule,List.getElem?_eq_none (Nat.le_max_right ..)]
            rfl
          simp only [rebuildSchedules,unwritten,Option.getD_none,kept]
          exact only.blank _ (Nat.le_max_left ..)
      · rintro (⟨_,kept⟩ | ⟨lost,_⟩)
        · exact keepsSchedule kept
        · exact lost keepsProgram
  · have few : Restartable configuration.live ↔ configuration.live.schedules.length ≤ 1 :=
      ⟨fun restartable => (restartable.resolve_left fun kept => keepsProgram kept.1).2,fun few => .inr ⟨keepsProgram,few⟩⟩
    rw [few,count]
    cases rebuilding with
    | programsFull => exact OnlyDefault.accepted_iff ⟨only.first,only.blank⟩ _ _
    | reached _ _ room => exact absurd (programs.mp room) keepsProgram

end Offers

/-! ### Which boots end -/

section Boots

variable {ε σ : Type} {boardZones : List Zone} {manager : ConfigurationManager}

theorem init_onlyDefault (initialized : configurationManagerInitDevKitDefaults boardZones zeroManager = (.ok,manager)) :
    OnlyDefault manager.views := by
  obtain ⟨_,configuration,faithful⟩ := init_faithful initialized
  have accepted := entries_accepted faithful.valid faithful.mirrors
  have count : manager.configuration.scheduleCount.toNat = 1 := by rw [configuration]; rfl
  rw [count,entriesAreAccepted_iff] at accepted
  refine ⟨accepted.1 _ (List.mem_map.mpr ⟨0,List.mem_range.mpr (by decide),rfl⟩),fun index behind => ?_⟩
  unfold configurationManagerInitDevKitDefaults at initialized
  split at initialized
  · exact absurd (congrArg Prod.fst initialized) (by simp)
  · obtain ⟨valid,rfl⟩ := Prod.mk.inj initialized
    have single : (devKitDefaults boardZones).liveSchedules.length = 1 := by rw [devKitDefaults_liveSchedules]; rfl
    simp only [valid,if_true]
    rw [rebuild_unwritten (by omega)]
    rfl

theorem configureScheduler_ok_iff (room : manager.configuration.scheduleCount.toNat ≤ irrigationMaxSchedules)
    (world : World ε) : (configurationManagerConfigureScheduler manager world).1 = .ok ↔
      entriesAreAccepted world.memory (manager.views.entries manager.configuration.scheduleCount.toNat) = true :=
  (offered manager.views room world.locked).ok_iff

/-- The services start with the store that is booted for the board. -/
theorem startServices_eq (accepted : ConfigurableZones boardZones) (found : PowerUp ε) (manager : ConfigurationManager)
    (storage : σ) :
    startServices boardZones found { stateStoreInit with systemState := .ready } manager storage =
      if found.mutex = false then .error .mutex
      else if (configurationManagerConfigureScheduler manager (initialWorld (bootedStore boardZones accepted 500)
        manager.views.memory found.environment)).1 ≠ .ok then .error .scheduler
      else .ok (scheduled manager (initialWorld (bootedStore boardZones accepted 500) manager.views.memory
        found.environment) storage) := by
  have configured : stateStoreConfigureZones { stateStoreInit with systemState := .ready } boardZones =
      .ok { stateStoreInit with systemState := .ready, zones := configuredTable boardZones accepted } := by
    simp only [stateStoreConfigureZones,dif_pos accepted]
  have subscribed : (eventBusSubscribe .programExecutionHistoryHandleEvent (eventBusInit (some .logEvent))).1 = .ok := by
    decide
  simp only [startServices,configured,subscribed,ne_eq,not_true_eq_false,if_false]
  rfl

/-- The stored configuration that a boot takes over. -/
def takenOver (device : ConfigurationRepositoryStorage σ) (boardZones : List Zone) (found : PowerUp ε) (storage : σ) :
    Option IrrigationConfiguration :=
  if found.repository then (configurationRepositoryLoad device boardZones storage).1.toOption.map (·.1) else none

/-- The defaults, or a configuration that was loaded over them. -/
def overDefaults (defaults : ConfigurationManager) : Option IrrigationConfiguration → ConfigurationManager
  | none => defaults
  | some loaded =>
    { defaults with configuration := loaded, views := rebuildRuntimeViews defaults.views loaded true }

/-- The manager that a boot configures. -/
def bootManager (repository : Bool) (defaults : ConfigurationManager) (taken : Option IrrigationConfiguration) :
    ConfigurationManager :=
  configurationManagerSetRepository repository true (overDefaults defaults taken)

/-- Whether the scheduler takes the entries of a configuration that was loaded, if there is one. -/
def BootsOver (taken : Option IrrigationConfiguration) : Prop := ∀ loaded ∈ taken, Restartable loaded.live

variable {device : ConfigurationRepositoryStorage σ} {defaults : ConfigurationManager} {found : PowerUp ε} {storage : σ}

theorem initializeConfiguration_manager (device : ConfigurationRepositoryStorage σ)
    (initialized : configurationManagerInitDevKitDefaults boardZones zeroManager = (.ok,defaults)) (found : PowerUp ε)
    (storage : σ) : ∃ repository, (initializeConfiguration device boardZones found.repository storage).1 =
      some (bootManager repository defaults (takenOver device boardZones found storage)) := by
  have board : defaults.boardZones = boardZones := (init_faithful initialized).1
  simp only [initializeConfiguration,initialized,takenOver]
  cases found.repository with
  | false => exact ⟨false,rfl⟩
  | true =>
    subst board
    simp only [Bool.true_eq_false,if_false,if_true,configurationManagerLoadOrPersistDefaults]
    cases configurationRepositoryLoad device defaults.boardZones storage with
    | mk outcome next =>
      cases outcome with
      | ok loaded => exact ⟨true,rfl⟩
      | error failure =>
        cases failure with
        | notFound =>
          dsimp only
          cases configurationRepositorySave device defaults.configuration defaults.boardZones next with
          | mk result last => cases result <;> exact ⟨_,rfl⟩
        | _ => exact ⟨_,rfl⟩

theorem takenOver_valid {loaded : IrrigationConfiguration}
    (taken : takenOver device boardZones found storage = some loaded) :
    irrigationConfigurationValidate loaded boardZones = .ok := by
  rw [takenOver,Option.ite_none_right_eq_some] at taken
  obtain ⟨_,taken⟩ := taken
  cases load : (configurationRepositoryLoad device boardZones storage).1 with
  | error failure =>
    rw [load] at taken
    contradiction
  | ok outcome =>
    rw [load] at taken
    cases taken
    exact load_valid load

theorem bootManager_accepted_iff
    (initialized : configurationManagerInitDevKitDefaults boardZones zeroManager = (.ok,defaults))
    (taken : Option IrrigationConfiguration)
    (valid : ∀ loaded ∈ taken, irrigationConfigurationValidate loaded boardZones = .ok) (repository : Bool)
    (store : RuntimeState) (environment : ε) : (configurationManagerConfigureScheduler (bootManager repository defaults taken)
      (initialWorld store (bootManager repository defaults taken).views.memory environment)).1 = .ok ↔ BootsOver taken := by
  obtain ⟨board,configuration,faithful⟩ := init_faithful initialized
  cases taken with
  | none =>
    refine iff_of_true ?_ nofun
    exact configureScheduler_ok faithful.valid faithful.mirrors rfl
  | some loaded =>
    have legal := valid loaded rfl
    obtain ⟨capacity,live⟩ := (validate_ok_iff _ _).mp legal
    have rebuilding : Rebuilding defaults.views loaded (rebuildRuntimeViews defaults.views loaded true) :=
      rebuild_cases live faithful.tracks.programs.distinct nofun
    have accepts := rebuilding.accepted_iff faithful board configuration (init_onlyDefault initialized) legal
    refine (configureScheduler_ok_iff capacity.schedules _).trans (accepts.trans ?_)
    exact ⟨fun restartable other same => Option.some.inj same ▸ restartable,fun all => all loaded rfl⟩

/-- How `app_main` goes for a usable board: the configuration that it takes over decides, and what was
configured and left in the storage stays so. -/
inductive Booting (accepted : ConfigurableZones boardZones) (found : PowerUp ε) (storage : σ)
    (taken : Option IrrigationConfiguration) (configured : Option ConfigurationManager × σ) :
    Except BootFailure (ManagedSystem ε σ) × σ → Prop
  | unswitched (unsafeOutputs : found.safeOff ≠ .ok) :
      Booting accepted found storage taken configured (.error .safeOutputs,storage)
  | mutexless (switched : found.safeOff = .ok) (none : found.mutex = false) :
      Booting accepted found storage taken configured (.error .mutex,configured.2)
  | refused (switched : found.safeOff = .ok) (mutex : found.mutex = true) (lost : ¬BootsOver taken) :
      Booting accepted found storage taken configured (.error .scheduler,configured.2)
  | started {defaults manager : ConfigurationManager} {repository : Bool} (switched : found.safeOff = .ok)
      (mutex : found.mutex = true)
      (initialized : configurationManagerInitDevKitDefaults boardZones zeroManager = (.ok,defaults))
      (booted : bootManager repository defaults taken = manager) (offers : configured.1 = some manager)
      (boots : BootsOver taken) :
      Booting accepted found storage taken configured
        (.ok (scheduled manager (initialWorld (bootedStore boardZones accepted 500) manager.views.memory
          found.environment) configured.2),configured.2)

theorem appMain_booting (bootable : Bootable boardZones) (accepted : ConfigurableZones boardZones)
    (device : ConfigurationRepositoryStorage σ) (found : PowerUp ε) (storage : σ) :
    Booting accepted found storage (takenOver device boardZones found storage)
      (initializeConfiguration device boardZones found.repository storage) (Boot.appMain device boardZones found storage) := by
  obtain ⟨defaults,initialized,_⟩ := bootable.initialized zeroManager
  have ready : stateStoreTransitionSystem stateStoreInit .ready = .ok { stateStoreInit with systemState := .ready } := rfl
  by_cases switched : found.safeOff = .ok
  · obtain ⟨repository,configured⟩ := initializeConfiguration_manager device initialized found storage
    have accepts := bootManager_accepted_iff initialized (takenOver device boardZones found storage)
      (fun _ taken => takenOver_valid taken) repository (bootedStore boardZones accepted 500) found.environment
    generalize takenOver device boardZones found storage = taken at configured accepts ⊢
    generalize booted : bootManager repository defaults taken = manager at configured accepts
    rw [Boot.appMain,if_neg (not_not.mpr switched),ready]
    generalize initializeConfiguration device boardZones found.repository storage = outcome at configured ⊢
    obtain ⟨offered,next⟩ := outcome
    obtain rfl : offered = some manager := configured
    simp only [startServices_eq accepted]
    by_cases mutex : found.mutex = true
    · rw [if_neg (by simp [mutex])]
      by_cases boots : BootsOver taken
      · rw [if_neg (not_not.mpr (accepts.mpr boots))]
        exact .started switched mutex initialized booted rfl boots
      · rw [if_pos fun ok => boots (accepts.mp ok)]
        exact .refused switched mutex boots
    · have none : found.mutex = false := by simpa using mutex
      rw [if_pos none]
      exact .mutexless switched none
  · rw [Boot.appMain,if_pos switched]
    exact .unswitched switched

/-- A boot goes through exactly when the outputs are off, there is a mutex and the configuration that it
takes over is restartable. -/
theorem appMain_completes_iff (bootable : Bootable boardZones) (accepted : ConfigurableZones boardZones)
    (device : ConfigurationRepositoryStorage σ) (found : PowerUp ε) (storage : σ) :
    (∃ system, (Boot.appMain device boardZones found storage).1 = .ok system) ↔ found.safeOff = .ok ∧ found.mutex = true ∧
      BootsOver (takenOver device boardZones found storage) := by
  have booting := appMain_booting bootable accepted device found storage
  have unfinished (failure : BootFailure) :
      ¬∃ system : ManagedSystem ε σ, (Except.error failure : Except BootFailure (ManagedSystem ε σ)) = .ok system :=
    fun ⟨_,completed⟩ => nomatch completed
  generalize Boot.appMain device boardZones found storage = outcome at booting
  generalize takenOver device boardZones found storage = taken at booting ⊢
  generalize initializeConfiguration device boardZones found.repository storage = configured at booting
  cases booting with
  | unswitched unsafeOutputs => exact iff_of_false (unfinished _) fun completes => unsafeOutputs completes.1
  | mutexless _ none => exact iff_of_false (unfinished _) fun completes => Bool.false_ne_true (none.symm.trans completes.2.1)
  | refused _ _ lost => exact iff_of_false (unfinished _) fun completes => lost completes.2.2
  | started switched mutex _ _ _ boots => exact iff_of_true ⟨_,rfl⟩ ⟨switched,mutex,boots⟩

/-- Without its partition nothing stands in the way of a boot. -/
theorem boots_detached (bootable : Bootable boardZones) (accepted : ConfigurableZones boardZones)
    (device : ConfigurationRepositoryStorage σ) {found : PowerUp ε} (storage : σ) (switched : found.safeOff = .ok)
    (mutex : found.mutex = true) (closed : found.repository = false) :
    ∃ system next, Boot.appMain device boardZones found storage = (.ok system,next) := by
  have fresh : BootsOver (takenOver device boardZones found storage) := by
    rw [takenOver,closed]
    exact fun loaded taken => absurd taken (by simp)
  obtain ⟨system,completed⟩ := (appMain_completes_iff bootable accepted device found storage).mpr ⟨switched,mutex,fresh⟩
  exact ⟨system,_,Prod.ext completed rfl⟩

end Boots

/-- Everything works at power-up. -/
def devPowerUp : PowerUp UInt64 := ⟨.ok,0,true,true⟩

end Irrigation
