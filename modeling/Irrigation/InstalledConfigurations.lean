import Irrigation.Library.Runs
import Irrigation.MutationSteps
import Irrigation.Operations
import Irrigation.RepositorySlots

/-! What a boot and any sequence of mutations leave in the runtime views, and that views
showing a valid configuration are accepted by the scheduler. -/
namespace Irrigation

/-! ### The scheduler accepts what mirrors -/

theorem RuntimeViews.entries_length (views : RuntimeViews) (count : Nat) : (views.entries count).length = count := by
  simp [RuntimeViews.entries]

theorem ScheduleMirrored.valid {views : RuntimeViews} {configured : IrrigationScheduleConfiguration}
    {entry : SchedulerEntry} {programs : List LiveProgram} (mirrored : ScheduleMirrored views configured entry)
    (valid : ValidSchedule programs configured) : entryIsValid entry = true := by
  obtain ⟨address,present,_⟩ := Option.map_eq_some_iff.mp mirrored.id
  obtain ⟨slot,_,pointer⟩ := mirrored.program
  simp [entryIsValid,present,pointer,mirrored.weekdayMask,mirrored.hour,mirrored.minute,valid.weekday,valid.weekdays,
    valid.hour,valid.minute]

section Accepted

variable {manager : ConfigurationManager}

theorem liveSchedules_length (valid : irrigationConfigurationValidate manager.configuration manager.boardZones = .ok) :
    manager.configuration.liveSchedules.length = manager.configuration.scheduleCount.toNat :=
  ((validate_ok_iff _ _).mp valid).1.liveSchedules_length

theorem entries_accepted (valid : irrigationConfigurationValidate manager.configuration manager.boardZones = .ok)
    (mirrors : Mirrors manager manager.configuration.live) :
    entriesAreAccepted manager.views.memory
      (manager.views.entries manager.configuration.scheduleCount.toNat) = true := by
  have live := ((validate_ok_iff _ _).mp valid).2
  have lengths := liveSchedules_length valid
  rw [entriesAreAccepted_iff]
  constructor
  · intro entry member
    obtain ⟨index,inside,rfl⟩ := List.mem_map.mp member
    rw [List.mem_range,← lengths] at inside
    have mirrored := mirrors.schedules index _ (List.getElem?_eq_getElem inside)
    exact mirrored.valid (live.schedules _ (List.getElem_mem inside))
  · have ids : (manager.views.entries manager.configuration.scheduleCount.toNat).map (·.idText manager.views.memory) =
        (manager.configuration.live.schedules.map (·.scheduleId)).map fun id => some id.toCString := by
      apply List.ext_getElem
      · simpa [RuntimeViews.entries_length,IrrigationConfiguration.live] using lengths.symm
      · intro index inside bound
        rw [List.length_map,List.length_map] at bound
        have mirrored := mirrors.schedules index _ (List.getElem?_eq_getElem bound)
        simpa [RuntimeViews.entries] using mirrored.id
    rw [ids]
    apply live.schedulesDistinct.map
    intro first second same
    exact CharArray.toCString_injective (Option.some.inj same)

/-- Views that show a valid configuration are taken on by the scheduler. -/
theorem configureScheduler_ok {ε : Type} (valid : irrigationConfigurationValidate manager.configuration manager.boardZones = .ok)
    (mirrors : Mirrors manager manager.configuration.live) {world : World ε}
    (linked : world.memory = manager.views.memory) : (configurationManagerConfigureScheduler manager world).1 = .ok := by
  have room : manager.configuration.scheduleCount.toNat ≤ irrigationMaxSchedules :=
    ((validate_ok_iff _ _).mp valid).1.schedules
  have accepted := entries_accepted valid mirrors
  rcases schedulerServiceConfigureLocked_cases (manager.views.entries manager.configuration.scheduleCount.toNat)
    (schedulerServiceLock world).2 with ⟨refused,_⟩ | ⟨_,next,run,_⟩
  · rw [RuntimeViews.entries_length] at refused
    rcases refused with above | refused
    · omega
    · change entriesAreAccepted world.memory _ = false at refused
      rw [linked,accepted] at refused
      contradiction
  · simp only [configurationManagerConfigureScheduler,schedulerServiceConfigure,run_bind,run]
    rfl

end Accepted

/-! ### Booting -/

theorem zeroViews_keys : zeroViews.programs.keys = ∅ ∧ zeroViews.scheduleIds.keys = ∅ := by
  constructor <;> ext key <;> simp [KeyedSlots.Slots.mem_keys,zeroViews]

/-- A manager initialized with the defaults is faithful to them. -/
theorem init_faithful {boardZones : List Zone} {uninitialized manager : ConfigurationManager}
    (initialized : configurationManagerInitDevKitDefaults boardZones uninitialized = (.ok,manager)) :
    manager.boardZones = boardZones ∧ manager.configuration = devKitDefaults boardZones ∧ Faithful manager := by
  unfold configurationManagerInitDevKitDefaults at initialized
  split at initialized
  · exact absurd (congrArg Prod.fst initialized) (by simp)
  · obtain ⟨valid,rfl⟩ := Prod.mk.inj initialized
    have live := ((validate_ok_iff _ _).mp valid).2
    refine ⟨rfl,rfl,valid,?_⟩
    simp only [valid,if_true]
    refine Rebuilding.tracks (rebuild_cases live ?_ nofun) live ?_ ?_ ?_
    · exact fun _ _ used => absurd used (by simp [zeroViews])
    · exact fun _ _ used => absurd used (by simp [zeroViews])
    · rw [zeroViews_keys.1,Finset.empty_union]
      exact programIds_card live
    · rw [zeroViews_keys.2,Finset.empty_union]
      exact scheduleIds_card live

namespace Repository

theorem decodePayload_valid {payload : List UInt8} {boardZones : List Zone} {configuration : IrrigationConfiguration}
    (decoded : decodePayload payload boardZones = .ok configuration) :
    irrigationConfigurationValidate configuration boardZones = .ok := by
  unfold decodePayload at decoded
  split at decoded
  · contradiction
  · split at decoded
    · contradiction
    · split at decoded
      · contradiction
      · next valid =>
        cases decoded
        exact not_not.mp valid

theorem decode_valid {blob : List UInt8} {boardZones : List Zone} {configuration : IrrigationConfiguration}
    (decoded : (configurationRepositoryDecode blob boardZones).outcome = .ok configuration) :
    irrigationConfigurationValidate configuration boardZones = .ok := by
  unfold configurationRepositoryDecode at decoded
  repeat' split at decoded
  all_goals first | contradiction | exact decodePayload_valid decoded

theorem slotOf_valid {boardZones : List Zone} {outcome : Except ConfigurationRepositoryResult (List UInt8)}
    {configuration : IrrigationConfiguration} (usable : (slotOf boardZones outcome).configuration = some configuration) :
    irrigationConfigurationValidate configuration boardZones = .ok := by
  unfold slotOf at usable
  split at usable
  · contradiction
  · contradiction
  · unfold slotOfDecoded at usable
    dsimp only at usable
    split at usable
    · next decoded =>
      cases usable
      exact decode_valid decoded
    · contradiction
    · contradiction

/-- Whatever the device, a load only returns what validates. -/
theorem load_valid {σ : Type} {storage : ConfigurationRepositoryStorage σ} {boardZones : List Zone} {state : σ}
    {loaded : IrrigationConfiguration} {generation : UInt32}
    (load : (configurationRepositoryLoad storage boardZones state).1 = .ok (loaded,generation)) :
    irrigationConfigurationValidate loaded boardZones = .ok := by
  simp only [configurationRepositoryLoad,readSlot] at load
  rw [loadResult_eq_ok_iff,Library.TwoSlot.current] at load
  split at load
  · obtain ⟨configuration,usable,same⟩ := Option.map_eq_some_iff.mp load
    cases same
    exact slotOf_valid usable
  · obtain ⟨configuration,usable,same⟩ := Option.map_eq_some_iff.mp load
    cases same
    exact slotOf_valid usable

end Repository

section Loading

variable {σ : Type} {device : Repository.ConfigurationRepositoryStorage σ} {manager : ConfigurationManager} {state : σ}
  {loaded : IrrigationConfiguration} {generation : UInt32}

/-- A load that finds a configuration installs it over the views of the old one. -/
theorem loadOrPersistDefaults_loaded (load :
    (Repository.configurationRepositoryLoad device manager.boardZones state).1 = .ok (loaded,generation)) :
    (configurationManagerLoadOrPersistDefaults device manager state).1 = .loaded ∧
      (configurationManagerLoadOrPersistDefaults device manager state).2.1 =
        { manager with configuration := loaded, views := rebuildRuntimeViews manager.views loaded true } := by
  cases run : Repository.configurationRepositoryLoad device manager.boardZones state with
  | mk outcome next =>
    rw [run] at load
    dsimp only at load
    rw [load] at run
    simp only [configurationManagerLoadOrPersistDefaults,run]
    exact ⟨trivial,trivial⟩

/-- What a load leaves is faithful to what was loaded exactly when that fits. -/
theorem loaded_faithful (faithful : Faithful manager) (load :
    (Repository.configurationRepositoryLoad device manager.boardZones state).1 = .ok (loaded,generation)) :
    let booted := (configurationManagerLoadOrPersistDefaults device manager state).2.1
    (Fits manager.configuration.live loaded.live → Faithful booted) ∧
      (Mirrors booted loaded.live → Fits manager.configuration.live loaded.live) := by
  intro booted
  have valid := Repository.load_valid load
  have rebuilding : Rebuilding manager.views loaded (rebuildRuntimeViews manager.views loaded true) :=
    rebuild_cases ((validate_ok_iff _ _).mp valid).2 faithful.tracks.programs.distinct nofun
  have installed : booted = { manager with
      configuration := loaded, views := rebuildRuntimeViews manager.views loaded true } :=
    (loadOrPersistDefaults_loaded load).2
  rw [installed]
  exact ⟨fun fits => faithful.installed valid rebuilding fits,
    fun mirrors => faithful.fits_of_mirrors valid rebuilding mirrors⟩

end Loading

/-! ### Runs of mutations -/

section MutationRuns

variable {ε σ : Type} (device : Repository.ConfigurationRepositoryStorage σ)

/-- The system after one call. -/
def mutated (mutation : Mutation) (system : ManagedSystem ε σ) : ManagedSystem ε σ := (mutate device mutation system).2

/-- A replacement that returns OK has no more ids beside the live ones than there are slots. -/
def ReplacementFits (mutation : Mutation) (system : ManagedSystem ε σ) : Prop :=
  ∀ candidate, mutation = .replace (some candidate) → (mutate device mutation system).1 = .ok →
    Fits system.manager.configuration.live candidate.live

variable {device}

/-- Under a faithful manager every call but a replacement has a candidate that fits. -/
theorem prepared_fits {manager : ConfigurationManager} {mutation : Mutation} {candidate : IrrigationConfiguration}
    (faithful : Faithful manager) (prepared : mutation.prepare manager.configuration = .ok candidate)
    (valid : irrigationConfigurationValidate candidate manager.boardZones = .ok)
    (incremental : ∀ candidate, mutation ≠ .replace candidate) : Fits manager.configuration.live candidate.live := by
  obtain ⟨programs,schedules⟩ := prepare_nested incremental prepared
  exact fits_of_nested faithful.live ((validate_ok_iff _ _).mp valid).2 programs schedules

theorem ManagerStep.valid {manager next : ConfigurationManager} {candidate : IrrigationConfiguration}
    (step : ManagerStep manager candidate .ok next) :
    irrigationConfigurationValidate candidate manager.boardZones = .ok := by
  cases step with
  | refused failed => exact absurd rfl failed
  | rolledBack _ failed => exact absurd rfl failed
  | installed valid => exact valid

/-- A call keeps the manager faithful unless it installs a replacement that does not fit. -/
theorem mutated_faithful {mutation : Mutation} {system : ManagedSystem ε σ} (faithful : Faithful system.manager)
    (fits : ReplacementFits device mutation system) : Faithful (mutated device mutation system).manager := by
  unfold mutated
  rcases mutate_cases device mutation system with ⟨_,_,_,refused⟩ | ⟨candidate,prepared,replaced⟩
  · rw [refused]
    exact faithful
  · have step := replaceCandidate_step device candidate system
    rw [← replaced] at step
    refine step.faithful faithful fun ok => ?_
    by_cases replacement : mutation = .replace (some candidate)
    · exact fits candidate replacement ok
    · rw [ok] at step
      apply prepared_fits faithful prepared step.valid
      rintro (_ | other) rfl
      · contradiction
      · cases prepared
        exact replacement rfl

theorem replacementFits_of_mirrors {mutation : Mutation} {system : ManagedSystem ε σ}
    (faithful : Faithful system.manager) (mirrors : Mirrors (mutated device mutation system).manager
      (mutated device mutation system).manager.configuration.live) : ReplacementFits device mutation system := by
  rintro candidate rfl ok
  have step := replaceCandidate_step device candidate system
  have replaced : mutate device (.replace (some candidate)) system = replaceCandidate device candidate system := rfl
  rw [mutated,replaced] at mirrors
  rw [replaced] at ok
  rw [ok] at step
  exact step.fits_of_mirrors faithful mirrors

/-- From a faithful manager the views show the live configuration throughout a run exactly
when every replacement of the run that returns OK fits. -/
theorem run_mirrors_iff {system : ManagedSystem ε σ} (faithful : Faithful system.manager) (mutations : List Mutation) :
    Runs.Throughout (mutated device) (fun system => Mirrors system.manager system.manager.configuration.live)
        mutations system ↔
      Runs.Along (mutated device) (ReplacementFits device) mutations system :=
  Runs.throughout_iff_along_of (fun system : ManagedSystem ε σ => Faithful system.manager) (fun _ faithful => faithful.mirrors)
    (fun _ _ faithful fits => mutated_faithful faithful fits)
    (fun _ _ faithful mirrors => replacementFits_of_mirrors faithful mirrors) faithful

end MutationRuns

/-- The manager as `app_main` goes on with it: its repository set, and a scheduler bound. -/
def started (repository persistenceRequired scheduler : Bool) (manager : ConfigurationManager) : ConfigurationManager :=
  configurationManagerBindScheduler scheduler (configurationManagerSetRepository repository persistenceRequired manager)

/-- A stored configuration is shown after a boot exactly when it fits beside the defaults,
and then the scheduler takes it on. From there the views follow every mutation exactly when
each replacement that returns OK fits beside the configuration it replaces. -/
theorem mirrors_stored_iff_fits {boardZones : List Zone} {uninitialized manager : ConfigurationManager}
    (initialized : configurationManagerInitDevKitDefaults boardZones uninitialized = (.ok,manager)) {σ : Type}
    (device : Repository.ConfigurationRepositoryStorage σ) {state : σ} {loaded stored : IrrigationConfiguration}
    {generation : UInt32}
    (load : (Repository.configurationRepositoryLoad device boardZones state).1 = .ok (loaded,generation))
    (same : loaded.live = stored.live) :
    let boot := configurationManagerLoadOrPersistDefaults device manager state
    boot.1 = .loaded ∧
    (Mirrors boot.2.1 stored.live ↔ Fits (devKitDefaults boardZones).live stored.live) ∧
    (Mirrors boot.2.1 stored.live → ∀ {ε : Type} (world : World ε), world.memory = boot.2.1.views.memory →
      (configurationManagerConfigureScheduler boot.2.1 world).1 = .ok) ∧
    ∀ live, live = manager ∨ live = boot.2.1 ∧ Fits (devKitDefaults boardZones).live stored.live →
      ∀ {ε : Type} (world : World ε) (storage : σ) (repository persistenceRequired scheduler : Bool)
        (mutations : List Mutation),
      Runs.Throughout (mutated device) (fun system => Mirrors system.manager system.manager.configuration.live)
          mutations ⟨started repository persistenceRequired scheduler live,world,storage⟩ ↔
        Runs.Along (mutated device) (ReplacementFits device) mutations
          ⟨started repository persistenceRequired scheduler live,world,storage⟩ := by
  intro boot
  obtain ⟨board,defaults,faithful⟩ := init_faithful initialized
  rw [← board] at load
  obtain ⟨found,installed⟩ := loadOrPersistDefaults_loaded load
  obtain ⟨shown,needed⟩ := loaded_faithful faithful load
  rw [defaults,same] at shown needed
  have configuration : boot.2.1.configuration = loaded := by rw [installed]
  have valid : irrigationConfigurationValidate boot.2.1.configuration boot.2.1.boardZones = .ok := by
    rw [installed]
    exact Repository.load_valid load
  refine ⟨found,⟨needed,fun fits => ?_⟩,?_,?_⟩
  · have mirrors := (shown fits).mirrors
    rw [configuration,same] at mirrors
    exact mirrors
  · intro mirrors ε world linked
    apply configureScheduler_ok valid ?_ linked
    rw [configuration,same]
    exact mirrors
  · intro live origin ε world storage repository persistenceRequired scheduler mutations
    apply run_mirrors_iff
    rcases origin with rfl | ⟨rfl,fits⟩
    · exact ⟨faithful.valid,faithful.tracks⟩
    · exact ⟨(shown fits).valid,(shown fits).tracks⟩

/-! ### The development kit -/

/-- A device whose first slot holds the only saved configuration. -/
def storedOnce (live : LiveConfiguration) : Repository.SlotContents
  | .a => some (Repository.blobBytes live 1)
  | .b => none

theorem storedOnce_loads {boardZones : List Zone} {live : LiveConfiguration} (valid : live.Valid boardZones) :
    ∃ loaded, (Repository.configurationRepositoryLoad Repository.memoryStorage boardZones (storedOnce live)).1 =
      .ok (loaded,1) ∧ loaded.live = live := by
  obtain ⟨loaded,content,same⟩ := Repository.content_blobBytes valid 1
  refine ⟨loaded,?_,same⟩
  rw [Repository.load_ok_iff Repository.memoryStorage_reliable.read]
  change Library.TwoSlot.current (Repository.slotOf boardZones (Repository.readOutcome
    Repository.configurationRepositoryMaxBlobSize (some (Repository.blobBytes live 1)))).content none = _
  rw [content,Library.TwoSlot.current,if_pos (Library.TwoSlot.firstWins_none_right _)]

/-- The static manager of the firmware before it is initialized. -/
def zeroManager : ConfigurationManager where
  configuration := ⟨0,.replicate _ zeroZone,.replicate _ zeroProgram,.replicate _ zeroSchedule,0,0,0,0,0⟩
  boardZones := []
  repository := false
  persistenceRequired := false
  schedulerService := false
  views := zeroViews

def devManager : ConfigurationManager := (configurationManagerInitDevKitDefaults devZones zeroManager).2

theorem devManager_initialized : configurationManagerInitDevKitDefaults devZones zeroManager = (.ok,devManager) := by
  have valid := devKitDefaults_valid devZones_usable
  have board : ¬(devZones.length < 2 ∨ devZones.length > irrigationMaxZones) := by decide
  simp only [devManager,configurationManagerInitDevKitDefaults,if_neg board,valid]

def numberedProgram (number : Nat) : IrrigationProgramConfiguration :=
  { defaultProgram devZones with programId := copyText (.numbered "program-" number) }

/-- Three programs and a schedule under other ids than the defaults'. -/
def editedPrograms : IrrigationConfiguration :=
  { devKitDefaults devZones with
    programs := fill zeroProgram [numberedProgram 1,numberedProgram 2,numberedProgram 3]
    schedules := fill zeroSchedule [{ defaultSchedule with
      scheduleId := copyText (.numbered "schedule-" 1), programId := copyText (.numbered "program-" 2) }]
    programCount := 3
    nextProgramId := 4
    nextScheduleId := 2 }

theorem mirrors_stored_iff_fits_edited :
    let boot := configurationManagerLoadOrPersistDefaults Repository.memoryStorage devManager
      (storedOnce editedPrograms.live)
    boot.1 = .loaded ∧ Mirrors boot.2.1 editedPrograms.live ∧
      Runs.Throughout (mutated Repository.memoryStorage) (fun system =>
        Mirrors system.manager system.manager.configuration.live)
        [.deleteProgram 0,.createProgram (some (.literal "lawn")) (some [])]
        ⟨started true true false boot.2.1,devWorld devProgram,storedOnce editedPrograms.live⟩ := by
  have valid : editedPrograms.live.Valid devZones := ((validate_ok_iff _ _).mp (by decide +kernel)).2
  have fits : Fits (devKitDefaults devZones).live editedPrograms.live := by decide +kernel
  obtain ⟨_,load,same⟩ := storedOnce_loads valid
  obtain ⟨found,shown,_,runs⟩ := mirrors_stored_iff_fits devManager_initialized Repository.memoryStorage load same
  refine ⟨found,shown.mpr fits,(runs _ (.inr ⟨rfl,fits⟩) (devWorld devProgram) _ true true false _).mpr ?_⟩
  exact ⟨nofun,nofun,trivial⟩

/-- Four programs, as creating four and deleting the default one leaves them. -/
def fullPrograms : IrrigationConfiguration :=
  { devKitDefaults devZones with
    programs := fill zeroProgram [numberedProgram 1,numberedProgram 2,numberedProgram 3,numberedProgram 4]
    programCount := 4
    scheduleCount := 0
    nextProgramId := 5 }

theorem fullPrograms_unfit : ¬Fits (devKitDefaults devZones).live fullPrograms.live := by
  intro fits
  have ids : (programIds (devKitDefaults devZones).live ∪ programIds fullPrograms.live).card = 5 := by decide
  have room := fits.programs
  rw [ids] at room
  contradiction

/-- Loaded over the defaults, four programs of other ids are not all shown. -/
theorem fullPrograms_not_mirrored :
    let boot := configurationManagerLoadOrPersistDefaults Repository.memoryStorage devManager
      (storedOnce fullPrograms.live)
    irrigationConfigurationValidate fullPrograms devZones = .ok ∧
      configurationManagerInitDevKitDefaults devZones zeroManager = (.ok,devManager) ∧
      (∃ loaded, (Repository.configurationRepositoryLoad Repository.memoryStorage devZones
        (storedOnce fullPrograms.live)).1 = .ok (loaded,1) ∧ loaded.live = fullPrograms.live) ∧
      boot.1 = .loaded ∧ ¬Mirrors boot.2.1 fullPrograms.live := by
  dsimp only
  have valid : irrigationConfigurationValidate fullPrograms devZones = .ok := by decide +kernel
  obtain ⟨loaded,stored,same⟩ := storedOnce_loads ((validate_ok_iff _ _).mp valid).2
  obtain ⟨board,defaults,faithful⟩ := init_faithful devManager_initialized
  have load := stored
  rw [← board] at load
  refine ⟨valid,devManager_initialized,⟨loaded,stored,same⟩,(loadOrPersistDefaults_loaded load).1,fun mirrors => ?_⟩
  have needed := (loaded_faithful faithful load).2
  rw [same] at needed
  have fits := needed mirrors
  rw [defaults] at fits
  exact fullPrograms_unfit fits

end Irrigation
