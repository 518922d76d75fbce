import Irrigation.InstalledConfigurations
import Irrigation.RepositoryDurability

/-! The manager over a store that keeps what is written: a call installs a configuration
exactly when it is saved, so a restart loads the live configuration. -/
namespace Irrigation

open Library

namespace Repository

/-- Both slots are empty or hold an intact blob. -/
def Intact (boardZones : List Zone) (contents : SlotContents) : Prop :=
  ∀ key, contents key = none ∨
    ∃ live generation, live.Valid boardZones ∧ contents key = some (blobBytes live generation)

/-- What a load takes has this live part. -/
def Stored (boardZones : List Zone) (contents : SlotContents) (live : LiveConfiguration) : Prop :=
  ∃ loaded generation, TwoSlot.current (storedContent boardZones contents .a) (storedContent boardZones contents .b) =
    some (generation,loaded) ∧ loaded.live = live

section Stores

variable {boardZones : List Zone} {slots : SlotContents}

theorem Intact.clear (intact : Intact boardZones slots) :
    ¬Shadowed (storedSlot boardZones slots .a) (storedSlot boardZones slots .b) := by
  rintro ⟨_,invalid,behind,_⟩
  rcases intact .b with empty | ⟨live,generation,valid,held⟩
  · have zero : (storedSlot boardZones slots .b).generation = 0 := by rw [storedSlot,empty]; rfl
    rw [zero] at behind
    exact UInt32.not_lt_zero behind
  · obtain ⟨decoded,_,slot,_⟩ := slotOf_blobBytes valid generation
    apply invalid
    rw [storedSlot,held,slot]

theorem Intact.update (intact : Intact boardZones slots) {live : LiveConfiguration} (valid : live.Valid boardZones)
    (key : SlotKey) (generation : UInt32) :
    Intact boardZones (Function.update slots key (some (blobBytes live generation))) := by
  intro other
  by_cases same : other = key
  · subst same
    exact .inr ⟨live,generation,valid,Function.update_self ..⟩
  · rw [Function.update_of_ne same]
    exact intact other

variable {σ : Type} {device : ConfigurationRepositoryStorage σ} {contents : σ → SlotContents}
  {configuration : IrrigationConfiguration} {state : σ}

theorem load_kept (reads : ReadsContents device contents) (boardZones : List Zone) (state : σ) :
    contents (configurationRepositoryLoad device boardZones state).2 = contents state := by
  obtain ⟨middle,first,unchanged⟩ := readSlot_contents reads boardZones .a state
  obtain ⟨last,second,unchanged'⟩ := readSlot_contents reads boardZones .b middle
  simp only [configurationRepositoryLoad,first,second]
  exact unchanged'.trans unchanged

theorem load_empty (reads : ReadsContents device contents) (boardZones : List Zone)
    (empty : ∀ key, contents state key = none) :
    (configurationRepositoryLoad device boardZones state).1 = .error .notFound := by
  rw [load_contents reads,storedSlot,storedSlot,empty .a,empty .b]
  rfl

/-- An empty store takes a valid configuration. -/
theorem save_empty (reliable : Reliable device contents)
    (valid : irrigationConfigurationValidate configuration boardZones = .ok) (empty : ∀ key, contents state key = none) :
    (configurationRepositorySave device configuration boardZones state).1 = .ok := by
  obtain ⟨result,next,run,_,done⟩ := save_reliable reliable valid state
  rw [run]
  refine (done ?_).1
  rw [storedSlot,storedSlot,empty .a,empty .b]
  change ¬((SlotState.empty = .storageError ∨ SlotState.empty = .storageError) ∨ (1 : UInt32) = 0)
  decide

/-- A successful save is what the next load takes. -/
theorem save_stored (reliable : Reliable device contents) (intact : Intact boardZones (contents state))
    (saved : (configurationRepositorySave device configuration boardZones state).1 = .ok) :
    Intact boardZones (contents (configurationRepositorySave device configuration boardZones state).2) ∧
      Stored boardZones (contents (configurationRepositorySave device configuration boardZones state).2)
        configuration.live := by
  obtain ⟨valid,_,written⟩ := save_ok reliable state saved
  obtain ⟨loaded,load,same⟩ := load_after_save_clear reliable state saved intact.clear
  refine ⟨?_,loaded,_,(load_ok_iff reliable.read _ _ _).mp load,same⟩
  rw [written]
  exact intact.update ((validate_ok_iff _ _).mp valid).2 _ _

/-- A save that fails leaves the slots alone. -/
theorem save_failed (reliable : Reliable device contents)
    (valid : irrigationConfigurationValidate configuration boardZones = .ok)
    (failed : (configurationRepositorySave device configuration boardZones state).1 ≠ .ok) :
    contents (configurationRepositorySave device configuration boardZones state).2 = contents state := by
  obtain ⟨result,next,run,refused,done⟩ := save_reliable reliable valid state
  rw [run] at failed ⊢
  by_cases refuses : SaveRefused (storedSlot boardZones (contents state) .a) (storedSlot boardZones (contents state) .b)
  · exact (refused refuses).2
  · exact absurd (done refuses).1 failed

end Stores

end Repository

open Repository

/-! ### Calls -/

section Calls

variable {ε σ : Type} (device : ConfigurationRepositoryStorage σ) (candidate : IrrigationConfiguration)

/-- With a repository a candidate is installed when it is saved; otherwise the configuration
stays, and no save succeeded. -/
inductive Saving (system next : ManagedSystem ε σ) : IrrigationResult → Prop
  | installed (saved : (configurationRepositorySave device candidate system.manager.boardZones system.storage).1 = .ok)
      (configuration : next.manager.configuration = candidate)
      (storage : next.storage =
        (configurationRepositorySave device candidate system.manager.boardZones system.storage).2) :
      Saving system next .ok
  | untried {failure : IrrigationResult} (failed : failure ≠ .ok)
      (configuration : next.manager.configuration = system.manager.configuration)
      (storage : next.storage = system.storage) : Saving system next failure
  | unsaved {failure : IrrigationResult} (failed : failure ≠ .ok)
      (refused : (configurationRepositorySave device candidate system.manager.boardZones system.storage).1 ≠ .ok)
      (configuration : next.manager.configuration = system.manager.configuration)
      (storage : next.storage =
        (configurationRepositorySave device candidate system.manager.boardZones system.storage).2) :
      Saving system next failure

variable {device candidate} {system : ManagedSystem ε σ}

theorem persistCandidate_saves (repository : system.manager.repository = true) :
    persistCandidate device candidate system =
      (if (configurationRepositorySave device candidate system.manager.boardZones system.storage).1 = .ok then .ok
        else .internalError,
      { system with
        storage := (configurationRepositorySave device candidate system.manager.boardZones system.storage).2 }) := by
  rw [persistCandidate,if_pos repository]

theorem replaceBound_saving (repository : system.manager.repository = true) (changed : Bool) :
    Saving device candidate system (replaceBound device candidate changed system).2
      (replaceBound device candidate changed system).1 := by
  obtain ⟨tried,triedEq⟩ : ∃ tried, tried = reconfigure candidate changed (system.schedule schedulerServiceLock).2 := ⟨_,rfl⟩
  have kept : tried.2.storage = system.storage := by rw [triedEq]; rfl
  have board : tried.2.manager.boardZones = system.manager.boardZones := by rw [triedEq]; rfl
  have live : tried.2.manager.configuration = system.manager.configuration := by rw [triedEq]; rfl
  have bound : tried.2.manager.repository = true := by rw [triedEq]; exact repository
  simp only [replaceBound,← triedEq,persistCandidate_saves bound,kept,board]
  by_cases configured : tried.1 = .ok
  · by_cases saved : (configurationRepositorySave device candidate system.manager.boardZones system.storage).1 = .ok
    · simp only [configured,saved,ne_eq,not_true_eq_false,if_false,if_true]
      exact .installed saved rfl rfl
    · simp only [configured,saved,ne_eq,not_true_eq_false,if_false,reduceCtorEq,not_false_eq_true,if_true]
      exact .unsaved (rollBack_failed (by decide) _ _) saved live rfl
  · simp only [configured,ne_eq,not_false_eq_true,if_true]
    exact .untried (rollBack_failed configured _ _) live kept

theorem replaceUnbound_saving (repository : system.manager.repository = true) (changed : Bool) :
    Saving device candidate system (replaceUnbound device candidate changed system).2
      (replaceUnbound device candidate changed system).1 := by
  simp only [replaceUnbound,persistCandidate_saves repository]
  by_cases saved : (configurationRepositorySave device candidate system.manager.boardZones system.storage).1 = .ok
  · simp only [saved,ne_eq,not_true_eq_false,if_false,if_true]
    exact .installed saved rfl rfl
  · simp only [saved,ne_eq,if_false,reduceCtorEq,not_false_eq_true,if_true]
    exact .unsaved (by decide) saved rfl rfl

theorem replaceCandidate_saving (repository : system.manager.repository = true) :
    Saving device candidate system (replaceCandidate device candidate system).2
      (replaceCandidate device candidate system).1 := by
  unfold replaceCandidate
  by_cases valid : configurationManagerValidateCandidate system.manager candidate = .ok
  · simp only [valid,ne_eq,not_true_eq_false,if_false]
    split
    · exact replaceBound_saving repository _
    · exact replaceUnbound_saving repository _
  · simp only [valid,ne_eq,not_false_eq_true,if_true]
    exact .untried valid rfl rfl

/-- The manager has a repository whose next load takes the live configuration. -/
structure Durable (contents : σ → SlotContents) (boardZones : List Zone) (system : ManagedSystem ε σ) : Prop where
  repository : system.manager.repository = true
  board : system.manager.boardZones = boardZones
  valid : irrigationConfigurationValidate system.manager.configuration boardZones = .ok
  intact : Intact boardZones (contents system.storage)
  stored : Stored boardZones (contents system.storage) system.manager.configuration.live

theorem ManagerStep.kept {manager next : ConfigurationManager} {result : IrrigationResult}
    (step : ManagerStep manager candidate result next) :
    next.repository = manager.repository ∧ next.boardZones = manager.boardZones := by
  cases step <;> exact ⟨rfl,rfl⟩

variable {contents : σ → SlotContents} {boardZones : List Zone} {next : ManagedSystem ε σ}

theorem Durable.unchanged (durable : Durable contents boardZones system) (repository : next.manager.repository = true)
    (board : next.manager.boardZones = boardZones)
    (configuration : next.manager.configuration = system.manager.configuration)
    (storage : contents next.storage = contents system.storage) : Durable contents boardZones next where
  repository := repository
  board := board
  valid := by
    rw [configuration]
    exact durable.valid
  intact := by
    rw [storage]
    exact durable.intact
  stored := by
    rw [storage,configuration]
    exact durable.stored

/-- The call is refused and leaves the configuration, or it installs its candidate. -/
theorem mutate_durable (reliable : Reliable device contents) (durable : Durable contents boardZones system)
    (mutation : Mutation) : Durable contents boardZones (mutated device mutation system) ∧
      ((mutate device mutation system).1 ≠ .ok ∧
        (mutated device mutation system).manager.configuration = system.manager.configuration ∨
      (mutate device mutation system).1 = .ok ∧ mutation.prepare system.manager.configuration =
        .ok (mutated device mutation system).manager.configuration) := by
  unfold mutated
  rcases mutate_cases device mutation system with ⟨result,failed,_,call⟩ | ⟨candidate,prepared,call⟩
  · rw [call]
    exact ⟨durable,.inl ⟨failed,rfl⟩⟩
  · have step := replaceCandidate_step device candidate system
    have saving : Saving device candidate system (replaceCandidate device candidate system).2
      (replaceCandidate device candidate system).1 := replaceCandidate_saving durable.repository
    rw [call]
    obtain ⟨repository,board⟩ := step.kept
    rw [durable.repository] at repository
    rw [durable.board] at board
    generalize replaceCandidate device candidate system = outcome at saving repository board step
    obtain ⟨result,next⟩ := outcome
    cases saving with
    | installed saved configuration storage =>
      rw [durable.board] at saved storage
      obtain ⟨intact,stored⟩ := save_stored reliable durable.intact saved
      obtain ⟨valid,_⟩ := save_ok reliable system.storage saved
      subst configuration
      refine ⟨⟨repository,board,valid,?_,?_⟩,.inr ⟨rfl,prepared⟩⟩
      · rw [storage]
        exact intact
      · rw [storage]
        exact stored
    | untried failed configuration storage =>
      exact ⟨durable.unchanged repository board configuration (congrArg contents storage),.inl ⟨failed,configuration⟩⟩
    | unsaved failed refused configuration storage =>
      rw [durable.board] at refused storage
      have same : contents next.storage = contents system.storage := by
        rw [storage]
        by_cases valid : irrigationConfigurationValidate candidate boardZones = .ok
        · exact save_failed reliable valid refused
        · rw [save_invalid valid]
      exact ⟨durable.unchanged repository board configuration same,.inl ⟨failed,configuration⟩⟩

end Calls

/-! ### Restarts -/

section Restarts

variable {ε σ : Type} (device : ConfigurationRepositoryStorage σ) (boardZones : List Zone)

/-- A boot of the firmware: the defaults, the stored configuration over them, and a
repository unless it could not be used. -/
def restart (persistenceRequired scheduler : Bool) (world : World ε) (system : ManagedSystem ε σ) : ManagedSystem ε σ :=
  let (_,manager) := configurationManagerInitDevKitDefaults boardZones system.manager
  let (booted,manager,storage) := configurationManagerLoadOrPersistDefaults device manager system.storage
  ⟨started (booted ≠ .defaultsStorageError) persistenceRequired scheduler manager,
    { world with memory := manager.views.memory },storage⟩

/-- The board's defaults are valid. -/
def Bootable : Prop := ∀ manager, (configurationManagerInitDevKitDefaults boardZones manager).1 = .ok

variable {device boardZones} {contents : σ → SlotContents} {system : ManagedSystem ε σ}

theorem Bootable.initialized (bootable : Bootable boardZones) (manager : ConfigurationManager) :
    ∃ defaults, configurationManagerInitDevKitDefaults boardZones manager = (.ok,defaults) ∧
      defaults.boardZones = boardZones ∧ defaults.configuration = devKitDefaults boardZones ∧
      irrigationConfigurationValidate defaults.configuration boardZones = .ok := by
  have initialized : configurationManagerInitDevKitDefaults boardZones manager =
      (.ok,(configurationManagerInitDevKitDefaults boardZones manager).2) := by rw [← bootable manager]
  obtain ⟨board,configuration,faithful⟩ := init_faithful initialized
  have valid := faithful.valid
  rw [board] at valid
  exact ⟨_,initialized,board,configuration,valid⟩

/-- A restart of a durable manager brings its live configuration back. -/
theorem restart_durable (reliable : Reliable device contents) (bootable : Bootable boardZones)
    (durable : Durable contents boardZones system) (persistenceRequired scheduler : Bool) (world : World ε) :
    Durable contents boardZones (restart device boardZones persistenceRequired scheduler world system) ∧
      (restart device boardZones persistenceRequired scheduler world system).manager.configuration.live =
        system.manager.configuration.live := by
  obtain ⟨defaults,initialized,board,_⟩ := bootable.initialized system.manager
  obtain ⟨loaded,generation,taken,same⟩ := durable.stored
  have load := (load_ok_iff reliable.read system.storage loaded generation).mpr taken
  have kept := load_kept reliable.read boardZones system.storage
  cases run : configurationRepositoryLoad device boardZones system.storage with
  | mk outcome next =>
    rw [run] at load kept
    dsimp only at load kept
    subst load
    simp only [restart,initialized,configurationManagerLoadOrPersistDefaults,board,run]
    refine ⟨⟨rfl,rfl,load_valid (congrArg Prod.fst run),?_,?_⟩,same⟩
    · rw [kept]
      exact durable.intact
    · rw [kept]
      exact ⟨loaded,generation,taken,rfl⟩

/-- The first boot saves the defaults. -/
theorem restart_empty (reliable : Reliable device contents) (bootable : Bootable boardZones)
    (empty : ∀ key, contents system.storage key = none) (persistenceRequired scheduler : Bool) (world : World ε) :
    Durable contents boardZones (restart device boardZones persistenceRequired scheduler world system) ∧
      (restart device boardZones persistenceRequired scheduler world system).manager.configuration =
        devKitDefaults boardZones := by
  obtain ⟨defaults,initialized,board,configuration,valid⟩ := bootable.initialized system.manager
  have load := load_empty reliable.read boardZones empty
  have kept := load_kept reliable.read boardZones system.storage
  cases run : configurationRepositoryLoad device boardZones system.storage with
  | mk outcome next =>
    rw [run] at load kept
    dsimp only at load kept
    subst load
    rw [← kept] at empty
    have saved := save_empty reliable valid empty
    obtain ⟨intact,stored⟩ := save_stored reliable (fun key => .inl (empty key)) saved
    cases save : configurationRepositorySave device defaults.configuration boardZones next with
    | mk result last =>
      rw [save] at saved intact stored
      dsimp only at saved intact stored
      subst saved
      simp only [restart,initialized,configurationManagerLoadOrPersistDefaults,board,run,save]
      exact ⟨⟨rfl,board,valid,intact,stored⟩,configuration⟩

end Restarts

end Irrigation
