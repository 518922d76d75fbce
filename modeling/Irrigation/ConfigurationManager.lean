import Irrigation.Defaults
import Irrigation.Library.KeyedSlots
import Irrigation.Repository
import Irrigation.SchedulerConfiguration

/-! The configuration manager: the live configuration, the runtime views that the program
and scheduler services point into, and the mutations. The candidate buffer is overwritten
before every use and is not kept between calls. -/
namespace Irrigation

open KeyedSlots

/-! ### Runtime views -/

/-- The runtime programs under their ids, the slots of the schedule ids, and the runtime
schedules by position. A slot's number is its address. -/
structure RuntimeViews where
  programs : Slots irrigationMaxPrograms IdText Program
  scheduleIds : Slots irrigationMaxSchedules IdText Unit
  schedules : Nat → SchedulerEntry

/-- What the services find at the addresses of the views. -/
def RuntimeViews.memory (views : RuntimeViews) : Memory where
  program := fun address => if inside : address < irrigationMaxPrograms then views.programs.value ⟨address,inside⟩
    else ⟨none,[],0⟩
  text := fun address => if inside : address < irrigationMaxSchedules then
      (views.scheduleIds.key ⟨address,inside⟩).toCString else .literal ""

/-- The runtime schedules up to a count. -/
def RuntimeViews.entries (views : RuntimeViews) (count : Nat) : List SchedulerEntry :=
  (List.range count).map views.schedules

/-- The zeroed views. -/
def zeroViews : RuntimeViews where
  programs := ⟨fun _ => false,fun _ => .empty,fun _ => ⟨none,[],0⟩⟩
  scheduleIds := ⟨fun _ => false,fun _ => .empty,fun _ => ()⟩
  schedules := fun _ => ⟨none,false,0,0,0,none⟩

def programIndexForId (configuration : IrrigationConfiguration) (programId : IdText) : Option Nat :=
  configuration.livePrograms.findIdx? fun program => program.programId = programId

def programSlotForId (views : RuntimeViews) (programId : IdText) : Option (Fin irrigationMaxPrograms) :=
  views.programs.slotForKey programId

def programsAreEqual (left right : IrrigationConfiguration) : Bool :=
  left.programCount == right.programCount &&
    (left.livePrograms.zip right.livePrograms).all fun (a,b) => a.programId == b.programId &&
      a.displayName == b.displayName && a.stepCount == b.stepCount && a.liveSteps == b.liveSteps

/-- A runtime program with the names and zone ids it points to. -/
def runtimeProgram (configured : IrrigationProgramConfiguration) : Program where
  id := some (copyText configured.displayName.toCString : NameText).toCString
  steps := configured.liveSteps.map fun step =>
    ⟨some (copyText step.zoneId.toCString : IdText).toCString,step.durationMs⟩
  postProgramDelayMs := 0

/-- Looking up an unterminated id is undefined; it is cut off here as `copy_text` stores it. -/
def programEntry (configured : IrrigationProgramConfiguration) : Entry IdText Program :=
  ⟨copyText configured.programId.toCString,runtimeProgram configured⟩

def scheduleEntry (configured : IrrigationScheduleConfiguration) : Entry IdText Unit :=
  ⟨copyText configured.scheduleId.toCString,()⟩

/-- The slot of the configured program that a schedule names. -/
def scheduledProgram (views : RuntimeViews) (configuration : IrrigationConfiguration)
    (configured : IrrigationScheduleConfiguration) : Option (Fin irrigationMaxPrograms) := do
  let programIndex ← programIndexForId configuration configured.programId
  let program ← configuration.livePrograms[programIndex]?
  programSlotForId views program.programId

def runtimeSchedule (slot : Fin irrigationMaxSchedules) (program : Fin irrigationMaxPrograms)
    (configured : IrrigationScheduleConfiguration) : SchedulerEntry where
  id := some slot
  enabled := configured.enabled
  weekdayMask := configured.weekdayMask
  hour := configured.hour
  minute := configured.minute
  program := some program

def storePrograms (views : RuntimeViews) (configuration : IrrigationConfiguration) :
    Pass irrigationMaxPrograms IdText Program :=
  Slots.storeAll (configuration.livePrograms.map programEntry) views.programs

/-- The loop also ends at a schedule whose program has no slot. -/
def storeSchedules (views : RuntimeViews) (configuration : IrrigationConfiguration) :
    Pass irrigationMaxSchedules IdText Unit :=
  Slots.pass (configuration.liveSchedules.map fun configured =>
    (scheduledProgram views configuration configured).map fun _ => scheduleEntry configured) views.scheduleIds

/-- The runtime schedule that the loop writes at a position, if it gets there. -/
def writtenSchedule (views : RuntimeViews) (configuration : IrrigationConfiguration) (index : Nat) :
    Option SchedulerEntry := do
  let slot ← (storeSchedules views configuration).chosen[index]?
  let configured ← configuration.liveSchedules[index]?
  let program ← scheduledProgram views configuration configured
  pure (runtimeSchedule slot program configured)

def rebuildSchedules (views : RuntimeViews) (configuration : IrrigationConfiguration) : RuntimeViews :=
  { views with
    scheduleIds := Slots.settle (storeSchedules views configuration)
    schedules := fun index => (writtenSchedule views configuration index).getD (views.schedules index) }

/-- Without a slot for some program the schedules are not reached. -/
def rebuildRuntimeViews (views : RuntimeViews) (configuration : IrrigationConfiguration)
    (rebuildPrograms : Bool) : RuntimeViews :=
  if rebuildPrograms then
    let programs := { views with programs := Slots.settle (storePrograms views configuration) }
    if (storePrograms views configuration).complete then rebuildSchedules programs configuration else programs
  else rebuildSchedules views configuration

/-! ### The manager -/

structure ConfigurationManager where
  configuration : IrrigationConfiguration
  boardZones : List Zone
  repository : Bool
  persistenceRequired : Bool
  schedulerService : Bool
  views : RuntimeViews

inductive ConfigurationManagerBootResult where
  | loaded | defaultsPersisted | defaultsCorrupt | defaultsIncompatible | defaultsStorageError
  deriving DecidableEq, Repr

/-- A refused board leaves the manager as it was. -/
def configurationManagerInitDevKitDefaults (boardZones : List Zone) (manager : ConfigurationManager) :
    IrrigationResult × ConfigurationManager :=
  if boardZones.length < 2 ∨ boardZones.length > irrigationMaxZones then (.rejected,manager)
  else
    let result := irrigationConfigurationValidate (devKitDefaults boardZones) boardZones
    (result,{
      configuration := devKitDefaults boardZones
      boardZones
      repository := false
      persistenceRequired := false
      schedulerService := false
      views := if result = .ok then rebuildRuntimeViews zeroViews (devKitDefaults boardZones) true else zeroViews })

def configurationManagerSetRepository (repository persistenceRequired : Bool) (manager : ConfigurationManager) :
    ConfigurationManager :=
  { manager with repository, persistenceRequired }

def configurationManagerBindScheduler (schedulerService : Bool) (manager : ConfigurationManager) :
    ConfigurationManager :=
  { manager with schedulerService }

section Boot

variable {σ : Type} (storage : Repository.ConfigurationRepositoryStorage σ)

def configurationManagerLoadOrPersistDefaults (manager : ConfigurationManager) (state : σ) :
    ConfigurationManagerBootResult × ConfigurationManager × σ :=
  match Repository.configurationRepositoryLoad storage manager.boardZones state with
  | (.ok (loaded,_),state) =>
    (.loaded,{ manager with configuration := loaded, views := rebuildRuntimeViews manager.views loaded true },state)
  | (.error .notFound,state) =>
    match Repository.configurationRepositorySave storage manager.configuration manager.boardZones state with
    | (.ok,state) => (.defaultsPersisted,manager,state)
    | (_,state) => (.defaultsStorageError,manager,state)
  | (.error .incompatible,state) => (.defaultsIncompatible,manager,state)
  | (.error .storageError,state) => (.defaultsStorageError,manager,state)
  | (.error _,state) => (.defaultsCorrupt,manager,state)

end Boot

def configurationManagerValidateCandidate (manager : ConfigurationManager) (candidate : IrrigationConfiguration) :
    IrrigationResult :=
  irrigationConfigurationValidate candidate manager.boardZones

/-- No text stands for NULL. -/
def configurationManagerZoneName (manager : ConfigurationManager) (zoneId : Option CString) : Option CString := do
  let zoneId ← zoneId
  let zone ← manager.configuration.liveZones.find? fun zone => zone.zoneId.toCString = zoneId
  pure zone.displayName.toCString

def configurationManagerProgramAt (manager : ConfigurationManager) (programIndex : Nat) : Option ProgramAddress := do
  let configured ← manager.configuration.livePrograms[programIndex]?
  let slot ← programSlotForId manager.views configured.programId
  pure slot

def configurationManagerConfigureScheduler {ε : Type} (manager : ConfigurationManager) :
    Service ε IrrigationResult :=
  schedulerServiceConfigure (manager.views.entries manager.configuration.scheduleCount.toNat)

/-! ### Installing a candidate -/

/-- The manager with the world of its scheduler and the state of its storage device. -/
structure ManagedSystem (ε σ : Type) where
  manager : ConfigurationManager
  world : World ε
  storage : σ

section Install

variable {ε σ : Type} (device : Repository.ConfigurationRepositoryStorage σ)

/-- The services see the views as they are rebuilt. -/
def ManagedSystem.rebuild (configuration : IrrigationConfiguration) (rebuildPrograms : Bool)
    (system : ManagedSystem ε σ) : ManagedSystem ε σ :=
  let views := rebuildRuntimeViews system.manager.views configuration rebuildPrograms
  { system with manager := { system.manager with views }, world := { system.world with memory := views.memory } }

/-- A scheduler call of the manager. -/
def ManagedSystem.schedule {α : Type} (service : Service ε α) (system : ManagedSystem ε σ) :
    α × ManagedSystem ε σ :=
  let (result,world) := service system.world
  (result,{ system with world })

/-- The views and the scheduler's entries for a configuration. -/
def reconfigure (configuration : IrrigationConfiguration) (programsChanged : Bool) (system : ManagedSystem ε σ) :
    IrrigationResult × ManagedSystem ε σ :=
  let rebuilt := system.rebuild configuration programsChanged
  rebuilt.schedule (schedulerServiceConfigureLocked
    (rebuilt.manager.views.entries configuration.scheduleCount.toNat))

/-- Back to the live configuration after a failure, and the end of the locked section. -/
def rollBack (failure : IrrigationResult) (programsChanged : Bool) (system : ManagedSystem ε σ) :
    IrrigationResult × ManagedSystem ε σ :=
  let (rollback,system) := reconfigure system.manager.configuration programsChanged system
  let (_,system) := system.schedule schedulerServiceUnlock
  (if rollback = .ok then failure else .internalError,system)

def persistCandidate (candidate : IrrigationConfiguration) (system : ManagedSystem ε σ) :
    IrrigationResult × ManagedSystem ε σ :=
  if system.manager.repository then
    let (saved,storage) := Repository.configurationRepositorySave device candidate system.manager.boardZones
      system.storage
    (if saved = .ok then .ok else .internalError,{ system with storage })
  else (if system.manager.persistenceRequired then .internalError else .ok,system)

def ManagedSystem.install (candidate : IrrigationConfiguration) (system : ManagedSystem ε σ) : ManagedSystem ε σ :=
  { system with manager := { system.manager with configuration := candidate } }

/-- The locked section of `replace_candidate`, with a scheduler bound. -/
def replaceBound (candidate : IrrigationConfiguration) (programsChanged : Bool) (system : ManagedSystem ε σ) :
    IrrigationResult × ManagedSystem ε σ :=
  let (_,system) := system.schedule schedulerServiceLock
  let (configured,system) := reconfigure candidate programsChanged system
  if configured ≠ .ok then rollBack configured programsChanged system
  else
    let (persisted,system) := persistCandidate device candidate system
    if persisted ≠ .ok then rollBack persisted programsChanged system
    else
      let (_,system) := (system.install candidate).schedule schedulerServiceUnlock
      (.ok,system)

/-- `replace_candidate` without a scheduler. -/
def replaceUnbound (candidate : IrrigationConfiguration) (programsChanged : Bool) (system : ManagedSystem ε σ) :
    IrrigationResult × ManagedSystem ε σ :=
  let (persisted,system) := persistCandidate device candidate system
  if persisted ≠ .ok then (persisted,system)
  else (.ok,(system.install candidate).rebuild candidate programsChanged)

/-- Whether the runtime programs have to be rebuilt. -/
def programsChanged (manager : ConfigurationManager) (candidate : IrrigationConfiguration) : Bool :=
  !programsAreEqual manager.configuration candidate

def replaceCandidate (candidate : IrrigationConfiguration) (system : ManagedSystem ε σ) :
    IrrigationResult × ManagedSystem ε σ :=
  let result := configurationManagerValidateCandidate system.manager candidate
  if result ≠ .ok then (result,system)
  else
    let changed := programsChanged system.manager candidate
    if system.manager.schedulerService then replaceBound device candidate changed system
    else replaceUnbound device candidate changed system

end Install

/-! ### Mutations -/

/-- The array after one entry changed. -/
def changeAt {α : Type} {n : Nat} (entries : Vector α n) (index : Nat) (change : α → α) : Vector α n :=
  Vector.ofFn fun position => if position.val = index then change entries[position] else entries[position]

/-- The array after the live entries behind one moved down over it. -/
def removeAt {α : Type} {n : Nat} (entries : Vector α n) (index count : Nat) : Vector α n :=
  Vector.ofFn fun position => if index ≤ position.val ∧ position.val + 1 < count then
      entries.toList.getD (position + 1) entries[position] else entries[position]

/-- The array after values are stored from its start. -/
def storeFront {α : Type} {n : Nat} (entries : Vector α n) (values : List α) : Vector α n :=
  Vector.ofFn fun position => values.getD position entries[position]

/-- Candidates are prepared from the live configuration; a refused call gets none. -/
abbrev Prepared := Except IrrigationResult IrrigationConfiguration

def renameZone (configuration : IrrigationConfiguration) (zoneId displayName : Option CString) : Prepared :=
  match zoneId, displayName with
  | some zoneId, some displayName =>
    match configuration.liveZones.findIdx? fun zone => zone.zoneId.toCString = zoneId with
    | some index => .ok { configuration with
        zones := changeAt configuration.zones index fun zone => { zone with displayName := copyText displayName } }
    | none => .error .notFound
  | _, _ => .error .rejected

/-- The program fields that both saves write. -/
def IrrigationProgramConfiguration.save (displayName : CString) (steps : List IrrigationProgramStepConfiguration)
    (program : IrrigationProgramConfiguration) : IrrigationProgramConfiguration :=
  { program with
    displayName := copyText displayName
    stepCount := steps.length.toUInt8
    steps := storeFront program.steps steps }

def IrrigationProgramConfiguration.number (number : UInt32) (program : IrrigationProgramConfiguration) :
    IrrigationProgramConfiguration :=
  { program with programId := copyText (.numbered "program-" number.toNat) }

def storeProgram (configuration : IrrigationConfiguration) (programIndex : Nat) (displayName : CString)
    (steps : List IrrigationProgramStepConfiguration) : IrrigationConfiguration :=
  { configuration with programs := changeAt configuration.programs programIndex (.save displayName steps) }

/-- The candidate with an id reserved for one more program. -/
def appendProgram (configuration : IrrigationConfiguration) : IrrigationConfiguration :=
  { configuration with
    programs := changeAt configuration.programs configuration.programCount.toNat (.number configuration.nextProgramId)
    programCount := configuration.programCount + 1
    nextProgramId := configuration.nextProgramId + 1 }

/-- Without an index a new program is saved. No steps stand for NULL with a step count above zero. -/
def saveProgram (configuration : IrrigationConfiguration) (programIndex : Option Nat)
    (displayName : Option CString) (steps : Option (List IrrigationProgramStepConfiguration)) : Prepared :=
  match displayName, steps with
  | some displayName, some steps =>
    if steps.length > irrigationMaxProgramSteps then .error .rejected
    else match programIndex with
      | none =>
        if configuration.programCount.toNat ≥ irrigationMaxPrograms then .error .rejected
        else .ok (storeProgram (appendProgram configuration) configuration.programCount.toNat displayName steps)
      | some index =>
        if index ≥ configuration.programCount.toNat then .error .notFound
        else .ok (storeProgram configuration index displayName steps)
  | _, _ => .error .rejected

def deleteProgram (configuration : IrrigationConfiguration) (programIndex : Nat) : Prepared :=
  match configuration.livePrograms[programIndex]? with
  | none => .error .notFound
  | some program =>
    if configuration.liveSchedules.any fun schedule => schedule.programId = program.programId then
      .error .referenced
    else .ok { configuration with
      programs := removeAt configuration.programs programIndex configuration.programCount.toNat
      programCount := configuration.programCount - 1 }

/-- The schedule fields that both saves write; the enabled flag is not among them. -/
def IrrigationScheduleConfiguration.save (weekdayMask hour minute : UInt8) (programId : CString)
    (schedule : IrrigationScheduleConfiguration) : IrrigationScheduleConfiguration :=
  { schedule with weekdayMask, hour, minute, programId := copyText programId }

def IrrigationScheduleConfiguration.number (number : UInt32) (schedule : IrrigationScheduleConfiguration) :
    IrrigationScheduleConfiguration :=
  { schedule with scheduleId := copyText (.numbered "schedule-" number.toNat) }

def storeSchedule (configuration : IrrigationConfiguration) (scheduleIndex : Nat)
    (weekdayMask hour minute : UInt8) (programId : CString) : IrrigationConfiguration :=
  { configuration with
    schedules := changeAt configuration.schedules scheduleIndex (.save weekdayMask hour minute programId) }

/-- The candidate with an id reserved for one more schedule. -/
def appendSchedule (configuration : IrrigationConfiguration) : IrrigationConfiguration :=
  { configuration with
    schedules := changeAt configuration.schedules configuration.scheduleCount.toNat
      (.number configuration.nextScheduleId)
    scheduleCount := configuration.scheduleCount + 1
    nextScheduleId := configuration.nextScheduleId + 1 }

/-- Without an index a new schedule is saved. -/
def saveSchedule (configuration : IrrigationConfiguration) (scheduleIndex : Option Nat)
    (weekdayMask hour minute : UInt8) (programId : Option CString) : Prepared :=
  match programId with
  | none => .error .rejected
  | some programId =>
    match scheduleIndex with
    | none =>
      if configuration.scheduleCount.toNat ≥ irrigationMaxSchedules then .error .rejected
      else .ok (storeSchedule (appendSchedule configuration) configuration.scheduleCount.toNat weekdayMask hour
        minute programId)
    | some index =>
      if index ≥ configuration.scheduleCount.toNat then .error .notFound
      else .ok (storeSchedule configuration index weekdayMask hour minute programId)

def deleteSchedule (configuration : IrrigationConfiguration) (scheduleIndex : Nat) : Prepared :=
  if scheduleIndex ≥ configuration.scheduleCount.toNat then .error .notFound
  else .ok { configuration with
    schedules := removeAt configuration.schedules scheduleIndex configuration.scheduleCount.toNat
    scheduleCount := configuration.scheduleCount - 1 }

def IrrigationScheduleConfiguration.enable (enabled : Bool) (schedule : IrrigationScheduleConfiguration) :
    IrrigationScheduleConfiguration :=
  { schedule with enabled }

def setScheduleEnabled (configuration : IrrigationConfiguration) (scheduleIndex : Nat) (enabled : Bool) : Prepared :=
  if scheduleIndex ≥ configuration.scheduleCount.toNat then .error .notFound
  else .ok { configuration with schedules := changeAt configuration.schedules scheduleIndex (.enable enabled) }

section Mutations

variable {ε σ : Type} (device : Repository.ConfigurationRepositoryStorage σ)

/-- A refused call returns before anything but the candidate buffer changed. -/
def replacePrepared (prepared : Prepared) (system : ManagedSystem ε σ) : IrrigationResult × ManagedSystem ε σ :=
  match prepared with
  | .error result => (result,system)
  | .ok candidate => replaceCandidate device candidate system

def configurationManagerReplace (candidate : Option IrrigationConfiguration) (system : ManagedSystem ε σ) :
    IrrigationResult × ManagedSystem ε σ :=
  match candidate with
  | none => (.rejected,system)
  | some candidate => replaceCandidate device candidate system

def configurationManagerRenameZone (zoneId displayName : Option CString) (system : ManagedSystem ε σ) :
    IrrigationResult × ManagedSystem ε σ :=
  replacePrepared device (renameZone system.manager.configuration zoneId displayName) system

/-- A successful create also reports the index of what it created. -/
def createdIndex (index : UInt8) (outcome : IrrigationResult × ManagedSystem ε σ) :
    IrrigationResult × Option Nat × ManagedSystem ε σ :=
  (outcome.1,if outcome.1 = .ok then some index.toNat else none,outcome.2)

def configurationManagerCreateProgram (displayName : Option CString)
    (steps : Option (List IrrigationProgramStepConfiguration)) (system : ManagedSystem ε σ) :
    IrrigationResult × Option Nat × ManagedSystem ε σ :=
  createdIndex system.manager.configuration.programCount
    (replacePrepared device (saveProgram system.manager.configuration none displayName steps) system)

def configurationManagerUpdateProgram (programIndex : Nat) (displayName : Option CString)
    (steps : Option (List IrrigationProgramStepConfiguration)) (system : ManagedSystem ε σ) :
    IrrigationResult × ManagedSystem ε σ :=
  replacePrepared device (saveProgram system.manager.configuration (some programIndex) displayName steps) system

def configurationManagerDeleteProgram (programIndex : Nat) (system : ManagedSystem ε σ) :
    IrrigationResult × ManagedSystem ε σ :=
  replacePrepared device (deleteProgram system.manager.configuration programIndex) system

def configurationManagerCreateSchedule (weekdayMask hour minute : UInt8) (programId : Option CString)
    (system : ManagedSystem ε σ) : IrrigationResult × Option Nat × ManagedSystem ε σ :=
  createdIndex system.manager.configuration.scheduleCount
    (replacePrepared device (saveSchedule system.manager.configuration none weekdayMask hour minute programId) system)

def configurationManagerUpdateSchedule (scheduleIndex : Nat) (weekdayMask hour minute : UInt8)
    (programId : Option CString) (system : ManagedSystem ε σ) : IrrigationResult × ManagedSystem ε σ :=
  replacePrepared device
    (saveSchedule system.manager.configuration (some scheduleIndex) weekdayMask hour minute programId) system

def configurationManagerDeleteSchedule (scheduleIndex : Nat) (system : ManagedSystem ε σ) :
    IrrigationResult × ManagedSystem ε σ :=
  replacePrepared device (deleteSchedule system.manager.configuration scheduleIndex) system

def configurationManagerSetScheduleEnabled (scheduleIndex : Nat) (enabled : Bool) (system : ManagedSystem ε σ) :
    IrrigationResult × ManagedSystem ε σ :=
  replacePrepared device (setScheduleEnabled system.manager.configuration scheduleIndex enabled) system

inductive Mutation where
  | renameZone (zoneId displayName : Option CString)
  | createProgram (displayName : Option CString) (steps : Option (List IrrigationProgramStepConfiguration))
  | updateProgram (programIndex : Nat) (displayName : Option CString)
      (steps : Option (List IrrigationProgramStepConfiguration))
  | deleteProgram (programIndex : Nat)
  | createSchedule (weekdayMask hour minute : UInt8) (programId : Option CString)
  | updateSchedule (scheduleIndex : Nat) (weekdayMask hour minute : UInt8) (programId : Option CString)
  | deleteSchedule (scheduleIndex : Nat)
  | setScheduleEnabled (scheduleIndex : Nat) (enabled : Bool)
  | replace (candidate : Option IrrigationConfiguration)
  deriving DecidableEq, Repr

/-- One call of the manager. -/
def mutate (mutation : Mutation) (system : ManagedSystem ε σ) : IrrigationResult × ManagedSystem ε σ :=
  match mutation with
  | .renameZone zoneId displayName => configurationManagerRenameZone device zoneId displayName system
  | .createProgram displayName steps =>
    let (result,_,system) := configurationManagerCreateProgram device displayName steps system
    (result,system)
  | .updateProgram programIndex displayName steps =>
    configurationManagerUpdateProgram device programIndex displayName steps system
  | .deleteProgram programIndex => configurationManagerDeleteProgram device programIndex system
  | .createSchedule weekdayMask hour minute programId =>
    let (result,_,system) := configurationManagerCreateSchedule device weekdayMask hour minute programId system
    (result,system)
  | .updateSchedule scheduleIndex weekdayMask hour minute programId =>
    configurationManagerUpdateSchedule device scheduleIndex weekdayMask hour minute programId system
  | .deleteSchedule scheduleIndex => configurationManagerDeleteSchedule device scheduleIndex system
  | .setScheduleEnabled scheduleIndex enabled =>
    configurationManagerSetScheduleEnabled device scheduleIndex enabled system
  | .replace candidate => configurationManagerReplace device candidate system

/-- The candidate that a call prepares from the live configuration. -/
def Mutation.prepare (configuration : IrrigationConfiguration) : Mutation → Prepared
  | .renameZone zoneId displayName => Irrigation.renameZone configuration zoneId displayName
  | .createProgram displayName steps => saveProgram configuration none displayName steps
  | .updateProgram programIndex displayName steps => saveProgram configuration (some programIndex) displayName steps
  | .deleteProgram programIndex => Irrigation.deleteProgram configuration programIndex
  | .createSchedule weekdayMask hour minute programId =>
    saveSchedule configuration none weekdayMask hour minute programId
  | .updateSchedule scheduleIndex weekdayMask hour minute programId =>
    saveSchedule configuration (some scheduleIndex) weekdayMask hour minute programId
  | .deleteSchedule scheduleIndex => Irrigation.deleteSchedule configuration scheduleIndex
  | .setScheduleEnabled scheduleIndex enabled => Irrigation.setScheduleEnabled configuration scheduleIndex enabled
  | .replace none => .error .rejected
  | .replace (some candidate) => .ok candidate

theorem mutate_eq (mutation : Mutation) (system : ManagedSystem ε σ) :
    mutate device mutation system =
      replacePrepared device (mutation.prepare system.manager.configuration) system := by
  cases mutation with
  | replace candidate => cases candidate <;> rfl
  | _ => rfl

end Mutations

end Irrigation
