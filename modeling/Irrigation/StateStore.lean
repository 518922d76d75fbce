import Irrigation.Configuration
import Mathlib.Data.Fintype.Basic
import Mathlib.Logic.Function.Basic

/-! The runtime state store: what the firmware believes about zones, outputs, the
master valve, the program and the scheduler. An operation returns the changed store
or the result it was refused with; a refused operation changes nothing. -/
namespace Irrigation

abbrev irrigationMaxOutputs : Nat := irrigationLocalOutputCount

inductive SystemState where
  | boot | ready | running | manual | ota | maintenance | error
  deriving DecidableEq, Repr

inductive ZoneState where
  | disabled | idle | opening | open | closing | fault
  deriving DecidableEq, Repr

inductive OutputState where
  | off | on | unknown
  deriving DecidableEq, Repr

inductive MasterValveState where
  | closed | opening | open | closing | fault
  deriving DecidableEq, Repr

inductive ProgramState where
  | idle | waitingMaster | runningZone | waitingPostProgramDelay | completed | aborted | fault
  deriving DecidableEq, Repr

inductive ScheduleOccurrenceStatus where
  | none | started | skippedBusy | rejected
  deriving DecidableEq, Repr

structure MasterValveRuntimeState where
  state : MasterValveState
  openingConfirmedAtMs : UInt64
  preOpenDelayMs : UInt32
  deriving DecidableEq, Repr

structure ProgramRuntimeState where
  state : ProgramState
  currentStepIndex : Nat
  stepStartedAtMs : UInt64
  deriving DecidableEq, Repr

/-- The occurrence arrays as functions of the index; no access leaves their capacity. -/
structure SchedulerRuntimeState where
  lastHandledOccurrence : Nat → UInt64
  lastOccurrenceStatus : Nat → ScheduleOccurrenceStatus
  entryCount : Nat

/-- What configuring fixes about a zone. -/
structure ZoneIdentity where
  zoneId : CString
  outputId : CString
  outputIndex : Fin irrigationMaxOutputs
  deriving DecidableEq, Repr

/-- What operations change about a zone. -/
structure ZoneStatus where
  state : ZoneState
  openedAtMs : UInt64
  durationMs : UInt32
  deriving DecidableEq, Repr

structure ZoneRuntimeState extends ZoneIdentity, ZoneStatus
  deriving DecidableEq, Repr

/-- The configured zones; their ids and their outputs are distinct. -/
structure ZoneTable where
  entries : List ZoneRuntimeState
  room : entries.length ≤ irrigationMaxZones
  ids : (entries.map (·.zoneId)).Nodup
  outputs : (entries.map (·.outputIndex)).Nodup

structure RuntimeState where
  systemState : SystemState
  outputStates : Fin irrigationMaxOutputs → OutputState
  masterValve : MasterValveRuntimeState
  program : ProgramRuntimeState
  scheduler : SchedulerRuntimeState
  zones : ZoneTable

/-! ### The zone table -/

namespace ZoneTable

def findZone (table : ZoneTable) (zoneId : CString) : Option ZoneRuntimeState :=
  table.entries.find? fun zone => zone.zoneId = zoneId

def changeStatus (zoneId : CString) (status : ZoneStatus → ZoneStatus) (zone : ZoneRuntimeState) :
    ZoneRuntimeState :=
  if zone.zoneId = zoneId then ⟨zone.toZoneIdentity,status zone.toZoneStatus⟩ else zone

@[simp] theorem changeStatus_identity (zoneId : CString) (status : ZoneStatus → ZoneStatus)
    (zone : ZoneRuntimeState) : (changeStatus zoneId status zone).toZoneIdentity = zone.toZoneIdentity := by
  unfold changeStatus
  split <;> rfl

theorem changeStatus_of_eq {zoneId : CString} {zone : ZoneRuntimeState} (status : ZoneStatus → ZoneStatus)
    (named : zone.zoneId = zoneId) :
    changeStatus zoneId status zone = ⟨zone.toZoneIdentity,status zone.toZoneStatus⟩ := if_pos named

theorem changeStatus_of_ne {zoneId : CString} {zone : ZoneRuntimeState} (status : ZoneStatus → ZoneStatus)
    (other : zone.zoneId ≠ zoneId) : changeStatus zoneId status zone = zone := if_neg other

/-- The table after the zone of an id changed its status. -/
def update (table : ZoneTable) (zoneId : CString) (status : ZoneStatus → ZoneStatus) : ZoneTable where
  entries := table.entries.map (changeStatus zoneId status)
  room := by rw [List.length_map]; exact table.room
  ids := by
    have same : (fun zone : ZoneRuntimeState => zone.zoneId) ∘ changeStatus zoneId status = (·.zoneId) := by
      funext zone
      exact congrArg ZoneIdentity.zoneId (changeStatus_identity zoneId status zone)
    rw [List.map_map,same]
    exact table.ids
  outputs := by
    have same : (fun zone : ZoneRuntimeState => zone.outputIndex) ∘ changeStatus zoneId status =
        (·.outputIndex) := by
      funext zone
      exact congrArg ZoneIdentity.outputIndex (changeStatus_identity zoneId status zone)
    rw [List.map_map,same]
    exact table.outputs

theorem findZone_some {table : ZoneTable} {zoneId : CString} {zone : ZoneRuntimeState}
    (found : table.findZone zoneId = some zone) : zone ∈ table.entries ∧ zone.zoneId = zoneId :=
  ⟨List.mem_of_find?_eq_some found,by simpa using List.find?_some found⟩

theorem eq_of_zoneId {table : ZoneTable} {first second : ZoneRuntimeState} (hf : first ∈ table.entries)
    (hs : second ∈ table.entries) (same : first.zoneId = second.zoneId) : first = second :=
  List.inj_on_of_nodup_map table.ids hf hs same

theorem eq_of_outputIndex {table : ZoneTable} {first second : ZoneRuntimeState}
    (hf : first ∈ table.entries) (hs : second ∈ table.entries)
    (same : first.outputIndex = second.outputIndex) : first = second :=
  List.inj_on_of_nodup_map table.outputs hf hs same

theorem findZone_of_mem {table : ZoneTable} {zone : ZoneRuntimeState} (member : zone ∈ table.entries) :
    table.findZone zone.zoneId = some zone := by
  cases found : table.findZone zone.zoneId with
  | none => simpa using List.find?_eq_none.mp found zone member
  | some other =>
    obtain ⟨otherMember,same⟩ := findZone_some found
    rw [eq_of_zoneId otherMember member same]

theorem mem_update {table : ZoneTable} {zoneId : CString} {status : ZoneStatus → ZoneStatus}
    {zone : ZoneRuntimeState} :
    zone ∈ (table.update zoneId status).entries ↔ ∃ before ∈ table.entries, changeStatus zoneId status before = zone :=
  List.mem_map

theorem findZone_update_self {table : ZoneTable} {zoneId : CString} {zone : ZoneRuntimeState}
    (status : ZoneStatus → ZoneStatus) (found : table.findZone zoneId = some zone) :
    (table.update zoneId status).findZone zoneId = some ⟨zone.toZoneIdentity,status zone.toZoneStatus⟩ := by
  obtain ⟨member,rfl⟩ := findZone_some found
  exact findZone_of_mem (mem_update.mpr ⟨zone,member,changeStatus_of_eq status rfl⟩)

theorem findZone_update_of_ne {table : ZoneTable} {zoneId other : CString}
    (status : ZoneStatus → ZoneStatus) (different : other ≠ zoneId) :
    (table.update zoneId status).findZone other = table.findZone other := by
  have general : ∀ entries : List ZoneRuntimeState,
      (entries.map (changeStatus zoneId status)).find? (fun zone => zone.zoneId = other) =
        entries.find? fun zone => zone.zoneId = other := by
    intro entries
    induction entries with
    | nil => rfl
    | cons zone rest ih =>
      by_cases named : zone.zoneId = other
      · have kept : changeStatus zoneId status zone = zone := changeStatus_of_ne status (named ▸ different)
        simp [named,kept]
      · simp [named,ih]
  exact general table.entries

end ZoneTable

/-! ### Zones -/

def hasActiveOrUnknownOutput (store : RuntimeState) : Prop := ∃ index, store.outputStates index ≠ .off

instance (store : RuntimeState) : Decidable (hasActiveOrUnknownOutput store) := by
  unfold hasActiveOrUnknownOutput; infer_instance

def systemTransitionIsAllowed (source target : SystemState) : Bool :=
  source = target ||
    match source, target with
    | .boot, .ready | .ready, .manual | .manual, .ready | .ready, .error | .error, .boot => true
    | _, _ => false

def stateStoreTransitionSystem (store : RuntimeState) (nextState : SystemState) :
    Except IrrigationResult RuntimeState :=
  if systemTransitionIsAllowed store.systemState nextState then .ok { store with systemState := nextState }
  else .error .invalidState

/-- A zone as configuring it leaves it. -/
def configuredZone (zone : Zone) (inside : zone.output.driverOutputIndex < irrigationMaxOutputs) :
    ZoneRuntimeState where
  zoneId := zone.id
  outputId := zone.output.id
  outputIndex := ⟨zone.output.driverOutputIndex,inside⟩
  state := if zone.enabled then .idle else .disabled
  openedAtMs := 0
  durationMs := zone.defaultDurationMs

/-- The source tests each zone against the ones before it. -/
structure ConfigurableZones (zones : List Zone) : Prop where
  room : zones.length ≤ irrigationMaxZones
  inside : ∀ zone ∈ zones, zone.output.driverOutputIndex < irrigationMaxOutputs
  ids : (zones.map (·.id)).Nodup
  outputs : (zones.map (·.output.driverOutputIndex)).Nodup

instance (zones : List Zone) : Decidable (ConfigurableZones zones) :=
  decidable_of_iff (zones.length ≤ irrigationMaxZones ∧
      (∀ zone ∈ zones, zone.output.driverOutputIndex < irrigationMaxOutputs) ∧
      (zones.map (·.id)).Nodup ∧ (zones.map (·.output.driverOutputIndex)).Nodup)
    ⟨fun h => ⟨h.1,h.2.1,h.2.2.1,h.2.2.2⟩,fun h => ⟨h.1,h.2,h.3,h.4⟩⟩

def configuredTable (zones : List Zone) (accepted : ConfigurableZones zones) : ZoneTable where
  entries := zones.pmap configuredZone accepted.inside
  room := by rw [List.length_pmap]; exact accepted.room
  ids := by
    rw [List.map_pmap]
    simpa [configuredZone] using accepted.ids
  outputs := by
    rw [List.map_pmap]
    have h := accepted.outputs
    rw [← List.pmap_eq_map accepted.inside] at h
    refine List.Nodup.of_map (fun index : Fin irrigationMaxOutputs => index.val) ?_
    rw [List.map_pmap]
    exact h

def stateStoreConfigureZones (store : RuntimeState) (zones : List Zone) :
    Except IrrigationResult RuntimeState :=
  if accepted : ConfigurableZones zones then .ok { store with zones := configuredTable zones accepted }
  else .error .rejected

def scheduleOccurrenceUnhandled : UInt64 := 0xffffffffffffffff

def stateStoreInit : RuntimeState where
  systemState := .boot
  outputStates := fun _ => .off
  masterValve := ⟨.closed,0,0⟩
  program := ⟨.idle,0,0⟩
  scheduler := ⟨fun _ => scheduleOccurrenceUnhandled,fun _ => .none,0⟩
  zones := ⟨[],by simp,by simp,by simp⟩

def stateStoreGetZone (store : RuntimeState) (zoneId : CString) : Except IrrigationResult ZoneRuntimeState :=
  match store.zones.findZone zoneId with
  | none => .error .notFound
  | some zone => .ok zone

/-- The output and the configured duration of a zone that may be opened. -/
def stateStorePrepareZoneOpen (store : RuntimeState) (zoneId : CString) :
    Except IrrigationResult (Fin irrigationMaxOutputs × UInt32) :=
  match store.zones.findZone zoneId with
  | none => .error .notFound
  | some zone =>
    if store.systemState ≠ .manual ∨ zone.state ≠ .idle ∨ store.masterValve.state ≠ .open ∨
        hasActiveOrUnknownOutput store then .error .invalidState
    else .ok (zone.outputIndex,zone.durationMs)

def stateStoreOpenZone (store : RuntimeState) (zoneId : CString) (openedAtMs : UInt64)
    (durationMs : UInt32) : Except IrrigationResult RuntimeState :=
  match stateStorePrepareZoneOpen store zoneId with
  | .error result => .error result
  | .ok (outputIndex,_) => .ok { store with
      zones := store.zones.update zoneId fun _ => ⟨.open,openedAtMs,durationMs⟩
      outputStates := Function.update store.outputStates outputIndex .on }

/-- The store after a zone's output is recorded off; MANUAL ends with the last output. -/
def closedZone (store : RuntimeState) (zone : ZoneRuntimeState) : RuntimeState :=
  let closed := { store with
    zones := store.zones.update zone.zoneId fun status => ⟨.idle,0,status.durationMs⟩
    outputStates := Function.update store.outputStates zone.outputIndex .off }
  if ¬hasActiveOrUnknownOutput closed ∧ closed.systemState = .manual then
    { closed with systemState := .ready }
  else closed

def stateStoreCloseZone (store : RuntimeState) (zoneId : CString) : Except IrrigationResult RuntimeState :=
  match store.zones.findZone zoneId with
  | none => .error .notFound
  | some zone =>
    if zone.state ≠ .open ∧ zone.state ≠ .fault then .error .invalidState
    else .ok (closedZone store zone)

def stateStoreRecordZoneActuationFault (store : RuntimeState) (zoneId : CString)
    (outputState : OutputState) : Except IrrigationResult RuntimeState :=
  match store.zones.findZone zoneId with
  | none => .error .notFound
  | some zone =>
    if zone.state = .disabled then .error .invalidState
    else .ok { store with
      zones := store.zones.update zoneId fun status => { status with state := .fault }
      outputStates := Function.update store.outputStates zone.outputIndex outputState
      systemState := .error }

/-! ### Master valve -/

def stateStoreConfigureMasterValve (store : RuntimeState) (preOpenDelayMs : UInt32) :
    Except IrrigationResult RuntimeState :=
  if store.masterValve.state ≠ .closed then .error .invalidState
  else .ok { store with masterValve := { store.masterValve with preOpenDelayMs } }

def stateStoreBeginMasterValveOpen (store : RuntimeState) (confirmedAtMs : UInt64) :
    Except IrrigationResult RuntimeState :=
  if store.masterValve.state ≠ .closed ∧ store.masterValve.state ≠ .fault then .error .invalidState
  else .ok { store with masterValve :=
    { store.masterValve with state := .opening, openingConfirmedAtMs := confirmedAtMs } }

def stateStoreCompleteMasterValvePreOpenDelay (store : RuntimeState) (nowMs : UInt64) :
    Except IrrigationResult RuntimeState :=
  if store.masterValve.state ≠ .opening then .error .invalidState
  else if nowMs - store.masterValve.openingConfirmedAtMs < store.masterValve.preOpenDelayMs.toUInt64 then
    .error .timeout
  else .ok { store with masterValve := { store.masterValve with state := .open } }

def stateStoreMasterValveCloseIsEligible (store : RuntimeState) : Prop :=
  (store.masterValve.state = .open ∨ store.masterValve.state = .opening) ∧ ¬hasActiveOrUnknownOutput store

instance (store : RuntimeState) : Decidable (stateStoreMasterValveCloseIsEligible store) := by
  unfold stateStoreMasterValveCloseIsEligible; infer_instance

def stateStoreBeginMasterValveClose (store : RuntimeState) : Except IrrigationResult RuntimeState :=
  if ¬stateStoreMasterValveCloseIsEligible store then .error .invalidState
  else .ok { store with masterValve := { store.masterValve with state := .closing } }

def stateStoreCompleteMasterValveClose (store : RuntimeState) : Except IrrigationResult RuntimeState :=
  if store.masterValve.state ≠ .closing then .error .invalidState
  else .ok { store with masterValve :=
    { store.masterValve with state := .closed, openingConfirmedAtMs := 0 } }

def stateStoreRecordMasterValveFault (store : RuntimeState) : Except IrrigationResult RuntimeState :=
  .ok { store with masterValve := { store.masterValve with state := .fault } }

/-! ### Program -/

def stateStoreStartProgram (store : RuntimeState) : Except IrrigationResult RuntimeState :=
  if store.program.state ≠ .idle ∧ store.program.state ≠ .completed ∧ store.program.state ≠ .aborted then
    .error .invalidState
  else .ok { store with program := ⟨.waitingMaster,0,0⟩ }

def stateStoreSetProgramRunningZone (store : RuntimeState) (stepIndex : Nat) (startedAtMs : UInt64) :
    Except IrrigationResult RuntimeState :=
  if store.program.state ≠ .waitingMaster ∧ store.program.state ≠ .runningZone then .error .invalidState
  else .ok { store with program := ⟨.runningZone,stepIndex,startedAtMs⟩ }

def stateStoreSetProgramWaitingPostDelay (store : RuntimeState) (startedAtMs : UInt64) :
    Except IrrigationResult RuntimeState :=
  if store.program.state ≠ .runningZone then .error .invalidState
  else .ok { store with program :=
    { store.program with state := .waitingPostProgramDelay, stepStartedAtMs := startedAtMs } }

def stateStoreSetProgramTerminal (store : RuntimeState) (state : ProgramState) :
    Except IrrigationResult RuntimeState :=
  if state ≠ .completed ∧ state ≠ .aborted ∧ state ≠ .fault then .error .invalidState
  else .ok { store with program := { store.program with state } }

/-! ### Scheduler -/

def stateStoreConfigureScheduler (store : RuntimeState) (entryCount : Nat) :
    Except IrrigationResult RuntimeState :=
  if entryCount > irrigationMaxSchedules then .error .rejected
  else .ok { store with scheduler := { store.scheduler with entryCount } }

def stateStoreGetScheduleOccurrence (store : RuntimeState) (entryIndex : Nat) :
    Except IrrigationResult (UInt64 × ScheduleOccurrenceStatus) :=
  if entryIndex ≥ store.scheduler.entryCount then .error .invalidState
  else .ok (store.scheduler.lastHandledOccurrence entryIndex,store.scheduler.lastOccurrenceStatus entryIndex)

/-- The scheduler's record after one entry's occurrence and status are stored. -/
def SchedulerRuntimeState.record (scheduler : SchedulerRuntimeState) (entryIndex : Nat) (occurrence : UInt64)
    (status : ScheduleOccurrenceStatus) : SchedulerRuntimeState :=
  { scheduler with
    lastHandledOccurrence := Function.update scheduler.lastHandledOccurrence entryIndex occurrence
    lastOccurrenceStatus := Function.update scheduler.lastOccurrenceStatus entryIndex status }

def stateStoreResetScheduleOccurrence (store : RuntimeState) (entryIndex : Nat) :
    Except IrrigationResult RuntimeState :=
  if entryIndex ≥ store.scheduler.entryCount then .error .invalidState
  else .ok { store with scheduler := store.scheduler.record entryIndex scheduleOccurrenceUnhandled .none }

def stateStoreRecordScheduleOccurrence (store : RuntimeState) (entryIndex : Nat) (occurrence : UInt64)
    (status : ScheduleOccurrenceStatus) : Except IrrigationResult RuntimeState :=
  if entryIndex ≥ store.scheduler.entryCount ∨ status = .none then .error .invalidState
  else .ok { store with scheduler := store.scheduler.record entryIndex occurrence status }

end Irrigation
