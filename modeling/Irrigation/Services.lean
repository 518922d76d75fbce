import Irrigation.StateStore

/-! The zone, master valve, program and scheduler services over a world that holds the
store, the objects they point to, the devices behind the drivers and the traces they
leave. Operations run one at a time, so the operation locks are always free; every
service is wired to the same store, drivers, bus and clock. -/
namespace Irrigation

/-! ### The world -/

abbrev ProgramAddress := Nat
abbrev TextAddress := Nat

structure ProgramStep where
  zoneId : Option CString
  durationMs : UInt32
  deriving DecidableEq, Repr

/-- `steps` is the array up to `step_count`; a NULL array is the empty one. -/
structure Program where
  id : Option CString
  steps : List ProgramStep
  postProgramDelayMs : UInt32
  deriving DecidableEq, Repr

inductive ProgramExecutionOrigin where
  | manual | scheduled
  deriving DecidableEq, Repr

structure ProgramStartContext where
  origin : ProgramExecutionOrigin
  scheduleId : Option TextAddress
  deriving DecidableEq, Repr

inductive ProgramExecutionResult where
  | completed | aborted | fault | interruptedReboot
  deriving DecidableEq, Repr

inductive EventType where
  | systemReady | outputSafeOff | zoneOpened | zoneClosed | zoneTimedOut | zoneFaulted
  | programExecutionStarted | programExecutionStepStarted | programExecutionStepCompleted
  | programExecutionTerminated
  deriving DecidableEq, Repr

/-- The program part of an event; zone events leave it zeroed. -/
structure ProgramEvent where
  programId : Option CString
  startContext : ProgramStartContext
  executionResult : ProgramExecutionResult
  stepIndex : Nat
  plannedDurationMs : UInt32
  deriving DecidableEq, Repr

structure Event where
  id : CString
  timestampMs : UInt64
  source : CString
  type : EventType
  version : UInt16
  zoneId : Option CString
  program : Option ProgramEvent
  deriving DecidableEq, Repr

structure SchedulerEntry where
  id : Option TextAddress
  enabled : Bool
  weekdayMask : UInt8
  hour : UInt8
  minute : UInt8
  program : Option ProgramAddress
  deriving DecidableEq, Repr

structure SchedulerTime where
  weekIndex : UInt32
  weekday : UInt8
  hour : UInt8
  minute : UInt8
  deriving DecidableEq, Repr

/-- The objects that the services keep pointers to. -/
structure Memory where
  program : ProgramAddress → Program
  text : TextAddress → CString

inductive DriverCommand where
  | setOutput (index : Fin irrigationMaxOutputs) (enabled : Bool)
  | openAndConfirm
  | closeAndConfirm
  deriving DecidableEq, Repr

structure DriverCall where
  command : DriverCommand
  result : IrrigationResult
  deriving DecidableEq, Repr

/-- The devices and the clock, over an arbitrary environment state. -/
structure Drivers (ε : Type) where
  perform : DriverCommand → ε → IrrigationResult × ε
  nowMs : ε → UInt64 × ε

inductive SynchronizationCall where
  | lock | unlock
  deriving DecidableEq, Repr

structure World (ε : Type) where
  store : RuntimeState
  memory : Memory
  program : Option ProgramAddress
  startContext : ProgramStartContext
  entries : List SchedulerEntry
  environment : ε
  calls : List DriverCall
  events : List Event
  synchronization : List SynchronizationCall

abbrev Service (ε : Type) := StateM (World ε)

variable {ε : Type} (drivers : Drivers ε)

def snapshot : Service ε RuntimeState := fun world => (world.store,world)

/-- A store operation; a refused one leaves the store alone. -/
def commit (operation : RuntimeState → Except IrrigationResult RuntimeState) :
    Service ε IrrigationResult := fun world =>
  match operation world.store with
  | .ok store => (.ok,{ world with store })
  | .error result => (result,world)

def clockNowMs : Service ε UInt64 := fun world =>
  let (now,environment) := drivers.nowMs world.environment
  (now,{ world with environment })

def perform (command : DriverCommand) : Service ε IrrigationResult := fun world =>
  let (result,environment) := drivers.perform command world.environment
  (result,{ world with environment, calls := world.calls ++ [⟨command,result⟩] })

def outputDriverSet (index : Fin irrigationMaxOutputs) (enabled : Bool) : Service ε IrrigationResult :=
  perform drivers (.setOutput index enabled)

def masterValveDriverOpenAndConfirm : Service ε IrrigationResult := perform drivers .openAndConfirm

def masterValveDriverCloseAndConfirm : Service ε IrrigationResult := perform drivers .closeAndConfirm

def eventBusPublish (event : Event) : Service ε Unit := fun world =>
  ((),{ world with events := world.events ++ [event] })

/-! ### Master valve service -/

def masterValveServiceOpen : Service ε IrrigationResult := do
  let state ← snapshot
  if state.masterValve.state ≠ .closed ∧ state.masterValve.state ≠ .fault then pure .invalidState
  else do
    let confirmed ← masterValveDriverOpenAndConfirm drivers
    let result ← if confirmed = .ok then do
        let now ← clockNowMs drivers
        commit (stateStoreBeginMasterValveOpen · now)
      else pure confirmed
    if result ≠ .ok then do
      let _ ← commit stateStoreRecordMasterValveFault
      pure result
    else pure result

def masterValveServiceProcessTime : Service ε IrrigationResult := do
  let state ← snapshot
  if state.masterValve.state = .opening then do
    let now ← clockNowMs drivers
    let result ← commit (stateStoreCompleteMasterValvePreOpenDelay · now)
    pure (if result = .timeout then .ok else result)
  else pure .ok

def masterValveServiceClose : Service ε IrrigationResult := do
  let begun ← commit stateStoreBeginMasterValveClose
  if begun ≠ .ok then pure begun
  else do
    let confirmed ← masterValveDriverCloseAndConfirm drivers
    let result ← if confirmed = .ok then commit stateStoreCompleteMasterValveClose else pure confirmed
    if result ≠ .ok then do
      let _ ← commit stateStoreRecordMasterValveFault
      pure result
    else pure result

/-- `master_valve_service_check_zone_start`, the zone service's start precondition. -/
def masterValveServiceCheckZoneStart : Service ε IrrigationResult := do
  let state ← snapshot
  pure (if state.masterValve.state = .open then .ok else .invalidState)

/-! ### Zone service -/

def publishZoneEvent (type : EventType) (zoneId : CString) : Service ε Unit := do
  let timestampMs ← clockNowMs drivers
  eventBusPublish ⟨.literal "zone-event",timestampMs,.literal "zone_service",type,1,some zoneId,none⟩

def faultZone (zoneId : CString) (outputState : OutputState) : Service ε IrrigationResult := do
  let result ← commit (stateStoreRecordZoneActuationFault · zoneId outputState)
  if result = .ok then do
    publishZoneEvent drivers .zoneFaulted zoneId
    pure result
  else pure result

/-- The part of `zone_service_open_locked` from the prepared open on. -/
def zoneServiceActuateOpen (zoneId : CString) (durationMs : UInt32) : Service ε IrrigationResult := do
  let state ← snapshot
  match stateStorePrepareZoneOpen state zoneId with
  | .error result => pure result
  | .ok (outputIndex,configuredDuration) => do
    let effectiveDuration := if durationMs = 0 then configuredDuration else durationMs
    let driven ← outputDriverSet drivers outputIndex true
    if driven ≠ .ok then do
      let safeOff ← outputDriverSet drivers outputIndex false
      let _ ← faultZone drivers zoneId (if safeOff = .ok then .off else .unknown)
      pure driven
    else do
      let now ← clockNowMs drivers
      let result ← commit (stateStoreOpenZone · zoneId now effectiveDuration)
      if result ≠ .ok then do
        let _ ← outputDriverSet drivers outputIndex false
        let _ ← faultZone drivers zoneId .unknown
        pure result
      else do
        publishZoneEvent drivers .zoneOpened zoneId
        pure .ok

def zoneServiceOpen (zoneId : Option CString) (durationMs : UInt32) : Service ε IrrigationResult :=
  match zoneId with
  | none => pure .rejected
  | some zoneId => do
    let state ← snapshot
    match stateStoreGetZone state zoneId with
    | .error result => pure result
    | .ok zone =>
      if zone.state ≠ .idle then pure .invalidState
      else if state.masterValve.state ≠ .open then pure .invalidState
      else if hasActiveOrUnknownOutput state then pure .invalidState
      else do
        let precondition ← masterValveServiceCheckZoneStart
        if precondition ≠ .ok then pure precondition
        else do
          let transition ← if state.systemState = .ready then commit (stateStoreTransitionSystem · .manual)
            else pure .ok
          if transition ≠ .ok then pure transition
          else zoneServiceActuateOpen drivers zoneId durationMs

def zoneServiceClose (zoneId : Option CString) : Service ε IrrigationResult :=
  match zoneId with
  | none => pure .rejected
  | some zoneId => do
    let state ← snapshot
    match stateStoreGetZone state zoneId with
    | .error result => pure result
    | .ok zone =>
      if zone.state ≠ .open ∧ zone.state ≠ .fault then pure .invalidState
      else do
        let driven ← outputDriverSet drivers zone.outputIndex false
        if driven ≠ .ok then do
          let _ ← faultZone drivers zoneId .unknown
          pure driven
        else do
          let result ← commit (stateStoreCloseZone · zoneId)
          if result = .ok then do
            publishZoneEvent drivers .zoneClosed zoneId
            pure result
          else pure result

/-- Closes the zones that were not off in the snapshot; the first failure is reported. -/
def closeActiveZones (state : RuntimeState) : List ZoneRuntimeState → IrrigationResult →
    Service ε IrrigationResult
  | [], firstFailure => pure firstFailure
  | zone :: rest, firstFailure =>
    if state.outputStates zone.outputIndex ≠ .off then do
      let result ← zoneServiceClose drivers (some zone.zoneId)
      closeActiveZones state rest (if firstFailure = .ok then result else firstFailure)
    else closeActiveZones state rest firstFailure

def zoneServiceSafeClose : Service ε IrrigationResult := do
  let state ← snapshot
  closeActiveZones drivers state state.zones.entries .ok

/-- Closes the zones of the snapshot whose duration is over, up to the first failure. -/
def closeTimedOutZones (nowMs : UInt64) : List ZoneRuntimeState → Service ε IrrigationResult
  | [] => pure .ok
  | zone :: rest =>
    if zone.state = .open ∧ zone.durationMs ≠ 0 ∧ nowMs - zone.openedAtMs ≥ zone.durationMs.toUInt64 then do
      let result ← zoneServiceClose drivers (some zone.zoneId)
      if result ≠ .ok then pure result
      else do
        publishZoneEvent drivers .zoneTimedOut zone.zoneId
        closeTimedOutZones nowMs rest
    else closeTimedOutZones nowMs rest

def zoneServiceProcessTimeouts : Service ε IrrigationResult := do
  let state ← snapshot
  let now ← clockNowMs drivers
  closeTimedOutZones drivers now state.zones.entries

/-! ### Program service -/

def programStartContextManual : ProgramStartContext := ⟨.manual,none⟩

def programStartContextIsValid (memory : Memory) (context : ProgramStartContext) : Bool :=
  match context.origin, context.scheduleId with
  | .manual, scheduleId => scheduleId.isNone
  | .scheduled, none => false
  | .scheduled, some scheduleId => (memory.text scheduleId).bytes ≠ []

def programIsValid (program : Program) : Bool :=
  program.id.isSome && !program.steps.isEmpty && program.steps.all fun step => step.zoneId.isSome

def plannedDurationMs (program : Program) : UInt32 :=
  let durationMs := program.steps.foldl (fun sum step => sum + step.durationMs.toUInt64)
    program.postProgramDelayMs.toUInt64
  if durationMs > 0xffffffff then 0xffffffff else durationMs.toUInt32

def programIsActive (state : RuntimeState) : Bool :=
  match state.program.state with
  | .waitingMaster | .runningZone | .waitingPostProgramDelay => true
  | _ => false

def programServiceIsActive : Service ε Bool := do
  let state ← snapshot
  pure (programIsActive state)

/-- What `service->program` points to; it is only followed once a start has set it. -/
def World.currentProgram (world : World ε) : Program :=
  match world.program with
  | none => ⟨none,[],0⟩
  | some address => world.memory.program address

/-- `service->program->steps[index]`; the index of an active program is below its count. -/
def Program.step (program : Program) (index : Nat) : ProgramStep := program.steps.getD index ⟨none,0⟩

def publishExecutionEvent (type : EventType) (result : ProgramExecutionResult) (stepIndex : Nat)
    (zoneId : Option CString) : Service ε Unit := do
  let timestampMs ← clockNowMs drivers
  let world ← get
  eventBusPublish ⟨.literal "program-execution",timestampMs,.literal "program_service",type,1,zoneId,
    some ⟨world.currentProgram.id,world.startContext,result,stepIndex,plannedDurationMs world.currentProgram⟩⟩

def finish (terminalState : ProgramState) (historyResult : ProgramExecutionResult) : Service ε Unit := do
  let _ ← commit (stateStoreSetProgramTerminal · terminalState)
  publishExecutionEvent drivers .programExecutionTerminated historyResult 0 none

def fault (result : IrrigationResult) : Service ε IrrigationResult := do
  let state ← snapshot
  let _ ← if stateStoreMasterValveCloseIsEligible state then masterValveServiceClose drivers else pure .ok
  finish drivers .fault .fault
  pure result

def openCurrentZone : Service ε IrrigationResult := do
  let state ← snapshot
  let world ← get
  let step := world.currentProgram.step state.program.currentStepIndex
  let opened ← zoneServiceOpen drivers step.zoneId step.durationMs
  if opened ≠ .ok then fault drivers opened
  else do
    let now ← clockNowMs drivers
    let result ← commit (stateStoreSetProgramRunningZone · state.program.currentStepIndex now)
    if result = .ok then do
      publishExecutionEvent drivers .programExecutionStepStarted .fault state.program.currentStepIndex step.zoneId
      pure result
    else pure result

def setServiceProgram (program : ProgramAddress) (context : ProgramStartContext) : Service ε Unit :=
  fun world => ((),{ world with program := some program, startContext := context })

/-- A start once it holds the operation lock. -/
def programServiceStartLocked (program : ProgramAddress) (context : ProgramStartContext) :
    Service ε IrrigationResult := do
  setServiceProgram program context
  let started ← commit stateStoreStartProgram
  if started ≠ .ok then pure started
  else do
    publishExecutionEvent drivers .programExecutionStarted .fault 0 none
    let result ← masterValveServiceOpen drivers
    if result ≠ .ok then do
      finish drivers .fault .fault
      pure result
    else pure result

def programServiceStartWithContext (program : Option ProgramAddress) (context : ProgramStartContext) :
    Service ε IrrigationResult :=
  match program with
  | none => pure .rejected
  | some address => do
    let world ← get
    if ¬programIsValid (world.memory.program address) ∨ ¬programStartContextIsValid world.memory context ∨
        programIsActive world.store then pure .rejected
    else programServiceStartLocked drivers address context

def programServiceStart (program : Option ProgramAddress) : Service ε IrrigationResult :=
  programServiceStartWithContext drivers program programStartContextManual

/-- Waiting for the master valve to open. -/
def processWaitingMaster : Service ε IrrigationResult := do
  let result ← masterValveServiceProcessTime drivers
  if result ≠ .ok then fault drivers result
  else do
    let state ← snapshot
    if state.masterValve.state = .open then openCurrentZone drivers
    else if state.masterValve.state = .fault then fault drivers .invalidState
    else pure result

/-- The current step's duration is over. -/
def completeCurrentStep (state : RuntimeState) (step : ProgramStep) : Service ε IrrigationResult := do
  let closed ← zoneServiceClose drivers step.zoneId
  if closed ≠ .ok then fault drivers closed
  else do
    let world ← get
    publishExecutionEvent drivers .programExecutionStepCompleted .fault state.program.currentStepIndex
      step.zoneId
    let now ← clockNowMs drivers
    if state.program.currentStepIndex + 1 < world.currentProgram.steps.length then do
      let _ ← commit (stateStoreSetProgramRunningZone · (state.program.currentStepIndex + 1) now)
      openCurrentZone drivers
    else commit (stateStoreSetProgramWaitingPostDelay · now)

def processRunningZone (state : RuntimeState) : Service ε IrrigationResult := do
  let world ← get
  let step := world.currentProgram.step state.program.currentStepIndex
  let now ← clockNowMs drivers
  if now - state.program.stepStartedAtMs ≥ step.durationMs.toUInt64 then completeCurrentStep drivers state step
  else pure .ok

def processWaitingPostProgramDelay (state : RuntimeState) : Service ε IrrigationResult := do
  let world ← get
  let now ← clockNowMs drivers
  if now - state.program.stepStartedAtMs ≥ world.currentProgram.postProgramDelayMs.toUInt64 then do
    let result ← masterValveServiceClose drivers
    finish drivers .completed .completed
    pure result
  else pure .ok

def programServiceProcess : Service ε IrrigationResult := do
  let state ← snapshot
  match state.program.state with
  | .waitingMaster => processWaitingMaster drivers
  | .runningZone => processRunningZone drivers state
  | .waitingPostProgramDelay => processWaitingPostProgramDelay drivers state
  | _ => pure .rejected

/-- An abort from the closed zone on. -/
def abortMasterValve (closed : IrrigationResult) : Service ε IrrigationResult := do
  let state ← snapshot
  let result ← if closed = .ok ∧ state.masterValve.state ≠ .closed then masterValveServiceClose drivers
    else pure closed
  if result = .ok then finish drivers .aborted .aborted else finish drivers .fault .fault
  pure result

/-- An abort once it holds the operation lock. -/
def programServiceAbortLocked (state : RuntimeState) : Service ε IrrigationResult := do
  let world ← get
  let closed ← if state.program.state = .runningZone then
      zoneServiceClose drivers (world.currentProgram.step state.program.currentStepIndex).zoneId
    else pure .ok
  abortMasterValve drivers closed

def programServiceAbort : Service ε IrrigationResult := do
  let state ← snapshot
  if programIsActive state then programServiceAbortLocked drivers state else pure .rejected

/-! ### Scheduler service -/

def schedulerServiceLock : Service ε Unit := fun world =>
  ((),{ world with synchronization := world.synchronization ++ [.lock] })

def schedulerServiceUnlock : Service ε Unit := fun world =>
  ((),{ world with synchronization := world.synchronization ++ [.unlock] })

def schedulerTimeIsValid (time : SchedulerTime) : Bool :=
  time.weekday < 7 && time.hour < 24 && time.minute < 60

def occurrenceFor (time : SchedulerTime) : UInt64 := time.weekIndex.toUInt64 * 7 + time.weekday.toUInt64

/-- A due entry: enabled, on one of its weekdays, in its minute, not yet handled. -/
def entryIsDue (state : RuntimeState) (now : SchedulerTime) (index : Nat) (entry : SchedulerEntry) : Bool :=
  entry.enabled && (entry.weekdayMask.toUInt32 &&& (1 <<< now.weekday.toUInt32)) != 0 &&
    now.hour.toUInt16 * 60 + now.minute.toUInt16 == entry.hour.toUInt16 * 60 + entry.minute.toUInt16 &&
    state.scheduler.lastHandledOccurrence index != occurrenceFor now

def handleDueEntry (now : SchedulerTime) (index : Nat) (entry : SchedulerEntry) : Service ε Unit := do
  let active ← programServiceIsActive
  let status ← if active then pure .skippedBusy
    else do
      let started ← programServiceStartWithContext drivers entry.program ⟨.scheduled,entry.id⟩
      pure (if started = .ok then .started else .rejected)
  let _ ← commit (stateStoreRecordScheduleOccurrence · index (occurrenceFor now) status)
  pure ()

/-- The entries from `index` on, judged by the snapshot taken before the loop. -/
def processEntries (state : RuntimeState) (now : SchedulerTime) : Nat → List SchedulerEntry → Service ε Unit
  | _, [] => pure ()
  | index, entry :: rest =>
    if entryIsDue state now index entry then do
      handleDueEntry drivers now index entry
      processEntries state now (index + 1) rest
    else processEntries state now (index + 1) rest

def schedulerServiceProcess (now : SchedulerTime) : Service ε IrrigationResult := do
  schedulerServiceLock
  if ¬schedulerTimeIsValid now then do
    schedulerServiceUnlock
    pure .rejected
  else do
    let world ← get
    processEntries drivers world.store now 0 world.entries
    schedulerServiceUnlock
    pure .ok

end Irrigation
