import Irrigation.Operations

/-! Relations between the worlds before and after a service. What the primitives of the
zone and master valve services respect, those services do; what they and the bookkeeping
of programs and schedules respect, every operation does. -/
namespace Irrigation

section Rules

variable {ε α β : Type}

/-- The service leads from every world to a related one. -/
def Respects (related : World ε → World ε → Prop) (service : Service ε α) : Prop :=
  ∀ world, related world (service world).2

structure Composes (related : World ε → World ε → Prop) : Prop where
  refl : ∀ world, related world world
  trans : ∀ {first second third}, related first second → related second third → related first third

variable {related : World ε → World ε → Prop} {first : Service ε α} {next : α → Service ε β}

theorem Composes.bind (composes : Composes related) (front : Respects related first)
    (back : ∀ value, Respects related (next value)) : Respects related (first >>= next) :=
  fun world => composes.trans (front world) (back _ _)

theorem Composes.pure (composes : Composes related) (value : α) : Respects related (pure value : Service ε α) :=
  composes.refl

theorem Composes.snapshot (composes : Composes related) : Respects related (snapshot : Service ε RuntimeState) :=
  composes.refl

theorem Composes.get (composes : Composes related) : Respects related (get : Service ε (World ε)) := composes.refl

theorem Respects.ite {condition : Prop} [Decidable condition] {first second : Service ε α}
    (yes : Respects related first) (no : Respects related second) :
    Respects related (if condition then first else second) := by
  split
  · exact yes
  · exact no

theorem Composes.commit_of (composes : Composes related)
    {operation : RuntimeState → Except IrrigationResult RuntimeState}
    (stored : ∀ world store, operation world.store = .ok store → related world { world with store }) :
    Respects related (commit operation) := by
  intro world
  cases run : operation world.store with
  | ok store =>
    rw [run_commit_ok run]
    exact stored world store run
  | error result =>
    rw [run_commit_error run]
    exact composes.refl world

end Rules

/-! ### Zones and the master valve -/

def EventType.OfZone (type : EventType) : Prop :=
  type = .zoneOpened ∨ type = .zoneClosed ∨ type = .zoneTimedOut ∨ type = .zoneFaulted

section Devices

variable {ε : Type} {drivers : Drivers ε} {related : World ε → World ε → Prop}

/-- What the primitives of the zone and master valve services respect. -/
structure DeviceRelation (drivers : Drivers ε) (related : World ε → World ε → Prop) : Prop
    extends Composes related where
  store : ∀ world store, related world { world with store }
  clock : Respects related (clockNowMs drivers)
  device : ∀ command, Respects related (perform drivers command)
  publish : ∀ event : Event, event.type.OfZone → Respects related (eventBusPublish event)

namespace DeviceRelation

theorem commit (devices : DeviceRelation drivers related)
    (operation : RuntimeState → Except IrrigationResult RuntimeState) : Respects related (commit operation) :=
  devices.commit_of fun world store _ => devices.store world store

theorem publishZoneEvent (devices : DeviceRelation drivers related) {type : EventType} (zone : type.OfZone)
    (zoneId : CString) : Respects related (publishZoneEvent drivers type zoneId) :=
  devices.bind devices.clock fun _ => devices.publish _ zone

theorem recordMasterValveFault (devices : DeviceRelation drivers related) (result : IrrigationResult) :
    Respects related (if result ≠ .ok then do
      let _ ← (Irrigation.commit stateStoreRecordMasterValveFault : Service ε IrrigationResult)
      pure result else pure result) :=
  .ite (devices.bind (devices.commit _) fun _ => devices.pure _) (devices.pure _)

theorem masterValveServiceOpen (devices : DeviceRelation drivers related) :
    Respects related (masterValveServiceOpen drivers) := by
  refine devices.bind devices.snapshot fun state => .ite (devices.pure _) ?_
  refine devices.bind (devices.device _) fun confirmed => .ite ?_ ?_
  · refine devices.bind devices.clock fun now => devices.bind (devices.commit _) fun result => ?_
    exact devices.recordMasterValveFault result
  · exact devices.bind (devices.pure _) fun result => devices.recordMasterValveFault result

theorem masterValveServiceProcessTime (devices : DeviceRelation drivers related) :
    Respects related (masterValveServiceProcessTime drivers) := by
  refine devices.bind devices.snapshot fun state => .ite ?_ (devices.pure _)
  exact devices.bind devices.clock fun _ => devices.bind (devices.commit _) fun _ => devices.pure _

theorem masterValveServiceClose (devices : DeviceRelation drivers related) :
    Respects related (masterValveServiceClose drivers) := by
  refine devices.bind (devices.commit _) fun begun => .ite (devices.pure _) ?_
  refine devices.bind (devices.device _) fun confirmed => .ite ?_ ?_
  · exact devices.bind (devices.commit _) fun result => devices.recordMasterValveFault result
  · exact devices.bind (devices.pure _) fun result => devices.recordMasterValveFault result

theorem faultZone (devices : DeviceRelation drivers related) (zoneId : CString) (outputState : OutputState) :
    Respects related (faultZone drivers zoneId outputState) := by
  refine devices.bind (devices.commit _) fun result => .ite ?_ (devices.pure _)
  exact devices.bind (devices.publishZoneEvent (by simp [EventType.OfZone]) zoneId) fun _ => devices.pure _

theorem zoneServiceActuateOpen (devices : DeviceRelation drivers related) (zoneId : CString) (durationMs : UInt32) :
    Respects related (zoneServiceActuateOpen drivers zoneId durationMs) := by
  refine devices.bind devices.snapshot fun state => ?_
  split
  · exact devices.pure _
  · have faulting : ∀ index output result, Respects related (do
        let _ ← outputDriverSet drivers index false
        let _ ← Irrigation.faultZone drivers zoneId output
        (pure result : Service ε IrrigationResult)) := fun index output result =>
      devices.bind (devices.device _) fun _ => devices.bind (devices.faultZone _ _) fun _ => devices.pure _
    refine devices.bind (devices.device _) fun driven => .ite ?_ ?_
    · exact devices.bind (devices.device _) fun _ => devices.bind (devices.faultZone _ _) fun _ => devices.pure _
    · refine devices.bind devices.clock fun now => devices.bind (devices.commit _) fun result => .ite ?_ ?_
      · exact faulting _ _ _
      · exact devices.bind (devices.publishZoneEvent (by simp [EventType.OfZone]) zoneId) fun _ => devices.pure _

theorem zoneServiceOpen (devices : DeviceRelation drivers related) (zoneId : Option CString) (durationMs : UInt32) :
    Respects related (zoneServiceOpen drivers zoneId durationMs) := by
  cases zoneId with
  | none => exact devices.pure _
  | some zoneId =>
    refine devices.bind devices.snapshot fun state => ?_
    split
    · exact devices.pure _
    · refine .ite (devices.pure _) (.ite (devices.pure _) (.ite (devices.pure _) ?_))
      refine devices.bind (devices.bind devices.snapshot fun _ => devices.pure _) fun precondition =>
        .ite (devices.pure _) ?_
      have actuated : ∀ transition : IrrigationResult, Respects related (if transition ≠ .ok then pure transition
          else Irrigation.zoneServiceActuateOpen drivers zoneId durationMs) := fun transition =>
        .ite (devices.pure _) (devices.zoneServiceActuateOpen zoneId durationMs)
      exact .ite (devices.bind (devices.commit _) actuated) (devices.bind (devices.pure _) actuated)

theorem zoneServiceClose (devices : DeviceRelation drivers related) (zoneId : Option CString) :
    Respects related (zoneServiceClose drivers zoneId) := by
  cases zoneId with
  | none => exact devices.pure _
  | some zoneId =>
    refine devices.bind devices.snapshot fun state => ?_
    split
    · exact devices.pure _
    · refine .ite (devices.pure _) (devices.bind (devices.device _) fun driven => .ite ?_ ?_)
      · exact devices.bind (devices.faultZone _ _) fun _ => devices.pure _
      · refine devices.bind (devices.commit _) fun result => .ite ?_ (devices.pure _)
        exact devices.bind (devices.publishZoneEvent (by simp [EventType.OfZone]) zoneId) fun _ => devices.pure _

end DeviceRelation

end Devices

/-! ### Operations -/

section Operations

variable {ε : Type} {drivers : Drivers ε} {related : World ε → World ε → Prop}

/-- What the zone and master valve services respect, and the bookkeeping around them. -/
structure OperationRelation (drivers : Drivers ε) (related : World ε → World ε → Prop) : Prop
    extends Composes related where
  masterOpen : Respects related (masterValveServiceOpen drivers)
  masterProcessTime : Respects related (masterValveServiceProcessTime drivers)
  masterClose : Respects related (masterValveServiceClose drivers)
  zoneOpen : ∀ zoneId durationMs, Respects related (zoneServiceOpen drivers zoneId durationMs)
  zoneClose : ∀ zoneId, Respects related (zoneServiceClose drivers zoneId)
  program : ∀ world program scheduler, related world { world with store := { world.store with program, scheduler } }
  clock : Respects related (clockNowMs drivers)
  publish : ∀ event : Event, Respects related (eventBusPublish event)
  setProgram : ∀ address context, Respects related (setServiceProgram address context)
  lock : Respects related schedulerServiceLock
  unlock : Respects related schedulerServiceUnlock

namespace OperationRelation

theorem commitProgram (operations : OperationRelation drivers related)
    {operation : RuntimeState → Except IrrigationResult RuntimeState}
    (only : ∀ store next, operation store = .ok next →
      ∃ program scheduler, next = { store with program, scheduler }) :
    Respects related (commit operation) := by
  refine operations.commit_of fun world store accepted => ?_
  obtain ⟨program,scheduler,rfl⟩ := only _ _ accepted
  exact operations.program world program scheduler

theorem runningZone (operations : OperationRelation drivers related) (stepIndex : Nat) (startedAtMs : UInt64) :
    Respects related (commit (stateStoreSetProgramRunningZone · stepIndex startedAtMs)) := by
  refine operations.commitProgram fun store next accepted => ?_
  unfold stateStoreSetProgramRunningZone at accepted
  split at accepted
  · contradiction
  · cases accepted
    exact ⟨_,store.scheduler,rfl⟩

theorem waitingPostDelay (operations : OperationRelation drivers related) (startedAtMs : UInt64) :
    Respects related (commit (stateStoreSetProgramWaitingPostDelay · startedAtMs)) := by
  refine operations.commitProgram fun store next accepted => ?_
  unfold stateStoreSetProgramWaitingPostDelay at accepted
  split at accepted
  · contradiction
  · cases accepted
    exact ⟨_,store.scheduler,rfl⟩

theorem programTerminal (operations : OperationRelation drivers related) (state : ProgramState) :
    Respects related (commit (stateStoreSetProgramTerminal · state)) := by
  refine operations.commitProgram fun store next accepted => ?_
  unfold stateStoreSetProgramTerminal at accepted
  split at accepted
  · contradiction
  · cases accepted
    exact ⟨_,store.scheduler,rfl⟩

theorem startProgram (operations : OperationRelation drivers related) :
    Respects related (commit stateStoreStartProgram) := by
  refine operations.commitProgram fun store next accepted => ?_
  unfold stateStoreStartProgram at accepted
  split at accepted
  · contradiction
  · cases accepted
    exact ⟨_,store.scheduler,rfl⟩

theorem recordScheduleOccurrence (operations : OperationRelation drivers related) (index : Nat)
    (occurrence : UInt64) (status : ScheduleOccurrenceStatus) :
    Respects related (commit (stateStoreRecordScheduleOccurrence · index occurrence status)) := by
  intro world
  obtain ⟨scheduler,recorded⟩ := recordScheduleOccurrence_run world index occurrence status
  rw [recorded]
  exact operations.program world world.store.program scheduler

theorem publishExecutionEvent (operations : OperationRelation drivers related) (type : EventType)
    (result : ProgramExecutionResult) (stepIndex : Nat) (zoneId : Option CString) :
    Respects related (publishExecutionEvent drivers type result stepIndex zoneId) :=
  operations.bind operations.clock fun _ => operations.bind operations.get fun _ => operations.publish _

theorem publishZoneEvent (operations : OperationRelation drivers related) (type : EventType) (zoneId : CString) :
    Respects related (publishZoneEvent drivers type zoneId) :=
  operations.bind operations.clock fun _ => operations.publish _

theorem closeActiveZones (operations : OperationRelation drivers related) (state : RuntimeState)
    (zones : List ZoneRuntimeState) (firstFailure : IrrigationResult) :
    Respects related (closeActiveZones drivers state zones firstFailure) := by
  induction zones generalizing firstFailure with
  | nil => exact operations.pure _
  | cons zone rest ih => exact .ite (operations.bind (operations.zoneClose _) fun _ => ih _) (ih _)

theorem closeTimedOutZones (operations : OperationRelation drivers related) (nowMs : UInt64)
    (zones : List ZoneRuntimeState) : Respects related (closeTimedOutZones drivers nowMs zones) := by
  induction zones with
  | nil => exact operations.pure _
  | cons zone rest ih =>
    refine .ite (operations.bind (operations.zoneClose _) fun result => .ite (operations.pure _) ?_) ih
    exact operations.bind (operations.publishZoneEvent _ _) fun _ => ih

theorem finish (operations : OperationRelation drivers related) (terminalState : ProgramState)
    (historyResult : ProgramExecutionResult) : Respects related (finish drivers terminalState historyResult) :=
  operations.bind (operations.programTerminal _) fun _ => operations.publishExecutionEvent _ _ _ _

theorem fault (operations : OperationRelation drivers related) (result : IrrigationResult) :
    Respects related (fault drivers result) := by
  have finishes : Respects related (do
      Irrigation.finish drivers .fault .fault
      (pure result : Service ε IrrigationResult)) :=
    operations.bind (operations.finish _ _) fun _ => operations.pure _
  refine operations.bind operations.snapshot fun state => .ite ?_ ?_
  · exact operations.bind operations.masterClose fun _ => finishes
  · exact operations.bind (operations.pure _) fun _ => finishes

theorem openCurrentZone (operations : OperationRelation drivers related) :
    Respects related (openCurrentZone drivers) := by
  refine operations.bind operations.snapshot fun state => operations.bind operations.get fun world => ?_
  refine operations.bind (operations.zoneOpen _ _) fun opened => .ite (operations.fault _) ?_
  refine operations.bind operations.clock fun now => operations.bind (operations.runningZone _ _) fun result => .ite ?_ ?_
  · exact operations.bind (operations.publishExecutionEvent _ _ _ _) fun _ => operations.pure _
  · exact operations.pure _

theorem programServiceStartLocked (operations : OperationRelation drivers related) (program : ProgramAddress)
    (context : ProgramStartContext) : Respects related (programServiceStartLocked drivers program context) := by
  refine operations.bind (operations.setProgram _ _) fun _ => operations.bind operations.startProgram fun started =>
    .ite (operations.pure _) ?_
  refine operations.bind (operations.publishExecutionEvent _ _ _ _) fun _ => operations.bind operations.masterOpen
    fun result => .ite ?_ (operations.pure _)
  exact operations.bind (operations.finish _ _) fun _ => operations.pure _

theorem programServiceStartWithContext (operations : OperationRelation drivers related)
    (program : Option ProgramAddress) (context : ProgramStartContext) :
    Respects related (programServiceStartWithContext drivers program context) := by
  cases program with
  | none => exact operations.pure _
  | some address =>
    exact operations.bind operations.get fun world =>
      .ite (operations.pure _) (operations.programServiceStartLocked address context)

theorem processWaitingMaster (operations : OperationRelation drivers related) :
    Respects related (processWaitingMaster drivers) := by
  refine operations.bind operations.masterProcessTime fun result => .ite (operations.fault _) ?_
  refine operations.bind operations.snapshot fun state => .ite operations.openCurrentZone ?_
  exact .ite (operations.fault _) (operations.pure _)

theorem completeCurrentStep (operations : OperationRelation drivers related) (state : RuntimeState)
    (step : ProgramStep) : Respects related (completeCurrentStep drivers state step) := by
  refine operations.bind (operations.zoneClose _) fun closed => .ite (operations.fault _) ?_
  refine operations.bind operations.get fun world => operations.bind (operations.publishExecutionEvent _ _ _ _) fun _ =>
    operations.bind operations.clock fun now => .ite ?_ (operations.waitingPostDelay _)
  exact operations.bind (operations.runningZone _ _) fun _ => operations.openCurrentZone

theorem processRunningZone (operations : OperationRelation drivers related) (state : RuntimeState) :
    Respects related (processRunningZone drivers state) :=
  operations.bind operations.get fun _ => operations.bind operations.clock fun _ =>
    .ite (operations.completeCurrentStep _ _) (operations.pure _)

theorem processWaitingPostProgramDelay (operations : OperationRelation drivers related) (state : RuntimeState) :
    Respects related (processWaitingPostProgramDelay drivers state) := by
  refine operations.bind operations.get fun world => operations.bind operations.clock fun now => .ite ?_ (operations.pure _)
  exact operations.bind operations.masterClose fun _ => operations.bind (operations.finish _ _) fun _ => operations.pure _

theorem programServiceProcess (operations : OperationRelation drivers related) :
    Respects related (programServiceProcess drivers) := by
  refine operations.bind operations.snapshot fun state => ?_
  split
  · exact operations.processWaitingMaster
  · exact operations.processRunningZone _
  · exact operations.processWaitingPostProgramDelay _
  · exact operations.pure _

theorem abortMasterValve (operations : OperationRelation drivers related) (closed : IrrigationResult) :
    Respects related (abortMasterValve drivers closed) := by
  have finishes : ∀ result : IrrigationResult, Respects related (if result = .ok then do
      Irrigation.finish drivers .aborted .aborted
      (pure result : Service ε IrrigationResult) else do
      Irrigation.finish drivers .fault .fault
      pure result) := fun result =>
    .ite (operations.bind (operations.finish _ _) fun _ => operations.pure _)
      (operations.bind (operations.finish _ _) fun _ => operations.pure _)
  refine operations.bind operations.snapshot fun state => .ite ?_ ?_
  · exact operations.bind operations.masterClose finishes
  · exact operations.bind (operations.pure _) finishes

theorem programServiceAbort (operations : OperationRelation drivers related) :
    Respects related (programServiceAbort drivers) := by
  refine operations.bind operations.snapshot fun state => .ite ?_ (operations.pure _)
  refine operations.bind operations.get fun world => .ite ?_ ?_
  · exact operations.bind (operations.zoneClose _) operations.abortMasterValve
  · exact operations.bind (operations.pure _) operations.abortMasterValve

theorem handleDueEntry (operations : OperationRelation drivers related) (now : SchedulerTime) (index : Nat)
    (entry : SchedulerEntry) : Respects related (handleDueEntry drivers now index entry) := by
  have records : ∀ status, Respects related (do
      let _ ← commit (stateStoreRecordScheduleOccurrence · index (occurrenceFor now) status)
      (pure () : Service ε Unit)) := fun status =>
    operations.bind (operations.recordScheduleOccurrence _ _ _) fun _ => operations.pure _
  have active : Respects related (programServiceIsActive : Service ε Bool) :=
    operations.bind operations.snapshot fun _ => operations.pure _
  refine operations.bind active fun busy => .ite ?_ ?_
  · exact operations.bind (operations.pure _) records
  · exact operations.bind (operations.programServiceStartWithContext _ _) fun _ =>
      operations.bind (operations.pure _) records

theorem processEntries (operations : OperationRelation drivers related) (state : RuntimeState) (now : SchedulerTime)
    (entries : List SchedulerEntry) (index : Nat) : Respects related (processEntries drivers state now index entries) := by
  induction entries generalizing index with
  | nil => exact operations.pure _
  | cons entry rest ih => exact .ite (operations.bind (operations.handleDueEntry _ _ _) fun _ => ih _) (ih _)

theorem schedulerServiceProcess (operations : OperationRelation drivers related) (now : SchedulerTime) :
    Respects related (schedulerServiceProcess drivers now) := by
  have unlocks : ∀ result, Respects related (do
      schedulerServiceUnlock
      (pure result : Service ε IrrigationResult)) := fun result =>
    operations.bind operations.unlock fun _ => operations.pure _
  refine operations.bind operations.lock fun _ => .ite (unlocks _) ?_
  exact operations.bind operations.get fun world => operations.bind (operations.processEntries _ _ _ _) fun _ => unlocks _

/-- Every operation respects what its services and its bookkeeping respect. -/
theorem execute (operations : OperationRelation drivers related) (command : Command) :
    Respects related (execute drivers command) := by
  cases command with
  | zoneOpen zoneId durationMs => exact operations.zoneOpen zoneId durationMs
  | zoneClose zoneId => exact operations.zoneClose zoneId
  | zoneSafeClose => exact operations.bind operations.snapshot fun _ => operations.closeActiveZones _ _ _
  | zoneProcessTimeouts =>
    exact operations.bind operations.snapshot fun _ => operations.bind operations.clock fun _ =>
      operations.closeTimedOutZones _ _
  | masterOpen => exact operations.masterOpen
  | masterClose => exact operations.masterClose
  | masterProcessTime => exact operations.masterProcessTime
  | programStart program => exact operations.programServiceStartWithContext program programStartContextManual
  | programProcess => exact operations.programServiceProcess
  | programAbort => exact operations.programServiceAbort
  | schedulerProcess now => exact operations.schedulerServiceProcess now

theorem operate (operations : OperationRelation drivers related) (command : Command) (world : World ε) :
    related world (operate drivers command world) := operations.execute command world

end OperationRelation

end Operations

end Irrigation
