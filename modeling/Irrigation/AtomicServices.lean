import Irrigation.Library.Resumptions
import Irrigation.ServiceSteps

/-! The services as programs whose calls of the store and of the drivers are atomic steps, with
the operation locks that they try. A program that no other task steps into is the service. -/
namespace Irrigation

/-- The task that opens zones, and the one that closes the master valve. -/
inductive ServiceTask where
  | opener | closer
  deriving DecidableEq, Repr

inductive ServiceLock where
  | zone | masterValve | program
  deriving DecidableEq, Repr

/-- What an atomic step calls. The clock is read within the call that it is an argument of. -/
inductive ServiceCall where
  | lock | unlock | read | clock | publish
  | transitionSystem | prepareZoneOpen | openZone | closeZone | recordZoneActuationFault
  | completeMasterValvePreOpenDelay | beginMasterValveClose | completeMasterValveClose | recordMasterValveFault
  | setProgram
  | drive (command : DriverCommand)
  deriving DecidableEq, Repr

/-- The world and the flags of the operation locks; a flag that is set tells who has set it. -/
structure SharedServices (ε : Type) where
  world : World ε
  locks : ServiceLock → Option ServiceTask

abbrev ServiceCode (ε : Type) := Resumptions.Code ServiceCall (SharedServices ε)

namespace Atomic

variable {ε α : Type}

/-- One atomic step. -/
def call (label : ServiceCall) (service : Service ε α) : ServiceCode ε α :=
  .act label (fun shared => { shared with world := (service shared.world).2 })
    fun shared => .done (service shared.world).1

def acquire (task : ServiceTask) (lock : ServiceLock) : ServiceCode ε Bool :=
  .act .lock (fun shared => if (shared.locks lock).isNone
      then { shared with locks := Function.update shared.locks lock (some task) } else shared)
    fun shared => .done (shared.locks lock).isNone

def release (lock : ServiceLock) : ServiceCode ε Unit :=
  .act .unlock (fun shared => { shared with locks := Function.update shared.locks lock none }) fun _ => .done ()

/-- The part of a service that holds its operation lock; without the lock the service is refused. -/
def locking (task : ServiceTask) (lock : ServiceLock) (body : ServiceCode ε IrrigationResult) :
    ServiceCode ε IrrigationResult := do
  let acquired ← acquire task lock
  if acquired then do
    let result ← body
    release lock
    pure result
  else pure .rejected

variable (drivers : Drivers ε)

/-! ### Zone service -/

def faultZone (zoneId : CString) (outputState : OutputState) : ServiceCode ε IrrigationResult := do
  let result ← call .recordZoneActuationFault (commit (stateStoreRecordZoneActuationFault · zoneId outputState))
  if result = .ok then do
    call .publish (publishZoneEvent drivers .zoneFaulted zoneId)
    pure result
  else pure result

/-- `zone_service_open_locked` from the prepared open on. -/
def zoneServiceActuateOpen (zoneId : CString) (durationMs : UInt32) : ServiceCode ε IrrigationResult := do
  let prepared ← call .prepareZoneOpen (do
    let state ← snapshot
    pure (stateStorePrepareZoneOpen state zoneId))
  match prepared with
  | .error result => pure result
  | .ok (outputIndex,configuredDuration) => do
    let driven ← call (.drive (.setOutput outputIndex true)) (outputDriverSet drivers outputIndex true)
    if driven ≠ .ok then do
      let safeOff ← call (.drive (.setOutput outputIndex false)) (outputDriverSet drivers outputIndex false)
      let _ ← faultZone drivers zoneId (if safeOff = .ok then .off else .unknown)
      pure driven
    else do
      let result ← call .openZone (do
        let now ← clockNowMs drivers
        commit (stateStoreOpenZone · zoneId now (if durationMs = 0 then configuredDuration else durationMs)))
      if result ≠ .ok then do
        let _ ← call (.drive (.setOutput outputIndex false)) (outputDriverSet drivers outputIndex false)
        let _ ← faultZone drivers zoneId .unknown
        pure result
      else do
        call .publish (publishZoneEvent drivers .zoneOpened zoneId)
        pure .ok

def zoneServiceOpenLocked (zoneId : Option CString) (durationMs : UInt32) : ServiceCode ε IrrigationResult :=
  match zoneId with
  | none => pure .rejected
  | some zoneId => do
    let found ← call .read (do
      let state ← snapshot
      pure (stateStoreGetZone state zoneId))
    match found with
    | .error result => pure result
    | .ok zone => do
      let state ← call .read snapshot
      if zone.state ≠ .idle then pure .invalidState
      else if state.masterValve.state ≠ .open then pure .invalidState
      else if hasActiveOrUnknownOutput state then pure .invalidState
      else do
        let precondition ← call .read masterValveServiceCheckZoneStart
        if precondition ≠ .ok then pure precondition
        else do
          let transition ← if state.systemState = .ready
            then call .transitionSystem (commit (stateStoreTransitionSystem · .manual))
            else pure .ok
          if transition ≠ .ok then pure transition
          else zoneServiceActuateOpen drivers zoneId durationMs

def zoneServiceOpen (task : ServiceTask) (zoneId : Option CString) (durationMs : UInt32) :
    ServiceCode ε IrrigationResult :=
  locking task .zone (zoneServiceOpenLocked drivers zoneId durationMs)

def zoneServiceCloseLocked (zoneId : Option CString) : ServiceCode ε IrrigationResult :=
  match zoneId with
  | none => pure .rejected
  | some zoneId => do
    let found ← call .read (do
      let state ← snapshot
      pure (stateStoreGetZone state zoneId))
    match found with
    | .error result => pure result
    | .ok zone =>
      if zone.state ≠ .open ∧ zone.state ≠ .fault then pure .invalidState
      else do
        let driven ← call (.drive (.setOutput zone.outputIndex false)) (outputDriverSet drivers zone.outputIndex false)
        if driven ≠ .ok then do
          let _ ← faultZone drivers zoneId .unknown
          pure driven
        else do
          let result ← call .closeZone (commit (stateStoreCloseZone · zoneId))
          if result = .ok then do
            call .publish (publishZoneEvent drivers .zoneClosed zoneId)
            pure result
          else pure result

def zoneServiceClose (task : ServiceTask) (zoneId : Option CString) : ServiceCode ε IrrigationResult :=
  locking task .zone (zoneServiceCloseLocked drivers zoneId)

/-! ### Master valve service -/

def masterValveServiceProcessTime (task : ServiceTask) : ServiceCode ε IrrigationResult :=
  locking task .masterValve do
    let state ← call .read snapshot
    if state.masterValve.state = .opening then do
      let result ← call .completeMasterValvePreOpenDelay (do
        let now ← clockNowMs drivers
        commit (stateStoreCompleteMasterValvePreOpenDelay · now))
      pure (if result = .timeout then .ok else result)
    else pure .ok

def masterValveServiceCloseLocked : ServiceCode ε IrrigationResult := do
  let begun ← call .beginMasterValveClose (commit stateStoreBeginMasterValveClose)
  if begun ≠ .ok then pure begun
  else do
    let confirmed ← call (.drive .closeAndConfirm) (masterValveDriverCloseAndConfirm drivers)
    let result ← if confirmed = .ok
      then call .completeMasterValveClose (commit stateStoreCompleteMasterValveClose)
      else pure confirmed
    if result ≠ .ok then do
      let _ ← call .recordMasterValveFault (commit stateStoreRecordMasterValveFault)
      pure result
    else pure result

def masterValveServiceClose (task : ServiceTask) : ServiceCode ε IrrigationResult :=
  locking task .masterValve (masterValveServiceCloseLocked drivers)

/-- `master_valve_service_state`. -/
def masterValveServiceState : ServiceCode ε MasterValveState :=
  call .read do
    let state ← snapshot
    pure state.masterValve.state

/-! ### Program service -/

def finish (terminalState : ProgramState) (historyResult : ProgramExecutionResult) : ServiceCode ε Unit := do
  let _ ← call .setProgram (commit (stateStoreSetProgramTerminal · terminalState))
  call .publish (publishExecutionEvent drivers .programExecutionTerminated historyResult 0 none)

def fault (task : ServiceTask) (result : IrrigationResult) : ServiceCode ε IrrigationResult := do
  let state ← call .read snapshot
  let _ ← if stateStoreMasterValveCloseIsEligible state then masterValveServiceClose drivers task else pure .ok
  finish drivers .fault .fault
  pure result

def openCurrentZone (task : ServiceTask) : ServiceCode ε IrrigationResult := do
  let world ← call .read get
  let step := world.currentProgram.step world.store.program.currentStepIndex
  let opened ← zoneServiceOpen drivers task step.zoneId step.durationMs
  if opened ≠ .ok then fault drivers task opened
  else do
    let result ← call .setProgram (do
      let now ← clockNowMs drivers
      commit (stateStoreSetProgramRunningZone · world.store.program.currentStepIndex now))
    if result = .ok then do
      call .publish (publishExecutionEvent drivers .programExecutionStepStarted .fault
        world.store.program.currentStepIndex step.zoneId)
      pure result
    else pure result

def processWaitingMaster (task : ServiceTask) : ServiceCode ε IrrigationResult := do
  let result ← masterValveServiceProcessTime drivers task
  if result ≠ .ok then fault drivers task result
  else do
    let opened ← masterValveServiceState
    if opened = .open then openCurrentZone drivers task
    else do
      let broken ← masterValveServiceState
      if broken = .fault then fault drivers task .invalidState
      else pure result

def completeCurrentStep (task : ServiceTask) (state : RuntimeState) (step : ProgramStep) :
    ServiceCode ε IrrigationResult := do
  let closed ← zoneServiceClose drivers task step.zoneId
  if closed ≠ .ok then fault drivers task closed
  else do
    let world ← call .read get
    call .publish (publishExecutionEvent drivers .programExecutionStepCompleted .fault
      state.program.currentStepIndex step.zoneId)
    let now ← call .clock (clockNowMs drivers)
    if state.program.currentStepIndex + 1 < world.currentProgram.steps.length then do
      let _ ← call .setProgram (commit (stateStoreSetProgramRunningZone · (state.program.currentStepIndex + 1) now))
      openCurrentZone drivers task
    else call .setProgram (commit (stateStoreSetProgramWaitingPostDelay · now))

def processRunningZone (task : ServiceTask) (program : Program) (state : RuntimeState) :
    ServiceCode ε IrrigationResult := do
  let step := program.step state.program.currentStepIndex
  let now ← call .clock (clockNowMs drivers)
  if now - state.program.stepStartedAtMs ≥ step.durationMs.toUInt64
  then completeCurrentStep drivers task state step
  else pure .ok

def processWaitingPostProgramDelay (task : ServiceTask) (program : Program) (state : RuntimeState) :
    ServiceCode ε IrrigationResult := do
  let now ← call .clock (clockNowMs drivers)
  if now - state.program.stepStartedAtMs ≥ program.postProgramDelayMs.toUInt64 then do
    let result ← masterValveServiceClose drivers task
    finish drivers .completed .completed
    pure result
  else pure .ok

/-- `program_service_process`; the snapshot is taken once the lock is held. -/
def programServiceProcess (task : ServiceTask) : ServiceCode ε IrrigationResult := do
  let active ← call .read programServiceIsActive
  if active then
    locking task .program do
      let world ← call .read get
      match world.store.program.state with
      | .waitingMaster => processWaitingMaster drivers task
      | .runningZone => processRunningZone drivers task world.currentProgram world.store
      | .waitingPostProgramDelay => processWaitingPostProgramDelay drivers task world.currentProgram world.store
      | _ => pure .ok
  else pure .rejected

end Atomic

/-! ### Programs that run alone -/

/-- Alone, the program does what the service does, and leaves the locks as they were. -/
def Agrees {ε α : Type} (locks : ServiceLock → Option ServiceTask) (code : ServiceCode ε α) (service : Service ε α)
    (world : World ε) : Prop :=
  code.run ⟨world,locks⟩ = ((service world).1,⟨(service world).2,locks⟩)

namespace Agrees

variable {ε α β : Type} {locks : ServiceLock → Option ServiceTask} {world : World ε}

theorem pure (value : α) : Agrees locks (pure value) (pure value) world := rfl

theorem call (label : ServiceCall) (service : Service ε α) : Agrees locks (Atomic.call label service) service world := rfl

theorem bind {code : ServiceCode ε α} {service : Service ε α} {rest : α → ServiceCode ε β} {next : α → Service ε β}
    (first : Agrees locks code service world)
    (second : ∀ value after, Agrees locks (rest value) (next value) after) :
    Agrees locks (code >>= rest) (service >>= next) world := by
  unfold Agrees at first ⊢
  rw [Resumptions.Code.run_bind,first,run_bind]
  exact second _ _

/-- A call that reads only goes with no call of the service. -/
theorem read {label : ServiceCall} {service : Service ε α} {rest : α → ServiceCode ε β} {next : Service ε β} {value : α}
    (reads : service world = (value,world)) (second : Agrees locks (rest value) next world) :
    Agrees locks (Atomic.call label service >>= rest) next world := by
  have run : (Atomic.call label service >>= rest).run ⟨world,locks⟩ =
      (rest (service world).1).run ⟨(service world).2,locks⟩ := rfl
  rw [Agrees,run,reads]
  exact second

theorem snapshot {code : ServiceCode ε α} {next : RuntimeState → Service ε α}
    (second : Agrees locks code (next world.store) world) : Agrees locks code (snapshot >>= next) world := second

theorem get {code : ServiceCode ε α} {next : World ε → Service ε α} (second : Agrees locks code (next world) world) :
    Agrees locks code (get >>= next) world := second

/-- Two calls of the service that are one step of the program. -/
theorem joined {code : ServiceCode ε α} {γ : Type} {first : Service ε β} {second : β → Service ε γ}
    {third : γ → Service ε α} (together : Agrees locks code ((first >>= second) >>= third) world) :
    Agrees locks code (first >>= fun value => second value >>= third) world := together

theorem ite {condition : Prop} [Decidable condition] {first second : ServiceCode ε α} {one other : Service ε α}
    (holds : Agrees locks first one world) (fails : Agrees locks second other world) :
    Agrees locks (if condition then first else second) (if condition then one else other) world := by
  split
  · exact holds
  · exact fails

theorem locking {task : ServiceTask} {lock : ServiceLock} {body : ServiceCode ε IrrigationResult}
    {service : Service ε IrrigationResult} (free : locks lock = none)
    (held : Agrees (Function.update locks lock (some task)) body service world) :
    Agrees locks (Atomic.locking task lock body) service world := by
  have acquired : (Atomic.acquire task lock : ServiceCode ε Bool).run ⟨world,locks⟩ =
      (true,⟨world,Function.update locks lock (some task)⟩) := by
    simp [Atomic.acquire,Resumptions.Code.run,free]
  have released : ∀ after : World ε, (Atomic.release lock : ServiceCode ε Unit).run
      ⟨after,Function.update locks lock (some task)⟩ = ((),⟨after,locks⟩) := by
    intro after
    simp [Atomic.release,Resumptions.Code.run,← free]
  unfold Agrees at held ⊢
  simp only [Atomic.locking,Resumptions.Code.run_bind,acquired,if_true,held,released,Resumptions.Code.run_pure]

end Agrees

section Alone

variable {ε : Type} (drivers : Drivers ε) {locks : ServiceLock → Option ServiceTask} {world : World ε}

theorem faultZone_agrees (zoneId : CString) (outputState : OutputState) :
    Agrees locks (Atomic.faultZone drivers zoneId outputState) (faultZone drivers zoneId outputState) world := by
  refine .bind (.call _ _) fun result after => .ite ?_ (.pure _)
  exact .bind (.call _ _) fun _ _ => .pure _

theorem zoneServiceActuateOpen_agrees (zoneId : CString) (durationMs : UInt32) :
    Agrees locks (Atomic.zoneServiceActuateOpen drivers zoneId durationMs)
      (zoneServiceActuateOpen drivers zoneId durationMs) world := by
  refine .read rfl (.snapshot ?_)
  cases stateStorePrepareZoneOpen world.store zoneId with
  | error result => exact .pure _
  | ok prepared =>
    refine .bind (.call _ _) fun driven after => .ite ?_ ?_
    · refine .bind (.call _ _) fun safeOff later => ?_
      exact .bind (faultZone_agrees drivers zoneId _) fun _ _ => .pure _
    · refine .joined (.bind (.call _ _) fun result after => .ite ?_ ?_)
      · refine .bind (.call _ _) fun _ later => ?_
        exact .bind (faultZone_agrees drivers zoneId _) fun _ _ => .pure _
      · exact .bind (.call _ _) fun _ _ => .pure _

theorem zoneServiceOpen_agrees (task : ServiceTask) (free : locks .zone = none) (zoneId : Option CString)
    (durationMs : UInt32) :
    Agrees locks (Atomic.zoneServiceOpen drivers task zoneId durationMs) (zoneServiceOpen drivers zoneId durationMs)
      world := by
  apply Agrees.locking free
  cases zoneId with
  | none => exact .pure _
  | some zoneId =>
    refine .read rfl (.snapshot ?_)
    cases stateStoreGetZone world.store zoneId with
    | error result => exact .pure _
    | ok zone =>
      refine .read rfl (.ite (.pure _) (.ite (.pure _) (.ite (.pure _) ?_)))
      refine .bind (.call _ _) fun precondition after => .ite (.pure _) ?_
      have actuates : ∀ transition later, Agrees (Function.update locks .zone (some task))
          (if transition ≠ .ok then Pure.pure transition else Atomic.zoneServiceActuateOpen drivers zoneId durationMs)
          (if transition ≠ .ok then Pure.pure transition else zoneServiceActuateOpen drivers zoneId durationMs) later :=
        fun _ _ => .ite (.pure _) (zoneServiceActuateOpen_agrees drivers zoneId durationMs)
      exact .ite (.bind (.call _ _) actuates) (.bind (.pure _) actuates)

theorem zoneServiceClose_agrees (task : ServiceTask) (free : locks .zone = none) (zoneId : Option CString) :
    Agrees locks (Atomic.zoneServiceClose drivers task zoneId) (zoneServiceClose drivers zoneId) world := by
  apply Agrees.locking free
  cases zoneId with
  | none => exact .pure _
  | some zoneId =>
    refine .read rfl (.snapshot ?_)
    cases stateStoreGetZone world.store zoneId with
    | error result => exact .pure _
    | ok zone =>
      refine .ite (.pure _) (.bind (.call _ _) fun driven after => .ite ?_ ?_)
      · exact .bind (faultZone_agrees drivers zoneId _) fun _ _ => .pure _
      · refine .bind (.call _ _) fun result later => .ite ?_ (.pure _)
        exact .bind (.call _ _) fun _ _ => .pure _

theorem masterValveServiceProcessTime_agrees (task : ServiceTask) (free : locks .masterValve = none) :
    Agrees locks (Atomic.masterValveServiceProcessTime drivers task) (masterValveServiceProcessTime drivers) world := by
  refine .locking free (.read rfl (.snapshot (.ite ?_ (.pure _))))
  exact .joined (.bind (.call _ _) fun _ _ => .pure _)

theorem masterValveServiceClose_agrees (task : ServiceTask) (free : locks .masterValve = none) :
    Agrees locks (Atomic.masterValveServiceClose drivers task) (masterValveServiceClose drivers) world := by
  refine .locking free (.bind (.call _ _) fun begun after => .ite (.pure _) ?_)
  have ends : ∀ (result : IrrigationResult) (later : World ε), Agrees (Function.update locks .masterValve (some task))
      (if result ≠ .ok then do
        let _ ← Atomic.call .recordMasterValveFault (commit stateStoreRecordMasterValveFault)
        Pure.pure result
      else Pure.pure result)
      (if result ≠ .ok then do
        let _ ← commit stateStoreRecordMasterValveFault
        Pure.pure result
      else Pure.pure result) later :=
    fun _ _ => .ite (.bind (.call _ _) fun _ _ => .pure _) (.pure _)
  exact .bind (.call _ _) fun confirmed closed => .ite (.bind (.call _ _) ends) (ends _ _)

theorem finish_agrees (terminalState : ProgramState) (historyResult : ProgramExecutionResult) :
    Agrees locks (Atomic.finish drivers terminalState historyResult) (finish drivers terminalState historyResult)
      world :=
  .bind (.call _ _) fun _ _ => .call _ _

variable (task : ServiceTask) (zoneFree : locks .zone = none) (masterFree : locks .masterValve = none)

include masterFree in
theorem fault_agrees (result : IrrigationResult) :
    Agrees locks (Atomic.fault drivers task result) (fault drivers result) world := by
  have finishes : ∀ (closed : IrrigationResult) (later : World ε), Agrees locks
      (do
        Atomic.finish drivers .fault .fault
        Pure.pure result)
      (do
        finish drivers .fault .fault
        Pure.pure result) later :=
    fun _ _ => .bind (finish_agrees drivers _ _) fun _ _ => .pure _
  refine .read rfl (.snapshot (.ite ?_ (finishes .ok _)))
  exact .bind (masterValveServiceClose_agrees drivers task masterFree) finishes

include zoneFree masterFree

theorem openCurrentZone_agrees : Agrees locks (Atomic.openCurrentZone drivers task) (openCurrentZone drivers) world := by
  refine .read rfl (.snapshot (.get ?_))
  refine .bind (zoneServiceOpen_agrees drivers task zoneFree _ _) fun opened after => .ite ?_ ?_
  · exact fault_agrees drivers task masterFree opened
  · refine .joined (.bind (.call _ _) fun result later => .ite ?_ (.pure _))
    exact .bind (.call _ _) fun _ _ => .pure _

theorem processWaitingMaster_agrees :
    Agrees locks (Atomic.processWaitingMaster drivers task) (processWaitingMaster drivers) world := by
  refine .bind (masterValveServiceProcessTime_agrees drivers task masterFree) fun result after => .ite ?_ ?_
  · exact fault_agrees drivers task masterFree result
  · refine .snapshot (.read rfl (.ite (openCurrentZone_agrees drivers task zoneFree masterFree) ?_))
    exact .read rfl (.ite (fault_agrees drivers task masterFree _) (.pure _))

theorem completeCurrentStep_agrees (state : RuntimeState) (step : ProgramStep) :
    Agrees locks (Atomic.completeCurrentStep drivers task state step) (completeCurrentStep drivers state step) world := by
  refine .bind (zoneServiceClose_agrees drivers task zoneFree _) fun closed after => .ite ?_ ?_
  · exact fault_agrees drivers task masterFree closed
  · refine .read rfl (.get (.bind (.call _ _) fun _ published => .bind (.call _ _) fun now read => .ite ?_ (.call _ _)))
    exact .bind (.call _ _) fun _ _ => openCurrentZone_agrees drivers task zoneFree masterFree

theorem programServiceProcess_agrees (programFree : locks .program = none) :
    Agrees locks (Atomic.programServiceProcess drivers task) (programServiceProcess drivers) world := by
  have zone : Function.update locks .program (some task) .zone = none := zoneFree
  have master : Function.update locks .program (some task) .masterValve = none := masterFree
  refine .read rfl (.snapshot ?_)
  cases state : world.store.program.state with
  | waitingMaster =>
    simp only [programIsActive,state,if_true]
    refine .locking programFree (.read rfl ?_)
    simp only [state]
    exact processWaitingMaster_agrees drivers task zone master
  | runningZone =>
    simp only [programIsActive,state,if_true]
    refine .locking programFree (.read rfl ?_)
    simp only [state]
    refine .get (.bind (.call _ _) fun now after => .ite ?_ (.pure _))
    exact completeCurrentStep_agrees drivers task zone master _ _
  | waitingPostProgramDelay =>
    simp only [programIsActive,state,if_true]
    refine .locking programFree (.read rfl ?_)
    simp only [state]
    refine .get (.bind (.call _ _) fun now after => .ite ?_ (.pure _))
    refine .bind (masterValveServiceClose_agrees drivers task master) fun result closed => ?_
    exact .bind (finish_agrees drivers _ _) fun _ _ => .pure _
  | _ =>
    simp only [programIsActive,state,Bool.false_eq_true,if_false]
    exact .pure _

end Alone

end Irrigation
