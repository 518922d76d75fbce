import Irrigation.ExecutionStories
import Irrigation.PreOpenDelays
import Irrigation.SoundFirmware
import Irrigation.WaitingPrograms

/-! The times that the store keeps, over a clock that never goes back: the start of a step and the
confirmation of the master valve are past, through every call, request and iteration. -/
namespace Irrigation

/-! ### A poll -/

section Polls

variable {ε : Type} {drivers : Drivers ε} {time : ε → UInt64}

/-- From one world to the next the clock did not go back. -/
def Elapses (time : ε → UInt64) (world next : World ε) : Prop := time world.environment ≤ time next.environment

theorem elapses_devices (clock : Nondecreasing drivers time) : DeviceRelation drivers (Elapses time) where
  refl _ := UInt64.le_refl _
  trans := UInt64.le_trans
  store _ _ := UInt64.le_refl _
  clock world := UInt64.le_trans (clock.before world.environment) (clock.after world.environment)
  device command world := clock.perform command world.environment
  publish _ _ _ := UInt64.le_refl _

theorem elapses_operations (clock : Nondecreasing drivers time) : OperationRelation drivers (Elapses time) where
  toComposes := (elapses_devices clock).toComposes
  masterOpen := (elapses_devices clock).masterValveServiceOpen
  masterProcessTime := (elapses_devices clock).masterValveServiceProcessTime
  masterClose := (elapses_devices clock).masterValveServiceClose
  zoneOpen := (elapses_devices clock).zoneServiceOpen
  zoneClose := (elapses_devices clock).zoneServiceClose
  program _ _ _ := UInt64.le_refl _
  clock := (elapses_devices clock).clock
  publish _ _ := UInt64.le_refl _
  setProgram _ _ _ := UInt64.le_refl _
  lock _ := UInt64.le_refl _
  unlock _ := UInt64.le_refl _

/-- The clock did not go back, and the start of a step that was past still is. -/
structure KeepsPast (time : ε → UInt64) (world next : World ε) : Prop where
  elapses : Elapses time world next
  past : world.store.program.stepStartedAtMs ≤ time world.environment →
    next.store.program.stepStartedAtMs ≤ time next.environment

theorem keepsPast_composes : Composes (KeepsPast time) where
  refl _ := ⟨UInt64.le_refl _,id⟩
  trans front back := ⟨UInt64.le_trans front.elapses back.elapses,fun past => back.past (front.past past)⟩

/-- A call that leaves the start of the step. -/
theorem KeepsPast.of_narrated {world next : World ε} {told : List Announcement} {state : ProgramRuntimeState}
    (elapses : Elapses time world next) (narrated : Narrated world next told state)
    (same : state.stepStartedAtMs = world.store.program.stepStartedAtMs) : KeepsPast time world next := by
  refine ⟨elapses,fun past => ?_⟩
  rw [narrated.state,same]
  exact UInt64.le_trans past elapses

/-- A call that goes on with a reading of the clock. -/
theorem keepsPast_reading {α : Type} (clock : Nondecreasing drivers time) {next : UInt64 → Service ε α}
    (back : ∀ now world, now ≤ time world.environment → KeepsPast time world (next now world).2) :
    Respects (KeepsPast time) (clockNowMs drivers >>= next) := by
  intro world
  have elapses : Elapses time world (clockNowMs drivers world).2 := (elapses_devices clock).clock world
  have read : KeepsPast time world (clockNowMs drivers world).2 :=
    .of_narrated elapses (clockNowMs_narrated drivers world) rfl
  exact keepsPast_composes.trans read (back _ _ (clock.after world.environment))

/-- A change of the store that records a past time, if any. -/
theorem keepsPast_commit {operation : RuntimeState → Except IrrigationResult RuntimeState} {now : UInt64}
    (records : ∀ store next, operation store = .ok next → next.program.stepStartedAtMs = now) {world : World ε}
    (past : now ≤ time world.environment) : KeepsPast time world (commit operation world).2 := by
  cases run : operation world.store with
  | ok store =>
    rw [run_commit_ok run]
    refine ⟨UInt64.le_refl _,fun _ => ?_⟩
    rw [records world.store store run]
    exact past
  | error result =>
    rw [run_commit_error run]
    exact keepsPast_composes.refl world

theorem runningZone_records (stepIndex : Nat) (now : UInt64) (store next : RuntimeState)
    (run : stateStoreSetProgramRunningZone store stepIndex now = .ok next) : next.program.stepStartedAtMs = now := by
  unfold stateStoreSetProgramRunningZone at run
  split at run
  · contradiction
  · cases run
    rfl

theorem waitingPostDelay_records (now : UInt64) (store next : RuntimeState)
    (run : stateStoreSetProgramWaitingPostDelay store now = .ok next) : next.program.stepStartedAtMs = now := by
  unfold stateStoreSetProgramWaitingPostDelay at run
  split at run
  · contradiction
  · cases run
    rfl

variable (clock : Nondecreasing drivers time)

include clock

theorem zoneServiceOpen_keepsPast (zoneId : Option CString) (durationMs : UInt32) :
    Respects (KeepsPast time) (zoneServiceOpen drivers zoneId durationMs) := fun world =>
  .of_narrated ((elapses_operations clock).zoneOpen zoneId durationMs world) (zoneServiceOpen_narrated drivers _ _ world) rfl

theorem zoneServiceClose_keepsPast (zoneId : Option CString) :
    Respects (KeepsPast time) (zoneServiceClose drivers zoneId) := fun world =>
  .of_narrated ((elapses_operations clock).zoneClose zoneId world) (zoneServiceClose_narrated drivers _ world) rfl

theorem publishExecutionEvent_keepsPast (type : EventType) (result : ProgramExecutionResult) (stepIndex : Nat)
    (zoneId : Option CString) :
    Respects (KeepsPast time) (publishExecutionEvent drivers type result stepIndex zoneId) := fun world =>
  .of_narrated ((elapses_operations clock).publishExecutionEvent type result stepIndex zoneId world)
    (publishExecutionEvent_narrated drivers _ _ _ _ world) rfl

theorem fault_keepsPast (result : IrrigationResult) : Respects (KeepsPast time) (fault drivers result) := fun world =>
  .of_narrated ((elapses_operations clock).fault result world) (fault_narrated drivers result world) rfl

theorem openCurrentZone_keepsPast : Respects (KeepsPast time) (openCurrentZone drivers) := by
  refine keepsPast_composes.bind keepsPast_composes.snapshot fun state => ?_
  refine keepsPast_composes.bind keepsPast_composes.get fun world => ?_
  refine keepsPast_composes.bind (zoneServiceOpen_keepsPast clock _ _) fun opened =>
    .ite (fault_keepsPast clock opened) (keepsPast_reading clock fun now reached past => ?_)
  have stored := keepsPast_commit (runningZone_records state.program.currentStepIndex now) past
  refine keepsPast_composes.trans stored ?_
  refine Respects.ite ?_ (keepsPast_composes.pure _) _
  exact keepsPast_composes.bind (publishExecutionEvent_keepsPast clock _ _ _ _) fun _ => keepsPast_composes.pure _

theorem completeCurrentStep_keepsPast (state : RuntimeState) (step : ProgramStep) :
    Respects (KeepsPast time) (completeCurrentStep drivers state step) := by
  refine keepsPast_composes.bind (zoneServiceClose_keepsPast clock _) fun closed =>
    .ite (fault_keepsPast clock closed) ?_
  refine keepsPast_composes.bind keepsPast_composes.get fun world => ?_
  refine keepsPast_composes.bind (publishExecutionEvent_keepsPast clock _ _ _ _) fun _ =>
    keepsPast_reading clock fun now reached past => ?_
  split
  · have stored := keepsPast_commit (runningZone_records (state.program.currentStepIndex + 1) now) past
    exact keepsPast_composes.trans stored (openCurrentZone_keepsPast clock _)
  · exact keepsPast_commit (waitingPostDelay_records now) past

theorem programServiceProcess_keepsPast : Respects (KeepsPast time) (programServiceProcess drivers) := by
  refine keepsPast_composes.bind keepsPast_composes.snapshot fun state => ?_
  have reading {α : Type} {next : UInt64 → Service ε α} (back : ∀ now, Respects (KeepsPast time) (next now)) :
      Respects (KeepsPast time) (clockNowMs drivers >>= next) :=
    keepsPast_reading clock fun now world _ => back now world
  cases state.program.state with
  | waitingMaster =>
    have timed : Respects (KeepsPast time) (masterValveServiceProcessTime drivers) := fun world =>
      .of_narrated ((elapses_operations clock).masterProcessTime world)
        (masterValveServiceProcessTime_narrated drivers world) rfl
    refine keepsPast_composes.bind timed fun result => .ite (fault_keepsPast clock result) ?_
    refine keepsPast_composes.bind keepsPast_composes.snapshot fun reached => ?_
    exact .ite (openCurrentZone_keepsPast clock) (.ite (fault_keepsPast clock _) (keepsPast_composes.pure _))
  | runningZone =>
    refine keepsPast_composes.bind keepsPast_composes.get fun world => reading fun now => ?_
    exact .ite (completeCurrentStep_keepsPast clock _ _) (keepsPast_composes.pure _)
  | waitingPostProgramDelay =>
    refine keepsPast_composes.bind keepsPast_composes.get fun world => reading fun now =>
      .ite ?_ (keepsPast_composes.pure _)
    have closing : Respects (KeepsPast time) (masterValveServiceClose drivers) := fun world =>
      .of_narrated ((elapses_operations clock).masterClose world) (masterValveServiceClose_narrated drivers world) rfl
    have finishing : Respects (KeepsPast time) (finish drivers .completed .completed) := fun world =>
      .of_narrated ((elapses_operations clock).finish .completed .completed world)
        (finish_narrated drivers .completed .completed world (.inl rfl)) rfl
    exact keepsPast_composes.bind closing fun _ =>
      keepsPast_composes.bind finishing fun _ => keepsPast_composes.pure _
  | idle | completed | aborted | fault => exact keepsPast_composes.pure _

end Polls

/-! ### Every operation -/

section Operations

variable {ε : Type} {drivers : Drivers ε} {time : ε → UInt64} {delayMs : UInt32} {world : World ε}

/-- The valve's delay is this, and what the store keeps of the clock is past. -/
structure Clocked (time : ε → UInt64) (delayMs : UInt32) (world : World ε) : Prop where
  delay : world.store.masterValve.preOpenDelayMs = delayMs
  confirmed : world.store.masterValve.openingConfirmedAtMs ≤ time world.environment
  started : world.store.program.stepStartedAtMs ≤ time world.environment

/-- What `Clocked` says of the valve. -/
structure ValveClocked (time : ε → UInt64) (delayMs : UInt32) (store : RuntimeState) (environment : ε) : Prop where
  delay : store.masterValve.preOpenDelayMs = delayMs
  confirmed : store.masterValve.openingConfirmedAtMs ≤ time environment

section Valve

variable {store next : RuntimeState} {before after : ε}

theorem ValveClocked.later (clocked : ValveClocked time delayMs store before) (same : next.masterValve = store.masterValve)
    (later : time before ≤ time after) : ValveClocked time delayMs next after := by
  refine ⟨?_,?_⟩
  · rw [same]
    exact clocked.delay
  · rw [same]
    exact UInt64.le_trans clocked.confirmed later

theorem driven_elapses (clock : Nondecreasing drivers time) {issued : List DriverCall}
    (driven : Driven drivers before issued after) : time before ≤ time after := by
  have ticks {first last : ε} (ticks : Ticks drivers first last) : time first ≤ time last :=
    ticks.keep (fun environment => time first ≤ time environment)
      (fun environment later => UInt64.le_trans later (UInt64.le_trans (clock.before environment) (clock.after environment)))
      (UInt64.le_refl _)
  induction issued generalizing before with
  | nil => exact ticks driven
  | cons call rest ih =>
    obtain ⟨reached,waits,_,later⟩ := driven
    exact UInt64.le_trans (ticks waits) (UInt64.le_trans (clock.perform _ _) (ih later))

theorem valveClocked_invariant (clock : Nondecreasing drivers time) :
    DeviceInvariant drivers fun store _ environment => ValveClocked time delayMs store environment where
  zoneOpening clocked opening driven := clocked.later opening.masterValve (driven_elapses clock driven)
  zoneClosing clocked closing driven := clocked.later closing.masterValve (driven_elapses clock driven)
  masterOpened {store _ before opened read now} clocked _ answered reading := by
    refine ⟨clocked.delay,?_⟩
    have past := clock.after opened
    rw [reading] at past
    exact past
  masterUnopened {_ _ before failed _} clocked _ answered _ := by
    have later := clock.perform .openAndConfirm before
    rw [answered] at later
    exact ⟨clocked.delay,UInt64.le_trans clocked.confirmed later⟩
  masterTimed {store _ before read now} clocked _ reading := by
    have later := UInt64.le_trans (clock.before before) (clock.after before)
    rw [reading] at later
    unfold masterTimed
    split
    · exact ⟨clocked.delay,UInt64.le_trans clocked.confirmed later⟩
    · exact ⟨clocked.delay,UInt64.le_trans clocked.confirmed later⟩
  masterClosing clocked closing driven := by
    have later := driven_elapses clock driven
    cases closing with
    | refused => exact clocked.later rfl later
    | closed => exact ⟨clocked.delay,UInt64.le_iff_toNat_le.mpr (Nat.zero_le _)⟩
    | failed => exact ⟨clocked.delay,UInt64.le_trans clocked.confirmed later⟩
  program _ _ clocked := ⟨clocked.delay,clocked.confirmed⟩
  tick {_ _ environment} clocked :=
    clocked.later rfl (UInt64.le_trans (clock.before environment) (clock.after environment))

end Valve

/-- Everything but a poll leaves the start of the step, or begins anew. -/
theorem operate_started (clock : Nondecreasing drivers time) (command : Command)
    (past : world.store.program.stepStartedAtMs ≤ time world.environment) :
    (operate drivers command world).store.program.stepStartedAtMs ≤ time (operate drivers command world).environment := by
  have elapses : time world.environment ≤ time (operate drivers command world).environment :=
    (elapses_operations clock).operate command world
  have kept {state : ProgramRuntimeState} (stored : (operate drivers command world).store.program = state)
      (same : state.stepStartedAtMs = world.store.program.stepStartedAtMs) :
      (operate drivers command world).store.program.stepStartedAtMs ≤ time (operate drivers command world).environment := by
    rw [stored,same]
    exact UInt64.le_trans past elapses
  have anew {state : ProgramRuntimeState} (stored : (operate drivers command world).store.program = state)
      (zero : state.stepStartedAtMs = 0) :
      (operate drivers command world).store.program.stepStartedAtMs ≤ time (operate drivers command world).environment := by
    rw [stored,zero]
    exact UInt64.le_iff_toNat_le.mpr (Nat.zero_le _)
  obtain ⟨told,state,story,recounted⟩ := operate_story drivers command world
  have stored := recounted.state
  cases story with
  | aside => exact kept stored rfl
  | started _ _ start =>
    cases start with
    | refused => exact kept stored rfl
    | started => exact anew stored rfl
    | failed => exact anew stored rfl
  | polled => exact (programServiceProcess_keepsPast clock world).past past
  | aborted _ abort =>
    cases abort with
    | ended => exact kept stored rfl

theorem Clocked.operate (clocked : Clocked time delayMs world) (clock : Nondecreasing drivers time)
    (command : Command) : Clocked time delayMs (operate drivers command world) := by
  have valve : ValveClocked time delayMs (Irrigation.operate drivers command world).store
      (Irrigation.operate drivers command world).environment :=
    (valveClocked_invariant clock).relation.operate command world ⟨clocked.delay,clocked.confirmed⟩
  exact ⟨valve.delay,valve.confirmed,operate_started clock command clocked.started⟩

theorem Clocked.later (clocked : Clocked time delayMs world) {environment : ε}
    (later : time world.environment ≤ time environment) : Clocked time delayMs { world with environment } :=
  ⟨clocked.delay,UInt64.le_trans clocked.confirmed later,UInt64.le_trans clocked.started later⟩

/-- An edit changes neither the valve nor the program nor the clock. -/
theorem Clocked.rescheduled {next : World ε} (clocked : Clocked time delayMs world) (rescheduled : Rescheduled world next) :
    Clocked time delayMs next := by
  obtain ⟨scheduler,stored⟩ := rescheduled.store
  refine ⟨?_,?_,?_⟩
  · rw [stored]
    exact clocked.delay
  · rw [stored,rescheduled.environment]
    exact clocked.confirmed
  · rw [stored,rescheduled.environment]
    exact clocked.started

end Operations

/-! ### A valve that is waited for -/

section Waiting

/-- A program only waits for a valve that opens or is open. -/
def Awaited (store : RuntimeState) : Prop :=
  store.program.state = .waitingMaster → store.masterValve.state = .opening ∨ store.masterValve.state = .open

/-- A close by hand of the valve that the program waits for. -/
def ClosesAwaited (command : Command) (store : RuntimeState) : Prop :=
  command = .masterClose ∧ store.program.state = .waitingMaster ∧ stateStoreMasterValveCloseIsEligible store

variable {store next : RuntimeState} {result : IrrigationResult} {issued : List DriverCall}

theorem Awaited.unchanged (awaited : Awaited store) (valve : next.masterValve = store.masterValve)
    (program : next.program = store.program) : Awaited next := by
  rw [Awaited,valve,program]
  exact awaited

theorem Awaited.of_state (elsewhere : store.program.state ≠ .waitingMaster) : Awaited store :=
  fun waiting => absurd waiting elsewhere

theorem Awaited.timed (awaited : Awaited store) (nowMs : UInt64) : Awaited (masterTimed store nowMs) := by
  unfold masterTimed
  split
  · exact fun _ => .inr rfl
  · exact awaited

/-- The valve that a program waits for is neither closed nor broken, so that nobody opens it. -/
theorem Awaited.masterOpening (awaited : Awaited store) (opening : MasterOpening store result issued next) :
    Awaited next := by
  have engaged (waiting : store.program.state = .waitingMaster)
      (idle : store.masterValve.state = .closed ∨ store.masterValve.state = .fault) : False := by
    rcases awaited waiting with opens | opened <;> simp_all
  cases opening with
  | refused => exact awaited
  | opening => exact fun _ => .inl rfl
  | failed idle => exact fun waiting => (engaged waiting idle).elim

theorem StepOpening.awaited {stepIndex : Nat} {step : ProgramStep} {reads : UInt64 → Prop}
    (opening : StepOpening store stepIndex step reads issued next) : Awaited next := by
  cases opening with
  | opened => exact .of_state (by simp)
  | failed _ _ exit => exact .of_state (by rw [exit.fault]; simp)

theorem ProgramStarting.awaited (starting : ProgramStarting store result issued next) (awaited : Awaited store) :
    Awaited next := by
  cases starting with
  | refused => exact awaited
  | started _ opening =>
    cases opening with
    | refused failed => exact absurd rfl failed
    | opening => exact fun _ => .inl rfl
    | failed _ notOk => exact absurd rfl notOk
  | failed => exact .of_state (by simp [RuntimeState.terminal])

theorem ProgramProcessing.awaited {program : Program} {nowMs : UInt64} {reads : UInt64 → Prop}
    (processing : ProgramProcessing store program nowMs reads issued next) (awaited : Awaited store) : Awaited next := by
  cases processing with
  | inactive | running | delaying => exact awaited
  | waiting => exact awaited.timed nowMs
  | masterFault _ _ exit | closeFailed _ _ _ _ exit => exact .of_state (by rw [exit.fault]; simp)
  | entering _ _ opening | advancing _ _ _ _ opening => exact opening.awaited
  | finishing => exact .of_state (by simp)
  | completed => exact .of_state (by simp [RuntimeState.terminal])

theorem EntriesHandling.awaited {ε : Type} {drivers : Drivers ε} {world final : World ε} {entries : List SchedulerEntry}
    (handling : EntriesHandling drivers world entries issued final) (awaited : Awaited world.store) :
    Awaited final.store := by
  induction handling with
  | done => exact awaited
  | next handling _ ih =>
    apply ih
    cases handling with
    | passed _ stored => exact awaited.unchanged (by rw [stored]) (by rw [stored])
    | started _ _ _ starting stored => exact (starting.awaited awaited).unchanged (by rw [stored]) (by rw [stored])

/-- A close that does not meet a waiting program. -/
theorem MasterClosing.awaited (closing : MasterClosing store result issued next) (awaited : Awaited store)
    (apart : ¬(store.program.state = .waitingMaster ∧ stateStoreMasterValveCloseIsEligible store)) : Awaited next := by
  cases closing with
  | refused => exact awaited
  | closed eligible => exact .of_state fun waiting => apart ⟨waiting,eligible⟩
  | failed eligible => exact .of_state fun waiting => apart ⟨waiting,eligible⟩

theorem operate_awaited {ε : Type} (drivers : Drivers ε) {command : Command} {world : World ε}
    (awaited : Awaited world.store) (apart : ¬ClosesAwaited command world.store) :
    Awaited (operate drivers command world).store := by
  obtain ⟨issued,outcome,_⟩ := operate_outcome drivers command world
  generalize (operate drivers command world).store = next at outcome
  cases outcome with
  | zoneOpen opening => exact awaited.unchanged opening.masterValve opening.program
  | zoneClose closing => exact awaited.unchanged closing.masterValve closing.program
  | zoneSafeClose closings | zoneProcessTimeouts closings => exact awaited.unchanged closings.masterValve closings.program
  | masterOpen opening => exact awaited.masterOpening opening
  | masterClose closing => exact closing.awaited awaited fun meets => apart ⟨rfl,meets⟩
  | masterProcessTime => exact awaited.timed _
  | startRejected | abortRejected => exact awaited
  | programStart _ _ starting => exact starting.awaited awaited
  | programProcess processing => exact processing.awaited awaited
  | programAbort _ aborting => exact .of_state (by rcases aborting.ends with ended | ended | ended <;> simp [ended])
  | schedulerProcess handling => exact handling.awaited awaited

end Waiting

end Irrigation
