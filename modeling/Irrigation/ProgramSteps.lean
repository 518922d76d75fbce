import Irrigation.ServiceSteps

/-! What a program start, a poll, an abort and a scheduler tick can do to the store,
case by case over the zone and master valve cases. -/
namespace Irrigation

def RuntimeState.terminal (store : RuntimeState) (state : ProgramState) : RuntimeState :=
  { store with program := { store.program with state } }

/-- `fault`: the master valve is closed if it may be. -/
inductive FaultExit (store : RuntimeState) : List DriverCall → RuntimeState → Prop
  | exit {result : IrrigationResult} {issued : List DriverCall} {after : RuntimeState}
      (closing : MasterClosing store result issued after) : FaultExit store issued (after.terminal .fault)

/-- `open_current_zone` for a step of the program. -/
inductive StepOpening (store : RuntimeState) (stepIndex : Nat) (step : ProgramStep) (reads : UInt64 → Prop) :
    List DriverCall → RuntimeState → Prop
  | opened {issued : List DriverCall} {middle : RuntimeState}
      (opening : ZoneOpening store step.zoneId step.durationMs reads .ok issued middle) {startedAtMs : UInt64}
      (now : reads startedAtMs) :
      StepOpening store stepIndex step reads issued
        { middle with program := ⟨.runningZone,stepIndex,startedAtMs⟩ }
  | failed {result : IrrigationResult} {first later : List DriverCall} {middle final : RuntimeState}
      (opening : ZoneOpening store step.zoneId step.durationMs reads result first middle)
      (notOk : result ≠ .ok) (exit : FaultExit middle later final) : StepOpening store stepIndex step reads (first ++ later) final

theorem StepOpening.imp {store next : RuntimeState} {stepIndex : Nat} {step : ProgramStep}
    {reads readsMore : UInt64 → Prop} {issued : List DriverCall} (more : ∀ now, reads now → readsMore now)
    (opening : StepOpening store stepIndex step reads issued next) :
    StepOpening store stepIndex step readsMore issued next := by
  cases opening with
  | opened opening now => exact .opened (opening.imp more) (more _ now)
  | failed opening notOk exit => exact .failed (opening.imp more) notOk exit

/-- A start that holds the operation lock. -/
inductive ProgramStarting (store : RuntimeState) : IrrigationResult → List DriverCall → RuntimeState → Prop
  | refused {result : IrrigationResult} (failed : result ≠ .ok) (busy : store.program.state ≠ .idle ∧
      store.program.state ≠ .completed ∧ store.program.state ≠ .aborted) : ProgramStarting store result [] store
  | started (free : store.program.state = .idle ∨ store.program.state = .completed ∨
      store.program.state = .aborted) {issued : List DriverCall} {next : RuntimeState}
      (opening : MasterOpening { store with program := ⟨.waitingMaster,0,0⟩ } .ok issued next) :
      ProgramStarting store .ok issued next
  | failed (free : store.program.state = .idle ∨ store.program.state = .completed ∨
      store.program.state = .aborted) {result : IrrigationResult} {issued : List DriverCall} {next : RuntimeState}
      (opening : MasterOpening { store with program := ⟨.waitingMaster,0,0⟩ } result issued next)
      (notOk : result ≠ .ok) : ProgramStarting store result issued (next.terminal .fault)

/-- A poll of the program. -/
inductive ProgramProcessing (store : RuntimeState) (program : Program) (nowMs : UInt64)
    (reads : UInt64 → Prop) : List DriverCall → RuntimeState → Prop
  | inactive (idle : programIsActive store = false) : ProgramProcessing store program nowMs reads [] store
  | waiting (state : store.program.state = .waitingMaster)
      (notOpen : (masterTimed store nowMs).masterValve.state ≠ .open)
      (notFault : (masterTimed store nowMs).masterValve.state ≠ .fault) :
      ProgramProcessing store program nowMs reads [] (masterTimed store nowMs)
  | masterFault (state : store.program.state = .waitingMaster)
      (broken : (masterTimed store nowMs).masterValve.state = .fault) {issued : List DriverCall}
      {next : RuntimeState} (exit : FaultExit (masterTimed store nowMs) issued next) :
      ProgramProcessing store program nowMs reads issued next
  | entering (state : store.program.state = .waitingMaster)
      (masterOpen : (masterTimed store nowMs).masterValve.state = .open) {issued : List DriverCall}
      {next : RuntimeState} (opening : StepOpening (masterTimed store nowMs) store.program.currentStepIndex
        (program.step store.program.currentStepIndex) reads issued next) :
      ProgramProcessing store program nowMs reads issued next
  | running (state : store.program.state = .runningZone)
      (early : ¬nowMs - store.program.stepStartedAtMs ≥
        (program.step store.program.currentStepIndex).durationMs.toUInt64) :
      ProgramProcessing store program nowMs reads [] store
  | closeFailed (state : store.program.state = .runningZone)
      (elapsed : nowMs - store.program.stepStartedAtMs ≥
        (program.step store.program.currentStepIndex).durationMs.toUInt64)
      {result : IrrigationResult} {first later : List DriverCall} {middle next : RuntimeState}
      (closing : ZoneClosing store (program.step store.program.currentStepIndex).zoneId result first middle)
      (notOk : result ≠ .ok) (exit : FaultExit middle later next) :
      ProgramProcessing store program nowMs reads (first ++ later) next
  | advancing (state : store.program.state = .runningZone)
      (elapsed : nowMs - store.program.stepStartedAtMs ≥
        (program.step store.program.currentStepIndex).durationMs.toUInt64)
      {first later : List DriverCall} {middle next : RuntimeState}
      (closing : ZoneClosing store (program.step store.program.currentStepIndex).zoneId .ok first middle)
      (more : store.program.currentStepIndex + 1 < program.steps.length) {startedAtMs : UInt64}
      (opening : StepOpening
        { middle with program := ⟨.runningZone,store.program.currentStepIndex + 1,startedAtMs⟩ }
        (store.program.currentStepIndex + 1) (program.step (store.program.currentStepIndex + 1)) reads later next) :
      ProgramProcessing store program nowMs reads (first ++ later) next
  | finishing (state : store.program.state = .runningZone)
      (elapsed : nowMs - store.program.stepStartedAtMs ≥
        (program.step store.program.currentStepIndex).durationMs.toUInt64)
      {issued : List DriverCall} {middle : RuntimeState}
      (closing : ZoneClosing store (program.step store.program.currentStepIndex).zoneId .ok issued middle)
      (last : ¬store.program.currentStepIndex + 1 < program.steps.length) {startedAtMs : UInt64}
      (now : reads startedAtMs) :
      ProgramProcessing store program nowMs reads issued { middle with program :=
        ⟨.waitingPostProgramDelay,store.program.currentStepIndex,startedAtMs⟩ }
  | delaying (state : store.program.state = .waitingPostProgramDelay)
      (early : ¬nowMs - store.program.stepStartedAtMs ≥ program.postProgramDelayMs.toUInt64) :
      ProgramProcessing store program nowMs reads [] store
  | completed (state : store.program.state = .waitingPostProgramDelay)
      (elapsed : nowMs - store.program.stepStartedAtMs ≥ program.postProgramDelayMs.toUInt64)
      {result : IrrigationResult} {issued : List DriverCall} {middle : RuntimeState}
      (closing : MasterClosing store result issued middle) :
      ProgramProcessing store program nowMs reads issued (middle.terminal .completed)

theorem ProgramProcessing.imp {store next : RuntimeState} {program : Program} {nowMs : UInt64}
    {reads readsMore : UInt64 → Prop} {issued : List DriverCall} (more : ∀ now, reads now → readsMore now)
    (processing : ProgramProcessing store program nowMs reads issued next) :
    ProgramProcessing store program nowMs readsMore issued next := by
  cases processing with
  | inactive idle => exact .inactive idle
  | waiting state notOpen notFault => exact .waiting state notOpen notFault
  | masterFault state broken exit => exact .masterFault state broken exit
  | entering state masterOpen opening => exact .entering state masterOpen (opening.imp more)
  | running state early => exact .running state early
  | closeFailed state elapsed closing notOk exit => exact .closeFailed state elapsed closing notOk exit
  | advancing state elapsed closing hasMore opening =>
    exact .advancing state elapsed closing hasMore (opening.imp more)
  | finishing state elapsed closing last now => exact .finishing state elapsed closing last (more _ now)
  | delaying state early => exact .delaying state early
  | completed state elapsed closing => exact .completed state elapsed closing

/-- The zone part of an abort: only a running step has a zone to close. -/
inductive AbortZone (store : RuntimeState) (zoneId : Option CString) :
    IrrigationResult → List DriverCall → RuntimeState → Prop
  | running (state : store.program.state = .runningZone) {result : IrrigationResult}
      {issued : List DriverCall} {next : RuntimeState} (closing : ZoneClosing store zoneId result issued next) :
      AbortZone store zoneId result issued next
  | skipped (state : store.program.state ≠ .runningZone) : AbortZone store zoneId .ok [] store

inductive ProgramAborting (store : RuntimeState) (zoneId : Option CString) : List DriverCall → RuntimeState → Prop
  | zoneFailed {result : IrrigationResult} {issued : List DriverCall} {middle : RuntimeState}
      (zone : AbortZone store zoneId result issued middle) (notOk : result ≠ .ok) :
      ProgramAborting store zoneId issued (middle.terminal .fault)
  | closedMaster {issued : List DriverCall} {middle : RuntimeState} (zone : AbortZone store zoneId .ok issued middle)
      (closed : middle.masterValve.state = .closed) : ProgramAborting store zoneId issued (middle.terminal .aborted)
  | closingMaster {first later : List DriverCall} {middle after : RuntimeState} {result : IrrigationResult}
      (zone : AbortZone store zoneId .ok first middle) (notClosed : middle.masterValve.state ≠ .closed)
      (closing : MasterClosing middle result later after) :
      ProgramAborting store zoneId (first ++ later) (after.terminal (if result = .ok then .aborted else .fault))

theorem inactive_iff {store : RuntimeState} : programIsActive store = false ↔ store.program.state = .idle ∨
    store.program.state = .completed ∨ store.program.state = .aborted ∨ store.program.state = .fault := by
  cases state : store.program.state <;> simp [programIsActive,state]

theorem FaultExit.fault {store next : RuntimeState} {issued : List DriverCall} (exit : FaultExit store issued next) :
    next.program.state = .fault := by
  cases exit with
  | exit => rfl

/-- An abort ends the program. -/
theorem ProgramAborting.ends {store next : RuntimeState} {zoneId : Option CString} {issued : List DriverCall}
    (aborting : ProgramAborting store zoneId issued next) :
    next.program.state = .completed ∨ next.program.state = .aborted ∨ next.program.state = .fault := by
  cases aborting with
  | zoneFailed => exact .inr (.inr rfl)
  | closedMaster => exact .inr (.inl rfl)
  | closingMaster =>
    simp only [RuntimeState.terminal]
    split <;> simp

theorem ZoneOpening.program {store next : RuntimeState} {zoneId : Option CString} {durationMs : UInt32}
    {reads : UInt64 → Prop} {result : IrrigationResult} {issued : List DriverCall}
    (opening : ZoneOpening store zoneId durationMs reads result issued next) : next.program = store.program := by
  cases opening <;> rfl

theorem closedZone_program (store : RuntimeState) (zone : ZoneRuntimeState) :
    (closedZone store zone).program = store.program := by
  simp only [closedZone]
  split <;> rfl

theorem ZoneClosing.program {store next : RuntimeState} {zoneId : Option CString}
    {result : IrrigationResult} {issued : List DriverCall} (closing : ZoneClosing store zoneId result issued next) :
    next.program = store.program := by
  cases closing with
  | refused => rfl
  | closed => exact closedZone_program store _
  | failed => rfl

theorem ZoneClosings.program {store next : RuntimeState} {issued : List DriverCall}
    (closings : ZoneClosings store issued next) : next.program = store.program := by
  induction closings with
  | done => rfl
  | next closing _ ih => exact ih.trans closing.program

theorem MasterOpening.program {store next : RuntimeState} {result : IrrigationResult}
    {issued : List DriverCall} (opening : MasterOpening store result issued next) :
    next.program = store.program := by
  cases opening <;> rfl

theorem MasterClosing.program {store next : RuntimeState} {result : IrrigationResult}
    {issued : List DriverCall} (closing : MasterClosing store result issued next) :
    next.program = store.program := by
  cases closing <;> rfl

theorem masterTimed_program (store : RuntimeState) (nowMs : UInt64) :
    (masterTimed store nowMs).program = store.program := by
  unfold masterTimed
  split <;> rfl

section Programs

variable {ε : Type} (drivers : Drivers ε)

theorem finish_run (terminalState : ProgramState) (historyResult : ProgramExecutionResult) (world : World ε)
    (ends : terminalState = .completed ∨ terminalState = .aborted ∨ terminalState = .fault) :
    (finish drivers terminalState historyResult world).2.store = world.store.terminal terminalState ∧
      Issued drivers world (finish drivers terminalState historyResult world).2 [] := by
  have accepted : stateStoreSetProgramTerminal world.store terminalState =
      .ok (world.store.terminal terminalState) := by
    rcases ends with rfl | rfl | rfl <;> rfl
  have committed : commit (stateStoreSetProgramTerminal · terminalState) world =
      (.ok,{ world with store := world.store.terminal terminalState }) := run_commit_ok accepted
  obtain ⟨same,issued⟩ := publishExecutionEvent_issued drivers .programExecutionTerminated historyResult 0 none
    { world with store := world.store.terminal terminalState }
  simp only [finish,run_bind,committed]
  exact ⟨same,(Issued.store world _).trans issued⟩

theorem fault_cases (result : IrrigationResult) (world : World ε) :
    (fault drivers result world).1 = result ∧ ∃ issued, FaultExit world.store issued (fault drivers result world).2.store ∧
      Issued drivers world (fault drivers result world).2 issued := by
  by_cases eligible : stateStoreMasterValveCloseIsEligible world.store
  · obtain ⟨issued,closing,front⟩ := masterValveServiceClose_cases drivers world
    obtain ⟨stored,back⟩ := finish_run drivers .fault .fault (masterValveServiceClose drivers world).2 (by simp)
    simp only [fault,run_snapshot_bind,eligible,if_true]
    simp only [run_bind,run_pure,stored]
    refine ⟨trivial,issued,.exit closing,?_⟩
    simpa using front.trans back
  · obtain ⟨stored,issued⟩ := finish_run drivers .fault .fault world (by simp)
    simp only [fault,run_snapshot_bind,eligible,if_false]
    simp only [run_bind,run_pure,stored]
    exact ⟨trivial,[],.exit (.refused (nofun : IrrigationResult.invalidState ≠ .ok) eligible),issued⟩

theorem commit_runningZone {world : World ε} (stepIndex : Nat) (nowMs : UInt64)
    (active : world.store.program.state = .waitingMaster ∨ world.store.program.state = .runningZone) :
    commit (stateStoreSetProgramRunningZone · stepIndex nowMs) world =
      (.ok,{ world with store := { world.store with program := ⟨.runningZone,stepIndex,nowMs⟩ } }) :=
  run_commit_ok (if_neg (by tauto))

theorem commit_waitingPostDelay {world : World ε} (nowMs : UInt64)
    (active : world.store.program.state = .runningZone) :
    commit (stateStoreSetProgramWaitingPostDelay · nowMs) world =
      (.ok,{ world with store := { world.store with
        program := ⟨.waitingPostProgramDelay,world.store.program.currentStepIndex,nowMs⟩ } }) :=
  run_commit_ok (if_neg (by simp [active]))

theorem openCurrentZone_cases (world : World ε)
    (active : world.store.program.state = .waitingMaster ∨ world.store.program.state = .runningZone) :
    ∃ issued, StepOpening world.store world.store.program.currentStepIndex
        (world.currentProgram.step world.store.program.currentStepIndex) (Reads drivers world) issued
        (openCurrentZone drivers world).2.store ∧
      Issued drivers world (openCurrentZone drivers world).2 issued := by
  obtain ⟨step,stepEq⟩ : ∃ step, step = world.currentProgram.step world.store.program.currentStepIndex := ⟨_,rfl⟩
  obtain ⟨first,opening,front⟩ := zoneServiceOpen_cases drivers step.zoneId step.durationMs world
  simp only [openCurrentZone,run_snapshot_bind,run_get_bind,← stepEq]
  cases run : zoneServiceOpen drivers step.zoneId step.durationMs world with
  | mk result opened =>
    rw [run] at opening front
    by_cases ok : result = .ok
    · subst ok
      cases clock : clockNowMs drivers opened with
      | mk now read =>
        obtain ⟨same,middle,reads⟩ := clockNowMs_run drivers clock
        have unchanged : read.store.program = world.store.program := same ▸ opening.program
        have committed := commit_runningZone world.store.program.currentStepIndex now (unchanged ▸ active)
        rw [same] at committed
        obtain ⟨kept,back⟩ := publishExecutionEvent_issued drivers .programExecutionStepStarted .fault
          world.store.program.currentStepIndex step.zoneId
          { read with store := { opened.store with
            program := ⟨.runningZone,world.store.program.currentStepIndex,now⟩ } }
        simp only [run_bind,run,ne_eq,not_true_eq_false,run_ite,if_false,clock,committed,if_true,run_pure,kept]
        refine ⟨first,.opened opening (reads.after front),?_⟩
        simpa using ((front.trans middle).trans (.store read _)).trans back
    · obtain ⟨_,later,exit,back⟩ := fault_cases drivers result opened
      simp only [run_bind,run,ne_eq,ok,not_false_eq_true,run_ite,if_true]
      exact ⟨_,.failed opening ok exit,front.trans back⟩

theorem programServiceStartLocked_cases (address : ProgramAddress) (context : ProgramStartContext)
    (world : World ε) :
    ∃ issued, ProgramStarting world.store (programServiceStartLocked drivers address context world).1 issued
        (programServiceStartLocked drivers address context world).2.store ∧
      Issued drivers { world with program := some address, startContext := context }
        (programServiceStartLocked drivers address context world).2 issued := by
  obtain ⟨set,setEq⟩ : ∃ set, set = { world with program := some address, startContext := context } := ⟨_,rfl⟩
  have run : setServiceProgram address context world = ((),set) := by rw [setEq]; rfl
  have same : set.store = world.store := by rw [setEq]
  rw [← setEq]
  by_cases busy : world.store.program.state ≠ .idle ∧ world.store.program.state ≠ .completed ∧
      world.store.program.state ≠ .aborted
  · have refused : stateStoreStartProgram set.store = .error .invalidState := by
      rw [same]
      exact if_pos busy
    simp only [programServiceStartLocked,run_bind,run,run_commit_error refused,run_ite]
    exact ⟨[],by rw [← same] at busy ⊢; exact .refused nofun busy,.refl set⟩
  · have free : world.store.program.state = .idle ∨ world.store.program.state = .completed ∨
        world.store.program.state = .aborted := by tauto
    obtain ⟨waiting,waitingEq⟩ : ∃ waiting, waiting = { world.store with program := ⟨.waitingMaster,0,0⟩ } := ⟨_,rfl⟩
    have accepted : stateStoreStartProgram set.store = .ok waiting := by
      rw [same,waitingEq]
      exact if_neg busy
    simp only [programServiceStartLocked,run_bind,run,run_commit_ok accepted,run_ite,ne_eq,not_true_eq_false,if_false]
    obtain ⟨unchanged,front⟩ := publishExecutionEvent_issued drivers .programExecutionStarted .fault 0 none
      { set with store := waiting }
    cases event : publishExecutionEvent drivers .programExecutionStarted .fault 0 none { set with store := waiting } with
    | mk value published =>
      rw [event] at unchanged front
      obtain ⟨issued,opening,back⟩ := masterValveServiceOpen_cases drivers published
      cases master : masterValveServiceOpen drivers published with
      | mk result opened =>
        rw [master] at opening back
        simp only at unchanged opening
        rw [unchanged,waitingEq] at opening
        by_cases ok : result = .ok
        · subst ok
          simp only [not_true_eq_false,if_false,run_pure]
          refine ⟨issued,.started free opening,?_⟩
          simpa using ((Issued.store set _).trans front).trans back
        · obtain ⟨stored,last⟩ := finish_run drivers .fault .fault opened (by simp)
          simp only [ok,not_false_eq_true,if_true,run_pure,stored]
          refine ⟨issued,.failed free opening ok,?_⟩
          simpa using (((Issued.store set _).trans front).trans back).trans last

/-- A start is either refused before it holds the lock or runs with the program set. -/
theorem programServiceStartWithContext_cases (program : Option ProgramAddress) (context : ProgramStartContext)
    (world : World ε) :
    (programServiceStartWithContext drivers program context world = (.rejected,world) ∧
      ∀ address, program = some address → programIsValid (world.memory.program address) = true →
        programStartContextIsValid world.memory context = true → programIsActive world.store = true) ∨
    ∃ address, program = some address ∧ programIsValid (world.memory.program address) = true ∧
      programStartContextIsValid world.memory context = true ∧ programIsActive world.store = false ∧
      programServiceStartWithContext drivers program context world =
        programServiceStartLocked drivers address context world := by
  cases program with
  | none => exact .inl ⟨rfl,nofun⟩
  | some address =>
    simp only [programServiceStartWithContext,run_get_bind,run_ite,Option.some.injEq]
    split
    · rename_i unfit
      refine .inl ⟨rfl,?_⟩
      rintro _ rfl valid contextValid
      simpa [valid,contextValid] using unfit
    · rename_i fit
      simp only [not_or,Bool.not_eq_true] at fit
      exact .inr ⟨address,rfl,by simpa using fit.1,by simpa using fit.2.1,by simpa using fit.2.2,rfl⟩

theorem World.currentProgram_eq {world next : World ε} {issued : List DriverCall}
    (issued : Issued drivers world next issued) : next.currentProgram = world.currentProgram := by
  simp only [World.currentProgram,issued.program,issued.memory]

theorem processWaitingMaster_cases (world : World ε) (state : world.store.program.state = .waitingMaster) :
    ∃ issued, ProgramProcessing world.store world.currentProgram (drivers.nowMs world.environment).1
        (Reads drivers world) issued (processWaitingMaster drivers world).2.store ∧
      Issued drivers world (processWaitingMaster drivers world).2 issued := by
  obtain ⟨ok,stored,front⟩ := masterValveServiceProcessTime_run drivers world
  cases run : masterValveServiceProcessTime drivers world with
  | mk result timed =>
    rw [run] at ok stored front
    cases ok
    have program : timed.currentProgram = world.currentProgram := World.currentProgram_eq drivers front
    simp only at stored
    simp only [processWaitingMaster,run_bind_of run,ne_eq,not_true_eq_false,if_false,run_snapshot_bind,run_ite]
    by_cases masterOpen : timed.store.masterValve.state = .open
    · have active : timed.store.program.state = .waitingMaster ∨ timed.store.program.state = .runningZone := by
        rw [stored,masterTimed_program]
        exact .inl state
      obtain ⟨issued,opening,back⟩ := openCurrentZone_cases drivers timed active
      have index : timed.store.program.currentStepIndex = world.store.program.currentStepIndex := by
        rw [stored,masterTimed_program]
      simp only [masterOpen,if_true]
      rw [stored] at masterOpen
      rw [program,index,stored] at opening
      exact ⟨issued,.entering state masterOpen (opening.imp fun _ => Reads.after front),front.trans back⟩
    · by_cases broken : timed.store.masterValve.state = .fault
      · obtain ⟨_,issued,exit,back⟩ := fault_cases drivers .invalidState timed
        simp only [broken,reduceCtorEq,if_false,if_true]
        rw [stored] at broken exit
        exact ⟨issued,.masterFault state broken exit,front.trans back⟩
      · simp only [masterOpen,if_false,broken,run_pure]
        rw [stored] at masterOpen broken
        rw [stored]
        exact ⟨[],.waiting state masterOpen broken,front⟩

theorem completeCurrentStep_cases (world : World ε) (state : world.store.program.state = .runningZone)
    {nowMs : UInt64} (elapsed : nowMs - world.store.program.stepStartedAtMs ≥
      (world.currentProgram.step world.store.program.currentStepIndex).durationMs.toUInt64) :
    ∃ issued, ProgramProcessing world.store world.currentProgram nowMs (Reads drivers world) issued
        (completeCurrentStep drivers world.store
          (world.currentProgram.step world.store.program.currentStepIndex) world).2.store ∧
      Issued drivers world (completeCurrentStep drivers world.store
        (world.currentProgram.step world.store.program.currentStepIndex) world).2 issued := by
  obtain ⟨step,stepEq⟩ : ∃ step, step = world.currentProgram.step world.store.program.currentStepIndex := ⟨_,rfl⟩
  obtain ⟨first,closing,front⟩ := zoneServiceClose_cases drivers step.zoneId world
  cases run : zoneServiceClose drivers step.zoneId world with
  | mk result closed =>
    rw [run] at closing front
    simp only at closing front
    rw [← stepEq]
    by_cases ok : result = .ok
    · subst ok
      have program : closed.currentProgram = world.currentProgram := World.currentProgram_eq drivers front
      obtain ⟨kept,middle⟩ := publishExecutionEvent_issued drivers .programExecutionStepCompleted .fault
        world.store.program.currentStepIndex step.zoneId closed
      cases event : publishExecutionEvent drivers .programExecutionStepCompleted .fault
          world.store.program.currentStepIndex step.zoneId closed with
      | mk value published =>
        rw [event] at kept middle
        simp only at kept middle
        cases clock : clockNowMs drivers published with
        | mk now read =>
          obtain ⟨same,unread,reads⟩ := clockNowMs_run drivers clock
          have stored : read.store = closed.store := same.trans kept
          have unchanged : read.store.program = world.store.program := stored ▸ closing.program
          have active : read.store.program.state = .runningZone := by rw [unchanged,state]
          have reached := (front.trans middle).trans unread
          have readsHere : Reads drivers world now := (reads.after middle).after front
          simp only [completeCurrentStep,run_bind_of run,ne_eq,not_true_eq_false,if_false,run_get_bind,program,
            run_bind_of event,run_bind_of clock,run_ite]
          by_cases more : world.store.program.currentStepIndex + 1 < world.currentProgram.steps.length
          · obtain ⟨next,nextEq⟩ : ∃ next, next = { closed.store with
                program := ⟨.runningZone,world.store.program.currentStepIndex + 1,now⟩ } := ⟨_,rfl⟩
            have committed := commit_runningZone (world.store.program.currentStepIndex + 1) now (.inr active)
            rw [stored,← nextEq] at committed
            have running : next.program.state = .runningZone := by rw [nextEq]
            obtain ⟨later,opening,back⟩ := openCurrentZone_cases drivers { read with store := next } (.inr running)
            have readProgram : ({ read with store := next } : World ε).currentProgram = world.currentProgram :=
              World.currentProgram_eq drivers (reached.trans (.store read next))
            rw [readProgram] at opening
            simp only [more,if_true,run_bind_of committed]
            refine ⟨first ++ later,?_,by simpa using (reached.trans (.store read next)).trans back⟩
            subst nextEq
            exact .advancing state elapsed (stepEq ▸ closing) more
              (opening.imp fun _ => Reads.after (reached.trans (.store read _)))
          · have committed := commit_waitingPostDelay now active
            rw [unchanged,stored] at committed
            simp only [more,if_false,committed]
            exact ⟨first,.finishing state elapsed (stepEq ▸ closing) more readsHere,
              by simpa using reached.trans (.store read _)⟩
    · obtain ⟨_,later,exit,back⟩ := fault_cases drivers result closed
      simp only [completeCurrentStep,run_bind_of run,ne_eq,ok,not_false_eq_true,if_true]
      exact ⟨_,.closeFailed state elapsed (stepEq ▸ closing) ok exit,front.trans back⟩

theorem processRunningZone_cases (world : World ε) (state : world.store.program.state = .runningZone) :
    ∃ issued, ProgramProcessing world.store world.currentProgram (drivers.nowMs world.environment).1
        (Reads drivers world) issued (processRunningZone drivers world.store world).2.store ∧
      Issued drivers world (processRunningZone drivers world.store world).2 issued := by
  cases clock : clockNowMs drivers world with
  | mk now read =>
    obtain ⟨same,front,_⟩ := clockNowMs_run drivers clock
    have reading : (drivers.nowMs world.environment).1 = now := congrArg Prod.fst clock
    have program : read.currentProgram = world.currentProgram := World.currentProgram_eq drivers front
    simp only [processRunningZone,run_get_bind,run_bind_of clock,run_ite]
    rw [reading]
    split
    · rename_i elapsed
      rw [← same,← program] at elapsed ⊢
      obtain ⟨issued,processing,back⟩ := completeCurrentStep_cases drivers read (same ▸ state) elapsed
      refine ⟨issued,?_,front.trans back⟩
      exact processing.imp fun _ => Reads.after front
    · rename_i early
      simp only [run_pure,same]
      exact ⟨[],.running state early,front⟩

theorem processWaitingPostProgramDelay_cases (world : World ε)
    (state : world.store.program.state = .waitingPostProgramDelay) :
    ∃ issued, ProgramProcessing world.store world.currentProgram (drivers.nowMs world.environment).1
        (Reads drivers world) issued (processWaitingPostProgramDelay drivers world.store world).2.store ∧
      Issued drivers world (processWaitingPostProgramDelay drivers world.store world).2 issued := by
  cases clock : clockNowMs drivers world with
  | mk now read =>
    obtain ⟨same,front,_⟩ := clockNowMs_run drivers clock
    have reading : (drivers.nowMs world.environment).1 = now := congrArg Prod.fst clock
    simp only [processWaitingPostProgramDelay,run_get_bind,run_bind_of clock,run_ite]
    rw [reading]
    split
    · rename_i elapsed
      obtain ⟨issued,closing,middle⟩ := masterValveServiceClose_cases drivers read
      cases run : masterValveServiceClose drivers read with
      | mk result closed =>
        rw [run] at closing middle
        rw [same] at closing
        obtain ⟨stored,back⟩ := finish_run drivers .completed .completed closed (by simp)
        simp only [run_bind_of run,run_bind,run_pure,stored]
        refine ⟨issued,.completed state elapsed closing,?_⟩
        simpa using (front.trans middle).trans back
    · rename_i early
      simp only [run_pure,same]
      exact ⟨[],.delaying state early,front⟩

theorem programServiceProcess_cases (world : World ε) :
    ∃ issued, ProgramProcessing world.store world.currentProgram (drivers.nowMs world.environment).1
        (Reads drivers world) issued (programServiceProcess drivers world).2.store ∧
      Issued drivers world (programServiceProcess drivers world).2 issued := by
  cases state : world.store.program.state with
  | waitingMaster =>
    simp only [programServiceProcess,run_snapshot_bind,state]
    exact processWaitingMaster_cases drivers world state
  | runningZone =>
    simp only [programServiceProcess,run_snapshot_bind,state]
    exact processRunningZone_cases drivers world state
  | waitingPostProgramDelay =>
    simp only [programServiceProcess,run_snapshot_bind,state]
    exact processWaitingPostProgramDelay_cases drivers world state
  | _ =>
    simp only [programServiceProcess,run_snapshot_bind,state,run_pure]
    exact ⟨[],.inactive (by simp [programIsActive,state]),.refl world⟩

theorem abortMasterValve_cases {world middle : World ε} {zoneId : Option CString} {result : IrrigationResult}
    {first : List DriverCall} (zone : AbortZone world.store zoneId result first middle.store)
    (front : Issued drivers world middle first) :
    ∃ issued, ProgramAborting world.store zoneId issued (abortMasterValve drivers result middle).2.store ∧
      Issued drivers world (abortMasterValve drivers result middle).2 issued := by
  by_cases ok : result = .ok
  · subst ok
    by_cases closed : middle.store.masterValve.state = .closed
    · obtain ⟨stored,back⟩ := finish_run drivers .aborted .aborted middle (by simp)
      simp only [abortMasterValve,run_snapshot_bind,closed,ne_eq,not_true_eq_false,and_false,if_false,
        run_pure_bind,if_true]
      simp only [run_bind,run_pure,stored]
      refine ⟨first,.closedMaster zone closed,?_⟩
      simpa using front.trans back
    · obtain ⟨later,closing,middleIssued⟩ := masterValveServiceClose_cases drivers middle
      simp only [abortMasterValve,run_snapshot_bind,closed,ne_eq,not_false_eq_true,and_true,if_true]
      cases run : masterValveServiceClose drivers middle with
      | mk masterResult after =>
        rw [run] at closing middleIssued
        simp only at closing middleIssued
        simp only [run_bind_of run,run_ite]
        by_cases confirmed : masterResult = .ok
        · obtain ⟨stored,back⟩ := finish_run drivers .aborted .aborted after (by simp)
          have aborting := ProgramAborting.closingMaster zone closed closing
          simp only [confirmed,if_true] at aborting ⊢
          simp only [run_bind,run_pure,stored]
          refine ⟨first ++ later,aborting,?_⟩
          simpa using (front.trans middleIssued).trans back
        · obtain ⟨stored,back⟩ := finish_run drivers .fault .fault after (by simp)
          have aborting := ProgramAborting.closingMaster zone closed closing
          simp only [confirmed,if_false] at aborting ⊢
          simp only [run_bind,run_pure,stored]
          refine ⟨first ++ later,aborting,?_⟩
          simpa using (front.trans middleIssued).trans back
  · obtain ⟨stored,back⟩ := finish_run drivers .fault .fault middle (by simp)
    simp only [abortMasterValve,run_snapshot_bind,ok,false_and,if_false,run_pure_bind]
    simp only [run_bind,run_pure,stored]
    refine ⟨first,.zoneFailed zone ok,?_⟩
    simpa using front.trans back

/-- An abort that holds the operation lock, whatever the program's state. -/
theorem programServiceAbortLocked_cases (world : World ε) :
    ∃ issued, ProgramAborting world.store (world.currentProgram.step world.store.program.currentStepIndex).zoneId issued
        (programServiceAbortLocked drivers world.store world).2.store ∧
      Issued drivers world (programServiceAbortLocked drivers world.store world).2 issued := by
  simp only [programServiceAbortLocked,run_get_bind]
  by_cases running : world.store.program.state = .runningZone
  · obtain ⟨first,closing,front⟩ := zoneServiceClose_cases drivers
      (world.currentProgram.step world.store.program.currentStepIndex).zoneId world
    simp only [running,if_true,run_bind]
    exact abortMasterValve_cases drivers (.running running closing) front
  · simp only [running,if_false,run_pure_bind]
    exact abortMasterValve_cases drivers (.skipped running) (.refl world)

/-- An abort is refused when no program is active. -/
theorem programServiceAbort_cases (world : World ε) :
    programIsActive world.store = false ∧ programServiceAbort drivers world = (.rejected,world) ∨
    programIsActive world.store = true ∧ ∃ issued, ProgramAborting world.store
        (world.currentProgram.step world.store.program.currentStepIndex).zoneId issued
        (programServiceAbort drivers world).2.store ∧
      Issued drivers world (programServiceAbort drivers world).2 issued := by
  cases active : programIsActive world.store with
  | false =>
    simp only [programServiceAbort,run_snapshot_bind,active,run_ite,Bool.false_eq_true,if_false,run_pure]
    exact .inl ⟨trivial,trivial⟩
  | true =>
    refine .inr ⟨rfl,?_⟩
    simp only [programServiceAbort,run_snapshot_bind,active,run_ite,if_true]
    exact programServiceAbortLocked_cases drivers world

end Programs

/-! ### The scheduler -/

/-- An entry whose program the program service accepts when it is not active. -/
def SchedulerEntry.Startable (memory : Memory) (entry : SchedulerEntry) : Prop :=
  ∃ address, entry.program = some address ∧ programIsValid (memory.program address) = true ∧
    programStartContextIsValid memory ⟨.scheduled,entry.id⟩ = true

/-- The entries that a tick handles. -/
def dueEntries (state : RuntimeState) (now : SchedulerTime) : Nat → List SchedulerEntry → List SchedulerEntry
  | _, [] => []
  | index, entry :: rest =>
    if entryIsDue state now index entry then entry :: dueEntries state now (index + 1) rest
    else dueEntries state now (index + 1) rest

/-- Handling one entry asks the program service to start and records the occurrence. -/
inductive EntryHandling {ε : Type} (drivers : Drivers ε) (world : World ε) (entry : SchedulerEntry) :
    List DriverCall → World ε → Prop
  | passed (unstarted : programIsActive world.store = true ∨ ¬entry.Startable world.memory) {next : World ε}
      {scheduler : SchedulerRuntimeState} (stored : next.store = { world.store with scheduler })
      (back : Issued drivers world next []) : EntryHandling drivers world entry [] next
  | started {address : ProgramAddress} (program : entry.program = some address)
      (startable : entry.Startable world.memory)
      (inactive : programIsActive world.store = false) {result : IrrigationResult} {issued : List DriverCall}
      {started : RuntimeState} (starting : ProgramStarting world.store result issued started) {next : World ε}
      {scheduler : SchedulerRuntimeState} (stored : next.store = { started with scheduler })
      (back : Issued drivers { world with program := some address, startContext := ⟨.scheduled,entry.id⟩ }
        next issued) :
      EntryHandling drivers world entry issued next

inductive EntriesHandling {ε : Type} (drivers : Drivers ε) :
    World ε → List SchedulerEntry → List DriverCall → World ε → Prop
  | done (world : World ε) : EntriesHandling drivers world [] [] world
  | next {world middle final : World ε} {entry : SchedulerEntry} {rest : List SchedulerEntry}
      {first later : List DriverCall} (handling : EntryHandling drivers world entry first middle)
      (handlings : EntriesHandling drivers middle rest later final) :
      EntriesHandling drivers world (entry :: rest) (first ++ later) final

section Scheduler

variable {ε : Type} (drivers : Drivers ε)

theorem recordScheduleOccurrence_run (world : World ε) (index : Nat) (occurrence : UInt64)
    (status : ScheduleOccurrenceStatus) :
    ∃ scheduler, (commit (stateStoreRecordScheduleOccurrence · index occurrence status) world).2 =
      { world with store := { world.store with scheduler } } := by
  by_cases refused : index ≥ world.store.scheduler.entryCount ∨ status = .none
  · have run : stateStoreRecordScheduleOccurrence world.store index occurrence status = .error .invalidState :=
      if_pos refused
    exact ⟨world.store.scheduler,congrArg Prod.snd (run_commit_error run)⟩
  · have run : stateStoreRecordScheduleOccurrence world.store index occurrence status =
        .ok { world.store with scheduler := world.store.scheduler.record index occurrence status } :=
      if_neg refused
    exact ⟨_,congrArg Prod.snd (run_commit_ok run)⟩

theorem handleDueEntry_cases (now : SchedulerTime) (index : Nat) (entry : SchedulerEntry) (world : World ε) :
    ∃ issued, EntryHandling drivers world entry issued (handleDueEntry drivers now index entry world).2 := by
  cases active : programIsActive world.store with
  | true =>
    obtain ⟨scheduler,recorded⟩ := recordScheduleOccurrence_run world index (occurrenceFor now) .skippedBusy
    have busy : programServiceIsActive world = (true,world) := by
      simp only [programServiceIsActive,run_snapshot_bind,active,run_pure]
    simp only [handleDueEntry,run_bind_of busy,if_true,run_pure_bind]
    simp only [run_bind,run_pure,recorded]
    exact ⟨[],.passed (.inl active) rfl (.store world _)⟩
  | false =>
    have free : programServiceIsActive world = (false,world) := by
      simp only [programServiceIsActive,run_snapshot_bind,active,run_pure]
    cases run : programServiceStartWithContext drivers entry.program ⟨.scheduled,entry.id⟩ world with
    | mk result after =>
      simp only [handleDueEntry,run_bind_of free,Bool.false_eq_true,if_false,run_bind_of run,run_pure_bind]
      obtain ⟨scheduler,recorded⟩ := recordScheduleOccurrence_run after index (occurrenceFor now)
        (if result = .ok then .started else .rejected)
      simp only [run_bind,run_pure,recorded]
      rcases programServiceStartWithContext_cases drivers entry.program ⟨.scheduled,entry.id⟩ world with
        ⟨rejected,unfit⟩ | ⟨address,program,valid,context,_,accepted⟩
      · cases rejected.symm.trans run
        refine ⟨[],.passed (.inr ?_) rfl (.store world _)⟩
        intro startable
        obtain ⟨address,program,valid,context⟩ := startable
        simpa [active] using unfit address program valid context
      · obtain ⟨issued,starting,back⟩ := programServiceStartLocked_cases drivers address ⟨.scheduled,entry.id⟩ world
        rw [← accepted,run] at starting back
        refine ⟨issued,.started program ⟨address,program,valid,context⟩ active starting rfl ?_⟩
        simpa using back.trans (.store after _)

theorem processEntries_cases (state : RuntimeState) (now : SchedulerTime) (entries : List SchedulerEntry)
    (index : Nat) (world : World ε) :
    ∃ issued, EntriesHandling drivers world (dueEntries state now index entries) issued
      (processEntries drivers state now index entries world).2 := by
  induction entries generalizing index world with
  | nil => exact ⟨[],.done world⟩
  | cons entry rest ih =>
    by_cases due : entryIsDue state now index entry = true
    · obtain ⟨first,handling⟩ := handleDueEntry_cases drivers now index entry world
      obtain ⟨later,handlings⟩ := ih (index + 1) (handleDueEntry drivers now index entry world).2
      simp only [processEntries,dueEntries,due,if_true,run_bind]
      exact ⟨first ++ later,.next handling handlings⟩
    · simp only [processEntries,dueEntries,due,Bool.false_eq_true,if_false]
      exact ih (index + 1) world

/-- A tick changes nothing but the synchronization trace around the due entries. -/
theorem schedulerServiceProcess_cases (now : SchedulerTime) (world : World ε) :
    ∃ issued next, EntriesHandling drivers
        { world with synchronization := world.synchronization ++ [.lock] }
        (if schedulerTimeIsValid now then dueEntries world.store now 0 world.entries else []) issued next ∧
      (schedulerServiceProcess drivers now world).2 =
        { next with synchronization := next.synchronization ++ [.unlock] } := by
  obtain ⟨locked,lockedEq⟩ : ∃ locked : World ε, locked = { world with
      synchronization := world.synchronization ++ [.lock] } := ⟨_,rfl⟩
  have lock : schedulerServiceLock world = ((),locked) := by rw [lockedEq]; rfl
  have store : locked.store = world.store := by rw [lockedEq]
  have entries : locked.entries = world.entries := by rw [lockedEq]
  rw [← lockedEq]
  by_cases valid : schedulerTimeIsValid now = true
  · obtain ⟨issued,handlings⟩ := processEntries_cases drivers world.store now world.entries 0 locked
    simp only [schedulerServiceProcess,run_bind_of lock,valid,not_true_eq_false,if_false,run_get_bind,if_true,
      store,entries]
    exact ⟨issued,_,handlings,rfl⟩
  · simp only [schedulerServiceProcess,run_bind_of lock,valid,Bool.false_eq_true,not_false_eq_true,if_false,if_true]
    exact ⟨[],locked,.done locked,rfl⟩

end Scheduler

end Irrigation
