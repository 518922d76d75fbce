import Irrigation.Library.Interleaving
import Irrigation.Operations

/-! Starts, polls and aborts of the program service by two tasks. A call tests whether a
program is active before it takes the operation lock, and acts once it holds it; the
program of the service is set before the store accepts the start. -/
namespace Irrigation

/-- The web server's task and the scheduler's. -/
inductive ExecutionTask where
  | http | scheduler
  deriving DecidableEq, Repr

inductive ExecutionCall where
  | start (program : Option ProgramAddress) (context : ProgramStartContext)
  | process
  | abort
  deriving DecidableEq, Repr

section Calls

variable {ε : Type}

/-- What a call tests before it takes the operation lock. -/
def ExecutionCall.admitted (call : ExecutionCall) (world : World ε) : Bool :=
  match call with
  | .start none _ => false
  | .start (some program) context =>
    programIsValid (world.memory.program program) && programStartContextIsValid world.memory context &&
      !programIsActive world.store
  | .process | .abort => programIsActive world.store

variable (drivers : Drivers ε)

/-- A poll once it holds the operation lock. -/
def programServiceProcessLocked : Service ε IrrigationResult := do
  let state ← snapshot
  match state.program.state with
  | .waitingMaster => processWaitingMaster drivers
  | .runningZone => processRunningZone drivers state
  | .waitingPostProgramDelay => processWaitingPostProgramDelay drivers state
  | _ => pure .ok

/-- A call from the operation lock on; it reads the store anew. -/
def ExecutionCall.locked (call : ExecutionCall) : Service ε IrrigationResult :=
  match call with
  | .start none _ => pure .rejected
  | .start (some program) context => programServiceStartLocked drivers program context
  | .process => programServiceProcessLocked drivers
  | .abort => do
    let state ← snapshot
    programServiceAbortLocked drivers state

/-- The call of the service, from the test to the end. -/
def ExecutionCall.run (call : ExecutionCall) : Service ε IrrigationResult :=
  match call with
  | .start program context => programServiceStartWithContext drivers program context
  | .process => programServiceProcess drivers
  | .abort => programServiceAbort drivers

/-- A call that no other task steps into is the test, then the body. -/
theorem ExecutionCall.run_eq (call : ExecutionCall) (world : World ε) :
    call.run drivers world = if call.admitted world then call.locked drivers world else (.rejected,world) := by
  cases call with
  | start program context =>
    cases program with
    | none => rfl
    | some address =>
      simp only [ExecutionCall.run,ExecutionCall.admitted,ExecutionCall.locked,programServiceStartWithContext,
        run_get_bind,run_ite,run_pure]
      by_cases valid : programIsValid (world.memory.program address) = true <;>
        by_cases fits : programStartContextIsValid world.memory context = true <;>
        by_cases active : programIsActive world.store = true <;>
        simp [valid,fits,active]
  | process =>
    cases state : world.store.program.state <;>
      simp [ExecutionCall.run,ExecutionCall.admitted,ExecutionCall.locked,programServiceProcess,
        programServiceProcessLocked,programIsActive,state]
  | abort =>
    simp only [ExecutionCall.run,ExecutionCall.admitted,ExecutionCall.locked,programServiceAbort,
      run_snapshot_bind,run_ite,run_pure]
    rfl

/-! ### What a body leaves -/

/-- A start that the store and the valve take on and the driver confirms. -/
structure StartFits (world : World ε) : Prop where
  free : world.store.program.state = .idle ∨ world.store.program.state = .completed ∨
    world.store.program.state = .aborted
  valve : world.store.masterValve.state = .closed ∨ world.store.masterValve.state = .fault
  confirmed : (drivers.perform .openAndConfirm (drivers.nowMs world.environment).2).1 = .ok

theorem start_ok_iff (program : ProgramAddress) (context : ProgramStartContext) (world : World ε) :
    (programServiceStartLocked drivers program context world).1 = .ok ↔ StartFits drivers world := by
  obtain ⟨set,setEq⟩ : ∃ set, set = { world with program := some program, startContext := context } := ⟨_,rfl⟩
  have run : setServiceProgram program context world = ((),set) := by rw [setEq]; rfl
  have same : set.store = world.store := by rw [setEq]
  by_cases busy : world.store.program.state ≠ .idle ∧ world.store.program.state ≠ .completed ∧
      world.store.program.state ≠ .aborted
  · have refused : stateStoreStartProgram set.store = .error .invalidState := by
      rw [same]
      exact if_pos busy
    simp only [programServiceStartLocked,run_bind,run,run_commit_error refused,run_ite]
    refine iff_of_false (by simp) fun fits => ?_
    have free := fits.free
    tauto
  · have free : world.store.program.state = .idle ∨ world.store.program.state = .completed ∨
        world.store.program.state = .aborted := by tauto
    have accepted : stateStoreStartProgram set.store =
        .ok { world.store with program := ⟨.waitingMaster,0,0⟩ } := by
      rw [same]
      exact if_neg busy
    simp only [programServiceStartLocked,run_bind,run,run_commit_ok accepted,run_ite,ne_eq,not_true_eq_false,if_false]
    obtain ⟨published,publishedEq⟩ : ∃ published, published = (publishExecutionEvent drivers .programExecutionStarted
      .fault 0 none { set with store := { world.store with program := ⟨.waitingMaster,0,0⟩ } }).2 := ⟨_,rfl⟩
    have valve : published.store.masterValve = world.store.masterValve := by
      rw [publishedEq,(publishExecutionEvent_issued drivers .programExecutionStarted .fault 0 none _).1]
    have environment : published.environment = (drivers.nowMs world.environment).2 := by
      rw [publishedEq,setEq]
      rfl
    have opens := masterValveServiceOpen_ok_iff drivers published
    rw [valve,environment] at opens
    rw [← publishedEq]
    by_cases ok : (masterValveServiceOpen drivers published).1 = .ok
    · simp only [ok,not_true_eq_false,if_false,run_pure,true_iff]
      exact ⟨free,(opens.mp ok).1,(opens.mp ok).2⟩
    · simp only [ok,not_false_eq_true,if_true,run_pure,false_iff]
      exact fun fits => ok (opens.mpr ⟨fits.valve,fits.confirmed⟩)

theorem start_program (program : ProgramAddress) (context : ProgramStartContext) (world : World ε) :
    (programServiceStartLocked drivers program context world).2.program = some program ∧
      (programServiceStartLocked drivers program context world).2.startContext = context := by
  obtain ⟨_,_,trace⟩ := programServiceStartLocked_cases drivers program context world
  exact ⟨trace.program,trace.startContext⟩

theorem processLocked_world (world : World ε) :
    (programServiceProcessLocked drivers world).2 = (programServiceProcess drivers world).2 := by
  cases state : world.store.program.state <;>
    simp only [programServiceProcessLocked,programServiceProcess,run_snapshot_bind,state,run_pure]

theorem ProgramProcessing.inactive_eq {store next : RuntimeState} {program : Program} {nowMs : UInt64}
    {reads : UInt64 → Prop} {issued : List DriverCall}
    (processing : ProgramProcessing store program nowMs reads issued next) (idle : programIsActive store = false) :
    next = store := by
  cases processing with
  | inactive => rfl
  | waiting state | masterFault state | entering state | running state | closeFailed state | advancing state
  | finishing state | delaying state | completed state => simp [programIsActive,state] at idle

/-- A poll keeps the program, its context, and an ended execution. -/
theorem process_keeps (world : World ε) :
    (programServiceProcessLocked drivers world).2.program = world.program ∧
      (programServiceProcessLocked drivers world).2.startContext = world.startContext ∧
      (programIsActive world.store = false → (programServiceProcessLocked drivers world).2.store = world.store) := by
  obtain ⟨issued,processing,trace⟩ := programServiceProcess_cases drivers world
  rw [processLocked_world]
  exact ⟨trace.program,trace.startContext,processing.inactive_eq⟩

/-- An abort ends whatever it meets. -/
theorem abort_ends (world : World ε) :
    programIsActive (programServiceAbortLocked drivers world.store world).2.store = false := by
  obtain ⟨issued,aborting,_⟩ := programServiceAbortLocked_cases drivers world
  exact inactive_iff.mpr (.inr aborting.ends)

end Calls

end Irrigation
