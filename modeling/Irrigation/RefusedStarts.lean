import Irrigation.ExecutionCalls

/-! Starts that are refused or fail after another task's start: what the service's program
and context are while an execution runs. -/
namespace Irrigation

/-- The world, and the program and context of the last start that was answered OK. -/
structure Recorded (ε : Type) where
  world : World ε
  accepted : Option (ProgramAddress × ProgramStartContext)

section Starts

variable {ε : Type} (drivers : Drivers ε)

/-- The last start answered OK, after a call with this answer. -/
def ExecutionCall.accepts (call : ExecutionCall) (result : IrrigationResult)
    (accepted : Option (ProgramAddress × ProgramStartContext)) : Option (ProgramAddress × ProgramStartContext) :=
  match call with
  | .start (some program) context => if result = .ok then some (program,context) else accepted
  | _ => accepted

/-- The body of a call, with a record of the start it answers OK. -/
def ExecutionCall.body (call : ExecutionCall) (execution : Recorded ε) : Recorded ε :=
  ⟨(call.locked drivers execution.world).2,call.accepts (call.locked drivers execution.world).1 execution.accepted⟩

/-- A run of calls of the two tasks. -/
abbrev executionStep : Interleaving.Step ExecutionTask ExecutionCall →
    Interleaving.State ExecutionTask ExecutionCall (Recorded ε) →
    Interleaving.State ExecutionTask ExecutionCall (Recorded ε) :=
  Interleaving.step (fun call execution => call.admitted execution.world) (ExecutionCall.body drivers)

/-- An active program and its context are those of the start that was answered OK. -/
def RunsAccepted (execution : Recorded ε) : Prop :=
  programIsActive execution.world.store = true → ∃ program, execution.world.program = some program ∧
    execution.accepted = some (program,execution.world.startContext)

/-- A start that is answered otherwise leaves the service's program and context alone. -/
def RefusalKeeps (call : ExecutionCall) (execution : Recorded ε) : Prop :=
  match call with
  | .start _ _ => (call.locked drivers execution.world).1 ≠ .ok →
    (call.locked drivers execution.world).2.program = execution.world.program ∧
      (call.locked drivers execution.world).2.startContext = execution.world.startContext
  | _ => True

/-- A start is taken on and confirmed, or names the program and the context that are set already. -/
def FitsOrRepeats (call : ExecutionCall) (execution : Recorded ε) : Prop :=
  match call with
  | .start (some program) context => StartFits drivers execution.world ∨
    execution.world.program = some program ∧ execution.world.startContext = context
  | _ => True

variable {drivers} {execution : Recorded ε}

theorem refusalKeeps_iff (call : ExecutionCall) (execution : Recorded ε) :
    RefusalKeeps drivers call execution ↔ FitsOrRepeats drivers call execution := by
  cases call with
  | start program context =>
    cases program with
    | none => simp [RefusalKeeps,FitsOrRepeats,ExecutionCall.locked]
    | some program =>
      obtain ⟨set,setContext⟩ := start_program drivers program context execution.world
      simp only [RefusalKeeps,FitsOrRepeats,ExecutionCall.locked,ne_eq,set,setContext,start_ok_iff]
      rw [or_iff_not_imp_left]
      refine imp_congr_right fun _ => and_congr ⟨fun same => same.symm,fun same => same.symm⟩ ?_
      exact ⟨fun same => same.symm,fun same => same.symm⟩
  | process | abort => exact Iff.rfl

variable (drivers) in
/-- A poll or an abort of an ended execution starts none, and neither sets the program. -/
theorem locked_keeps (call : ExecutionCall) (world : World ε) (other : ∀ program context, call ≠ .start program context) :
    (call.locked drivers world).2.program = world.program ∧
      (call.locked drivers world).2.startContext = world.startContext ∧
      (programIsActive (call.locked drivers world).2.store = true → programIsActive world.store = true) := by
  cases call with
  | start program context => exact absurd rfl (other program context)
  | process =>
    obtain ⟨program,context,ended⟩ := process_keeps drivers world
    refine ⟨program,context,fun active => ?_⟩
    by_contra inactive
    rw [ExecutionCall.locked,ended (by simpa using inactive)] at active
    exact inactive active
  | abort =>
    obtain ⟨issued,_,trace⟩ := programServiceAbortLocked_cases drivers world
    refine ⟨trace.program,trace.startContext,fun active => ?_⟩
    have ended := abort_ends drivers world
    exact absurd (ended.symm.trans active) (by simp)

/-- A start that is not answered OK starts no execution. -/
theorem ProgramStarting.failed_active {store next : RuntimeState} {result : IrrigationResult} {issued : List DriverCall}
    (starting : ProgramStarting store result issued next) (failed : result ≠ .ok)
    (active : programIsActive next = true) : programIsActive store = true := by
  cases starting with
  | refused => exact active
  | started => exact absurd rfl failed
  | failed => simp [programIsActive,RuntimeState.terminal] at active

theorem RunsAccepted.started (runs : RunsAccepted execution) {program : ProgramAddress} {context : ProgramStartContext}
    (fits : FitsOrRepeats drivers (.start (some program) context) execution) :
    RunsAccepted (ExecutionCall.body drivers (.start (some program) context) execution) := by
  intro active
  obtain ⟨issued,starting,trace⟩ := programServiceStartLocked_cases drivers program context execution.world
  refine ⟨program,trace.program,?_⟩
  have setContext : (programServiceStartLocked drivers program context execution.world).2.startContext = context :=
    trace.startContext
  change (if (programServiceStartLocked drivers program context execution.world).1 = .ok then some (program,context)
    else execution.accepted) = some (program,(programServiceStartLocked drivers program context execution.world).2.startContext)
  rw [setContext]
  by_cases ok : (programServiceStartLocked drivers program context execution.world).1 = .ok
  · rw [if_pos ok]
  · rw [if_neg ok]
    obtain ⟨named,contextual⟩ := fits.resolve_left fun starts => ok ((start_ok_iff drivers _ _ _).mpr starts)
    obtain ⟨running,set,recorded⟩ := runs (starting.failed_active ok active)
    cases named.symm.trans set
    rw [recorded,contextual]

theorem RunsAccepted.kept (runs : RunsAccepted execution) {next : Recorded ε}
    (keeps : next.world.program = execution.world.program ∧
      next.world.startContext = execution.world.startContext ∧
      (programIsActive next.world.store = true → programIsActive execution.world.store = true))
    (recorded : next.accepted = execution.accepted) : RunsAccepted next := by
  intro active
  obtain ⟨program,context,ongoing⟩ := keeps
  obtain ⟨running,set,accepted⟩ := runs (ongoing active)
  refine ⟨running,program.trans set,?_⟩
  rw [recorded,accepted,context]

theorem RunsAccepted.body (runs : RunsAccepted execution) (call : ExecutionCall)
    (fits : FitsOrRepeats drivers call execution) : RunsAccepted (call.body drivers execution) := by
  cases call with
  | start program context =>
    cases program with
    | none => exact runs
    | some program => exact runs.started fits
  | process => exact runs.kept (locked_keeps drivers .process execution.world nofun) rfl
  | abort => exact runs.kept (locked_keeps drivers .abort execution.world nofun) rfl

/-- From a world without an execution on, whatever two tasks call and wherever one steps into the
other's call: an active program is always the one of the start that was answered OK, and every
other start leaves program and context alone, exactly when every start body is taken on and
confirmed or repeats what is set. -/
theorem refused_starts_keep_iff {world : World ε} (inactive : programIsActive world.store = false)
    (steps : List (Interleaving.Step ExecutionTask ExecutionCall)) :
    (Runs.Throughout (executionStep drivers) (fun state => RunsAccepted state.shared) steps (.of ⟨world,none⟩) ∧
        Runs.Along (executionStep drivers) (Interleaving.AtBodies (RefusalKeeps drivers)) steps (.of ⟨world,none⟩)) ↔
      Runs.Along (executionStep drivers) (Interleaving.AtBodies (FitsOrRepeats drivers)) steps (.of ⟨world,none⟩) := by
  have agree : Runs.Along (executionStep drivers) (Interleaving.AtBodies (RefusalKeeps drivers)) steps
      (.of ⟨world,none⟩) ↔ _ := Interleaving.along_bodies_congr refusalKeeps_iff steps (.of ⟨world,none⟩)
  rw [agree]
  refine and_iff_right_of_imp fun fits => ?_
  have initially : RunsAccepted (⟨world,none⟩ : Recorded ε) := fun active => by simp [inactive] at active
  have sound : Runs.Throughout (executionStep drivers) (Interleaving.Sound RunsAccepted fun _ _ => True) steps
      (.of ⟨world,none⟩) := Interleaving.sound_throughout (.of initially) (fun _ _ _ _ => trivial)
    (fun call _ runs _ fits => ⟨runs.body call fits,fun _ _ => trivial⟩) fits
  exact fun done todo split => (sound done todo split).shared

end Starts

/-! ### The development kit -/

/-- Two programs, and a schedule's id. -/
def devMemory : Memory where
  program := fun address => if address = 0 then devProgram else ⟨some (.literal "lawn"),[⟨some (.literal "zone-4"),60000⟩],0⟩
  text := fun _ => .literal "schedule-1"

/-- The scheduler has tested its start when the web server's start is taken on. -/
def devRace : List (Interleaving.Step ExecutionTask ExecutionCall) :=
  [.check .scheduler (.start (some 1) ⟨.scheduled,some 0⟩),.check .http (.start (some 0) programStartContextManual),
    .body .http,.body .scheduler]

def devStart : Interleaving.State ExecutionTask ExecutionCall (Recorded UInt64) :=
  .of ⟨{ devWorld devProgram with memory := devMemory },none⟩

theorem refused_starts_keep_iff_devRace :
    (Runs.Throughout (executionStep quietDrivers) (fun state => RunsAccepted state.shared) devRace devStart ∧
        Runs.Along (executionStep quietDrivers) (Interleaving.AtBodies (RefusalKeeps quietDrivers)) devRace devStart) ↔
      Runs.Along (executionStep quietDrivers) (Interleaving.AtBodies (FitsOrRepeats quietDrivers)) devRace devStart :=
  refused_starts_keep_iff (by decide) devRace

/-- The refused start leaves the execution of program 0 with the steps of program 1. -/
theorem refused_start_replaces :
    ¬(Runs.Throughout (executionStep quietDrivers) (fun state => RunsAccepted state.shared) devRace devStart ∧
      Runs.Along (executionStep quietDrivers) (Interleaving.AtBodies (RefusalKeeps quietDrivers)) devRace devStart) := by
  intro both
  obtain ⟨program,set,recorded⟩ := both.1 devRace [] rfl (by decide +kernel)
  have running : (Runs.after (executionStep quietDrivers) devRace devStart).shared.world.program = some 1 := by
    decide +kernel
  have accepted : (Runs.after (executionStep quietDrivers) devRace devStart).shared.accepted =
      some (0,programStartContextManual) := by decide +kernel
  cases running.symm.trans set
  cases accepted.symm.trans recorded

end Irrigation
