import Irrigation.ExecutionCalls
import Irrigation.ServiceRelations

/-! The starts and terminations that the program service publishes. A service is silent,
goes on with the execution, or ends it; what a body of the service does follows from what
it is made of. -/
namespace Irrigation

/-- The starts and terminations that were published, in order. -/
def World.executionLog {ε : Type} (world : World ε) : List EventType :=
  (world.events.map (·.type)).filter fun type => type = .programExecutionStarted ∨ type = .programExecutionTerminated

section Silence

variable {ε α β : Type} {first : Service ε α} {next : α → Service ε β}

/-- A service that publishes no start and no termination. -/
def Silent (service : Service ε α) : Prop := ∀ world, (service world).2.executionLog = world.executionLog

theorem Silent.bind (front : Silent first) (back : ∀ value, Silent (next value)) : Silent (first >>= next) := by
  intro world
  rw [run_bind,back,front]

theorem silent_pure (value : α) : Silent (pure value : Service ε α) := fun _ => rfl

theorem silent_snapshot : Silent (snapshot : Service ε RuntimeState) := fun _ => rfl

theorem silent_get : Silent (get : Service ε (World ε)) := fun _ => rfl

theorem Silent.ite {condition : Prop} [Decidable condition] {first second : Service ε α} (yes : Silent first)
    (no : Silent second) : Silent (if condition then first else second) := by
  split
  · exact yes
  · exact no

theorem silent_commit (operation : RuntimeState → Except IrrigationResult RuntimeState) :
    Silent (commit operation : Service ε IrrigationResult) := by
  intro world
  unfold commit
  split <;> rfl

variable (drivers : Drivers ε)

theorem silent_clock : Silent (clockNowMs drivers) := fun _ => rfl

theorem executionLog_publish (event : Event) (world : World ε) : (eventBusPublish event world).2.executionLog =
    world.executionLog ++
      [event.type].filter fun type => type = .programExecutionStarted ∨ type = .programExecutionTerminated := by
  simp [eventBusPublish,World.executionLog]

theorem silent_publish {event : Event} (other : event.type ≠ .programExecutionStarted)
    (another : event.type ≠ .programExecutionTerminated) : Silent (eventBusPublish event : Service ε Unit) := by
  intro world
  simp [executionLog_publish,other,another]

theorem silent_publishExecutionEvent {type : EventType} (result : ProgramExecutionResult) (stepIndex : Nat)
    (zoneId : Option CString) (other : type ≠ .programExecutionStarted)
    (another : type ≠ .programExecutionTerminated) :
    Silent (publishExecutionEvent drivers type result stepIndex zoneId) :=
  (silent_clock drivers).bind fun _ => silent_get.bind fun _ => silent_publish other another

/-- The devices are silent. -/
theorem deviceRelation_executionLog :
    DeviceRelation drivers fun before after => after.executionLog = before.executionLog where
  refl _ := rfl
  trans first second := second.trans first
  store _ _ := rfl
  clock _ := rfl
  device _ _ := rfl
  publish event zone := by
    refine silent_publish ?_ ?_
    · rintro started
      simp [EventType.OfZone,started] at zone
    · rintro terminated
      simp [EventType.OfZone,terminated] at zone

theorem silent_masterValveServiceOpen : Silent (masterValveServiceOpen drivers) :=
  (deviceRelation_executionLog drivers).masterValveServiceOpen

theorem silent_masterValveServiceProcessTime : Silent (masterValveServiceProcessTime drivers) :=
  (deviceRelation_executionLog drivers).masterValveServiceProcessTime

theorem silent_masterValveServiceClose : Silent (masterValveServiceClose drivers) :=
  (deviceRelation_executionLog drivers).masterValveServiceClose

theorem silent_zoneServiceOpen (zoneId : Option CString) (durationMs : UInt32) :
    Silent (zoneServiceOpen drivers zoneId durationMs) :=
  (deviceRelation_executionLog drivers).zoneServiceOpen zoneId durationMs

theorem silent_zoneServiceClose (zoneId : Option CString) : Silent (zoneServiceClose drivers zoneId) :=
  (deviceRelation_executionLog drivers).zoneServiceClose zoneId

end Silence

/-! ### The course of an execution -/

section Courses

variable {ε α β : Type}

/-- An active execution stays active, and nothing is published of it. -/
structure Ongoing (service : Service ε α) : Prop where
  silent : Silent service
  active : ∀ world, programIsActive world.store = true → programIsActive (service world).2.store = true

/-- One termination is published, and no execution is active after it. -/
structure Ends (before after : World ε) : Prop where
  log : after.executionLog = before.executionLog ++ [.programExecutionTerminated]
  inactive : programIsActive after.store = false

def Ending (service : Service ε α) : Prop := ∀ world, Ends world (service world).2

/-- An active execution goes on in silence, or ends with one termination. -/
def Course (service : Service ε α) : Prop := ∀ world, programIsActive world.store = true →
  ((service world).2.executionLog = world.executionLog ∧ programIsActive (service world).2.store = true) ∨
    Ends world (service world).2

variable {first : Service ε α} {next : α → Service ε β}

theorem Ongoing.bind (front : Ongoing first) (back : ∀ value, Ongoing (next value)) : Ongoing (first >>= next) :=
  ⟨front.silent.bind fun value => (back value).silent,
    fun world active => (back _).active _ (front.active world active)⟩

theorem Ongoing.ite {condition : Prop} [Decidable condition] {first second : Service ε α} (yes : Ongoing first)
    (no : Ongoing second) : Ongoing (if condition then first else second) := by
  split
  · exact yes
  · exact no

/-- A silent service that leaves the program's state alone. -/
theorem Ongoing.of_program {service : Service ε α} (silent : Silent service)
    (program : ∀ world, (service world).2.store.program = world.store.program) : Ongoing service := by
  refine ⟨silent,fun world active => ?_⟩
  rw [programIsActive,program]
  exact active

theorem Ongoing.course (ongoing : Ongoing first) : Course first :=
  fun world active => .inl ⟨ongoing.silent world,ongoing.active world active⟩

theorem Ending.course (ending : Ending first) : Course first := fun world _ => .inr (ending world)

theorem Course.ite {condition : Prop} [Decidable condition] {first second : Service ε α} (yes : Course first)
    (no : Course second) : Course (if condition then first else second) := by
  split
  · exact yes
  · exact no

theorem Ending.ite {condition : Prop} [Decidable condition] {first second : Service ε α} (yes : Ending first)
    (no : Ending second) : Ending (if condition then first else second) := by
  split
  · exact yes
  · exact no

theorem Ongoing.bind_course (front : Ongoing first) (back : ∀ value, Course (next value)) : Course (first >>= next) := by
  intro world active
  rw [run_bind,← front.silent world]
  rcases back (first world).1 (first world).2 (front.active world active) with goes | ends
  · exact .inl goes
  · exact .inr ⟨by rw [ends.log,front.silent world],ends.inactive⟩

theorem Silent.bind_ending (front : Silent first) (back : ∀ value, Ending (next value)) : Ending (first >>= next) := by
  intro world
  obtain ⟨log,inactive⟩ := back (first world).1 (first world).2
  exact ⟨by rw [run_bind,log,front],inactive⟩

/-- The answer of a body does not matter to the course. -/
theorem Ending.bind_pure (ending : Ending first) (answer : α → β) : Ending (first >>= fun value => pure (answer value)) :=
  ending

theorem ongoing_pure (value : α) : Ongoing (pure value : Service ε α) := ⟨silent_pure value,fun _ active => active⟩

theorem ongoing_snapshot : Ongoing (snapshot : Service ε RuntimeState) := ⟨silent_snapshot,fun _ active => active⟩

theorem ongoing_get : Ongoing (get : Service ε (World ε)) := ⟨silent_get,fun _ active => active⟩

theorem ongoing_runningZone (stepIndex : Nat) (startedAtMs : UInt64) :
    Ongoing (commit (stateStoreSetProgramRunningZone · stepIndex startedAtMs) : Service ε IrrigationResult) := by
  refine ⟨silent_commit _,fun world active => ?_⟩
  simp only [commit,stateStoreSetProgramRunningZone]
  split
  · rename_i accepted
    split at accepted
    · contradiction
    · cases accepted
      rfl
  · exact active

theorem ongoing_waitingPostDelay (startedAtMs : UInt64) :
    Ongoing (commit (stateStoreSetProgramWaitingPostDelay · startedAtMs) : Service ε IrrigationResult) := by
  refine ⟨silent_commit _,fun world active => ?_⟩
  simp only [commit,stateStoreSetProgramWaitingPostDelay]
  split
  · rename_i accepted
    split at accepted
    · contradiction
    · cases accepted
      rfl
  · exact active

variable (drivers : Drivers ε)

theorem ongoing_clock : Ongoing (clockNowMs drivers) := ⟨silent_clock drivers,fun _ active => active⟩

theorem ongoing_publishExecutionEvent {type : EventType} (result : ProgramExecutionResult) (stepIndex : Nat)
    (zoneId : Option CString) (other : type ≠ .programExecutionStarted)
    (another : type ≠ .programExecutionTerminated) :
    Ongoing (publishExecutionEvent drivers type result stepIndex zoneId) :=
  .of_program (silent_publishExecutionEvent drivers result stepIndex zoneId other another) fun world => by
    rw [(publishExecutionEvent_issued drivers type result stepIndex zoneId world).1]

theorem ongoing_masterValveServiceProcessTime : Ongoing (masterValveServiceProcessTime drivers) :=
  .of_program (silent_masterValveServiceProcessTime drivers) fun world => by
    rw [(masterValveServiceProcessTime_run drivers world).2.1,masterTimed_program]

theorem ongoing_masterValveServiceClose : Ongoing (masterValveServiceClose drivers) := by
  refine .of_program (silent_masterValveServiceClose drivers) fun world => ?_
  obtain ⟨_,closing,_⟩ := masterValveServiceClose_cases drivers world
  exact closing.program

theorem ongoing_zoneServiceOpen (zoneId : Option CString) (durationMs : UInt32) :
    Ongoing (zoneServiceOpen drivers zoneId durationMs) := by
  refine .of_program (silent_zoneServiceOpen drivers zoneId durationMs) fun world => ?_
  obtain ⟨_,opening,_⟩ := zoneServiceOpen_cases drivers zoneId durationMs world
  exact opening.program

theorem ongoing_zoneServiceClose (zoneId : Option CString) : Ongoing (zoneServiceClose drivers zoneId) := by
  refine .of_program (silent_zoneServiceClose drivers zoneId) fun world => ?_
  obtain ⟨_,closing,_⟩ := zoneServiceClose_cases drivers zoneId world
  exact closing.program

/-! ### Bodies -/

theorem finish_ending (terminalState : ProgramState) (historyResult : ProgramExecutionResult)
    (ends : terminalState = .completed ∨ terminalState = .aborted ∨ terminalState = .fault) :
    Ending (finish drivers terminalState historyResult) := by
  intro world
  constructor
  · have silent := silent_commit (ε := ε) (stateStoreSetProgramTerminal · terminalState) world
    simp only [finish,run_bind,publishExecutionEvent,executionLog_publish]
    rw [silent_get,silent_clock drivers,silent]
    rfl
  · rw [(finish_run drivers terminalState historyResult world ends).1]
    rcases ends with rfl | rfl | rfl <;> rfl

theorem fault_ending (result : IrrigationResult) : Ending (fault drivers result) := by
  have finishes : Ending (finish drivers .fault .fault >>= fun _ => pure result) :=
    (finish_ending drivers .fault .fault (by simp)).bind_pure _
  refine silent_snapshot.bind_ending fun state => Ending.ite ?_ ?_
  · exact (silent_masterValveServiceClose drivers).bind_ending fun _ => finishes
  · exact (silent_pure _).bind_ending fun _ => finishes

theorem openCurrentZone_course : Course (openCurrentZone drivers) := by
  refine ongoing_snapshot.bind_course fun state => ongoing_get.bind_course fun world => ?_
  refine (ongoing_zoneServiceOpen drivers _ _).bind_course fun opened => Course.ite ?_ ?_
  · exact (fault_ending drivers opened).course
  · refine Ongoing.course ((ongoing_clock drivers).bind fun now => (ongoing_runningZone _ _).bind fun result => .ite ?_ ?_)
    · exact (ongoing_publishExecutionEvent drivers _ _ _ (by decide) (by decide)).bind fun _ => ongoing_pure _
    · exact ongoing_pure _

theorem processWaitingMaster_course : Course (processWaitingMaster drivers) := by
  refine (ongoing_masterValveServiceProcessTime drivers).bind_course fun result => Course.ite ?_ ?_
  · exact (fault_ending drivers result).course
  · refine ongoing_snapshot.bind_course fun state => Course.ite (openCurrentZone_course drivers) (Course.ite ?_ ?_)
    · exact (fault_ending drivers _).course
    · exact (ongoing_pure result).course

theorem completeCurrentStep_course (state : RuntimeState) (step : ProgramStep) :
    Course (completeCurrentStep drivers state step) := by
  refine (ongoing_zoneServiceClose drivers _).bind_course fun closed => Course.ite ?_ ?_
  · exact (fault_ending drivers closed).course
  · refine ongoing_get.bind_course fun world => ?_
    refine (ongoing_publishExecutionEvent drivers _ _ _ (by decide) (by decide)).bind_course fun _ => ?_
    refine (ongoing_clock drivers).bind_course fun now => Course.ite ?_ ?_
    · exact (ongoing_runningZone _ _).bind_course fun _ => openCurrentZone_course drivers
    · exact (ongoing_waitingPostDelay _).course

theorem processRunningZone_course (state : RuntimeState) : Course (processRunningZone drivers state) := by
  refine ongoing_get.bind_course fun world => (ongoing_clock drivers).bind_course fun now => Course.ite ?_ ?_
  · exact completeCurrentStep_course drivers state _
  · exact (ongoing_pure _).course

theorem processWaitingPostProgramDelay_course (state : RuntimeState) :
    Course (processWaitingPostProgramDelay drivers state) := by
  refine ongoing_get.bind_course fun world => (ongoing_clock drivers).bind_course fun now => Course.ite ?_ ?_
  · refine (ongoing_masterValveServiceClose drivers).bind_course fun result => Ending.course ?_
    exact (finish_ending drivers .completed .completed (by simp)).bind_pure _
  · exact (ongoing_pure _).course

theorem process_course : Course (programServiceProcessLocked drivers) := by
  refine ongoing_snapshot.bind_course fun state => ?_
  cases state.program.state with
  | waitingMaster => exact processWaitingMaster_course drivers
  | runningZone => exact processRunningZone_course drivers state
  | waitingPostProgramDelay => exact processWaitingPostProgramDelay_course drivers state
  | _ => exact (ongoing_pure _).course

/-- A poll of an ended execution does nothing. -/
theorem process_inactive {world : World ε} (inactive : programIsActive world.store = false) :
    (programServiceProcessLocked drivers world).2 = world := by
  cases state : world.store.program.state <;>
    simp [programIsActive,state] at inactive <;>
    simp only [programServiceProcessLocked,run_snapshot_bind,state,run_pure]

/-- An abort publishes a termination, whether or not there is an execution to end. -/
theorem abort_ending (state : RuntimeState) : Ending (programServiceAbortLocked drivers state) := by
  have master : ∀ closed, Ending (abortMasterValve drivers closed) := by
    intro closed
    have finishes : ∀ result : IrrigationResult, Ending (if result = .ok then do
        finish drivers .aborted .aborted
        pure result else do
        finish drivers .fault .fault
        pure result) := by
      intro result
      refine .ite ?_ ?_
      · exact (finish_ending drivers .aborted .aborted (by simp)).bind_pure _
      · exact (finish_ending drivers .fault .fault (by simp)).bind_pure _
    refine silent_snapshot.bind_ending fun state => Ending.ite ?_ ?_
    · exact (silent_masterValveServiceClose drivers).bind_ending finishes
    · exact (silent_pure _).bind_ending finishes
  refine silent_get.bind_ending fun world => Ending.ite ?_ ?_
  · exact (silent_zoneServiceClose drivers _).bind_ending master
  · exact (silent_pure _).bind_ending master

end Courses

end Irrigation
