import Irrigation.ExecutionHistory
import Irrigation.ServiceRelations

/-! What each operation announces of executions and zones, with the program state it
leaves: every exit of the program service publishes its events in one fixed order. -/
namespace Irrigation

/-- What an event says of a zone or an execution. -/
inductive Announcement where
  | opened | closed | started
  | stepStarted (zoneId : Option CString)
  | stepCompleted
  | terminated (result : ProgramExecutionResult)
  deriving DecidableEq, Repr

def announcementOf (type : EventType) (zoneId : Option CString) (result : ProgramExecutionResult) : Option Announcement :=
  match type with
  | .zoneOpened => some .opened
  | .zoneClosed => some .closed
  | .programExecutionStarted => some .started
  | .programExecutionStepStarted => some (.stepStarted zoneId)
  | .programExecutionStepCompleted => some .stepCompleted
  | .programExecutionTerminated => some (.terminated result)
  | _ => none

def Event.announcement (event : Event) : Option Announcement :=
  announcementOf event.type event.zoneId event.programFields.executionResult

/-- Everything that was announced, in order. -/
def World.told {ε : Type} (world : World ε) : List Announcement := world.events.filterMap Event.announcement

section Tellings

variable {ε α β : Type}

/-- What a service announces goes by what it returns. -/
def Tells (service : Service ε α) (said : α → List Announcement) : Prop :=
  ∀ world, (service world).2.told = world.told ++ said (service world).1

abbrev Mute (service : Service ε α) : Prop := Tells service fun _ => []

variable {first : Service ε α} {next : α → Service ε β} {said : β → List Announcement}

theorem Mute.bind (front : Mute first) (back : ∀ value, Tells (next value) said) : Tells (first >>= next) said := by
  intro world
  rw [run_bind,back,front,List.append_nil]

theorem Tells.ite {condition : Prop} [Decidable condition] {first second : Service ε α} {said : α → List Announcement}
    (yes : condition → Tells first said) (no : ¬condition → Tells second said) :
    Tells (if condition then first else second) said := by
  split
  · exact yes (by assumption)
  · exact no (by assumption)

theorem Tells.pure {value : α} {said : α → List Announcement} (nothing : said value = []) :
    Tells (pure value : Service ε α) said := by
  intro world
  rw [run_pure,nothing,List.append_nil]

theorem mute_pure (value : α) : Mute (pure value : Service ε α) := .pure rfl

theorem mute_snapshot : Mute (snapshot : Service ε RuntimeState) := fun world => (List.append_nil world.told).symm

theorem mute_get : Mute (get : Service ε (World ε)) := fun world => (List.append_nil world.told).symm

theorem mute_commit (operation : RuntimeState → Except IrrigationResult RuntimeState) :
    Mute (commit operation : Service ε IrrigationResult) := by
  intro world
  rw [List.append_nil]
  unfold commit
  split <;> rfl

variable (drivers : Drivers ε)

theorem mute_clock : Mute (clockNowMs drivers) := fun world => (List.append_nil world.told).symm

theorem mute_perform (command : DriverCommand) : Mute (perform drivers command) :=
  fun world => (List.append_nil world.told).symm

theorem tells_publish (event : Event) :
    Tells (eventBusPublish event : Service ε Unit) fun _ => event.announcement.toList := by
  intro world
  simp only [World.told,eventBusPublish,List.filterMap_append]
  cases said : event.announcement <;> simp [said]

/-! ### Zones and the master valve -/

def onSuccess (announcement : Announcement) (result : IrrigationResult) : List Announcement :=
  if result = .ok then [announcement] else []

theorem onSuccess_failed (announcement : Announcement) {result : IrrigationResult} (failed : result ≠ .ok) :
    onSuccess announcement result = [] := if_neg failed

theorem mute_recordMasterValveFault (result : IrrigationResult) : Mute (if result ≠ .ok then do
    let _ ← (commit stateStoreRecordMasterValveFault : Service ε IrrigationResult)
    pure result else pure result) :=
  .ite (fun _ => (mute_commit _).bind fun _ => mute_pure _) fun _ => mute_pure _

theorem mute_masterValveServiceOpen : Mute (masterValveServiceOpen drivers) := by
  refine mute_snapshot.bind fun state => .ite (fun _ => mute_pure _) fun _ => ?_
  refine (mute_perform drivers _).bind fun confirmed => Tells.ite (fun _ => ?_) fun _ => ?_
  · refine (mute_clock drivers).bind fun now => (mute_commit _).bind fun result => ?_
    exact mute_recordMasterValveFault result
  · exact (mute_pure _).bind fun result => mute_recordMasterValveFault result

theorem mute_masterValveServiceProcessTime : Mute (masterValveServiceProcessTime drivers) := by
  refine mute_snapshot.bind fun state => .ite (fun _ => ?_) fun _ => mute_pure _
  exact (mute_clock drivers).bind fun _ => (mute_commit _).bind fun _ => mute_pure _

theorem mute_masterValveServiceClose : Mute (masterValveServiceClose drivers) := by
  refine (mute_commit _).bind fun begun => .ite (fun _ => mute_pure _) fun _ => ?_
  refine (mute_perform drivers _).bind fun confirmed => Tells.ite (fun _ => ?_) fun _ => ?_
  · exact (mute_commit _).bind fun result => mute_recordMasterValveFault result
  · exact (mute_pure _).bind fun result => mute_recordMasterValveFault result

theorem tells_publishZoneEvent (type : EventType) (zoneId : CString) : Tells (publishZoneEvent drivers type zoneId)
    fun _ => (announcementOf type (some zoneId) .completed).toList :=
  (mute_clock drivers).bind fun _ => tells_publish _

theorem mute_faultZone (zoneId : CString) (outputState : OutputState) :
    Mute (faultZone drivers zoneId outputState) := by
  refine (mute_commit _).bind fun result => .ite (fun _ => ?_) fun _ => mute_pure _
  have faulted : Mute (publishZoneEvent drivers .zoneFaulted zoneId) :=
    tells_publishZoneEvent drivers .zoneFaulted zoneId
  exact faulted.bind fun _ => mute_pure _

theorem Tells.bind_pure {service : Service ε Unit} {announcement : Announcement}
    (announces : Tells service fun _ => [announcement]) :
    Tells (service >>= fun _ => Pure.pure IrrigationResult.ok) (onSuccess announcement) := announces

theorem tells_zoneServiceActuateOpen (zoneId : CString) (durationMs : UInt32) :
    Tells (zoneServiceActuateOpen drivers zoneId durationMs) (onSuccess .opened) := by
  refine mute_snapshot.bind fun state => ?_
  cases prepared : stateStorePrepareZoneOpen state zoneId with
  | error result =>
    have failed : result ≠ .ok := by
      unfold stateStorePrepareZoneOpen at prepared
      repeat' split at prepared
      all_goals cases prepared
      all_goals decide
    exact .pure (onSuccess_failed _ failed)
  | ok output =>
    refine (mute_perform drivers _).bind fun driven => .ite (fun failed => ?_) fun _ => ?_
    · exact (mute_perform drivers _).bind fun _ => (mute_faultZone drivers _ _).bind fun _ =>
        .pure (onSuccess_failed _ failed)
    · refine (mute_clock drivers).bind fun now => (mute_commit _).bind fun result => .ite (fun failed => ?_) fun _ => ?_
      · exact (mute_perform drivers _).bind fun _ => (mute_faultZone drivers _ _).bind fun _ =>
          .pure (onSuccess_failed _ failed)
      · exact Tells.bind_pure (tells_publishZoneEvent drivers .zoneOpened zoneId)

/-- An open announces the opening exactly when it succeeds. -/
theorem tells_zoneServiceOpen (zoneId : Option CString) (durationMs : UInt32) :
    Tells (zoneServiceOpen drivers zoneId durationMs) (onSuccess .opened) := by
  cases zoneId with
  | none => exact .pure rfl
  | some zoneId =>
    refine mute_snapshot.bind fun state => ?_
    cases found : stateStoreGetZone state zoneId with
    | error result =>
      have failed : result ≠ .ok := by
        unfold stateStoreGetZone at found
        split at found <;> cases found
        decide
      exact .pure (onSuccess_failed _ failed)
    | ok zone =>
      refine .ite (fun _ => .pure rfl) fun _ => .ite (fun _ => .pure rfl) fun _ => .ite (fun _ => .pure rfl) fun _ => ?_
      have checked : Mute (masterValveServiceCheckZoneStart : Service ε IrrigationResult) :=
        mute_snapshot.bind fun _ => mute_pure _
      refine checked.bind fun precondition => .ite (fun failed => .pure (onSuccess_failed _ failed)) fun _ => ?_
      have actuated : ∀ transition : IrrigationResult, Tells (if transition ≠ .ok then pure transition
          else zoneServiceActuateOpen drivers zoneId durationMs) (onSuccess .opened) := fun transition =>
        .ite (fun failed => .pure (onSuccess_failed _ failed)) fun _ => tells_zoneServiceActuateOpen drivers zoneId durationMs
      exact .ite (fun _ => (mute_commit _).bind actuated) fun _ => (mute_pure _).bind actuated

/-- A close announces the closing exactly when it succeeds. -/
theorem tells_zoneServiceClose (zoneId : Option CString) :
    Tells (zoneServiceClose drivers zoneId) (onSuccess .closed) := by
  cases zoneId with
  | none => exact .pure rfl
  | some zoneId =>
    refine mute_snapshot.bind fun state => ?_
    cases found : stateStoreGetZone state zoneId with
    | error result =>
      have failed : result ≠ .ok := by
        unfold stateStoreGetZone at found
        split at found <;> cases found
        decide
      exact .pure (onSuccess_failed _ failed)
    | ok zone =>
      refine .ite (fun _ => .pure rfl) fun _ => (mute_perform drivers _).bind fun driven => .ite (fun failed => ?_) fun _ => ?_
      · exact (mute_faultZone drivers _ _).bind fun _ => .pure (onSuccess_failed _ failed)
      · refine (mute_commit _).bind fun result => .ite (fun ok => ?_) fun failed => .pure (onSuccess_failed _ failed)
        subst ok
        exact Tells.bind_pure (tells_publishZoneEvent drivers .zoneClosed zoneId)

end Tellings

/-! ### The program service -/

/-- From one world to the next this was announced, and the program's state became this one;
the program of the service is the same. -/
structure Narrated {ε : Type} (world next : World ε) (told : List Announcement) (state : ProgramRuntimeState) : Prop where
  told : next.told = world.told ++ told
  state : next.store.program = state
  program : next.program = world.program
  startContext : next.startContext = world.startContext
  memory : next.memory = world.memory

section Stories

variable {ε : Type} {drivers : Drivers ε} {world middle next : World ε} {first second : List Announcement}
  {state reached : ProgramRuntimeState} {issued : List DriverCall}

theorem Narrated.trans (front : Narrated world middle first reached) (back : Narrated middle next second state) :
    Narrated world next (first ++ second) state where
  told := by rw [back.told,front.told,List.append_assoc]
  state := back.state
  program := back.program.trans front.program
  startContext := back.startContext.trans front.startContext
  memory := back.memory.trans front.memory

theorem Narrated.currentProgram (narrated : Narrated world next first state) :
    next.currentProgram = world.currentProgram := by
  simp only [World.currentProgram,narrated.program,narrated.memory]

theorem Narrated.of_issued (issued : Issued drivers world next issued) (told : next.told = world.told ++ first)
    (stored : next.store.program = state) : Narrated world next first state :=
  ⟨told,stored,issued.program,issued.startContext,issued.memory⟩

theorem Narrated.refl (world : World ε) : Narrated world world [] world.store.program :=
  ⟨(List.append_nil _).symm,rfl,rfl,rfl,rfl⟩

theorem Narrated.store (world : World ε) (store : RuntimeState) : Narrated world { world with store } [] store.program :=
  ⟨(List.append_nil _).symm,rfl,rfl,rfl,rfl⟩

variable (drivers)

theorem zoneServiceOpen_narrated (zoneId : Option CString) (durationMs : UInt32) (world : World ε) :
    Narrated world (zoneServiceOpen drivers zoneId durationMs world).2
      (onSuccess .opened (zoneServiceOpen drivers zoneId durationMs world).1) world.store.program := by
  obtain ⟨_,opening,back⟩ := zoneServiceOpen_cases drivers zoneId durationMs world
  exact .of_issued back (tells_zoneServiceOpen drivers zoneId durationMs world) opening.program

theorem zoneServiceClose_narrated (zoneId : Option CString) (world : World ε) :
    Narrated world (zoneServiceClose drivers zoneId world).2
      (onSuccess .closed (zoneServiceClose drivers zoneId world).1) world.store.program := by
  obtain ⟨_,closing,back⟩ := zoneServiceClose_cases drivers zoneId world
  exact .of_issued back (tells_zoneServiceClose drivers zoneId world) closing.program

theorem masterValveServiceOpen_narrated (world : World ε) :
    Narrated world (masterValveServiceOpen drivers world).2 [] world.store.program := by
  obtain ⟨_,opening,back⟩ := masterValveServiceOpen_cases drivers world
  exact .of_issued back (mute_masterValveServiceOpen drivers world) opening.program

theorem masterValveServiceClose_narrated (world : World ε) :
    Narrated world (masterValveServiceClose drivers world).2 [] world.store.program := by
  obtain ⟨_,closing,back⟩ := masterValveServiceClose_cases drivers world
  exact .of_issued back (mute_masterValveServiceClose drivers world) closing.program

theorem masterValveServiceProcessTime_narrated (world : World ε) :
    Narrated world (masterValveServiceProcessTime drivers world).2 [] world.store.program := by
  obtain ⟨_,stored,back⟩ := masterValveServiceProcessTime_run drivers world
  refine .of_issued back (mute_masterValveServiceProcessTime drivers world) ?_
  rw [stored,masterTimed_program]

theorem clockNowMs_narrated (world : World ε) : Narrated world (clockNowMs drivers world).2 [] world.store.program :=
  ⟨(List.append_nil _).symm,rfl,rfl,rfl,rfl⟩

theorem publishExecutionEvent_narrated (type : EventType) (result : ProgramExecutionResult) (stepIndex : Nat)
    (zoneId : Option CString) (world : World ε) :
    Narrated world (publishExecutionEvent drivers type result stepIndex zoneId world).2
      (announcementOf type zoneId result).toList world.store.program := by
  obtain ⟨stored,back⟩ := publishExecutionEvent_issued drivers type result stepIndex zoneId world
  refine .of_issued back ?_ (congrArg RuntimeState.program stored)
  have tells : Tells (publishExecutionEvent drivers type result stepIndex zoneId)
      fun _ => (announcementOf type zoneId result).toList :=
    (mute_clock drivers).bind fun _ => mute_get.bind fun _ => tells_publish _
  exact tells world

theorem finish_narrated (terminalState : ProgramState) (historyResult : ProgramExecutionResult) (world : World ε)
    (ends : terminalState = .completed ∨ terminalState = .aborted ∨ terminalState = .fault) :
    Narrated world (finish drivers terminalState historyResult world).2 [.terminated historyResult]
      { world.store.program with state := terminalState } := by
  obtain ⟨stored,back⟩ := finish_run drivers terminalState historyResult world ends
  refine .of_issued back ?_ (congrArg RuntimeState.program stored)
  have tells : Tells (finish drivers terminalState historyResult) fun _ => [.terminated historyResult] := by
    refine (mute_commit _).bind fun _ => ?_
    exact fun world => (publishExecutionEvent_narrated drivers .programExecutionTerminated historyResult 0 none world).told
  exact tells world

theorem fault_narrated (result : IrrigationResult) (world : World ε) :
    Narrated world (fault drivers result world).2 [.terminated .fault] { world.store.program with state := .fault } := by
  by_cases eligible : stateStoreMasterValveCloseIsEligible world.store
  · have closed := masterValveServiceClose_narrated drivers world
    have finished := finish_narrated drivers .fault .fault (masterValveServiceClose drivers world).2 (by simp)
    rw [closed.state] at finished
    simp only [fault,run_snapshot_bind,eligible,if_true]
    exact closed.trans finished
  · simp only [fault,run_snapshot_bind,eligible,if_false]
    exact finish_narrated drivers .fault .fault world (by simp)

/-- The opening of a step: it runs, or the program faults. -/
inductive StepStory (program : Program) (before : ProgramRuntimeState) : List Announcement → ProgramRuntimeState → Prop
  | running (startedAtMs : UInt64) : StepStory program before
      [.opened,.stepStarted (program.step before.currentStepIndex).zoneId]
      ⟨.runningZone,before.currentStepIndex,startedAtMs⟩
  | faulted : StepStory program before [.terminated .fault] { before with state := .fault }

theorem openCurrentZone_story (world : World ε)
    (active : world.store.program.state = .waitingMaster ∨ world.store.program.state = .runningZone) :
    ∃ told state, StepStory world.currentProgram world.store.program told state ∧
      Narrated world (openCurrentZone drivers world).2 told state := by
  obtain ⟨step,stepEq⟩ : ∃ step, step = world.currentProgram.step world.store.program.currentStepIndex := ⟨_,rfl⟩
  have opening := zoneServiceOpen_narrated drivers step.zoneId step.durationMs world
  simp only [openCurrentZone,run_snapshot_bind,run_get_bind,← stepEq]
  cases run : zoneServiceOpen drivers step.zoneId step.durationMs world with
  | mk result opened =>
    rw [run] at opening
    by_cases ok : result = .ok
    · subst ok
      have reading := clockNowMs_narrated drivers opened
      cases clock : clockNowMs drivers opened with
      | mk now read =>
        rw [clock,opening.state] at reading
        have kept : read.store.program = world.store.program := reading.state
        have committed := commit_runningZone world.store.program.currentStepIndex now (kept ▸ active)
        simp only [run_bind_of run,ne_eq,not_true_eq_false,if_false,run_bind_of clock,run_bind_of committed,if_true,
          run_ite]
        have stored := (opening.trans reading).trans (.store read { read.store with
          program := ⟨.runningZone,world.store.program.currentStepIndex,now⟩ })
        have published := stored.trans (publishExecutionEvent_narrated drivers .programExecutionStepStarted .fault
          world.store.program.currentStepIndex step.zoneId _)
        refine ⟨_,_,.running now,?_⟩
        rw [← stepEq]
        exact published
    · simp only [run_bind_of run,ne_eq,ok,not_false_eq_true,run_ite,if_true]
      have failed := fault_narrated drivers result opened
      rw [opening.state] at failed
      rw [onSuccess_failed _ ok] at opening
      exact ⟨_,_,.faulted,opening.trans failed⟩

/-- A poll of the program. -/
inductive PollStory (program : Program) (before : ProgramRuntimeState) : List Announcement → ProgramRuntimeState → Prop
  | waited : PollStory program before [] before
  | entered (state : before.state = .waitingMaster) {told : List Announcement} {after : ProgramRuntimeState}
      (step : StepStory program before told after) : PollStory program before told after
  | broke (active : before.state = .waitingMaster ∨ before.state = .runningZone) :
      PollStory program before [.terminated .fault] { before with state := .fault }
  | advanced (state : before.state = .runningZone) (more : before.currentStepIndex + 1 < program.steps.length)
      {startedAtMs : UInt64} {told : List Announcement} {after : ProgramRuntimeState}
      (step : StepStory program ⟨.runningZone,before.currentStepIndex + 1,startedAtMs⟩ told after) :
      PollStory program before ([.closed,.stepCompleted] ++ told) after
  | finished (state : before.state = .runningZone) (last : ¬before.currentStepIndex + 1 < program.steps.length)
      (startedAtMs : UInt64) : PollStory program before [.closed,.stepCompleted]
      ⟨.waitingPostProgramDelay,before.currentStepIndex,startedAtMs⟩
  | completed (state : before.state = .waitingPostProgramDelay) :
      PollStory program before [.terminated .completed] { before with state := .completed }

theorem processWaitingMaster_story (world : World ε) (state : world.store.program.state = .waitingMaster) :
    ∃ told after, PollStory world.currentProgram world.store.program told after ∧
      Narrated world (processWaitingMaster drivers world).2 told after := by
  have timing := masterValveServiceProcessTime_narrated drivers world
  obtain ⟨ok,_,_⟩ := masterValveServiceProcessTime_run drivers world
  cases run : masterValveServiceProcessTime drivers world with
  | mk result timed =>
    rw [run] at timing ok
    cases ok
    have kept : timed.store.program = world.store.program := timing.state
    have program : timed.currentProgram = world.currentProgram := timing.currentProgram
    simp only [processWaitingMaster,run_bind_of run,ne_eq,not_true_eq_false,if_false,run_snapshot_bind,run_ite]
    split
    · obtain ⟨told,after,step,opening⟩ := openCurrentZone_story drivers timed (by rw [kept]; exact .inl state)
      rw [kept,program] at step
      exact ⟨told,after,.entered state step,timing.trans opening⟩
    · split
      · have failed := fault_narrated drivers .invalidState timed
        rw [kept] at failed
        exact ⟨_,_,.broke (.inl state),timing.trans failed⟩
      · exact ⟨_,_,.waited,timing⟩

theorem completeCurrentStep_story (world : World ε) (state : world.store.program.state = .runningZone) :
    ∃ told after, PollStory world.currentProgram world.store.program told after ∧
      Narrated world (completeCurrentStep drivers world.store
        (world.currentProgram.step world.store.program.currentStepIndex) world).2 told after := by
  obtain ⟨step,stepEq⟩ : ∃ step, step = world.currentProgram.step world.store.program.currentStepIndex := ⟨_,rfl⟩
  have closing := zoneServiceClose_narrated drivers step.zoneId world
  cases run : zoneServiceClose drivers step.zoneId world with
  | mk result closed =>
    rw [run] at closing
    rw [← stepEq]
    by_cases ok : result = .ok
    · subst ok
      have completing := closing.trans (publishExecutionEvent_narrated drivers .programExecutionStepCompleted .fault
        world.store.program.currentStepIndex step.zoneId closed)
      cases event : publishExecutionEvent drivers .programExecutionStepCompleted .fault
          world.store.program.currentStepIndex step.zoneId closed with
      | mk value published =>
        rw [event] at completing
        have reading := completing.trans (clockNowMs_narrated drivers published)
        cases clock : clockNowMs drivers published with
        | mk now read =>
          rw [clock,completing.state,closing.state] at reading
          have kept : read.store.program = world.store.program := reading.state
          have active : read.store.program.state = .runningZone := by rw [kept,state]
          simp only [completeCurrentStep,run_bind_of run,ne_eq,not_true_eq_false,if_false,run_get_bind,
            run_bind_of event,run_bind_of clock,run_ite,closing.currentProgram]
          by_cases more : world.store.program.currentStepIndex + 1 < world.currentProgram.steps.length
          · have committed := commit_runningZone (world.store.program.currentStepIndex + 1) now (.inr active)
            have stored := reading.trans (.store read { read.store with
              program := ⟨.runningZone,world.store.program.currentStepIndex + 1,now⟩ })
            obtain ⟨told,after,opening,opened⟩ := openCurrentZone_story drivers { read with store := { read.store with
              program := ⟨.runningZone,world.store.program.currentStepIndex + 1,now⟩ } } (.inr rfl)
            rw [stored.currentProgram] at opening
            simp only [more,if_true,run_bind_of committed]
            exact ⟨_,after,.advanced state more opening,stored.trans opened⟩
          · have committed := commit_waitingPostDelay now active
            rw [kept] at committed
            have stored := reading.trans (.store read { read.store with
              program := ⟨.waitingPostProgramDelay,world.store.program.currentStepIndex,now⟩ })
            simp only [more,if_false,committed]
            exact ⟨_,_,.finished state more now,stored⟩
    · simp only [completeCurrentStep,run_bind_of run,ne_eq,ok,not_false_eq_true,if_true,run_ite]
      have failed := fault_narrated drivers result closed
      rw [closing.state] at failed
      rw [onSuccess_failed _ ok] at closing
      exact ⟨_,_,.broke (.inr state),closing.trans failed⟩

theorem programServiceProcess_story (world : World ε) :
    ∃ told after, PollStory world.currentProgram world.store.program told after ∧
      Narrated world (programServiceProcess drivers world).2 told after := by
  cases state : world.store.program.state with
  | waitingMaster =>
    simp only [programServiceProcess,run_snapshot_bind,state]
    exact processWaitingMaster_story drivers world state
  | runningZone =>
    have reading := clockNowMs_narrated drivers world
    cases clock : clockNowMs drivers world with
    | mk now read =>
      rw [clock] at reading
      have kept : read.store = world.store := (clockNowMs_run drivers clock).1
      have program : read.currentProgram = world.currentProgram := reading.currentProgram
      simp only [programServiceProcess,run_snapshot_bind,state,processRunningZone,run_get_bind,run_bind_of clock,run_ite]
      split
      · obtain ⟨told,after,step,completed⟩ := completeCurrentStep_story drivers read (by rw [kept]; exact state)
        rw [kept,program] at step completed
        exact ⟨told,after,step,reading.trans completed⟩
      · exact ⟨_,_,.waited,reading⟩
  | waitingPostProgramDelay =>
    have reading := clockNowMs_narrated drivers world
    cases clock : clockNowMs drivers world with
    | mk now read =>
      rw [clock] at reading
      simp only [programServiceProcess,run_snapshot_bind,state,processWaitingPostProgramDelay,run_get_bind,
        run_bind_of clock,run_ite]
      split
      · have closed := reading.trans (masterValveServiceClose_narrated drivers read)
        have finished := finish_narrated drivers .completed .completed (masterValveServiceClose drivers read).2 (by simp)
        rw [closed.state,reading.state] at finished
        exact ⟨_,_,.completed state,closed.trans finished⟩
      · exact ⟨_,_,.waited,reading⟩
  | _ =>
    simp only [programServiceProcess,run_snapshot_bind,state,run_pure]
    exact ⟨_,_,.waited,.refl world⟩

/-- An abort of an execution: a running step's zone may be closed, then the execution ends. -/
inductive AbortStory (before : ProgramRuntimeState) : List Announcement → ProgramRuntimeState → Prop
  | ended {closing : List Announcement} (zones : ∀ announcement ∈ closing, announcement = .closed) {result : ProgramExecutionResult}
      {state : ProgramState} (ends : (result = .aborted ∧ state = .aborted) ∨ (result = .fault ∧ state = .fault)) :
      AbortStory before (closing ++ [.terminated result]) { before with state }

theorem abortMasterValve_narrated (closed : IrrigationResult) (world : World ε) :
    ∃ result state, ((result = .aborted ∧ state = .aborted) ∨ (result = .fault ∧ state = .fault)) ∧
      Narrated world (abortMasterValve drivers closed world).2 [.terminated result]
        { world.store.program with state := state } := by
  have ended : ∀ (result : IrrigationResult) (closed : World ε), ∃ historyResult state,
      ((historyResult = .aborted ∧ state = .aborted) ∨ (historyResult = .fault ∧ state = .fault)) ∧
        Narrated closed ((if result = .ok then do
          finish drivers .aborted .aborted
          pure result else do
          finish drivers .fault .fault
          pure result : Service ε IrrigationResult) closed).2 [.terminated historyResult]
          { closed.store.program with state := state } := by
    intro result closed
    by_cases ok : result = .ok
    · rw [if_pos ok]
      exact ⟨_,_,.inl ⟨rfl,rfl⟩,finish_narrated drivers .aborted .aborted closed (by simp)⟩
    · rw [if_neg ok]
      exact ⟨_,_,.inr ⟨rfl,rfl⟩,finish_narrated drivers .fault .fault closed (by simp)⟩
  simp only [abortMasterValve,run_snapshot_bind]
  by_cases closes : closed = .ok ∧ world.store.masterValve.state ≠ .closed
  · rw [if_pos closes]
    have closing := masterValveServiceClose_narrated drivers world
    obtain ⟨result,state,ends,finished⟩ :=
      ended (masterValveServiceClose drivers world).1 (masterValveServiceClose drivers world).2
    rw [closing.state] at finished
    exact ⟨result,state,ends,closing.trans finished⟩
  · rw [if_neg closes]
    exact ended closed world

theorem programServiceAbort_story (world : World ε) :
    (programIsActive world.store = false ∧ programServiceAbort drivers world = (.rejected,world)) ∨
    (programIsActive world.store = true ∧ ∃ told after, AbortStory world.store.program told after ∧
      Narrated world (programServiceAbort drivers world).2 told after) := by
  cases active : programIsActive world.store with
  | false =>
    simp only [programServiceAbort,run_snapshot_bind,active,run_ite,Bool.false_eq_true,if_false,run_pure]
    exact .inl ⟨trivial,trivial⟩
  | true =>
    refine .inr ⟨rfl,?_⟩
    simp only [programServiceAbort,run_snapshot_bind,active,run_ite,if_true,programServiceAbortLocked,run_get_bind]
    by_cases running : world.store.program.state = .runningZone
    · have closing := zoneServiceClose_narrated drivers
        (world.currentProgram.step world.store.program.currentStepIndex).zoneId world
      obtain ⟨result,state,ends,finished⟩ := abortMasterValve_narrated drivers
        (zoneServiceClose drivers (world.currentProgram.step world.store.program.currentStepIndex).zoneId world).1
        (zoneServiceClose drivers (world.currentProgram.step world.store.program.currentStepIndex).zoneId world).2
      rw [closing.state] at finished
      simp only [running,if_true,run_bind]
      refine ⟨_,_,.ended ?_ ends,closing.trans finished⟩
      unfold onSuccess
      split <;> simp
    · obtain ⟨result,state,ends,finished⟩ := abortMasterValve_narrated drivers .ok world
      simp only [running,if_false,run_pure_bind]
      have none : ∀ announcement ∈ ([] : List Announcement), announcement = .closed := by simp
      exact ⟨_,_,.ended none ends,finished⟩

/-- A start that holds the lock. -/
inductive StartStory (before : ProgramRuntimeState) : List Announcement → ProgramRuntimeState → Prop
  | refused (busy : before.state ≠ .idle ∧ before.state ≠ .completed ∧ before.state ≠ .aborted) :
      StartStory before [] before
  | started (free : before.state = .idle ∨ before.state = .completed ∨ before.state = .aborted) :
      StartStory before [.started] ⟨.waitingMaster,0,0⟩
  | failed (free : before.state = .idle ∨ before.state = .completed ∨ before.state = .aborted) :
      StartStory before [.started,.terminated .fault] ⟨.fault,0,0⟩

theorem programServiceStartLocked_story (address : ProgramAddress) (context : ProgramStartContext) (world : World ε) :
    ∃ told after, StartStory world.store.program told after ∧
      Narrated { world with program := some address, startContext := context }
        (programServiceStartLocked drivers address context world).2 told after := by
  obtain ⟨set,setEq⟩ : ∃ set, set = { world with program := some address, startContext := context } := ⟨_,rfl⟩
  have run : setServiceProgram address context world = ((),set) := by rw [setEq]; rfl
  have same : set.store = world.store := by rw [setEq]
  rw [← setEq,← same]
  by_cases busy : set.store.program.state ≠ .idle ∧ set.store.program.state ≠ .completed ∧
      set.store.program.state ≠ .aborted
  · have refused : stateStoreStartProgram set.store = .error .invalidState := if_pos busy
    simp only [programServiceStartLocked,run_bind_of run,run_bind_of (run_commit_error refused),run_ite]
    exact ⟨_,_,.refused busy,.refl set⟩
  · have accepted : stateStoreStartProgram set.store = .ok { set.store with program := ⟨.waitingMaster,0,0⟩ } :=
      if_neg busy
    have free : set.store.program.state = .idle ∨ set.store.program.state = .completed ∨
        set.store.program.state = .aborted := by tauto
    have stored := Narrated.store set { set.store with program := ⟨.waitingMaster,0,0⟩ }
    have published := stored.trans (publishExecutionEvent_narrated drivers .programExecutionStarted .fault 0 none
      { set with store := { set.store with program := ⟨.waitingMaster,0,0⟩ } })
    simp only [programServiceStartLocked,run_bind_of run,run_bind_of (run_commit_ok accepted),run_ite,ne_eq,
      not_true_eq_false,if_false]
    cases event : publishExecutionEvent drivers .programExecutionStarted .fault 0 none
        { set with store := { set.store with program := ⟨.waitingMaster,0,0⟩ } } with
    | mk value reached =>
      rw [event] at published
      have opening := published.trans (masterValveServiceOpen_narrated drivers reached)
      cases master : masterValveServiceOpen drivers reached with
      | mk result opened =>
        rw [master,published.state] at opening
        simp only [run_bind_of event,run_bind_of master,run_ite]
        split
        · have failed := finish_narrated drivers .fault .fault opened (by simp)
          rw [opening.state] at failed
          exact ⟨_,_,.failed free,opening.trans failed⟩
        · exact ⟨_,_,.started free,opening⟩

end Stories

/-! ### Operations -/

def ProgramState.active : ProgramState → Bool
  | .waitingMaster | .runningZone | .waitingPostProgramDelay => true
  | _ => false

theorem programIsActive_eq (store : RuntimeState) : programIsActive store = store.program.state.active := by
  cases state : store.program.state <;> simp [programIsActive,state,ProgramState.active]

def Announcement.ofZone (announcement : Announcement) : Prop := announcement = .opened ∨ announcement = .closed

/-- The operations that may start a program. -/
inductive Command.Starts : Command → Prop
  | programStart (program : Option ProgramAddress) : Command.Starts (.programStart program)
  | schedulerProcess (now : SchedulerTime) : Command.Starts (.schedulerProcess now)

/-- What one operation announces, by the program it finds and its state. -/
inductive OperationStory (program : Program) (before : ProgramRuntimeState) :
    Command → List Announcement → ProgramRuntimeState → Prop
  | aside {command : Command} {told : List Announcement} (zones : ∀ announcement ∈ told, announcement.ofZone)
      (elsewhere : command ≠ .programProcess) : OperationStory program before command told before
  | started {command : Command} (starts : command.Starts) (inactive : before.state.active = false)
      {told : List Announcement} {after : ProgramRuntimeState} (start : StartStory before told after) :
      OperationStory program before command told after
  | polled {told : List Announcement} {after : ProgramRuntimeState} (poll : PollStory program before told after) :
      OperationStory program before .programProcess told after
  | aborted (active : before.state.active = true) {told : List Announcement} {after : ProgramRuntimeState}
      (abort : AbortStory before told after) : OperationStory program before .programAbort told after

/-- From one world to the next this was announced; an active execution keeps its program. -/
structure Recounted {ε : Type} (world next : World ε) (told : List Announcement) (state : ProgramRuntimeState) : Prop where
  told : next.told = world.told ++ told
  state : next.store.program = state
  memory : next.memory = world.memory
  execution : world.store.program.state.active = true →
    next.program = world.program ∧ next.startContext = world.startContext

section Operations

variable {ε : Type} {drivers : Drivers ε} {world middle next : World ε} {told first second : List Announcement}
  {state reached : ProgramRuntimeState}

theorem Narrated.recounted (narrated : Narrated world next told state) : Recounted world next told state :=
  ⟨narrated.told,narrated.state,narrated.memory,fun _ => ⟨narrated.program,narrated.startContext⟩⟩

theorem Recounted.refl (world : World ε) : Recounted world world [] world.store.program := (Narrated.refl world).recounted

theorem Recounted.trans (front : Recounted world middle first reached) (back : Recounted middle next second state)
    (active : world.store.program.state.active = true → reached.state.active = true) :
    Recounted world next (first ++ second) state where
  told := by rw [back.told,front.told,List.append_assoc]
  state := back.state
  memory := back.memory.trans front.memory
  execution underway := by
    have later := back.execution (by rw [front.state]; exact active underway)
    have earlier := front.execution underway
    exact ⟨later.1.trans earlier.1,later.2.trans earlier.2⟩

theorem Recounted.currentProgram (recounted : Recounted world next told state)
    (active : world.store.program.state.active = true) : next.currentProgram = world.currentProgram := by
  simp only [World.currentProgram,(recounted.execution active).1,recounted.memory]

variable (drivers)

theorem onSuccess_closed (result : IrrigationResult) : ∀ announcement ∈ onSuccess .closed result, announcement.ofZone := by
  unfold onSuccess
  split <;> simp [Announcement.ofZone]

theorem onSuccess_opened (result : IrrigationResult) : ∀ announcement ∈ onSuccess .opened result, announcement.ofZone := by
  unfold onSuccess
  split <;> simp [Announcement.ofZone]

theorem closeActiveZones_narrated (state : RuntimeState) (zones : List ZoneRuntimeState)
    (firstFailure : IrrigationResult) (world : World ε) : ∃ told, (∀ announcement ∈ told, announcement.ofZone) ∧
      Narrated world (closeActiveZones drivers state zones firstFailure world).2 told world.store.program := by
  induction zones generalizing firstFailure world with
  | nil => exact ⟨[],by simp,.refl world⟩
  | cons zone rest ih =>
    simp only [closeActiveZones,run_ite]
    split
    · have closing := zoneServiceClose_narrated drivers (some zone.zoneId) world
      simp only [run_bind]
      obtain ⟨told,zones,later⟩ := ih
        (if firstFailure = .ok then (zoneServiceClose drivers (some zone.zoneId) world).1 else firstFailure)
        (zoneServiceClose drivers (some zone.zoneId) world).2
      rw [closing.state] at later
      refine ⟨_,?_,closing.trans later⟩
      intro announcement member
      exact (List.mem_append.mp member).elim (onSuccess_closed _ announcement) (zones announcement)
    · exact ih firstFailure world

theorem publishZoneEvent_narrated (zoneId : CString) (world : World ε) :
    Narrated world (publishZoneEvent drivers .zoneTimedOut zoneId world).2 [] world.store.program := by
  obtain ⟨stored,back⟩ := publishZoneEvent_issued drivers .zoneTimedOut zoneId world
  exact .of_issued back (tells_publishZoneEvent drivers .zoneTimedOut zoneId world) (congrArg RuntimeState.program stored)

theorem closeTimedOutZones_narrated (nowMs : UInt64) (zones : List ZoneRuntimeState) (world : World ε) :
    ∃ told, (∀ announcement ∈ told, announcement.ofZone) ∧
      Narrated world (closeTimedOutZones drivers nowMs zones world).2 told world.store.program := by
  induction zones generalizing world with
  | nil => exact ⟨[],by simp,.refl world⟩
  | cons zone rest ih =>
    simp only [closeTimedOutZones,run_ite]
    split
    · have closing := zoneServiceClose_narrated drivers (some zone.zoneId) world
      simp only [run_bind]
      by_cases closed : (zoneServiceClose drivers (some zone.zoneId) world).1 = .ok
      · have timedOut := closing.trans (publishZoneEvent_narrated drivers zone.zoneId
          (zoneServiceClose drivers (some zone.zoneId) world).2)
        obtain ⟨told,zones,later⟩ := ih (publishZoneEvent drivers .zoneTimedOut zone.zoneId
          (zoneServiceClose drivers (some zone.zoneId) world).2).2
        rw [timedOut.state,closing.state] at later
        rw [closing.state] at timedOut
        simp only [ne_eq,closed,not_true_eq_false,if_false,run_bind]
        refine ⟨_,?_,timedOut.trans later⟩
        intro announcement member
        rw [List.append_nil] at member
        exact (List.mem_append.mp member).elim (onSuccess_closed _ announcement) (zones announcement)
      · simp only [ne_eq,closed,not_false_eq_true,if_true,run_pure]
        exact ⟨_,onSuccess_closed _,closing⟩
    · exact ih world

theorem programServiceStartWithContext_story (program : Option ProgramAddress) (context : ProgramStartContext)
    (world : World ε) :
    programServiceStartWithContext drivers program context world = (.rejected,world) ∨
    (world.store.program.state.active = false ∧ ∃ told after, StartStory world.store.program told after ∧
      Recounted world (programServiceStartWithContext drivers program context world).2 told after) := by
  rcases programServiceStartWithContext_cases drivers program context world with
    ⟨rejected,_⟩ | ⟨address,_,_,_,inactive,accepted⟩
  · exact .inl rejected
  · rw [programIsActive_eq] at inactive
    obtain ⟨told,after,start,narrated⟩ := programServiceStartLocked_story drivers address context world
    rw [← accepted] at narrated
    refine .inr ⟨inactive,told,after,start,narrated.told,narrated.state,narrated.memory,?_⟩
    intro active
    rw [inactive] at active
    contradiction

/-- Nothing is announced and the state stays, or an inactive program is started. -/
inductive TickStory (before : ProgramRuntimeState) : List Announcement → ProgramRuntimeState → Prop
  | passed : TickStory before [] before
  | started (inactive : before.state.active = false) {told : List Announcement} {after : ProgramRuntimeState}
      (start : StartStory before told after) : TickStory before told after

theorem handleDueEntry_story (now : SchedulerTime) (index : Nat) (entry : SchedulerEntry) (world : World ε) :
    ∃ told after, TickStory world.store.program told after ∧
      Recounted world (handleDueEntry drivers now index entry world).2 told after := by
  cases active : programIsActive world.store with
  | true =>
    obtain ⟨scheduler,recorded⟩ := recordScheduleOccurrence_run world index (occurrenceFor now) .skippedBusy
    have busy : programServiceIsActive world = (true,world) := by
      simp only [programServiceIsActive,run_snapshot_bind,active,run_pure]
    simp only [handleDueEntry,run_bind_of busy,if_true,run_pure_bind]
    simp only [run_bind,run_pure,recorded]
    exact ⟨[],_,.passed,(Narrated.store world { world.store with scheduler }).recounted⟩
  | false =>
    have free : programServiceIsActive world = (false,world) := by
      simp only [programServiceIsActive,run_snapshot_bind,active,run_pure]
    have asked := programServiceStartWithContext_story drivers entry.program ⟨.scheduled,entry.id⟩ world
    cases run : programServiceStartWithContext drivers entry.program ⟨.scheduled,entry.id⟩ world with
    | mk result after =>
      rw [run] at asked
      simp only [handleDueEntry,run_bind_of free,Bool.false_eq_true,if_false,run_bind_of run,run_pure_bind]
      obtain ⟨scheduler,recorded⟩ := recordScheduleOccurrence_run after index (occurrenceFor now)
        (if result = .ok then .started else .rejected)
      simp only [run_bind,run_pure,recorded]
      have stored := (Narrated.store after { after.store with scheduler }).recounted
      rcases asked with rejected | ⟨inactive,told,reached,start,recounted⟩
      · cases rejected
        exact ⟨[],_,.passed,stored⟩
      · have kept : after.store.program = reached := recounted.state
        rw [kept] at stored
        refine ⟨told,reached,.started inactive start,?_⟩
        rw [← List.append_nil told]
        refine recounted.trans stored fun underway => ?_
        rw [inactive] at underway
        contradiction

/-- After a start the program is active or in FAULT, so no later entry starts. -/
theorem StartStory.once {before after final : ProgramRuntimeState} (start : StartStory before first after)
    (later : TickStory after second final) (announced : first ≠ []) : second = [] ∧ final = after := by
  cases start with
  | refused => exact absurd rfl announced
  | started =>
    cases later with
    | passed => exact ⟨rfl,rfl⟩
    | started inactive => exact absurd inactive (by decide)
  | failed =>
    cases later with
    | passed => exact ⟨rfl,rfl⟩
    | started _ start =>
      cases start with
      | refused => exact ⟨rfl,rfl⟩
      | started free => exact absurd free (by decide)
      | failed free => exact absurd free (by decide)

theorem processEntries_story (state : RuntimeState) (now : SchedulerTime) (entries : List SchedulerEntry)
    (index : Nat) (world : World ε) : ∃ told after, TickStory world.store.program told after ∧
      Recounted world (processEntries drivers state now index entries world).2 told after := by
  induction entries generalizing index world with
  | nil => exact ⟨[],_,.passed,.refl world⟩
  | cons entry rest ih =>
    simp only [processEntries,run_ite]
    split
    · obtain ⟨first,middle,entryStory,front⟩ := handleDueEntry_story drivers now index entry world
      obtain ⟨second,final,restStory,back⟩ := ih (index + 1) (handleDueEntry drivers now index entry world).2
      rw [front.state] at restStory
      simp only [run_bind]
      cases entryStory with
      | passed => exact ⟨second,final,restStory,front.trans back id⟩
      | started inactive start =>
        have joined := front.trans back fun underway => by simp [inactive] at underway
        by_cases announced : first = []
        · subst announced
          cases start
          exact ⟨second,final,restStory,joined⟩
        · obtain ⟨rfl,rfl⟩ := start.once restStory announced
          rw [List.append_nil] at joined
          exact ⟨first,_,.started inactive start,joined⟩
    · exact ih (index + 1) world

theorem schedulerServiceProcess_story (now : SchedulerTime) (world : World ε) :
    ∃ told after, TickStory world.store.program told after ∧
      Recounted world (schedulerServiceProcess drivers now world).2 told after := by
  obtain ⟨locked,lockedEq⟩ : ∃ locked : World ε, locked = { world with
      synchronization := world.synchronization ++ [.lock] } := ⟨_,rfl⟩
  have lock : schedulerServiceLock world = ((),locked) := by rw [lockedEq]; rfl
  by_cases valid : schedulerTimeIsValid now = true
  · obtain ⟨told,after,story,recounted⟩ := processEntries_story drivers locked.store now locked.entries 0 locked
    simp only [schedulerServiceProcess,run_bind_of lock,valid,not_true_eq_false,if_false,run_get_bind]
    subst lockedEq
    exact ⟨told,after,story,recounted.told,recounted.state,recounted.memory,recounted.execution⟩
  · simp only [schedulerServiceProcess,run_bind_of lock,valid,Bool.false_eq_true,not_false_eq_true,if_true]
    subst lockedEq
    exact ⟨[],_,.passed,(List.append_nil _).symm,rfl,rfl,fun _ => ⟨rfl,rfl⟩⟩

theorem operate_story (command : Command) (world : World ε) :
    ∃ told after, OperationStory world.currentProgram world.store.program command told after ∧
      Recounted world (operate drivers command world) told after := by
  cases command with
  | zoneOpen zoneId durationMs =>
    exact ⟨_,_,.aside (onSuccess_opened _) (by simp),(zoneServiceOpen_narrated drivers zoneId durationMs world).recounted⟩
  | zoneClose zoneId =>
    exact ⟨_,_,.aside (onSuccess_closed _) (by simp),(zoneServiceClose_narrated drivers zoneId world).recounted⟩
  | zoneSafeClose =>
    obtain ⟨told,zones,narrated⟩ := closeActiveZones_narrated drivers world.store world.store.zones.entries .ok world
    exact ⟨told,_,.aside zones (by simp),narrated.recounted⟩
  | zoneProcessTimeouts =>
    have reading := clockNowMs_narrated drivers world
    obtain ⟨told,zones,narrated⟩ := closeTimedOutZones_narrated drivers (clockNowMs drivers world).1
      world.store.zones.entries (clockNowMs drivers world).2
    exact ⟨told,_,.aside zones (by simp),(reading.trans narrated).recounted⟩
  | masterOpen => exact ⟨[],_,.aside (by simp) (by simp),(masterValveServiceOpen_narrated drivers world).recounted⟩
  | masterClose => exact ⟨[],_,.aside (by simp) (by simp),(masterValveServiceClose_narrated drivers world).recounted⟩
  | masterProcessTime =>
    exact ⟨[],_,.aside (by simp) (by simp),(masterValveServiceProcessTime_narrated drivers world).recounted⟩
  | programStart program =>
    rcases programServiceStartWithContext_story drivers program programStartContextManual world with
      rejected | ⟨inactive,told,after,start,recounted⟩
    · refine ⟨[],_,.aside (by simp) (by simp),?_⟩
      simp only [operate,execute,programServiceStart,rejected]
      exact .refl world
    · exact ⟨told,after,.started (.programStart program) inactive start,recounted⟩
  | programProcess =>
    obtain ⟨told,after,poll,narrated⟩ := programServiceProcess_story drivers world
    exact ⟨told,after,.polled poll,narrated.recounted⟩
  | programAbort =>
    rcases programServiceAbort_story drivers world with ⟨_,rejected⟩ | ⟨active,told,after,abort,narrated⟩
    · refine ⟨[],_,.aside (by simp) (by simp),?_⟩
      simp only [operate,execute,rejected]
      exact .refl world
    · rw [programIsActive_eq] at active
      exact ⟨told,after,.aborted active abort,narrated.recounted⟩
  | schedulerProcess now =>
    obtain ⟨told,after,story,recounted⟩ := schedulerServiceProcess_story drivers now world
    cases story with
    | passed => exact ⟨[],_,.aside (by simp) (by simp),recounted⟩
    | started inactive start => exact ⟨told,after,.started (.schedulerProcess now) inactive start,recounted⟩

end Operations

end Irrigation
