import Irrigation.HealthyRuns

/-! How an active program ends while every driver call succeeds: which exits leave the
master valve open with nothing to water, and which commands drive the program into
PROGRAM_STATE_FAULT. -/
namespace Irrigation

/-! ### The valve behind a finished program -/

/-- Some output is not off, or the master valve lets no water through. -/
def Covered (store : RuntimeState) : Prop :=
  hasActiveOrUnknownOutput store ∨ (store.masterValve.state ≠ .opening ∧ store.masterValve.state ≠ .open)

/-- An operation took an active program to a terminal state. -/
def Exits (before after : RuntimeState) : Prop :=
  programIsActive before = true ∧ (after.program.state = .completed ∨ after.program.state = .aborted ∨
    after.program.state = .fault)

/-- An abort whose step's zone was closed under it skips the master valve. -/
structure Orphans (command : Command) (store : RuntimeState) : Prop where
  abort : command = .programAbort
  running : store.program.state = .runningZone
  off : ¬hasActiveOrUnknownOutput store
  master : store.masterValve.state = .opening ∨ store.masterValve.state = .open

instance (store : RuntimeState) : Decidable (Covered store) := by
  unfold Covered; infer_instance

instance (before after : RuntimeState) : Decidable (Exits before after) := by
  unfold Exits; infer_instance

section Covering

variable {store next : RuntimeState} {issued : List DriverCall}

theorem not_exits_of_inactive (inactive : programIsActive store = false) : ¬Exits store next :=
  fun exits => Bool.false_ne_true (inactive.symm.trans exits.1)

theorem not_exits_of_program (same : next.program = store.program) : ¬Exits store next := by
  intro exits
  obtain ⟨active,ended⟩ := exits
  rw [same] at ended
  rcases ended with state | state | state <;> simp [programIsActive,state] at active

theorem not_exits_of_active (active : programIsActive next = true) : ¬Exits store next := by
  intro exits
  rcases exits.2 with state | state | state <;> simp [programIsActive,state] at active

theorem MasterClosing.covered {result : IrrigationResult} (closing : MasterClosing store result issued next)
    (confirmed : Confirmed issued) : Covered next := by
  cases closing with
  | refused _ ineligible =>
    by_contra uncovered
    obtain ⟨off,lets⟩ := not_or.mp uncovered
    exact ineligible ⟨by tauto,off⟩
  | closed => exact .inr ⟨by simp [masterClosed],by simp [masterClosed]⟩
  | failed _ notOk => exact absurd ((confirmed_singleton _ _).mp confirmed) notOk

theorem FaultExit.covered (exit : FaultExit store issued next) (confirmed : Confirmed issued) : Covered next := by
  cases exit with
  | exit closing => exact closing.covered confirmed

theorem StepOpening.covered {stepIndex : Nat} {step : ProgramStep} {reads : UInt64 → Prop} {before : RuntimeState}
    (opening : StepOpening store stepIndex step reads issued next) (confirmed : Confirmed issued)
    (exits : Exits before next) : Covered next := by
  cases opening with
  | opened => exact absurd exits (not_exits_of_active rfl)
  | failed _ _ exit => exact exit.covered ((confirmed_append _ _).mp confirmed).2

theorem ProgramProcessing.covered {program : Program} {nowMs : UInt64} {reads : UInt64 → Prop}
    (processing : ProgramProcessing store program nowMs reads issued next) (confirmed : Confirmed issued)
    (exits : Exits store next) : Covered next := by
  cases processing with
  | inactive idle => exact absurd exits (not_exits_of_inactive idle)
  | waiting => exact absurd exits (not_exits_of_program (masterTimed_program store nowMs))
  | masterFault _ _ exit => exact exit.covered confirmed
  | entering _ _ opening => exact opening.covered confirmed exits
  | running => exact absurd exits (not_exits_of_program rfl)
  | closeFailed _ _ _ _ exit => exact exit.covered ((confirmed_append _ _).mp confirmed).2
  | advancing _ _ _ _ opening => exact opening.covered ((confirmed_append _ _).mp confirmed).2 exits
  | finishing => exact absurd exits (not_exits_of_active rfl)
  | delaying => exact absurd exits (not_exits_of_program rfl)
  | completed _ _ closing => exact closing.covered confirmed

theorem entriesHandling_active {ε : Type} {drivers : Drivers ε} {world next : World ε}
    {entries : List SchedulerEntry} (handling : EntriesHandling drivers world entries issued next)
    (active : programIsActive world.store = true) : next.store.program = world.store.program := by
  induction handling with
  | done => rfl
  | next handling _ ih =>
    cases handling with
    | passed _ stored =>
      rw [ih (by rw [stored]; exact active),stored]
    | started _ _ inactive => simp [inactive] at active

theorem Healthy.active_of_engaged (healthy : Healthy store) {zone : ZoneRuntimeState}
    (member : zone ∈ store.zones.entries) (engaged : zone.Engaged) : hasActiveOrUnknownOutput store := by
  have on := (healthy.invariant.opens zone member).mp (healthy.engaged_open member engaged)
  exact ⟨zone.outputIndex,by simp [on]⟩

/-- An abort that closed its zone, or had none to close, goes on to the master valve. -/
theorem AbortZone.not_orphans {zoneId : Option CString} (healthy : Healthy store)
    (zone : AbortZone store zoneId .ok issued next) (confirmed : Confirmed issued) :
    ¬Orphans .programAbort store := by
  intro orphans
  cases zone with
  | running _ closing =>
    rcases closing.closed_of_confirmed confirmed with ⟨_,zone,_,closable,_,_⟩ | ⟨failed,_⟩
    · have member := (ZoneTable.findZone_some closable.found).1
      exact orphans.off (healthy.active_of_engaged member closable.state)
    · exact failed rfl
  | skipped state => exact state orphans.running

theorem ProgramAborting.covered_iff {zoneId : Option CString} (healthy : Healthy store)
    (aborting : ProgramAborting store zoneId issued next) (confirmed : Confirmed issued) :
    Covered next ↔ ¬Orphans .programAbort store := by
  cases aborting with
  | zoneFailed zone notOk =>
    cases zone with
    | running state closing =>
      rcases closing.closed_of_confirmed confirmed with ⟨ok,_⟩ | ⟨_,_,rfl,_⟩
      · exact absurd ok notOk
      · constructor
        · intro covered orphans
          exact covered.elim orphans.off fun shut => orphans.master.elim shut.1 shut.2
        · intro notOrphans
          by_contra uncovered
          obtain ⟨off,lets⟩ := not_or.mp uncovered
          refine notOrphans ⟨rfl,state,off,?_⟩
          by_contra shut
          exact lets (not_or.mp shut)
    | skipped => exact absurd rfl notOk
  | closedMaster zone closed =>
    refine iff_of_true (.inr ?_) (zone.not_orphans healthy confirmed)
    simp [RuntimeState.terminal,closed]
  | closingMaster zone _ closing =>
    obtain ⟨first,later⟩ := (confirmed_append _ _).mp confirmed
    exact iff_of_true (closing.covered later) (zone.not_orphans healthy first)

/-- One operation leaves the valve open with nothing to water exactly when it is such an abort. -/
theorem Healthy.covered_iff {ε : Type} {drivers : Drivers ε} {world : World ε} {command : Command}
    (healthy : Healthy world.store) (outcome : Outcome drivers world command issued next)
    (confirmed : Confirmed issued) :
    (Exits world.store next → Covered next) ↔ ¬Orphans command world.store := by
  have other : command ≠ .programAbort → ¬Orphans command world.store :=
    fun different orphans => different orphans.abort
  cases outcome with
  | zoneOpen opening =>
    exact iff_of_true (fun exits => absurd exits (not_exits_of_program opening.program)) (other (by simp))
  | zoneClose closing =>
    exact iff_of_true (fun exits => absurd exits (not_exits_of_program closing.program)) (other (by simp))
  | zoneSafeClose closings =>
    exact iff_of_true (fun exits => absurd exits (not_exits_of_program closings.program)) (other (by simp))
  | zoneProcessTimeouts closings =>
    exact iff_of_true (fun exits => absurd exits (not_exits_of_program closings.program)) (other (by simp))
  | masterOpen opening =>
    exact iff_of_true (fun exits => absurd exits (not_exits_of_program opening.program)) (other (by simp))
  | masterClose closing =>
    exact iff_of_true (fun exits => absurd exits (not_exits_of_program closing.program)) (other (by simp))
  | masterProcessTime =>
    exact iff_of_true (fun exits => absurd exits (not_exits_of_program (masterTimed_program _ _))) (other (by simp))
  | startRejected => exact iff_of_true (fun exits => absurd exits (not_exits_of_program rfl)) (other (by simp))
  | programStart _ inactive =>
    exact iff_of_true (fun exits => absurd exits (not_exits_of_inactive inactive)) (other (by simp))
  | programProcess processing => exact iff_of_true (processing.covered confirmed) (other (by simp))
  | abortRejected inactive =>
    refine iff_of_true (fun exits => absurd exits (not_exits_of_inactive inactive)) ?_
    intro orphans
    simp [programIsActive,orphans.running] at inactive
  | programAbort active aborting =>
    have exact := aborting.covered_iff healthy confirmed
    have ends : Exits world.store next := ⟨active,aborting.ends⟩
    exact ⟨fun covers => exact.mp (covers ends),fun notOrphans _ => exact.mpr notOrphans⟩
  | schedulerProcess handling =>
    refine iff_of_true ?_ (other (by simp))
    intro exits
    cases active : programIsActive world.store with
    | false => exact absurd exits (not_exits_of_inactive active)
    | true =>
      have same := entriesHandling_active handling active
      exact absurd exits (not_exits_of_program same)

end Covering

/-! ### Programs driven into PROGRAM_STATE_FAULT -/

/-- The condition on a command and the world before it under which the program is not
driven into PROGRAM_STATE_FAULT. -/
def Unimpeded {ε : Type} (drivers : Drivers ε) (command : Command) (world : World ε) : Prop :=
  match command with
  | .programStart program =>
    programIsActive world.store = false →
      (∃ address, program = some address ∧ programIsValid (world.memory.program address) = true) →
      world.store.masterValve.state = .closed
  | .schedulerProcess now =>
    programIsActive world.store = false → schedulerTimeIsValid now = true →
      (∃ entry ∈ dueEntries world.store now 0 world.entries, entry.Startable world.memory) →
      world.store.masterValve.state = .closed
  | .programProcess =>
    (world.store.program.state = .waitingMaster →
      (masterTimed world.store (drivers.nowMs world.environment).1).masterValve.state = .open →
      ¬hasActiveOrUnknownOutput world.store) ∧
    (world.store.program.state = .runningZone →
      (drivers.nowMs world.environment).1 - world.store.program.stepStartedAtMs ≥
        (world.currentProgram.step world.store.program.currentStepIndex).durationMs.toUInt64 →
      OpenZone world.store (world.currentProgram.step world.store.program.currentStepIndex).zoneId)
  | .programAbort =>
    (world.store.program.state = .runningZone →
      OpenZone world.store (world.currentProgram.step world.store.program.currentStepIndex).zoneId) ∧
    (world.store.program.state = .waitingMaster ∨ world.store.program.state = .waitingPostProgramDelay →
      world.store.masterValve.state = .closed ∨ ¬hasActiveOrUnknownOutput world.store)
  | _ => True

section Faulting

variable {store next : RuntimeState} {issued : List DriverCall}

/-- An enabled zone is idle while all outputs are off. -/
theorem Healthy.idle_of_enabled (healthy : Healthy store) {zone : ZoneRuntimeState}
    (member : zone ∈ store.zones.entries) (enabled : zone.state ≠ .disabled)
    (off : ¬hasActiveOrUnknownOutput store) : zone.state = .idle := by
  rcases healthy.invariant.settled zone member with disabled | idle | engaged
  · exact absurd disabled enabled
  · exact idle
  · exact absurd (healthy.active_of_engaged member engaged) off

theorem ZoneOpening.ok_iff {zoneId : Option CString} {durationMs : UInt32} {reads : UInt64 → Prop} {result : IrrigationResult}
    (healthy : Healthy store) (opening : ZoneOpening store zoneId durationMs reads result issued next)
    (confirmed : Confirmed issued) (enabled : EnabledZone store zoneId)
    (masterOpen : store.masterValve.state = .open) : result = .ok ↔ ¬hasActiveOrUnknownOutput store := by
  rcases opening.opened_of_confirmed confirmed with ⟨ok,zone,_,_,_,_,openable,_⟩ | ⟨failed,_,_,notOpenable⟩
  · exact iff_of_true ok openable.outputsOff
  · refine iff_of_false failed fun off => ?_
    obtain ⟨zone,bound,notDisabled⟩ := enabled
    obtain ⟨id,named,found⟩ := Option.bind_eq_some_iff.mp bound
    have idle := healthy.idle_of_enabled (ZoneTable.findZone_some found).1 notDisabled off
    exact notOpenable id zone named ⟨found,idle,masterOpen,off,healthy.calm⟩

theorem StepOpening.faults_iff {stepIndex : Nat} {step : ProgramStep} {reads : UInt64 → Prop}
    (healthy : Healthy store) (opening : StepOpening store stepIndex step reads issued next)
    (confirmed : Confirmed issued) (enabled : EnabledZone store step.zoneId)
    (masterOpen : store.masterValve.state = .open) :
    next.program.state ≠ .fault ↔ ¬hasActiveOrUnknownOutput store := by
  cases opening with
  | opened opening =>
    exact iff_of_true (by simp) ((opening.ok_iff healthy confirmed enabled masterOpen).mp rfl)
  | failed opening notOk exit =>
    obtain ⟨first,_⟩ := (confirmed_append _ _).mp confirmed
    refine iff_of_false (fun sound => sound exit.fault) fun off => ?_
    exact notOk ((opening.ok_iff healthy first enabled masterOpen).mpr off)

theorem ZoneClosing.ok_iff {zoneId : Option CString} {result : IrrigationResult} (healthy : Healthy store)
    (closing : ZoneClosing store zoneId result issued next) (confirmed : Confirmed issued) :
    result = .ok ↔ OpenZone store zoneId := by
  rcases closing.closed_of_confirmed confirmed with ⟨ok,zone,bound,closable,_⟩ | ⟨failed,_,_,notClosable⟩
  · have member := (ZoneTable.findZone_some closable.found).1
    exact iff_of_true ok ⟨zone,bound,healthy.engaged_open member closable.state⟩
  · refine iff_of_false failed fun openZone => ?_
    obtain ⟨zone,bound,opened⟩ := openZone
    obtain ⟨id,named,found⟩ := Option.bind_eq_some_iff.mp bound
    exact notClosable id zone named ⟨found,.inl opened⟩

theorem MasterClosing.ok_iff {result : IrrigationResult} (closing : MasterClosing store result issued next)
    (confirmed : Confirmed issued) : result = .ok ↔ stateStoreMasterValveCloseIsEligible store := by
  cases closing with
  | refused failed ineligible => exact iff_of_false failed ineligible
  | closed eligible => exact iff_of_true rfl eligible
  | failed eligible notOk => exact absurd ((confirmed_singleton _ _).mp confirmed) notOk

theorem MasterOpening.ok_iff {result : IrrigationResult} (healthy : Healthy store)
    (opening : MasterOpening store result issued next) (confirmed : Confirmed issued) :
    result = .ok ↔ store.masterValve.state = .closed := by
  cases opening with
  | refused failed busy => exact iff_of_false failed busy
  | opening idle => exact iff_of_true rfl (idle.resolve_right healthy.valve_not_fault)
  | failed _ notOk => exact absurd ((confirmed_singleton _ _).mp confirmed) notOk

/-- Closing the running step's zone leaves all outputs off under an open valve. -/
theorem ZoneClosing.closed_ok {zoneId : Option CString} (healthy : Healthy store)
    (closing : ZoneClosing store zoneId .ok issued next) (confirmed : Confirmed issued) :
    next.masterValve.state = .open ∧ ¬hasActiveOrUnknownOutput next ∧
      ∀ other, EnabledZone store other → EnabledZone next other := by
  rcases closing.closed_of_confirmed confirmed with ⟨_,zone,_,closable,_,rfl⟩ | ⟨failed,_⟩
  · have member := (ZoneTable.findZone_some closable.found).1
    have opened := healthy.engaged_open member closable.state
    rw [healthy.closedZone_eq member closable.state]
    refine ⟨(healthy.invariant.openMode zone member opened).1,by simp [hasActiveOrUnknownOutput],?_⟩
    intro other enabled
    obtain ⟨before,bound,notDisabled⟩ := enabled
    obtain ⟨id,rfl,found⟩ := Option.bind_eq_some_iff.mp bound
    by_cases same : id = zone.zoneId
    · subst same
      exact ⟨_,ZoneTable.findZone_update_self _ found,by simp⟩
    · exact ⟨before,(ZoneTable.findZone_update_of_ne _ same).trans found,notDisabled⟩
  · exact absurd rfl failed

theorem ProgramStarting.faulted {result : IrrigationResult} (starting : ProgramStarting store result issued next)
    (faulted : store.program.state = .fault) : next.program.state = .fault := by
  cases starting with
  | refused => exact faulted
  | started free => simp [faulted] at free
  | failed => rfl

theorem ProgramStarting.ends {result : IrrigationResult} (starting : ProgramStarting store result issued next)
    (inactive : programIsActive store = false) : next.program.state = .fault ∨ programIsActive next = true := by
  cases starting with
  | refused _ busy =>
    have states := inactive_iff.mp inactive
    exact .inl (by tauto)
  | started _ opening => exact .inr (by simp [programIsActive,opening.program])
  | failed => exact .inl rfl

theorem ProgramStarting.faults_iff {result : IrrigationResult} (healthy : Healthy store)
    (starting : ProgramStarting store result issued next) (confirmed : Confirmed issued)
    (sound : store.program.state ≠ .fault) (inactive : programIsActive store = false) :
    next.program.state ≠ .fault ↔ store.masterValve.state = .closed := by
  have waiting := healthy.program ⟨.waitingMaster,0,0⟩ store.scheduler (fun _ => rfl)
  cases starting with
  | refused _ busy =>
    have states := inactive_iff.mp inactive
    tauto
  | started _ opening =>
    have unfaulted : next.program.state ≠ .fault := by simp [opening.program]
    exact iff_of_true unfaulted ((opening.ok_iff waiting confirmed).mp rfl)
  | failed _ opening notOk =>
    exact iff_of_false (fun sound => sound rfl) fun closed => notOk ((opening.ok_iff waiting confirmed).mpr closed)

theorem Program.step_mem {program : Program} {index : Nat} (inside : index < program.steps.length) :
    program.step index ∈ program.steps := by
  simp [Program.step,List.getD,List.getElem?_eq_getElem inside]

/-- The program has steps, and all of them name configured, enabled zones. -/
structure Configured (store : RuntimeState) (program : Program) : Prop where
  steps : program.steps ≠ []
  enabled : ∀ step ∈ program.steps, EnabledZone store step.zoneId

instance (store : RuntimeState) (program : Program) : Decidable (Configured store program) :=
  decidable_of_iff (program.steps ≠ [] ∧ ∀ step ∈ program.steps, EnabledZone store step.zoneId)
    ⟨fun h => ⟨h.1,h.2⟩,fun h => ⟨h.1,h.2⟩⟩

theorem ProgramProcessing.faults_iff {program : Program} {nowMs : UInt64} {reads : UInt64 → Prop}
    (healthy : Healthy store) (processing : ProgramProcessing store program nowMs reads issued next)
    (confirmed : Confirmed issued) (sound : store.program.state ≠ .fault)
    (configured : programIsActive store = true → Configured store program) :
    next.program.state ≠ .fault ↔
      (store.program.state = .waitingMaster → (masterTimed store nowMs).masterValve.state = .open →
        ¬hasActiveOrUnknownOutput store) ∧
      (store.program.state = .runningZone → nowMs - store.program.stepStartedAtMs ≥
          (program.step store.program.currentStepIndex).durationMs.toUInt64 →
        OpenZone store (program.step store.program.currentStepIndex).zoneId) := by
  cases processing with
  | inactive idle =>
    refine iff_of_true sound ⟨?_,?_⟩
    · intro waiting
      simp [programIsActive,waiting] at idle
    · intro running
      simp [programIsActive,running] at idle
  | waiting state notOpen =>
    refine iff_of_true (by rw [masterTimed_program]; exact sound) ⟨?_,?_⟩
    · intro _ opened
      exact absurd opened notOpen
    · intro running
      simp [state] at running
  | masterFault _ broken => exact absurd broken (healthy.masterTimed nowMs).valve_not_fault
  | entering state masterOpen opening =>
    have active : programIsActive store = true := by simp [programIsActive,state]
    have first : program.step store.program.currentStepIndex ∈ program.steps := by
      rw [healthy.entering state]
      exact Program.step_mem (List.length_pos_iff.mpr (configured active).steps)
    have enabled := (configured active).enabled _ first
    have timed : EnabledZone (masterTimed store nowMs) (program.step store.program.currentStepIndex).zoneId := by
      simpa only [EnabledZone,masterTimed_zones] using enabled
    rw [opening.faults_iff (healthy.masterTimed nowMs) confirmed timed masterOpen]
    simp only [hasActiveOrUnknownOutput,masterTimed_outputStates,state,masterOpen]
    simp
  | running state early =>
    refine iff_of_true sound ⟨?_,?_⟩
    · intro waiting
      simp [state] at waiting
    · intro _ elapsed
      exact absurd elapsed early
  | closeFailed state elapsed closing notOk exit =>
    obtain ⟨first,_⟩ := (confirmed_append _ _).mp confirmed
    refine iff_of_false (fun unfaulted => unfaulted exit.fault) fun conditions => ?_
    exact notOk ((closing.ok_iff healthy first).mpr (conditions.2 state elapsed))
  | advancing state elapsed closing more opening =>
    obtain ⟨first,later⟩ := (confirmed_append _ _).mp confirmed
    have active : programIsActive store = true := by simp [programIsActive,state]
    obtain ⟨masterOpen,off,kept⟩ := closing.closed_ok healthy first
    have enabled := kept _ ((configured active).enabled _ (Program.step_mem more))
    refine iff_of_true ((StepOpening.faults_iff ?_ opening later enabled masterOpen).mpr off) ⟨?_,?_⟩
    · exact (healthy.zoneClosing closing first).program _ _ (by simp)
    · intro waiting
      simp [state] at waiting
    · intro _ _
      exact (closing.ok_iff healthy first).mp rfl
  | finishing state elapsed closing =>
    refine iff_of_true (by simp) ⟨?_,?_⟩
    · intro waiting
      simp [state] at waiting
    · intro _ _
      exact (closing.ok_iff healthy confirmed).mp rfl
  | delaying state early =>
    refine iff_of_true sound ⟨?_,?_⟩ <;> simp [state]
  | completed state elapsed closing =>
    refine iff_of_true (by simp [RuntimeState.terminal]) ⟨?_,?_⟩ <;> simp [state]

theorem ProgramAborting.faults_iff {zoneId : Option CString} (healthy : Healthy store)
    (aborting : ProgramAborting store zoneId issued next) (confirmed : Confirmed issued)
    (active : programIsActive store = true) :
    next.program.state ≠ .fault ↔
      (store.program.state = .runningZone → OpenZone store zoneId) ∧
      (store.program.state = .waitingMaster ∨ store.program.state = .waitingPostProgramDelay →
        store.masterValve.state = .closed ∨ ¬hasActiveOrUnknownOutput store) := by
  cases aborting with
  | zoneFailed zone notOk =>
    cases zone with
    | running state closing =>
      refine iff_of_false (fun sound => sound rfl) fun conditions => ?_
      exact notOk ((closing.ok_iff healthy confirmed).mpr (conditions.1 state))
    | skipped => exact absurd rfl notOk
  | closedMaster zone closed =>
    apply iff_of_true (by simp [RuntimeState.terminal])
    cases zone with
    | running state closing =>
      exact ⟨fun _ => (closing.ok_iff healthy confirmed).mp rfl,by simp [state]⟩
    | skipped state => exact ⟨fun running => absurd running state,fun _ => .inl closed⟩
  | @closingMaster first later middle after result zone notClosed closing =>
    obtain ⟨firstConfirmed,laterConfirmed⟩ := (confirmed_append _ _).mp confirmed
    have ends : (after.terminal (if result = .ok then .aborted else .fault)).program.state ≠ .fault ↔
        stateStoreMasterValveCloseIsEligible middle := by
      rw [← closing.ok_iff laterConfirmed]
      by_cases ok : result = .ok <;> simp [RuntimeState.terminal,ok]
    rw [ends]
    cases zone with
    | running state closed =>
      obtain ⟨masterOpen,off,_⟩ := closed.closed_ok healthy firstConfirmed
      exact iff_of_true ⟨.inl masterOpen,off⟩
        ⟨fun _ => (closed.ok_iff healthy firstConfirmed).mp rfl,by simp [state]⟩
    | skipped state =>
      have waits : store.program.state = .waitingMaster ∨ store.program.state = .waitingPostProgramDelay := by
        cases others : store.program.state <;> simp [programIsActive,others] at active state ⊢
      have lets : store.masterValve.state = .open ∨ store.masterValve.state = .opening :=
        (healthy.valve.resolve_left notClosed).symm
      constructor
      · intro eligible
        exact ⟨fun running => absurd running state,fun _ => .inr eligible.2⟩
      · intro conditions
        exact ⟨lets,(conditions.2 waits).resolve_left notClosed⟩

theorem entriesHandling_memory {ε : Type} {drivers : Drivers ε} {world next : World ε} {entry : SchedulerEntry}
    (handling : EntryHandling drivers world entry issued next) : next.memory = world.memory := by
  cases handling with
  | passed _ _ back => exact back.memory
  | started _ _ _ _ _ back => exact back.memory

theorem entriesHandling_faults_iff {ε : Type} {drivers : Drivers ε} {world next : World ε}
    {entries : List SchedulerEntry} (healthy : Healthy world.store)
    (handling : EntriesHandling drivers world entries issued next) (confirmed : Confirmed issued) :
    next.store.program.state ≠ .fault ↔ world.store.program.state ≠ .fault ∧
      (programIsActive world.store = false → (∃ entry ∈ entries, entry.Startable world.memory) →
        world.store.masterValve.state = .closed) := by
  induction handling with
  | done => simp
  | @next world middle final entry rest first later handling handlings ih =>
    obtain ⟨firstConfirmed,laterConfirmed⟩ := (confirmed_append _ _).mp confirmed
    rw [ih (healthy.entryHandling handling firstConfirmed) laterConfirmed,entriesHandling_memory handling]
    cases handling with
    | passed unstarted stored =>
      rw [stored]
      refine and_congr Iff.rfl (forall_congr' fun inactive => ?_)
      have passes : ¬entry.Startable world.memory := by
        rcases unstarted with active | unfit
        · exact absurd (inactive.symm.trans active) (by simp)
        · exact unfit
      simp [passes]
    | started program startable inactive starting stored =>
      have here : ∃ other ∈ entry :: rest, other.Startable world.memory := ⟨entry,List.mem_cons_self,startable⟩
      rw [stored]
      by_cases sound : world.store.program.state = .fault
      · exact iff_of_false (fun both => both.1 (starting.faulted sound)) fun both => both.1 sound
      · have exact := starting.faults_iff healthy firstConfirmed sound inactive
        constructor
        · intro both
          exact ⟨sound,fun _ _ => exact.mp both.1⟩
        · intro both
          have unfaulted := exact.mpr (both.2 inactive here)
          refine ⟨unfaulted,fun still => ?_⟩
          have active := (starting.ends inactive).resolve_left unfaulted
          exact absurd (still.symm.trans active) (by simp)

/-- One operation drives the program into PROGRAM_STATE_FAULT exactly when it is impeded. -/
theorem Healthy.faults_iff {ε : Type} {drivers : Drivers ε} {world : World ε} {command : Command}
    (healthy : Healthy world.store) (outcome : Outcome drivers world command issued next)
    (confirmed : Confirmed issued) (sound : world.store.program.state ≠ .fault)
    (configured : programIsActive world.store = true → Configured world.store world.currentProgram) :
    next.program.state ≠ .fault ↔ Unimpeded drivers command world := by
  cases outcome with
  | zoneOpen opening => exact iff_of_true (by rw [opening.program]; exact sound) trivial
  | zoneClose closing => exact iff_of_true (by rw [closing.program]; exact sound) trivial
  | zoneSafeClose closings => exact iff_of_true (by rw [closings.program]; exact sound) trivial
  | zoneProcessTimeouts closings => exact iff_of_true (by rw [closings.program]; exact sound) trivial
  | masterOpen opening => exact iff_of_true (by rw [opening.program]; exact sound) trivial
  | masterClose closing => exact iff_of_true (by rw [closing.program]; exact sound) trivial
  | masterProcessTime => exact iff_of_true (by rw [masterTimed_program]; exact sound) trivial
  | startRejected unfit =>
    apply iff_of_true sound
    intro inactive startable
    obtain ⟨address,named,valid⟩ := startable
    exact absurd (inactive.symm.trans (unfit address named valid)) (by simp)
  | programStart valid inactive starting =>
    rw [starting.faults_iff healthy confirmed sound inactive]
    exact ⟨fun closed _ _ => closed,fun condition => condition inactive ⟨_,rfl,valid⟩⟩
  | programProcess processing => exact processing.faults_iff healthy confirmed sound configured
  | abortRejected inactive =>
    refine iff_of_true sound ⟨?_,?_⟩
    · intro running
      simp [programIsActive,running] at inactive
    · intro waits
      rcases waits with waiting | waiting <;> simp [programIsActive,waiting] at inactive
  | programAbort active aborting => exact aborting.faults_iff healthy confirmed active
  | @schedulerProcess now issued next handling =>
    refine (entriesHandling_faults_iff ?_ handling confirmed).trans ?_
    · exact healthy
    cases valid : schedulerTimeIsValid now with
    | false => simp [Unimpeded,valid,sound]
    | true => simp [Unimpeded,valid,sound]

end Faulting

section Orphaned

variable {ε : Type} (drivers : Drivers ε)

theorem operate_confirmed {command : Command} {world : World ε}
    (confirmed : Confirmed (operate drivers command world).calls) :
    Confirmed world.calls ∧ ∃ issued, Outcome drivers world command issued (operate drivers command world).store ∧
      Confirmed issued := by
  obtain ⟨issued,outcome,calls⟩ := operate_outcome drivers command world
  rw [calls] at confirmed
  obtain ⟨before,now⟩ := (confirmed_append _ _).mp confirmed
  exact ⟨before,issued,outcome,now⟩

theorem run_confirmed {commands : List Command} {world : World ε}
    (confirmed : Confirmed (run drivers commands world).calls) :
    Runs.Along (operate drivers) (fun command world => Confirmed (operate drivers command world).calls)
      commands world :=
  (Runs.along_of_after (fun world : World ε => Confirmed world.calls)
    (fun _ _ after => (operate_confirmed drivers after).1) confirmed).2

theorem operate_healthy {command : Command} {world : World ε} (healthy : Healthy world.store)
    (confirmed : Confirmed (operate drivers command world).calls) :
    Healthy (operate drivers command world).store := by
  obtain ⟨_,issued,outcome,now⟩ := operate_confirmed drivers confirmed
  exact healthy.outcome outcome now

/-- While the drivers succeed, every end of an active program leaves the valve closed or
an output on exactly when no abort meets a running step with all outputs off and the
valve opening or open. -/
theorem exits_covered_iff {zones : List Zone} {preOpenDelayMs : UInt32} {world : World ε}
    (booted : boot zones preOpenDelayMs = .ok world.store) (commands : List Command)
    (confirmed : Confirmed (run drivers commands world).calls) :
    Runs.Along (operate drivers) (fun command world => Exits world.store (operate drivers command world).store →
        Covered (operate drivers command world).store) commands world ↔
      Runs.Along (operate drivers) (fun command world => ¬Orphans command world.store) commands world := by
  refine Runs.along_iff (fun world : World ε => Healthy world.store) ?_ ?_ (boot_healthy booted)
    (run_confirmed drivers confirmed)
  · intro command world healthy calls
    exact operate_healthy drivers healthy calls
  · intro command world healthy calls
    obtain ⟨_,issued,outcome,now⟩ := operate_confirmed drivers calls
    exact healthy.covered_iff outcome now

theorem exits_covered_iff_devWorld :
    Runs.Along (operate quietDrivers) (fun command world =>
        Exits world.store (operate quietDrivers command world).store →
        Covered (operate quietDrivers command world).store)
        [.programStart (some 0),.programProcess,.programAbort] (devWorld devProgram) ↔
      Runs.Along (operate quietDrivers) (fun command world => ¬Orphans command world.store)
        [.programStart (some 0),.programProcess,.programAbort] (devWorld devProgram) :=
  exits_covered_iff quietDrivers (boot_of_configurable devZones_configurable 0) _ (by decide +kernel)

/-- The running step's zone is closed by hand and the program aborted: nothing waters
and the master valve stays open. -/
theorem abort_after_manual_close_orphans :
    Confirmed (run quietDrivers [.programStart (some 0),.programProcess,.zoneClose (some (.literal "zone-1")),
      .programAbort] (devWorld devProgram)).calls ∧
    ¬Runs.Along (operate quietDrivers) (fun command world =>
        Exits world.store (operate quietDrivers command world).store →
        Covered (operate quietDrivers command world).store)
      [.programStart (some 0),.programProcess,.zoneClose (some (.literal "zone-1")),.programAbort]
      (devWorld devProgram) := by
  simp only [Runs.Along]
  decide +kernel

/-- While the drivers succeed and every running program names configured, enabled zones,
no state reached has the program in PROGRAM_STATE_FAULT exactly when no operation of the
run is impeded. -/
theorem never_faults_iff {zones : List Zone} {preOpenDelayMs : UInt32} {world : World ε}
    (booted : boot zones preOpenDelayMs = .ok world.store) (commands : List Command)
    (confirmed : Confirmed (run drivers commands world).calls)
    (configured : Runs.Throughout (operate drivers) (fun world => programIsActive world.store = true →
      Configured world.store world.currentProgram) commands world) :
    Runs.Throughout (operate drivers) (fun world => world.store.program.state ≠ .fault) commands world ↔
      Runs.Along (operate drivers) (Unimpeded drivers) commands world := by
  have sound : world.store.program.state ≠ .fault := by
    obtain ⟨_,stored⟩ := boot_ok booted
    rw [stored]
    nofun
  have calls := run_confirmed drivers confirmed
  have healthy : Runs.Throughout (operate drivers) (fun world : World ε => Healthy world.store) commands world :=
    Runs.invariant_throughout (fun world : World ε => Healthy world.store) (fun _ _ healthy calls => operate_healthy drivers healthy calls)
      (boot_healthy booted) calls
  have both : Runs.Throughout (operate drivers)
        (fun world : World ε => Healthy world.store ∧ world.store.program.state ≠ .fault) commands world ↔
      Runs.Along (operate drivers) (Unimpeded drivers) commands world := by
    refine Runs.throughout_iff_along ?_ ⟨boot_healthy booted,sound⟩
      (Runs.along_and calls (Runs.along_of_throughout configured))
    intro command world holds allowed
    obtain ⟨_,issued,outcome,now⟩ := operate_confirmed drivers allowed.1
    have faults := holds.1.faults_iff outcome now holds.2 allowed.2
    exact ⟨fun next => faults.mp next.2,fun unimpeded => ⟨operate_healthy drivers holds.1 allowed.1,
      faults.mpr unimpeded⟩⟩
  rw [← both,Runs.throughout_and]
  exact ⟨fun sound => ⟨healthy,sound⟩,And.right⟩

theorem never_faults_iff_devWorld :
    Runs.Throughout (operate quietDrivers) (fun world => world.store.program.state ≠ .fault)
        [.programStart (some 0),.programProcess,.programAbort] (devWorld devProgram) ↔
      Runs.Along (operate quietDrivers) (Unimpeded quietDrivers)
        [.programStart (some 0),.programProcess,.programAbort] (devWorld devProgram) := by
  apply never_faults_iff quietDrivers (boot_of_configurable devZones_configurable 0) _ (by decide +kernel)
  simp only [Runs.throughout_cons,Runs.throughout_nil]
  decide +kernel

/-- The master valve is opened by hand and a program started: the start is refused by
the valve and the program ends in PROGRAM_STATE_FAULT. -/
theorem start_behind_open_valve_faults :
    Confirmed (run quietDrivers [.masterOpen,.programStart (some 0)] (devWorld devProgram)).calls ∧
    Runs.Throughout (operate quietDrivers) (fun world => programIsActive world.store = true →
      Configured world.store world.currentProgram) [.masterOpen,.programStart (some 0)] (devWorld devProgram) ∧
    ¬Runs.Throughout (operate quietDrivers) (fun world => world.store.program.state ≠ .fault)
      [.masterOpen,.programStart (some 0)] (devWorld devProgram) := by
  simp only [Runs.throughout_cons,Runs.throughout_nil]
  decide +kernel

end Orphaned

end Irrigation
