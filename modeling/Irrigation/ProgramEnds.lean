import Irrigation.Library.Polling
import Irrigation.ProgramClock
import Irrigation.ProgramStarts
import Irrigation.SystemBoot

/-! Every program comes to its end. While it is active no request changes it; each iteration of the task
uses up a sleep or takes it a step further, and its steps are few. -/
namespace Irrigation

open Polling

/-! ### Edits and the running program -/

section Edits

variable {ε σ : Type} {system : ManagedSystem ε σ}

/-- An edit of something else leaves the programs. -/
theorem prepareLive_programs {live next : LiveConfiguration} {mutation : Mutation} {revived : Bool}
    (incremental : ∀ candidate, mutation ≠ .replace candidate) (others : ¬mutation.OfPrograms)
    (prepared : mutation.prepareLive live revived = .ok next) : next.programs = live.programs := by
  cases mutation with
  | replace candidate => exact absurd rfl (incremental candidate)
  | createProgram | updateProgram | deleteProgram => exact absurd trivial others
  | renameZone zoneId displayName =>
    simp only [Mutation.prepareLive,LiveConfiguration.renameZone] at prepared
    split at prepared
    · split at prepared
      · cases prepared
        rfl
      · contradiction
    · contradiction
  | createSchedule weekdayMask hour minute programId =>
    simp only [Mutation.prepareLive,LiveConfiguration.saveSchedule] at prepared
    split at prepared
    · contradiction
    · split at prepared
      · contradiction
      · cases prepared
        rfl
  | updateSchedule scheduleIndex weekdayMask hour minute programId =>
    simp only [Mutation.prepareLive,LiveConfiguration.saveSchedule] at prepared
    split at prepared
    · contradiction
    · split at prepared
      · contradiction
      · cases prepared
        rfl
  | deleteSchedule scheduleIndex =>
    simp only [Mutation.prepareLive,LiveConfiguration.deleteSchedule] at prepared
    split at prepared
    · contradiction
    · cases prepared
      rfl
  | setScheduleEnabled scheduleIndex enabled =>
    simp only [Mutation.prepareLive,LiveConfiguration.setScheduleEnabled] at prepared
    split at prepared
    · contradiction
    · cases prepared
      rfl

/-- The runtime programs are rebuilt for an edit of programs only. -/
theorem mutate_programs (device : Repository.ConfigurationRepositoryStorage σ) (mirrored : Mirrored system)
    {mutation : Mutation} (incremental : ∀ candidate, mutation ≠ .replace candidate) (others : ¬mutation.OfPrograms) :
    (mutate device mutation system).2.world.memory.program = system.world.memory.program := by
  have faithful := mirrored.faithful
  rcases mutate_replacing device mirrored mutation with ⟨_,_,run,_⟩ | ⟨candidate,prepared,valid,replacing⟩
  · rw [run]
  · have lists := prepare_live faithful.capacity mutation
    rw [prepared] at lists
    have same := prepareLive_programs incremental others lists.symm
    have equal := programsAreEqual_of_live faithful.capacity ((validate_ok_iff _ _).mp valid).1 same.symm
    have unchanged : programsChanged system.manager candidate = false := by rw [programsChanged,equal]; rfl
    have shown : (candidateViews system.manager candidate).memory.program = system.manager.views.memory.program := by
      rw [candidateViews,unchanged]
      rfl
    have restored : (restoredViews system.manager candidate).memory.program = system.manager.views.memory.program := by
      rw [restoredViews,unchanged]
      exact shown
    rw [mirrored.linked]
    generalize (mutate device mutation system).1 = result at replacing
    generalize (mutate device mutation system).2 = next at replacing ⊢
    cases replacing with
    | installed _ taken => exact (congrArg Memory.program taken.memory).trans shown
    | restored _ _ taken => exact (congrArg Memory.program taken.memory).trans restored

/-- The program of the service is another one only after an edit of programs. -/
theorem mutate_currentProgram (device : Repository.ConfigurationRepositoryStorage σ) (mirrored : Mirrored system)
    {mutation : Mutation} (incremental : ∀ candidate, mutation ≠ .replace candidate) (others : ¬mutation.OfPrograms) :
    (mutate device mutation system).2.world.currentProgram = system.world.currentProgram := by
  rw [World.currentProgram,World.currentProgram,mutate_programs device mirrored incremental others,
    (mutate_rescheduled device mutation system).program]

end Edits

/-! ### The polls that are left -/

section Polls

variable (paceMs : Nat)

/-- The polls of the steps from an index on and of the delay behind them. -/
def plannedPolls (program : Program) (stepIndex : Nat) : Nat :=
  ((program.steps.drop stepIndex).map fun step => polls paceMs step.durationMs.toNat).sum +
    polls paceMs program.postProgramDelayMs.toNat

/-- The polls of a whole execution. -/
def executionPolls (delayMs : UInt32) (program : Program) : Nat :=
  polls paceMs delayMs.toNat + plannedPolls paceMs program 0

/-- The polls until a program ends, if the next one comes at this time at the earliest. -/
def pollsLeft (store : RuntimeState) (program : Program) (earliest : Nat) : Nat :=
  match store.program.state with
  | .waitingMaster =>
    (if store.masterValve.state = .opening then sleeps paceMs (store.masterValve.openingConfirmedAtMs.toNat +
      store.masterValve.preOpenDelayMs.toNat - earliest) else 0) + 1 +
      plannedPolls paceMs program store.program.currentStepIndex
  | .runningZone =>
    sleeps paceMs (store.program.stepStartedAtMs.toNat +
      (program.step store.program.currentStepIndex).durationMs.toNat - earliest) + 1 +
      plannedPolls paceMs program (store.program.currentStepIndex + 1)
  | .waitingPostProgramDelay =>
    sleeps paceMs (store.program.stepStartedAtMs.toNat + program.postProgramDelayMs.toNat - earliest) + 1
  | _ => 0

variable {paceMs} {store next : RuntimeState} {program : Program} {earliest wake : Nat}

theorem plannedPolls_step {stepIndex : Nat} (inside : stepIndex < program.steps.length) :
    plannedPolls paceMs program stepIndex =
      polls paceMs (program.step stepIndex).durationMs.toNat + plannedPolls paceMs program (stepIndex + 1) := by
  have step : program.step stepIndex = program.steps[stepIndex] := by
    rw [Program.step,List.getD_eq_getElem?_getD,List.getElem?_eq_getElem inside,Option.getD_some]
  rw [plannedPolls,List.drop_eq_getElem_cons inside,List.map_cons,List.sum_cons,← step,plannedPolls,Nat.add_assoc]

variable (paceMs) in
/-- Behind the last step there is only the delay. -/
theorem plannedPolls_behind {stepIndex : Nat} (behind : program.steps.length ≤ stepIndex) :
    plannedPolls paceMs program stepIndex = polls paceMs program.postProgramDelayMs.toNat := by
  rw [plannedPolls,List.drop_eq_nil_of_le behind,List.map_nil,List.sum_nil,Nat.zero_add]

theorem plannedPolls_succ_le (stepIndex : Nat) :
    plannedPolls paceMs program (stepIndex + 1) ≤ plannedPolls paceMs program stepIndex := by
  by_cases inside : stepIndex < program.steps.length
  · rw [plannedPolls_step inside]
    exact Nat.le_add_left _ _
  · rw [plannedPolls_behind paceMs (by omega),plannedPolls_behind paceMs (by omega)]

variable (paceMs program) in
theorem plannedPolls_le_first (stepIndex : Nat) : plannedPolls paceMs program stepIndex ≤ plannedPolls paceMs program 0 := by
  induction stepIndex with
  | zero => exact Nat.le_refl _
  | succ stepIndex ih => exact (plannedPolls_succ_le stepIndex).trans ih

variable (program) in
/-- The polls of a step that may not be there. -/
theorem plannedPolls_from (awake : 0 < paceMs) (stepIndex : Nat) :
    polls paceMs (program.step stepIndex).durationMs.toNat + plannedPolls paceMs program (stepIndex + 1) ≤
      plannedPolls paceMs program stepIndex + 1 := by
  by_cases inside : stepIndex < program.steps.length
  · rw [plannedPolls_step inside]
    exact Nat.le_succ _
  · have absent : program.step stepIndex = ⟨none,0⟩ := by
      rw [Program.step,List.getD_eq_getElem?_getD,List.getElem?_eq_none (by omega),Option.getD_none]
    have none : sleeps paceMs 0 ≤ 0 := (sleeps_le_iff awake 0 0).mpr (Nat.zero_le _)
    have zero : (0 : UInt32).toNat = 0 := rfl
    rw [absent,zero,plannedPolls_behind paceMs (by omega),plannedPolls_behind paceMs (by omega)]
    simp only [polls]
    omega

theorem pollsLeft_pos (active : programIsActive store = true) : 0 < pollsLeft paceMs store program earliest := by
  unfold pollsLeft
  cases state : store.program.state with
  | waitingMaster | runningZone => exact Nat.add_pos_left (Nat.succ_pos _) _
  | waitingPostProgramDelay => exact Nat.succ_pos _
  | idle | completed | aborted | fault => simp [programIsActive,state] at active

/-- Waiting for the next poll takes nothing back. -/
theorem pollsLeft_later (awake : 0 < paceMs) (later : earliest ≤ wake) :
    pollsLeft paceMs store program wake ≤ pollsLeft paceMs store program earliest := by
  unfold pollsLeft
  cases store.program.state with
  | waitingMaster =>
    dsimp only
    split
    · exact Nat.add_le_add_right (Nat.add_le_add_right (sleeps_later awake later) 1) _
    · exact Nat.le_refl _
  | runningZone => exact Nat.add_le_add_right (Nat.add_le_add_right (sleeps_later awake later) 1) _
  | waitingPostProgramDelay => exact Nat.add_le_add_right (sleeps_later awake later) 1
  | idle | completed | aborted | fault => exact Nat.le_refl _

/-- Only a program that waits for the valve looks at it. -/
theorem pollsLeft_congr (same : next.program = store.program)
    (valve : store.program.state = .waitingMaster → next.masterValve = store.masterValve) :
    pollsLeft paceMs next program earliest = pollsLeft paceMs store program earliest := by
  unfold pollsLeft
  rw [same]
  cases state : store.program.state with
  | waitingMaster => rw [valve state]
  | _ => rfl

theorem pollsLeft_timed (nowMs : UInt64) :
    pollsLeft paceMs (masterTimed store nowMs) program earliest ≤ pollsLeft paceMs store program earliest := by
  unfold masterTimed
  split
  · simp only [pollsLeft]
    cases store.program.state with
    | waitingMaster => exact Nat.add_le_add_right (Nat.add_le_add_right (Nat.zero_le _) 1) _
    | _ => exact Nat.le_refl _
  · exact Nat.le_refl _

/-- An execution takes no more polls than are planned for it. -/
theorem pollsLeft_le_execution (awake : 0 < paceMs) (confirmed : store.masterValve.openingConfirmedAtMs.toNat ≤ earliest)
    (started : store.program.stepStartedAtMs.toNat ≤ earliest) :
    pollsLeft paceMs store program earliest ≤ executionPolls paceMs store.masterValve.preOpenDelayMs program := by
  have first := plannedPolls_le_first paceMs program store.program.currentStepIndex
  have begun (duration : Nat) := sleeps_begun awake started duration
  simp only [pollsLeft,executionPolls,polls]
  cases store.program.state with
  | waitingMaster =>
    have opening := sleeps_begun awake confirmed store.masterValve.preOpenDelayMs.toNat
    dsimp only
    split <;> omega
  | runningZone =>
    have step := plannedPolls_from program awake store.program.currentStepIndex
    have taken := begun (program.step store.program.currentStepIndex).durationMs.toNat
    simp only [polls] at step
    dsimp only
    omega
  | waitingPostProgramDelay =>
    have last : polls paceMs program.postProgramDelayMs.toNat ≤ plannedPolls paceMs program 0 := Nat.le_add_left _ _
    have taken := begun program.postProgramDelayMs.toNat
    simp only [polls] at last
    dsimp only
    omega
  | idle | completed | aborted | fault => exact Nat.zero_le _

end Polls

/-! ### A poll of the program -/

section Polled

variable {paceMs : Nat} {store next : RuntimeState} {program : Program} {earliest wake : Nat} {nowMs : UInt64}
  {reads : UInt64 → Prop} {issued : List DriverCall}

/-- A wait since a past time that is not over. -/
theorem early_of_sub_lt {sinceMs : UInt64} {durationMs : UInt32} (past : sinceMs ≤ nowMs)
    (early : nowMs - sinceMs < durationMs.toUInt64) : nowMs.toNat < sinceMs.toNat + durationMs.toNat := by
  have difference : (nowMs - sinceMs).toNat = nowMs.toNat - sinceMs.toNat := UInt64.toNat_sub_of_le _ _ past
  rw [UInt64.lt_iff_toNat_lt,difference,UInt32.toNat_toUInt64] at early
  have ordered := UInt64.le_iff_toNat_le.mp past
  omega

theorem not_active_of_fault (fault : store.program.state = .fault) : programIsActive store ≠ true := by
  simp [programIsActive,fault]

/-- A zone that was opened is one of a step of the program. -/
theorem StepOpening.pollsLeft_le (awake : 0 < paceMs) {stepIndex : Nat}
    (opening : StepOpening store stepIndex (program.step stepIndex) reads issued next)
    (active : programIsActive next = true) (started : next.program.stepStartedAtMs.toNat ≤ wake) :
    pollsLeft paceMs next program wake ≤ plannedPolls paceMs program stepIndex := by
  cases opening with
  | failed _ _ exit => exact absurd active (not_active_of_fault exit.fault)
  | @opened _ middle zone startedAtMs =>
    have inside : stepIndex < program.steps.length := by
      by_contra behind
      have absent : program.step stepIndex = ⟨none,0⟩ := by
        rw [Program.step,List.getD_eq_getElem?_getD,List.getElem?_eq_none (by omega),Option.getD_none]
      rw [absent] at zone
      cases zone with
      | refused failed => exact failed rfl
      | opened named => contradiction
      | failed named => contradiction
    have begun := sleeps_begun awake started (program.step stepIndex).durationMs.toNat
    rw [plannedPolls_step inside]
    exact Nat.add_le_add_right (Nat.succ_le_succ begun) _

/-- A poll that finds the program active and leaves it so uses up a sleep, or what is planned for a wait. -/
theorem ProgramProcessing.pollsLeft_lt (awake : 0 < paceMs) (awaited : Awaited store)
    (processing : ProgramProcessing store program nowMs reads issued next) (active : programIsActive next = true)
    (confirmed : store.masterValve.openingConfirmedAtMs ≤ nowMs) (past : store.program.stepStartedAtMs ≤ nowMs)
    (wakes : earliest ≤ nowMs.toNat)
    (slept : (store.program.state = .waitingMaster → store.masterValve.state = .opening) → nowMs.toNat + paceMs ≤ wake)
    (started : next.program.stepStartedAtMs.toNat ≤ wake) :
    pollsLeft paceMs next program wake < pollsLeft paceMs store program earliest := by
  cases processing with
  | inactive idle => exact absurd (idle.symm.trans active) (by decide)
  | masterFault _ _ exit | closeFailed _ _ _ _ exit => exact absurd active (not_active_of_fault exit.fault)
  | completed => exact absurd active (by simp [programIsActive,RuntimeState.terminal])
  | waiting state notOpen =>
    have opening : store.masterValve.state = .opening := by
      refine (awaited state).resolve_right fun opened => notOpen ?_
      rw [masterTimed,if_neg (by simp [opened])]
      exact opened
    have early : nowMs - store.masterValve.openingConfirmedAtMs < store.masterValve.preOpenDelayMs.toUInt64 := by
      by_contra elapsed
      exact notOpen (by rw [masterTimed,if_pos ⟨opening,elapsed⟩])
    have kept : masterTimed store nowMs = store := if_neg fun timed => timed.2 early
    have used := sleeps_early awake wakes (early_of_sub_lt confirmed early) (slept fun _ => opening)
    rw [kept]
    simp only [pollsLeft,state,opening,if_true]
    omega
  | entering state masterOpen opening =>
    have begun := opening.pollsLeft_le awake active started
    simp only [pollsLeft,state] at begun ⊢
    omega
  | running state notElapsed =>
    have used := sleeps_early awake wakes (early_of_sub_lt past (UInt64.not_le.mp notElapsed))
      (slept fun waiting => absurd (state.symm.trans waiting) (by decide))
    simp only [pollsLeft,state]
    omega
  | advancing state _ _ _ opening =>
    have begun := opening.pollsLeft_le awake active started
    have found : pollsLeft paceMs store program earliest ≥
        1 + plannedPolls paceMs program (store.program.currentStepIndex + 1) := by
      simp only [pollsLeft,state]
      omega
    omega
  | @finishing state _ _ middle _ last startedAtMs =>
    have begun := sleeps_begun awake started program.postProgramDelayMs.toNat
    have behind := plannedPolls_behind paceMs (Nat.not_lt.mp last)
    simp only [polls] at behind
    simp only [pollsLeft,state]
    dsimp only at begun
    omega
  | delaying state notElapsed =>
    have used := sleeps_early awake wakes (early_of_sub_lt past (UInt64.not_le.mp notElapsed))
      (slept fun waiting => absurd (state.symm.trans waiting) (by decide))
    simp only [pollsLeft,state]
    omega

end Polled

/-! ### One operation -/

/-- Between the two an execution was announced to have ended. -/
def EndsExecution {ε : Type} (world next : World ε) : Prop :=
  ∃ told, next.told = world.told ++ told ∧ ∃ result, Announcement.terminated result ∈ told

/-- What was announced before still is. -/
def Announces {ε : Type} (world next : World ε) : Prop := ∃ told, next.told = world.told ++ told

/-- The execution that is active goes on as it was. -/
structure Untouched {ε : Type} (world next : World ε) : Prop where
  program : next.store.program = world.store.program
  currentProgram : next.currentProgram = world.currentProgram
  valve : world.store.program.state = .waitingMaster → next.store.masterValve = world.store.masterValve

section Operations

variable {ε : Type} {drivers : Drivers ε} {world middle next : World ε} {command : Command} {issued : List DriverCall}

theorem EndsExecution.later (ends : EndsExecution world middle) (back : Announces middle next) : EndsExecution world next := by
  obtain ⟨first,told,result,member⟩ := ends
  obtain ⟨second,more⟩ := back
  exact ⟨first ++ second,by rw [more,told,List.append_assoc],result,List.mem_append_left _ member⟩

theorem EndsExecution.earlier (ends : EndsExecution middle next) (front : Announces world middle) : EndsExecution world next := by
  obtain ⟨first,told⟩ := front
  obtain ⟨second,more,result,member⟩ := ends
  exact ⟨first ++ second,by rw [more,told,List.append_assoc],result,List.mem_append_right _ member⟩

theorem operate_announces (drivers : Drivers ε) (command : Command) (world : World ε) :
    Announces world (operate drivers command world) := by
  obtain ⟨told,_,_,recounted⟩ := operate_story drivers command world
  exact ⟨told,recounted.told⟩

theorem EntriesHandling.masterValve {entries : List SchedulerEntry}
    (handling : EntriesHandling drivers world entries issued next) (active : programIsActive world.store = true) :
    next.store.masterValve = world.store.masterValve := by
  induction handling with
  | done => rfl
  | next handling _ ih =>
    refine (ih (handling.ongoing active)).trans ?_
    cases handling with
    | passed _ stored => rw [stored]
    | started _ _ inactive => exact absurd (inactive.symm.trans active) (by decide)

/-- The valve of a waiting program is touched by a poll and by a close only. -/
theorem Outcome.masterValve {store : RuntimeState} (outcome : Outcome drivers world command issued store)
    (active : programIsActive world.store = true) (same : store.program = world.store.program)
    (awaited : Awaited world.store) (waiting : world.store.program.state = .waitingMaster)
    (unpolled : command ≠ .programProcess) (untimed : command ≠ .masterProcessTime)
    (apart : ¬ClosesAwaited command world.store) : store.masterValve = world.store.masterValve := by
  have engaged (idle : world.store.masterValve.state = .closed ∨ world.store.masterValve.state = .fault) : False := by
    rcases awaited waiting with opens | opened <;> simp_all
  cases outcome with
  | zoneOpen opening => exact opening.masterValve
  | zoneClose closing => exact closing.masterValve
  | zoneSafeClose closings | zoneProcessTimeouts closings => exact closings.masterValve
  | masterOpen opening =>
    cases opening with
    | refused => rfl
    | opening idle | failed idle => exact (engaged idle).elim
  | masterClose closing =>
    cases closing with
    | refused => rfl
    | closed eligible | failed eligible => exact absurd ⟨rfl,waiting,eligible⟩ apart
  | masterProcessTime => exact absurd rfl untimed
  | startRejected | abortRejected => rfl
  | programStart _ inactive => exact absurd (inactive.symm.trans active) (by decide)
  | programProcess => exact absurd rfl unpolled
  | programAbort _ aborting =>
    have ended := aborting.ends
    rw [same,waiting] at ended
    simp at ended
  | schedulerProcess handling => exact handling.masterValve active

variable (drivers command) in
/-- Whatever is asked while a program is active, it is aborted or goes on as it was. -/
theorem operate_untouched (active : programIsActive world.store = true) (awaited : Awaited world.store)
    (unpolled : command ≠ .programProcess) (untimed : command ≠ .masterProcessTime)
    (apart : ¬ClosesAwaited command world.store) :
    EndsExecution world (operate drivers command world) ∨ Untouched world (operate drivers command world) := by
  have lively : world.store.program.state.active = true := (programIsActive_eq world.store).symm.trans active
  obtain ⟨issued,outcome,_⟩ := operate_outcome drivers command world
  obtain ⟨told,state,story,recounted⟩ := operate_story drivers command world
  have stored := recounted.state
  have running := recounted.currentProgram lively
  cases story with
  | aside =>
    exact .inr ⟨stored,running,fun waiting => outcome.masterValve active stored awaited waiting unpolled untimed apart⟩
  | started _ inactive => exact absurd (inactive.symm.trans lively) (by decide)
  | polled => exact absurd rfl unpolled
  | aborted _ abort =>
    cases abort with
    | @ended closing _ result =>
      exact .inl ⟨_,recounted.told,result,List.mem_append_right _ (List.mem_singleton_self _)⟩

/-- A poll after which the program is not active has ended it. -/
theorem poll_ends (active : programIsActive world.store = true)
    (inactive : programIsActive (operate drivers .programProcess world).store = false) :
    EndsExecution world (operate drivers .programProcess world) := by
  obtain ⟨told,state,poll,narrated⟩ := programServiceProcess_story drivers world
  have stored : (operate drivers .programProcess world).store.program = state := narrated.state
  have ended : state.state.active = false := by
    rw [programIsActive_eq,stored] at inactive
    exact inactive
  have lively : world.store.program.state.active = true := (programIsActive_eq world.store).symm.trans active
  have opened {program : Program} {before : ProgramRuntimeState} {told : List Announcement} {after : ProgramRuntimeState}
      (step : StepStory program before told after) (ended : after.state.active = false) :
      ∃ result, Announcement.terminated result ∈ told := by
    cases step with
    | running => exact absurd ended (by simp [ProgramState.active])
    | faulted => exact ⟨.fault,List.mem_singleton_self _⟩
  refine ⟨told,narrated.told,?_⟩
  cases poll with
  | waited => exact absurd (lively.symm.trans ended) (by decide)
  | entered _ step => exact opened step ended
  | broke => exact ⟨.fault,List.mem_singleton_self _⟩
  | advanced _ _ step =>
    obtain ⟨result,member⟩ := opened step ended
    exact ⟨result,List.mem_append_right _ member⟩
  | finished => exact absurd ended (by simp [ProgramState.active])
  | completed => exact ⟨.completed,List.mem_singleton_self _⟩

end Operations

/-! ### The clock of a poll -/

/-- A poll that looks at the clock does so before anything else. -/
theorem poll_reads {ε : Type} {drivers : Drivers ε} {time : ε → UInt64} (clock : Nondecreasing drivers time)
    {world : World ε}
    (active : programIsActive world.store = true)
    (looks : world.store.program.state = .waitingMaster → world.store.masterValve.state = .opening) :
    (drivers.nowMs world.environment).1 ≤ time (operate drivers .programProcess world).environment := by
  have elapses := elapses_operations clock
  have read : (drivers.nowMs world.environment).1 ≤ time (clockNowMs drivers world).2.environment :=
    clock.after world.environment
  have found : clockNowMs drivers world = ((drivers.nowMs world.environment).1,(clockNowMs drivers world).2) := rfl
  change _ ≤ time (programServiceProcess drivers world).2.environment
  cases state : world.store.program.state with
  | waitingMaster =>
    cases reading : drivers.nowMs world.environment with
    | mk now environment =>
      have timed := masterValveServiceProcessTime_opening drivers (looks state) reading
      have rest (valve : MasterValveState) : Respects (Elapses time) (if valve = .open then openCurrentZone drivers
          else if valve = .fault then fault drivers .invalidState else (pure .ok : Service ε IrrigationResult)) :=
        .ite elapses.openCurrentZone (.ite (elapses.fault _) (elapses.pure _))
      have answered := (masterValveServiceProcessTime_run drivers world).1
      have run : masterValveServiceProcessTime drivers world =
          (.ok,{ world with store := masterTimed world.store now, environment }) := Prod.ext answered timed
      have past := clock.after world.environment
      rw [reading] at past
      simp only [programServiceProcess,run_snapshot_bind,state,processWaitingMaster,run_bind_of run,ne_eq,
        not_true_eq_false,if_false]
      exact UInt64.le_trans past (rest (masterTimed world.store now).masterValve.state
        { world with store := masterTimed world.store now, environment })
  | runningZone =>
    have rest : Respects (Elapses time) (if (drivers.nowMs world.environment).1 - world.store.program.stepStartedAtMs ≥
        (world.currentProgram.step world.store.program.currentStepIndex).durationMs.toUInt64 then
        completeCurrentStep drivers world.store (world.currentProgram.step world.store.program.currentStepIndex)
        else pure .ok) :=
      .ite (elapses.completeCurrentStep _ _) (elapses.pure _)
    simp only [programServiceProcess,run_snapshot_bind,state,processRunningZone,run_get_bind,run_bind_of found]
    exact UInt64.le_trans read (rest _)
  | waitingPostProgramDelay =>
    have rest : Respects (Elapses time) (if (drivers.nowMs world.environment).1 - world.store.program.stepStartedAtMs ≥
        world.currentProgram.postProgramDelayMs.toUInt64 then do
        let result ← masterValveServiceClose drivers
        finish drivers .completed .completed
        pure result
        else (pure .ok : Service ε IrrigationResult)) :=
      .ite (elapses.bind elapses.masterClose fun _ => elapses.bind (elapses.finish _ _) fun _ => elapses.pure _) (elapses.pure _)
    simp only [programServiceProcess,run_snapshot_bind,state,processWaitingPostProgramDelay,run_get_bind,run_bind_of found]
    exact UInt64.le_trans read (rest _)
  | idle | completed | aborted | fault => simp [programIsActive,state] at active

/-! ### Steps of the firmware -/

section Firmware

variable {ε σ : Type} {drivers : Drivers ε} {device : Repository.ConfigurationRepositoryStorage σ} {time : ε → UInt64}
  {delayMs : UInt32} {zones : List Zone} {system : ManagedSystem ε σ}

/-- What the firmware keeps as long as nobody closes the valve that a program waits for. -/
structure Timekeeping (time : ε → UInt64) (delayMs : UInt32) (zones : List Zone) (system : ManagedSystem ε σ) : Prop where
  sound : Sound zones system
  clocked : Clocked time delayMs system.world
  awaited : Awaited system.world.store

/-- A request that closes the valve that the program waits for. -/
def FirmwareStep.ClosesAwaited (step : FirmwareStep ε) (store : RuntimeState) : Prop :=
  match step with
  | .iteration _ _ => False
  | .request _ call => call.ClosesMaster ∧ store.program.state = .waitingMaster ∧ stateStoreMasterValveCloseIsEligible store

theorem Timekeeping.at (keeping : Timekeeping time delayMs zones system) {environment : ε}
    (later : time system.world.environment ≤ time environment) : Timekeeping time delayMs zones (system.at environment) :=
  ⟨keeping.sound.aged environment,keeping.clocked.later later,keeping.awaited⟩

theorem Timekeeping.commanded (keeping : Timekeeping time delayMs zones system) (clock : Nondecreasing drivers time)
    {command : Command} (apart : ¬ClosesAwaited command system.world.store) :
    Timekeeping time delayMs zones { system with world := operate drivers command system.world } :=
  ⟨keeping.sound.commanded drivers command,keeping.clocked.operate clock command,
    operate_awaited drivers keeping.awaited apart⟩

theorem Timekeeping.edited (keeping : Timekeeping time delayMs zones system) {mutation : Mutation}
    (edit : WebEdit system.world.store mutation) : Timekeeping time delayMs zones (mutate device mutation system).2 := by
  have rescheduled := mutate_rescheduled device mutation system
  obtain ⟨scheduler,stored⟩ := rescheduled.store
  refine ⟨keeping.sound.edited device edit,keeping.clocked.rescheduled rescheduled,?_⟩
  rw [stored]
  exact keeping.awaited

/-- A request does one operation, or an edit. -/
theorem Timekeeping.served (keeping : Timekeeping time delayMs zones system) (clock : Nondecreasing drivers time)
    {closes : Prop} {outcome : WebAnswer × ManagedSystem ε σ} (served : Served drivers device closes system outcome)
    (apart : ¬(closes ∧ system.world.store.program.state = .waitingMaster ∧
      stateStoreMasterValveCloseIsEligible system.world.store)) : Timekeeping time delayMs zones outcome.2 := by
  cases served with
  | answered => exact keeping
  | commanded request asked =>
    refine keeping.commanded clock fun closing => apart ⟨asked ?_,closing.2⟩
    cases request <;> first | rfl | exact nomatch closing.1
  | edited edit => exact keeping.edited edit

/-- A system in which a program is active, with the polls that are left for it. -/
structure Executing (time : ε → UInt64) (delayMs : UInt32) (zones : List Zone) (paceMs wakesAtMs rest : Nat)
    (system : ManagedSystem ε σ) : Prop extends Timekeeping time delayMs zones system where
  active : programIsActive system.world.store = true
  left : pollsLeft paceMs system.world.store system.world.currentProgram
    (max wakesAtMs (time system.world.environment).toNat) ≤ rest

variable {paceMs wakesAtMs rest : Nat}

theorem Untouched.active {world next : World ε} (untouched : Untouched world next)
    (active : programIsActive world.store = true) : programIsActive next.store = true := by
  rw [programIsActive,untouched.program]
  exact active

theorem Executing.untouched (executing : Executing time delayMs zones paceMs wakesAtMs rest system) (awake : 0 < paceMs)
    {next : ManagedSystem ε σ} (keeping : Timekeeping time delayMs zones next)
    (untouched : Untouched system.world next.world) (elapses : time system.world.environment ≤ time next.world.environment) :
    Executing time delayMs zones paceMs wakesAtMs rest next := by
  refine ⟨keeping,untouched.active executing.active,?_⟩
  have ordered := UInt64.le_iff_toNat_le.mp elapses
  rw [untouched.currentProgram,pollsLeft_congr untouched.program untouched.valve]
  exact (pollsLeft_later awake (by omega)).trans executing.left

theorem Executing.at (executing : Executing time delayMs zones paceMs wakesAtMs rest system) (awake : 0 < paceMs)
    {environment : ε} (later : time system.world.environment ≤ time environment) :
    Executing time delayMs zones paceMs wakesAtMs rest (system.at environment) :=
  executing.untouched awake (executing.toTimekeeping.at later) ⟨rfl,rfl,fun _ => rfl⟩ later

/-- A request ends the execution, or leaves as many polls as before. -/
theorem Executing.served (executing : Executing time delayMs zones paceMs wakesAtMs rest system) (awake : 0 < paceMs)
    (clock : Nondecreasing drivers time) {closes : Prop} {outcome : WebAnswer × ManagedSystem ε σ}
    (served : Served drivers device closes system outcome)
    (apart : ¬(closes ∧ system.world.store.program.state = .waitingMaster ∧
      stateStoreMasterValveCloseIsEligible system.world.store)) :
    EndsExecution system.world outcome.2.world ∨ Executing time delayMs zones paceMs wakesAtMs rest outcome.2 := by
  have keeping := executing.toTimekeeping.served clock served apart
  cases served with
  | answered => exact .inr executing
  | commanded request asked =>
    have unclosed : ¬ClosesAwaited request.command system.world.store := by
      refine fun closing => apart ⟨asked ?_,closing.2⟩
      cases request <;> first | rfl | exact nomatch closing.1
    have polled : request.command ≠ .programProcess ∧ request.command ≠ .masterProcessTime := by
      cases request <;> exact ⟨nofun,nofun⟩
    refine (operate_untouched drivers request.command executing.active executing.awaited polled.1 polled.2 unclosed).imp_right
      fun untouched => ?_
    exact executing.untouched awake keeping untouched ((elapses_operations clock).operate request.command system.world)
  | @edited mutation edit =>
    have rescheduled := mutate_rescheduled device mutation system
    obtain ⟨scheduler,stored⟩ := rescheduled.store
    have others : ¬mutation.OfPrograms := fun programs =>
      absurd ((edit.idle programs).symm.trans executing.active) (by decide)
    refine .inr (executing.untouched awake keeping ⟨?_,?_,fun _ => ?_⟩ ?_)
    · rw [stored]
    · exact mutate_currentProgram device executing.sound.toMirrored edit.incremental others
    · rw [stored]
    · rw [rescheduled.environment]
      exact UInt64.le_refl _

variable (drivers) in
/-- An iteration with an active program polls it, and may look at the schedules then. -/
theorem iterate_cases (localTime : Option SchedulerTime) {firmware : Firmware ε σ}
    (active : programIsActive (operate drivers .masterProcessTime firmware.system.world).store = true) :
    let polled := operate drivers .programProcess (operate drivers .masterProcessTime firmware.system.world)
    (iterate drivers localTime firmware).system = { firmware.system with world := polled } ∨
      ∃ now, (iterate drivers localTime firmware).system =
        { firmware.system with world := operate drivers (.schedulerProcess now) polled } := by
  simp only [iterate,schedulerTaskIteration,active,if_true]
  by_cases due : firmware.tickCount + 1 ≥ 150
  · rw [if_pos due]
    cases localTime with
    | none => exact .inl rfl
    | some now => exact .inr ⟨now,rfl⟩
  · rw [if_neg due]
    exact .inl rfl

theorem schedulerProcess_apart (now : SchedulerTime) (store : RuntimeState) :
    ¬ClosesAwaited (.schedulerProcess now) store := fun closing => nomatch closing.1

/-- What is left once an iteration polled the program and left it active. -/
theorem Executing.polled (executing : Executing time delayMs zones paceMs wakesAtMs rest system) (awake : 0 < paceMs)
    (clock : Nondecreasing drivers time) (wakes : wakesAtMs ≤ (time system.world.environment).toNat) (wake : Nat)
    (active : programIsActive (operate drivers .programProcess (operate drivers .masterProcessTime system.world)).store = true)
    (slept : (time (operate drivers .programProcess (operate drivers .masterProcessTime system.world)).environment).toNat +
      paceMs ≤ wake) :
    ∃ fewer < rest, Executing time delayMs zones paceMs wake fewer { system with
      world := operate drivers .programProcess (operate drivers .masterProcessTime system.world) } := by
  obtain ⟨timed,timedEq⟩ : ∃ timed, timed = operate drivers .masterProcessTime system.world := ⟨_,rfl⟩
  have keepingTimed : Timekeeping time delayMs zones { system with world := timed } := by
    rw [timedEq]
    exact executing.toTimekeeping.commanded clock fun closing => nomatch closing.1
  have keeping : Timekeeping time delayMs zones { system with world := operate drivers .programProcess timed } :=
    keepingTimed.commanded clock fun closing => nomatch closing.1
  have elapses := elapses_operations clock
  have elapsed : time system.world.environment ≤ time timed.environment := by
    rw [timedEq]
    exact elapses.operate .masterProcessTime system.world
  have same : timed.currentProgram = system.world.currentProgram := by
    rw [timedEq]
    exact (masterValveServiceProcessTime_narrated drivers system.world).currentProgram
  have stored : timed.store = masterTimed system.world.store (drivers.nowMs system.world.environment).1 := by
    rw [timedEq]
    exact (masterValveServiceProcessTime_run drivers system.world).2.1
  have underway : programIsActive timed.store = true := by
    rw [stored,programIsActive,masterTimed_program]
    exact executing.active
  rw [← timedEq] at active slept ⊢
  obtain ⟨_,processing,issued⟩ := programServiceProcess_cases drivers timed
  have lively : timed.store.program.state.active = true := (programIsActive_eq timed.store).symm.trans underway
  have running : (operate drivers .programProcess timed).currentProgram = timed.currentProgram := by
    obtain ⟨_,_,_,recounted⟩ := operate_story drivers .programProcess timed
    exact recounted.currentProgram lively
  have reading := clock.before timed.environment
  have polledAt := UInt64.le_iff_toNat_le.mp (UInt64.le_trans elapsed reading)
  have used : pollsLeft paceMs (operate drivers .programProcess timed).store timed.currentProgram wake <
      pollsLeft paceMs timed.store timed.currentProgram (max wakesAtMs (time system.world.environment).toNat) :=
    processing.pollsLeft_lt awake keepingTimed.awaited active (UInt64.le_trans keepingTimed.clocked.confirmed reading)
      (UInt64.le_trans keepingTimed.clocked.started reading) (by omega)
      (fun looks => (Nat.add_le_add_right (UInt64.le_iff_toNat_le.mp (poll_reads clock underway looks)) _).trans slept)
      ((UInt64.le_iff_toNat_le.mp keeping.clocked.started).trans ((Nat.le_add_right _ _).trans slept))
  refine ⟨_,used.trans_le ?_,keeping,active,?_⟩
  · rw [same,stored]
    exact (pollsLeft_timed _).trans executing.left
  · change pollsLeft paceMs (operate drivers .programProcess timed).store (operate drivers .programProcess timed).currentProgram
      (max wake (time (operate drivers .programProcess timed).environment).toNat) ≤ _
    rw [running,Nat.max_eq_left (by omega)]

/-- An iteration ends the execution, or uses up a poll of what is left. -/
theorem Executing.iterated (firmware : Firmware ε σ)
    (executing : Executing time delayMs zones paceMs wakesAtMs rest firmware.system) (awake : 0 < paceMs)
    (clock : Nondecreasing drivers time) (wakes : wakesAtMs ≤ (time firmware.system.world.environment).toNat)
    (localTime : Option SchedulerTime) :
    EndsExecution firmware.system.world (iterate drivers localTime firmware).system.world ∨ ∃ fewer < rest,
      Executing time delayMs zones paceMs
        ((time (iterate drivers localTime firmware).system.world.environment).toNat + paceMs) fewer
        (iterate drivers localTime firmware).system := by
  obtain ⟨timed,timedEq⟩ : ∃ timed, timed = operate drivers .masterProcessTime firmware.system.world := ⟨_,rfl⟩
  have underway : programIsActive timed.store = true := by
    have stored : timed.store = masterTimed firmware.system.world.store (drivers.nowMs firmware.system.world.environment).1 := by
      rw [timedEq]
      exact (masterValveServiceProcessTime_run drivers firmware.system.world).2.1
    rw [stored,programIsActive,masterTimed_program]
    exact executing.active
  have front : Announces firmware.system.world timed := by
    rw [timedEq]
    exact operate_announces drivers .masterProcessTime firmware.system.world
  have cases := iterate_cases drivers localTime (timedEq ▸ underway)
  have polled (wake : Nat) := executing.polled awake clock wakes wake
  rw [← timedEq] at cases
  simp only [← timedEq] at polled
  cases active : programIsActive (operate drivers .programProcess timed).store with
  | false =>
    have ended := (poll_ends underway active).earlier front
    rcases cases with only | ⟨now,ticked⟩
    · rw [only]
      exact .inl ended
    · rw [ticked]
      exact .inl (ended.later (operate_announces drivers (.schedulerProcess now) _))
  | true =>
    rcases cases with only | ⟨now,ticked⟩
    · rw [only]
      exact .inr (polled _ active (Nat.le_refl _))
    · rw [ticked]
      have elapsed : time (operate drivers .programProcess timed).environment ≤
          time (operate drivers (.schedulerProcess now) (operate drivers .programProcess timed)).environment :=
        (elapses_operations clock).operate (.schedulerProcess now) _
      have later := UInt64.le_iff_toNat_le.mp elapsed
      obtain ⟨fewer,below,going⟩ := polled _ active (Nat.add_le_add_right later paceMs)
      rcases operate_untouched drivers (.schedulerProcess now) going.active going.awaited (by simp)
        (by simp) (schedulerProcess_apart now _) with ended | untouched
      · refine .inl (ended.earlier ?_)
        obtain ⟨first,told⟩ := front
        obtain ⟨second,more⟩ := operate_announces drivers .programProcess timed
        exact ⟨first ++ second,by rw [more,told,List.append_assoc]⟩
      · exact .inr ⟨fewer,below,going.untouched awake (going.toTimekeeping.commanded clock (schedulerProcess_apart now _))
          untouched elapsed⟩

/-- What is kept through calls that close no valve is kept through an iteration. -/
theorem Timekeeping.iterated (firmware : Firmware ε σ) (keeping : Timekeeping time delayMs zones firmware.system)
    (clock : Nondecreasing drivers time) (localTime : Option SchedulerTime) :
    Timekeeping time delayMs zones (iterate drivers localTime firmware).system := by
  have commanded {system : ManagedSystem ε σ} (kept : Timekeeping time delayMs zones system) {command : Command}
      (apart : command ≠ .masterClose) :
      Timekeeping time delayMs zones { system with world := operate drivers command system.world } :=
    kept.commanded clock fun closes => apart closes.1
  have timed : Timekeeping time delayMs zones { firmware.system with
      world := operate drivers .masterProcessTime firmware.system.world } := commanded keeping (by simp)
  have polled : Timekeeping time delayMs zones { firmware.system with
      world := if programIsActive (operate drivers .masterProcessTime firmware.system.world).store then
        operate drivers .programProcess (operate drivers .masterProcessTime firmware.system.world)
        else operate drivers .masterProcessTime firmware.system.world } := by
    split
    · exact commanded timed (by simp)
    · exact timed
  simp only [iterate,schedulerTaskIteration]
  by_cases due : firmware.tickCount + 1 ≥ 150
  · rw [if_pos due]
    cases localTime with
    | none => exact polled
    | some now => exact commanded polled (by simp)
  · rw [if_neg due]
    exact polled

theorem scheduled_timekeeping (time : ε → UInt64) {manager : ConfigurationManager} {world : World ε}
    (booted : boot zones delayMs = .ok world.store) {storage : σ}
    (sound : Sound zones (scheduled manager world storage)) :
    Timekeeping time delayMs zones (scheduled manager world storage) := by
  have rescheduled := scheduled_rescheduled manager world storage
  obtain ⟨_,configured⟩ := boot_ok booted
  have past (environment : ε) : (0 : UInt64) ≤ time environment := UInt64.le_iff_toNat_le.mpr (Nat.zero_le _)
  have clocked : Clocked time delayMs world := by
    refine ⟨?_,?_,?_⟩
    · rw [configured]
      rfl
    · rw [configured]
      exact past _
    · rw [configured]
      exact past _
  obtain ⟨scheduler,stored⟩ := rescheduled.store
  refine ⟨sound,clocked.rescheduled rescheduled,?_⟩
  rw [stored,configured]
  exact .of_state ProgramState.noConfusion

/-- A boot leaves no time behind. -/
theorem booted_timekeeping (bootable : Bootable zones) (accepted : ConfigurableZones zones) (time : ε → UInt64)
    {found : PowerUp ε} {storage next : σ} (completed : Boot.appMain device zones found storage = (.ok system,next))
    (sound : Sound zones system) : Timekeeping time 500 zones system := by
  have booting := appMain_booting bootable accepted device found storage
  rw [completed] at booting
  cases booting with
  | started =>
    exact scheduled_timekeeping time (boot_of_configurable accepted 500) sound

end Firmware

/-! ### Runs of the firmware -/

/-- The firmware, with the time before which its task does not wake up. -/
structure PacedFirmware (ε σ : Type) extends Firmware ε σ where
  wakesAtMs : Nat

section Runs

variable {ε σ : Type} (drivers : Drivers ε) (device : Repository.ConfigurationRepositoryStorage σ)
  (library : QueryKeyValue) (zones : List Zone) (time : ε → UInt64) (paceMs : Nat)

/-- After an iteration the task sleeps. -/
def pacedStep (step : FirmwareStep ε) (firmware : PacedFirmware ε σ) : PacedFirmware ε σ :=
  let next := firmwareStep drivers device library zones step firmware.toFirmware
  ⟨next,if step.isIteration then (time next.system.world.environment).toNat + paceMs else firmware.wakesAtMs⟩

/-- The clock went on, the task slept, and nobody closes the valve that a program waits for. -/
structure OnTime (step : FirmwareStep ε) (firmware : PacedFirmware ε σ) : Prop where
  later : time firmware.system.world.environment ≤ time step.environment
  slept : step.isIteration = true → firmware.wakesAtMs ≤ (time step.environment).toNat
  apart : ¬step.ClosesAwaited firmware.system.world.store

instance (step : FirmwareStep ε) (store : RuntimeState) : Decidable (step.ClosesAwaited store) := by
  cases step with
  | iteration => exact inferInstanceAs (Decidable False)
  | request => exact inferInstanceAs (Decidable (_ ∧ _ ∧ _))

instance (step : FirmwareStep ε) (firmware : PacedFirmware ε σ) : Decidable (OnTime time step firmware) :=
  decidable_of_iff (time firmware.system.world.environment ≤ time step.environment ∧
      (step.isIteration = true → firmware.wakesAtMs ≤ (time step.environment).toNat) ∧
      ¬step.ClosesAwaited firmware.system.world.store)
    ⟨fun onTime => ⟨onTime.1,onTime.2.1,onTime.2.2⟩,fun onTime => ⟨onTime.later,onTime.slept,onTime.apart⟩⟩

variable {drivers device library zones time paceMs} {delayMs : UInt32}

theorem Timekeeping.stepped {firmware : PacedFirmware ε σ} (keeping : Timekeeping time delayMs zones firmware.system)
    (clock : Nondecreasing drivers time) {step : FirmwareStep ε} (onTime : OnTime time step firmware) :
    Timekeeping time delayMs zones (pacedStep drivers device library zones time paceMs step firmware).system := by
  have found := keeping.at onTime.later
  cases step with
  | request environment call =>
    exact found.served clock (serve_served drivers device library zones _ call) onTime.apart
  | iteration environment localTime => exact Timekeeping.iterated ⟨_,firmware.tickCount⟩ found clock localTime

/-- The program that is active after any run ends within the polls that it takes. The clock does not go back,
the task sleeps between its iterations, and no request closes the valve that the program waits for. -/
theorem programs_end (library : QueryKeyValue) (clock : Nondecreasing drivers time) (awake : 0 < paceMs)
    {firmware : PacedFirmware ε σ} (initially : Timekeeping time delayMs zones firmware.system)
    (before later : List (FirmwareStep ε))
    (along : Runs.Along (pacedStep drivers device library zones time paceMs) (OnTime time) (before ++ later) firmware) :
    let runs := Runs.after (pacedStep drivers device library zones time paceMs)
    programIsActive (runs before firmware).system.world.store = true →
    executionPolls paceMs delayMs (runs before firmware).system.world.currentProgram ≤ iterations later →
    ∃ done step todo, later = done ++ step :: todo ∧
      EndsExecution (runs (before ++ done) firmware).system.world (runs (before ++ done ++ [step]) firmware).system.world := by
  intro runs active enough
  obtain ⟨front,back⟩ := Runs.along_append.mp along
  have keeping : Timekeeping time delayMs zones (runs before firmware).system :=
    Runs.invariant_throughout (fun firmware => Timekeeping time delayMs zones firmware.system)
      (fun step firmware kept onTime => kept.stepped clock onTime) initially front before [] (List.append_nil before).symm
  have started : Executing time delayMs zones paceMs (runs before firmware).wakesAtMs
      (executionPolls paceMs delayMs (runs before firmware).system.world.currentProgram) (runs before firmware).system := by
    refine ⟨keeping,active,?_⟩
    rw [← keeping.clocked.delay]
    exact pollsLeft_le_execution awake
      ((UInt64.le_iff_toNat_le.mp keeping.clocked.confirmed).trans (Nat.le_max_right _ _))
      ((UInt64.le_iff_toNat_le.mp keeping.clocked.started).trans (Nat.le_max_right _ _))
  have finishes := ends_within FirmwareStep.isIteration
    (fun step firmware => EndsExecution firmware.system.world
      (pacedStep drivers device library zones time paceMs step firmware).system.world)
    (fun firmware rest => Executing time delayMs zones paceMs firmware.wakesAtMs rest firmware.system)
    (fun _ _ executing => (pollsLeft_pos executing.active).trans_le executing.left) ?_ ?_ started back enough
  · obtain ⟨done,step,todo,split,ended⟩ := finishes
    refine ⟨done,step,todo,split,?_⟩
    change EndsExecution (Runs.after _ (before ++ done) firmware).system.world
      (Runs.after _ (before ++ done ++ [step]) firmware).system.world
    rw [Runs.after_append _ [step],Runs.after_append before done]
    exact ended
  · intro step firmware rest executing onTime counted
    have found := executing.at awake onTime.later
    cases step with
    | iteration => contradiction
    | request environment call =>
      exact found.served awake clock (serve_served drivers device library zones _ call) onTime.apart
  · intro step firmware rest executing onTime counted
    have found := executing.at awake onTime.later
    cases step with
    | request => contradiction
    | iteration environment localTime =>
      exact Executing.iterated ⟨_,firmware.tickCount⟩ found awake clock (onTime.slept rfl) localTime

theorem devSystem_timekeeping (repository persistenceRequired : Bool) :
    Timekeeping id 0 devZones (devSystem repository persistenceRequired) :=
  scheduled_timekeeping id (boot_of_configurable devZones_configurable 0)
    (devSystem_sound repository persistenceRequired)

/-- Iterations with two minutes in between. -/
def slowIterations : List (FirmwareStep UInt64) :=
  [120000,240000,360000,480000,600000,720000].map fun environment => .iteration environment none

theorem programs_end_devSystem : ∃ done step todo, slowIterations = done ++ step :: todo ∧
    EndsExecution (Runs.after (pacedStep quietDrivers Repository.memoryStorage pairLookup devZones id 100000)
        ([.request 10 startCall] ++ done) ⟨⟨devSystem false false,0⟩,0⟩).system.world
      (Runs.after (pacedStep quietDrivers Repository.memoryStorage pairLookup devZones id 100000)
        ([.request 10 startCall] ++ done ++ [step]) ⟨⟨devSystem false false,0⟩,0⟩).system.world :=
  programs_end pairLookup quietDrivers_nondecreasing (by decide) (devSystem_timekeeping false false)
    [.request 10 startCall] slowIterations (by decide +kernel) (by decide +kernel) (by decide +kernel)

end Runs

end Irrigation
