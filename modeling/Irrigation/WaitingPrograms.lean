import Irrigation.Operations

/-! A program that waits for the master valve. The program service leaves the wait over an
open or a broken valve only, and the one operation that closes the valve behind a waiting
program is a close by hand. -/
namespace Irrigation

/-- The program waits for a valve that opens, is open or is broken. -/
def Attended (store : RuntimeState) : Prop :=
  store.program.state = .waitingMaster → store.masterValve.state = .opening ∨ store.masterValve.state = .open ∨
    store.masterValve.state = .fault

instance (store : RuntimeState) : Decidable (Attended store) := by
  unfold Attended; infer_instance

/-- What every operation but a close by hand keeps: no operation leaves the valve in between. -/
structure Waits (store : RuntimeState) : Prop where
  attended : Attended store
  notClosing : store.masterValve.state ≠ .closing

section Valves

variable {store next : RuntimeState} {result : IrrigationResult} {issued : List DriverCall}

theorem ZoneOpening.masterValve {zoneId : Option CString} {durationMs : UInt32} {reads : UInt64 → Prop}
    (opening : ZoneOpening store zoneId durationMs reads result issued next) : next.masterValve = store.masterValve := by
  cases opening <;> rfl

theorem ZoneClosing.masterValve {zoneId : Option CString} (closing : ZoneClosing store zoneId result issued next) :
    next.masterValve = store.masterValve := by
  cases closing with
  | refused => rfl
  | closed => exact closedZone_masterValve store _
  | failed => rfl

theorem ZoneClosings.masterValve (closings : ZoneClosings store issued next) :
    next.masterValve = store.masterValve := by
  induction closings with
  | done => rfl
  | next closing _ ih => exact ih.trans closing.masterValve

theorem masterTimed_waits (waits : Waits store) (nowMs : UInt64) : Waits (masterTimed store nowMs) := by
  unfold masterTimed
  split
  · exact ⟨fun _ => .inr (.inl rfl),nofun⟩
  · exact waits

theorem MasterOpening.notClosing (opening : MasterOpening store result issued next)
    (notClosing : store.masterValve.state ≠ .closing) : next.masterValve.state ≠ .closing := by
  cases opening with
  | refused => exact notClosing
  | opening | failed => nofun

theorem MasterOpening.waits (opening : MasterOpening store result issued next) (waits : Waits store) : Waits next := by
  refine ⟨?_,opening.notClosing waits.notClosing⟩
  cases opening with
  | refused => exact waits.attended
  | opening => exact fun _ => .inl rfl
  | failed => exact fun _ => .inr (.inr rfl)

theorem MasterClosing.notClosing (closing : MasterClosing store result issued next)
    (notClosing : store.masterValve.state ≠ .closing) : next.masterValve.state ≠ .closing := by
  cases closing with
  | refused => exact notClosing
  | closed | failed => nofun

/-- A program that does not wait is attended. -/
theorem Waits.of_state (notClosing : store.masterValve.state ≠ .closing)
    (elsewhere : store.program.state ≠ .waitingMaster) : Waits store :=
  ⟨fun waiting => absurd waiting elsewhere,notClosing⟩

theorem Waits.unchanged (waits : Waits store) (valve : next.masterValve = store.masterValve)
    (program : next.program = store.program) : Waits next := by
  refine ⟨?_,by rw [valve]; exact waits.notClosing⟩
  rw [Attended,valve,program]
  exact waits.attended

end Valves

/-! ### Operations -/

section Operations

variable {store next : RuntimeState} {result : IrrigationResult} {issued : List DriverCall}

theorem FaultExit.waits (exit : FaultExit store issued next) (notClosing : store.masterValve.state ≠ .closing) :
    Waits next := by
  cases exit with
  | exit closing => exact .of_state (closing.notClosing notClosing) (by simp [RuntimeState.terminal])

theorem StepOpening.waits {stepIndex : Nat} {step : ProgramStep} {reads : UInt64 → Prop}
    (opening : StepOpening store stepIndex step reads issued next) (notClosing : store.masterValve.state ≠ .closing) :
    Waits next := by
  cases opening with
  | opened opening => exact .of_state (by rw [opening.masterValve]; exact notClosing) (by simp)
  | failed opening _ exit => exact exit.waits (by rw [opening.masterValve]; exact notClosing)

/-- A start waits for the valve that it opens. -/
theorem ProgramStarting.waits (starting : ProgramStarting store result issued next) (waits : Waits store) :
    Waits next := by
  cases starting with
  | refused => exact waits
  | started _ opening =>
    refine ⟨?_,opening.notClosing waits.notClosing⟩
    cases opening with
    | refused failed => exact absurd rfl failed
    | opening => exact fun _ => .inl rfl
    | failed _ notOk => exact absurd rfl notOk
  | failed _ opening notOk =>
    exact .of_state (opening.notClosing waits.notClosing) (by simp [RuntimeState.terminal])

theorem ProgramProcessing.waits {program : Program} {nowMs : UInt64} {reads : UInt64 → Prop}
    (processing : ProgramProcessing store program nowMs reads issued next) (waits : Waits store) : Waits next := by
  have timed := masterTimed_waits waits nowMs
  cases processing with
  | inactive | running | delaying => exact waits
  | waiting => exact timed
  | masterFault _ _ exit => exact exit.waits timed.notClosing
  | entering _ _ opening => exact opening.waits timed.notClosing
  | closeFailed _ _ closing _ exit => exact exit.waits (by rw [closing.masterValve]; exact waits.notClosing)
  | advancing _ _ closing _ opening => exact opening.waits (by rw [closing.masterValve]; exact waits.notClosing)
  | finishing _ _ closing => exact .of_state (by rw [closing.masterValve]; exact waits.notClosing) (by simp)
  | completed _ _ closing =>
    exact .of_state (closing.notClosing waits.notClosing) (by simp [RuntimeState.terminal])

theorem AbortZone.masterValve {zoneId : Option CString} (zone : AbortZone store zoneId result issued next) :
    next.masterValve = store.masterValve := by
  cases zone with
  | running _ closing => exact closing.masterValve
  | skipped => rfl

theorem ProgramAborting.waits {zoneId : Option CString} (aborting : ProgramAborting store zoneId issued next)
    (waits : Waits store) : Waits next := by
  cases aborting with
  | zoneFailed zone | closedMaster zone =>
    refine .of_state ?_ (by simp [RuntimeState.terminal])
    rw [RuntimeState.terminal,zone.masterValve]
    exact waits.notClosing
  | closingMaster zone _ closing =>
    refine .of_state (closing.notClosing ?_) ?_
    · rw [zone.masterValve]
      exact waits.notClosing
    · simp only [RuntimeState.terminal]
      split <;> simp

theorem EntriesHandling.waits {ε : Type} {drivers : Drivers ε} {world final : World ε} {entries : List SchedulerEntry}
    (handling : EntriesHandling drivers world entries issued final) (waits : Waits world.store) :
    Waits final.store := by
  induction handling with
  | done => exact waits
  | next handling _ ih =>
    apply ih
    cases handling with
    | passed _ stored => exact waits.unchanged (by rw [stored]) (by rw [stored])
    | started _ _ _ starting stored =>
      exact (starting.waits waits).unchanged (by rw [stored]) (by rw [stored])

variable {ε : Type} (drivers : Drivers ε)

/-- A close by hand, exactly. -/
theorem masterValveServiceClose_store (world : World ε) : (masterValveServiceClose drivers world).2.store =
    if stateStoreMasterValveCloseIsEligible world.store then
      if (drivers.perform .closeAndConfirm world.environment).1 = .ok then masterClosed world.store
      else masterFaulted world.store
    else world.store := by
  obtain ⟨_,closing,_,answered⟩ := masterValveServiceClose_answered drivers world
  generalize (masterValveServiceClose drivers world).1 = result at closing answered
  generalize (masterValveServiceClose drivers world).2.store = closed at closing ⊢
  cases closing with
  | refused _ ineligible => rw [if_neg ineligible]
  | closed eligible => rw [if_pos eligible,if_pos (answered eligible).symm]
  | failed eligible notOk => rw [if_pos eligible,if_neg fun ok => notOk ((answered eligible).trans ok)]

/-- A close by hand that the waiting program's valve and the drivers let pass. -/
def ClosesBehind (command : Command) (world : World ε) : Prop :=
  command = .masterClose ∧ world.store.program.state = .waitingMaster ∧
    stateStoreMasterValveCloseIsEligible world.store ∧
    (drivers.perform .closeAndConfirm world.environment).1 = .ok

instance (command : Command) (world : World ε) : Decidable (ClosesBehind drivers command world) := by
  unfold ClosesBehind; infer_instance

variable {drivers} {world : World ε} {command : Command}

theorem masterClose_waits (waits : Waits world.store) (apart : ¬ClosesBehind drivers .masterClose world) :
    Waits (operate drivers .masterClose world).store := by
  have stored : (operate drivers .masterClose world).store = _ := masterValveServiceClose_store drivers world
  rw [stored]
  by_cases eligible : stateStoreMasterValveCloseIsEligible world.store
  · rw [if_pos eligible]
    by_cases confirmed : (drivers.perform .closeAndConfirm world.environment).1 = .ok
    · rw [if_pos confirmed]
      exact .of_state nofun fun waiting => apart ⟨rfl,waiting,eligible,confirmed⟩
    · rw [if_neg confirmed]
      exact ⟨fun _ => .inr (.inr rfl),nofun⟩
  · rw [if_neg eligible]
    exact waits

theorem Outcome.waits (outcome : Outcome drivers world command issued next) (waits : Waits world.store)
    (closes : command = .masterClose → Waits next) : Waits next := by
  cases outcome with
  | zoneOpen opening => exact waits.unchanged opening.masterValve opening.program
  | zoneClose closing => exact waits.unchanged closing.masterValve closing.program
  | zoneSafeClose closings | zoneProcessTimeouts closings =>
    exact waits.unchanged closings.masterValve closings.program
  | masterOpen opening => exact opening.waits waits
  | masterClose => exact closes rfl
  | masterProcessTime => exact masterTimed_waits waits _
  | startRejected | abortRejected => exact waits
  | programStart _ _ starting => exact starting.waits waits
  | programProcess processing => exact processing.waits waits
  | programAbort _ aborting => exact aborting.waits waits
  | schedulerProcess handling => exact handling.waits waits

/-- Every operation but such a close keeps a waiting program attended. -/
theorem operate_waits (waits : Waits world.store) (apart : ¬ClosesBehind drivers command world) :
    Waits (operate drivers command world).store := by
  obtain ⟨issued,outcome,_⟩ := operate_outcome drivers command world
  apply outcome.waits waits
  rintro rfl
  exact masterClose_waits waits apart

/-- Such a close leaves the program waiting for a closed valve. -/
theorem closesBehind_unattended (closes : ClosesBehind drivers command world) :
    ¬Attended (operate drivers command world).store := by
  obtain ⟨rfl,waiting,eligible,confirmed⟩ := closes
  have stored : (operate drivers .masterClose world).store = _ := masterValveServiceClose_store drivers world
  rw [if_pos eligible,if_pos confirmed] at stored
  rw [stored]
  intro attended
  simpa [masterClosed] using attended waiting

/-! ### Leaving the wait -/

/-- A poll at a time leaves the wait over these valves. -/
def Leaves (store : RuntimeState) (nowMs : UInt64) : Prop :=
  store.masterValve.state = .open ∨ store.masterValve.state = .fault ∨
    store.masterValve.state = .opening ∧
      ¬nowMs - store.masterValve.openingConfirmedAtMs < store.masterValve.preOpenDelayMs.toUInt64

theorem leaves_iff_timed (store : RuntimeState) (nowMs : UInt64) : Leaves store nowMs ↔
    (masterTimed store nowMs).masterValve.state = .open ∨ (masterTimed store nowMs).masterValve.state = .fault := by
  unfold Leaves masterTimed
  split
  · next timed => exact iff_of_true (.inr (.inr timed)) (.inl rfl)
  · next early => exact or_congr_right (or_iff_left early)

theorem processed_leaves_iff (waiting : world.store.program.state = .waitingMaster) :
    (operate drivers .programProcess world).store.program.state ≠ .waitingMaster ↔
      Leaves world.store (drivers.nowMs world.environment).1 := by
  obtain ⟨issued,processing,_⟩ := programServiceProcess_cases drivers world
  change (programServiceProcess drivers world).2.store.program.state ≠ _ ↔ _
  revert processing
  generalize (programServiceProcess drivers world).2.store = next
  intro processing
  rw [leaves_iff_timed]
  cases processing with
  | inactive idle => simp [programIsActive,waiting] at idle
  | waiting _ notOpen notFault => simp [masterTimed_program,waiting,notOpen,notFault]
  | masterFault _ broken exit =>
    cases exit
    exact iff_of_true (by simp [RuntimeState.terminal]) (.inr broken)
  | entering _ masterOpen opening =>
    refine iff_of_true ?_ (.inl masterOpen)
    cases opening with
    | opened => simp
    | failed _ _ exit =>
      cases exit
      simp [RuntimeState.terminal]
  | running state | closeFailed state | advancing state | finishing state | delaying state | completed state =>
    rw [waiting] at state
    contradiction

/-! ### Behind a closed valve -/

/-- A program that waits for a closed valve. -/
structure Stranded (store : RuntimeState) : Prop where
  waiting : store.program.state = .waitingMaster
  closed : store.masterValve.state = .closed

theorem Stranded.unchanged (stranded : Stranded store) (valve : next.masterValve = store.masterValve)
    (program : next.program = store.program) : Stranded next :=
  ⟨by rw [program]; exact stranded.waiting,by rw [valve]; exact stranded.closed⟩

theorem Stranded.unattended (stranded : Stranded store) : ¬Attended store := by
  intro attended
  simpa [stranded.closed] using attended stranded.waiting

theorem Stranded.active (stranded : Stranded store) : programIsActive store = true := by
  simp [programIsActive,stranded.waiting]

theorem Stranded.timed (stranded : Stranded store) (nowMs : UInt64) : masterTimed store nowMs = store :=
  if_neg (by simp [stranded.closed])

theorem Stranded.entries {world final : World ε} {entries : List SchedulerEntry}
    (handling : EntriesHandling drivers world entries issued final) (stranded : Stranded world.store) :
    Stranded final.store := by
  induction handling with
  | done => exact stranded
  | next handling _ ih =>
    apply ih
    cases handling with
    | passed _ stored => exact stranded.unchanged (by rw [stored]) (by rw [stored])
    | started _ _ inactive => exact absurd (inactive.symm.trans stranded.active) (by simp)

/-- Only an open by hand or an abort ends it; a due entry finds the program active. -/
theorem Stranded.outcome (stranded : Stranded world.store)
    (outcome : Outcome drivers world command issued next) (unopened : command ≠ .masterOpen)
    (unaborted : command ≠ .programAbort) : Stranded next := by
  cases outcome with
  | zoneOpen opening => exact stranded.unchanged opening.masterValve opening.program
  | zoneClose closing => exact stranded.unchanged closing.masterValve closing.program
  | zoneSafeClose closings | zoneProcessTimeouts closings =>
    exact stranded.unchanged closings.masterValve closings.program
  | masterOpen => exact absurd rfl unopened
  | masterClose closing =>
    cases closing with
    | refused => exact stranded
    | closed eligible | failed eligible =>
      have letting := eligible.1
      simp [stranded.closed] at letting
  | masterProcessTime =>
    rw [stranded.timed]
    exact stranded
  | startRejected => exact stranded
  | programStart _ inactive => exact absurd (inactive.symm.trans stranded.active) (by simp)
  | programProcess processing =>
    have timed := stranded.timed (drivers.nowMs world.environment).1
    cases processing with
    | inactive => exact stranded
    | waiting =>
      rw [timed]
      exact stranded
    | masterFault _ reached =>
      rw [timed,stranded.closed] at reached
      contradiction
    | entering _ reached =>
      rw [timed,stranded.closed] at reached
      contradiction
    | running state | closeFailed state | advancing state | finishing state | delaying state | completed state =>
      rw [stranded.waiting] at state
      contradiction
  | abortRejected => exact stranded
  | programAbort => exact absurd rfl unaborted
  | schedulerProcess handling => exact .entries handling stranded

theorem stranded_run {commands : List Command} (stranded : Stranded world.store)
    (left : ∀ command ∈ commands, command ≠ .masterOpen ∧ command ≠ .programAbort) :
    Stranded (run drivers commands world).store := by
  induction commands generalizing world with
  | nil => exact stranded
  | cons command rest ih =>
    obtain ⟨unopened,unaborted⟩ := left command List.mem_cons_self
    obtain ⟨issued,outcome,_⟩ := operate_outcome drivers command world
    exact ih (stranded.outcome outcome unopened unaborted) fun later member =>
      left later (List.mem_cons_of_mem _ member)

end Operations

/-! ### Runs -/

section WaitingRuns

variable {ε : Type} (drivers : Drivers ε)

theorem boot_waits {zones : List Zone} {preOpenDelayMs : UInt32} {store : RuntimeState}
    (booted : boot zones preOpenDelayMs = .ok store) : Waits store := by
  obtain ⟨_,rfl⟩ := boot_ok booted
  exact ⟨nofun,nofun⟩

/-- In every state of a run from boot a waiting program's valve opens, is open or is broken exactly
when no operation of the run closes it by hand behind the program. A poll leaves the wait exactly
over an open or broken valve, or one whose pre-open delay is over. -/
theorem attended_iff {zones : List Zone} {preOpenDelayMs : UInt32} {world : World ε}
    (booted : boot zones preOpenDelayMs = .ok world.store) (commands : List Command) :
    (Runs.Throughout (operate drivers) (fun world => Attended world.store) commands world ↔
      Runs.Along (operate drivers) (fun command world => ¬ClosesBehind drivers command world) commands world) ∧
    ∀ reached : World ε, reached.store.program.state = .waitingMaster →
      ((operate drivers .programProcess reached).store.program.state ≠ .waitingMaster ↔
        Leaves reached.store (drivers.nowMs reached.environment).1) := by
  refine ⟨Runs.throughout_iff_along_of (fun world : World ε => Waits world.store) ?_ ?_ ?_ (boot_waits booted),
    fun reached waiting => processed_leaves_iff waiting⟩
  · exact fun world waits => waits.attended
  · exact fun command world waits apart => operate_waits waits apart
  · exact fun command world _ attended closes => closesBehind_unattended closes attended

theorem attended_iff_devWorld :
    Runs.Throughout (operate quietDrivers) (fun world => Attended world.store)
        [.programStart (some 0),.programProcess,.programAbort] (devWorld devProgram) ↔
      Runs.Along (operate quietDrivers) (fun command world => ¬ClosesBehind quietDrivers command world)
        [.programStart (some 0),.programProcess,.programAbort] (devWorld devProgram) :=
  (attended_iff quietDrivers (boot_of_configurable devZones_configurable 0) _).1

/-- A program is started and the valve it waits for closed by hand: the program waits behind a
closed valve, whatever polls follow. -/
theorem close_behind_waiting_strands :
    ¬Runs.Throughout (operate quietDrivers) (fun world => Attended world.store)
        [.programStart (some 0),.masterClose] (devWorld devProgram) ∧
      Stranded (run quietDrivers [.programStart (some 0),.masterClose] (devWorld devProgram)).store ∧
      ∀ polls : Nat, Stranded (run quietDrivers (List.replicate polls .programProcess)
        (run quietDrivers [.programStart (some 0),.masterClose] (devWorld devProgram))).store := by
  have stranded : Stranded (run quietDrivers [.programStart (some 0),.masterClose] (devWorld devProgram)).store :=
    ⟨by decide +kernel,by decide +kernel⟩
  refine ⟨fun attended => stranded.unattended (attended _ [] rfl),stranded,
    fun polls => stranded_run stranded fun command member => ?_⟩
  rw [List.eq_of_mem_replicate member]
  simp

end WaitingRuns

end Irrigation
