import Irrigation.Library.Runs
import Irrigation.ProgramSteps
import Irrigation.Defaults

/-! The operations that commands, timers and the scheduler apply to the services, one
at a time, from a booted store on. -/
namespace Irrigation

inductive Command where
  | zoneOpen (zoneId : Option CString) (durationMs : UInt32)
  | zoneClose (zoneId : Option CString)
  | zoneSafeClose
  | zoneProcessTimeouts
  | masterOpen
  | masterClose
  | masterProcessTime
  | programStart (program : Option ProgramAddress)
  | programProcess
  | programAbort
  | schedulerProcess (now : SchedulerTime)
  deriving DecidableEq, Repr

/-- `state_store_init`, the configured zones and pre-open delay, and READY. -/
def boot (zones : List Zone) (preOpenDelayMs : UInt32) : Except IrrigationResult RuntimeState := do
  let configured ← stateStoreConfigureZones stateStoreInit zones
  let timed ← stateStoreConfigureMasterValve configured preOpenDelayMs
  stateStoreTransitionSystem timed .ready

variable {ε : Type} (drivers : Drivers ε)

def execute : Command → Service ε IrrigationResult
  | .zoneOpen zoneId durationMs => zoneServiceOpen drivers zoneId durationMs
  | .zoneClose zoneId => zoneServiceClose drivers zoneId
  | .zoneSafeClose => zoneServiceSafeClose drivers
  | .zoneProcessTimeouts => zoneServiceProcessTimeouts drivers
  | .masterOpen => masterValveServiceOpen drivers
  | .masterClose => masterValveServiceClose drivers
  | .masterProcessTime => masterValveServiceProcessTime drivers
  | .programStart program => programServiceStart drivers program
  | .programProcess => programServiceProcess drivers
  | .programAbort => programServiceAbort drivers
  | .schedulerProcess now => schedulerServiceProcess drivers now

/-- The world after one operation. -/
def operate (command : Command) (world : World ε) : World ε := (execute drivers command world).2

/-- The world after a sequence of operations. -/
def run (commands : List Command) (world : World ε) : World ε := Runs.after (operate drivers) commands world

/-- What booting leaves in the store. -/
def bootedStore (zones : List Zone) (accepted : ConfigurableZones zones) (preOpenDelayMs : UInt32) : RuntimeState :=
  { stateStoreInit with
    systemState := .ready
    masterValve := ⟨.closed,0,preOpenDelayMs⟩
    zones := configuredTable zones accepted }

theorem boot_of_configurable {zones : List Zone} (accepted : ConfigurableZones zones) (preOpenDelayMs : UInt32) :
    boot zones preOpenDelayMs = .ok (bootedStore zones accepted preOpenDelayMs) := by
  simp only [boot,stateStoreConfigureZones,accepted,dif_pos]
  rfl

theorem boot_ok {zones : List Zone} {preOpenDelayMs : UInt32} {store : RuntimeState}
    (booted : boot zones preOpenDelayMs = .ok store) :
    ∃ accepted : ConfigurableZones zones, store = bootedStore zones accepted preOpenDelayMs := by
  by_cases accepted : ConfigurableZones zones
  · rw [boot_of_configurable accepted] at booted
    exact ⟨accepted,(Except.ok.inj booted).symm⟩
  · simp only [boot,stateStoreConfigureZones,accepted,dif_neg,not_false_eq_true] at booted
    contradiction

/-- What one operation does to the store, with the driver calls it issues. -/
inductive Outcome (world : World ε) : Command → List DriverCall → RuntimeState → Prop
  | zoneOpen {zoneId : Option CString} {durationMs : UInt32} {reads : UInt64 → Prop}
      {result : IrrigationResult} {issued : List DriverCall} {next : RuntimeState}
      (opening : ZoneOpening world.store zoneId durationMs reads result issued next) :
      Outcome world (.zoneOpen zoneId durationMs) issued next
  | zoneClose {zoneId : Option CString} {result : IrrigationResult} {issued : List DriverCall}
      {next : RuntimeState} (closing : ZoneClosing world.store zoneId result issued next) :
      Outcome world (.zoneClose zoneId) issued next
  | zoneSafeClose {issued : List DriverCall} {next : RuntimeState}
      (closings : ZoneClosings world.store issued next) : Outcome world .zoneSafeClose issued next
  | zoneProcessTimeouts {issued : List DriverCall} {next : RuntimeState}
      (closings : ZoneClosings world.store issued next) : Outcome world .zoneProcessTimeouts issued next
  | masterOpen {result : IrrigationResult} {issued : List DriverCall} {next : RuntimeState}
      (opening : MasterOpening world.store result issued next) : Outcome world .masterOpen issued next
  | masterClose {result : IrrigationResult} {issued : List DriverCall} {next : RuntimeState}
      (closing : MasterClosing world.store result issued next) : Outcome world .masterClose issued next
  | masterProcessTime :
      Outcome world .masterProcessTime [] (masterTimed world.store (drivers.nowMs world.environment).1)
  | startRejected {program : Option ProgramAddress} (unfit : ∀ address, program = some address →
      programIsValid (world.memory.program address) = true → programIsActive world.store = true) :
      Outcome world (.programStart program) [] world.store
  | programStart {address : ProgramAddress} (valid : programIsValid (world.memory.program address) = true)
      (inactive : programIsActive world.store = false) {result : IrrigationResult} {issued : List DriverCall}
      {next : RuntimeState} (starting : ProgramStarting world.store result issued next) :
      Outcome world (.programStart (some address)) issued next
  | programProcess {reads : UInt64 → Prop} {issued : List DriverCall} {next : RuntimeState}
      (processing : ProgramProcessing world.store world.currentProgram (drivers.nowMs world.environment).1
        reads issued next) : Outcome world .programProcess issued next
  | abortRejected (inactive : programIsActive world.store = false) : Outcome world .programAbort [] world.store
  | programAbort (active : programIsActive world.store = true) {issued : List DriverCall} {next : RuntimeState}
      (aborting : ProgramAborting world.store
        (world.currentProgram.step world.store.program.currentStepIndex).zoneId issued next) :
      Outcome world .programAbort issued next
  | schedulerProcess {now : SchedulerTime} {issued : List DriverCall} {next : World ε}
      (handling : EntriesHandling drivers
        { world with synchronization := world.synchronization ++ [.lock] }
        (if schedulerTimeIsValid now then dueEntries world.store now 0 world.entries else []) issued next) :
      Outcome world (.schedulerProcess now) issued next.store

theorem EntriesHandling.calls {drivers : Drivers ε} {world next : World ε} {entries : List SchedulerEntry}
    {issued : List DriverCall} (handling : EntriesHandling drivers world entries issued next) :
    next.calls = world.calls ++ issued := by
  induction handling with
  | done => simp
  | next handling _ ih =>
    rw [ih]
    cases handling with
    | passed _ _ back => simp [back.calls]
    | started _ _ _ _ _ back => simp [back.calls]

theorem operate_outcome (command : Command) (world : World ε) :
    ∃ issued, Outcome drivers world command issued (operate drivers command world).store ∧
      (operate drivers command world).calls = world.calls ++ issued := by
  cases command with
  | zoneOpen zoneId durationMs =>
    obtain ⟨issued,opening,back⟩ := zoneServiceOpen_cases drivers zoneId durationMs world
    exact ⟨issued,.zoneOpen opening,back.calls⟩
  | zoneClose zoneId =>
    obtain ⟨issued,closing,back⟩ := zoneServiceClose_cases drivers zoneId world
    exact ⟨issued,.zoneClose closing,back.calls⟩
  | zoneSafeClose =>
    obtain ⟨issued,closings,back⟩ := zoneServiceSafeClose_cases drivers world
    exact ⟨issued,.zoneSafeClose closings,back.calls⟩
  | zoneProcessTimeouts =>
    obtain ⟨issued,closings,back⟩ := zoneServiceProcessTimeouts_cases drivers world
    exact ⟨issued,.zoneProcessTimeouts closings,back.calls⟩
  | masterOpen =>
    obtain ⟨issued,opening,back⟩ := masterValveServiceOpen_cases drivers world
    exact ⟨issued,.masterOpen opening,back.calls⟩
  | masterClose =>
    obtain ⟨issued,closing,back⟩ := masterValveServiceClose_cases drivers world
    exact ⟨issued,.masterClose closing,back.calls⟩
  | masterProcessTime =>
    obtain ⟨_,stored,back⟩ := masterValveServiceProcessTime_run drivers world
    refine ⟨[],?_,back.calls⟩
    simp only [operate,execute,stored]
    exact .masterProcessTime
  | programStart program =>
    simp only [operate,execute,programServiceStart]
    rcases programServiceStartWithContext_cases drivers program programStartContextManual world with
      ⟨rejected,unfit⟩ | ⟨address,rfl,valid,_,inactive,accepted⟩
    · rw [rejected]
      exact ⟨[],.startRejected fun address named valid => unfit address named valid rfl,by simp⟩
    · obtain ⟨issued,starting,back⟩ := programServiceStartLocked_cases drivers address programStartContextManual world
      rw [accepted]
      exact ⟨issued,.programStart valid inactive starting,back.calls⟩
  | programProcess =>
    obtain ⟨issued,processing,back⟩ := programServiceProcess_cases drivers world
    exact ⟨issued,.programProcess processing,back.calls⟩
  | programAbort =>
    rcases programServiceAbort_cases drivers world with ⟨inactive,rejected⟩ | ⟨active,issued,aborting,back⟩
    · simp only [operate,execute,rejected]
      exact ⟨[],.abortRejected inactive,by simp⟩
    · exact ⟨issued,.programAbort active aborting,back.calls⟩
  | schedulerProcess now =>
    obtain ⟨issued,next,handling,ticked⟩ := schedulerServiceProcess_cases drivers now world
    simp only [operate,execute,ticked]
    exact ⟨issued,.schedulerProcess handling,handling.calls⟩

/-! ### The development kit -/

theorem devZones_configurable : ConfigurableZones devZones := by decide

/-- Devices that confirm every command; the environment is what the clock reads. -/
def quietDrivers : Drivers UInt64 where
  perform := fun _ time => (.ok,time)
  nowMs := fun time => (time,time)

/-- The default program of the development kit. -/
def devProgram : Program where
  id := some (.literal "dev-program")
  steps := [⟨some (.literal "zone-1"),30000⟩,⟨some (.literal "zone-2"),30000⟩]
  postProgramDelayMs := 0

/-- The development kit booted without a pre-open delay, a program at hand everywhere. -/
def devWorld (program : Program) : World UInt64 where
  store := bootedStore devZones devZones_configurable 0
  memory := ⟨fun _ => program,fun _ => .literal ""⟩
  program := none
  startContext := programStartContextManual
  entries := []
  environment := 0
  calls := []
  events := []
  synchronization := []

end Irrigation
