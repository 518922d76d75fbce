import Irrigation.ProgramExecution
import Irrigation.DueOccurrences

/-! The task loop and the zones whose duration is over. The loop polls the master valve,
the running program and the scheduler; none of the three closes a zone that no step of the
running program names. -/
namespace Irrigation

/-- The test that `zone_service_process_timeouts` makes of a zone. -/
def ZoneRuntimeState.TimedOut (zone : ZoneRuntimeState) (nowMs : UInt64) : Prop :=
  zone.state = .open ∧ zone.durationMs ≠ 0 ∧ nowMs - zone.openedAtMs ≥ zone.durationMs.toUInt64

instance (zone : ZoneRuntimeState) (nowMs : UInt64) : Decidable (zone.TimedOut nowMs) := by
  unfold ZoneRuntimeState.TimedOut; infer_instance

/-- The running step of a program names the zone. -/
def Owns (program : Program) (store : RuntimeState) (zone : ZoneRuntimeState) : Prop :=
  store.program.state = .runningZone ∧ (program.step store.program.currentStepIndex).zoneId = some zone.zoneId

instance (program : Program) (store : RuntimeState) (zone : ZoneRuntimeState) : Decidable (Owns program store zone) := by
  unfold Owns; infer_instance

/-- A zone of the store that has timed out. -/
structure Late (nowMs : UInt64) (store : RuntimeState) (zone : ZoneRuntimeState) : Prop where
  present : zone ∈ store.zones.entries
  timedOut : zone.TimedOut nowMs

/-- A zone that has timed out and that no step of the running program will close. -/
structure Overdue (nowMs : UInt64) (program : Program) (store : RuntimeState) (zone : ZoneRuntimeState) : Prop
    extends Late nowMs store zone where
  unowned : ¬Owns program store zone

section Stores

variable {store next : RuntimeState} {result : IrrigationResult} {issued : List DriverCall} {nowMs : UInt64}
  {program : Program} {zone : ZoneRuntimeState}

theorem late_of_zones (same : next.zones = store.zones) : Late nowMs next zone ↔ Late nowMs store zone := by
  constructor
  · intro late
    exact ⟨same ▸ late.present,late.timedOut⟩
  · intro late
    exact ⟨same ▸ late.present,late.timedOut⟩

/-- No zone is owned but while a step runs. -/
theorem overdue_of_state (idle : store.program.state ≠ .runningZone) :
    Overdue nowMs program store zone ↔ Late nowMs store zone := by
  constructor
  · intro overdue
    exact overdue.toLate
  · intro late
    exact ⟨late,fun owned => idle owned.1⟩

theorem overdue_congr (same : next.zones = store.zones) (kept : next.program = store.program) :
    Overdue nowMs program next zone ↔ Overdue nowMs program store zone := by
  constructor
  · intro overdue
    refine ⟨(late_of_zones same).mp overdue.toLate,?_⟩
    rw [Owns,← kept]
    exact overdue.unowned
  · intro overdue
    refine ⟨(late_of_zones same).mpr overdue.toLate,?_⟩
    rw [Owns,kept]
    exact overdue.unowned

/-- Other zones than the updated one are late as before. -/
theorem late_update {zoneId : CString} {status : ZoneStatus → ZoneStatus}
    (same : next.zones = store.zones.update zoneId status)
    (fresh : ∀ before : ZoneRuntimeState, ¬(⟨before.toZoneIdentity,status before.toZoneStatus⟩ : ZoneRuntimeState).TimedOut nowMs) :
    Late nowMs next zone ↔ Late nowMs store zone ∧ zone.zoneId ≠ zoneId := by
  constructor
  · rintro ⟨present,timedOut⟩
    rw [same,ZoneTable.mem_update] at present
    obtain ⟨before,member,rfl⟩ := present
    by_cases named : before.zoneId = zoneId
    · rw [ZoneTable.changeStatus_of_eq status named] at timedOut
      exact absurd timedOut (fresh before)
    · rw [ZoneTable.changeStatus_of_ne status named] at timedOut ⊢
      exact ⟨⟨member,timedOut⟩,named⟩
  · rintro ⟨late,other⟩
    refine ⟨?_,late.timedOut⟩
    rw [same,ZoneTable.mem_update]
    exact ⟨zone,late.present,ZoneTable.changeStatus_of_ne status other⟩

/-- A zone opened now has its whole duration ahead. -/
theorem not_timedOut_now (identity : ZoneIdentity) (state : ZoneState) (durationMs : UInt32) :
    ¬(⟨identity,state,nowMs,durationMs⟩ : ZoneRuntimeState).TimedOut nowMs := by
  intro timedOut
  obtain ⟨_,limited,elapsed⟩ := timedOut
  apply limited
  rw [UInt64.sub_self,ge_iff_le,UInt64.le_iff_toNat_le] at elapsed
  apply UInt32.toNat_inj.mp
  simpa using elapsed

theorem not_timedOut_closed (identity : ZoneIdentity) (durationMs : UInt32) :
    ¬(⟨identity,.idle,0,durationMs⟩ : ZoneRuntimeState).TimedOut nowMs := by
  intro timedOut
  exact nomatch timedOut.1

/-! ### One call at a time -/

/-- An open at this time makes no zone late: the opened one was not open and is not over. -/
theorem ZoneOpening.late_iff {zoneId : Option CString} {durationMs : UInt32} {reads : UInt64 → Prop}
    (opening : ZoneOpening store zoneId durationMs reads result issued next) (confirmed : Confirmed issued)
    (frozen : ∀ time, reads time → time = nowMs) :
    Late nowMs next zone ↔ Late nowMs store zone := by
  rcases opening.opened_of_confirmed confirmed with ⟨_,opened,openedAtMs,durationMs,now,_,openable,_,rfl⟩ | ⟨_,_,rfl,_⟩
  · cases frozen openedAtMs now
    rw [late_update rfl fun before => not_timedOut_now before.toZoneIdentity _ _]
    refine and_iff_left_of_imp fun late named => ?_
    have found := ZoneTable.findZone_of_mem late.present
    rw [named,openable.found] at found
    cases found
    exact absurd (openable.idle.symm.trans late.timedOut.1) (by simp)
  · exact Iff.rfl

/-- The opened zone is not late, so a running step that names it owns no late zone. -/
theorem ZoneOpening.late_other {zoneId : Option CString} {durationMs : UInt32} {reads : UInt64 → Prop}
    (opening : ZoneOpening store zoneId durationMs reads .ok issued next) (late : Late nowMs store zone) :
    zoneId ≠ some zone.zoneId := by
  rintro rfl
  have found := ZoneTable.findZone_of_mem late.present
  cases opening with
  | refused failed => exact failed rfl
  | opened named openable =>
    cases named
    cases openable.found.symm.trans found
    exact absurd (openable.idle.symm.trans late.timedOut.1) (by simp)
  | failed _ _ notOk => exact notOk rfl

/-- A close takes the closed zone, and no other, off the late ones. -/
theorem ZoneClosing.late_iff {zoneId : Option CString} (closing : ZoneClosing store zoneId .ok issued next)
    (confirmed : Confirmed issued) :
    Late nowMs next zone ↔ Late nowMs store zone ∧ zoneId ≠ some zone.zoneId := by
  rcases closing.closed_of_confirmed confirmed with ⟨_,closed,bound,closable,_,rfl⟩ | ⟨failed,_⟩
  · obtain ⟨id,rfl,found⟩ := Option.bind_eq_some_iff.mp bound
    obtain ⟨_,rfl⟩ := ZoneTable.findZone_some found
    rw [late_update (closedZone_zones store closed) fun before => not_timedOut_closed before.toZoneIdentity _]
    simp only [ne_eq,Option.some_inj,eq_comm]
  · exact absurd rfl failed

/-- A late zone is open, so its close is not refused. -/
theorem ZoneClosing.late_other {zoneId : Option CString} (closing : ZoneClosing store zoneId result issued next)
    (confirmed : Confirmed issued) (notOk : result ≠ .ok) (late : Late nowMs store zone) :
    zoneId ≠ some zone.zoneId := by
  rintro rfl
  rcases closing.closed_of_confirmed confirmed with ⟨ok,_⟩ | ⟨_,_,_,notClosable⟩
  · exact notOk ok
  · exact notClosable zone.zoneId zone rfl ⟨ZoneTable.findZone_of_mem late.present,.inl late.timedOut.1⟩

theorem FaultExit.overdue_iff (exit : FaultExit store issued next) :
    Overdue nowMs program next zone ↔ Late nowMs store zone := by
  rw [overdue_of_state (by simp [exit.fault]),late_of_zones exit.zones]

/-- Whether or not the step's zone opens, the late zones stay and none of them is owned. -/
theorem StepOpening.overdue_iff {stepIndex : Nat} {reads : UInt64 → Prop}
    (opening : StepOpening store stepIndex (program.step stepIndex) reads issued next) (confirmed : Confirmed issued)
    (frozen : ∀ time, reads time → time = nowMs) :
    Overdue nowMs program next zone ↔ Late nowMs store zone := by
  cases opening with
  | @opened _ middle opening =>
    have kept : Late nowMs middle zone ↔ Late nowMs store zone := opening.late_iff confirmed frozen
    rw [← kept]
    constructor
    · intro overdue
      exact ⟨overdue.present,overdue.timedOut⟩
    · intro late
      exact ⟨⟨late.present,late.timedOut⟩,fun owned => opening.late_other (kept.mp late) owned.2⟩
  | failed opening _ exit =>
    obtain ⟨first,_⟩ := (confirmed_append _ _).mp confirmed
    rw [exit.overdue_iff,opening.late_iff first frozen]

/-- Over the running step's zone a close is the only thing that the overdue zones are apart from. -/
theorem overdue_running (running : store.program.state = .runningZone) : Overdue nowMs program store zone ↔
    Late nowMs store zone ∧ (program.step store.program.currentStepIndex).zoneId ≠ some zone.zoneId := by
  constructor
  · intro overdue
    exact ⟨overdue.toLate,fun named => overdue.unowned ⟨running,named⟩⟩
  · rintro ⟨late,other⟩
    exact ⟨late,fun owned => other owned.2⟩

/-- A poll neither makes a zone overdue nor closes one that is. -/
theorem ProgramProcessing.overdue_iff {reads : UInt64 → Prop} {time : UInt64}
    (processing : ProgramProcessing store program time reads issued next) (confirmed : Confirmed issued)
    (frozen : ∀ time, reads time → time = nowMs) :
    Overdue nowMs program next zone ↔ Overdue nowMs program store zone := by
  cases processing with
  | inactive | running | delaying => exact Iff.rfl
  | waiting => exact overdue_congr (masterTimed_zones store time) (masterTimed_program store time)
  | masterFault state _ exit =>
    rw [exit.overdue_iff,late_of_zones (masterTimed_zones store time),overdue_of_state (by simp [state])]
  | entering state _ opening =>
    rw [opening.overdue_iff confirmed frozen,late_of_zones (masterTimed_zones store time),
      overdue_of_state (by simp [state])]
  | closeFailed state _ closing notOk exit =>
    obtain ⟨first,_⟩ := (confirmed_append _ _).mp confirmed
    rw [exit.overdue_iff,overdue_running state]
    rcases closing.closed_of_confirmed first with ⟨ok,_⟩ | ⟨_,_,rfl,_⟩
    · exact absurd ok notOk
    · exact (and_iff_left_of_imp fun late => closing.late_other first notOk late).symm
  | advancing state _ closing _ opening =>
    obtain ⟨first,later⟩ := (confirmed_append _ _).mp confirmed
    rw [opening.overdue_iff later frozen,overdue_running state,← closing.late_iff first]
    exact late_of_zones rfl
  | finishing state _ closing =>
    rw [overdue_of_state (by simp),overdue_running state,← closing.late_iff confirmed]
    exact late_of_zones rfl
  | completed state _ closing =>
    rw [overdue_of_state (by simp [RuntimeState.terminal]),overdue_of_state (by simp [state])]
    exact late_of_zones closing.zones

/-- A start leaves the zones alone and runs no step yet. -/
theorem ProgramStarting.overdue_iff (starting : ProgramStarting store result issued next)
    (inactive : programIsActive store = false) (started : Program) :
    Overdue nowMs started next zone ↔ Overdue nowMs program store zone := by
  have before : store.program.state ≠ .runningZone := by
    intro running
    simp [programIsActive,running] at inactive
  have zones : next.zones = store.zones := by
    cases starting with
    | refused => rfl
    | started _ opening | failed _ opening => exact opening.zones
  have after : next.program.state ≠ .runningZone := by
    cases starting with
    | refused => exact before
    | started _ opening => simp [opening.program]
    | failed => simp [RuntimeState.terminal]
  rw [overdue_of_state after,overdue_of_state before,late_of_zones zones]

end Stores

/-! ### The task loop -/

/-- What `scheduler_task` works on: the services' world and its own tick count. -/
structure FirmwareTask (ε : Type) where
  world : World ε
  tickCount : UInt16

/-- What the web handlers ask of the services; a zone is opened with duration 0. -/
inductive WebRequest where
  | openZone (zoneId : CString)
  | closeZone (zoneId : CString)
  | openMaster
  | closeMaster
  | startProgram (program : ProgramAddress)
  | abortProgram
  deriving DecidableEq, Repr

def WebRequest.command : WebRequest → Command
  | .openZone zoneId => .zoneOpen (some zoneId) 0
  | .closeZone zoneId => .zoneClose (some zoneId)
  | .openMaster => .masterOpen
  | .closeMaster => .masterClose
  | .startProgram program => .programStart (some program)
  | .abortProgram => .programAbort

/-- A step of a run, with the environment it finds: time has passed since the last one. -/
inductive TaskStep (ε : Type) where
  | iteration (environment : ε) (time : Option SchedulerTime)
  | request (environment : ε) (request : WebRequest)

section Loop

variable {ε : Type} (drivers : Drivers ε)

/-- The body of `scheduler_task`'s loop, but for the status LED; `time` is what
`scheduler_time_from_system` gives. -/
def schedulerTaskIteration (time : Option SchedulerTime) (task : FirmwareTask ε) : FirmwareTask ε :=
  let timed := operate drivers .masterProcessTime task.world
  let polled := if programIsActive timed.store then operate drivers .programProcess timed else timed
  let tickCount := task.tickCount + 1
  if tickCount ≥ 150 then
    match time with
    | some now => ⟨operate drivers (.schedulerProcess now) polled,0⟩
    | none => ⟨polled,0⟩
  else ⟨polled,tickCount⟩

def FirmwareTask.at (task : FirmwareTask ε) (environment : ε) : FirmwareTask ε :=
  { task with world := { task.world with environment } }

def taskStep : TaskStep ε → FirmwareTask ε → FirmwareTask ε
  | .iteration environment time, task => schedulerTaskIteration drivers time (task.at environment)
  | .request environment request, task =>
    { task with world := operate drivers request.command (task.at environment).world }

/-- Every command is confirmed, and the clock stands still while a step runs. -/
structure NeverFails : Prop where
  confirms : ∀ command environment, (drivers.perform command environment).1 = .ok
  steady : ∀ environment, Steady drivers (drivers.nowMs environment).1 environment

/-- At a time no zone is past its duration but the one that the running program's step names. -/
def Timely (nowMs : UInt64) (world : World ε) : Prop :=
  ∀ zone ∈ world.store.zones.entries, zone.TimedOut nowMs → Owns world.currentProgram world.store zone

instance (nowMs : UInt64) (world : World ε) : Decidable (Timely nowMs world) := by
  unfold Timely; infer_instance

/-- An iteration of the loop ends with no zone past its duration. -/
def EndsTimely (step : TaskStep ε) (task : FirmwareTask ε) : Prop :=
  match step with
  | .iteration environment _ => Timely (drivers.nowMs environment).1 (taskStep drivers step task).world
  | .request _ _ => True

/-- An iteration starts when the timeout pass, which the loop lacks, would find none to close
but the running step's. -/
def StartsTimely (step : TaskStep ε) (task : FirmwareTask ε) : Prop :=
  match step with
  | .iteration environment _ => Timely (drivers.nowMs environment).1 task.world
  | .request _ _ => True

variable {drivers} {world next : World ε} {nowMs : UInt64} {zone : ZoneRuntimeState} {issued : List DriverCall}

theorem timely_iff : Timely nowMs world ↔ ∀ zone, ¬Overdue nowMs world.currentProgram world.store zone := by
  constructor
  · intro timely zone overdue
    exact overdue.unowned (timely zone overdue.present overdue.timedOut)
  · intro none zone present timedOut
    by_contra unowned
    exact none zone ⟨⟨present,timedOut⟩,unowned⟩

theorem NeverFails.confirmed (reliable : NeverFails drivers) (trace : Issued drivers world next issued) :
    Confirmed issued := by
  intro call member
  obtain ⟨environment,result⟩ := trace.results call member
  rw [result]
  exact reliable.confirms _ _

variable (drivers) in
theorem masterProcessTime_overdue (nowMs : UInt64) (zone : ZoneRuntimeState) (world : World ε) :
    Overdue nowMs (operate drivers .masterProcessTime world).currentProgram
        (operate drivers .masterProcessTime world).store zone ↔
      Overdue nowMs world.currentProgram world.store zone := by
  obtain ⟨_,stored,trace⟩ := masterValveServiceProcessTime_run drivers world
  have program : (operate drivers .masterProcessTime world).currentProgram = world.currentProgram :=
    World.currentProgram_eq drivers trace
  rw [program]
  simp only [operate,execute,stored]
  exact overdue_congr (masterTimed_zones _ _) (masterTimed_program _ _)

theorem programProcess_overdue (reliable : NeverFails drivers) (zone : ZoneRuntimeState) (world : World ε) :
    Overdue (drivers.nowMs world.environment).1 (operate drivers .programProcess world).currentProgram
        (operate drivers .programProcess world).store zone ↔
      Overdue (drivers.nowMs world.environment).1 world.currentProgram world.store zone := by
  obtain ⟨issued,processing,trace⟩ := programServiceProcess_cases drivers world
  have program : (operate drivers .programProcess world).currentProgram = world.currentProgram :=
    World.currentProgram_eq drivers trace
  rw [program]
  exact processing.overdue_iff (reliable.confirmed trace) fun _ reads => reads _ (reliable.steady world.environment)

theorem EntryHandling.overdue_iff {entry : SchedulerEntry} (handling : EntryHandling drivers world entry issued next) :
    Overdue nowMs next.currentProgram next.store zone ↔ Overdue nowMs world.currentProgram world.store zone := by
  cases handling with
  | passed _ stored trace =>
    rw [World.currentProgram_eq drivers trace]
    exact overdue_congr (by rw [stored]) (by rw [stored])
  | started _ _ inactive starting stored =>
    rw [← starting.overdue_iff inactive next.currentProgram]
    exact overdue_congr (by rw [stored]) (by rw [stored])

theorem EntriesHandling.overdue_iff {entries : List SchedulerEntry}
    (handling : EntriesHandling drivers world entries issued next) :
    Overdue nowMs next.currentProgram next.store zone ↔ Overdue nowMs world.currentProgram world.store zone := by
  induction handling with
  | done => exact Iff.rfl
  | next handling _ ih => exact ih.trans handling.overdue_iff

theorem schedulerProcess_overdue (nowMs : UInt64) (zone : ZoneRuntimeState) (time : SchedulerTime) (world : World ε) :
    Overdue nowMs (operate drivers (.schedulerProcess time) world).currentProgram
        (operate drivers (.schedulerProcess time) world).store zone ↔
      Overdue nowMs world.currentProgram world.store zone := by
  obtain ⟨issued,next,handling,ticked⟩ := schedulerServiceProcess_cases drivers time world
  simp only [operate,execute,ticked]
  exact handling.overdue_iff

/-- An iteration leaves the overdue zones as it finds them. -/
theorem iteration_overdue (reliable : NeverFails drivers) (zone : ZoneRuntimeState) (time : Option SchedulerTime)
    (task : FirmwareTask ε) :
    Overdue (drivers.nowMs task.world.environment).1 (schedulerTaskIteration drivers time task).world.currentProgram
        (schedulerTaskIteration drivers time task).world.store zone ↔
      Overdue (drivers.nowMs task.world.environment).1 task.world.currentProgram task.world.store zone := by
  obtain ⟨timed,timedEq⟩ : ∃ timed, timed = operate drivers .masterProcessTime task.world := ⟨_,rfl⟩
  have environment : timed.environment = task.world.environment := by
    obtain ⟨_,_,trace⟩ := masterValveServiceProcessTime_run drivers task.world
    rw [timedEq]
    exact trace.steady _ (reliable.steady _)
  obtain ⟨polled,polledEq⟩ : ∃ polled, polled =
      if programIsActive timed.store then operate drivers .programProcess timed else timed := ⟨_,rfl⟩
  have start := masterProcessTime_overdue drivers (drivers.nowMs task.world.environment).1 zone task.world
  have poll : Overdue (drivers.nowMs task.world.environment).1 polled.currentProgram polled.store zone ↔
      Overdue (drivers.nowMs task.world.environment).1 timed.currentProgram timed.store zone := by
    rw [polledEq,← environment]
    split
    · exact programProcess_overdue reliable zone timed
    · exact Iff.rfl
  rw [← start,← timedEq,← poll]
  simp only [schedulerTaskIteration,← timedEq,← polledEq]
  split
  · cases time with
    | some now => exact schedulerProcess_overdue _ zone now polled
    | none => exact Iff.rfl
  · exact Iff.rfl

theorem closeTimedOutZones_late (reliable : NeverFails drivers) (zones : List ZoneRuntimeState) (world : World ε)
    (distinct : (zones.map (·.zoneId)).Nodup) (present : ∀ listed ∈ zones, listed ∈ world.store.zones.entries) :
    Late nowMs (closeTimedOutZones drivers nowMs zones world).2.store zone ↔
      Late nowMs world.store zone ∧ zone ∉ zones := by
  induction zones generalizing world with
  | nil => simp [closeTimedOutZones]
  | cons head rest ih =>
    obtain ⟨headPresent,restPresent⟩ := List.forall_mem_cons.mp present
    rw [List.map_cons,List.nodup_cons] at distinct
    by_cases timedOut : head.TimedOut nowMs
    · obtain ⟨first,closing,front⟩ := zoneServiceClose_cases drivers (some head.zoneId) world
      have confirmed := reliable.confirmed front
      have closable : Closable world.store head.zoneId head := ⟨ZoneTable.findZone_of_mem headPresent,.inl timedOut.1⟩
      rcases closing.closed_of_confirmed confirmed with ⟨ok,closed,bound,_,_,stored⟩ | ⟨_,_,_,notClosable⟩
      · obtain ⟨same,_⟩ := publishZoneEvent_issued drivers .zoneTimedOut head.zoneId
          (zoneServiceClose drivers (some head.zoneId) world).2
        rw [Option.bind_some,closable.found] at bound
        cases bound
        have kept : ∀ listed ∈ rest, listed ∈ (publishZoneEvent drivers .zoneTimedOut head.zoneId
            (zoneServiceClose drivers (some head.zoneId) world).2).2.store.zones.entries := by
          intro listed member
          rw [same,stored,closedZone_zones,ZoneTable.mem_update]
          refine ⟨listed,restPresent listed member,ZoneTable.changeStatus_of_ne _ fun named => distinct.1 ?_⟩
          exact List.mem_map.mpr ⟨listed,member,named⟩
        unfold ZoneRuntimeState.TimedOut at timedOut
        simp only [closeTimedOutZones,run_ite,timedOut,ne_eq,not_false_eq_true,and_self,if_true,run_bind,ok,
          not_true_eq_false,if_false]
        rw [ok] at closing
        rw [ih _ distinct.2 kept,same,closing.late_iff confirmed,and_assoc,List.mem_cons,not_or]
        refine and_congr_right fun late => and_congr_left fun _ => not_congr ?_
        rw [Option.some_inj]
        exact ⟨fun named => (ZoneTable.eq_of_zoneId headPresent late.present named).symm,fun equal => by rw [equal]⟩
      · exact absurd closable (notClosable head.zoneId head rfl)
    · rw [closeTimedOutZones,if_neg (show ¬(_ ∧ _ ∧ _) from timedOut),ih world distinct.2 restPresent,List.mem_cons,not_or]
      refine and_congr_right fun late => (and_iff_right ?_).symm
      rintro rfl
      exact timedOut late.timedOut

/-- The pass that the loop lacks would leave no zone past its duration. -/
theorem zoneProcessTimeouts_timely (reliable : NeverFails drivers) (world : World ε) :
    Timely (drivers.nowMs world.environment).1 (operate drivers .zoneProcessTimeouts world) := by
  rw [timely_iff]
  intro zone overdue
  have late := overdue.toLate
  cases clock : clockNowMs drivers world with
  | mk now read =>
    obtain ⟨same,_,_⟩ := clockNowMs_run drivers clock
    have reading : (drivers.nowMs world.environment).1 = now := congrArg Prod.fst clock
    simp only [operate,execute,zoneServiceProcessTimeouts,run_bind,run_snapshot,clock,reading] at late
    rw [← same,closeTimedOutZones_late reliable _ read read.store.zones.ids fun _ member => member] at late
    exact late.2 late.1.present

/-- Whatever the loop and the web handlers do from any state on: every iteration ends with no zone
past its duration but the running step's exactly when every iteration starts so. -/
theorem zones_time_out_iff (reliable : NeverFails drivers) (steps : List (TaskStep ε)) (task : FirmwareTask ε) :
    Runs.Along (taskStep drivers) (EndsTimely drivers) steps task ↔
      Runs.Along (taskStep drivers) (StartsTimely drivers) steps task := by
  refine Runs.along_iff (fun _ => True) (fun _ _ _ _ => trivial) ?_ trivial (Runs.along_true steps task)
  intro step task _ _
  cases step with
  | iteration environment time =>
    simp only [EndsTimely,StartsTimely,timely_iff]
    exact forall_congr' fun zone => not_congr (iteration_overdue reliable zone time (task.at environment))
  | request => exact Iff.rfl

end Loop

/-! ### The development kit -/

theorem quietDrivers_neverFails : NeverFails quietDrivers := ⟨fun _ _ => rfl,fun _ => ⟨rfl,fun _ => rfl⟩⟩

/-- The development kit with a schedule, its task loop about to start. -/
def devTask : FirmwareTask UInt64 := ⟨(schedulerServiceConfigure [devEntry] devScheduled).2,0⟩

/-- The loop's 150th iteration starts the scheduled program, which runs its two steps; a zone is
opened by hand while the program has only its delay left, and stays open. -/
def devOvertime : List (TaskStep UInt64) :=
  (List.range 149).map (fun count => .iteration (200 * count.toUInt64) none) ++
    [.iteration 29800 (some devMonday),.iteration 30000 none,.iteration 60000 none,.iteration 90000 none,
      .request 90100 (.openZone (.literal "zone-3")),.iteration 90200 none] ++ [.iteration 120200 none]

theorem zones_time_out_iff_devOvertime :
    Runs.Along (taskStep quietDrivers) (EndsTimely quietDrivers) devOvertime devTask ↔
      Runs.Along (taskStep quietDrivers) (StartsTimely quietDrivers) devOvertime devTask :=
  zones_time_out_iff quietDrivers_neverFails devOvertime devTask

/-- Thirty seconds after it was opened the zone is as open as before. -/
theorem opened_by_hand_stays_open :
    ¬Runs.Along (taskStep quietDrivers) (EndsTimely quietDrivers) devOvertime devTask := by
  intro ends
  have last := Runs.along_at ends rfl
  simp only [EndsTimely] at last
  revert last
  decide +kernel

end Irrigation
