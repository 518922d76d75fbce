import Irrigation.Operations

/-! The safety invariant of the store: zones, outputs, the master valve and the system
state agree in every state that operations reach, whatever the drivers answer. -/
namespace Irrigation

/-- A zone that holds the only output that may be on. -/
def ZoneRuntimeState.Engaged (zone : ZoneRuntimeState) : Prop := zone.state = .open ∨ zone.state = .fault

/-- The claim on a store that users of it read. -/
structure SafeStore (store : RuntimeState) : Prop where
  openIffOn : ∀ zone ∈ store.zones.entries, zone.state = .open ↔ store.outputStates zone.outputIndex = .on
  single : ∀ first second, store.outputStates first ≠ .off → store.outputStates second ≠ .off → first = second
  onMode : ∀ index, store.outputStates index = .on → store.masterValve.state = .open ∧ store.systemState = .manual
  manual : store.systemState = .manual → ∃! index, store.outputStates index = .on
  unknown : ∀ index, store.outputStates index = .unknown → store.systemState = .error ∧
    ∃ zone ∈ store.zones.entries, zone.outputIndex = index ∧ zone.state = .fault

/-- What every operation keeps. -/
structure Invariant (store : RuntimeState) : Prop where
  settled : ∀ zone ∈ store.zones.entries, zone.state = .disabled ∨ zone.state = .idle ∨ zone.Engaged
  opens : ∀ zone ∈ store.zones.entries, zone.state = .open ↔ store.outputStates zone.outputIndex = .on
  unknowns : ∀ zone ∈ store.zones.entries, store.outputStates zone.outputIndex = .unknown → zone.state = .fault
  owned : ∀ index, store.outputStates index ≠ .off → ∃ zone ∈ store.zones.entries, zone.outputIndex = index
  engaged : ∀ first ∈ store.zones.entries, ∀ second ∈ store.zones.entries, first.Engaged → second.Engaged →
    first = second
  openMode : ∀ zone ∈ store.zones.entries, zone.state = .open → store.masterValve.state = .open ∧
    store.systemState = .manual
  faultMode : ∀ zone ∈ store.zones.entries, zone.state = .fault → store.systemState = .error
  manualMode : store.systemState = .manual → ∃ zone ∈ store.zones.entries, zone.state = .open
  systems : store.systemState = .ready ∨ store.systemState = .manual ∨ store.systemState = .error

/-- The states that the acting zone, its output, the valve and the system may take together. -/
inductive Fitting : ZoneState → OutputState → MasterValveState → SystemState → Prop
  | idle {valve : MasterValveState} {system : SystemState} (calm : system = .ready ∨ system = .error) :
      Fitting .idle .off valve system
  | opened : Fitting .open .on .open .manual
  | faulted {output : OutputState} (notOn : output ≠ .on) {valve : MasterValveState} :
      Fitting .fault output valve .error

namespace Fitting

variable {state : ZoneState} {output : OutputState} {valve : MasterValveState} {system : SystemState}

theorem settled (fitting : Fitting state output valve system) :
    state = .disabled ∨ state = .idle ∨ state = .open ∨ state = .fault := by
  cases fitting <;> simp

theorem opens (fitting : Fitting state output valve system) : state = .open ↔ output = .on := by
  cases fitting with
  | idle => simp
  | opened => simp
  | faulted notOn => simpa using notOn

theorem unknown (fitting : Fitting state output valve system) (unknown : output = .unknown) : state = .fault := by
  cases fitting with
  | faulted => rfl
  | _ => contradiction

theorem openMode (fitting : Fitting state output valve system) (opened : state = .open) :
    valve = .open ∧ system = .manual := by
  cases fitting with
  | opened => exact ⟨rfl,rfl⟩
  | _ => contradiction

theorem faultMode (fitting : Fitting state output valve system) (faulted : state = .fault) : system = .error := by
  cases fitting with
  | faulted => rfl
  | _ => contradiction

theorem manualMode (fitting : Fitting state output valve system) (manual : system = .manual) : state = .open := by
  cases fitting with
  | idle calm => simp [manual] at calm
  | opened => rfl
  | faulted => contradiction

theorem systems (fitting : Fitting state output valve system) :
    system = .ready ∨ system = .manual ∨ system = .error := by
  cases fitting with
  | idle calm => tauto
  | opened => simp
  | faulted => simp

end Fitting

namespace Invariant

variable {store : RuntimeState}

/-- An output that is not off belongs to an engaged zone. -/
theorem active (invariant : Invariant store) {index : Fin irrigationMaxOutputs}
    (on : store.outputStates index ≠ .off) :
    ∃ zone ∈ store.zones.entries, zone.outputIndex = index ∧ zone.Engaged := by
  obtain ⟨zone,member,rfl⟩ := invariant.owned index on
  refine ⟨zone,member,rfl,?_⟩
  cases state : store.outputStates zone.outputIndex with
  | off => exact absurd state on
  | on => exact .inl ((invariant.opens zone member).mpr state)
  | unknown => exact .inr (invariant.unknowns zone member state)

theorem safe (invariant : Invariant store) : SafeStore store where
  openIffOn := invariant.opens
  single := by
    intro first second firstOn secondOn
    obtain ⟨zone,member,rfl,engaged⟩ := invariant.active firstOn
    obtain ⟨other,otherMember,rfl,otherEngaged⟩ := invariant.active secondOn
    rw [invariant.engaged zone member other otherMember engaged otherEngaged]
  onMode := by
    intro index on
    obtain ⟨zone,member,rfl⟩ := invariant.owned index (by simp [on])
    exact invariant.openMode zone member ((invariant.opens zone member).mpr on)
  manual := by
    intro manual
    obtain ⟨zone,member,opened⟩ := invariant.manualMode manual
    refine ⟨zone.outputIndex,(invariant.opens zone member).mp opened,?_⟩
    intro index on
    obtain ⟨other,otherMember,rfl⟩ := invariant.owned index (by simp [on])
    have otherOpen := (invariant.opens other otherMember).mpr on
    rw [invariant.engaged zone member other otherMember (.inl opened) (.inl otherOpen)]
  unknown := by
    intro index unknown
    obtain ⟨zone,member,rfl⟩ := invariant.owned index (by simp [unknown])
    have faulted := invariant.unknowns zone member unknown
    exact ⟨invariant.faultMode zone member faulted,zone,member,rfl,faulted⟩

/-- The program and the scheduler take no part in it. -/
theorem program (invariant : Invariant store) (program : ProgramRuntimeState)
    (scheduler : SchedulerRuntimeState) : Invariant { store with program, scheduler } :=
  ⟨invariant.settled,invariant.opens,invariant.unknowns,invariant.owned,invariant.engaged,invariant.openMode,
    invariant.faultMode,invariant.manualMode,invariant.systems⟩

/-- The valve may change as long as it stays open over an open zone. -/
theorem master (invariant : Invariant store) (masterValve : MasterValveRuntimeState)
    (stays : ∀ zone ∈ store.zones.entries, zone.state = .open → masterValve.state = .open) :
    Invariant { store with masterValve } :=
  ⟨invariant.settled,invariant.opens,invariant.unknowns,invariant.owned,invariant.engaged,
    fun zone member opened => ⟨stays zone member opened,(invariant.openMode zone member opened).2⟩,
    invariant.faultMode,invariant.manualMode,invariant.systems⟩

/-- Only one zone acts at a time: the others are not engaged and keep their outputs. -/
theorem act (invariant : Invariant store) {zone : ZoneRuntimeState} (member : zone ∈ store.zones.entries)
    (alone : ∀ other ∈ store.zones.entries, other.Engaged → other = zone) (status : ZoneStatus → ZoneStatus)
    {output : OutputState} {system : SystemState}
    (fitting : Fitting (status zone.toZoneStatus).state output store.masterValve.state system) :
    Invariant { store with
      systemState := system
      zones := store.zones.update zone.zoneId status
      outputStates := Function.update store.outputStates zone.outputIndex output } := by
  obtain ⟨acted,actedEq⟩ : ∃ acted : ZoneRuntimeState, acted = ⟨zone.toZoneIdentity,status zone.toZoneStatus⟩ :=
    ⟨_,rfl⟩
  have index : acted.outputIndex = zone.outputIndex := by rw [actedEq]
  have state : acted.state = (status zone.toZoneStatus).state := by rw [actedEq]
  rw [← state] at fitting
  -- Each zone of the new table is the acting one or an unengaged one with another output.
  have split : ∀ other ∈ (store.zones.update zone.zoneId status).entries, other = acted ∨
      other ∈ store.zones.entries ∧ ¬other.Engaged ∧ other.outputIndex ≠ zone.outputIndex := by
    intro other changed
    obtain ⟨before,present,rfl⟩ := ZoneTable.mem_update.mp changed
    by_cases same : before = zone
    · subst same
      rw [ZoneTable.changeStatus_of_eq status rfl]
      exact .inl actedEq.symm
    · rw [ZoneTable.changeStatus_of_ne status fun named => same (ZoneTable.eq_of_zoneId present member named)]
      exact .inr ⟨present,fun engaged => same (alone before present engaged),
        fun shared => same (ZoneTable.eq_of_outputIndex present member shared)⟩
  have actedMember : acted ∈ (store.zones.update zone.zoneId status).entries :=
    ZoneTable.mem_update.mpr ⟨zone,member,(ZoneTable.changeStatus_of_eq status rfl).trans actedEq.symm⟩
  have others : ∀ other : ZoneRuntimeState, other.outputIndex ≠ zone.outputIndex →
      Function.update store.outputStates zone.outputIndex output other.outputIndex =
        store.outputStates other.outputIndex := fun other apart => Function.update_of_ne apart _ _
  have own : Function.update store.outputStates zone.outputIndex output acted.outputIndex = output := by
    rw [index,Function.update_self]
  constructor
  case settled =>
    intro other changed
    rcases split other changed with rfl | ⟨present,_,_⟩
    · exact fitting.settled
    · exact invariant.settled other present
  case opens =>
    intro other changed
    rcases split other changed with rfl | ⟨present,_,apart⟩
    · simpa only [own] using fitting.opens
    · simpa only [others other apart] using invariant.opens other present
  case unknowns =>
    intro other changed unknown
    rcases split other changed with rfl | ⟨present,_,apart⟩
    · simp only [own] at unknown
      exact fitting.unknown unknown
    · simp only [others other apart] at unknown
      exact invariant.unknowns other present unknown
  case owned =>
    intro place on
    by_cases same : place = zone.outputIndex
    · exact ⟨acted,actedMember,index.trans same.symm⟩
    · simp only [Function.update_of_ne same] at on
      obtain ⟨other,present,rfl,engaged⟩ := invariant.active on
      exact absurd (congrArg (·.outputIndex) (alone other present engaged)) same
  case engaged =>
    intro first firstMember second secondMember firstEngaged secondEngaged
    rcases split first firstMember with rfl | ⟨_,unengaged,_⟩
    · rcases split second secondMember with rfl | ⟨_,unengaged,_⟩
      · rfl
      · exact absurd secondEngaged unengaged
    · exact absurd firstEngaged unengaged
  case openMode =>
    intro other changed opened
    rcases split other changed with rfl | ⟨_,unengaged,_⟩
    · exact fitting.openMode opened
    · exact absurd (.inl opened) unengaged
  case faultMode =>
    intro other changed faulted
    rcases split other changed with rfl | ⟨_,unengaged,_⟩
    · exact fitting.faultMode faulted
    · exact absurd (.inr faulted) unengaged
  case manualMode =>
    intro manual
    exact ⟨acted,actedMember,fitting.manualMode manual⟩
  case systems => exact fitting.systems

/-- While a zone may be opened, none is engaged. -/
theorem none_engaged (invariant : Invariant store) {id : CString} {zone : ZoneRuntimeState}
    (openable : Openable store id zone) : ∀ other ∈ store.zones.entries, ¬other.Engaged := by
  intro other member engaged
  rcases engaged with opened | faulted
  · have on := (invariant.opens other member).mp opened
    exact openable.outputsOff ⟨other.outputIndex,by simp [on]⟩
  · have error := invariant.faultMode other member faulted
    simpa [error] using openable.system

theorem outputs_off_without (invariant : Invariant store) {zone : ZoneRuntimeState}
    (alone : ∀ other ∈ store.zones.entries, other.Engaged → other = zone) :
    Function.update store.outputStates zone.outputIndex .off = fun _ => .off := by
  funext index
  by_cases same : index = zone.outputIndex
  · rw [same,Function.update_self]
  · rw [Function.update_of_ne same]
    by_contra on
    obtain ⟨other,member,rfl,engaged⟩ := invariant.active on
    exact same (congrArg (·.outputIndex) (alone other member engaged))

/-- Closing the engaged zone turns the last output off, so MANUAL ends. -/
theorem closedZone_eq (invariant : Invariant store) {zone : ZoneRuntimeState} (member : zone ∈ store.zones.entries)
    (engaged : zone.Engaged) : closedZone store zone = { store with
      systemState := if store.systemState = .manual then .ready else store.systemState
      zones := store.zones.update zone.zoneId fun status => ⟨.idle,0,status.durationMs⟩
      outputStates := fun _ => .off } := by
  have off := invariant.outputs_off_without fun other present otherEngaged =>
    invariant.engaged other present zone member otherEngaged engaged
  have quiet : ¬∃ index : Fin irrigationMaxOutputs, (fun _ => OutputState.off) index ≠ .off := by simp
  simp only [closedZone,off,hasActiveOrUnknownOutput]
  by_cases manual : store.systemState = .manual
  · rw [if_pos ⟨quiet,manual⟩,if_pos manual]
  · rw [if_neg fun both => manual both.2,if_neg manual]

theorem zoneOpening {zoneId : Option CString} {durationMs : UInt32} {reads : UInt64 → Prop} {result : IrrigationResult}
    {issued : List DriverCall} {next : RuntimeState} (invariant : Invariant store)
    (opening : ZoneOpening store zoneId durationMs reads result issued next) : Invariant next := by
  cases opening with
  | refused => exact invariant
  | opened named openable openedAtMs =>
    have unengaged := invariant.none_engaged openable
    have member := (ZoneTable.findZone_some openable.found).1
    refine invariant.act member (fun other present engaged => absurd engaged (unengaged other present)) _ ?_
    rw [openable.masterOpen]
    exact .opened
  | failed named openable notOk safeOff =>
    have unengaged := invariant.none_engaged openable
    have member := (ZoneTable.findZone_some openable.found).1
    refine invariant.act member (fun other present engaged => absurd engaged (unengaged other present)) _
      (.faulted ?_)
    split <;> simp

theorem zoneClosing {zoneId : Option CString} {result : IrrigationResult} {issued : List DriverCall}
    {next : RuntimeState} (invariant : Invariant store) (closing : ZoneClosing store zoneId result issued next) :
    Invariant next := by
  cases closing with
  | refused => exact invariant
  | @closed id zone named closable =>
    have member := (ZoneTable.findZone_some closable.found).1
    have alone : ∀ other ∈ store.zones.entries, other.Engaged → other = zone := fun other present engaged =>
      invariant.engaged other present zone member engaged closable.state
    rw [invariant.closedZone_eq member closable.state,← invariant.outputs_off_without alone]
    refine invariant.act member alone _ (.idle ?_)
    rcases invariant.systems with system | system | system <;> simp [system]
  | @failed id zone named closable failure notOk =>
    have member := (ZoneTable.findZone_some closable.found).1
    exact invariant.act member (fun other present engaged =>
      invariant.engaged other present zone member engaged closable.state) _ (.faulted (by simp))

theorem zoneClosings {issued : List DriverCall} {next : RuntimeState} (invariant : Invariant store)
    (closings : ZoneClosings store issued next) : Invariant next := by
  induction closings with
  | done => exact invariant
  | next closing _ ih => exact ih (invariant.zoneClosing closing)

/-- A valve that is not open has no open zone behind it. -/
theorem none_open (invariant : Invariant store) (notOpen : store.masterValve.state ≠ .open) :
    ∀ zone ∈ store.zones.entries, zone.state ≠ .open :=
  fun zone member opened => notOpen (invariant.openMode zone member opened).1

theorem none_open_of_off (invariant : Invariant store) (off : ¬hasActiveOrUnknownOutput store) :
    ∀ zone ∈ store.zones.entries, zone.state ≠ .open := by
  intro zone member opened
  have on := (invariant.opens zone member).mp opened
  exact off ⟨zone.outputIndex,by simp [on]⟩

theorem masterOpening {result : IrrigationResult} {issued : List DriverCall} {next : RuntimeState}
    (invariant : Invariant store) (opening : MasterOpening store result issued next) : Invariant next := by
  have shut : store.masterValve.state = .closed ∨ store.masterValve.state = .fault →
      store.masterValve.state ≠ .open := by
    rintro (closed | broken) <;> simp [*]
  cases opening with
  | refused => exact invariant
  | opening idle =>
    exact invariant.master _ fun zone member opened => absurd opened (invariant.none_open (shut idle) zone member)
  | failed idle =>
    exact invariant.master _ fun zone member opened => absurd opened (invariant.none_open (shut idle) zone member)

theorem masterTimed (invariant : Invariant store) (nowMs : UInt64) : Invariant (masterTimed store nowMs) := by
  unfold Irrigation.masterTimed
  split
  · exact invariant.master _ fun _ _ _ => rfl
  · exact invariant

theorem masterClosing {result : IrrigationResult} {issued : List DriverCall} {next : RuntimeState}
    (invariant : Invariant store) (closing : MasterClosing store result issued next) : Invariant next := by
  cases closing with
  | refused => exact invariant
  | closed eligible =>
    exact invariant.master _ fun zone member opened =>
      absurd opened (invariant.none_open_of_off eligible.2 zone member)
  | failed eligible =>
    exact invariant.master _ fun zone member opened =>
      absurd opened (invariant.none_open_of_off eligible.2 zone member)

theorem terminal (invariant : Invariant store) (state : ProgramState) : Invariant (store.terminal state) :=
  invariant.program _ store.scheduler

theorem faultExit {issued : List DriverCall} {next : RuntimeState} (invariant : Invariant store)
    (exit : FaultExit store issued next) : Invariant next := by
  cases exit with
  | exit closing => exact (invariant.masterClosing closing).terminal .fault

theorem stepOpening {stepIndex : Nat} {step : ProgramStep} {reads : UInt64 → Prop} {issued : List DriverCall}
    {next : RuntimeState} (invariant : Invariant store)
    (opening : StepOpening store stepIndex step reads issued next) : Invariant next := by
  cases opening with
  | opened opening now => exact (invariant.zoneOpening opening).program _ _
  | failed opening notOk exit => exact (invariant.zoneOpening opening).faultExit exit

theorem programStarting {result : IrrigationResult} {issued : List DriverCall} {next : RuntimeState}
    (invariant : Invariant store) (starting : ProgramStarting store result issued next) : Invariant next := by
  cases starting with
  | refused => exact invariant
  | started free opening => exact (invariant.program _ store.scheduler).masterOpening opening
  | failed free opening => exact ((invariant.program _ store.scheduler).masterOpening opening).terminal .fault

theorem programProcessing {program : Program} {nowMs : UInt64} {reads : UInt64 → Prop}
    {issued : List DriverCall} {next : RuntimeState} (invariant : Invariant store)
    (processing : ProgramProcessing store program nowMs reads issued next) : Invariant next := by
  cases processing with
  | inactive => exact invariant
  | waiting => exact invariant.masterTimed nowMs
  | masterFault _ _ exit => exact (invariant.masterTimed nowMs).faultExit exit
  | entering _ _ opening => exact (invariant.masterTimed nowMs).stepOpening opening
  | running => exact invariant
  | closeFailed _ _ closing _ exit => exact (invariant.zoneClosing closing).faultExit exit
  | advancing _ _ closing _ opening =>
    exact ((invariant.zoneClosing closing).program _ _).stepOpening opening
  | finishing _ _ closing => exact (invariant.zoneClosing closing).program _ _
  | delaying => exact invariant
  | completed _ _ closing => exact (invariant.masterClosing closing).terminal .completed

theorem abortZone {zoneId : Option CString} {result : IrrigationResult} {issued : List DriverCall}
    {next : RuntimeState} (invariant : Invariant store) (zone : AbortZone store zoneId result issued next) :
    Invariant next := by
  cases zone with
  | running _ closing => exact invariant.zoneClosing closing
  | skipped => exact invariant

theorem programAborting {zoneId : Option CString} {issued : List DriverCall} {next : RuntimeState}
    (invariant : Invariant store) (aborting : ProgramAborting store zoneId issued next) : Invariant next := by
  cases aborting with
  | zoneFailed zone => exact (invariant.abortZone zone).terminal .fault
  | closedMaster zone => exact (invariant.abortZone zone).terminal .aborted
  | closingMaster zone _ closing => exact ((invariant.abortZone zone).masterClosing closing).terminal _

theorem entriesHandling {ε : Type} {drivers : Drivers ε} {world next : World ε} {entries : List SchedulerEntry}
    {issued : List DriverCall} (invariant : Invariant world.store)
    (handling : EntriesHandling drivers world entries issued next) : Invariant next.store := by
  induction handling with
  | done => exact invariant
  | next handling _ ih =>
    apply ih
    cases handling with
    | passed _ stored =>
      rw [stored]
      exact invariant.program _ _
    | started _ _ _ starting stored =>
      rw [stored]
      exact (invariant.programStarting starting).program _ _

end Invariant

section Operations

variable {ε : Type} (drivers : Drivers ε)

theorem Outcome.invariant {world : World ε} {command : Command} {issued : List DriverCall} {next : RuntimeState}
    (outcome : Outcome drivers world command issued next) (invariant : Invariant world.store) : Invariant next := by
  cases outcome with
  | zoneOpen opening => exact invariant.zoneOpening opening
  | zoneClose closing => exact invariant.zoneClosing closing
  | zoneSafeClose closings => exact invariant.zoneClosings closings
  | zoneProcessTimeouts closings => exact invariant.zoneClosings closings
  | masterOpen opening => exact invariant.masterOpening opening
  | masterClose closing => exact invariant.masterClosing closing
  | masterProcessTime => exact invariant.masterTimed _
  | startRejected => exact invariant
  | programStart _ _ starting => exact invariant.programStarting starting
  | programProcess processing => exact invariant.programProcessing processing
  | abortRejected => exact invariant
  | programAbort _ aborting => exact invariant.programAborting aborting
  | schedulerProcess handling =>
    refine Invariant.entriesHandling ?_ handling
    exact invariant

theorem operate_invariant (command : Command) (world : World ε) (invariant : Invariant world.store) :
    Invariant (operate drivers command world).store := by
  obtain ⟨_,outcome,_⟩ := operate_outcome drivers command world
  exact outcome.invariant drivers invariant

theorem boot_invariant {zones : List Zone} {preOpenDelayMs : UInt32} {store : RuntimeState}
    (booted : boot zones preOpenDelayMs = .ok store) : Invariant store := by
  obtain ⟨accepted,rfl⟩ := boot_ok booted
  have calm : ∀ zone ∈ (configuredTable zones accepted).entries, zone.state = .disabled ∨ zone.state = .idle := by
    intro zone member
    obtain ⟨configured,present,rfl⟩ := List.mem_pmap.mp member
    simp only [configuredZone]
    split <;> simp
  have unengaged : ∀ zone ∈ (configuredTable zones accepted).entries, zone.state ≠ .open ∧ zone.state ≠ .fault := by
    intro zone member
    rcases calm zone member with state | state <;> simp [state]
  constructor
  case settled => exact fun zone member => (calm zone member).imp_right .inl
  case opens => exact fun zone member => iff_of_false (unengaged zone member).1 nofun
  case unknowns => exact fun zone member unknown => nomatch unknown
  case owned => exact fun index on => absurd rfl on
  case engaged =>
    intro first member _ _ engaged
    exact (engaged.elim (unengaged first member).1 (unengaged first member).2).elim
  case openMode => exact fun zone member opened => absurd opened (unengaged zone member).1
  case faultMode => exact fun zone member faulted => absurd faulted (unengaged zone member).2
  case manualMode => exact fun manual => nomatch manual
  case systems => exact .inl rfl

/-- The stores that operations reach from a booted one; drivers, clock, memory and the
scheduler's entries may be others at every operation. -/
inductive Reached : RuntimeState → Prop
  | boot {zones : List Zone} {preOpenDelayMs : UInt32} {store : RuntimeState}
      (booted : boot zones preOpenDelayMs = .ok store) : Reached store
  | operate {ε : Type} (drivers : Drivers ε) (command : Command) {world : World ε} (reached : Reached world.store) :
      Reached (operate drivers command world).store

theorem Reached.invariant {store : RuntimeState} (reached : Reached store) : Invariant store := by
  induction reached with
  | boot booted => exact boot_invariant booted
  | operate drivers command _ ih => exact operate_invariant drivers command _ ih

/-- Every state that operations reach from a booted store is safe, whatever they are
called with, whatever the clock reads and whatever the drivers answer. -/
theorem run_safe {zones : List Zone} {preOpenDelayMs : UInt32} {world : World ε}
    (booted : boot zones preOpenDelayMs = .ok world.store) (commands : List Command) :
    SafeStore (run drivers commands world).store :=
  (Runs.invariant_after (operate_invariant drivers) (boot_invariant booted) commands).safe

theorem run_safe_devWorld : SafeStore (run quietDrivers [.masterOpen,.masterProcessTime,
    .zoneOpen (some (.literal "zone-1")) 0,.zoneClose (some (.literal "zone-1"))] (devWorld devProgram)).store :=
  run_safe quietDrivers (boot_of_configurable devZones_configurable 0) _

end Operations

end Irrigation
