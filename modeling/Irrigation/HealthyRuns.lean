import Irrigation.StoreSafety

/-! Runs in which every driver call succeeds: nothing is in a fault state but, at most,
the program, and every call's outcome is decided by the store it is issued in. -/
namespace Irrigation

/-- Every issued driver call succeeded. -/
def Confirmed (issued : List DriverCall) : Prop := ∀ call ∈ issued, call.result = .ok

@[simp] theorem confirmed_append (first second : List DriverCall) :
    Confirmed (first ++ second) ↔ Confirmed first ∧ Confirmed second := by
  simp [Confirmed,or_imp,forall_and]

@[simp] theorem confirmed_singleton (command : DriverCommand) (result : IrrigationResult) :
    Confirmed [⟨command,result⟩] ↔ result = .ok := by
  simp [Confirmed]

structure Healthy (store : RuntimeState) : Prop where
  invariant : Invariant store
  faultless : ∀ zone ∈ store.zones.entries, zone.state ≠ .fault
  valve : store.masterValve.state = .closed ∨ store.masterValve.state = .opening ∨ store.masterValve.state = .open
  calm : store.systemState = .ready ∨ store.systemState = .manual
  entering : store.program.state = .waitingMaster → store.program.currentStepIndex = 0

/-- What a poll needs of the zone of the running step. -/
def OpenZone (store : RuntimeState) (zoneId : Option CString) : Prop :=
  ∃ zone, zoneId.bind store.zones.findZone = some zone ∧ zone.state = .open

/-- A zone that is configured and enabled. -/
def EnabledZone (store : RuntimeState) (zoneId : Option CString) : Prop :=
  ∃ zone, zoneId.bind store.zones.findZone = some zone ∧ zone.state ≠ .disabled

instance (store : RuntimeState) (zoneId : Option CString) : Decidable (OpenZone store zoneId) :=
  decidable_of_iff ((zoneId.bind store.zones.findZone).any (·.state = .open))
    (by simp [OpenZone,Option.any_eq_true])

instance (store : RuntimeState) (zoneId : Option CString) : Decidable (EnabledZone store zoneId) :=
  decidable_of_iff ((zoneId.bind store.zones.findZone).any (·.state ≠ .disabled))
    (by simp [EnabledZone,Option.any_eq_true])

instance (issued : List DriverCall) : Decidable (Confirmed issued) := by
  unfold Confirmed; infer_instance

namespace ZoneOpening

variable {store next : RuntimeState} {zoneId : Option CString} {durationMs : UInt32} {reads : UInt64 → Prop}
  {result : IrrigationResult} {issued : List DriverCall}

theorem opened_of_confirmed (opening : ZoneOpening store zoneId durationMs reads result issued next)
    (confirmed : Confirmed issued) :
    (result = .ok ∧ ∃ zone openedAtMs durationMs, reads openedAtMs ∧ zoneId.bind store.zones.findZone = some zone ∧
      Openable store zone.zoneId zone ∧ issued = [⟨.setOutput zone.outputIndex true,.ok⟩] ∧
      next = openedZone store zone openedAtMs durationMs) ∨
    (result ≠ .ok ∧ issued = [] ∧ next = store ∧ ∀ id zone, zoneId = some id → ¬Openable store id zone) := by
  cases opening with
  | refused failed notOpenable => exact .inr ⟨failed,rfl,rfl,notOpenable⟩
  | opened named openable now =>
    subst named
    obtain ⟨_,rfl⟩ := ZoneTable.findZone_some openable.found
    exact .inl ⟨rfl,_,_,_,now,openable.found,openable,rfl,rfl⟩
  | failed named openable notOk safeOff =>
    exact absurd (confirmed ⟨_,_⟩ List.mem_cons_self) notOk

end ZoneOpening

namespace ZoneClosing

variable {store next : RuntimeState} {zoneId : Option CString} {result : IrrigationResult} {issued : List DriverCall}

theorem closed_of_confirmed (closing : ZoneClosing store zoneId result issued next) (confirmed : Confirmed issued) :
    (result = .ok ∧ ∃ zone, zoneId.bind store.zones.findZone = some zone ∧ Closable store zone.zoneId zone ∧
      issued = [⟨.setOutput zone.outputIndex false,.ok⟩] ∧ next = closedZone store zone) ∨
    (result ≠ .ok ∧ issued = [] ∧ next = store ∧ ∀ id zone, zoneId = some id → ¬Closable store id zone) := by
  cases closing with
  | refused failed notClosable => exact .inr ⟨failed,rfl,rfl,notClosable⟩
  | closed named closable =>
    subst named
    obtain ⟨_,rfl⟩ := ZoneTable.findZone_some closable.found
    exact .inl ⟨rfl,_,closable.found,closable,rfl,rfl⟩
  | failed named closable notOk =>
    exact absurd (confirmed ⟨_,_⟩ List.mem_cons_self) notOk

end ZoneClosing

namespace Healthy

variable {store next : RuntimeState} {issued : List DriverCall} {result : IrrigationResult}

theorem engaged_open (healthy : Healthy store) {zone : ZoneRuntimeState} (member : zone ∈ store.zones.entries)
    (engaged : zone.Engaged) : zone.state = .open :=
  engaged.resolve_right (healthy.faultless zone member)

theorem valve_not_fault (healthy : Healthy store) : store.masterValve.state ≠ .fault := by
  rcases healthy.valve with state | state | state <;> simp [state]

/-- The program may take any state that keeps its first step first. -/
theorem program (healthy : Healthy store) (program : ProgramRuntimeState) (scheduler : SchedulerRuntimeState)
    (entering : program.state = .waitingMaster → program.currentStepIndex = 0) :
    Healthy { store with program, scheduler } :=
  ⟨healthy.invariant.program program scheduler,healthy.faultless,healthy.valve,healthy.calm,entering⟩

theorem terminal (healthy : Healthy store) (state : ProgramState) (ends : state ≠ .waitingMaster) :
    Healthy (store.terminal state) :=
  healthy.program _ store.scheduler fun waiting => absurd waiting ends

theorem zones (healthy : Healthy store) {zoneId : CString} {status : ZoneStatus → ZoneStatus}
    (faultless : ∀ before, (status before).state ≠ .fault) :
    ∀ zone ∈ (store.zones.update zoneId status).entries, zone.state ≠ .fault := by
  intro zone member
  obtain ⟨before,present,rfl⟩ := ZoneTable.mem_update.mp member
  by_cases named : before.zoneId = zoneId
  · rw [ZoneTable.changeStatus_of_eq status named]
    exact faultless _
  · rw [ZoneTable.changeStatus_of_ne status named]
    exact healthy.faultless before present

theorem zoneOpening {zoneId : Option CString} {durationMs : UInt32} {reads : UInt64 → Prop} (healthy : Healthy store)
    (opening : ZoneOpening store zoneId durationMs reads result issued next) (confirmed : Confirmed issued) :
    Healthy next := by
  have invariant := healthy.invariant.zoneOpening opening
  rcases opening.opened_of_confirmed confirmed with ⟨_,zone,openedAtMs,_,_,_,openable,_,rfl⟩ | ⟨_,_,rfl,_⟩
  · exact ⟨invariant,healthy.zones fun _ => by simp,healthy.valve,.inr rfl,healthy.entering⟩
  · exact healthy

/-- In a healthy store a closed zone leaves the system READY and every output off. -/
theorem closedZone_eq (healthy : Healthy store) {zone : ZoneRuntimeState} (member : zone ∈ store.zones.entries)
    (engaged : zone.Engaged) : closedZone store zone = { store with
      systemState := .ready
      zones := store.zones.update zone.zoneId fun status => ⟨.idle,0,status.durationMs⟩
      outputStates := fun _ => .off } := by
  rw [healthy.invariant.closedZone_eq member engaged]
  rcases healthy.calm with system | system <;> simp [system]

theorem zoneClosing {zoneId : Option CString} (healthy : Healthy store)
    (closing : ZoneClosing store zoneId result issued next) (confirmed : Confirmed issued) : Healthy next := by
  have invariant := healthy.invariant.zoneClosing closing
  rcases closing.closed_of_confirmed confirmed with ⟨_,zone,found,closable,_,rfl⟩ | ⟨_,_,rfl,_⟩
  · have member := (ZoneTable.findZone_some closable.found).1
    rw [healthy.closedZone_eq member closable.state] at invariant ⊢
    exact ⟨invariant,healthy.zones fun _ => by simp,healthy.valve,.inl rfl,healthy.entering⟩
  · exact healthy

theorem zoneClosings (healthy : Healthy store) (closings : ZoneClosings store issued next)
    (confirmed : Confirmed issued) : Healthy next := by
  induction closings with
  | done => exact healthy
  | next closing _ ih =>
    obtain ⟨first,later⟩ := (confirmed_append _ _).mp confirmed
    exact ih (healthy.zoneClosing closing first) later

theorem masterOpening (healthy : Healthy store) (opening : MasterOpening store result issued next)
    (confirmed : Confirmed issued) : Healthy next := by
  have invariant := healthy.invariant.masterOpening opening
  cases opening with
  | refused => exact healthy
  | opening => exact ⟨invariant,healthy.faultless,.inr (.inl rfl),healthy.calm,healthy.entering⟩
  | failed _ notOk => exact absurd ((confirmed_singleton _ _).mp confirmed) notOk

theorem masterTimed (healthy : Healthy store) (nowMs : UInt64) : Healthy (masterTimed store nowMs) := by
  have invariant := healthy.invariant.masterTimed nowMs
  unfold Irrigation.masterTimed at invariant ⊢
  split
  · rename_i elapsed
    rw [if_pos elapsed] at invariant
    exact ⟨invariant,healthy.faultless,.inr (.inr rfl),healthy.calm,healthy.entering⟩
  · exact healthy

theorem masterClosing (healthy : Healthy store) (closing : MasterClosing store result issued next)
    (confirmed : Confirmed issued) : Healthy next := by
  have invariant := healthy.invariant.masterClosing closing
  cases closing with
  | refused => exact healthy
  | closed => exact ⟨invariant,healthy.faultless,.inl rfl,healthy.calm,healthy.entering⟩
  | failed _ notOk => exact absurd ((confirmed_singleton _ _).mp confirmed) notOk

theorem faultExit (healthy : Healthy store) (exit : FaultExit store issued next) (confirmed : Confirmed issued) :
    Healthy next := by
  cases exit with
  | exit closing => exact (healthy.masterClosing closing confirmed).terminal .fault (by simp)

theorem stepOpening {stepIndex : Nat} {step : ProgramStep} {reads : UInt64 → Prop} (healthy : Healthy store)
    (opening : StepOpening store stepIndex step reads issued next) (confirmed : Confirmed issued) : Healthy next := by
  cases opening with
  | opened opening now => exact (healthy.zoneOpening opening confirmed).program _ _ (by simp)
  | failed opening notOk exit =>
    obtain ⟨first,later⟩ := (confirmed_append _ _).mp confirmed
    exact (healthy.zoneOpening opening first).faultExit exit later

theorem programStarting (healthy : Healthy store) (starting : ProgramStarting store result issued next)
    (confirmed : Confirmed issued) : Healthy next := by
  cases starting with
  | refused => exact healthy
  | started free opening => exact (healthy.program _ store.scheduler (fun _ => rfl)).masterOpening opening confirmed
  | failed free opening notOk =>
    exact ((healthy.program _ store.scheduler (fun _ => rfl)).masterOpening opening confirmed).terminal .fault
      (by simp)

theorem programProcessing {program : Program} {nowMs : UInt64} {reads : UInt64 → Prop} (healthy : Healthy store)
    (processing : ProgramProcessing store program nowMs reads issued next) (confirmed : Confirmed issued) :
    Healthy next := by
  cases processing with
  | inactive => exact healthy
  | waiting => exact healthy.masterTimed nowMs
  | masterFault _ _ exit => exact (healthy.masterTimed nowMs).faultExit exit confirmed
  | entering _ _ opening => exact (healthy.masterTimed nowMs).stepOpening opening confirmed
  | running => exact healthy
  | closeFailed _ _ closing _ exit =>
    obtain ⟨first,later⟩ := (confirmed_append _ _).mp confirmed
    exact (healthy.zoneClosing closing first).faultExit exit later
  | advancing _ _ closing _ opening =>
    obtain ⟨first,later⟩ := (confirmed_append _ _).mp confirmed
    exact ((healthy.zoneClosing closing first).program _ _ (by simp)).stepOpening opening later
  | finishing _ _ closing => exact (healthy.zoneClosing closing confirmed).program _ _ (by simp)
  | delaying => exact healthy
  | completed _ _ closing => exact (healthy.masterClosing closing confirmed).terminal .completed (by simp)

theorem abortZone {zoneId : Option CString} (healthy : Healthy store)
    (zone : AbortZone store zoneId result issued next) (confirmed : Confirmed issued) : Healthy next := by
  cases zone with
  | running _ closing => exact healthy.zoneClosing closing confirmed
  | skipped => exact healthy

theorem programAborting {zoneId : Option CString} (healthy : Healthy store)
    (aborting : ProgramAborting store zoneId issued next) (confirmed : Confirmed issued) : Healthy next := by
  cases aborting with
  | zoneFailed zone => exact (healthy.abortZone zone confirmed).terminal .fault (by simp)
  | closedMaster zone => exact (healthy.abortZone zone confirmed).terminal .aborted (by simp)
  | closingMaster zone _ closing =>
    obtain ⟨first,later⟩ := (confirmed_append _ _).mp confirmed
    refine ((healthy.abortZone zone first).masterClosing closing later).terminal _ ?_
    split <;> simp

theorem entryHandling {ε : Type} {drivers : Drivers ε} {world next : World ε} {entry : SchedulerEntry}
    (healthy : Healthy world.store) (handling : EntryHandling drivers world entry issued next)
    (confirmed : Confirmed issued) : Healthy next.store := by
  cases handling with
  | passed _ stored =>
    rw [stored]
    exact healthy.program _ _ healthy.entering
  | started _ _ _ starting stored =>
    rw [stored]
    have started := healthy.programStarting starting confirmed
    exact started.program _ _ started.entering

theorem entriesHandling {ε : Type} {drivers : Drivers ε} {world next : World ε} {entries : List SchedulerEntry}
    (healthy : Healthy world.store) (handling : EntriesHandling drivers world entries issued next)
    (confirmed : Confirmed issued) : Healthy next.store := by
  induction handling with
  | done => exact healthy
  | next handling _ ih =>
    obtain ⟨first,later⟩ := (confirmed_append _ _).mp confirmed
    exact ih (healthy.entryHandling handling first) later

theorem outcome {ε : Type} {drivers : Drivers ε} {world : World ε} {command : Command}
    (healthy : Healthy world.store) (outcome : Outcome drivers world command issued next)
    (confirmed : Confirmed issued) : Healthy next := by
  cases outcome with
  | zoneOpen opening => exact healthy.zoneOpening opening confirmed
  | zoneClose closing => exact healthy.zoneClosing closing confirmed
  | zoneSafeClose closings => exact healthy.zoneClosings closings confirmed
  | zoneProcessTimeouts closings => exact healthy.zoneClosings closings confirmed
  | masterOpen opening => exact healthy.masterOpening opening confirmed
  | masterClose closing => exact healthy.masterClosing closing confirmed
  | masterProcessTime => exact healthy.masterTimed _
  | startRejected => exact healthy
  | programStart _ _ starting => exact healthy.programStarting starting confirmed
  | programProcess processing => exact healthy.programProcessing processing confirmed
  | abortRejected => exact healthy
  | programAbort _ aborting => exact healthy.programAborting aborting confirmed
  | schedulerProcess handling =>
    refine Healthy.entriesHandling ?_ handling confirmed
    exact healthy

end Healthy

theorem boot_healthy {zones : List Zone} {preOpenDelayMs : UInt32} {store : RuntimeState}
    (booted : boot zones preOpenDelayMs = .ok store) : Healthy store := by
  have invariant := boot_invariant booted
  obtain ⟨accepted,rfl⟩ := boot_ok booted
  refine ⟨invariant,?_,.inl rfl,.inl rfl,nofun⟩
  intro zone member faulted
  exact nomatch invariant.faultMode zone member faulted

end Irrigation
