import Irrigation.AtomicServices
import Irrigation.Operations

/-! Zone openings against master valve closings by another task, call by call. The two hold
different operation locks; between a zone's prepared open and the store's record of it, only
the other task's timing keeps the valve open. -/
namespace Irrigation

open Resumptions

/-! ### What the tasks rely on -/

structure KeptZones (before after : RuntimeState) : Prop where
  zones : after.zones = before.zones
  outputStates : after.outputStates = before.outputStates
  systemState : after.systemState = before.systemState

/-- No zone and no system that was not faulted before is faulted after. -/
structure Unfaulted (before after : RuntimeState) : Prop where
  system : after.systemState = .error → before.systemState = .error
  zones : ∀ zone ∈ after.zones.entries, zone.state = .fault → ∃ old ∈ before.zones.entries,
    old.zoneId = zone.zoneId ∧ old.state = .fault

/-- The calls between a prepared open and its record; a task that is about to make one of them has
an open prepared. -/
def ServiceCall.opensPrepared : ServiceCall → Bool
  | .drive (.setOutput _ true) | .openZone => true
  | _ => false

/-- While a task holds the zone lock no other touches the zones. The closing task alone moves the
valve, and not out of OPEN while an open is prepared. -/
structure Relies {ε : Type} (task : ServiceTask) (call : ServiceCall) (before after : SharedServices ε) : Prop where
  lock : before.locks .zone = some task ↔ after.locks .zone = some task
  zones : before.locks .zone = some task → KeptZones before.world.store after.world.store
  valve : task = .closer → after.world.store.masterValve.state = before.world.store.masterValve.state
  opens : call.opensPrepared = true → before.world.store.masterValve.state = .open →
    after.world.store.masterValve.state = .open

/-- What a step of a task does to the others and to the zones. -/
structure Guarantees {ε : Type} (task : ServiceTask) (call : ServiceCall) (before after : SharedServices ε) : Prop where
  locks : ∀ other, other ≠ task → (before.locks .zone = some other ↔ after.locks .zone = some other)
  zones : before.locks .zone ≠ some task → KeptZones before.world.store after.world.store
  valve : task = .opener → after.world.store.masterValve.state = before.world.store.masterValve.state
  opens : ¬(call = .beginMasterValveClose ∧ stateStoreMasterValveCloseIsEligible before.world.store) →
    before.world.store.masterValve.state = .open → after.world.store.masterValve.state = .open
  unfaulted : Unfaulted before.world.store after.world.store
  commands : ∀ index, call = .drive (.setOutput index true) → before.world.store.masterValve.state = .open

theorem KeptZones.refl (store : RuntimeState) : KeptZones store store := ⟨rfl,rfl,rfl⟩

theorem KeptZones.trans {first second third : RuntimeState} (one : KeptZones first second)
    (other : KeptZones second third) : KeptZones first third :=
  ⟨other.zones.trans one.zones,other.outputStates.trans one.outputStates,other.systemState.trans one.systemState⟩

theorem KeptZones.unfaulted {before after : RuntimeState} (same : KeptZones before after) : Unfaulted before after where
  system := by
    rw [same.systemState]
    exact id
  zones := by
    rw [same.zones]
    exact fun zone member faulted => ⟨zone,member,rfl,faulted⟩

theorem Unfaulted.refl (store : RuntimeState) : Unfaulted store store := (KeptZones.refl store).unfaulted

theorem Unfaulted.trans {first second third : RuntimeState} (one : Unfaulted first second)
    (other : Unfaulted second third) : Unfaulted first third where
  system := one.system ∘ other.system
  zones := by
    intro zone member faulted
    obtain ⟨middle,middleMember,middleNamed,middleFaulted⟩ := other.zones zone member faulted
    obtain ⟨old,oldMember,oldNamed,oldFaulted⟩ := one.zones middle middleMember middleFaulted
    exact ⟨old,oldMember,oldNamed.trans middleNamed,oldFaulted⟩

section Rules

variable {ε α β : Type} {task : ServiceTask} {label : ServiceCall}

theorem Relies.refl (task : ServiceTask) (call : ServiceCall) (shared : SharedServices ε) :
    Relies task call shared shared :=
  ⟨Iff.rfl,fun _ => .refl _,fun _ => rfl,fun _ => id⟩

theorem Relies.trans (task : ServiceTask) (call : ServiceCall) (first second third : SharedServices ε)
    (one : Relies task call first second) (other : Relies task call second third) : Relies task call first third where
  lock := one.lock.trans other.lock
  zones held := (one.zones held).trans (other.zones (one.lock.mp held))
  valve closes := (other.valve closes).trans (one.valve closes)
  opens inside := other.opens inside ∘ one.opens inside

/-- The task holds the zone lock, or does not. -/
def Holds (held : Bool) (task : ServiceTask) (shared : SharedServices ε) : Prop :=
  decide (shared.locks .zone = some task) = held

theorem Holds.relied {held : Bool} {before after : SharedServices ε} (holds : Holds held task before)
    (relied : Relies task label before after) : Holds held task after := by
  rw [Holds,← decide_eq_decide.mpr relied.lock]
  exact holds

theorem Holds.lock {shared : SharedServices ε} (holds : Holds true task shared) : shared.locks .zone = some task :=
  of_decide_eq_true holds

/-- A code meets the guarantees and leaves the zone lock as it was. -/
def Keeps (held : Bool) (task : ServiceTask) (code : ServiceCode ε α) : Prop :=
  ∀ shared, Holds held task shared → code.Meets Relies Guarantees task (fun _ => Holds held task) shared

variable {held : Bool}

theorem Keeps.pure (value : α) : Keeps held task (pure value : ServiceCode ε α) := fun _ holds => holds

theorem Keeps.bind {code : ServiceCode ε α} {rest : α → ServiceCode ε β} (first : Keeps held task code)
    (second : ∀ value, Keeps held task (rest value)) : Keeps held task (code >>= rest) :=
  fun shared holds => (first shared holds).bind fun value later => second value later

theorem Keeps.ite {condition : Prop} [Decidable condition] {first second : ServiceCode ε α}
    (one : Keeps held task first) (other : Keeps held task second) :
    Keeps held task (if condition then first else second) := by
  split
  · exact one
  · exact other

/-- A call meets what its service does from every state within the task's reliance. -/
theorem call_meets {service : Service ε α} {ends : α → SharedServices ε → Prop} {shared : SharedServices ε}
    (meets : ∀ later, Relies task label shared later → ∀ value world, service later.world = (value,world) →
      Guarantees task label later { later with world } ∧ ends value { later with world }) :
    (Atomic.call label service).Meets Relies Guarantees task ends shared :=
  fun later relied => meets later relied _ _ rfl

/-- The step of a call that leaves zones and valve alone. -/
structure Quiet (service : Service ε α) : Prop where
  zones : ∀ world, KeptZones world.store (service world).2.store
  valve : ∀ world, (service world).2.store.masterValve.state = world.store.masterValve.state

/-- The call does not command an output on. -/
def ServiceCall.commandsNone (call : ServiceCall) : Prop := ∀ index, call ≠ .drive (.setOutput index true)

theorem Quiet.guarantees {service : Service ε α} (quiet : Quiet service) (none : label.commandsNone)
    (shared : SharedServices ε) :
    Guarantees task label shared { shared with world := (service shared.world).2 } where
  locks _ _ := Iff.rfl
  zones _ := quiet.zones shared.world
  valve _ := quiet.valve shared.world
  opens _ opened := (quiet.valve shared.world).trans opened
  unfaulted := (quiet.zones shared.world).unfaulted
  commands index named := absurd named (none index)

theorem Quiet.keeps {service : Service ε α} (quiet : Quiet service) (none : label.commandsNone) :
    Keeps held task (Atomic.call label service) := by
  intro shared holds later relied
  have still : Holds held task later := holds.relied relied
  exact ⟨quiet.guarantees none later,still⟩

theorem Quiet.of_store {service : Service ε α} (same : ∀ world, (service world).2.store = world.store) :
    Quiet service where
  zones world := by
    rw [same]
    exact .refl _
  valve world := by rw [same]

theorem commit_quiet {operation : RuntimeState → Except IrrigationResult RuntimeState}
    (keeps : ∀ store next, operation store = .ok next → KeptZones store next ∧
      next.masterValve.state = store.masterValve.state) : Quiet (commit operation : Service ε IrrigationResult) where
  zones world := by
    cases run : operation world.store with
    | ok next =>
      rw [run_commit_ok run]
      exact (keeps _ _ run).1
    | error result =>
      rw [run_commit_error run]
      exact .refl _
  valve world := by
    cases run : operation world.store with
    | ok next =>
      rw [run_commit_ok run]
      exact (keeps _ _ run).2
    | error result => rw [run_commit_error run]

/-- A read. -/
theorem read_keeps {service : Service ε α} (same : ∀ world, (service world).2.store = world.store) :
    Keeps held task (Atomic.call .read service) := (Quiet.of_store same).keeps nofun

/-- A call of the task that holds the zone lock. -/
theorem actuation_keeps {service : Service ε α} (none : label.commandsNone)
    (valve : ∀ world, (service world).2.store.masterValve.state = world.store.masterValve.state)
    (unfaulted : ∀ world, Unfaulted world.store (service world).2.store) :
    Keeps true task (Atomic.call label service) := by
  intro shared holds later relied
  have still : Holds true task later := holds.relied relied
  refine ⟨?_,still⟩
  exact { locks := fun _ _ => Iff.rfl
          zones := fun free => absurd still.lock free
          valve := fun _ => valve later.world
          opens := fun _ opened => (valve later.world).trans opened
          unfaulted := unfaulted later.world
          commands := fun index named => absurd named (none index) }

/-- A step that sets or clears flags, and not the zones' for another task. -/
theorem flags_guarantee (none : label.commandsNone) (shared : SharedServices ε)
    (locks : ServiceLock → Option ServiceTask)
    (others : ∀ other, other ≠ task → (shared.locks .zone = some other ↔ locks .zone = some other)) :
    Guarantees task label shared { shared with locks } where
  locks := others
  zones _ := .refl _
  valve _ := rfl
  opens _ := id
  unfaulted := .refl _
  commands index named := absurd named (none index)

/-- Under a lock that is not the zones'. -/
theorem locking_keeps {lock : ServiceLock} (other : lock ≠ .zone) {body : ServiceCode ε IrrigationResult}
    (keeps : Keeps held task body) : Keeps held task (Atomic.locking task lock body) := by
  have untouched : ∀ (shared : SharedServices ε) (holder : Option ServiceTask),
      Function.update shared.locks lock holder .zone = shared.locks .zone := fun shared holder =>
    Function.update_of_ne (Ne.symm other) _ _
  have acquires : Keeps held task (Atomic.acquire task lock : ServiceCode ε Bool) := by
    intro shared holds later relied
    have still : Holds held task later := holds.relied relied
    dsimp only
    split
    · refine ⟨flags_guarantee (by simp [ServiceCall.commandsNone]) later _ fun _ _ => by rw [untouched],?_⟩
      simpa only [Holds,Code.Meets,untouched] using still
    · exact ⟨flags_guarantee (by simp [ServiceCall.commandsNone]) later later.locks fun _ _ => Iff.rfl,still⟩
  have releases : Keeps held task (Atomic.release lock : ServiceCode ε Unit) := by
    intro shared holds later relied
    have still : Holds held task later := holds.relied relied
    refine ⟨flags_guarantee (by simp [ServiceCall.commandsNone]) later _ fun _ _ => by rw [untouched],?_⟩
    simpa only [Holds,Code.Meets,untouched] using still
  refine acquires.bind fun acquired => .ite ?_ (.pure _)
  exact keeps.bind fun result => releases.bind fun _ => .pure _

/-- Trying the zones' lock tells whether the task holds it. -/
theorem acquire_zone_meets {shared : SharedServices ε} (free : Holds false task shared) :
    (Atomic.acquire task .zone).Meets Relies Guarantees task (fun acquired => Holds acquired task) shared := by
  intro later relied
  have still : Holds false task later := free.relied relied
  dsimp only
  by_cases taken : (later.locks .zone).isNone = true
  · rw [if_pos taken,taken]
    refine ⟨flags_guarantee (by simp [ServiceCall.commandsNone]) later _ fun other different => ?_,?_⟩
    · rw [Function.update_self,Option.isNone_iff_eq_none.mp taken]
      simp [different.symm]
    · simp [Code.Meets,Holds]
  · rw [if_neg taken,Bool.eq_false_iff.mpr taken]
    exact ⟨flags_guarantee (by simp [ServiceCall.commandsNone]) later later.locks fun _ _ => Iff.rfl,still⟩

theorem release_zone_meets {shared : SharedServices ε} (held : Holds true task shared) :
    (Atomic.release .zone).Meets Relies Guarantees task (fun _ => Holds false task) shared := by
  intro later relied
  have still : Holds true task later := held.relied relied
  refine ⟨flags_guarantee (by simp [ServiceCall.commandsNone]) later _ fun other different => ?_,?_⟩
  · rw [Function.update_self,still.lock]
    simp [different.symm]
  · simp [Code.Meets,Holds]

/-- Under the zones' lock. -/
theorem locking_zone_keeps {body : ServiceCode ε IrrigationResult} (keeps : Keeps true task body) :
    Keeps false task (Atomic.locking task .zone body) := by
  intro shared free
  refine (acquire_zone_meets free).bind fun acquired middle holds => ?_
  cases acquired with
  | false => exact holds
  | true =>
    refine (keeps middle holds).bind fun result after held => ?_
    exact (release_zone_meets held).bind fun _ released freed => freed

end Rules

/-! ### Zone service -/

section Zones

variable {ε : Type} {drivers : Drivers ε} {task : ServiceTask}

theorem publishZoneEvent_keeps {held : Bool} (type : EventType) (zoneId : CString) :
    Keeps held task (Atomic.call .publish (publishZoneEvent drivers type zoneId)) :=
  (Quiet.of_store fun _ => rfl).keeps (by simp [ServiceCall.commandsNone])

theorem faultless_update {store : RuntimeState} {zoneId : CString} {status : ZoneStatus → ZoneStatus}
    (settled : ∀ before, (status before).state ≠ .fault) :
    ∀ zone ∈ (store.zones.update zoneId status).entries, zone.state = .fault → ∃ old ∈ store.zones.entries,
      old.zoneId = zone.zoneId ∧ old.state = .fault := by
  intro zone member faulted
  obtain ⟨old,oldMember,rfl⟩ := ZoneTable.mem_update.mp member
  by_cases named : old.zoneId = zoneId
  · rw [ZoneTable.changeStatus_of_eq _ named] at faulted
    exact absurd faulted (settled _)
  · rw [ZoneTable.changeStatus_of_ne _ named] at faulted ⊢
    exact ⟨old,oldMember,rfl,faulted⟩

theorem closedZone_unfaulted (store : RuntimeState) (zone : ZoneRuntimeState) :
    Unfaulted store (closedZone store zone) := by
  simp only [closedZone]
  split
  · exact ⟨fun ready => absurd ready (by simp),faultless_update fun _ => by simp⟩
  · exact ⟨id,faultless_update fun _ => by simp⟩

theorem closeZone_keeps (zoneId : CString) : Keeps true task
    (Atomic.call .closeZone (commit (stateStoreCloseZone · zoneId) : Service ε IrrigationResult)) := by
  have cases : ∀ store, (∃ result, stateStoreCloseZone store zoneId = .error result) ∨
      ∃ zone, stateStoreCloseZone store zoneId = .ok (closedZone store zone) := by
    intro store
    unfold stateStoreCloseZone
    split
    · exact .inl ⟨_,rfl⟩
    · split
      · exact .inl ⟨_,rfl⟩
      · exact .inr ⟨_,rfl⟩
  refine actuation_keeps (by simp [ServiceCall.commandsNone]) (fun world => ?_) fun world => ?_
  · rcases cases world.store with ⟨result,run⟩ | ⟨zone,run⟩
    · rw [run_commit_error run]
    · rw [run_commit_ok run]
      exact congrArg MasterValveRuntimeState.state (closedZone_masterValve world.store zone)
  · rcases cases world.store with ⟨result,run⟩ | ⟨zone,run⟩
    · rw [run_commit_error run]
      exact .refl _
    · rw [run_commit_ok run]
      exact closedZone_unfaulted world.store zone

theorem transitionSystem_keeps : Keeps true task
    (Atomic.call .transitionSystem (commit (stateStoreTransitionSystem · .manual) : Service ε IrrigationResult)) := by
  refine actuation_keeps (by simp [ServiceCall.commandsNone]) (fun world => ?_) fun world => ?_
  · by_cases allowed : systemTransitionIsAllowed world.store.systemState .manual = true
    · rw [run_commit_ok (if_pos allowed)]
    · rw [run_commit_error (if_neg allowed)]
  · by_cases allowed : systemTransitionIsAllowed world.store.systemState .manual = true
    · rw [run_commit_ok (if_pos allowed)]
      exact ⟨nofun,fun zone member faulted => ⟨zone,member,rfl,faulted⟩⟩
    · rw [run_commit_error (if_neg allowed)]
      exact .refl _

/-- The task holds the zone lock and has an open prepared. -/
structure PreparedOpen (task : ServiceTask) (zoneId : CString) (index : Fin irrigationMaxOutputs)
    (shared : SharedServices ε) : Prop where
  held : Holds true task shared
  prepared : ∃ durationMs, stateStorePrepareZoneOpen shared.world.store zoneId = .ok (index,durationMs)

theorem prepareZoneOpen_ok {store : RuntimeState} {zoneId : CString} {index : Fin irrigationMaxOutputs}
    {durationMs : UInt32} (prepared : stateStorePrepareZoneOpen store zoneId = .ok (index,durationMs)) :
    store.masterValve.state = .open ∧ store.systemState = .manual := by
  unfold stateStorePrepareZoneOpen at prepared
  split at prepared
  · contradiction
  · split at prepared
    · contradiction
    · rename_i ready
      simp only [not_or,ne_eq,not_not] at ready
      exact ⟨ready.2.2.1,ready.1⟩

/-- What has been prepared stays so until it is recorded. -/
theorem PreparedOpen.relied {zoneId : CString} {index : Fin irrigationMaxOutputs} {before after : SharedServices ε}
    {label : ServiceCall} (ready : PreparedOpen task zoneId index before) (inside : label.opensPrepared = true)
    (relied : Relies task label before after) : PreparedOpen task zoneId index after := by
  obtain ⟨durationMs,prepared⟩ := ready.prepared
  have same := relied.zones ready.held.lock
  have opened := relied.opens inside (prepareZoneOpen_ok prepared).1
  refine ⟨ready.held.relied relied,durationMs,?_⟩
  rw [← prepared]
  simp only [stateStorePrepareZoneOpen,hasActiveOrUnknownOutput,same.zones,same.outputStates,same.systemState,opened,
    (prepareZoneOpen_ok prepared).1]

variable (confirms : ∀ command environment, (drivers.perform command environment).1 = .ok)

include confirms in
/-- Commanding the output on finds the valve open, and is confirmed. -/
theorem setOutput_meets {zoneId : CString} {index : Fin irrigationMaxOutputs} {shared : SharedServices ε}
    (ready : PreparedOpen task zoneId index shared) :
    (Atomic.call (.drive (.setOutput index true)) (outputDriverSet drivers index true)).Meets Relies Guarantees task
      (fun driven later => driven = .ok ∧ PreparedOpen task zoneId index later) shared := by
  intro later relied
  have still := ready.relied rfl relied
  refine ⟨?_,confirms _ _,still.held,still.prepared⟩
  obtain ⟨durationMs,prepared⟩ := still.prepared
  exact { locks := fun _ _ => Iff.rfl
          zones := fun _ => .refl _
          valve := fun _ => rfl
          opens := fun _ => id
          unfaulted := .refl _
          commands := fun _ _ => (prepareZoneOpen_ok prepared).1 }

/-- The store takes on the open. -/
theorem openZone_meets {zoneId : CString} {index : Fin irrigationMaxOutputs} {shared : SharedServices ε}
    (durationMs : UInt32) (ready : PreparedOpen task zoneId index shared) :
    (Atomic.call .openZone (do
      let now ← clockNowMs drivers
      commit (stateStoreOpenZone · zoneId now durationMs))).Meets Relies Guarantees task
      (fun result later => result = .ok ∧ Holds true task later) shared := by
  refine call_meets fun later relied value next ran => ?_
  have still := ready.relied rfl relied
  obtain ⟨configured,prepared⟩ := still.prepared
  obtain ⟨now,world,read,store⟩ : ∃ now world, clockNowMs drivers later.world = (now,world) ∧
      world.store = later.world.store := ⟨_,_,rfl,rfl⟩
  have opened : stateStoreOpenZone world.store zoneId now durationMs = .ok { later.world.store with
      zones := later.world.store.zones.update zoneId fun _ => ⟨.open,now,durationMs⟩
      outputStates := Function.update later.world.store.outputStates index .on } := by
    simp only [stateStoreOpenZone,store,prepared]
  have run : (clockNowMs drivers >>= fun now => commit (stateStoreOpenZone · zoneId now durationMs)) later.world =
      (.ok,{ world with store := { later.world.store with
        zones := later.world.store.zones.update zoneId fun _ => ⟨.open,now,durationMs⟩
        outputStates := Function.update later.world.store.outputStates index .on } }) := by
    rw [run_bind_of read]
    exact run_commit_ok opened
  cases run.symm.trans ran
  refine ⟨?_,rfl,still.held⟩
  exact { locks := fun _ _ => Iff.rfl
          zones := fun free => absurd still.held.lock free
          valve := fun _ => rfl
          opens := fun _ => id
          unfaulted := ⟨id,faultless_update fun _ => by simp⟩
          commands := fun _ named => absurd named (by simp) }

include confirms in
theorem zoneServiceActuateOpen_keeps (zoneId : CString) (durationMs : UInt32) :
    Keeps true task (Atomic.zoneServiceActuateOpen drivers zoneId durationMs) := by
  intro shared held
  have prepares : (Atomic.call .prepareZoneOpen (do
      let state ← snapshot
      pure (stateStorePrepareZoneOpen state zoneId)) : ServiceCode ε _).Meets Relies Guarantees task
      (fun prepared later => Holds true task later ∧
        stateStorePrepareZoneOpen later.world.store zoneId = prepared) shared := by
    refine call_meets fun later relied value world ran => ?_
    cases ran
    have still : Holds true task later := held.relied relied
    have quiet : Quiet (pure () : Service ε Unit) := .of_store fun _ => rfl
    exact ⟨quiet.guarantees (by simp [ServiceCall.commandsNone]) later,still,rfl⟩
  refine prepares.bind fun prepared middle ⟨still,found⟩ => ?_
  cases prepared with
  | error result => exact still
  | ok opens =>
    refine (setOutput_meets confirms ⟨still,opens.2,found⟩).bind fun driven on ⟨ok,ready⟩ => ?_
    rw [if_neg (not_not.mpr ok)]
    refine (openZone_meets _ ready).bind fun result opened ⟨recorded,holding⟩ => ?_
    rw [if_neg (not_not.mpr recorded)]
    exact (publishZoneEvent_keeps .zoneOpened zoneId).bind (fun _ => .pure _) opened holding

include confirms in
theorem zoneServiceOpen_keeps (zoneId : Option CString) (durationMs : UInt32) :
    Keeps false task (Atomic.zoneServiceOpen drivers task zoneId durationMs) := by
  apply locking_zone_keeps
  cases zoneId with
  | none => exact .pure _
  | some zoneId =>
    refine (read_keeps fun _ => rfl).bind fun found => ?_
    cases found with
    | error result => exact .pure _
    | ok zone =>
      have actuates : ∀ transition, Keeps true task (if transition ≠ .ok then pure transition
          else Atomic.zoneServiceActuateOpen drivers zoneId durationMs) :=
        fun _ => .ite (.pure _) (zoneServiceActuateOpen_keeps confirms zoneId durationMs)
      refine (read_keeps fun _ => rfl).bind fun state => .ite (.pure _) (.ite (.pure _) (.ite (.pure _) ?_))
      refine (read_keeps fun _ => rfl).bind fun precondition => .ite (.pure _) ?_
      exact .ite (transitionSystem_keeps.bind actuates) (.bind (.pure _) actuates)

include confirms in
/-- A driver call that commands no output on is confirmed, and finds the valve as the closing task
left it. -/
theorem drive_meets {held : Bool} (command : DriverCommand) (none : (ServiceCall.drive command).commandsNone)
    {shared : SharedServices ε} (holds : Holds held task shared) :
    (Atomic.call (.drive command) (perform drivers command)).Meets Relies Guarantees task
      (fun driven later => driven = .ok ∧ Holds held task later ∧
        (task = .closer → later.world.store.masterValve.state = shared.world.store.masterValve.state)) shared := by
  intro later relied
  have still : Holds held task later := holds.relied relied
  have quiet : Quiet (perform drivers command) := .of_store fun _ => rfl
  exact ⟨quiet.guarantees none later,confirms command later.world.environment,still,relied.valve⟩

include confirms in
theorem zoneServiceClose_keeps (zoneId : Option CString) :
    Keeps false task (Atomic.zoneServiceClose drivers task zoneId) := by
  apply locking_zone_keeps
  cases zoneId with
  | none => exact .pure _
  | some zoneId =>
    refine (read_keeps fun _ => rfl).bind fun found => ?_
    cases found with
    | error result => exact .pure _
    | ok zone =>
      refine .ite (.pure _) fun shared held => ?_
      have driven := drive_meets confirms (.setOutput zone.outputIndex false) (by simp [ServiceCall.commandsNone]) held
      refine driven.bind fun result off ⟨ok,still,_⟩ => ?_
      rw [if_neg (not_not.mpr ok)]
      refine ((closeZone_keeps zoneId).bind fun closed => .ite ?_ (.pure _)) off still
      exact (publishZoneEvent_keeps .zoneClosed zoneId).bind fun _ => .pure _

end Zones

/-! ### Master valve service -/

section Valve

variable {ε : Type} {drivers : Drivers ε} {held : Bool}

/-- What the closing task's store operation on the valve alone does. -/
theorem valve_guarantees {label : ServiceCall} (none : label.commandsNone) (shared : SharedServices ε) (world : World ε)
    (same : KeptZones shared.world.store world.store)
    (opens : ¬(label = .beginMasterValveClose ∧ stateStoreMasterValveCloseIsEligible shared.world.store) →
      shared.world.store.masterValve.state = .open → world.store.masterValve.state = .open) :
    Guarantees .closer label shared { shared with world } where
  locks _ _ := Iff.rfl
  zones _ := same
  valve := nofun
  opens := opens
  unfaulted := same.unfaulted
  commands index named := absurd named (none index)

variable (drivers) in
theorem completePreOpenDelay_store (world : World ε) :
    let next := ((do
      let now ← clockNowMs drivers
      commit (stateStoreCompleteMasterValvePreOpenDelay · now) : Service ε IrrigationResult) world).2
    KeptZones world.store next.store ∧ (world.store.masterValve.state = .open → next.store.masterValve.state = .open) := by
  intro next
  obtain ⟨now,read,clock,store⟩ : ∃ now read, clockNowMs drivers world = (now,read) ∧ read.store = world.store :=
    ⟨_,_,rfl,rfl⟩
  have ran : next = (commit (stateStoreCompleteMasterValvePreOpenDelay · now) read).2 := by
    simp only [next,run_bind_of clock]
  rw [ran,← store]
  cases run : stateStoreCompleteMasterValvePreOpenDelay read.store now with
  | error result =>
    rw [run_commit_error run]
    exact ⟨.refl _,id⟩
  | ok opened =>
    rw [run_commit_ok run]
    unfold stateStoreCompleteMasterValvePreOpenDelay at run
    split at run
    · contradiction
    · split at run
      · contradiction
      · cases run
        exact ⟨⟨rfl,rfl,rfl⟩,fun _ => rfl⟩

theorem masterValveServiceProcessTime_keeps :
    Keeps held .closer (Atomic.masterValveServiceProcessTime drivers .closer) := by
  refine locking_keeps (by decide) ((read_keeps fun _ => rfl).bind fun state => .ite (.bind ?_ fun _ => .pure _) (.pure _))
  intro shared holds later relied
  have still : Holds held .closer later := holds.relied relied
  obtain ⟨same,opened⟩ := completePreOpenDelay_store drivers later.world
  exact ⟨valve_guarantees (by simp [ServiceCall.commandsNone]) later _ same fun _ => opened,still⟩

theorem beginClose_meets {shared : SharedServices ε} (holds : Holds held .closer shared) :
    (Atomic.call .beginMasterValveClose (commit stateStoreBeginMasterValveClose)).Meets Relies Guarantees .closer
      (fun begun later => Holds held .closer later ∧
        (begun = .ok → later.world.store.masterValve.state = .closing)) shared := by
  refine call_meets fun later relied value world ran => ?_
  have still : Holds held .closer later := holds.relied relied
  by_cases eligible : stateStoreMasterValveCloseIsEligible later.world.store
  · cases (run_commit_ok (if_neg (not_not.mpr eligible))).symm.trans ran
    refine ⟨valve_guarantees (by simp [ServiceCall.commandsNone]) later _ ⟨rfl,rfl,rfl⟩ ?_,still,fun _ => rfl⟩
    exact fun apart => absurd ⟨rfl,eligible⟩ apart
  · cases (run_commit_error (if_pos eligible)).symm.trans ran
    exact ⟨valve_guarantees (by simp [ServiceCall.commandsNone]) later _ (.refl _) fun _ => id,still,nofun⟩

theorem completeClose_meets {shared : SharedServices ε} (holds : Holds held .closer shared)
    (closing : shared.world.store.masterValve.state = .closing) :
    (Atomic.call .completeMasterValveClose (commit stateStoreCompleteMasterValveClose)).Meets Relies Guarantees .closer
      (fun result later => result = .ok ∧ Holds held .closer later) shared := by
  refine call_meets fun later relied value world ran => ?_
  have still : Holds held .closer later := holds.relied relied
  have state : later.world.store.masterValve.state = .closing := (relied.valve rfl).trans closing
  cases (run_commit_ok (if_neg (not_not.mpr state))).symm.trans ran
  refine ⟨valve_guarantees (by simp [ServiceCall.commandsNone]) later _ ⟨rfl,rfl,rfl⟩ ?_,rfl,still⟩
  intro _ opened
  exact absurd (state.symm.trans opened) (by decide)

variable (confirms : ∀ command environment, (drivers.perform command environment).1 = .ok)

include confirms in
/-- Once it began to close, the valve is closed. -/
theorem masterValveServiceClose_keeps : Keeps held .closer (Atomic.masterValveServiceClose drivers .closer) := by
  refine locking_keeps (by decide) fun shared holds => ?_
  refine (beginClose_meets holds).bind fun begun middle ⟨still,closing⟩ => ?_
  by_cases ok : begun = .ok
  · rw [if_neg (not_not.mpr ok)]
    refine (drive_meets confirms .closeAndConfirm (by simp [ServiceCall.commandsNone]) still).bind
      fun confirmed closed ⟨driven,holding,valve⟩ => ?_
    dsimp only
    rw [if_pos driven]
    refine (completeClose_meets holding ((valve rfl).trans (closing ok))).bind fun result after ⟨done,ended⟩ => ?_
    rw [if_neg (not_not.mpr done)]
    exact ended
  · rw [if_pos ok]
    exact still

end Valve

/-! ### Program service -/

section Programs

variable {ε : Type} {drivers : Drivers ε}

theorem publishExecutionEvent_keeps {held : Bool} (type : EventType) (result : ProgramExecutionResult) (stepIndex : Nat)
    (zoneId : Option CString) :
    Keeps held .closer (Atomic.call .publish (publishExecutionEvent drivers type result stepIndex zoneId)) :=
  (Quiet.of_store fun _ => rfl).keeps (by simp [ServiceCall.commandsNone])

/-- A store operation on the program alone. -/
theorem setProgram_quiet {operation : RuntimeState → Except IrrigationResult RuntimeState}
    (alone : ∀ store next, operation store = .ok next → ∃ program, next = { store with program }) :
    Quiet (commit operation : Service ε IrrigationResult) := by
  refine commit_quiet fun store next run => ?_
  obtain ⟨program,rfl⟩ := alone store next run
  exact ⟨⟨rfl,rfl,rfl⟩,rfl⟩

theorem setProgramRunningZone_alone (stepIndex : Nat) (now : UInt64) (store next : RuntimeState)
    (run : stateStoreSetProgramRunningZone store stepIndex now = .ok next) : ∃ program, next = { store with program } := by
  unfold stateStoreSetProgramRunningZone at run
  split at run
  · contradiction
  · exact ⟨_,(Except.ok.inj run).symm⟩

theorem setProgramWaitingPostDelay_alone (now : UInt64) (store next : RuntimeState)
    (run : stateStoreSetProgramWaitingPostDelay store now = .ok next) : ∃ program, next = { store with program } := by
  unfold stateStoreSetProgramWaitingPostDelay at run
  split at run
  · contradiction
  · exact ⟨_,(Except.ok.inj run).symm⟩

theorem setProgramTerminal_alone (state : ProgramState) (store next : RuntimeState)
    (run : stateStoreSetProgramTerminal store state = .ok next) : ∃ program, next = { store with program } := by
  unfold stateStoreSetProgramTerminal at run
  split at run
  · contradiction
  · exact ⟨_,(Except.ok.inj run).symm⟩

/-- The clock is read first. -/
theorem Quiet.timed {α : Type} {service : UInt64 → Service ε α} (quiet : ∀ now, Quiet (service now)) :
    Quiet (clockNowMs drivers >>= service) where
  zones world := (quiet (clockNowMs drivers world).1).zones (clockNowMs drivers world).2
  valve world := (quiet (clockNowMs drivers world).1).valve (clockNowMs drivers world).2

theorem finish_keeps {held : Bool} (terminalState : ProgramState) (historyResult : ProgramExecutionResult) :
    Keeps held .closer (Atomic.finish drivers terminalState historyResult) := by
  have sets : Keeps held .closer (Atomic.call .setProgram
      (commit (stateStoreSetProgramTerminal · terminalState) : Service ε IrrigationResult)) :=
    (setProgram_quiet (setProgramTerminal_alone terminalState)).keeps (by simp [ServiceCall.commandsNone])
  exact sets.bind fun _ => publishExecutionEvent_keeps _ _ _ _

variable (confirms : ∀ command environment, (drivers.perform command environment).1 = .ok)

include confirms

theorem fault_keeps (result : IrrigationResult) : Keeps false .closer (Atomic.fault drivers .closer result) := by
  have finishes : ∀ _ : IrrigationResult, Keeps false .closer (do
      Atomic.finish drivers .fault .fault
      pure result) := fun _ => (finish_keeps _ _).bind fun _ => .pure _
  refine (read_keeps fun _ => rfl).bind fun state => .ite ?_ (.bind (.pure _) finishes)
  exact (masterValveServiceClose_keeps confirms).bind finishes

theorem openCurrentZone_keeps : Keeps false .closer (Atomic.openCurrentZone drivers .closer) := by
  refine (read_keeps fun _ => rfl).bind fun world => (zoneServiceOpen_keeps confirms _ _).bind fun opened => ?_
  refine .ite (fault_keeps confirms opened) (.bind ?_ fun result => .ite ?_ (.pure _))
  · exact (Quiet.timed fun now => setProgram_quiet (setProgramRunningZone_alone _ now)).keeps
      (by simp [ServiceCall.commandsNone])
  · exact (publishExecutionEvent_keeps _ _ _ _).bind fun _ => .pure _

theorem processWaitingMaster_keeps : Keeps false .closer (Atomic.processWaitingMaster drivers .closer) := by
  refine masterValveServiceProcessTime_keeps.bind fun result => .ite (fault_keeps confirms result) ?_
  refine (read_keeps fun _ => rfl).bind fun opened => .ite (openCurrentZone_keeps confirms) ?_
  exact (read_keeps fun _ => rfl).bind fun broken => .ite (fault_keeps confirms _) (.pure _)

theorem completeCurrentStep_keeps (state : RuntimeState) (step : ProgramStep) :
    Keeps false .closer (Atomic.completeCurrentStep drivers .closer state step) := by
  refine (zoneServiceClose_keeps confirms _).bind fun closed => .ite (fault_keeps confirms closed) ?_
  refine (read_keeps fun _ => rfl).bind fun world => (publishExecutionEvent_keeps _ _ _ _).bind fun _ => ?_
  refine .bind ((Quiet.of_store fun _ => rfl).keeps (by simp [ServiceCall.commandsNone])) fun now => .ite ?_ ?_
  · refine .bind ?_ fun _ => openCurrentZone_keeps confirms
    exact (setProgram_quiet (setProgramRunningZone_alone _ now)).keeps (by simp [ServiceCall.commandsNone])
  · exact (setProgram_quiet (setProgramWaitingPostDelay_alone now)).keeps (by simp [ServiceCall.commandsNone])

theorem programServiceProcess_keeps : Keeps false .closer (Atomic.programServiceProcess drivers .closer) := by
  have timed : ∀ {label : ServiceCall}, label.commandsNone →
      Keeps false .closer (Atomic.call label (clockNowMs drivers)) := fun none =>
    (Quiet.of_store fun _ => rfl).keeps none
  refine (read_keeps fun _ => rfl).bind fun active => .ite (locking_keeps (by decide) ?_) (.pure _)
  refine (read_keeps fun _ => rfl).bind fun world => ?_
  cases world.store.program.state with
  | waitingMaster => exact processWaitingMaster_keeps confirms
  | runningZone =>
    refine (timed (by simp [ServiceCall.commandsNone])).bind fun now => .ite ?_ (.pure _)
    exact completeCurrentStep_keeps confirms _ _
  | waitingPostProgramDelay =>
    refine (timed (by simp [ServiceCall.commandsNone])).bind fun now => .ite ?_ (.pure _)
    refine (masterValveServiceClose_keeps confirms).bind fun result => ?_
    exact (finish_keeps _ _).bind fun _ => .pure _
  | _ => exact .pure _

end Programs

/-! ### Runs of the two tasks -/

inductive ClosingCall where
  | masterValveServiceClose | programServiceProcess
  deriving DecidableEq, Repr

section Runs

variable {ε : Type} (drivers : Drivers ε)

/-- The zones that the one task opens, one after another. -/
def openings : List (Option CString × UInt32) → ServiceCode ε Unit
  | [] => pure ()
  | (zoneId,durationMs) :: rest => do
    let _ ← Atomic.zoneServiceOpen drivers .opener zoneId durationMs
    openings rest

/-- What the other task calls. -/
def closings : List ClosingCall → ServiceCode ε Unit
  | [] => pure ()
  | .masterValveServiceClose :: rest => do
    let _ ← Atomic.masterValveServiceClose drivers .closer
    closings rest
  | .programServiceProcess :: rest => do
    let _ ← Atomic.programServiceProcess drivers .closer
    closings rest

/-- The two tasks before their first call; all locks are free. -/
def serviceTasks (zones : List (Option CString × UInt32)) (calls : List ClosingCall) (world : World ε) :
    Tasks ServiceTask ServiceCall (SharedServices ε) Unit where
  shared := ⟨world,fun _ => none⟩
  code
    | .opener => openings drivers zones
    | .closer => closings drivers calls

/-- The valve does not begin to close while the other task has an open prepared. -/
def Apart (task : ServiceTask) (call : ServiceCall)
    (tasks : Tasks ServiceTask ServiceCall (SharedServices ε) Unit) : Prop :=
  call = .beginMasterValveClose → stateStoreMasterValveCloseIsEligible tasks.shared.world.store →
    ∀ other, other ≠ task → ((tasks.code other).pending.any ServiceCall.opensPrepared) = false

/-- An output is commanded on while the valve is neither closing nor closed. -/
def CommandsOpen (_task : ServiceTask) (call : ServiceCall)
    (tasks : Tasks ServiceTask ServiceCall (SharedServices ε) Unit) : Prop :=
  ∀ index, call = .drive (.setOutput index true) → tasks.shared.world.store.masterValve.state ≠ .closing ∧
    tasks.shared.world.store.masterValve.state ≠ .closed

/-- Steps that are apart stay within what the other task relies on. -/
theorem Apart.compatible {task : ServiceTask} {call : ServiceCall}
    {tasks : Tasks ServiceTask ServiceCall (SharedServices ε) Unit} {next : SharedServices ε}
    (apart : Apart task call tasks) (guaranteed : Guarantees task call tasks.shared next) (other : ServiceTask)
    (different : other ≠ task) (pending : ServiceCall) (waits : (tasks.code other).pending = some pending) :
    Relies other pending tasks.shared next where
  lock := guaranteed.locks other different
  zones held := guaranteed.zones fun own => different (Option.some.inj (held.symm.trans own))
  valve closes := by
    cases task with
    | opener => exact guaranteed.valve rfl
    | closer => exact absurd closes different
  opens inside := by
    refine guaranteed.opens fun ⟨begins,eligible⟩ => ?_
    have outside := apart begins eligible other different
    rw [waits] at outside
    exact absurd (inside.symm.trans outside) (by simp)

variable {drivers} (confirms : ∀ command environment, (drivers.perform command environment).1 = .ok)

include confirms

theorem openings_keeps (zones : List (Option CString × UInt32)) : Keeps false .opener (openings drivers zones) := by
  induction zones with
  | nil => exact .pure _
  | cons zone rest ih => exact (zoneServiceOpen_keeps confirms _ _).bind fun _ => ih

theorem closings_keeps (calls : List ClosingCall) : Keeps false .closer (closings drivers calls) := by
  induction calls with
  | nil => exact .pure _
  | cons call rest ih =>
    cases call with
    | masterValveServiceClose => exact (masterValveServiceClose_keeps confirms).bind fun _ => ih
    | programServiceProcess => exact (programServiceProcess_keeps confirms).bind fun _ => ih

theorem serviceTasks_sound (zones : List (Option CString × UInt32)) (calls : List ClosingCall) (world : World ε) :
    Sound Relies Guarantees (serviceTasks drivers zones calls world) := by
  intro task
  cases task with
  | opener => exact (openings_keeps confirms zones ⟨world,fun _ => none⟩ rfl).imp fun _ _ _ => trivial
  | closer => exact (closings_keeps confirms calls ⟨world,fun _ => none⟩ rfl).imp fun _ _ _ => trivial

/-- Zone openings of one task and valve closings of another exclude each other, however their calls
interleave, where the valve never begins to close over a prepared open: no output is commanded on
under a closing or closed valve, and nothing is faulted that was not before. -/
theorem openings_exclude_closings (zones : List (Option CString × UInt32)) (calls : List ClosingCall) (world : World ε)
    {schedule : List ServiceTask}
    (apart : Runs.Along step (AtSteps Apart) schedule (serviceTasks drivers zones calls world)) :
    Runs.Along step (AtSteps CommandsOpen) schedule (serviceTasks drivers zones calls world) ∧
      Runs.Throughout step (fun tasks => Unfaulted world.store tasks.shared.world.store) schedule
        (serviceTasks drivers zones calls world) := by
  have along := guaranteed_along (serviceTasks_sound confirms zones calls world) Relies.refl Relies.trans
    (fun task call tasks next apart guaranteed => apart.compatible guaranteed) apart
  constructor
  · refine along.imp fun task tasks met call next index commands => ?_
    rw [(met call next).commands index commands]
    decide
  · exact related_throughout (fun before after => Unfaulted before.world.store after.world.store)
      (fun shared => .refl shared.world.store) (fun _ _ _ => Unfaulted.trans)
      (fun _ _ _ guaranteed => guaranteed.unfaulted) along

end Runs

/-! ### The development kit -/

instance : Fintype ServiceTask := ⟨{.opener,.closer},fun task => by cases task <;> simp⟩

instance {ε : Type} (task : ServiceTask) (call : ServiceCall)
    (tasks : Tasks ServiceTask ServiceCall (SharedServices ε) Unit) : Decidable (Apart task call tasks) := by
  unfold Apart
  infer_instance

instance {ε : Type} (task : ServiceTask) (call : ServiceCall)
    (tasks : Tasks ServiceTask ServiceCall (SharedServices ε) Unit) : Decidable (CommandsOpen task call tasks) := by
  unfold CommandsOpen
  infer_instance

/-- The development kit with its master valve open. -/
def devOpened : World UInt64 := run quietDrivers [.masterOpen,.masterProcessTime] (devWorld devProgram)

/-- One task opens zone 1, the other closes the master valve. -/
def devTasks : Tasks ServiceTask ServiceCall (SharedServices UInt64) Unit :=
  serviceTasks quietDrivers [(some (.literal "zone-1"),0)] [.masterValveServiceClose] devOpened

/-- The valve is closed before the open is prepared. -/
def devClosedBefore : List ServiceTask :=
  List.replicate 5 .opener ++ List.replicate 5 .closer ++ List.replicate 2 .opener

theorem openings_exclude_closings_devClosedBefore :
    Runs.Along step (AtSteps CommandsOpen) devClosedBefore devTasks ∧
      Runs.Throughout step (fun tasks => Unfaulted devOpened.store tasks.shared.world.store) devClosedBefore devTasks :=
  openings_exclude_closings (fun _ _ => rfl) [(some (.literal "zone-1"),0)] [.masterValveServiceClose] devOpened
    (by decide +kernel)

/-- The valve closes between the prepared open and the output that is commanded on. -/
def devClosedInside : List ServiceTask :=
  List.replicate 6 .opener ++ List.replicate 4 .closer ++ List.replicate 4 .opener

/-- The output is commanded on under the closed valve, and the store ends in ERROR. -/
theorem close_inside_open_faults : ¬Runs.Along step (AtSteps CommandsOpen) devClosedInside devTasks ∧
    ¬Runs.Throughout step (fun tasks => Unfaulted devOpened.store tasks.shared.world.store) devClosedInside devTasks := by
  constructor
  · decide +kernel
  · intro unfaulted
    have failed : (Runs.after step devClosedInside devTasks).shared.world.store.systemState = .error := by decide +kernel
    exact absurd ((unfaulted devClosedInside [] rfl).system failed) (by decide +kernel)

end Irrigation
