import Irrigation.ServiceRelations
import Mathlib.Logic.Relation

/-! The devices behind the drivers change by the issued calls and the clock readings
alone. An invariant that ties the store, the driver calls so far and the devices together
is carried through every operation by what it says about single service calls. -/
namespace Irrigation

section Devices

variable {ε : Type} (drivers : Drivers ε)

/-- The clock was read any number of times. -/
def Ticks : ε → ε → Prop := Relation.ReflTransGen fun before after => after = (drivers.nowMs before).2

/-- The devices after these calls, with the clock read in between. -/
def Driven : ε → List DriverCall → ε → Prop
  | before, [], after => Ticks drivers before after
  | before, call :: rest, after => ∃ reached, Ticks drivers before reached ∧
      (drivers.perform call.command reached).1 = call.result ∧ Driven (drivers.perform call.command reached).2 rest after

variable {drivers} {before middle after : ε} {first second : List DriverCall}

theorem Ticks.single (environment : ε) : Ticks drivers environment (drivers.nowMs environment).2 :=
  Relation.ReflTransGen.single rfl

theorem Driven.refl (environment : ε) : Driven drivers environment [] environment := Relation.ReflTransGen.refl

theorem Ticks.driven (ticks : Ticks drivers before middle) (later : Driven drivers middle first after) :
    Driven drivers before first after := by
  cases first with
  | nil => exact Relation.ReflTransGen.trans ticks later
  | cons call rest =>
    obtain ⟨reached,waits,answered,driven⟩ := later
    exact ⟨reached,ticks.trans waits,answered,driven⟩

theorem Driven.trans (front : Driven drivers before first middle) (back : Driven drivers middle second after) :
    Driven drivers before (first ++ second) after := by
  induction first generalizing before with
  | nil => exact Ticks.driven front back
  | cons call rest ih =>
    obtain ⟨reached,waits,answered,driven⟩ := front
    exact ⟨reached,waits,answered,ih driven⟩

/-- What holds of the devices and survives clock readings. -/
theorem Ticks.keep (property : ε → Prop) (kept : ∀ environment, property environment → property (drivers.nowMs environment).2)
    (ticks : Ticks drivers before after) (holds : property before) : property after := by
  induction ticks with
  | refl => exact holds
  | tail _ read ih =>
    rw [read]
    exact kept _ ih

variable (drivers)

/-- The calls and devices of the second world are those of the first after the issued calls. -/
def Evolves (world next : World ε) : Prop :=
  ∃ issued, next.calls = world.calls ++ issued ∧ Driven drivers world.environment issued next.environment

theorem evolves_relation : DeviceRelation drivers (Evolves drivers) where
  refl world := ⟨[],by simp,.refl _⟩
  trans := by
    rintro world middle next ⟨first,called,driven⟩ ⟨second,calledOn,drivenOn⟩
    exact ⟨first ++ second,by rw [calledOn,called,List.append_assoc],driven.trans drivenOn⟩
  store world store := ⟨[],by simp,.refl _⟩
  clock world := ⟨[],by simp [clockNowMs],Ticks.single world.environment⟩
  device command world := ⟨[⟨command,_⟩],rfl,world.environment,.refl,rfl,.refl _⟩
  publish event _ world := ⟨[],by simp [eventBusPublish],.refl _⟩

/-- The issued calls of a service, with the devices driven by them. -/
theorem Evolves.driven {world next : World ε} {issued : List DriverCall} (evolves : Evolves drivers world next)
    (called : next.calls = world.calls ++ issued) : Driven drivers world.environment issued next.environment := by
  obtain ⟨others,same,driven⟩ := evolves
  rw [List.append_cancel_left (called.symm.trans same)]
  exact driven

theorem zoneServiceOpen_driven (zoneId : Option CString) (durationMs : UInt32) (world : World ε) :
    ∃ issued, ZoneOpening world.store zoneId durationMs (Reads drivers world)
        (zoneServiceOpen drivers zoneId durationMs world).1 issued
        (zoneServiceOpen drivers zoneId durationMs world).2.store ∧
      (zoneServiceOpen drivers zoneId durationMs world).2.calls = world.calls ++ issued ∧
      Driven drivers world.environment issued (zoneServiceOpen drivers zoneId durationMs world).2.environment := by
  obtain ⟨issued,opening,back⟩ := zoneServiceOpen_cases drivers zoneId durationMs world
  exact ⟨issued,opening,back.calls,
    ((evolves_relation drivers).zoneServiceOpen zoneId durationMs world).driven drivers back.calls⟩

theorem zoneServiceClose_driven (zoneId : Option CString) (world : World ε) :
    ∃ issued, ZoneClosing world.store zoneId (zoneServiceClose drivers zoneId world).1 issued
        (zoneServiceClose drivers zoneId world).2.store ∧
      (zoneServiceClose drivers zoneId world).2.calls = world.calls ++ issued ∧
      Driven drivers world.environment issued (zoneServiceClose drivers zoneId world).2.environment := by
  obtain ⟨issued,closing,back⟩ := zoneServiceClose_cases drivers zoneId world
  exact ⟨issued,closing,back.calls,
    ((evolves_relation drivers).zoneServiceClose zoneId world).driven drivers back.calls⟩

theorem masterValveServiceClose_driven (world : World ε) :
    ∃ issued, MasterClosing world.store (masterValveServiceClose drivers world).1 issued
        (masterValveServiceClose drivers world).2.store ∧
      (masterValveServiceClose drivers world).2.calls = world.calls ++ issued ∧
      Driven drivers world.environment issued (masterValveServiceClose drivers world).2.environment := by
  obtain ⟨issued,closing,back⟩ := masterValveServiceClose_cases drivers world
  exact ⟨issued,closing,back.calls,
    ((evolves_relation drivers).masterValveServiceClose world).driven drivers back.calls⟩

/-- The confirmation time is read after the driver confirmed the open. -/
theorem masterValveServiceOpen_confirmed {world : World ε} {opened read : ε} {now : UInt64}
    (idle : world.store.masterValve.state = .closed ∨ world.store.masterValve.state = .fault)
    (confirmed : drivers.perform .openAndConfirm world.environment = (.ok,opened))
    (clock : drivers.nowMs opened = (now,read)) :
    (masterValveServiceOpen drivers world).2 = { world with
      store := masterOpening world.store now
      environment := read
      calls := world.calls ++ [⟨.openAndConfirm,.ok⟩] } := by
  have notBusy : ¬(world.store.masterValve.state ≠ .closed ∧ world.store.masterValve.state ≠ .fault) := by tauto
  have driven : masterValveDriverOpenAndConfirm drivers world = (.ok,{ world with
      environment := opened
      calls := world.calls ++ [⟨.openAndConfirm,.ok⟩] }) := by
    simp only [masterValveDriverOpenAndConfirm,perform,confirmed]
  have begins : stateStoreBeginMasterValveOpen world.store now = .ok (masterOpening world.store now) := if_neg notBusy
  simp only [masterValveServiceOpen,run_snapshot_bind,run_ite]
  rw [if_neg notBusy,run_bind_of driven]
  simp only [if_true,run_bind,clockNowMs,clock,commit,begins,ne_eq,not_true_eq_false,if_false,run_pure]

theorem masterValveServiceOpen_failed {world : World ε} {failed : ε} {failure : IrrigationResult}
    (idle : world.store.masterValve.state = .closed ∨ world.store.masterValve.state = .fault)
    (answered : drivers.perform .openAndConfirm world.environment = (failure,failed)) (notOk : failure ≠ .ok) :
    (masterValveServiceOpen drivers world).2 = { world with
      store := masterFaulted world.store
      environment := failed
      calls := world.calls ++ [⟨.openAndConfirm,failure⟩] } := by
  have notBusy : ¬(world.store.masterValve.state ≠ .closed ∧ world.store.masterValve.state ≠ .fault) := by tauto
  have driven : masterValveDriverOpenAndConfirm drivers world = (failure,{ world with
      environment := failed
      calls := world.calls ++ [⟨.openAndConfirm,failure⟩] }) := by
    simp only [masterValveDriverOpenAndConfirm,perform,answered]
  simp only [masterValveServiceOpen,run_snapshot_bind,run_ite]
  rw [if_neg notBusy,run_bind_of driven]
  simp only [notOk,if_false,run_pure_bind,ne_eq,not_false_eq_true,if_true,run_ite]
  rfl

theorem masterValveServiceOpen_refused {world : World ε} (busy : world.store.masterValve.state ≠ .closed)
    (working : world.store.masterValve.state ≠ .fault) : (masterValveServiceOpen drivers world).2 = world := by
  simp only [masterValveServiceOpen,run_snapshot_bind,run_ite]
  rw [if_pos ⟨busy,working⟩]
  rfl

theorem masterValveServiceProcessTime_opening {world : World ε} {now : UInt64} {read : ε}
    (opening : world.store.masterValve.state = .opening) (clock : drivers.nowMs world.environment = (now,read)) :
    (masterValveServiceProcessTime drivers world).2 =
      { world with store := masterTimed world.store now, environment := read } := by
  have reading : clockNowMs drivers world = (now,{ world with environment := read }) := by
    simp only [clockNowMs,clock]
  simp only [masterValveServiceProcessTime,run_snapshot_bind,run_ite,opening,if_true]
  rw [run_bind_of reading]
  by_cases early : now - world.store.masterValve.openingConfirmedAtMs <
      world.store.masterValve.preOpenDelayMs.toUInt64
  · have refused : stateStoreCompleteMasterValvePreOpenDelay world.store now = .error .timeout := by
      simp [stateStoreCompleteMasterValvePreOpenDelay,opening,early]
    rw [run_bind_of (run_commit_error refused)]
    simp only [run_pure,masterTimed,early,not_true_eq_false,and_false,if_false]
  · have accepted : stateStoreCompleteMasterValvePreOpenDelay world.store now = .ok (masterTimed world.store now) := by
      simp [stateStoreCompleteMasterValvePreOpenDelay,opening,early,masterTimed]
    rw [run_bind_of (run_commit_ok accepted)]
    rfl

theorem masterValveServiceProcessTime_still {world : World ε} (still : world.store.masterValve.state ≠ .opening) :
    (masterValveServiceProcessTime drivers world).2 = world := by
  simp only [masterValveServiceProcessTime,run_snapshot_bind,run_ite,still,if_false,run_pure]

end Devices

/-! ### Invariants of store, calls and devices -/

section Invariants

variable {ε : Type} {drivers : Drivers ε} {invariant : RuntimeState → List DriverCall → ε → Prop}

/-- What each service call keeps of a relation between the store, the driver calls so far
and the devices. -/
structure DeviceInvariant (drivers : Drivers ε) (invariant : RuntimeState → List DriverCall → ε → Prop) : Prop where
  zoneOpening : ∀ {store next : RuntimeState} {calls issued : List DriverCall} {before after : ε}
    {zoneId : Option CString} {durationMs : UInt32} {reads : UInt64 → Prop} {result : IrrigationResult},
    invariant store calls before → ZoneOpening store zoneId durationMs reads result issued next →
      Driven drivers before issued after → invariant next (calls ++ issued) after
  zoneClosing : ∀ {store next : RuntimeState} {calls issued : List DriverCall} {before after : ε}
    {zoneId : Option CString} {result : IrrigationResult}, invariant store calls before →
      ZoneClosing store zoneId result issued next → Driven drivers before issued after →
        invariant next (calls ++ issued) after
  masterOpened : ∀ {store : RuntimeState} {calls : List DriverCall} {before opened read : ε} {now : UInt64},
    invariant store calls before → (store.masterValve.state = .closed ∨ store.masterValve.state = .fault) →
      drivers.perform .openAndConfirm before = (.ok,opened) → drivers.nowMs opened = (now,read) →
        invariant (masterOpening store now) (calls ++ [⟨.openAndConfirm,.ok⟩]) read
  masterUnopened : ∀ {store : RuntimeState} {calls : List DriverCall} {before failed : ε} {failure : IrrigationResult},
    invariant store calls before → (store.masterValve.state = .closed ∨ store.masterValve.state = .fault) →
      drivers.perform .openAndConfirm before = (failure,failed) → failure ≠ .ok →
        invariant (masterFaulted store) (calls ++ [⟨.openAndConfirm,failure⟩]) failed
  masterTimed : ∀ {store : RuntimeState} {calls : List DriverCall} {before read : ε} {now : UInt64},
    invariant store calls before → store.masterValve.state = .opening → drivers.nowMs before = (now,read) →
      invariant (masterTimed store now) calls read
  masterClosing : ∀ {store next : RuntimeState} {calls issued : List DriverCall} {before after : ε}
    {result : IrrigationResult}, invariant store calls before → MasterClosing store result issued next →
      Driven drivers before issued after → invariant next (calls ++ issued) after
  program : ∀ {store : RuntimeState} {calls : List DriverCall} {environment : ε} (program : ProgramRuntimeState)
    (scheduler : SchedulerRuntimeState), invariant store calls environment →
      invariant { store with program, scheduler } calls environment
  tick : ∀ {store : RuntimeState} {calls : List DriverCall} {environment : ε}, invariant store calls environment →
    invariant store calls (drivers.nowMs environment).2

/-- The invariant in a world. -/
def World.Meets (invariant : RuntimeState → List DriverCall → ε → Prop) (world : World ε) : Prop :=
  invariant world.store world.calls world.environment

theorem DeviceInvariant.relation (kept : DeviceInvariant drivers invariant) :
    OperationRelation drivers fun world next => world.Meets invariant → next.Meets invariant where
  refl _ holds := holds
  trans one other holds := other (one holds)
  masterOpen world holds := by
    by_cases idle : world.store.masterValve.state = .closed ∨ world.store.masterValve.state = .fault
    · cases answer : drivers.perform .openAndConfirm world.environment with
      | mk result opened =>
        by_cases ok : result = .ok
        · subst ok
          cases clock : drivers.nowMs opened with
          | mk now read =>
            rw [masterValveServiceOpen_confirmed drivers idle answer clock]
            exact kept.masterOpened holds idle answer clock
        · rw [masterValveServiceOpen_failed drivers idle answer ok]
          exact kept.masterUnopened holds idle answer ok
    · rw [masterValveServiceOpen_refused drivers (by tauto) (by tauto)]
      exact holds
  masterProcessTime world holds := by
    by_cases opening : world.store.masterValve.state = .opening
    · cases clock : drivers.nowMs world.environment with
      | mk now read =>
        rw [masterValveServiceProcessTime_opening drivers opening clock]
        exact kept.masterTimed holds opening clock
    · rw [masterValveServiceProcessTime_still drivers opening]
      exact holds
  masterClose world holds := by
    obtain ⟨issued,closing,called,driven⟩ := masterValveServiceClose_driven drivers world
    rw [World.Meets,called]
    exact kept.masterClosing holds closing driven
  zoneOpen zoneId durationMs world holds := by
    obtain ⟨issued,opening,called,driven⟩ := zoneServiceOpen_driven drivers zoneId durationMs world
    rw [World.Meets,called]
    exact kept.zoneOpening holds opening driven
  zoneClose zoneId world holds := by
    obtain ⟨issued,closing,called,driven⟩ := zoneServiceClose_driven drivers zoneId world
    rw [World.Meets,called]
    exact kept.zoneClosing holds closing driven
  program world program scheduler holds := kept.program program scheduler holds
  clock world holds := kept.tick holds
  publish event world holds := holds
  setProgram address context world holds := holds
  lock world holds := holds
  unlock world holds := holds

/-- The invariant holds in every state of every run. -/
theorem DeviceInvariant.throughout (kept : DeviceInvariant drivers invariant) {world : World ε}
    (initially : world.Meets invariant) (commands : List Command) :
    Runs.Throughout (operate drivers) (World.Meets invariant) commands world :=
  Runs.invariant_throughout _ (fun command world holds _ => kept.relation.operate command world holds) initially
    (Runs.along_true commands world)

end Invariants

end Irrigation
