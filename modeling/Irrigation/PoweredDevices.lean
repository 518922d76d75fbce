import Irrigation.PreOpenDelays
import Irrigation.SystemBoot

/-! The devices from power-up on. What every service call keeps of them, together with the store, holds
in every state of the firmware that a boot leaves, if the passing of time keeps it too. -/
namespace Irrigation

section Invariants

variable {ε : Type} {drivers : Drivers ε} {first second : RuntimeState → List DriverCall → ε → Prop}

/-- Two invariants at once. -/
theorem DeviceInvariant.and (one : DeviceInvariant drivers first) (other : DeviceInvariant drivers second) :
    DeviceInvariant drivers fun store calls environment => first store calls environment ∧ second store calls environment where
  zoneOpening holds opening driven := ⟨one.zoneOpening holds.1 opening driven,other.zoneOpening holds.2 opening driven⟩
  zoneClosing holds closing driven := ⟨one.zoneClosing holds.1 closing driven,other.zoneClosing holds.2 closing driven⟩
  masterOpened holds idle answered reading :=
    ⟨one.masterOpened holds.1 idle answered reading,other.masterOpened holds.2 idle answered reading⟩
  masterUnopened holds idle answered notOk :=
    ⟨one.masterUnopened holds.1 idle answered notOk,other.masterUnopened holds.2 idle answered notOk⟩
  masterTimed holds opening reading := ⟨one.masterTimed holds.1 opening reading,other.masterTimed holds.2 opening reading⟩
  masterClosing holds closing driven :=
    ⟨one.masterClosing holds.1 closing driven,other.masterClosing holds.2 closing driven⟩
  program program scheduler holds := ⟨one.program program scheduler holds.1,other.program program scheduler holds.2⟩
  tick holds := ⟨one.tick holds.1,other.tick holds.2⟩

variable {time : ε → UInt64} {before after : RecordedDevices ε}

theorem unrecorded_perform {command : DriverCommand} {result : IrrigationResult}
    (answered : (recordingDrivers drivers time).perform command before = (result,after)) :
    drivers.perform command before.devices = (result,after.devices) := by
  have answer : (drivers.perform command before.devices).1 = result := congrArg Prod.fst answered
  have reached : (drivers.perform command before.devices).2 = after.devices := congrArg (·.2.devices) answered
  exact Prod.ext answer reached

theorem unrecorded_nowMs {now : UInt64} (reading : (recordingDrivers drivers time).nowMs before = (now,after)) :
    drivers.nowMs before.devices = (now,after.devices) := by
  have read : (drivers.nowMs before.devices).1 = now := congrArg Prod.fst reading
  have reached : (drivers.nowMs before.devices).2 = after.devices := congrArg (·.2.devices) reading
  exact Prod.ext read reached

/-- Recording the calls does not change what they do. -/
theorem Driven.unrecorded {issued : List DriverCall}
    (driven : Driven (recordingDrivers drivers time) before issued after) :
    Driven drivers before.devices issued after.devices := by
  have ticks {before after : RecordedDevices ε} (ticks : Ticks (recordingDrivers drivers time) before after) :
      Ticks drivers before.devices after.devices := by
    have started : Ticks drivers before.devices before.devices := Relation.ReflTransGen.refl
    refine ticks.keep (fun timed => Ticks drivers before.devices timed.devices) (fun timed waits => ?_) started
    exact Relation.ReflTransGen.trans waits (Ticks.single timed.devices)
  induction issued generalizing before with
  | nil => exact ticks driven
  | cons call rest ih =>
    obtain ⟨reached,waits,answered,later⟩ := driven
    exact ⟨reached.devices,ticks waits,answered,ih later⟩

theorem DeviceInvariant.recorded (kept : DeviceInvariant drivers first) (time : ε → UInt64) :
    DeviceInvariant (recordingDrivers drivers time) fun store calls timed => first store calls timed.devices where
  zoneOpening holds opening driven := kept.zoneOpening holds opening driven.unrecorded
  zoneClosing holds closing driven := kept.zoneClosing holds closing driven.unrecorded
  masterOpened holds idle answered reading :=
    kept.masterOpened holds idle (unrecorded_perform answered) (unrecorded_nowMs reading)
  masterUnopened holds idle answered notOk := kept.masterUnopened holds idle (unrecorded_perform answered) notOk
  masterTimed holds opening reading := kept.masterTimed holds opening (unrecorded_nowMs reading)
  masterClosing holds closing driven := kept.masterClosing holds closing driven.unrecorded
  program program scheduler holds := kept.program program scheduler holds
  tick holds := kept.tick holds

/-- What each command and each reading of the clock keeps of the devices, whatever the store. -/
theorem DeviceInvariant.ofDevices {property : ε → Prop} (performs : ∀ command environment, property environment →
      property (drivers.perform command environment).2)
    (clock : ∀ environment, property environment → property (drivers.nowMs environment).2) :
    DeviceInvariant drivers fun _ _ environment => property environment := by
  have kept {issued : List DriverCall} {before after : ε} (driven : Driven drivers before issued after)
      (holds : property before) : property after := by
    induction issued generalizing before with
    | nil => exact Ticks.keep property clock driven holds
    | cons call rest ih =>
      obtain ⟨reached,waits,_,later⟩ := driven
      exact ih later (performs _ _ (waits.keep property clock holds))
  exact {
    zoneOpening := fun holds _ driven => kept driven holds
    zoneClosing := fun holds _ driven => kept driven holds
    masterOpened := fun holds _ answered reading => by
      have opened := performs .openAndConfirm _ holds
      rw [answered] at opened
      have read := clock _ opened
      rwa [reading] at read
    masterUnopened := fun holds _ answered _ => by
      have failed := performs .openAndConfirm _ holds
      rwa [answered] at failed
    masterTimed := fun holds _ reading => by
      have read := clock _ holds
      rwa [reading] at read
    masterClosing := fun holds _ driven => kept driven holds
    program := fun _ _ holds => holds
    tick := fun holds => clock _ holds }

end Invariants

section Boots

variable {ε σ : Type} {drivers : Drivers ε} {invariant : RuntimeState → List DriverCall → ε → Prop}
  {device : Repository.ConfigurationRepositoryStorage σ} {boardZones : List Zone} {found : PowerUp ε} {storage next : σ}
  {system : ManagedSystem ε σ}

/-- A boot that goes through leaves the devices as it found them, and takes the valve to be closed. -/
theorem booted_devices (bootable : Bootable boardZones) (accepted : ConfigurableZones boardZones)
    (completed : Boot.appMain device boardZones found storage = (.ok system,next)) :
    found.safeOff = .ok ∧ system.world.environment = found.environment ∧ system.world.store.masterValve.state = .closed := by
  have booting := appMain_booting bootable accepted device found storage
  rw [completed] at booting
  cases booting with
  | @started defaults manager repository switched =>
    have rescheduled := scheduled_rescheduled manager
      (initialWorld (bootedStore boardZones accepted 500) manager.views.memory found.environment)
      (initializeConfiguration device boardZones found.repository storage).2
    obtain ⟨scheduler,stored⟩ := rescheduled.store
    refine ⟨switched,rescheduled.environment,?_⟩
    rw [stored]
    rfl

theorem DeviceInvariant.powered (kept : DeviceInvariant drivers invariant) (passes : ε → ε → Prop)
    (aging : ∀ store calls before after, passes before after → invariant store calls before → invariant store calls after)
    (bootable : Bootable boardZones) (accepted : ConfigurableZones boardZones)
    (initially : found.safeOff = .ok → invariant (bootedStore boardZones accepted 500) [] found.environment)
    (completed : Boot.appMain device boardZones found storage = (.ok system,next)) (library : QueryKeyValue)
    {steps : List (FirmwareStep ε)} (along : Runs.Along (firmwareStep drivers device library boardZones)
      (fun step firmware => passes firmware.system.world.environment step.environment) steps ⟨system,0⟩) :
    Runs.Throughout (firmwareStep drivers device library boardZones)
      (fun firmware => firmware.system.world.Meets invariant) steps ⟨system,0⟩ := by
  have booting := appMain_booting bootable accepted device found storage
  rw [completed] at booting
  have booted : system.world.Meets invariant := by
    cases booting with
    | started switched => exact (scheduled_rescheduled _ _ _).meets kept (initially switched)
  exact kept.across.throughout library boardZones passes
    (fun environment system passed holds => aging _ _ _ environment passed holds) booted along

end Boots

/-- The valve is opened by hand, and the first zone after the next iteration. -/
def openingSteps : List (FirmwareStep Unit) := [
  .request () ⟨.post,.literal "/master/open",⟨.literal "/master/open",none⟩⟩,
  .iteration () none,
  .request () ⟨.post,.literal "/zone/open",⟨.literal "/zone/open?id=zone-1",some (.literal "id=zone-1")⟩⟩]

end Irrigation
