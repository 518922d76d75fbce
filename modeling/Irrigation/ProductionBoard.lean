import Irrigation.PoweredDevices
import Irrigation.RelaySafety
import Irrigation.ShellyTransport

/-! The production board: its relays on the I2C bus and its master valve on the network, from power-up on.
Whatever fails and however often, no two relays are on, and none is before the valve was open for the delay. -/
namespace Irrigation

open Shelly Scanning

/-- What the board is connected to, over one state. -/
structure Surroundings (υ : Type) where
  i2c : I2cBus υ
  http : EspHttpClient υ
  nowMs : υ → UInt64 × υ

/-- The buffer of the master valve's driver, with the surroundings that the relays share with it. -/
structure ValveBus (υ : Type) where
  response : ResponseBuffer
  surroundings : υ

section Board

variable {υ : Type} (connected : Surroundings υ) (configuration : ShellyMasterValveConfiguration)

/-- The bus leaves the driver of the valve alone. -/
def I2cBus.beside (bus : I2cBus υ) : I2cBus (ValveBus υ) where
  paramConfig := fun shared =>
    let (result,surroundings) := bus.paramConfig shared.surroundings
    (result,{ shared with surroundings })
  driverInstall := fun shared =>
    let (result,surroundings) := bus.driverInstall shared.surroundings
    (result,{ shared with surroundings })
  write := fun registerAddress value shared =>
    let (written,surroundings) := bus.write registerAddress value shared.surroundings
    (written,{ shared with surroundings })

/-- `board_master_valve_driver` -/
def boardMasterValveDriver : ShellyMasterValveDriver υ :=
  shellyMasterValveDriverInit (some (espShellyHttpTransport connected.http)) configuration

/-- An operation of the driver of the valve, which changes nothing of it but the buffer. -/
def ValveBus.operate (requestedOutput : Bool) (shared : ValveBus υ) : IrrigationResult × ValveBus υ :=
  let driver := { boardMasterValveDriver connected configuration with response := shared.response }
  let (result,driver,surroundings) :=
    if requestedOutput then shellyOpenAndConfirm driver shared.surroundings else shellyCloseAndConfirm driver shared.surroundings
  (result,⟨driver.response,surroundings⟩)

/-- The valve and the clock; the outputs are those of the relays. -/
def shellyDrivers : Drivers (ValveBus υ) where
  perform := fun command shared => match command with
    | .openAndConfirm => shared.operate connected configuration true
    | .closeAndConfirm => shared.operate connected configuration false
    | .setOutput _ _ => (.notSupported,shared)
  nowMs := fun shared =>
    let (now,surroundings) := connected.nowMs shared.surroundings
    (now,{ shared with surroundings })

/-- What the services see of the board. -/
def boardDrivers : Drivers (RelayBoard (ValveBus υ)) :=
  relayDrivers connected.i2c.beside (shellyDrivers connected configuration)

/-- The board before its outputs are initialised, with whatever the registers hold. -/
def unpowered (olata iodira : UInt8) (surroundings : υ) : RelayBoard (ValveBus υ) where
  initialized := false
  outputMask := 0
  olata := olata
  iodira := iodira
  latches := []
  bus := ⟨(boardMasterValveDriver connected configuration).response,surroundings⟩

/-- What `app_main` finds once it initialised the outputs. -/
def boardPowerUp (board : RelayBoard (ValveBus υ)) (repository mutex : Bool) :
    PowerUp (RecordedDevices (RelayBoard (ValveBus υ))) :=
  let (safeOff,ready) := irrigationControllerInitializeSafeOff connected.i2c.beside board
  ⟨safeOff,⟨ready,[]⟩,repository,mutex⟩

end Board

/-! ### Time -/

/-- An operation does to the network what its requests do, at most two of them. -/
theorem setAndConfirm_relates {τ : Type} (relation : τ → τ → Prop) (refl : ∀ state, relation state state)
    (trans : ∀ {first second third}, relation first second → relation second third → relation first third)
    (driver : ShellyMasterValveDriver τ) (gets : ∀ path state, relation state (driver.get path state).2)
    (requestedOutput : Bool) (state : τ) : relation state (setAndConfirm driver requestedOutput state).2.2 := by
  simp only [setAndConfirm]
  split
  · exact refl state
  · split
    · exact refl state
    · have reached := gets (switchSetPath driver.switchId requestedOutput) state
      obtain ⟨network,buffer,same⟩ := @request_same τ driver (switchSetPath driver.switchId requestedOutput) state
      rw [← network] at reached
      generalize request driver (switchSetPath driver.switchId requestedOutput) state = outcome at reached same
      obtain ⟨answer,next,between⟩ := outcome
      dsimp only at reached same
      subst same
      cases answer with
      | error result => exact reached
      | ok accepted =>
        dsimp only
        split
        · exact reached
        · have later := gets (switchGetStatusPath driver.switchId) between
          obtain ⟨network,_,_⟩ := @request_same τ { driver with response := buffer } (switchGetStatusPath driver.switchId) between
          refine trans reached ?_
          generalize request { driver with response := buffer } (switchGetStatusPath driver.switchId) between = outcome
            at network
          obtain ⟨answer,last,final⟩ := outcome
          dsimp only at network
          subst network
          cases answer with
          | error result => exact later
          | ok reported => exact later

section Time

variable {υ : Type} {connected : Surroundings υ} {configuration : ShellyMasterValveConfiguration} {time : υ → UInt64}

/-- Neither the bus nor the network nor reading it turns the clock back. -/
structure Surroundings.Forward (connected : Surroundings υ) (time : υ → UInt64) : Prop where
  write : ∀ registerAddress value surroundings,
    time surroundings ≤ time (connected.i2c.write registerAddress value surroundings).2
  perform : ∀ host port path timeoutMs surroundings,
    time surroundings ≤ time (connected.http.perform host port path timeoutMs surroundings).2
  before : ∀ surroundings, time surroundings ≤ (connected.nowMs surroundings).1
  after : ∀ surroundings, (connected.nowMs surroundings).1 ≤ time (connected.nowMs surroundings).2

def boardTime (time : υ → UInt64) (board : RelayBoard (ValveBus υ)) : UInt64 := time board.bus.surroundings

theorem writeRegister_bus {β : Type} (bus : I2cBus β) (registerAddress value : UInt8) (board : RelayBoard β) :
    (writeRegister bus registerAddress value board).2.bus = (bus.write registerAddress value board.bus).2 := by
  have taken (board : RelayBoard β) : (board.take registerAddress value).bus = board.bus := by
    unfold RelayBoard.take
    split
    · rfl
    · split <;> rfl
  unfold writeRegister
  cases bus.write registerAddress value board.bus with
  | mk outcome next =>
    cases outcome with
    | acknowledged => exact taken _
    | failed effective =>
      cases effective with
      | true => exact taken _
      | false => rfl

section Writes

variable (forward : connected.Forward time)

include forward

theorem writePortA_forward (values : UInt8) (board : RelayBoard (ValveBus υ)) :
    boardTime time board ≤ boardTime time (mcp23017WritePortA connected.i2c.beside values board).2 := by
  rw [boardTime,boardTime,mcp23017WritePortA,writeRegister_bus]
  exact forward.write _ _ _

theorem setOutput_forward (index : Nat) (enabled : Bool) (board : RelayBoard (ValveBus υ)) :
    boardTime time board ≤ boardTime time (irrigationControllerSetOutput connected.i2c.beside index enabled board).2 := by
  have written := writePortA_forward forward (requestedMask board.outputMask index enabled) board
  simp only [irrigationControllerSetOutput]
  split
  · exact UInt64.le_refl _
  · split
    · exact UInt64.le_refl _
    · cases run : mcp23017WritePortA connected.i2c.beside (requestedMask board.outputMask index enabled) board with
      | mk result next =>
        rw [run] at written
        cases result with
        | ok => exact written
        | fail => exact UInt64.le_trans written (writePortA_forward forward 0 { next with outputMask := 0 })

theorem operate_forward (requestedOutput : Bool) (shared : ValveBus υ) :
    time shared.surroundings ≤ time (shared.operate connected configuration requestedOutput).2.surroundings := by
  have gets (path : CString) (surroundings : υ) : time surroundings ≤ time
      (({ boardMasterValveDriver connected configuration with response := shared.response } :
        ShellyMasterValveDriver υ).get path surroundings).2 := by
    change time surroundings ≤ time (((boardMasterValveDriver connected configuration).connected connected.http).get path
      surroundings).2
    rw [connected_get]
    split
    · exact UInt64.le_refl _
    · have performed := forward.perform (boardMasterValveDriver connected configuration).host.toCString
        (boardMasterValveDriver connected configuration).port path
        (boardMasterValveDriver connected configuration).operationTimeoutMs surroundings
      simp only [espAnswer]
      split <;> simp_all
  have reached (requestedOutput : Bool) : time shared.surroundings ≤ time (setAndConfirm
      { boardMasterValveDriver connected configuration with response := shared.response } requestedOutput
      shared.surroundings).2.2 :=
    setAndConfirm_relates (fun before after => time before ≤ time after) (fun _ => UInt64.le_refl _) UInt64.le_trans
      _ gets requestedOutput shared.surroundings
  cases requestedOutput with
  | true => exact reached true
  | false => exact reached false

theorem board_nondecreasing : Nondecreasing (boardDrivers connected configuration) (boardTime time) where
  perform command board := by
    cases command with
    | setOutput index enabled => exact setOutput_forward forward index enabled board
    | openAndConfirm => exact operate_forward forward true board.bus
    | closeAndConfirm => exact operate_forward forward false board.bus
  before board := forward.before board.bus.surroundings
  after board := forward.after board.bus.surroundings

end Writes

/-! ### From power-up on -/

/-- Time passes: nothing but the surroundings changes. -/
structure TimePasses (time : υ → UInt64) (before after : RecordedDevices (RelayBoard (ValveBus υ))) : Prop where
  record : after.record = before.record
  devices : ∃ surroundings, after.devices =
    { before.devices with bus := { before.devices.bus with surroundings } }
  later : boardTime time before.devices ≤ boardTime time after.devices

/-- What holds of the store and the board in every state. -/
structure BoardKept (store : RuntimeState) (timed : RecordedDevices (RelayBoard (ValveBus υ))) : Prop where
  relays : RelaysWithinStore store timed.devices
  delay : DelayHonoured 500 timed.record

variable {σ : Type} {device : Repository.ConfigurationRepositoryStorage σ} {boardZones : List Zone}
  {olata iodira : UInt8} {surroundings : υ} {repository mutex : Bool} {storage next : σ}
  {system : ManagedSystem (RecordedDevices (RelayBoard (ValveBus υ))) σ}
  {steps : List (FirmwareStep (RecordedDevices (RelayBoard (ValveBus υ))))}

/-- Once the boot completed, every state keeps the board, the writes of the initialisation included. -/
theorem boardKept_throughout (library : QueryKeyValue) (forward : connected.Forward time)
    (bootable : Bootable boardZones) (accepted : ConfigurableZones boardZones)
    (completed : Boot.appMain device boardZones (boardPowerUp connected
      (unpowered connected configuration olata iodira surroundings) repository mutex) storage = (.ok system,next))
    (along : Runs.Along (firmwareStep (recordingDrivers (boardDrivers connected configuration) (boardTime time)) device
      library boardZones) (fun step firmware => TimePasses time firmware.system.world.environment step.environment) steps
      ⟨system,0⟩) :
    Runs.Throughout (firmwareStep (recordingDrivers (boardDrivers connected configuration) (boardTime time)) device library
        boardZones) (fun firmware => BoardKept firmware.system.world.store firmware.system.world.environment) steps
      ⟨system,0⟩ := by
  have clock : Nondecreasing (boardDrivers connected configuration) (boardTime time) := board_nondecreasing forward
  have wired : DeviceInvariant (boardDrivers connected configuration) fun store _ board => Wired store board :=
    wired_invariant connected.i2c.beside (shellyDrivers connected configuration)
  have delayed : DeviceInvariant (recordingDrivers (boardDrivers connected configuration) (boardTime time))
      fun store _ timed => Delayed (boardTime time) 500 store timed := delayed_invariant clock
  have holds := ((wired.recorded (boardTime time)).and delayed).powered (TimePasses time) ?_ bootable accepted ?_
    completed library along
  · intro done todo split
    obtain ⟨wired,delayed⟩ := holds done todo split
    exact ⟨wired.relays,delayed.honoured⟩
  · rintro store calls before after ⟨record,⟨surroundings,waited⟩,later⟩ ⟨wired,delayed⟩
    refine ⟨?_,delayed.later record later⟩
    rw [waited]
    exact wired.of_bus wired.invariant rfl _
  · intro switched
    have ready : irrigationControllerInitializeSafeOff connected.i2c.beside
        (unpowered connected configuration olata iodira surroundings) = (.ok,(irrigationControllerInitializeSafeOff
          connected.i2c.beside (unpowered connected configuration olata iodira surroundings)).2) := Prod.ext switched rfl
    obtain ⟨initialized,mask,latch,_⟩ := irrigationControllerInitializeSafeOff_ok connected.i2c.beside ready
    obtain ⟨writes,written,dark⟩ := irrigationControllerInitializeSafeOff_latches connected.i2c.beside ready
    have booted := boot_invariant (boot_of_configurable accepted 500)
    refine ⟨⟨booted,initialized,.inl latch,.inl mask,fun moment member => ?_⟩,rfl,?_,nofun,?_⟩
    · change moment ∈ (irrigationControllerInitializeSafeOff connected.i2c.beside _).2.latches at member
      rw [written] at member
      rw [dark moment member]
      exact atMostOne_zero
    · exact fun watched => by rcases watched with opening | opened <;> contradiction
    · intro earlier timed later split
      simp [boardPowerUp] at split

/-- At power-up the registers hold anything. Whatever fails, the initialisation switches no relay on. Once it
and the boot succeeded, whatever is requested and edited, whichever writes to the registers fail and whatever
the network answers: after no write since power-up two relays are on, and one is on only for an output that the
store does not hold to be off; and it was switched on only when the valve's last command was an open that was
confirmed half a second before. -/
theorem production_board_is_safe (library : QueryKeyValue) (forward : connected.Forward time)
    (bootable : Bootable boardZones) (accepted : ConfigurableZones boardZones) :
    let found := unpowered connected configuration olata iodira surroundings
    let drivers := recordingDrivers (boardDrivers connected configuration) (boardTime time)
    Dimmed found (irrigationControllerInitializeSafeOff connected.i2c.beside found).2 ∧
      ∀ repository mutex storage system next steps,
        Boot.appMain device boardZones (boardPowerUp connected found repository mutex) storage = (.ok system,next) →
        Runs.Along (firmwareStep drivers device library boardZones)
          (fun step firmware => TimePasses time firmware.system.world.environment step.environment) steps ⟨system,0⟩ →
        Runs.Throughout (firmwareStep drivers device library boardZones)
          (fun firmware => BoardKept firmware.system.world.store firmware.system.world.environment) steps ⟨system,0⟩ :=
  ⟨irrigationControllerInitializeSafeOff_dimmed connected.i2c.beside _,
    fun _ _ _ _ _ _ completed along => boardKept_throughout library forward bootable accepted completed along⟩

end Time

/-- A bus that acknowledges everything, and a device that reports its switch to be on. The state is the time. -/
def devSurroundings : Surroundings UInt64 where
  i2c := ⟨fun time => (.ok,time),fun time => (.ok,time),fun _ _ time => (.acknowledged,time)⟩
  http := ⟨fun _ _ _ _ time => (some ⟨[.onData (ascii "\x7b\"output\":true\x7d")],.ok,200⟩,time)⟩
  nowMs := fun time => (time,time)

def devShellyConfiguration : ShellyMasterValveConfiguration := ⟨some (.literal "shelly-master"),80,0,1000⟩

theorem devSurroundings_forward : devSurroundings.Forward id :=
  ⟨fun _ _ _ => UInt64.le_refl _,fun _ _ _ _ _ => UInt64.le_refl _,fun _ => UInt64.le_refl _,fun _ => UInt64.le_refl _⟩

/-- The registers with every relay on, as a restart may find them. -/
def devBoard : RelayBoard (ValveBus UInt64) := unpowered devSurroundings devShellyConfiguration 0xff 0x00 0

def devBoardPowerUp : PowerUp (RecordedDevices (RelayBoard (ValveBus UInt64))) :=
  boardPowerUp devSurroundings devBoard false true

abbrev devBoardDrivers : Drivers (RecordedDevices (RelayBoard (ValveBus UInt64))) :=
  recordingDrivers (boardDrivers devSurroundings devShellyConfiguration) (boardTime id)

/-- Half a second, unless the clock is at its end. -/
def halfSecond (timed : RecordedDevices (RelayBoard (ValveBus UInt64))) : RecordedDevices (RelayBoard (ValveBus UInt64)) :=
  let now := timed.devices.bus.surroundings
  let surroundings := if now ≤ now + 500 then now + 500 else now
  { timed with devices := { timed.devices with bus := { timed.devices.bus with surroundings } } }

theorem halfSecond_passes (timed : RecordedDevices (RelayBoard (ValveBus UInt64))) : TimePasses id timed (halfSecond timed) := by
  refine ⟨rfl,⟨_,rfl⟩,?_⟩
  change timed.devices.bus.surroundings ≤ if _ then _ else _
  split
  · assumption
  · exact UInt64.le_refl _

/-- The firmware after the valve and the first zone were opened. -/
def boardOpened (system : ManagedSystem (RecordedDevices (RelayBoard (ValveBus UInt64))) Repository.SlotContents) :
    Firmware (RecordedDevices (RelayBoard (ValveBus UInt64))) Repository.SlotContents :=
  Runs.after (firmwareStep devBoardDrivers Repository.memoryStorage pairLookup devZones)
    (paced devBoardDrivers Repository.memoryStorage pairLookup devZones halfSecond openingSteps ⟨system,0⟩) ⟨system,0⟩

/-- OLATA after each write of that run. -/
def boardLatches : Option (List UInt8) :=
  match (Boot.appMain Repository.memoryStorage devZones devBoardPowerUp emptySlots).1 with
  | .ok system => some (boardOpened system).system.world.environment.devices.latches
  | .error _ => none

theorem production_board_is_safe_dev : ∃ system next,
    Boot.appMain Repository.memoryStorage devZones devBoardPowerUp emptySlots = (.ok system,next) ∧
    Runs.Throughout (firmwareStep devBoardDrivers Repository.memoryStorage pairLookup devZones)
      (fun firmware => BoardKept firmware.system.world.store firmware.system.world.environment)
      (paced devBoardDrivers Repository.memoryStorage pairLookup devZones halfSecond openingSteps ⟨system,0⟩) ⟨system,0⟩ ∧
    (boardOpened system).system.world.environment.devices.latches = [0,0,0,1] := by
  have switched : devBoardPowerUp.safeOff = .ok := by decide +kernel
  have mutex : devBoardPowerUp.mutex = true := by decide +kernel
  have closed : devBoardPowerUp.repository = false := by decide +kernel
  obtain ⟨system,next,completed⟩ := boots_detached devZones_bootable devZones_configurable Repository.memoryStorage
    emptySlots switched mutex closed
  have latches : boardLatches = some [0,0,0,1] := by decide +kernel
  rw [boardLatches,completed] at latches
  exact ⟨system,next,completed,(production_board_is_safe pairLookup devSurroundings_forward devZones_bootable
    devZones_configurable).2 _ _ _ _ _ _ completed (paced_along _ _ _ _ halfSecond_passes _ _),Option.some.inj latches⟩

end Irrigation
