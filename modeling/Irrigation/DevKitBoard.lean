import Irrigation.PoweredDevices
import Irrigation.RelayDriver
import Irrigation.StoreSafety
import Irrigation.ValvePositions

/-! The development kit's board: outputs and master valve on pins of the controller itself, from power-up on.
The outputs' driver stores nothing and reads nothing back, the valve's driver reads its pin after each command. -/
namespace Irrigation

/-! ### Drivers -/

inductive GpioMode where
  | output | inputOutput
  deriving DecidableEq, Repr

/-- The pins' library over an arbitrary state. -/
structure Gpio (γ : Type) where
  resetPin : Nat → γ → EspErr × γ
  setDirection : Nat → GpioMode → γ → EspErr × γ
  setLevel : Nat → Bool → γ → EspErr × γ
  getLevel : Nat → γ → Bool

def zonePins : Vector Nat irrigationLocalOutputCount := #v[16,17,18,19,21,22,23,25]

def zonePin (index : Fin irrigationMaxOutputs) : Nat := zonePins.get index

def devKitMasterValveGpio : Nat := 26

section Driver

variable {γ : Type} (gpio : Gpio γ)

def configureOutput (outputIndex : Nat) (enabled : Bool) (pins : γ) : IrrigationResult × γ :=
  if inside : outputIndex < irrigationLocalOutputCount then
    let (set,pins) := gpio.setLevel (zonePin ⟨outputIndex,inside⟩) enabled pins
    (if set = .ok then .ok else .internalError,pins)
  else (.notFound,pins)

/-- One turn of the loop in `dev_kit_initialize_safe_off`. -/
def initializeOff (index : Fin irrigationMaxOutputs) (pins : γ) : IrrigationResult × γ :=
  match gpio.resetPin (zonePin index) pins with
  | (.fail,pins) => (.internalError,pins)
  | (.ok,pins) =>
    match gpio.setDirection (zonePin index) .output pins with
    | (.fail,pins) => (.internalError,pins)
    | (.ok,pins) =>
      match configureOutput gpio index false pins with
      | (.ok,pins) => (.ok,pins)
      | (_,pins) => (.internalError,pins)

def initializeEach : List (Fin irrigationMaxOutputs) → γ → IrrigationResult × γ
  | [],pins => (.ok,pins)
  | index :: rest,pins =>
    match initializeOff gpio index pins with
    | (.ok,pins) => initializeEach rest pins
    | (result,pins) => (result,pins)

def devKitInitializeSafeOff (pins : γ) : IrrigationResult × γ := initializeEach gpio (List.finRange irrigationMaxOutputs) pins

def devKitSetOutput (outputIndex : Nat) (enabled : Bool) (pins : γ) : IrrigationResult × γ :=
  configureOutput gpio outputIndex enabled pins

def setMasterValve (enabled : Bool) (pins : γ) : IrrigationResult × γ :=
  let (set,pins) := gpio.setLevel devKitMasterValveGpio enabled pins
  (if set = .ok ∧ gpio.getLevel devKitMasterValveGpio pins = enabled then .ok else .internalError,pins)

def devKitOpenAndConfirm (pins : γ) : IrrigationResult × γ := setMasterValve gpio true pins

def devKitCloseAndConfirm (pins : γ) : IrrigationResult × γ := setMasterValve gpio false pins

/-- The results of all three calls are dropped. -/
def devKitMasterValveDriverInit (pins : γ) : γ :=
  let (_,pins) := gpio.resetPin devKitMasterValveGpio pins
  let (_,pins) := gpio.setDirection devKitMasterValveGpio .inputOutput pins
  (setMasterValve gpio false pins).2

/-- What the services see of the board. -/
def devKitDrivers (nowMs : γ → UInt64 × γ) : Drivers γ where
  perform := fun command pins => match command with
    | .setOutput index enabled => devKitSetOutput gpio index enabled pins
    | .openAndConfirm => devKitOpenAndConfirm gpio pins
    | .closeAndConfirm => devKitCloseAndConfirm gpio pins
  nowMs := nowMs

/-- What `app_main` finds once it initialised the outputs, and then the driver of the valve. -/
def devKitPowerUp (pins : γ) (repository mutex : Bool) : PowerUp (RecordedDevices γ) :=
  let (safeOff,ready) := devKitInitializeSafeOff gpio pins
  ⟨safeOff,⟨devKitMasterValveDriverInit gpio ready,[]⟩,repository,mutex⟩

end Driver

theorem zonePin_injective : ∀ first second : Fin irrigationMaxOutputs, zonePin first = zonePin second → first = second := by
  decide

theorem zonePin_ne_valve : ∀ index : Fin irrigationMaxOutputs, zonePin index ≠ devKitMasterValveGpio := by decide

/-! ### Pads -/

/-- The levels on the pads, and what each pin is configured for; a pin that was reset is for nothing. -/
structure Pads (γ : Type) where
  level : Nat → γ → Bool
  mode : Nat → γ → Option GpioMode

section Pads

variable {γ : Type}

/-- Nothing but this pin changed. -/
def Pads.SameBut (pads : Pads γ) (pin : Nat) (before after : γ) : Prop :=
  ∀ other, other ≠ pin → pads.level other after = pads.level other before ∧ pads.mode other after = pads.mode other before

/-- What the library does to the pads. A call that fails may have done anything to its own pin, and a
pin that is not for input reads as low. -/
structure Gpio.Behaves (gpio : Gpio γ) (nowMs : γ → UInt64 × γ) (pads : Pads γ) : Prop where
  reset : ∀ pin pins, pads.SameBut pin pins (gpio.resetPin pin pins).2
  direction : ∀ pin mode pins, pads.SameBut pin pins (gpio.setDirection pin mode pins).2
  directed : ∀ pin mode pins, (gpio.setDirection pin mode pins).1 = .ok →
    pads.mode pin (gpio.setDirection pin mode pins).2 = some mode
  set : ∀ pin enabled pins, pads.SameBut pin pins (gpio.setLevel pin enabled pins).2
  stays : ∀ pin enabled pins, pads.mode pin (gpio.setLevel pin enabled pins).2 = pads.mode pin pins
  driven : ∀ pin enabled pins, pads.mode pin pins ≠ none → (gpio.setLevel pin enabled pins).1 = .ok →
    pads.level pin (gpio.setLevel pin enabled pins).2 = enabled
  reads : ∀ pin pins, gpio.getLevel pin pins = (decide (pads.mode pin pins = some .inputOutput) && pads.level pin pins)
  clock : ∀ pin pins, pads.level pin (nowMs pins).2 = pads.level pin pins ∧
    pads.mode pin (nowMs pins).2 = pads.mode pin pins

/-- Neither a command nor reading it turns the clock back. -/
structure Gpio.Forward (gpio : Gpio γ) (nowMs : γ → UInt64 × γ) (time : γ → UInt64) : Prop where
  set : ∀ pin enabled pins, time pins ≤ time (gpio.setLevel pin enabled pins).2
  before : ∀ pins, time pins ≤ (nowMs pins).1
  after : ∀ pins, (nowMs pins).1 ≤ time (nowMs pins).2

/-- No pin was configured anew, and no level but that of this pin changed. -/
structure Touched (pads : Pads γ) (pin : Nat) (before after : γ) : Prop where
  modes : ∀ other, pads.mode other after = pads.mode other before
  levels : ∀ other, other ≠ pin → pads.level other after = pads.level other before

def DriverCommand.pin : DriverCommand → Nat
  | .setOutput index _ => zonePin index
  | .openAndConfirm | .closeAndConfirm => devKitMasterValveGpio

def DriverCommand.enabled : DriverCommand → Bool
  | .setOutput _ enabled => enabled
  | .openAndConfirm => true
  | .closeAndConfirm => false

variable {gpio : Gpio γ} {nowMs : γ → UInt64 × γ} {pads : Pads γ} {pin : Nat} {before middle after pins : γ}

theorem Touched.trans (first : Touched pads pin before middle) (second : Touched pads pin middle after) :
    Touched pads pin before after :=
  ⟨fun other => (second.modes other).trans (first.modes other),
    fun other apart => (second.levels other apart).trans (first.levels other apart)⟩

theorem configureOutput_eq (index : Fin irrigationMaxOutputs) (enabled : Bool) (pins : γ) :
    configureOutput gpio index enabled pins = (if (gpio.setLevel (zonePin index) enabled pins).1 = .ok then .ok
      else .internalError,(gpio.setLevel (zonePin index) enabled pins).2) := by
  rw [configureOutput,dif_pos (show index.val < irrigationLocalOutputCount from index.isLt)]

theorem configureOutput_ok {index : Fin irrigationMaxOutputs} {enabled : Bool}
    (switched : (configureOutput gpio index enabled pins).1 = .ok) :
    (gpio.setLevel (zonePin index) enabled pins).1 = .ok := by
  rw [configureOutput_eq] at switched
  by_contra failed
  rw [if_neg failed] at switched
  contradiction

theorem setMasterValve_ok {enabled : Bool} (confirmed : (setMasterValve gpio enabled pins).1 = .ok) :
    (gpio.setLevel devKitMasterValveGpio enabled pins).1 = .ok ∧
      gpio.getLevel devKitMasterValveGpio (setMasterValve gpio enabled pins).2 = enabled := by
  by_contra neither
  have refused : (setMasterValve gpio enabled pins).1 = .internalError := if_neg neither
  rw [refused] at confirmed
  contradiction

/-- A command sets the level of its pin, and succeeds only if that does. -/
theorem devKit_perform (gpio : Gpio γ) (nowMs : γ → UInt64 × γ) (command : DriverCommand) (pins : γ) :
    ((devKitDrivers gpio nowMs).perform command pins).2 = (gpio.setLevel command.pin command.enabled pins).2 ∧
      (((devKitDrivers gpio nowMs).perform command pins).1 = .ok →
        (gpio.setLevel command.pin command.enabled pins).1 = .ok) := by
  cases command with
  | setOutput index enabled =>
    refine ⟨?_,fun switched => configureOutput_ok switched⟩
    change (configureOutput gpio index enabled pins).2 = _
    rw [configureOutput_eq]
    rfl
  | openAndConfirm => exact ⟨rfl,fun confirmed => (setMasterValve_ok confirmed).1⟩
  | closeAndConfirm => exact ⟨rfl,fun confirmed => (setMasterValve_ok confirmed).1⟩

section Behaves

variable (behaves : gpio.Behaves nowMs pads)

include behaves

theorem Gpio.Behaves.touches (pin : Nat) (enabled : Bool) (pins : γ) :
    Touched pads pin pins (gpio.setLevel pin enabled pins).2 := by
  refine ⟨fun other => ?_,fun other apart => (behaves.set pin enabled pins other apart).1⟩
  by_cases same : other = pin
  · rw [same]
    exact behaves.stays pin enabled pins
  · exact (behaves.set pin enabled pins other same).2

theorem Gpio.Behaves.performs (command : DriverCommand) (pins : γ) :
    Touched pads command.pin pins ((devKitDrivers gpio nowMs).perform command pins).2 := by
  rw [(devKit_perform gpio nowMs command pins).1]
  exact behaves.touches _ _ _

theorem Gpio.Behaves.ticks (ticks : Ticks (devKitDrivers gpio nowMs) before after) (pin : Nat) :
    pads.level pin after = pads.level pin before ∧ pads.mode pin after = pads.mode pin before := by
  refine ticks.keep (fun pins => pads.level pin pins = pads.level pin before ∧ pads.mode pin pins = pads.mode pin before)
    (fun pins same => ?_) ⟨rfl,rfl⟩
  obtain ⟨level,mode⟩ := behaves.clock pin pins
  exact ⟨level.trans same.1,mode.trans same.2⟩

theorem Gpio.Behaves.waited (ticks : Ticks (devKitDrivers gpio nowMs) before after) (pin : Nat) :
    Touched pads pin before after :=
  ⟨fun other => (behaves.ticks ticks other).2,fun other _ => (behaves.ticks ticks other).1⟩

/-- Commands to one pin touch no other. -/
theorem Gpio.Behaves.drives {issued : List DriverCall} (drives : Driven (devKitDrivers gpio nowMs) before issued after)
    (same : ∀ call ∈ issued, call.command.pin = pin) : Touched pads pin before after := by
  induction issued generalizing before with
  | nil => exact behaves.waited drives pin
  | cons call rest ih =>
    obtain ⟨reached,waits,_,later⟩ := drives
    have performed := behaves.performs call.command reached
    rw [same call (by simp)] at performed
    exact ((behaves.waited waits pin).trans performed).trans (ih later fun other member => same other (by simp [member]))

/-- An off command that succeeds leaves its pin low. -/
theorem Gpio.Behaves.off {index : Fin irrigationMaxOutputs}
    (drives : Driven (devKitDrivers gpio nowMs) before [⟨.setOutput index false,.ok⟩] after)
    (output : pads.mode (zonePin index) before ≠ none) : pads.level (zonePin index) after = false := by
  obtain ⟨reached,waits,answered,later⟩ := drives
  obtain ⟨performed,succeeds⟩ := devKit_perform gpio nowMs (.setOutput index false) reached
  rw [← (behaves.ticks waits (zonePin index)).2] at output
  rw [(behaves.ticks later (zonePin index)).1,performed]
  exact behaves.driven (zonePin index) false reached output (succeeds answered)

end Behaves

/-! ### Outputs -/

/-- A pin that is high belongs to an output that the store does not hold to be off. -/
structure Pinned (pads : Pads γ) (store : RuntimeState) (pins : γ) : Prop where
  invariant : Invariant store
  outputs : ∀ index, pads.mode (zonePin index) pins ≠ none
  within : ∀ index, pads.level (zonePin index) pins = true → store.outputStates index ≠ .off

variable {store next : RuntimeState}

theorem Pinned.touched (index : Fin irrigationMaxOutputs) (pinned : Pinned pads store before) (invariant : Invariant next)
    (touched : Touched pads (zonePin index) before after)
    (others : ∀ other, other ≠ index → next.outputStates other = store.outputStates other)
    (own : pads.level (zonePin index) after = true → next.outputStates index ≠ .off) : Pinned pads next after := by
  refine ⟨invariant,fun other => ?_,fun other high => ?_⟩
  · rw [touched.modes]
    exact pinned.outputs other
  · by_cases same : other = index
    · subst same
      exact own high
    · rw [touched.levels _ fun pin => same (zonePin_injective other index pin)] at high
      rw [others other same]
      exact pinned.within other high

/-- The valve's pin is none of the outputs'. -/
theorem Pinned.beside (pinned : Pinned pads store before) (invariant : Invariant next)
    (touched : Touched pads devKitMasterValveGpio before after) (outputs : next.outputStates = store.outputStates) :
    Pinned pads next after := by
  refine ⟨invariant,fun other => ?_,fun other high => ?_⟩
  · rw [touched.modes]
    exact pinned.outputs other
  · rw [touched.levels _ (zonePin_ne_valve other)] at high
    rw [outputs]
    exact pinned.within other high

theorem pinned_invariant (behaves : gpio.Behaves nowMs pads) :
    DeviceInvariant (devKitDrivers gpio nowMs) fun store _ pins => Pinned pads store pins where
  zoneOpening pinned opening driven := by
    have invariant := pinned.invariant.zoneOpening opening
    cases opening with
    | refused => exact pinned.beside invariant (behaves.waited driven _) rfl
    | @opened id zone named openable =>
      refine Pinned.touched zone.outputIndex pinned invariant (behaves.drives driven (by simp [DriverCommand.pin])) ?_ ?_
      · exact fun other apart => Function.update_of_ne apart _ _
      · simp [openedZone]
    | @failed id zone named openable failure notOk safeOff =>
      have touched : Touched pads (zonePin zone.outputIndex) _ _ := behaves.drives driven (by simp [DriverCommand.pin])
      refine Pinned.touched zone.outputIndex pinned invariant touched (fun other apart => Function.update_of_ne apart _ _)
        fun high => ?_
      obtain ⟨reached,waits,_,later⟩ := driven
      -- only an off command that succeeded lets the store take the output to be off
      by_cases safe : safeOff = .ok
      · subst safe
        have output := ((behaves.waited waits (zonePin zone.outputIndex)).trans
          (behaves.performs (.setOutput zone.outputIndex true) reached)).modes (zonePin zone.outputIndex)
        have low := behaves.off later (output ▸ pinned.outputs zone.outputIndex)
        exact absurd (low.symm.trans high) (by decide)
      · simp [faultedZone,safe]
  zoneClosing pinned closing driven := by
    have invariant := pinned.invariant.zoneClosing closing
    cases closing with
    | refused => exact pinned.beside invariant (behaves.waited driven _) rfl
    | @closed id zone named closable =>
      refine Pinned.touched zone.outputIndex pinned invariant (behaves.drives driven (by simp [DriverCommand.pin])) ?_ ?_
      · intro other apart
        rw [closedZone_outputStates]
        exact Function.update_of_ne apart _ _
      · intro high
        have low := behaves.off driven (pinned.outputs zone.outputIndex)
        exact absurd (low.symm.trans high) (by decide)
    | @failed id zone named closable failure notOk =>
      refine Pinned.touched zone.outputIndex pinned invariant (behaves.drives driven (by simp [DriverCommand.pin])) ?_ ?_
      · exact fun other apart => Function.update_of_ne apart _ _
      · simp [faultedZone]
  masterOpened pinned idle answered reading := by
    have opened := (congrArg Prod.snd answered).symm
    have read := (congrArg Prod.snd reading).symm
    subst read opened
    exact pinned.beside (pinned.invariant.masterOpening (.opening idle _))
      ((behaves.performs .openAndConfirm _).trans (behaves.waited (Ticks.single _) _)) rfl
  masterUnopened pinned idle answered notOk := by
    have failed := (congrArg Prod.snd answered).symm
    subst failed
    exact pinned.beside (pinned.invariant.masterOpening (.failed idle notOk)) (behaves.performs .openAndConfirm _) rfl
  masterTimed pinned opening reading := by
    have read := (congrArg Prod.snd reading).symm
    subst read
    exact pinned.beside (pinned.invariant.masterTimed _) (behaves.waited (Ticks.single _) _) (masterTimed_outputStates _ _)
  masterClosing pinned closing driven := by
    have invariant := pinned.invariant.masterClosing closing
    cases closing with
    | refused => exact pinned.beside invariant (behaves.waited driven _) rfl
    | closed => exact pinned.beside invariant (behaves.drives driven (by simp [DriverCommand.pin])) rfl
    | failed => exact pinned.beside invariant (behaves.drives driven (by simp [DriverCommand.pin])) rfl
  program program scheduler pinned := ⟨pinned.invariant.program program scheduler,pinned.outputs,pinned.within⟩
  tick pinned := pinned.beside pinned.invariant (behaves.waited (Ticks.single _) _) rfl

/-! ### Initialisation -/

/-- The pin of an output, configured and low. -/
structure Dark (pads : Pads γ) (pins : γ) (index : Fin irrigationMaxOutputs) : Prop where
  output : pads.mode (zonePin index) pins ≠ none
  low : pads.level (zonePin index) pins = false

theorem Pads.SameBut.trans (first : pads.SameBut pin before middle) (second : pads.SameBut pin middle after) :
    pads.SameBut pin before after := fun other apart =>
  ⟨(second other apart).1.trans (first other apart).1,(second other apart).2.trans (first other apart).2⟩

theorem Dark.beside {index : Fin irrigationMaxOutputs} (dark : Dark pads before index) (same : pads.SameBut pin before after)
    (apart : zonePin index ≠ pin) : Dark pads after index := by
  obtain ⟨level,mode⟩ := same (zonePin index) apart
  exact ⟨mode ▸ dark.output,level.trans dark.low⟩

section Initialising

variable (behaves : gpio.Behaves nowMs pads)

include behaves

theorem initializeOff_ok {index : Fin irrigationMaxOutputs} (run : initializeOff gpio index pins = (.ok,after)) :
    Dark pads after index ∧ pads.SameBut (zonePin index) pins after := by
  have cleared := behaves.reset (zonePin index) pins
  unfold initializeOff at run
  generalize gpio.resetPin (zonePin index) pins = reset at run cleared
  obtain ⟨result,next⟩ := reset
  cases result with
  | fail => cases run
  | ok =>
    have directed := behaves.directed (zonePin index) .output next
    have turned := behaves.direction (zonePin index) .output next
    dsimp only at run cleared
    generalize gpio.setDirection (zonePin index) .output next = direction at run directed turned
    obtain ⟨result,last⟩ := direction
    cases result with
    | fail => cases run
    | ok =>
      have output : pads.mode (zonePin index) last ≠ none := by simp [directed rfl]
      simp only [configureOutput_eq] at run
      by_cases set : (gpio.setLevel (zonePin index) false last).1 = .ok
      · rw [if_pos set] at run
        obtain rfl : (gpio.setLevel (zonePin index) false last).2 = after := congrArg Prod.snd run
        refine ⟨⟨?_,behaves.driven _ _ _ output set⟩,(cleared.trans turned).trans (behaves.set _ _ _)⟩
        rw [behaves.stays]
        exact output
      · rw [if_neg set] at run
        cases run

theorem initializeEach_ok {indices : List (Fin irrigationMaxOutputs)} (run : initializeEach gpio indices pins = (.ok,after))
    (index : Fin irrigationMaxOutputs) (covered : Dark pads pins index ∨ index ∈ indices) : Dark pads after index := by
  induction indices generalizing pins with
  | nil =>
    cases run
    exact covered.resolve_right List.not_mem_nil
  | cons head rest ih =>
    unfold initializeEach at run
    cases first : initializeOff gpio head pins with
    | mk result next =>
      rw [first] at run
      cases result with
      | ok =>
        obtain ⟨dark,same⟩ := initializeOff_ok behaves first
        refine ih run ?_
        by_cases own : index = head
        · subst own
          exact .inl dark
        · rcases covered with before | member
          · exact .inl (before.beside same fun pin => own (zonePin_injective index head pin))
          · exact .inr ((List.mem_cons.mp member).resolve_left own)
      | _ => cases run

theorem devKitMasterValveDriverInit_beside (pins : γ) :
    pads.SameBut devKitMasterValveGpio pins (devKitMasterValveDriverInit gpio pins) :=
  ((behaves.reset _ pins).trans (behaves.direction _ .inputOutput _)).trans (behaves.set _ false _)

end Initialising

/-! ### The valve -/

/-- What the driver of the valve reads. -/
def shownPosition (gpio : Gpio γ) (pins : γ) : ValvePosition :=
  if gpio.getLevel devKitMasterValveGpio pins then .open else .closed

section Valve

variable (behaves : gpio.Behaves nowMs pads)

include behaves

theorem shownPosition_same (level : pads.level devKitMasterValveGpio after = pads.level devKitMasterValveGpio before)
    (mode : pads.mode devKitMasterValveGpio after = pads.mode devKitMasterValveGpio before) :
    shownPosition gpio after = shownPosition gpio before := by
  simp only [shownPosition,behaves.reads,level,mode]

theorem devKit_positioned : Positioned (devKitDrivers gpio nowMs) (shownPosition gpio) where
  opens pins confirmed := if_pos (setMasterValve_ok confirmed).2
  closes pins confirmed := if_neg (by
    have low : gpio.getLevel devKitMasterValveGpio (setMasterValve gpio false pins).2 = false :=
      (setMasterValve_ok confirmed).2
    exact fun high => absurd (low.symm.trans high) (by decide))
  outputs index enabled pins := by
    have touched := behaves.performs (.setOutput index enabled) pins
    exact shownPosition_same behaves (touched.levels _ (zonePin_ne_valve index).symm) (touched.modes _)
  clock pins := shownPosition_same behaves (behaves.clock _ pins).1 (behaves.clock _ pins).2

/-- Once the valve's pin is for input, what it shows is what is on the pad. -/
theorem shownPosition_closed_iff (listens : pads.mode devKitMasterValveGpio pins = some .inputOutput) :
    shownPosition gpio pins = .closed ↔ pads.level devKitMasterValveGpio pins = false := by
  cases level : pads.level devKitMasterValveGpio pins <;> simp [shownPosition,behaves.reads,listens,level]

theorem devKitMasterValveDriverInit_listens (pins : γ)
    (directed : (gpio.setDirection devKitMasterValveGpio .inputOutput (gpio.resetPin devKitMasterValveGpio pins).2).1 = .ok) :
    pads.mode devKitMasterValveGpio (devKitMasterValveDriverInit gpio pins) = some .inputOutput :=
  (behaves.stays _ _ _).trans (behaves.directed _ _ _ directed)

end Valve

/-! ### From power-up on -/

variable {time : γ → UInt64}

theorem devKit_nondecreasing (forward : gpio.Forward nowMs time) : Nondecreasing (devKitDrivers gpio nowMs) time where
  perform command pins := by
    rw [(devKit_perform gpio nowMs command pins).1]
    exact forward.set _ _ _
  before := forward.before
  after := forward.after

/-- Time passes, and every pin stays as it is. -/
structure PinsStay (pads : Pads γ) (time : γ → UInt64) (before after : RecordedDevices γ) : Prop where
  record : after.record = before.record
  levels : ∀ pin, pads.level pin after.devices = pads.level pin before.devices
  modes : ∀ pin, pads.mode pin after.devices = pads.mode pin before.devices
  later : time before.devices ≤ time after.devices

/-- What holds of the store and the pins of the outputs in every state. -/
structure DevKitKept (pads : Pads γ) (store : RuntimeState) (timed : RecordedDevices γ) : Prop where
  within : ∀ index, pads.level (zonePin index) timed.devices = true → store.outputStates index ≠ .off
  single : ∀ first second, pads.level (zonePin first) timed.devices = true →
    pads.level (zonePin second) timed.devices = true → first = second
  delay : DelayHonoured 500 timed.record

section Powered

variable {σ : Type} {device : Repository.ConfigurationRepositoryStorage σ} {boardZones : List Zone} {repository mutex : Bool}
  {storage next : σ} {system : ManagedSystem (RecordedDevices γ) σ} {steps : List (FirmwareStep (RecordedDevices γ))}

/-- From power-up on, whatever is requested and edited and whichever calls to the pins fail: at most one
output's pin is high, and only that of an output that the store does not hold to be off; and it was set only
when the valve's last command was an open that was confirmed half a second before. -/
theorem dev_kit_board_is_safe (library : QueryKeyValue) (behaves : gpio.Behaves nowMs pads)
    (forward : gpio.Forward nowMs time) (bootable : Bootable boardZones) (accepted : ConfigurableZones boardZones)
    (completed : Boot.appMain device boardZones (devKitPowerUp gpio pins repository mutex) storage = (.ok system,next))
    (along : Runs.Along (firmwareStep (recordingDrivers (devKitDrivers gpio nowMs) time) device library boardZones)
      (fun step firmware => PinsStay pads time firmware.system.world.environment step.environment) steps ⟨system,0⟩) :
    Runs.Throughout (firmwareStep (recordingDrivers (devKitDrivers gpio nowMs) time) device library boardZones)
      (fun firmware => DevKitKept pads firmware.system.world.store firmware.system.world.environment) steps ⟨system,0⟩ := by
  have clock : Nondecreasing (devKitDrivers gpio nowMs) time := devKit_nondecreasing forward
  have delayed : DeviceInvariant (recordingDrivers (devKitDrivers gpio nowMs) time)
      fun store _ timed => Delayed time 500 store timed := delayed_invariant clock
  have holds := (((pinned_invariant behaves).recorded time).and delayed).powered (PinsStay pads time) ?_ bootable accepted
    ?_ completed library along
  · intro done todo split
    obtain ⟨pinned,delayed⟩ := holds done todo split
    refine ⟨pinned.within,fun first second one other => ?_,delayed.honoured⟩
    exact pinned.invariant.safe.single first second (pinned.within first one) (pinned.within second other)
  · rintro store calls before after stays ⟨pinned,delayed⟩
    refine ⟨⟨pinned.invariant,fun index => ?_,fun index high => ?_⟩,delayed.later stays.record stays.later⟩
    · rw [stays.modes]
      exact pinned.outputs index
    · rw [stays.levels] at high
      exact pinned.within index high
  · intro switched
    have ready : devKitInitializeSafeOff gpio pins = (.ok,(devKitInitializeSafeOff gpio pins).2) := Prod.ext switched rfl
    have dark (index : Fin irrigationMaxOutputs) :
        Dark pads (devKitMasterValveDriverInit gpio (devKitInitializeSafeOff gpio pins).2) index :=
      (initializeEach_ok behaves ready index (.inr (List.mem_finRange index))).beside
        (devKitMasterValveDriverInit_beside behaves _) (zonePin_ne_valve index)
    have booted := boot_invariant (boot_of_configurable accepted 500)
    refine ⟨⟨booted,fun index => (dark index).output,fun index high => ?_⟩,rfl,?_,nofun,?_⟩
    · exact absurd ((dark index).low.symm.trans high) (by decide)
    · exact fun watched => by rcases watched with opening | opened <;> contradiction
    · intro earlier timed later split
      simp [devKitPowerUp] at split

/-- The store's CLOSED is the pad's, in every state of every run from power-up on, exactly when the pad was low
once the driver of the valve was initialised, which nobody looks at. -/
theorem dev_kit_valve_closed_iff (library : QueryKeyValue) (behaves : gpio.Behaves nowMs pads)
    (bootable : Bootable boardZones) (accepted : ConfigurableZones boardZones)
    (directed : (gpio.setDirection devKitMasterValveGpio .inputOutput
      (gpio.resetPin devKitMasterValveGpio (devKitInitializeSafeOff gpio pins).2).2).1 = .ok)
    (completed : Boot.appMain device boardZones (devKitPowerUp gpio pins repository mutex) storage = (.ok system,next)) :
    (∀ steps, Runs.Along (firmwareStep (recordingDrivers (devKitDrivers gpio nowMs) time) device library boardZones)
        (fun step firmware => PinsStay pads time firmware.system.world.environment step.environment) steps ⟨system,0⟩ →
      Runs.Throughout (firmwareStep (recordingDrivers (devKitDrivers gpio nowMs) time) device library boardZones)
        (fun firmware => firmware.system.world.store.masterValve.state = .closed →
          pads.level devKitMasterValveGpio firmware.system.world.environment.devices = false) steps ⟨system,0⟩) ↔
      pads.level devKitMasterValveGpio (devKitMasterValveDriverInit gpio (devKitInitializeSafeOff gpio pins).2) = false := by
  have listens := devKitMasterValveDriverInit_listens behaves (devKitInitializeSafeOff gpio pins).2 directed
  obtain ⟨_,environment,closed⟩ := booted_devices bootable accepted completed
  constructor
  · intro truly
    have low := truly [] trivial [] [] rfl closed
    rw [Runs.after_nil,environment] at low
    exact low
  · intro low steps along
    -- the answers of the driver follow what it reads, which is the pad as long as the pin is for input
    have listening : DeviceInvariant (devKitDrivers gpio nowMs)
        fun _ _ pins => pads.mode devKitMasterValveGpio pins = some .inputOutput :=
      .ofDevices (fun command pins listens => ((behaves.performs command pins).modes _).trans listens)
        fun pins listens => (behaves.clock _ pins).2.trans listens
    have holds := (((closedTruly_invariant (devKit_positioned behaves)).recorded time).and (listening.recorded time)).powered
      (PinsStay pads time) ?_ bootable accepted ?_ completed library along
    · intro done todo split isClosed
      obtain ⟨truly,listens⟩ := holds done todo split
      exact (shownPosition_closed_iff behaves listens).mp (truly isClosed)
    · rintro store calls before after stays ⟨truly,listens⟩
      refine ⟨fun isClosed => ?_,(stays.modes _).trans listens⟩
      exact (shownPosition_same behaves (stays.levels _) (stays.modes _)).trans (truly isClosed)
    · exact fun _ => ⟨fun _ => (shownPosition_closed_iff behaves listens).mpr low,listens⟩

end Powered

end Pads

/-! ### Obedient pins -/

/-- Pins that do what they are told. The state is the time with what is configured and high. -/
structure DevPins where
  now : UInt64
  modes : Nat → Option GpioMode
  levels : Nat → Bool

def devGpio : Gpio DevPins where
  resetPin pin pins := (.ok,{ pins with modes := Function.update pins.modes pin none })
  setDirection pin mode pins := (.ok,{ pins with modes := Function.update pins.modes pin (some mode) })
  setLevel pin enabled pins := (.ok,{ pins with levels := Function.update pins.levels pin enabled })
  getLevel pin pins := decide (pins.modes pin = some .inputOutput) && pins.levels pin

def devPads : Pads DevPins := ⟨fun pin pins => pins.levels pin,fun pin pins => pins.modes pin⟩

def devNowMs (pins : DevPins) : UInt64 × DevPins := (pins.now,pins)

theorem devGpio_behaves : devGpio.Behaves devNowMs devPads where
  reset _ _ _ apart := ⟨rfl,Function.update_of_ne apart _ _⟩
  direction _ _ _ _ apart := ⟨rfl,Function.update_of_ne apart _ _⟩
  directed _ _ _ _ := Function.update_self ..
  set _ _ _ _ apart := ⟨Function.update_of_ne apart _ _,rfl⟩
  stays _ _ _ := rfl
  driven _ _ _ _ _ := Function.update_self ..
  reads _ _ := rfl
  clock _ _ := ⟨rfl,rfl⟩

theorem devGpio_forward : devGpio.Forward devNowMs DevPins.now :=
  ⟨fun _ _ _ => UInt64.le_refl _,fun _ => UInt64.le_refl _,fun _ => UInt64.le_refl _⟩

/-- Pins that were all high before power-up. -/
def highPins : DevPins := ⟨0,fun _ => none,fun _ => true⟩

def devKitFound : PowerUp (RecordedDevices DevPins) := devKitPowerUp devGpio highPins false true

theorem devKit_boots : ∃ system next,
    Boot.appMain Repository.memoryStorage devZones devKitFound emptySlots = (.ok system,next) :=
  boots_detached devZones_bootable devZones_configurable Repository.memoryStorage emptySlots (by decide) rfl rfl

abbrev devPinsDrivers : Drivers (RecordedDevices DevPins) := recordingDrivers (devKitDrivers devGpio devNowMs) DevPins.now

/-- Half a second for the pins, unless the clock is at its end. -/
def pinsWait (timed : RecordedDevices DevPins) : RecordedDevices DevPins :=
  let now := timed.devices.now
  { timed with devices := { timed.devices with now := if now ≤ now + 500 then now + 500 else now } }

theorem pinsWait_stays (timed : RecordedDevices DevPins) : PinsStay devPads DevPins.now timed (pinsWait timed) := by
  refine ⟨rfl,fun _ => rfl,fun _ => rfl,?_⟩
  change timed.devices.now ≤ if _ then _ else _
  split
  · assumption
  · exact UInt64.le_refl _

/-- The firmware after the valve and the first zone were opened. -/
def pinsOpened (system : ManagedSystem (RecordedDevices DevPins) Repository.SlotContents) :
    Firmware (RecordedDevices DevPins) Repository.SlotContents :=
  Runs.after (firmwareStep devPinsDrivers Repository.memoryStorage pairLookup devZones)
    (paced devPinsDrivers Repository.memoryStorage pairLookup devZones pinsWait openingSteps ⟨system,0⟩) ⟨system,0⟩

/-- The outputs' pins that are high then, and whether that of the valve is. -/
def highThen (system : ManagedSystem (RecordedDevices DevPins) Repository.SlotContents) : List Nat × Bool :=
  let pins := (pinsOpened system).system.world.environment.devices
  ((List.finRange irrigationMaxOutputs).filterMap fun index => if pins.levels (zonePin index) then some (zonePin index) else none,
    pins.levels devKitMasterValveGpio)

theorem devKit_opens : ((Boot.appMain Repository.memoryStorage devZones devKitFound emptySlots).1.toOption.map highThen) =
    some ([16],true) := by decide +kernel

theorem dev_kit_board_is_safe_dev : ∃ system next,
    Boot.appMain Repository.memoryStorage devZones devKitFound emptySlots = (.ok system,next) ∧
    Runs.Throughout (firmwareStep devPinsDrivers Repository.memoryStorage pairLookup devZones)
      (fun firmware => DevKitKept devPads firmware.system.world.store firmware.system.world.environment)
      (paced devPinsDrivers Repository.memoryStorage pairLookup devZones pinsWait openingSteps ⟨system,0⟩) ⟨system,0⟩ ∧
    highThen system = ([16],true) := by
  obtain ⟨system,next,completed⟩ := devKit_boots
  have opened := devKit_opens
  rw [completed] at opened
  exact ⟨system,next,completed,dev_kit_board_is_safe pairLookup devGpio_behaves devGpio_forward devZones_bootable
    devZones_configurable completed (paced_along _ _ _ _ pinsWait_stays _ _),Option.some.inj opened⟩

theorem dev_kit_valve_closed_iff_dev : ∃ system next,
    Boot.appMain Repository.memoryStorage devZones devKitFound emptySlots = (.ok system,next) ∧
    Runs.Throughout (firmwareStep devPinsDrivers Repository.memoryStorage pairLookup devZones)
      (fun firmware => firmware.system.world.store.masterValve.state = .closed →
        devPads.level devKitMasterValveGpio firmware.system.world.environment.devices = false)
      (paced devPinsDrivers Repository.memoryStorage pairLookup devZones pinsWait openingSteps ⟨system,0⟩) ⟨system,0⟩ ∧
    highThen system = ([16],true) := by
  obtain ⟨system,next,completed⟩ := devKit_boots
  have opened := devKit_opens
  rw [completed] at opened
  exact ⟨system,next,completed,(dev_kit_valve_closed_iff pairLookup devGpio_behaves devZones_bootable devZones_configurable
    rfl completed).mpr (by decide) _ (paced_along _ _ _ _ pinsWait_stays _ _),Option.some.inj opened⟩

end Irrigation
