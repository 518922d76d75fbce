import Irrigation.DeviceInvariants
import Irrigation.RelayDriver
import Irrigation.StoreSafety

/-! The relays against the store. A relay is on only where the store keeps an output that
is not off, and never two are on, whichever register writes fail and whether or not the
failed ones took effect. -/
namespace Irrigation

/-! ### Bits -/

def Latched (latch : UInt8) (bit : Nat) : Prop := latch.toNat.testBit bit = true

def AtMostOne (latch : UInt8) : Prop := ∀ first second, Latched latch first → Latched latch second → first = second

theorem latched_zero (bit : Nat) : ¬Latched 0 bit := by simp [Latched]

theorem latched_outputBit (index : Fin irrigationMaxOutputs) (bit : Nat) :
    Latched (outputBit index) bit ↔ index.val = bit := by
  have power : (outputBit index).toNat = 2 ^ index.val := by
    revert index
    decide
  rw [Latched,power]
  simp [Nat.testBit_two_pow]

theorem atMostOne_zero : AtMostOne 0 := fun first _ latched => absurd latched (latched_zero first)

theorem atMostOne_outputBit (index : Fin irrigationMaxOutputs) : AtMostOne (outputBit index) := by
  intro first second one other
  rw [latched_outputBit] at one other
  exact one.symm.trans other

/-- Nothing but the relay of one output may be on. -/
def OnlyOutput (index : Fin irrigationMaxOutputs) (mask : UInt8) : Prop := mask = 0 ∨ mask = outputBit index

theorem OnlyOutput.atMostOne {index : Fin irrigationMaxOutputs} {mask : UInt8} (only : OnlyOutput index mask) :
    AtMostOne mask := by
  rcases only with rfl | rfl
  · exact atMostOne_zero
  · exact atMostOne_outputBit index

theorem OnlyOutput.requestedMask {index : Fin irrigationMaxOutputs} {mask : UInt8} (only : OnlyOutput index mask)
    (enabled : Bool) : OnlyOutput index (requestedMask mask index enabled) := by
  have bits : ∀ index : Fin irrigationMaxOutputs, Irrigation.requestedMask (outputBit index) index true = outputBit index ∧
      Irrigation.requestedMask 0 index true = outputBit index ∧
      Irrigation.requestedMask (outputBit index) index false = 0 ∧ Irrigation.requestedMask 0 index false = 0 := by
    decide
  obtain ⟨stays,sets,clears,rests⟩ := bits index
  cases enabled with
  | true => rcases only with rfl | rfl <;> exact .inr (by assumption)
  | false => rcases only with rfl | rfl <;> exact .inl (by assumption)

theorem OnlyOutput.clear {index : Fin irrigationMaxOutputs} {mask : UInt8} (only : OnlyOutput index mask) :
    Irrigation.requestedMask mask index false = 0 := by
  have bits : ∀ index : Fin irrigationMaxOutputs, Irrigation.requestedMask (outputBit index) index false = 0 ∧
      Irrigation.requestedMask 0 index false = 0 := by decide
  rcases only with rfl | rfl
  · exact (bits index).2
  · exact (bits index).1

/-! ### The board while one output is acted on -/

/-- No relay but that of one output is on, or is requested by the driver's mask. -/
structure Confined {β : Type} (index : Fin irrigationMaxOutputs) (board : RelayBoard β) : Prop where
  initialized : board.initialized = true
  latch : OnlyOutput index board.olata
  mask : OnlyOutput index board.outputMask
  moments : ∀ latch ∈ board.latches, AtMostOne latch

section Boards

variable {β : Type} {bus : I2cBus β} {others : Drivers β} {index : Fin irrigationMaxOutputs}
  {before after board : RelayBoard β}

theorem Confined.setting {result : IrrigationResult} {enabled : Bool} (confined : Confined index board)
    (setting : OutputSetting board index enabled result after) : Confined index after := by
  have requested := confined.mask.requestedMask enabled
  cases setting with
  | written next =>
    refine ⟨confined.initialized,requested,requested,?_⟩
    intro latch member
    rcases List.mem_append.mp member with early | late
    · exact confined.moments latch early
    · rw [List.mem_singleton.mp late]
      exact requested.atMostOne
  | @failed first second next one other =>
    have firstOnly : OnlyOutput index first := by
      rcases one with rfl | rfl
      · exact requested
      · exact confined.latch
    have secondOnly : OnlyOutput index second := by
      rcases other with rfl | rfl
      · exact .inl rfl
      · exact firstOnly
    refine ⟨confined.initialized,secondOnly,.inl rfl,?_⟩
    intro latch member
    rcases List.mem_append.mp member with early | late
    · exact confined.moments latch early
    · rcases List.mem_pair.mp late with rfl | rfl
      · exact firstOnly.atMostOne
      · exact secondOnly.atMostOne

/-- An off command clears the mask, and the latch when it succeeds. -/
theorem OutputSetting.off {result : IrrigationResult} (confined : Confined index board)
    (setting : OutputSetting board index false result after) :
    after.outputMask = 0 ∧ (result = .ok → after.olata = 0) := by
  cases setting with
  | written next => exact ⟨confined.mask.clear,fun _ => confined.mask.clear⟩
  | failed => exact ⟨rfl,nofun⟩

/-- Reading the clock does not touch the relays. -/
theorem Ticks.relays (ticks : Ticks (relayDrivers bus others) before after) :
    ∃ next, after = { before with bus := next } :=
  ticks.keep (fun board => ∃ next, board = { before with bus := next })
    (by rintro _ ⟨_,rfl⟩; exact ⟨_,rfl⟩) ⟨before.bus,rfl⟩

theorem Ticks.confined (ticks : Ticks (relayDrivers bus others) before after) (confined : Confined index before) :
    Confined index after := by
  obtain ⟨next,rfl⟩ := ticks.relays
  exact ⟨confined.initialized,confined.latch,confined.mask,confined.moments⟩

theorem Confined.perform (confined : Confined index board) (enabled : Bool) :
    OutputSetting board index enabled ((relayDrivers bus others).perform (.setOutput index enabled) board).1
      ((relayDrivers bus others).perform (.setOutput index enabled) board).2 :=
  irrigationControllerSetOutput_cases bus enabled confined.initialized index.isLt

/-- An on command, with what follows it. -/
theorem Confined.on {result : IrrigationResult} {rest : List DriverCall} (confined : Confined index before)
    (driven : Driven (relayDrivers bus others) before (⟨.setOutput index true,result⟩ :: rest) after) :
    ∃ switched, Confined index switched ∧ Driven (relayDrivers bus others) switched rest after := by
  obtain ⟨reached,waits,_,later⟩ := driven
  have waiting := waits.confined confined
  exact ⟨_,waiting.setting (waiting.perform true),later⟩

theorem Confined.off {result : IrrigationResult} (confined : Confined index before)
    (driven : Driven (relayDrivers bus others) before [⟨.setOutput index false,result⟩] after) :
    Confined index after ∧ after.outputMask = 0 ∧ (result = .ok → after.olata = 0) := by
  obtain ⟨reached,waits,answered,later⟩ := driven
  have waiting := waits.confined confined
  have setting : OutputSetting reached index false ((relayDrivers bus others).perform (.setOutput index false) reached).1 _ :=
    waiting.perform false
  obtain ⟨mask,dark⟩ := setting.off waiting
  rw [answered] at dark
  obtain ⟨next,rfl⟩ := Ticks.relays later
  have confinedAfter := waiting.setting setting
  exact ⟨⟨confinedAfter.initialized,confinedAfter.latch,confinedAfter.mask,confinedAfter.moments⟩,mask,dark⟩

/-! ### Store and board -/

/-- Only a relay whose output the store does not hold to be off. -/
def Behind (store : RuntimeState) (mask : UInt8) : Prop :=
  mask = 0 ∨ ∃ index : Fin irrigationMaxOutputs, mask = outputBit index ∧ store.outputStates index ≠ .off

structure Wired (store : RuntimeState) (board : RelayBoard β) : Prop where
  invariant : Invariant store
  initialized : board.initialized = true
  latch : Behind store board.olata
  mask : Behind store board.outputMask
  moments : ∀ latch ∈ board.latches, AtMostOne latch

variable {store next : RuntimeState}

theorem Behind.only {mask : UInt8} (behind : Behind store mask)
    (alone : ∀ other, store.outputStates other ≠ .off → other = index) : OnlyOutput index mask := by
  rcases behind with dark | ⟨other,rfl,active⟩
  · exact .inl dark
  · rw [alone other active]
    exact .inr rfl

theorem OnlyOutput.behind {mask : UInt8} (only : OnlyOutput index mask)
    (active : mask = 0 ∨ next.outputStates index ≠ .off) : Behind next mask := by
  rcases only with dark | lit
  · exact .inl dark
  · rcases active with dark | active
    · exact .inl dark
    · exact .inr ⟨index,lit,active⟩

theorem Wired.confined (wired : Wired store board)
    (alone : ∀ other, store.outputStates other ≠ .off → other = index) : Confined index board :=
  ⟨wired.initialized,wired.latch.only alone,wired.mask.only alone,wired.moments⟩

theorem Confined.wired (confined : Confined index board) (invariant : Invariant next)
    (active : (board.olata = 0 ∧ board.outputMask = 0) ∨ next.outputStates index ≠ .off) : Wired next board :=
  ⟨invariant,confined.initialized,confined.latch.behind (active.imp_left And.left),
    confined.mask.behind (active.imp_left And.right),confined.moments⟩

/-- Nothing that the board or the outputs show changed. -/
theorem Wired.of_bus (wired : Wired store board) (invariant : Invariant next)
    (outputs : next.outputStates = store.outputStates) (bus : β) : Wired next { board with bus } := by
  refine ⟨invariant,wired.initialized,?_,?_,wired.moments⟩
  · simpa only [Behind,outputs] using wired.latch
  · simpa only [Behind,outputs] using wired.mask

theorem Wired.ticks (wired : Wired store before) (ticks : Ticks (relayDrivers bus others) before after) :
    Wired store after := by
  obtain ⟨next,rfl⟩ := ticks.relays
  exact wired.of_bus wired.invariant rfl next

/-- Of a zone that is open or in fault, only its own output may not be off. -/
theorem Invariant.only_engaged (invariant : Invariant store) {zone : ZoneRuntimeState}
    (member : zone ∈ store.zones.entries) (engaged : zone.Engaged) (other : Fin irrigationMaxOutputs)
    (active : store.outputStates other ≠ .off) : other = zone.outputIndex := by
  obtain ⟨owner,ownerMember,rfl,ownerEngaged⟩ := invariant.active active
  rw [invariant.engaged owner ownerMember zone member ownerEngaged engaged]

variable (bus others)

theorem wired_invariant : DeviceInvariant (relayDrivers bus others) fun store _ board => Wired store board where
  zoneOpening wired opening driven := by
    have invariant := wired.invariant.zoneOpening opening
    cases opening with
    | refused => exact wired.ticks driven
    | @opened id zone named openable =>
      have confined : Confined zone.outputIndex _ :=
        wired.confined fun other active => absurd ⟨other,active⟩ openable.outputsOff
      obtain ⟨switched,on,later⟩ := confined.on driven
      exact (Ticks.confined later on).wired invariant (.inr (by simp [openedZone]))
    | @failed id zone named openable failure notOk safeOff =>
      have confined : Confined zone.outputIndex _ :=
        wired.confined fun other active => absurd ⟨other,active⟩ openable.outputsOff
      obtain ⟨switched,on,later⟩ := confined.on driven
      obtain ⟨off,mask,dark⟩ := on.off later
      refine off.wired invariant ?_
      by_cases safe : safeOff = .ok
      · exact .inl ⟨dark safe,mask⟩
      · exact .inr (by simp [faultedZone,safe])
  zoneClosing wired closing driven := by
    have invariant := wired.invariant.zoneClosing closing
    cases closing with
    | refused => exact wired.ticks driven
    | @closed id zone named closable =>
      have member := (ZoneTable.findZone_some closable.found).1
      have confined : Confined zone.outputIndex _ :=
        wired.confined (wired.invariant.only_engaged member closable.state)
      obtain ⟨off,mask,dark⟩ := confined.off driven
      exact off.wired invariant (.inl ⟨dark rfl,mask⟩)
    | @failed id zone named closable failure notOk =>
      have member := (ZoneTable.findZone_some closable.found).1
      have confined : Confined zone.outputIndex _ :=
        wired.confined (wired.invariant.only_engaged member closable.state)
      obtain ⟨off,mask,dark⟩ := confined.off driven
      exact off.wired invariant (.inr (by simp [faultedZone]))
  masterOpened wired idle answered reading := by
    have opened := (congrArg Prod.snd answered).symm
    have read := (congrArg Prod.snd reading).symm
    subst read opened
    exact (wired.of_bus (wired.invariant.masterOpening (.opening idle _)) rfl _).of_bus
      (wired.invariant.masterOpening (.opening idle _)) rfl _
  masterUnopened wired idle answered notOk := by
    have failed := (congrArg Prod.snd answered).symm
    subst failed
    exact wired.of_bus (wired.invariant.masterOpening (.failed idle notOk)) rfl _
  masterTimed wired opening reading := by
    have read := (congrArg Prod.snd reading).symm
    subst read
    exact wired.of_bus (wired.invariant.masterTimed _) (masterTimed_outputStates _ _) _
  masterClosing wired closing driven := by
    have invariant := wired.invariant.masterClosing closing
    cases closing with
    | refused => exact wired.ticks driven
    | closed =>
      obtain ⟨reached,waits,_,later⟩ := driven
      exact ((wired.ticks waits).of_bus invariant rfl _).ticks later
    | failed =>
      obtain ⟨reached,waits,_,later⟩ := driven
      exact ((wired.ticks waits).of_bus invariant rfl _).ticks later
  program program scheduler wired := wired.of_bus (wired.invariant.program program scheduler) rfl _
  tick wired := wired.of_bus wired.invariant rfl _

/-- The relays that are on are outputs that the store does not hold to be off, and neither
now nor after any register write so far were two on. -/
structure RelaysWithinStore (store : RuntimeState) (board : RelayBoard β) : Prop where
  within : ∀ bit, Latched board.olata bit → ∃ index : Fin irrigationMaxOutputs, index.val = bit ∧
    store.outputStates index ≠ .off
  now : AtMostOne board.olata
  moments : ∀ latch ∈ board.latches, AtMostOne latch

variable {bus others}

theorem Wired.relays (wired : Wired store board) : RelaysWithinStore store board := by
  refine ⟨?_,?_,wired.moments⟩
  · intro bit latched
    rcases wired.latch with dark | ⟨index,lit,active⟩
    · rw [dark] at latched
      exact absurd latched (latched_zero bit)
    · rw [lit] at latched
      exact ⟨index,(latched_outputBit index bit).mp latched,active⟩
  · rcases wired.latch with dark | ⟨index,lit,_⟩
    · rw [dark]
      exact atMostOne_zero
    · rw [lit]
      exact atMostOne_outputBit index

/-- After a successful `initialize_safe_off`, in every state of every run the relays stay
within the store, and a `set_output` that succeeds leaves latch and mask equal. -/
theorem relays_within_store {zones : List Zone} {preOpenDelayMs : UInt32} {ready : RelayBoard β}
    {world : World (RelayBoard β)} (booted : boot zones preOpenDelayMs = .ok world.store) (board : RelayBoard β)
    (safeOff : irrigationControllerInitializeSafeOff bus board = (.ok,ready))
    (wired : world.environment = { ready with latches := [] }) (commands : List Command) :
    Runs.Throughout (operate (relayDrivers bus others))
        (fun world => RelaysWithinStore world.store world.environment) commands world ∧
      ∀ (outputIndex : Nat) (enabled : Bool) (before after : RelayBoard β),
        irrigationControllerSetOutput bus outputIndex enabled before = (.ok,after) → after.olata = after.outputMask := by
  refine ⟨?_,fun _ _ _ _ succeeded => irrigationControllerSetOutput_ok bus succeeded⟩
  have initially : world.Meets fun store _ board => Wired store board := by
    obtain ⟨initialized,mask,latch,_⟩ := irrigationControllerInitializeSafeOff_ok bus safeOff
    rw [World.Meets,wired]
    exact ⟨boot_invariant booted,initialized,.inl latch,.inl mask,by simp⟩
  intro done todo split
  exact Wired.relays ((wired_invariant bus others).throughout initially commands done todo split)

end Boards

/-- A bus on which every write fails but the first six, each failure having taken effect. -/
def failingBus : I2cBus Nat where
  paramConfig := fun writes => (.ok,writes)
  driverInstall := fun writes => (.ok,writes)
  write := fun _ _ writes => match writes with
    | 0 => (.failed true,0)
    | writes + 1 => (.acknowledged,writes)

def quietDevices : Drivers Nat where
  perform := fun _ writes => (.ok,writes)
  nowMs := fun writes => (0,writes)

def unpoweredBoard : RelayBoard Nat := ⟨⟨false,0⟩,0xff,0xff,[],6⟩

theorem relays_within_store_failing : Runs.Throughout (operate (relayDrivers failingBus quietDevices))
    (fun world => RelaysWithinStore world.store world.environment)
    [.masterOpen,.masterProcessTime,.zoneOpen (some (.literal "zone-1")) 0,.zoneSafeClose,.zoneSafeClose]
    { devWorld devProgram with environment := { (irrigationControllerInitializeSafeOff failingBus unpoweredBoard).2 with latches := [] } } :=
  (relays_within_store (boot_of_configurable devZones_configurable 0) unpoweredBoard
    (Prod.ext (by decide) rfl) rfl _).1

end Irrigation
