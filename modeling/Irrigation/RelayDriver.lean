import Irrigation.Services

/-! The production output driver over the MCP23017's registers. A register write may
report a failure with or without having taken effect. -/
namespace Irrigation

inductive EspErr where
  | ok | fail
  deriving DecidableEq, Repr

/-- What an I2C write answers, and what became of it. -/
inductive RegisterWrite where
  | acknowledged
  | failed (effective : Bool)
  deriving DecidableEq, Repr

/-- The I2C port over an arbitrary state. -/
structure I2cBus (β : Type) where
  paramConfig : β → EspErr × β
  driverInstall : β → EspErr × β
  write : UInt8 → UInt8 → β → RegisterWrite × β

structure IrrigationControllerOutputDriver where
  initialized : Bool
  outputMask : UInt8
  deriving DecidableEq, Repr

/-- The driver, the expander's registers, and OLATA after each register write so far. -/
structure RelayBoard (β : Type) extends IrrigationControllerOutputDriver where
  olata : UInt8
  iodira : UInt8
  latches : List UInt8
  bus : β

def mcp23017IodiraRegister : UInt8 := 0x00

def mcp23017OlataRegister : UInt8 := 0x14

def relayOutputMask : UInt8 := UInt8.ofNat (2 ^ irrigationLocalOutputCount - 1)

example : relayOutputMask = 0xff := by decide

section Driver

variable {β : Type} (bus : I2cBus β)

/-- The registers once a written value took effect. -/
def RelayBoard.take (board : RelayBoard β) (registerAddress value : UInt8) : RelayBoard β :=
  if registerAddress = mcp23017OlataRegister then { board with olata := value }
  else if registerAddress = mcp23017IodiraRegister then { board with iodira := value }
  else board

def RelayBoard.record (board : RelayBoard β) : RelayBoard β := { board with latches := board.latches ++ [board.olata] }

def writeRegister (registerAddress value : UInt8) (board : RelayBoard β) : EspErr × RelayBoard β :=
  match bus.write registerAddress value board.bus with
  | (.acknowledged,next) => (.ok,({ board with bus := next }.take registerAddress value).record)
  | (.failed true,next) => (.fail,({ board with bus := next }.take registerAddress value).record)
  | (.failed false,next) => (.fail,{ board with bus := next }.record)

def mcp23017WritePortA (values : UInt8) (board : RelayBoard β) : EspErr × RelayBoard β :=
  writeRegister bus mcp23017OlataRegister values board

def mcp23017ConfigurePortAOutputs (outputMask : UInt8) (board : RelayBoard β) : EspErr × RelayBoard β :=
  writeRegister bus mcp23017IodiraRegister (~~~outputMask) board

def mcp23017Init (board : RelayBoard β) : EspErr × RelayBoard β :=
  match bus.paramConfig board.bus with
  | (.fail,next) => (.fail,{ board with bus := next })
  | (.ok,configured) =>
    match bus.driverInstall configured with
    | (.fail,next) => (.fail,{ board with bus := next })
    | (.ok,next) => mcp23017WritePortA bus 0 { board with bus := next }

def ensureSafeOff (board : RelayBoard β) : IrrigationResult × RelayBoard β :=
  let (written,board) := mcp23017WritePortA bus 0 { board with outputMask := 0 }
  (if written = .ok then .ok else .internalError,board)

/-- The part of `irrigation_controller_initialize_safe_off` after `mcp23017_init`. -/
def configureSafeOff (board : RelayBoard β) : IrrigationResult × RelayBoard β :=
  let failing (board : RelayBoard β) : IrrigationResult × RelayBoard β := (.internalError,(ensureSafeOff bus board).2)
  match mcp23017ConfigurePortAOutputs bus relayOutputMask board with
  | (.fail,board) => failing board
  | (.ok,board) =>
    match ensureSafeOff bus board with
    | (.ok,board) => (.ok,{ board with initialized := true })
    | (_,board) => failing board

def irrigationControllerInitializeSafeOff (board : RelayBoard β) : IrrigationResult × RelayBoard β :=
  match mcp23017Init bus { board with initialized := false, outputMask := 0 } with
  | (.fail,board) => (.internalError,board)
  | (.ok,board) => configureSafeOff bus board

def outputBit (outputIndex : Nat) : UInt8 := 1 <<< UInt8.ofNat outputIndex

def requestedMask (outputMask : UInt8) (outputIndex : Nat) (enabled : Bool) : UInt8 :=
  if enabled then outputMask ||| outputBit outputIndex else outputMask &&& ~~~outputBit outputIndex

def irrigationControllerSetOutput (outputIndex : Nat) (enabled : Bool) (board : RelayBoard β) :
    IrrigationResult × RelayBoard β :=
  if ¬board.initialized then (.invalidState,board)
  else if outputIndex ≥ irrigationLocalOutputCount then (.notFound,board)
  else
    let requested := requestedMask board.outputMask outputIndex enabled
    match mcp23017WritePortA bus requested board with
    | (.fail,board) => (.internalError,(ensureSafeOff bus board).2)
    | (.ok,board) => (.ok,{ board with outputMask := requested })

/-- The production outputs, with other devices on the same bus state. -/
def relayDrivers (others : Drivers β) : Drivers (RelayBoard β) where
  perform := fun command board => match command with
    | .setOutput index enabled => irrigationControllerSetOutput bus index enabled board
    | .openAndConfirm =>
      let (result,next) := others.perform .openAndConfirm board.bus
      (result,{ board with bus := next })
    | .closeAndConfirm =>
      let (result,next) := others.perform .closeAndConfirm board.bus
      (result,{ board with bus := next })
  nowMs := fun board =>
    let (now,next) := others.nowMs board.bus
    (now,{ board with bus := next })

/-! ### What a write can do -/

/-- A write to the output latch: acknowledged, it is in the latch; failed, it may be. -/
theorem mcp23017WritePortA_cases (values : UInt8) (board : RelayBoard β) : ∃ latch next,
    (mcp23017WritePortA bus values board).2 =
      { board with olata := latch, latches := board.latches ++ [latch], bus := next } ∧
    (latch = values ∨ latch = board.olata ∧ (mcp23017WritePortA bus values board).1 = .fail) := by
  cases written : bus.write mcp23017OlataRegister values board.bus with
  | mk outcome next =>
    cases outcome with
    | acknowledged =>
      refine ⟨values,next,?_,.inl rfl⟩
      simp only [mcp23017WritePortA,writeRegister,written]
      rfl
    | failed effective =>
      cases effective with
      | true =>
        refine ⟨values,next,?_,.inl rfl⟩
        simp only [mcp23017WritePortA,writeRegister,written]
        rfl
      | false =>
        refine ⟨board.olata,next,?_,.inr ⟨rfl,?_⟩⟩
        · simp only [mcp23017WritePortA,writeRegister,written]
          rfl
        · simp only [mcp23017WritePortA,writeRegister,written]

theorem ensureSafeOff_cases (board : RelayBoard β) : ∃ latch next,
    (ensureSafeOff bus board).2 =
      { board with outputMask := 0, olata := latch, latches := board.latches ++ [latch], bus := next } ∧
    (latch = 0 ∨ latch = board.olata ∧ (ensureSafeOff bus board).1 ≠ .ok) := by
  obtain ⟨latch,next,written,took⟩ := mcp23017WritePortA_cases bus 0 { board with outputMask := 0 }
  refine ⟨latch,next,written,took.imp_right ?_⟩
  rintro ⟨kept,failed⟩
  refine ⟨kept,?_⟩
  simp [ensureSafeOff,failed]

/-- A write to the direction register leaves the output latch alone. -/
theorem mcp23017ConfigurePortAOutputs_cases (outputMask : UInt8) (board : RelayBoard β) : ∃ direction next,
    (mcp23017ConfigurePortAOutputs bus outputMask board).2 =
      { board with iodira := direction, latches := board.latches ++ [board.olata], bus := next } ∧
    (direction = ~~~outputMask ∨
      direction = board.iodira ∧ (mcp23017ConfigurePortAOutputs bus outputMask board).1 = .fail) := by
  cases written : bus.write mcp23017IodiraRegister (~~~outputMask) board.bus with
  | mk outcome next =>
    cases outcome with
    | acknowledged =>
      refine ⟨~~~outputMask,next,?_,.inl rfl⟩
      simp only [mcp23017ConfigurePortAOutputs,writeRegister,written]
      rfl
    | failed effective =>
      cases effective with
      | true =>
        refine ⟨~~~outputMask,next,?_,.inl rfl⟩
        simp only [mcp23017ConfigurePortAOutputs,writeRegister,written]
        rfl
      | false =>
        refine ⟨board.iodira,next,?_,.inr ⟨rfl,?_⟩⟩
        · simp only [mcp23017ConfigurePortAOutputs,writeRegister,written]
          rfl
        · simp only [mcp23017ConfigurePortAOutputs,writeRegister,written]

/-- A successful `initialize_safe_off` leaves every pin an output and every relay off. -/
theorem irrigationControllerInitializeSafeOff_ok {board ready : RelayBoard β}
    (succeeded : irrigationControllerInitializeSafeOff bus board = (.ok,ready)) :
    ready.initialized = true ∧ ready.outputMask = 0 ∧ ready.olata = 0 ∧ ready.iodira = 0 := by
  unfold irrigationControllerInitializeSafeOff at succeeded
  split at succeeded
  · cases succeeded
  · rename_i cleared _
    unfold configureSafeOff at succeeded
    simp only at succeeded
    split at succeeded
    · cases succeeded
    · rename_i configured outputs
      split at succeeded
      · rename_i off safe
        cases succeeded
        obtain ⟨direction,between,directed,turned⟩ := mcp23017ConfigurePortAOutputs_cases bus relayOutputMask cleared
        obtain ⟨latch,next,written,took⟩ := ensureSafeOff_cases bus configured
        rw [outputs] at directed turned
        rw [safe] at written took
        have dark : latch = 0 := took.resolve_right fun failed => failed.2 rfl
        have output : direction = ~~~relayOutputMask := turned.resolve_right fun failed => nomatch failed.2
        simp only at written directed
        rw [written,dark,directed,output]
        exact ⟨rfl,rfl,rfl,rfl⟩
      · cases succeeded

/-- Every write since then left the output latch clear or as it was. Unless it is clear, the pins are
inputs and outputs as they were. -/
structure Dimmed (board after : RelayBoard β) : Prop where
  latches : ∃ later, after.latches = board.latches ++ later ∧ ∀ latch ∈ later, latch = 0 ∨ latch = board.olata
  registers : after.olata = 0 ∨ after.olata = board.olata ∧ after.iodira = board.iodira

namespace Dimmed

variable {first second third board : RelayBoard β}

theorem of_same (latches : second.latches = first.latches) (olata : second.olata = first.olata)
    (iodira : second.iodira = first.iodira) : Dimmed first second :=
  ⟨⟨[],by simp [latches],nofun⟩,.inr ⟨olata,iodira⟩⟩

theorem trans (one : Dimmed first second) (other : Dimmed second third) : Dimmed first third := by
  obtain ⟨early,earlyWritten,earlyDim⟩ := one.latches
  obtain ⟨late,lateWritten,lateDim⟩ := other.latches
  refine ⟨⟨early ++ late,by rw [lateWritten,earlyWritten,List.append_assoc],?_⟩,?_⟩
  · intro latch member
    rcases List.mem_append.mp member with before | after
    · exact earlyDim latch before
    · rcases lateDim latch after with dark | kept
      · exact .inl dark
      · exact one.registers.imp kept.trans fun same => kept.trans same.1
  · rcases other.registers with dark | ⟨olata,iodira⟩
    · exact .inl dark
    · exact one.registers.imp olata.trans fun same => ⟨olata.trans same.1,iodira.trans same.2⟩

theorem writePortA (board : RelayBoard β) : Dimmed board (mcp23017WritePortA bus 0 board).2 := by
  obtain ⟨latch,next,written,took⟩ := mcp23017WritePortA_cases bus 0 board
  have dim : latch = 0 ∨ latch = board.olata := took.imp_right And.left
  rw [written]
  exact ⟨⟨[latch],rfl,by simpa using dim⟩,dim.imp_right fun kept => ⟨kept,rfl⟩⟩

/-- The pins become outputs only under a clear latch. -/
theorem configurePortAOutputs (outputMask : UInt8) (dark : board.olata = 0) :
    Dimmed board (mcp23017ConfigurePortAOutputs bus outputMask board).2 := by
  obtain ⟨direction,next,written,_⟩ := mcp23017ConfigurePortAOutputs_cases bus outputMask board
  rw [written]
  exact ⟨⟨[board.olata],rfl,by simp⟩,.inl dark⟩

theorem ensureSafeOff (board : RelayBoard β) : Dimmed board (ensureSafeOff bus board).2 :=
  (of_same rfl rfl rfl : Dimmed board { board with outputMask := 0 }).trans (writePortA bus _)

theorem configureSafeOff (dark : board.olata = 0) : Dimmed board (configureSafeOff bus board).2 := by
  have directed := configurePortAOutputs bus relayOutputMask dark
  unfold Irrigation.configureSafeOff
  dsimp only
  split
  · next refused => rw [refused] at directed; exact directed.trans (ensureSafeOff bus _)
  · next configured outputs =>
    rw [outputs] at directed
    have off := directed.trans (ensureSafeOff bus configured)
    split
    · next safe => rw [safe] at off; exact off.trans (of_same rfl rfl rfl)
    · next _ uncleared => rw [uncleared] at off; exact off.trans (ensureSafeOff bus _)

theorem init (board : RelayBoard β) : Dimmed board (mcp23017Init bus board).2 := by
  unfold mcp23017Init
  split
  · exact of_same rfl rfl rfl
  · split
    · exact of_same rfl rfl rfl
    · next installed _ =>
      exact (of_same rfl rfl rfl : Dimmed board { board with bus := installed }).trans (writePortA bus _)

end Dimmed

/-- A successful `mcp23017_init` has cleared the output latch. -/
theorem mcp23017Init_ok {board cleared : RelayBoard β} (succeeded : mcp23017Init bus board = (.ok,cleared)) :
    cleared.olata = 0 ∧ cleared.latches = board.latches ++ [0] := by
  unfold mcp23017Init at succeeded
  split at succeeded
  · cases succeeded
  · split at succeeded
    · cases succeeded
    · next installed _ =>
      obtain ⟨latch,next,written,took⟩ := mcp23017WritePortA_cases bus 0 { board with bus := installed }
      rw [succeeded] at written took
      have dark : latch = 0 := took.resolve_right fun failed => nomatch failed.2
      simp only at written
      rw [written,dark]
      exact ⟨rfl,rfl⟩

/-- Whatever fails, `initialize_safe_off` switches no relay on. -/
theorem irrigationControllerInitializeSafeOff_dimmed (board : RelayBoard β) :
    Dimmed board (irrigationControllerInitializeSafeOff bus board).2 := by
  have cleared := (Dimmed.of_same rfl rfl rfl : Dimmed board { board with initialized := false, outputMask := 0 }).trans
    (Dimmed.init bus _)
  unfold irrigationControllerInitializeSafeOff
  split
  · next failed => rw [failed] at cleared; exact cleared
  · next succeeded =>
    rw [succeeded] at cleared
    exact cleared.trans (Dimmed.configureSafeOff bus (mcp23017Init_ok bus succeeded).1)

/-- Once it succeeded, no relay was on after any of its writes. -/
theorem irrigationControllerInitializeSafeOff_latches {board ready : RelayBoard β}
    (succeeded : irrigationControllerInitializeSafeOff bus board = (.ok,ready)) :
    ∃ later, ready.latches = board.latches ++ later ∧ ∀ latch ∈ later, latch = 0 := by
  unfold irrigationControllerInitializeSafeOff at succeeded
  cases run : mcp23017Init bus { board with initialized := false, outputMask := 0 } with
  | mk result cleared =>
    rw [run] at succeeded
    cases result with
    | fail => cases succeeded
    | ok =>
      have first := mcp23017Init_ok bus run
      have later := Dimmed.configureSafeOff bus first.1
      simp only at succeeded
      rw [succeeded] at later
      obtain ⟨rest,written,dim⟩ := later.latches
      refine ⟨0 :: rest,?_,?_⟩
      · rw [written,first.2,List.append_assoc]
        rfl
      · intro latch member
        rcases List.mem_cons.mp member with rfl | inside
        · rfl
        · rcases dim latch inside with dark | kept
          · exact dark
          · exact kept.trans first.1

/-- Setting an output either writes the requested mask, or fails and clears the mask; the
latch then holds what one of the writes put there, or what it held. -/
inductive OutputSetting (board : RelayBoard β) (outputIndex : Nat) (enabled : Bool) :
    IrrigationResult → RelayBoard β → Prop
  | written (next : β) : OutputSetting board outputIndex enabled .ok
      { board with
        outputMask := requestedMask board.outputMask outputIndex enabled
        olata := requestedMask board.outputMask outputIndex enabled
        latches := board.latches ++ [requestedMask board.outputMask outputIndex enabled]
        bus := next }
  | failed {first second : UInt8} (next : β)
      (one : first = requestedMask board.outputMask outputIndex enabled ∨ first = board.olata)
      (other : second = 0 ∨ second = first) : OutputSetting board outputIndex enabled .internalError
      { board with outputMask := 0, olata := second, latches := board.latches ++ [first,second], bus := next }

theorem irrigationControllerSetOutput_cases {board : RelayBoard β} {outputIndex : Nat} (enabled : Bool)
    (initialized : board.initialized = true) (inside : outputIndex < irrigationLocalOutputCount) :
    OutputSetting board outputIndex enabled (irrigationControllerSetOutput bus outputIndex enabled board).1
      (irrigationControllerSetOutput bus outputIndex enabled board).2 := by
  obtain ⟨first,next,written,took⟩ :=
    mcp23017WritePortA_cases bus (requestedMask board.outputMask outputIndex enabled) board
  simp only [irrigationControllerSetOutput,initialized,not_true_eq_false,if_false,ge_iff_le,Nat.not_le.mpr inside]
  cases answer : mcp23017WritePortA bus (requestedMask board.outputMask outputIndex enabled) board with
  | mk result after =>
    rw [answer] at written took
    simp only at written took
    subst written
    cases result with
    | ok =>
      have requested : first = requestedMask board.outputMask outputIndex enabled :=
        took.resolve_right fun failed => nomatch failed.2
      subst requested
      exact .written next
    | fail =>
      obtain ⟨second,last,cleared,off⟩ := ensureSafeOff_cases bus
        { board with olata := first, latches := board.latches ++ [first], bus := next }
      simp only [cleared]
      have settled : OutputSetting board outputIndex enabled .internalError _ :=
        .failed last (took.imp_right And.left) (off.imp_right And.left)
      simpa using settled

/-- A `set_output` that succeeds leaves the latch as the driver's mask. -/
theorem irrigationControllerSetOutput_ok {board next : RelayBoard β} {outputIndex : Nat} {enabled : Bool}
    (succeeded : irrigationControllerSetOutput bus outputIndex enabled board = (.ok,next)) :
    next.olata = next.outputMask := by
  by_cases initialized : board.initialized = true
  · by_cases inside : outputIndex < irrigationLocalOutputCount
    · have setting := irrigationControllerSetOutput_cases bus enabled initialized inside
      rw [succeeded] at setting
      cases setting with
      | written => rfl
    · simp only [irrigationControllerSetOutput,initialized,not_true_eq_false,if_false,ge_iff_le,
        Nat.not_lt.mp inside,if_true] at succeeded
      cases succeeded
  · simp [irrigationControllerSetOutput,initialized] at succeeded

end Driver

end Irrigation
