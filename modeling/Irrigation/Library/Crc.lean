import Mathlib.Data.List.Basic
import Mathlib.Tactic.Common

/-! Reflected cyclic redundancy checks over an arbitrary register width. The only
assumption is that the reflected polynomial has its top bit, which makes every
division step invertible; detection of a changed byte follows from that alone. -/
namespace Irrigation.Library.Crc

variable {w : Nat} {poly : BitVec w}

/-- Shifts the low bit out and subtracts the polynomial when that bit was set. -/
def bitStep (poly crc : BitVec w) : BitVec w := (crc >>> 1) ^^^ (poly &&& -(crc &&& 1#w))

def bitSteps (poly : BitVec w) : Nat → BitVec w → BitVec w
  | 0, crc => crc
  | n + 1, crc => bitSteps poly n (bitStep poly crc)

def byteStep (poly crc : BitVec w) (byte : BitVec 8) : BitVec w :=
  bitSteps poly 8 (crc ^^^ byte.setWidth w)

def remainder (poly crc : BitVec w) (bytes : List (BitVec 8)) : BitVec w :=
  bytes.foldl (byteStep poly) crc

theorem neg_low_bit (crc : BitVec w) :
    -(crc &&& 1#w) = if crc.getLsbD 0 then BitVec.allOnes w else 0#w := by
  have one : BitVec.setWidth w 1#1 = 1#w := BitVec.eq_of_toNat_eq (by simp)
  rw [BitVec.and_one_eq_setWidth_ofBool_getLsbD]
  cases crc.getLsbD 0
  · simp
  · simp [one,BitVec.neg_one_eq_allOnes]

theorem bitStep_eq (poly crc : BitVec w) :
    bitStep poly crc = (crc >>> 1) ^^^ (if crc.getLsbD 0 then poly else 0#w) := by
  rw [bitStep,neg_low_bit]
  split <;> simp

/-- The vacated top bit of the shift shows whether the polynomial was subtracted. -/
theorem bitStep_msb (top : poly.msb = true) (crc : BitVec w) :
    (bitStep poly crc).msb = crc.getLsbD 0 := by
  have shifted : (crc >>> 1).msb = false := by simp [BitVec.msb_ushiftRight]
  rw [bitStep_eq,BitVec.msb_xor,shifted]
  split <;> simp_all

theorem bitStep_injective (top : poly.msb = true) : Function.Injective (bitStep poly) := by
  intro a b same
  have low : a.getLsbD 0 = b.getLsbD 0 := by
    rw [← bitStep_msb top a,← bitStep_msb top b,same]
  have high : a >>> 1 = b >>> 1 := by
    rw [bitStep_eq,bitStep_eq,low] at same
    exact (BitVec.xor_left_inj _).mp same
  apply BitVec.eq_of_getLsbD_eq
  intro i _
  cases i with
  | zero => exact low
  | succ i =>
    have h := congrArg (fun v : BitVec w => v.getLsbD i) high
    simpa [BitVec.getLsbD_ushiftRight,Nat.add_comm] using h

theorem bitSteps_injective (top : poly.msb = true) (n : Nat) :
    Function.Injective (bitSteps poly n) := by
  induction n with
  | zero => exact fun _ _ same => same
  | succ n ih => exact fun _ _ same => bitStep_injective top (ih same)

theorem byteStep_injective_crc (top : poly.msb = true) (byte : BitVec 8) :
    Function.Injective (fun crc => byteStep poly crc byte) := by
  intro a b same
  exact (BitVec.xor_left_inj _).mp (bitSteps_injective top 8 same)

theorem byteStep_injective_byte (top : poly.msb = true) (width : 8 ≤ w) (crc : BitVec w) :
    Function.Injective (byteStep poly crc) := by
  intro a b same
  have wide : a.setWidth w = b.setWidth w :=
    (BitVec.xor_right_inj _).mp (bitSteps_injective top 8 same)
  have h := congrArg (BitVec.setWidth 8) wide
  simpa [BitVec.setWidth_setWidth_of_le _ width] using h

theorem remainder_injective (top : poly.msb = true) (bytes : List (BitVec 8)) :
    Function.Injective (fun crc => remainder poly crc bytes) := by
  induction bytes with
  | nil => exact fun _ _ same => same
  | cons byte bytes ih => exact fun _ _ same => byteStep_injective_crc top byte (ih same)

theorem remainder_append (crc : BitVec w) (front back : List (BitVec 8)) :
    remainder poly crc (front ++ back) = remainder poly (remainder poly crc front) back :=
  List.foldl_append

/-- Replacing a single byte, at any position, changes the remainder. -/
theorem remainder_replace_ne (top : poly.msb = true) (width : 8 ≤ w) (crc : BitVec w)
    (front back : List (BitVec 8)) {old new : BitVec 8} (changed : new ≠ old) :
    remainder poly crc (front ++ new :: back) ≠ remainder poly crc (front ++ old :: back) := by
  intro same
  rw [remainder_append,remainder_append] at same
  exact changed (byteStep_injective_byte top width _ (remainder_injective top back same))

/-! ### Bursts no wider than the register -/

/-- Bytes side by side in a register, the first one lowest. -/
def joined : List (BitVec 8) → BitVec w
  | [] => 0#w
  | byte :: rest => byte.setWidth w ^^^ (joined rest <<< 8)

/-- The top bits of the register are clear. -/
def ClearFrom (bound : Nat) (crc : BitVec w) : Prop := ∀ i, bound ≤ i → crc.getLsbD i = false

theorem joined_clear (bytes : List (BitVec 8)) : ClearFrom (8 * bytes.length) (joined bytes : BitVec w) := by
  induction bytes with
  | nil => exact fun i _ => by simp [joined]
  | cons byte rest ih =>
    intro i beyond
    rw [List.length_cons] at beyond
    have far : 8 ≤ i := by omega
    have others : (joined rest : BitVec w).getLsbD (i - 8) = false := ih _ (by omega)
    simp [joined,BitVec.getLsbD_shiftLeft,BitVec.getLsbD_of_ge byte i far,others]

/-- A shift that loses no bit is undone by the shift back. -/
theorem ushiftRight_shiftLeft {crc : BitVec w} {count : Nat} (clear : ClearFrom (w - count) crc) :
    (crc <<< count) >>> count = crc := by
  apply BitVec.eq_of_getLsbD_eq
  intro i inside
  rw [BitVec.getLsbD_ushiftRight,BitVec.getLsbD_shiftLeft]
  by_cases room : count + i < w
  · simp [room]
  · simp [room,clear i (by omega)]

theorem bitStep_xor_shiftLeft {high : BitVec w} (clear : ClearFrom (w - 1) high) (crc : BitVec w) :
    bitStep poly (crc ^^^ (high <<< 1)) = bitStep poly crc ^^^ high := by
  have low : (crc ^^^ (high <<< 1)).getLsbD 0 = crc.getLsbD 0 := by simp
  rw [bitStep_eq,bitStep_eq,low,BitVec.ushiftRight_xor_distrib,ushiftRight_shiftLeft clear,BitVec.xor_assoc,
    BitVec.xor_comm high,BitVec.xor_assoc]

theorem bitSteps_xor_shiftLeft (count : Nat) {high : BitVec w} (clear : ClearFrom (w - count) high) (crc : BitVec w) :
    bitSteps poly count (crc ^^^ (high <<< count)) = bitSteps poly count crc ^^^ high := by
  induction count generalizing crc with
  | zero => simp [bitSteps]
  | succ count ih =>
    have moved : ClearFrom (w - 1) (high <<< count) := by
      intro i beyond
      rw [BitVec.getLsbD_shiftLeft]
      by_cases low : i < count
      · simp [low]
      · simp [clear (i - count) (by omega)]
    rw [bitSteps,BitVec.shiftLeft_add,bitStep_xor_shiftLeft moved,ih (fun i beyond => clear i (by omega))]
    rfl

theorem bitSteps_add (first second : Nat) (crc : BitVec w) :
    bitSteps poly (first + second) crc = bitSteps poly second (bitSteps poly first crc) := by
  induction first generalizing crc with
  | zero => rw [Nat.zero_add,bitSteps]
  | succ first ih => rw [Nat.succ_add,bitSteps,bitSteps,ih]

/-- Bytes that fit into the register may all be subtracted at once. -/
theorem remainder_eq_joined (bytes : List (BitVec 8)) (fits : 8 * bytes.length ≤ w) (crc : BitVec w) :
    remainder poly crc bytes = bitSteps poly (8 * bytes.length) (crc ^^^ joined bytes) := by
  induction bytes generalizing crc with
  | nil => simp [remainder,joined,bitSteps]
  | cons byte rest ih =>
    rw [List.length_cons] at fits
    have clear : ClearFrom (w - 8) (joined rest : BitVec w) := fun i beyond => joined_clear rest i (by omega)
    calc remainder poly crc (byte :: rest)
        = remainder poly (byteStep poly crc byte) rest := rfl
      _ = bitSteps poly (8 * rest.length) (bitSteps poly 8 (crc ^^^ byte.setWidth w) ^^^ joined rest) :=
        ih (by omega) _
      _ = bitSteps poly (8 * rest.length)
          (bitSteps poly 8 (crc ^^^ byte.setWidth w ^^^ (joined rest <<< 8))) := by
        rw [bitSteps_xor_shiftLeft 8 clear]
      _ = bitSteps poly (8 * (byte :: rest).length) (crc ^^^ joined (byte :: rest)) := by
        rw [← bitSteps_add,joined,BitVec.xor_assoc,List.length_cons,Nat.mul_succ,Nat.add_comm]

theorem joined_injective {first second : List (BitVec 8)} (fits : 8 * first.length ≤ w)
    (lengths : first.length = second.length) (same : (joined first : BitVec w) = joined second) : first = second := by
  induction first generalizing second with
  | nil => exact (List.length_eq_zero_iff.mp lengths.symm).symm
  | cons byte rest ih =>
    obtain ⟨other,others,rfl⟩ := List.exists_cons_of_length_eq_add_one lengths.symm
    rw [List.length_cons] at fits
    have sizes : rest.length = others.length := Nat.succ.inj lengths
    have low : byte = other := by
      apply BitVec.eq_of_getLsbD_eq
      intro i inside
      have bit := congrArg (BitVec.getLsbD · i) same
      have room : i < w := by omega
      simpa [joined,inside,room] using bit
    subst low
    have high : (joined rest : BitVec w) <<< 8 = joined others <<< 8 := (BitVec.xor_right_inj _).mp same
    have back (bytes : List (BitVec 8)) (size : 8 * bytes.length + 8 ≤ w) :
        ((joined bytes : BitVec w) <<< 8) >>> 8 = joined bytes :=
      ushiftRight_shiftLeft fun i beyond => joined_clear bytes i (by omega)
    rw [ih (by omega) sizes (by rw [← back rest (by omega),high,back others (by omega)])]

/-- Replacing a burst that fits into the register, at any position, changes the remainder. -/
theorem remainder_burst_ne (top : poly.msb = true) (crc : BitVec w) (front back : List (BitVec 8))
    {old new : List (BitVec 8)} (fits : 8 * old.length ≤ w) (lengths : new.length = old.length) (changed : new ≠ old) :
    remainder poly crc (front ++ (new ++ back)) ≠ remainder poly crc (front ++ (old ++ back)) := by
  intro same
  rw [remainder_append,remainder_append,remainder_append,remainder_append] at same
  have bursts := remainder_injective top back same
  rw [remainder_eq_joined new (by omega),remainder_eq_joined old fits,lengths] at bursts
  have words := (BitVec.xor_right_inj _).mp (bitSteps_injective top _ bursts)
  exact changed (joined_injective (by omega) lengths words)

end Irrigation.Library.Crc
