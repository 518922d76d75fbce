import Mathlib.Data.List.Basic

/-! Readers that consume a prefix of a symbol list, and the rules by which the
reader of a composite format inherits the round trip of its parts. -/
namespace Irrigation.Library.Codec

/-- A reader sees the remaining input and either stops or leaves a shorter rest. -/
abbrev Reader (ε β : Type) := StateT (List β) (Except ε)

variable {ε β : Type} {α γ : Type}

/-- Given `bytes` in front of any rest, the reader consumes exactly `bytes` and
returns a value satisfying the postcondition. -/
def Consumes (reader : Reader ε β α) (bytes : List β) (post : α → Prop) : Prop :=
  ∀ rest, ∃ value, reader (bytes ++ rest) = .ok (value,rest) ∧ post value

theorem Consumes.pure {value : α} {post : α → Prop} (holds : post value) :
    Consumes (Pure.pure value : Reader ε β α) [] post :=
  fun _ => ⟨value,rfl,holds⟩

/-- Sequencing consumes the two byte strings one after the other. -/
theorem Consumes.bind {reader : Reader ε β α} {next : α → Reader ε β γ} {front back : List β}
    {mid : α → Prop} {post : γ → Prop} (consumes : Consumes reader front mid)
    (continues : ∀ value, mid value → Consumes (next value) back post) :
    Consumes (reader >>= next) (front ++ back) post := by
  intro rest
  obtain ⟨value,run,holds⟩ := consumes (back ++ rest)
  obtain ⟨result,run',holds'⟩ := continues value holds rest
  refine ⟨result,?_,holds'⟩
  rw [List.append_assoc]
  change Except.bind (reader (front ++ (back ++ rest))) _ = _
  rw [run]
  exact run'

/-- A continuation that reads nothing more. -/
theorem Consumes.map {reader : Reader ε β α} {f : α → γ} {bytes : List β} {mid : α → Prop}
    {post : γ → Prop} (consumes : Consumes reader bytes mid) (maps : ∀ value, mid value → post (f value)) :
    Consumes (reader >>= fun value => Pure.pure (f value)) bytes post := by
  simpa using consumes.bind (fun value holds => Consumes.pure (maps value holds))

/-- A condition on the remaining input, without consuming any of it. -/
def check (holds : List β → Bool) (stop : ε) : Reader ε β Unit :=
  fun cursor => if holds cursor then .ok ((),cursor) else .error stop

theorem Consumes.check {holds : List β → Bool} {stop : ε} {next : Unit → Reader ε β γ}
    {bytes : List β} {post : γ → Prop} (always : ∀ rest, holds (bytes ++ rest) = true)
    (consumes : Consumes (next ()) bytes post) :
    Consumes (Codec.check holds stop >>= next) bytes post := by
  intro rest
  obtain ⟨value,run,holds'⟩ := consumes rest
  refine ⟨value,?_,holds'⟩
  change Except.bind (if holds (bytes ++ rest) then _ else _) _ = _
  rw [if_pos (always rest)]
  exact run

/-- Reads a given number of items in order. -/
def repeated (item : Reader ε β α) : Nat → Reader ε β (List α)
  | 0 => Pure.pure []
  | n + 1 => do
    let head ← item
    let tail ← repeated item n
    Pure.pure (head :: tail)

/-- The item rule extends to the concatenation of any list of encoded items. -/
theorem Consumes.repeated {item : Reader ε β α} {encode : γ → List β} {related : γ → α → Prop}
    (sources : List γ) (consumes : ∀ source ∈ sources, Consumes item (encode source) (related source)) :
    Consumes (Codec.repeated item sources.length) (sources.flatMap encode)
      (List.Forall₂ related sources) := by
  induction sources with
  | nil => exact Consumes.pure .nil
  | cons source sources ih =>
    have head := consumes source (by simp)
    have tail := ih (fun other member => consumes other (by simp [member]))
    exact head.bind fun value holds => tail.map fun _ others => .cons holds others

/-- Running a reader on exactly its bytes leaves nothing. -/
theorem Consumes.run {reader : Reader ε β α} {bytes : List β} {post : α → Prop}
    (consumes : Consumes reader bytes post) : ∃ value, reader bytes = .ok (value,[]) ∧ post value := by
  simpa using consumes []

/-! ### Little-endian lanes -/

/-- Bit `i` of the byte cut out at bit `k` and moved back to its place. -/
theorem getLsbD_lane {w : Nat} (v : BitVec w) (k i : Nat) (bound : i < w) :
    (((v >>> k).setWidth 8).setWidth w <<< k).getLsbD i =
      (decide (k ≤ i ∧ i < k + 8) && v.getLsbD i) := by
  simp only [BitVec.getLsbD_shiftLeft,BitVec.getLsbD_setWidth,BitVec.getLsbD_ushiftRight,bound]
  by_cases low : k ≤ i
  · have recover : k + (i - k) = i := by omega
    have inside : i - k < w := by omega
    have lane : i - k < 8 ↔ i < k + 8 := by omega
    simp [low,recover,inside,lane,Nat.not_lt.mpr low]
  · simp [low,Nat.lt_of_not_le low]

theorem getLsbD_lane_zero {w : Nat} (v : BitVec w) (i : Nat) (bound : i < w) :
    ((v.setWidth 8).setWidth w).getLsbD i = (decide (i < 8) && v.getLsbD i) := by
  simpa using getLsbD_lane v 0 i bound

theorem lanes_u16 (v : UInt16) : v.toUInt8.toUInt16 ||| (v >>> 8).toUInt8.toUInt16 <<< 8 = v := by
  apply UInt16.toBitVec_inj.mp
  apply BitVec.eq_of_getLsbD_eq
  intro i bound
  change ((v.toBitVec.setWidth 8).setWidth 16 |||
    ((v.toBitVec >>> 8).setWidth 8).setWidth 16 <<< 8).getLsbD i = _
  rw [BitVec.getLsbD_or,getLsbD_lane_zero _ i bound,getLsbD_lane _ 8 i bound]
  cases v.toBitVec.getLsbD i <;> simp
  omega

theorem lanes_u32 (v : UInt32) : v.toUInt8.toUInt32 ||| (v >>> 8).toUInt8.toUInt32 <<< 8 |||
    (v >>> 16).toUInt8.toUInt32 <<< 16 ||| (v >>> 24).toUInt8.toUInt32 <<< 24 = v := by
  apply UInt32.toBitVec_inj.mp
  apply BitVec.eq_of_getLsbD_eq
  intro i bound
  change ((v.toBitVec.setWidth 8).setWidth 32 ||| ((v.toBitVec >>> 8).setWidth 8).setWidth 32 <<< 8 |||
    ((v.toBitVec >>> 16).setWidth 8).setWidth 32 <<< 16 |||
    ((v.toBitVec >>> 24).setWidth 8).setWidth 32 <<< 24).getLsbD i = _
  simp only [BitVec.getLsbD_or,getLsbD_lane_zero _ i bound,getLsbD_lane v.toBitVec _ i bound]
  cases v.toBitVec.getLsbD i <;> simp
  omega

/-- Bit `i` of lane `k` of a byte placed at lane `j`. -/
theorem getLsbD_placed {w : Nat} (b : BitVec 8) (j k i : Nat) (bound : i < 8) (inside : k + 8 ≤ w)
    (apart : k = j ∨ k + 8 ≤ j ∨ j + 8 ≤ k) :
    ((b.setWidth w <<< j >>> k).setWidth 8).getLsbD i = (decide (k = j) && b.getLsbD i) := by
  simp only [BitVec.getLsbD_shiftLeft,BitVec.getLsbD_setWidth,BitVec.getLsbD_ushiftRight,bound]
  have low : k + i < w := by omega
  rcases apart with rfl | below | above
  · have narrow : i < w := by omega
    simp [low,narrow]
  · have : k + i < j := by omega
    have : k ≠ j := by omega
    simp [*]
  · have : ¬ k + i < j := by omega
    have h : k ≠ j := by omega
    have : b.getLsbD (k + i - j) = false := BitVec.getLsbD_of_ge _ _ (by omega)
    simp [*]

theorem lane_placed {w : Nat} (b : BitVec 8) (j k : Nat) (inside : k + 8 ≤ w)
    (apart : k = j ∨ k + 8 ≤ j ∨ j + 8 ≤ k) :
    ((b.setWidth w <<< j >>> k).setWidth 8) = if k = j then b else 0#8 := by
  apply BitVec.eq_of_getLsbD_eq
  intro i bound
  rw [getLsbD_placed b j k i bound inside apart]
  split <;> simp_all

/-- The joined word has each byte in its own lane. -/
theorem lane_joined (b0 b1 b2 b3 : BitVec 8) (k : Nat) (lane : k = 0 ∨ k = 8 ∨ k = 16 ∨ k = 24) :
    ((b0.setWidth 32 ||| b1.setWidth 32 <<< 8 ||| b2.setWidth 32 <<< 16 ||| b3.setWidth 32 <<< 24) >>>
      k).setWidth 8 = (if k = 0 then b0 else 0#8) ||| (if k = 8 then b1 else 0#8) |||
        (if k = 16 then b2 else 0#8) ||| (if k = 24 then b3 else 0#8) := by
  rw [← BitVec.shiftLeft_zero (b0.setWidth 32)]
  simp only [BitVec.ushiftRight_or_distrib,BitVec.setWidth_or]
  rw [lane_placed b0 0 k (by omega) (by omega),lane_placed b1 8 k (by omega) (by omega),
    lane_placed b2 16 k (by omega) (by omega),lane_placed b3 24 k (by omega) (by omega)]

theorem join_lanes_u32 (b0 b1 b2 b3 : UInt8) :
    let joined := b0.toUInt32 ||| b1.toUInt32 <<< 8 ||| b2.toUInt32 <<< 16 ||| b3.toUInt32 <<< 24
    joined.toUInt8 = b0 ∧ (joined >>> 8).toUInt8 = b1 ∧ (joined >>> 16).toUInt8 = b2 ∧
      (joined >>> 24).toUInt8 = b3 := by
  have lane := lane_joined b0.toBitVec b1.toBitVec b2.toBitVec b3.toBitVec
  refine ⟨?_,?_,?_,?_⟩
  · have h := lane 0 (by simp)
    rw [BitVec.ushiftRight_zero] at h
    exact UInt8.toBitVec_inj.mp (h.trans (by simp))
  · exact UInt8.toBitVec_inj.mp ((lane 8 (by simp)).trans (by simp))
  · exact UInt8.toBitVec_inj.mp ((lane 16 (by simp)).trans (by simp))
  · exact UInt8.toBitVec_inj.mp ((lane 24 (by simp)).trans (by simp))

theorem join_lanes_u16 (b0 b1 : UInt8) :
    let joined := b0.toUInt16 ||| b1.toUInt16 <<< 8
    joined.toUInt8 = b0 ∧ (joined >>> 8).toUInt8 = b1 := by
  have lane (k : Nat) (lane : k = 0 ∨ k = 8) :
      ((b0.toBitVec.setWidth 16 ||| b1.toBitVec.setWidth 16 <<< 8) >>> k).setWidth 8 =
        (if k = 0 then b0.toBitVec else 0#8) ||| (if k = 8 then b1.toBitVec else 0#8) := by
    rw [← BitVec.shiftLeft_zero (b0.toBitVec.setWidth 16)]
    simp only [BitVec.ushiftRight_or_distrib,BitVec.setWidth_or]
    rw [lane_placed b0.toBitVec 0 k (by omega) (by omega),lane_placed b1.toBitVec 8 k (by omega) (by omega)]
  refine ⟨?_,?_⟩
  · have h := lane 0 (by simp)
    rw [BitVec.ushiftRight_zero] at h
    exact UInt8.toBitVec_inj.mp (h.trans (by simp))
  · exact UInt8.toBitVec_inj.mp ((lane 8 (by simp)).trans (by simp))

/-! ### Codes onto all strings of a size -/

/-- Every string of `n` symbols encodes some value. -/
def Onto (encode : α → List β) (n : Nat) : Prop := ∀ bytes, bytes.length = n ↔ ∃ value, encode value = bytes

/-- A string that is long enough starts with a code. -/
theorem Onto.front {encode : α → List β} {n : Nat} (onto : Onto encode n) {bytes : List β} (room : n ≤ bytes.length) :
    ∃ value rest, bytes = encode value ++ rest := by
  obtain ⟨value,encoded⟩ := (onto (bytes.take n)).mp (List.length_take_of_le room)
  exact ⟨value,bytes.drop n,by rw [encoded,List.take_append_drop]⟩

/-- Changing one symbol gives the code of another value. -/
theorem Onto.set {encode : α → List β} {n : Nat} (onto : Onto encode n) (value : α) {position : Nat}
    {old symbol : β} (stored : (encode value)[position]? = some old) (changed : symbol ≠ old) :
    ∃ other ≠ value, (encode value).set position symbol = encode other := by
  have size : ((encode value).set position symbol).length = n := by
    rw [List.length_set]
    exact (onto _).mpr ⟨value,rfl⟩
  obtain ⟨other,encoded⟩ := (onto _).mp size
  refine ⟨other,?_,encoded.symm⟩
  rintro rfl
  have inside := (List.getElem?_eq_some_iff.mp stored).1
  rw [encoded,List.getElem?_set_self inside] at stored
  exact changed (Option.some.inj stored)

end Irrigation.Library.Codec
