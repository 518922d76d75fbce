import Irrigation.Library.Scanning
import Mathlib.Data.List.Find

/-! Percent-encoding, and the queries of `key=value` pairs that are made of encoded texts. -/
namespace UrlEncoding

open Scanning

def hexDigitOf (value : Nat) : UInt8 := if value < 10 then (48 + value).toUInt8 else (55 + value).toUInt8

/-- A byte as `%` and two digits. -/
def escape (byte : UInt8) : List UInt8 := ['%'.toUInt8,hexDigitOf (byte.toNat / 16),hexDigitOf (byte.toNat % 16)]

/-- The bytes that an encoder leaves as they are, and whether it writes a blank as a plus. -/
structure Encoder where
  plain : UInt8 → Bool
  plus : Bool

variable (encoder : Encoder)

def Encoder.encodeByte (byte : UInt8) : List UInt8 :=
  if encoder.plus = true ∧ byte = ' '.toUInt8 then ['+'.toUInt8]
  else if encoder.plain byte then [byte]
  else escape byte

def Encoder.encode (text : List UInt8) : List UInt8 := text.flatMap encoder.encodeByte

/-- No plain byte has a meaning of its own in an encoded text or in a query. -/
structure Encoder.Reserves : Prop where
  percent : encoder.plain '%'.toUInt8 = false
  plus : encoder.plain '+'.toUInt8 = false
  pairs : encoder.plain '&'.toUInt8 = false
  equals : encoder.plain '='.toUInt8 = false

/-- What a decoder makes of each form that an encoder writes. -/
structure Decodes (decode : List UInt8 → List UInt8) : Prop where
  nil : decode [] = []
  plus : ∀ rest, decode ('+'.toUInt8 :: rest) = ' '.toUInt8 :: decode rest
  escaped : ∀ byte rest, decode (escape byte ++ rest) = byte :: decode rest
  plain : ∀ byte rest, byte ≠ '+'.toUInt8 → byte ≠ '%'.toUInt8 → decode (byte :: rest) = byte :: decode rest

/-! ### Encoded texts -/

@[simp] theorem Encoder.encode_nil : encoder.encode [] = [] := rfl

@[simp] theorem Encoder.encode_cons (byte : UInt8) (text : List UInt8) :
    encoder.encode (byte :: text) = encoder.encodeByte byte ++ encoder.encode text := rfl

@[simp] theorem Encoder.encode_append (first second : List UInt8) :
    encoder.encode (first ++ second) = encoder.encode first ++ encoder.encode second := List.flatMap_append

theorem hexDigitOf_toNat {value : Nat} (small : value < 16) :
    (hexDigitOf value).toNat = if value < 10 then 48 + value else 55 + value := by
  unfold hexDigitOf
  split
  · simp; omega
  · simp; omega

theorem hexDigitOf_isxdigit {value : Nat} (small : value < 16) : isxdigit (hexDigitOf value) = true := by
  have code := hexDigitOf_toNat small
  simp only [isxdigit,isdigit,Bool.or_eq_true,Bool.and_eq_true,decide_eq_true_eq,UInt8.le_iff_toNat_le,code,
    UInt8.reduceToNat]
  split <;> omega

theorem halves_small (byte : UInt8) : byte.toNat / 16 < 16 ∧ byte.toNat % 16 < 16 := by
  have bounded := byte.toNat_lt
  omega

/-- Only the percent sign and upper case digits are written for a byte. -/
theorem mem_escape {byte written : UInt8} (member : written ∈ escape byte) :
    written = '%'.toUInt8 ∨ isxdigit written = true := by
  obtain ⟨high,low⟩ := halves_small byte
  simp only [escape,List.mem_cons,List.not_mem_nil,or_false] at member
  rcases member with rfl | rfl | rfl
  · exact .inl rfl
  · exact .inr (hexDigitOf_isxdigit high)
  · exact .inr (hexDigitOf_isxdigit low)

variable {encoder}

theorem Encoder.mem_encode {text : List UInt8} {written : UInt8} (member : written ∈ encoder.encode text) :
    written = '+'.toUInt8 ∨ encoder.plain written = true ∨ written = '%'.toUInt8 ∨ isxdigit written = true := by
  obtain ⟨byte,_,inside⟩ := List.mem_flatMap.mp member
  rw [encodeByte] at inside
  split_ifs at inside with blank plain
  · exact .inl (List.mem_singleton.mp inside)
  · rw [List.mem_singleton.mp inside]
    exact .inr (.inl plain)
  · exact .inr (.inr (mem_escape inside))

/-- An encoded text neither ends a pair nor a key. -/
theorem Encoder.Reserves.separated (reserves : encoder.Reserves) (text : List UInt8) :
    '&'.toUInt8 ∉ encoder.encode text ∧ '='.toUInt8 ∉ encoder.encode text := by
  constructor
  · intro member
    rcases Encoder.mem_encode member with plus | plain | percent | digit
    · exact absurd plus (by decide)
    · exact absurd (plain.symm.trans reserves.pairs) (by decide)
    · exact absurd percent (by decide)
    · exact absurd digit (by decide)
  · intro member
    rcases Encoder.mem_encode member with plus | plain | percent | digit
    · exact absurd plus (by decide)
    · exact absurd (plain.symm.trans reserves.equals) (by decide)
    · exact absurd percent (by decide)
    · exact absurd digit (by decide)

/-- A decoder gets back every byte that the encoder wrote. -/
theorem Decodes.encodeByte {decode : List UInt8 → List UInt8} (decodes : Decodes decode) (reserves : encoder.Reserves)
    (byte : UInt8) (rest : List UInt8) : decode (encoder.encodeByte byte ++ rest) = byte :: decode rest := by
  rw [Encoder.encodeByte]
  split_ifs with blank plain
  · rw [blank.2]
    exact decodes.plus rest
  · refine decodes.plain byte rest ?_ ?_
    · rintro rfl
      exact absurd (plain.symm.trans reserves.plus) (by decide)
    · rintro rfl
      exact absurd (plain.symm.trans reserves.percent) (by decide)
  · exact decodes.escaped byte rest

theorem Decodes.encode {decode : List UInt8 → List UInt8} (decodes : Decodes decode) (reserves : encoder.Reserves)
    (text : List UInt8) : decode (encoder.encode text) = text := by
  induction text with
  | nil => exact decodes.nil
  | cons byte rest ih => rw [Encoder.encode_cons,decodes.encodeByte reserves,ih]

/-! ### Lengths -/

theorem Encoder.encodeByte_length (byte : UInt8) : (encoder.encodeByte byte).length =
    if (encoder.plus = true ∧ byte = ' '.toUInt8) ∨ encoder.plain byte = true then 1 else 3 := by
  rw [encodeByte]
  split_ifs with blank plain neither <;> first | rfl | tauto

/-- Every byte that is not plain takes two more. -/
theorem Encoder.encode_length {text : List UInt8} {escaped : UInt8 → Bool}
    (each : ∀ byte ∈ text, escaped byte = true ↔ ¬((encoder.plus = true ∧ byte = ' '.toUInt8) ∨ encoder.plain byte = true)) :
    (encoder.encode text).length = text.length + 2 * text.countP escaped := by
  induction text with
  | nil => rfl
  | cons byte rest ih =>
    obtain ⟨first,others⟩ := List.forall_mem_cons.mp each
    rw [encode_cons,List.length_append,encodeByte_length,ih others,List.countP_cons,List.length_cons]
    by_cases kept : (encoder.plus = true ∧ byte = ' '.toUInt8) ∨ encoder.plain byte = true
    · have unescaped : ¬escaped byte = true := fun written => first.mp written kept
      rw [if_pos kept,if_neg unescaped]
      omega
    · rw [if_neg kept,if_pos (first.mpr kept)]
      omega

/-! ### Queries -/

abbrev Pairs := List (List UInt8 × List UInt8)

def pairText (pair : List UInt8 × List UInt8) : List UInt8 := pair.1 ++ '='.toUInt8 :: pair.2

/-- The pairs with an ampersand between any two. -/
def queryText (pairs : Pairs) : List UInt8 := ['&'.toUInt8].intercalate (pairs.map pairText)

/-- The first of the pairs with a key. -/
def valueOf (pairs : Pairs) (key : List UInt8) : Option (List UInt8) :=
  (pairs.find? fun pair => pair.1 = key).map (·.2)

/-- Keys and values without separators in them. -/
def PlainPairs (pairs : Pairs) : Prop :=
  ∀ pair ∈ pairs, '&'.toUInt8 ∉ pair.1 ∧ '='.toUInt8 ∉ pair.1 ∧ '&'.toUInt8 ∉ pair.2

/-- A reader that cuts a query at the ampersands and looks for what is in front of the first
equals sign. -/
def scanQuery (query key : List UInt8) : Option (List UInt8) :=
  ((query.splitOn '&'.toUInt8).find? fun pair => pair.take (key.length + 1) = key ++ ['='.toUInt8]).map
    (·.drop (key.length + 1))

theorem pairText_take_iff {pair : List UInt8 × List UInt8} {key : List UInt8} (plain : '='.toUInt8 ∉ pair.1)
    (keyPlain : '='.toUInt8 ∉ key) : (pairText pair).take (key.length + 1) = key ++ ['='.toUInt8] ↔ pair.1 = key := by
  constructor
  · intro taken
    have split : pair.1 ++ '='.toUInt8 :: pair.2 = key ++ '='.toUInt8 :: (pairText pair).drop (key.length + 1) := by
      rw [List.append_cons key,← taken,List.take_append_drop]
      rfl
    have before (text rest : List UInt8) (free : '='.toUInt8 ∉ text) :
        (text ++ '='.toUInt8 :: rest).takeWhile (· ≠ '='.toUInt8) = text := by
      rw [List.takeWhile_append_of_pos,List.takeWhile_cons_of_neg (by simp),List.append_nil]
      intro byte member
      rw [decide_eq_true_eq]
      rintro rfl
      exact free member
    rw [← before pair.1 pair.2 plain,split,before key _ keyPlain]
  · rintro rfl
    have length : pair.1.length + 1 = (pair.1 ++ ['='.toUInt8]).length := by simp
    rw [pairText,List.append_cons,length,List.take_left]

/-- Scanning finds the value of the first pair with the key. -/
theorem scanQuery_queryText {pairs : Pairs} (plain : PlainPairs pairs) {key : List UInt8} (keyPlain : '='.toUInt8 ∉ key)
    (some : pairs ≠ []) : scanQuery (queryText pairs) key = valueOf pairs key := by
  have free : ∀ text ∈ pairs.map pairText, '&'.toUInt8 ∉ text := by
    intro text member
    obtain ⟨pair,inside,rfl⟩ := List.mem_map.mp member
    obtain ⟨first,_,second⟩ := plain pair inside
    simp only [pairText,List.mem_append,List.mem_cons]
    rintro (inKey | equals | inValue)
    · exact first inKey
    · exact absurd equals (by decide)
    · exact second inValue
  rw [scanQuery,queryText,List.splitOn_intercalate _ free (by simpa using some),valueOf,List.find?_map,Option.map_map]
  have sought : pairs.find? ((fun pair => decide (pair.take (key.length + 1) = key ++ ['='.toUInt8])) ∘ pairText) =
      pairs.find? fun pair => pair.1 = key := by
    refine List.find?_congr fun pair member => ?_
    simp only [Function.comp_apply,pairText_take_iff (plain pair member).2.1 keyPlain]
  rw [sought]
  cases found : pairs.find? fun pair => pair.1 = key with
  | none => rfl
  | some pair =>
    have named : pair.1 = key := by simpa using List.find?_some found
    have length : key.length + 1 = (pair.1 ++ ['='.toUInt8]).length := by simp [named]
    rw [Option.map_some,Option.map_some,Function.comp_apply,pairText,List.append_cons,length,List.drop_left]

end UrlEncoding
