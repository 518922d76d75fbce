import Irrigation.Library.Crc
import Irrigation.RepositorySlots

/-! One changed byte in a stored blob. Every header field but the generation is
compared with something, and the checksum covers the payload; a changed generation
passes all of it. -/
namespace Irrigation.Repository

open Library

/-! ### The checksum detects a changed byte -/

/-- The reflected polynomial of the checksum. -/
def crcPolynomial : BitVec 32 := 0xedb88320#32

theorem crc32_toBitVec (data : List UInt8) :
    (crc32 data).toBitVec = ~~~Crc.remainder crcPolynomial (BitVec.allOnes 32) (data.map (·.toBitVec)) := by
  have fold : ∀ crc : UInt32, (data.foldl crc32Byte crc).toBitVec =
      Crc.remainder crcPolynomial crc.toBitVec (data.map (·.toBitVec)) := by
    induction data with
    | nil => exact fun _ => rfl
    | cons byte rest ih => exact fun crc => ih (crc32Byte crc byte)
  exact congrArg (~~~·) (fold 0xffffffff)

theorem crc32_set_ne {payload : List UInt8} {position : Nat} {old byte : UInt8}
    (stored : payload[position]? = some old) (changed : byte ≠ old) :
    crc32 (payload.set position byte) ≠ crc32 payload := by
  obtain ⟨inside,rfl⟩ := List.getElem?_eq_some_iff.mp stored
  intro same
  have whole : payload.take position ++ payload[position] :: payload.drop (position + 1) = payload := by
    simp
  have h := congrArg UInt32.toBitVec same
  rw [crc32_toBitVec,crc32_toBitVec,List.set_eq_take_append_cons_drop,if_pos inside] at h
  conv_rhs at h => rw [← whole]
  simp only [BitVec.not_inj,List.map_append,List.map_cons] at h
  exact Crc.remainder_replace_ne (by decide) (by decide) _ _ _
    (fun equal => changed (UInt8.toBitVec_inj.mp equal)) h

/-! ### A changed header byte -/

theorem putU32_onto : Codec.Onto putU32 4 := by
  intro bytes
  constructor
  · intro size
    obtain ⟨b0,b1,b2,b3,rfl⟩ := List.length_eq_four.mp size
    obtain ⟨h0,h1,h2,h3⟩ := Codec.join_lanes_u32 b0 b1 b2 b3
    exact ⟨_,by rw [putU32,h0,h1,h2,h3]⟩
  · rintro ⟨value,rfl⟩
    rfl

theorem putU16_onto : Codec.Onto putU16 2 := by
  intro bytes
  constructor
  · intro size
    obtain ⟨b0,b1,rfl⟩ := List.length_eq_two.mp size
    obtain ⟨h0,h1⟩ := Codec.join_lanes_u16 b0 b1
    exact ⟨_,by rw [putU16,h0,h1]⟩
  · rintro ⟨value,rfl⟩
    rfl

/-- The headers that differ in the field stored at a position. -/
inductive HeaderAltered (header : Header) : Nat → Header → Prop
  | magic {position : Nat} (field : position < 4) (other : UInt32) (changed : other ≠ header.magic) :
      HeaderAltered header position { header with magic := other }
  | schemaVersion {position : Nat} (field : 4 ≤ position ∧ position < 6) (other : UInt16)
      (changed : other ≠ header.schemaVersion) :
      HeaderAltered header position { header with schemaVersion := other }
  | generation {position : Nat} (field : 6 ≤ position ∧ position < 10) (other : UInt32)
      (changed : other ≠ header.generation) :
      HeaderAltered header position { header with generation := other }
  | payloadLength {position : Nat} (field : 10 ≤ position ∧ position < 12) (other : UInt16)
      (changed : other ≠ header.payloadLength) :
      HeaderAltered header position { header with payloadLength := other }
  | storedCrc {position : Nat} (field : 12 ≤ position ∧ position < 16) (other : UInt32)
      (changed : other ≠ header.storedCrc) :
      HeaderAltered header position { header with storedCrc := other }

theorem headerBytes_set {header : Header} {position : Nat} {old byte : UInt8}
    (stored : (headerBytes header)[position]? = some old) (changed : byte ≠ old) :
    ∃ altered, HeaderAltered header position altered ∧
      (headerBytes header).set position byte = headerBytes altered := by
  have inside : position < 16 := (List.getElem?_eq_some_iff.mp stored).1
  simp only [headerBytes,List.getElem?_append,List.set_append,List.length_append,putU16_length,
    putU32_length] at stored ⊢
  by_cases magic : position < 4
  · have : position < 6 ∧ position < 10 ∧ position < 12 := by omega
    simp only [magic,this,if_true] at stored ⊢
    obtain ⟨other,differs,set⟩ := putU32_onto.set header.magic stored changed
    exact ⟨_,.magic magic other differs,by rw [set]⟩
  by_cases schema : position < 6
  · have later : position < 10 ∧ position < 12 := by omega
    simp only [magic,schema,later,if_true,if_false] at stored ⊢
    obtain ⟨other,differs,set⟩ := putU16_onto.set header.schemaVersion stored changed
    exact ⟨_,.schemaVersion ⟨by omega,schema⟩ other differs,by rw [set]⟩
  by_cases generation : position < 10
  · have later : position < 12 := by omega
    simp only [schema,generation,later,if_true,if_false] at stored ⊢
    obtain ⟨other,differs,set⟩ := putU32_onto.set header.generation stored changed
    exact ⟨_,.generation ⟨by omega,generation⟩ other differs,by rw [set]⟩
  by_cases length : position < 12
  · simp only [generation,length,if_true,if_false] at stored ⊢
    obtain ⟨other,differs,set⟩ := putU16_onto.set header.payloadLength stored changed
    exact ⟨_,.payloadLength ⟨by omega,length⟩ other differs,by rw [set]⟩
  · simp only [length,if_false] at stored ⊢
    obtain ⟨other,differs,set⟩ := putU32_onto.set header.storedCrc stored changed
    exact ⟨_,.storedCrc ⟨by omega,inside⟩ other differs,by rw [set]⟩

/-! ### Decoding an altered blob -/

section Altered

variable {boardZones : List Zone} {live : LiveConfiguration} {generation : UInt32}
variable {position : Nat} {old byte : UInt8}

def blobHeader (live : LiveConfiguration) (generation : UInt32) : Header :=
  ⟨configurationRepositoryMagic,irrigationConfigurationSchemaVersion,generation,
    (payloadBytes live).length.toUInt16,crc32 (payloadBytes live)⟩

theorem blobBytes_eq (live : LiveConfiguration) (generation : UInt32) :
    blobBytes live generation = headerBytes (blobHeader live generation) ++ payloadBytes live := rfl

/-- The bytes of the stored generation. -/
def InGeneration (position : Nat) : Prop := 6 ≤ position ∧ position < 10

theorem payloadBytes_count (valid : live.Valid boardZones) :
    (payloadBytes live).length.toUInt16.toNat = (payloadBytes live).length := by
  have small : (payloadBytes live).length ≤ 3025 := payloadBytes_length_le valid
  simp
  omega

theorem headerBytes_length (header : Header) :
    (headerBytes header).length = configurationRepositoryHeaderSize := rfl

/-- What decoding compares before it looks at the payload. -/
theorem decode_headerBytes_accepts {header : Header} {rest : List UInt8}
    (accepted : (configurationRepositoryDecode (headerBytes header ++ rest) boardZones).outcome.isOk ≠ false) :
    header.magic = configurationRepositoryMagic ∧
      header.schemaVersion = irrigationConfigurationSchemaVersion ∧
      rest.length = header.payloadLength.toNat ∧
      crc32 (rest.take header.payloadLength.toNat) = header.storedCrc := by
  rw [decode_headerBytes] at accepted
  split at accepted
  · exact absurd rfl accepted
  next magic =>
  split at accepted
  · exact absurd rfl accepted
  next schema =>
  split at accepted
  · exact absurd rfl accepted
  next fits =>
  simp only [not_or,ne_eq,not_not] at magic schema fits
  exact ⟨magic,schema,fits.2⟩

/-- A change of any other header field fails its own comparison. -/
theorem decode_headerAltered (valid : live.Valid boardZones) {altered : Header}
    (change : HeaderAltered (blobHeader live generation) position altered)
    (outside : ¬InGeneration position) :
    (configurationRepositoryDecode (headerBytes altered ++ payloadBytes live) boardZones).outcome.isOk =
      false := by
  have count := payloadBytes_count valid
  by_contra accepted
  obtain ⟨magic,schema,length,checksum⟩ := decode_headerBytes_accepts accepted
  cases change with
  | magic field other changed => exact changed magic
  | schemaVersion field other changed => exact changed schema
  | generation field other changed => exact outside field
  | payloadLength field other changed => exact changed (UInt16.toNat_inj.mp (length.symm.trans count.symm))
  | storedCrc field other changed =>
    change crc32 ((payloadBytes live).take (payloadBytes live).length.toUInt16.toNat) = other at checksum
    rw [count,List.take_length] at checksum
    exact changed checksum.symm

/-- A changed payload byte fails the checksum. -/
theorem decode_payloadAltered {index : Nat} (stored : (payloadBytes live)[index]? = some old)
    (changed : byte ≠ old) :
    (configurationRepositoryDecode (headerBytes (blobHeader live generation) ++
      (payloadBytes live).set index byte) boardZones).outcome.isOk = false := by
  by_contra accepted
  obtain ⟨_,_,length,checksum⟩ := decode_headerBytes_accepts accepted
  rw [← length,List.take_length] at checksum
  exact crc32_set_ne stored changed checksum

/-- A byte changed outside the generation is always noticed. -/
theorem decode_set_rejected (valid : live.Valid boardZones)
    (stored : (blobBytes live generation)[position]? = some old) (changed : byte ≠ old)
    (outside : ¬InGeneration position) :
    (configurationRepositoryDecode ((blobBytes live generation).set position byte) boardZones).outcome.isOk =
      false := by
  rw [blobBytes_eq,List.getElem?_append,headerBytes_length] at stored
  rw [blobBytes_eq,List.set_append,headerBytes_length]
  by_cases inHeader : position < configurationRepositoryHeaderSize
  · rw [if_pos inHeader] at stored ⊢
    obtain ⟨altered,change,set⟩ := headerBytes_set stored changed
    rw [set]
    exact decode_headerAltered valid change outside
  · rw [if_neg inHeader] at stored ⊢
    exact decode_payloadAltered stored changed

/-- A byte changed in the generation gives the intact blob of another generation. -/
theorem set_generation (stored : (blobBytes live generation)[position]? = some old) (changed : byte ≠ old)
    (inside : InGeneration position) :
    ∃ other ≠ generation, (blobBytes live generation).set position byte = blobBytes live other := by
  have inHeader : position < configurationRepositoryHeaderSize := by
    have := inside.2
    change position < 16
    omega
  rw [blobBytes_eq,List.getElem?_append,headerBytes_length,if_pos inHeader] at stored
  rw [blobBytes_eq,List.set_append,headerBytes_length,if_pos inHeader]
  obtain ⟨altered,change,set⟩ := headerBytes_set stored changed
  obtain ⟨atLeast,below⟩ := inside
  cases change with
  | generation field other differs => exact ⟨other,differs,by rw [set]; rfl⟩
  | magic field => omega
  | schemaVersion field => omega
  | payloadLength field => omega
  | storedCrc field => omega

end Altered

/-! ### Loading beside another slot -/

def SlotKey.other : SlotKey → SlotKey
  | .a => .b
  | .b => .a

/-- The slot a load takes its result from. -/
def selectedSlot (boardZones : List Zone) (contents : SlotContents) : Option SlotKey :=
  selectSlot (storedSlot boardZones contents .a) (storedSlot boardZones contents .b)

/-- A slot under generation `mine` gives way to the other one under `theirs`; the first
slot wins ties. -/
def Yields : SlotKey → UInt32 → UInt32 → Prop
  | .a, mine, theirs => mine < theirs
  | .b, mine, theirs => mine ≤ theirs

section Beside

variable {boardZones : List Zone} {contents : SlotContents} {key : SlotKey}
variable {mine theirs : UInt32 × IrrigationConfiguration}

theorem load_beside_unusable (unusable : storedContent boardZones contents key = none)
    (usable : storedContent boardZones contents key.other = some theirs) :
    (configurationRepositoryLoad memoryStorage boardZones contents).1 = .ok (theirs.2,theirs.1) ∧
      selectedSlot boardZones contents = some key.other := by
  rw [load_ok_iff memoryStorage_reliable.read,selectedSlot,selectSlot_eq]
  cases key with
  | a =>
    simp only [id,SlotKey.other] at usable ⊢
    simp [TwoSlot.current,unusable,usable]
  | b =>
    simp only [id,SlotKey.other] at usable ⊢
    simp [TwoSlot.current,unusable,usable]

theorem load_beside_yields (usable : storedContent boardZones contents key = some mine)
    (other : storedContent boardZones contents key.other = some theirs) (yields : Yields key mine.1 theirs.1) :
    (configurationRepositoryLoad memoryStorage boardZones contents).1 = .ok (theirs.2,theirs.1) ∧
      selectedSlot boardZones contents = some key.other := by
  rw [load_ok_iff memoryStorage_reliable.read,selectedSlot,selectSlot_eq]
  cases key with
  | a =>
    have behind : ¬theirs.1 ≤ mine.1 := not_le.mpr yields
    simp only [id,SlotKey.other] at other ⊢
    simp [TwoSlot.current,usable,other,behind]
  | b =>
    have behind : mine.1 ≤ theirs.1 := yields
    simp only [id,SlotKey.other] at other ⊢
    simp [TwoSlot.current,usable,other,behind]

theorem load_beside_keeps (usable : storedContent boardZones contents key = some mine)
    (other : storedContent boardZones contents key.other = some theirs) (keeps : ¬Yields key mine.1 theirs.1) :
    (configurationRepositoryLoad memoryStorage boardZones contents).1 = .ok (mine.2,mine.1) ∧
      selectedSlot boardZones contents = some key := by
  rw [load_ok_iff memoryStorage_reliable.read,selectedSlot,selectSlot_eq]
  cases key with
  | a =>
    have ahead : theirs.1 ≤ mine.1 := not_lt.mp keeps
    simp only [id,SlotKey.other] at other ⊢
    simp [TwoSlot.current,usable,other,ahead]
  | b =>
    have ahead : ¬mine.1 ≤ theirs.1 := keeps
    simp only [id,SlotKey.other] at other ⊢
    simp [TwoSlot.current,usable,other,ahead]

end Beside

/-! ### One changed byte beside an intact slot -/

/-- The bytes a save of this configuration writes. -/
def savedBlob (configuration : IrrigationConfiguration) (generation : UInt32) : List UInt8 :=
  let encoded := configurationRepositoryEncode configuration generation slotBuffer
  encoded.buffer.take encoded.blobLength

theorem savedBlob_eq {configuration : IrrigationConfiguration} {boardZones : List Zone}
    (valid : irrigationConfigurationValidate configuration boardZones = .ok) (generation : UInt32) :
    savedBlob configuration generation = blobBytes configuration.live generation := by
  have room : configurationRepositoryMaxBlobSize ≤ slotBuffer.length := by simp [slotBuffer]
  rw [savedBlob,encode_valid valid _ slotBuffer room,List.take_left' (blobBytes_length _ _)]

/-- The generation in the header of a blob. -/
def headerGeneration (blob : List UInt8) : UInt32 :=
  match getU32 (blob.drop 6) with
  | .ok (generation,_) => generation
  | .error _ => 0

theorem headerGeneration_blobBytes (live : LiveConfiguration) (generation : UInt32) :
    headerGeneration (blobBytes live generation) = generation := by
  obtain ⟨value,run,same⟩ := getU32_consumes generation
    (putU16 (payloadBytes live).length.toUInt16 ++ putU32 (crc32 (payloadBytes live)) ++ payloadBytes live)
  have tail : (blobBytes live generation).drop 6 = putU32 generation ++
      (putU16 (payloadBytes live).length.toUInt16 ++ putU32 (crc32 (payloadBytes live)) ++ payloadBytes live) :=
    rfl
  rw [headerGeneration,tail,run]
  exact same

/-- Two slots as saves leave them: valid configurations, one of them newer. -/
structure SavedPair (boardZones : List Zone) where
  configuration : SlotKey → IrrigationConfiguration
  generation : SlotKey → UInt32
  newest : SlotKey
  valid : ∀ key, irrigationConfigurationValidate (configuration key) boardZones = .ok
  ordered : generation newest.other < generation newest

namespace SavedPair

variable {boardZones : List Zone} (pair : SavedPair boardZones)

def blob (key : SlotKey) : List UInt8 := savedBlob (pair.configuration key) (pair.generation key)

def alteredBlob (key : SlotKey) (position : Nat) (byte : UInt8) : List UInt8 :=
  (pair.blob key).set position byte

/-- Both slots after one byte of one of them changed. -/
def altered (key : SlotKey) (position : Nat) (byte : UInt8) : SlotContents :=
  Function.update (fun key => some (pair.blob key)) key (some (pair.alteredBlob key position byte))

/-- What was stored under a key, as a load would report it. -/
def Stored (key : SlotKey) (loaded : IrrigationConfiguration) (generation : UInt32) : Prop :=
  generation = pair.generation key ∧ loaded.live = (pair.configuration key).live

/-- The load returns the newest configuration, or the older one when the newest blob was
altered, and takes the altered blob only for what was stored there. -/
def LoadFaithful (key : SlotKey) (position : Nat) (byte : UInt8) : Prop :=
  ∃ loaded generation, (configurationRepositoryLoad memoryStorage boardZones
      (pair.altered key position byte)).1 = .ok (loaded,generation) ∧
    (pair.Stored pair.newest loaded generation ∨
      key = pair.newest ∧ pair.Stored pair.newest.other loaded generation) ∧
    (selectedSlot boardZones (pair.altered key position byte) = some key →
      pair.Stored key loaded generation)

/-- The altered blob is decoded only to what was stored there. -/
def DecodeFaithful (key : SlotKey) (position : Nat) (byte : UInt8) : Prop :=
  ∀ decoded, (configurationRepositoryDecode (pair.alteredBlob key position byte) boardZones).outcome =
      .ok decoded →
    (configurationRepositoryDecode (pair.alteredBlob key position byte) boardZones).generation =
        some (pair.generation key) ∧
      decoded.live = (pair.configuration key).live

/-- The altered header carries a generation that gives way to the other slot. -/
def AlteredYields (key : SlotKey) (position : Nat) (byte : UInt8) : Prop :=
  Yields key (headerGeneration (pair.alteredBlob key position byte)) (pair.generation key.other)

theorem blob_eq (key : SlotKey) :
    pair.blob key = blobBytes (pair.configuration key).live (pair.generation key) :=
  savedBlob_eq (pair.valid key) _

theorem live_valid (key : SlotKey) : (pair.configuration key).live.Valid boardZones :=
  ((validate_ok_iff _ _).mp (pair.valid key)).2

/-- The slot that was not altered keeps what was stored. -/
theorem content_other (key : SlotKey) (position : Nat) (byte : UInt8) : ∃ decoded,
    storedContent boardZones (pair.altered key position byte) key.other =
      some (pair.generation key.other,decoded) ∧
      pair.Stored key.other decoded (pair.generation key.other) := by
  obtain ⟨decoded,content,same⟩ := content_blobBytes (pair.live_valid key.other) (pair.generation key.other)
  have different : key.other ≠ key := by cases key <;> simp [SlotKey.other]
  refine ⟨decoded,?_,rfl,same⟩
  rw [← pair.blob_eq key.other] at content
  rw [← content,storedContent,storedSlot,altered,Function.update_of_ne different]

variable {pair} {key : SlotKey} {position : Nat} {old byte : UInt8}

theorem content_altered : storedContent boardZones (pair.altered key position byte) key =
    (slotOf boardZones (readOutcome configurationRepositoryMaxBlobSize
      (some (pair.alteredBlob key position byte)))).content := by
  rw [storedContent,storedSlot,altered,Function.update_self]

/-- The intact slot is what the claimants expect: the newest, or the older one when the
newest was altered. -/
theorem stored_other {loaded : IrrigationConfiguration} {generation : UInt32}
    (stored : pair.Stored key.other loaded generation) :
    pair.Stored pair.newest loaded generation ∨
      key = pair.newest ∧ pair.Stored pair.newest.other loaded generation := by
  by_cases same : key = pair.newest
  · subst same
    exact .inr ⟨rfl,stored⟩
  · have newest : key.other = pair.newest := by
      cases key <;> cases h : pair.newest <;> simp_all [SlotKey.other]
    exact .inl (newest ▸ stored)

/-- When the load falls back to the intact slot it is faithful. -/
theorem loadFaithful_of_other {decoded : IrrigationConfiguration}
    (load : (configurationRepositoryLoad memoryStorage boardZones (pair.altered key position byte)).1 =
      .ok (decoded,pair.generation key.other))
    (selected : selectedSlot boardZones (pair.altered key position byte) = some key.other)
    (stored : pair.Stored key.other decoded (pair.generation key.other)) :
    pair.LoadFaithful key position byte := by
  refine ⟨decoded,_,load,stored_other stored,fun taken => ?_⟩
  rw [selected] at taken
  cases key <;> simp [SlotKey.other] at taken

theorem faithful_outside (stored : (pair.blob key)[position]? = some old) (changed : byte ≠ old)
    (outside : ¬InGeneration position) :
    pair.LoadFaithful key position byte ∧ pair.DecodeFaithful key position byte := by
  have rejected : (configurationRepositoryDecode (pair.alteredBlob key position byte) boardZones).outcome.isOk =
      false := by
    rw [blob_eq] at stored
    rw [alteredBlob,blob_eq]
    exact decode_set_rejected (pair.live_valid key) stored changed outside
  obtain ⟨decoded,usable,intact⟩ := pair.content_other key position byte
  obtain ⟨load,selected⟩ := load_beside_unusable (content_altered.trans (content_rejected rejected)) usable
  refine ⟨loadFaithful_of_other load selected intact,fun accepted ok => ?_⟩
  rw [ok] at rejected
  exact absurd rejected (by simp [Except.isOk,Except.toBool])

/-- A generation byte changed: the altered slot decodes under the altered generation. -/
theorem altered_inside (stored : (pair.blob key)[position]? = some old) (changed : byte ≠ old)
    (inside : InGeneration position) :
    ∃ other decoded, headerGeneration (pair.alteredBlob key position byte) = other ∧
      other ≠ pair.generation key ∧
      configurationRepositoryDecode (pair.alteredBlob key position byte) boardZones =
        ⟨some other,.ok decoded⟩ ∧
      storedContent boardZones (pair.altered key position byte) key = some (other,decoded) := by
  rw [blob_eq] at stored
  obtain ⟨other,differs,set⟩ := set_generation stored changed inside
  rw [content_altered,alteredBlob,blob_eq,set,headerGeneration_blobBytes]
  obtain ⟨decoded,run,_⟩ := decode_blobBytes (pair.live_valid key) other
  refine ⟨other,decoded,rfl,differs,run,?_⟩
  rw [readOutcome,if_pos (blobBytes_room (pair.live_valid key) other),slotOf,run]
  rfl

theorem not_decodeFaithful_inside (stored : (pair.blob key)[position]? = some old) (changed : byte ≠ old)
    (inside : InGeneration position) : ¬pair.DecodeFaithful key position byte := by
  obtain ⟨other,decoded,_,differs,run,_⟩ := altered_inside stored changed inside
  intro faithful
  have h := (faithful decoded (by rw [run])).1
  rw [run] at h
  exact differs (Option.some.inj h)

theorem loadFaithful_inside_iff (stored : (pair.blob key)[position]? = some old) (changed : byte ≠ old)
    (inside : InGeneration position) :
    pair.LoadFaithful key position byte ↔ pair.AlteredYields key position byte := by
  obtain ⟨other,mine,header,differs,_,content⟩ := altered_inside stored changed inside
  obtain ⟨theirs,usable,intact⟩ := pair.content_other key position byte
  rw [AlteredYields,header]
  constructor
  · rintro ⟨loaded,generation,load,_,faithful⟩
    by_contra keeps
    obtain ⟨load',selected⟩ := load_beside_keeps content usable keeps
    rw [load'] at load
    cases load
    exact differs (faithful selected).1
  · intro yields
    obtain ⟨load,selected⟩ := load_beside_yields content usable yields
    exact loadFaithful_of_other load selected intact

/-- One changed byte is harmless exactly when it lies outside the stored generation;
inside it, the load is only saved by a generation that gives way to the other slot. -/
theorem one_byte_changed_iff (pair : SavedPair boardZones) (key : SlotKey) (position : Nat) (old byte : UInt8)
    (stored : (pair.blob key)[position]? = some old) (changed : byte ≠ old) :
    (pair.LoadFaithful key position byte ∧ pair.DecodeFaithful key position byte ↔ ¬InGeneration position) ∧
    (pair.LoadFaithful key position byte ↔ ¬InGeneration position ∨ pair.AlteredYields key position byte) := by
  by_cases inside : InGeneration position
  · have decode := not_decodeFaithful_inside stored changed inside
    have load := loadFaithful_inside_iff stored changed inside
    exact ⟨⟨fun both => absurd both.2 decode,fun outside => absurd inside outside⟩,
      load.trans ⟨.inr,fun either => either.resolve_left (not_not.mpr inside)⟩⟩
  · have faithful := faithful_outside stored changed inside
    exact ⟨⟨fun _ => inside,fun _ => faithful⟩,⟨fun _ => .inl inside,fun _ => faithful.1⟩⟩

end SavedPair

/-! ### A rolled-back configuration -/

/-- The defaults in the first slot and their successor in the second. -/
def devPair : SavedPair devZones where
  configuration
    | .a => devKitDefaults devZones
    | .b => renumberedDefaults
  generation
    | .a => 1
    | .b => 2
  newest := .b
  valid
    | .a => devKitDefaults_valid devZones_usable
    | .b => renumberedDefaults_valid
  ordered := (by decide : (1 : UInt32) < 2)

theorem set_high_generation_byte (live : LiveConfiguration) :
    (blobBytes live 1)[9]? = some 0 ∧ (blobBytes live 1).set 9 1 = blobBytes live 0x01000001 :=
  ⟨rfl,rfl⟩

theorem devPair_stored : (devPair.blob .a)[9]? = some 0 := by
  rw [devPair.blob_eq]
  exact (set_high_generation_byte _).1

/-- A changed byte in the older slot puts it above the intact newer one. -/
theorem devPair_rolled_back : ∃ loaded,
    (configurationRepositoryLoad memoryStorage devZones (devPair.altered .a 9 1)).1 = .ok (loaded,0x01000001) ∧
      loaded.live = (devPair.configuration .a).live ∧
      loaded.live ≠ (devPair.configuration devPair.newest).live := by
  obtain ⟨old,content,same⟩ := content_blobBytes devKitDefaults_live_valid 0x01000001
  obtain ⟨new,usable,_⟩ := devPair.content_other .a 9 1
  have altered : devPair.alteredBlob .a 9 1 = blobBytes (devKitDefaults devZones).live 0x01000001 := by
    rw [SavedPair.alteredBlob,devPair.blob_eq]
    exact (set_high_generation_byte _).2
  rw [← altered] at content
  have keeps : ¬Yields .a 0x01000001 2 := by unfold Yields; decide
  obtain ⟨load,_⟩ := load_beside_keeps (SavedPair.content_altered.trans content) usable keeps
  refine ⟨old,load,same,fun equal => ?_⟩
  have differs := congrArg LiveConfiguration.nextProgramId (same.symm.trans equal)
  exact absurd differs (by decide)

theorem one_byte_changed_iff_devPair :
    (devPair.LoadFaithful .a 9 1 ∧ devPair.DecodeFaithful .a 9 1 ↔ ¬InGeneration 9) ∧
    (devPair.LoadFaithful .a 9 1 ↔ ¬InGeneration 9 ∨ devPair.AlteredYields .a 9 1) :=
  devPair.one_byte_changed_iff .a 9 0 1 devPair_stored (by decide)

end Irrigation.Repository
