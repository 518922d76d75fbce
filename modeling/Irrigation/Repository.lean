import Irrigation.Configuration
import Irrigation.Library.Codec

/-! The two-slot configuration repository: the binary format, its writer and reader,
and the save and load protocols over an arbitrary storage device. The repository's
RAM buffers are overwritten before every use and are not kept between calls. -/
namespace Irrigation.Repository

open Library.Codec

def configurationRepositoryMagic : UInt32 := 0x47464349
abbrev configurationRepositoryHeaderSize : Nat := 16
abbrev configurationRepositoryMaxTextSize : Nat := irrigationConfigurationIdSize
abbrev configurationRepositoryMaxPayloadSize : Nat :=
  13 + irrigationMaxZones * (2 * configurationRepositoryMaxTextSize) +
    irrigationMaxPrograms * (2 * configurationRepositoryMaxTextSize + 1 +
      irrigationMaxProgramSteps * (configurationRepositoryMaxTextSize + 4)) +
    irrigationMaxSchedules * (2 * configurationRepositoryMaxTextSize + 4)
abbrev configurationRepositoryMaxBlobSize : Nat :=
  configurationRepositoryHeaderSize + configurationRepositoryMaxPayloadSize

inductive ConfigurationRepositoryResult where
  | ok | notFound | corrupt | incompatible | invalidConfiguration | storageError
  deriving DecidableEq, Repr

/-! ### Checksum -/

def crc32Bit (crc : UInt32) : UInt32 := (crc >>> 1) ^^^ (0xedb88320 &&& -(crc &&& 1))

def crc32Byte (crc : UInt32) (byte : UInt8) : UInt32 := crc32Bit^[8] (crc ^^^ byte.toUInt32)

def crc32 (data : List UInt8) : UInt32 := ~~~ data.foldl crc32Byte 0xffffffff

/-! ### Writing -/

/-- The bytes stored through the cursor so far, and whether the writer is still
going. Bytes stored before a refusal stay in the buffer. -/
structure Written where
  complete : Bool
  bytes : List UInt8
  deriving DecidableEq, Repr

namespace Written

def put (bytes : List UInt8) : Written := ⟨true,bytes⟩

/-- The second writer only runs when the first was not refused. -/
def andThen (first second : Written) : Written :=
  if first.complete then ⟨second.complete,first.bytes ++ second.bytes⟩ else first

def each {α : Type} (write : α → Written) : List α → Written
  | [] => put []
  | entry :: rest => (write entry).andThen (each write rest)

end Written

def putU16 (value : UInt16) : List UInt8 := [value.toUInt8,(value >>> 8).toUInt8]

def putU32 (value : UInt32) : List UInt8 :=
  [value.toUInt8,(value >>> 8).toUInt8,(value >>> 16).toUInt8,(value >>> 24).toUInt8]

def putText {n : Nat} (text : CharArray n) : Written :=
  let length := text.strnlen configurationRepositoryMaxTextSize
  if length = 0 ∨ length ≥ configurationRepositoryMaxTextSize then ⟨false,[]⟩
  else .put (length.toUInt8 :: text.bytes.take length)

def putZone (zone : IrrigationZoneConfiguration) : Written :=
  (putText zone.zoneId).andThen (putText zone.displayName)

def putStep (step : IrrigationProgramStepConfiguration) : Written :=
  (putText step.zoneId).andThen (.put (putU32 step.durationMs))

def putProgram (program : IrrigationProgramConfiguration) : Written :=
  (putText program.programId).andThen <| (putText program.displayName).andThen <|
    (Written.put [program.stepCount]).andThen (.each putStep program.liveSteps)

def putSchedule (schedule : IrrigationScheduleConfiguration) : Written :=
  (putText schedule.scheduleId).andThen <|
    (Written.put [if schedule.enabled then 1 else 0,schedule.weekdayMask,schedule.hour,
      schedule.minute]).andThen (putText schedule.programId)

def putPayload (configuration : IrrigationConfiguration) : Written :=
  (Written.put (putU16 configuration.schemaVersion ++
    [configuration.zoneCount,configuration.programCount,configuration.scheduleCount] ++
    putU32 configuration.nextProgramId ++ putU32 configuration.nextScheduleId)).andThen <|
  (Written.each putZone configuration.liveZones).andThen <|
  (Written.each putProgram configuration.livePrograms).andThen <|
  Written.each putSchedule configuration.liveSchedules

def putHeader (generation : UInt32) (payload : List UInt8) : List UInt8 :=
  putU32 configurationRepositoryMagic ++ putU16 irrigationConfigurationSchemaVersion ++
    putU32 generation ++ putU16 payload.length.toUInt16 ++ putU32 (crc32 payload)

/-- The buffer after `bytes` are stored from `offset` on. -/
def overwrite (buffer : List UInt8) (offset : Nat) (bytes : List UInt8) : List UInt8 :=
  buffer.take offset ++ bytes ++ buffer.drop (offset + bytes.length)

/-- The outcome of an encode: the caller's buffer afterwards and the reported length. -/
structure Encoded where
  result : ConfigurationRepositoryResult
  buffer : List UInt8
  blobLength : Nat
  deriving DecidableEq, Repr

/-- `buffer` is the caller's memory of `capacity` bytes. A step count above its
array is undefined in the source and cut off here; validated callers never have it. -/
def configurationRepositoryEncode (configuration : IrrigationConfiguration) (generation : UInt32)
    (buffer : List UInt8) : Encoded :=
  if buffer.length < configurationRepositoryMaxBlobSize ∨
      configuration.zoneCount.toNat > irrigationMaxZones ∨
      configuration.programCount.toNat > irrigationMaxPrograms ∨
      configuration.scheduleCount.toNat > irrigationMaxSchedules then
    ⟨.invalidConfiguration,buffer,0⟩
  else if configuration.schemaVersion ≠ irrigationConfigurationSchemaVersion then
    ⟨.incompatible,buffer,0⟩
  else
    let payload := putPayload configuration
    let stored := overwrite buffer configurationRepositoryHeaderSize payload.bytes
    if payload.complete = false ∨
        configurationRepositoryHeaderSize + payload.bytes.length > buffer.length ∨
        payload.bytes.length > 65535 then
      ⟨.invalidConfiguration,stored,0⟩
    else
      ⟨.ok,overwrite stored 0 (putHeader generation payload.bytes),
        configurationRepositoryHeaderSize + payload.bytes.length⟩

/-! ### Reading -/

/-- Why decoding stopped: the source returned a result, or a read left the blob. -/
inductive DecodeStop where
  | returned (result : ConfigurationRepositoryResult)
  | outOfBounds
  deriving DecidableEq, Repr

abbrev BlobReader := Reader DecodeStop UInt8

def getByte : BlobReader UInt8
  | [] => .error .outOfBounds
  | byte :: cursor => .ok (byte,cursor)

def getU16 : BlobReader UInt16 := do
  let low ← getByte
  let high ← getByte
  pure (low.toUInt16 ||| high.toUInt16 <<< 8)

def getU32 : BlobReader UInt32 := do
  let b0 ← getByte
  let b1 ← getByte
  let b2 ← getByte
  let b3 ← getByte
  pure (b0.toUInt32 ||| b1.toUInt32 <<< 8 ||| b2.toUInt32 <<< 16 ||| b3.toUInt32 <<< 24)

/-- Every caller turns a failed `get_text` into CORRUPT. -/
def getText {n : Nat} : BlobReader (CharArray n)
  | [] => .error (.returned .corrupt)
  | length :: cursor =>
    if room : length ≠ 0 ∧ length.toNat < n ∧ length.toNat ≤ cursor.length then
      .ok (CharArray.store (cursor.take length.toNat) (by simp; omega),cursor.drop length.toNat)
    else .error (.returned .corrupt)

def corruptUnless (holds : List UInt8 → Bool) : BlobReader Unit := check holds (.returned .corrupt)

def getZone : BlobReader IrrigationZoneConfiguration := do
  let zoneId ← getText
  let displayName ← getText
  pure ⟨zoneId,displayName⟩

def getStep : BlobReader IrrigationProgramStepConfiguration := do
  let zoneId ← getText
  corruptUnless (fun cursor => 4 ≤ cursor.length)
  let durationMs ← getU32
  pure ⟨zoneId,durationMs⟩

def getProgram : BlobReader IrrigationProgramConfiguration := do
  let programId ← getText
  let displayName ← getText
  corruptUnless (fun cursor => 1 ≤ cursor.length)
  let stepCount ← getByte
  corruptUnless (fun _ => stepCount.toNat ≤ irrigationMaxProgramSteps)
  let steps ← repeated getStep stepCount.toNat
  pure ⟨programId,displayName,fill zeroStep steps,stepCount⟩

def getSchedule : BlobReader IrrigationScheduleConfiguration := do
  let scheduleId ← getText
  corruptUnless (fun cursor => 4 ≤ cursor.length)
  let enabled ← getByte
  let weekdayMask ← getByte
  let hour ← getByte
  let minute ← getByte
  let programId ← getText
  pure ⟨scheduleId,enabled != 0,weekdayMask,hour,minute,programId⟩

def getPayload : BlobReader IrrigationConfiguration := do
  corruptUnless (fun cursor => 13 ≤ cursor.length)
  let schemaVersion ← getU16
  let zoneCount ← getByte
  let programCount ← getByte
  let scheduleCount ← getByte
  let nextProgramId ← getU32
  let nextScheduleId ← getU32
  check (fun _ => schemaVersion = irrigationConfigurationSchemaVersion ∧
    zoneCount.toNat ≤ irrigationMaxZones ∧ programCount.toNat ≤ irrigationMaxPrograms ∧
    scheduleCount.toNat ≤ irrigationMaxSchedules) (.returned .incompatible)
  let zones ← repeated getZone zoneCount.toNat
  let programs ← repeated getProgram programCount.toNat
  let schedules ← repeated getSchedule scheduleCount.toNat
  pure ⟨schemaVersion,fill zeroZone zones,fill zeroProgram programs,fill zeroSchedule schedules,
    zoneCount,programCount,scheduleCount,nextProgramId,nextScheduleId⟩

structure Header where
  magic : UInt32
  schemaVersion : UInt16
  generation : UInt32
  payloadLength : UInt16
  storedCrc : UInt32
  deriving DecidableEq, Repr

def getHeader : BlobReader Header := do
  let magic ← getU32
  let schemaVersion ← getU16
  let generation ← getU32
  let payloadLength ← getU16
  let storedCrc ← getU32
  pure ⟨magic,schemaVersion,generation,payloadLength,storedCrc⟩

/-- What decoding leaves: `*generation` is written as soon as the schema is accepted,
before the checksum is compared. -/
structure Decoded where
  generation : Option UInt32
  outcome : Except DecodeStop IrrigationConfiguration

/-- The payload must be consumed to its last byte and validate. -/
def decodePayload (payload : List UInt8) (boardZones : List Zone) :
    Except DecodeStop IrrigationConfiguration :=
  match getPayload payload with
  | .error stop => .error stop
  | .ok (configuration,cursor) =>
    if cursor ≠ [] then .error (.returned .corrupt)
    else if irrigationConfigurationValidate configuration boardZones ≠ .ok then
      .error (.returned .invalidConfiguration)
    else .ok configuration

def configurationRepositoryDecode (blob : List UInt8) (boardZones : List Zone) : Decoded :=
  if blob.length < configurationRepositoryHeaderSize then ⟨none,.error (.returned .corrupt)⟩
  else match getHeader blob with
  | .error stop => ⟨none,.error stop⟩
  | .ok (header,payload) =>
    if header.magic ≠ configurationRepositoryMagic then ⟨none,.error (.returned .corrupt)⟩
    else if header.schemaVersion ≠ irrigationConfigurationSchemaVersion then
      ⟨none,.error (.returned .incompatible)⟩
    else if header.payloadLength.toNat > configurationRepositoryMaxPayloadSize ∨
        blob.length ≠ configurationRepositoryHeaderSize + header.payloadLength.toNat ∨
        crc32 (payload.take header.payloadLength.toNat) ≠ header.storedCrc then
      ⟨some header.generation,.error (.returned .corrupt)⟩
    else ⟨some header.generation,decodePayload payload boardZones⟩

/-! ### Slots -/

/-- The keys `cfg_a` and `cfg_b`. -/
inductive SlotKey where
  | a | b
  deriving DecidableEq, Repr

inductive SlotState where
  | empty | valid | corrupt | incompatible | storageError
  deriving DecidableEq, Repr

/-- A slot as read, with the `slot_configurations` entry that only a valid slot has. -/
structure Slot where
  state : SlotState
  generation : UInt32
  configuration : Option IrrigationConfiguration
  usable : state = .valid ↔ configuration.isSome = true

/-- The device behind the repository, over an arbitrary state. -/
structure ConfigurationRepositoryStorage (σ : Type) where
  read : SlotKey → Nat → σ → Except ConfigurationRepositoryResult (List UInt8) × σ
  write : SlotKey → List UInt8 → σ → ConfigurationRepositoryResult × σ
  commit : σ → ConfigurationRepositoryResult × σ

/-- The classification of a decode; `generation` was zero before it. -/
def slotOfDecoded (decoded : Decoded) : Slot :=
  let generation := decoded.generation.getD 0
  match decoded.outcome with
  | .ok configuration => ⟨.valid,generation,some configuration,by simp⟩
  | .error (.returned .incompatible) => ⟨.incompatible,generation,none,by simp⟩
  | .error _ => ⟨.corrupt,generation,none,by simp⟩

def slotOf (boardZones : List Zone) : Except ConfigurationRepositoryResult (List UInt8) → Slot
  | .error .notFound => ⟨.empty,0,none,by simp⟩
  | .error _ => ⟨.storageError,0,none,by simp⟩
  | .ok blob => slotOfDecoded (configurationRepositoryDecode blob boardZones)

variable {σ : Type} (storage : ConfigurationRepositoryStorage σ)

def readSlot (boardZones : List Zone) (key : SlotKey) (state : σ) : Slot × σ :=
  let (read,state) := storage.read key configurationRepositoryMaxBlobSize state
  (slotOf boardZones read,state)

/-- `a.state == SLOT_VALID && (b.state != SLOT_VALID || a.generation >= b.generation)`. -/
def firstWins (a b : Slot) : Bool :=
  a.state == .valid && (b.state != .valid || a.generation ≥ b.generation)

def selectSlot (a b : Slot) : Option SlotKey :=
  if firstWins a b then some .a else if b.state = .valid then some .b else none

/-- The result of a load from the two slots it read. -/
def loadResult (a b : Slot) : Except ConfigurationRepositoryResult (IrrigationConfiguration × UInt32) :=
  let selected := match selectSlot a b with
    | some .a => a.configuration.map (·,a.generation)
    | some .b => b.configuration.map (·,b.generation)
    | none => none
  match selected with
  | some loaded => .ok loaded
  | none =>
    if a.state = .empty ∧ b.state = .empty then .error .notFound
    else if a.state = .incompatible ∨ b.state = .incompatible then .error .incompatible
    else if a.state = .storageError ∨ b.state = .storageError then .error .storageError
    else .error .corrupt

def configurationRepositoryLoad (boardZones : List Zone) (state : σ) :
    Except ConfigurationRepositoryResult (IrrigationConfiguration × UInt32) × σ :=
  let (a,state) := readSlot storage boardZones .a state
  let (b,state) := readSlot storage boardZones .b state
  (loadResult a b,state)

def saveGeneration (a b : Slot) : UInt32 :=
  if a.state = .valid ∧ a.generation ≥ b.generation then a.generation + 1
  else if b.state = .valid then b.generation + 1 else 1

def saveTarget (a b : Slot) : SlotKey := if firstWins a b then .b else .a

/-- The target's RAM buffer; its previous bytes never reach the device. -/
def slotBuffer : List UInt8 := .replicate configurationRepositoryMaxBlobSize 0

/-- The write, the commit and the verifying read of one encoded blob. -/
def storeBlob (boardZones : List Zone) (target : SlotKey) (generation : UInt32) (blob : List UInt8)
    (state : σ) : ConfigurationRepositoryResult × σ :=
  match storage.write target blob state with
  | (.ok,state) =>
    match storage.commit state with
    | (.ok,state) =>
      match storage.read target configurationRepositoryMaxBlobSize state with
      | (.ok verified,state) =>
        let decoded := configurationRepositoryDecode verified boardZones
        if decoded.outcome.isOk ∧ decoded.generation = some generation then (.ok,state)
        else (.corrupt,state)
      | (.error _,state) => (.storageError,state)
    | (_,state) => (.storageError,state)
  | (_,state) => (.storageError,state)

def configurationRepositorySave (configuration : IrrigationConfiguration) (boardZones : List Zone)
    (state : σ) : ConfigurationRepositoryResult × σ :=
  if irrigationConfigurationValidate configuration boardZones ≠ .ok then (.invalidConfiguration,state)
  else
    let (a,state) := readSlot storage boardZones .a state
    let (b,state) := readSlot storage boardZones .b state
    if a.state = .storageError ∨ b.state = .storageError then (.storageError,state)
    else
      let generation := saveGeneration a b
      if generation = 0 then (.storageError,state)
      else
        let encoded := configurationRepositoryEncode configuration generation slotBuffer
        if encoded.result ≠ .ok then (encoded.result,state)
        else storeBlob storage boardZones (saveTarget a b) generation
          (encoded.buffer.take encoded.blobLength) state

end Irrigation.Repository
