import Irrigation.Library.Cursors
import Irrigation.ValidatorMemory

/-! Decoding as it reads the blob by a cursor and fills the zeroed configuration in memory, with
every access to the blob, an array or a text checked. -/
namespace Irrigation.Repository

open CheckedMemory

/-! ### Reading by the cursor -/

/-- The cursor is an index into the blob. -/
abbrev Fetch := Cursors.Fetch DecodeStop

def returnUnless (holds : Nat → Bool) (result : ConfigurationRepositoryResult) : Fetch Unit :=
  Cursors.ensure holds (.returned result)

def fetchEach {α : Type} {n : Nat} (fetch : α → Fetch α) (count : UInt8) (array : Vector α n) : Fetch (Vector α n) :=
  Cursors.eachEntry invalidAccess fetch count.toNat 0 array

section Fetching

variable (blob : List UInt8) (finish : Nat)

/-- `(size_t)(end - cursor)`. -/
def remaining (cursor : Nat) : Nat := (((finish : Int) - cursor) % 2 ^ 32).toNat

def fetchByte : Fetch UInt8 := Cursors.item invalidAccess blob

def fetchU16 : Fetch UInt16 := do
  let low ← fetchByte blob
  let high ← fetchByte blob
  pure (low.toUInt16 ||| high.toUInt16 <<< 8)

def fetchU32 : Fetch UInt32 := do
  let b0 ← fetchByte blob
  let b1 ← fetchByte blob
  let b2 ← fetchByte blob
  let b3 ← fetchByte blob
  pure (b0.toUInt32 ||| b1.toUInt32 <<< 8 ||| b2.toUInt32 <<< 16 ||| b3.toUInt32 <<< 24)

def fetchText {n : Nat} (text : RawText n) : Fetch (RawText n) := fun cursor =>
  if cursor ≥ finish then .error (.returned .corrupt)
  else do
    let (length,cursor) ← fetchByte blob cursor
    if length = 0 ∨ length.toNat ≥ n ∨ remaining finish cursor < length.toNat then .error (.returned .corrupt)
    else
      let text ← memcpy invalidAccess text blob cursor length.toNat
      let text ← store invalidAccess text length.toNat 0
      pure (text,cursor + length.toNat)

def fetchZone (zone : RawZone) : Fetch RawZone := do
  let zoneId ← fetchText blob finish zone.zoneId
  let displayName ← fetchText blob finish zone.displayName
  pure ⟨zoneId,displayName⟩

def fetchStep (step : RawStep) : Fetch RawStep := do
  let zoneId ← fetchText blob finish step.zoneId
  returnUnless (fun cursor => 4 ≤ remaining finish cursor) .corrupt
  let durationMs ← fetchU32 blob
  pure ⟨zoneId,durationMs⟩

def fetchProgram (program : RawProgram) : Fetch RawProgram := do
  let programId ← fetchText blob finish program.programId
  let displayName ← fetchText blob finish program.displayName
  returnUnless (fun cursor => cursor < finish) .corrupt
  let stepCount ← fetchByte blob
  returnUnless (fun _ => stepCount.toNat ≤ irrigationMaxProgramSteps) .corrupt
  let steps ← fetchEach (fetchStep blob finish) stepCount program.steps
  pure ⟨programId,displayName,steps,stepCount⟩

def fetchSchedule (schedule : RawSchedule) : Fetch RawSchedule := do
  let scheduleId ← fetchText blob finish schedule.scheduleId
  returnUnless (fun cursor => 4 ≤ remaining finish cursor) .corrupt
  let enabled ← fetchByte blob
  let weekdayMask ← fetchByte blob
  let hour ← fetchByte blob
  let minute ← fetchByte blob
  let programId ← fetchText blob finish schedule.programId
  pure ⟨scheduleId,enabled != 0,weekdayMask,hour,minute,programId⟩

/-! ### The zeroed configuration -/

def zeroRawText {n : Nat} : RawText n := .replicate n 0
def zeroRawZone : RawZone := ⟨zeroRawText,zeroRawText⟩
def zeroRawStep : RawStep := ⟨zeroRawText,0⟩
def zeroRawProgram : RawProgram := ⟨zeroRawText,zeroRawText,.replicate _ zeroRawStep,0⟩
def zeroRawSchedule : RawSchedule := ⟨zeroRawText,false,0,0,0,zeroRawText⟩

def fetchPayload : Fetch RawConfiguration := do
  returnUnless (fun cursor => 13 ≤ remaining finish cursor) .corrupt
  let schemaVersion ← fetchU16 blob
  let zoneCount ← fetchByte blob
  let programCount ← fetchByte blob
  let scheduleCount ← fetchByte blob
  let nextProgramId ← fetchU32 blob
  let nextScheduleId ← fetchU32 blob
  returnUnless (fun _ => schemaVersion = irrigationConfigurationSchemaVersion ∧
    zoneCount.toNat ≤ irrigationMaxZones ∧ programCount.toNat ≤ irrigationMaxPrograms ∧
    scheduleCount.toNat ≤ irrigationMaxSchedules) .incompatible
  let zones ← fetchEach (fetchZone blob finish) zoneCount (.replicate _ zeroRawZone)
  let programs ← fetchEach (fetchProgram blob finish) programCount (.replicate _ zeroRawProgram)
  let schedules ← fetchEach (fetchSchedule blob finish) scheduleCount (.replicate _ zeroRawSchedule)
  pure ⟨schemaVersion,zones,programs,schedules,zoneCount,programCount,scheduleCount,nextProgramId,nextScheduleId⟩

/-- `crc32(blob + offset, length)`, before the final complement. -/
def fetchCrc32 (offset : Nat) : (length : Nat) → Checked UInt32
  | 0 => .ok 0xffffffff
  | length + 1 => do
    let crc ← fetchCrc32 offset length
    let byte ← CheckedMemory.read invalidAccess blob (offset + length)
    pure (crc32Byte crc byte)

/-! ### The decoder -/

/-- Up to where `*generation` is written. -/
def fetchGeneration : Fetch UInt32 := do
  let magic ← fetchU32 blob
  returnUnless (fun _ => magic = configurationRepositoryMagic) .corrupt
  let schemaVersion ← fetchU16 blob
  returnUnless (fun _ => schemaVersion = irrigationConfigurationSchemaVersion) .incompatible
  fetchU32 blob

/-- Up to where `end` is set. -/
def fetchEnd : Fetch Nat := do
  let payloadLength ← fetchU16 blob
  let storedCrc ← fetchU32 blob
  let payload ← get
  returnUnless (fun _ => payloadLength.toNat ≤ configurationRepositoryMaxPayloadSize ∧
    blob.length = configurationRepositoryHeaderSize + payloadLength.toNat) .corrupt
  let crc ← fetchCrc32 blob payload payloadLength.toNat
  returnUnless (fun _ => ~~~crc = storedCrc) .corrupt
  pure (payload + payloadLength.toNat)

def fetchConfiguration (boardZones : List Zone) : Fetch RawConfiguration := do
  let raw ← fetchPayload blob finish
  returnUnless (fun cursor => cursor = finish) .corrupt
  let verdict ← rawConfigurationValidate raw boardZones
  returnUnless (fun _ => verdict = .ok) .invalidConfiguration
  pure raw

/-- What decoding leaves: the generation, once it is written, and the configuration with where the
cursor stopped. -/
structure MemoryDecoded where
  generation : Option UInt32
  outcome : Checked (RawConfiguration × Nat)

def decodeInMemory (boardZones : List Zone) : MemoryDecoded :=
  if blob.length < configurationRepositoryHeaderSize then ⟨none,.error (.returned .corrupt)⟩
  else match fetchGeneration blob 0 with
  | .error stop => ⟨none,.error stop⟩
  | .ok (generation,cursor) =>
    ⟨some generation,(do let finish ← fetchEnd blob; fetchConfiguration blob finish boardZones) cursor⟩

end Fetching

end Irrigation.Repository
