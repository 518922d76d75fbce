import Irrigation.Defaults
import Irrigation.Repository

/-! What a valid configuration is written as, and that reading those bytes gives its
live part back. The byte strings are functions of the live part alone. -/
namespace Irrigation.Repository

open Library.Codec

/-! ### The bytes of each field -/

def textBytes {n : Nat} (text : CharArray n) : List UInt8 := text.bytes.length.toUInt8 :: text.bytes

def zoneBytes (zone : IrrigationZoneConfiguration) : List UInt8 :=
  textBytes zone.zoneId ++ textBytes zone.displayName

def stepBytes (step : IrrigationProgramStepConfiguration) : List UInt8 :=
  textBytes step.zoneId ++ putU32 step.durationMs

def programBytes (program : LiveProgram) : List UInt8 :=
  textBytes program.programId ++ (textBytes program.displayName ++
    ([program.steps.length.toUInt8] ++ program.steps.flatMap stepBytes))

def scheduleBytes (schedule : IrrigationScheduleConfiguration) : List UInt8 :=
  textBytes schedule.scheduleId ++ ([if schedule.enabled then 1 else 0,schedule.weekdayMask,
    schedule.hour,schedule.minute] ++ textBytes schedule.programId)

def payloadBytes (live : LiveConfiguration) : List UInt8 :=
  (putU16 live.schemaVersion ++ [live.zones.length.toUInt8,live.programs.length.toUInt8,
    live.schedules.length.toUInt8] ++ putU32 live.nextProgramId ++ putU32 live.nextScheduleId) ++
  (live.zones.flatMap zoneBytes ++ (live.programs.flatMap programBytes ++
    live.schedules.flatMap scheduleBytes))

/-- The complete blob stored for a live configuration under a generation. -/
def blobBytes (live : LiveConfiguration) (generation : UInt32) : List UInt8 :=
  putHeader generation (payloadBytes live) ++ payloadBytes live

/-! ### The writer -/

namespace Written

theorem each_put {α : Type} {write : α → Written} (bytes : α → List UInt8) (entries : List α)
    (writes : ∀ entry ∈ entries, write entry = put (bytes entry)) :
    each write entries = put (entries.flatMap bytes) := by
  induction entries with
  | nil => rfl
  | cons entry rest ih =>
    rw [each,writes entry (by simp),ih (fun other member => writes other (by simp [member]))]
    rfl

end Written

theorem putText_valid (text : IdText) (valid : ValidText text) :
    putText text = .put (textBytes text) := by
  have nonempty : text.bytes.length ≠ 0 := by simpa using valid.nonempty
  have terminated := valid.terminated
  have whole : min text.bytes.length configurationRepositoryMaxTextSize = text.bytes.length :=
    Nat.min_eq_left (Nat.le_of_lt terminated)
  rw [putText,CharArray.strnlen,whole,if_neg (by simp only [not_or]; exact ⟨nonempty,Nat.not_le.mpr terminated⟩)]
  simp [textBytes]

theorem putZone_valid {boardZones : List Zone} {zone : IrrigationZoneConfiguration}
    (valid : ValidZone boardZones zone) : putZone zone = .put (zoneBytes zone) := by
  rw [putZone,putText_valid _ valid.zoneId,putText_valid _ valid.displayName]
  rfl

theorem putStep_valid {boardZones : List Zone} {step : IrrigationProgramStepConfiguration}
    (valid : ValidStep boardZones step) : putStep step = .put (stepBytes step) := by
  rw [putStep,putText_valid _ valid.zoneId]
  rfl

/-- A count that fits its array is the length of the live list. -/
theorem take_count {α : Type} {n : Nat} (entries : Vector α n) (count : UInt8) (room : count.toNat ≤ n) :
    (entries.toList.take count.toNat).length.toUInt8 = count := by
  simp [Nat.min_eq_left room]

theorem putProgram_valid {boardZones : List Zone} {program : IrrigationProgramConfiguration}
    (valid : ValidProgram boardZones program.live)
    (room : program.stepCount.toNat ≤ irrigationMaxProgramSteps) :
    putProgram program = .put (programBytes program.live) := by
  have steps := Written.each_put stepBytes program.liveSteps
    (fun step member => putStep_valid (valid.steps step member))
  have count : program.liveSteps.length.toUInt8 = program.stepCount := take_count _ _ room
  have programId := putText_valid program.programId valid.programId
  have displayName := putText_valid program.displayName valid.displayName
  rw [putProgram,programId,displayName,steps]
  simp only [programBytes,IrrigationProgramConfiguration.live_steps,count]
  rfl

theorem putSchedule_valid {programs : List LiveProgram} {schedule : IrrigationScheduleConfiguration}
    (valid : ValidSchedule programs schedule) : putSchedule schedule = .put (scheduleBytes schedule) := by
  rw [putSchedule,putText_valid _ valid.scheduleId,putText_valid _ valid.programId]
  rfl

/-- A valid configuration is written without refusal, as the bytes of its live part. -/
theorem putPayload_valid {configuration : IrrigationConfiguration} {boardZones : List Zone}
    (capacity : configuration.WithinCapacity) (valid : configuration.live.Valid boardZones) :
    putPayload configuration = .put (payloadBytes configuration.live) := by
  have zones := Written.each_put zoneBytes configuration.liveZones
    (fun zone member => putZone_valid (valid.zones zone member))
  have programs := Written.each_put (fun program => programBytes program.live)
    configuration.livePrograms (fun program member =>
      putProgram_valid (valid.programs _ (List.mem_map_of_mem member)) (capacity.steps program member))
  have schedules := Written.each_put scheduleBytes configuration.liveSchedules
    (fun schedule member => putSchedule_valid (valid.schedules schedule member))
  have zoneCount : configuration.liveZones.length.toUInt8 = configuration.zoneCount :=
    take_count _ _ capacity.zones
  have programCount : configuration.livePrograms.length.toUInt8 = configuration.programCount :=
    take_count _ _ capacity.programs
  have scheduleCount : configuration.liveSchedules.length.toUInt8 = configuration.scheduleCount :=
    take_count _ _ capacity.schedules
  rw [putPayload,zones,programs,schedules]
  simp only [payloadBytes,IrrigationConfiguration.live,List.length_map,List.flatMap_map,zoneCount,
    programCount,scheduleCount]
  rfl

/-! ### Sizes -/

theorem flatMap_length_le {α : Type} {bound : Nat} (bytes : α → List UInt8) (entries : List α)
    (each : ∀ entry ∈ entries, (bytes entry).length ≤ bound) :
    (entries.flatMap bytes).length ≤ entries.length * bound := by
  induction entries with
  | nil => simp
  | cons entry rest ih =>
    have head := each entry (by simp)
    have tail := ih (fun other member => each other (by simp [member]))
    simp only [List.flatMap_cons,List.length_append,List.length_cons,Nat.succ_mul]
    omega

@[simp] theorem putU16_length (value : UInt16) : (putU16 value).length = 2 := rfl
@[simp] theorem putU32_length (value : UInt32) : (putU32 value).length = 4 := rfl

@[simp] theorem putHeader_length (generation : UInt32) (payload : List UInt8) :
    (putHeader generation payload).length = configurationRepositoryHeaderSize := rfl

theorem textBytes_length_le {text : IdText} (valid : ValidText text) :
    (textBytes text).length ≤ 32 := by
  have terminated : text.bytes.length < 32 := valid.terminated
  simp [textBytes]
  omega

theorem zoneBytes_length_le {boardZones : List Zone} {zone : IrrigationZoneConfiguration}
    (valid : ValidZone boardZones zone) : (zoneBytes zone).length ≤ 64 := by
  have := textBytes_length_le valid.zoneId
  have := textBytes_length_le valid.displayName
  simp only [zoneBytes,List.length_append]
  omega

theorem stepBytes_length_le {boardZones : List Zone} {step : IrrigationProgramStepConfiguration}
    (valid : ValidStep boardZones step) : (stepBytes step).length ≤ 36 := by
  have := textBytes_length_le valid.zoneId
  simp only [stepBytes,List.length_append,putU32_length]
  omega

theorem programBytes_length_le {boardZones : List Zone} {program : LiveProgram}
    (valid : ValidProgram boardZones program) : (programBytes program).length ≤ 353 := by
  have := textBytes_length_le valid.programId
  have := textBytes_length_le valid.displayName
  have steps := flatMap_length_le stepBytes program.steps
    (fun step member => stepBytes_length_le (valid.steps step member))
  have room : program.steps.length ≤ 8 := valid.room
  simp only [programBytes,List.length_append,List.length_singleton]
  omega

theorem scheduleBytes_length_le {programs : List LiveProgram} {schedule : IrrigationScheduleConfiguration}
    (valid : ValidSchedule programs schedule) : (scheduleBytes schedule).length ≤ 68 := by
  have := textBytes_length_le valid.scheduleId
  have := textBytes_length_le valid.programId
  simp only [scheduleBytes,List.length_append,List.length_cons,List.length_nil]
  omega

/-- The worst case over all counts and text lengths is the declared maximum. -/
theorem payloadBytes_length_le {boardZones : List Zone} {live : LiveConfiguration}
    (valid : live.Valid boardZones) :
    (payloadBytes live).length ≤ configurationRepositoryMaxPayloadSize := by
  have zones := flatMap_length_le zoneBytes live.zones
    (fun zone member => zoneBytes_length_le (valid.zones zone member))
  have programs := flatMap_length_le programBytes live.programs
    (fun program member => programBytes_length_le (valid.programs program member))
  have schedules := flatMap_length_le scheduleBytes live.schedules
    (fun schedule member => scheduleBytes_length_le (valid.schedules schedule member))
  have zoneRoom : live.zones.length ≤ 8 := valid.zoneCount.le.trans valid.boardRoom
  have programRoom : live.programs.length ≤ 4 := valid.programCount
  have scheduleRoom : live.schedules.length ≤ 16 := valid.scheduleCount
  change (payloadBytes live).length ≤ 3025
  simp only [payloadBytes,List.length_append,List.length_cons,List.length_nil,putU16_length,putU32_length]
  omega

/-! ### The reader -/

theorem getByte_consumes (byte : UInt8) : Consumes getByte [byte] (· = byte) :=
  fun _ => ⟨byte,rfl,rfl⟩

theorem getU16_consumes (value : UInt16) : Consumes getU16 (putU16 value) (· = value) :=
  fun _ => ⟨_,rfl,lanes_u16 value⟩

theorem getU32_consumes (value : UInt32) : Consumes getU32 (putU32 value) (· = value) :=
  fun _ => ⟨_,rfl,lanes_u32 value⟩

theorem getText_consumes {text : IdText} (valid : ValidText text) :
    Consumes getText (textBytes text) (· = text) := by
  intro rest
  have terminated : text.bytes.length < 32 := valid.terminated
  have count : text.bytes.length.toUInt8.toNat = text.bytes.length := by
    simp; omega
  have nonempty : text.bytes.length.toUInt8 ≠ 0 := by
    intro zero
    have h := congrArg UInt8.toNat zero
    rw [count] at h
    exact valid.nonempty (List.length_eq_zero_iff.mp h)
  refine ⟨text,?_,rfl⟩
  change getText (text.bytes.length.toUInt8 :: (text.bytes ++ rest)) = _
  have content : (text.bytes ++ rest).take text.bytes.length.toUInt8.toNat = text.bytes := by
    rw [count,List.take_left']; rfl
  have others : (text.bytes ++ rest).drop text.bytes.length.toUInt8.toNat = rest := by
    rw [count,List.drop_left']; rfl
  rw [getText,dif_pos ⟨nonempty,by rw [count]; exact terminated,by simp [count]⟩]
  simp only [content,others,CharArray.store_bytes]

theorem getZone_consumes {boardZones : List Zone} {zone : IrrigationZoneConfiguration}
    (valid : ValidZone boardZones zone) : Consumes getZone (zoneBytes zone) (· = zone) := by
  apply (getText_consumes valid.zoneId).bind
  rintro _ rfl
  apply (getText_consumes valid.displayName).map
  rintro _ rfl
  rfl

theorem getStep_consumes {boardZones : List Zone} {step : IrrigationProgramStepConfiguration}
    (valid : ValidStep boardZones step) : Consumes getStep (stepBytes step) (· = step) := by
  apply (getText_consumes valid.zoneId).bind
  rintro _ rfl
  apply Consumes.check (by simp)
  apply (getU32_consumes step.durationMs).map
  rintro _ rfl
  rfl

theorem forall₂_eq {α : Type} {xs ys : List α} (same : List.Forall₂ (fun x y => y = x) xs ys) :
    ys = xs := by
  induction same with
  | nil => rfl
  | cons head _ ih => rw [head,ih]

theorem forall₂_right {α γ : Type} {related : α → γ → Prop} {holds : γ → Prop} {xs : List α} {ys : List γ}
    (pairs : List.Forall₂ related xs ys) (implies : ∀ x y, related x y → holds y) : ∀ y ∈ ys, holds y := by
  induction pairs with
  | nil => simp
  | cons head _ ih => exact List.forall_mem_cons.mpr ⟨implies _ _ head,ih⟩

/-- A program read back has the same live part; its unused steps are zeroed. -/
theorem getProgram_consumes {boardZones : List Zone} {program : LiveProgram}
    (valid : ValidProgram boardZones program) :
    Consumes getProgram (programBytes program)
      (fun decoded => decoded.live = program ∧ decoded.stepCount.toNat ≤ irrigationMaxProgramSteps) := by
  have room : program.steps.length ≤ 8 := valid.room
  have count : program.steps.length.toUInt8.toNat = program.steps.length := by simp; omega
  have steps := Consumes.repeated program.steps
    (fun step member => getStep_consumes (valid.steps step member))
  rw [← count] at steps
  apply (getText_consumes valid.programId).bind
  rintro _ rfl
  apply (getText_consumes valid.displayName).bind
  rintro _ rfl
  apply Consumes.check (by simp)
  apply (getByte_consumes _).bind
  rintro _ rfl
  apply Consumes.check (by simp only [count]; simpa using room)
  apply steps.map
  intro decoded same
  have decodedSteps := forall₂_eq same
  subst decodedSteps
  refine ⟨?_,by rw [count]; exact room⟩
  simp only [IrrigationProgramConfiguration.live,IrrigationProgramConfiguration.liveSteps,count,
    fill_toList_take _ zeroStep program.steps valid.room]

theorem getSchedule_consumes {programs : List LiveProgram} {schedule : IrrigationScheduleConfiguration}
    (valid : ValidSchedule programs schedule) :
    Consumes getSchedule (scheduleBytes schedule) (· = schedule) := by
  have flag : ((if schedule.enabled then 1 else 0 : UInt8) != 0) = schedule.enabled := by
    cases schedule.enabled <;> rfl
  apply (getText_consumes valid.scheduleId).bind
  rintro _ rfl
  apply Consumes.check (by simp)
  apply (getByte_consumes _).bind
  rintro _ rfl
  apply (getByte_consumes _).bind
  rintro _ rfl
  apply (getByte_consumes _).bind
  rintro _ rfl
  apply (getByte_consumes _).bind
  rintro _ rfl
  apply (getText_consumes valid.programId).map
  rintro _ rfl
  simp only [flag]

/-- Reading the payload of a valid configuration gives its live part back. -/
theorem getPayload_consumes {boardZones : List Zone} {live : LiveConfiguration}
    (valid : live.Valid boardZones) :
    Consumes getPayload (payloadBytes live) (fun decoded => decoded.live = live ∧ decoded.WithinCapacity) := by
  have zoneRoom : live.zones.length ≤ 8 := valid.zoneCount.le.trans valid.boardRoom
  have programRoom : live.programs.length ≤ 4 := valid.programCount
  have scheduleRoom : live.schedules.length ≤ 16 := valid.scheduleCount
  have zoneCount : live.zones.length.toUInt8.toNat = live.zones.length := by simp; omega
  have programCount : live.programs.length.toUInt8.toNat = live.programs.length := by simp; omega
  have scheduleCount : live.schedules.length.toUInt8.toNat = live.schedules.length := by simp; omega
  have zones := Consumes.repeated live.zones (fun zone member => getZone_consumes (valid.zones zone member))
  have programs := Consumes.repeated live.programs
    (fun program member => getProgram_consumes (valid.programs program member))
  have schedules := Consumes.repeated live.schedules
    (fun schedule member => getSchedule_consumes (valid.schedules schedule member))
  rw [← zoneCount] at zones
  rw [← programCount] at programs
  rw [← scheduleCount] at schedules
  apply Consumes.check (by simp [payloadBytes,putU16,putU32])
  apply (getU16_consumes live.schemaVersion).bind
  rintro _ rfl
  apply (getByte_consumes _).bind
  rintro _ rfl
  apply (getByte_consumes _).bind
  rintro _ rfl
  apply (getByte_consumes _).bind
  rintro _ rfl
  apply (getU32_consumes live.nextProgramId).bind
  rintro _ rfl
  apply (getU32_consumes live.nextScheduleId).bind
  rintro _ rfl
  refine Consumes.check (by simp only [zoneCount,programCount,scheduleCount]; simpa using
    ⟨valid.schemaVersion,zoneRoom,programRoom,scheduleRoom⟩) ?_
  apply zones.bind
  intro decodedZones sameZones
  apply programs.bind
  intro decodedPrograms samePrograms
  apply schedules.map
  intro decodedSchedules sameSchedules
  have zonesEq := forall₂_eq sameZones
  have schedulesEq := forall₂_eq sameSchedules
  have programsLength : decodedPrograms.length = live.programs.length := samePrograms.length_eq.symm
  have livePrograms : decodedPrograms.map (·.live) = live.programs :=
    forall₂_eq (List.forall₂_map_right_iff.mpr (samePrograms.imp fun _ _ h => h.1))
  have programsTaken := fill_toList_take 4 zeroProgram decodedPrograms (by omega)
  rw [programsLength] at programsTaken
  subst zonesEq schedulesEq
  refine ⟨?_,?_,?_,?_,?_⟩
  · simp only [IrrigationConfiguration.live,IrrigationConfiguration.liveZones,
      IrrigationConfiguration.livePrograms,IrrigationConfiguration.liveSchedules,zoneCount,programCount,
      scheduleCount,fill_toList_take _ zeroZone _ zoneRoom,programsTaken,
      fill_toList_take _ zeroSchedule _ scheduleRoom,livePrograms]
  · exact zoneCount.le.trans zoneRoom
  · exact programCount.le.trans programRoom
  · exact scheduleCount.le.trans scheduleRoom
  · intro program member
    simp only [IrrigationConfiguration.livePrograms,programCount,programsTaken] at member
    exact forall₂_right samePrograms (fun _ _ related => related.2) program member

/-- The sixteen bytes of any header; `putHeader` writes those of one payload. -/
def headerBytes (header : Header) : List UInt8 :=
  putU32 header.magic ++ putU16 header.schemaVersion ++ putU32 header.generation ++
    putU16 header.payloadLength ++ putU32 header.storedCrc

theorem getHeader_consumes (header : Header) : Consumes getHeader (headerBytes header) (· = header) := by
  have consumes : Consumes getHeader (putU32 header.magic ++ (putU16 header.schemaVersion ++
      (putU32 header.generation ++ (putU16 header.payloadLength ++ putU32 header.storedCrc))))
      (· = header) := by
    apply (getU32_consumes _).bind
    rintro _ rfl
    apply (getU16_consumes _).bind
    rintro _ rfl
    apply (getU32_consumes _).bind
    rintro _ rfl
    apply (getU16_consumes _).bind
    rintro _ rfl
    apply (getU32_consumes _).map
    rintro _ rfl
    rfl
  simpa only [headerBytes,List.append_assoc] using consumes

/-! ### Whole blobs -/

@[simp] theorem blobBytes_length (live : LiveConfiguration) (generation : UInt32) :
    (blobBytes live generation).length =
      configurationRepositoryHeaderSize + (payloadBytes live).length := by
  rw [blobBytes,List.length_append,putHeader_length]

/-- Decoding behind any header, field by field. -/
theorem decode_headerBytes (header : Header) (rest : List UInt8) (boardZones : List Zone) :
    configurationRepositoryDecode (headerBytes header ++ rest) boardZones =
      if header.magic ≠ configurationRepositoryMagic then ⟨none,.error (.returned .corrupt)⟩
      else if header.schemaVersion ≠ irrigationConfigurationSchemaVersion then
        ⟨none,.error (.returned .incompatible)⟩
      else if header.payloadLength.toNat > configurationRepositoryMaxPayloadSize ∨
          rest.length ≠ header.payloadLength.toNat ∨
          crc32 (rest.take header.payloadLength.toNat) ≠ header.storedCrc then
        ⟨some header.generation,.error (.returned .corrupt)⟩
      else ⟨some header.generation,decodePayload rest boardZones⟩ := by
  have size : (headerBytes header).length = configurationRepositoryHeaderSize := rfl
  obtain ⟨_,run,rfl⟩ := getHeader_consumes header rest
  rw [configurationRepositoryDecode,if_neg (by rw [List.length_append,size]; omega)]
  simp only [run,List.length_append,size,ne_eq,Nat.add_left_cancel_iff]

/-- Behind an intact header, decoding depends on the length and checksum of what follows. -/
theorem decode_putHeader (generation : UInt32) (payload rest : List UInt8) (boardZones : List Zone) :
    configurationRepositoryDecode (putHeader generation payload ++ rest) boardZones =
      if payload.length.toUInt16.toNat > configurationRepositoryMaxPayloadSize ∨
          rest.length ≠ payload.length.toUInt16.toNat ∨
          crc32 (rest.take payload.length.toUInt16.toNat) ≠ crc32 payload then
        ⟨some generation,.error (.returned .corrupt)⟩
      else ⟨some generation,decodePayload rest boardZones⟩ := by
  have run := decode_headerBytes ⟨configurationRepositoryMagic,irrigationConfigurationSchemaVersion,generation,
    payload.length.toUInt16,crc32 payload⟩ rest boardZones
  rw [if_neg (by simp),if_neg (by simp)] at run
  exact run

/-- Decoding the blob of a valid live configuration returns it with its generation. -/
theorem decode_blobBytes {boardZones : List Zone} {live : LiveConfiguration}
    (valid : live.Valid boardZones) (generation : UInt32) :
    ∃ decoded, configurationRepositoryDecode (blobBytes live generation) boardZones =
      ⟨some generation,.ok decoded⟩ ∧ decoded.live = live ∧ decoded.WithinCapacity := by
  have small : (payloadBytes live).length ≤ 3025 := payloadBytes_length_le valid
  have count : (payloadBytes live).length.toUInt16.toNat = (payloadBytes live).length := by simp; omega
  obtain ⟨decoded,payload,same,capacity⟩ := (getPayload_consumes valid).run
  have accepted : irrigationConfigurationValidate decoded boardZones = .ok :=
    (validate_ok_iff _ _).mpr ⟨capacity,same.symm ▸ valid⟩
  refine ⟨decoded,?_,same,capacity⟩
  rw [blobBytes,decode_putHeader,count,List.take_length,if_neg (by simp; exact small)]
  simp [decodePayload,payload,accepted]

/-- The payload is stored behind the header first, and the header in front of it. -/
theorem overwrite_blob (generation : UInt32) (payload buffer : List UInt8)
    (room : (buffer.take configurationRepositoryHeaderSize).length = configurationRepositoryHeaderSize) :
    overwrite (overwrite buffer configurationRepositoryHeaderSize payload) 0 (putHeader generation payload) =
      putHeader generation payload ++ payload ++
        buffer.drop (configurationRepositoryHeaderSize + payload.length) := by
  have stored : (overwrite buffer configurationRepositoryHeaderSize payload).drop
      configurationRepositoryHeaderSize =
        payload ++ buffer.drop (configurationRepositoryHeaderSize + payload.length) := by
    rw [overwrite,List.append_assoc,List.drop_left' room]
  rw [overwrite,putHeader_length,Nat.zero_add,stored,List.take_zero,List.nil_append,List.append_assoc]

/-- A valid configuration is encoded as its blob, and the buffer is left alone past it. -/
theorem encode_valid {configuration : IrrigationConfiguration} {boardZones : List Zone}
    (valid : irrigationConfigurationValidate configuration boardZones = .ok) (generation : UInt32)
    (buffer : List UInt8) (room : configurationRepositoryMaxBlobSize ≤ buffer.length) :
    configurationRepositoryEncode configuration generation buffer =
      ⟨.ok,blobBytes configuration.live generation ++
        buffer.drop (configurationRepositoryHeaderSize + (payloadBytes configuration.live).length),
        configurationRepositoryHeaderSize + (payloadBytes configuration.live).length⟩ := by
  obtain ⟨capacity,live⟩ := (validate_ok_iff _ _).mp valid
  have small : (payloadBytes configuration.live).length ≤ 3025 := payloadBytes_length_le live
  have enough : 3041 ≤ buffer.length := room
  have header : (buffer.take 16).length = 16 := by simp; omega
  have counts := And.intro capacity.zones (And.intro capacity.programs capacity.schedules)
  rw [configurationRepositoryEncode,if_neg (by simp only [not_or,not_lt,gt_iff_lt]; exact ⟨room,counts⟩),
    if_neg (fun differs => differs live.schemaVersion),putPayload_valid capacity live]
  have fits : ¬((Written.put (payloadBytes configuration.live)).complete = false ∨
      16 + (Written.put (payloadBytes configuration.live)).bytes.length > buffer.length ∨
      (Written.put (payloadBytes configuration.live)).bytes.length > 65535) := by
    simp [Written.put]
    omega
  rw [if_neg fits]
  change Encoded.mk .ok _ _ = Encoded.mk .ok _ _
  congr 1
  exact overwrite_blob generation (payloadBytes configuration.live) buffer header

/-- Encoding a valid configuration succeeds within the maximal blob, and decoding
exactly the reported bytes returns the generation and the same live configuration. -/
theorem encode_decode_round_trip (configuration : IrrigationConfiguration) (boardZones : List Zone)
    (generation : UInt32) (buffer : List UInt8)
    (valid : irrigationConfigurationValidate configuration boardZones = .ok)
    (room : configurationRepositoryMaxBlobSize ≤ buffer.length) :
    let encoded := configurationRepositoryEncode configuration generation buffer
    encoded.result = .ok ∧
    configurationRepositoryHeaderSize ≤ encoded.blobLength ∧
    encoded.blobLength ≤ configurationRepositoryMaxBlobSize ∧
    encoded.blobLength - configurationRepositoryHeaderSize < 2 ^ 16 ∧
    encoded.buffer.length = buffer.length ∧
    encoded.buffer.drop configurationRepositoryMaxBlobSize =
      buffer.drop configurationRepositoryMaxBlobSize ∧
    ∃ decoded, configurationRepositoryDecode (encoded.buffer.take encoded.blobLength) boardZones =
        ⟨some generation,.ok decoded⟩ ∧
      decoded.live = configuration.live := by
  have live := ((validate_ok_iff _ _).mp valid).2
  have small : (payloadBytes configuration.live).length ≤ 3025 := payloadBytes_length_le live
  have enough : 3041 ≤ buffer.length := room
  have size : (blobBytes configuration.live generation).length =
      16 + (payloadBytes configuration.live).length := blobBytes_length _ _
  obtain ⟨decoded,run,same,_⟩ := decode_blobBytes live generation
  simp only [encode_valid valid generation buffer room]
  refine ⟨trivial,by omega,?_,by omega,?_,?_,decoded,?_,same⟩
  · change 16 + (payloadBytes configuration.live).length ≤ 3041; omega
  · rw [List.length_append,List.length_drop,size]
    change 16 + _ + (_ - (16 + _)) = _
    omega
  · have past : 16 + (payloadBytes configuration.live).length ≤ 3041 := by omega
    change List.drop 3041 (_ ++ List.drop (16 + _) buffer) = List.drop 3041 buffer
    rw [List.drop_append,List.drop_of_length_le (by omega),List.nil_append,List.drop_drop,size,
      Nat.add_sub_cancel' past]
  · rw [List.take_left' size,run]

theorem encode_decode_round_trip_defaults :
    let encoded := configurationRepositoryEncode (devKitDefaults devZones) 7 (.replicate 4096 255)
    encoded.result = .ok ∧
    configurationRepositoryHeaderSize ≤ encoded.blobLength ∧
    encoded.blobLength ≤ configurationRepositoryMaxBlobSize ∧
    encoded.blobLength - configurationRepositoryHeaderSize < 2 ^ 16 ∧
    encoded.buffer.length = (List.replicate 4096 (255 : UInt8)).length ∧
    encoded.buffer.drop configurationRepositoryMaxBlobSize =
      (List.replicate 4096 (255 : UInt8)).drop configurationRepositoryMaxBlobSize ∧
    ∃ decoded, configurationRepositoryDecode (encoded.buffer.take encoded.blobLength) devZones =
        ⟨some 7,.ok decoded⟩ ∧
      decoded.live = (devKitDefaults devZones).live :=
  encode_decode_round_trip (devKitDefaults devZones) devZones 7 (.replicate 4096 255)
    (devKitDefaults_valid devZones_usable) (by rw [List.length_replicate]; decide)

end Irrigation.Repository
