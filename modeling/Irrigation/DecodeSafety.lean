import Irrigation.DecodeMemory
import Irrigation.InstalledConfigurations
import Irrigation.RepositoryCorruption

/-! No blob makes decoding leave the blob, an array or a text, and what it accepts is encoded and
decoded to the same live configuration again. -/
namespace Irrigation.Repository

open CheckedMemory Cursors Library.Codec

section Following

variable {blob : List UInt8} {budget : Nat} {γ δ : Type} {post : γ → δ → Prop}

/-! ### Fields -/

theorem returned_sound (result : ConfigurationRepositoryResult) : DecodeStop.returned result ≠ invalidAccess :=
  fun same => by cases same

theorem fetchByte_alike {next : UInt8 → Fetch γ} {next' : UInt8 → BlobReader δ}
    (continues : ∀ byte, ReadsAlike invalidAccess blob budget post (next byte) (next' byte)) :
    ReadsAlike invalidAccess blob (budget + 1) post (fetchByte blob >>= next) (getByte >>= next') :=
  ReadsAlike.item (fun _ _ => rfl) continues

theorem fetchU16_alike {next : UInt16 → Fetch γ} {next' : UInt16 → BlobReader δ}
    (continues : ∀ value, ReadsAlike invalidAccess blob budget post (next value) (next' value)) :
    ReadsAlike invalidAccess blob (budget + 2) post (fetchU16 blob >>= next) (getU16 >>= next') := by
  simp only [fetchU16,getU16,bind_assoc,pure_bind]
  exact fetchByte_alike fun _ => fetchByte_alike fun _ => continues _

theorem fetchU32_alike {next : UInt32 → Fetch γ} {next' : UInt32 → BlobReader δ}
    (continues : ∀ value, ReadsAlike invalidAccess blob budget post (next value) (next' value)) :
    ReadsAlike invalidAccess blob (budget + 4) post (fetchU32 blob >>= next) (getU32 >>= next') := by
  simp only [fetchU32,getU32,bind_assoc,pure_bind]
  exact fetchByte_alike fun _ => fetchByte_alike fun _ => fetchByte_alike fun _ => fetchByte_alike fun _ =>
    continues _

/-- An array that was zero shows the items in front of zero entries. -/
theorem fetchEach_alike {ρ α : Type} {n : Nat} {view : ρ → α} {zero : ρ} {fetch : ρ → Fetch ρ} {reader : BlobReader α}
    (one : ReadsAlike invalidAccess blob 0 (fun raw value => view raw = value) (fetch zero) reader) (count : UInt8)
    (room : count.toNat ≤ n) :
    ReadsAlike invalidAccess blob 0 (fun filled values => filled.map view = fill (view zero) values)
      (fetchEach fetch count (.replicate n zero)) (repeated reader count.toNat) := by
  have entries := ReadsAlike.each one count.toNat 0 (.replicate n zero) (by omega) fun _ _ _ =>
    Vector.getElem_replicate _
  refine entries.relate fun filled values shown => Vector.toList_inj.mp ?_
  rw [fill_toList _ _ (by omega),shown.2,List.take_zero,List.nil_append,Nat.zero_add,shown.1]

/-! ### Zeroed memory -/

theorem zeroRawText_text {n : Nat} : (zeroRawText : RawText n).text = .empty := by
  apply CharArray.ext
  change content (Vector.replicate n (0 : UInt8)).toList = []
  rw [Vector.toList_replicate]
  cases n <;> rfl

theorem zeroRawZone_zone : zeroRawZone.zone = zeroZone := by
  rw [RawZone.zone,zeroRawZone,zeroRawText_text,zeroZone]

theorem zeroRawStep_step : zeroRawStep.step = zeroStep := by
  rw [RawStep.step,zeroRawStep,zeroRawText_text,zeroStep]

theorem zeroRawProgram_program : zeroRawProgram.program = zeroProgram := by
  rw [RawProgram.program,zeroRawProgram,zeroRawText_text,Vector.map_replicate,zeroRawStep_step,zeroProgram]

theorem zeroRawSchedule_schedule : zeroRawSchedule.schedule = zeroSchedule := by
  rw [RawSchedule.schedule,zeroRawSchedule,zeroRawText_text,zeroSchedule]

/-! ### Texts and records -/

variable (small : blob.length < 2 ^ 32)
include small

theorem remaining_eq {cursor : Nat} (inside : cursor ≤ blob.length) :
    remaining blob.length cursor = (blob.drop cursor).length := by
  rw [remaining,List.length_drop]
  omega

/-- The check in front of fields of a fixed size. -/
theorem reserve_alike (budget : Nat) {next : Unit → Fetch γ} {next' : Unit → BlobReader δ}
    (continues : ReadsAlike invalidAccess blob budget post (next ()) (next' ())) :
    ReadsAlike invalidAccess blob 0 post
      (returnUnless (fun cursor => budget ≤ remaining blob.length cursor) .corrupt >>= next)
      (corruptUnless (fun cursor => budget ≤ cursor.length) >>= next') := by
  refine ReadsAlike.reserve budget (returned_sound _) (fun cursor inside => ?_) (fun cursor inside enough => ?_)
    continues
  · rw [remaining_eq small inside]
  · rw [decide_eq_true_eq,remaining_eq small inside,List.length_drop] at enough
    omega

/-- The length byte is compared with the text and with the rest of the blob before it is used. -/
theorem fetchText_alike {n : Nat} (text : RawText n) :
    ReadsAlike invalidAccess blob 0 (fun raw value => raw.text = value) (fetchText blob blob.length text) getText := by
  intro cursor inside
  rw [Nat.add_zero] at inside
  rcases Nat.eq_or_lt_of_le inside with finished | more
  · have nothing : blob.drop cursor = [] := List.drop_of_length_le (Nat.le_of_eq finished.symm)
    rw [fetchText,if_pos (Nat.le_of_eq finished.symm),nothing]
    exact .stopped (returned_sound _)
  · have byte : fetchByte blob cursor = .ok (blob[cursor],cursor + 1) := by
      rw [fetchByte,Cursors.item,read_of_lt invalidAccess more]
      rfl
    rw [fetchText,if_neg (Nat.not_le.mpr more),byte,List.drop_eq_getElem_cons more]
    simp only [bind,Except.bind,remaining_eq small more,getText]
    generalize blob[cursor] = length
    have refused : (length = 0 ∨ length.toNat ≥ n ∨ (blob.drop (cursor + 1)).length < length.toNat) ↔
        ¬(length ≠ 0 ∧ length.toNat < n ∧ length.toNat ≤ (blob.drop (cursor + 1)).length) := by
      rw [not_and_or,not_and_or,not_not,Nat.not_lt,Nat.not_le]
    by_cases fits : length ≠ 0 ∧ length.toNat < n ∧ length.toNat ≤ (blob.drop (cursor + 1)).length
    · obtain ⟨_,room,source⟩ := id fits
      have left : length.toNat < text.toList.length := by rw [Vector.length_toList]; exact room
      have enough : cursor + 1 + length.toNat ≤ blob.length := by rw [List.length_drop] at source; omega
      obtain ⟨copied,copy,bytes⟩ := memcpy_eq invalidAccess text enough (Nat.le_of_lt room)
      rw [if_neg (fun bad => refused.mp bad fits),copy,dif_pos fits,List.drop_drop]
      simp only [store_of_lt invalidAccess room]
      refine .read enough (CharArray.ext ?_)
      have size : ((blob.drop (cursor + 1)).take length.toNat).length = length.toNat :=
        List.length_take_of_le source
      have stored : (copied.set length.toNat 0 room).toList =
          (blob.drop (cursor + 1)).take length.toNat ++ 0 :: text.toList.drop (length.toNat + 1) := by
        rw [Vector.toList_set,bytes,List.set_append_right _ _ (Nat.le_of_eq size),size,Nat.sub_self,
          List.drop_eq_getElem_cons left,List.set_cons_zero]
      change content (copied.set length.toNat 0 room).toList = _
      rw [stored,content_terminated]
      rfl
    · rw [if_pos (refused.mpr fits),dif_neg fits]
      exact .stopped (returned_sound _)

theorem fetchZone_alike (zone : RawZone) :
    ReadsAlike invalidAccess blob 0 (fun raw value => raw.zone = value) (fetchZone blob blob.length zone) getZone := by
  refine (fetchText_alike small zone.zoneId).bind fun zoneId _ sameId => ?_
  refine (fetchText_alike small zone.displayName).map fun displayName _ sameName => ?_
  subst sameId sameName
  rfl

theorem fetchStep_alike (step : RawStep) :
    ReadsAlike invalidAccess blob 0 (fun raw value => raw.step = value) (fetchStep blob blob.length step) getStep := by
  refine (fetchText_alike small step.zoneId).bind fun zoneId _ sameId => ?_
  refine reserve_alike small 4 (fetchU32_alike fun durationMs => .pure ?_)
  subst sameId
  rfl

theorem fetchProgram_alike :
    ReadsAlike invalidAccess blob 0 (fun raw value => raw.program = value)
      (fetchProgram blob blob.length zeroRawProgram) getProgram := by
  refine (fetchText_alike small _).bind fun programId _ sameId => ?_
  refine (fetchText_alike small _).bind fun displayName _ sameName => ?_
  refine ReadsAlike.reserve 1 (returned_sound _) (fun cursor inside => ?_) (fun cursor inside enough => ?_)
    (fetchByte_alike fun stepCount => ReadsAlike.ensure (returned_sound _) fun bound => ?_)
  · rw [List.length_drop]
    exact decide_eq_decide.mpr (by omega)
  · rw [decide_eq_true_eq] at enough
    exact enough
  · have one := fetchStep_alike small zeroRawStep
    refine (fetchEach_alike one stepCount (of_decide_eq_true bound)).map fun steps items shown => ?_
    subst sameId sameName
    change IrrigationProgramConfiguration.mk _ _ (steps.map RawStep.step) _ = _
    rw [shown,zeroRawStep_step]

theorem fetchSchedule_alike (schedule : RawSchedule) :
    ReadsAlike invalidAccess blob 0 (fun raw value => raw.schedule = value)
      (fetchSchedule blob blob.length schedule) getSchedule := by
  refine (fetchText_alike small schedule.scheduleId).bind fun scheduleId _ sameId => ?_
  refine reserve_alike small 4 (fetchByte_alike fun enabled => fetchByte_alike fun weekdayMask =>
    fetchByte_alike fun hour => fetchByte_alike fun minute => ?_)
  refine (fetchText_alike small schedule.programId).map fun programId _ sameProgram => ?_
  subst sameId sameProgram
  rfl

/-- Thirteen bytes are reserved for the counters in front of the records. -/
theorem fetchPayload_alike :
    ReadsAlike invalidAccess blob 0 (fun raw value => raw.configuration = value) (fetchPayload blob blob.length)
      getPayload := by
  refine reserve_alike small 13 (fetchU16_alike fun schemaVersion => fetchByte_alike fun zoneCount =>
    fetchByte_alike fun programCount => fetchByte_alike fun scheduleCount => fetchU32_alike fun nextProgramId =>
    fetchU32_alike fun nextScheduleId => ReadsAlike.ensure (returned_sound _) fun accepted => ?_)
  obtain ⟨_,zoneRoom,programRoom,scheduleRoom⟩ := of_decide_eq_true accepted
  refine (fetchEach_alike (fetchZone_alike small zeroRawZone) zoneCount zoneRoom).bind fun zones _ sameZones => ?_
  refine (fetchEach_alike (fetchProgram_alike small) programCount programRoom).bind fun programs _ samePrograms => ?_
  refine (fetchEach_alike (fetchSchedule_alike small zeroRawSchedule) scheduleCount scheduleRoom).map
    fun schedules _ sameSchedules => ?_
  change IrrigationConfiguration.mk _ (zones.map RawZone.zone) (programs.map RawProgram.program)
    (schedules.map RawSchedule.schedule) _ _ _ _ _ = _
  rw [sameZones,samePrograms,sameSchedules,zeroRawZone_zone,zeroRawProgram_program,zeroRawSchedule_schedule]

end Following

/-! ### Blobs -/

theorem fetchCrc32_eq {blob : List UInt8} {offset length : Nat} (room : offset + length ≤ blob.length) :
    fetchCrc32 blob offset length = .ok (((blob.drop offset).take length).foldl crc32Byte 0xffffffff) := by
  induction length with
  | zero => rfl
  | succ length ih =>
    have inside : length < (blob.drop offset).length := by rw [List.length_drop]; omega
    rw [fetchCrc32,ih (by omega),List.take_succ_eq_append_getElem inside,List.foldl_append,List.getElem_drop]
    simp only [bind,Except.bind,read_of_lt invalidAccess (show offset + length < blob.length by omega)]
    rfl

theorem split_header {blob : List UInt8} (enough : configurationRepositoryHeaderSize ≤ blob.length) :
    ∃ header payload, blob = headerBytes header ++ payload := by
  change 16 ≤ blob.length at enough
  obtain ⟨magic,rest,rfl⟩ := putU32_onto.front (show 4 ≤ blob.length by omega)
  rw [List.length_append,putU32_length] at enough
  obtain ⟨schemaVersion,rest,rfl⟩ := putU16_onto.front (show 2 ≤ rest.length by omega)
  rw [List.length_append,putU16_length] at enough
  obtain ⟨generation,rest,rfl⟩ := putU32_onto.front (show 4 ≤ rest.length by omega)
  rw [List.length_append,putU32_length] at enough
  obtain ⟨payloadLength,rest,rfl⟩ := putU16_onto.front (show 2 ≤ rest.length by omega)
  rw [List.length_append,putU16_length] at enough
  obtain ⟨storedCrc,payload,rfl⟩ := putU32_onto.front (show 4 ≤ rest.length by omega)
  exact ⟨⟨magic,schemaVersion,generation,payloadLength,storedCrc⟩,payload,by simp only [headerBytes,List.append_assoc]⟩

section Header

variable (header : Header) (payload : List UInt8)

theorem fetchGeneration_headerBytes : fetchGeneration (headerBytes header ++ payload) 0 =
    if header.magic ≠ configurationRepositoryMagic then .error (.returned .corrupt)
    else if header.schemaVersion ≠ irrigationConfigurationSchemaVersion then .error (.returned .incompatible)
    else .ok (header.generation,10) := by
  have magic : fetchU32 (headerBytes header ++ payload) 0 = .ok (header.magic,4) :=
    congrArg (fun value => Except.ok (value,4)) (lanes_u32 header.magic)
  have schemaVersion : fetchU16 (headerBytes header ++ payload) 4 = .ok (header.schemaVersion,6) :=
    congrArg (fun value => Except.ok (value,6)) (lanes_u16 header.schemaVersion)
  have generation : fetchU32 (headerBytes header ++ payload) 6 = .ok (header.generation,10) :=
    congrArg (fun value => Except.ok (value,10)) (lanes_u32 header.generation)
  simp only [fetchGeneration,bind,StateT.bind,Except.bind,magic,returnUnless,Cursors.ensure,decide_eq_true_eq]
  by_cases known : header.magic = configurationRepositoryMagic
  · rw [if_pos known,if_neg (not_not.mpr known)]
    simp only [schemaVersion]
    by_cases current : header.schemaVersion = irrigationConfigurationSchemaVersion
    · rw [if_pos current,if_neg (not_not.mpr current)]
      exact generation
    · rw [if_neg current,if_pos current]
  · rw [if_neg known,if_pos known]

/-- The length is compared before the checksum reads so many bytes. -/
theorem fetchEnd_headerBytes : fetchEnd (headerBytes header ++ payload) 10 =
    if header.payloadLength.toNat > configurationRepositoryMaxPayloadSize ∨
        payload.length ≠ header.payloadLength.toNat ∨
        crc32 (payload.take header.payloadLength.toNat) ≠ header.storedCrc then .error (.returned .corrupt)
    else .ok (16 + header.payloadLength.toNat,16) := by
  have size : (headerBytes header ++ payload).length = 16 + payload.length := List.length_append
  have behind : (headerBytes header ++ payload).drop 16 = payload := List.drop_left' rfl
  have payloadLength : fetchU16 (headerBytes header ++ payload) 10 = .ok (header.payloadLength,12) :=
    congrArg (fun value => Except.ok (value,12)) (lanes_u16 header.payloadLength)
  have storedCrc : fetchU32 (headerBytes header ++ payload) 12 = .ok (header.storedCrc,16) :=
    congrArg (fun value => Except.ok (value,16)) (lanes_u32 header.storedCrc)
  simp only [fetchEnd,bind,StateT.bind,Except.bind,payloadLength,storedCrc,returnUnless,Cursors.ensure,
    decide_eq_true_eq,get,getThe,MonadStateOf.get,StateT.get,pure,Except.pure]
  have fits : (header.payloadLength.toNat ≤ configurationRepositoryMaxPayloadSize ∧
        (headerBytes header ++ payload).length = configurationRepositoryHeaderSize + header.payloadLength.toNat) ↔
      ¬(header.payloadLength.toNat > configurationRepositoryMaxPayloadSize ∨
        payload.length ≠ header.payloadLength.toNat) := by
    rw [size,not_or,Nat.not_lt,not_ne_iff]
    exact and_congr_right fun _ => Nat.add_left_cancel_iff
  by_cases accepted : header.payloadLength.toNat ≤ configurationRepositoryMaxPayloadSize ∧
      (headerBytes header ++ payload).length = configurationRepositoryHeaderSize + header.payloadLength.toNat
  · have exactly := not_or.mp (fits.mp accepted)
    have crc := fetchCrc32_eq (Nat.le_of_eq accepted.2.symm)
    rw [behind] at crc
    rw [if_pos accepted]
    have read (value : UInt32) (cursor : Nat) :
        (liftM (Except.ok value : Checked UInt32) : Fetch UInt32) cursor = .ok (value,cursor) := rfl
    have complemented : ~~~(payload.take header.payloadLength.toNat).foldl crc32Byte 0xffffffff =
      crc32 (payload.take header.payloadLength.toNat) := rfl
    simp only [crc,read,complemented]
    by_cases same : crc32 (payload.take header.payloadLength.toNat) = header.storedCrc
    · rw [if_pos same,if_neg (by simp only [not_or]; exact ⟨exactly.1,exactly.2,not_not.mpr same⟩)]
      rfl
    · rw [if_neg same,if_pos (Or.inr (Or.inr same))]
  · have wrong := not_not.mp fun right => accepted (fits.mpr right)
    rw [if_neg accepted,if_pos (wrong.elim Or.inl fun other => Or.inr (Or.inl other))]

end Header

/-! ### The whole decoder -/

/-- What the decoder over the bytes returns is what the memory holds, and no access is out of bounds. -/
inductive Refines (blob : List UInt8) : MemoryDecoded → Decoded → Prop
  | stopped {generation : Option UInt32} {stop : DecodeStop} (sound : stop ≠ invalidAccess) :
      Refines blob ⟨generation,.error stop⟩ ⟨generation,.error stop⟩
  | decoded (generation : UInt32) (raw : RawConfiguration) :
      Refines blob ⟨some generation,.ok (raw,blob.length)⟩ ⟨some generation,.ok raw.configuration⟩

theorem Refines.inBounds {blob : List UInt8} {memory : MemoryDecoded} {bytes : Decoded}
    (refines : Refines blob memory bytes) : memory.outcome ≠ .error invalidAccess := by
  cases refines with
  | stopped sound => exact fun same => sound (Except.error.inj same)
  | decoded => exact fun same => by cases same

theorem Refines.decodes {blob : List UInt8} {memory : MemoryDecoded} {bytes : Decoded} {raw : RawConfiguration}
    {cursor : Nat} (refines : Refines blob memory bytes) (accepted : memory.outcome = .ok (raw,cursor)) :
    cursor = blob.length ∧ bytes.outcome = .ok raw.configuration ∧
      ∃ generation, memory.generation = some generation := by
  cases refines with
  | stopped => cases accepted
  | decoded generation =>
    cases accepted
    exact ⟨rfl,rfl,generation,rfl⟩

section Whole

variable (blob : List UInt8) (boardZones : List Zone)

/-- The payload behind a header whose length and checksum are right. -/
theorem fetchConfiguration_refines (generation : UInt32) (header : configurationRepositoryHeaderSize ≤ blob.length)
    (small : blob.length < 2 ^ 32) :
    Refines blob
      ⟨some generation,fetchConfiguration blob blob.length boardZones configurationRepositoryHeaderSize⟩
      ⟨some generation,decodePayload (blob.drop configurationRepositoryHeaderSize) boardZones⟩ := by
  have agree := fetchPayload_alike small configurationRepositoryHeaderSize header
  simp only [fetchConfiguration,decodePayload,bind,StateT.bind,Except.bind]
  generalize fetchPayload blob blob.length configurationRepositoryHeaderSize = fetched,
    getPayload (blob.drop configurationRepositoryHeaderSize) = result at agree ⊢
  cases agree with
  | stopped sound => exact .stopped sound
  | @read raw _ next inside holds =>
    subst holds
    have consumed : blob.drop next = [] ↔ next = blob.length := by
      rw [List.drop_eq_nil_iff]
      omega
    have verdict (cursor : Nat) : (liftM (rawConfigurationValidate raw boardZones) : Fetch IrrigationResult) cursor =
        .ok (irrigationConfigurationValidate raw.configuration boardZones,cursor) := by
      rw [rawConfigurationValidate_eq]
      rfl
    simp only [returnUnless,Cursors.ensure,decide_eq_true_eq,verdict]
    by_cases whole : next = blob.length
    · rw [if_pos whole,if_neg (not_not.mpr (consumed.mpr whole))]
      dsimp only
      by_cases valid : irrigationConfigurationValidate raw.configuration boardZones = .ok
      · rw [if_pos valid,if_neg (not_not.mpr valid),whole]
        exact .decoded _ _
      · rw [if_neg valid,if_pos valid]
        exact .stopped (returned_sound _)
    · rw [if_neg whole,if_pos (fun nothing => whole (consumed.mp nothing))]
      exact .stopped (returned_sound _)

theorem decodeInMemory_refines :
    Refines blob (decodeInMemory blob boardZones) (configurationRepositoryDecode blob boardZones) := by
  by_cases short : blob.length < configurationRepositoryHeaderSize
  · rw [decodeInMemory,configurationRepositoryDecode,if_pos short,if_pos short]
    exact .stopped (returned_sound _)
  obtain ⟨header,payload,rfl⟩ := split_header (Nat.not_lt.mp short)
  rw [decodeInMemory,if_neg short,decode_headerBytes,fetchGeneration_headerBytes]
  by_cases known : header.magic ≠ configurationRepositoryMagic
  · rw [if_pos known,if_pos known]
    exact .stopped (returned_sound _)
  by_cases current : header.schemaVersion ≠ irrigationConfigurationSchemaVersion
  · rw [if_neg known,if_neg known,if_pos current,if_pos current]
    exact .stopped (returned_sound _)
  rw [if_neg known,if_neg known,if_neg current,if_neg current]
  simp only [bind,StateT.bind,Except.bind,fetchEnd_headerBytes]
  by_cases refused : header.payloadLength.toNat > configurationRepositoryMaxPayloadSize ∨
      payload.length ≠ header.payloadLength.toNat ∨ crc32 (payload.take header.payloadLength.toNat) ≠ header.storedCrc
  · rw [if_pos refused,if_pos refused]
    exact .stopped (returned_sound _)
  · rw [if_neg refused,if_neg refused]
    simp only [not_or,Nat.not_lt,not_ne_iff] at refused
    have size : (headerBytes header ++ payload).length = 16 + payload.length := List.length_append
    have finish : 16 + header.payloadLength.toNat = (headerBytes header ++ payload).length := by
      rw [size,refused.2.1]
    have behind : (headerBytes header ++ payload).drop configurationRepositoryHeaderSize = payload :=
      List.drop_left' rfl
    have bound := header.payloadLength.toNat_lt
    have refines := fetchConfiguration_refines (headerBytes header ++ payload) boardZones header.generation
      (Nat.not_lt.mp short) (by omega)
    rw [behind] at refines
    simp only [finish]
    exact refines

end Whole

/-! ### Safety -/

/-- Encoded into any buffer of the maximal size, the configuration is decoded to the same live one. -/
def EncodesAgain (boardZones : List Zone) (raw : RawConfiguration) (generation : UInt32) : Prop :=
  ∀ buffer : List UInt8, configurationRepositoryMaxBlobSize ≤ buffer.length →
    let encoded := configurationRepositoryEncode raw.configuration generation buffer
    encoded.result = .ok ∧ ∃ again,
      decodeInMemory (encoded.buffer.take encoded.blobLength) boardZones =
        ⟨some generation,.ok (again,encoded.blobLength)⟩ ∧
      again.configuration.live = raw.configuration.live

/-- What decoding a blob guarantees; the cursor is where it stopped. -/
structure SafelyDecoded (blob : List UInt8) (boardZones : List Zone) (decoded : MemoryDecoded) : Prop where
  inBounds : decoded.outcome ≠ .error invalidAccess
  consumed : ∀ raw cursor, decoded.outcome = .ok (raw,cursor) → cursor = blob.length
  valid : ∀ raw cursor, decoded.outcome = .ok (raw,cursor) → rawConfigurationValidate raw boardZones = .ok .ok
  again : ∀ raw cursor, decoded.outcome = .ok (raw,cursor) →
    ∃ generation, decoded.generation = some generation ∧ EncodesAgain boardZones raw generation

theorem valid_encodesAgain {boardZones : List Zone} {raw : RawConfiguration}
    (valid : irrigationConfigurationValidate raw.configuration boardZones = .ok) (generation : UInt32) :
    EncodesAgain boardZones raw generation := by
  intro buffer room encoded
  have live := ((validate_ok_iff _ _).mp valid).2
  have encoding : encoded = _ := encode_valid valid generation buffer room
  have size : (blobBytes raw.configuration.live generation).length = encoded.blobLength := by
    rw [encoding,blobBytes_length]
  have stored : encoded.buffer.take encoded.blobLength = blobBytes raw.configuration.live generation := by
    rw [← size,encoding,List.take_left]
  obtain ⟨decoded,run,same,_⟩ := decode_blobBytes live generation
  refine ⟨by rw [encoding],?_⟩
  have refines := decodeInMemory_refines (blobBytes raw.configuration.live generation) boardZones
  rw [run] at refines
  rw [stored,← size]
  generalize decodeInMemory (blobBytes raw.configuration.live generation) boardZones = decodedAgain at refines ⊢
  cases refines with
  | decoded _ again => exact ⟨again,rfl,same⟩

/-- Whatever the bytes, decoding stays inside, and what it accepts is consumed, valid and can be
stored again. -/
theorem decode_safe (blob : List UInt8) (boardZones : List Zone) :
    SafelyDecoded blob boardZones (decodeInMemory blob boardZones) := by
  have refines := decodeInMemory_refines blob boardZones
  refine ⟨refines.inBounds,fun raw cursor accepted => (refines.decodes accepted).1,fun raw cursor accepted => ?_,
    fun raw cursor accepted => ?_⟩
  · obtain ⟨_,decoded,_⟩ := refines.decodes accepted
    rw [rawConfigurationValidate_eq,decode_valid decoded]
  · obtain ⟨_,decoded,generation,written⟩ := refines.decodes accepted
    exact ⟨generation,written,valid_encodesAgain (decode_valid decoded) generation⟩

end Irrigation.Repository
