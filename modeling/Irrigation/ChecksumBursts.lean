import Irrigation.RepositoryCorruption

/-! Up to four consecutive changed bytes in a payload, which the checksum always detects:
together they are no wider than its register. -/
namespace Irrigation.Repository

open Library

/-- Two payloads of one length that differ, but only within some consecutive bytes. -/
structure Burst (start width : Nat) (payload altered : List UInt8) : Prop where
  length : altered.length = payload.length
  changed : altered ≠ payload
  elsewhere : ∀ position, altered[position]? ≠ payload[position]? → start ≤ position ∧ position < start + width

namespace Burst

variable {start width : Nat} {payload altered : List UInt8}

theorem take_eq (burst : Burst start width payload altered) : altered.take start = payload.take start := by
  apply List.ext_getElem?
  intro position
  rw [List.getElem?_take,List.getElem?_take]
  split
  · next before =>
    by_contra differs
    have inside := burst.elsewhere position differs
    omega
  · rfl

theorem drop_eq (burst : Burst start width payload altered) :
    altered.drop (start + width) = payload.drop (start + width) := by
  apply List.ext_getElem?
  intro position
  rw [List.getElem?_drop,List.getElem?_drop]
  by_contra differs
  have inside := burst.elsewhere _ differs
  omega

/-- The bytes in front of the burst, the burst, and the bytes behind it. -/
theorem split (burst : Burst start width payload altered) : ∃ front old new back,
    payload = front ++ (old ++ back) ∧ altered = front ++ (new ++ back) ∧ new.length = old.length ∧
      old.length ≤ width ∧ new ≠ old := by
  have pieces (bytes : List UInt8) : bytes = bytes.take start ++
      ((bytes.drop start).take width ++ bytes.drop (start + width)) := by
    rw [← List.drop_drop,List.take_append_drop,List.take_append_drop]
  refine ⟨payload.take start,(payload.drop start).take width,(altered.drop start).take width,
    payload.drop (start + width),pieces payload,?_,?_,List.length_take_le _ _,?_⟩
  · rw [← burst.take_eq,← burst.drop_eq]
    exact pieces altered
  · rw [List.length_take,List.length_take,List.length_drop,List.length_drop,burst.length]
  · intro same
    apply burst.changed
    rw [pieces altered,burst.take_eq,same,burst.drop_eq]
    exact (pieces payload).symm

theorem crc32_ne (burst : Burst start 4 payload altered) : crc32 altered ≠ crc32 payload := by
  obtain ⟨front,old,new,back,rfl,rfl,lengths,narrow,changed⟩ := burst.split
  intro same
  have words := congrArg UInt32.toBitVec same
  rw [crc32_toBitVec,crc32_toBitVec] at words
  simp only [BitVec.not_inj,List.map_append] at words
  refine Crc.remainder_burst_ne (by decide) _ _ _ ?_ (by simpa using lengths) ?_ words
  · rw [List.length_map]
    omega
  · exact fun equal => changed (List.map_injective_iff.mpr (fun _ _ => UInt8.toBitVec_inj.mp) equal)

end Burst

/-- What a successful encode reports is a header of its payload, and the payload. -/
theorem encode_ok {configuration : IrrigationConfiguration} {generation : UInt32} {buffer : List UInt8}
    (ok : (configurationRepositoryEncode configuration generation buffer).result = .ok) :
    (configurationRepositoryEncode configuration generation buffer).buffer.take
        (configurationRepositoryEncode configuration generation buffer).blobLength =
      putHeader generation (putPayload configuration).bytes ++ (putPayload configuration).bytes := by
  unfold configurationRepositoryEncode at ok ⊢
  split at ok
  · contradiction
  · next counts =>
    split at ok
    · contradiction
    · next schema =>
      dsimp only at ok
      split at ok
      · contradiction
      · next fits =>
        have room : configurationRepositoryMaxBlobSize ≤ buffer.length := by
          simp only [not_or,not_lt] at counts
          exact counts.1
        have header : (buffer.take configurationRepositoryHeaderSize).length = configurationRepositoryHeaderSize := by
          rw [List.length_take]
          exact Nat.min_eq_left (Nat.le_trans (by decide) room)
        rw [if_neg counts,if_neg schema]
        dsimp only
        rw [if_neg fits,overwrite_blob generation _ buffer header,List.take_left']
        rw [List.length_append,putHeader_length]

/-- At most four consecutive changed payload bytes change the checksum, so no blob with such
a payload in place of the encoded one is decoded. -/
theorem burst_detected {start : Nat} {payload altered : List UInt8} (burst : Burst start 4 payload altered) :
    crc32 altered ≠ crc32 payload ∧
    ∀ (configuration : IrrigationConfiguration) (generation : UInt32) (buffer header : List UInt8)
      (boardZones : List Zone),
      let encoded := configurationRepositoryEncode configuration generation buffer
      encoded.result = .ok → encoded.buffer.take encoded.blobLength = header ++ payload →
      header.length = configurationRepositoryHeaderSize →
      (configurationRepositoryDecode (header ++ altered) boardZones).outcome = .error (.returned .corrupt) := by
  refine ⟨burst.crc32_ne,?_⟩
  intro configuration generation buffer header boardZones encoded ok blob size
  have written := (encode_ok ok).symm.trans blob
  obtain ⟨rfl,rfl⟩ := List.append_inj written (by rw [putHeader_length,size])
  rw [decode_putHeader]
  split
  · rfl
  · next accepted =>
    simp only [not_or,not_not] at accepted
    obtain ⟨_,whole,checksum⟩ := accepted
    rw [← whole,List.take_length] at checksum
    exact absurd checksum burst.crc32_ne

/-- The payload of the defaults with two bytes of its first text cleared. -/
def devAltered : List UInt8 := ((payloadBytes (devKitDefaults devZones).live).set 14 0).set 16 0

theorem devAltered_burst : Burst 13 4 (payloadBytes (devKitDefaults devZones).live) devAltered where
  length := by simp [devAltered]
  changed := fun same => absurd (congrArg (·[14]?) same) (by decide)
  elsewhere := by
    intro position differs
    by_contra outside
    apply differs
    rw [devAltered,List.getElem?_set_ne (by omega),List.getElem?_set_ne (by omega)]

theorem burst_detected_devAltered :
    crc32 devAltered ≠ crc32 (payloadBytes (devKitDefaults devZones).live) ∧
    (configurationRepositoryDecode (putHeader 7 (payloadBytes (devKitDefaults devZones).live) ++ devAltered)
      devZones).outcome = .error (.returned .corrupt) := by
  have encoded := encode_valid (devKitDefaults_valid devZones_usable) 7 slotBuffer (by simp [slotBuffer])
  obtain ⟨checksum,decoding⟩ := burst_detected devAltered_burst
  refine ⟨checksum,decoding (devKitDefaults devZones) 7 slotBuffer _ devZones ?_ ?_ (putHeader_length _ _)⟩
  · rw [encoded]
  · rw [encoded,List.take_left' (blobBytes_length _ _)]
    rfl

end Irrigation.Repository
