import Irrigation.Library.TwoSlot
import Irrigation.RepositoryRoundTrip

/-! Saving and loading as operations on a two-slot store. A device is seen through
the bytes its slots hold; loading reads the current slot of that store and saving
replaces the other one. -/
namespace Irrigation.Repository

open Library

/-- What each slot of a device holds. -/
abbrev SlotContents := SlotKey → Option (List UInt8)

/-! ### Slots as two-slot contents -/

namespace Slot

def content (slot : Slot) : TwoSlot.Content UInt32 IrrigationConfiguration :=
  slot.configuration.map (slot.generation,·)

theorem content_valid {slot : Slot} (valid : slot.state = .valid) :
    ∃ configuration, slot.configuration = some configuration ∧
      slot.content = some (slot.generation,configuration) := by
  obtain ⟨configuration,present⟩ := Option.isSome_iff_exists.mp (slot.usable.mp valid)
  exact ⟨configuration,present,by simp [content,present]⟩

theorem configuration_invalid {slot : Slot} (invalid : slot.state ≠ .valid) :
    slot.configuration = none := by
  have h := fun present => invalid (slot.usable.mpr present)
  simpa using h

theorem content_invalid {slot : Slot} (invalid : slot.state ≠ .valid) : slot.content = none := by
  simp [content,configuration_invalid invalid]

end Slot

theorem firstWins_iff (a b : Slot) :
    firstWins a b = true ↔ TwoSlot.FirstWins a.content b.content := by
  by_cases va : a.state = .valid
  · obtain ⟨_,_,ca⟩ := Slot.content_valid va
    by_cases vb : b.state = .valid
    · obtain ⟨_,_,cb⟩ := Slot.content_valid vb
      simp [firstWins,va,vb,ca,cb]
    · simp [firstWins,va,vb,ca,Slot.content_invalid vb]
  · simp [firstWins,va,Slot.content_invalid va]

theorem saveTarget_eq (a b : Slot) :
    saveTarget a b = if TwoSlot.FirstWins a.content b.content then .b else .a := by
  simp only [saveTarget,firstWins_iff]

theorem selectSlot_eq (a b : Slot) : selectSlot a b =
    if TwoSlot.FirstWins a.content b.content then some .a
    else if b.content.isSome then some .b else none := by
  have second : b.state = .valid ↔ b.content.isSome = true := by simp [Slot.content,b.usable]
  simp only [selectSlot,firstWins_iff,second]

/-- Loading succeeds exactly with the current content of the two slots. -/
theorem loadResult_eq_ok_iff (a b : Slot) (loaded : IrrigationConfiguration) (generation : UInt32) :
    loadResult a b = .ok (loaded,generation) ↔
      TwoSlot.current a.content b.content = some (generation,loaded) := by
  by_cases wins : TwoSlot.FirstWins a.content b.content
  · have select : selectSlot a b = some .a := if_pos ((firstWins_iff a b).mpr wins)
    have valid : a.state = .valid := by
      by_contra invalid
      rw [Slot.content_invalid invalid] at wins
      exact TwoSlot.not_firstWins_none_left _ wins
    obtain ⟨configuration,present,content⟩ := Slot.content_valid valid
    rw [TwoSlot.current,if_pos wins,content,loadResult,select]
    simp [present,and_comm]
  · have lost := (firstWins_iff a b).not.mpr wins
    rw [TwoSlot.current,if_neg wins]
    by_cases valid : b.state = .valid
    · have select : selectSlot a b = some .b := by rw [selectSlot,if_neg lost,if_pos valid]
      obtain ⟨configuration,present,content⟩ := Slot.content_valid valid
      rw [content,loadResult,select]
      simp [present,and_comm]
    · have select : selectSlot a b = none := by rw [selectSlot,if_neg lost,if_neg valid]
      rw [Slot.content_invalid valid,loadResult,select]
      dsimp only
      split_ifs <;> simp

/-! ### Devices seen through their contents -/

/-- What a read reports of the bytes under a key. -/
def readOutcome (capacity : Nat) :
    Option (List UInt8) → Except ConfigurationRepositoryResult (List UInt8)
  | none => .error .notFound
  | some blob => if blob.length ≤ capacity then .ok blob else .error .storageError

section Devices

variable {σ : Type} (storage : ConfigurationRepositoryStorage σ) (contents : σ → SlotContents)

/-- Reads report what is stored and change nothing. -/
def ReadsContents : Prop := ∀ key capacity state, ∃ next,
  storage.read key capacity state = (readOutcome capacity (contents state key),next) ∧
    contents next = contents state

/-- No call fails, and a read returns the bytes last written. -/
structure Reliable : Prop where
  read : ReadsContents storage contents
  write : ∀ key blob state, ∃ next, storage.write key blob state = (.ok,next) ∧
    contents next = Function.update (contents state) key (some blob)
  commit : ∀ state, ∃ next, storage.commit state = (.ok,next) ∧ contents next = contents state

/-- A read may also fail, but never reports a stored slot as absent. -/
def ReadsOrFails : Prop := ∀ key capacity state, ∃ outcome next,
  storage.read key capacity state = (outcome,next) ∧ contents next = contents state ∧
    (outcome = readOutcome capacity (contents state key) ∨
      ∃ failure ≠ .notFound, outcome = .error failure)

end Devices

/-- The device that is its contents. -/
def memoryStorage : ConfigurationRepositoryStorage SlotContents where
  read key capacity state := (readOutcome capacity (state key),state)
  write key blob state := (.ok,Function.update state key (some blob))
  commit state := (.ok,state)

theorem memoryStorage_reliable : Reliable memoryStorage id where
  read := fun _ _ _ => ⟨_,rfl,rfl⟩
  write := fun _ _ _ => ⟨_,rfl,rfl⟩
  commit := fun _ => ⟨_,rfl,rfl⟩

def storedSlot (boardZones : List Zone) (contents : SlotContents) (key : SlotKey) : Slot :=
  slotOf boardZones (readOutcome configurationRepositoryMaxBlobSize (contents key))

abbrev storedContent (boardZones : List Zone) (contents : SlotContents) (key : SlotKey) :
    TwoSlot.Content UInt32 IrrigationConfiguration := (storedSlot boardZones contents key).content

section Loading

variable {σ : Type} {storage : ConfigurationRepositoryStorage σ} {contents : σ → SlotContents}
variable {boardZones : List Zone}

theorem readSlot_contents (reads : ReadsContents storage contents) (boardZones : List Zone) (key : SlotKey) (state : σ) :
    ∃ next, readSlot storage boardZones key state = (storedSlot boardZones (contents state) key,next) ∧
      contents next = contents state := by
  obtain ⟨next,read,unchanged⟩ := reads key configurationRepositoryMaxBlobSize state
  exact ⟨next,by rw [readSlot,read,storedSlot],unchanged⟩

/-- A load depends on the device only through what its slots hold. -/
theorem load_contents (reads : ReadsContents storage contents) (state : σ) :
    (configurationRepositoryLoad storage boardZones state).1 =
      loadResult (storedSlot boardZones (contents state) .a) (storedSlot boardZones (contents state) .b) := by
  obtain ⟨middle,first,unchanged⟩ := readSlot_contents reads boardZones .a state
  obtain ⟨last,second,_⟩ := readSlot_contents reads boardZones .b middle
  rw [unchanged] at second
  simp only [configurationRepositoryLoad,first,second]

theorem load_ok_iff (reads : ReadsContents storage contents) (state : σ)
    (loaded : IrrigationConfiguration) (generation : UInt32) :
    (configurationRepositoryLoad storage boardZones state).1 = .ok (loaded,generation) ↔
      TwoSlot.current (storedContent boardZones (contents state) .a)
        (storedContent boardZones (contents state) .b) = some (generation,loaded) := by
  rw [load_contents reads]
  exact loadResult_eq_ok_iff _ _ _ _

end Loading

/-- Whatever the target slot holds afterwards, the two slots are those of the
two-slot store whose spare was replaced by it. -/
theorem storedContent_update (boardZones : List Zone) (contents : SlotContents)
    (residue : Option (List UInt8)) :
    let after := Function.update contents
      (saveTarget (storedSlot boardZones contents .a) (storedSlot boardZones contents .b)) residue
    (storedContent boardZones after .a,storedContent boardZones after .b) =
      TwoSlot.replaceSpare (storedContent boardZones contents .a) (storedContent boardZones contents .b)
        (slotOf boardZones (readOutcome configurationRepositoryMaxBlobSize residue)).content := by
  by_cases wins : TwoSlot.FirstWins (storedContent boardZones contents .a)
      (storedContent boardZones contents .b)
  · simp only [saveTarget_eq,TwoSlot.replaceSpare,if_pos wins]
    simp [storedContent,storedSlot]
  · simp only [saveTarget_eq,TwoSlot.replaceSpare,if_neg wins]
    simp [storedContent,storedSlot]

theorem blobBytes_room {boardZones : List Zone} {live : LiveConfiguration}
    (valid : live.Valid boardZones) (generation : UInt32) :
    (blobBytes live generation).length ≤ configurationRepositoryMaxBlobSize := by
  have small : (payloadBytes live).length ≤ 3025 := payloadBytes_length_le valid
  rw [blobBytes_length]
  change 16 + _ ≤ 3041
  omega

/-- The slot of an intact blob. -/
theorem slotOf_blobBytes {boardZones : List Zone} {live : LiveConfiguration}
    (valid : live.Valid boardZones) (generation : UInt32) :
    ∃ decoded usable, slotOf boardZones (readOutcome configurationRepositoryMaxBlobSize
      (some (blobBytes live generation))) = ⟨.valid,generation,some decoded,usable⟩ ∧
        decoded.live = live := by
  obtain ⟨decoded,run,same,_⟩ := decode_blobBytes valid generation
  refine ⟨decoded,by simp,?_,same⟩
  rw [readOutcome,if_pos (blobBytes_room valid generation),slotOf,run]
  rfl

theorem content_blobBytes {boardZones : List Zone} {live : LiveConfiguration}
    (valid : live.Valid boardZones) (generation : UInt32) :
    ∃ decoded, (slotOf boardZones (readOutcome configurationRepositoryMaxBlobSize
      (some (blobBytes live generation)))).content = some (generation,decoded) ∧ decoded.live = live := by
  obtain ⟨decoded,_,slot,same⟩ := slotOf_blobBytes valid generation
  exact ⟨decoded,by rw [slot]; rfl,same⟩

/-- The slot of bytes that decoding rejects. -/
theorem content_rejected {boardZones : List Zone} {bytes : List UInt8}
    (rejected : (configurationRepositoryDecode bytes boardZones).outcome.isOk = false) :
    (slotOf boardZones (readOutcome configurationRepositoryMaxBlobSize (some bytes))).content = none := by
  apply Slot.content_invalid
  rw [readOutcome]
  split
  · simp only [slotOf,slotOfDecoded]
    split
    next accepted => simp [accepted,Except.isOk,Except.toBool] at rejected
    next => simp
    next => simp
  · simp [slotOf]

/-- The slot of a header whose payload is missing. -/
theorem slotOf_putHeader {boardZones : List Zone} {live : LiveConfiguration}
    (valid : live.Valid boardZones) (generation : UInt32) :
    ∃ usable, slotOf boardZones (readOutcome configurationRepositoryMaxBlobSize
      (some (putHeader generation (payloadBytes live)))) = ⟨.corrupt,generation,none,usable⟩ := by
  have small : (payloadBytes live).length ≤ 3025 := payloadBytes_length_le valid
  have some : 13 ≤ (payloadBytes live).length := by simp [payloadBytes,putU16,putU32]
  have short : ([] : List UInt8).length ≠ (payloadBytes live).length.toUInt16.toNat := by simp; omega
  have run := decode_putHeader generation (payloadBytes live) [] boardZones
  rw [if_pos (.inr (.inl short)),List.append_nil] at run
  refine ⟨by simp,?_⟩
  rw [readOutcome,if_pos (by simp),slotOf,run]
  rfl

/-! ### Saving -/

section Saving

variable {σ : Type} {storage : ConfigurationRepositoryStorage σ} {contents : σ → SlotContents}
variable {boardZones : List Zone} {configuration : IrrigationConfiguration}

/-- For a valid configuration the encoder never refuses and the blob is that of its
live part. -/
theorem save_eq (valid : irrigationConfigurationValidate configuration boardZones = .ok) (state : σ) :
    configurationRepositorySave storage configuration boardZones state =
      (let (a,state) := readSlot storage boardZones .a state
       let (b,state) := readSlot storage boardZones .b state
       if a.state = .storageError ∨ b.state = .storageError then (.storageError,state)
       else if saveGeneration a b = 0 then (.storageError,state)
       else storeBlob storage boardZones (saveTarget a b) (saveGeneration a b)
        (blobBytes configuration.live (saveGeneration a b)) state) := by
  have room : configurationRepositoryMaxBlobSize ≤ slotBuffer.length := by simp [slotBuffer]
  rw [configurationRepositorySave,if_neg (fun refused => refused valid)]
  simp only [encode_valid valid _ slotBuffer room]
  rw [List.take_left' (blobBytes_length _ _)]
  simp

theorem save_invalid (invalid : irrigationConfigurationValidate configuration boardZones ≠ .ok)
    (state : σ) : configurationRepositorySave storage configuration boardZones state =
      (.invalidConfiguration,state) := by
  rw [configurationRepositorySave,if_pos invalid]

/-- On a reliable device an intact blob is stored and verified. -/
theorem storeBlob_reliable (reliable : Reliable storage contents) {live : LiveConfiguration}
    (valid : live.Valid boardZones) (target : SlotKey) (generation : UInt32) (state : σ) :
    ∃ next, storeBlob storage boardZones target generation (blobBytes live generation) state = (.ok,next) ∧
      contents next = Function.update (contents state) target (some (blobBytes live generation)) := by
  obtain ⟨written,write,stored⟩ := reliable.write target (blobBytes live generation) state
  obtain ⟨committed,commit,kept⟩ := reliable.commit written
  obtain ⟨verified,read,unchanged⟩ := reliable.read target configurationRepositoryMaxBlobSize committed
  obtain ⟨decoded,run,_,_⟩ := decode_blobBytes valid generation
  rw [kept,stored,Function.update_self,readOutcome,if_pos (blobBytes_room valid generation)] at read
  refine ⟨verified,?_,unchanged.trans (kept.trans stored)⟩
  simp [storeBlob,write,commit,read,run,Except.isOk,Except.toBool]

/-- When a save refuses to write: a slot is unreadable or the generation would wrap. -/
def SaveRefused (a b : Slot) : Prop :=
  (a.state = .storageError ∨ b.state = .storageError) ∨ saveGeneration a b = 0

/-- A save that is not refused replaces the target by the new blob. -/
theorem save_reliable (reliable : Reliable storage contents)
    (valid : irrigationConfigurationValidate configuration boardZones = .ok) (state : σ) :
    let a := storedSlot boardZones (contents state) .a
    let b := storedSlot boardZones (contents state) .b
    ∃ result next, configurationRepositorySave storage configuration boardZones state = (result,next) ∧
      (SaveRefused a b → result = .storageError ∧ contents next = contents state) ∧
      (¬SaveRefused a b → result = .ok ∧ contents next = Function.update (contents state)
        (saveTarget a b) (some (blobBytes configuration.live (saveGeneration a b)))) := by
  intro a b
  obtain ⟨middle,first,unchanged⟩ := readSlot_contents reliable.read boardZones .a state
  obtain ⟨last,second,unchanged'⟩ := readSlot_contents reliable.read boardZones .b middle
  rw [unchanged] at second unchanged'
  obtain ⟨next,stored,after⟩ := storeBlob_reliable reliable ((validate_ok_iff _ _).mp valid).2
    (saveTarget a b) (saveGeneration a b) last
  rw [unchanged'] at after
  rw [save_eq valid]
  simp only [first,second]
  by_cases failed : a.state = .storageError ∨ b.state = .storageError
  · exact ⟨_,last,if_pos failed,fun _ => ⟨rfl,unchanged'⟩,fun kept => absurd (.inl failed) kept⟩
  · rw [if_neg failed]
    by_cases wrapped : saveGeneration a b = 0
    · exact ⟨_,last,if_pos wrapped,fun _ => ⟨rfl,unchanged'⟩,fun kept => absurd (.inr wrapped) kept⟩
    · rw [if_neg wrapped]
      exact ⟨_,next,stored,fun refused => absurd refused (not_or.mpr ⟨failed,wrapped⟩),
        fun _ => ⟨rfl,after⟩⟩

/-- A successful save was of a valid configuration, was not refused, and left the
new blob in the target. -/
theorem save_ok (reliable : Reliable storage contents) (state : σ)
    (saved : (configurationRepositorySave storage configuration boardZones state).1 = .ok) :
    let a := storedSlot boardZones (contents state) .a
    let b := storedSlot boardZones (contents state) .b
    irrigationConfigurationValidate configuration boardZones = .ok ∧ ¬SaveRefused a b ∧
      contents (configurationRepositorySave storage configuration boardZones state).2 =
        Function.update (contents state) (saveTarget a b)
          (some (blobBytes configuration.live (saveGeneration a b))) := by
  intro a b
  by_cases valid : irrigationConfigurationValidate configuration boardZones = .ok
  · obtain ⟨result,next,run,refused,done⟩ := save_reliable reliable valid state
    rw [run] at saved ⊢
    by_cases kept : SaveRefused a b
    · exact absurd ((refused kept).1.symm.trans saved) (by decide)
    · exact ⟨valid,kept,(done kept).2⟩
  · rw [save_invalid valid] at saved
    simp at saved

end Saving

end Irrigation.Repository
