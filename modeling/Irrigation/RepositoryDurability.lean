import Irrigation.RepositorySlots

/-! What a successful save guarantees to the next load, and what an interrupted one
leaves. The generation of a save also looks at slots it could not use, so a header
of a broken second slot can put the new blob behind the old one. -/
namespace Irrigation.Repository

open Library

/-! ### The generation of a save -/

/-- B is unusable, yet its header carries a larger generation than the valid A. -/
def Shadowed (a b : Slot) : Prop :=
  a.state = .valid ∧ b.state ≠ .valid ∧ a.generation < b.generation ∧ 1 ≤ a.generation

theorem lt_successor {generation : UInt32} (room : generation + 1 ≠ 0) : generation < generation + 1 := by
  rw [UInt32.lt_iff_toNat_lt]
  have h : (generation + 1).toNat ≠ 0 := fun zero => room (UInt32.toNat_inj.mp zero)
  have bound := generation.toNat_lt
  simp only [UInt32.toNat_add,UInt32.reduceToNat] at h ⊢
  omega

/-- Outside the shadowed case the new generation is above the one a load would take. -/
theorem saveGeneration_newer {a b : Slot} (room : saveGeneration a b ≠ 0) (clear : ¬Shadowed a b)
    (taken : UInt32 × IrrigationConfiguration)
    (current : TwoSlot.current a.content b.content = some taken) : taken.1 < saveGeneration a b := by
  by_cases va : a.state = .valid
  · obtain ⟨_,_,ca⟩ := Slot.content_valid va
    by_cases ahead : a.generation ≥ b.generation
    · have wins : TwoSlot.FirstWins a.content b.content :=
        (firstWins_iff a b).mp (by simp [firstWins,va,ahead])
      rw [TwoSlot.current,if_pos wins,ca] at current
      cases current
      rw [saveGeneration,if_pos ⟨va,ahead⟩] at room ⊢
      exact lt_successor room
    · rw [saveGeneration,if_neg (fun both => ahead both.2)] at room ⊢
      by_cases vb : b.state = .valid
      · obtain ⟨_,_,cb⟩ := Slot.content_valid vb
        have loses : ¬TwoSlot.FirstWins a.content b.content :=
          (firstWins_iff a b).not.mp (by simp [firstWins,va,vb]; exact not_le.mp ahead)
        rw [TwoSlot.current,if_neg loses,cb] at current
        cases current
        rw [if_pos vb] at room ⊢
        exact lt_successor room
      · rw [TwoSlot.current,ca,Slot.content_invalid vb,if_pos (TwoSlot.firstWins_none_right _)] at current
        cases current
        rw [if_neg vb]
        exact not_le.mp (fun atLeast => clear ⟨va,vb,not_le.mp ahead,atLeast⟩)
  · rw [TwoSlot.current,Slot.content_invalid va,if_neg (TwoSlot.not_firstWins_none_left _)] at current
    rw [saveGeneration,if_neg (fun both => va both.1)] at room ⊢
    by_cases vb : b.state = .valid
    · obtain ⟨_,_,cb⟩ := Slot.content_valid vb
      rw [cb] at current
      cases current
      rw [if_pos vb] at room ⊢
      exact lt_successor room
    · rw [Slot.content_invalid vb] at current
      contradiction

theorem saveGeneration_shadowed {a b : Slot} (shadowed : Shadowed a b) : saveGeneration a b = 1 := by
  obtain ⟨_,invalid,behind,_⟩ := shadowed
  rw [saveGeneration,if_neg (fun ahead => absurd ahead.2 (not_le.mpr behind)),if_neg invalid]

/-! ### Durability -/

section Durability

variable {σ : Type} {storage : ConfigurationRepositoryStorage σ} {contents : σ → SlotContents}
variable {boardZones : List Zone} {configuration : IrrigationConfiguration}

/-- The next load reads the two-slot store whose spare took the new generation. -/
theorem load_after_save (reliable : Reliable storage contents) (state : σ)
    (saved : (configurationRepositorySave storage configuration boardZones state).1 = .ok) :
    let a := storedSlot boardZones (contents state) .a
    let b := storedSlot boardZones (contents state) .b
    let after := (configurationRepositorySave storage configuration boardZones state).2
    ∃ decoded, decoded.live = configuration.live ∧ ∀ loaded generation,
      (configurationRepositoryLoad storage boardZones after).1 = .ok (loaded,generation) ↔
        TwoSlot.currentOf (TwoSlot.replaceSpare a.content b.content (some (saveGeneration a b,decoded))) =
          some (generation,loaded) := by
  intro a b after
  obtain ⟨valid,_,stored⟩ := save_ok reliable state saved
  obtain ⟨decoded,new,same⟩ := content_blobBytes ((validate_ok_iff _ _).mp valid).2 (saveGeneration a b)
  have slots := storedContent_update boardZones (contents state)
    (some (blobBytes configuration.live (saveGeneration a b)))
  rw [new] at slots
  refine ⟨decoded,same,fun loaded generation => ?_⟩
  rw [load_ok_iff reliable.read,stored,← slots]
  rfl

/-- Outside the shadowed case the next load returns what was saved. -/
theorem load_after_save_clear (reliable : Reliable storage contents) (state : σ)
    (saved : (configurationRepositorySave storage configuration boardZones state).1 = .ok)
    (clear : ¬Shadowed (storedSlot boardZones (contents state) .a)
      (storedSlot boardZones (contents state) .b)) :
    ∃ loaded, (configurationRepositoryLoad storage boardZones
        (configurationRepositorySave storage configuration boardZones state).2).1 =
          .ok (loaded,saveGeneration (storedSlot boardZones (contents state) .a)
            (storedSlot boardZones (contents state) .b)) ∧
      loaded.live = configuration.live := by
  obtain ⟨decoded,same,next⟩ := load_after_save reliable state saved
  have room := (not_or.mp (save_ok reliable state saved).2.1).2
  exact ⟨decoded,(next _ _).mpr (TwoSlot.current_replaceSpare_newer (saveGeneration_newer room clear)),same⟩

/-- In the shadowed case the next load still returns the old first slot. -/
theorem load_after_save_shadowed (reliable : Reliable storage contents) (state : σ)
    (saved : (configurationRepositorySave storage configuration boardZones state).1 = .ok)
    (shadowed : Shadowed (storedSlot boardZones (contents state) .a)
      (storedSlot boardZones (contents state) .b)) :
    ∃ old, (storedSlot boardZones (contents state) .a).configuration = some old ∧
      (configurationRepositoryLoad storage boardZones
        (configurationRepositorySave storage configuration boardZones state).2).1 =
          .ok (old,(storedSlot boardZones (contents state) .a).generation) := by
  obtain ⟨decoded,_,next⟩ := load_after_save reliable state saved
  obtain ⟨old,present,content⟩ := Slot.content_valid shadowed.1
  have wins : TwoSlot.FirstWins (storedContent boardZones (contents state) .a)
      (storedContent boardZones (contents state) .b) := by
    rw [storedContent,content,storedContent,Slot.content_invalid shadowed.2.1]
    exact TwoSlot.firstWins_none_right _
  refine ⟨old,present,(next _ _).mpr (TwoSlot.current_replaceSpare_hidden wins content ?_)⟩
  rw [saveGeneration_shadowed shadowed]
  exact shadowed.2.2.2

/-- After a successful save on a reliable device, the next load returns the saved live
configuration unless the second slot shadowed it; then the old content is returned,
which is the saved one only where the two agree. -/
theorem save_then_load_iff (reliable : Reliable storage contents) (boardZones : List Zone)
    (configuration : IrrigationConfiguration) (state : σ)
    (saved : (configurationRepositorySave storage configuration boardZones state).1 = .ok) :
    let a := storedSlot boardZones (contents state) .a
    let b := storedSlot boardZones (contents state) .b
    let after := (configurationRepositorySave storage configuration boardZones state).2
    (∃ loaded generation, (configurationRepositoryLoad storage boardZones after).1 = .ok (loaded,generation) ∧
      loaded.live = configuration.live) ↔
    ¬Shadowed a b ∨ ∃ old, a.configuration = some old ∧ old.live = configuration.live := by
  intro a b after
  by_cases shadowed : Shadowed a b
  · obtain ⟨old,present,next⟩ := load_after_save_shadowed reliable state saved shadowed
    constructor
    · rintro ⟨loaded,generation,load,same⟩
      rw [next] at load
      cases load
      exact .inr ⟨_,present,same⟩
    · rintro (clear | ⟨other,present',same⟩)
      · exact absurd shadowed clear
      · rw [present] at present'
        cases present'
        exact ⟨old,_,next,same⟩
  · obtain ⟨loaded,next,same⟩ := load_after_save_clear reliable state saved shadowed
    exact ⟨fun _ => .inl shadowed,fun _ => ⟨loaded,_,next,same⟩⟩

end Durability

/-! ### A lost save

The second slot holds only the header of its blob. -/

def truncatedSpare : SlotContents
  | .a => some (blobBytes (devKitDefaults devZones).live 1)
  | .b => some (putHeader 2 (payloadBytes (devKitDefaults devZones).live))

theorem truncatedSpare_save_lost :
    irrigationConfigurationValidate renumberedDefaults devZones = .ok ∧
    (configurationRepositorySave memoryStorage renumberedDefaults devZones truncatedSpare).1 = .ok ∧
    ¬∃ loaded generation, (configurationRepositoryLoad memoryStorage devZones
        (configurationRepositorySave memoryStorage renumberedDefaults devZones truncatedSpare).2).1 =
          .ok (loaded,generation) ∧
      loaded.live = renumberedDefaults.live := by
  have valid := renumberedDefaults_valid
  obtain ⟨decoded,_,a,same⟩ := slotOf_blobBytes devKitDefaults_live_valid 1
  obtain ⟨_,b⟩ := slotOf_putHeader devKitDefaults_live_valid 2
  have slotA : storedSlot devZones truncatedSpare .a = _ := a
  have slotB : storedSlot devZones truncatedSpare .b = _ := b
  have shadowed : Shadowed (storedSlot devZones truncatedSpare .a)
      (storedSlot devZones truncatedSpare .b) := by
    rw [slotA,slotB]
    exact ⟨rfl,by simp,(by decide : (1 : UInt32) < 2),(by decide : (1 : UInt32) ≤ 1)⟩
  have kept : ¬SaveRefused (storedSlot devZones truncatedSpare .a)
      (storedSlot devZones truncatedSpare .b) := by
    rw [SaveRefused,saveGeneration_shadowed shadowed,slotA,slotB]
    simp
  obtain ⟨result,next,run,_,done⟩ := save_reliable memoryStorage_reliable valid truncatedSpare
  have saved : (configurationRepositorySave memoryStorage renumberedDefaults devZones truncatedSpare).1 =
      .ok := by rw [run]; exact (done kept).1
  refine ⟨valid,saved,?_⟩
  rintro ⟨loaded,generation,load,other⟩
  obtain ⟨old,present,hidden⟩ := load_after_save_shadowed memoryStorage_reliable truncatedSpare saved shadowed
  change (storedSlot devZones truncatedSpare .a).configuration = some old at present
  rw [slotA] at present
  cases present
  rw [hidden] at load
  cases load
  have differs := congrArg LiveConfiguration.nextProgramId (same.symm.trans other)
  exact absurd differs (by decide)

/-- An earlier save in the first slot, and only the header of an older one in the second. -/
def damagedSpare : SlotContents
  | .a => some (blobBytes (devKitDefaults devZones).live 5)
  | .b => some (putHeader 2 (payloadBytes (devKitDefaults devZones).live))

theorem save_then_load_iff_damaged :
    ∃ loaded generation, (configurationRepositoryLoad memoryStorage devZones
        (configurationRepositorySave memoryStorage renumberedDefaults devZones damagedSpare).2).1 =
          .ok (loaded,generation) ∧ loaded.live = renumberedDefaults.live := by
  obtain ⟨_,_,a,_⟩ := slotOf_blobBytes devKitDefaults_live_valid 5
  obtain ⟨_,b⟩ := slotOf_putHeader devKitDefaults_live_valid 2
  have slotA : storedSlot devZones damagedSpare .a = _ := a
  have slotB : storedSlot devZones damagedSpare .b = _ := b
  have clear : ¬Shadowed (storedSlot devZones damagedSpare .a) (storedSlot devZones damagedSpare .b) := by
    rw [slotA,slotB]
    have newer : ¬(5 : UInt32) < 2 := by decide
    exact fun shadowed => newer shadowed.2.2.1
  have saved : (configurationRepositorySave memoryStorage renumberedDefaults devZones damagedSpare).1 = .ok := by
    decide +kernel
  exact (save_then_load_iff memoryStorage_reliable devZones renumberedDefaults _ saved).mpr (.inl clear)

/-! ### Interrupted saves -/

section Interrupted

variable {σ : Type} (storage : ConfigurationRepositoryStorage σ) (boardZones : List Zone)

/-- The device with a log of the writes issued to it. -/
def recorded : ConfigurationRepositoryStorage (σ × List (SlotKey × List UInt8)) where
  read key capacity state :=
    let (outcome,next) := storage.read key capacity state.1
    (outcome,next,state.2)
  write key blob state :=
    let (result,next) := storage.write key blob state.1
    (result,next,state.2 ++ [(key,blob)])
  commit state :=
    let (result,next) := storage.commit state.1
    (result,next,state.2)

def savedWrites (configuration : IrrigationConfiguration) (state : σ) : List (SlotKey × List UInt8) :=
  (configurationRepositorySave (recorded storage) configuration boardZones (state,[])).2.2

/-- What a save that stops anywhere may leave: only a slot that was written to differs,
and it holds the written blob or bytes that decoding rejects. -/
def Residue (writes : List (SlotKey × List UInt8)) (before after : SlotContents) : Prop :=
  ∀ key, after key = before key ∨ ∃ blob, (key,blob) ∈ writes ∧
    (after key = some blob ∨ ∃ bytes, after key = some bytes ∧
      (configurationRepositoryDecode bytes boardZones).outcome.isOk = false)

end Interrupted

section Interrupted

variable {σ : Type} {storage : ConfigurationRepositoryStorage σ} {contents : σ → SlotContents}
variable {boardZones : List Zone} {configuration : IrrigationConfiguration}

theorem readSlot_orFails (reads : ReadsOrFails storage contents) (boardZones : List Zone) (key : SlotKey) (state : σ) :
    ∃ slot next, readSlot storage boardZones key state = (slot,next) ∧ contents next = contents state ∧
      (slot = storedSlot boardZones (contents state) key ∨ slot.state = .storageError) := by
  obtain ⟨outcome,next,read,unchanged,cases⟩ := reads key configurationRepositoryMaxBlobSize state
  refine ⟨slotOf boardZones outcome,next,by rw [readSlot,read],unchanged,?_⟩
  rcases cases with rfl | ⟨failure,notAbsent,rfl⟩
  · exact .inl rfl
  · apply Or.inr
    cases failure <;> first | rfl | exact absurd rfl notAbsent

/-- Recording neither changes the outcome nor the device. -/
theorem recorded_readSlot (key : SlotKey) (state : σ) (log : List (SlotKey × List UInt8)) :
    readSlot (recorded storage) boardZones key (state,log) =
      ((readSlot storage boardZones key state).1,(readSlot storage boardZones key state).2,log) := rfl

theorem recorded_storeBlob (target : SlotKey) (generation : UInt32) (blob : List UInt8) (state : σ)
    (log : List (SlotKey × List UInt8)) :
    storeBlob (recorded storage) boardZones target generation blob (state,log) =
      ((storeBlob storage boardZones target generation blob state).1,
        (storeBlob storage boardZones target generation blob state).2,log ++ [(target,blob)]) := by
  rcases write : storage.write target blob state with ⟨written,next⟩
  by_cases stored : written = .ok
  · subst stored
    rcases commit : storage.commit next with ⟨committed,next'⟩
    by_cases kept : committed = .ok
    · subst kept
      rcases read : storage.read target configurationRepositoryMaxBlobSize next' with ⟨outcome,last⟩
      cases outcome with
      | error failure => simp [storeBlob,recorded,write,commit,read]
      | ok verified =>
        simp only [storeBlob,recorded,write,commit,read]
        split <;> rfl
    · cases committed <;> first | contradiction | simp [storeBlob,recorded,write,commit]
  · cases written <;> first | contradiction | simp [storeBlob,recorded,write]

/-- The only write a save may issue is that of the new blob, to the slot a load would
not take. -/
theorem savedWrites_target (reads : ReadsOrFails storage contents) (state : σ)
    (write : SlotKey × List UInt8) (issued : write ∈ savedWrites storage boardZones configuration state) :
    let a := storedSlot boardZones (contents state) .a
    let b := storedSlot boardZones (contents state) .b
    irrigationConfigurationValidate configuration boardZones = .ok ∧
      write = (saveTarget a b,blobBytes configuration.live (saveGeneration a b)) := by
  intro a b
  unfold savedWrites at issued
  by_cases valid : irrigationConfigurationValidate configuration boardZones = .ok
  · refine ⟨valid,?_⟩
    obtain ⟨first,middle,readA,unchanged,caseA⟩ := readSlot_orFails reads boardZones .a state
    obtain ⟨second,last,readB,_,caseB⟩ := readSlot_orFails reads boardZones .b middle
    rw [save_eq valid,recorded_readSlot,readA] at issued
    simp only [recorded_readSlot,readB] at issued
    split at issued
    · simp at issued
    next readable =>
      obtain ⟨rfl,rfl⟩ : first = a ∧ second = b := by
        rw [not_or] at readable
        rw [unchanged] at caseB
        exact ⟨caseA.resolve_right readable.1,caseB.resolve_right readable.2⟩
      split at issued
      · simp at issued
      · simpa [recorded_storeBlob] using issued
  · rw [save_invalid valid] at issued
    simp at issued

/-- On a reliable device a save that is not refused issues exactly that write. -/
theorem savedWrites_reliable (reliable : Reliable storage contents) (state : σ)
    (valid : irrigationConfigurationValidate configuration boardZones = .ok) :
    let a := storedSlot boardZones (contents state) .a
    let b := storedSlot boardZones (contents state) .b
    ¬SaveRefused a b → savedWrites storage boardZones configuration state =
      [(saveTarget a b,blobBytes configuration.live (saveGeneration a b))] := by
  intro a b kept
  obtain ⟨readable,room⟩ := not_or.mp kept
  obtain ⟨middle,first,unchanged⟩ := readSlot_contents reliable.read boardZones .a state
  obtain ⟨last,second,_⟩ := readSlot_contents reliable.read boardZones .b middle
  rw [unchanged] at second
  rw [savedWrites,save_eq valid,recorded_readSlot,first]
  simp only [recorded_readSlot,second]
  rw [if_neg readable,if_neg room,recorded_storeBlob]
  rfl

theorem saveTarget_ne_selected (a b : Slot) : selectSlot a b ≠ some (saveTarget a b) := by
  unfold selectSlot saveTarget
  split
  · simp
  · split <;> simp

/-- An interrupted save leaves the slots of the two-slot store with some residue in its
spare. -/
theorem residue_slots (reads : ReadsOrFails storage contents) (state : σ) {after : SlotContents}
    (residue : Residue boardZones (savedWrites storage boardZones configuration state) (contents state) after) :
    let a := storedContent boardZones (contents state) .a
    let b := storedContent boardZones (contents state) .b
    let slots := (storedContent boardZones after .a,storedContent boardZones after .b)
    slots = (a,b) ∨ slots = TwoSlot.replaceSpare a b none ∨
      ∃ generation decoded, slots = TwoSlot.replaceSpare a b (some (generation,decoded)) ∧
        decoded.live = configuration.live := by
  intro a b slots
  let target := saveTarget (storedSlot boardZones (contents state) .a)
    (storedSlot boardZones (contents state) .b)
  have frame : ∀ key, key ≠ target → after key = contents state key := by
    intro key other
    rcases residue key with same | ⟨blob,issued,_⟩
    · exact same
    · exact absurd (congrArg Prod.fst (savedWrites_target reads state _ issued).2) other
  have shape : Function.update (contents state) target (after target) = after := by
    funext key
    by_cases same : key = target
    · rw [same,Function.update_self]
    · rw [Function.update_of_ne same,frame key same]
  have spare := storedContent_update boardZones (contents state) (after target)
  simp only [show saveTarget _ _ = target from rfl,shape] at spare
  rcases residue target with same | ⟨blob,issued,written | ⟨bytes,left,rejected⟩⟩
  · rw [same,Function.update_eq_self] at shape
    exact .inl (by simp only [slots,a,b,← shape])
  · obtain ⟨valid,write⟩ := savedWrites_target reads state _ issued
    obtain ⟨decoded,new,same⟩ := content_blobBytes ((validate_ok_iff _ _).mp valid).2
      (saveGeneration (storedSlot boardZones (contents state) .a)
        (storedSlot boardZones (contents state) .b))
    obtain ⟨_,rfl⟩ := Prod.mk.inj write
    rw [written,new] at spare
    exact .inr (.inr ⟨_,decoded,spare,same⟩)
  · rw [left,content_rejected rejected] at spare
    exact .inr (.inl spare)

/-- Interrupting a save anywhere leaves a store whose next load returns the old or the
new configuration, and the slot a load would have taken is never written. -/
theorem save_interrupted {storage : ConfigurationRepositoryStorage σ} {contents : σ → SlotContents}
    (reads : ReadsOrFails storage contents) (boardZones : List Zone) (state : σ)
    (old new : IrrigationConfiguration) (generation : UInt32) (after : SlotContents)
    (loadable : (configurationRepositoryLoad memoryStorage boardZones (contents state)).1 =
      .ok (old,generation))
    (residue : Residue boardZones (savedWrites storage boardZones new state) (contents state) after) :
    (∃ loaded generation', (configurationRepositoryLoad memoryStorage boardZones after).1 =
        .ok (loaded,generation') ∧ (loaded.live = old.live ∨ loaded.live = new.live)) ∧
    ∀ write ∈ savedWrites storage boardZones new state,
      selectSlot (storedSlot boardZones (contents state) .a) (storedSlot boardZones (contents state) .b) ≠
        some write.1 := by
  have before := (load_ok_iff memoryStorage_reliable.read _ _ _).mp loadable
  refine ⟨?_,?_⟩
  · have taken : ∃ loaded generation', TwoSlot.currentOf (storedContent boardZones after .a,
        storedContent boardZones after .b) = some (generation',loaded) ∧
          (loaded.live = old.live ∨ loaded.live = new.live) := by
      rcases residue_slots reads state residue with same | spare | ⟨written,decoded,spare,same⟩
      · exact ⟨old,generation,by rw [same]; exact before,.inl rfl⟩
      · exact ⟨old,generation,by rw [spare,TwoSlot.current_replaceSpare_none]; exact before,.inl rfl⟩
      · rw [spare]
        rcases TwoSlot.current_replaceSpare_cases (storedContent boardZones (contents state) .a)
          (storedContent boardZones (contents state) .b) (written,decoded) with kept | replaced
        · exact ⟨old,generation,kept.trans before,.inl rfl⟩
        · exact ⟨decoded,written,replaced,.inr same⟩
    obtain ⟨loaded,generation',current,cases⟩ := taken
    exact ⟨loaded,generation',(load_ok_iff memoryStorage_reliable.read after loaded generation').mpr current,
      cases⟩
  · intro write issued
    rw [(savedWrites_target reads state write issued).2]
    exact saveTarget_ne_selected _ _

end Interrupted

/-- Power fails while the second slot is written for the first time. -/
def firstSaved : SlotContents
  | .a => some (blobBytes (devKitDefaults devZones).live 1)
  | .b => none

theorem firstSaved_slots : ∃ old usable,
    storedSlot devZones firstSaved .a = ⟨.valid,1,some old,usable⟩ ∧
      storedSlot devZones firstSaved .b = slotOf devZones (.error .notFound) := by
  obtain ⟨old,usable,a,_⟩ := slotOf_blobBytes devKitDefaults_live_valid 1
  exact ⟨old,usable,a,rfl⟩

theorem firstSaved_loads : ∃ old,
    (configurationRepositoryLoad memoryStorage devZones firstSaved).1 = .ok (old,1) := by
  obtain ⟨old,_,a,b⟩ := firstSaved_slots
  refine ⟨old,?_⟩
  rw [load_contents memoryStorage_reliable.read]
  change loadResult (storedSlot devZones firstSaved .a) (storedSlot devZones firstSaved .b) = _
  rw [a,b]
  rfl

theorem firstSaved_writes :
    ∃ blob, savedWrites memoryStorage devZones renumberedDefaults firstSaved = [(SlotKey.b,blob)] := by
  obtain ⟨old,_,a,b⟩ := firstSaved_slots
  have kept : ¬SaveRefused (storedSlot devZones firstSaved .a) (storedSlot devZones firstSaved .b) := by
    rw [a,b]
    change ¬((SlotState.valid = .storageError ∨ SlotState.empty = .storageError) ∨ (2 : UInt32) = 0)
    decide
  have target : saveTarget (storedSlot devZones firstSaved .a) (storedSlot devZones firstSaved .b) = .b := by
    rw [a,b]
    rfl
  have writes := savedWrites_reliable memoryStorage_reliable firstSaved renumberedDefaults_valid kept
  simp only [id,target] at writes
  exact ⟨_,writes⟩

theorem save_interrupted_torn : ∃ old,
    (configurationRepositoryLoad memoryStorage devZones firstSaved).1 = .ok (old,1) ∧
    (∃ loaded generation, (configurationRepositoryLoad memoryStorage devZones
        (Function.update firstSaved .b (some [73,67]))).1 = .ok (loaded,generation) ∧
      (loaded.live = old.live ∨ loaded.live = renumberedDefaults.live)) ∧
    ∀ write ∈ savedWrites memoryStorage devZones renumberedDefaults firstSaved,
      selectSlot (storedSlot devZones firstSaved .a) (storedSlot devZones firstSaved .b) ≠ some write.1 := by
  obtain ⟨old,loadable⟩ := firstSaved_loads
  obtain ⟨blob,writes⟩ := firstSaved_writes
  have reads : ReadsOrFails memoryStorage id := fun _ _ _ => ⟨_,_,rfl,rfl,.inl rfl⟩
  refine ⟨old,loadable,save_interrupted reads devZones firstSaved old renumberedDefaults 1 _ loadable ?_⟩
  intro key
  cases key with
  | a => exact .inl rfl
  | b => exact .inr ⟨blob,by rw [writes]; exact List.mem_singleton_self _,.inr ⟨[73,67],rfl,rfl⟩⟩

end Irrigation.Repository
