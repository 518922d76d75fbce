import Mathlib.Data.Finset.Card
import Mathlib.Data.Fintype.Card
import Mathlib.Data.List.FinRange

/-! A fixed number of slots that hold values under keys. A pass stores a list of
entries, each in the slot of its key or in one not in use, and ends early at the first
entry it has no slot for; a complete pass gives the other slots up. -/
namespace KeyedSlots

universe u v

/-- What a slot not in use holds is left over from before. -/
structure Slots (n : Nat) (κ : Type u) (ν : Type v) where
  used : Fin n → Bool
  key : Fin n → κ
  value : Fin n → ν

structure Entry (κ : Type u) (ν : Type v) where
  key : κ
  value : ν

/-- The slots after a pass, those it chose in order, and whether it reached the end. -/
structure Pass (n : Nat) (κ : Type u) (ν : Type v) where
  complete : Bool
  chosen : List (Fin n)
  slots : Slots n κ ν

namespace Slots

variable {n : Nat} {κ : Type u} {ν : Type v}

def unusedSlot (slots : Slots n κ ν) : Option (Fin n) :=
  (List.finRange n).find? fun slot => !slots.used slot

def store (slots : Slots n κ ν) (slot : Fin n) (entry : Entry κ ν) : Slots n κ ν where
  used := Function.update slots.used slot true
  key := Function.update slots.key slot entry.key
  value := Function.update slots.value slot entry.value

def retain (slots : Slots n κ ν) (chosen : List (Fin n)) : Slots n κ ν :=
  { slots with used := fun slot => chosen.contains slot }

/-- The slots that a pass leaves behind. -/
def settle (pass : Pass n κ ν) : Slots n κ ν :=
  if pass.complete then pass.slots.retain pass.chosen else pass.slots

/-- No key is in use twice. -/
def Distinct (slots : Slots n κ ν) : Prop :=
  ∀ first second, slots.used first = true → slots.used second = true →
    slots.key first = slots.key second → first = second

/-- Every slot in use stays in use under its key. -/
def Keeps (slots later : Slots n κ ν) : Prop :=
  ∀ slot, slots.used slot = true → later.used slot = true ∧ later.key slot = slots.key slot

theorem unusedSlot_some {slots : Slots n κ ν} {slot : Fin n} (found : slots.unusedSlot = some slot) :
    slots.used slot = false := by
  simpa using List.find?_some found

theorem unusedSlot_none {slots : Slots n κ ν} (full : slots.unusedSlot = none) (slot : Fin n) :
    slots.used slot = true := by
  simpa using List.find?_eq_none.mp full slot (List.mem_finRange slot)

theorem Keeps.refl (slots : Slots n κ ν) : slots.Keeps slots := fun _ used => ⟨used,rfl⟩

theorem Keeps.trans {first second third : Slots n κ ν} (one : first.Keeps second) (other : second.Keeps third) :
    first.Keeps third := by
  intro slot used
  obtain ⟨stillUsed,sameKey⟩ := one slot used
  obtain ⟨atLast,lastKey⟩ := other slot stillUsed
  exact ⟨atLast,lastKey.trans sameKey⟩

@[simp] theorem store_used_self (slots : Slots n κ ν) (slot : Fin n) (entry : Entry κ ν) :
    (slots.store slot entry).used slot = true := Function.update_self ..

@[simp] theorem store_key_self (slots : Slots n κ ν) (slot : Fin n) (entry : Entry κ ν) :
    (slots.store slot entry).key slot = entry.key := Function.update_self ..

@[simp] theorem store_value_self (slots : Slots n κ ν) (slot : Fin n) (entry : Entry κ ν) :
    (slots.store slot entry).value slot = entry.value := Function.update_self ..

theorem store_of_ne (slots : Slots n κ ν) {slot other : Fin n} (entry : Entry κ ν) (different : other ≠ slot) :
    (slots.store slot entry).used other = slots.used other ∧
      (slots.store slot entry).key other = slots.key other ∧
      (slots.store slot entry).value other = slots.value other :=
  ⟨Function.update_of_ne different ..,Function.update_of_ne different ..,Function.update_of_ne different ..⟩

theorem mem_retain {slots : Slots n κ ν} {chosen : List (Fin n)} {slot : Fin n} :
    (slots.retain chosen).used slot = true ↔ slot ∈ chosen := by
  simp [retain]

variable [DecidableEq κ]

def slotForKey (slots : Slots n κ ν) (key : κ) : Option (Fin n) :=
  (List.finRange n).find? fun slot => slots.used slot && slots.key slot = key

/-- The slot of a key, or else the first one not in use. -/
def chooseSlot (slots : Slots n κ ν) (key : κ) : Option (Fin n) :=
  (slots.slotForKey key).or slots.unusedSlot

/-- An absent entry ends the pass as a missing slot does. -/
def pass : List (Option (Entry κ ν)) → Slots n κ ν → Pass n κ ν
  | [], slots => ⟨true,[],slots⟩
  | none :: _, slots => ⟨false,[],slots⟩
  | some entry :: rest, slots =>
    match slots.chooseSlot entry.key with
    | none => ⟨false,[],slots⟩
    | some slot =>
      let later := pass rest (slots.store slot entry)
      { later with chosen := slot :: later.chosen }

/-! ### Keys in use -/

/-- The keys in use. -/
def keys (slots : Slots n κ ν) : Finset κ :=
  (Finset.univ.filter fun slot => slots.used slot = true).image slots.key

theorem mem_keys {slots : Slots n κ ν} {key : κ} :
    key ∈ slots.keys ↔ ∃ slot, slots.used slot = true ∧ slots.key slot = key := by
  simp [keys]

theorem card_keys_le (slots : Slots n κ ν) : slots.keys.card ≤ n := by
  calc slots.keys.card ≤ (Finset.univ.filter fun slot => slots.used slot = true).card := Finset.card_image_le
    _ ≤ (Finset.univ : Finset (Fin n)).card := Finset.card_filter_le _ _
    _ = n := Finset.card_fin n

/-- Slots that are all in use under different keys have as many keys as there are slots. -/
theorem card_keys_full {slots : Slots n κ ν} (distinct : slots.Distinct)
    (full : ∀ slot, slots.used slot = true) : slots.keys.card = n := by
  have every : (Finset.univ.filter fun slot => slots.used slot = true) = Finset.univ :=
    Finset.filter_true_of_mem fun slot _ => full slot
  rw [keys,every,Finset.card_image_of_injective,Finset.card_fin]
  intro first second same
  exact distinct first second (full first) (full second) same

theorem slotForKey_some {slots : Slots n κ ν} {key : κ} {slot : Fin n}
    (found : slots.slotForKey key = some slot) : slots.used slot = true ∧ slots.key slot = key := by
  simpa using List.find?_some found

theorem slotForKey_eq_some_iff {slots : Slots n κ ν} (distinct : slots.Distinct) {key : κ} {slot : Fin n} :
    slots.slotForKey key = some slot ↔ slots.used slot = true ∧ slots.key slot = key := by
  constructor
  · exact slotForKey_some
  · rintro ⟨used,named⟩
    cases found : slots.slotForKey key with
    | none =>
      have absent := List.find?_eq_none.mp found slot (List.mem_finRange slot)
      simp [used,named] at absent
    | some other =>
      obtain ⟨otherUsed,otherNamed⟩ := slotForKey_some found
      rw [distinct other slot otherUsed used (otherNamed.trans named.symm)]

theorem slotForKey_eq_none_iff {slots : Slots n κ ν} {key : κ} :
    slots.slotForKey key = none ↔ key ∉ slots.keys := by
  rw [mem_keys,slotForKey,List.find?_eq_none]
  simp

/-- Where an entry of a key goes. -/
inductive Choice (slots : Slots n κ ν) (key : κ) : Option (Fin n) → Prop
  | held {slot : Fin n} (used : slots.used slot = true) (named : slots.key slot = key) :
      Choice slots key (some slot)
  | fresh {slot : Fin n} (absent : key ∉ slots.keys) (unused : slots.used slot = false) :
      Choice slots key (some slot)
  | full (absent : key ∉ slots.keys) (used : ∀ slot, slots.used slot = true) : Choice slots key none

theorem chooseSlot_cases (slots : Slots n κ ν) (key : κ) : Choice slots key (slots.chooseSlot key) := by
  unfold chooseSlot
  cases found : slots.slotForKey key with
  | some slot =>
    obtain ⟨used,named⟩ := slotForKey_some found
    exact .held used named
  | none =>
    have absent := slotForKey_eq_none_iff.mp found
    rw [Option.none_or]
    cases unused : slots.unusedSlot with
    | some slot => exact .fresh absent (unusedSlot_some unused)
    | none => exact .full absent (unusedSlot_none unused)

theorem Keeps.keys {slots later : Slots n κ ν} (keeps : slots.Keeps later) : slots.keys ⊆ later.keys := by
  intro key member
  obtain ⟨slot,used,rfl⟩ := mem_keys.mp member
  obtain ⟨stillUsed,sameKey⟩ := keeps slot used
  exact mem_keys.mpr ⟨slot,stillUsed,sameKey⟩

/-! ### One entry -/

section Store

variable {slots : Slots n κ ν} {entry : Entry κ ν} {slot : Fin n}

/-- A slot in use other than the chosen one has another key. -/
theorem Choice.other (distinct : slots.Distinct) (choice : Choice slots entry.key (some slot)) {other : Fin n}
    (used : slots.used other = true) (different : other ≠ slot) : slots.key other ≠ entry.key := by
  intro same
  cases choice with
  | held chosenUsed named => exact different (distinct other slot used chosenUsed (same.trans named.symm))
  | fresh absent _ => exact absent (mem_keys.mpr ⟨other,used,same⟩)

theorem store_keeps (choice : Choice slots entry.key (some slot)) : slots.Keeps (slots.store slot entry) := by
  intro other used
  by_cases same : other = slot
  · subst same
    cases choice with
    | held _ named => exact ⟨store_used_self ..,(store_key_self ..).trans named.symm⟩
    | fresh _ unused => rw [unused] at used; contradiction
  · obtain ⟨sameUsed,sameKey,_⟩ := store_of_ne slots entry same
    exact ⟨sameUsed.trans used,sameKey⟩

theorem store_distinct (distinct : slots.Distinct) (choice : Choice slots entry.key (some slot)) :
    (slots.store slot entry).Distinct := by
  have apart : ∀ other, other ≠ slot → (slots.store slot entry).used other = true →
      (slots.store slot entry).key other ≠ entry.key := by
    intro other different used
    obtain ⟨sameUsed,sameKey,_⟩ := store_of_ne slots entry different
    rw [sameKey]
    exact choice.other distinct (sameUsed ▸ used) different
  intro first second firstUsed secondUsed same
  by_cases atFirst : first = slot
  · subst atFirst
    by_contra different
    rw [store_key_self] at same
    exact apart second (Ne.symm different) secondUsed same.symm
  · by_cases atSecond : second = slot
    · subst atSecond
      rw [store_key_self] at same
      exact absurd same (apart first atFirst firstUsed)
    · obtain ⟨firstSame,firstKey,_⟩ := store_of_ne slots entry atFirst
      obtain ⟨secondSame,secondKey,_⟩ := store_of_ne slots entry atSecond
      rw [firstKey,secondKey] at same
      exact distinct first second (firstSame ▸ firstUsed) (secondSame ▸ secondUsed) same

theorem store_keys (choice : Choice slots entry.key (some slot)) :
    (slots.store slot entry).keys = insert entry.key slots.keys := by
  ext key
  rw [Finset.mem_insert]
  constructor
  · intro member
    obtain ⟨other,used,named⟩ := mem_keys.mp member
    by_cases same : other = slot
    · subst same
      exact .inl (by rw [← named,store_key_self])
    · obtain ⟨sameUsed,sameKey,_⟩ := store_of_ne slots entry same
      exact .inr (mem_keys.mpr ⟨other,sameUsed ▸ used,sameKey ▸ named⟩)
  · rintro (rfl | member)
    · exact mem_keys.mpr ⟨slot,store_used_self ..,store_key_self ..⟩
    · exact (store_keeps choice).keys member

end Store

/-! ### A pass -/

/-- A pass over entries that are all present. -/
def storeAll (entries : List (Entry κ ν)) (slots : Slots n κ ν) : Pass n κ ν :=
  pass (entries.map some) slots

def entryKeys (entries : List (Entry κ ν)) : Finset κ := (entries.map (·.key)).toFinset

theorem mem_entryKeys {entries : List (Entry κ ν)} {key : κ} :
    key ∈ entryKeys entries ↔ ∃ entry ∈ entries, entry.key = key := by
  simp [entryKeys]

theorem entryKeys_cons (entry : Entry κ ν) (rest : List (Entry κ ν)) :
    entryKeys (entry :: rest) = insert entry.key (entryKeys rest) := by
  simp [entryKeys]

/-- How a pass goes: it ends, finds no slot for its next entry, or stores it and goes on. -/
inductive Passing : Slots n κ ν → List (Entry κ ν) → Pass n κ ν → Prop
  | done {slots : Slots n κ ν} : Passing slots [] ⟨true,[],slots⟩
  | refused {slots : Slots n κ ν} {entry : Entry κ ν} {rest : List (Entry κ ν)} (absent : entry.key ∉ slots.keys)
      (full : ∀ slot, slots.used slot = true) : Passing slots (entry :: rest) ⟨false,[],slots⟩
  | stored {slots : Slots n κ ν} {entry : Entry κ ν} {rest : List (Entry κ ν)} {slot : Fin n} {later : Pass n κ ν}
      (choice : Choice slots entry.key (some slot)) (passing : Passing (slots.store slot entry) rest later) :
      Passing slots (entry :: rest) ⟨later.complete,slot :: later.chosen,later.slots⟩

theorem storeAll_passing (entries : List (Entry κ ν)) (slots : Slots n κ ν) :
    Passing slots entries (storeAll entries slots) := by
  induction entries generalizing slots with
  | nil => exact .done
  | cons entry rest ih =>
    have choice := chooseSlot_cases slots entry.key
    cases chosen : slots.chooseSlot entry.key with
    | none =>
      rw [chosen] at choice
      have stopped : storeAll (entry :: rest) slots = ⟨false,[],slots⟩ := by
        simp [storeAll,pass,chosen]
      rw [stopped]
      cases choice with
      | full absent used => exact .refused absent used
    | some slot =>
      rw [chosen] at choice
      have next : storeAll (entry :: rest) slots =
          { storeAll rest (slots.store slot entry) with
            chosen := slot :: (storeAll rest (slots.store slot entry)).chosen } := by
        simp [storeAll,pass,chosen]
      rw [next]
      exact .stored choice (ih (slots.store slot entry))

namespace Passing

variable {slots : Slots n κ ν} {entries : List (Entry κ ν)} {pass : Pass n κ ν}

theorem keeps (passing : Passing slots entries pass) : slots.Keeps pass.slots := by
  induction passing with
  | done => exact .refl _
  | refused => exact .refl _
  | stored choice _ ih => exact (store_keeps choice).trans ih

theorem distinct (passing : Passing slots entries pass) (before : slots.Distinct) : pass.slots.Distinct := by
  induction passing with
  | done => exact before
  | refused => exact before
  | stored choice _ ih => exact ih (store_distinct before choice)

/-- A pass finds room for its entries exactly when the keys in use before it and its
own are together no more than there are slots. -/
theorem complete_iff (passing : Passing slots entries pass) (before : slots.Distinct) :
    pass.complete = true ↔ (slots.keys ∪ entryKeys entries).card ≤ n := by
  induction passing with
  | @done slots => simpa [entryKeys] using card_keys_le slots
  | @refused slots entry rest absent full =>
    have more : (insert entry.key slots.keys).card ≤ (slots.keys ∪ entryKeys (entry :: rest)).card := by
      apply Finset.card_le_card
      rw [entryKeys_cons,Finset.union_insert]
      exact Finset.insert_subset_insert _ Finset.subset_union_left
    rw [Finset.card_insert_of_notMem absent,card_keys_full before full] at more
    simp only [Bool.false_eq_true,false_iff]
    omega
  | stored choice _ ih =>
    rw [ih (store_distinct before choice),store_keys choice,Finset.insert_union,entryKeys_cons,Finset.union_insert]

theorem chosen_length (passing : Passing slots entries pass) :
    pass.chosen.length ≤ entries.length ∧ (pass.complete = true → pass.chosen.length = entries.length) := by
  induction passing with
  | done => exact ⟨le_refl _,fun _ => rfl⟩
  | refused => exact ⟨Nat.zero_le _,fun done => absurd done (by simp)⟩
  | stored _ _ ih =>
    refine ⟨by simpa using ih.1,fun done => ?_⟩
    simpa using ih.2 done

/-- A pass that ends early has every slot in use, none under the key of the entry it ends at. -/
theorem incomplete (passing : Passing slots entries pass) (stopped : pass.complete = false) :
    (∀ slot, pass.slots.used slot = true) ∧
      ∃ entry, entries[pass.chosen.length]? = some entry ∧ entry.key ∉ pass.slots.keys := by
  induction passing with
  | done => contradiction
  | @refused _ entry _ absent full => exact ⟨full,entry,rfl,absent⟩
  | stored _ _ ih => exact ih stopped

/-- The slot chosen for an entry is in use under its key in the end. -/
theorem chosen (passing : Passing slots entries pass) {index : Nat} {entry : Entry κ ν} {slot : Fin n}
    (given : entries[index]? = some entry) (chosen : pass.chosen[index]? = some slot) :
    pass.slots.used slot = true ∧ pass.slots.key slot = entry.key := by
  induction passing generalizing index with
  | done => simp at given
  | refused => simp at chosen
  | @stored slots first rest place later choice passing ih =>
    cases index with
    | zero =>
      cases given
      cases chosen
      obtain ⟨used,named⟩ := passing.keeps slot (store_used_self ..)
      exact ⟨used,named.trans (store_key_self ..)⟩
    | succ index => exact ih given chosen

/-- A slot in use under a key that no entry has keeps its value. -/
theorem untouched (passing : Passing slots entries pass) (before : slots.Distinct) {slot : Fin n}
    (used : slots.used slot = true) (other : slots.key slot ∉ entryKeys entries) :
    pass.slots.value slot = slots.value slot := by
  induction passing with
  | done => rfl
  | refused => rfl
  | @stored slots entry rest place later choice passing ih =>
    rw [entryKeys_cons,Finset.mem_insert,not_or] at other
    have different : slot ≠ place := by
      rintro rfl
      cases choice with
      | held _ named => exact other.1 named
      | fresh _ unused => rw [unused] at used; contradiction
    obtain ⟨sameUsed,sameKey,sameValue⟩ := store_of_ne slots entry different
    have next := ih (store_distinct before choice) (sameUsed.trans used) (sameKey ▸ other.2)
    exact next.trans sameValue

/-- A pass over entries whose keys are all in use moves no key. -/
theorem key_of_held (passing : Passing slots entries pass) (held : ∀ entry ∈ entries, entry.key ∈ slots.keys) :
    pass.slots.key = slots.key := by
  induction passing with
  | done => rfl
  | refused => rfl
  | @stored slots entry rest slot later choice passing ih =>
    have same : (slots.store slot entry).key = slots.key := by
      cases choice with
      | held _ named => exact (Function.update_eq_self_iff).mpr named.symm
      | fresh absent _ => exact absurd (held entry List.mem_cons_self) absent
    have others : ∀ other ∈ rest, other.key ∈ (slots.store slot entry).keys :=
      fun other member => (store_keeps choice).keys (held other (List.mem_cons_of_mem _ member))
    exact (ih others).trans same

/-- Entries with distinct keys are stored whole. -/
theorem value (passing : Passing slots entries pass) (before : slots.Distinct)
    (apart : (entries.map (·.key)).Nodup) {index : Nat} {entry : Entry κ ν} {slot : Fin n}
    (given : entries[index]? = some entry) (chosen : pass.chosen[index]? = some slot) :
    pass.slots.value slot = entry.value := by
  induction passing generalizing index with
  | done => simp at given
  | refused => simp at chosen
  | @stored slots first rest place later choice passing ih =>
    rw [List.map_cons,List.nodup_cons] at apart
    cases index with
    | zero =>
      cases given
      cases chosen
      have others : (slots.store slot entry).key slot ∉ entryKeys rest := by
        rw [store_key_self,entryKeys,List.mem_toFinset]
        exact apart.1
      rw [passing.untouched (store_distinct before choice) (store_used_self ..) others]
      exact store_value_self ..
    | succ index => exact ih (store_distinct before choice) apart.2 given chosen

end Passing

/-! ### Slots that hold a list -/

/-- The slots in use hold exactly these entries. -/
structure Holds (slots : Slots n κ ν) (entries : List (Entry κ ν)) : Prop where
  distinct : slots.Distinct
  stored : ∀ entry ∈ entries, ∃ slot, slots.slotForKey entry.key = some slot ∧ slots.value slot = entry.value
  keys : slots.keys = entryKeys entries

section Settle

variable {slots : Slots n κ ν} {entries : List (Entry κ ν)}

theorem settle_complete (complete : (storeAll entries slots).complete = true) :
    settle (storeAll entries slots) = (storeAll entries slots).slots.retain (storeAll entries slots).chosen :=
  if_pos complete

theorem settle_incomplete (stopped : (storeAll entries slots).complete = false) :
    settle (storeAll entries slots) = (storeAll entries slots).slots :=
  if_neg (by simp [stopped])

/-- A slot stays in use after a complete pass exactly when it is under one of the keys. -/
theorem settle_used_iff (before : slots.Distinct) (complete : (storeAll entries slots).complete = true)
    {slot : Fin n} : (settle (storeAll entries slots)).used slot = true ↔
      (storeAll entries slots).slots.used slot = true ∧
        (storeAll entries slots).slots.key slot ∈ entryKeys entries := by
  have passing := storeAll_passing entries slots
  have lengths := passing.chosen_length.2 complete
  rw [settle_complete complete,mem_retain]
  constructor
  · intro member
    obtain ⟨index,atIndex⟩ := List.mem_iff_getElem?.mp member
    have inside := (List.getElem?_eq_some_iff.mp atIndex).1
    have given : entries[index]? = some entries[index] := List.getElem?_eq_getElem (by omega)
    obtain ⟨used,named⟩ := passing.chosen given atIndex
    exact ⟨used,mem_entryKeys.mpr ⟨_,List.getElem_mem _,named.symm⟩⟩
  · rintro ⟨used,known⟩
    obtain ⟨entry,member,named⟩ := mem_entryKeys.mp known
    obtain ⟨index,given⟩ := List.mem_iff_getElem?.mp member
    have inside := (List.getElem?_eq_some_iff.mp given).1
    have chosen : (storeAll entries slots).chosen[index]? = some _ := List.getElem?_eq_getElem (by omega)
    obtain ⟨otherUsed,otherNamed⟩ := passing.chosen given chosen
    rw [passing.distinct before slot _ used otherUsed (named.symm.trans otherNamed.symm)]
    exact List.getElem_mem _

theorem settle_distinct (before : slots.Distinct) : (settle (storeAll entries slots)).Distinct := by
  have after := (storeAll_passing entries slots).distinct before
  cases complete : (storeAll entries slots).complete with
  | false => rw [settle_incomplete complete]; exact after
  | true =>
    intro first second firstUsed secondUsed same
    have firstBefore := ((settle_used_iff before complete).mp firstUsed).1
    have secondBefore := ((settle_used_iff before complete).mp secondUsed).1
    rw [settle_complete complete] at same
    exact after first second firstBefore secondBefore same

/-- After a complete pass each key's slot is the one chosen for it. -/
theorem settle_slotForKey (before : slots.Distinct) (complete : (storeAll entries slots).complete = true)
    {index : Nat} {entry : Entry κ ν} (given : entries[index]? = some entry) :
    ∃ slot, (storeAll entries slots).chosen[index]? = some slot ∧
      (settle (storeAll entries slots)).slotForKey entry.key = some slot := by
  have passing := storeAll_passing entries slots
  have lengths := passing.chosen_length.2 complete
  have inside := (List.getElem?_eq_some_iff.mp given).1
  have chosen : (storeAll entries slots).chosen[index]? = some _ := List.getElem?_eq_getElem (by omega)
  refine ⟨_,chosen,?_⟩
  obtain ⟨used,named⟩ := passing.chosen given chosen
  rw [slotForKey_eq_some_iff (settle_distinct before),settle_used_iff before complete]
  refine ⟨⟨used,?_⟩,?_⟩
  · rw [named]
    exact mem_entryKeys.mpr ⟨entry,List.mem_of_getElem? given,rfl⟩
  · rw [settle_complete complete]
    exact named

theorem settle_keys (before : slots.Distinct) (complete : (storeAll entries slots).complete = true) :
    (settle (storeAll entries slots)).keys = entryKeys entries := by
  ext key
  constructor
  · intro member
    obtain ⟨slot,used,named⟩ := mem_keys.mp member
    have known := ((settle_used_iff before complete).mp used).2
    rw [settle_complete complete] at named
    exact named ▸ known
  · intro member
    obtain ⟨entry,inside,rfl⟩ := mem_entryKeys.mp member
    obtain ⟨index,given⟩ := List.mem_iff_getElem?.mp inside
    obtain ⟨slot,_,found⟩ := settle_slotForKey before complete given
    obtain ⟨used,named⟩ := slotForKey_some found
    exact mem_keys.mpr ⟨slot,used,named⟩

/-- A complete pass over entries with distinct keys leaves the slots holding them. -/
theorem settle_holds (before : slots.Distinct) (apart : (entries.map (·.key)).Nodup)
    (complete : (storeAll entries slots).complete = true) : (settle (storeAll entries slots)).Holds entries where
  distinct := settle_distinct before
  stored := by
    intro entry member
    obtain ⟨index,given⟩ := List.mem_iff_getElem?.mp member
    obtain ⟨slot,chosen,found⟩ := settle_slotForKey before complete given
    refine ⟨slot,found,?_⟩
    have stored := (storeAll_passing entries slots).value before apart given chosen
    rw [settle_complete complete]
    exact stored
  keys := settle_keys before complete

/-- A slot in use holds the entry under its key. -/
theorem Holds.value_of_used (holds : slots.Holds entries) {slot : Fin n} (used : slots.used slot = true) :
    ∃ entry ∈ entries, entry.key = slots.key slot ∧ slots.value slot = entry.value := by
  have known : slots.key slot ∈ entryKeys entries := by
    rw [← holds.keys]
    exact mem_keys.mpr ⟨slot,used,rfl⟩
  obtain ⟨entry,member,named⟩ := mem_entryKeys.mp known
  obtain ⟨place,found,stored⟩ := holds.stored entry member
  rw [named,(slotForKey_eq_some_iff holds.distinct).mpr ⟨used,rfl⟩] at found
  cases found
  exact ⟨entry,member,named,stored⟩

/-- Slots as they were, or as a pass left them. -/
inductive Refilled (slots : Slots n κ ν) : Slots n κ ν → Prop
  | same : Refilled slots slots
  | settled (entries : List (Entry κ ν)) : Refilled slots (settle (storeAll entries slots))

namespace Refilled

variable {later : Slots n κ ν}

theorem distinct (refilled : Refilled slots later) (before : slots.Distinct) : later.Distinct := by
  cases refilled with
  | same => exact before
  | settled entries => exact settle_distinct before

/-- A key in use stays in its slot as long as it is in use. -/
theorem stable (refilled : Refilled slots later) (before : slots.Distinct) {key : κ} {slot : Fin n}
    (found : slots.slotForKey key = some slot) (kept : key ∈ later.keys) : later.slotForKey key = some slot := by
  cases refilled with
  | same => exact found
  | settled entries =>
    obtain ⟨used,named⟩ := slotForKey_some found
    obtain ⟨stillUsed,sameKey⟩ := (storeAll_passing entries slots).keeps slot used
    rw [slotForKey_eq_some_iff (settle_distinct before)]
    cases complete : (storeAll entries slots).complete with
    | false =>
      rw [settle_incomplete complete]
      exact ⟨stillUsed,sameKey.trans named⟩
    | true =>
      rw [settle_keys before complete] at kept
      refine ⟨(settle_used_iff before complete).mpr ⟨stillUsed,?_⟩,?_⟩
      · rw [sameKey,named]
        exact kept
      · rw [settle_complete complete]
        exact sameKey.trans named

theorem settle_key (entries : List (Entry κ ν)) (slots : Slots n κ ν) :
    (settle (storeAll entries slots)).key = (storeAll entries slots).slots.key := by
  unfold settle
  split <;> rfl

/-- A slot in use before keeps its key, in use or not. -/
theorem key_of_used (refilled : Refilled slots later) {slot : Fin n} (used : slots.used slot = true) :
    later.key slot = slots.key slot := by
  cases refilled with
  | same => rfl
  | settled entries =>
    rw [settle_key]
    exact ((storeAll_passing entries slots).keeps slot used).2

/-- There is room again for the entries held before. -/
theorem back (refilled : Refilled slots later) {old : List (Entry κ ν)} (holds : slots.Holds old) :
    (storeAll old later).complete = true := by
  rw [(storeAll_passing old later).complete_iff (refilled.distinct holds.distinct)]
  cases refilled with
  | same =>
    rw [← holds.keys,Finset.union_self]
    exact card_keys_le slots
  | settled entries =>
    have passing := storeAll_passing entries slots
    cases complete : (storeAll entries slots).complete with
    | false =>
      rw [settle_incomplete complete,← holds.keys,Finset.union_eq_left.mpr passing.keeps.keys]
      exact card_keys_le _
    | true =>
      have room := (passing.complete_iff holds.distinct).mp complete
      rw [settle_keys holds.distinct complete,Finset.union_comm,← holds.keys]
      exact room

end Refilled

end Settle

end Slots

end KeyedSlots
