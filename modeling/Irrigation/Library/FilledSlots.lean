import Irrigation.Library.KeyedSlots
import Mathlib.Data.List.Find
import Mathlib.Data.List.ReduceOption
import Mathlib.Data.List.TakeWhile

/-! What a pass leaves, without running it: a key in use stays in its slot, and the new keys
take the slots not in use one after the other. -/
namespace KeyedSlots

universe u v

namespace Slots

variable {n : Nat} {κ : Type u} {ν : Type v}

/-- The slots without what they hold. -/
def bare (slots : Slots n κ ν) : Slots n κ Unit := ⟨slots.used,slots.key,fun _ => ()⟩

theorem bare_of_same {slots later : Slots n κ ν} (used : later.used = slots.used) (key : later.key = slots.key) :
    later.bare = slots.bare := by
  rw [bare,bare,used,key]

def freeSlots (slots : Slots n κ ν) : List (Fin n) := (List.finRange n).filter fun slot => !slots.used slot

theorem freeSlots_nodup (slots : Slots n κ ν) : slots.freeSlots.Nodup := (List.nodup_finRange n).filter _

theorem mem_freeSlots {slots : Slots n κ ν} {slot : Fin n} : slot ∈ slots.freeSlots ↔ slots.used slot = false := by
  simp [freeSlots]

theorem unusedSlot_eq (slots : Slots n κ ν) : slots.unusedSlot = slots.freeSlots.head? := by
  rw [unusedSlot,freeSlots,List.head?_filter]

/-- Storing in the first free slot leaves the others free. -/
theorem freeSlots_store {slots : Slots n κ ν} {slot : Fin n} {rest : List (Fin n)}
    (free : slots.freeSlots = slot :: rest) (entry : Entry κ ν) : (slots.store slot entry).freeSlots = rest := by
  have nodup := slots.freeSlots_nodup
  rw [free,List.nodup_cons] at nodup
  have others : (slots.store slot entry).freeSlots = slots.freeSlots.filter fun other => other ≠ slot := by
    rw [freeSlots,freeSlots,List.filter_filter]
    apply List.filter_congr
    intro other _
    by_cases same : other = slot
    · simp [same]
    · simp [same,(store_of_ne slots entry same).1]
  rw [others,free,List.filter_cons_of_neg (by simp),List.filter_eq_self]
  intro other member
  have different : other ≠ slot := by
    rintro rfl
    exact nodup.1 member
  simpa using different

/-- The slots with these keys in theirs. -/
def seat (slots : Slots n κ ν) (seats : List (κ × Fin n)) : Slots n κ ν where
  used slot := slots.used slot || (seats.map Prod.snd).contains slot
  key slot := ((seats.map Prod.swap).lookup slot).getD (slots.key slot)
  value := slots.value

theorem seat_nil (slots : Slots n κ ν) : slots.seat [] = slots := by
  simp [seat]

section Seat

variable {slots : Slots n κ ν} {entry : Entry κ ν} {slot : Fin n}

/-- An entry whose key is in use moves nothing. -/
theorem store_bare (used : slots.used slot = true) (named : slots.key slot = entry.key) :
    (slots.store slot entry).bare = slots.bare :=
  bare_of_same ((Function.update_eq_self_iff).mpr used.symm) ((Function.update_eq_self_iff).mpr named.symm)

/-- Seats taken one after the other. -/
theorem seat_store {seats : List (κ × Fin n)} (unused : ∀ pair ∈ seats, slot ≠ pair.2) :
    slots.bare.seat ((entry.key,slot) :: seats) = (slots.store slot entry).bare.seat seats := by
  have missing : (seats.map Prod.swap).lookup slot = none := by
    rw [List.lookup_eq_none_iff]
    intro pair member
    obtain ⟨first,inside,rfl⟩ := List.mem_map.mp member
    simpa using unused first inside
  rw [seat,seat,Slots.mk.injEq]
  refine ⟨?_,?_,rfl⟩
  · funext other
    by_cases same : other = slot
    · subst same
      simp [bare]
    · have kept : (slots.store slot entry).bare.used other = slots.bare.used other := (store_of_ne slots entry same).1
      rw [kept,List.map_cons,List.contains_cons,beq_eq_false_iff_ne.mpr same,Bool.false_or]
  · funext other
    rw [List.map_cons,Prod.swap_prod_mk,List.lookup_cons]
    by_cases same : other = slot
    · subst same
      rw [missing]
      simp [bare]
    · have kept : (slots.store slot entry).bare.key other = slots.bare.key other := (store_of_ne slots entry same).2.1
      rw [kept,beq_eq_false_iff_ne.mpr same]

end Seat

variable [DecidableEq κ]

/-- The keys not in use, each once. -/
def newKeys (slots : Slots n κ ν) (keys : List κ) : List κ := (keys.filter fun key => key ∉ slots.keys).eraseDups

/-- The new keys with the slots they get. -/
def seats (slots : Slots n κ ν) (keys : List κ) : List (κ × Fin n) := (slots.newKeys keys).zip slots.freeSlots

/-- The slot of a key: its own, or the one it gets. -/
def place (slots : Slots n κ ν) (keys : List κ) (key : κ) : Option (Fin n) :=
  (slots.slotForKey key).or ((slots.seats keys).lookup key)

/-- Every key has a slot or gets one. -/
def Room (slots : Slots n κ ν) (keys : List κ) : Prop := ∀ key ∈ keys, (slots.place keys key).isSome

instance (slots : Slots n κ ν) (keys : List κ) : Decidable (slots.Room keys) :=
  inferInstanceAs (Decidable (∀ key ∈ keys, (slots.place keys key).isSome))

/-- The keys up to the first without a slot. -/
def reached (slots : Slots n κ ν) (keys : List κ) : List κ := keys.takeWhile fun key => (slots.place keys key).isSome

def filled (slots : Slots n κ ν) (keys : List κ) : Slots n κ ν := slots.seat (slots.seats keys)

/-- If every key has a slot, no other slot stays in use. -/
def refilled (slots : Slots n κ ν) (keys : List κ) : Slots n κ ν :=
  if slots.Room keys then (slots.filled keys).retain (keys.filterMap (slots.place keys)) else slots.filled keys

/-! ### One key at a time -/

theorem place_bare {slots later : Slots n κ ν} (same : later.bare = slots.bare) (keys : List κ) :
    later.place keys = slots.place keys := by
  have bare : later.bare.place keys = slots.bare.place keys := by rw [same]
  exact bare

section Step

variable {slots : Slots n κ ν} {entry : Entry κ ν} {slot : Fin n} {rest : List κ}

theorem newKeys_held (held : entry.key ∈ slots.keys) : slots.newKeys (entry.key :: rest) = slots.newKeys rest := by
  rw [newKeys,List.filter_cons_of_neg (by simpa using held),newKeys]

theorem newKeys_fresh (absent : entry.key ∉ slots.keys) (unused : slots.used slot = false) :
    slots.newKeys (entry.key :: rest) = entry.key :: (slots.store slot entry).newKeys rest := by
  have keys : (slots.store slot entry).keys = insert entry.key slots.keys := store_keys (.fresh absent unused)
  rw [newKeys,List.filter_cons_of_pos (by simpa using absent),List.eraseDups_cons,List.filter_filter,newKeys,keys]
  congr 2
  apply List.filter_congr
  intro key _
  by_cases same : key = entry.key <;> simp [same]

/-- The slot of another key is the same once an entry has taken a free one. -/
theorem slotForKey_store (absent : entry.key ∉ slots.keys) (unused : slots.used slot = false) (key : κ) :
    (slots.store slot entry).slotForKey key = if key = entry.key then some slot else slots.slotForKey key := by
  split
  · next same =>
    subst same
    cases found : (slots.store slot entry).slotForKey entry.key with
    | none =>
      have missing := slotForKey_eq_none_iff.mp found
      exact absurd (mem_keys.mpr ⟨slot,store_used_self ..,store_key_self ..⟩) missing
    | some other =>
      obtain ⟨used,named⟩ := slotForKey_some found
      by_contra different
      have apart : other ≠ slot := fun same => different (congrArg some same)
      obtain ⟨sameUsed,sameKey,_⟩ := store_of_ne slots entry apart
      exact absent (mem_keys.mpr ⟨other,sameUsed ▸ used,sameKey ▸ named⟩)
  · next different =>
    unfold slotForKey
    apply List.find?_congr
    intro other _
    by_cases same : other = slot
    · subst same
      simp [unused,Ne.symm different]
    · obtain ⟨sameUsed,sameKey,_⟩ := store_of_ne slots entry same
      rw [sameUsed,sameKey]

/-- How the first of the keys goes: it is in use, gets the first free slot, or finds none. -/
inductive Seating (slots : Slots n κ ν) (entry : Entry κ ν) (rest : List κ) : Option (Fin n) → Prop
  | held {slot : Fin n} (found : slots.slotForKey entry.key = some slot)
      (seats : slots.seats (entry.key :: rest) = slots.seats rest) : Seating slots entry rest (some slot)
  | fresh {slot : Fin n} (absent : entry.key ∉ slots.keys) (unused : slots.used slot = false)
      (seats : slots.seats (entry.key :: rest) = (entry.key,slot) :: (slots.store slot entry).seats rest) :
      Seating slots entry rest (some slot)
  | full (absent : entry.key ∉ slots.keys) (seats : slots.seats (entry.key :: rest) = []) : Seating slots entry rest none

theorem chooseSlot_seating (slots : Slots n κ ν) (entry : Entry κ ν) (rest : List κ) :
    Seating slots entry rest (slots.chooseSlot entry.key) := by
  unfold chooseSlot
  cases found : slots.slotForKey entry.key with
  | some slot =>
    obtain ⟨used,named⟩ := slotForKey_some found
    refine .held found ?_
    rw [seats,newKeys_held (mem_keys.mpr ⟨slot,used,named⟩),seats]
  | none =>
    have absent := slotForKey_eq_none_iff.mp found
    rw [Option.none_or,unusedSlot_eq]
    cases free : slots.freeSlots with
    | nil => exact .full absent (by rw [seats,free,List.zip_nil_right])
    | cons slot others =>
      have unused : slots.used slot = false := mem_freeSlots.mp (by rw [free]; exact List.mem_cons_self)
      refine .fresh absent unused ?_
      rw [seats,newKeys_fresh absent unused,free,List.zip_cons_cons,seats,freeSlots_store free]

/-- A key that takes a slot leaves the other keys with the slots they get. -/
theorem Seating.place (seating : Seating slots entry rest (some slot)) :
    slots.place (entry.key :: rest) = (slots.store slot entry).place rest := by
  cases seating with
  | held found seats =>
    obtain ⟨used,named⟩ := slotForKey_some found
    rw [place_bare (store_bare used named)]
    funext key
    rw [Slots.place,seats]
    rfl
  | fresh absent unused seats =>
    funext key
    rw [Slots.place,seats,Slots.place,slotForKey_store absent unused]
    by_cases same : key = entry.key
    · rw [same,if_pos rfl,slotForKey_eq_none_iff.mpr absent,Option.none_or,List.lookup_cons_self,Option.some_or]
    · rw [if_neg same,List.lookup_cons,beq_eq_false_iff_ne.mpr same]

theorem Seating.place_self (seating : Seating slots entry rest (some slot)) :
    slots.place (entry.key :: rest) entry.key = some slot := by
  cases seating with
  | held found _ => rw [Slots.place,found,Option.some_or]
  | fresh absent _ seats =>
    rw [Slots.place,seats,slotForKey_eq_none_iff.mpr absent,Option.none_or,List.lookup_cons_self]

theorem seats_unused {keys : List κ} {key : κ} (member : (key,slot) ∈ slots.seats keys) : slots.used slot = false :=
  mem_freeSlots.mp (List.of_mem_zip member).2

theorem Seating.filled (seating : Seating slots entry rest (some slot)) :
    slots.bare.filled (entry.key :: rest) = (slots.store slot entry).bare.filled rest := by
  change slots.bare.seat (slots.seats (entry.key :: rest)) =
    (slots.store slot entry).bare.seat ((slots.store slot entry).seats rest)
  cases seating with
  | held found seats =>
    obtain ⟨used,named⟩ := slotForKey_some found
    have kept : (slots.store slot entry).bare.seats rest = slots.bare.seats rest := by rw [store_bare used named]
    change (slots.store slot entry).seats rest = slots.seats rest at kept
    rw [store_bare used named,seats,kept]
  | fresh absent unused seats =>
    rw [seats]
    apply seat_store
    rintro ⟨key,other⟩ member rfl
    have free := seats_unused member
    rw [store_used_self] at free
    contradiction

end Step

/-! ### A pass -/

section Pass

variable {slots : Slots n κ ν} {entries : List (Entry κ ν)}

/-- What a pass leaves behind, without running it. -/
structure Filling (slots : Slots n κ ν) (keys : List κ) (pass : Pass n κ ν) : Prop where
  complete : pass.complete = true ↔ slots.Room keys
  chosen : pass.chosen.map some = (slots.reached keys).map (slots.place keys)
  slots : pass.slots.bare = slots.bare.filled keys

theorem storeAll_cons (entry : Entry κ ν) (rest : List (Entry κ ν)) (slots : Slots n κ ν) :
    storeAll (entry :: rest) slots = match slots.chooseSlot entry.key with
      | none => ⟨false,[],slots⟩
      | some slot => { storeAll rest (slots.store slot entry) with
          chosen := slot :: (storeAll rest (slots.store slot entry)).chosen } := rfl

theorem storeAll_filling (entries : List (Entry κ ν)) (slots : Slots n κ ν) :
    Filling slots (entries.map (·.key)) (storeAll entries slots) := by
  induction entries generalizing slots with
  | nil => exact ⟨iff_of_true rfl nofun,rfl,(seat_nil slots.bare).symm⟩
  | cons entry rest ih =>
    have seating := chooseSlot_seating slots entry (rest.map (·.key))
    rw [storeAll_cons]
    cases chosen : slots.chooseSlot entry.key with
    | none =>
      rw [chosen] at seating
      cases seating with
      | full absent seats =>
        have missing : slots.place (entry.key :: rest.map (·.key)) entry.key = none := by
          rw [place,seats,slotForKey_eq_none_iff.mpr absent]
          rfl
        refine ⟨?_,?_,?_⟩
        · refine iff_of_false (by simp) fun room => ?_
          have placed := room entry.key List.mem_cons_self
          rw [List.map_cons,missing] at placed
          contradiction
        · rw [List.map_cons,reached,List.takeWhile_cons_of_neg (by simp [missing])]
          rfl
        · have seatless : slots.bare.seats (entry.key :: rest.map (·.key)) = [] := seats
          rw [List.map_cons,filled,seatless,seat_nil]
    | some slot =>
      rw [chosen] at seating
      have place := seating.place
      have self := seating.place_self
      have next := ih (slots.store slot entry)
      refine ⟨?_,?_,?_⟩
      · rw [next.complete,List.map_cons,Room,Room,place]
        rw [place] at self
        simp [self]
      · have first : slots.reached (entry.key :: rest.map (·.key)) =
            entry.key :: (slots.store slot entry).reached (rest.map (·.key)) := by
          rw [reached,List.takeWhile_cons_of_pos (by simp [self]),place,reached]
        rw [List.map_cons,next.chosen,List.map_cons,first,List.map_cons,self,place]
      · rw [next.slots,List.map_cons,seating.filled]

/-- The slots that a pass leaves behind are the refilled ones. -/
theorem settle_refilled (entries : List (Entry κ ν)) (slots : Slots n κ ν) :
    (settle (storeAll entries slots)).bare = slots.bare.refilled (entries.map (·.key)) := by
  have filling := storeAll_filling entries slots
  unfold settle refilled
  by_cases complete : (storeAll entries slots).complete = true
  · have room : slots.bare.Room (entries.map (·.key)) := filling.complete.mp complete
    have whole : slots.reached (entries.map (·.key)) = entries.map (·.key) := List.takeWhile_eq_self_iff.mpr room
    have chosen : (entries.map (·.key)).filterMap (slots.place (entries.map (·.key))) =
        (storeAll entries slots).chosen := by
      have every := congrArg (List.filterMap id) filling.chosen
      rw [whole,List.filterMap_map,List.filterMap_map] at every
      simpa using every.symm
    rw [if_pos complete,if_pos room,← filling.slots]
    change _ = (storeAll entries slots).slots.bare.retain ((entries.map (·.key)).filterMap (slots.place _))
    rw [chosen]
    rfl
  · have crowded : ¬slots.bare.Room (entries.map (·.key)) := fun room => complete (filling.complete.mpr room)
    rw [if_neg complete,if_neg crowded]
    exact filling.slots

/-- After a complete pass a key is in its place. -/
theorem settle_place (before : slots.Distinct) (room : slots.Room (entries.map (·.key))) {key : κ}
    (member : key ∈ entries.map (·.key)) :
    (settle (storeAll entries slots)).slotForKey key = slots.place (entries.map (·.key)) key := by
  have filling := storeAll_filling entries slots
  have whole : slots.reached (entries.map (·.key)) = entries.map (·.key) := List.takeWhile_eq_self_iff.mpr room
  obtain ⟨entry,inside,rfl⟩ := List.mem_map.mp member
  obtain ⟨index,given⟩ := List.mem_iff_getElem?.mp inside
  obtain ⟨slot,chosen,found⟩ := settle_slotForKey before (filling.complete.mpr room) given
  have placed := congrArg (fun places => places[index]?) filling.chosen
  rw [whole,List.getElem?_map,List.getElem?_map,List.getElem?_map,chosen,given] at placed
  rw [found]
  exact Option.some_inj.mp placed

/-- A pass goes up to the first absent entry. -/
theorem pass_present (entries : List (Option (Entry κ ν))) (slots : Slots n κ ν) :
    let stored := storeAll (entries.takeWhile Option.isSome).reduceOption slots
    pass entries slots = { stored with complete := stored.complete && entries.all Option.isSome } := by
  induction entries generalizing slots with
  | nil => rfl
  | cons entry rest ih =>
    cases entry with
    | none => rfl
    | some entry =>
      rw [List.takeWhile_cons_of_pos rfl,List.reduceOption_cons_of_some]
      intro stored
      have step : stored = storeAll (entry :: (rest.takeWhile Option.isSome).reduceOption) slots := rfl
      rw [storeAll_cons] at step
      rw [pass,step]
      cases slots.chooseSlot entry.key with
      | none => rfl
      | some slot =>
        dsimp only
        rw [ih (slots.store slot entry)]
        rfl

end Pass

end Slots

end KeyedSlots
