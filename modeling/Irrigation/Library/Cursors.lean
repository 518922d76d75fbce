import Irrigation.Library.CheckedMemory
import Irrigation.Library.Codec

/-! Readers that index a buffer by a cursor, and the rules by which one follows a reader of the
rest of the buffer: both stop alike or go on at the same place, and no access is a fault. -/
namespace Cursors

open CheckedMemory
open Irrigation.Library.Codec (Reader check repeated)

abbrev Fetch (ε : Type) := StateT Nat (Except ε)

section Fetching

variable {ε β ρ : Type} (fault : ε)

/-- A condition on the cursor. -/
def ensure (holds : Nat → Bool) (stop : ε) : Fetch ε Unit :=
  fun cursor => if holds cursor then .ok ((),cursor) else .error stop

/-- `*cursor++` -/
def item (buffer : List β) : Fetch ε β := fun cursor => do
  let value ← read fault buffer cursor
  pure (value,cursor + 1)

/-- The loop that goes over the entries of an array from an index on. -/
def eachEntry {n : Nat} (fetch : ρ → Fetch ε ρ) : (count index : Nat) → Vector ρ n → Fetch ε (Vector ρ n)
  | 0, _, array => pure array
  | count + 1, index, array => do
    let entry ← load fault array index
    let entry ← fetch entry
    let array ← store fault array index entry
    eachEntry fetch count (index + 1) array

end Fetching

section Following

variable {ε β ρ α γ δ : Type} (fault : ε) (buffer : List β)

/-- One outcome of each reader. -/
inductive Alike (rel : ρ → α → Prop) : Except ε (ρ × Nat) → Except ε (α × List β) → Prop
  | stopped {stop : ε} (sound : stop ≠ fault) : Alike rel (.error stop) (.error stop)
  | read {raw : ρ} {value : α} {next : Nat} (inside : next ≤ buffer.length) (holds : rel raw value) :
      Alike rel (.ok (raw,next)) (.ok (value,buffer.drop next))

/-- Wherever as many items as the budget are left, both readers agree. -/
def ReadsAlike (budget : Nat) (rel : ρ → α → Prop) (fetch : Fetch ε ρ) (reader : Reader ε β α) : Prop :=
  ∀ cursor, cursor + budget ≤ buffer.length → Alike fault buffer rel (fetch cursor) (reader (buffer.drop cursor))

variable {fault} {buffer} {budget : Nat} {rel : ρ → α → Prop} {post : γ → δ → Prop}

theorem ReadsAlike.pure {raw : ρ} {value : α} (holds : rel raw value) :
    ReadsAlike fault buffer 0 rel (Pure.pure raw) (Pure.pure value) :=
  fun _ room => .read room holds

theorem ReadsAlike.bind {fetch : Fetch ε ρ} {reader : Reader ε β α} {next : ρ → Fetch ε γ} {next' : α → Reader ε β δ}
    (alike : ReadsAlike fault buffer budget rel fetch reader)
    (continues : ∀ raw value, rel raw value → ReadsAlike fault buffer 0 post (next raw) (next' value)) :
    ReadsAlike fault buffer budget post (fetch >>= next) (reader >>= next') := by
  intro cursor room
  change Alike fault buffer post (Except.bind (fetch cursor) fun result => next result.1 result.2)
    (Except.bind (reader (buffer.drop cursor)) fun result => next' result.1 result.2)
  have agree := alike cursor room
  generalize fetch cursor = fetched,reader (buffer.drop cursor) = result at agree ⊢
  cases agree with
  | stopped sound => exact .stopped sound
  | read inside holds => exact continues _ _ holds _ inside

theorem ReadsAlike.relate {fetch : Fetch ε ρ} {reader : Reader ε β α} {rel' : ρ → α → Prop}
    (alike : ReadsAlike fault buffer budget rel fetch reader) (implies : ∀ raw value, rel raw value → rel' raw value) :
    ReadsAlike fault buffer budget rel' fetch reader := by
  rw [← bind_pure fetch,← bind_pure reader]
  exact alike.bind fun raw value holds => .pure (implies raw value holds)

/-- Both results may be shaped at the end. -/
theorem ReadsAlike.map {fetch : Fetch ε ρ} {reader : Reader ε β α} {shape : ρ → γ} {shape' : α → δ}
    (alike : ReadsAlike fault buffer budget rel fetch reader)
    (shapes : ∀ raw value, rel raw value → post (shape raw) (shape' value)) :
    ReadsAlike fault buffer budget post (fetch >>= fun raw => Pure.pure (shape raw))
      (reader >>= fun value => Pure.pure (shape' value)) :=
  alike.bind fun raw value holds => .pure (shapes raw value holds)

/-- An item that is in the budget. -/
theorem ReadsAlike.item {first : Reader ε β β} (reads : ∀ value rest, first (value :: rest) = .ok (value,rest))
    {next : β → Fetch ε γ} {next' : β → Reader ε β δ}
    (continues : ∀ value, ReadsAlike fault buffer budget post (next value) (next' value)) :
    ReadsAlike fault buffer (budget + 1) post (Cursors.item fault buffer >>= next) (first >>= next') := by
  intro cursor room
  have inside : cursor < buffer.length := by omega
  change Alike fault buffer post (Except.bind (Except.bind (CheckedMemory.read fault buffer cursor) _) _)
    (Except.bind (first (buffer.drop cursor)) _)
  rw [read_of_lt fault inside,List.drop_eq_getElem_cons inside,reads]
  exact continues _ (cursor + 1) (by omega)

variable (budget) in
/-- A condition that leaves a budget. -/
theorem ReadsAlike.reserve {stop : ε} (sound : stop ≠ fault) {holds : Nat → Bool} {holds' : List β → Bool}
    (same : ∀ cursor ≤ buffer.length, holds cursor = holds' (buffer.drop cursor))
    (leaves : ∀ cursor ≤ buffer.length, holds cursor = true → cursor + budget ≤ buffer.length)
    {next : Unit → Fetch ε γ} {next' : Unit → Reader ε β δ}
    (continues : ReadsAlike fault buffer budget post (next ()) (next' ())) :
    ReadsAlike fault buffer 0 post (ensure holds stop >>= next) (check holds' stop >>= next') := by
  intro cursor room
  change Alike fault buffer post (Except.bind (if holds cursor then _ else _) _)
    (Except.bind (if holds' (buffer.drop cursor) then _ else _) _)
  rw [← same cursor room]
  split
  · next passes => exact continues cursor (leaves cursor room passes)
  · exact .stopped sound

/-- A condition on what was read before. -/
theorem ReadsAlike.ensure {stop : ε} (sound : stop ≠ fault) {condition : Bool} {next : Unit → Fetch ε γ}
    {next' : Unit → Reader ε β δ}
    (continues : condition = true → ReadsAlike fault buffer budget post (next ()) (next' ())) :
    ReadsAlike fault buffer budget post (Cursors.ensure (fun _ => condition) stop >>= next)
      (check (fun _ => condition) stop >>= next') := by
  intro cursor room
  cases condition with
  | false => exact .stopped sound
  | true => exact continues rfl cursor room

/-! ### Arrays -/

section Arrays

variable {n : Nat} {view : ρ → α} {zero : ρ}

/-- After the items in front, the array is still untouched. -/
theorem set_view {array : Vector ρ n} {index : Nat} (inside : index < n) (entry : ρ) :
    ((array.set index entry).map view).toList.take (index + 1) =
      (array.map view).toList.take index ++ [view entry] := by
  have room : index < ((array.set index entry).map view).toList.length := by simpa using inside
  rw [List.take_succ_eq_append_getElem room]
  congr 1
  · simp only [Vector.toList_map,Vector.toList_set,List.map_set,List.take_set_of_le (Nat.le_refl index)]
  · simp

/-- One entry for each item, in an array that is zero from the index on. -/
theorem ReadsAlike.each {fetch : ρ → Fetch ε ρ} {reader : Reader ε β α}
    (one : ReadsAlike fault buffer 0 (fun raw value => view raw = value) (fetch zero) reader) (count index : Nat)
    (array : Vector ρ n) (room : index + count ≤ n)
    (untouched : ∀ later (inside : later < n), index ≤ later → array[later] = zero) :
    ReadsAlike fault buffer 0 (fun filled values => values.length = count ∧ (filled.map view).toList =
        (array.map view).toList.take index ++ values ++ .replicate (n - (index + count)) (view zero))
      (eachEntry fault fetch count index array) (repeated reader count) := by
  induction count generalizing index array with
  | zero =>
    refine .pure ⟨rfl,?_⟩
    rw [List.append_nil,Nat.add_zero]
    apply List.ext_getElem
    · simp; omega
    · intro later inside inside'
      have bound : later < n := by simpa using inside
      by_cases front : later < index
      · rw [List.getElem_append_left (by simp; omega)]
        simp
      · rw [List.getElem_append_right (by simp; omega)]
        simp [untouched later bound (by omega)]
  | succ count ih =>
    have inside : index < n := by omega
    have steps : eachEntry fault fetch (count + 1) index array = fetch zero >>= fun entry =>
        eachEntry fault fetch count (index + 1) (array.set index entry) := by
      rw [eachEntry,load_of_lt fault inside,untouched index inside (Nat.le_refl index)]
      simp only [store_of_lt fault inside]
      rfl
    rw [steps]
    refine one.bind fun entry value same => ?_
    subst same
    have rest := ih (index + 1) (array.set index entry) (by omega) fun later bound above => by
      rw [Vector.getElem_set_ne _ bound (by omega)]
      exact untouched later bound (by omega)
    rw [← bind_pure (eachEntry fault fetch count (index + 1) (array.set index entry))]
    refine rest.map fun filled values shown => ⟨congrArg (· + 1) shown.1,?_⟩
    rw [shown.2,set_view inside,List.append_assoc _ [view entry],List.singleton_append,Nat.add_right_comm,Nat.add_assoc]

end Arrays

end Following

end Cursors
