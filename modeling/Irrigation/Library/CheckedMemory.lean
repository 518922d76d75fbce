import Mathlib.Data.List.TakeWhile
import Mathlib.Tactic.Common

/-! Fixed arrays with checked accesses, and C strings in them. A pointer into a string is the list
of the bytes from there to the end of its array. -/
namespace CheckedMemory

variable {ε α : Type} (fault : ε) {n : Nat}

def load (array : Vector α n) (index : Nat) : Except ε α :=
  if inside : index < n then .ok array[index] else .error fault

def store (array : Vector α n) (index : Nat) (value : α) : Except ε (Vector α n) :=
  if inside : index < n then .ok (array.set index value) else .error fault

/-- A byte of a buffer of any length. -/
def read (buffer : List α) (index : Nat) : Except ε α :=
  match buffer[index]? with
  | some value => .ok value
  | none => .error fault

/-- `memcpy(array, buffer + offset, length)`. -/
def memcpy (array : Vector α n) (buffer : List α) (offset : Nat) : (length : Nat) → Except ε (Vector α n)
  | 0 => .ok array
  | length + 1 => do
    let array ← memcpy array buffer offset length
    let value ← read fault buffer (offset + length)
    store fault array length value

theorem load_of_lt {array : Vector α n} {index : Nat} (inside : index < n) :
    load fault array index = .ok array[index] := dif_pos inside

theorem store_of_lt {array : Vector α n} {index : Nat} (inside : index < n) (value : α) :
    store fault array index value = .ok (array.set index value) := dif_pos inside

theorem read_of_lt {buffer : List α} {index : Nat} (inside : index < buffer.length) :
    read fault buffer index = .ok buffer[index] := by
  rw [read,List.getElem?_eq_getElem inside]

/-- What lies inside both is copied, and the rest of the array stays. -/
theorem memcpy_eq (array : Vector α n) {buffer : List α} {offset length : Nat}
    (source : offset + length ≤ buffer.length) (room : length ≤ n) :
    ∃ copied, memcpy fault array buffer offset length = .ok copied ∧
      copied.toList = (buffer.drop offset).take length ++ array.toList.drop length := by
  induction length with
  | zero => exact ⟨array,rfl,rfl⟩
  | succ length ih =>
    obtain ⟨copied,run,bytes⟩ := ih (by omega) (by omega)
    have inside : length < (buffer.drop offset).length := by rw [List.length_drop]; omega
    have size : ((buffer.drop offset).take length).length = length := List.length_take_of_le (Nat.le_of_lt inside)
    have left : length < array.toList.length := by rw [Vector.length_toList]; omega
    refine ⟨copied.set length buffer[offset + length] (by omega),?_,?_⟩
    · rw [memcpy,run]
      simp only [bind,Except.bind,read_of_lt fault (show offset + length < buffer.length by omega),
        store_of_lt fault (show length < n by omega)]
    · rw [Vector.toList_set,bytes,List.set_append_right _ _ (Nat.le_of_eq size),size,Nat.sub_self,
        List.drop_eq_getElem_cons left,List.set_cons_zero,List.take_succ_eq_append_getElem inside,List.getElem_drop,
        List.append_assoc,List.singleton_append]

/-- `memcpy(array + start, values, length)`. -/
def copyTo (array : Vector α n) (start : Nat) : (values : List α) → Except ε (Vector α n)
  | [] => .ok array
  | value :: rest => do
    let array ← store fault array start value
    copyTo array (start + 1) rest

/-- The values lie between what was in front of them and what is behind. -/
theorem copyTo_eq (array : Vector α n) {start : Nat} {values : List α} (room : start + values.length ≤ n) :
    ∃ copied, copyTo fault array start values = .ok copied ∧
      copied.toList = array.toList.take start ++ values ++ array.toList.drop (start + values.length) := by
  induction values generalizing array start with
  | nil => exact ⟨array,rfl,by simp⟩
  | cons value rest ih =>
    rw [List.length_cons] at room
    have inside : start < array.toList.length := by rw [Vector.length_toList]; omega
    obtain ⟨copied,run,bytes⟩ := ih (array.set start value (by omega)) (by omega : start + 1 + rest.length ≤ n)
    refine ⟨copied,?_,?_⟩
    · rw [copyTo,store_of_lt fault (by omega)]
      exact run
    · have front : (array.toList.set start value).take (start + 1) = array.toList.take start ++ [value] := by
        rw [List.take_succ_eq_append_getElem (by rwa [List.length_set]),List.take_set_of_le (Nat.le_refl start),
          List.getElem_set_self]
      rw [bytes,Vector.toList_set,front,List.drop_set_of_lt (by omega),List.length_cons,Nat.add_right_comm,
        Nat.add_assoc start rest.length 1,List.append_assoc (array.toList.take start) [value]]
      rfl

/-! ### Strings -/

/-- The characters in front of the first NUL. -/
def content (text : List UInt8) : List UInt8 := text.takeWhile (· ≠ 0)

def strnlen : (text : List UInt8) → (maximum : Nat) → Except ε Nat
  | _, 0 => .ok 0
  | [], _ + 1 => .error fault
  | byte :: rest, maximum + 1 =>
    if byte = 0 then .ok 0 else (strnlen rest maximum).map (· + 1)

/-- Whether `strcmp` returns zero. -/
def strcmp : (first second : List UInt8) → Except ε Bool
  | byte :: first, other :: second =>
    if byte ≠ other then .ok false else if byte = 0 then .ok true else strcmp first second
  | _, _ => .error fault

/-- A loop over the characters that stops at the first one that fails a test. -/
def allCharacters (test : UInt8 → Bool) : (text : List UInt8) → Except ε Bool
  | [] => .error fault
  | byte :: rest => if byte = 0 then .ok true else if test byte then allCharacters test rest else .ok false

theorem content_cons_zero (rest : List UInt8) : content (0 :: rest) = [] := rfl

theorem content_cons {byte : UInt8} (character : byte ≠ 0) (rest : List UInt8) :
    content (byte :: rest) = byte :: content rest := List.takeWhile_cons_of_pos (by simpa using character)

theorem content_length_le (text : List UInt8) : (content text).length ≤ text.length :=
  (List.takeWhile_prefix _).length_le

/-- A string that ends before its array does has a terminator. -/
theorem terminated {text : List UInt8} (shorter : (content text).length < text.length) : 0 ∈ text := by
  by_contra absent
  have all : content text = text := by
    refine List.takeWhile_eq_self_iff.mpr fun byte member => ?_
    simp only [decide_eq_true_eq]
    rintro rfl
    exact absent member
  rw [all] at shorter
  exact Nat.lt_irrefl _ shorter

/-- A terminator ends the string, whatever follows it. -/
theorem content_terminated (text rest : List UInt8) : content (text ++ 0 :: rest) = content text := by
  induction text with
  | nil => rfl
  | cons byte text ih =>
    rw [List.cons_append]
    by_cases nul : byte = 0
    · rw [nul,content_cons_zero,content_cons_zero]
    · rw [content_cons nul,content_cons nul,ih]

theorem content_append {text : List UInt8} (noNul : 0 ∉ text) (rest : List UInt8) :
    content (text ++ 0 :: rest) = text := by
  rw [content_terminated]
  refine List.takeWhile_eq_self_iff.mpr fun byte member => ?_
  simp only [decide_eq_true_eq]
  rintro rfl
  exact noNul member

theorem strnlen_eq {text : List UInt8} {maximum : Nat} (room : maximum ≤ text.length) :
    strnlen fault text maximum = .ok (min (content text).length maximum) := by
  induction maximum generalizing text with
  | zero => rw [strnlen,Nat.min_zero]
  | succ maximum ih =>
    cases text with
    | nil => contradiction
    | cons byte rest =>
      rw [strnlen]
      split
      · next nul => rw [nul,content_cons_zero,List.length_nil,Nat.zero_min]
      · next character =>
        rw [ih (Nat.le_of_succ_le_succ room),content_cons character,List.length_cons,Nat.succ_min_succ]
        rfl

theorem strcmp_eq {first second : List UInt8} (ends : 0 ∈ first) (otherEnds : 0 ∈ second) :
    strcmp fault first second = .ok (decide (content first = content second)) := by
  induction first generalizing second with
  | nil => contradiction
  | cons byte first ih =>
    cases second with
    | nil => contradiction
    | cons other second =>
      rw [strcmp]
      split
      · next differ =>
        refine congrArg Except.ok (decide_eq_false fun same => ?_).symm
        by_cases nul : byte = 0 <;> by_cases otherNul : other = 0
        · exact differ (nul.trans otherNul.symm)
        · rw [nul,content_cons_zero,content_cons otherNul] at same
          contradiction
        · rw [otherNul,content_cons_zero,content_cons nul] at same
          contradiction
        · rw [content_cons nul,content_cons otherNul,List.cons.injEq] at same
          exact differ same.1
      · next same =>
        rw [ne_eq,not_not] at same
        subst same
        split
        · next nul =>
          rw [nul,content_cons_zero,content_cons_zero]
          rfl
        · next character =>
          have ends := (List.mem_cons.mp ends).resolve_left (Ne.symm character)
          have otherEnds := (List.mem_cons.mp otherEnds).resolve_left (Ne.symm character)
          rw [ih ends otherEnds,content_cons character,content_cons character]
          simp

theorem allCharacters_eq (test : UInt8 → Bool) {text : List UInt8} (ends : 0 ∈ text) :
    allCharacters fault test text = .ok ((content text).all test) := by
  induction text with
  | nil => contradiction
  | cons byte rest ih =>
    rw [allCharacters]
    split
    · next nul => rw [nul,content_cons_zero,List.all_nil]
    · next character =>
      rw [content_cons character,List.all_cons]
      split
      · next passes =>
        rw [ih ((List.mem_cons.mp ends).resolve_left (Ne.symm character)),passes,Bool.true_and]
      · next fails => rw [Bool.eq_false_iff.mpr fails,Bool.false_and]

end CheckedMemory
