import Mathlib.Data.List.Basic
import Mathlib.Tactic.Common

/-! Scanning a C string by pointer. Reading behind the buffer is a fault of its own, and the
rules show that a scan with a terminator ahead can only reject. -/
namespace Scanning

inductive Fault where
  | rejected
  | overrun
  | exhausted
  deriving DecidableEq, Repr

abbrev Scan := Except Fault

/-- The bytes from a pointer to the end of its buffer. -/
abbrev Cursor := List UInt8

def ascii (text : String) : List UInt8 := text.toList.map Char.toUInt8

/-! ### The C library -/

def isspace (byte : UInt8) : Bool := byte == 0x20 || (0x09 ≤ byte && byte ≤ 0x0d)

def isdigit (byte : UInt8) : Bool := 0x30 ≤ byte && byte ≤ 0x39

def isxdigit (byte : UInt8) : Bool :=
  isdigit byte || (0x41 ≤ byte && byte ≤ 0x46) || (0x61 ≤ byte && byte ≤ 0x66)

theorem digit_not_space {byte : UInt8} (digit : isdigit byte = true) : isspace byte = false := by
  simp only [isdigit,isspace,Bool.and_eq_true,Bool.or_eq_false_iff,Bool.and_eq_false_iff,decide_eq_true_eq,
    decide_eq_false_iff_not,beq_eq_false_iff_ne,ne_eq,UInt8.le_iff_toNat_le,← UInt8.toNat_inj] at digit ⊢
  simp only [UInt8.reduceToNat] at digit ⊢
  omega

/-- `strncmp` with a literal and its length, compared with zero. -/
def strncmp : Cursor → List UInt8 → Scan Bool
  | _,[] => .ok true
  | [],_ :: _ => .error .overrun
  | byte :: value,letter :: literal => if byte = letter then strncmp value literal else .ok false

/-- `memcmp` with a literal and its length, compared with zero. It may read all the bytes. -/
def memcmp : Cursor → List UInt8 → Scan Bool
  | _,[] => .ok true
  | [],_ :: _ => .error .overrun
  | byte :: value,letter :: literal => return (← memcmp value literal) && byte == letter

/-! ### Steps of a pointer -/

/-- `*value` -/
def deref : Cursor → Scan UInt8
  | [] => .error .overrun
  | byte :: _ => .ok byte

/-- `if (*value++ != byte) return false;` -/
def expect (byte : UInt8) : Cursor → Scan Cursor
  | [] => .error .overrun
  | first :: value => if first = byte then .ok value else .error .rejected

def skipWhile (among : UInt8 → Bool) : Cursor → Scan Cursor
  | [] => .error .overrun
  | byte :: value => if among byte then skipWhile among value else .ok (byte :: value)

/-! ### Scans that only reject -/

section Rules

variable {α β : Type} {outcome : Scan α} {post middle : α → Prop} {cursor rest : Cursor}

def Ensures (outcome : Scan α) (post : α → Prop) : Prop :=
  match outcome with
  | .ok value => post value
  | .error fault => fault = .rejected

@[simp] theorem ok_bind (value : α) (next : α → Scan β) : (Except.ok value >>= next) = next value := rfl

@[simp] theorem deref_bind (byte : UInt8) (value : Cursor) (next : UInt8 → Scan β) :
    (deref (byte :: value) >>= next) = next byte := rfl

@[simp] theorem expect_bind (byte : UInt8) (value : Cursor) (next : Cursor → Scan β) :
    (expect byte (byte :: value) >>= next) = next value := by
  rw [expect,if_pos rfl,ok_bind]

theorem ensures_rejected : Ensures (.error .rejected : Scan α) post := rfl

theorem Ensures.bind {next : α → Scan β} {post : β → Prop} (first : Ensures outcome middle)
    (second : ∀ value, middle value → Ensures (next value) post) : Ensures (outcome >>= next) post := by
  cases outcome with
  | ok value => exact second value first
  | error fault => exact first

theorem Ensures.mono (ensures : Ensures outcome middle) (weaker : ∀ value, middle value → post value) :
    Ensures outcome post := by
  cases outcome with
  | ok value => exact weaker value ensures
  | error fault => exact ensures

theorem Ensures.of_ok (ensures : Ensures outcome post) {value : α} (ok : outcome = .ok value) : post value := by
  rw [ok] at ensures
  exact ensures

/-- A scan that meets a postcondition accepts or rejects. -/
theorem Ensures.cases (ensures : Ensures outcome post) :
    (∃ value, outcome = .ok value ∧ post value) ∨ outcome = .error .rejected := by
  cases outcome with
  | ok value => exact .inl ⟨value,rfl,ensures⟩
  | error fault => exact .inr (congrArg Except.error ensures)

/-- The text has a first byte, and it has the property. -/
def Begins (property : UInt8 → Prop) (text : List UInt8) : Prop := ∃ head tail, text = head :: tail ∧ property head

theorem Begins.append {property : UInt8 → Prop} {text : List UInt8} (begins : Begins property text) (rest : List UInt8) :
    Begins property (text ++ rest) := by
  obtain ⟨head,tail,rfl,holds⟩ := begins
  exact ⟨head,tail ++ rest,rfl,holds⟩

theorem Begins.mono {property weaker : UInt8 → Prop} {text : List UInt8} (begins : Begins property text)
    (implies : ∀ byte, property byte → weaker byte) : Begins weaker text := by
  obtain ⟨head,tail,split,holds⟩ := begins
  exact ⟨head,tail,split,implies head holds⟩

/-- The scan passes over a text of the language, and the terminator stays ahead. -/
def Reads (language : List UInt8 → Prop) (cursor rest : Cursor) : Prop :=
  0 ∈ rest ∧ ∃ text, language text ∧ cursor = text ++ rest

theorem ensures_deref (terminated : 0 ∈ cursor) : Ensures (deref cursor) fun byte => ∃ value, cursor = byte :: value := by
  cases cursor with
  | nil => contradiction
  | cons byte value => exact ⟨value,rfl⟩

theorem mem_behind {byte : UInt8} {value : Cursor} (terminated : 0 ∈ byte :: value) (other : byte ≠ 0) : 0 ∈ value :=
  (List.mem_cons.mp terminated).resolve_left other.symm

theorem ensures_expect {byte : UInt8} (terminated : 0 ∈ cursor) (other : byte ≠ 0) :
    Ensures (expect byte cursor) fun rest => 0 ∈ rest ∧ cursor = byte :: rest := by
  cases cursor with
  | nil => contradiction
  | cons first value =>
    by_cases same : first = byte
    · subst same
      rw [expect,if_pos rfl]
      exact ⟨mem_behind terminated other,rfl⟩
    · rw [expect,if_neg same]
      exact ensures_rejected

theorem ensures_skipWhile {among : UInt8 → Bool} (nul : among 0 = false) (terminated : 0 ∈ cursor) :
    Ensures (skipWhile among cursor) fun rest => Reads (fun text => ∀ byte ∈ text, among byte = true) cursor rest ∧
      Begins (among · = false) rest := by
  induction cursor with
  | nil => contradiction
  | cons byte value ih =>
    unfold skipWhile
    split
    · next member =>
      have other : byte ≠ 0 := by
        rintro rfl
        rw [nul] at member
        contradiction
      refine (ih (mem_behind terminated other)).mono ?_
      rintro rest ⟨⟨ahead,text,all,rfl⟩,stops⟩
      exact ⟨⟨ahead,byte :: text,List.forall_mem_cons.mpr ⟨member,all⟩,rfl⟩,stops⟩
    · next stops => exact ⟨⟨terminated,[],nofun,rfl⟩,byte,value,rfl,by simpa using stops⟩

theorem skipWhile_append {among : UInt8 → Bool} {text : List UInt8} (all : ∀ byte ∈ text, among byte = true)
    (stops : Begins (among · = false) rest) : skipWhile among (text ++ rest) = .ok rest := by
  induction text with
  | nil =>
    obtain ⟨head,tail,rfl,stops⟩ := stops
    simp [skipWhile,stops]
  | cons byte text ih =>
    obtain ⟨member,others⟩ := List.forall_mem_cons.mp all
    rw [List.cons_append,skipWhile,if_pos member]
    exact ih others

theorem ensures_strncmp {literal : List UInt8} (plain : 0 ∉ literal) (terminated : 0 ∈ cursor) :
    Ensures (strncmp cursor literal) fun same => same = true → Reads (· = literal) cursor (cursor.drop literal.length) := by
  induction literal generalizing cursor with
  | nil =>
    rw [strncmp]
    exact fun _ => ⟨terminated,[],rfl,rfl⟩
  | cons letter literal ih =>
    obtain ⟨other,others⟩ := List.ne_and_not_mem_of_not_mem_cons plain
    cases cursor with
    | nil => contradiction
    | cons byte value =>
      by_cases same : byte = letter
      · subst same
        rw [strncmp,if_pos rfl]
        refine (ih others (mem_behind terminated other.symm)).mono ?_
        intro found reads accepted
        obtain ⟨ahead,text,rfl,split⟩ := reads accepted
        refine ⟨ahead,byte :: text,rfl,?_⟩
        rw [List.length_cons,List.drop_succ_cons,List.cons_append,← split]
      · rw [strncmp,if_neg same]
        exact nofun

theorem strncmp_append (literal : List UInt8) (rest : Cursor) : strncmp (literal ++ rest) literal = .ok true := by
  induction literal with
  | nil => rw [strncmp]
  | cons letter literal ih => rw [List.cons_append,strncmp,if_pos rfl,ih]

theorem strncmp_head {byte letter : UInt8} (differ : byte ≠ letter) (value : Cursor) (literal : List UInt8) :
    strncmp (byte :: value) (letter :: literal) = .ok false := if_neg differ

/-- `memcmp` stays inside a buffer with as many bytes. -/
theorem memcmp_eq {literal : List UInt8} (room : literal.length ≤ cursor.length) :
    memcmp cursor literal = .ok (decide (cursor.take literal.length = literal)) := by
  induction literal generalizing cursor with
  | nil =>
    rw [memcmp]
    rfl
  | cons letter literal ih =>
    cases cursor with
    | nil => contradiction
    | cons byte value =>
      rw [memcmp,ih (Nat.le_of_succ_le_succ room)]
      simp [bind,Except.bind,pure,Except.pure,Bool.and_comm,Bool.beq_eq_decide_eq]

end Rules

end Scanning
