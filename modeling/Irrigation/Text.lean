import Mathlib.Data.List.TakeWhile
import Mathlib.Tactic.Common

/-! C strings as the firmware sees them. A `char[n]` is modelled by its content up
to the first NUL: no function of the firmware reads past it. -/
namespace Irrigation

/-- The characters of a NUL-terminated string, without the terminator. -/
structure CString where
  bytes : List UInt8
  noNul : ∀ byte ∈ bytes, byte ≠ 0
  deriving DecidableEq, Repr

/-- A `char[n]` up to its first NUL; all `n` characters when it has none. -/
structure CharArray (n : Nat) extends CString where
  fits : bytes.length ≤ n
  deriving DecidableEq, Repr

abbrev irrigationConfigurationIdSize : Nat := 32
abbrev irrigationConfigurationNameSize : Nat := 32

abbrev IdText := CharArray irrigationConfigurationIdSize
abbrev NameText := CharArray irrigationConfigurationNameSize

namespace CString

@[ext] theorem ext {a b : CString} (same : a.bytes = b.bytes) : a = b := by
  cases a; cases b; simp_all

def ofBytes (bytes : List UInt8) : CString where
  bytes := bytes.takeWhile (· ≠ 0)
  noNul := fun byte member => by simpa using List.mem_takeWhile_imp member

/-- Plain ASCII without NUL, as all literals of the firmware are. -/
def ofChars (text : List Char) : CString := ofBytes (text.map fun c => c.toNat.toUInt8)

def literal (text : String) : CString := ofChars text.toList

/-- What `snprintf` prints for the format `<stem>%u`, before it is cut to its buffer. -/
def numbered (stem : String) (number : Nat) : CString := ofChars (stem.toList ++ Nat.toDigits 10 number)

@[simp] theorem ofBytes_bytes (text : CString) : ofBytes text.bytes = text := by
  apply ext
  exact List.takeWhile_eq_self_iff.mpr (fun byte member => by simpa using text.noNul byte member)

end CString

namespace CharArray

variable {n : Nat}

@[ext] theorem ext {a b : CharArray n} (same : a.bytes = b.bytes) : a = b := by
  cases a; cases b; congr; exact CString.ext same

theorem toCString_injective : Function.Injective (toCString : CharArray n → CString) :=
  fun _ _ same => ext (congrArg CString.bytes same)

@[simp] theorem toCString_inj {a b : CharArray n} : a.toCString = b.toCString ↔ a = b :=
  toCString_injective.eq_iff

/-- A zeroed array. -/
def empty : CharArray n := ⟨⟨[],by simp⟩,by simp⟩

/-- The array after the bytes and a terminator are stored from its start. -/
def store (bytes : List UInt8) (room : bytes.length < n) : CharArray n :=
  ⟨CString.ofBytes bytes,((List.takeWhile_prefix _).length_le).trans (Nat.le_of_lt room)⟩

/-- `strnlen(text, maximum)`. -/
def strnlen (text : CharArray n) (maximum : Nat) : Nat := min text.bytes.length maximum

theorem store_bytes (text : CharArray n) (room : text.bytes.length < n) :
    store text.bytes room = text := by
  apply toCString_injective
  exact CString.ofBytes_bytes text.toCString

end CharArray

/-- `copy_text`: `snprintf(destination, destination_size, "%s", source)` keeps the
first `destination_size - 1` characters. -/
def copyText {n : Nat} (source : CString) : CharArray n :=
  ⟨⟨source.bytes.take (n - 1),fun byte member => source.noNul byte (List.mem_of_mem_take member)⟩,
    by rw [List.length_take]; omega⟩

theorem copyText_bytes {n : Nat} (source : CString) :
    (copyText source : CharArray n).bytes = source.bytes.take (n - 1) := rfl

/-- A terminated text survives being copied between arrays of its size. -/
theorem copyText_of_lt {n : Nat} (text : CharArray n) (terminated : text.bytes.length < n) :
    copyText text.toCString = text := by
  apply CharArray.ext
  rw [copyText_bytes]
  exact List.take_of_length_le (by omega)

end Irrigation
