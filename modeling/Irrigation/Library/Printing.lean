import Mathlib.Data.List.Basic
import Mathlib.Tactic.Common

/-! Text printed piece by piece into a buffer. The room left is the difference of two unsigned
numbers, so that a piece is printed only while the length so far is below the size. -/
namespace Printing

inductive Fault where
  | wrapped
  | truncated
  deriving DecidableEq, Repr

abbrev Printed := Except Fault (List UInt8)

/-- A template with its conversions replaced by arguments that are already texts. -/
def expand : List Char → List (List UInt8) → List UInt8
  | [],_ => []
  | [letter],_ => [letter.toUInt8]
  | letter :: conversion :: rest,[] => letter.toUInt8 :: expand (conversion :: rest) []
  | letter :: conversion :: rest,argument :: arguments =>
    if letter = '%' then argument ++ expand rest arguments
    else letter.toUInt8 :: expand (conversion :: rest) (argument :: arguments)

def format (template : String) (arguments : List (List UInt8)) : List UInt8 := expand template.toList arguments

/-- `used += snprintf(buffer + used, size - used, template, …)`, with the text in front of `used`. -/
def snprintf (size : Nat) (template : String) (arguments : List (List UInt8)) (used : List UInt8) : Printed :=
  let text := format template arguments
  if size ≤ used.length then .error .wrapped
  else if size - used.length ≤ text.length then .error .truncated
  else .ok (used ++ text)

/-- A part of a printer prints a text wherever there is room for it. -/
def Prints (size : Nat) (part : List UInt8 → Printed) (text : List UInt8) : Prop :=
  ∀ used, used.length + text.length < size → part used = .ok (used ++ text)

variable {α : Type*} {size : Nat} {part next : List UInt8 → Printed} {text more : List UInt8}

theorem prints_snprintf (size : Nat) (template : String) (arguments : List (List UInt8)) :
    Prints size (snprintf size template arguments) (format template arguments) := by
  intro used room
  rw [snprintf,if_neg (by omega),if_neg (by omega)]

theorem Prints.bind (first : Prints size part text) (second : Prints size next more) :
    Prints size (fun used => part used >>= next) (text ++ more) := by
  intro used room
  rw [List.length_append] at room
  have printed := second (used ++ text) (by rw [List.length_append]; omega)
  calc part used >>= next = .ok (used ++ text) >>= next := by rw [first used (by omega)]
    _ = .ok (used ++ text ++ more) := printed
    _ = .ok (used ++ (text ++ more)) := by rw [List.append_assoc]

theorem Prints.of_eq (prints : Prints size part text) (same : text = more) : Prints size part more := same ▸ prints

/-- A guard on the length so far is never needed. -/
theorem Prints.guarded (prints : Prints size part text) :
    Prints size (fun used => if used.length < size then part used else .ok used) text := by
  intro used room
  have below : used.length < size := by omega
  exact (if_pos below).trans (prints used room)

theorem prints_each {body : List UInt8 → α → Printed} {print : α → List UInt8} {entries : List α}
    (each : ∀ entry ∈ entries, Prints size (body · entry) (print entry)) :
    Prints size (fun used => entries.foldlM body used) (entries.flatMap print) := by
  induction entries with
  | nil =>
    intro used _
    exact congrArg Except.ok (List.append_nil used).symm
  | cons entry rest ih =>
    obtain ⟨first,others⟩ := List.forall_mem_cons.mp each
    exact first.bind (ih others)

/-- The whole text is printed if it fits. -/
theorem Prints.whole (prints : Prints size part text) (fits : text.length < size) : part [] = .ok text := by
  rw [prints [] (by rwa [List.length_nil,Nat.zero_add]),List.nil_append]

end Printing
