import Mathlib.Order.Defs.LinearOrder
import Mathlib.Data.UInt
import Mathlib.Tactic.Common

/-! Two slots holding generation-stamped values. The reader takes the newest usable
slot, the first on a tie, and the writer replaces the slot the reader would not
take. Nothing is assumed of the generation a writer chooses. -/
namespace Irrigation.Library.TwoSlot

variable {γ α : Type} [LinearOrder γ]

/-- Nothing usable, or a value under its generation. -/
abbrev Content (γ α : Type) := Option (γ × α)

def FirstWins : Content γ α → Content γ α → Prop
  | some a, some b => b.1 ≤ a.1
  | some _, none => True
  | none, _ => False

instance (a b : Content γ α) : Decidable (FirstWins a b) := by
  unfold FirstWins; split <;> infer_instance

def current (a b : Content γ α) : Content γ α := if FirstWins a b then a else b

/-- Both slots after the spare one takes a new content. -/
def replaceSpare (a b new : Content γ α) : Content γ α × Content γ α :=
  if FirstWins a b then (a,new) else (new,b)

def currentOf (slots : Content γ α × Content γ α) : Content γ α := current slots.1 slots.2

@[simp] theorem currentOf_mk (a b : Content γ α) : currentOf (a,b) = current a b := rfl

@[simp] theorem firstWins_none_right (a : γ × α) : FirstWins (some a) none := trivial
@[simp] theorem not_firstWins_none_left (b : Content γ α) : ¬FirstWins none b := id

@[simp] theorem firstWins_some_some (a b : γ × α) : FirstWins (some a) (some b) ↔ b.1 ≤ a.1 := Iff.rfl

/-- An unusable spare leaves the reader where it was. -/
theorem current_replaceSpare_none (a b : Content γ α) :
    currentOf (replaceSpare a b none) = current a b := by
  unfold replaceSpare current
  split
  next wins =>
    cases a with
    | none => exact absurd wins (not_firstWins_none_left _)
    | some a => simp [current]
  next => simp [current]

/-- A new generation above the reader's is what the reader takes next. -/
theorem current_replaceSpare_newer {a b : Content γ α} {new : γ × α}
    (newer : ∀ taken, current a b = some taken → taken.1 < new.1) :
    currentOf (replaceSpare a b (some new)) = some new := by
  unfold replaceSpare
  unfold current at newer
  split
  next wins =>
    rw [if_pos wins] at newer
    cases a with
    | none => exact absurd wins (not_firstWins_none_left _)
    | some a => simp [current,newer a rfl]
  next loses =>
    rw [if_neg loses] at newer
    cases b with
    | none => simp [current]
    | some b => simp [current,(newer b rfl).le]

/-- A first slot that is not older hides whatever the spare takes. -/
theorem current_replaceSpare_hidden {a b : Content γ α} {taken new : γ × α} (wins : FirstWins a b)
    (first : a = some taken) (older : new.1 ≤ taken.1) :
    currentOf (replaceSpare a b (some new)) = some taken := by
  subst first
  simp [replaceSpare,wins,current,older]

/-- Whatever the generation, the reader keeps its value or takes the new one. -/
theorem current_replaceSpare_cases (a b : Content γ α) (new : γ × α) :
    currentOf (replaceSpare a b (some new)) = current a b ∨
      currentOf (replaceSpare a b (some new)) = some new := by
  unfold replaceSpare current
  split
  · simp only [currentOf_mk,current]; split <;> simp
  · simp only [currentOf_mk,current]; split <;> simp

end Irrigation.Library.TwoSlot

/-! The machine words are linearly ordered by their values. -/
namespace Irrigation.Library

instance uint32LinearOrder : LinearOrder UInt32 where
  le_refl := UInt32.le_refl
  le_trans := fun _ _ _ => UInt32.le_trans
  lt_iff_le_not_ge := fun _ _ => by
    rw [UInt32.not_le]; exact ⟨fun less => ⟨UInt32.le_of_lt less,less⟩,And.right⟩
  le_antisymm := fun _ _ => UInt32.le_antisymm
  le_total := UInt32.le_total
  toDecidableLE := inferInstance

end Irrigation.Library
