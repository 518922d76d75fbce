import Irrigation.Library.Runs
import Mathlib.Data.Set.Function

/-! Names that a counter gives out: a table of named entries whose names stay among those it
had, or grow by the name of the counter, never reuses a name. -/
namespace Numbering

variable {Name : Type*} (base : Set Name) (name : Nat → Name)

/-- The names that were there at first, and those that were given before the counter got here. -/
def Given (next : Nat) : Set Name := base ∪ Set.image name {number | number < next}

/-- Below a bound the counter's names differ from each other and from those at first. -/
structure Distinct (bound : Nat) : Prop where
  apart : ∀ number < bound, name number ∉ base
  injective : Set.InjOn name {number | number < bound}

variable {base name}

theorem given_mono {next later : Nat} (below : next ≤ later) : Given base name next ⊆ Given base name later :=
  Set.union_subset_union_right base (Set.image_mono fun _ member => Nat.lt_of_lt_of_le member below)

theorem Distinct.fresh {bound next : Nat} (distinct : Distinct base name bound) (below : next < bound) :
    name next ∉ Given base name next := by
  rintro (first | ⟨number,earlier,same⟩)
  · exact distinct.apart next below first
  · have before : number < next := earlier
    have equal := distinct.injective (Nat.lt_trans before below) below same
    omega

variable (name)

/-- What a step does to the names of a table and its counter. -/
inductive Allots (names : List Name) (next : Nat) : List Name → Nat → Prop
  | kept {later : List Name} (among : later ⊆ names) : Allots names next later next
  | given : Allots names next (names ++ [name next]) (next + 1)

variable {name} {names later : List Name} {next after : Nat}

theorem Allots.mono (allots : Allots name names next later after) : next ≤ after := by
  cases allots with
  | kept => exact Nat.le_refl _
  | given => exact Nat.le_succ _

theorem Allots.known (allots : Allots name names next later after) (known : ∀ entry ∈ names, entry ∈ Given base name next) :
    ∀ entry ∈ later, entry ∈ Given base name after := by
  intro entry member
  cases allots with
  | kept among => exact known entry (among member)
  | given =>
    rcases List.mem_append.mp member with old | new
    · exact given_mono (Nat.le_succ next) (known entry old)
    · rw [List.mem_singleton.mp new]
      exact .inr ⟨next,Nat.lt_succ_self next,rfl⟩

/-- Along a run of such steps, every name that ever was in the table was given before the
counter got to where it ends. -/
theorem ever_given {Label State : Type*} {step : Label → State → State} (names : State → List Name)
    (counter : State → Nat) {labels : List Label} {state : State}
    (allots : Runs.Along step (fun label state => Allots name (names state) (counter state)
      (names (step label state)) (counter (step label state))) labels state)
    (known : ∀ entry ∈ names state, entry ∈ Given base name (counter state)) :
    counter state ≤ counter (Runs.after step labels state) ∧
      Runs.Throughout step (fun earlier => ∀ entry ∈ names earlier,
        entry ∈ Given base name (counter (Runs.after step labels state))) labels state := by
  induction labels generalizing state with
  | nil => exact ⟨Nat.le_refl _,Runs.throughout_nil.mpr known⟩
  | cons label rest ih =>
    obtain ⟨further,everywhere⟩ := ih allots.2 (allots.1.known known)
    have onwards := allots.1.mono.trans further
    refine ⟨onwards,Runs.throughout_cons.mpr ⟨?_,everywhere⟩⟩
    intro entry member
    exact given_mono onwards (known entry member)

end Numbering
