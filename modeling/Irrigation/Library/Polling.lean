import Irrigation.Library.Runs
import Mathlib.Algebra.Order.Floor.Div

/-! A task that polls and sleeps in between. The polls that it makes before a time are bounded by the
sleeps until then; a run in which every poll uses up a part of what is left comes to an end. -/
namespace Polling

/-! ### Sleeps -/

/-- The sleeps that it takes until a time this far off is over. -/
def sleeps (pace rest : Nat) : Nat := rest ⌈/⌉ pace

/-- The polls that a wait takes: one after each sleep, and the one that finds it over. -/
def polls (pace duration : Nat) : Nat := sleeps pace duration + 1

section Sleeps

variable {pace : Nat} (awake : 0 < pace)

include awake

theorem sleeps_le_iff (rest count : Nat) : sleeps pace rest ≤ count ↔ rest ≤ pace * count :=
  ceilDiv_le_iff_le_mul awake

theorem sleeps_mono {rest more : Nat} (below : rest ≤ more) : sleeps pace rest ≤ sleeps pace more :=
  (sleeps_le_iff awake _ _).mpr (below.trans ((sleeps_le_iff awake _ _).mp (Nat.le_refl _)))

/-- A sleep is one of those that are left. -/
theorem sleeps_slept {rest : Nat} (ahead : 0 < rest) : sleeps pace (rest - pace) + 1 ≤ sleeps pace rest := by
  have enough : rest ≤ pace * sleeps pace rest := (sleeps_le_iff awake _ _).mp (Nat.le_refl _)
  cases count : sleeps pace rest with
  | zero =>
    rw [count,Nat.mul_zero] at enough
    omega
  | succ fewer =>
    rw [count,Nat.mul_succ] at enough
    exact Nat.succ_le_succ ((sleeps_le_iff awake _ _).mpr (by omega))

/-- A poll that comes too early uses up a sleep. -/
theorem sleeps_early {dueAt now earliest next : Nat} (wakes : earliest ≤ now) (early : now < dueAt)
    (slept : now + pace ≤ next) : sleeps pace (dueAt - next) + 1 ≤ sleeps pace (dueAt - earliest) := by
  have below : dueAt - next ≤ dueAt - earliest - pace := by omega
  have used := sleeps_slept awake (by omega : 0 < dueAt - earliest)
  have fewer := sleeps_mono awake below
  omega

/-- A wait that has begun by now takes no more than its duration. -/
theorem sleeps_begun {begunAt earliest : Nat} (begun : begunAt ≤ earliest) (duration : Nat) :
    sleeps pace (begunAt + duration - earliest) ≤ sleeps pace duration :=
  sleeps_mono awake (by omega)

theorem sleeps_later {dueAt earliest next : Nat} (later : earliest ≤ next) :
    sleeps pace (dueAt - next) ≤ sleeps pace (dueAt - earliest) :=
  sleeps_mono awake (by omega)

end Sleeps

/-! ### Runs that use up what is left -/

section Runs

universe u v

variable {Label : Type u} {State : Type v} {step : Label → State → State}

/-- Where no step adds to what is left and every poll takes a part of it, a run with as many polls has a
step that ends it. -/
theorem ends_within (counted : Label → Bool) (ends : Label → State → Prop) (left : State → Nat → Prop)
    {condition : Label → State → Prop} (some : ∀ state rest, left state rest → 0 < rest)
    (keeps : ∀ label state rest, left state rest → condition label state → counted label = false →
      ends label state ∨ left (step label state) rest)
    (takes : ∀ label state rest, left state rest → condition label state → counted label = true →
      ends label state ∨ ∃ fewer < rest, left (step label state) fewer)
    {labels : List Label} {state : State} {rest : Nat} (initially : left state rest)
    (along : Runs.Along step condition labels state) (enough : rest ≤ labels.countP counted) :
    ∃ done label todo, labels = done ++ label :: todo ∧ ends label (Runs.after step done state) := by
  induction labels generalizing state rest with
  | nil =>
    have positive := some state rest initially
    rw [List.countP_nil] at enough
    omega
  | cons label later ih =>
    have continued {next : Nat} (holds : left (step label state) next) (count : next ≤ later.countP counted) :
        ∃ done other todo, label :: later = done ++ other :: todo ∧ ends other (Runs.after step done state) := by
      obtain ⟨done,other,todo,split,ended⟩ := ih holds along.2 count
      exact ⟨label :: done,other,todo,by rw [split]; rfl,ended⟩
    cases poll : counted label with
    | false =>
      rw [List.countP_cons_of_neg (by simp [poll])] at enough
      rcases keeps label state rest initially along.1 poll with ended | holds
      · exact ⟨[],label,later,rfl,ended⟩
      · exact continued holds enough
    | true =>
      rw [List.countP_cons_of_pos poll] at enough
      rcases takes label state rest initially along.1 poll with ended | ⟨fewer,below,holds⟩
      · exact ⟨[],label,later,rfl,ended⟩
      · exact continued holds (by omega)

end Runs

end Polling
