import Mathlib.Data.List.Basic

/-! Runs of a machine that takes one labelled step at a time: invariants of a run,
conditions on its steps, and the states that it reaches. -/
namespace Runs

universe u v

variable {Label : Type u} {State : Type v} (step : Label → State → State)

/-- The state after a run. -/
def after : List Label → State → State
  | [], state => state
  | label :: rest, state => after rest (step label state)

/-- Every step of the run meets a condition on its label and the state before it. -/
def Along (condition : Label → State → Prop) : List Label → State → Prop
  | [], _ => True
  | label :: rest, state => condition label state ∧ Along condition rest (step label state)

instance decidableAlong {condition : Label → State → Prop} [∀ label state, Decidable (condition label state)] :
    ∀ labels state, Decidable (Along step condition labels state)
  | [], _ => isTrue trivial
  | label :: rest, state => @instDecidableAnd (condition label state) (Along step condition rest (step label state)) _
    (decidableAlong rest (step label state))

/-- Every state that the run reaches, the first one included, has a property. -/
def Throughout (property : State → Prop) (labels : List Label) (state : State) : Prop :=
  ∀ done todo, labels = done ++ todo → property (after step done state)

/-- What the steps of a run report, in order. -/
def log {Entry : Type*} (report : Label → State → List Entry) : List Label → State → List Entry
  | [], _ => []
  | label :: rest, state => report label state ++ log report rest (step label state)

@[simp] theorem after_nil (state : State) : after step [] state = state := rfl

@[simp] theorem after_cons (label : Label) (rest : List Label) (state : State) :
    after step (label :: rest) state = after step rest (step label state) := rfl

variable {step}

theorem after_append (first second : List Label) (state : State) :
    after step (first ++ second) state = after step second (after step first state) := by
  induction first generalizing state with
  | nil => rfl
  | cons label rest ih => exact ih _

theorem throughout_nil {property : State → Prop} {state : State} :
    Throughout step property [] state ↔ property state := by
  constructor
  · intro reached
    exact reached [] [] rfl
  · intro holds done todo split
    cases (List.append_eq_nil_iff.mp split.symm).1
    exact holds

theorem throughout_cons {property : State → Prop} {label : Label} {rest : List Label} {state : State} :
    Throughout step property (label :: rest) state ↔
      property state ∧ Throughout step property rest (step label state) := by
  constructor
  · intro reached
    refine ⟨reached [] _ rfl,?_⟩
    intro done todo split
    exact reached (label :: done) todo (by rw [split]; rfl)
  · intro holds done todo split
    cases done with
    | nil => exact holds.1
    | cons head tail =>
      obtain ⟨rfl,tailSplit⟩ := List.cons.inj split
      exact holds.2 tail todo tailSplit

/-- An invariant that each step of a run keeps holds throughout the run. -/
theorem invariant_throughout (invariant : State → Prop) {condition : Label → State → Prop}
    (keeps : ∀ label state, invariant state → condition label state → invariant (step label state))
    {labels : List Label} {state : State} (initially : invariant state)
    (along : Along step condition labels state) : Throughout step invariant labels state := by
  induction labels generalizing state with
  | nil => exact throughout_nil.mpr initially
  | cons label rest ih =>
    exact throughout_cons.mpr ⟨initially,ih (keeps label state initially along.1) along.2⟩

theorem along_true (labels : List Label) (state : State) : Along step (fun _ _ => True) labels state := by
  induction labels generalizing state with
  | nil => trivial
  | cons label rest ih => exact ⟨trivial,ih _⟩

/-- An invariant that every step keeps holds after every run. -/
theorem invariant_after {invariant : State → Prop}
    (keeps : ∀ label state, invariant state → invariant (step label state)) {state : State}
    (initially : invariant state) (labels : List Label) : invariant (after step labels state) := by
  have everywhere := invariant_throughout invariant (fun label state holds _ => keeps label state holds) initially
    (along_true labels state)
  exact everywhere labels [] (List.append_nil labels).symm

/-- Two conditions that agree wherever an invariant holds hold along the same runs. -/
theorem along_iff (invariant : State → Prop) {allowed first second : Label → State → Prop}
    (keeps : ∀ label state, invariant state → allowed label state → invariant (step label state))
    (agree : ∀ label state, invariant state → allowed label state → (first label state ↔ second label state))
    {labels : List Label} {state : State} (initially : invariant state) (along : Along step allowed labels state) :
    Along step first labels state ↔ Along step second labels state := by
  induction labels generalizing state with
  | nil => exact Iff.rfl
  | cons label rest ih =>
    exact and_congr (agree label state initially along.1) (ih (keeps label state initially along.1) along.2)

/-- A property that is never regained holds at every step of a run that ends in it. -/
theorem along_of_after (property : State → Prop)
    (kept : ∀ label state, property (step label state) → property state) {labels : List Label} {state : State}
    (ended : property (after step labels state)) :
    property state ∧ Along step (fun label state => property (step label state)) labels state := by
  induction labels generalizing state with
  | nil => exact ⟨ended,trivial⟩
  | cons label rest ih =>
    obtain ⟨next,along⟩ := ih ended
    exact ⟨kept label state next,next,along⟩

theorem Along.imp {first second : Label → State → Prop} (weaker : ∀ label state, first label state → second label state)
    {labels : List Label} {state : State} (along : Along step first labels state) : Along step second labels state := by
  induction labels generalizing state with
  | nil => trivial
  | cons label rest ih => exact ⟨weaker label state along.1,ih along.2⟩

theorem along_and {first second : Label → State → Prop} {labels : List Label} {state : State}
    (one : Along step first labels state) (other : Along step second labels state) :
    Along step (fun label state => first label state ∧ second label state) labels state := by
  induction labels generalizing state with
  | nil => trivial
  | cons label rest ih => exact ⟨⟨one.1,other.1⟩,ih one.2 other.2⟩

theorem along_append {condition : Label → State → Prop} {first second : List Label} {state : State} :
    Along step condition (first ++ second) state ↔
      Along step condition first state ∧ Along step condition second (after step first state) := by
  induction first generalizing state with
  | nil => exact (iff_of_eq (true_and _)).symm
  | cons label rest ih => exact (and_congr_right fun _ => ih).trans and_assoc.symm

theorem along_of_throughout {property : State → Prop} {labels : List Label} {state : State}
    (reached : Throughout step property labels state) :
    Along step (fun _ state => property state) labels state := by
  induction labels generalizing state with
  | nil => trivial
  | cons label rest ih =>
    obtain ⟨here,later⟩ := throughout_cons.mp reached
    exact ⟨here,ih later⟩

/-- The condition on a step in the middle of a run. -/
theorem along_at {condition : Label → State → Prop} {labels done todo : List Label} {label : Label} {state : State}
    (along : Along step condition labels state) (split : labels = done ++ label :: todo) :
    condition label (after step done state) := by
  induction done generalizing labels state with
  | nil =>
    subst split
    exact along.1
  | cons head rest ih =>
    subst split
    exact ih along.2 rfl

theorem throughout_and {first second : State → Prop} {labels : List Label} {state : State} :
    Throughout step (fun state => first state ∧ second state) labels state ↔
      Throughout step first labels state ∧ Throughout step second labels state := by
  constructor
  · intro both
    exact ⟨fun done todo split => (both done todo split).1,fun done todo split => (both done todo split).2⟩
  · intro both done todo split
    exact ⟨both.1 done todo split,both.2 done todo split⟩

/-- A property that holds at first holds throughout exactly when every step meets the
condition under which one step keeps it. -/
theorem throughout_iff_along {property : State → Prop} {allowed condition : Label → State → Prop}
    (exact : ∀ label state, property state → allowed label state →
      (property (step label state) ↔ condition label state))
    {labels : List Label} {state : State} (initially : property state)
    (along : Along step allowed labels state) :
    Throughout step property labels state ↔ Along step condition labels state := by
  induction labels generalizing state with
  | nil => simpa [throughout_nil,Along] using initially
  | cons label rest ih =>
    rw [throughout_cons]
    have here := exact label state initially along.1
    constructor
    · intro holds
      have next : property (step label state) := holds.2 [] rest rfl
      exact ⟨here.mp next,(ih next along.2).mp holds.2⟩
    · intro holds
      have next : property (step label state) := here.mpr holds.1
      exact ⟨initially,(ih next along.2).mpr holds.2⟩

/-- The same where an invariant carries the run, and the property alone does not. -/
theorem throughout_iff_along_of (invariant : State → Prop) {property : State → Prop}
    {condition : Label → State → Prop} (implies : ∀ state, invariant state → property state)
    (keeps : ∀ label state, invariant state → condition label state → invariant (step label state))
    (needs : ∀ label state, invariant state → property (step label state) → condition label state)
    {labels : List Label} {state : State} (initially : invariant state) :
    Throughout step property labels state ↔ Along step condition labels state := by
  induction labels generalizing state with
  | nil => simpa [throughout_nil,Along] using implies state initially
  | cons label rest ih =>
    rw [throughout_cons]
    constructor
    · rintro ⟨_,later⟩
      have here := needs label state initially (later [] rest rfl)
      exact ⟨here,(ih (keeps label state initially here)).mp later⟩
    · rintro ⟨here,later⟩
      exact ⟨implies state initially,(ih (keeps label state initially here)).mpr later⟩

end Runs
