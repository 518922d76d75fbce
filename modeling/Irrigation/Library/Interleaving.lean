import Irrigation.Library.Runs
import Mathlib.Logic.Function.Basic

/-! Tasks that call operations of a shared state. A call tests the state in one step and acts
on it in a later one; any other task may step in between. -/
namespace Interleaving

universe u v w

/-- The shared state, and the call of each task that passed its test and has yet to act. -/
structure State (Task : Type u) (Call : Type v) (Shared : Type w) where
  shared : Shared
  pending : Task → Option Call

inductive Step (Task : Type u) (Call : Type v) where
  | check (task : Task) (call : Call)
  | body (task : Task)

/-- No call is pending. -/
def State.of {Task : Type u} {Call : Type v} {Shared : Type w} (shared : Shared) : State Task Call Shared :=
  ⟨shared,fun _ => none⟩

variable {Task : Type u} [DecidableEq Task] {Call : Type v} {Shared : Type w}
  (admits : Call → Shared → Bool) (body : Call → Shared → Shared)

/-- A task tests one call at a time; a call that fails its test is over. -/
def step : Step Task Call → State Task Call Shared → State Task Call Shared
  | .check task call, state =>
    match state.pending task with
    | some _ => state
    | none =>
      if admits call state.shared then { state with pending := Function.update state.pending task (some call) }
      else state
  | .body task, state =>
    match state.pending task with
    | none => state
    | some call => ⟨body call state.shared,Function.update state.pending task none⟩

/-- A condition on the calls that act and the shared states that they act on. -/
def AtBodies (condition : Call → Shared → Prop) : Step Task Call → State Task Call Shared → Prop
  | .check _ _, _ => True
  | .body task, state => ∀ call, state.pending task = some call → condition call state.shared

/-- An invariant of the shared state, with what every pending call may still rely on. -/
structure Sound (invariant : Shared → Prop) (holds : Call → Shared → Prop) (state : State Task Call Shared) : Prop where
  shared : invariant state.shared
  pending : ∀ task call, state.pending task = some call → holds call state.shared

variable {admits body} {invariant property : Shared → Prop} {holds condition : Call → Shared → Prop}

omit [DecidableEq Task] in
theorem Sound.of {shared : Shared} (initially : invariant shared) :
    Sound invariant holds (State.of shared : State Task Call Shared) := ⟨initially,nofun⟩

/-- Tests and bodies keep the invariant and what the pending calls rely on. -/
theorem Sound.step {state : State Task Call Shared} (sound : Sound invariant holds state) (label : Step Task Call)
    (admitted : ∀ call shared, invariant shared → admits call shared = true → holds call shared)
    (keeps : ∀ call shared, invariant shared → holds call shared → condition call shared →
      invariant (body call shared) ∧ ∀ other, holds other shared → holds other (body call shared))
    (allowed : AtBodies condition label state) : Sound invariant holds (step admits body label state) := by
  cases label with
  | check task call =>
    simp only [Interleaving.step]
    split
    · exact sound
    · split
      · rename_i passes
        refine ⟨sound.shared,fun other called waiting => ?_⟩
        by_cases same : other = task
        · subst same
          simp only [Function.update_self,Option.some_inj] at waiting
          subst waiting
          exact admitted call state.shared sound.shared passes
        · simp only [Function.update_of_ne same] at waiting
          exact sound.pending other called waiting
      · exact sound
  | body task =>
    cases waiting : state.pending task with
    | none =>
      simp only [Interleaving.step,waiting]
      exact sound
    | some call =>
      obtain ⟨kept,others⟩ := keeps call state.shared sound.shared (sound.pending task call waiting)
        (allowed call waiting)
      simp only [Interleaving.step,waiting]
      refine ⟨kept,fun other called later => ?_⟩
      by_cases same : other = task
      · subst same
        simp [Function.update_self] at later
      · simp only [Function.update_of_ne same] at later
        exact others called (sound.pending other called later)

/-- In a run whose bodies meet the condition the invariant holds throughout. -/
theorem sound_throughout {state : State Task Call Shared} (sound : Sound invariant holds state)
    (admitted : ∀ call shared, invariant shared → admits call shared = true → holds call shared)
    (keeps : ∀ call shared, invariant shared → holds call shared → condition call shared →
      invariant (body call shared) ∧ ∀ other, holds other shared → holds other (body call shared))
    {labels : List (Step Task Call)} (along : Runs.Along (step admits body) (AtBodies condition) labels state) :
    Runs.Throughout (step admits body) (Sound invariant holds) labels state :=
  Runs.invariant_throughout _ (fun label _ sound allowed => sound.step label admitted keeps allowed) sound along

/-- A property of the shared state holds throughout a run exactly when every body meets the
condition under which a body keeps it. -/
theorem throughout_iff {state : State Task Call Shared} (sound : Sound invariant holds state)
    (admitted : ∀ call shared, invariant shared → admits call shared = true → holds call shared)
    (implies : ∀ shared, invariant shared → property shared)
    (keeps : ∀ call shared, invariant shared → holds call shared → condition call shared →
      invariant (body call shared) ∧ ∀ other, holds other shared → holds other (body call shared))
    (needs : ∀ call shared, invariant shared → holds call shared → property (body call shared) → condition call shared)
    (labels : List (Step Task Call)) :
    Runs.Throughout (step admits body) (fun state => property state.shared) labels state ↔
      Runs.Along (step admits body) (AtBodies condition) labels state := by
  refine Runs.throughout_iff_along_of (Sound invariant holds) (fun state sound => implies _ sound.shared)
    (fun label state sound allowed => sound.step label admitted keeps allowed) ?_ sound
  intro label state sound kept
  cases label with
  | check => trivial
  | body task =>
    intro call waiting
    simp only [Interleaving.step,waiting] at kept
    exact needs call state.shared sound.shared (sound.pending task call waiting) kept

theorem along_bodies_imp {first second : Call → Shared → Prop} (weaker : ∀ call shared, first call shared → second call shared)
    {labels : List (Step Task Call)} {state : State Task Call Shared}
    (along : Runs.Along (step admits body) (AtBodies first) labels state) :
    Runs.Along (step admits body) (AtBodies second) labels state := by
  refine along.imp fun label state met => ?_
  cases label with
  | check => trivial
  | body => exact fun call waiting => weaker call state.shared (met call waiting)

/-- Conditions that agree are met by the bodies of the same runs. -/
theorem along_bodies_congr {first second : Call → Shared → Prop} (agree : ∀ call shared, first call shared ↔ second call shared)
    (labels : List (Step Task Call)) (state : State Task Call Shared) :
    Runs.Along (step admits body) (AtBodies first) labels state ↔
      Runs.Along (step admits body) (AtBodies second) labels state :=
  ⟨along_bodies_imp fun call shared => (agree call shared).mp,along_bodies_imp fun call shared => (agree call shared).mpr⟩

end Interleaving
