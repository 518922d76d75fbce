import Irrigation.Library.Runs
import Mathlib.Logic.Function.Basic

/-! Programs of several tasks over a shared state, as sequences of labelled atomic steps, and
rely-guarantee reasoning about every interleaving of them. -/
namespace Resumptions

/-- What a task has still to do. A step reads the state that it finds, and acts on it. -/
inductive Code (Label Shared α : Type) where
  | done (value : α)
  | act (label : Label) (effect : Shared → Shared) (next : Shared → Code Label Shared α)

/-- The tasks' shared state, and what each has still to do. -/
structure Tasks (Task Label Shared α : Type) where
  shared : Shared
  code : Task → Code Label Shared α

section Codes

variable {Label Shared α β : Type}

def Code.bind : Code Label Shared α → (α → Code Label Shared β) → Code Label Shared β
  | .done value, rest => rest value
  | .act label effect next, rest => .act label effect fun shared => (next shared).bind rest

instance : Monad (Code Label Shared) where
  pure := .done
  bind := Code.bind

/-- The step that comes next. -/
def Code.pending : Code Label Shared α → Option Label
  | .done _ => none
  | .act label _ _ => some label

/-- A run that no other task steps into. -/
def Code.run : Code Label Shared α → Shared → α × Shared
  | .done value, shared => (value,shared)
  | .act _ effect next, shared => (next shared).run (effect shared)

@[simp] theorem Code.run_pure (value : α) (shared : Shared) :
    (pure value : Code Label Shared α).run shared = (value,shared) := rfl

@[simp] theorem Code.run_bind (code : Code Label Shared α) (rest : α → Code Label Shared β) (shared : Shared) :
    (code >>= rest).run shared = (rest (code.run shared).1).run (code.run shared).2 := by
  induction code generalizing shared with
  | done value => rfl
  | act label effect next ih => exact ih shared (effect shared)

end Codes

/-! ### Interleavings -/

section Interleavings

variable {Task Label Shared α : Type} [DecidableEq Task]

def step (task : Task) (tasks : Tasks Task Label Shared α) : Tasks Task Label Shared α :=
  match tasks.code task with
  | .done _ => tasks
  | .act _ effect next => ⟨effect tasks.shared,Function.update tasks.code task (next tasks.shared)⟩

/-- A condition on the steps that are taken, and the tasks before them. -/
def AtSteps (condition : Task → Label → Tasks Task Label Shared α → Prop) (task : Task)
    (tasks : Tasks Task Label Shared α) : Prop :=
  ∀ label, (tasks.code task).pending = some label → condition task label tasks

instance {condition : Task → Label → Tasks Task Label Shared α → Prop}
    [∀ task label tasks, Decidable (condition task label tasks)] (task : Task) (tasks : Tasks Task Label Shared α) :
    Decidable (AtSteps condition task tasks) :=
  decidable_of_iff (∀ label ∈ (tasks.code task).pending, condition task label tasks) Iff.rfl

end Interleavings

/-! ### Rely and guarantee -/

section Reasoning

variable {Task Label Shared α β : Type} (rely guarantee : Task → Label → Shared → Shared → Prop)

/-- Whatever the other tasks do before each step within what the task relies on, the step keeps
the task's guarantee, and the code ends as stated. -/
def Code.Meets (task : Task) (ends : α → Shared → Prop) : Code Label Shared α → Shared → Prop
  | .done value, shared => ends value shared
  | .act label effect next, shared => ∀ later, rely task label shared later →
      guarantee task label later (effect later) ∧ (next later).Meets task ends (effect later)

variable {rely guarantee} {task : Task} {ends : α → Shared → Prop} {shared : Shared}

theorem Code.Meets.pure {value : α} (ended : ends value shared) :
    (pure value : Code Label Shared α).Meets rely guarantee task ends shared := ended

theorem Code.Meets.bind {code : Code Label Shared α} {rest : α → Code Label Shared β} {between : α → Shared → Prop}
    {ends : β → Shared → Prop} (first : code.Meets rely guarantee task between shared)
    (second : ∀ value shared, between value shared → (rest value).Meets rely guarantee task ends shared) :
    (code >>= rest).Meets rely guarantee task ends shared := by
  induction code generalizing shared with
  | done value => exact second value shared first
  | act label effect next ih =>
    intro later relied
    obtain ⟨kept,rest⟩ := first later relied
    exact ⟨kept,ih later rest⟩

theorem Code.Meets.imp {code : Code Label Shared α} {weaker : α → Shared → Prop}
    (meets : code.Meets rely guarantee task ends shared) (more : ∀ value shared, ends value shared → weaker value shared) :
    code.Meets rely guarantee task weaker shared := by
  induction code generalizing shared with
  | done value => exact more value shared meets
  | act label effect next ih =>
    intro later relied
    obtain ⟨kept,rest⟩ := meets later relied
    exact ⟨kept,ih later rest⟩

/-- What others do within the reliance of the pending step does not matter. -/
theorem Code.Meets.later {code : Code Label Shared α} {after : Shared}
    (meets : code.Meets rely guarantee task (fun _ _ => True) shared)
    (trans : ∀ label first second third, rely task label first second → rely task label second third →
      rely task label first third)
    (relied : ∀ label, code.pending = some label → rely task label shared after) :
    code.Meets rely guarantee task (fun _ _ => True) after := by
  cases code with
  | done => trivial
  | act label effect next => exact fun later more => meets later (trans _ _ _ _ (relied label rfl) more)

variable [DecidableEq Task] {allowed : Task → Label → Tasks Task Label Shared α → Prop}

/-- The codes meet their guarantees. -/
def Sound (rely guarantee : Task → Label → Shared → Shared → Prop) (tasks : Tasks Task Label Shared α) : Prop :=
  ∀ task, (tasks.code task).Meets rely guarantee task (fun _ _ => True) tasks.shared

/-- A step of sound tasks keeps the guarantee of the task that takes it. -/
theorem Sound.guaranteed {tasks : Tasks Task Label Shared α} (sound : Sound rely guarantee tasks)
    (refl : ∀ task label shared, rely task label shared shared) (task : Task) :
    ∀ label, (tasks.code task).pending = some label → guarantee task label tasks.shared (step task tasks).shared := by
  intro label next
  have meets := sound task
  cases code : tasks.code task with
  | done value =>
    rw [code] at next
    contradiction
  | act first effect rest =>
    rw [code] at next meets
    cases next
    simp only [step,code]
    exact (meets tasks.shared (refl task label tasks.shared)).1

/-- An allowed step keeps all tasks sound, where its guarantee is within what the others rely on. -/
theorem Sound.step {tasks : Tasks Task Label Shared α} (sound : Sound rely guarantee tasks)
    (refl : ∀ task label shared, rely task label shared shared)
    (trans : ∀ task label first second third, rely task label first second → rely task label second third →
      rely task label first third)
    (compatible : ∀ task label tasks next, allowed task label tasks → guarantee task label tasks.shared next →
      ∀ other, other ≠ task → ∀ pending, (tasks.code other).pending = some pending →
        rely other pending tasks.shared next)
    (task : Task) (permitted : AtSteps allowed task tasks) : Sound rely guarantee (step task tasks) := by
  intro other
  have kept := sound.guaranteed refl task
  have meets := sound task
  cases code : tasks.code task with
  | done value =>
    simp only [Resumptions.step,code]
    exact sound other
  | act label effect rest =>
    simp only [Resumptions.step,code] at kept ⊢
    rw [code] at meets
    by_cases same : other = task
    · subst same
      simp only [Function.update_self]
      exact (meets tasks.shared (refl other label tasks.shared)).2
    · simp only [Function.update_of_ne same]
      refine (sound other).later (trans other) fun pending next => ?_
      exact compatible task label tasks _ (permitted label (by rw [code]; rfl)) (kept label rfl) other same pending next

/-- Along a run of allowed steps every step keeps its guarantee. -/
theorem guaranteed_along {tasks : Tasks Task Label Shared α} (sound : Sound rely guarantee tasks)
    (refl : ∀ task label shared, rely task label shared shared)
    (trans : ∀ task label first second third, rely task label first second → rely task label second third →
      rely task label first third)
    (compatible : ∀ task label tasks next, allowed task label tasks → guarantee task label tasks.shared next →
      ∀ other, other ≠ task → ∀ pending, (tasks.code other).pending = some pending →
        rely other pending tasks.shared next)
    {schedule : List Task} (along : Runs.Along step (AtSteps allowed) schedule tasks) :
    Runs.Along step (AtSteps fun task label tasks => guarantee task label tasks.shared (Resumptions.step task tasks).shared)
      schedule tasks := by
  have throughout := Runs.invariant_throughout (Sound rely guarantee)
    (fun task tasks sound permitted => sound.step refl trans compatible task permitted) sound along
  exact (Runs.along_of_throughout throughout).imp fun task tasks sound => sound.guaranteed refl task

/-- What each guarantee relates, a run relates. -/
theorem related_throughout (related : Shared → Shared → Prop) (refl : ∀ shared, related shared shared)
    (trans : ∀ first second third, related first second → related second third → related first third)
    {condition : Task → Label → Tasks Task Label Shared α → Prop}
    (steps : ∀ task label tasks, condition task label tasks → related tasks.shared (step task tasks).shared)
    {schedule : List Task} {tasks : Tasks Task Label Shared α} (along : Runs.Along step (AtSteps condition) schedule tasks) :
    Runs.Throughout step (fun later => related tasks.shared later.shared) schedule tasks := by
  refine Runs.invariant_throughout _ (fun task later reached met => ?_) (refl tasks.shared) along
  cases code : later.code task with
  | done value =>
    simp only [step,code]
    exact reached
  | act label effect rest => exact trans _ _ _ reached (steps task label later (met label (by rw [code]; rfl)))

end Reasoning

end Resumptions
