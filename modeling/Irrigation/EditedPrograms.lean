import Irrigation.ConfigurationRollback
import Irrigation.ExecutionCalls

/-! Edits of the configuration by the web server while the scheduler's task runs programs. A
handler tests that no program is active and edits in a later step; a runtime program is
rewritten in the slot that a running program points to. -/
namespace Irrigation

open KeyedSlots

/-! ### The slot of a running program -/

section Slots

variable {ε σ : Type} {device : Repository.ConfigurationRepositoryStorage σ} {manager : ConfigurationManager}
  {candidate : IrrigationConfiguration} {system next : ManagedSystem ε σ} {slot : Fin irrigationMaxPrograms}

/-- A slot in use shows the live program of its id. -/
theorem Faithful.shown (faithful : Faithful manager) (used : manager.views.programs.used slot = true) :
    ∃ program ∈ manager.configuration.live.programs, program.programId = manager.views.programs.key slot ∧
      manager.views.programs.value slot = program.runtime := by
  obtain ⟨entry,member,named,stored⟩ := faithful.tracks.programs.value_of_used used
  obtain ⟨configured,live,rfl⟩ := List.mem_map.mp member
  rw [programEntry_valid faithful.live live] at named stored
  exact ⟨configured.live,List.mem_map_of_mem live,named,stored⟩

/-- In a valid configuration an id belongs to one program. -/
theorem LiveConfiguration.Valid.program_eq {boardZones : List Zone} {live : LiveConfiguration}
    (valid : live.Valid boardZones) {first second : LiveProgram} (one : first ∈ live.programs)
    (other : second ∈ live.programs) (same : first.programId = second.programId) : first = second :=
  List.inj_on_of_nodup_map valid.programsDistinct one other same

/-- The slot of an id that the candidate has keeps its id. -/
theorem candidateViews_kept (faithful : Faithful system.manager)
    (valid : irrigationConfigurationValidate candidate system.manager.boardZones = .ok)
    (fits : Fits system.manager.configuration.live candidate.live)
    (used : system.manager.views.programs.used slot = true)
    (after : system.manager.views.programs.key slot ∈ programIds candidate.live) :
    (candidateViews system.manager candidate).programs.used slot = true ∧
      (candidateViews system.manager candidate).programs.key slot = system.manager.views.programs.key slot := by
  have before : system.manager.views.programs.key slot ∈ programIds system.manager.configuration.live := by
    rw [← faithful.programKeys]
    exact Slots.mem_keys.mpr ⟨slot,used,rfl⟩
  have found : programSlotForId system.manager.views (system.manager.views.programs.key slot) = some slot :=
    (Slots.slotForKey_eq_some_iff faithful.tracks.programs.distinct).mpr ⟨used,rfl⟩
  have kept := candidateViews_programSlot faithful valid fits before after
  rw [found] at kept
  exact Slots.slotForKey_some kept

/-- A candidate's program is shown in the slot of its id. -/
theorem candidateViews_shown (faithful : Faithful system.manager)
    (valid : irrigationConfigurationValidate candidate system.manager.boardZones = .ok)
    (fits : Fits system.manager.configuration.live candidate.live)
    (used : system.manager.views.programs.used slot = true) {program : LiveProgram}
    (member : program ∈ candidate.live.programs) (named : program.programId = system.manager.views.programs.key slot) :
    (candidateViews system.manager candidate).programs.value slot = program.runtime := by
  have after : system.manager.views.programs.key slot ∈ programIds candidate.live :=
    List.mem_toFinset.mpr (List.mem_map.mpr ⟨program,member,named⟩)
  obtain ⟨still,key⟩ := candidateViews_kept faithful valid fits used after
  obtain ⟨shown,present,shownNamed,value⟩ := (faithful.replaced valid fits).shown still
  have same := ((validate_ok_iff _ _).mp valid).2.program_eq present member
    (shownNamed.trans (key.trans named.symm))
  exact value.trans (by rw [same])

/-- The edit is taken on, and configures the slot's id otherwise than the slot shows it. -/
def Rewrites (device : Repository.ConfigurationRepositoryStorage σ) (mutation : Mutation)
    (slot : Fin irrigationMaxPrograms) (system : ManagedSystem ε σ) : Prop :=
  ∃ candidate, mutation.prepare system.manager.configuration = .ok candidate ∧
    irrigationConfigurationValidate candidate system.manager.boardZones = .ok ∧ Persists device candidate system ∧
    ∃ program ∈ candidate.live.programs, program.programId = system.manager.views.programs.key slot ∧
      program.runtime ≠ system.world.memory.program slot

/-- What a replacement leaves of the execution: its state and the program pointer. -/
structure SameExecution (world next : World ε) : Prop where
  state : next.store.program = world.store.program
  program : next.program = world.program

theorem Offered.sameExecution {world next : World ε} {entries : List SchedulerEntry} {answer : IrrigationResult}
    (offered : Offered world entries answer next) : SameExecution world next := by
  cases offered with
  | refused => exact ⟨rfl,rfl⟩
  | taken _ reconfigured =>
    obtain ⟨scheduler,rfl⟩ := reconfigured.taken
    exact ⟨rfl,rfl⟩

theorem Replacing.sameExecution {result : IrrigationResult} (replacing : Replacing device candidate system result next) :
    SameExecution system.world next.world := by
  cases replacing with
  | installed _ taken =>
    have same := taken.sameExecution
    exact ⟨same.state,same.program⟩
  | restored _ offered taken =>
    have first := offered.sameExecution
    have second := taken.sameExecution
    exact ⟨second.state.trans first.state,second.program.trans first.program⟩

variable (device) in
theorem mutate_sameExecution (mirrored : Mirrored system) (mutation : Mutation) :
    SameExecution system.world (mutate device mutation system).2.world := by
  rcases mutate_replacing device mirrored mutation with ⟨_,_,run,_⟩ | ⟨_,_,_,replacing⟩
  · rw [run]
    exact ⟨rfl,rfl⟩
  · exact replacing.sameExecution

/-- A failed edit that kept the slot's id leaves the slot its id. -/
theorem restoredViews_kept (faithful : Faithful system.manager)
    (valid : irrigationConfigurationValidate candidate system.manager.boardZones = .ok)
    (fits : Fits system.manager.configuration.live candidate.live)
    (used : system.manager.views.programs.used slot = true)
    (after : system.manager.views.programs.key slot ∈ programIds candidate.live) :
    (restoredViews system.manager candidate).programs.used slot = true ∧
      (restoredViews system.manager candidate).programs.key slot = system.manager.views.programs.key slot := by
  have restored : Faithful { system.manager with views := restoredViews system.manager candidate } :=
    ⟨faithful.valid,faithful.back valid⟩
  obtain ⟨still,key⟩ := candidateViews_kept faithful valid fits used after
  have refilled := ((faithful.rebuildingBack valid).refilled faithful.live).1
  have distinct := (faithful.replaced valid fits).tracks.programs.distinct
  have live : system.manager.views.programs.key slot ∈ (restoredViews system.manager candidate).programs.keys := by
    rw [restored.programKeys,← faithful.programKeys]
    exact Slots.mem_keys.mpr ⟨slot,used,rfl⟩
  exact Slots.slotForKey_some (refilled.stable distinct ((Slots.slotForKey_eq_some_iff distinct).mpr ⟨still,key⟩) live)

/-- A failed edit that kept the slot's id leaves the slot as it was. -/
theorem restoredViews_shown (faithful : Faithful system.manager)
    (valid : irrigationConfigurationValidate candidate system.manager.boardZones = .ok)
    (fits : Fits system.manager.configuration.live candidate.live)
    (used : system.manager.views.programs.used slot = true)
    (after : system.manager.views.programs.key slot ∈ programIds candidate.live) :
    (restoredViews system.manager candidate).programs.value slot = system.manager.views.programs.value slot := by
  have restored : Faithful { system.manager with views := restoredViews system.manager candidate } :=
    ⟨faithful.valid,faithful.back valid⟩
  obtain ⟨program,member,named,value⟩ := faithful.shown used
  obtain ⟨stillUsed,stillNamed⟩ := restoredViews_kept faithful valid fits used after
  obtain ⟨other,otherMember,otherNamed,shown⟩ := restored.shown stillUsed
  have same := faithful.live.program_eq otherMember member (otherNamed.trans (stillNamed.trans named.symm))
  exact shown.trans (by rw [value,same])

/-! ### Edits -/

/-- What the handlers of the web server save and delete. -/
inductive ProgramEdit where
  | save (programIndex : Option Nat) (displayName : CString) (steps : List IrrigationProgramStepConfiguration)
  | delete (programIndex : Nat)
  deriving DecidableEq, Repr

def ProgramEdit.mutation : ProgramEdit → Mutation
  | .save none displayName steps => .createProgram (some displayName) (some steps)
  | .save (some programIndex) displayName steps => .updateProgram programIndex (some displayName) (some steps)
  | .delete programIndex => .deleteProgram programIndex

theorem ProgramEdit.incremental (edit : ProgramEdit) (candidate : Option IrrigationConfiguration) :
    edit.mutation ≠ .replace candidate := by
  cases edit with
  | save programIndex => cases programIndex <;> simp [ProgramEdit.mutation]
  | delete => simp [ProgramEdit.mutation]

/-- Edits of programs leave the schedules alone. -/
theorem ProgramEdit.schedules (edit : ProgramEdit) {configuration : IrrigationConfiguration}
    (prepared : edit.mutation.prepare configuration = .ok candidate) :
    candidate.live.schedules = configuration.live.schedules := by
  have saved : ∀ programIndex displayName steps,
      saveProgram configuration programIndex displayName steps = .ok candidate →
        candidate.live.schedules = configuration.live.schedules := by
    intro programIndex displayName steps prepared
    unfold saveProgram at prepared
    repeat' split at prepared
    all_goals cases prepared
    all_goals rfl
  cases edit with
  | save programIndex displayName steps =>
    cases programIndex with
    | none =>
      change saveProgram configuration none (some displayName) (some steps) = .ok candidate at prepared
      exact saved _ _ _ prepared
    | some programIndex =>
      change saveProgram configuration (some programIndex) (some displayName) (some steps) = .ok candidate at prepared
      exact saved _ _ _ prepared
  | delete programIndex =>
    change deleteProgram configuration programIndex = .ok candidate at prepared
    unfold deleteProgram at prepared
    repeat' split at prepared
    all_goals cases prepared
    rfl

/-- A used slot whose program a schedule of the live configuration names. -/
structure Scheduled (manager : ConfigurationManager) (slot : Fin irrigationMaxPrograms) : Prop where
  used : manager.views.programs.used slot = true
  named : ∃ schedule ∈ manager.configuration.live.schedules, schedule.programId = manager.views.programs.key slot

/-- A valid candidate of an edit has the programs that schedules name. -/
theorem Scheduled.kept (scheduled : Scheduled system.manager slot) {edit : ProgramEdit}
    (prepared : edit.mutation.prepare system.manager.configuration = .ok candidate)
    (valid : irrigationConfigurationValidate candidate system.manager.boardZones = .ok) :
    system.manager.views.programs.key slot ∈ programIds candidate.live := by
  obtain ⟨schedule,member,named⟩ := scheduled.named
  rw [← edit.schedules prepared] at member
  obtain ⟨program,present,same⟩ := (((validate_ok_iff _ _).mp valid).2.schedules schedule member).program
  exact List.mem_toFinset.mpr (List.mem_map.mpr ⟨program,present,same.trans named⟩)

/-- An edit leaves a scheduled program as it is exactly when it does not rewrite it. -/
theorem mutate_program_iff (edit : ProgramEdit) (mirrored : Mirrored system) (scheduled : Scheduled system.manager slot) :
    (mutate device edit.mutation system).2.world.memory.program slot = system.world.memory.program slot ↔
      ¬Rewrites device edit.mutation slot system := by
  have faithful := mirrored.faithful
  have linked : system.world.memory.program slot = system.manager.views.programs.value slot := by
    rw [mirrored.linked,RuntimeViews.memory_program]
  rcases mutate_replacing device mirrored edit.mutation with ⟨_,_,run,invalid⟩ | ⟨candidate,prepared,valid,replacing⟩
  · rw [run]
    apply iff_of_true rfl
    rintro ⟨candidate,prepared,valid,_⟩
    exact invalid candidate prepared valid
  · have fits := prepared_fits faithful prepared valid edit.incremental
    have after := scheduled.kept prepared valid
    generalize (mutate device edit.mutation system).2 = next at replacing
    generalize (mutate device edit.mutation system).1 = result at replacing
    cases replacing with
    | @installed tried _ persists taken =>
      have shown : tried.unlocked.memory.program slot = (candidateViews system.manager candidate).programs.value slot := by
        rw [← RuntimeViews.memory_program]
        exact congrArg (fun memory => memory.program slot.val) taken.memory
      rw [shown]
      constructor
      · rintro same ⟨other,otherPrepared,_,_,program,member,named,different⟩
        rw [prepared] at otherPrepared
        cases otherPrepared
        exact different ((candidateViews_shown faithful valid fits scheduled.used member named).symm.trans same)
      · intro kept
        obtain ⟨program,member,named⟩ := List.mem_map.mp (List.mem_toFinset.mp after)
        rw [candidateViews_shown faithful valid fits scheduled.used member named]
        by_contra different
        exact kept ⟨candidate,prepared,valid,persists,program,member,named,different⟩
    | @restored answer _ back _ failed offered taken =>
      have shown : back.unlocked.memory.program slot = (restoredViews system.manager candidate).programs.value slot := by
        rw [← RuntimeViews.memory_program]
        exact congrArg (fun memory => memory.program slot.val) taken.memory
      have unsaved : ¬Persists device candidate system :=
        failed ((offered_ok_iff offered).mpr (candidateTaken_of_fits faithful valid fits))
      refine iff_of_true ?_ ?_
      · rw [shown,linked,restoredViews_shown faithful valid fits scheduled.used after]
      · rintro ⟨other,otherPrepared,_,persists,_⟩
        rw [prepared] at otherPrepared
        cases otherPrepared
        exact unsaved persists

/-- An edit keeps the slot, and its id, of a scheduled program. -/
theorem Scheduled.edited (scheduled : Scheduled system.manager slot) (mirrored : Mirrored system) (edit : ProgramEdit) :
    Scheduled (mutate device edit.mutation system).2.manager slot := by
  have faithful := mirrored.faithful
  rcases mutate_replacing device mirrored edit.mutation with ⟨_,_,run,_⟩ | ⟨candidate,prepared,valid,replacing⟩
  · rw [run]
    exact scheduled
  · have fits := prepared_fits faithful prepared valid edit.incremental
    have after := scheduled.kept prepared valid
    obtain ⟨schedule,member,named⟩ := scheduled.named
    generalize (mutate device edit.mutation system).1 = result at replacing
    generalize (mutate device edit.mutation system).2 = next at replacing ⊢
    cases replacing with
    | installed =>
      obtain ⟨used,key⟩ := candidateViews_kept faithful valid fits scheduled.used after
      refine ⟨used,schedule,?_,named.trans key.symm⟩
      rw [edit.schedules prepared]
      exact member
    | restored =>
      obtain ⟨used,key⟩ := restoredViews_kept faithful valid fits scheduled.used after
      exact ⟨used,schedule,member,named.trans key.symm⟩

end Slots

/-! ### Runs of the two tasks -/

/-- The zone of the current step: a poll opens it when it enters the step, and closes it when
the step is over. -/
def World.stepZone {ε : Type} (world : World ε) : Option CString :=
  (world.currentProgram.step world.store.program.currentStepIndex).zoneId

/-- An execution starts. -/
def startsExecution (before after : RuntimeState) : Bool := !programIsActive before && programIsActive after

/-- An execution enters a step. -/
def entersStep (before after : RuntimeState) : Bool :=
  after.program.state = .runningZone &&
    !(before.program.state = .runningZone && before.program.currentStepIndex = after.program.currentStepIndex)

/-- The system, what the running program was when its execution started, and the zone that was
opened for its current step. -/
structure ObservedExecution (ε σ : Type) where
  system : ManagedSystem ε σ
  started : Option Program
  opened : Option CString

inductive EditCall where
  | edit (edit : ProgramEdit)
  | tick (now : SchedulerTime)
  | poll
  deriving DecidableEq, Repr

section Runs

variable {ε σ : Type} (device : Repository.ConfigurationRepositoryStorage σ) (drivers : Drivers ε)

/-- The handlers edit only while no program is active. -/
def EditCall.admitted (call : EditCall) (execution : ObservedExecution ε σ) : Bool :=
  match call with
  | .edit _ => !programIsActive execution.system.world.store
  | .tick _ | .poll => true

/-- An operation of the scheduler's task. -/
def ObservedExecution.operate (execution : ObservedExecution ε σ) (command : Command) : ObservedExecution ε σ :=
  let before := execution.system.world
  let after := Irrigation.operate drivers command before
  { system := { execution.system with world := after }
    started := if startsExecution before.store after.store then some after.currentProgram else execution.started
    opened := if entersStep before.store after.store then after.stepZone else execution.opened }

def EditCall.body (call : EditCall) (execution : ObservedExecution ε σ) : ObservedExecution ε σ :=
  match call with
  | .edit requested => { execution with system := (mutate device requested.mutation execution.system).2 }
  | .tick now => execution.operate drivers (.schedulerProcess now)
  | .poll => execution.operate drivers .programProcess

/-- A run of the handlers' edits, the scheduler's ticks and the polls. -/
abbrev editStep : Interleaving.Step ExecutionTask EditCall →
    Interleaving.State ExecutionTask EditCall (ObservedExecution ε σ) →
    Interleaving.State ExecutionTask EditCall (ObservedExecution ε σ) :=
  Interleaving.step EditCall.admitted (EditCall.body device drivers)

/-- The running program is what it was at the start, and the zone that ends its step is the one
that was opened for it. -/
structure Unedited (execution : ObservedExecution ε σ) : Prop where
  program : programIsActive execution.system.world.store = true →
    execution.started = some execution.system.world.currentProgram
  zone : execution.system.world.store.program.state = .runningZone →
    execution.opened = execution.system.world.stepZone

/-- The edit of the call does not rewrite the program that is running. -/
def SparesRunning (call : EditCall) (execution : ObservedExecution ε σ) : Prop :=
  match call with
  | .edit requested => programIsActive execution.system.world.store = true → ∀ slot : Fin irrigationMaxPrograms,
      execution.system.world.program = some slot.val → ¬Rewrites device requested.mutation slot execution.system
  | .tick _ | .poll => True

/-- The running program is in the slot of a program that a schedule names. -/
def Placed (system : ManagedSystem ε σ) : Prop :=
  ∃ slot : Fin irrigationMaxPrograms, system.world.program = some slot.val ∧ Scheduled system.manager slot

end Runs

/-! ### Ticks and polls -/

/-- What an operation of the scheduler's task leaves alone, and where a program that it starts
comes from. -/
structure Operated {ε : Type} (before after : World ε) (handled : List SchedulerEntry) : Prop where
  memory : after.memory = before.memory
  entries : after.entries = before.entries
  program : programIsActive before.store = true → after.program = before.program
  starts : startsExecution before.store after.store = true → ∃ entry ∈ handled, ∃ address,
    entry.program = some address ∧ after.program = some address

section Operations

variable {ε : Type} {drivers : Drivers ε} {world middle next : World ε} {entry : SchedulerEntry}
  {entries : List SchedulerEntry} {issued : List DriverCall}

theorem startsExecution_iff {before after : RuntimeState} : startsExecution before after = true ↔
    programIsActive before = false ∧ programIsActive after = true := by
  simp [startsExecution]

theorem EntryHandling.operated (handling : EntryHandling drivers world entry issued next) :
    Operated world next [entry] := by
  cases handling with
  | passed _ stored back =>
    refine ⟨back.memory,back.entries,fun _ => back.program,fun starts => ?_⟩
    obtain ⟨idle,active⟩ := startsExecution_iff.mp starts
    rw [stored] at active
    exact absurd (idle.symm.trans active) (by simp)
  | @started address named _ inactive _ _ _ _ _ _ _ back =>
    refine ⟨back.memory,back.entries,fun active => absurd (inactive.symm.trans active) (by simp),fun _ => ?_⟩
    exact ⟨entry,List.mem_singleton_self entry,address,named,back.program⟩

/-- Handling an entry leaves an active program active. -/
theorem EntryHandling.ongoing (handling : EntryHandling drivers world entry issued next)
    (active : programIsActive world.store = true) : programIsActive next.store = true := by
  cases handling with
  | passed _ stored =>
    rw [stored]
    exact active
  | started _ _ inactive => exact absurd (inactive.symm.trans active) (by simp)

theorem EntriesHandling.operated (handling : EntriesHandling drivers world entries issued next) :
    Operated world next entries := by
  induction handling with
  | done => exact ⟨rfl,rfl,fun _ => rfl,fun starts => by simp [startsExecution] at starts⟩
  | @next world middle final entry rest _ _ handling _ ih =>
    have first := handling.operated
    refine ⟨ih.memory.trans first.memory,ih.entries.trans first.entries,fun active => ?_,fun starts => ?_⟩
    · exact (ih.program (handling.ongoing active)).trans (first.program active)
    · obtain ⟨idle,active⟩ := startsExecution_iff.mp starts
      cases between : programIsActive middle.store with
      | true =>
        obtain ⟨source,member,address,named,set⟩ := first.starts (startsExecution_iff.mpr ⟨idle,between⟩)
        cases List.mem_singleton.mp member
        exact ⟨entry,List.mem_cons_self,address,named,(ih.program between).trans set⟩
      | false =>
        obtain ⟨source,member,address,named,set⟩ := ih.starts (startsExecution_iff.mpr ⟨between,active⟩)
        exact ⟨source,List.mem_cons_of_mem _ member,address,named,set⟩

theorem mem_of_dueEntries {state : RuntimeState} {now : SchedulerTime} {index : Nat}
    (due : entry ∈ dueEntries state now index entries) : entry ∈ entries := by
  induction entries generalizing index with
  | nil => exact due
  | cons first rest ih =>
    simp only [dueEntries] at due
    split at due
    · rcases List.mem_cons.mp due with rfl | later
      · exact List.mem_cons_self
      · exact List.mem_cons_of_mem _ (ih later)
    · exact List.mem_cons_of_mem _ (ih due)

variable (drivers) in
theorem tick_operated (now : SchedulerTime) (world : World ε) :
    Operated world (operate drivers (.schedulerProcess now) world) world.entries := by
  obtain ⟨issued,next,handling,run⟩ := schedulerServiceProcess_cases drivers now world
  have handled := handling.operated
  have same : operate drivers (.schedulerProcess now) world = _ := run
  rw [same]
  refine ⟨handled.memory,handled.entries,handled.program,fun starts => ?_⟩
  obtain ⟨entry,member,started⟩ := handled.starts starts
  refine ⟨entry,?_,started⟩
  split at member
  · exact mem_of_dueEntries member
  · contradiction

variable (drivers) in
/-- A poll starts no execution. -/
theorem poll_operated (world : World ε) :
    Operated world (operate drivers .programProcess world) world.entries := by
  obtain ⟨issued,processing,trace⟩ := programServiceProcess_cases drivers world
  refine ⟨trace.memory,trace.entries,fun _ => trace.program,fun starts => ?_⟩
  obtain ⟨idle,active⟩ := startsExecution_iff.mp starts
  have same : (operate drivers .programProcess world).store = world.store := processing.inactive_eq idle
  rw [same,idle] at active
  contradiction

theorem StepOpening.enters {store next : RuntimeState} {stepIndex : Nat} {step : ProgramStep} {reads : UInt64 → Prop}
    (opening : StepOpening store stepIndex step reads issued next) (running : next.program.state = .runningZone) :
    next.program.currentStepIndex = stepIndex ∧ ∃ calls after,
      ZoneOpening store step.zoneId step.durationMs reads .ok calls after := by
  cases opening with
  | opened opening => exact ⟨rfl,_,_,opening⟩
  | failed _ _ exit => exact absurd (exit.fault.symm.trans running) (by decide)

/-- A poll that enters a step has opened the zone of this step. -/
theorem ProgramProcessing.enters {store next : RuntimeState} {program : Program} {nowMs : UInt64}
    {reads : UInt64 → Prop} (processing : ProgramProcessing store program nowMs reads issued next)
    (enters : entersStep store next = true) : ∃ before after calls,
      ZoneOpening before (program.step next.program.currentStepIndex).zoneId
        (program.step next.program.currentStepIndex).durationMs reads .ok calls after := by
  have running : next.program.state = .runningZone := by
    simp only [entersStep,Bool.and_eq_true,decide_eq_true_eq] at enters
    exact enters.1
  have moved : next ≠ store := by
    rintro rfl
    simp [entersStep,running] at enters
  cases processing with
  | inactive | running | delaying => exact absurd rfl moved
  | waiting state =>
    rw [masterTimed_program,state] at running
    contradiction
  | masterFault _ _ exit | closeFailed _ _ _ _ exit => exact absurd (exit.fault.symm.trans running) (by decide)
  | entering _ _ opening | advancing _ _ _ _ opening =>
    obtain ⟨index,calls,after,opened⟩ := opening.enters running
    rw [index]
    exact ⟨_,after,calls,opened⟩
  | finishing => contradiction
  | completed => contradiction

/-- A poll that leaves a step has closed, or tried to close, the zone of this step. -/
theorem ProgramProcessing.leaves {store next : RuntimeState} {program : Program} {nowMs : UInt64}
    {reads : UInt64 → Prop} (processing : ProgramProcessing store program nowMs reads issued next)
    (running : store.program.state = .runningZone) (left : next.program ≠ store.program) : ∃ result calls after,
      ZoneClosing store (program.step store.program.currentStepIndex).zoneId result calls after := by
  cases processing with
  | inactive | running | delaying => exact absurd rfl left
  | waiting state | masterFault state | entering state | completed state =>
    exact absurd (running.symm.trans state) (by decide)
  | closeFailed _ _ closing | advancing _ _ closing | finishing _ _ closing => exact ⟨_,_,_,closing⟩

end Operations

/-! ### Edits spare the running program -/

section Spared

variable {ε σ : Type} {device : Repository.ConfigurationRepositoryStorage σ} {drivers : Drivers ε}
  {execution : ObservedExecution ε σ} {system : ManagedSystem ε σ}

/-- The entries that a mirrored system's scheduler runs point to programs that schedules name. -/
theorem Mirrored.entry_placed (mirrored : Mirrored system) {entry : SchedulerEntry} {address : ProgramAddress}
    (member : entry ∈ system.world.entries) (named : entry.program = some address) :
    ∃ slot : Fin irrigationMaxPrograms, address = slot.val ∧ Scheduled system.manager slot := by
  rw [mirrored.entries,RuntimeViews.entries,List.mem_map] at member
  obtain ⟨index,inside,rfl⟩ := member
  rw [List.mem_range,← liveSchedules_length mirrored.faithful.valid] at inside
  obtain ⟨textSlot,slot,_,found,written⟩ := mirrored.faithful.tracks.schedules index _ (List.getElem?_eq_getElem inside)
  rw [written] at named
  obtain ⟨used,key⟩ := Slots.slotForKey_some found
  exact ⟨slot,(Option.some.inj named).symm,used,_,List.getElem_mem inside,key.symm⟩

theorem Operated.mirrored {after : World ε} {handled : List SchedulerEntry}
    (operated : Operated system.world after handled) (mirrored : Mirrored system) :
    Mirrored { system with world := after } :=
  ⟨mirrored.faithful,mirrored.bound,operated.memory.trans mirrored.linked,operated.entries.trans mirrored.entries⟩

/-- What a tick starts runs a scheduled program; what runs already stays where it is. -/
theorem Operated.placed {after : World ε} (operated : Operated system.world after system.world.entries)
    (mirrored : Mirrored system) (placed : programIsActive system.world.store = true → Placed system)
    (active : programIsActive after.store = true) : Placed { system with world := after } := by
  cases before : programIsActive system.world.store with
  | true =>
    obtain ⟨slot,running,scheduled⟩ := placed before
    exact ⟨slot,(operated.program before).trans running,scheduled⟩
  | false =>
    obtain ⟨entry,member,address,named,running⟩ := operated.starts (startsExecution_iff.mpr ⟨before,active⟩)
    obtain ⟨slot,rfl,scheduled⟩ := mirrored.entry_placed member named
    exact ⟨slot,running,scheduled⟩

theorem Operated.currentProgram {before after : World ε} {handled : List SchedulerEntry}
    (operated : Operated before after handled) (active : programIsActive before.store = true) :
    after.currentProgram = before.currentProgram := by
  simp only [World.currentProgram,operated.memory,operated.program active]

/-- Operations of the scheduler's task leave the running program as it is. -/
theorem Unedited.operated (unedited : Unedited execution) {command : Command} {handled : List SchedulerEntry}
    (operated : Operated execution.system.world (operate drivers command execution.system.world) handled) :
    Unedited (execution.operate drivers command) := by
  refine ⟨fun active => ?_,fun running => ?_⟩
  · simp only [ObservedExecution.operate]
    split
    · rfl
    · rename_i ongoing
      have before : programIsActive execution.system.world.store = true := by
        by_contra idle
        exact ongoing (startsExecution_iff.mpr ⟨by simpa using idle,active⟩)
      rw [operated.currentProgram before]
      exact unedited.program before
  · simp only [ObservedExecution.operate]
    split
    · rfl
    · rename_i stays
      have same : execution.system.world.store.program.state = .runningZone ∧
          execution.system.world.store.program.currentStepIndex =
            (operate drivers command execution.system.world).store.program.currentStepIndex := by
        change (operate drivers command execution.system.world).store.program.state = .runningZone at running
        simpa [entersStep,running] using stays
      have before : programIsActive execution.system.world.store = true := by simp [programIsActive,same.1]
      rw [unedited.zone same.1,World.stepZone,World.stepZone,operated.currentProgram before,same.2]

/-- An edit that spares the running program leaves it as it is. -/
theorem Unedited.edited (unedited : Unedited execution) (mirrored : Mirrored execution.system) (edit : ProgramEdit)
    (placed : programIsActive execution.system.world.store = true → Placed execution.system)
    (spares : SparesRunning device (.edit edit) execution) :
    Unedited { execution with system := (mutate device edit.mutation execution.system).2 } := by
  have same := mutate_sameExecution device mirrored edit.mutation
  have program : programIsActive execution.system.world.store = true →
      (mutate device edit.mutation execution.system).2.world.currentProgram = execution.system.world.currentProgram := by
    intro active
    obtain ⟨slot,running,scheduled⟩ := placed active
    simp only [World.currentProgram,same.program,running]
    exact (mutate_program_iff edit mirrored scheduled).mpr (spares active slot running)
  have active : ∀ next : RuntimeState, next.program = execution.system.world.store.program →
      programIsActive next = programIsActive execution.system.world.store := by
    intro next kept
    simp only [programIsActive,kept]
  refine ⟨fun ongoing => ?_,fun running => ?_⟩
  · rw [active _ same.state] at ongoing
    rw [program ongoing]
    exact unedited.program ongoing
  · rw [same.state] at running
    have ongoing : programIsActive execution.system.world.store = true := by simp [programIsActive,running]
    rw [unedited.zone running,World.stepZone,World.stepZone,program ongoing,same.state]

/-- An edit that leaves the running program as it is spares it. -/
theorem spares_of_unedited (unedited : Unedited execution) (mirrored : Mirrored execution.system) (edit : ProgramEdit)
    (placed : programIsActive execution.system.world.store = true → Placed execution.system)
    (after : Unedited { execution with system := (mutate device edit.mutation execution.system).2 }) :
    SparesRunning device (.edit edit) execution := by
  intro active slot running
  obtain ⟨other,otherRunning,scheduled⟩ := placed active
  cases Fin.ext (Option.some.inj (otherRunning.symm.trans running))
  have same := mutate_sameExecution device mirrored edit.mutation
  have ongoing : programIsActive (mutate device edit.mutation execution.system).2.world.store = true := by
    simpa only [programIsActive,same.state] using active
  have kept := (after.program ongoing).symm.trans (unedited.program active)
  simp only [World.currentProgram,same.program,running,Option.some_inj] at kept
  exact (mutate_program_iff edit mirrored scheduled).mp kept

/-- What a call that passed its test may rely on: a program that is active by now was started by
the scheduler. -/
def EditCall.Expects (call : EditCall) (execution : ObservedExecution ε σ) : Prop :=
  match call with
  | .edit _ => programIsActive execution.system.world.store = true → Placed execution.system
  | .tick _ | .poll => True

theorem EditCall.body_expects (call : EditCall) (mirrored : Mirrored execution.system) (other : EditCall)
    (expected : other.Expects execution) : other.Expects (call.body device drivers execution) := by
  cases other with
  | tick | poll => trivial
  | edit =>
    intro active
    cases call with
    | edit requested =>
      have same := mutate_sameExecution device mirrored requested.mutation
      have before : programIsActive execution.system.world.store = true := by
        simpa only [EditCall.body,programIsActive,same.state] using active
      obtain ⟨slot,running,scheduled⟩ := expected before
      exact ⟨slot,same.program.trans running,scheduled.edited mirrored requested⟩
    | tick now => exact (tick_operated drivers now execution.system.world).placed mirrored expected active
    | poll => exact (poll_operated drivers execution.system.world).placed mirrored expected active

theorem EditCall.body_keeps (call : EditCall) (mirrored : Mirrored execution.system) (unedited : Unedited execution)
    (expected : call.Expects execution) (spares : SparesRunning device call execution) :
    Mirrored (call.body device drivers execution).system ∧ Unedited (call.body device drivers execution) := by
  cases call with
  | edit requested =>
    exact ⟨mutated_mirrored requested.incremental mirrored,unedited.edited mirrored requested expected spares⟩
  | tick now =>
    have operated := tick_operated drivers now execution.system.world
    exact ⟨operated.mirrored mirrored,unedited.operated operated⟩
  | poll =>
    have operated := poll_operated drivers execution.system.world
    exact ⟨operated.mirrored mirrored,unedited.operated operated⟩

/-- From a system without an execution on, however edits that were tested step between ticks and
polls: the running program stays what it was at its start, and a step ends with the zone it began
with, exactly when no edit that acts rewrites the program that is running. -/
theorem edits_spare_running_iff (mirrored : Mirrored system) (inactive : programIsActive system.world.store = false)
    (steps : List (Interleaving.Step ExecutionTask EditCall)) :
    Runs.Throughout (editStep device drivers) (fun state => Unedited state.shared) steps (.of ⟨system,none,none⟩) ↔
      Runs.Along (editStep device drivers) (Interleaving.AtBodies (SparesRunning device)) steps
        (.of ⟨system,none,none⟩) := by
  have initially : Unedited (⟨system,none,none⟩ : ObservedExecution ε σ) := by
    refine ⟨fun active => absurd (inactive.symm.trans active) (by simp),fun running => ?_⟩
    change system.world.store.program.state = .runningZone at running
    simp [programIsActive,running] at inactive
  have sound : Interleaving.Sound (fun execution => Mirrored execution.system ∧ Unedited execution) EditCall.Expects
      (.of ⟨system,none,none⟩ : Interleaving.State ExecutionTask EditCall (ObservedExecution ε σ)) :=
    .of ⟨mirrored,initially⟩
  refine Interleaving.throughout_iff sound ?_ ?_ ?_ ?_ steps
  · intro call execution _ admitted
    cases call with
    | tick | poll => trivial
    | edit =>
      intro active
      simp [EditCall.admitted,active] at admitted
  · exact fun execution sound => sound.2
  · intro call execution sound expected spares
    exact ⟨call.body_keeps sound.1 sound.2 expected spares,call.body_expects sound.1⟩
  · intro call execution sound expected unedited
    cases call with
    | tick | poll => trivial
    | edit requested => exact spares_of_unedited sound.2 sound.1 requested expected unedited

end Spared

/-! ### The development kit -/

/-- The default program on another zone. -/
def devEdit : ProgramEdit := .save (some 0) (.literal "lawn") [⟨copyText (.literal "zone-4"),60000⟩]

/-- The handler has tested its edit when a tick starts the program and a poll opens its first zone. -/
def devEditing : List (Interleaving.Step ExecutionTask EditCall) :=
  [.check .http (.edit devEdit),.check .scheduler (.tick devMonday),.body .scheduler,
    .check .scheduler .poll,.body .scheduler,.body .http]

def devObserved : Interleaving.State ExecutionTask EditCall (ObservedExecution UInt64 Repository.SlotContents) :=
  .of ⟨devSystem true true,none,none⟩

theorem edits_spare_running_iff_devEditing :
    Runs.Throughout (editStep Repository.memoryStorage quietDrivers) (fun state => Unedited state.shared) devEditing
        devObserved ↔
      Runs.Along (editStep Repository.memoryStorage quietDrivers)
        (Interleaving.AtBodies (SparesRunning Repository.memoryStorage)) devEditing devObserved :=
  edits_spare_running_iff (devSystem_mirrored true true) (by decide +kernel) devEditing

/-- What that run leaves. -/
def devEdited : ObservedExecution UInt64 Repository.SlotContents :=
  (Runs.after (editStep Repository.memoryStorage quietDrivers) devEditing devObserved).shared

/-- Zone 1 is open for a step that will close zone 4. -/
theorem edit_behind_start_rewrites :
    ¬Runs.Throughout (editStep Repository.memoryStorage quietDrivers) (fun state => Unedited state.shared) devEditing
      devObserved := by
  intro unedited
  have last : Unedited devEdited := unedited devEditing [] rfl
  have running : devEdited.system.world.store.program.state = .runningZone := by decide +kernel
  have opened : devEdited.opened = some (.literal "zone-1") := by decide +kernel
  have closes : devEdited.system.world.stepZone = some (.literal "zone-4") := by decide +kernel
  rw [last.zone running,closes] at opened
  exact absurd opened (by decide)

end Irrigation
