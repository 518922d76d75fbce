import Irrigation.ExecutionEvents

/-! How often an execution is terminated when starts, polls and aborts of two tasks step
into each other. -/
namespace Irrigation

/-- The terminations published since the last start. -/
def terminations (log : List EventType) : Nat :=
  log.foldl (fun count type => match type with
    | .programExecutionStarted => 0
    | .programExecutionTerminated => count + 1
    | _ => count) 0

@[simp] theorem terminations_nil : terminations [] = 0 := rfl

@[simp] theorem terminations_started (log : List EventType) :
    terminations (log ++ [.programExecutionStarted]) = 0 := by
  simp [terminations]

@[simp] theorem terminations_terminated (log : List EventType) :
    terminations (log ++ [.programExecutionTerminated]) = terminations log + 1 := by
  simp [terminations]

section Starts

variable {ε : Type} (drivers : Drivers ε)

/-- What a start that holds the lock does to the execution: it is refused, goes on to wait for
the valve, or fails with the valve. -/
inductive StartCourse (before after : World ε) : Prop
  | refused (log : after.executionLog = before.executionLog) (store : after.store = before.store)
  | started (log : after.executionLog = before.executionLog ++ [.programExecutionStarted])
      (active : programIsActive after.store = true)
  | failed (log : after.executionLog = before.executionLog ++ [.programExecutionStarted,.programExecutionTerminated])
      (inactive : programIsActive after.store = false)

theorem start_course (program : ProgramAddress) (context : ProgramStartContext) (world : World ε) :
    StartCourse world (programServiceStartLocked drivers program context world).2 := by
  obtain ⟨set,setEq⟩ : ∃ set, set = { world with program := some program, startContext := context } := ⟨_,rfl⟩
  have run : setServiceProgram program context world = ((),set) := by rw [setEq]; rfl
  have same : set.store = world.store := by rw [setEq]
  have log : set.executionLog = world.executionLog := by rw [setEq]; rfl
  cases accepted : stateStoreStartProgram set.store with
  | error result =>
    have refused : result ≠ .ok := by
      unfold stateStoreStartProgram at accepted
      split at accepted <;> cases accepted
      decide
    simp only [programServiceStartLocked,run_bind,run,run_commit_error accepted,run_ite,ne_eq,refused,
      not_false_eq_true,if_true,run_pure]
    exact .refused log same
  | ok waiting =>
    have active : programIsActive waiting = true := by
      unfold stateStoreStartProgram at accepted
      split at accepted <;> cases accepted
      rfl
    simp only [programServiceStartLocked,run_bind,run,run_commit_ok accepted,run_ite,ne_eq,not_true_eq_false,if_false]
    obtain ⟨published,publishedEq⟩ : ∃ published, published = (publishExecutionEvent drivers .programExecutionStarted
      .fault 0 none { set with store := waiting }).2 := ⟨_,rfl⟩
    have store : published.store = waiting := by
      rw [publishedEq,(publishExecutionEvent_issued drivers .programExecutionStarted .fault 0 none _).1]
    have started : published.executionLog = world.executionLog ++ [.programExecutionStarted] := by
      rw [publishedEq,← log]
      simp only [publishExecutionEvent,run_bind,executionLog_publish]
      rw [silent_get,silent_clock drivers]
      rfl
    rw [← publishedEq]
    obtain ⟨_,opening,_⟩ := masterValveServiceOpen_cases drivers published
    have silent := silent_masterValveServiceOpen drivers published
    by_cases ok : (masterValveServiceOpen drivers published).1 = .ok
    · simp only [ok,not_true_eq_false,if_false,run_pure]
      apply StartCourse.started (silent.trans started)
      rw [programIsActive,opening.program,store]
      exact active
    · simp only [ok,not_false_eq_true,if_true,run_pure]
      obtain ⟨ended,inactive⟩ := finish_ending drivers .fault .fault (by simp) (masterValveServiceOpen drivers published).2
      refine .failed ?_ inactive
      rw [ended,silent,started,List.append_assoc]
      rfl

end Starts

section Runs

variable {ε : Type} (drivers : Drivers ε)

/-- A run of calls of the two tasks. -/
abbrev callStep : Interleaving.Step ExecutionTask ExecutionCall →
    Interleaving.State ExecutionTask ExecutionCall (World ε) →
    Interleaving.State ExecutionTask ExecutionCall (World ε) :=
  Interleaving.step ExecutionCall.admitted fun call world => (call.locked drivers world).2

def ProgramState.Terminal (state : ProgramState) : Prop := state = .completed ∨ state = .aborted ∨ state = .fault

/-- A terminal state is left by no call but a start that the store accepts. -/
def KeepsTerminal (call : ExecutionCall) (world : World ε) : Prop :=
  world.store.program.state.Terminal →
    (call.locked drivers world).2.store.program.state = world.store.program.state ∨
      ∃ rest, (call.locked drivers world).2.executionLog = world.executionLog ++ .programExecutionStarted :: rest

/-- An abort acts on an execution that is still active. -/
def AbortsActive (call : ExecutionCall) (world : World ε) : Prop :=
  call = .abort → programIsActive world.store = true

/-- Started executions are terminated once when they are over, and not before. -/
structure Lifecycle (world : World ε) : Prop where
  active : programIsActive world.store = true →
    terminations world.executionLog = 0 ∧ .programExecutionStarted ∈ world.executionLog
  ended : programIsActive world.store = false → .programExecutionStarted ∈ world.executionLog →
    terminations world.executionLog = 1
  fresh : .programExecutionStarted ∉ world.executionLog → terminations world.executionLog = 0

variable {drivers} {world : World ε}

theorem Lifecycle.once (lifecycle : Lifecycle world) : terminations world.executionLog ≤ 1 := by
  by_cases started : .programExecutionStarted ∈ world.executionLog
  · cases active : programIsActive world.store with
    | true => simp [(lifecycle.active active).1]
    | false => simp [lifecycle.ended active started]
  · simp [lifecycle.fresh started]

theorem Lifecycle.of_same {next : World ε} (lifecycle : Lifecycle world) (log : next.executionLog = world.executionLog)
    (same : programIsActive next.store = programIsActive world.store) : Lifecycle next := by
  refine ⟨?_,?_,?_⟩ <;> rw [log]
  · rw [same]
    exact lifecycle.active
  · rw [same]
    exact lifecycle.ended
  · exact lifecycle.fresh

/-- The end of an active execution. -/
theorem Lifecycle.of_ends {next : World ε} (lifecycle : Lifecycle world) (active : programIsActive world.store = true)
    (ends : Ends world next) : Lifecycle next := by
  obtain ⟨none,started⟩ := lifecycle.active active
  refine ⟨fun again => ?_,fun _ _ => ?_,fun fresh => ?_⟩
  · exact absurd (ends.inactive.symm.trans again) (by simp)
  · rw [ends.log,terminations_terminated,none]
  · exact absurd (by rw [ends.log]; exact List.mem_append_left _ started) fresh

theorem Lifecycle.of_start {next : World ε} (lifecycle : Lifecycle world) (course : StartCourse world next) :
    Lifecycle next := by
  cases course with
  | refused log store => exact lifecycle.of_same log (by rw [store])
  | started log active =>
    refine ⟨fun _ => ?_,fun inactive => ?_,fun fresh => ?_⟩
    · rw [log]
      simp
    · exact absurd (active.symm.trans inactive) (by simp)
    · exact absurd (by rw [log]; simp) fresh
  | failed log inactive =>
    have once : terminations next.executionLog = 1 := by
      rw [log,show [EventType.programExecutionStarted,.programExecutionTerminated] =
        [.programExecutionStarted] ++ [.programExecutionTerminated] from rfl,← List.append_assoc,
        terminations_terminated,terminations_started]
    refine ⟨fun active => ?_,fun _ _ => once,fun fresh => ?_⟩
    · exact absurd (inactive.symm.trans active) (by simp)
    · exact absurd (by rw [log]; simp) fresh

/-- A pending abort was asked for while an execution was active. -/
def Begun (call : ExecutionCall) (world : World ε) : Prop :=
  call = .abort → .programExecutionStarted ∈ world.executionLog

theorem Lifecycle.begun (lifecycle : Lifecycle world) {call : ExecutionCall} (admitted : call.admitted world = true) :
    Begun call world := by
  rintro rfl
  exact (lifecycle.active admitted).2

variable (drivers) in
/-- The log only grows. -/
theorem locked_log (call : ExecutionCall) (world : World ε) :
    ∃ rest, (call.locked drivers world).2.executionLog = world.executionLog ++ rest := by
  cases call with
  | start program context =>
    cases program with
    | none => exact ⟨[],(List.append_nil _).symm⟩
    | some program =>
      cases start_course drivers program context world with
      | refused log => exact ⟨[],log.trans (List.append_nil _).symm⟩
      | started log | failed log => exact ⟨_,log⟩
  | process =>
    cases active : programIsActive world.store with
    | true =>
      rcases process_course drivers world active with ⟨log,_⟩ | ends
      · exact ⟨[],log.trans (List.append_nil _).symm⟩
      · exact ⟨_,ends.log⟩
    | false =>
      refine ⟨[],?_⟩
      rw [ExecutionCall.locked,process_inactive drivers active,List.append_nil]
  | abort => exact ⟨_,(abort_ending drivers world.store world).log⟩

theorem Begun.later {other : ExecutionCall} (begun : Begun other world) (call : ExecutionCall) :
    Begun other (call.locked drivers world).2 := by
  intro abort
  obtain ⟨rest,log⟩ := locked_log drivers call world
  rw [log]
  exact List.mem_append_left _ (begun abort)

theorem Lifecycle.locked (lifecycle : Lifecycle world) (call : ExecutionCall) (aborts : AbortsActive call world) :
    Lifecycle (call.locked drivers world).2 := by
  cases call with
  | start program context =>
    cases program with
    | none => exact lifecycle
    | some program => exact lifecycle.of_start (start_course drivers program context world)
  | process =>
    cases active : programIsActive world.store with
    | true =>
      rcases process_course drivers world active with ⟨log,still⟩ | ends
      · exact lifecycle.of_same log (still.trans active.symm)
      · exact lifecycle.of_ends active ends
    | false =>
      rw [ExecutionCall.locked,process_inactive drivers active]
      exact lifecycle
  | abort => exact lifecycle.of_ends (aborts rfl) (abort_ending drivers world.store world)

/-- An abort that acts after the end publishes a second termination. -/
theorem Lifecycle.aborts (lifecycle : Lifecycle world) {call : ExecutionCall} (begun : Begun call world)
    (once : terminations (call.locked drivers world).2.executionLog ≤ 1) : AbortsActive call world := by
  rintro rfl
  by_contra inactive
  have ended := lifecycle.ended (by simpa using inactive) (begun rfl)
  rw [ExecutionCall.locked,run_snapshot_bind,(abort_ending drivers world.store world).log,
    terminations_terminated,ended] at once
  contradiction

theorem terminal_inactive (ended : world.store.program.state.Terminal) : programIsActive world.store = false :=
  inactive_iff.mpr (.inr ended)

theorem AbortsActive.keepsTerminal {call : ExecutionCall} (aborts : AbortsActive call world) :
    KeepsTerminal drivers call world := by
  intro ended
  have inactive := terminal_inactive ended
  cases call with
  | start program context =>
    cases program with
    | none => exact .inl rfl
    | some program =>
      cases start_course drivers program context world with
      | refused _ store => exact .inl (by rw [ExecutionCall.locked,store])
      | started log | failed log => exact .inr ⟨_,log⟩
  | process => exact .inl (by rw [ExecutionCall.locked,process_inactive drivers inactive])
  | abort => exact absurd (inactive.symm.trans (aborts rfl)) (by simp)

/-- From a world without executions on, whatever two tasks call, wherever one steps into the
other's call and whatever the drivers answer: between two accepted starts at most one termination
is published, and a terminal state is left by an accepted start only, exactly when every abort acts
on an execution that is still active. -/
theorem terminated_once_iff {world : World ε} (inactive : programIsActive world.store = false)
    (unstarted : world.executionLog = []) (steps : List (Interleaving.Step ExecutionTask ExecutionCall)) :
    (Runs.Throughout (callStep drivers) (fun state => terminations state.shared.executionLog ≤ 1) steps (.of world) ∧
        Runs.Along (callStep drivers) (Interleaving.AtBodies (KeepsTerminal drivers)) steps (.of world)) ↔
      Runs.Along (callStep drivers) (Interleaving.AtBodies AbortsActive) steps (.of world) := by
  have initially : Lifecycle world :=
    ⟨fun active => absurd (inactive.symm.trans active) (by simp),fun _ started => by simp [unstarted] at started,
      fun _ => by simp [unstarted]⟩
  have exact : Runs.Throughout (callStep drivers) (fun state => terminations state.shared.executionLog ≤ 1) steps
      (.of world) ↔ Runs.Along (callStep drivers) (Interleaving.AtBodies AbortsActive) steps (.of world) := by
    refine Interleaving.throughout_iff (Interleaving.Sound.of initially) (fun _ _ lifecycle => lifecycle.begun)
      (fun _ lifecycle => lifecycle.once) ?_ (fun _ _ lifecycle begun => lifecycle.aborts begun) steps
    exact fun call _ lifecycle _ aborts => ⟨lifecycle.locked call aborts,fun other begun => begun.later call⟩
  rw [exact]
  refine and_iff_left_of_imp fun along => ?_
  exact Interleaving.along_bodies_imp (fun _ _ aborts => aborts.keepsTerminal) along

end Runs

/-! ### The development kit -/

/-- A program whose only step and delay are over at once. -/
def devBrief : World UInt64 := devWorld ⟨some (.literal "brief"),[⟨some (.literal "zone-1"),0⟩],0⟩

/-- The program is started and polled to its last delay; an abort has tested that it is active
when the next poll completes it. -/
def devLateAbort : List (Interleaving.Step ExecutionTask ExecutionCall) :=
  [.check .http (.start (some 0) programStartContextManual),.body .http,.check .scheduler .process,.body .scheduler,
    .check .scheduler .process,.body .scheduler,.check .http .abort,.check .scheduler .process,.body .scheduler,.body .http]

theorem terminated_once_iff_devLateAbort :
    (Runs.Throughout (callStep quietDrivers) (fun state => terminations state.shared.executionLog ≤ 1) devLateAbort
          (.of devBrief) ∧
        Runs.Along (callStep quietDrivers) (Interleaving.AtBodies (KeepsTerminal quietDrivers)) devLateAbort
          (.of devBrief)) ↔
      Runs.Along (callStep quietDrivers) (Interleaving.AtBodies AbortsActive) devLateAbort (.of devBrief) :=
  terminated_once_iff (by decide) rfl devLateAbort

/-- The completed execution is terminated again, as aborted. -/
theorem late_abort_terminates_again :
    ¬(Runs.Throughout (callStep quietDrivers) (fun state => terminations state.shared.executionLog ≤ 1) devLateAbort
        (.of devBrief) ∧
      Runs.Along (callStep quietDrivers) (Interleaving.AtBodies (KeepsTerminal quietDrivers)) devLateAbort
        (.of devBrief)) ∧
    (Runs.after (callStep quietDrivers) (devLateAbort.take 9) (.of devBrief)).shared.store.program.state = .completed ∧
    (Runs.after (callStep quietDrivers) devLateAbort (.of devBrief)).shared.store.program.state = .aborted := by
  refine ⟨fun both => ?_,by decide +kernel,by decide +kernel⟩
  have twice := both.1 devLateAbort [] rfl
  revert twice
  decide +kernel

end Irrigation
