import Irrigation.HandledOccurrences

/-! What a tick of the scheduler does to each entry: which are due, what is recorded of
them, and that no other operation touches the record. -/
namespace Irrigation

/-! ### The record outside the scheduler -/

section Record

variable {store next : RuntimeState} {result : IrrigationResult} {issued : List DriverCall}

theorem ZoneOpening.scheduler {zoneId : Option CString} {durationMs : UInt32} {reads : UInt64 → Prop}
    (opening : ZoneOpening store zoneId durationMs reads result issued next) : next.scheduler = store.scheduler := by
  cases opening <;> rfl

theorem closedZone_scheduler (store : RuntimeState) (zone : ZoneRuntimeState) :
    (closedZone store zone).scheduler = store.scheduler := by
  simp only [closedZone]
  split <;> rfl

theorem ZoneClosing.scheduler {zoneId : Option CString} (closing : ZoneClosing store zoneId result issued next) :
    next.scheduler = store.scheduler := by
  cases closing with
  | refused => rfl
  | closed => exact closedZone_scheduler store _
  | failed => rfl

theorem ZoneClosings.scheduler (closings : ZoneClosings store issued next) : next.scheduler = store.scheduler := by
  induction closings with
  | done => rfl
  | next closing _ ih => exact ih.trans closing.scheduler

theorem masterTimed_scheduler (store : RuntimeState) (nowMs : UInt64) :
    (masterTimed store nowMs).scheduler = store.scheduler := by
  unfold masterTimed
  split <;> rfl

theorem MasterOpening.scheduler (opening : MasterOpening store result issued next) :
    next.scheduler = store.scheduler := by
  cases opening <;> rfl

theorem MasterClosing.scheduler (closing : MasterClosing store result issued next) :
    next.scheduler = store.scheduler := by
  cases closing <;> rfl

theorem FaultExit.scheduler (exit : FaultExit store issued next) : next.scheduler = store.scheduler := by
  cases exit with
  | exit closing => exact closing.scheduler

theorem StepOpening.scheduler {stepIndex : Nat} {step : ProgramStep} {reads : UInt64 → Prop}
    (opening : StepOpening store stepIndex step reads issued next) : next.scheduler = store.scheduler := by
  cases opening with
  | opened opening => exact opening.scheduler
  | failed opening _ exit => exact exit.scheduler.trans opening.scheduler

theorem ProgramStarting.scheduler (starting : ProgramStarting store result issued next) :
    next.scheduler = store.scheduler := by
  cases starting with
  | refused => rfl
  | started _ opening => exact opening.scheduler
  | failed _ opening => exact opening.scheduler

theorem ProgramStarting.active (starting : ProgramStarting store result issued next) (ok : result = .ok) :
    programIsActive next = true := by
  cases starting with
  | refused failed => exact absurd ok failed
  | started _ opening => simp [programIsActive,opening.program]
  | failed _ _ notOk => exact absurd ok notOk

theorem ProgramProcessing.scheduler {program : Program} {nowMs : UInt64} {reads : UInt64 → Prop}
    (processing : ProgramProcessing store program nowMs reads issued next) : next.scheduler = store.scheduler := by
  have timed := masterTimed_scheduler store nowMs
  cases processing with
  | inactive | running | delaying => rfl
  | waiting => exact timed
  | masterFault _ _ exit => exact exit.scheduler.trans timed
  | entering _ _ opening => exact opening.scheduler.trans timed
  | closeFailed _ _ closing _ exit => exact exit.scheduler.trans closing.scheduler
  | advancing _ _ closing _ opening => exact opening.scheduler.trans closing.scheduler
  | finishing _ _ closing => exact closing.scheduler
  | completed _ _ closing => exact closing.scheduler

theorem AbortZone.scheduler {zoneId : Option CString} (zone : AbortZone store zoneId result issued next) :
    next.scheduler = store.scheduler := by
  cases zone with
  | running _ closing => exact closing.scheduler
  | skipped => rfl

theorem ProgramAborting.scheduler {zoneId : Option CString} (aborting : ProgramAborting store zoneId issued next) :
    next.scheduler = store.scheduler := by
  cases aborting with
  | zoneFailed zone | closedMaster zone => exact zone.scheduler
  | closingMaster zone _ closing => exact closing.scheduler.trans zone.scheduler

variable {ε : Type} {drivers : Drivers ε} {world : World ε} {command : Command}

/-- Only a tick writes the scheduler's record. -/
theorem Outcome.scheduler (outcome : Outcome drivers world command issued next)
    (silent : ∀ now, command ≠ .schedulerProcess now) : next.scheduler = world.store.scheduler := by
  cases outcome with
  | zoneOpen opening => exact opening.scheduler
  | zoneClose closing => exact closing.scheduler
  | zoneSafeClose closings | zoneProcessTimeouts closings => exact closings.scheduler
  | masterOpen opening => exact opening.scheduler
  | masterClose closing => exact closing.scheduler
  | masterProcessTime => exact masterTimed_scheduler _ _
  | startRejected | abortRejected => rfl
  | programStart _ _ starting => exact starting.scheduler
  | programProcess processing => exact processing.scheduler
  | programAbort _ aborting => exact aborting.scheduler
  | schedulerProcess => exact absurd rfl (silent _)

end Record

/-! ### A logged tick -/

/-- What a tick did with a due entry. -/
structure Handling where
  index : Nat
  entry : SchedulerEntry
  startCalled : Bool
  status : ScheduleOccurrenceStatus
  deriving DecidableEq, Repr

section Logging

variable {ε : Type} (drivers : Drivers ε)

/-- `handleDueEntry`, telling what it did. -/
def handleDueEntryLogged (now : SchedulerTime) (index : Nat) (entry : SchedulerEntry) : Service ε Handling := do
  let active ← programServiceIsActive
  let status ← if active then pure .skippedBusy
    else do
      let started ← programServiceStartWithContext drivers entry.program ⟨.scheduled,entry.id⟩
      pure (if started = .ok then .started else .rejected)
  let _ ← commit (stateStoreRecordScheduleOccurrence · index (occurrenceFor now) status)
  pure ⟨index,entry,!active,status⟩

def processEntriesLogged (state : RuntimeState) (now : SchedulerTime) :
    Nat → List SchedulerEntry → Service ε (List Handling)
  | _, [] => pure []
  | index, entry :: rest =>
    if entryIsDue state now index entry then do
      let handling ← handleDueEntryLogged drivers now index entry
      let later ← processEntriesLogged state now (index + 1) rest
      pure (handling :: later)
    else processEntriesLogged state now (index + 1) rest

theorem handleDueEntryLogged_world (now : SchedulerTime) (index : Nat) (entry : SchedulerEntry) (world : World ε) :
    (handleDueEntryLogged drivers now index entry world).2 = (handleDueEntry drivers now index entry world).2 := by
  simp only [handleDueEntryLogged,handleDueEntry,run_bind,run_ite]
  split <;> simp only [run_pure]

/-- Telling changes nothing. -/
theorem processEntriesLogged_world (state : RuntimeState) (now : SchedulerTime) (entries : List SchedulerEntry)
    (index : Nat) (world : World ε) : (processEntriesLogged drivers state now index entries world).2 =
      (processEntries drivers state now index entries world).2 := by
  induction entries generalizing index world with
  | nil => rfl
  | cons entry rest ih =>
    simp only [processEntriesLogged,processEntries,run_ite]
    split
    · simp only [run_bind,run_pure,handleDueEntryLogged_world]
      exact ih (index + 1) _
    · exact ih (index + 1) world

/-- What a tick does with the due entries; an invalid time reaches none. -/
def tickLog (now : SchedulerTime) (world : World ε) : List Handling :=
  if schedulerTimeIsValid now then
    (processEntriesLogged drivers world.store now 0 world.entries (schedulerServiceLock world).2).1
  else []

theorem handleDueEntryLogged_status (now : SchedulerTime) (index : Nat) (entry : SchedulerEntry) (world : World ε) :
    (handleDueEntryLogged drivers now index entry world).1.status ≠ .none := by
  simp only [handleDueEntryLogged,run_bind,run_ite]
  split
  · simp only [run_pure]
    nofun
  · simp only [run_pure]
    split <;> nofun

theorem processEntriesLogged_status (state : RuntimeState) (now : SchedulerTime) (entries : List SchedulerEntry)
    (index : Nat) (world : World ε) :
    ∀ handling ∈ (processEntriesLogged drivers state now index entries world).1, handling.status ≠ .none := by
  induction entries generalizing index world with
  | nil => exact fun _ member => nomatch member
  | cons entry rest ih =>
    simp only [processEntriesLogged,run_ite]
    split
    · simp only [run_bind,run_pure]
      exact List.forall_mem_cons.mpr ⟨handleDueEntryLogged_status drivers now index entry world,ih (index + 1) _⟩
    · exact ih (index + 1) world

variable {drivers} in
theorem tickLog_status {now : SchedulerTime} {world : World ε} {handling : Handling}
    (member : handling ∈ tickLog drivers now world) : handling.status ≠ .none := by
  unfold tickLog at member
  split at member
  · exact processEntriesLogged_status drivers world.store now world.entries 0 _ handling member
  · contradiction

/-- How a due entry is handled: the program service is asked only while no program is active, and
what it answers is recorded. -/
structure Handled (now : SchedulerTime) (world next : World ε) (handling : Handling) : Prop where
  recorded : next.store.scheduler =
    world.store.scheduler.record handling.index (occurrenceFor now) handling.status
  entries : next.entries = world.entries
  memory : next.memory = world.memory
  called : handling.startCalled = !programIsActive world.store
  busy : programIsActive world.store = true → handling.status = .skippedBusy ∧ programIsActive next.store = true
  asked : programIsActive world.store = false → handling.status = .rejected ∨
    handling.status = .started ∧ programIsActive next.store = true

theorem recordScheduleOccurrence_record {world : World ε} {index : Nat}
    (inside : index < world.store.scheduler.entryCount) (occurrence : UInt64) {status : ScheduleOccurrenceStatus}
    (handled : status ≠ .none) : (commit (stateStoreRecordScheduleOccurrence · index occurrence status) world).2 =
      world.withScheduler (world.store.scheduler.record index occurrence status) := by
  have run : stateStoreRecordScheduleOccurrence world.store index occurrence status =
      .ok { world.store with scheduler := world.store.scheduler.record index occurrence status } :=
    if_neg (not_or.mpr ⟨Nat.not_le.mpr inside,handled⟩)
  exact congrArg Prod.snd (run_commit_ok run)

/-- A start that was asked for leaves the scheduler alone, and once it is accepted the program is active. -/
theorem programServiceStartWithContext_asked (program : Option ProgramAddress) (context : ProgramStartContext)
    (world : World ε) :
    let outcome := programServiceStartWithContext drivers program context world
    outcome.2.store.scheduler = world.store.scheduler ∧ outcome.2.entries = world.entries ∧
      outcome.2.memory = world.memory ∧ (outcome.1 = .ok → programIsActive outcome.2.store = true) := by
  intro outcome
  rcases programServiceStartWithContext_cases drivers program context world with
    ⟨rejected,_⟩ | ⟨address,_,_,_,_,accepted⟩
  · have same : outcome = (.rejected,world) := rejected
    rw [same]
    exact ⟨rfl,rfl,rfl,nofun⟩
  · obtain ⟨issued,starting,back⟩ := programServiceStartLocked_cases drivers address context world
    rw [← accepted] at starting back
    exact ⟨starting.scheduler,back.entries,back.memory,starting.active⟩

theorem handleDueEntryLogged_handled (now : SchedulerTime) (index : Nat) (entry : SchedulerEntry) (world : World ε)
    (inside : index < world.store.scheduler.entryCount) :
    let outcome := handleDueEntryLogged drivers now index entry world
    outcome.1.index = index ∧ outcome.1.entry = entry ∧ Handled now world outcome.2 outcome.1 := by
  cases active : programIsActive world.store with
  | true =>
    have busy : programServiceIsActive world = (true,world) := by
      simp only [programServiceIsActive,run_snapshot_bind,active,run_pure]
    have recorded := recordScheduleOccurrence_record inside (occurrenceFor now)
      (by decide : ScheduleOccurrenceStatus.skippedBusy ≠ .none)
    simp only [handleDueEntryLogged,run_bind_of busy,if_true,run_pure_bind]
    simp only [run_bind,run_pure,recorded]
    exact ⟨trivial,trivial,rfl,rfl,rfl,by simp [active],fun _ => ⟨rfl,active⟩,by simp [active]⟩
  | false =>
    have free : programServiceIsActive world = (false,world) := by
      simp only [programServiceIsActive,run_snapshot_bind,active,run_pure]
    cases run : programServiceStartWithContext drivers entry.program ⟨.scheduled,entry.id⟩ world with
    | mk result after =>
      have asked := programServiceStartWithContext_asked drivers entry.program ⟨.scheduled,entry.id⟩ world
      rw [run] at asked
      obtain ⟨scheduler,entries,memory,started⟩ := asked
      dsimp only at scheduler entries memory started
      rw [← scheduler] at inside
      by_cases ok : result = .ok
      · have recorded := recordScheduleOccurrence_record inside (occurrenceFor now)
          (by decide : ScheduleOccurrenceStatus.started ≠ .none)
        simp only [handleDueEntryLogged,run_bind_of free,Bool.false_eq_true,if_false,run_bind_of run,run_pure_bind,ok,
          if_true]
        simp only [run_bind,run_pure,recorded]
        refine ⟨trivial,trivial,by rw [← scheduler]; rfl,entries,memory,by simp [active],by simp [active],fun _ => ?_⟩
        exact .inr ⟨rfl,started ok⟩
      · have recorded := recordScheduleOccurrence_record inside (occurrenceFor now)
          (by decide : ScheduleOccurrenceStatus.rejected ≠ .none)
        simp only [handleDueEntryLogged,run_bind_of free,Bool.false_eq_true,if_false,run_bind_of run,run_pure_bind,ok]
        simp only [run_bind,run_pure,recorded]
        refine ⟨trivial,trivial,by rw [← scheduler]; rfl,entries,memory,by simp [active],by simp [active],fun _ => ?_⟩
        exact .inl rfl

end Logging

/-! ### A tick, entry by entry -/

/-- The entries from an index on, handled one after another where they are due. -/
inductive Ticked {ε : Type} (state : RuntimeState) (now : SchedulerTime) :
    Nat → List SchedulerEntry → World ε → List Handling → World ε → Prop
  | done (index : Nat) (world : World ε) : Ticked state now index [] world [] world
  | passed {index : Nat} {entry : SchedulerEntry} {rest : List SchedulerEntry} {world next : World ε}
      {log : List Handling} (idle : entryIsDue state now index entry = false)
      (later : Ticked state now (index + 1) rest world log next) : Ticked state now index (entry :: rest) world log next
  | handled {entry : SchedulerEntry} {rest : List SchedulerEntry} {world middle next : World ε}
      {log : List Handling} {handling : Handling} (due : entryIsDue state now handling.index handling.entry = true)
      (named : handling.entry = entry) (handled : Handled now world middle handling)
      (later : Ticked state now (handling.index + 1) rest middle log next) :
      Ticked state now handling.index (entry :: rest) world (handling :: log) next

section Ticking

variable {ε : Type}

theorem Handled.count {now : SchedulerTime} {world next : World ε} {handling : Handling}
    (handled : Handled now world next handling) :
    next.store.scheduler.entryCount = world.store.scheduler.entryCount := by
  rw [handled.recorded]
  rfl

theorem processEntriesLogged_ticked (drivers : Drivers ε) (state : RuntimeState) (now : SchedulerTime)
    (entries : List SchedulerEntry) (index : Nat) (world : World ε)
    (room : index + entries.length ≤ world.store.scheduler.entryCount) :
    Ticked state now index entries world (processEntriesLogged drivers state now index entries world).1
      (processEntriesLogged drivers state now index entries world).2 := by
  induction entries generalizing index world with
  | nil => exact .done index world
  | cons entry rest ih =>
    rw [List.length_cons] at room
    cases due : entryIsDue state now index entry with
    | false =>
      simp only [processEntriesLogged,due,Bool.false_eq_true,if_false]
      exact .passed due (ih (index + 1) world (by omega))
    | true =>
      obtain ⟨atIndex,named,handled⟩ := handleDueEntryLogged_handled drivers now index entry world (by omega)
      simp only [processEntriesLogged,due,if_true,run_bind,run_pure]
      cases run : handleDueEntryLogged drivers now index entry world with
      | mk handling middle =>
        rw [run] at atIndex named handled
        dsimp only at atIndex named handled
        subst atIndex named
        have count := handled.count
        exact .handled due rfl handled (ih (handling.index + 1) middle (by omega))

variable {state : RuntimeState} {now : SchedulerTime} {index : Nat} {entries : List SchedulerEntry}
  {world next : World ε} {log : List Handling}

theorem Ticked.kept (ticked : Ticked state now index entries world log next) :
    next.entries = world.entries ∧ next.memory = world.memory ∧
      next.store.scheduler.entryCount = world.store.scheduler.entryCount := by
  induction ticked with
  | done => exact ⟨rfl,rfl,rfl⟩
  | passed _ _ ih => exact ih
  | handled _ _ handled _ ih =>
    obtain ⟨entries,memory,count⟩ := ih
    exact ⟨entries.trans handled.entries,memory.trans handled.memory,count.trans handled.count⟩

/-- What is handled is due. -/
theorem Ticked.due (ticked : Ticked state now index entries world log next) {handling : Handling}
    (member : handling ∈ log) : ∃ offset, handling.index = index + offset ∧
      entries[offset]? = some handling.entry ∧ entryIsDue state now handling.index handling.entry = true := by
  induction ticked with
  | done => contradiction
  | passed _ _ ih =>
    obtain ⟨offset,atIndex,given,due⟩ := ih member
    exact ⟨offset + 1,by omega,given,due⟩
  | handled due named _ _ ih =>
    rcases List.mem_cons.mp member with rfl | later
    · exact ⟨0,rfl,congrArg some named.symm,due⟩
    · obtain ⟨offset,atIndex,given,dueLater⟩ := ih later
      exact ⟨offset + 1,by omega,given,dueLater⟩

/-- What is due is handled. -/
theorem Ticked.covers (ticked : Ticked state now index entries world log next) {offset : Nat} {entry : SchedulerEntry}
    (given : entries[offset]? = some entry) (isDue : entryIsDue state now (index + offset) entry = true) :
    ∃ handling ∈ log, handling.index = index + offset ∧ handling.entry = entry := by
  induction ticked generalizing offset with
  | done => simp at given
  | passed idle _ ih =>
    cases offset with
    | zero =>
      cases given
      rw [Nat.add_zero,idle] at isDue
      contradiction
    | succ offset =>
      obtain ⟨handling,member,atIndex,named⟩ := ih given (by rwa [Nat.add_assoc,Nat.add_comm 1])
      exact ⟨handling,member,by omega,named⟩
  | @handled _ _ _ _ _ _ handling _ named _ _ ih =>
    cases offset with
    | zero =>
      cases given
      exact ⟨handling,List.mem_cons_self,rfl,named⟩
    | succ offset =>
      obtain ⟨other,member,atIndex,otherNamed⟩ := ih given (by rwa [Nat.add_assoc,Nat.add_comm 1])
      exact ⟨other,List.mem_cons_of_mem _ member,by omega,otherNamed⟩

/-- Each entry is handled once. -/
theorem Ticked.increasing (ticked : Ticked state now index entries world log next) :
    (log.map (·.index)).Pairwise (· < ·) := by
  induction ticked with
  | done => exact List.Pairwise.nil
  | passed _ _ ih => exact ih
  | handled _ _ _ later ih =>
    refine List.pairwise_cons.mpr ⟨fun position member => ?_,ih⟩
    obtain ⟨other,otherMember,rfl⟩ := List.mem_map.mp member
    obtain ⟨offset,atIndex,_⟩ := later.due otherMember
    dsimp only
    omega

/-- Entries that are not handled keep their occurrence. -/
theorem Ticked.unhandled (ticked : Ticked state now index entries world log next) {position : Nat}
    (apart : ∀ handling ∈ log, handling.index ≠ position) :
    next.store.scheduler.occurrence position = world.store.scheduler.occurrence position := by
  induction ticked with
  | done => rfl
  | passed _ _ ih => exact ih apart
  | handled _ _ handled _ ih =>
    rw [ih fun other member => apart other (List.mem_cons_of_mem _ member),handled.recorded,
      SchedulerRuntimeState.occurrence_record,if_neg (apart _ List.mem_cons_self).symm]

/-- What is handled is recorded with its status. -/
theorem Ticked.stored (ticked : Ticked state now index entries world log next) {handling : Handling}
    (member : handling ∈ log) :
    next.store.scheduler.occurrence handling.index = (occurrenceFor now,handling.status) := by
  induction ticked with
  | done => contradiction
  | passed _ _ ih => exact ih member
  | handled _ _ handled later ih =>
    rcases List.mem_cons.mp member with rfl | behind
    · rw [later.unhandled,handled.recorded,SchedulerRuntimeState.occurrence_record,if_pos rfl]
      intro other otherMember same
      obtain ⟨offset,atIndex,_⟩ := later.due otherMember
      omega
    · exact ih behind

/-- The program service is asked to start exactly what is not skipped. -/
theorem Handled.status {handling : Handling} (handled : Handled now world next handling) :
    handling.startCalled = true ∧ (handling.status = .started ∨ handling.status = .rejected) ∨
      handling.startCalled = false ∧ handling.status = .skippedBusy := by
  cases active : programIsActive world.store with
  | true => exact .inr ⟨by rw [handled.called,active]; rfl,(handled.busy active).1⟩
  | false =>
    refine .inl ⟨by rw [handled.called,active]; rfl,?_⟩
    exact (handled.asked active).symm.imp And.left id

theorem Ticked.status (ticked : Ticked state now index entries world log next) {handling : Handling}
    (member : handling ∈ log) :
    handling.startCalled = true ∧ (handling.status = .started ∨ handling.status = .rejected) ∨
      handling.startCalled = false ∧ handling.status = .skippedBusy := by
  induction ticked with
  | done => contradiction
  | passed _ _ ih => exact ih member
  | handled _ _ handled _ ih =>
    rcases List.mem_cons.mp member with rfl | behind
    · exact handled.status
    · exact ih behind

/-- Behind an active program everything is skipped. -/
theorem Ticked.busy (ticked : Ticked state now index entries world log next)
    (active : programIsActive world.store = true) : ∀ handling ∈ log, handling.status = .skippedBusy := by
  induction ticked with
  | done => simp
  | passed _ _ ih => exact ih active
  | handled _ _ handled _ ih =>
    obtain ⟨skipped,still⟩ := handled.busy active
    exact List.forall_mem_cons.mpr ⟨skipped,ih still⟩

/-- At most one entry is started, and all that is handled after it is skipped. -/
theorem Ticked.startsOnce (ticked : Ticked state now index entries world log next) :
    (log.filter (·.status = .started)).length ≤ 1 := by
  induction ticked with
  | done => simp
  | passed _ _ ih => exact ih
  | @handled _ _ world _ _ log handling _ _ handled later ih =>
    by_cases started : handling.status = .started
    · have active : programIsActive world.store = false := by
        rw [← Bool.not_eq_true]
        intro busy
        rw [(handled.busy busy).1] at started
        contradiction
      obtain ⟨_,still⟩ := (handled.asked active).resolve_left (by simp [started])
      have skipped := later.busy still
      have none : log.filter (·.status = .started) = [] := by
        rw [List.filter_eq_nil_iff]
        intro other member
        simp [skipped other member]
      rw [List.filter_cons_of_pos (by simpa using started),none]
      simp
    · rw [List.filter_cons_of_neg (by simpa using started)]
      exact ih

end Ticking

end Irrigation
