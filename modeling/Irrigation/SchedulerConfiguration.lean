import Irrigation.ServiceSteps

/-! Reconfiguring the scheduler. The new entries replace the old ones as a whole, and an
entry that stands unchanged among the old ones takes its occurrence over from there. -/
namespace Irrigation

/-! ### The service -/

def entryIsValid (entry : SchedulerEntry) : Bool :=
  entry.id.isSome && entry.weekdayMask != 0 && (entry.weekdayMask &&& ~~~(127 : UInt8)) == 0 &&
    entry.hour < 24 && entry.minute < 60 && entry.program.isSome

def SchedulerEntry.idText (memory : Memory) (entry : SchedulerEntry) : Option CString := entry.id.map memory.text

/-- The ids are compared as texts, the programs as pointers. -/
def entriesAreUnchanged (memory : Memory) (left right : SchedulerEntry) : Bool :=
  left.idText memory == right.idText memory && left.enabled == right.enabled &&
    left.weekdayMask == right.weekdayMask && left.hour == right.hour && left.minute == right.minute &&
    left.program == right.program

/-- The test of each new entry, itself and against the ones before it. -/
def entryIsAccepted (memory : Memory) (previous : List SchedulerEntry) (entry : SchedulerEntry) : Bool :=
  entryIsValid entry && previous.all fun earlier => earlier.idText memory != entry.idText memory

def entriesAreAccepted (memory : Memory) (entries : List SchedulerEntry) : Bool :=
  checkEach (entryIsAccepted memory) [] entries

variable {ε : Type}

/-- What an entry takes over from the first unchanged one; zeroed when there is none. -/
def preservedOccurrence (world : World ε) (entry : SchedulerEntry) : UInt64 × ScheduleOccurrenceStatus :=
  match world.entries.findIdx? (entriesAreUnchanged world.memory entry) with
  | none => (0,.none)
  | some previous =>
    match stateStoreGetScheduleOccurrence world.store previous with
    | .error _ => (0,.none)
    | .ok preserved => preserved

def restoreOccurrences : Nat → List (UInt64 × ScheduleOccurrenceStatus) → Service ε IrrigationResult
  | _, [] => pure .ok
  | index, preserved :: rest => do
    let result ← commit (if preserved.2 = .none then (stateStoreResetScheduleOccurrence · index)
      else (stateStoreRecordScheduleOccurrence · index preserved.1 preserved.2))
    if result ≠ .ok then pure result else restoreOccurrences (index + 1) rest

def setServiceEntries (entries : List SchedulerEntry) : Service ε Unit := fun world => ((),{ world with entries })

def schedulerServiceConfigureLocked (entries : List SchedulerEntry) : Service ε IrrigationResult := do
  let world ← get
  if entries.length > irrigationMaxSchedules ∨ entriesAreAccepted world.memory entries = false then pure .rejected
  else do
    let result ← commit (stateStoreConfigureScheduler · entries.length)
    if result ≠ .ok then pure result
    else do
      let result ← restoreOccurrences 0 (entries.map (preservedOccurrence world))
      if result ≠ .ok then pure result
      else do
        setServiceEntries entries
        pure .ok

def schedulerServiceConfigure (entries : List SchedulerEntry) : Service ε IrrigationResult := do
  schedulerServiceLock
  let result ← schedulerServiceConfigureLocked entries
  schedulerServiceUnlock
  pure result

/-! ### What reconfiguring compares -/

/-- An entry with its id read. -/
structure EntryContent where
  id : Option CString
  enabled : Bool
  weekdayMask : UInt8
  hour : UInt8
  minute : UInt8
  program : Option ProgramAddress
  deriving DecidableEq, Repr

def SchedulerEntry.content (memory : Memory) (entry : SchedulerEntry) : EntryContent :=
  ⟨entry.idText memory,entry.enabled,entry.weekdayMask,entry.hour,entry.minute,entry.program⟩

theorem entriesAreUnchanged_iff (memory : Memory) (left right : SchedulerEntry) :
    entriesAreUnchanged memory left right = true ↔ left.content memory = right.content memory := by
  simp [entriesAreUnchanged,SchedulerEntry.content,and_assoc]

theorem entriesAreAccepted_iff (memory : Memory) (entries : List SchedulerEntry) :
    entriesAreAccepted memory entries = true ↔
      (∀ entry ∈ entries, entryIsValid entry = true) ∧ (entries.map (·.idText memory)).Nodup := by
  apply checkEach_iff
  intro previous entry
  simp [entryIsAccepted]

/-! ### What reconfiguring stores -/

/-- The occurrence an entry is stored with and its status. -/
def SchedulerRuntimeState.occurrence (scheduler : SchedulerRuntimeState) (index : Nat) :
    UInt64 × ScheduleOccurrenceStatus :=
  (scheduler.lastHandledOccurrence index,scheduler.lastOccurrenceStatus index)

def unhandledOccurrence : UInt64 × ScheduleOccurrenceStatus := (scheduleOccurrenceUnhandled,.none)

/-- An entry without a status has handled nothing. -/
def SchedulerRuntimeState.Tidy (scheduler : SchedulerRuntimeState) : Prop :=
  ∀ index, (scheduler.occurrence index).2 = .none → scheduler.occurrence index = unhandledOccurrence

/-- What is stored for a preserved occurrence. -/
def storedOccurrence (preserved : UInt64 × ScheduleOccurrenceStatus) : UInt64 × ScheduleOccurrenceStatus :=
  if preserved.2 = .none then unhandledOccurrence else preserved

theorem storedOccurrence_none (preserved : UInt64 × ScheduleOccurrenceStatus)
    (none : (storedOccurrence preserved).2 = .none) : storedOccurrence preserved = unhandledOccurrence := by
  unfold storedOccurrence at none ⊢
  split
  · rfl
  · next handled =>
    rw [if_neg handled] at none
    contradiction

theorem storedOccurrence_of_tidy {scheduler : SchedulerRuntimeState} (tidy : scheduler.Tidy) (index : Nat) :
    storedOccurrence (scheduler.occurrence index) = scheduler.occurrence index := by
  unfold storedOccurrence
  split
  · next none => exact (tidy index none).symm
  · rfl

theorem SchedulerRuntimeState.occurrence_record (scheduler : SchedulerRuntimeState) (index position : Nat)
    (occurrence : UInt64) (status : ScheduleOccurrenceStatus) :
    (scheduler.record index occurrence status).occurrence position =
      if position = index then (occurrence,status) else scheduler.occurrence position := by
  unfold SchedulerRuntimeState.record SchedulerRuntimeState.occurrence
  split
  · next same => rw [same]; simp
  · next other => simp [other]

/-- The world with another scheduler record in its store. -/
def World.withScheduler (world : World ε) (scheduler : SchedulerRuntimeState) : World ε :=
  { world with store := { world.store with scheduler } }

@[simp] theorem World.withScheduler_scheduler (world : World ε) (scheduler : SchedulerRuntimeState) :
    (world.withScheduler scheduler).store.scheduler = scheduler := rfl

theorem restoreOccurrence_run {world : World ε} {index : Nat} (inside : index < world.store.scheduler.entryCount)
    (preserved : UInt64 × ScheduleOccurrenceStatus) :
    commit (if preserved.2 = .none then (stateStoreResetScheduleOccurrence · index)
        else (stateStoreRecordScheduleOccurrence · index preserved.1 preserved.2)) world =
      (.ok,world.withScheduler
        (world.store.scheduler.record index (storedOccurrence preserved).1 (storedOccurrence preserved).2)) := by
  apply run_commit_ok
  by_cases none : preserved.2 = .none
  · rw [if_pos none,storedOccurrence,if_pos none]
    exact if_neg (Nat.not_le.mpr inside)
  · rw [if_neg none,storedOccurrence,if_neg none]
    exact if_neg (not_or.mpr ⟨Nat.not_le.mpr inside,none⟩)

theorem restoreOccurrences_run (preserved : List (UInt64 × ScheduleOccurrenceStatus)) (index : Nat)
    (world : World ε) (room : index + preserved.length ≤ world.store.scheduler.entryCount) :
    ∃ scheduler, restoreOccurrences index preserved world = (.ok,world.withScheduler scheduler) ∧
      scheduler.entryCount = world.store.scheduler.entryCount ∧
      (∀ position < index, scheduler.occurrence position = world.store.scheduler.occurrence position) ∧
      (∀ position, scheduler.occurrence (index + preserved.length + position) =
        world.store.scheduler.occurrence (index + preserved.length + position)) ∧
      ∀ position occurrence, preserved[position]? = some occurrence →
        scheduler.occurrence (index + position) = storedOccurrence occurrence := by
  induction preserved generalizing index world with
  | nil => exact ⟨world.store.scheduler,rfl,rfl,fun _ _ => rfl,fun _ => rfl,by simp⟩
  | cons first rest ih =>
    rw [List.length_cons] at room
    have one := restoreOccurrence_run (by omega : index < world.store.scheduler.entryCount) first
    obtain ⟨scheduler,run,count,before,beyond,inside⟩ := ih (index + 1) (world.withScheduler
        (world.store.scheduler.record index (storedOccurrence first).1 (storedOccurrence first).2)) (by
      rw [World.withScheduler_scheduler]
      change index + 1 + rest.length ≤ world.store.scheduler.entryCount
      omega)
    simp only [World.withScheduler_scheduler,SchedulerRuntimeState.occurrence_record] at before beyond
    refine ⟨scheduler,?_,count,?_,?_,?_⟩
    · simp only [restoreOccurrences,run_bind_of one,not_true_eq_false,if_false,ne_eq]
      exact run
    · intro position below
      rw [before position (by omega),if_neg (by omega)]
    · intro position
      have later := beyond position
      rw [if_neg (by omega)] at later
      rw [List.length_cons,show index + (rest.length + 1) + position = index + 1 + rest.length + position by omega]
      exact later
    · intro position occurrence given
      cases position with
      | zero =>
        cases given
        rw [Nat.add_zero,before index (by omega),if_pos rfl]
      | succ position =>
        rw [show index + (position + 1) = index + 1 + position by omega]
        exact inside position occurrence given

/-- From a world to the next the scheduler took these entries on. -/
structure Reconfigured (world next : World ε) (entries : List SchedulerEntry) : Prop where
  taken : ∃ scheduler, next = { world.withScheduler scheduler with entries }
  count : next.store.scheduler.entryCount = entries.length
  occurrences : ∀ index entry, entries[index]? = some entry →
    next.store.scheduler.occurrence index = storedOccurrence (preservedOccurrence world entry)
  beyond : ∀ index, entries.length ≤ index →
    next.store.scheduler.occurrence index = world.store.scheduler.occurrence index

/-- Refused entries leave everything alone; accepted ones are taken on. -/
theorem schedulerServiceConfigureLocked_cases (entries : List SchedulerEntry) (world : World ε) :
    ((entries.length > irrigationMaxSchedules ∨ entriesAreAccepted world.memory entries = false) ∧
      schedulerServiceConfigureLocked entries world = (.rejected,world)) ∨
    ((entries.length ≤ irrigationMaxSchedules ∧ entriesAreAccepted world.memory entries = true) ∧
      ∃ next, schedulerServiceConfigureLocked entries world = (.ok,next) ∧ Reconfigured world next entries) := by
  by_cases refused : entries.length > irrigationMaxSchedules ∨ entriesAreAccepted world.memory entries = false
  · refine .inl ⟨refused,?_⟩
    simp only [schedulerServiceConfigureLocked,run_get_bind,run_ite,if_pos refused,run_pure]
  · obtain ⟨room,accepted⟩ := not_or.mp refused
    rw [Nat.not_lt] at room
    rw [Bool.not_eq_false] at accepted
    have counted : commit (stateStoreConfigureScheduler · entries.length) world =
        (.ok,world.withScheduler { world.store.scheduler with entryCount := entries.length }) :=
      run_commit_ok (if_neg (Nat.not_lt.mpr room))
    obtain ⟨scheduler,restored,count,_,beyond,inside⟩ := restoreOccurrences_run
      (entries.map (preservedOccurrence world)) 0
      (world.withScheduler { world.store.scheduler with entryCount := entries.length }) (by simp)
    refine .inr ⟨⟨room,accepted⟩,{ world.withScheduler scheduler with entries },?_,?_⟩
    · simp only [schedulerServiceConfigureLocked,run_get_bind,run_ite,if_neg refused,run_bind_of counted,
        run_bind_of restored,ne_eq,not_true_eq_false,if_false]
      rfl
    · refine ⟨⟨scheduler,rfl⟩,count,?_,?_⟩
      · intro index entry given
        have stored := inside index (preservedOccurrence world entry) (by rw [List.getElem?_map,given]; rfl)
        rw [Nat.zero_add] at stored
        exact stored
      · intro index outside
        have kept := beyond (index - entries.length)
        rw [List.length_map,Nat.zero_add,Nat.add_sub_cancel' outside] at kept
        exact kept

/-! ### A scheduler in step with its store -/

/-- The store counts the scheduler's entries, their ids differ, and none without a status has
handled an occurrence. -/
structure InStep (world : World ε) : Prop where
  count : world.store.scheduler.entryCount = world.entries.length
  accepted : entriesAreAccepted world.memory world.entries = true
  tidy : world.store.scheduler.Tidy

theorem entry_unique {world : World ε} (distinct : (world.entries.map (·.idText world.memory)).Nodup)
    {first second : Nat} {one other : SchedulerEntry} (firstGiven : world.entries[first]? = some one)
    (secondGiven : world.entries[second]? = some other)
    (same : one.idText world.memory = other.idText world.memory) : first = second := by
  have inside := (List.getElem?_eq_some_iff.mp firstGiven).1
  apply (List.getElem?_inj (by simpa using inside) distinct).mp
  rw [List.getElem?_map,List.getElem?_map,firstGiven,secondGiven]
  exact congrArg some same

theorem InStep.unique {world : World ε} (inStep : InStep world) {first second : Nat} {one other : SchedulerEntry}
    (firstGiven : world.entries[first]? = some one) (secondGiven : world.entries[second]? = some other)
    (same : one.idText world.memory = other.idText world.memory) : first = second :=
  entry_unique ((entriesAreAccepted_iff _ _).mp inStep.accepted).2 firstGiven secondGiven same

/-- The occurrence taken over from old entries with distinct ids is that of the unchanged one, wherever
it stands. -/
theorem preservedOccurrence_unchanged {world : World ε}
    (count : world.store.scheduler.entryCount = world.entries.length)
    (distinct : (world.entries.map (·.idText world.memory)).Nodup) {entry previous : SchedulerEntry} {index : Nat}
    (given : world.entries[index]? = some previous)
    (unchanged : entry.content world.memory = previous.content world.memory) :
    preservedOccurrence world entry = world.store.scheduler.occurrence index := by
  have inside := (List.getElem?_eq_some_iff.mp given).1
  have found : world.entries.findIdx? (entriesAreUnchanged world.memory entry) = some index := by
    rw [List.findIdx?_eq_some_iff_getElem]
    refine ⟨inside,?_,?_⟩
    · rw [entriesAreUnchanged_iff,unchanged,(List.getElem?_eq_some_iff.mp given).2]
    · intro other before hit
      rw [entriesAreUnchanged_iff] at hit
      have same := congrArg EntryContent.id (hit.symm.trans unchanged)
      have equal := entry_unique distinct (List.getElem?_eq_getElem (by omega)) given same
      omega
  have stored : stateStoreGetScheduleOccurrence world.store index = .ok (world.store.scheduler.occurrence index) :=
    if_neg (by rw [count]; omega)
  simp only [preservedOccurrence,found,stored]

/-- An entry that stands unchanged among the old ones is stored with their occurrence. -/
theorem InStep.carried {world : World ε} (inStep : InStep world) {entry previous : SchedulerEntry} {index : Nat}
    (given : world.entries[index]? = some previous)
    (unchanged : entry.content world.memory = previous.content world.memory) :
    storedOccurrence (preservedOccurrence world entry) = world.store.scheduler.occurrence index := by
  rw [preservedOccurrence_unchanged inStep.count ((entriesAreAccepted_iff _ _).mp inStep.accepted).2 given unchanged]
  exact storedOccurrence_of_tidy inStep.tidy index

/-- A new or changed entry is stored unhandled. -/
theorem carried_new {world : World ε} {entry : SchedulerEntry}
    (changed : ∀ previous ∈ world.entries, entry.content world.memory ≠ previous.content world.memory) :
    storedOccurrence (preservedOccurrence world entry) = unhandledOccurrence := by
  have absent : world.entries.findIdx? (entriesAreUnchanged world.memory entry) = none := by
    rw [List.findIdx?_eq_none_iff]
    intro previous member
    rw [← Bool.not_eq_true,entriesAreUnchanged_iff]
    exact changed previous member
  simp only [preservedOccurrence,absent]
  rfl

theorem Reconfigured.memory {world next : World ε} {entries : List SchedulerEntry}
    (reconfigured : Reconfigured world next entries) : next.memory = world.memory := by
  obtain ⟨_,rfl⟩ := reconfigured.taken
  rfl

theorem Reconfigured.entries {world next : World ε} {entries : List SchedulerEntry}
    (reconfigured : Reconfigured world next entries) : next.entries = entries := by
  obtain ⟨_,rfl⟩ := reconfigured.taken
  rfl

/-- Reconfiguring keeps the scheduler in step. -/
theorem Reconfigured.inStep {world next : World ε} {entries : List SchedulerEntry}
    (reconfigured : Reconfigured world next entries) (accepted : entriesAreAccepted world.memory entries = true)
    (tidy : world.store.scheduler.Tidy) : InStep next where
  count := by rw [reconfigured.entries]; exact reconfigured.count
  accepted := by rw [reconfigured.entries,reconfigured.memory]; exact accepted
  tidy := by
    intro index none
    rcases Nat.lt_or_ge index entries.length with inside | outside
    · have stored := reconfigured.occurrences index _ (List.getElem?_eq_getElem inside)
      rw [stored] at none ⊢
      exact storedOccurrence_none _ none
    · rw [reconfigured.beyond index outside] at none ⊢
      exact tidy index none

end Irrigation
