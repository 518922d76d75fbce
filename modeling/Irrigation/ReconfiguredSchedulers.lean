import Irrigation.DueOccurrences

/-! When the scheduler accepts new entries, and what it then stores for each of them. Only
the entry count of the store and distinct ids of the old entries are asked for: the old
entries themselves need not be valid. -/
namespace Irrigation

/-- What the scheduler asks of one entry. -/
structure SchedulerEntry.Valid (entry : SchedulerEntry) : Prop where
  id : entry.id ≠ none
  someDay : entry.weekdayMask ≠ 0
  weekdays : entry.weekdayMask < 128
  hour : entry.hour < 24
  minute : entry.minute < 60
  program : entry.program ≠ none

theorem entryIsValid_iff (entry : SchedulerEntry) : entryIsValid entry = true ↔ entry.Valid := by
  simp only [entryIsValid,Bool.and_eq_true,bne_iff_ne,beq_iff_eq,decide_eq_true_eq,weekdaysOnly_iff,
    Option.isSome_iff_ne_none]
  constructor
  · rintro ⟨⟨⟨⟨⟨id,someDay⟩,weekdays⟩,hour⟩,minute⟩,program⟩
    exact ⟨id,someDay,weekdays,hour,minute,program⟩
  · rintro ⟨id,someDay,weekdays,hour,minute,program⟩
    exact ⟨⟨⟨⟨⟨id,someDay⟩,weekdays⟩,hour⟩,minute⟩,program⟩

variable {ε : Type}

/-- An old entry that says the same in every field and was handled, with the occurrence stored for it. -/
def HandledAs (world : World ε) (entry : SchedulerEntry) (occurrence : UInt64 × ScheduleOccurrenceStatus) : Prop :=
  ∃ (index : Nat) (previous : SchedulerEntry), world.entries[index]? = some previous ∧
    entry.content world.memory = previous.content world.memory ∧
    world.store.scheduler.occurrence index = occurrence ∧ occurrence.2 ≠ .none

/-- The entries a scheduler runs and what its store holds for each of them. -/
structure TakesOn (world next : World ε) (entries : List SchedulerEntry) : Prop where
  running : next.entries = entries
  count : next.store.scheduler.entryCount = entries.length
  carried : ∀ index entry, entries[index]? = some entry → ∀ occurrence, HandledAs world entry occurrence →
    next.store.scheduler.occurrence index = occurrence
  unhandled : ∀ index entry, entries[index]? = some entry → (∀ occurrence, ¬HandledAs world entry occurrence) →
    next.store.scheduler.occurrence index = unhandledOccurrence

/-- What the store holds for an entry taken on is the occurrence of the unchanged old entry, if it was handled. -/
theorem storedOccurrence_handledAs {world : World ε}
    (count : world.store.scheduler.entryCount = world.entries.length)
    (distinct : (world.entries.map (·.idText world.memory)).Nodup) {entry : SchedulerEntry}
    {occurrence : UInt64 × ScheduleOccurrenceStatus} (handled : HandledAs world entry occurrence) :
    storedOccurrence (preservedOccurrence world entry) = occurrence := by
  obtain ⟨index,previous,given,unchanged,rfl,status⟩ := handled
  rw [preservedOccurrence_unchanged count distinct given unchanged,storedOccurrence,if_neg status]

theorem storedOccurrence_unhandled {world : World ε}
    (count : world.store.scheduler.entryCount = world.entries.length)
    (distinct : (world.entries.map (·.idText world.memory)).Nodup) {entry : SchedulerEntry}
    (unhandled : ∀ occurrence, ¬HandledAs world entry occurrence) :
    storedOccurrence (preservedOccurrence world entry) = unhandledOccurrence := by
  by_cases known : ∃ previous ∈ world.entries, entry.content world.memory = previous.content world.memory
  · obtain ⟨previous,member,unchanged⟩ := known
    obtain ⟨index,given⟩ := List.mem_iff_getElem?.mp member
    rw [preservedOccurrence_unchanged count distinct given unchanged,storedOccurrence]
    split
    · rfl
    · next status => exact absurd ⟨index,previous,given,unchanged,rfl,status⟩ (unhandled _)
  · refine carried_new fun previous member unchanged => known ⟨previous,member,unchanged⟩

theorem Reconfigured.takesOn {world next : World ε} {entries : List SchedulerEntry}
    (reconfigured : Reconfigured world next entries)
    (count : world.store.scheduler.entryCount = world.entries.length)
    (distinct : (world.entries.map (·.idText world.memory)).Nodup) : TakesOn world next entries where
  running := reconfigured.entries
  count := reconfigured.count
  carried := fun index entry given _ handled =>
    (reconfigured.occurrences index entry given).trans (storedOccurrence_handledAs count distinct handled)
  unhandled := fun index entry given unhandled =>
    (reconfigured.occurrences index entry given).trans (storedOccurrence_unhandled count distinct unhandled)

/-- The scheduler takes new entries on exactly when there is room for them, each is valid and their ids
differ; refused entries leave its own and everything stored as they are. -/
theorem reconfiguration_exact {world : World ε} (count : world.store.scheduler.entryCount = world.entries.length)
    (distinct : (world.entries.map (·.idText world.memory)).Nodup) (entries : List SchedulerEntry) :
    let answer := schedulerServiceConfigure entries world
    (answer.1 = .ok ↔ entries.length ≤ 16 ∧ (∀ entry ∈ entries, entry.Valid) ∧
      (entries.map (·.idText world.memory)).Nodup) ∧
    (answer.1 = .ok → TakesOn world answer.2 entries) ∧
    (answer.1 ≠ .ok → answer.2.entries = world.entries ∧ answer.2.store = world.store) := by
  intro answer
  have accepted_iff : entriesAreAccepted world.memory entries = true ↔
      (∀ entry ∈ entries, entry.Valid) ∧ (entries.map (·.idText world.memory)).Nodup := by
    rw [entriesAreAccepted_iff]
    simp only [entryIsValid_iff]
  rcases schedulerServiceConfigureLocked_cases entries world.locked with
    ⟨refused,run⟩ | ⟨⟨room,accepted⟩,next,run,reconfigured⟩
  · have answered : answer = (.rejected,world.locked.unlocked) := by
      simp only [answer,schedulerServiceConfigure,run_bind]
      exact congrArg (fun outcome => (outcome.1,outcome.2.unlocked)) run
    have unaccepted : ¬(entries.length ≤ 16 ∧ (∀ entry ∈ entries, entry.Valid) ∧
        (entries.map (·.idText world.memory)).Nodup) := by
      rw [← accepted_iff]
      rintro ⟨room,accepted⟩
      rcases refused with crowded | unaccepted
      · exact absurd room (Nat.not_le.mpr crowded)
      · exact absurd (accepted.symm.trans unaccepted) (by decide)
    have rejected : IrrigationResult.rejected ≠ .ok := by decide
    rw [answered]
    exact ⟨iff_of_false rejected unaccepted,fun wrong => absurd wrong rejected,fun _ => ⟨rfl,rfl⟩⟩
  · have answered : answer = (.ok,next.unlocked) := by
      simp only [answer,schedulerServiceConfigure,run_bind]
      exact congrArg (fun outcome => (outcome.1,outcome.2.unlocked)) run
    have takes : TakesOn world.locked next entries := reconfigured.takesOn count distinct
    rw [answered]
    exact ⟨iff_of_true rfl ⟨room,accepted_iff.mp accepted⟩,
      fun _ => ⟨takes.running,takes.count,takes.carried,takes.unhandled⟩,fun wrong => absurd rfl wrong⟩

/-- The development kit's scheduler after its entry ran on Monday. -/
def devRan : World UInt64 :=
  (schedulerServiceProcess quietDrivers devMonday (schedulerServiceConfigure [devEntry]
    (devScheduled.remembering ⟨fun _ => devProgram,fun address => .literal (if address = 0 then "monday" else "tuesday")⟩)).2).2

/-- It keeps its occurrence behind a new entry. -/
theorem reconfiguration_exact_devRan :
    let entries : List SchedulerEntry := [⟨some 1,true,2,7,30,some 1⟩,devEntry]
    ((schedulerServiceConfigure entries devRan).1 = .ok ↔ entries.length ≤ 16 ∧ (∀ entry ∈ entries, entry.Valid) ∧
      (entries.map (·.idText devRan.memory)).Nodup) ∧
    (schedulerServiceConfigure entries devRan).2.store.scheduler.occurrence 1 = (occurrenceFor devMonday,.started) := by
  intro entries
  have count : devRan.store.scheduler.entryCount = devRan.entries.length := by decide +kernel
  obtain ⟨accepts,takes,_⟩ := reconfiguration_exact count (by decide +kernel) entries
  refine ⟨accepts,?_⟩
  have ok : (schedulerServiceConfigure entries devRan).1 = .ok := by decide +kernel
  refine (takes ok).carried 1 devEntry rfl _ ⟨0,devEntry,?_,rfl,?_,?_⟩
  · decide +kernel
  · decide +kernel
  · decide

end Irrigation
