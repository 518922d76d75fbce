import Irrigation.SchedulerTicks
import Irrigation.LiveMutations
import Irrigation.ConfigurationRollback

/-! Runs of ticks, other operations and reconfigurations that leave one entry alone: each
occurrence in which the entry falls due is handled exactly once. -/
namespace Irrigation

variable {ε : Type} (drivers : Drivers ε)

/-! ### The calls of a run -/

def SchedulerEntry.enable (enabled : Bool) (entry : SchedulerEntry) : SchedulerEntry := { entry with enabled }

/-- `scheduler_service_set_enabled` -/
def schedulerServiceSetEnabled (entryIndex : Nat) (enabled : Bool) : Service ε IrrigationResult := do
  schedulerServiceLock
  let world ← get
  if entryIndex ≥ world.entries.length then do
    schedulerServiceUnlock
    pure .notFound
  else do
    let result ← commit (stateStoreResetScheduleOccurrence · entryIndex)
    if result = .ok then
      setServiceEntries (world.entries.modify entryIndex (.enable enabled))
    schedulerServiceUnlock
    pure result

/-- A reconfiguration offers entries after the objects they point to were rewritten in place. -/
inductive SchedulerCall where
  | operation (command : Command)
  | configure (memory : Memory) (entries : List SchedulerEntry)
  | setEnabled (entryIndex : Nat) (enabled : Bool)

def schedulerCall : SchedulerCall → World ε → World ε
  | .operation command, world => operate drivers command world
  | .configure memory entries, world => (schedulerServiceConfigure entries (world.remembering memory)).2
  | .setEnabled entryIndex enabled, world => (schedulerServiceSetEnabled entryIndex enabled world).2

/-- An entry's occurrence as a tick handled it. -/
structure HandledOccurrence where
  content : EntryContent
  occurrence : UInt64
  startCalled : Bool
  status : ScheduleOccurrenceStatus
  deriving DecidableEq, Repr

def handledOccurrences : SchedulerCall → World ε → List HandledOccurrence
  | .operation (.schedulerProcess now), world => (tickLog drivers now world).map fun handling =>
    ⟨handling.entry.content world.memory,occurrenceFor now,handling.startCalled,handling.status⟩
  | _, _ => []

/-- The occurrences of the ticks of a run. -/
def tickOccurrences (calls : List SchedulerCall) : List UInt64 :=
  calls.filterMap fun
    | .operation (.schedulerProcess now) => some (occurrenceFor now)
    | _ => none

/-- An entry of this content falls due at a time that it has not handled. -/
def EntryContent.timely (content : EntryContent) (now : SchedulerTime) : Bool :=
  content.enabled && (content.weekdayMask.toUInt32 &&& (1 <<< now.weekday.toUInt32)) != 0 &&
    now.hour.toUInt16 * 60 + now.minute.toUInt16 == content.hour.toUInt16 * 60 + content.minute.toUInt16

/-- Ticks have valid times, and reconfigurations leave the entry of this content as it stands. The
texts of running entries survive the rewriting before, as they do in a rebuild of the views. -/
def Undisturbed (content : EntryContent) : SchedulerCall → World ε → Prop
  | .operation (.schedulerProcess now), _ => schedulerTimeIsValid now = true
  | .operation _, _ => True
  | .configure memory entries, world => (world.remembering memory).contents = world.contents ∧
      content ∈ (schedulerCall drivers (.configure memory entries) world).contents
  | .setEnabled entryIndex _, world => world.contents[entryIndex]? ≠ some content

/-- The scheduler is in step and has an entry of this content. -/
structure Watched (content : EntryContent) (world : World ε) : Prop where
  inStep : InStep world
  member : content ∈ world.contents

/-! ### Calls that are no ticks -/

section Silent

variable {drivers} {content : EntryContent} {world : World ε}

theorem entryIsDue_eq (state : RuntimeState) (memory : Memory) (now : SchedulerTime) (index : Nat)
    (entry : SchedulerEntry) : entryIsDue state now index entry =
      ((entry.content memory).timely now && state.scheduler.lastHandledOccurrence index != occurrenceFor now) := rfl

variable (drivers) in
theorem operate_frame {command : Command} (silent : ∀ now, command ≠ .schedulerProcess now) (world : World ε) :
    (operate drivers command world).entries = world.entries ∧
      (operate drivers command world).memory = world.memory := by
  cases command with
  | zoneOpen zoneId durationMs =>
    obtain ⟨_,_,back⟩ := zoneServiceOpen_cases drivers zoneId durationMs world
    exact ⟨back.entries,back.memory⟩
  | zoneClose zoneId =>
    obtain ⟨_,_,back⟩ := zoneServiceClose_cases drivers zoneId world
    exact ⟨back.entries,back.memory⟩
  | zoneSafeClose =>
    obtain ⟨_,_,back⟩ := zoneServiceSafeClose_cases drivers world
    exact ⟨back.entries,back.memory⟩
  | zoneProcessTimeouts =>
    obtain ⟨_,_,back⟩ := zoneServiceProcessTimeouts_cases drivers world
    exact ⟨back.entries,back.memory⟩
  | masterOpen =>
    obtain ⟨_,_,back⟩ := masterValveServiceOpen_cases drivers world
    exact ⟨back.entries,back.memory⟩
  | masterClose =>
    obtain ⟨_,_,back⟩ := masterValveServiceClose_cases drivers world
    exact ⟨back.entries,back.memory⟩
  | masterProcessTime =>
    obtain ⟨_,_,back⟩ := masterValveServiceProcessTime_run drivers world
    exact ⟨back.entries,back.memory⟩
  | programStart program =>
    obtain ⟨_,entries,memory,_⟩ := programServiceStartWithContext_asked drivers program programStartContextManual world
    exact ⟨entries,memory⟩
  | programProcess =>
    obtain ⟨_,_,back⟩ := programServiceProcess_cases drivers world
    exact ⟨back.entries,back.memory⟩
  | programAbort =>
    rcases programServiceAbort_cases drivers world with ⟨_,rejected⟩ | ⟨_,_,_,back⟩
    · simp only [operate,execute,rejected]
      exact ⟨trivial,trivial⟩
    · exact ⟨back.entries,back.memory⟩
  | schedulerProcess now => exact absurd rfl (silent now)

/-- A world with the same entries and the same record has handled the same. -/
theorem Watched.same {next : World ε} (watched : Watched content world) (entries : next.entries = world.entries)
    (memory : next.memory = world.memory) (scheduler : next.store.scheduler = world.store.scheduler) :
    Watched content next ∧ next.handled content = world.handled content := by
  have contents : next.contents = world.contents := by rw [World.contents,World.contents,entries,memory]
  refine ⟨⟨⟨?_,?_,?_⟩,?_⟩,?_⟩
  · rw [scheduler,entries]
    exact watched.inStep.count
  · rw [memory,entries]
    exact watched.inStep.accepted
  · rw [scheduler]
    exact watched.inStep.tidy
  · rw [contents]
    exact watched.member
  · rw [World.handled,World.handled,contents,scheduler]

theorem InStep.locked (inStep : InStep world) : InStep world.locked := ⟨inStep.count,inStep.accepted,inStep.tidy⟩

theorem InStep.unlocked (inStep : InStep world) : InStep world.unlocked := ⟨inStep.count,inStep.accepted,inStep.tidy⟩

/-- A reconfiguration that leaves the entry as it stands leaves what it handled. -/
theorem Watched.configured (watched : Watched content world) {memory : Memory} {entries : List SchedulerEntry}
    (undisturbed : Undisturbed drivers content (.configure memory entries) world) :
    let next := schedulerCall drivers (.configure memory entries) world
    Watched content next ∧ next.handled content = world.handled content := by
  intro next
  obtain ⟨same,stands⟩ := undisturbed
  change content ∈ next.contents at stands
  have offered : InStep (world.remembering memory).locked := (watched.inStep.remembering same).locked
  have before : (world.remembering memory).locked.handled content = world.handled content :=
    handled_remembering world same content
  rcases schedulerServiceConfigureLocked_cases entries (world.remembering memory).locked with
    ⟨_,run⟩ | ⟨⟨_,accepted⟩,taken,run,reconfigured⟩
  · have reached : next = (world.remembering memory).locked.unlocked := congrArg (·.2.unlocked) run
    rw [reached] at stands ⊢
    exact ⟨⟨offered.unlocked,stands⟩,before⟩
  · have reached : next = taken.unlocked := congrArg (·.2.unlocked) run
    rw [reached] at stands ⊢
    change content ∈ taken.contents at stands
    have inStep := reconfigured.inStep accepted offered.tidy
    have handled := reconfigured.handled offered inStep content
    rw [if_pos stands,before] at handled
    exact ⟨⟨inStep.unlocked,stands⟩,handled⟩

theorem SchedulerRuntimeState.Tidy.reset {scheduler : SchedulerRuntimeState} (tidy : scheduler.Tidy) (index : Nat) :
    (scheduler.record index scheduleOccurrenceUnhandled .none).Tidy := by
  intro position
  rw [SchedulerRuntimeState.occurrence_record]
  split
  · exact fun _ => rfl
  · exact tidy position

theorem accepted_switched (memory : Memory) (entries : List SchedulerEntry) (entryIndex : Nat) (enabled : Bool) :
    entriesAreAccepted memory (entries.modify entryIndex (.enable enabled)) = entriesAreAccepted memory entries := by
  have valid : (entries.modify entryIndex (.enable enabled)).map entryIsValid =
      (entries.map entryIsValid).modify entryIndex id := map_modify entryIsValid (.enable enabled) id (fun _ => rfl) entries entryIndex
  have ids : (entries.modify entryIndex (.enable enabled)).map (·.idText memory) =
      (entries.map (·.idText memory)).modify entryIndex id :=
    map_modify (·.idText memory) (.enable enabled) id (fun _ => rfl) entries entryIndex
  rw [List.modify_id] at valid ids
  have each (list : List SchedulerEntry) : (∀ entry ∈ list, entryIsValid entry = true) ↔
      ∀ answer ∈ list.map entryIsValid, answer = true := by rw [List.forall_mem_map]
  rw [Bool.eq_iff_iff,entriesAreAccepted_iff,entriesAreAccepted_iff,ids,each,valid,← each]

theorem schedulerServiceSetEnabled_outside {entryIndex : Nat} (enabled : Bool)
    (outside : entryIndex ≥ world.entries.length) :
    (schedulerServiceSetEnabled entryIndex enabled world).2 = world.locked.unlocked := by
  have missing : entryIndex ≥ world.locked.entries.length := outside
  have lock : schedulerServiceLock world = ((),world.locked) := rfl
  simp only [schedulerServiceSetEnabled,run_bind_of lock,run_get_bind,run_ite,if_pos missing]
  rfl

/-- A switched entry's occurrence is reset, and nothing else changes. -/
theorem schedulerServiceSetEnabled_inside (inStep : InStep world) {entryIndex : Nat} (enabled : Bool)
    (inside : ¬entryIndex ≥ world.entries.length) :
    (schedulerServiceSetEnabled entryIndex enabled world).2 = World.unlocked { world.locked.withScheduler
      (world.store.scheduler.record entryIndex scheduleOccurrenceUnhandled .none) with
        entries := world.entries.modify entryIndex (.enable enabled) } := by
  have present : ¬entryIndex ≥ world.locked.entries.length := inside
  have lock : schedulerServiceLock world = ((),world.locked) := rfl
  have counted : ¬entryIndex ≥ world.store.scheduler.entryCount := by rwa [inStep.count]
  have reset : commit (stateStoreResetScheduleOccurrence · entryIndex) world.locked =
      (.ok,world.locked.withScheduler (world.store.scheduler.record entryIndex scheduleOccurrenceUnhandled .none)) :=
    run_commit_ok (if_neg counted)
  simp only [schedulerServiceSetEnabled,run_bind_of lock,run_get_bind,run_ite,if_neg present,run_bind_of reset,if_true]
  rfl

/-- Switching another entry leaves this one as it stands. -/
theorem Watched.switched (watched : Watched content world) {entryIndex : Nat} {enabled : Bool}
    (undisturbed : Undisturbed drivers content (.setEnabled entryIndex enabled) world) :
    let next := schedulerCall drivers (.setEnabled entryIndex enabled) world
    Watched content next ∧ next.handled content = world.handled content := by
  intro next
  have apart : world.contents[entryIndex]? ≠ some content := undisturbed
  by_cases outside : entryIndex ≥ world.entries.length
  · have reached : next = world.locked.unlocked := schedulerServiceSetEnabled_outside enabled outside
    rw [reached]
    exact ⟨⟨watched.inStep.locked.unlocked,watched.member⟩,rfl⟩
  · obtain ⟨switched,switchedEq⟩ : ∃ switched : World ε, switched = { world.locked.withScheduler
        (world.store.scheduler.record entryIndex scheduleOccurrenceUnhandled .none) with
          entries := world.entries.modify entryIndex (.enable enabled) } := ⟨_,rfl⟩
    have reached : next = switched.unlocked := by
      rw [switchedEq]
      exact schedulerServiceSetEnabled_inside watched.inStep enabled outside
    have inStep : InStep switched := by
      rw [switchedEq]
      refine ⟨?_,?_,watched.inStep.tidy.reset entryIndex⟩
      · exact watched.inStep.count.trans (List.length_modify ..).symm
      · exact (accepted_switched ..).trans watched.inStep.accepted
    obtain ⟨index,given⟩ := List.mem_iff_getElem?.mp watched.member
    have other : index ≠ entryIndex := by
      rintro rfl
      exact apart given
    have still : switched.contents[index]? = some content := by
      rw [World.contents,List.getElem?_map] at given ⊢
      rw [switchedEq]
      change ((world.entries.modify entryIndex (.enable enabled))[index]?).map (·.content world.memory) = _
      rw [List.getElem?_modify_ne (.enable enabled) world.entries other.symm]
      exact given
    rw [reached]
    refine ⟨⟨inStep.unlocked,List.mem_of_getElem? still⟩,?_⟩
    change switched.handled content = _
    rw [inStep.handled_at still,watched.inStep.handled_at given,switchedEq]
    change (world.store.scheduler.record _ _ _).occurrence index = _
    rw [SchedulerRuntimeState.occurrence_record,if_neg other]

/-- What is no tick leaves the entry as it stands and what it handled. -/
theorem Watched.silent (watched : Watched content world) {call : SchedulerCall}
    (undisturbed : Undisturbed drivers content call world)
    (silent : ∀ now, call ≠ .operation (.schedulerProcess now)) :
    Watched content (schedulerCall drivers call world) ∧
      (schedulerCall drivers call world).handled content = world.handled content := by
  cases call with
  | operation command =>
    have quiet : ∀ now, command ≠ .schedulerProcess now := by
      rintro now rfl
      exact silent now rfl
    obtain ⟨issued,outcome,_⟩ := operate_outcome drivers command world
    obtain ⟨entries,memory⟩ := operate_frame drivers quiet world
    exact watched.same entries memory (outcome.scheduler quiet)
  | configure => exact watched.configured undisturbed
  | setEnabled => exact watched.switched undisturbed

end Silent

/-! ### Ticks -/

theorem occurrenceFor_toNat (now : SchedulerTime) :
    (occurrenceFor now).toNat = now.weekIndex.toNat * 7 + now.weekday.toNat := by
  have week := now.weekIndex.toNat_lt
  have day := now.weekday.toNat_lt
  have seven : (7 : UInt64).toNat = 7 := rfl
  simp only [occurrenceFor,UInt64.toNat_add,UInt64.toNat_mul,UInt32.toNat_toUInt64,UInt8.toNat_toUInt64,seven]
  omega

/-- No occurrence is numbered like an unhandled one. -/
theorem occurrenceFor_ne (now : SchedulerTime) : occurrenceFor now ≠ scheduleOccurrenceUnhandled := by
  intro same
  have number := congrArg UInt64.toNat same
  have sentinel : scheduleOccurrenceUnhandled.toNat = 18446744073709551615 := rfl
  have week := now.weekIndex.toNat_lt
  have day := now.weekday.toNat_lt
  rw [occurrenceFor_toNat,sentinel] at number
  omega

theorem filter_key {α κ : Type} [DecidableEq κ] {key : α → κ} {list : List α} (apart : (list.map key).Nodup) {one : α}
    (member : one ∈ list) : list.filter (fun other => key other = key one) = [one] := by
  induction list with
  | nil => contradiction
  | cons head tail ih =>
    rw [List.map_cons,List.nodup_cons] at apart
    rcases List.mem_cons.mp member with rfl | later
    · rw [List.filter_cons_of_pos (by simp),List.filter_eq_nil_iff.mpr]
      intro other inside same
      rw [decide_eq_true_eq] at same
      exact apart.1 (List.mem_map.mpr ⟨other,inside,same⟩)
    · rw [List.filter_cons_of_neg,ih apart.2 later]
      rw [decide_eq_true_eq]
      intro same
      exact apart.1 (List.mem_map.mpr ⟨one,later,same.symm⟩)

section Ticks

variable {drivers} {content : EntryContent} {world : World ε} {now : SchedulerTime}

variable (drivers) in
/-- A tick at a valid time, entry by entry. -/
theorem operate_ticked (inStep : InStep world) (valid : schedulerTimeIsValid now = true) :
    ∃ next, Ticked world.store now 0 world.entries world.locked (tickLog drivers now world) next ∧
      operate drivers (.schedulerProcess now) world = next.unlocked := by
  have ticked := processEntriesLogged_ticked drivers world.store now world.entries 0 world.locked
    (by rw [Nat.zero_add]; exact inStep.count.ge)
  refine ⟨(processEntriesLogged drivers world.store now 0 world.entries world.locked).2,?_,?_⟩
  · rw [tickLog,if_pos valid]
    exact ticked
  · have lock : schedulerServiceLock world = ((),world.locked) := rfl
    rw [processEntriesLogged_world]
    simp only [operate,execute,schedulerServiceProcess,run_bind_of lock,valid,not_true_eq_false,if_false,run_get_bind]
    rfl

/-- What is handled stands in the contents where it was found. -/
theorem Ticked.content_at {next : World ε} {log : List Handling}
    (ticked : Ticked world.store now 0 world.entries world.locked log next) {handling : Handling}
    (member : handling ∈ log) : world.contents[handling.index]? = some (handling.entry.content world.memory) := by
  obtain ⟨offset,atIndex,given,_⟩ := ticked.due member
  rw [World.contents,List.getElem?_map,atIndex,Nat.zero_add,given]
  rfl

theorem Ticked.inStep {next : World ε} {log : List Handling}
    (ticked : Ticked world.store now 0 world.entries world.locked log next) (inStep : InStep world) : InStep next := by
  obtain ⟨entries,memory,count⟩ := ticked.kept
  refine ⟨?_,?_,fun position none => ?_⟩
  · rw [count,entries]
    exact inStep.count
  · rw [entries,memory]
    exact inStep.accepted
  · by_cases handled : ∃ handling ∈ log, handling.index = position
    · obtain ⟨handling,member,rfl⟩ := handled
      rw [ticked.stored member] at none
      rcases ticked.status member with ⟨_,started | rejected⟩ | ⟨_,skipped⟩
      · exact absurd (started.symm.trans none) nofun
      · exact absurd (rejected.symm.trans none) nofun
      · exact absurd (skipped.symm.trans none) nofun
    · have same := ticked.unhandled fun handling member atIndex => handled ⟨handling,member,atIndex⟩
      rw [same] at none ⊢
      exact inStep.tidy position none

/-- The handlings of an entry's content are those at its index. -/
theorem Ticked.own {next : World ε} {log : List Handling}
    (ticked : Ticked world.store now 0 world.entries world.locked log next) (inStep : InStep world) {index : Nat}
    (given : world.contents[index]? = some content) :
    log.filter (fun handling => handling.entry.content world.memory = content) = log.filter (·.index = index) := by
  apply List.filter_congr
  intro handling member
  have place := ticked.content_at member
  rw [decide_eq_decide]
  constructor
  · rintro rfl
    exact inStep.contents_unique place given
  · rintro rfl
    exact Option.some.inj (place.symm.trans given)

/-- An entry of this content is due now. -/
def DueNow (content : EntryContent) (now : SchedulerTime) (world : World ε) : Prop :=
  content.timely now = true ∧ (world.handled content).1 ≠ occurrenceFor now

variable (drivers) in
/-- What a tick handles of the entry, and what the entry has handled then. -/
theorem Watched.ticked (watched : Watched content world) (valid : schedulerTimeIsValid now = true) :
    let tick : SchedulerCall := .operation (.schedulerProcess now)
    let next := schedulerCall drivers tick world
    Watched content next ∧
    (DueNow content now world → ∃ one,
      (handledOccurrences drivers tick world).filter (·.content = content) = [one] ∧
      one.occurrence = occurrenceFor now ∧ one.status ≠ .none ∧ next.handled content = (occurrenceFor now,one.status)) ∧
    (¬DueNow content now world → (handledOccurrences drivers tick world).filter (·.content = content) = [] ∧
      next.handled content = world.handled content) := by
  intro tick next
  obtain ⟨reached,ticked,run⟩ := operate_ticked drivers watched.inStep valid
  have nextEq : next = reached.unlocked := run
  have log : handledOccurrences drivers tick world = (tickLog drivers now world).map fun handling =>
    ⟨handling.entry.content world.memory,occurrenceFor now,handling.startCalled,handling.status⟩ := rfl
  obtain ⟨entries,memory,_⟩ := ticked.kept
  have contents : reached.contents = world.contents := by
    rw [World.contents,entries,memory]
    rfl
  have inStep := ticked.inStep watched.inStep
  obtain ⟨index,given⟩ := List.mem_iff_getElem?.mp watched.member
  have before := watched.inStep.handled_at given
  have after := inStep.handled_at (contents ▸ given : reached.contents[index]? = some content)
  have entry : ∃ entry, world.entries[index]? = some entry ∧ entry.content world.memory = content := by
    rw [World.contents,List.getElem?_map] at given
    exact Option.map_eq_some_iff.mp given
  obtain ⟨entry,atIndex,named⟩ := entry
  have due : entryIsDue world.store now index entry = true ↔ DueNow content now world := by
    rw [entryIsDue_eq world.store world.memory,named,Bool.and_eq_true,bne_iff_ne,DueNow,before]
    rfl
  have own : (handledOccurrences drivers tick world).filter (·.content = content) =
      ((tickLog drivers now world).filter (·.index = index)).map fun handling =>
        ⟨handling.entry.content world.memory,occurrenceFor now,handling.startCalled,handling.status⟩ := by
    rw [log,List.filter_map,← ticked.own watched.inStep given]
    rfl
  rw [nextEq]
  refine ⟨⟨inStep.unlocked,by rw [← contents] at given; exact List.mem_of_getElem? given⟩,fun isDue => ?_,fun notDue => ?_⟩
  · obtain ⟨handling,member,place,_⟩ := ticked.covers atIndex (by rw [Nat.zero_add]; exact due.mpr isDue)
    rw [Nat.zero_add] at place
    have alone := filter_key (ticked.increasing.imp fun less => ne_of_lt less) member
    rw [place] at alone
    refine ⟨_,own.trans (by rw [alone]; rfl),rfl,?_,?_⟩
    · rcases ticked.status member with ⟨_,started | rejected⟩ | ⟨_,skipped⟩
      · simp [started]
      · simp [rejected]
      · simp [skipped]
    · rw [← place,ticked.stored member] at after
      exact after
  · have absent : ∀ handling ∈ tickLog drivers now world, handling.index ≠ index := by
      intro handling member place
      obtain ⟨offset,atOffset,handled,isDue⟩ := ticked.due member
      rw [Nat.zero_add] at atOffset
      rw [← atOffset,place,atIndex] at handled
      cases handled
      rw [place] at isDue
      exact notDue (due.mp isDue)
    refine ⟨?_,?_⟩
    · rw [own,List.filter_eq_nil_iff.mpr (by simpa using absent)]
      rfl
    · rw [before]
      exact after.trans (ticked.unhandled absent)

end Ticks

/-! ### Runs -/

/-- What a run handled of an occurrence of the entry. -/
def handlingsOf (content : EntryContent) (occurrence : UInt64) (log : List HandledOccurrence) :
    List HandledOccurrence :=
  log.filter fun handled => handled.content = content ∧ handled.occurrence = occurrence

/-- Whether an occurrence was handled before the run, as a count. -/
def handledBefore (content : EntryContent) (occurrence : UInt64) (world : World ε) : Nat :=
  if (world.handled content).1 = occurrence ∧ (world.handled content).2 ≠ .none then 1 else 0

section Counting

variable {drivers} {content : EntryContent} {occurrence : UInt64} {world : World ε}

theorem handlingsOf_append (first second : List HandledOccurrence) :
    handlingsOf content occurrence (first ++ second) =
      handlingsOf content occurrence first ++ handlingsOf content occurrence second := List.filter_append ..

theorem handlingsOf_content (log : List HandledOccurrence) : handlingsOf content occurrence log =
    (log.filter (·.content = content)).filter (·.occurrence = occurrence) := by
  rw [handlingsOf,List.filter_filter]
  apply List.filter_congr
  intro handled _
  rw [Bool.decide_and,Bool.and_comm]

theorem handledOccurrences_tick {call : SchedulerCall} {handled : HandledOccurrence}
    (member : handled ∈ handledOccurrences drivers call world) :
    ∃ now, call = .operation (.schedulerProcess now) ∧ handled.occurrence = occurrenceFor now := by
  unfold handledOccurrences at member
  split at member
  · next now =>
    obtain ⟨_,_,rfl⟩ := List.mem_map.mp member
    exact ⟨now,rfl,rfl⟩
  · contradiction

theorem handledOccurrences_silent {call : SchedulerCall} (silent : ∀ now, call ≠ .operation (.schedulerProcess now))
    (world : World ε) : handledOccurrences drivers call world = [] := by
  apply List.eq_nil_iff_forall_not_mem.mpr
  intro handled member
  obtain ⟨now,tick,_⟩ := handledOccurrences_tick member
  exact silent now tick

/-- What a run of calls handled. -/
abbrev handledLog (drivers : Drivers ε) : List SchedulerCall → World ε → List HandledOccurrence :=
  Runs.log (schedulerCall drivers) (handledOccurrences drivers)

theorem tickOccurrences_silent {call : SchedulerCall} (silent : ∀ now, call ≠ .operation (.schedulerProcess now))
    (rest : List SchedulerCall) : tickOccurrences (call :: rest) = tickOccurrences rest := by
  cases call with
  | operation command =>
    cases command with
    | schedulerProcess now => exact absurd rfl (silent now)
    | _ => rfl
  | _ => rfl

/-- A run handles only the occurrences of its ticks. -/
theorem handledLog_occurrence {calls : List SchedulerCall} {handled : HandledOccurrence}
    (member : handled ∈ handledLog drivers calls world) : handled.occurrence ∈ tickOccurrences calls := by
  induction calls generalizing world with
  | nil => contradiction
  | cons call rest ih =>
    rw [tickOccurrences,List.filterMap_cons]
    rcases List.mem_append.mp member with here | later
    · obtain ⟨now,rfl,named⟩ := handledOccurrences_tick here
      rw [named]
      exact List.mem_cons_self
    · split
      · exact ih later
      · exact List.mem_cons_of_mem _ (ih later)

theorem handledLog_status {calls : List SchedulerCall} {handled : HandledOccurrence}
    (member : handled ∈ handledLog drivers calls world) : handled.status ≠ .none := by
  induction calls generalizing world with
  | nil => contradiction
  | cons call rest ih =>
    rcases List.mem_append.mp member with here | later
    · obtain ⟨now,rfl,_⟩ := handledOccurrences_tick here
      obtain ⟨handling,inLog,rfl⟩ := List.mem_map.mp here
      exact tickLog_status inLog
    · exact ih later

theorem handlingsOf_absent {calls : List SchedulerCall} (absent : occurrence ∉ tickOccurrences calls) :
    handlingsOf content occurrence (handledLog drivers calls world) = [] := by
  rw [handlingsOf,List.filter_eq_nil_iff]
  intro handled member
  rw [decide_eq_true_eq]
  rintro ⟨_,rfl⟩
  exact absent (handledLog_occurrence member)

/-- No tick of a run goes back behind what the entry has handled. -/
def Ahead (content : EntryContent) (calls : List SchedulerCall) (world : World ε) : Prop :=
  ∀ occurrence ∈ tickOccurrences calls, world.handled content = unhandledOccurrence ∨
    (world.handled content).1 ≤ occurrence

/-- The entry handles an occurrence at most once, and once if it is timely. -/
def HandledOnce (drivers : Drivers ε) (content : EntryContent) (calls : List SchedulerCall) (world : World ε) :
    Prop :=
  (∀ occurrence, (handlingsOf content occurrence (handledLog drivers calls world)).length +
    handledBefore content occurrence world ≤ 1) ∧
  ∀ now, .operation (.schedulerProcess now) ∈ calls → content.timely now = true →
    1 ≤ (handlingsOf content (occurrenceFor now) (handledLog drivers calls world)).length +
      handledBefore content (occurrenceFor now) world

theorem handledLog_cons (call : SchedulerCall) (rest : List SchedulerCall) : handledLog drivers (call :: rest) world =
    handledOccurrences drivers call world ++ handledLog drivers rest (schedulerCall drivers call world) := rfl

theorem handledBefore_le (content : EntryContent) (occurrence : UInt64) (world : World ε) :
    handledBefore content occurrence world ≤ 1 := by
  unfold handledBefore
  split <;> simp

/-- The step of the run lemma where nothing of the entry is handled. -/
theorem HandledOnce.skip {call : SchedulerCall} {rest : List SchedulerCall}
    (later : HandledOnce drivers content rest (schedulerCall drivers call world))
    (nothing : (handledOccurrences drivers call world).filter (·.content = content) = [])
    (kept : (schedulerCall drivers call world).handled content = world.handled content)
    (here : ∀ now, call = .operation (.schedulerProcess now) → content.timely now = true →
      handledBefore content (occurrenceFor now) world = 1) :
    HandledOnce drivers content (call :: rest) world := by
  have none (occurrence : UInt64) : handlingsOf content occurrence (handledOccurrences drivers call world) = [] := by
    rw [handlingsOf_content,nothing]
    rfl
  have same (occurrence : UInt64) : handledBefore content occurrence (schedulerCall drivers call world) =
      handledBefore content occurrence world := by rw [handledBefore,handledBefore,kept]
  simp only [HandledOnce,handledLog_cons,handlingsOf_append,none,List.nil_append,← same]
  refine ⟨later.1,fun now member timely => ?_⟩
  rcases List.mem_cons.mp member with tick | behind
  · rw [same,here now tick.symm timely]
    omega
  · exact later.2 now behind timely

/-- The step of the run lemma where the entry handles the tick's occurrence. -/
theorem HandledOnce.handle {now : SchedulerTime} {rest : List SchedulerCall} {one : HandledOccurrence}
    (later : HandledOnce drivers content rest (schedulerCall drivers (.operation (.schedulerProcess now)) world))
    (alone : (handledOccurrences drivers (.operation (.schedulerProcess now)) world).filter (·.content = content) = [one])
    (named : one.occurrence = occurrenceFor now) (status : one.status ≠ .none)
    (handled : (schedulerCall drivers (.operation (.schedulerProcess now)) world).handled content =
      (occurrenceFor now,one.status))
    (due : (world.handled content).1 ≠ occurrenceFor now)
    (ahead : world.handled content = unhandledOccurrence ∨ (world.handled content).1 ≤ occurrenceFor now)
    (ordered : ∀ occurrence ∈ tickOccurrences rest, occurrenceFor now ≤ occurrence) :
    HandledOnce drivers content (.operation (.schedulerProcess now) :: rest) world := by
  have own : handledBefore content (occurrenceFor now) world = 0 := if_neg fun both => due both.1
  have after (occurrence : UInt64) : handledBefore content occurrence
      (schedulerCall drivers (.operation (.schedulerProcess now)) world) =
        if occurrenceFor now = occurrence then 1 else 0 := by
    rw [handledBefore,handled]
    simp [status]
  have here (occurrence : UInt64) : (handlingsOf content occurrence
      (handledOccurrences drivers (.operation (.schedulerProcess now)) world)).length =
        if occurrenceFor now = occurrence then 1 else 0 := by
    rw [handlingsOf_content,alone,List.filter_singleton,named]
    by_cases same : occurrenceFor now = occurrence <;> simp [same]
  have total (occurrence : UInt64) : (handlingsOf content occurrence
      (handledLog drivers (.operation (.schedulerProcess now) :: rest) world)).length +
        handledBefore content occurrence world ≤ 1 := by
    rw [handledLog_cons,handlingsOf_append,List.length_append,here]
    have bound := later.1 occurrence
    rw [after] at bound
    by_cases same : occurrenceFor now = occurrence
    · rw [← same] at bound ⊢
      rw [own]
      simp only [if_true] at bound ⊢
      omega
    · simp only [if_neg same] at bound ⊢
      by_cases before : (world.handled content).1 = occurrence ∧ (world.handled content).2 ≠ .none
      · -- An earlier occurrence is not ticked again.
        have past : occurrence ∉ tickOccurrences rest := by
          intro again
          have back := ordered occurrence again
          have forth : occurrence ≤ occurrenceFor now := by
            rw [← before.1]
            refine ahead.resolve_left fun unhandled => before.2 ?_
            rw [unhandled]
            rfl
          exact same (UInt64.le_antisymm back forth)
        rw [handlingsOf_absent past]
        have bound := handledBefore_le content occurrence world
        simpa using bound
      · rw [handledBefore,if_neg before]
        omega
  refine ⟨total,fun time member timely => ?_⟩
  rw [handledLog_cons,handlingsOf_append,List.length_append,here]
  rcases List.mem_cons.mp member with tick | behind
  · cases tick
    rw [if_pos rfl]
    omega
  · have least := later.2 time behind timely
    rw [after] at least
    omega

/-- Along an undisturbed run whose ticks never go back, every occurrence is handled at most once,
and once if the entry is timely at a tick. -/
theorem handled_once {calls : List SchedulerCall} (watched : Watched content world)
    (undisturbed : Runs.Along (schedulerCall drivers) (Undisturbed drivers content) calls world)
    (ordered : (tickOccurrences calls).Pairwise (· ≤ ·)) (ahead : Ahead content calls world) :
    HandledOnce drivers content calls world := by
  induction calls generalizing world with
  | nil =>
    refine ⟨fun occurrence => ?_,nofun⟩
    have bound := handledBefore_le content occurrence world
    simpa [handledLog,Runs.log,handlingsOf] using bound
  | cons call rest ih =>
    obtain ⟨here,along⟩ := undisturbed
    by_cases tick : ∃ now, call = .operation (.schedulerProcess now)
    · obtain ⟨now,rfl⟩ := tick
      have ticks : tickOccurrences (.operation (.schedulerProcess now) :: rest) =
          occurrenceFor now :: tickOccurrences rest := rfl
      rw [ticks,List.pairwise_cons] at ordered
      rw [Ahead,ticks,List.forall_mem_cons] at ahead
      obtain ⟨next,handles,passes⟩ := watched.ticked drivers here
      by_cases due : DueNow content now world
      · obtain ⟨one,alone,named,status,handled⟩ := handles due
        refine (ih next along ordered.2 fun occurrence member => ?_).handle alone named status handled due.2 ahead.1
          ordered.1
        rw [handled]
        exact .inr (ordered.1 occurrence member)
      · obtain ⟨nothing,kept⟩ := passes due
        refine (ih next along ordered.2 fun occurrence member => ?_).skip nothing kept ?_
        · rw [kept]
          exact ahead.2 occurrence member
        · rintro _ ⟨⟩ timely
          have same : (world.handled content).1 = occurrenceFor now := by
            by_contra other
            exact due ⟨timely,other⟩
          refine if_pos ⟨same,fun none => occurrenceFor_ne now ?_⟩
          obtain ⟨index,given⟩ := List.mem_iff_getElem?.mp watched.member
          rw [watched.inStep.handled_at given] at none same
          rw [← same,watched.inStep.tidy index none]
          rfl
    · rw [not_exists] at tick
      obtain ⟨next,kept⟩ := watched.silent here tick
      have ticks := tickOccurrences_silent tick rest
      rw [ticks] at ordered
      rw [Ahead,ticks] at ahead
      refine (ih next along ordered fun occurrence member => ?_).skip ?_ kept fun now isTick => absurd isTick (tick now)
      · rw [kept]
        exact ahead occurrence member
      · rw [handledOccurrences_silent tick]
        rfl

end Counting

/-! ### From a configured scheduler on -/

section Configured

variable {world : World ε} {entries : List SchedulerEntry}

/-- After boot a configured scheduler is in step and has handled nothing. -/
theorem configured_unhandled {zones : List Zone} {preOpenDelayMs : UInt32}
    (booted : boot zones preOpenDelayMs = .ok world.store)
    (configured : (schedulerServiceConfigure entries world).1 = .ok) :
    InStep (schedulerServiceConfigure entries world).2 ∧
      ∀ content, (schedulerServiceConfigure entries world).2.handled content = unhandledOccurrence := by
  obtain ⟨_,stored⟩ := boot_ok booted
  have uncounted : world.locked.store.scheduler.entryCount = 0 := by
    change world.store.scheduler.entryCount = 0
    rw [stored]
    rfl
  have tidy : world.locked.store.scheduler.Tidy := by
    change world.store.scheduler.Tidy
    rw [stored]
    exact fun _ _ => rfl
  rcases schedulerServiceConfigureLocked_cases entries world.locked with ⟨_,run⟩ | ⟨⟨_,accepted⟩,taken,run,reconfigured⟩
  · have refused : (schedulerServiceConfigure entries world).1 = .rejected := congrArg Prod.fst run
    rw [refused] at configured
    contradiction
  · have reached : (schedulerServiceConfigure entries world).2 = taken.unlocked := congrArg (·.2.unlocked) run
    have inStep := reconfigured.inStep accepted tidy
    rw [reached]
    refine ⟨inStep.unlocked,fun content => ?_⟩
    change taken.handled content = _
    by_cases member : content ∈ taken.contents
    · obtain ⟨index,given⟩ := List.mem_iff_getElem?.mp member
      rw [inStep.handled_at given]
      rw [World.contents,List.getElem?_map,reconfigured.entries] at given
      obtain ⟨entry,atIndex,_⟩ := Option.map_eq_some_iff.mp given
      have nothing : preservedOccurrence world.locked entry = (0,.none) := by
        have refused (index : Nat) : stateStoreGetScheduleOccurrence world.locked.store index = .error .invalidState :=
          if_pos (by rw [uncounted]; exact Nat.zero_le _)
        simp only [preservedOccurrence,refused]
        split <;> rfl
      rw [reconfigured.occurrences index entry atIndex,nothing]
      rfl
    · exact handled_absent member

/-- A tick handles exactly the due entries, starts at most one of them and records what it did. -/
structure HandlesDue (drivers : Drivers ε) (now : SchedulerTime) (world : World ε) : Prop where
  due : ∀ index entry, (∃ handling ∈ tickLog drivers now world, handling.index = index ∧ handling.entry = entry) ↔
    world.entries[index]? = some entry ∧ entryIsDue world.store now index entry = true
  once : ((tickLog drivers now world).map (·.index)).Nodup
  startsOnce : ((tickLog drivers now world).filter (·.status = .started)).length ≤ 1
  recorded : ∀ handling ∈ tickLog drivers now world,
    (handling.status = .started ∨ handling.status = .skippedBusy ∨ handling.status = .rejected) ∧
      (operate drivers (.schedulerProcess now) world).store.scheduler.occurrence handling.index =
        (occurrenceFor now,handling.status)

theorem InStep.handlesDue {now : SchedulerTime} (inStep : InStep world) (valid : schedulerTimeIsValid now = true) :
    HandlesDue drivers now world := by
  obtain ⟨next,ticked,run⟩ := operate_ticked drivers inStep valid
  refine ⟨fun index entry => ?_,ticked.increasing.imp fun less => ne_of_lt less,ticked.startsOnce,
    fun handling member => ⟨?_,?_⟩⟩
  · constructor
    · rintro ⟨handling,member,rfl,rfl⟩
      obtain ⟨offset,atIndex,given,due⟩ := ticked.due member
      rw [Nat.zero_add] at atIndex
      exact ⟨atIndex ▸ given,due⟩
    · rintro ⟨given,due⟩
      have covered := ticked.covers given (by rw [Nat.zero_add]; exact due)
      rwa [Nat.zero_add] at covered
  · rcases ticked.status member with ⟨_,started | rejected⟩ | ⟨_,skipped⟩
    · exact .inl started
    · exact .inr (.inr rejected)
    · exact .inr (.inl skipped)
  · rw [run]
    exact ticked.stored member

theorem Watched.call {content : EntryContent} (watched : Watched content world) {call : SchedulerCall}
    (undisturbed : Undisturbed drivers content call world) : Watched content (schedulerCall drivers call world) := by
  by_cases tick : ∃ now, call = .operation (.schedulerProcess now)
  · obtain ⟨now,rfl⟩ := tick
    exact (watched.ticked _ undisturbed).1
  · exact (watched.silent undisturbed (not_exists.mp tick)).1

/-- From a configured scheduler on, over ticks at valid times whose occurrences never decrease, with
any operations and with reconfigurations that leave an entry as it stands: a start is asked for at
most once for each of its occurrences, each occurrence that it is timely in at some tick gets exactly
one status, and a tick starts at most one of the entries that are due. -/
theorem due_occurrences_handled_once {zones : List Zone} {preOpenDelayMs : UInt32}
    (booted : boot zones preOpenDelayMs = .ok world.store)
    (configured : (schedulerServiceConfigure entries world).1 = .ok) {content : EntryContent}
    (member : content ∈ (schedulerServiceConfigure entries world).2.contents) {calls : List SchedulerCall}
    (undisturbed : Runs.Along (schedulerCall drivers) (Undisturbed drivers content) calls
      (schedulerServiceConfigure entries world).2)
    (ordered : (tickOccurrences calls).Pairwise (· ≤ ·)) :
    let start := (schedulerServiceConfigure entries world).2
    (∀ occurrence, ((handlingsOf content occurrence (handledLog drivers calls start)).filter
      (·.startCalled)).length ≤ 1) ∧
    (∀ now, .operation (.schedulerProcess now) ∈ calls → content.timely now = true → ∃ one,
      handlingsOf content (occurrenceFor now) (handledLog drivers calls start) = [one] ∧ one.status ≠ .none) ∧
    ∀ done now todo, calls = done ++ .operation (.schedulerProcess now) :: todo →
      HandlesDue drivers now (Runs.after (schedulerCall drivers) done start) := by
  intro start
  obtain ⟨inStep,unhandled⟩ := configured_unhandled booted configured
  have watched : Watched content start := ⟨inStep,member⟩
  have once := handled_once watched undisturbed ordered fun _ _ => .inl (unhandled content)
  refine ⟨fun occurrence => ?_,fun now tick timely => ?_,fun done now todo split => ?_⟩
  · have bound := once.1 occurrence
    have fewer := List.length_filter_le (·.startCalled) (handlingsOf content occurrence (handledLog drivers calls start))
    omega
  · have fresh : handledBefore content (occurrenceFor now) start = 0 :=
      if_neg fun both => both.2 (congrArg Prod.snd (unhandled content))
    have most := once.1 (occurrenceFor now)
    have least := once.2 now tick timely
    rw [fresh] at most least
    have single : (handlingsOf content (occurrenceFor now) (handledLog drivers calls start)).length = 1 := by omega
    obtain ⟨one,alone⟩ := List.length_eq_one_iff.mp single
    have inside : one ∈ handlingsOf content (occurrenceFor now) (handledLog drivers calls start) := by
      rw [alone]
      exact List.mem_singleton_self one
    have logged : one ∈ handledLog drivers calls start := List.mem_of_mem_filter inside
    exact ⟨one,alone,handledLog_status logged⟩
  · have reached := Runs.invariant_throughout (Watched content) (fun _ _ watched here => watched.call drivers here) watched
      undisturbed done (.operation (.schedulerProcess now) :: todo) split
    have valid := Runs.along_at undisturbed split
    exact reached.inStep.handlesDue drivers valid

end Configured

/-! ### The development kit -/

/-- The development kit's program on Mondays at six. -/
def devEntry : SchedulerEntry := ⟨some 0,true,1,6,0,some 0⟩

def devScheduled : World UInt64 := (devWorld devProgram).remembering ⟨fun _ => devProgram,fun _ => .literal "monday"⟩

/-- Two ticks in the minute, around a reconfiguration to the same entry. -/
def devCalls : List SchedulerCall :=
  [.operation (.schedulerProcess devMonday),.configure devScheduled.memory [devEntry],.operation .programAbort,
    .operation (.schedulerProcess devMonday)]

theorem due_occurrences_handled_once_devScheduled : ∃ one,
    handlingsOf (devEntry.content devScheduled.memory) (occurrenceFor devMonday)
      (handledLog quietDrivers devCalls (schedulerServiceConfigure [devEntry] devScheduled).2) = [one] ∧
    one.status ≠ .none := by
  refine (due_occurrences_handled_once quietDrivers (boot_of_configurable devZones_configurable 0) ?_ ?_ ?_ ?_).2.1 devMonday ?_ ?_
  · decide +kernel
  · decide +kernel
  · simp only [devCalls,Runs.Along,Undisturbed]
    decide +kernel
  · decide +kernel
  · simp [devCalls]
  · decide +kernel

end Irrigation
