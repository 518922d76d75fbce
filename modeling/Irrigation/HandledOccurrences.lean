import Irrigation.MirroredSystems

/-! What the scheduler has handled, as a function of what its entries say and not of where
they stand. Reconfiguring restricts this function to the new entries. -/
namespace Irrigation

open KeyedSlots

variable {ε σ : Type}

/-! ### Occurrences by content -/

/-- What the scheduler's entries say. -/
def World.contents (world : World ε) : List EntryContent := world.entries.map (·.content world.memory)

/-- The occurrence stored for an entry of this content. -/
def World.handled (world : World ε) (content : EntryContent) : UInt64 × ScheduleOccurrenceStatus :=
  match world.contents.findIdx? fun other => other = content with
  | some index => world.store.scheduler.occurrence index
  | none => unhandledOccurrence

theorem InStep.contents_unique {world : World ε} (inStep : InStep world) {first second : Nat} {content : EntryContent}
    (firstGiven : world.contents[first]? = some content) (secondGiven : world.contents[second]? = some content) :
    first = second := by
  rw [World.contents,List.getElem?_map] at firstGiven secondGiven
  obtain ⟨one,oneGiven,rfl⟩ := Option.map_eq_some_iff.mp firstGiven
  obtain ⟨other,otherGiven,same⟩ := Option.map_eq_some_iff.mp secondGiven
  exact inStep.unique oneGiven otherGiven (congrArg EntryContent.id same).symm

theorem InStep.handled_at {world : World ε} (inStep : InStep world) {index : Nat} {content : EntryContent}
    (given : world.contents[index]? = some content) :
    world.handled content = world.store.scheduler.occurrence index := by
  have found : world.contents.findIdx? (fun other => other = content) = some index := by
    rw [List.findIdx?_eq_some_iff_getElem]
    obtain ⟨inside,named⟩ := List.getElem?_eq_some_iff.mp given
    refine ⟨inside,by simpa using named,fun other before hit => ?_⟩
    have named : world.contents[other]? = some content := by
      rw [List.getElem?_eq_getElem (by omega)]
      simpa using hit
    have same := inStep.contents_unique named given
    omega
  simp only [World.handled,found]

theorem handled_absent {world : World ε} {content : EntryContent} (absent : content ∉ world.contents) :
    world.handled content = unhandledOccurrence := by
  have none : world.contents.findIdx? (fun other => other = content) = none := by
    rw [List.findIdx?_eq_none_iff]
    intro other member
    rw [decide_eq_false_iff_not]
    rintro rfl
    exact absent member
  simp only [World.handled,none]

/-- The world once the objects it points to were rewritten. -/
def World.remembering (world : World ε) (memory : Memory) : World ε := { world with memory }

/-- Objects that keep the texts of the running entries leave what is handled alone. -/
theorem handled_remembering (world : World ε) {memory : Memory}
    (same : (world.remembering memory).contents = world.contents) (content : EntryContent) :
    (world.remembering memory).handled content = world.handled content := by
  rw [World.handled,same]
  rfl

theorem InStep.remembering {world : World ε} (inStep : InStep world) {memory : Memory}
    (same : (world.remembering memory).contents = world.contents) : InStep (world.remembering memory) where
  count := inStep.count
  accepted := by
    have accepted := (entriesAreAccepted_iff _ _).mp inStep.accepted
    refine (entriesAreAccepted_iff _ _).mpr ⟨accepted.1,?_⟩
    have ids := congrArg (List.map EntryContent.id) same
    simp only [World.contents,List.map_map] at ids
    change (world.entries.map fun entry => entry.idText memory) =
      world.entries.map fun entry => entry.idText world.memory at ids
    change (world.entries.map fun entry => entry.idText memory).Nodup
    rw [ids]
    exact accepted.2
  tidy := inStep.tidy

theorem handled_showing (world : World ε) {views : RuntimeViews}
    (same : (world.showing views).contents = world.contents) (content : EntryContent) :
    (world.showing views).handled content = world.handled content :=
  handled_remembering world same content

theorem InStep.showing {world : World ε} (inStep : InStep world) {views : RuntimeViews}
    (same : (world.showing views).contents = world.contents) : InStep (world.showing views) :=
  inStep.remembering same

/-- Reconfiguring keeps what was handled of the new entries and forgets the others. -/
theorem Reconfigured.handled {world next : World ε} {entries : List SchedulerEntry}
    (reconfigured : Reconfigured world next entries) (inStep : InStep world) (after : InStep next)
    (content : EntryContent) :
    next.handled content = if content ∈ next.contents then world.handled content else unhandledOccurrence := by
  split
  · next member =>
    obtain ⟨index,given⟩ := List.mem_iff_getElem?.mp member
    rw [after.handled_at given]
    rw [World.contents,List.getElem?_map,reconfigured.entries,reconfigured.memory] at given
    obtain ⟨entry,atIndex,rfl⟩ := Option.map_eq_some_iff.mp given
    rw [reconfigured.occurrences index entry atIndex]
    by_cases known : entry.content world.memory ∈ world.contents
    · obtain ⟨previous,before⟩ := List.mem_iff_getElem?.mp known
      rw [inStep.handled_at before]
      rw [World.contents,List.getElem?_map] at before
      obtain ⟨old,oldGiven,same⟩ := Option.map_eq_some_iff.mp before
      exact inStep.carried oldGiven same.symm
    · rw [handled_absent known]
      apply carried_new
      intro previous inside same
      exact known (same ▸ List.mem_map_of_mem inside)
  · next absent => exact handled_absent absent

/-! ### What tracked views say -/

/-- The content of a schedule's entry. -/
def scheduledContent (views : RuntimeViews) (configured : IrrigationScheduleConfiguration) : EntryContent where
  id := some configured.scheduleId.toCString
  enabled := configured.enabled
  weekdayMask := configured.weekdayMask
  hour := configured.hour
  minute := configured.minute
  program := (programSlotForId views configured.programId).map (·.val)

section Tracked

variable {views later : RuntimeViews} {configuration : IrrigationConfiguration}

/-- The texts of tracked entries survive the next rebuild. -/
theorem Tracks.content (tracks : Tracks views configuration)
    (refilled : Slots.Refilled views.scheduleIds later.scheduleIds) {index : Nat}
    {configured : IrrigationScheduleConfiguration} (given : configuration.liveSchedules[index]? = some configured) :
    (views.schedules index).content later.memory = scheduledContent views configured := by
  obtain ⟨slot,program,found,held,written⟩ := tracks.schedules index configured given
  obtain ⟨used,named⟩ := Slots.slotForKey_some found
  have text : later.memory.text slot = configured.scheduleId.toCString := by
    rw [RuntimeViews.memory_text,refilled.key_of_used used,named]
  rw [written,scheduledContent,held]
  simp only [SchedulerEntry.content,SchedulerEntry.idText,runtimeSchedule,Option.map_some,text]

theorem Tracks.contents (tracks : Tracks views configuration) (capacity : configuration.WithinCapacity)
    (refilled : Slots.Refilled views.scheduleIds later.scheduleIds) :
    (views.entries configuration.scheduleCount.toNat).map (·.content later.memory) =
      configuration.liveSchedules.map (scheduledContent views) := by
  have room : configuration.scheduleCount.toNat ≤ 16 := capacity.schedules
  have lengths : configuration.liveSchedules.length = configuration.scheduleCount.toNat := by
    simp [IrrigationConfiguration.liveSchedules,room]
  apply List.ext_getElem
  · rw [List.length_map,List.length_map,RuntimeViews.entries_length,lengths]
  · intro index inside bound
    rw [List.length_map] at inside bound
    have content := tracks.content refilled (List.getElem?_eq_getElem bound)
    simpa [RuntimeViews.entries] using content

/-- Schedules with programs in the slots say the same before and after a pass only if they are the same. -/
theorem scheduledContent_inj_of_refilled (refilled : Slots.Refilled views.programs later.programs)
    (distinct : views.programs.Distinct) {old new : IrrigationScheduleConfiguration}
    {oldSlot newSlot : Fin irrigationMaxPrograms} (oldFound : programSlotForId views old.programId = some oldSlot)
    (newFound : programSlotForId later new.programId = some newSlot) :
    scheduledContent later new = scheduledContent views old ↔ new = old := by
  constructor
  · intro same
    simp only [scheduledContent,EntryContent.mk.injEq,Option.some_inj] at same
    obtain ⟨id,enabled,weekdayMask,hour,minute,program⟩ := same
    have slots : newSlot = oldSlot := by
      rw [newFound,oldFound,Option.map_some,Option.map_some,Option.some_inj] at program
      exact Fin.ext program
    have programId : new.programId = old.programId := by
      obtain ⟨used,oldNamed⟩ := Slots.slotForKey_some oldFound
      obtain ⟨_,newNamed⟩ := Slots.slotForKey_some newFound
      rw [← newNamed,← oldNamed,slots]
      exact refilled.key_of_used used
    cases old
    cases new
    simp only [IrrigationScheduleConfiguration.mk.injEq]
    exact ⟨CharArray.toCString_injective id,enabled,weekdayMask,hour,minute,programId⟩
  · rintro rfl
    have kept : programSlotForId later new.programId = some oldSlot :=
      refilled.stable distinct oldFound (Slots.mem_keys.mpr ⟨newSlot,Slots.slotForKey_some newFound⟩)
    rw [scheduledContent,kept,scheduledContent,oldFound]

end Tracked

/-! ### A scheduler in step with its manager -/

/-- A mirrored system whose scheduler is in step with the store. -/
structure Aligned (system : ManagedSystem ε σ) : Prop extends Mirrored system where
  count : system.world.store.scheduler.entryCount = system.world.entries.length
  tidy : system.world.store.scheduler.Tidy

section Steps

variable {device : Repository.ConfigurationRepositoryStorage σ} {candidate : IrrigationConfiguration}
  {system next : ManagedSystem ε σ} {result answer : IrrigationResult} {tried : World ε}

theorem Faithful.capacity {manager : ConfigurationManager} (faithful : Faithful manager) :
    manager.configuration.WithinCapacity := ((validate_ok_iff _ _).mp faithful.valid).1

theorem Aligned.inStep (aligned : Aligned system) : InStep system.world where
  count := aligned.count
  accepted := by
    rw [aligned.entries,aligned.linked]
    exact entries_accepted aligned.faithful.valid aligned.faithful.mirrors
  tidy := aligned.tidy

theorem Aligned.contents (aligned : Aligned system) : system.world.contents =
    system.manager.configuration.liveSchedules.map (scheduledContent system.manager.views) := by
  rw [World.contents,aligned.entries,aligned.linked]
  exact aligned.faithful.tracks.contents aligned.faithful.capacity .same

/-- What was handled of a live schedule. -/
theorem Aligned.handled_at (aligned : Aligned system) {index : Nat} {schedule : IrrigationScheduleConfiguration}
    (given : system.manager.configuration.liveSchedules[index]? = some schedule) :
    system.world.handled (scheduledContent system.manager.views schedule) =
      system.world.store.scheduler.occurrence index := by
  apply aligned.inStep.handled_at
  rw [aligned.contents,List.getElem?_map,given]
  rfl

/-- Rebuilding for a candidate leaves the texts of the running entries alone. -/
theorem Aligned.contents_showing (aligned : Aligned system)
    (valid : irrigationConfigurationValidate candidate system.manager.boardZones = .ok) :
    (system.world.locked.showing (candidateViews system.manager candidate)).contents = system.world.contents := by
  have refilled := ((aligned.faithful.rebuilding valid).refilled ((validate_ok_iff _ _).mp valid).2).2
  rw [aligned.contents]
  change system.world.entries.map (·.content (candidateViews system.manager candidate).memory) = _
  rw [aligned.entries]
  exact aligned.faithful.tracks.contents aligned.faithful.capacity refilled

theorem Aligned.inStep_showing (aligned : Aligned system)
    (valid : irrigationConfigurationValidate candidate system.manager.boardZones = .ok) :
    InStep (system.world.locked.showing (candidateViews system.manager candidate)) := by
  have locked : InStep system.world.locked := ⟨aligned.count,aligned.inStep.accepted,aligned.tidy⟩
  exact locked.showing (aligned.contents_showing valid)

/-- Entries that are offered, refused or not, leave the scheduler in step. -/
theorem Offered.inStep {world next : World ε} {entries : List SchedulerEntry} (offered : Offered world entries answer next)
    (inStep : InStep world) : InStep next := by
  cases offered with
  | refused => exact inStep
  | taken accepted reconfigured => exact reconfigured.inStep accepted inStep.tidy

/-- What is handled once the candidate's entries are taken on. -/
theorem Aligned.handled_taken (aligned : Aligned system)
    (valid : irrigationConfigurationValidate candidate system.manager.boardZones = .ok)
    (taken : Offered (system.world.locked.showing (candidateViews system.manager candidate))
      ((candidateViews system.manager candidate).entries candidate.scheduleCount.toNat) .ok tried)
    (content : EntryContent) :
    tried.handled content = if content ∈ tried.contents then system.world.handled content else unhandledOccurrence := by
  have inStep := aligned.inStep_showing valid
  rw [taken.reconfigured.handled inStep (taken.inStep inStep),
    handled_showing system.world.locked (aligned.contents_showing valid)]
  rfl

/-- A fitting candidate's entries say what its schedules do. -/
theorem Offered.contents (offered : Offered (system.world.locked.showing (candidateViews system.manager candidate))
      ((candidateViews system.manager candidate).entries candidate.scheduleCount.toNat) .ok tried)
    (faithful : Faithful system.manager)
    (valid : irrigationConfigurationValidate candidate system.manager.boardZones = .ok)
    (fits : Fits system.manager.configuration.live candidate.live) :
    tried.contents = candidate.liveSchedules.map (scheduledContent (candidateViews system.manager candidate)) := by
  have replaced := faithful.replaced valid fits
  rw [World.contents,offered.reconfigured.entries,offered.memory]
  exact replaced.tracks.contents replaced.capacity .same

/-- Under a fitting candidate equal contents are equal schedules. -/
theorem scheduledContent_inj (faithful : Faithful system.manager)
    (valid : irrigationConfigurationValidate candidate system.manager.boardZones = .ok)
    (fits : Fits system.manager.configuration.live candidate.live) {old new : IrrigationScheduleConfiguration}
    (oldMember : old ∈ system.manager.configuration.liveSchedules) (newMember : new ∈ candidate.liveSchedules) :
    scheduledContent (candidateViews system.manager candidate) new = scheduledContent system.manager.views old ↔
      new = old := by
  have replaced := faithful.replaced valid fits
  have refilled := ((faithful.rebuilding valid).refilled ((validate_ok_iff _ _).mp valid).2).1
  obtain ⟨oldSlot,oldFound,_⟩ := scheduledProgram_held faithful.live faithful.tracks.programs oldMember
  obtain ⟨newSlot,newFound,_⟩ := scheduledProgram_held replaced.live replaced.tracks.programs newMember
  exact scheduledContent_inj_of_refilled refilled faithful.tracks.programs.distinct oldFound newFound

/-- Entries that are taken on leave the scheduler in step. -/
theorem Offered.inStep_of_tidy {world next : World ε} {entries : List SchedulerEntry}
    (taken : Offered world entries .ok next) (tidy : world.store.scheduler.Tidy) : InStep next := by
  cases taken with
  | taken accepted reconfigured => exact reconfigured.inStep accepted tidy

theorem Offered.tidy {world next : World ε} {entries : List SchedulerEntry} (offered : Offered world entries answer next)
    (tidy : world.store.scheduler.Tidy) : next.store.scheduler.Tidy := by
  cases offered with
  | refused => exact tidy
  | taken accepted reconfigured => exact (reconfigured.inStep accepted tidy).tidy

/-- Unless it installs a candidate that does not fit, a replacement keeps the scheduler in step. -/
theorem Replacing.aligned (replacing : Replacing device candidate system result next) (aligned : Aligned system)
    (valid : irrigationConfigurationValidate candidate system.manager.boardZones = .ok)
    (fits : result = .ok → Fits system.manager.configuration.live candidate.live) : Aligned next := by
  have mirrored := replacing.mirrored aligned.toMirrored valid fits
  cases replacing with
  | installed _ taken =>
    have inStep := taken.inStep_of_tidy aligned.tidy
    exact ⟨mirrored,inStep.count,inStep.tidy⟩
  | @restored _ tried _ _ _ offered taken =>
    have inStep := taken.inStep_of_tidy (offered.tidy aligned.tidy)
    exact ⟨mirrored,inStep.count,inStep.tidy⟩

theorem mutated_aligned {mutation : Mutation} (incremental : ∀ candidate, mutation ≠ .replace candidate)
    (aligned : Aligned system) : Aligned (mutate device mutation system).2 := by
  rcases mutate_replacing device aligned.toMirrored mutation with ⟨_,_,run,_⟩ | ⟨candidate,prepared,valid,replacing⟩
  · rw [run]
    exact aligned
  · exact replacing.aligned aligned valid fun _ =>
      prepared_fits aligned.faithful prepared valid incremental

/-- An edit that returns OK neither replays nor loses an occurrence: a schedule that stands as
before keeps what it has handled, wherever it moved to, and any other starts unhandled. -/
theorem edited_occurrences {mutation : Mutation} (incremental : ∀ candidate, mutation ≠ .replace candidate)
    (aligned : Aligned system) (ok : (mutate device mutation system).1 = .ok) :
    let after := (mutate device mutation system).2
    ∀ index schedule, after.manager.configuration.liveSchedules[index]? = some schedule →
      (∀ old, system.manager.configuration.liveSchedules[old]? = some schedule →
        after.world.store.scheduler.occurrence index = system.world.store.scheduler.occurrence old) ∧
      (schedule ∉ system.manager.configuration.liveSchedules →
        after.world.store.scheduler.occurrence index = unhandledOccurrence) := by
  intro after index schedule given
  rcases mutate_replacing device aligned.toMirrored mutation with ⟨_,failed,run,_⟩ | ⟨candidate,prepared,valid,replacing⟩
  · rw [run] at ok
    exact absurd ok failed
  · have fits := prepared_fits aligned.faithful prepared valid incremental
    have later : Aligned after := mutated_aligned incremental aligned
    obtain ⟨_,tried,storage,taken,installed⟩ := replacing.of_ok ok
    have same : after = _ := installed
    have stored := later.handled_at given
    rw [same] at given stored
    have member : schedule ∈ candidate.liveSchedules := List.mem_of_getElem? given
    have handled : after.world.store.scheduler.occurrence index =
        system.world.handled (scheduledContent (candidateViews system.manager candidate) schedule) := by
      have shown : scheduledContent (candidateViews system.manager candidate) schedule ∈ tried.contents := by
        rw [taken.contents aligned.faithful valid fits]
        exact List.mem_map_of_mem member
      have restricted := aligned.handled_taken valid taken
        (scheduledContent (candidateViews system.manager candidate) schedule)
      rw [if_pos shown] at restricted
      rw [same]
      exact stored.symm.trans restricted
    rw [handled]
    constructor
    · intro old atOld
      rw [(scheduledContent_inj aligned.faithful valid fits (List.mem_of_getElem? atOld) member).mpr rfl]
      exact aligned.handled_at atOld
    · intro absent
      apply handled_absent
      rw [aligned.contents]
      intro known
      obtain ⟨old,oldMember,content⟩ := List.mem_map.mp known
      have equal := (scheduledContent_inj aligned.faithful valid fits oldMember member).mp content.symm
      exact absent (equal ▸ oldMember)

/-- Recording an occurrence keeps the scheduler in step. -/
theorem Aligned.recorded (aligned : Aligned system) (index : Nat) (occurrence : UInt64)
    {status : ScheduleOccurrenceStatus} (handled : status ≠ .none) : Aligned { system with
      world := system.world.withScheduler (system.world.store.scheduler.record index occurrence status) } where
  toMirrored := ⟨aligned.faithful,aligned.bound,aligned.linked,aligned.entries⟩
  count := aligned.count
  tidy := by
    intro position
    rw [World.withScheduler_scheduler,SchedulerRuntimeState.occurrence_record]
    split
    · exact fun none => absurd none handled
    · exact aligned.tidy position

end Steps

theorem aligned_scheduled {manager : ConfigurationManager} (faithful : Faithful manager) {world : World ε}
    (tidy : world.store.scheduler.Tidy) (storage : σ) : Aligned (scheduled manager world storage) := by
  obtain ⟨next,taken,run⟩ := scheduled_taken faithful world
  have inStep := taken.inStep_of_tidy tidy
  refine ⟨scheduled_mirrored faithful world storage,?_,?_⟩
  · rw [scheduled,run]
    exact inStep.count
  · rw [scheduled,run]
    exact inStep.tidy

theorem devSystem_aligned (repository persistenceRequired : Bool) :
    Aligned (devSystem repository persistenceRequired) :=
  aligned_scheduled (enabledDefaults_faithful.started ..) (fun _ _ => rfl) _

/-- The development kit with a second schedule that has started its program. -/
def devSecondStarted : ManagedSystem UInt64 Repository.SlotContents :=
  let created := mutated Repository.memoryStorage (.createSchedule 2 7 0 (some (.literal "dev-program")))
    (devSystem false false)
  { created with world := created.world.withScheduler (created.world.store.scheduler.record 1 5 .started) }

theorem devSecondStarted_aligned : Aligned devSecondStarted :=
  have created : Aligned (mutated Repository.memoryStorage (.createSchedule 2 7 0 (some (.literal "dev-program")))
      (devSystem false false)) := mutated_aligned (by simp) (devSystem_aligned false false)
  created.recorded 1 5 (by decide)

/-- The second schedule takes its occurrence along when the first is deleted. -/
theorem edited_occurrences_devSecond :
    (mutate Repository.memoryStorage (.deleteSchedule 0) devSecondStarted).2.world.store.scheduler.occurrence 0 =
      (5,.started) := by
  have deleted : (mutate Repository.memoryStorage (.deleteSchedule 0) devSecondStarted).1 = .ok := by decide +kernel
  have kept := (edited_occurrences (by simp) devSecondStarted_aligned deleted 0
    (devSecondStarted.manager.configuration.schedules.get ⟨1,by decide⟩) (by decide +kernel)).1 1 (by decide +kernel)
  exact kept.trans (by decide +kernel)

end Irrigation
