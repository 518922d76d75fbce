import Irrigation.StandingSchedules

/-! What a failed mutation leaves behind. The live configuration and the scheduler's entries
come back; an occurrence only does if its entry stands in both reconfigurations. -/
namespace Irrigation

open KeyedSlots

variable {ε σ : Type}

/-! ### What comes back -/

/-- An entry with what its pointers point to. -/
structure ShownEntry where
  id : Option CString
  enabled : Bool
  weekdayMask : UInt8
  hour : UInt8
  minute : UInt8
  program : Option Program
  deriving DecidableEq, Repr

def SchedulerEntry.shown (memory : Memory) (entry : SchedulerEntry) : ShownEntry :=
  ⟨entry.idText memory,entry.enabled,entry.weekdayMask,entry.hour,entry.minute,entry.program.map memory.program⟩

def World.shown (world : World ε) : List ShownEntry := world.entries.map (·.shown world.memory)

/-- After a failed mutation memory is as it was. -/
structure Restored (before after : ManagedSystem ε σ) : Prop where
  configuration : after.manager.configuration = before.manager.configuration
  entries : after.world.shown = before.world.shown
  occurrences : ∀ index < before.world.entries.length,
    after.world.store.scheduler.occurrence index = before.world.store.scheduler.occurrence index

/-- The scheduler's lock is taken and given back, or not touched. -/
def LockBalanced (before after : World ε) : Prop :=
  after.synchronization = before.synchronization ∨
    after.synchronization = before.synchronization ++ [.lock,.unlock]

/-! ### When it does -/

/-- Every live schedule with a handled occurrence. -/
def EveryHandled (system : ManagedSystem ε σ) (kept : Nat → IrrigationScheduleConfiguration → Prop) : Prop :=
  ∀ index schedule, system.manager.configuration.liveSchedules[index]? = some schedule →
    (system.world.store.scheduler.occurrence index).2 ≠ .none → kept index schedule

/-- A candidate that got as far as the scheduler is taken and saved, or the scheduler is in step with
the manager and every schedule with a handled occurrence stands through the rebuilds. -/
def RestoredWhen (device : Repository.ConfigurationRepositoryStorage σ) (mutation : Mutation)
    (system : ManagedSystem ε σ) : Prop :=
  ∀ candidate, mutation.prepare system.manager.configuration = .ok candidate →
    irrigationConfigurationValidate candidate system.manager.boardZones = .ok →
      (CandidateTaken system.manager candidate ∧ Persists device candidate system) ∨
        (Aligned system ∧ EveryHandled system (Stands system.manager candidate))

/-! ### The way back -/

section Back

variable {manager : ConfigurationManager} {candidate : IrrigationConfiguration} {views later : RuntimeViews}
  {configuration : IrrigationConfiguration}

/-- Tracked entries show what the configuration says, wherever they are. -/
theorem Tracks.shown {boardZones : List Zone} (valid : configuration.live.Valid boardZones)
    (first : Tracks views configuration) (second : Tracks later configuration) {index : Nat}
    {configured : IrrigationScheduleConfiguration} (given : configuration.liveSchedules[index]? = some configured) :
    (views.schedules index).shown views.memory = (later.schedules index).shown later.memory := by
  obtain ⟨_,program,_,atIndex,named⟩ := scheduled_configured valid (List.mem_of_getElem? given)
  have shows : ∀ {shown : RuntimeViews}, Tracks shown configuration → (shown.schedules index).shown shown.memory =
      ⟨some configured.scheduleId.toCString,configured.enabled,configured.weekdayMask,configured.hour,
        configured.minute,some program.live.runtime⟩ := by
    intro shown tracks
    obtain ⟨slot,held,runtime⟩ := programSlot_held valid tracks.programs (List.mem_of_getElem? atIndex)
    obtain ⟨address,pointer,found,sameSlot,written⟩ := tracks.schedules index configured given
    obtain ⟨_,text⟩ := Slots.slotForKey_some found
    rw [← named,held] at sameSlot
    cases sameSlot
    rw [written]
    simp only [SchedulerEntry.shown,SchedulerEntry.idText,runtimeSchedule,Option.map_some,
      RuntimeViews.memory_text,RuntimeViews.memory_program,text,runtime]
  rw [shows first,shows second]

/-- A candidate without room keeps every schedule id in use. -/
theorem unfit_keeps (faithful : Faithful manager)
    (valid : irrigationConfigurationValidate candidate manager.boardZones = .ok)
    (unfit : ¬Fits manager.configuration.live candidate.live) :
    scheduleIds manager.configuration.live ⊆ (candidateViews manager candidate).scheduleIds.keys := by
  obtain ⟨rebuilt,same⟩ : ∃ rebuilt, rebuilt = candidateViews manager candidate := ⟨_,rfl⟩
  have rebuilding := faithful.rebuilding valid
  change Rebuilding manager.views candidate (candidateViews manager candidate) at rebuilding
  rw [← same] at rebuilding ⊢
  rw [← faithful.scheduleKeys]
  cases rebuilding with
  | programsFull => exact Finset.Subset.refl _
  | @reached base _ holds room ids _ =>
    have live := ((validate_ok_iff _ _).mp valid).2
    have passing := Slots.storeAll_passing (candidate.liveSchedules.map scheduleEntry) base.scheduleIds
    have stopped : (Slots.storeAll (candidate.liveSchedules.map scheduleEntry) base.scheduleIds).complete = false := by
      rw [← Bool.not_eq_true,passing.complete_iff (ids ▸ faithful.tracks.scheduleIds.distinct),
        entryKeys_schedules live,ids,faithful.scheduleKeys]
      rw [faithful.programKeys] at room
      exact fun fits => unfit ⟨room,fits⟩
    change manager.views.scheduleIds.keys ⊆ (Slots.settle (storeSchedules base candidate)).keys
    rw [storeSchedules_held live holds,Slots.settle_incomplete stopped,← ids]
    exact passing.keeps.keys

/-- Going back to schedule ids that are all in use moves none. -/
theorem restored_keys (faithful : Faithful manager)
    (valid : irrigationConfigurationValidate candidate manager.boardZones = .ok)
    (inUse : scheduleIds manager.configuration.live ⊆ (candidateViews manager candidate).scheduleIds.keys) :
    (restoredViews manager candidate).scheduleIds.key = (candidateViews manager candidate).scheduleIds.key := by
  obtain ⟨restored,same⟩ : ∃ restored, restored = restoredViews manager candidate := ⟨_,rfl⟩
  have rebuilding := faithful.rebuildingBack valid
  change Rebuilding (candidateViews manager candidate) manager.configuration (restoredViews manager candidate) at rebuilding
  rw [← same] at rebuilding ⊢
  cases rebuilding with
  | programsFull => rfl
  | @reached base _ holds _ ids _ =>
    change (Slots.settle (storeSchedules base manager.configuration)).key = _
    rw [storeSchedules_held faithful.live holds,Slots.Refilled.settle_key,← ids]
    apply (Slots.storeAll_passing _ _).key_of_held
    intro entry member
    rw [ids]
    apply inUse
    rw [← entryKeys_schedules faithful.live]
    exact Slots.mem_entryKeys.mpr ⟨entry,member,rfl⟩

theorem RuntimeViews.memory_text_eq (same : later.scheduleIds.key = views.scheduleIds.key) :
    later.memory.text = views.memory.text := by
  funext address
  simp only [RuntimeViews.memory,same]

end Back

section Replacing

variable {device : Repository.ConfigurationRepositoryStorage σ} {candidate : IrrigationConfiguration}
  {system next : ManagedSystem ε σ} {answer result : IrrigationResult} {tried back : World ε}

/-- The candidate's entries as they are offered to the scheduler. -/
abbrev CandidateOffered (system : ManagedSystem ε σ) (candidate : IrrigationConfiguration) :
    IrrigationResult → World ε → Prop :=
  Offered (system.world.locked.showing (candidateViews system.manager candidate))
    ((candidateViews system.manager candidate).entries candidate.scheduleCount.toNat)

/-- The live configuration's entries as they are taken on again. -/
abbrev RestoredOffered (system : ManagedSystem ε σ) (candidate : IrrigationConfiguration) (tried : World ε) :
    IrrigationResult → World ε → Prop :=
  Offered (tried.showing (restoredViews system.manager candidate))
    ((restoredViews system.manager candidate).entries system.manager.configuration.scheduleCount.toNat)

theorem offered_ok_iff (offered : CandidateOffered system candidate answer tried) :
    answer = .ok ↔ CandidateTaken system.manager candidate :=
  offered.ok_iff.trans (candidateAccepted_iff system.manager candidate)

theorem candidateTaken_of_fits (faithful : Faithful system.manager)
    (valid : irrigationConfigurationValidate candidate system.manager.boardZones = .ok)
    (fits : Fits system.manager.configuration.live candidate.live) : CandidateTaken system.manager candidate := by
  have replaced := faithful.replaced valid fits
  have accepted := entries_accepted replaced.valid replaced.mirrors
  rw [← candidateAccepted_iff]
  unfold CandidateAccepted
  exact accepted

/-- Going back leaves the texts of the running entries alone. -/
theorem tried_contents (aligned : Aligned system)
    (valid : irrigationConfigurationValidate candidate system.manager.boardZones = .ok)
    (offered : CandidateOffered system candidate answer tried) :
    (tried.showing (restoredViews system.manager candidate)).contents = tried.contents := by
  by_cases fits : Fits system.manager.configuration.live candidate.live
  · have ok := (offered_ok_iff offered).mpr (candidateTaken_of_fits aligned.faithful valid fits)
    subst ok
    have replaced := aligned.faithful.replaced valid fits
    have refilled := ((aligned.faithful.rebuildingBack valid).refilled aligned.faithful.live).2
    rw [offered.contents aligned.faithful valid fits]
    change tried.entries.map (·.content (restoredViews system.manager candidate).memory) = _
    rw [offered.reconfigured.entries]
    exact replaced.tracks.contents replaced.capacity refilled
  · have texts := RuntimeViews.memory_text_eq (restored_keys aligned.faithful valid
      (unfit_keeps aligned.faithful valid fits))
    have memory : tried.memory = (candidateViews system.manager candidate).memory := offered.memory
    change tried.entries.map (·.content (restoredViews system.manager candidate).memory) =
      tried.entries.map (·.content tried.memory)
    apply List.map_congr_left
    intro entry _
    simp only [SchedulerEntry.content,SchedulerEntry.idText,texts,memory]

/-- A schedule's entry after both rebuilds is the one it was before, or unknown before. -/
theorem Aligned.handled_restored (aligned : Aligned system) {index : Nat} {schedule : IrrigationScheduleConfiguration}
    (given : system.manager.configuration.liveSchedules[index]? = some schedule) (views : RuntimeViews) :
    system.world.handled (scheduledContent views schedule) =
      if programSlotForId views schedule.programId = programSlotForId system.manager.views schedule.programId then
        system.world.store.scheduler.occurrence index
      else unhandledOccurrence := by
  split
  · next same =>
    rw [← aligned.handled_at given,scheduledContent,same]
    rfl
  · next moved =>
    apply handled_absent
    rw [aligned.contents]
    intro known
    obtain ⟨other,member,content⟩ := List.mem_map.mp known
    simp only [scheduledContent,EntryContent.mk.injEq,Option.some_inj] at content
    obtain ⟨id,_,_,_,_,program⟩ := content
    have same : other = schedule := by
      have distinct := aligned.faithful.live.schedulesDistinct
      exact List.inj_on_of_nodup_map distinct member (List.mem_of_getElem? given) (CharArray.toCString_injective id)
    rw [same] at program
    exact moved (Option.map_injective Fin.val_injective program).symm

/-- What is handled of a schedule's restored entry once the candidate was offered. -/
theorem offered_handled (aligned : Aligned system)
    (valid : irrigationConfigurationValidate candidate system.manager.boardZones = .ok)
    (offered : CandidateOffered system candidate answer tried) {index : Nat} {schedule : IrrigationScheduleConfiguration}
    (given : system.manager.configuration.liveSchedules[index]? = some schedule) :
    tried.handled (scheduledContent (restoredViews system.manager candidate) schedule) =
      if Stands system.manager candidate index schedule then system.world.store.scheduler.occurrence index
      else unhandledOccurrence := by
  have before := aligned.handled_restored given (restoredViews system.manager candidate)
  have accepts := offered_ok_iff offered
  have programBack := aligned.faithful.programBack_iff valid (aligned.faithful.program_live given)
  by_cases moved : programSlotForId (restoredViews system.manager candidate) schedule.programId =
      programSlotForId system.manager.views schedule.programId
  · rw [if_pos moved] at before
    have content : scheduledContent (restoredViews system.manager candidate) schedule =
        scheduledContent system.manager.views schedule := by rw [scheduledContent,moved]; rfl
    cases offered with
    | refused =>
      have refused : ¬CandidateTaken system.manager candidate := fun accepted =>
        absurd (accepts.mpr accepted) (by decide)
      rw [if_pos ⟨programBack.mp moved,fun accepted => absurd accepted refused⟩,← before]
      exact handled_showing system.world.locked (aligned.contents_showing valid) _
    | taken accepted reconfigured =>
      have shown : tried.contents = ((candidateViews system.manager candidate).entries
          candidate.scheduleCount.toNat).map (·.content (candidateViews system.manager candidate).memory) := by
        rw [World.contents,reconfigured.entries,reconfigured.memory]
        rfl
      have listed := aligned.faithful.listedFor_iff valid given
      rw [aligned.handled_taken valid (.taken accepted reconfigured),before,content,shown]
      by_cases held : ListedFor system.manager candidate index schedule
      · rw [if_pos (listed.mpr held),if_pos ⟨programBack.mp moved,fun _ => held⟩]
      · rw [if_neg (fun member => held (listed.mp member)),if_neg fun stands => held (stands.2 (accepts.mp rfl))]
  · rw [if_neg fun stands => moved (programBack.mpr stands.1)]
    rw [if_neg moved] at before
    cases offered with
    | refused =>
      rw [← before]
      exact handled_showing system.world.locked (aligned.contents_showing valid) _
    | taken accepted reconfigured =>
      rw [aligned.handled_taken valid (.taken accepted reconfigured),before]
      split <;> rfl

/-- What is stored for a schedule once the live configuration is back. -/
theorem restored_occurrence (aligned : Aligned system)
    (valid : irrigationConfigurationValidate candidate system.manager.boardZones = .ok)
    (offered : CandidateOffered system candidate answer tried) (taken : RestoredOffered system candidate tried .ok back)
    {index : Nat} {schedule : IrrigationScheduleConfiguration}
    (given : system.manager.configuration.liveSchedules[index]? = some schedule) :
    back.store.scheduler.occurrence index =
      if Stands system.manager candidate index schedule then system.world.store.scheduler.occurrence index
      else unhandledOccurrence := by
  have inStep : InStep tried := offered.inStep (aligned.inStep_showing valid)
  have restoring : InStep (tried.showing (restoredViews system.manager candidate)) :=
    inStep.showing (tried_contents aligned valid offered)
  have after : InStep back := taken.inStep restoring
  have tracks : Tracks (restoredViews system.manager candidate) system.manager.configuration :=
    aligned.faithful.back valid
  have contents : back.contents = system.manager.configuration.liveSchedules.map
      (scheduledContent (restoredViews system.manager candidate)) := by
    rw [World.contents,taken.reconfigured.entries,taken.memory]
    exact tracks.contents aligned.faithful.capacity .same
  have atIndex : back.contents[index]? = some (scheduledContent (restoredViews system.manager candidate) schedule) := by
    rw [contents,List.getElem?_map,given]
    rfl
  rw [← after.handled_at atIndex,taken.reconfigured.handled restoring after,
    if_pos (List.mem_of_getElem? atIndex),handled_showing tried (tried_contents aligned valid offered)]
  exact offered_handled aligned valid offered given

theorem shown_restored (aligned : Aligned system)
    (valid : irrigationConfigurationValidate candidate system.manager.boardZones = .ok)
    (taken : RestoredOffered system candidate tried .ok back) : back.shown = system.world.shown := by
  have tracks : Tracks (restoredViews system.manager candidate) system.manager.configuration :=
    aligned.faithful.back valid
  have lengths := liveSchedules_length aligned.faithful.valid
  rw [World.shown,World.shown,taken.reconfigured.entries,taken.memory,aligned.entries,aligned.linked]
  apply List.ext_getElem
  · rw [List.length_map,List.length_map,RuntimeViews.entries_length,RuntimeViews.entries_length]
  · intro index inside bound
    rw [List.length_map,RuntimeViews.entries_length,← lengths] at inside
    have same := tracks.shown aligned.faithful.live aligned.faithful.tracks (List.getElem?_eq_getElem inside)
    simp only [RuntimeViews.entries,List.getElem_map,List.getElem_range]
    exact same

/-- After a rollback memory is as it was exactly when everything handled stood through. -/
theorem rolledBack_restored_iff (aligned : Aligned system)
    (valid : irrigationConfigurationValidate candidate system.manager.boardZones = .ok)
    (offered : CandidateOffered system candidate answer tried) (taken : RestoredOffered system candidate tried .ok back)
    (storage : σ) :
    Restored system ⟨{ system.manager with views := restoredViews system.manager candidate },back.unlocked,storage⟩ ↔
      EveryHandled system (Stands system.manager candidate) := by
  have stored {index : Nat} {schedule : IrrigationScheduleConfiguration}
      (given : system.manager.configuration.liveSchedules[index]? = some schedule) :=
    restored_occurrence aligned valid offered taken given
  have lengths := liveSchedules_length aligned.faithful.valid
  have entries : system.world.entries.length = system.manager.configuration.liveSchedules.length := by
    rw [aligned.entries,RuntimeViews.entries_length,lengths]
  constructor
  · intro restored index schedule given handled
    by_contra fell
    have same := restored.occurrences index (by rw [entries]; exact (List.getElem?_eq_some_iff.mp given).1)
    change back.store.scheduler.occurrence index = _ at same
    rw [stored given,if_neg fell] at same
    exact handled (congrArg Prod.snd same).symm
  · intro stands
    have shown := shown_restored aligned valid taken
    refine ⟨rfl,shown,fun index inside => ?_⟩
    rw [entries] at inside
    have given := List.getElem?_eq_getElem inside
    change back.store.scheduler.occurrence index = _
    rw [stored given]
    split
    · rfl
    · next fell =>
      by_cases handled : (system.world.store.scheduler.occurrence index).2 = .none
      · exact (aligned.tidy index handled).symm
      · exact absurd (stands index _ given handled) fell

end Replacing

section Failed

variable {device : Repository.ConfigurationRepositoryStorage σ} {candidate : IrrigationConfiguration}
  {system next : ManagedSystem ε σ} {result : IrrigationResult}

theorem Restored.refl (system : ManagedSystem ε σ) : Restored system system := ⟨rfl,rfl,fun _ _ => rfl⟩

/-- A replacement that failed left memory as it was exactly when everything handled stood through. -/
theorem Replacing.restored_iff (replacing : Replacing device candidate system result next)
    (aligned : Aligned system)
    (valid : irrigationConfigurationValidate candidate system.manager.boardZones = .ok) :
    (result ≠ .ok → Restored system next) ↔
      (CandidateTaken system.manager candidate ∧ Persists device candidate system) ∨
        EveryHandled system (Stands system.manager candidate) := by
  cases replacing with
  | installed persists taken =>
    exact ⟨fun _ => .inl ⟨(offered_ok_iff taken).mp rfl,persists⟩,fun _ failed => absurd rfl failed⟩
  | @restored answer tried back storage failed offered taken =>
    have back := rolledBack_restored_iff aligned valid offered taken storage
    rw [← back]
    constructor
    · exact fun restored => .inr (restored (rolledBack_failed answer))
    · rintro (⟨accepted,persists⟩ | restored) _
      · exact absurd persists (failed ((offered_ok_iff offered).mpr accepted))
      · exact restored

theorem Replacing.shown (replacing : Replacing device candidate system result next) (aligned : Aligned system)
    (valid : irrigationConfigurationValidate candidate system.manager.boardZones = .ok) (failed : result ≠ .ok) :
    next.manager.configuration = system.manager.configuration ∧ next.world.shown = system.world.shown := by
  cases replacing with
  | installed => exact absurd rfl failed
  | restored _ _ taken =>
    have shown := shown_restored aligned valid taken
    exact ⟨rfl,shown⟩

/-- With room for the ids of both, exactly the schedules of both stand. -/
theorem stands_iff_of_fits (faithful : Faithful system.manager)
    (valid : irrigationConfigurationValidate candidate system.manager.boardZones = .ok)
    (fits : Fits system.manager.configuration.live candidate.live) {index : Nat}
    {schedule : IrrigationScheduleConfiguration}
    (given : system.manager.configuration.liveSchedules[index]? = some schedule) :
    Stands system.manager candidate index schedule ↔ schedule ∈ candidate.liveSchedules := by
  have replaced := faithful.replaced valid fits
  have member := List.mem_of_getElem? given
  have contents : ((candidateViews system.manager candidate).entries candidate.scheduleCount.toNat).map
      (·.content (candidateViews system.manager candidate).memory) =
        candidate.liveSchedules.map (scheduledContent (candidateViews system.manager candidate)) :=
    replaced.tracks.contents replaced.capacity .same
  rw [Stands,← faithful.listedFor_iff valid given,contents]
  constructor
  · rintro ⟨_,listed⟩
    obtain ⟨new,newMember,content⟩ := List.mem_map.mp (listed (candidateTaken_of_fits faithful valid fits))
    exact (scheduledContent_inj faithful valid fits member newMember).mp content ▸ newMember
  · intro stays
    obtain ⟨program,known,named⟩ := (replaced.live.schedules _ stays).program
    refine ⟨.inl (mem_programIds.mpr (List.mem_map.mpr ⟨program,known,named⟩)),fun _ => ?_⟩
    exact List.mem_map.mpr ⟨schedule,stays,(scheduledContent_inj faithful valid fits member stays).mpr rfl⟩

/-- For an edit the condition is that its candidate can be saved, or that every schedule with a handled occurrence
is still in it. -/
theorem restoredWhen_edit_iff {mutation : Mutation} (incremental : ∀ candidate, mutation ≠ .replace candidate)
    (aligned : Aligned system) :
    RestoredWhen device mutation system ↔ ∀ candidate, mutation.prepare system.manager.configuration = .ok candidate →
      irrigationConfigurationValidate candidate system.manager.boardZones = .ok →
        Persists device candidate system ∨ EveryHandled system fun _ schedule => schedule ∈ candidate.liveSchedules := by
  refine forall_congr' fun candidate => forall_congr' fun prepared => forall_congr' fun valid => ?_
  have fits := prepared_fits aligned.faithful prepared valid incremental
  have taken := candidateTaken_of_fits aligned.faithful valid fits
  have stand : EveryHandled system (Stands system.manager candidate) ↔
      EveryHandled system fun _ schedule => schedule ∈ candidate.liveSchedules :=
    forall_congr' fun _ => forall_congr' fun _ => forall_congr' fun given => forall_congr' fun _ =>
      stands_iff_of_fits aligned.faithful valid fits given
  rw [stand]
  exact or_congr (and_iff_right taken) (and_iff_right aligned)

/-! ### Any bound manager -/

theorem configureLocked_synchronization (entries : List SchedulerEntry) (world : World ε) :
    (schedulerServiceConfigureLocked entries world).2.synchronization = world.synchronization := by
  rcases schedulerServiceConfigureLocked_cases entries world with ⟨_,run⟩ | ⟨_,next,run,reconfigured⟩
  · rw [run]
  · obtain ⟨_,rfl⟩ := reconfigured.taken
    rw [run]
    rfl

theorem reconfigure_synchronization (configuration : IrrigationConfiguration) (changed : Bool)
    (system : ManagedSystem ε σ) :
    (reconfigure configuration changed system).2.world.synchronization = system.world.synchronization := by
  rw [reconfigure_run]
  exact configureLocked_synchronization _ _

theorem rollBack_synchronization (failure : IrrigationResult) (changed : Bool) (system : ManagedSystem ε σ) :
    (rollBack failure changed system).2.world.synchronization = system.world.synchronization ++ [.unlock] := by
  rw [← reconfigure_synchronization system.manager.configuration changed system]
  rfl

theorem persistCandidate_world (device : Repository.ConfigurationRepositoryStorage σ)
    (candidate : IrrigationConfiguration) (system : ManagedSystem ε σ) :
    (persistCandidate device candidate system).2.world = system.world := by
  unfold persistCandidate
  split <;> rfl

theorem replaceBound_synchronization (device : Repository.ConfigurationRepositoryStorage σ)
    (candidate : IrrigationConfiguration) (changed : Bool) (system : ManagedSystem ε σ) :
    (replaceBound device candidate changed system).2.world.synchronization =
      system.world.synchronization ++ [.lock,.unlock] := by
  have locked : (system.schedule schedulerServiceLock).2.world.synchronization =
      system.world.synchronization ++ [.lock] := rfl
  have configured := reconfigure_synchronization candidate changed (system.schedule schedulerServiceLock).2
  have persisted := persistCandidate_world device candidate
    (reconfigure candidate changed (system.schedule schedulerServiceLock).2).2
  rw [locked] at configured
  unfold replaceBound
  dsimp only
  split
  · rw [rollBack_synchronization,configured,List.append_assoc]
    rfl
  · split
    · rw [rollBack_synchronization,persisted,configured,List.append_assoc]
      rfl
    · change (persistCandidate device candidate _).2.world.synchronization ++ [.unlock] = _
      rw [persisted,configured,List.append_assoc]
      rfl

/-- Whatever state it is called in, a mutation gives back the lock that it took. -/
theorem mutate_lockBalanced (device : Repository.ConfigurationRepositoryStorage σ) (mutation : Mutation)
    (system : ManagedSystem ε σ) : LockBalanced system.world (mutate device mutation system).2.world := by
  rcases mutate_cases device mutation system with ⟨_,_,_,run⟩ | ⟨candidate,_,run⟩
  · rw [run]
    exact .inl rfl
  · rw [run,replaceCandidate]
    dsimp only
    split
    · exact .inl rfl
    · split
      · exact .inr (replaceBound_synchronization device candidate _ system)
      · refine .inl ?_
        rw [← persistCandidate_world device candidate system,replaceUnbound]
        dsimp only
        split <;> rfl

theorem replaceCandidate_configuration (device : Repository.ConfigurationRepositoryStorage σ)
    (candidate : IrrigationConfiguration) (system : ManagedSystem ε σ) :
    (replaceCandidate device candidate system).2.manager.configuration =
      if (replaceCandidate device candidate system).1 = .ok then candidate else system.manager.configuration := by
  have step := replaceCandidate_step device candidate system
  revert step
  generalize (replaceCandidate device candidate system).1 = answer
  generalize (replaceCandidate device candidate system).2.manager = next
  intro step
  cases step with
  | refused failed | rolledBack _ failed => rw [if_neg failed]
  | installed => rw [if_pos rfl]

/-- A candidate that the scheduler takes and the repository saves is installed. -/
theorem replaceBound_installs (valid : irrigationConfigurationValidate candidate system.manager.boardZones = .ok)
    (taken : CandidateTaken system.manager candidate) (persists : Persists device candidate system) :
    (replaceBound device candidate (programsChanged system.manager candidate) system).1 = .ok := by
  have room : candidate.scheduleCount.toNat ≤ irrigationMaxSchedules := ((validate_ok_iff _ _).mp valid).1.schedules
  have offering := offered (candidateViews system.manager candidate) room
    (system.world.locked.showing (candidateViews system.manager candidate))
  cases outcome : schedulerServiceConfigureLocked ((candidateViews system.manager candidate).entries
      candidate.scheduleCount.toNat) (system.world.locked.showing (candidateViews system.manager candidate)) with
  | mk answer tried =>
    rw [outcome] at offering
    have answered : answer = .ok := (offered_ok_iff offering).mpr taken
    obtain ⟨storage,⟨_,saved⟩ | ⟨unsaved,_⟩⟩ := persistCandidate_cases device candidate
      ⟨{ system.manager with views := candidateViews system.manager candidate },tried,system.storage⟩
    · simp only [replaceBound,reconfigure_candidate outcome,answered,saved,ne_eq,not_true_eq_false,if_false]
    · exact absurd persists unsaved

theorem mutate_restores (bound : system.manager.schedulerService = true) {mutation : Mutation}
    (restored : RestoredWhen device mutation system) (failed : (mutate device mutation system).1 ≠ .ok) :
    Restored system (mutate device mutation system).2 := by
  rcases mutate_cases device mutation system with ⟨_,_,_,run⟩ | ⟨candidate,prepared,run⟩
  · rw [run]
    exact .refl system
  · by_cases valid : irrigationConfigurationValidate candidate system.manager.boardZones = .ok
    · rcases restored candidate prepared valid with ⟨taken,persists⟩ | ⟨aligned,stands⟩
      · have installed := replaceBound_installs valid taken persists
        rw [run] at failed
        simp only [replaceCandidate,configurationManagerValidateCandidate,valid,ne_eq,not_true_eq_false,if_false,
          bound,if_true] at failed
        exact absurd installed failed
      · rcases mutate_replacing device aligned.toMirrored mutation with
          ⟨_,_,_,unfit⟩ | ⟨other,otherPrepared,_,replacing⟩
        · exact absurd valid (unfit candidate prepared)
        · rw [prepared] at otherPrepared
          cases otherPrepared
          exact (replacing.restored_iff aligned valid).mpr (.inr stands) failed
    · have same : (mutate device mutation system).2 = system := by
        rw [run]
        simp only [replaceCandidate,configurationManagerValidateCandidate,valid,ne_eq,not_false_eq_true,if_true]
      rw [same]
      exact .refl system

/-- A failed mutation of a bound manager gives the lock back and leaves memory as it was when its candidate did not
get as far as the scheduler, was taken and saved, or everything that was handled stood through; while the scheduler
is in step with the manager, exactly then. The live configuration comes back in any case, and what the scheduler's
entries say while they are in step. Only a replacement whose ids did not fit leaves them out of step. -/
theorem failed_mutation_restores_iff (bound : system.manager.schedulerService = true)
    (device : Repository.ConfigurationRepositoryStorage σ) (mutation : Mutation) :
    let outcome := mutate device mutation system
    let restores := LockBalanced system.world outcome.2.world ∧ (outcome.1 ≠ .ok → Restored system outcome.2)
    (RestoredWhen device mutation system → restores) ∧
    (Aligned system → (restores ↔ RestoredWhen device mutation system)) ∧
    LockBalanced system.world outcome.2.world ∧
    (outcome.1 ≠ .ok → outcome.2.manager.configuration = system.manager.configuration) ∧
    (Aligned system → (outcome.1 ≠ .ok → outcome.2.world.shown = system.world.shown) ∧
      ((outcome.1 = .ok → Fits system.manager.configuration.live outcome.2.manager.configuration.live) →
        Aligned outcome.2)) := by
  intro outcome restores
  have balanced : LockBalanced system.world outcome.2.world := mutate_lockBalanced device mutation system
  have enough (restored : RestoredWhen device mutation system) : restores :=
    ⟨balanced,mutate_restores bound restored⟩
  refine ⟨enough,fun aligned => ⟨fun restored => ?_,enough⟩,balanced,fun failed => ?_,fun aligned => ?_⟩
  · intro candidate prepared valid
    rcases mutate_replacing device aligned.toMirrored mutation with ⟨_,_,_,unfit⟩ | ⟨other,otherPrepared,_,replacing⟩
    · exact absurd valid (unfit candidate prepared)
    · rw [prepared] at otherPrepared
      cases otherPrepared
      exact ((replacing.restored_iff aligned valid).mp restored.2).imp_right fun stands => ⟨aligned,stands⟩
  · rcases mutate_cases device mutation system with ⟨_,_,_,run⟩ | ⟨candidate,_,run⟩
    · have same : outcome = (_,system) := run
      rw [same]
    · have same : outcome = replaceCandidate device candidate system := run
      rw [same] at failed ⊢
      rw [replaceCandidate_configuration,if_neg failed]
  · rcases mutate_replacing device aligned.toMirrored mutation with ⟨_,failed,run,_⟩ | ⟨candidate,_,valid,replacing⟩
    · have same : outcome = (_,system) := run
      rw [same]
      exact ⟨fun _ => rfl,fun _ => aligned⟩
    · refine ⟨fun failed => (replacing.shown aligned valid failed).2,fun fits => ?_⟩
      refine replacing.aligned aligned valid fun ok => ?_
      have room := fits ok
      obtain ⟨_,_,_,_,installed⟩ := replacing.of_ok ok
      have same : outcome.2 = _ := installed
      rw [same] at room
      exact room

end Failed

/-! ### The development kit -/

/-- A storage that fails every call. -/
def brokenStorage : Repository.ConfigurationRepositoryStorage Repository.SlotContents where
  read _ _ contents := (.error .storageError,contents)
  write _ _ contents := (.storageError,contents)
  commit contents := (.storageError,contents)

/-- A Monday at six. -/
def devMonday : SchedulerTime := ⟨109430,0,6,0⟩

/-- The development kit after its schedule started the program on that Monday. -/
def devHandled : ManagedSystem UInt64 Repository.SlotContents :=
  { devSystem true true with
    world := (devSystem true true).world.withScheduler
      ((devSystem true true).world.store.scheduler.record 0 (occurrenceFor devMonday) .started) }

theorem devHandled_aligned : Aligned devHandled :=
  (devSystem_aligned true true).recorded 0 (occurrenceFor devMonday) (by decide)

def devRenaming : Mutation := .renameZone (some (.literal "zone-1")) (some (.literal "beds"))

/-- The zone's new name cannot be saved either, but the schedule stands in the candidate as it was. -/
theorem failed_mutation_restores_iff_devHandled :
    let outcome := mutate brokenStorage devRenaming devHandled
    outcome.1 = .internalError ∧ Restored devHandled outcome.2 ∧
      ¬RestoredWhen brokenStorage (.setScheduleEnabled 0 false) devHandled := by
  have stands : RestoredWhen brokenStorage devRenaming devHandled := by
    intro candidate prepared _
    have same : candidate = (devRenaming.prepare devHandled.manager.configuration).toOption.getD
        devHandled.manager.configuration := by
      rw [prepared]
      rfl
    subst same
    refine .inr ⟨devHandled_aligned,fun index schedule given _ => ?_⟩
    match index, given with
    | 0, given =>
      cases given
      decide +kernel
    | index + 1, given => cases given
  have failed : (mutate brokenStorage devRenaming devHandled).1 = .internalError := by decide +kernel
  refine ⟨failed,((failed_mutation_restores_iff rfl brokenStorage devRenaming).1 stands).2 (by rw [failed]; simp),
    fun other => ?_⟩
  have restored := (((failed_mutation_restores_iff rfl brokenStorage (.setScheduleEnabled 0 false)).2.1
    devHandled_aligned).mpr other).2 (by decide +kernel)
  have kept := restored.occurrences 0 (by decide +kernel)
  exact absurd kept (by decide +kernel)

/-- Switching the schedule off cannot be saved, and the scheduler forgets that it ran: it is due again. -/
theorem unsaved_disable_forgets :
    let outcome := mutate brokenStorage (.setScheduleEnabled 0 false) devHandled
    Aligned devHandled ∧ outcome.1 = .internalError ∧
      devHandled.world.store.scheduler.occurrence 0 = (occurrenceFor devMonday,.started) ∧
      outcome.2.world.store.scheduler.occurrence 0 = unhandledOccurrence ∧
      (devHandled.world.entries.map (entryIsDue devHandled.world.store devMonday 0)) = [false] ∧
      (outcome.2.world.entries.map (entryIsDue outcome.2.world.store devMonday 0)) = [true] := by
  refine ⟨devHandled_aligned,?_,?_,?_,?_,?_⟩ <;> decide +kernel

end Irrigation
