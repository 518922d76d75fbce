import Irrigation.ReplacementVerdicts

/-! Two managers with the same live configuration under the same call. They may differ in
what deleted entries left in their arrays, and in the slots of their views. -/
namespace Irrigation

open KeyedSlots

/-! ### Up to the enabled flags -/

def IrrigationScheduleConfiguration.masked (schedule : IrrigationScheduleConfiguration) :
    IrrigationScheduleConfiguration := schedule.enable false

def LiveConfiguration.masked (live : LiveConfiguration) : LiveConfiguration :=
  { live with schedules := live.schedules.map (·.masked) }

def SchedulerEntry.masked (entry : SchedulerEntry) : SchedulerEntry := { entry with enabled := false }

def RuntimeViews.masked (views : RuntimeViews) : RuntimeViews :=
  { views with schedules := fun index => (views.schedules index).masked }

/-- Only a created schedule takes over a flag. -/
theorem prepareLive_masked (live : LiveConfiguration) (first second : Bool) (mutation : Mutation) :
    (mutation.prepareLive live first).map (·.masked) = (mutation.prepareLive live second).map (·.masked) := by
  cases mutation with
  | createSchedule weekdayMask hour minute programId =>
    cases programId with
    | none => rfl
    | some programId =>
      simp only [Mutation.prepareLive,LiveConfiguration.saveSchedule]
      split
      · rfl
      · simp [Except.map,LiveConfiguration.masked,IrrigationScheduleConfiguration.masked,
        IrrigationScheduleConfiguration.enable]
  | replace candidate => cases candidate <;> rfl
  | _ => rfl

theorem masked_validSchedule (programs : List LiveProgram) (schedule : IrrigationScheduleConfiguration) :
    ValidSchedule programs schedule.masked ↔ ValidSchedule programs schedule :=
  ⟨fun valid => ⟨valid.scheduleId,valid.programId,valid.program,valid.weekday,valid.weekdays,valid.hour,valid.minute⟩,
    fun valid => ⟨valid.scheduleId,valid.programId,valid.program,valid.weekday,valid.weekdays,valid.hour,valid.minute⟩⟩

theorem masked_scheduleIds (schedules : List IrrigationScheduleConfiguration) :
    (schedules.map (·.masked)).map (·.scheduleId) = schedules.map (·.scheduleId) := by
  rw [List.map_map]
  rfl

theorem masked_valid (live : LiveConfiguration) (boardZones : List Zone) :
    live.masked.Valid boardZones ↔ live.Valid boardZones := by
  have schedules : (∀ schedule ∈ live.masked.schedules, ValidSchedule live.programs schedule) ↔
      ∀ schedule ∈ live.schedules, ValidSchedule live.programs schedule := by
    rw [LiveConfiguration.masked,List.forall_mem_map]
    exact forall₂_congr fun schedule _ => masked_validSchedule live.programs schedule
  have distinct : live.masked.schedules.map (·.scheduleId) = live.schedules.map (·.scheduleId) :=
    masked_scheduleIds live.schedules
  have count : live.masked.schedules.length = live.schedules.length := List.length_map ..
  constructor
  · rintro ⟨version,room,zoneCount,programCount,scheduleCount,zones,zonesDistinct,programs,programsDistinct,each,ids⟩
    exact ⟨version,room,zoneCount,programCount,count ▸ scheduleCount,zones,zonesDistinct,programs,programsDistinct,
      schedules.mp each,distinct ▸ ids⟩
  · rintro ⟨version,room,zoneCount,programCount,scheduleCount,zones,zonesDistinct,programs,programsDistinct,each,ids⟩
    exact ⟨version,room,zoneCount,programCount,count ▸ scheduleCount,zones,zonesDistinct,programs,programsDistinct,
      schedules.mpr each,distinct ▸ ids⟩

theorem fits_masked (old new : LiveConfiguration) : Fits old.masked new.masked ↔ Fits old new := by
  have ids (live : LiveConfiguration) : scheduleIds live.masked = scheduleIds live :=
    congrArg List.toFinset (masked_scheduleIds live.schedules)
  constructor
  · rintro ⟨programs,schedules⟩
    rw [ids,ids] at schedules
    exact ⟨programs,schedules⟩
  · rintro ⟨programs,schedules⟩
    rw [← ids old,← ids new] at schedules
    exact ⟨programs,schedules⟩

section Alike

variable {first second : IrrigationConfiguration} {left right : RuntimeViews}

/-- Two configurations with the same programs, and the same schedules up to the enabled flags. -/
structure Alike (first second : IrrigationConfiguration) : Prop where
  programs : first.live.programs = second.live.programs
  schedules : first.liveSchedules.map (·.masked) = second.liveSchedules.map (·.masked)

theorem alike_of_masked (same : first.live.masked = second.live.masked) : Alike first second := by
  have programs : first.live.masked.programs = second.live.masked.programs :=
    congrArg LiveConfiguration.programs same
  have schedules : first.live.masked.schedules = second.live.masked.schedules :=
    congrArg LiveConfiguration.schedules same
  exact ⟨programs,schedules⟩

theorem masked_programs (views : left.masked = right.masked) : left.programs = right.programs := by
  have programs : left.masked.programs = right.masked.programs := congrArg RuntimeViews.programs views
  exact programs

theorem masked_scheduleSlots (views : left.masked = right.masked) : left.scheduleIds = right.scheduleIds := by
  have scheduleIds : left.masked.scheduleIds = right.masked.scheduleIds := congrArg RuntimeViews.scheduleIds views
  exact scheduleIds

theorem programIndex_live (configuration : IrrigationConfiguration) (programId : IdText) :
    programIndexForId configuration programId =
      configuration.live.programs.findIdx? fun program => program.programId = programId := by
  rw [IrrigationConfiguration.live,List.findIdx?_map]
  rfl

theorem scheduledProgram_live (views : RuntimeViews) (configuration : IrrigationConfiguration)
    (configured : IrrigationScheduleConfiguration) : scheduledProgram views configuration configured =
      (configuration.live.programs.findIdx? fun program => program.programId = configured.programId).bind fun index =>
        configuration.live.programs[index]?.bind fun program => views.programs.slotForKey program.programId := by
  rw [scheduledProgram,programIndex_live]
  refine Option.bind_congr fun index _ => ?_
  rw [IrrigationConfiguration.live,List.getElem?_map,Option.bind_map]
  rfl

theorem programEntries_live (configuration : IrrigationConfiguration) :
    configuration.livePrograms.map programEntry = configuration.live.programs.map fun program =>
      ⟨copyText program.programId.toCString,⟨some (copyText program.displayName.toCString : NameText).toCString,
        program.steps.map fun step =>
          ⟨some (copyText step.zoneId.toCString : IdText).toCString,step.durationMs⟩,0⟩⟩ := by
  rw [IrrigationConfiguration.live,List.map_map]
  rfl

theorem scheduledProgram_alike (programs : first.live.programs = second.live.programs)
    (views : left.programs = right.programs) :
    scheduledProgram left first = scheduledProgram right second := by
  funext configured
  rw [scheduledProgram_live,scheduledProgram_live,programs,views]

theorem storeSchedules_alike (alike : Alike first second) (views : left.masked = right.masked) :
    storeSchedules left first = storeSchedules right second := by
  have slots := masked_scheduleSlots views
  have chosen := scheduledProgram_alike alike.programs (masked_programs views)
  have entries (view : RuntimeViews) (configuration : IrrigationConfiguration) :
      (configuration.liveSchedules.map fun configured =>
        (scheduledProgram view configuration configured).map fun _ => scheduleEntry configured) =
      (configuration.liveSchedules.map (·.masked)).map fun configured =>
        (scheduledProgram view configuration configured).map fun _ => scheduleEntry configured := by
    rw [List.map_map]
    rfl
  rw [storeSchedules,storeSchedules,entries,entries,alike.schedules,chosen,slots]

theorem writtenSchedule_masked (views : RuntimeViews) (configuration : IrrigationConfiguration) (index : Nat) :
    (writtenSchedule views configuration index).map (·.masked) =
      (storeSchedules views configuration).chosen[index]?.bind fun slot =>
        (configuration.liveSchedules.map (·.masked))[index]?.bind fun configured =>
          (scheduledProgram views configuration configured).map fun program => runtimeSchedule slot program configured := by
  unfold writtenSchedule
  rw [List.getElem?_map]
  cases (storeSchedules views configuration).chosen[index]? with
  | none => rfl
  | some slot =>
    cases configuration.liveSchedules[index]? with
    | none => rfl
    | some configured =>
      change Option.map _ (Option.bind (scheduledProgram views configuration configured) _) =
        (scheduledProgram views configuration configured).map _
      cases scheduledProgram views configuration configured <;> rfl

theorem rebuildSchedules_alike (alike : Alike first second) (views : left.masked = right.masked) :
    (rebuildSchedules left first).masked = (rebuildSchedules right second).masked := by
  have stored := storeSchedules_alike alike views
  have programs : left.programs = right.programs := masked_programs views
  have kept (index : Nat) : (left.schedules index).masked = (right.schedules index).masked :=
    congrFun (congrArg RuntimeViews.schedules views) index
  have written (index : Nat) : (writtenSchedule left first index).map (·.masked) =
      (writtenSchedule right second index).map (·.masked) := by
    rw [writtenSchedule_masked,writtenSchedule_masked,stored,alike.schedules,
      scheduledProgram_alike alike.programs programs]
  have schedules (index : Nat) : ((rebuildSchedules left first).schedules index).masked =
      ((rebuildSchedules right second).schedules index).masked := by
    change ((writtenSchedule left first index).getD (left.schedules index)).masked =
      ((writtenSchedule right second index).getD (right.schedules index)).masked
    rw [← Option.getD_map SchedulerEntry.masked,← Option.getD_map SchedulerEntry.masked,written,kept]
  rw [RuntimeViews.masked,RuntimeViews.masked,funext schedules]
  simp only [rebuildSchedules,stored,programs]

theorem rebuild_alike (alike : Alike first second) (views : left.masked = right.masked) (changed : Bool) :
    (rebuildRuntimeViews left first changed).masked = (rebuildRuntimeViews right second changed).masked := by
  have programs : left.programs = right.programs := masked_programs views
  have stored : storePrograms left first = storePrograms right second := by
    rw [storePrograms,storePrograms,programEntries_live,programEntries_live,alike.programs,programs]
  have settled : ({ left with programs := Slots.settle (storePrograms left first) } : RuntimeViews).masked =
      ({ right with programs := Slots.settle (storePrograms right second) } : RuntimeViews).masked := by
    rw [stored]
    exact congrArg (fun masked : RuntimeViews =>
      { masked with programs := Slots.settle (storePrograms right second) }) views
  cases changed with
  | false => exact rebuildSchedules_alike alike views
  | true =>
    simp only [rebuildRuntimeViews,if_true,← stored]
    rw [← stored] at settled
    split
    · exact rebuildSchedules_alike alike settled
    · exact settled

theorem accepted_masked (memory : Memory) (entries : List SchedulerEntry) :
    entriesAreAccepted memory (entries.map (·.masked)) = entriesAreAccepted memory entries := by
  rw [Bool.eq_iff_iff,entriesAreAccepted_iff,entriesAreAccepted_iff,List.forall_mem_map,List.map_map]
  rfl

/-- The scheduler's test of new entries does not look at their enabled flags. -/
theorem accepted_alike (views : left.masked = right.masked) (count : Nat) :
    entriesAreAccepted left.memory (left.entries count) = entriesAreAccepted right.memory (right.entries count) := by
  have memory : left.masked.memory = right.masked.memory := congrArg RuntimeViews.memory views
  change left.memory = right.memory at memory
  have entries : (left.entries count).map (·.masked) = (right.entries count).map (·.masked) := by
    rw [RuntimeViews.entries,RuntimeViews.entries,List.map_map,List.map_map]
    exact congrArg (List.range count).map (congrArg RuntimeViews.schedules views)
  rw [← accepted_masked left.memory,← accepted_masked right.memory,memory,entries]

end Alike

variable {ε σ : Type}

/-! ### Two managers under the same call -/

theorem programsAreEqual_iff {left right : IrrigationConfiguration} (leftRoom : left.WithinCapacity)
    (rightRoom : right.WithinCapacity) :
    programsAreEqual left right = true ↔ left.live.programs = right.live.programs :=
  ⟨programsAreEqual_live,programsAreEqual_of_live leftRoom rightRoom⟩

/-- What a create reports beside its result. -/
def reportedIndex (device : Repository.ConfigurationRepositoryStorage σ) (system : ManagedSystem ε σ) :
    Mutation → Option Nat
  | .createProgram displayName steps => (configurationManagerCreateProgram device displayName steps system).2.1
  | .createSchedule weekdayMask hour minute programId =>
    (configurationManagerCreateSchedule device weekdayMask hour minute programId system).2.1
  | _ => none

section Twins

variable (device : Repository.ConfigurationRepositoryStorage σ) (mutation : Mutation)

/-- Two systems whose managers agree on the live configuration, and on whether the call's candidate
can be saved. Their leftover entries and their views may differ. -/
structure Twins (first second : ManagedSystem ε σ) : Prop where
  live : first.manager.configuration.live = second.manager.configuration.live
  firstRoom : first.manager.configuration.WithinCapacity
  secondRoom : second.manager.configuration.WithinCapacity
  boardZones : first.manager.boardZones = second.manager.boardZones
  bound : first.manager.schedulerService = second.manager.schedulerService
  persists : ∀ left right, mutation.prepare first.manager.configuration = .ok left →
    mutation.prepare second.manager.configuration = .ok right →
      (Persists device left first ↔ Persists device right second)

/-- The call returns the same and leaves the same live configuration. -/
def LeavesNoTrace (first second : ManagedSystem ε σ) : Prop :=
  (mutate device mutation first).1 = (mutate device mutation second).1 ∧
    reportedIndex device first mutation = reportedIndex device second mutation ∧
    (mutate device mutation first).2.manager.configuration.live =
      (mutate device mutation second).2.manager.configuration.live

/-- The candidate's list is not taken, and the live one on the way back is. -/
def Refuses (manager : ConfigurationManager) (candidate : IrrigationConfiguration) : Prop :=
  ¬CandidateTaken manager candidate ∧ LiveTaken manager candidate

/-- The views are the same, or they track the configuration on both sides, as after a reboot, and
there is room for the candidate's ids beside the live ones. -/
def ViewsAgree (first second : ConfigurationManager) (candidate : IrrigationConfiguration) : Prop :=
  first.views = second.views ∨
    Faithful first ∧ Faithful second ∧ Fits first.configuration.live candidate.live

/-- A schedule that gets created revives the same flag on both sides. Where the views do not agree,
the lists that the ids, slots and old entries give are taken on both sides or on neither. -/
def TracelessWhen (first second : ManagedSystem ε σ) : Prop :=
  ∀ left right, mutation.prepare first.manager.configuration = .ok left →
    mutation.prepare second.manager.configuration = .ok right →
    irrigationConfigurationValidate left first.manager.boardZones = .ok →
    ((∃ weekdayMask hour minute programId, mutation = .createSchedule weekdayMask hour minute programId) →
      (first.manager.schedulerService = true → CandidateTaken first.manager left) → Persists device left first →
        first.manager.configuration.revivedEnabled = second.manager.configuration.revivedEnabled) ∧
    (first.manager.schedulerService = true → ¬ViewsAgree first.manager second.manager left →
      (Refuses first.manager left ↔ Refuses second.manager right) ∧
        (Persists device left first → (CandidateTaken first.manager left ↔ CandidateTaken second.manager right)))

end Twins

section Verdicts

variable {device : Repository.ConfigurationRepositoryStorage σ} {mutation : Mutation}
  {left right : IrrigationConfiguration} {first second : ManagedSystem ε σ} {result other : IrrigationResult}

theorem Verdict.ok_iff (verdict : Verdict device left first result) : result = .ok ↔
    irrigationConfigurationValidate left first.manager.boardZones = .ok ∧
      (first.manager.schedulerService = true → CandidateTaken first.manager left) ∧ Persists device left first := by
  cases verdict with
  | invalid invalid => exact ⟨nofun,fun installed => absurd installed.1 invalid⟩
  | refused _ bound unaccepted =>
    refine ⟨fun ok => ?_,fun installed => absurd (installed.2.1 bound) unaccepted⟩
    split at ok <;> contradiction
  | unsaved _ _ unsaved => exact ⟨nofun,fun installed => absurd installed.2.2 unsaved⟩
  | installed valid accepted persists => exact ⟨fun _ => ⟨valid,accepted,persists⟩,fun _ => rfl⟩

theorem Verdict.rejected_iff (verdict : Verdict device left first result) : result = .rejected ↔
    irrigationConfigurationValidate left first.manager.boardZones = .ok →
      first.manager.schedulerService = true ∧ Refuses first.manager left := by
  cases verdict with
  | invalid invalid => exact ⟨fun _ valid => absurd valid invalid,fun _ => rfl⟩
  | refused valid bound unaccepted =>
    by_cases restored : LiveTaken first.manager left
    · rw [if_pos restored]
      exact ⟨fun _ _ => ⟨bound,unaccepted,restored⟩,fun _ => rfl⟩
    · rw [if_neg restored]
      exact ⟨nofun,fun refuses => absurd (refuses valid).2.2 restored⟩
  | unsaved valid accepted _ =>
    exact ⟨nofun,fun refuses => absurd (accepted (refuses valid).1) (refuses valid).2.1⟩
  | installed valid accepted _ =>
    exact ⟨nofun,fun refuses => absurd (accepted (refuses valid).1) (refuses valid).2.1⟩

theorem Verdict.kinds (verdict : Verdict device left first result) :
    result = .rejected ∨ result = .ok ∨ result = .internalError := by
  cases verdict with
  | refused => split <;> simp
  | invalid | unsaved | installed => simp

/-- The same answers on the way give the same result. -/
theorem Verdict.same (verdict : Verdict device left first result) (mate : Verdict device right second other)
    (valid : irrigationConfigurationValidate left first.manager.boardZones = .ok ↔
      irrigationConfigurationValidate right second.manager.boardZones = .ok)
    (bound : first.manager.schedulerService = second.manager.schedulerService)
    (answers : irrigationConfigurationValidate left first.manager.boardZones = .ok →
      first.manager.schedulerService = true → (Refuses first.manager left ↔ Refuses second.manager right) ∧
        (Persists device left first →
          (CandidateTaken first.manager left ↔ CandidateTaken second.manager right)))
    (persists : Persists device left first ↔ Persists device right second) : result = other := by
  have rejected : result = .rejected ↔ other = .rejected := by
    rw [verdict.rejected_iff,mate.rejected_iff,← valid,← bound]
    exact forall_congr' fun legal => and_congr_right fun scheduled => (answers legal scheduled).1
  have ok : result = .ok ↔ other = .ok := by
    rw [verdict.ok_iff,mate.ok_iff,← valid,← bound,← persists]
    refine and_congr_right fun legal => and_congr_left fun saved => ?_
    exact forall_congr' fun scheduled => (answers legal scheduled).2 saved
  rcases verdict.kinds with same | same | same
  · rw [same,rejected.mp same]
  · rw [same,ok.mp same]
  · rcases mate.kinds with unlike | unlike | alike
    · rw [rejected.mpr unlike] at same
      contradiction
    · rw [ok.mpr unlike] at same
      contradiction
    · rw [same,alike]

theorem liveTaken_of_faithful (faithful : Faithful first.manager)
    (valid : irrigationConfigurationValidate left first.manager.boardZones = .ok) :
    LiveTaken first.manager left := by
  have back : Faithful { first.manager with views := restoredViews first.manager left } :=
    ⟨faithful.valid,faithful.back valid⟩
  have accepted := entries_accepted back.valid back.mirrors
  rw [← restoredAccepted_iff]
  unfold RestoredAccepted
  exact accepted

end Verdicts

section Twins

variable {device : Repository.ConfigurationRepositoryStorage σ} {mutation : Mutation}
  {left right : IrrigationConfiguration} {first second : ManagedSystem ε σ}

/-- Refusals are the same, and candidates the same up to their flags. -/
theorem Twins.prepared (twins : Twins device mutation first second) :
    (mutation.prepare first.manager.configuration).map (·.live.masked) =
      (mutation.prepare second.manager.configuration).map (·.live.masked) := by
  have compose (prepared : Prepared) : prepared.map (·.live.masked) = (prepared.map (·.live)).map (·.masked) := by
    cases prepared <;> rfl
  rw [compose,compose,prepare_live twins.firstRoom,prepare_live twins.secondRoom,twins.live]
  exact prepareLive_masked _ _ _ mutation

/-- Both sides get past the preparation or neither does. -/
theorem Twins.cases (twins : Twins device mutation first second) :
    (∃ result, mutation.prepare first.manager.configuration = .error result ∧
      mutation.prepare second.manager.configuration = .error result) ∨
    ∃ left right, mutation.prepare first.manager.configuration = .ok left ∧
      mutation.prepare second.manager.configuration = .ok right ∧ left.live.masked = right.live.masked := by
  have same := twins.prepared
  cases ofFirst : mutation.prepare first.manager.configuration with
  | error result =>
    cases ofSecond : mutation.prepare second.manager.configuration with
    | error other =>
      rw [ofFirst,ofSecond] at same
      simp only [Except.map,Except.error.injEq] at same
      exact .inl ⟨result,rfl,by rw [same]⟩
    | ok => simp [ofFirst,ofSecond,Except.map] at same
  | ok left =>
    cases ofSecond : mutation.prepare second.manager.configuration with
    | error => simp [ofFirst,ofSecond,Except.map] at same
    | ok right =>
      rw [ofFirst,ofSecond] at same
      simp only [Except.map,Except.ok.injEq] at same
      exact .inr ⟨left,right,rfl,rfl,same⟩

theorem Twins.valid (twins : Twins device mutation first second)
    (ofFirst : mutation.prepare first.manager.configuration = .ok left)
    (ofSecond : mutation.prepare second.manager.configuration = .ok right)
    (same : left.live.masked = right.live.masked) :
    irrigationConfigurationValidate left first.manager.boardZones = .ok ↔
      irrigationConfigurationValidate right second.manager.boardZones = .ok := by
  have live : left.live.Valid first.manager.boardZones ↔ right.live.Valid first.manager.boardZones := by
    rw [← masked_valid,same,masked_valid]
  rw [← twins.boardZones]
  by_cases whole : ∃ candidate, mutation = .replace candidate
  · obtain ⟨candidate,rfl⟩ := whole
    cases candidate with
    | none => simp [Mutation.prepare] at ofFirst
    | some candidate =>
      simp only [Mutation.prepare,Except.ok.injEq] at ofFirst ofSecond
      rw [← ofFirst,← ofSecond]
  · rw [not_exists] at whole
    have incremental : ∀ candidate, mutation ≠ .replace candidate := whole
    exact validate_of_live (prepare_capacity incremental twins.firstRoom ofFirst)
      (prepare_capacity incremental twins.secondRoom ofSecond) live

theorem masked_count (leftRoom : left.WithinCapacity) (rightRoom : right.WithinCapacity)
    (same : left.live.masked = right.live.masked) : left.scheduleCount.toNat = right.scheduleCount.toNat := by
  have alike := congrArg List.length (alike_of_masked same).schedules
  rwa [List.length_map,List.length_map,leftRoom.liveSchedules_length,rightRoom.liveSchedules_length] at alike

/-- From the same views the rebuilds are the same up to the flags. -/
theorem Twins.rebuilt (twins : Twins device mutation first second)
    (views : first.manager.views = second.manager.views) (leftRoom : left.WithinCapacity)
    (rightRoom : right.WithinCapacity) (same : left.live.masked = right.live.masked) :
    (candidateViews first.manager left).masked = (candidateViews second.manager right).masked ∧
      (restoredViews first.manager left).masked = (restoredViews second.manager right).masked := by
  have alike := alike_of_masked same
  have changed : programsChanged first.manager left = programsChanged second.manager right := by
    rw [programsChanged,programsChanged,Bool.not_inj_iff,Bool.eq_iff_iff,programsAreEqual_iff twins.firstRoom leftRoom,
      programsAreEqual_iff twins.secondRoom rightRoom,twins.live,alike.programs]
  have candidates : (candidateViews first.manager left).masked = (candidateViews second.manager right).masked := by
    rw [candidateViews,candidateViews,changed]
    exact rebuild_alike alike (congrArg RuntimeViews.masked views) _
  refine ⟨candidates,?_⟩
  rw [restoredViews,restoredViews,changed]
  exact rebuild_alike (alike_of_masked (congrArg LiveConfiguration.masked twins.live)) candidates _

theorem Twins.accepted (twins : Twins device mutation first second)
    (views : first.manager.views = second.manager.views) (leftRoom : left.WithinCapacity)
    (rightRoom : right.WithinCapacity) (same : left.live.masked = right.live.masked) :
    (CandidateTaken first.manager left ↔ CandidateTaken second.manager right) ∧
      (LiveTaken first.manager left ↔ LiveTaken second.manager right) := by
  obtain ⟨candidates,restored⟩ := twins.rebuilt views leftRoom rightRoom same
  have back := masked_count twins.firstRoom twins.secondRoom (congrArg LiveConfiguration.masked twins.live)
  constructor
  · rw [← candidateAccepted_iff,← candidateAccepted_iff,CandidateAccepted,CandidateAccepted,
      masked_count leftRoom rightRoom same,accepted_alike candidates]
  · rw [← restoredAccepted_iff,← restoredAccepted_iff,RestoredAccepted,RestoredAccepted,back,accepted_alike restored]

/-- Where the views agree the scheduler answers the same. -/
theorem Twins.answers (twins : Twins device mutation first second)
    (ofFirst : mutation.prepare first.manager.configuration = .ok left)
    (ofSecond : mutation.prepare second.manager.configuration = .ok right)
    (same : left.live.masked = right.live.masked)
    (valid : irrigationConfigurationValidate left first.manager.boardZones = .ok)
    (agree : ViewsAgree first.manager second.manager left) :
    (CandidateTaken first.manager left ↔ CandidateTaken second.manager right) ∧
      (LiveTaken first.manager left ↔ LiveTaken second.manager right) := by
  have mateValid := (twins.valid ofFirst ofSecond same).mp valid
  rcases agree with views | ⟨faithful,mateFaithful,fits⟩
  · exact twins.accepted views ((validate_ok_iff _ _).mp valid).1 ((validate_ok_iff _ _).mp mateValid).1 same
  · have mateFits : Fits second.manager.configuration.live right.live := by
      rwa [← fits_masked,← twins.live,← same,fits_masked]
    constructor
    · exact iff_of_true (candidateTaken_of_fits faithful valid fits)
        (candidateTaken_of_fits mateFaithful mateValid mateFits)
    · exact iff_of_true (liveTaken_of_faithful faithful valid)
        (liveTaken_of_faithful mateFaithful mateValid)

theorem prepareLive_of_uncreated (live : LiveConfiguration) (revived other : Bool)
    (uncreated : ∀ weekdayMask hour minute programId, mutation ≠ .createSchedule weekdayMask hour minute programId) :
    mutation.prepareLive live revived = mutation.prepareLive live other := by
  cases mutation with
  | createSchedule weekdayMask hour minute programId => exact absurd rfl (uncreated weekdayMask hour minute programId)
  | replace candidate => cases candidate <;> rfl
  | _ => rfl

/-- A created schedule shows which flag it revived. -/
theorem createdSchedule_revives {live created : LiveConfiguration} {revived other : Bool} {weekdayMask hour minute : UInt8}
    {programId : Option CString}
    (ofFirst : (Mutation.createSchedule weekdayMask hour minute programId).prepareLive live revived = .ok created)
    (ofSecond : (Mutation.createSchedule weekdayMask hour minute programId).prepareLive live other = .ok created) :
    revived = other := by
  cases programId with
  | none => simp [Mutation.prepareLive,LiveConfiguration.saveSchedule] at ofFirst
  | some programId =>
    simp only [Mutation.prepareLive,LiveConfiguration.saveSchedule] at ofFirst ofSecond
    split at ofFirst
    · contradiction
    · next room =>
      rw [if_neg room] at ofSecond
      have same := congrArg LiveConfiguration.schedules (Except.ok.inj (ofFirst.trans ofSecond.symm))
      simp only [List.append_cancel_left_eq,List.cons.injEq,IrrigationScheduleConfiguration.mk.injEq] at same
      exact same.1.2.1

theorem Twins.preparedLive (twins : Twins device mutation first second)
    (ofFirst : mutation.prepare first.manager.configuration = .ok left)
    (ofSecond : mutation.prepare second.manager.configuration = .ok right) :
    mutation.prepareLive first.manager.configuration.live first.manager.configuration.revivedEnabled = .ok left.live ∧
      mutation.prepareLive first.manager.configuration.live second.manager.configuration.revivedEnabled =
        .ok right.live := by
  rw [← prepare_live twins.firstRoom,ofFirst]
  refine ⟨rfl,?_⟩
  rw [twins.live,← prepare_live twins.secondRoom,ofSecond]
  rfl

theorem reportedIndex_same (device : Repository.ConfigurationRepositoryStorage σ)
    (live : first.manager.configuration.live = second.manager.configuration.live)
    (firstRoom : first.manager.configuration.WithinCapacity)
    (secondRoom : second.manager.configuration.WithinCapacity)
    (result : (mutate device mutation first).1 = (mutate device mutation second).1) :
    reportedIndex device first mutation = reportedIndex device second mutation := by
  have schedules := masked_count firstRoom secondRoom (congrArg LiveConfiguration.masked live)
  have programs : first.manager.configuration.programCount.toNat = second.manager.configuration.programCount.toNat := by
    have lengths := congrArg List.length (congrArg LiveConfiguration.programs live)
    rw [IrrigationConfiguration.live,IrrigationConfiguration.live,List.length_map,List.length_map,
      firstRoom.livePrograms_length,secondRoom.livePrograms_length] at lengths
    exact lengths
  cases mutation with
  | createProgram displayName steps =>
    have reported (system : ManagedSystem ε σ) : reportedIndex device system (.createProgram displayName steps) =
        if (mutate device (.createProgram displayName steps) system).1 = .ok then
          some system.manager.configuration.programCount.toNat else none := rfl
    rw [reported,reported,result,programs]
  | createSchedule weekdayMask hour minute programId =>
    have reported (system : ManagedSystem ε σ) :
        reportedIndex device system (.createSchedule weekdayMask hour minute programId) =
          if (mutate device (.createSchedule weekdayMask hour minute programId) system).1 = .ok then
            some system.manager.configuration.scheduleCount.toNat else none := rfl
    rw [reported,reported,result,schedules]
  | _ => rfl

theorem Twins.prepared_traceless (twins : Twins device mutation first second)
    (ofFirst : mutation.prepare first.manager.configuration = .ok left)
    (ofSecond : mutation.prepare second.manager.configuration = .ok right)
    (same : left.live.masked = right.live.masked) :
    LeavesNoTrace device mutation first second ↔ TracelessWhen device mutation first second := by
  obtain ⟨ofFirstLive,ofSecondLive⟩ := twins.preparedLive ofFirst ofSecond
  have validSame := twins.valid ofFirst ofSecond same
  have persists := twins.persists left right ofFirst ofSecond
  have verdict := replaceCandidate_verdict device left twins.firstRoom
  have mate := replaceCandidate_verdict device right twins.secondRoom
  have firstRun : mutate device mutation first = replaceCandidate device left first := by rw [mutate_eq,ofFirst]; rfl
  have secondRun : mutate device mutation second = replaceCandidate device right second := by
    rw [mutate_eq,ofSecond]
    rfl
  constructor
  · rintro ⟨result,_,live⟩ one other oneIs otherIs valid
    cases Except.ok.inj (ofFirst.symm.trans oneIs)
    cases Except.ok.inj (ofSecond.symm.trans otherIs)
    rw [firstRun,secondRun] at result live
    have mateValid := validSame.mp valid
    constructor
    · rintro ⟨weekdayMask,hour,minute,programId,rfl⟩ accepted saved
      have ok := verdict.ok_iff.mpr ⟨valid,accepted,saved⟩
      rw [replaceCandidate_configuration,replaceCandidate_configuration,if_pos ok,if_pos (result ▸ ok)] at live
      rw [← live] at ofSecondLive
      exact createdSchedule_revives ofFirstLive ofSecondLive
    · intro bound _
      have mateBound := twins.bound.symm.trans bound
      have rejected := verdict.rejected_iff
      have ok := verdict.ok_iff
      rw [result,mate.rejected_iff] at rejected
      rw [result,mate.ok_iff] at ok
      simp only [valid,mateValid,bound,mateBound,true_and,forall_const] at rejected ok
      refine ⟨rejected.symm,fun saved => ?_⟩
      simpa only [saved,persists.mp saved,and_true] using ok.symm
  · intro traceless
    have agree : (replaceCandidate device left first).1 = (replaceCandidate device right second).1 := by
      refine verdict.same mate validSame twins.bound (fun valid bound => ?_) persists
      by_cases views : ViewsAgree first.manager second.manager left
      · obtain ⟨accepted,restored⟩ := twins.answers ofFirst ofSecond same valid views
        exact ⟨and_congr (not_congr accepted) restored,fun _ => accepted⟩
      · exact (traceless left right ofFirst ofSecond valid).2 bound views
    have result : (mutate device mutation first).1 = (mutate device mutation second).1 := by
      rw [firstRun,secondRun,agree]
    refine ⟨result,reportedIndex_same device twins.live twins.firstRoom twins.secondRoom result,?_⟩
    rw [firstRun,secondRun,replaceCandidate_configuration,replaceCandidate_configuration,← agree]
    by_cases ok : (replaceCandidate device left first).1 = .ok
    · rw [if_pos ok,if_pos ok]
      obtain ⟨valid,accepted,saved⟩ := verdict.ok_iff.mp ok
      by_cases created : ∃ weekdayMask hour minute programId,
          mutation = .createSchedule weekdayMask hour minute programId
      · rw [(traceless left right ofFirst ofSecond valid).1 created accepted saved] at ofFirstLive
        exact Except.ok.inj (ofFirstLive.symm.trans ofSecondLive)
      · simp only [not_exists] at created
        rw [prepareLive_of_uncreated _ _ second.manager.configuration.revivedEnabled created] at ofFirstLive
        exact Except.ok.inj (ofFirstLive.symm.trans ofSecondLive)
    · rw [if_neg ok,if_neg ok]
      exact twins.live

/-- Edits of managers whose views track their configurations ask nothing of the views. -/
theorem viewsAgree_of_edit (faithful : Faithful first.manager) (mate : Faithful second.manager)
    (incremental : ∀ candidate, mutation ≠ .replace candidate)
    (ofFirst : mutation.prepare first.manager.configuration = .ok left)
    (valid : irrigationConfigurationValidate left first.manager.boardZones = .ok) :
    ViewsAgree first.manager second.manager left :=
  .inr ⟨faithful,mate,prepared_fits faithful ofFirst valid incremental⟩

/-- A call returns the same, and leaves the same live configuration, on both sides exactly when
a schedule that it creates revives the same flag. -/
theorem leavesNoTrace_iff (twins : Twins device mutation first second) :
    LeavesNoTrace device mutation first second ↔ TracelessWhen device mutation first second := by
  rcases twins.cases with ⟨refusal,ofFirst,ofSecond⟩ | ⟨left,right,ofFirst,ofSecond,same⟩
  · have firstRun : mutate device mutation first = (refusal,first) := by rw [mutate_eq,ofFirst]; rfl
    have secondRun : mutate device mutation second = (refusal,second) := by rw [mutate_eq,ofSecond]; rfl
    constructor
    · intro _ left _ prepared
      rw [ofFirst] at prepared
      contradiction
    · intro _
      have result : (mutate device mutation first).1 = (mutate device mutation second).1 := by rw [firstRun,secondRun]
      refine ⟨result,reportedIndex_same device twins.live twins.firstRoom twins.secondRoom result,?_⟩
      rw [firstRun,secondRun]
      exact twins.live
  · exact twins.prepared_traceless ofFirst ofSecond same

end Twins

/-! ### A schedule that was on when it was deleted -/

/-- The development kit after a schedule was added behind the default one, switched and deleted. -/
def devDeleted (enabled : Bool) : ManagedSystem UInt64 Repository.SlotContents :=
  let created := mutated Repository.memoryStorage (.createSchedule 1 6 0 (some (.literal "dev-program")))
    (devSystem false false)
  let switched := mutated Repository.memoryStorage (.setScheduleEnabled 1 enabled) created
  mutated Repository.memoryStorage (.deleteSchedule 1) switched

theorem devDeleted_mirrored (enabled : Bool) : Mirrored (devDeleted enabled) :=
  mutated_mirrored (by simp) (mutated_mirrored (by simp) (mutated_mirrored (by simp) (devSystem_mirrored false false)))

theorem devDeleted_twins (mutation : Mutation) :
    Twins Repository.memoryStorage mutation (devDeleted true) (devDeleted false) where
  live := by decide +kernel
  firstRoom := ((validate_ok_iff _ _).mp (devDeleted_mirrored true).faithful.valid).1
  secondRoom := ((validate_ok_iff _ _).mp (devDeleted_mirrored false).faithful.valid).1
  boardZones := by decide +kernel
  bound := by decide +kernel
  persists := by
    intro left right _ _
    have unsaved (enabled : Bool) : (devDeleted enabled).manager.repository = false ∧
        (devDeleted enabled).manager.persistenceRequired = false := by
      cases enabled <;> decide +kernel
    rw [Persists,Persists,if_neg (by simp [unsaved]),if_neg (by simp [unsaved])]
    exact iff_of_true (unsaved true).2 (unsaved false).2

theorem leavesNoTrace_iff_devDeleted :
    LeavesNoTrace Repository.memoryStorage (.setScheduleEnabled 0 false) (devDeleted true) (devDeleted false) := by
  refine (leavesNoTrace_iff (devDeleted_twins _)).mpr fun left right ofFirst _ valid => ⟨by simp,fun _ agree => ?_⟩
  exact absurd (viewsAgree_of_edit (devDeleted_mirrored true).faithful (devDeleted_mirrored false).faithful
    (by simp) ofFirst valid) agree

def devCreate : Mutation := .createSchedule 1 7 0 (some (.literal "dev-program"))

/-- Which schedules are on once the development kit created another. -/
def devFlags (enabled : Bool) : List Bool :=
  (mutate Repository.memoryStorage devCreate (devDeleted enabled)).2.manager.configuration.live.schedules.map (·.enabled)

/-- A created schedule comes up switched on because a deleted one was. -/
theorem deleted_schedule_revived :
    Twins Repository.memoryStorage devCreate (devDeleted true) (devDeleted false) ∧
      devFlags true = [true,true] ∧ devFlags false = [true,false] ∧
      ¬LeavesNoTrace Repository.memoryStorage devCreate (devDeleted true) (devDeleted false) := by
  have on : devFlags true = [true,true] := by decide +kernel
  have off : devFlags false = [true,false] := by decide +kernel
  refine ⟨devDeleted_twins _,on,off,?_⟩
  rintro ⟨_,_,live⟩
  have same : devFlags true = devFlags false := congrArg (fun live => live.schedules.map (·.enabled)) live
  rw [on,off] at same
  contradiction

end Irrigation
