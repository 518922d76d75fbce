import Irrigation.EditedPrograms
import Irrigation.SoundFirmware

/-! How programs come to run in the firmware: by a request for a program of the configuration, or
because a schedule of the configuration is due. Every schedule that is due in a minute is handled in it,
since every 150th iteration of the task looks at them. -/
namespace Irrigation

open KeyedSlots

/-! ### Calls that start no program -/

section Quiet

variable {ε : Type} {drivers : Drivers ε} {world : World ε} {command : Command} {issued : List DriverCall}
  {next : RuntimeState}

theorem inactive_of_program {store : RuntimeState} (same : next.program = store.program)
    (inactive : programIsActive store = false) : programIsActive next = false := by
  rw [programIsActive,same]
  exact inactive

/-- Without a start and without a tick no program begins. -/
theorem Outcome.inactive (outcome : Outcome drivers world command issued next)
    (inactive : programIsActive world.store = false) (unasked : ∀ program, command ≠ .programStart program)
    (silent : ∀ now, command ≠ .schedulerProcess now) : programIsActive next = false := by
  cases outcome with
  | zoneOpen opening => exact inactive_of_program opening.program inactive
  | zoneClose closing => exact inactive_of_program closing.program inactive
  | zoneSafeClose closings | zoneProcessTimeouts closings => exact inactive_of_program closings.program inactive
  | masterOpen opening => exact inactive_of_program opening.program inactive
  | masterClose closing => exact inactive_of_program closing.program inactive
  | masterProcessTime => exact inactive_of_program (masterTimed_program _ _) inactive
  | startRejected | programStart => exact absurd rfl (unasked _)
  | programProcess processing =>
    rw [processing.inactive_eq inactive]
    exact inactive
  | abortRejected => exact inactive
  | programAbort active => exact absurd (inactive.symm.trans active) (by decide)
  | schedulerProcess => exact absurd rfl (silent _)

end Quiet

/-! ### Starts -/

section Starting

variable {ε : Type} (drivers : Drivers ε)

/-- A start that makes the program active was accepted, and runs what it was given. -/
theorem programServiceStartWithContext_started (program : Option ProgramAddress) (context : ProgramStartContext)
    {world : World ε} (inactive : programIsActive world.store = false)
    (active : programIsActive (programServiceStartWithContext drivers program context world).2.store = true) :
    (programServiceStartWithContext drivers program context world).1 = .ok ∧ program.isSome = true ∧
      (programServiceStartWithContext drivers program context world).2.program = program ∧
      (programServiceStartWithContext drivers program context world).2.startContext = context := by
  rcases programServiceStartWithContext_cases drivers program context world with
    ⟨rejected,_⟩ | ⟨address,rfl,_,_,_,accepted⟩
  · rw [rejected] at active
    exact absurd (inactive.symm.trans active) (by decide)
  · obtain ⟨issued,starting,back⟩ := programServiceStartLocked_cases drivers address context world
    rw [← accepted] at starting back
    refine ⟨?_,rfl,back.program,back.startContext⟩
    generalize (programServiceStartWithContext drivers (some address) context world).1 = result at starting
    generalize (programServiceStartWithContext drivers (some address) context world).2.store = next at starting active
    cases starting with
    | refused => exact absurd (inactive.symm.trans active) (by decide)
    | started => rfl
    | failed => exact absurd active Bool.false_ne_true

/-- What handling a due entry makes of the running program. -/
structure EntryStart (entry : SchedulerEntry) (status : ScheduleOccurrenceStatus) (world next : World ε) : Prop where
  running : programIsActive world.store = true → next.program = world.program ∧ next.startContext = world.startContext
  started : programIsActive world.store = false → programIsActive next.store = true → status = .started ∧
    entry.program.isSome = true ∧ next.program = entry.program ∧ next.startContext = ⟨.scheduled,entry.id⟩

theorem handleDueEntryLogged_start (now : SchedulerTime) (index : Nat) (entry : SchedulerEntry) (world : World ε) :
    EntryStart entry (handleDueEntryLogged drivers now index entry world).1.status world
      (handleDueEntryLogged drivers now index entry world).2 := by
  cases active : programIsActive world.store with
  | true =>
    have busy : programServiceIsActive world = (true,world) := by
      simp only [programServiceIsActive,run_snapshot_bind,active,run_pure]
    obtain ⟨scheduler,recorded⟩ := recordScheduleOccurrence_run world index (occurrenceFor now) .skippedBusy
    simp only [handleDueEntryLogged,run_bind_of busy,if_true,run_pure_bind]
    simp only [run_bind,run_pure,recorded]
    exact ⟨fun _ => ⟨rfl,rfl⟩,fun idle => absurd (active.symm.trans idle) (by decide)⟩
  | false =>
    have free : programServiceIsActive world = (false,world) := by
      simp only [programServiceIsActive,run_snapshot_bind,active,run_pure]
    have starting := programServiceStartWithContext_started drivers entry.program ⟨.scheduled,entry.id⟩ active
    cases run : programServiceStartWithContext drivers entry.program ⟨.scheduled,entry.id⟩ world with
    | mk result after =>
      rw [run] at starting
      dsimp only at starting
      obtain ⟨scheduler,recorded⟩ := recordScheduleOccurrence_run after index (occurrenceFor now)
        (if result = .ok then .started else .rejected)
      simp only [handleDueEntryLogged,run_bind_of free,Bool.false_eq_true,if_false,run_bind_of run,run_pure_bind]
      simp only [run_bind,run_pure,recorded]
      refine ⟨fun busy => absurd (active.symm.trans busy) (by decide),fun _ runs => ?_⟩
      obtain ⟨ok,some,pointer,origin⟩ := starting runs
      exact ⟨if_pos ok,some,pointer,origin⟩

/-- Of the entries that a tick handles one started the program that runs after it, unless it ran before. -/
structure TickStart (log : List Handling) (world next : World ε) : Prop where
  running : programIsActive world.store = true → next.program = world.program ∧ next.startContext = world.startContext
  started : programIsActive world.store = false → programIsActive next.store = true → ∃ handling ∈ log,
    handling.status = .started ∧ handling.entry.program.isSome = true ∧ next.program = handling.entry.program ∧
      next.startContext = ⟨.scheduled,handling.entry.id⟩

theorem processEntriesLogged_start (state : RuntimeState) (now : SchedulerTime) (entries : List SchedulerEntry)
    (index : Nat) (world : World ε) (room : index + entries.length ≤ world.store.scheduler.entryCount) :
    TickStart (processEntriesLogged drivers state now index entries world).1 world
      (processEntriesLogged drivers state now index entries world).2 := by
  induction entries generalizing index world with
  | nil => exact ⟨fun _ => ⟨rfl,rfl⟩,fun idle runs => absurd (idle.symm.trans runs) (by decide)⟩
  | cons entry rest ih =>
    rw [List.length_cons] at room
    simp only [processEntriesLogged,run_ite]
    split
    · simp only [run_bind,run_pure]
      have start := handleDueEntryLogged_start drivers now index entry world
      obtain ⟨_,same,handled⟩ := handleDueEntryLogged_handled drivers now index entry world (by omega)
      have count := handled.count
      generalize handleDueEntryLogged drivers now index entry world = outcome at start same handled count
      obtain ⟨handling,middle⟩ := outcome
      obtain rfl : handling.entry = entry := same
      dsimp only at start handled count
      have later := ih (index + 1) middle (by omega)
      generalize processEntriesLogged drivers state now (index + 1) rest middle = final at later
      obtain ⟨log,next⟩ := final
      constructor
      · intro active
        obtain ⟨program,context⟩ := start.running active
        obtain ⟨pointer,origin⟩ := later.running (handled.busy active).2
        exact ⟨pointer.trans program,origin.trans context⟩
      · intro inactive runs
        cases begun : programIsActive middle.store with
        | true =>
          obtain ⟨status,some,program,context⟩ := start.started inactive begun
          obtain ⟨pointer,origin⟩ := later.running begun
          exact ⟨handling,List.mem_cons_self ..,status,some,pointer.trans program,origin.trans context⟩
        | false =>
          obtain ⟨other,member,status,some,program,context⟩ := later.started begun runs
          exact ⟨other,List.mem_cons_of_mem _ member,status,some,program,context⟩
    · exact ih (index + 1) world (by omega)

end Starting

/-! ### What a tick starts -/

/-- A schedule falls due in its minute on its weekdays, if it is enabled. -/
def IrrigationScheduleConfiguration.isDue (configured : IrrigationScheduleConfiguration) (now : SchedulerTime) : Bool :=
  configured.enabled && (configured.weekdayMask.toUInt32 &&& (1 <<< now.weekday.toUInt32)) != 0 &&
    now.hour.toUInt16 * 60 + now.minute.toUInt16 == configured.hour.toUInt16 * 60 + configured.minute.toUInt16

section Ticks

variable {ε σ : Type} {drivers : Drivers ε} {zones : List Zone} {system : ManagedSystem ε σ} {now : SchedulerTime}

/-- An entry of the scheduler is that of the live schedule at its index. -/
theorem Mirrored.entry (mirrored : Mirrored system) {index : Nat} {entry : SchedulerEntry}
    (given : system.world.entries[index]? = some entry) :
    ∃ configured, system.manager.configuration.live.schedules[index]? = some configured ∧
      ScheduleMirrored system.manager.views configured entry := by
  have count : system.manager.configuration.live.schedules.length = system.manager.configuration.scheduleCount.toNat :=
    mirrored.faithful.capacity.liveSchedules_length
  rw [mirrored.entries,RuntimeViews.entries,List.getElem?_map,Option.map_eq_some_iff] at given
  obtain ⟨position,inside,rfl⟩ := given
  obtain ⟨bound,rfl⟩ := List.getElem?_eq_some_iff.mp inside
  rw [List.length_range,← count] at bound
  rw [List.getElem_range]
  have shown := List.getElem?_eq_getElem bound
  exact ⟨_,shown,mirrored.faithful.mirrors.schedules index _ shown⟩

theorem ScheduleMirrored.isDue_iff {views : RuntimeViews} {configured : IrrigationScheduleConfiguration}
    {entry : SchedulerEntry} (mirrored : ScheduleMirrored views configured entry) (store : RuntimeState) (index : Nat) :
    entryIsDue store now index entry = true ↔
      configured.isDue now = true ∧ (store.scheduler.occurrence index).1 ≠ occurrenceFor now := by
  rw [entryIsDue,mirrored.enabled,mirrored.weekdayMask,mirrored.hour,mirrored.minute,Bool.and_eq_true,bne_iff_ne]
  rfl

/-- The program pointer of an entry points to the program that its schedule names. -/
theorem Mirrored.scheduledProgram (mirrored : Mirrored system) {configured : IrrigationScheduleConfiguration}
    {entry : SchedulerEntry} (shown : ScheduleMirrored system.manager.views configured entry) :
    ∃ program ∈ system.manager.configuration.live.programs, program.programId = configured.programId ∧
      ∃ address, entry.program = some address ∧ system.world.memory.program address = program.runtime := by
  obtain ⟨slot,found,pointer⟩ := shown.program
  obtain ⟨used,named⟩ := Slots.slotForKey_some found
  obtain ⟨program,member,same,value⟩ := mirrored.faithful.shown used
  refine ⟨program,member,same.trans named,slot,pointer,?_⟩
  rw [mirrored.linked,RuntimeViews.memory_program]
  exact value

/-- A tick started the program of a live schedule that was due and not yet handled. -/
structure ScheduledStart (now : SchedulerTime) (system : ManagedSystem ε σ) (next : World ε) (index : Nat)
    (configured : IrrigationScheduleConfiguration) : Prop where
  given : system.manager.configuration.live.schedules[index]? = some configured
  due : configured.isDue now = true
  unhandled : (system.world.store.scheduler.occurrence index).1 ≠ occurrenceFor now
  recorded : next.store.scheduler.occurrence index = (occurrenceFor now,.started)
  program : ∃ program ∈ system.manager.configuration.live.programs, program.programId = configured.programId ∧
    next.currentProgram = program.runtime
  origin : next.startContext.origin = .scheduled
  scheduleId : next.startContext.scheduleId.map next.memory.text = some configured.scheduleId.toCString

theorem schedulerProcess_run (valid : schedulerTimeIsValid now = true) (world : World ε) :
    operate drivers (.schedulerProcess now) world =
      (processEntriesLogged drivers world.store now 0 world.entries world.locked).2.unlocked := by
  have lock : schedulerServiceLock world = ((),world.locked) := rfl
  rw [processEntriesLogged_world]
  simp only [operate,execute,schedulerServiceProcess,run_bind_of lock,valid,not_true_eq_false,if_false,run_get_bind]
  rfl

theorem Aligned.scheduled_start (aligned : Aligned system) (inactive : programIsActive system.world.store = false)
    (active : programIsActive (operate drivers (.schedulerProcess now) system.world).store = true) :
    schedulerTimeIsValid now = true ∧ ∃ index configured,
      ScheduledStart now system (operate drivers (.schedulerProcess now) system.world) index configured := by
  have inStep := aligned.inStep
  cases valid : schedulerTimeIsValid now with
  | false =>
    have unchanged : operate drivers (.schedulerProcess now) system.world = system.world.locked.unlocked := by
      have lock : schedulerServiceLock system.world = ((),system.world.locked) := rfl
      simp only [operate,execute,schedulerServiceProcess,run_bind_of lock,valid]
      rfl
    rw [unchanged] at active
    exact absurd (inactive.symm.trans active) (by decide)
  | true =>
    have start := processEntriesLogged_start drivers system.world.store now system.world.entries 0 system.world.locked
      (by rw [Nat.zero_add]; exact inStep.count.ge)
    have ticked := processEntriesLogged_ticked drivers system.world.store now system.world.entries 0
      system.world.locked (by rw [Nat.zero_add]; exact inStep.count.ge)
    rw [schedulerProcess_run valid] at active ⊢
    generalize processEntriesLogged drivers system.world.store now 0 system.world.entries system.world.locked = outcome
      at start ticked active ⊢
    obtain ⟨log,next⟩ := outcome
    dsimp only at start ticked active ⊢
    obtain ⟨handling,member,status,_,pointer,context⟩ := start.started inactive active
    obtain ⟨offset,atIndex,given,due⟩ := ticked.due member
    obtain ⟨_,memory,_⟩ := ticked.kept
    rw [Nat.zero_add] at atIndex
    subst atIndex
    obtain ⟨configured,scheduled,shown⟩ := aligned.toMirrored.entry given
    obtain ⟨timely,unhandled⟩ := (shown.isDue_iff _ _).mp due
    obtain ⟨program,live,named,address,points,runtime⟩ := aligned.toMirrored.scheduledProgram shown
    refine ⟨rfl,handling.index,configured,scheduled,timely,unhandled,?_,⟨program,live,named,?_⟩,?_,?_⟩
    · rw [← status]
      exact ticked.stored member
    · change next.currentProgram = program.runtime
      rw [World.currentProgram,pointer,points,memory]
      exact runtime
    · exact congrArg ProgramStartContext.origin context
    · change next.startContext.scheduleId.map next.memory.text = some configured.scheduleId.toCString
      rw [context,memory]
      change handling.entry.id.map system.world.memory.text = some configured.scheduleId.toCString
      rw [aligned.linked]
      exact shown.id

end Ticks

/-! ### What a step of the firmware starts -/

section Steps

variable {ε σ : Type} {drivers : Drivers ε} {device : Repository.ConfigurationRepositoryStorage σ}
  {library : QueryKeyValue} {zones : List Zone}

/-- A request started a program of the configuration by its index. -/
structure RequestedStart (library : QueryKeyValue) (call : WebCall) (system : ManagedSystem ε σ) (next : World ε)
    (index : Nat) : Prop where
  asked : registeredHandler call.method call.path = some .programHandler
  started : ∃ address, programAction library call.request system.manager = .start index address
  program : ∃ program, system.manager.configuration.live.programs[index]? = some program ∧
    next.currentProgram = program.runtime
  manual : next.startContext = programStartContextManual

/-- How a step made a program active. -/
inductive ProgramBegun (library : QueryKeyValue) (firmware : Firmware ε σ) (next : World ε) : FirmwareStep ε → Prop
  | requested {environment : ε} {call : WebCall} {index : Nat}
      (start : RequestedStart library call firmware.system next index) :
      ProgramBegun library firmware next (.request environment call)
  | scheduled {environment : ε} {now : SchedulerTime} {index : Nat} {configured : IrrigationScheduleConfiguration}
      (due : firmware.tickCount + 1 ≥ 150) (valid : schedulerTimeIsValid now = true)
      (start : ScheduledStart now firmware.system next index configured) :
      ProgramBegun library firmware next (.iteration environment (some now))

variable {system : ManagedSystem ε σ}

theorem programAction_start {request : HttpRequest} {manager : ConfigurationManager} {index : Nat}
    {address : ProgramAddress} (started : programAction library request manager = .start index address) :
    configurationManagerProgramAt manager index = some address := by
  unfold programAction at started
  split at started
  · contradiction
  · split at started
    · contradiction
    · dsimp only at started
      split at started
      · contradiction
      · next found =>
        cases started
        split at found
        · exact found
        · contradiction

theorem mutate_active (mutation : Mutation) :
    programIsActive (mutate device mutation system).2.world.store = programIsActive system.world.store := by
  obtain ⟨scheduler,stored⟩ := (mutate_rescheduled device mutation system).store
  rw [stored]
  rfl

theorem operate_inactive (command : Command) {world : World ε} (inactive : programIsActive world.store = false)
    (unasked : ∀ program, command ≠ .programStart program) (silent : ∀ now, command ≠ .schedulerProcess now) :
    programIsActive (operate drivers command world).store = false := by
  obtain ⟨_,outcome,_⟩ := operate_outcome drivers command world
  exact outcome.inactive inactive unasked silent

variable (drivers device) in
/-- What a request does that does not start a program. -/
inductive Unstarted (system : ManagedSystem ε σ) : ManagedSystem ε σ → Prop
  | same : Unstarted system system
  | commanded (command : Command) (unasked : ∀ program, command ≠ .programStart program)
      (silent : ∀ now, command ≠ .schedulerProcess now) :
      Unstarted system { system with world := operate drivers command system.world }
  | edited (mutation : Mutation) : Unstarted system (mutate device mutation system).2

theorem Unstarted.inactive {next : ManagedSystem ε σ} (unstarted : Unstarted drivers device system next)
    (inactive : programIsActive system.world.store = false) : programIsActive next.world.store = false := by
  cases unstarted with
  | same => exact inactive
  | commanded command unasked silent => exact operate_inactive command inactive unasked silent
  | edited mutation => exact (mutate_active mutation).trans inactive

variable (drivers device library zones) in
theorem handle_unstarted (request : HttpRequest) {handler : WebHandler} (other : handler ≠ .programHandler)
    (system : ManagedSystem ε σ) :
    Unstarted drivers device system (handle drivers device library request zones handler system).2 := by
  cases handler with
  | pageHandler | statusHandler | programsHandler | scheduleGetHandler => exact .same
  | programHandler => exact absurd rfl other
  | zoneHandler =>
    change Unstarted drivers device system (zoneHandler drivers library request system).2
    unfold zoneHandler
    split
    · exact .same
    · next id _ =>
      split
      · exact .commanded (.zoneOpen (some id) 0) nofun nofun
      · exact .commanded (.zoneClose (some id)) nofun nofun
  | masterHandler =>
    change Unstarted drivers device system (masterHandler drivers request system).2
    unfold masterHandler
    split
    · exact .commanded .masterOpen nofun nofun
    · exact .commanded .masterClose nofun nofun
  | zoneNameHandler =>
    change Unstarted drivers device system (zoneNameHandler device library request system).2
    unfold zoneNameHandler
    split <;> first | exact .same | exact .edited _
  | programSaveHandler =>
    change Unstarted drivers device system (programSaveHandler device library zones request system).2
    unfold programSaveHandler
    repeat' split
    all_goals first | exact .same | exact .edited _
  | programDeleteHandler =>
    change Unstarted drivers device system (programDeleteHandler device library request system).2
    unfold programDeleteHandler
    repeat' split
    all_goals first | exact .same | exact .edited _
  | scheduleSaveHandler =>
    change Unstarted drivers device system (scheduleSaveHandler device library request system).2
    unfold scheduleSaveHandler
    repeat' split
    all_goals first | exact .same | exact .edited _
  | scheduleDeleteHandler =>
    change Unstarted drivers device system (scheduleDeleteHandler device library request system).2
    unfold scheduleDeleteHandler
    split <;> first | exact .same | exact .edited _
  | scheduleHandler =>
    change Unstarted drivers device system (scheduleHandler device library request system).2
    unfold scheduleHandler
    repeat' split
    all_goals first | exact .same | exact .edited _

theorem Sound.programHandler_start (sound : Sound zones system) (inactive : programIsActive system.world.store = false)
    (request : HttpRequest)
    (active : programIsActive (programHandler drivers library request system).2.world.store = true) :
    ∃ index, (∃ address, programAction library request system.manager = .start index address) ∧
      (∃ program, system.manager.configuration.live.programs[index]? = some program ∧
        (programHandler drivers library request system).2.world.currentProgram = program.runtime) ∧
      (programHandler drivers library request system).2.world.startContext = programStartContextManual := by
  unfold programHandler at active ⊢
  cases started : programAction library request system.manager with
  | abort =>
    rw [started] at active
    have still : programIsActive (operate drivers .programAbort system.world).store = false :=
      operate_inactive .programAbort inactive nofun nofun
    exact absurd (still.symm.trans active) (by decide)
  | answer result =>
    rw [started] at active
    exact absurd (inactive.symm.trans active) (by decide)
  | start index address =>
    rw [started] at active
    obtain ⟨_,_,pointer,context⟩ := programServiceStartWithContext_started drivers (some address)
      programStartContextManual inactive active
    obtain ⟨_,_,memory,_⟩ := programServiceStartWithContext_asked drivers (some address) programStartContextManual
      system.world
    have found := programAction_start started
    obtain ⟨configured,given,_⟩ := Option.bind_eq_some_iff.mp found
    have live : system.manager.configuration.live.programs[index]? = some configured.live := by
      rw [IrrigationConfiguration.live,List.getElem?_map,given]
      rfl
    obtain ⟨other,shown,runtime⟩ := sound.faithful.mirrors.programs index _ live
    obtain rfl : address = other := Option.some.inj (found.symm.trans shown)
    refine ⟨index,⟨address,rfl⟩,⟨_,live,?_⟩,context⟩
    change World.currentProgram (programServiceStartWithContext drivers (some address) programStartContextManual
      system.world).2 = configured.live.runtime
    rw [World.currentProgram,pointer,memory,sound.linked]
    exact runtime

/-- Of the handlers only that of programs makes one active, and then as it was asked. -/
theorem Sound.request_start (sound : Sound zones system) (inactive : programIsActive system.world.store = false)
    (call : WebCall)
    (active : programIsActive (serve drivers device library zones call system).2.world.store = true) :
    ∃ index, RequestedStart library call system (serve drivers device library zones call system).2.world index := by
  unfold serve at active ⊢
  cases asked : registeredHandler call.method call.path with
  | none =>
    rw [asked] at active
    exact absurd (inactive.symm.trans active) (by decide)
  | some handler =>
    rw [asked] at active
    dsimp only at active ⊢
    by_cases program : handler = .programHandler
    · subst program
      obtain ⟨index,started,running,manual⟩ := sound.programHandler_start inactive call.request active
      exact ⟨index,asked,started,running,manual⟩
    · have unstarted := handle_unstarted drivers device library zones call.request program system
      have still := unstarted.inactive inactive
      exact absurd (still.symm.trans active) (by decide)

section Polling

variable (drivers)

/-- What an iteration does before it looks at the schedules. -/
def pollServices (world : World ε) : World ε :=
  let timed := operate drivers .masterProcessTime world
  if programIsActive timed.store then operate drivers .programProcess timed else timed

/-- The system where a step may begin a program. -/
def polledSystem (step : FirmwareStep ε) (system : ManagedSystem ε σ) : ManagedSystem ε σ :=
  let found := system.at step.environment
  match step with
  | .request _ _ => found
  | .iteration _ _ => { found with world := pollServices drivers found.world }

/-- Polling begins no program, and leaves what the scheduler handled. -/
theorem pollServices_kept (world : World ε) :
    (programIsActive world.store = false → programIsActive (pollServices drivers world).store = false) ∧
      (pollServices drivers world).store.scheduler = world.store.scheduler := by
  obtain ⟨_,timed,_⟩ := operate_outcome drivers .masterProcessTime world
  obtain ⟨_,processed,_⟩ := operate_outcome drivers .programProcess (operate drivers .masterProcessTime world)
  have still (inactive : programIsActive world.store = false) :
      programIsActive (operate drivers .masterProcessTime world).store = false :=
    operate_inactive .masterProcessTime inactive nofun nofun
  unfold pollServices
  dsimp only
  split
  · next running =>
    exact ⟨fun inactive => absurd ((still inactive).symm.trans running) (by decide),
      (processed.scheduler nofun).trans (timed.scheduler nofun)⟩
  · exact ⟨still,timed.scheduler nofun⟩

theorem polledSystem_inactive (step : FirmwareStep ε) (inactive : programIsActive system.world.store = false) :
    programIsActive (polledSystem drivers step system).world.store = false := by
  cases step with
  | request environment call => exact inactive
  | iteration environment time => exact (pollServices_kept drivers (system.at environment).world).1 inactive

theorem Sound.polled (sound : Sound zones system) (step : FirmwareStep ε) :
    Sound zones (polledSystem drivers step system) := by
  have found := sound.aged step.environment
  cases step with
  | request environment call => exact found
  | iteration environment time =>
    have timed := found.commanded drivers .masterProcessTime
    simp only [polledSystem,pollServices]
    split
    · exact timed.commanded drivers .programProcess
    · exact timed

end Polling

/-- A program begins only because a request asks for it, or because a schedule is due. -/
theorem Sound.begun {firmware : Firmware ε σ} (sound : Sound zones firmware.system) (step : FirmwareStep ε)
    (inactive : programIsActive (polledSystem drivers step firmware.system).world.store = false)
    (active : programIsActive (firmwareStep drivers device library zones step firmware).system.world.store = true) :
    ProgramBegun library firmware (firmwareStep drivers device library zones step firmware).system.world step := by
  have polled : Sound zones (polledSystem drivers step firmware.system) := sound.polled drivers step
  cases step with
  | request environment call =>
    obtain ⟨index,asked,started,running,manual⟩ := polled.request_start inactive call active
    exact .requested ⟨asked,started,running,manual⟩
  | iteration environment time =>
    by_cases due : firmware.tickCount + 1 ≥ 150
    · cases time with
      | none =>
        have still : (firmwareStep drivers device library zones (.iteration environment none) firmware).system =
            polledSystem drivers (.iteration environment none) firmware.system := by
          simp only [firmwareStep,iterate,schedulerTaskIteration,if_pos due]
          rfl
        rw [still] at active
        exact absurd (inactive.symm.trans active) (by decide)
      | some now =>
        have ticked : (firmwareStep drivers device library zones (.iteration environment (some now)) firmware).system.world =
            operate drivers (.schedulerProcess now)
              (polledSystem drivers (.iteration environment (some now)) firmware.system).world := by
          simp only [firmwareStep,iterate,schedulerTaskIteration,if_pos due]
          rfl
        rw [ticked] at active ⊢
        obtain ⟨valid,index,configured,start⟩ := polled.toAligned.scheduled_start inactive active
        obtain ⟨given,timely,unhandled,recorded,program,origin,scheduleId⟩ := start
        have same : (polledSystem drivers (.iteration environment (some now)) firmware.system).world.store.scheduler =
            firmware.system.world.store.scheduler := (pollServices_kept drivers (firmware.system.at environment).world).2
        rw [same] at unhandled
        exact .scheduled due valid ⟨given,timely,unhandled,recorded,program,origin,scheduleId⟩
    · have still : (firmwareStep drivers device library zones (.iteration environment time) firmware).system =
          polledSystem drivers (.iteration environment time) firmware.system := by
        simp only [firmwareStep,iterate,schedulerTaskIteration,if_neg due]
        rfl
      rw [still] at active
      exact absurd (inactive.symm.trans active) (by decide)

/-- In a run of a sound system, whatever the requests, the drivers and the storage, every program that becomes
active is one that the configuration has at that time: also where the iteration that starts it has ended another
before. The polling of an iteration begins none. -/
theorem programs_begin_as_configured (library : QueryKeyValue) {firmware : Firmware ε σ}
    (initially : Sound zones firmware.system) (steps done todo : List (FirmwareStep ε)) (step : FirmwareStep ε)
    (split : steps = done ++ step :: todo) :
    let before := Runs.after (firmwareStep drivers device library zones) done firmware
    let next := firmwareStep drivers device library zones step before
    let polled := polledSystem drivers step before.system
    (programIsActive before.system.world.store = false → programIsActive polled.world.store = false) ∧
      (programIsActive polled.world.store = false → programIsActive next.system.world.store = true →
        ProgramBegun library before next.system.world step) := by
  intro before next polled
  have sound : Sound zones before.system := initially.throughout library steps done (step :: todo) split
  exact ⟨polledSystem_inactive drivers step,sound.begun step⟩

def startCall : WebCall := ⟨.post,.literal "/program/start",startRequest "0"⟩

/-- The program is started by hand and runs to its end. -/
def devTurnover : List (FirmwareStep UInt64) :=
  [.request 10 startCall,.iteration 10 none,.iteration 30010 none,.iteration 60020 none]

/-- The development kit when the program started by hand is at its end, and the next iteration looks at the schedules. -/
def devTurning : Firmware UInt64 Repository.SlotContents :=
  Runs.after (firmwareStep quietDrivers Repository.memoryStorage pairLookup devZones) devTurnover ⟨devSystem false false,146⟩

theorem programs_begin_as_configured_devSystem : programIsActive devTurning.system.world.store = true ∧
    ProgramBegun pairLookup devTurning (firmwareStep quietDrivers Repository.memoryStorage pairLookup devZones
      (.iteration 60030 (some devMonday)) devTurning).system.world (.iteration 60030 (some devMonday)) :=
  ⟨by decide +kernel,(programs_begin_as_configured pairLookup (devSystem_sound false false)
    (devTurnover ++ [.iteration 60030 (some devMonday)]) devTurnover [] (.iteration 60030 (some devMonday)) rfl).2
    (by decide +kernel) (by decide +kernel)⟩

end Steps

/-! ### The task looks at the schedules -/

section Polling

variable {ε σ : Type} {drivers : Drivers ε} {device : Repository.ConfigurationRepositoryStorage σ}
  {library : QueryKeyValue} {zones : List Zone}

def FirmwareStep.isIteration : FirmwareStep ε → Bool
  | .iteration _ _ => true
  | .request _ _ => false

def iterations (steps : List (FirmwareStep ε)) : Nat := steps.countP FirmwareStep.isIteration

/-- The count goes on with every iteration and with nothing else. -/
theorem firmwareStep_tickCount (step : FirmwareStep ε) {firmware : Firmware ε σ}
    (below : firmware.tickCount.toNat < 150) :
    (firmwareStep drivers device library zones step firmware).tickCount.toNat =
      (firmware.tickCount.toNat + iterations [step]) % 150 := by
  have limit : (150 : UInt16).toNat = 150 := rfl
  have raised : (firmware.tickCount + 1).toNat = firmware.tickCount.toNat + 1 := by
    rw [UInt16.toNat_add]
    have one : (1 : UInt16).toNat = 1 := rfl
    omega
  cases step with
  | request environment call =>
    have none : iterations [(.request environment call : FirmwareStep ε)] = 0 := rfl
    rw [none,Nat.add_zero,Nat.mod_eq_of_lt below]
    rfl
  | iteration environment time =>
    have one : iterations [(.iteration environment time : FirmwareStep ε)] = 1 := rfl
    rw [one]
    simp only [firmwareStep,iterate,schedulerTaskIteration]
    by_cases due : firmware.tickCount + 1 ≥ 150
    · rw [if_pos due]
      rw [ge_iff_le,UInt16.le_iff_toNat_le,raised,limit] at due
      have wrapped : firmware.tickCount.toNat + 1 = 150 := by omega
      rw [wrapped]
      cases time <;> rfl
    · rw [if_neg due]
      rw [ge_iff_le,UInt16.le_iff_toNat_le,raised,limit] at due
      rw [Nat.mod_eq_of_lt (Nat.not_le.mp due)]
      exact raised

theorem iterations_append (first second : List (FirmwareStep ε)) :
    iterations (first ++ second) = iterations first + iterations second := List.countP_append ..

/-- The task counts its iterations in rounds of 150. -/
theorem tickCount_after (steps : List (FirmwareStep ε)) {firmware : Firmware ε σ}
    (below : firmware.tickCount.toNat < 150) :
    (Runs.after (firmwareStep drivers device library zones) steps firmware).tickCount.toNat =
      (firmware.tickCount.toNat + iterations steps) % 150 := by
  induction steps generalizing firmware with
  | nil => exact (Nat.mod_eq_of_lt below).symm
  | cons step rest ih =>
    have count : (firmwareStep drivers device library zones step firmware).tickCount.toNat =
        (firmware.tickCount.toNat + iterations [step]) % 150 := firmwareStep_tickCount step below
    have still : (firmwareStep drivers device library zones step firmware).tickCount.toNat < 150 := by
      rw [count]
      exact Nat.mod_lt _ (by decide)
    rw [Runs.after_cons,ih still,count,Nat.mod_add_mod,Nat.add_assoc,← iterations_append]
    rfl

variable (drivers device library zones) in
/-- Among 150 iterations there is one that looks at the schedules. -/
theorem poll_within {steps : List (FirmwareStep ε)} {firmware : Firmware ε σ} (below : firmware.tickCount.toNat < 150)
    (enough : 150 ≤ firmware.tickCount.toNat + iterations steps) :
    ∃ done environment time todo, steps = done ++ .iteration environment time :: todo ∧
      (Runs.after (firmwareStep drivers device library zones) done firmware).tickCount.toNat = 149 := by
  induction steps generalizing firmware with
  | nil => exact absurd enough (Nat.not_le.mpr below)
  | cons step rest ih =>
    have count : (firmwareStep drivers device library zones step firmware).tickCount.toNat =
        (firmware.tickCount.toNat + iterations [step]) % 150 := firmwareStep_tickCount step below
    have whole : iterations (step :: rest) = iterations [step] + iterations rest := iterations_append [step] rest
    have later (kept : firmware.tickCount.toNat + iterations [step] < 150) :
        ∃ done environment time todo, step :: rest = done ++ .iteration environment time :: todo ∧
          (Runs.after (firmwareStep drivers device library zones) done firmware).tickCount.toNat = 149 := by
      rw [Nat.mod_eq_of_lt kept] at count
      obtain ⟨done,environment,time,todo,split,last⟩ := ih (by rw [count]; exact kept) (by rw [count]; omega)
      exact ⟨step :: done,environment,time,todo,by rw [split]; rfl,last⟩
    cases step with
    | request environment call => exact later below
    | iteration environment time =>
      have one : iterations [(.iteration environment time : FirmwareStep ε)] = 1 := rfl
      by_cases last : firmware.tickCount.toNat = 149
      · exact ⟨[],environment,time,rest,rfl,last⟩
      · exact later (by omega)

variable (drivers device library) in
/-- At the last iteration of a round the scheduler is called on services in step with the manager. -/
theorem Sound.polls {firmware : Firmware ε σ} (sound : Sound zones firmware.system)
    (last : firmware.tickCount.toNat = 149) (environment : ε) (now : SchedulerTime) :
    ∃ polled, Aligned { firmware.system with world := polled } ∧
      (firmwareStep drivers device library zones (.iteration environment (some now)) firmware).system =
        { firmware.system with world := operate drivers (.schedulerProcess now) polled } := by
  have due : firmware.tickCount + 1 ≥ 150 := by
    have counted : firmware.tickCount = 149 := UInt16.toNat_inj.mp last
    rw [counted]
    decide
  obtain ⟨timed,timedEq⟩ : ∃ timed, timed = operate drivers .masterProcessTime (firmware.system.at environment).world :=
    ⟨_,rfl⟩
  obtain ⟨polled,polledEq⟩ : ∃ polled, polled =
      if programIsActive timed.store then operate drivers .programProcess timed else timed := ⟨_,rfl⟩
  have waited : Aligned { firmware.system.at environment with world := timed } := by
    rw [timedEq]
    exact (sound.aged environment).toAligned.commanded .masterProcessTime
  have aligned : Aligned { firmware.system.at environment with world := polled } := by
    rw [polledEq]
    split
    · exact waited.commanded .programProcess
    · exact waited
  refine ⟨polled,aligned,?_⟩
  rw [polledEq,timedEq]
  simp only [firmwareStep,iterate,schedulerTaskIteration,FirmwareStep.environment,if_pos due]
  rfl

theorem SchedulerRuntimeState.Tidy.status {scheduler : SchedulerRuntimeState} (tidy : scheduler.Tidy) {index : Nat}
    {now : SchedulerTime} (handled : (scheduler.occurrence index).1 = occurrenceFor now) :
    (scheduler.occurrence index).2 ≠ .none := by
  intro none
  rw [tidy index none] at handled
  exact occurrenceFor_ne now handled.symm

/-- A call of the scheduler leaves every live schedule that is due now handled. -/
theorem Aligned.ticked_handles {system : ManagedSystem ε σ} (aligned : Aligned system) {now : SchedulerTime}
    (valid : schedulerTimeIsValid now = true) {index : Nat} {configured : IrrigationScheduleConfiguration}
    (given : system.manager.configuration.live.schedules[index]? = some configured) (due : configured.isDue now = true) :
    ∃ status ≠ .none, (operate drivers (.schedulerProcess now) system.world).store.scheduler.occurrence index =
      (occurrenceFor now,status) := by
  have present : scheduledContent system.manager.views configured ∈ system.world.contents := by
    rw [aligned.contents]
    exact List.mem_map_of_mem (List.mem_of_getElem? given)
  have watched : Watched (scheduledContent system.manager.views configured) system.world := ⟨aligned.inStep,present⟩
  obtain ⟨_,handles,leaves⟩ := watched.ticked drivers valid
  have next : Aligned { system with world := operate drivers (.schedulerProcess now) system.world } :=
    aligned.commanded (.schedulerProcess now)
  rw [← next.handled_at given]
  by_cases dueNow : DueNow (scheduledContent system.manager.views configured) now system.world
  · obtain ⟨one,_,_,status,handled⟩ := handles dueNow
    exact ⟨one.status,status,handled⟩
  · have before : (system.world.store.scheduler.occurrence index).1 = occurrenceFor now := by
      rw [← aligned.handled_at given]
      by_contra unhandled
      exact dueNow ⟨due,unhandled⟩
    refine ⟨(system.world.store.scheduler.occurrence index).2,aligned.tidy.status before,?_⟩
    rw [← before]
    exact ((leaves dueNow).2.trans (aligned.handled_at given))

/-- However the task's iterations and the requests interleave, and whatever the requests edit: when 150
iterations of the task fall into one minute, there is a moment in it at which every schedule of the
configuration that is due in that minute is recorded as handled. -/
theorem due_schedules_handled (library : QueryKeyValue) {system : ManagedSystem ε σ} (initially : Sound zones system)
    (before minute : List (FirmwareStep ε)) {now : SchedulerTime} (valid : schedulerTimeIsValid now = true)
    (enough : 150 ≤ iterations minute)
    (within : ∀ environment time, .iteration environment time ∈ minute → time = some now) :
    ∃ done todo, minute = done ++ todo ∧
      let reached := (Runs.after (firmwareStep drivers device library zones) (before ++ done) ⟨system,0⟩).system
      ∀ index configured, reached.manager.configuration.live.schedules[index]? = some configured →
        configured.isDue now = true → ∃ status ≠ .none,
          reached.world.store.scheduler.occurrence index = (occurrenceFor now,status) := by
  obtain ⟨start,startEq⟩ : ∃ start,
      start = Runs.after (firmwareStep drivers device library zones) before ⟨system,0⟩ := ⟨_,rfl⟩
  have counted : start.tickCount.toNat = (0 + iterations before) % 150 := by
    rw [startEq]
    exact tickCount_after before (by decide : (0 : UInt16).toNat < 150)
  have below : start.tickCount.toNat < 150 := by
    rw [counted]
    exact Nat.mod_lt _ (by decide)
  have started : Sound zones start.system := by
    rw [startEq]
    exact initially.throughout library before before [] (List.append_nil _).symm
  obtain ⟨done,environment,time,todo,split,last⟩ :=
    poll_within drivers device library zones below (enough.trans (Nat.le_add_left ..))
  obtain rfl : time = some now := within environment time (by rw [split]; simp)
  have sound : Sound zones (Runs.after (firmwareStep drivers device library zones) done start).system :=
    started.throughout library minute done _ split
  obtain ⟨polled,aligned,step⟩ := sound.polls drivers device library last environment now
  refine ⟨done ++ [.iteration environment (some now)],todo,by rw [split]; simp,?_⟩
  intro reached index configured given due
  have run : reached = { (Runs.after (firmwareStep drivers device library zones) done start).system with
      world := operate drivers (.schedulerProcess now) polled } := by
    rw [← step]
    simp only [reached,Runs.after_append,startEq]
    rfl
  rw [run] at given ⊢
  exact aligned.ticked_handles valid given due

theorem due_schedules_handled_devSystem :
    ∃ done todo, List.replicate 150 (.iteration (0 : UInt64) (some devMonday)) = done ++ todo ∧
      let reached := (Runs.after (firmwareStep quietDrivers Repository.memoryStorage pairLookup devZones) ([] ++ done)
        ⟨devSystem false false,0⟩).system
      ∀ index configured, reached.manager.configuration.live.schedules[index]? = some configured →
        configured.isDue devMonday = true → ∃ status ≠ .none,
          reached.world.store.scheduler.occurrence index = (occurrenceFor devMonday,status) :=
  due_schedules_handled pairLookup (devSystem_sound false false) [] (List.replicate 150 (.iteration 0 (some devMonday)))
    (by decide) (by rw [iterations,List.countP_replicate]; exact Nat.le_refl 150) fun _ _ member => by
      cases List.eq_of_mem_replicate member
      rfl

end Polling

end Irrigation
