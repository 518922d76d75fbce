import Irrigation.HistoryCapacity

/-! What the record of one execution counts: the tally of what was announced is the record's,
and the program state machine keeps it true. -/
namespace Irrigation

/-- What was announced of executions: how many were started, the zones of the steps that
were started, the steps that were completed, and how the last execution ended. -/
structure Tally where
  executions : Nat
  zones : List (Option CString)
  completed : Nat
  result : Option ProgramExecutionResult

def Tally.tell (tally : Tally) : Announcement → Tally
  | .started => { tally with executions := tally.executions + 1 }
  | .stepStarted zoneId => { tally with zones := tally.zones ++ [zoneId] }
  | .stepCompleted => { tally with completed := tally.completed + 1 }
  | .terminated result => { tally with result := some result }
  | .opened | .closed => tally

def noTally : Tally := ⟨0,[],0,none⟩

def tallyOf (told : List Announcement) : Tally := told.foldl Tally.tell noTally

def Tally.hear (tally : Tally) (event : Event) : Tally :=
  match event.announcement with
  | none => tally
  | some announcement => tally.tell announcement

theorem tallyOf_told (events : List Event) :
    events.foldl Tally.hear noTally = tallyOf (events.filterMap Event.announcement) := by
  rw [tallyOf,List.foldl_filterMap]
  congr 1
  funext tally event
  unfold Tally.hear
  cases event.announcement <;> rfl

/-- The record's step counters and last zone are those of the tally. -/
structure Tally.Counts (tally : Tally) (record : ProgramExecutionHistoryRecord) : Prop where
  started : record.stepsStarted = tally.zones.length
  completed : record.stepsCompleted = tally.completed
  zone : record.lastActiveZoneId = copyId (tally.zones.filterMap id).getLast?
  zoneValid : record.lastActiveZoneIdValid = tally.zones.getLast?.any Option.isSome

section Tallying

variable {ρ : Type} {append : HistoryAppend ρ} {memory : Memory} {history current : ProgramExecutionHistory ρ}
  {tally : Tally} {record : ProgramExecutionHistoryRecord} {event : Event} {executing reached : Bool}

theorem Tally.Counts.stepStarted (counts : tally.Counts record) (type : event.type = .programExecutionStepStarted) :
    (tally.hear event).Counts (record.stepStarted event) := by
  have heard : tally.hear event = { tally with zones := tally.zones ++ [event.zoneId] } := by
    simp [Tally.hear,Event.announcement,announcementOf,type,Tally.tell]
  rw [heard]
  refine ⟨?_,counts.completed,?_,?_⟩
  · simp [ProgramExecutionHistoryRecord.stepStarted,counts.started]
  · cases zone : event.zoneId with
    | none => simp [ProgramExecutionHistoryRecord.stepStarted,zone,counts.zone]
    | some zoneId => simp [ProgramExecutionHistoryRecord.stepStarted,zone]
  · simp [ProgramExecutionHistoryRecord.stepStarted]

theorem Tally.Counts.stepCompleted (counts : tally.Counts record) (type : event.type = .programExecutionStepCompleted) :
    (tally.hear event).Counts record.stepCompleted := by
  have heard : tally.hear event = { tally with completed := tally.completed + 1 } := by
    simp [Tally.hear,Event.announcement,announcementOf,type,Tally.tell]
  rw [heard]
  refine ⟨counts.started,?_,counts.zone,counts.zoneValid⟩
  simp [ProgramExecutionHistoryRecord.stepCompleted,counts.completed]

theorem Tally.hear_executions (tally : Tally) (event : Event) : tally.executions ≤ (tally.hear event).executions := by
  unfold Tally.hear
  split
  · exact Nat.le_refl _
  · rename_i announcement _
    cases announcement <;> simp only [Tally.tell] <;> omega

/-- A step neither starts an execution nor ends it. -/
theorem Tally.hear_step (tally : Tally)
    (type : event.type = .programExecutionStepStarted ∨ event.type = .programExecutionStepCompleted) :
    (tally.hear event).executions = tally.executions ∧ (tally.hear event).result = tally.result := by
  rcases type with type | type <;> simp [Tally.hear,Event.announcement,announcementOf,type,Tally.tell]

/-- A history that began with no record in flight, beside the tally: untouched, filling in
the record of the first execution, or past its end. -/
inductive Tallied (append : HistoryAppend ρ) (history : ProgramExecutionHistory ρ) (executing : Bool)
    (current : ProgramExecutionHistory ρ) (tally : Tally) : Prop
  | untouched (inactive : executing = false) (none : tally = noTally) (same : current = history)
  | filling (active : executing = true) (one : tally.executions = 1) (unended : tally.result = none)
      {record : ProgramExecutionHistoryRecord} (counts : tally.Counts record) (filled : current = history.filled record)
  | ended (inactive : executing = false) (one : tally.executions = 1) {record : ProgramExecutionHistoryRecord}
      (counts : tally.Counts record) (result : tally.result = some record.result)
      (appended : current = (appendTerminalRecord append (history.filled record)).2)
  | again (more : 1 < tally.executions)

theorem Tallied.step (idle : history.inFlight.active = false) (tallied : Tallied append history executing current tally)
    (proceeds : Proceeds event executing reached) : Tallied append history reached
      (programExecutionHistoryHandleEvent append memory current event) (tally.hear event) := by
  have repeats (more : 1 < tally.executions) : 1 < (tally.hear event).executions :=
    Nat.lt_of_lt_of_le more (tally.hear_executions event)
  cases proceeds with
  | aside none =>
    obtain ⟨started,stepStarted,stepCompleted,terminated⟩ := none
    have still : programExecutionHistoryHandleEvent append memory current event = current := by
      simp [programExecutionHistoryHandleEvent,started,stepStarted,stepCompleted,terminated]
    have heard : tally.hear event = tally := by
      unfold Tally.hear Event.announcement announcementOf
      cases type : event.type <;> simp_all [Tally.tell]
    rw [still,heard]
    exact tallied
  | started type inactive =>
    have heard : tally.hear event = { tally with executions := tally.executions + 1 } := by
      simp [Tally.hear,Event.announcement,announcementOf,type,Tally.tell]
    cases tallied with
    | untouched _ none same =>
      subst none same
      rw [heard]
      refine .filling rfl rfl rfl
        (⟨rfl,rfl,rfl,rfl⟩ : Tally.Counts { noTally with executions := 1 } (startedRecord memory event)) ?_
      simp [programExecutionHistoryHandleEvent,type,idle]
    | filling active => rw [active] at inactive; contradiction
    | ended _ one => exact .again (by simp only [heard,one]; decide)
    | again more => exact .again (repeats more)
  | step type active =>
    cases tallied with
    | untouched inactive => rw [active] at inactive; contradiction
    | @filling _ one unended record counts filled =>
      subst filled
      obtain ⟨executions,result⟩ := tally.hear_step type
      rcases type with type | type
      · refine .filling rfl (executions.trans one) (result.trans unended) (counts.stepStarted type) ?_
        simp [programExecutionHistoryHandleEvent,type,ProgramExecutionHistory.filled]
      · refine .filling rfl (executions.trans one) (result.trans unended) (counts.stepCompleted type) ?_
        simp [programExecutionHistoryHandleEvent,type,ProgramExecutionHistory.filled]
    | ended inactive => rw [active] at inactive; contradiction
    | again more => exact .again (repeats more)
  | terminated type active =>
    cases tallied with
    | untouched inactive => rw [active] at inactive; contradiction
    | @filling _ one unended record counts filled =>
      subst filled
      have heard : tally.hear event = { tally with result := some event.programFields.executionResult } := by
        simp [Tally.hear,Event.announcement,announcementOf,type,Tally.tell]
      have terminated : (tally.hear event).Counts (record.terminated event) := by
        rw [heard]
        exact ⟨counts.started,counts.completed,counts.zone,counts.zoneValid⟩
      refine .ended rfl (by rw [heard]; exact one) terminated (by rw [heard]; rfl) ?_
      simp [programExecutionHistoryHandleEvent,type,ProgramExecutionHistory.filled]
    | ended inactive => rw [active] at inactive; contradiction
    | again more => exact .again (repeats more)

/-- The record that is appended at the end of a single execution counts what was told. -/
theorem appended_of_told (append : HistoryAppend ρ) (memory : Memory) (idle : history.inFlight.active = false)
    {events : List Event} (follows : followAll false (events.filterMap Event.announcement) = some false)
    (one : (tallyOf (events.filterMap Event.announcement)).executions = 1) :
    ∃ record, (tallyOf (events.filterMap Event.announcement)).Counts record ∧
      (tallyOf (events.filterMap Event.announcement)).result = some record.result ∧
      handleEvents append memory history events = (appendTerminalRecord append (history.filled record)).2 := by
  have initially : Tallied append history false history noTally := .untouched rfl rfl rfl
  have tallied := foldl_proceeds_both (programExecutionHistoryHandleEvent append memory) Tally.hear (Tallied append history)
    (fun tallied proceeds => tallied.step idle proceeds) events initially follows
  rw [tallyOf_told] at tallied
  cases tallied with
  | untouched _ none =>
    rw [none] at one
    contradiction
  | filling active => contradiction
  | @ended _ _ record counts result appended => exact ⟨record,counts,result,appended⟩
  | again more => omega

end Tallying

/-! ### The program state machine keeps the tally true -/

/-- The tally of an execution underway, with the zones that its polls opened and closed. -/
inductive Counting (program : Program) (state : ProgramRuntimeState) (tally : Tally) (openings closings : Nat) : Prop
  | waiting (waits : state.state = .waitingMaster) (first : state.currentStepIndex = 0)
      (counted : tally = ⟨1,[],0,none⟩) (opened : openings = 0) (closed : closings = 0)
  | running (runs : state.state = .runningZone) (inside : state.currentStepIndex < program.steps.length)
      (counted : tally = ⟨1,(program.steps.take (state.currentStepIndex + 1)).map ProgramStep.zoneId,
        state.currentStepIndex,none⟩)
      (opened : openings = state.currentStepIndex + 1) (closed : closings = state.currentStepIndex)
  | delaying (delays : state.state = .waitingPostProgramDelay)
      (counted : tally = ⟨1,program.steps.map ProgramStep.zoneId,program.steps.length,none⟩)
      (opened : openings = program.steps.length) (closed : closings = program.steps.length)

/-- The result that a terminal state stands for. -/
inductive ResultOf : ProgramState → ProgramExecutionResult → Prop
  | completed : ResultOf .completed .completed
  | aborted : ResultOf .aborted .aborted
  | fault : ResultOf .fault .fault

/-- The tally of an execution that ended after it had started some of the steps. -/
structure Counted (program : Program) (final : ProgramState) (tally : Tally) (openings closings : Nat) : Prop where
  one : tally.executions = 1
  zones : tally.zones = (program.steps.take openings).map ProgramStep.zoneId
  inside : openings ≤ program.steps.length
  completed : tally.completed = closings
  opened : closings ≤ openings
  lastOpen : openings ≤ closings + 1
  result : ∃ result, tally.result = some result ∧ ResultOf final result
  whole : final = .completed → closings = program.steps.length

section Counts

variable {program : Program} {before after : ProgramRuntimeState} {command : Command} {told : List Announcement}
  {tally : Tally} {openings closings : Nat}

theorem Counting.active (counting : Counting program before tally openings closings) : before.state.active = true := by
  cases counting with
  | waiting waits => rw [waits]; rfl
  | running runs => rw [runs]; rfl
  | delaying delays => rw [delays]; rfl

theorem take_step {index : Nat} (inside : index < program.steps.length) :
    (program.steps.take (index + 1)).map ProgramStep.zoneId =
      (program.steps.take index).map ProgramStep.zoneId ++ [(program.step index).zoneId] := by
  rw [List.take_succ_eq_append_getElem inside,List.map_append]
  simp [Program.step,List.getD,List.getElem?_eq_getElem inside]

/-- An execution underway that ends without completing. -/
theorem Counting.ends (counting : Counting program before tally openings closings) {final : ProgramState}
    {result : ProgramExecutionResult} (ends : ResultOf final result) (cut : final ≠ .completed) :
    Counted program final (tally.tell (.terminated result)) openings closings := by
  cases counting with
  | waiting _ _ counted opened closed =>
    subst counted opened closed
    exact ⟨rfl,rfl,Nat.zero_le _,rfl,Nat.le_refl _,Nat.zero_le _,⟨result,rfl,ends⟩,fun complete => absurd complete cut⟩
  | running _ inside counted opened closed =>
    subst counted opened closed
    exact ⟨rfl,rfl,inside,rfl,Nat.le_succ _,Nat.le_refl _,⟨result,rfl,ends⟩,fun complete => absurd complete cut⟩
  | delaying _ counted opened closed =>
    subst counted opened closed
    refine ⟨rfl,?_,Nat.le_refl _,rfl,Nat.le_refl _,Nat.le_succ _,⟨result,rfl,ends⟩,fun _ => rfl⟩
    rw [List.take_of_length_le (Nat.le_refl _)]
    rfl

/-- What an operation leaves of the tally: the execution goes on, or it has ended. -/
def GoesOn (program : Program) (after : ProgramRuntimeState) (tally : Tally) (openings closings : Nat) : Prop :=
  Counting program after tally openings closings ∨
    after.state.active = false ∧ Counted program after.state tally openings closings

/-- The opening of the next step, with all steps before it completed. -/
theorem StepStory.goesOn (story : StepStory program before told after)
    (inside : before.currentStepIndex < program.steps.length) :
    GoesOn program after
      (told.foldl Tally.tell ⟨1,(program.steps.take before.currentStepIndex).map ProgramStep.zoneId,
        before.currentStepIndex,none⟩)
      (before.currentStepIndex + told.count .opened) (before.currentStepIndex + told.count .closed) := by
  cases story with
  | running startedAtMs =>
    refine .inl (.running rfl inside ?_ rfl rfl)
    rw [take_step inside]
    rfl
  | faulted =>
    refine .inr ⟨rfl,rfl,rfl,Nat.le_of_lt inside,rfl,Nat.le_refl _,Nat.le_succ _,⟨_,rfl,.fault⟩,?_⟩
    intro complete
    contradiction

theorem PollStory.goesOn (poll : PollStory program before told after) (steps : 0 < program.steps.length)
    (counting : Counting program before tally openings closings) :
    GoesOn program after (told.foldl Tally.tell tally) (openings + told.count .opened)
      (closings + told.count .closed) := by
  cases poll with
  | waited => exact .inl counting
  | entered state step =>
    cases counting with
    | waiting _ first counted opened closed =>
      have goes := step.goesOn (by rw [first]; exact steps)
      rw [first] at goes
      rw [counted,opened,closed]
      exact goes
    | running runs => rw [state] at runs; contradiction
    | delaying delays => rw [state] at delays; contradiction
  | broke => exact .inr ⟨rfl,counting.ends .fault (by simp)⟩
  | advanced state more step =>
    cases counting with
    | waiting waits => rw [state] at waits; contradiction
    | running _ _ counted opened closed =>
      have goes := step.goesOn more
      rw [counted,opened,closed,List.foldl_append,List.count_append,List.count_append]
      simpa [Tally.tell,Nat.add_assoc] using goes
    | delaying delays => rw [state] at delays; contradiction
  | finished state last =>
    cases counting with
    | waiting waits => rw [state] at waits; contradiction
    | running _ inside counted opened closed =>
      have all : before.currentStepIndex + 1 = program.steps.length := by omega
      refine .inl (.delaying rfl ?_ ?_ ?_)
      · rw [counted,all,List.take_length]
        simp [Tally.tell,all]
      · simpa [opened] using all
      · simpa [closed] using all
    | delaying delays => rw [state] at delays; contradiction
  | completed state =>
    cases counting with
    | waiting waits => rw [state] at waits; contradiction
    | running runs => rw [state] at runs; contradiction
    | delaying _ counted opened closed =>
      subst counted opened closed
      refine .inr ⟨rfl,rfl,?_,Nat.le_refl _,rfl,Nat.le_refl _,Nat.le_succ _,⟨_,rfl,.completed⟩,fun _ => rfl⟩
      simp [Tally.tell]

theorem tell_zones (zones : ∀ announcement ∈ told, announcement.ofZone) : told.foldl Tally.tell tally = tally := by
  induction told with
  | nil => rfl
  | cons announcement rest ih =>
    have here : tally.tell announcement = tally := by rcases zones announcement (by simp) with rfl | rfl <;> rfl
    rw [List.foldl_cons,here]
    exact ih fun other member => zones other (by simp [member])

/-- The announcements that count as the polls' own. -/
def toldByPoll (command : Command) (told : List Announcement) : List Announcement :=
  if command = .programProcess then told else []

theorem OperationStory.goesOn (story : OperationStory program before command told after) (steps : 0 < program.steps.length)
    (counting : Counting program before tally openings closings) :
    GoesOn program after (told.foldl Tally.tell tally) (openings + (toldByPoll command told).count .opened)
      (closings + (toldByPoll command told).count .closed) := by
  cases story with
  | aside zones elsewhere =>
    rw [toldByPoll,if_neg elsewhere,tell_zones zones]
    exact .inl counting
  | started _ inactive =>
    rw [counting.active] at inactive
    contradiction
  | polled poll =>
    rw [toldByPoll,if_pos rfl]
    exact poll.goesOn steps counting
  | aborted active abort =>
    rw [toldByPoll,if_neg (by simp)]
    cases abort with
    | ended zones ends =>
      rw [List.foldl_append,tell_zones fun announcement member => .inr (zones announcement member)]
      rcases ends with ⟨rfl,rfl⟩ | ⟨rfl,rfl⟩
      · exact .inr ⟨rfl,counting.ends .aborted (by simp)⟩
      · exact .inr ⟨rfl,counting.ends .fault (by simp)⟩

/-- What an operation that starts an execution leaves of the tally. -/
theorem OperationStory.begins {handed : Program} (program : Program)
    (story : OperationStory handed before command told after) (inactive : before.state.active = false) (started : .started ∈ told) : command.Starts ∧
    GoesOn program after (told.foldl Tally.tell noTally) ((toldByPoll command told).count .opened)
      ((toldByPoll command told).count .closed) := by
  cases story with
  | aside zones => rcases zones _ started with same | same <;> contradiction
  | started starts _ start =>
    refine ⟨starts,?_⟩
    rw [toldByPoll,if_neg (by cases starts <;> simp)]
    cases start with
    | refused => simp at started
    | started => exact .inl (.waiting rfl rfl rfl rfl rfl)
    | failed =>
      refine .inr ⟨rfl,rfl,rfl,Nat.zero_le _,rfl,Nat.le_refl _,Nat.zero_le _,⟨_,rfl,.fault⟩,?_⟩
      intro complete
      contradiction
  | polled poll =>
    cases poll with
    | waited => simp at started
    | entered state => rw [state] at inactive; contradiction
    | broke active => rcases active with state | state <;> (rw [state] at inactive; contradiction)
    | advanced state => rw [state] at inactive; contradiction
    | finished state => rw [state] at inactive; contradiction
    | completed state => rw [state] at inactive; contradiction
  | aborted active =>
    rw [inactive] at active
    contradiction

end Counts

section Runs

variable {ε : Type} (drivers : Drivers ε)

/-- An active program is one that the program service accepted. -/
def World.AtHand (world : World ε) : Prop :=
  world.store.program.state.active = true → programIsValid world.currentProgram = true

theorem EntriesHandling.atHand {drivers : Drivers ε} {world next : World ε} {entries : List SchedulerEntry}
    {issued : List DriverCall} (handling : EntriesHandling drivers world entries issued next) (atHand : world.AtHand) :
    next.AtHand := by
  induction handling with
  | done => exact atHand
  | next handling _ ih =>
    apply ih
    cases handling with
    | passed _ stored back =>
      intro active
      rw [stored] at active
      rw [World.currentProgram_eq _ back]
      exact atHand active
    | started program startable inactive starting stored back =>
      intro _
      rw [World.currentProgram_eq _ back]
      obtain ⟨address,named,valid,_⟩ := startable
      cases named.symm.trans program
      exact valid

theorem operate_atHand (command : Command) (world : World ε) (starts : command.Starts)
    (inactive : world.store.program.state.active = false) : (operate drivers command world).AtHand := by
  have atHand : world.AtHand := fun active => by rw [inactive] at active; contradiction
  cases starts with
  | programStart program =>
    rcases programServiceStartWithContext_cases drivers program programStartContextManual world with
      ⟨rejected,_⟩ | ⟨address,_,valid,_,_,accepted⟩
    · simp only [operate,execute,programServiceStart,rejected]
      exact atHand
    · obtain ⟨issued,starting,back⟩ := programServiceStartLocked_cases drivers address programStartContextManual world
      rw [← accepted] at back
      intro _
      exact (congrArg programIsValid (World.currentProgram_eq _ back)).trans valid
  | schedulerProcess now =>
    obtain ⟨issued,next,handling,ticked⟩ := schedulerServiceProcess_cases drivers now world
    simp only [operate,execute,ticked]
    exact handling.atHand atHand

/-- What a poll of the program announces; what other operations announce is not its own. -/
def processTold (command : Command) (world : World ε) : List Announcement :=
  toldByPoll command ((operate drivers command world).told.drop world.told.length)

theorem tallyOf_append (first second : List Announcement) :
    tallyOf (first ++ second) = second.foldl Tally.tell (tallyOf first) := List.foldl_append

theorem operate_goesOn (command : Command) {world : World ε} {openings closings : Nat}
    (steps : 0 < world.currentProgram.steps.length)
    (counting : Counting world.currentProgram world.store.program (tallyOf world.told) openings closings) :
    (operate drivers command world).currentProgram = world.currentProgram ∧
    GoesOn world.currentProgram (operate drivers command world).store.program
      (tallyOf (operate drivers command world).told)
      (openings + (processTold drivers command world).count .opened)
      (closings + (processTold drivers command world).count .closed) := by
  obtain ⟨told,after,story,recounted⟩ := operate_story drivers command world
  refine ⟨recounted.currentProgram counting.active,?_⟩
  rw [processTold,recounted.told,List.drop_left,tallyOf_append,recounted.state]
  exact story.goesOn steps counting

/-- The counts at the end of a run that was underway until its last operation. -/
theorem run_counted (commands : List Command) {world : World ε} {openings closings : Nat}
    (steps : 0 < world.currentProgram.steps.length)
    (counting : Counting world.currentProgram world.store.program (tallyOf world.told) openings closings)
    (underway : Runs.Along (operate drivers) (fun _ world => world.store.program.state.active = true) commands world)
    (ended : (run drivers commands world).store.program.state.active = false) :
    Counted world.currentProgram (run drivers commands world).store.program.state
      (tallyOf (run drivers commands world).told)
      (openings + (Runs.log (operate drivers) (processTold drivers) commands world).count .opened)
      (closings + (Runs.log (operate drivers) (processTold drivers) commands world).count .closed) := by
  induction commands generalizing world openings closings with
  | nil =>
    have active := counting.active
    have inactive : world.store.program.state.active = false := ended
    rw [active] at inactive
    contradiction
  | cons command rest ih =>
    obtain ⟨same,goes⟩ := operate_goesOn drivers command steps counting
    simp only [Runs.log,List.count_append,← Nat.add_assoc]
    rcases goes with goes | ⟨inactive,counted⟩
    · rw [← same] at goes steps
      rw [← same]
      exact ih steps goes underway.2 ended
    · cases rest with
      | nil => simpa [Runs.log,run] using counted
      | cons next later =>
        have active : (operate drivers command world).store.program.state.active = true := underway.2.1
        rw [inactive] at active
        contradiction

/-- The record tells the truth about an execution of a program: the zones that its polls
opened and closed, the state it ended in and the last zone it opened. -/
structure TruthfulRecord (program : Program) (final : ProgramState) (openings closings : Nat)
    (record : ProgramExecutionHistoryRecord) : Prop where
  completed : record.stepsCompleted ≤ record.stepsStarted
  lastStarted : record.stepsStarted ≤ record.stepsCompleted + 1
  inside : record.stepsStarted ≤ program.steps.length
  openings : record.stepsStarted = openings
  closings : record.stepsCompleted = closings
  result : ResultOf final record.result
  whole : record.result = .completed →
    record.stepsStarted = program.steps.length ∧ record.stepsCompleted = program.steps.length
  lastZone : record.lastActiveZoneIdValid = true → ∃ step zoneId, 0 < record.stepsStarted ∧
    program.steps[record.stepsStarted - 1]? = some step ∧ step.zoneId = some zoneId ∧
    (zoneId.bytes.length < irrigationProgramHistoryIdMaxLength → record.lastActiveZoneId.toCString = zoneId)

/-- The last zone that was opened is the one of the last started step. -/
theorem Counted.lastZone {program : Program} {final : ProgramState} {tally : Tally} {openings closings : Nat}
    (counted : Counted program final tally openings closings) {zoneId : CString} (last : tally.zones.getLast? = some (some zoneId)) :
    0 < tally.zones.length ∧ ∃ step, program.steps[tally.zones.length - 1]? = some step ∧ step.zoneId = some zoneId := by
  obtain ⟨front,split⟩ := List.getLast?_eq_some_iff.mp last
  have positive : 0 < tally.zones.length := by
    rw [split,List.length_append]
    simp
  have inside : tally.zones.length = openings := by
    rw [counted.zones,List.length_map,List.length_take]
    exact Nat.min_eq_left counted.inside
  have atLast : tally.zones[tally.zones.length - 1]? = some (some zoneId) := by
    rw [← List.getLast?_eq_getElem?]
    exact last
  rw [inside] at positive atLast ⊢
  rw [counted.zones,List.getElem?_map,List.getElem?_take_of_lt (by omega)] at atLast
  obtain ⟨step,atStep,named⟩ := Option.map_eq_some_iff.mp atLast
  exact ⟨positive,step,atStep,named⟩

theorem Counted.truthful {program : Program} {final : ProgramState} {tally : Tally} {openings closings : Nat}
    (counted : Counted program final tally openings closings) {record : ProgramExecutionHistoryRecord}
    (counts : tally.Counts record) (result : tally.result = some record.result) :
    TruthfulRecord program final openings closings record := by
  have started : record.stepsStarted = openings := by
    rw [counts.started,counted.zones,List.length_map,List.length_take]
    exact Nat.min_eq_left counted.inside
  have completed : record.stepsCompleted = closings := counts.completed.trans counted.completed
  have ends : ResultOf final record.result := by
    obtain ⟨other,told,ends⟩ := counted.result
    cases told.symm.trans result
    exact ends
  refine ⟨?_,?_,?_,started,completed,ends,?_,?_⟩
  · rw [started,completed]
    exact counted.opened
  · rw [started,completed]
    exact counted.lastOpen
  · rw [started]
    exact counted.inside
  · intro complete
    rw [complete] at ends
    cases ends
    have all := counted.whole rfl
    have opened := counted.opened
    have inside := counted.inside
    omega
  · intro valid
    rw [counts.zoneValid,Option.any_eq_true] at valid
    obtain ⟨zone,last,named⟩ := valid
    obtain ⟨zoneId,rfl⟩ := Option.isSome_iff_exists.mp named
    obtain ⟨positive,step,atStep,named⟩ := counted.lastZone last
    rw [← counts.started] at positive atStep
    refine ⟨step,zoneId,positive,atStep,named,?_⟩
    intro short
    have kept : record.lastActiveZoneId = copyText zoneId := by
      obtain ⟨front,split⟩ := List.getLast?_eq_some_iff.mp last
      rw [counts.zone,split]
      simp [copyId]
    rw [kept]
    apply CString.ext
    exact List.take_of_length_le (Nat.le_sub_one_of_lt short)

/-- The counts at the end of a run that starts an execution and ends it with its last operation. -/
theorem execution_counted (start : Command) (commands : List Command) {world : World ε}
    (inactive : world.store.program.state.active = false) (silent : world.events = [])
    (started : .started ∈ (operate drivers start world).told)
    (underway : Runs.Along (operate drivers) (fun _ world => world.store.program.state.active = true) commands
      (operate drivers start world))
    (ended : (run drivers (start :: commands) world).store.program.state.active = false) :
    Counted (operate drivers start world).currentProgram (run drivers (start :: commands) world).store.program.state
      (tallyOf (run drivers (start :: commands) world).told)
      ((Runs.log (operate drivers) (processTold drivers) (start :: commands) world).count .opened)
      ((Runs.log (operate drivers) (processTold drivers) (start :: commands) world).count .closed) := by
  obtain ⟨told,after,story,recounted⟩ := operate_story drivers start world
  have nothing : world.told = [] := by rw [World.told,silent]; rfl
  have whole : (operate drivers start world).told = told := by rw [recounted.told,nothing,List.nil_append]
  have polled : processTold drivers start world = toldByPoll start told := by
    rw [processTold,whole,nothing]
    rfl
  rw [whole] at started
  obtain ⟨starts,goes⟩ := story.begins (operate drivers start world).currentProgram inactive started
  simp only [Runs.log,List.count_append,polled]
  rcases goes with counting | ⟨stopped,counted⟩
  · have valid := operate_atHand drivers start world starts inactive (by rw [recounted.state]; exact counting.active)
    have steps : 0 < (operate drivers start world).currentProgram.steps.length := by
      simp only [programIsValid,Bool.and_eq_true,Bool.not_eq_true',List.isEmpty_eq_false_iff] at valid
      exact List.length_pos_of_ne_nil valid.1.2
    rw [← recounted.state] at counting
    exact run_counted drivers commands steps (by rw [whole]; exact counting) underway ended
  · cases commands with
    | nil =>
      rw [← recounted.state] at counted
      rw [Runs.log]
      simp only [List.count_nil,Nat.add_zero]
      have only : run drivers [start] world = operate drivers start world := rfl
      rw [only,whole]
      exact counted
    | cons next later =>
      have active : (operate drivers start world).store.program.state.active = true := underway.1
      rw [recounted.state,stopped] at active
      contradiction

end Runs

section History

variable {ε ρ : Type} (drivers : Drivers ε) (append : HistoryAppend ρ)

/-- The record was handed to the repository, and then stored if that took it. -/
structure Appended (before : ProgramExecutionHistory ρ) (record : ProgramExecutionHistoryRecord)
    (after : ProgramExecutionHistory ρ) : Prop where
  handed : after.context = (offer append before.context record).2
  stored : (offer append before.context record).1 = .ok →
    after.records = before.records ++ [record] ∧ after.inFlight.active = false
  kept : (offer append before.context record).1 ≠ .ok →
    after.records = before.records ∧ after.inFlight = ⟨true,record⟩

theorem appendTerminalRecord_appended {history : ProgramExecutionHistory ρ} (record : ProgramExecutionHistoryRecord)
    (space : history.records.length < irrigationMaxProgramHistoryRecords) :
    Appended append history record (appendTerminalRecord append (history.filled record)).2 := by
  cases appendTerminalRecord_cases append (rfl : (history.filled record).inFlight.active = true) with
  | full full => exact absurd space full
  | stored space offered stores =>
    have answer : offer append history.context record = _ := offered
    rw [stores]
    refine ⟨by rw [answer]; rfl,fun _ => ⟨rfl,rfl⟩,fun failed => ?_⟩
    rw [answer] at failed
    exact absurd rfl failed
  | refused space failed offered keeps =>
    have answer : offer append history.context record = _ := offered
    rw [keeps]
    refine ⟨by rw [answer],fun ok => ?_,fun _ => ⟨rfl,rfl⟩⟩
    rw [answer] at ok
    exact absurd ok failed

/-- The record that is appended when an execution ends, with space for it, tells the truth about it. -/
theorem history_counters_true {history : ProgramExecutionHistory ρ} (idle : history.inFlight.active = false)
    (space : history.records.length < irrigationMaxProgramHistoryRecords) {world : World ε}
    (inactive : world.store.program.state.active = false) (silent : world.events = []) (start : Command)
    (started : .started ∈ (operate drivers start world).told) (commands : List Command)
    (underway : Runs.Along (operate drivers) (fun _ world => world.store.program.state.active = true) commands
      (operate drivers start world))
    (ended : (run drivers (start :: commands) world).store.program.state.active = false) :
    ∃ record, Appended append history record
        (handleEvents append world.memory history (run drivers (start :: commands) world).events) ∧
      TruthfulRecord (operate drivers start world).currentProgram
        (run drivers (start :: commands) world).store.program.state
        ((Runs.log (operate drivers) (processTold drivers) (start :: commands) world).count .opened)
        ((Runs.log (operate drivers) (processTold drivers) (start :: commands) world).count .closed) record := by
  have initially : world.Follows := by rw [World.Follows,World.told,silent,inactive]; rfl
  have follows : (run drivers (start :: commands) world).Follows :=
    Runs.invariant_after (fun command world => operate_follows drivers command world) initially (start :: commands)
  have counted := execution_counted drivers start commands inactive silent started underway ended
  obtain ⟨record,counts,result,appended⟩ := appended_of_told append world.memory idle
    (follows.trans (congrArg some ended)) counted.one
  refine ⟨record,?_,counted.truthful counts result⟩
  rw [appended]
  exact appendTerminalRecord_appended append record space

end History

/-- One execution of the development kit's program, from its start to its end. -/
def devExecution : List Command := [.programProcess,.zoneClose (some (.literal "zone-2")),.programProcess,.programAbort]

theorem history_counters_true_aborted : ∃ record,
    Appended keepingAppend (programExecutionHistoryInit []) record
      (handleEvents keepingAppend (devWorld devProgram).memory (programExecutionHistoryInit [])
        (run quietDrivers (.programStart (some 0) :: devExecution) (devWorld devProgram)).events) ∧
    TruthfulRecord (operate quietDrivers (.programStart (some 0)) (devWorld devProgram)).currentProgram
      (run quietDrivers (.programStart (some 0) :: devExecution) (devWorld devProgram)).store.program.state
      ((Runs.log (operate quietDrivers) (processTold quietDrivers) (.programStart (some 0) :: devExecution)
        (devWorld devProgram)).count .opened)
      ((Runs.log (operate quietDrivers) (processTold quietDrivers) (.programStart (some 0) :: devExecution)
        (devWorld devProgram)).count .closed) record :=
  history_counters_true quietDrivers keepingAppend rfl (by decide) (by decide) rfl _ (by decide) devExecution (by decide)
    (by decide)

end Irrigation
