import Irrigation.ExecutionStories
import Irrigation.Library.Runs

/-! Which executions the history's records describe. Executions are published one after
another; a record that the repository refuses stays in flight, where the next execution's
events change it. -/
namespace Irrigation

/-! ### Executions follow one another -/

/-- Whether an execution is underway after an announcement; none where it cannot come. -/
def follow (executing : Bool) (announcement : Announcement) : Option Bool :=
  match executing, announcement with
  | executing, .opened | executing, .closed => some executing
  | false, .started => some true
  | true, .stepStarted _ | true, .stepCompleted => some true
  | true, .terminated _ => some false
  | _, _ => none

def followAll (executing : Bool) (told : List Announcement) : Option Bool := told.foldlM follow executing

theorem followAll_append (executing : Bool) (first second : List Announcement) :
    followAll executing (first ++ second) = (followAll executing first).bind (followAll · second) :=
  List.foldlM_append

theorem followAll_zones {told : List Announcement} (zones : ∀ announcement ∈ told, announcement.ofZone)
    (executing : Bool) : followAll executing told = some executing := by
  induction told with
  | nil => rfl
  | cons announcement rest ih =>
    have here : follow executing announcement = some executing := by
      rcases zones announcement (by simp) with rfl | rfl <;> cases executing <;> rfl
    rw [followAll,List.foldlM_cons,here]
    exact ih fun other member => zones other (by simp [member])

theorem StepStory.follows {program : Program} {before after : ProgramRuntimeState} {told : List Announcement}
    (story : StepStory program before told after) : followAll true told = some after.state.active := by
  cases story <;> rfl

theorem PollStory.follows {program : Program} {before after : ProgramRuntimeState} {told : List Announcement}
    (story : PollStory program before told after) :
    followAll before.state.active told = some after.state.active := by
  cases story with
  | waited => rfl
  | entered state step =>
    rw [state]
    exact step.follows
  | broke active => rcases active with state | state <;> rw [state] <;> rfl
  | advanced state more step =>
    rw [state,followAll_append]
    exact step.follows
  | finished state => rw [state]; rfl
  | completed state => rw [state]; rfl

theorem OperationStory.follows {program : Program} {before after : ProgramRuntimeState} {command : Command}
    {told : List Announcement} (story : OperationStory program before command told after) :
    followAll before.state.active told = some after.state.active := by
  cases story with
  | aside zones => exact followAll_zones zones _
  | started starts inactive start =>
    rw [inactive]
    cases start with
    | refused => exact congrArg some inactive.symm
    | started => rfl
    | failed => rfl
  | polled poll => exact poll.follows
  | aborted active abort =>
    cases abort with
    | ended zones ends =>
      rw [active,followAll_append,followAll_zones (fun announcement member => .inr (zones announcement member))]
      rcases ends with ⟨rfl,rfl⟩ | ⟨rfl,rfl⟩ <;> rfl

section Worlds

variable {ε : Type} (drivers : Drivers ε)

/-- What was announced so far is a sequence of executions, the last underway exactly while
the program is active. -/
def World.Follows (world : World ε) : Prop := followAll false world.told = some world.store.program.state.active

theorem operate_follows (command : Command) (world : World ε) (follows : world.Follows) :
    (operate drivers command world).Follows := by
  obtain ⟨told,after,story,recounted⟩ := operate_story drivers command world
  rw [World.Follows,recounted.told,followAll_append,follows,recounted.state]
  exact story.follows

end Worlds

/-! ### The executions that were published -/

/-- The events of an execution that ended. -/
structure ExecutionEvents where
  started : Event
  steps : List Event
  terminated : Event

/-- The executions that ended, and the start and the steps of the one underway. -/
structure PublishedExecutions where
  ended : List ExecutionEvents
  underway : Option (Event × List Event)

def PublishedExecutions.publish (published : PublishedExecutions) (event : Event) : PublishedExecutions :=
  match event.type, published.underway with
  | .programExecutionStarted, none => { published with underway := some (event,[]) }
  | .programExecutionStepStarted, some (started,steps) | .programExecutionStepCompleted, some (started,steps) =>
    { published with underway := some (started,steps ++ [event]) }
  | .programExecutionTerminated, some (started,steps) => ⟨published.ended ++ [⟨started,steps,event⟩],none⟩
  | _, _ => published

def publishedExecutions (events : List Event) : PublishedExecutions :=
  events.foldl PublishedExecutions.publish ⟨[],none⟩

/-- The zone of each step that was started. -/
def startedZones (steps : List Event) : List (Option CString) :=
  (steps.filter (·.type = .programExecutionStepStarted)).map Event.zoneId

/-- What the record of an execution says of its start and its steps. -/
def recordOf (memory : Memory) (started : Event) (steps : List Event) : ProgramExecutionHistoryRecord :=
  { startedRecord memory started with
    stepsStarted := (steps.filter (·.type = .programExecutionStepStarted)).length
    stepsCompleted := (steps.filter (·.type = .programExecutionStepCompleted)).length
    lastActiveZoneId := copyId ((startedZones steps).filterMap id).getLast?
    lastActiveZoneIdValid := (startedZones steps).getLast?.any Option.isSome }

def ExecutionEvents.record (memory : Memory) (execution : ExecutionEvents) : ProgramExecutionHistoryRecord :=
  (recordOf memory execution.started execution.steps).terminated execution.terminated

section Records

variable {memory : Memory} {started event : Event} {steps : List Event}

theorem recordOf_nil (memory : Memory) (started : Event) : recordOf memory started [] = startedRecord memory started := rfl

theorem recordOf_stepStarted (type : event.type = .programExecutionStepStarted) :
    recordOf memory started (steps ++ [event]) = (recordOf memory started steps).stepStarted event := by
  have zones : startedZones (steps ++ [event]) = startedZones steps ++ [event.zoneId] := by simp [startedZones,type]
  simp only [recordOf,zones,ProgramExecutionHistoryRecord.stepStarted]
  cases zone : event.zoneId with
  | none => simp [type,List.filterMap_append,List.filter_append]
  | some zoneId => simp [type,List.filterMap_append,List.filter_append]

theorem recordOf_stepCompleted (type : event.type = .programExecutionStepCompleted) :
    recordOf memory started (steps ++ [event]) = (recordOf memory started steps).stepCompleted := by
  simp [recordOf,startedZones,ProgramExecutionHistoryRecord.stepCompleted,type,List.filter_append]

end Records

theorem publish_aside {published : PublishedExecutions} {event : Event} (none : event.type ≠ .programExecutionStarted ∧
    event.type ≠ .programExecutionStepStarted ∧ event.type ≠ .programExecutionStepCompleted ∧
    event.type ≠ .programExecutionTerminated) : published.publish event = published := by
  obtain ⟨started,stepStarted,stepCompleted,terminated⟩ := none
  simp [PublishedExecutions.publish,started,stepStarted,stepCompleted,terminated]

theorem publish_ended (published : PublishedExecutions) (event : Event) :
    ∃ added, (published.publish event).ended = published.ended ++ added := by
  unfold PublishedExecutions.publish
  split
  · exact ⟨[],(List.append_nil _).symm⟩
  · exact ⟨[],(List.append_nil _).symm⟩
  · exact ⟨[],(List.append_nil _).symm⟩
  · exact ⟨_,rfl⟩
  · exact ⟨[],(List.append_nil _).symm⟩

/-! ### Who wrote a record -/

/-- A record that was handed to the repository, the executions whose events wrote it, and
the repository's answer. -/
structure Handing where
  record : ProgramExecutionHistoryRecord
  writers : List Nat
  result : IrrigationResult

/-- The history beside what is known of its writers: executions are numbered as they start. -/
structure TracedHistory (ρ : Type) where
  history : ProgramExecutionHistory ρ
  executions : Nat
  writers : List Nat
  handings : List Handing

section Tracing

variable {ρ : Type} (append : HistoryAppend ρ) (memory : Memory)

/-- The handing of a record at a termination, when there is room for it. -/
def handing (traced : TracedHistory ρ) (event : Event) : List Handing :=
  let record := traced.history.inFlight.record.terminated event
  if traced.history.records.length < irrigationMaxProgramHistoryRecords then
    [⟨record,traced.writers ++ [traced.executions],(appendTerminalRecord append (traced.history.filled record)).1⟩]
  else []

def handleTraced (traced : TracedHistory ρ) (event : Event) : TracedHistory ρ :=
  let history := programExecutionHistoryHandleEvent append memory traced.history event
  match event.type, traced.history.inFlight.active with
  | .programExecutionStarted, false =>
    { traced with history, executions := traced.executions + 1, writers := [traced.executions + 1] }
  | .programExecutionStarted, true => { traced with history, executions := traced.executions + 1 }
  | .programExecutionStepStarted, true | .programExecutionStepCompleted, true =>
    { traced with history, writers := traced.writers ++ [traced.executions] }
  | .programExecutionTerminated, true =>
    { traced with
      history
      writers := traced.writers ++ [traced.executions]
      handings := traced.handings ++ handing append traced event }
  | _, _ => { traced with history }

/-- The history of a list of events, traced from its initialisation on. -/
def traceEvents (context : ρ) (events : List Event) : TracedHistory ρ :=
  events.foldl (handleTraced append memory) ⟨programExecutionHistoryInit context,0,[],[]⟩

/-- The record is that of one execution that ended, and no other wrote into it. -/
def Handing.OneExecution (published : PublishedExecutions) (handing : Handing) : Prop :=
  ∃ index execution, published.ended[index]? = some execution ∧ handing.record = execution.record memory ∧
    ∀ writer ∈ handing.writers, writer = index + 1

/-- What the repository answers to a record, and the context it leaves. -/
def offer (append : HistoryAppend ρ) (context : ρ) (record : ProgramExecutionHistoryRecord) : IrrigationResult × ρ :=
  match append with
  | none => (.ok,context)
  | some append => append context record

/-- Its answers to records that it is handed one after another. -/
def offerAll (append : HistoryAppend ρ) : List ProgramExecutionHistoryRecord → ρ → List IrrigationResult × ρ
  | [],context => ([],context)
  | record :: rest,context =>
    let (result,next) := offer append context record
    let (results,last) := offerAll append rest next
    (result :: results,last)

theorem offerAll_concat (records : List ProgramExecutionHistoryRecord) (record : ProgramExecutionHistoryRecord)
    (context : ρ) : offerAll append (records ++ [record]) context =
      ((offerAll append records context).1 ++ [(offer append (offerAll append records context).2 record).1],
        (offer append (offerAll append records context).2 record).2) := by
  induction records generalizing context with
  | nil => rfl
  | cons first rest ih =>
    simp only [List.cons_append,offerAll,ih]

end Tracing

section Handling

variable {ρ : Type} {append : HistoryAppend ρ} {memory : Memory} {history : ProgramExecutionHistory ρ}
  {traced : TracedHistory ρ} {published : PublishedExecutions} {event : Event} {executing reached : Bool}

/-- What becomes of a terminated record in flight. -/
inductive Appending (append : HistoryAppend ρ) (history : ProgramExecutionHistory ρ) : Prop
  | full (full : ¬history.records.length < irrigationMaxProgramHistoryRecords)
      (same : appendTerminalRecord append history = (.rejected,history))
  | stored (space : history.records.length < irrigationMaxProgramHistoryRecords) {context : ρ}
      (offered : offer append history.context history.inFlight.record = (.ok,context))
      (stores : appendTerminalRecord append history = (.ok,history.stored context space))
  | refused (space : history.records.length < irrigationMaxProgramHistoryRecords) {failure : IrrigationResult}
      (failed : failure ≠ .ok) {context : ρ} (offered : offer append history.context history.inFlight.record = (failure,context))
      (keeps : appendTerminalRecord append history = (failure,{ history with context }))

theorem appendTerminalRecord_cases (append : HistoryAppend ρ) (active : history.inFlight.active = true) :
    Appending append history := by
  by_cases space : history.records.length < irrigationMaxProgramHistoryRecords
  · cases append with
    | none => exact .stored space rfl (by rw [appendTerminalRecord,dif_pos ⟨active,space⟩])
    | some append =>
      cases answer : append history.context history.inFlight.record with
      | mk result context =>
        have offered : offer (some append) history.context history.inFlight.record = (result,context) := answer
        cases result
        case ok => exact .stored space offered (by rw [appendTerminalRecord,dif_pos ⟨active,space⟩]; simp only [answer])
        all_goals
          exact .refused space (by decide) offered
            (by rw [appendTerminalRecord,dif_pos ⟨active,space⟩]; simp only [answer])
  · exact .full space (by rw [appendTerminalRecord,dif_neg fun both => space both.2])

theorem handleTraced_history (traced : TracedHistory ρ) (event : Event) : (handleTraced append memory traced event).history =
    programExecutionHistoryHandleEvent append memory traced.history event := by
  unfold handleTraced
  split <;> rfl

theorem traceEvents_history (context : ρ) (events : List Event) : (traceEvents append memory context events).history =
    handleEvents append memory (programExecutionHistoryInit context) events := by
  have general : ∀ (events : List Event) (traced : TracedHistory ρ),
      (events.foldl (handleTraced append memory) traced).history = handleEvents append memory traced.history events := by
    intro events
    induction events with
    | nil => exact fun _ => rfl
    | cons event rest ih =>
      intro traced
      rw [List.foldl_cons,ih,handleTraced_history]
      rfl
  exact general events _

/-- An event of an execution takes it from one state to the next; another changes nothing. -/
inductive Proceeds (event : Event) (executing : Bool) : Bool → Prop
  | aside (none : event.type ≠ .programExecutionStarted ∧ event.type ≠ .programExecutionStepStarted ∧
      event.type ≠ .programExecutionStepCompleted ∧ event.type ≠ .programExecutionTerminated) :
      Proceeds event executing executing
  | started (type : event.type = .programExecutionStarted) (inactive : executing = false) : Proceeds event executing true
  | step (type : event.type = .programExecutionStepStarted ∨ event.type = .programExecutionStepCompleted)
      (active : executing = true) : Proceeds event executing true
  | terminated (type : event.type = .programExecutionTerminated) (active : executing = true) :
      Proceeds event executing false

theorem proceeds_of_follow {announcement : Announcement} (announced : event.announcement = some announcement)
    (follows : follow executing announcement = some reached) : Proceeds event executing reached := by
  unfold Event.announcement announcementOf at announced
  split at announced <;> cases announced <;> cases executing <;> cases follows
  case h_1.refl.false.refl type => exact .aside (by simp [type])
  case h_1.refl.true.refl type => exact .aside (by simp [type])
  case h_2.refl.false.refl type => exact .aside (by simp [type])
  case h_2.refl.true.refl type => exact .aside (by simp [type])
  case h_3.refl.false.refl type => exact .started type rfl
  case h_4.refl.true.refl type => exact .step (.inl type) rfl
  case h_5.refl.true.refl type => exact .step (.inr type) rfl
  case h_6.refl.true.refl type => exact .terminated type rfl

theorem proceeds_of_none (announced : event.announcement = none) : Proceeds event executing executing := by
  unfold Event.announcement announcementOf at announced
  split at announced <;> cases announced
  rename_i zoneOpened zoneClosed started stepStarted stepCompleted terminated
  exact .aside ⟨started,stepStarted,stepCompleted,terminated⟩

/-- What holds through one event of a sequence of executions holds through all. -/
theorem foldl_proceeds {State : Type*} (handle : State → Event → State) (standing : Bool → State → Prop)
    (step : ∀ {executing reached : Bool} {state : State} {event : Event}, standing executing state →
      Proceeds event executing reached → standing reached (handle state event))
    (events : List Event) {state : State} (initially : standing executing state)
    (follows : followAll executing (events.filterMap Event.announcement) = some reached) :
    standing reached (events.foldl handle state) := by
  induction events generalizing executing state with
  | nil =>
    cases follows
    exact initially
  | cons event rest ih =>
    cases announced : event.announcement with
    | none =>
      rw [List.filterMap_cons_none announced] at follows
      exact ih (step initially (proceeds_of_none announced)) follows
    | some announcement =>
      rw [List.filterMap_cons_some announced,followAll,List.foldlM_cons] at follows
      obtain ⟨middle,here,later⟩ := Option.bind_eq_some_iff.mp follows
      exact ih (step initially (proceeds_of_follow announced here)) later

/-- Two readers of one sequence of executions, side by side. -/
theorem foldl_proceeds_both {First Second : Type*} (handle : First → Event → First) (publish : Second → Event → Second)
    (standing : Bool → First → Second → Prop)
    (step : ∀ {executing reached : Bool} {first : First} {second : Second} {event : Event},
      standing executing first second → Proceeds event executing reached →
        standing reached (handle first event) (publish second event))
    (events : List Event) {first : First} {second : Second} (initially : standing executing first second)
    (follows : followAll executing (events.filterMap Event.announcement) = some reached) :
    standing reached (events.foldl handle first) (events.foldl publish second) := by
  have both := foldl_proceeds (fun (pair : First × Second) event => (handle pair.1 event,publish pair.2 event))
    (fun executing pair => standing executing pair.1 pair.2) step events
    (show standing executing (first,second).1 (first,second).2 from initially) follows
  rwa [List.foldl_hom₂ events Prod.mk handle publish _ first second fun _ _ _ => rfl] at both

/-- The executions that were traced are those that were published. -/
structure Numbered (executing : Bool) (traced : TracedHistory ρ) (published : PublishedExecutions) : Prop where
  count : traced.executions = published.ended.length + if executing then 1 else 0
  underway : published.underway.isSome = executing

/-- How the record in flight stands to the executions: it is the one underway, it stays for
want of room, or it stays since the repository refused it, perhaps mixed up since. -/
inductive Standing (memory : Memory) (executing : Bool) (traced : TracedHistory ρ) (published : PublishedExecutions) : Prop
  | idle (inactive : executing = false) (free : traced.history.inFlight.active = false)
      (confirmed : ∀ handing ∈ traced.handings, handing.result = .ok)
      (single : ∀ handing ∈ traced.handings, handing.OneExecution memory published)
  | filling (active : executing = true) {started : Event} {steps : List Event}
      (underway : published.underway = some (started,steps))
      (inFlight : traced.history.inFlight = ⟨true,recordOf memory started steps⟩)
      (own : ∀ writer ∈ traced.writers, writer = traced.executions)
      (confirmed : ∀ handing ∈ traced.handings, handing.result = .ok)
      (single : ∀ handing ∈ traced.handings, handing.OneExecution memory published)
  | full (active : traced.history.inFlight.active = true)
      (full : ¬traced.history.records.length < irrigationMaxProgramHistoryRecords)
      (confirmed : ∀ handing ∈ traced.handings, handing.result = .ok)
      (single : ∀ handing ∈ traced.handings, handing.OneExecution memory published)
  | stale (active : traced.history.inFlight.active = true) {writer : Nat} (wrote : writer ∈ traced.writers)
      (before : writer ≤ traced.executions) (older : executing = true → writer < traced.executions)
      {front : List Handing} {last : Handing} (handed : traced.handings = front ++ [last])
      (confirmed : ∀ handing ∈ front, handing.result = .ok) (failed : last.result ≠ .ok)
      (single : ∀ handing ∈ traced.handings, handing.OneExecution memory published)
  | mixed {failed mixed : Handing} (refused : failed ∈ traced.handings.dropLast) (notOk : failed.result ≠ .ok)
      (handed : mixed ∈ traced.handings) {one other : Nat} (first : one ∈ mixed.writers) (second : other ∈ mixed.writers)
      (apart : one ≠ other)

/-- Every handing but the last succeeded. -/
def ConfirmedButLast (handings : List Handing) : Prop := ∀ handing ∈ handings.dropLast, handing.result = .ok

instance (handings : List Handing) : Decidable (ConfirmedButLast handings) :=
  inferInstanceAs (Decidable (∀ handing ∈ handings.dropLast, handing.result = .ok))

theorem Standing.single_iff (standing : Standing memory executing traced published) :
    (∀ handing ∈ traced.handings, handing.OneExecution memory published) ↔ ConfirmedButLast traced.handings := by
  cases standing with
  | idle inactive free confirmed single =>
    exact iff_of_true single fun handing member => confirmed handing (List.mem_of_mem_dropLast member)
  | filling active underway inFlight own confirmed single =>
    exact iff_of_true single fun handing member => confirmed handing (List.mem_of_mem_dropLast member)
  | full active full confirmed single =>
    exact iff_of_true single fun handing member => confirmed handing (List.mem_of_mem_dropLast member)
  | stale active wrote before older handed confirmed failed single =>
    refine iff_of_true single ?_
    rw [ConfirmedButLast,handed,List.dropLast_concat]
    exact confirmed
  | mixed refused notOk handed first second apart =>
    refine iff_of_false (fun single => ?_) fun confirmed => notOk (confirmed _ refused)
    obtain ⟨index,_,_,_,same⟩ := single _ handed
    exact apart ((same _ first).trans (same _ second).symm)

/-- An execution that ended stays published. -/
theorem Handing.OneExecution.publish {handing : Handing} (one : handing.OneExecution memory published) (event : Event) :
    handing.OneExecution memory (published.publish event) := by
  obtain ⟨index,execution,ended,record,own⟩ := one
  obtain ⟨added,grown⟩ := publish_ended published event
  refine ⟨index,execution,?_,record,own⟩
  rw [grown,List.getElem?_append_left (List.getElem?_eq_some_iff.mp ended).1]
  exact ended

theorem singles_publish (single : ∀ handing ∈ traced.handings, handing.OneExecution memory published) (event : Event) :
    ∀ handing ∈ traced.handings, handing.OneExecution memory (published.publish event) :=
  fun handing member => (single handing member).publish event

theorem handleTraced_aside (none : event.type ≠ .programExecutionStarted ∧ event.type ≠ .programExecutionStepStarted ∧
    event.type ≠ .programExecutionStepCompleted ∧ event.type ≠ .programExecutionTerminated) :
    handleTraced append memory traced event = traced := by
  obtain ⟨started,stepStarted,stepCompleted,terminated⟩ := none
  simp [handleTraced,programExecutionHistoryHandleEvent,started,stepStarted,stepCompleted,terminated]

theorem handleTraced_handings (append : HistoryAppend ρ) (memory : Memory) (traced : TracedHistory ρ) (event : Event) :
    ∃ added, (handleTraced append memory traced event).handings = traced.handings ++ added := by
  unfold handleTraced
  split
  · exact ⟨[],(List.append_nil _).symm⟩
  · exact ⟨[],(List.append_nil _).symm⟩
  · exact ⟨[],(List.append_nil _).symm⟩
  · exact ⟨[],(List.append_nil _).symm⟩
  · exact ⟨_,rfl⟩
  · exact ⟨[],(List.append_nil _).symm⟩

theorem mem_dropLast_append {α : Type*} {front added : List α} {element : α} (member : element ∈ front.dropLast) :
    element ∈ (front ++ added).dropLast := by
  cases added with
  | nil => simpa using member
  | cons head rest =>
    rw [List.dropLast_append_of_ne_nil (by simp)]
    exact List.mem_append_left _ (List.mem_of_mem_dropLast member)

theorem Standing.mixes {failed mixed : Handing} (refused : failed ∈ traced.handings.dropLast)
    (notOk : failed.result ≠ .ok) (handed : mixed ∈ traced.handings) {one other : Nat} (first : one ∈ mixed.writers)
    (second : other ∈ mixed.writers) (apart : one ≠ other) :
    Standing memory reached (handleTraced append memory traced event) (published.publish event) := by
  obtain ⟨added,grown⟩ := handleTraced_handings append memory traced event
  refine .mixed ?_ notOk ?_ first second apart
  · rw [grown]
    exact mem_dropLast_append refused
  · rw [grown]
    exact List.mem_append_left _ handed

theorem handleTraced_started_idle (type : event.type = .programExecutionStarted)
    (idle : traced.history.inFlight.active = false) : handleTraced append memory traced event =
      { traced with
        history := traced.history.filled (startedRecord memory event)
        executions := traced.executions + 1
        writers := [traced.executions + 1] } := by
  simp [handleTraced,programExecutionHistoryHandleEvent,type,idle]

theorem handleTraced_started_busy (type : event.type = .programExecutionStarted)
    (busy : traced.history.inFlight.active = true) :
    handleTraced append memory traced event = { traced with executions := traced.executions + 1 } := by
  simp [handleTraced,programExecutionHistoryHandleEvent,type,busy]

theorem handleTraced_step (append : HistoryAppend ρ) (memory : Memory)
    (type : event.type = .programExecutionStepStarted ∨ event.type = .programExecutionStepCompleted)
    (busy : traced.history.inFlight.active = true) : handleTraced append memory traced event =
      { traced with
        history := traced.history.filled (if event.type = .programExecutionStepStarted then
          traced.history.inFlight.record.stepStarted event else traced.history.inFlight.record.stepCompleted)
        writers := traced.writers ++ [traced.executions] } := by
  rcases type with type | type <;> simp [handleTraced,programExecutionHistoryHandleEvent,type,busy]

theorem handleTraced_terminated (type : event.type = .programExecutionTerminated)
    (busy : traced.history.inFlight.active = true) : handleTraced append memory traced event =
      { traced with
        history := (appendTerminalRecord append
          (traced.history.filled (traced.history.inFlight.record.terminated event))).2
        writers := traced.writers ++ [traced.executions]
        handings := traced.handings ++ handing append traced event } := by
  simp [handleTraced,programExecutionHistoryHandleEvent,type,busy]

theorem Standing.started (standing : Standing memory false traced published) (numbered : Numbered false traced published)
    (type : event.type = .programExecutionStarted) :
    Standing memory true (handleTraced append memory traced event) (published.publish event) := by
  have begun : published.publish event = { published with underway := some (event,[]) } := by
    have none : published.underway = none := by simpa using numbered.underway
    simp [PublishedExecutions.publish,type,none]
  cases standing with
  | idle inactive free confirmed single =>
    have later := singles_publish single event
    rw [begun] at later ⊢
    rw [handleTraced_started_idle type free]
    exact .filling rfl rfl rfl (by simp) confirmed later
  | filling active => contradiction
  | full active full confirmed single =>
    have later := singles_publish single event
    rw [handleTraced_started_busy type active]
    exact .full active full confirmed later
  | stale active wrote before older handed confirmed failed single =>
    have later := singles_publish single event
    rw [handleTraced_started_busy type active]
    exact .stale active wrote (Nat.le_succ_of_le before) (fun _ => Nat.lt_succ_of_le before) handed confirmed failed
      later
  | mixed refused notOk handed first second apart => exact .mixes refused notOk handed first second apart

theorem Standing.stepped (standing : Standing memory true traced published)
    (type : event.type = .programExecutionStepStarted ∨ event.type = .programExecutionStepCompleted) :
    Standing memory true (handleTraced append memory traced event) (published.publish event) := by
  cases standing with
  | idle inactive => contradiction
  | @filling _ started steps underway inFlight own confirmed single =>
    have busy : traced.history.inFlight.active = true := by rw [inFlight]
    have later := singles_publish single event
    have added : published.publish event = { published with underway := some (started,steps ++ [event]) } := by
      rcases type with type | type <;> simp [PublishedExecutions.publish,type,underway]
    rw [handleTraced_step append memory type busy,inFlight]
    refine .filling rfl (by rw [added]) ?_ ?_ confirmed later
    · rcases type with type | type
      · simp [ProgramExecutionHistory.filled,type,recordOf_stepStarted type]
      · simp [ProgramExecutionHistory.filled,type,recordOf_stepCompleted type]
    · intro writer wrote
      rcases List.mem_append.mp wrote with earlier | now
      · exact own writer earlier
      · exact List.mem_singleton.mp now
  | full active full confirmed single =>
    have later := singles_publish single event
    rw [handleTraced_step append memory type active]
    exact .full rfl full confirmed later
  | stale active wrote before older handed confirmed failed single =>
    have later := singles_publish single event
    rw [handleTraced_step append memory type active]
    exact .stale rfl (List.mem_append_left _ wrote) before older handed confirmed failed later
  | mixed refused notOk handed first second apart => exact .mixes refused notOk handed first second apart

/-- A record of one execution alone, on top of such records. -/
theorem oneExecution_concat {handings : List Handing} {new : Handing}
    (single : ∀ handing ∈ handings, handing.OneExecution memory published) (own : new.OneExecution memory published) :
    ∀ handing ∈ handings ++ [new], handing.OneExecution memory published := by
  intro handing member
  rcases List.mem_append.mp member with earlier | now
  · exact single handing earlier
  · rw [List.mem_singleton.mp now]
    exact own

/-- A terminated record is not handed for want of room, or it is handed; the repository's
answer decides whether it is stored or stays in flight. -/
inductive Terminating (append : HistoryAppend ρ) (event : Event) (traced next : TracedHistory ρ) : Prop
  | full (full : ¬next.history.records.length < irrigationMaxProgramHistoryRecords)
      (active : next.history.inFlight.active = true) (handings : next.handings = traced.handings)
      (records : next.history.records = traced.history.records) (context : next.history.context = traced.history.context)
  | handed {new : Handing} (record : new.record = traced.history.inFlight.record.terminated event)
      (written : new.writers = traced.writers ++ [traced.executions])
      (active : next.history.inFlight.active = true ↔ new.result ≠ .ok)
      (handings : next.handings = traced.handings ++ [new])
      (records : next.history.records = traced.history.records ++ if new.result = .ok then [new.record] else [])
      (answer : offer append traced.history.context new.record = (new.result,next.history.context))

theorem terminating (append : HistoryAppend ρ) (memory : Memory) (type : event.type = .programExecutionTerminated)
    (busy : traced.history.inFlight.active = true) :
    Terminating append event traced (handleTraced append memory traced event) := by
  rw [handleTraced_terminated type busy]
  have appending := appendTerminalRecord_cases append
    (rfl : (traced.history.filled (traced.history.inFlight.record.terminated event)).inFlight.active = true)
  have handed (space : traced.history.records.length < irrigationMaxProgramHistoryRecords) :
      handing append traced event = [⟨traced.history.inFlight.record.terminated event,traced.writers ++ [traced.executions],
        (appendTerminalRecord append (traced.history.filled (traced.history.inFlight.record.terminated event))).1⟩] :=
    if_pos space
  cases appending with
  | full full same =>
    have none : handing append traced event = [] := if_neg full
    rw [same]
    exact .full full rfl (by rw [none,List.append_nil]) rfl rfl
  | stored space offered same =>
    rw [handed space,same]
    exact .handed rfl rfl (by simp [ProgramExecutionHistory.stored,noRecordInFlight]) rfl
      (by simp [ProgramExecutionHistory.stored,ProgramExecutionHistory.filled]) offered
  | refused space failed offered same =>
    rw [handed space,same]
    exact .handed rfl rfl (iff_of_true rfl failed) rfl (by simp [failed,ProgramExecutionHistory.filled]) offered

theorem Standing.terminated (standing : Standing memory true traced published) (numbered : Numbered true traced published)
    (type : event.type = .programExecutionTerminated) :
    Standing memory false (handleTraced append memory traced event) (published.publish event) := by
  cases standing with
  | idle inactive => contradiction
  | @filling _ started steps underway inFlight own confirmed single =>
    have busy : traced.history.inFlight.active = true := by rw [inFlight]
    have later := singles_publish single event
    have ended : published.publish event = ⟨published.ended ++ [⟨started,steps,event⟩],none⟩ := by
      simp [PublishedExecutions.publish,type,underway]
    have written : (handleTraced append memory traced event).writers = traced.writers ++ [traced.executions] := by
      rw [handleTraced_terminated type busy]
    have count : (handleTraced append memory traced event).executions = traced.executions := by
      rw [handleTraced_terminated type busy]
    have all : ∀ writer ∈ traced.writers ++ [traced.executions], writer = traced.executions := by
      simpa [or_imp,forall_and] using own
    cases terminating append memory type busy with
    | full full active handings => refine .full active full ?_ ?_ <;> rw [handings] <;> assumption
    | @handed new record wrote active handings =>
      have one : new.OneExecution memory (published.publish event) := by
        refine ⟨published.ended.length,⟨started,steps,event⟩,by simp [ended],?_,?_⟩
        · rw [record,inFlight]
          rfl
        · have number : traced.executions = published.ended.length + 1 := numbered.count
          rw [wrote,← number]
          exact all
      have singles := oneExecution_concat later one
      by_cases ok : new.result = .ok
      · refine .idle rfl (by simpa [ok] using active) ?_ (by rw [handings]; exact singles)
        rw [handings]
        intro handing member
        rcases List.mem_append.mp member with earlier | now
        · exact confirmed handing earlier
        · rw [List.mem_singleton.mp now]
          exact ok
      · have wrote : traced.executions ∈ (handleTraced append memory traced event).writers := by
          rw [written]
          simp
        exact .stale (active.mpr ok) wrote (by rw [count]) (by simp) handings confirmed ok (by rw [handings]; exact singles)
  | full active full confirmed single =>
    have later := singles_publish single event
    cases terminating append memory type active with
    | full full active handings => refine .full active full ?_ ?_ <;> rw [handings] <;> assumption
    | handed _ wrote _ handings =>
      have none : handing append traced event = [] := if_neg full
      rw [handleTraced_terminated type active,none] at handings
      simp at handings
  | @stale active writer wrote before older front last handed confirmed failed single =>
    have later := singles_publish single event
    cases terminating append memory type active with
    | full full stays handings =>
      have still : writer ∈ (handleTraced append memory traced event).writers := by
        rw [handleTraced_terminated type active]
        exact List.mem_append_left _ wrote
      refine .stale stays still ?_ (by simp) (handings.trans handed) confirmed failed (by rw [handings]; exact later)
      · rw [handleTraced_terminated type active]
        exact before
    | @handed new _ written _ handings =>
      -- the older writer is still among those of the record, beside the execution that ends
      have refused : last ∈ (handleTraced append memory traced event).handings.dropLast := by
        rw [handings,handed,List.dropLast_concat]
        simp
      refine .mixed refused failed (handings ▸ List.mem_append_right _ (List.mem_singleton_self new)) ?_ ?_ (older rfl).ne
      · rw [written]
        exact List.mem_append_left _ wrote
      · rw [written]
        simp
  | mixed refused notOk handed first second apart => exact .mixes refused notOk handed first second apart

theorem Numbered.step (numbered : Numbered executing traced published) (proceeds : Proceeds event executing reached) :
    Numbered reached (handleTraced append memory traced event) (published.publish event) := by
  obtain ⟨count,underway⟩ := numbered
  cases proceeds with
  | aside none =>
    rw [handleTraced_aside none,publish_aside none]
    exact ⟨count,underway⟩
  | started type inactive =>
    subst inactive
    have none : published.underway = none := by simpa using underway
    have counted : (handleTraced append memory traced event).executions = traced.executions + 1 := by
      cases active : traced.history.inFlight.active with
      | false => rw [handleTraced_started_idle type active]
      | true => rw [handleTraced_started_busy type active]
    refine ⟨?_,by simp [PublishedExecutions.publish,type,none]⟩
    rw [counted,count]
    simp [PublishedExecutions.publish,type,none]
  | step type active =>
    subst active
    obtain ⟨⟨started,steps⟩,some⟩ := Option.isSome_iff_exists.mp underway
    have counted : (handleTraced append memory traced event).executions = traced.executions := by
      rcases type with type | type <;> cases active : traced.history.inFlight.active <;> simp [handleTraced,type,active]
    refine ⟨?_,?_⟩
    · rw [counted,count]
      rcases type with type | type <;> simp [PublishedExecutions.publish,type,some]
    · rcases type with type | type <;> simp [PublishedExecutions.publish,type,some]
  | terminated type active =>
    subst active
    obtain ⟨⟨started,steps⟩,some⟩ := Option.isSome_iff_exists.mp underway
    have counted : (handleTraced append memory traced event).executions = traced.executions := by
      cases active : traced.history.inFlight.active <;> simp [handleTraced,type,active]
    refine ⟨?_,by simp [PublishedExecutions.publish,type,some]⟩
    rw [counted,count]
    simp [PublishedExecutions.publish,type,some]

theorem Standing.step (standing : Standing memory executing traced published) (numbered : Numbered executing traced published)
    (proceeds : Proceeds event executing reached) :
    Standing memory reached (handleTraced append memory traced event) (published.publish event) := by
  cases proceeds with
  | aside none =>
    rw [handleTraced_aside none,publish_aside none]
    exact standing
  | started type inactive =>
    subst inactive
    exact standing.started numbered type
  | step type active =>
    subst active
    exact standing.stepped type
  | terminated type active =>
    subst active
    exact standing.terminated numbered type

/-- The handings are the calls of the repository, and the stored records are those that it took. -/
structure Accounted (append : HistoryAppend ρ) (context : ρ) (traced : TracedHistory ρ) : Prop where
  answers : offerAll append (traced.handings.map Handing.record) context =
    (traced.handings.map Handing.result,traced.history.context)
  records : traced.history.records = (traced.handings.filter (·.result = .ok)).map Handing.record

theorem Accounted.same {context : ρ} {next : TracedHistory ρ} (accounted : Accounted append context traced)
    (handings : next.handings = traced.handings) (records : next.history.records = traced.history.records)
    (left : next.history.context = traced.history.context) : Accounted append context next :=
  ⟨by rw [handings,left]; exact accounted.answers,by rw [handings,records]; exact accounted.records⟩

theorem Accounted.step {context : ρ} (accounted : Accounted append context traced)
    (proceeds : Proceeds event executing reached) : Accounted append context (handleTraced append memory traced event) := by
  cases active : traced.history.inFlight.active with
  | false =>
    cases proceeds with
    | aside none => rwa [handleTraced_aside none]
    | started type =>
      rw [handleTraced_started_idle type active]
      exact accounted.same rfl rfl rfl
    | step type =>
      refine accounted.same ?_ ?_ ?_ <;> rcases type with type | type <;>
        simp [handleTraced,programExecutionHistoryHandleEvent,type,active]
    | terminated type =>
      refine accounted.same ?_ ?_ ?_ <;> simp [handleTraced,programExecutionHistoryHandleEvent,type,active]
  | true =>
    cases proceeds with
    | aside none => rwa [handleTraced_aside none]
    | started type =>
      rw [handleTraced_started_busy type active]
      exact accounted.same rfl rfl rfl
    | step type =>
      rw [handleTraced_step append memory type active]
      exact accounted.same rfl rfl rfl
    | terminated type =>
      cases terminating append memory type active with
      | full _ _ handings records left => exact accounted.same handings records left
      | @handed new _ _ _ handings records answer =>
        refine ⟨?_,?_⟩
        · rw [handings,List.map_append,List.map_append]
          change offerAll append (_ ++ [new.record]) context = (_ ++ [new.result],_)
          rw [offerAll_concat,accounted.answers,answer]
        · rw [records,handings,accounted.records,List.filter_append,List.map_append]
          by_cases ok : new.result = .ok <;> simp [ok]

end Handling

section Runs

variable {ε ρ : Type} (drivers : Drivers ε) (append : HistoryAppend ρ)

/-- The history that was subscribed to the event bus when the world was fresh. -/
def World.history (context : ρ) (world : World ε) : ProgramExecutionHistory ρ :=
  handleEvents append world.memory (programExecutionHistoryInit context) world.events

def World.traced (context : ρ) (world : World ε) : TracedHistory ρ := traceEvents append world.memory context world.events

theorem traced_history (context : ρ) (world : World ε) :
    (world.traced append context).history = world.history append context := traceEvents_history context _

/-- Each record that was handed to the repository, and each that is stored, is that of one
execution that was published. -/
def World.OneExecutionEach (context : ρ) (world : World ε) : Prop :=
  (∀ handing ∈ (world.traced append context).handings,
    handing.OneExecution world.memory (publishedExecutions world.events)) ∧
  ∀ record ∈ (world.history append context).records, ∃ handing ∈ (world.traced append context).handings,
    handing.record = record ∧ handing.OneExecution world.memory (publishedExecutions world.events)

/-- The records of a run are those of one execution each, in every field, exactly when the repository refuses
none but the last that it is handed. What it is handed are the calls that it answered. -/
theorem record_of_one_execution_iff {world : World ε} (inactive : world.store.program.state.active = false)
    (silent : world.events = []) (context : ρ) (commands : List Command) :
    let reached := run drivers commands world
    let handings := (reached.traced append context).handings
    (reached.OneExecutionEach append context ↔ ConfirmedButLast handings) ∧
      offerAll append (handings.map Handing.record) context =
        (handings.map Handing.result,(reached.history append context).context) := by
  intro reached handings
  have initially : world.Follows := by rw [World.Follows,World.told,silent,inactive]; rfl
  have follows : reached.Follows :=
    Runs.invariant_after (fun command world => operate_follows drivers command world) initially commands
  have accounted : Accounted append context (reached.traced append context) :=
    foldl_proceeds (handleTraced append _) (fun _ traced => Accounted append context traced)
      (fun accounted proceeds => accounted.step proceeds) _ ⟨rfl,rfl⟩ follows
  have standing : Standing reached.memory reached.store.program.state.active (reached.traced append context)
      (publishedExecutions reached.events) :=
    (foldl_proceeds_both (handleTraced append reached.memory) PublishedExecutions.publish
      (fun executing traced published => Standing reached.memory executing traced published ∧
        Numbered executing traced published)
      (fun both proceeds => ⟨both.1.step both.2 proceeds,both.2.step proceeds⟩) reached.events
      ⟨.idle rfl rfl (by simp) (by simp),rfl,rfl⟩ follows).1
  refine ⟨?_,?_⟩
  · rw [← standing.single_iff]
    refine and_iff_left_of_imp fun single record member => ?_
    rw [← traced_history,accounted.records,List.mem_map] at member
    obtain ⟨handing,took,rfl⟩ := member
    have handed := (List.mem_filter.mp took).1
    exact ⟨handing,handed,rfl,single handing handed⟩
  · rw [← traced_history]
    exact accounted.answers

end Runs

/-- A repository whose first appends fail. -/
def failingAppend : HistoryAppend Nat := some fun failures _ =>
  match failures with
  | 0 => (.ok,0)
  | failures + 1 => (.internalError,failures)

/-- A repository that keeps what it is handed. -/
def keepingAppend : HistoryAppend (List ProgramExecutionHistoryRecord) := some fun kept record => (.ok,kept ++ [record])

/-- A repository with room for so many records. -/
def smallAppend : HistoryAppend Nat := some fun room _ =>
  match room with
  | 0 => (.rejected,0)
  | room + 1 => (.ok,room)

/-- Two executions, the second cut short in its first step; the repository takes the first and refuses the second. -/
theorem record_of_one_execution_iff_failing :
    (run quietDrivers [.programStart (some 0),.programAbort,.programStart (some 0),.programProcess,.programAbort]
      (devWorld devProgram)).OneExecutionEach smallAppend 1 :=
  (record_of_one_execution_iff quietDrivers smallAppend (by decide) rfl 1 _).1.mpr (by decide)

/-- Two executions that are aborted; the append of the first fails, and the second is
written into its record. -/
theorem record_not_of_one_execution : ¬∀ {ε ρ : Type} (drivers : Drivers ε) (append : HistoryAppend ρ) (world : World ε),
    world.store.program.state.active = false → world.events = [] → ∀ (context : ρ) (commands : List Command),
      (run drivers commands world).OneExecutionEach append context := by
  intro always
  obtain ⟨single,_⟩ := always quietDrivers failingAppend (devWorld devProgram) (by decide) rfl 1
    [.programStart (some 0),.programAbort,.programStart (some 0),.programAbort]
  have last : (⟨_,[1,1,2],.ok⟩ : Handing) ∈ ((run quietDrivers [.programStart (some 0),.programAbort,
      .programStart (some 0),.programAbort] (devWorld devProgram)).traced failingAppend 1).handings :=
    List.mem_cons_of_mem _ (List.mem_cons_self)
  obtain ⟨index,_,_,_,same⟩ := single _ last
  have first := same 1 (by simp)
  have second := same 2 (by simp)
  omega

end Irrigation
