import Irrigation.HistoryRecords

/-! The records that the history keeps of the executions that were published: every one up to
its capacity. -/
namespace Irrigation

section Keeping

variable {ρ : Type} {append : HistoryAppend ρ} {memory : Memory} {history : ProgramExecutionHistory ρ}
  {published : PublishedExecutions} {event : Event} {executing reached : Bool}

/-- The repository takes every record. -/
def Succeeds (append : HistoryAppend ρ) : Prop :=
  ∀ function, append = some function → ∀ context record, (function context record).1 = .ok

theorem appendTerminalRecord_succeeds (succeeds : Succeeds append) (active : history.inFlight.active = true)
    (space : history.records.length < irrigationMaxProgramHistoryRecords) :
    ∃ context, appendTerminalRecord append history = (.ok,history.stored context space) := by
  rw [appendTerminalRecord,dif_pos ⟨active,space⟩]
  cases append with
  | none => exact ⟨_,rfl⟩
  | some function =>
    have took := succeeds function rfl history.context history.inFlight.record
    cases answer : function history.context history.inFlight.record with
    | mk result context =>
      rw [answer] at took
      cases took
      exact ⟨context,by simp only [answer]⟩

/-- A full history takes no further record. -/
theorem handleEvent_full (append : HistoryAppend ρ) (memory : Memory) (event : Event)
    (full : ¬history.records.length < irrigationMaxProgramHistoryRecords) :
    (programExecutionHistoryHandleEvent append memory history event).records = history.records := by
  unfold programExecutionHistoryHandleEvent
  split
  · rfl
  · rfl
  · rfl
  · rw [appendTerminalRecord,dif_neg fun both => full both.2]
    rfl
  · rfl

/-- The history beside the executions: it keeps a record of each and fills in that of the
one underway, or more have ended than it has room for. -/
inductive Abreast (memory : Memory) (executing : Bool) (history : ProgramExecutionHistory ρ)
    (published : PublishedExecutions) : Prop
  | idle (inactive : executing = false) (underway : published.underway = none)
      (inFlight : history.inFlight.active = false)
      (records : history.records = published.ended.map (ExecutionEvents.record memory))
  | filling (active : executing = true) {started : Event} {steps : List Event}
      (underway : published.underway = some (started,steps))
      (inFlight : history.inFlight = ⟨true,recordOf memory started steps⟩)
      (records : history.records = published.ended.map (ExecutionEvents.record memory))
  | exceeded (more : irrigationMaxProgramHistoryRecords < published.ended.length)
      (records : history.records =
        (published.ended.take irrigationMaxProgramHistoryRecords).map (ExecutionEvents.record memory))

theorem Abreast.exceeds (more : irrigationMaxProgramHistoryRecords < published.ended.length)
    (records : history.records =
      (published.ended.take irrigationMaxProgramHistoryRecords).map (ExecutionEvents.record memory)) :
    Abreast memory reached (programExecutionHistoryHandleEvent append memory history event) (published.publish event) := by
  obtain ⟨added,grown⟩ := publish_ended published event
  have full : ¬history.records.length < irrigationMaxProgramHistoryRecords := by
    rw [records,List.length_map,List.length_take]
    omega
  refine .exceeded ?_ ?_
  · rw [grown,List.length_append]
    omega
  · rw [handleEvent_full append memory event full,records,grown,List.take_append_of_le_length (by omega)]

theorem Abreast.started (abreast : Abreast memory false history published)
    (type : event.type = .programExecutionStarted) :
    Abreast memory true (programExecutionHistoryHandleEvent append memory history event) (published.publish event) := by
  cases abreast with
  | idle _ underway inFlight records =>
    have handled : programExecutionHistoryHandleEvent append memory history event =
        history.filled (recordOf memory event []) := by
      simp [programExecutionHistoryHandleEvent,type,inFlight,recordOf_nil]
    have begun : published.publish event = { published with underway := some (event,[]) } := by
      simp [PublishedExecutions.publish,type,underway]
    rw [handled,begun]
    exact .filling rfl rfl rfl records
  | filling active => contradiction
  | exceeded more records => exact .exceeds more records

theorem Abreast.stepped (abreast : Abreast memory true history published)
    (type : event.type = .programExecutionStepStarted ∨ event.type = .programExecutionStepCompleted) :
    Abreast memory true (programExecutionHistoryHandleEvent append memory history event) (published.publish event) := by
  cases abreast with
  | idle inactive => contradiction
  | @filling _ started steps underway inFlight records =>
    have added : published.publish event = { published with underway := some (started,steps ++ [event]) } := by
      rcases type with type | type <;> simp [PublishedExecutions.publish,type,underway]
    have handled : programExecutionHistoryHandleEvent append memory history event =
        history.filled (recordOf memory started (steps ++ [event])) := by
      rcases type with type | type
      · simp [programExecutionHistoryHandleEvent,type,inFlight,recordOf_stepStarted type]
      · simp [programExecutionHistoryHandleEvent,type,inFlight,recordOf_stepCompleted type]
    rw [added,handled]
    exact .filling rfl rfl rfl records
  | exceeded more records => exact .exceeds more records

theorem Abreast.terminated (succeeds : Succeeds append) (abreast : Abreast memory true history published)
    (type : event.type = .programExecutionTerminated) :
    Abreast memory false (programExecutionHistoryHandleEvent append memory history event) (published.publish event) := by
  cases abreast with
  | idle inactive => contradiction
  | @filling _ started steps underway inFlight records =>
    obtain ⟨filled,filledEq⟩ : ∃ filled, filled = history.filled ((recordOf memory started steps).terminated event) := ⟨_,rfl⟩
    have handled : programExecutionHistoryHandleEvent append memory history event =
        (appendTerminalRecord append filled).2 := by
      simp [programExecutionHistoryHandleEvent,type,inFlight,filledEq]
    have ended : published.publish event = ⟨published.ended ++ [⟨started,steps,event⟩],none⟩ := by
      simp [PublishedExecutions.publish,type,underway]
    have active : filled.inFlight.active = true := by rw [filledEq]; rfl
    have kept : filled.records = history.records := by rw [filledEq]; rfl
    have record : filled.inFlight.record = ExecutionEvents.record memory ⟨started,steps,event⟩ := by rw [filledEq]; rfl
    rw [handled,ended]
    by_cases space : filled.records.length < irrigationMaxProgramHistoryRecords
    · obtain ⟨context,appended⟩ := appendTerminalRecord_succeeds succeeds active space
      rw [appended]
      refine .idle rfl rfl rfl ?_
      simp only [ProgramExecutionHistory.stored,kept,record,records,List.map_append,List.map_cons,List.map_nil]
    · -- the sixteen records that are kept are those of the executions before this one
      have count : published.ended.length = irrigationMaxProgramHistoryRecords := by
        have room := filled.room
        rw [kept,records,List.length_map] at space room
        omega
      rw [appendTerminalRecord,dif_neg fun both => space both.2]
      refine .exceeded ?_ ?_
      · rw [List.length_append,count]
        exact Nat.lt_succ_self _
      · rw [kept,records,← count,List.take_left]
  | exceeded more records => exact .exceeds more records

theorem Abreast.step (succeeds : Succeeds append) (abreast : Abreast memory executing history published)
    (proceeds : Proceeds event executing reached) : Abreast memory reached
      (programExecutionHistoryHandleEvent append memory history event) (published.publish event) := by
  cases proceeds with
  | aside none =>
    obtain ⟨started,stepStarted,stepCompleted,terminated⟩ := none
    have still : programExecutionHistoryHandleEvent append memory history event = history ∧
        published.publish event = published := by
      simp [programExecutionHistoryHandleEvent,PublishedExecutions.publish,started,stepStarted,stepCompleted,terminated]
    rw [still.1,still.2]
    exact abreast
  | started type inactive =>
    subst inactive
    exact abreast.started type
  | step type active =>
    subst active
    exact abreast.stepped type
  | terminated type active =>
    subst active
    exact abreast.terminated succeeds type

theorem Abreast.of_room (abreast : Abreast memory executing history published)
    (room : published.ended.length ≤ irrigationMaxProgramHistoryRecords) : history.inFlight.active = executing := by
  cases abreast with
  | idle inactive _ inFlight => rw [inFlight,inactive]
  | filling active _ inFlight => rw [inFlight,active]
  | exceeded more => omega

theorem Abreast.records (abreast : Abreast memory executing history published) : history.records =
    (published.ended.take irrigationMaxProgramHistoryRecords).map (ExecutionEvents.record memory) := by
  have whole : history.records = published.ended.map (ExecutionEvents.record memory) → history.records =
      (published.ended.take irrigationMaxProgramHistoryRecords).map (ExecutionEvents.record memory) := by
    intro records
    have room := history.room
    rw [records,List.length_map] at room
    rw [records,List.take_of_length_le room]
  cases abreast with
  | idle _ _ _ records => exact whole records
  | filling _ _ _ records => exact whole records
  | exceeded _ records => exact records

end Keeping

section Runs

variable {ε ρ : Type} (drivers : Drivers ε) (append : HistoryAppend ρ) (context : ρ)

theorem history_abreast (succeeds : Succeeds append) {world : World ε} (follows : world.Follows) :
    Abreast world.memory world.store.program.state.active (world.history append context)
      (publishedExecutions world.events) := by
  have initially : Abreast world.memory false (programExecutionHistoryInit context) ⟨[],none⟩ := .idle rfl rfl rfl rfl
  exact foldl_proceeds_both (programExecutionHistoryHandleEvent append world.memory) PublishedExecutions.publish
    (Abreast world.memory) (fun abreast proceeds => abreast.step succeeds proceeds)
    world.events initially follows

/-- Up to the capacity, the record in flight is active exactly while a program is; the first
executions to end have their records from then on. -/
def World.Recorded (world : World ε) : Prop :=
  ((publishedExecutions world.events).ended.length ≤ irrigationMaxProgramHistoryRecords →
    (world.history append context).inFlight.active = programIsActive world.store) ∧
  ∀ index < irrigationMaxProgramHistoryRecords, ∀ execution,
    (publishedExecutions world.events).ended[index]? = some execution →
      programExecutionHistoryRecordAt (world.history append context) index = some (execution.record world.memory)

theorem history_records_executions (succeeds : Succeeds append) {world : World ε}
    (inactive : world.store.program.state.active = false) (silent : world.events = []) (commands : List Command) :
    Runs.Throughout (operate drivers) (World.Recorded append context) commands world := by
  have initially : world.Follows := by rw [World.Follows,World.told,silent,inactive]; rfl
  intro done todo split
  have follows : (Runs.after (operate drivers) done world).Follows :=
    Runs.invariant_after (fun command world => operate_follows drivers command world) initially done
  have abreast := history_abreast append context succeeds follows
  refine ⟨fun room => ?_,fun index within execution ended => ?_⟩
  · rw [programIsActive_eq]
    exact abreast.of_room room
  · rw [programExecutionHistoryRecordAt,abreast.records,List.getElem?_map,List.getElem?_take_of_lt within,ended]
    rfl

/-- The record in flight is active exactly while a program is, and every execution that
ended has its record. -/
def World.KeepsUp (world : World ε) : Prop :=
  (world.history append context).inFlight.active = programIsActive world.store ∧
  ∀ execution ∈ (publishedExecutions world.events).ended, ∃ index,
    programExecutionHistoryRecordAt (world.history append context) index = some (execution.record world.memory)

end Runs

/-- The clock advances at every reading. -/
def tickingDrivers : Drivers UInt64 where
  perform := fun _ now => (.ok,now)
  nowMs := fun now => (now,now + 1)

/-- Two executions that are aborted, the first in its first step, and one underway. -/
def severalExecutions : List Command :=
  [.programStart (some 0),.programProcess,.programAbort,.programStart (some 0),.programAbort,.programStart (some 0)]

theorem history_records_executions_several : Runs.Throughout (operate tickingDrivers)
      (World.Recorded keepingAppend []) severalExecutions (devWorld devProgram) ∧
    (publishedExecutions (run tickingDrivers severalExecutions (devWorld devProgram)).events).ended.length = 2 := by
  refine ⟨history_records_executions tickingDrivers keepingAppend [] ?_ (by decide) rfl _,by decide +kernel⟩
  rintro _ ⟨⟩ _ _
  rfl

/-- Programs that are started and aborted, one more than there are records. -/
def abortedStarts : List Command := (List.replicate 17 [.programStart (some 0),.programAbort]).flatten

set_option maxRecDepth 8000 in
/-- The seventeenth execution has no record. -/
theorem history_not_keeping_up : ¬∀ {ε ρ : Type} (drivers : Drivers ε) (append : HistoryAppend ρ) (context : ρ)
    (world : World ε), Succeeds append → world.store.program.state.active = false → world.events = [] →
      ∀ commands : List Command, Runs.Throughout (operate drivers) (World.KeepsUp append context) commands world := by
  intro always
  have keeps := always tickingDrivers none () (devWorld devProgram) (fun _ absent => nomatch absent) (by decide) rfl
    abortedStarts abortedStarts [] (List.append_nil _).symm
  have unrecorded : ∃ execution ∈ (publishedExecutions (run tickingDrivers abortedStarts (devWorld devProgram)).events).ended,
      execution.record (devWorld devProgram).memory ∉
        ((run tickingDrivers abortedStarts (devWorld devProgram)).history none ()).records := by
    decide +kernel
  obtain ⟨execution,ended,missing⟩ := unrecorded
  obtain ⟨index,available⟩ := keeps.2 execution ended
  exact missing (List.mem_of_getElem? available)

end Irrigation
