import Irrigation.Services

/-! The execution history: a record in flight that the events of the program service fill
in, handed to a repository and stored when the execution terminates. -/
namespace Irrigation

abbrev irrigationMaxProgramHistoryRecords : Nat := 16
abbrev irrigationProgramHistoryIdMaxLength : Nat := 48

abbrev HistoryText := CharArray irrigationProgramHistoryIdMaxLength

structure ProgramExecutionTimestamp where
  valueMs : UInt64
  valid : Bool
  deriving DecidableEq, Repr

structure ProgramExecutionHistoryRecord where
  programId : HistoryText
  origin : ProgramExecutionOrigin
  scheduleId : HistoryText
  scheduleIdValid : Bool
  startedAt : ProgramExecutionTimestamp
  endedAt : ProgramExecutionTimestamp
  plannedDurationMs : UInt32
  actualDurationMs : UInt64
  result : ProgramExecutionResult
  stepsStarted : Nat
  stepsCompleted : Nat
  lastActiveZoneId : HistoryText
  lastActiveZoneIdValid : Bool
  deriving DecidableEq, Repr

structure ProgramExecutionHistoryInFlight where
  active : Bool
  record : ProgramExecutionHistoryRecord
  deriving DecidableEq, Repr

/-- `repository.append`, over an arbitrary context; NULL is `none`. -/
abbrev HistoryAppend (ρ : Type) := Option (ρ → ProgramExecutionHistoryRecord → IrrigationResult × ρ)

/-- `records` is the array up to `record_count`. -/
structure ProgramExecutionHistory (ρ : Type) where
  context : ρ
  inFlight : ProgramExecutionHistoryInFlight
  records : List ProgramExecutionHistoryRecord
  room : records.length ≤ irrigationMaxProgramHistoryRecords

def zeroedRecord : ProgramExecutionHistoryRecord :=
  ⟨.empty,.manual,.empty,false,⟨0,false⟩,⟨0,false⟩,0,0,.completed,0,0,.empty,false⟩

def noRecordInFlight : ProgramExecutionHistoryInFlight := ⟨false,zeroedRecord⟩

def programExecutionHistoryInit {ρ : Type} (context : ρ) : ProgramExecutionHistory ρ :=
  ⟨context,noRecordInFlight,[],by simp⟩

/-- `copy_id`; NULL gives the empty text. -/
def copyId (source : Option CString) : HistoryText :=
  match source with
  | none => .empty
  | some source => copyText source

/-- The program fields of an event; a zone event leaves them zeroed. -/
def Event.programFields (event : Event) : ProgramEvent := event.program.getD ⟨none,⟨.manual,none⟩,.completed,0,0⟩

section Handling

variable {ρ : Type} (append : HistoryAppend ρ) (memory : Memory)

/-- The store of a record that the repository took. -/
def ProgramExecutionHistory.stored (history : ProgramExecutionHistory ρ) (context : ρ)
    (space : history.records.length < irrigationMaxProgramHistoryRecords) : ProgramExecutionHistory ρ where
  context := context
  inFlight := noRecordInFlight
  records := history.records ++ [history.inFlight.record]
  room := by rw [List.length_append]; exact space

def appendTerminalRecord (history : ProgramExecutionHistory ρ) : IrrigationResult × ProgramExecutionHistory ρ :=
  if space : history.inFlight.active = true ∧ history.records.length < irrigationMaxProgramHistoryRecords then
    match append with
    | none => (.ok,history.stored history.context space.2)
    | some append =>
      match append history.context history.inFlight.record with
      | (.ok,context) => (.ok,history.stored context space.2)
      | (failure,context) => (failure,{ history with context })
  else (.rejected,history)

/-- The record that a start begins. -/
def startedRecord (event : Event) : ProgramExecutionHistoryRecord :=
  { zeroedRecord with
    origin := event.programFields.startContext.origin
    startedAt := ⟨event.timestampMs,true⟩
    plannedDurationMs := event.programFields.plannedDurationMs
    programId := copyId event.programFields.programId
    scheduleIdValid := event.programFields.startContext.scheduleId.isSome
    scheduleId := copyId (event.programFields.startContext.scheduleId.map memory.text) }

def ProgramExecutionHistoryRecord.stepStarted (record : ProgramExecutionHistoryRecord) (event : Event) :
    ProgramExecutionHistoryRecord :=
  { record with
    stepsStarted := record.stepsStarted + 1
    lastActiveZoneIdValid := event.zoneId.isSome
    lastActiveZoneId := if event.zoneId.isSome then copyId event.zoneId else record.lastActiveZoneId }

def ProgramExecutionHistoryRecord.stepCompleted (record : ProgramExecutionHistoryRecord) :
    ProgramExecutionHistoryRecord := { record with stepsCompleted := record.stepsCompleted + 1 }

def ProgramExecutionHistoryRecord.terminated (record : ProgramExecutionHistoryRecord) (event : Event) :
    ProgramExecutionHistoryRecord :=
  { record with
    endedAt := ⟨event.timestampMs,true⟩
    actualDurationMs := event.timestampMs - record.startedAt.valueMs
    result := event.programFields.executionResult }

/-- The history with its record in flight changed. -/
def ProgramExecutionHistory.filled (history : ProgramExecutionHistory ρ) (record : ProgramExecutionHistoryRecord) :
    ProgramExecutionHistory ρ := { history with inFlight := ⟨true,record⟩ }

def programExecutionHistoryHandleEvent (history : ProgramExecutionHistory ρ) (event : Event) :
    ProgramExecutionHistory ρ :=
  match event.type, history.inFlight.active with
  | .programExecutionStarted, false => history.filled (startedRecord memory event)
  | .programExecutionStepStarted, true => history.filled (history.inFlight.record.stepStarted event)
  | .programExecutionStepCompleted, true => history.filled history.inFlight.record.stepCompleted
  | .programExecutionTerminated, true =>
    (appendTerminalRecord append (history.filled (history.inFlight.record.terminated event))).2
  | _, _ => history

/-- The history after the events that were published. -/
def handleEvents (history : ProgramExecutionHistory ρ) (events : List Event) : ProgramExecutionHistory ρ :=
  events.foldl (programExecutionHistoryHandleEvent append memory) history

def programExecutionHistoryRecordAt (history : ProgramExecutionHistory ρ) (index : Nat) :
    Option ProgramExecutionHistoryRecord := history.records[index]?

end Handling

end Irrigation
