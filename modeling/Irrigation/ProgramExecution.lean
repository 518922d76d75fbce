import Irrigation.DeviceInvariants
import Irrigation.ProgramExits
import Mathlib.Data.List.TakeDrop

/-! The execution of a program against its step list. An abstract stage says how far
the watering has come and since when; every poll of the services is a move of the
stage, and the driver calls are those of the stage reached. -/
namespace Irrigation

/-! ### The abstract execution -/

/-- How far an execution has come, with the time of the last switch where it matters. -/
inductive Stage where
  | opening (sinceMs : UInt64)
  | watering (index : Nat) (sinceMs : UInt64)
  | delaying (sinceMs : UInt64)
  | done
  deriving DecidableEq, Repr

def switchOn (output : Fin irrigationMaxOutputs) : DriverCall := ⟨.setOutput output true,.ok⟩

def switchOff (output : Fin irrigationMaxOutputs) : DriverCall := ⟨.setOutput output false,.ok⟩

/-- The calls that water the outputs one after another. -/
def wateringCalls (outputs : List (Fin irrigationMaxOutputs)) : List DriverCall :=
  outputs.flatMap fun output => [switchOn output,switchOff output]

/-- The calls of a whole execution. -/
def programCalls (outputs : List (Fin irrigationMaxOutputs)) : List DriverCall :=
  ⟨.openAndConfirm,.ok⟩ :: wateringCalls outputs ++ [⟨.closeAndConfirm,.ok⟩]

/-- The calls issued when a stage is reached. -/
def Stage.calls (outputs : List (Fin irrigationMaxOutputs)) : Stage → List DriverCall
  | .opening _ => [⟨.openAndConfirm,.ok⟩]
  | .watering index _ => ⟨.openAndConfirm,.ok⟩ :: wateringCalls (outputs.take index) ++
      (outputs[index]?.map switchOn).toList
  | .delaying _ => ⟨.openAndConfirm,.ok⟩ :: wateringCalls outputs
  | .done => programCalls outputs

/-- The time since which the valve opens, a step waters or the end of the program is delayed. -/
def Stage.sinceMs : Stage → Option UInt64
  | .opening sinceMs | .watering _ sinceMs | .delaying sinceMs => some sinceMs
  | .done => none

/-- The moves of one poll of the program at a time. -/
inductive Stage.Move (program : Program) (preOpenDelayMs : UInt32) (nowMs : UInt64) : Stage → Stage → Prop
  | wait {sinceMs : UInt64} (early : nowMs.toNat < sinceMs.toNat + preOpenDelayMs.toNat) :
      Move program preOpenDelayMs nowMs (.opening sinceMs) (.opening sinceMs)
  | enter {sinceMs : UInt64} (elapsed : sinceMs.toNat + preOpenDelayMs.toNat ≤ nowMs.toNat) :
      Move program preOpenDelayMs nowMs (.opening sinceMs) (.watering 0 nowMs)
  | water {index : Nat} {sinceMs : UInt64}
      (early : nowMs.toNat < sinceMs.toNat + (program.step index).durationMs.toNat) :
      Move program preOpenDelayMs nowMs (.watering index sinceMs) (.watering index sinceMs)
  | advance {index : Nat} {sinceMs : UInt64}
      (elapsed : sinceMs.toNat + (program.step index).durationMs.toNat ≤ nowMs.toNat)
      (more : index + 1 < program.steps.length) :
      Move program preOpenDelayMs nowMs (.watering index sinceMs) (.watering (index + 1) nowMs)
  | finish {index : Nat} {sinceMs : UInt64}
      (elapsed : sinceMs.toNat + (program.step index).durationMs.toNat ≤ nowMs.toNat)
      (last : index + 1 = program.steps.length) :
      Move program preOpenDelayMs nowMs (.watering index sinceMs) (.delaying nowMs)
  | delay {sinceMs : UInt64} (early : nowMs.toNat < sinceMs.toNat + program.postProgramDelayMs.toNat) :
      Move program preOpenDelayMs nowMs (.delaying sinceMs) (.delaying sinceMs)
  | complete {sinceMs : UInt64} (elapsed : sinceMs.toNat + program.postProgramDelayMs.toNat ≤ nowMs.toNat) :
      Move program preOpenDelayMs nowMs (.delaying sinceMs) .done
  | stay : Move program preOpenDelayMs nowMs .done .done

/-- A stage of an execution with that many outputs. -/
def Stage.Inside (outputs : List (Fin irrigationMaxOutputs)) : Stage → Prop
  | .watering index _ => index < outputs.length
  | _ => True

@[simp] theorem wateringCalls_length (outputs : List (Fin irrigationMaxOutputs)) :
    (wateringCalls outputs).length = 2 * outputs.length := by
  induction outputs with
  | nil => rfl
  | cons output rest ih =>
    simp only [wateringCalls,List.flatMap_cons,List.length_append] at ih ⊢
    simp [ih]
    omega

theorem wateringCalls_take_succ {outputs : List (Fin irrigationMaxOutputs)} {index : Nat}
    (inside : index < outputs.length) :
    wateringCalls (outputs.take (index + 1)) =
      wateringCalls (outputs.take index) ++ [switchOn outputs[index],switchOff outputs[index]] := by
  rw [List.take_succ_eq_append_getElem inside,wateringCalls,List.flatMap_append]
  simp [wateringCalls]

theorem wateringCalls_split (outputs : List (Fin irrigationMaxOutputs)) (index : Nat) :
    wateringCalls outputs = wateringCalls (outputs.take index) ++ wateringCalls (outputs.drop index) := by
  rw [wateringCalls,wateringCalls,wateringCalls,← List.flatMap_append,List.take_append_drop]

theorem Stage.calls_watering {outputs : List (Fin irrigationMaxOutputs)} {index : Nat}
    (inside : index < outputs.length) (sinceMs : UInt64) :
    (Stage.watering index sinceMs).calls outputs =
      ⟨.openAndConfirm,.ok⟩ :: wateringCalls (outputs.take index) ++ [switchOn outputs[index]] := by
  simp [Stage.calls,List.getElem?_eq_getElem inside]

/-- The calls of a stage begin the calls of the whole execution. -/
theorem Stage.calls_isPrefix {outputs : List (Fin irrigationMaxOutputs)} (stage : Stage) (inside : stage.Inside outputs) :
    stage.calls outputs <+: programCalls outputs := by
  cases stage with
  | opening sinceMs => exact ⟨wateringCalls outputs ++ [⟨.closeAndConfirm,.ok⟩],rfl⟩
  | watering index sinceMs =>
    have inside : index < outputs.length := inside
    rw [Stage.calls_watering inside]
    refine ⟨switchOff outputs[index] :: wateringCalls (outputs.drop (index + 1)) ++ [⟨.closeAndConfirm,.ok⟩],?_⟩
    rw [programCalls,wateringCalls_split outputs (index + 1),wateringCalls_take_succ inside]
    simp
  | delaying sinceMs => exact ⟨[⟨.closeAndConfirm,.ok⟩],rfl⟩
  | done => exact List.prefix_refl _

theorem Stage.calls_length {outputs : List (Fin irrigationMaxOutputs)} (stage : Stage) (inside : stage.Inside outputs) :
    (stage.calls outputs).length = match stage with
      | .opening _ => 1
      | .watering index _ => 2 * index + 2
      | .delaying _ => 2 * outputs.length + 1
      | .done => 2 * outputs.length + 2 := by
  cases stage with
  | opening => rfl
  | watering index sinceMs =>
    have inside : index < outputs.length := inside
    rw [Stage.calls_watering inside]
    simp [Nat.min_eq_left inside.le]
  | delaying sinceMs => simp [Stage.calls]
  | done => simp [Stage.calls,programCalls]

/-! ### The zones of an execution -/

/-- The output of the zone that a step names. -/
def outputOf (store : RuntimeState) (zoneId : Option CString) : Option (Fin irrigationMaxOutputs) :=
  (zoneId.bind store.zones.findZone).map (·.outputIndex)

/-- The same zones with the same outputs, none of them newly disabled. -/
structure SameZones (before after : RuntimeState) : Prop where
  outputs : outputOf after = outputOf before
  enabled : ∀ zoneId, EnabledZone before zoneId → EnabledZone after zoneId

theorem SameZones.of_eq {before after : RuntimeState} (same : after.zones = before.zones) :
    SameZones before after := by
  constructor
  · funext zoneId
    simp only [outputOf,same]
  · intro zoneId enabled
    simpa only [EnabledZone,same] using enabled

theorem SameZones.trans {first second third : RuntimeState} (front : SameZones first second)
    (back : SameZones second third) : SameZones first third :=
  ⟨back.outputs.trans front.outputs,fun zoneId enabled => back.enabled zoneId (front.enabled zoneId enabled)⟩

theorem SameZones.update {before after : RuntimeState} {id : CString} {zone : ZoneRuntimeState}
    (found : before.zones.findZone id = some zone) {status : ZoneStatus → ZoneStatus}
    (enabled : (status zone.toZoneStatus).state ≠ .disabled)
    (changed : after.zones = before.zones.update id status) : SameZones before after := by
  constructor
  · funext zoneId
    cases zoneId with
    | none => rfl
    | some other =>
      by_cases same : other = id
      · subst same
        simp [outputOf,changed,found,ZoneTable.findZone_update_self status found]
      · simp [outputOf,changed,ZoneTable.findZone_update_of_ne status same]
  · intro zoneId previous
    obtain ⟨other,bound,otherEnabled⟩ := previous
    obtain ⟨name,rfl,otherFound⟩ := Option.bind_eq_some_iff.mp bound
    simp only [EnabledZone,changed]
    by_cases same : name = id
    · subst same
      exact ⟨_,ZoneTable.findZone_update_self status found,enabled⟩
    · exact ⟨other,(ZoneTable.findZone_update_of_ne status same).trans otherFound,otherEnabled⟩

section Zones

variable {store next : RuntimeState} {issued : List DriverCall} {result : IrrigationResult}

theorem ZoneOpening.sameZones {zoneId : Option CString} {durationMs : UInt32} {reads : UInt64 → Prop}
    (opening : ZoneOpening store zoneId durationMs reads result issued next) : SameZones store next := by
  cases opening with
  | refused => exact .of_eq rfl
  | opened named openable =>
    obtain ⟨_,rfl⟩ := ZoneTable.findZone_some openable.found
    exact .update openable.found (by simp) rfl
  | failed named openable =>
    obtain ⟨_,rfl⟩ := ZoneTable.findZone_some openable.found
    exact .update openable.found (by simp) rfl

theorem ZoneClosing.sameZones {zoneId : Option CString}
    (closing : ZoneClosing store zoneId result issued next) : SameZones store next := by
  cases closing with
  | refused => exact .of_eq rfl
  | closed named closable =>
    obtain ⟨_,rfl⟩ := ZoneTable.findZone_some closable.found
    exact .update closable.found (by simp) (closedZone_zones _ _)
  | failed named closable =>
    obtain ⟨_,rfl⟩ := ZoneTable.findZone_some closable.found
    exact .update closable.found (by simp) rfl

theorem MasterClosing.zones (closing : MasterClosing store result issued next) : next.zones = store.zones := by
  cases closing <;> rfl

theorem MasterOpening.zones (opening : MasterOpening store result issued next) : next.zones = store.zones := by
  cases opening <;> rfl

theorem FaultExit.zones (exit : FaultExit store issued next) : next.zones = store.zones := by
  cases exit with
  | exit closing => exact closing.zones

theorem StepOpening.sameZones {stepIndex : Nat} {step : ProgramStep} {reads : UInt64 → Prop}
    (opening : StepOpening store stepIndex step reads issued next) : SameZones store next := by
  cases opening with
  | opened opening => exact opening.sameZones.trans (.of_eq rfl)
  | failed opening _ exit => exact opening.sameZones.trans (.of_eq exit.zones)

theorem ProgramProcessing.sameZones {program : Program} {nowMs : UInt64} {reads : UInt64 → Prop}
    (processing : ProgramProcessing store program nowMs reads issued next) : SameZones store next := by
  have timed : SameZones store (masterTimed store nowMs) := .of_eq (masterTimed_zones store nowMs)
  cases processing with
  | inactive => exact .of_eq rfl
  | waiting => exact timed
  | masterFault _ _ exit => exact timed.trans (.of_eq exit.zones)
  | entering _ _ opening => exact timed.trans opening.sameZones
  | running => exact .of_eq rfl
  | closeFailed _ _ closing _ exit => exact closing.sameZones.trans (.of_eq exit.zones)
  | advancing _ _ closing _ opening =>
    have advanced := opening.sameZones
    exact closing.sameZones.trans ⟨advanced.outputs,advanced.enabled⟩
  | finishing _ _ closing => exact closing.sameZones.trans (.of_eq rfl)
  | delaying => exact .of_eq rfl
  | completed _ _ closing => exact .of_eq closing.zones

end Zones

/-! ### The simulation -/

/-- What holds of the store all along an execution. -/
structure Underway (program : Program) (outputs : List (Fin irrigationMaxOutputs)) (store : RuntimeState) : Prop where
  healthy : Healthy store
  configured : Configured store program
  outputs : program.steps.map (fun step => outputOf store step.zoneId) = outputs.map some

/-- A valve that opens since then: it counts as open once its delay is over. -/
structure OpensSince (preOpenDelayMs : UInt32) (nowMs sinceMs : UInt64) (valve : MasterValveRuntimeState) : Prop where
  confirmed : valve.openingConfirmedAtMs = sinceMs
  delay : valve.preOpenDelayMs = preOpenDelayMs
  state : valve.state = .opening ∨ valve.state = .open ∧ sinceMs.toNat + preOpenDelayMs.toNat ≤ nowMs.toNat

/-- The store at a stage, at a time. -/
def AtStage (program : Program) (preOpenDelayMs : UInt32) (nowMs : UInt64) (store : RuntimeState) : Stage → Prop
  | .opening sinceMs => store.program.state = .waitingMaster ∧
      OpensSince preOpenDelayMs nowMs sinceMs store.masterValve ∧ ¬hasActiveOrUnknownOutput store
  | .watering index sinceMs => index < program.steps.length ∧ store.program = ⟨.runningZone,index,sinceMs⟩ ∧
      OpenZone store (program.step index).zoneId
  | .delaying sinceMs => store.program.state = .waitingPostProgramDelay ∧
      store.program.stepStartedAtMs = sinceMs ∧ store.masterValve.state = .open ∧ ¬hasActiveOrUnknownOutput store
  | .done => store.program.state = .completed ∧ store.masterValve.state = .closed

section Simulation

variable {program : Program} {outputs : List (Fin irrigationMaxOutputs)} {store next : RuntimeState}
  {issued : List DriverCall} {preOpenDelayMs : UInt32} {earlierMs nowMs : UInt64}

theorem Underway.length (underway : Underway program outputs store) : outputs.length = program.steps.length := by
  simpa using (congrArg List.length underway.outputs).symm

theorem Underway.positive (underway : Underway program outputs store) : 0 < outputs.length := by
  rw [underway.length]
  exact List.length_pos_iff.mpr underway.configured.steps

/-- The output of a step's zone is the step's place in the outputs. -/
theorem Underway.output (underway : Underway program outputs store) {index : Nat}
    (inside : index < program.steps.length) {zone : ZoneRuntimeState}
    (bound : (program.step index).zoneId.bind store.zones.findZone = some zone) :
    outputs[index]? = some zone.outputIndex := by
  have place := congrArg (·[index]?) underway.outputs
  have step : program.step index = program.steps[index] := by
    simp [Program.step,List.getD,List.getElem?_eq_getElem inside]
  rw [step] at bound
  simp only [List.getElem?_map,List.getElem?_eq_getElem inside,Option.map_some,outputOf,bound] at place
  cases found : outputs[index]? with
  | none => simp [found] at place
  | some output => simpa [found] using place.symm

theorem Underway.kept (underway : Underway program outputs store) (healthy : Healthy next)
    (same : SameZones store next) : Underway program outputs next where
  healthy := healthy
  configured := ⟨underway.configured.steps,fun step member => same.enabled _ (underway.configured.enabled step member)⟩
  outputs := by
    rw [same.outputs]
    exact underway.outputs

theorem Underway.setProgram (underway : Underway program outputs store) (state : ProgramRuntimeState)
    (scheduler : SchedulerRuntimeState) (entering : state.state = .waitingMaster → state.currentStepIndex = 0) :
    Underway program outputs { store with program := state, scheduler } :=
  underway.kept (underway.healthy.program state scheduler entering) (.of_eq rfl)

/-- Opening a step under an open valve with all outputs off reaches its watering stage. -/
theorem StepOpening.watering {index : Nat} (underway : Underway program outputs store)
    (inside : index < program.steps.length) (masterOpen : store.masterValve.state = .open)
    (off : ¬hasActiveOrUnknownOutput store) {reads : UInt64 → Prop} (reading : ∀ now, reads now → now = nowMs)
    (opening : StepOpening store index (program.step index) reads issued next) (confirmed : Confirmed issued) :
    AtStage program preOpenDelayMs nowMs next (.watering index nowMs) ∧ issued = (outputs[index]?.map switchOn).toList := by
  have enabled := underway.configured.enabled _ (Program.step_mem inside)
  cases opening with
  | opened opening now =>
    cases reading _ now
    rcases opening.opened_of_confirmed confirmed with ⟨_,zone,openedAtMs,durationMs,_,bound,openable,rfl,rfl⟩ | ⟨failed,_⟩
    · obtain ⟨id,named,found⟩ := Option.bind_eq_some_iff.mp bound
      obtain ⟨_,rfl⟩ := ZoneTable.findZone_some found
      have reopened := ZoneTable.findZone_update_self
        (fun _ : ZoneStatus => ⟨.open,openedAtMs,durationMs⟩) found
      refine ⟨⟨inside,rfl,⟨zone.toZoneIdentity,⟨.open,openedAtMs,durationMs⟩⟩,?_,rfl⟩,?_⟩
      · rw [named]
        exact reopened
      · rw [underway.output inside bound]
        rfl
    · exact absurd rfl failed
  | failed opening notOk =>
    obtain ⟨first,_⟩ := (confirmed_append _ _).mp confirmed
    exact absurd ((opening.ok_iff underway.healthy first enabled masterOpen).mpr off) notOk

theorem elapsed_iff {sinceMs nowMs : UInt64} (past : sinceMs ≤ nowMs) (durationMs : UInt32) :
    nowMs - sinceMs ≥ durationMs.toUInt64 ↔ sinceMs.toNat + durationMs.toNat ≤ nowMs.toNat := by
  have order := UInt64.le_iff_toNat_le.mp past
  rw [ge_iff_le,UInt64.le_iff_toNat_le,UInt64.toNat_sub_of_le _ _ past,UInt32.toNat_toUInt64]
  omega

theorem masterTimed_of_open (masterOpen : store.masterValve.state ≠ .opening) : masterTimed store nowMs = store :=
  if_neg fun both => masterOpen both.1

/-- The valve's own time opens it exactly when its delay is over. -/
theorem OpensSince.timed {sinceMs : UInt64} (opens : OpensSince preOpenDelayMs nowMs sinceMs store.masterValve)
    (past : sinceMs ≤ nowMs) :
    OpensSince preOpenDelayMs nowMs sinceMs (masterTimed store nowMs).masterValve ∧
      ((masterTimed store nowMs).masterValve.state = .open ↔
        sinceMs.toNat + preOpenDelayMs.toNat ≤ nowMs.toNat) := by
  rcases opens.state with opening | ⟨opened,elapsed⟩
  · have ready : ¬nowMs - store.masterValve.openingConfirmedAtMs < store.masterValve.preOpenDelayMs.toUInt64 ↔
        sinceMs.toNat + preOpenDelayMs.toNat ≤ nowMs.toNat := by
      rw [opens.confirmed,opens.delay,UInt64.not_lt]
      exact elapsed_iff past preOpenDelayMs
    by_cases elapsed : sinceMs.toNat + preOpenDelayMs.toNat ≤ nowMs.toNat
    · rw [masterTimed,if_pos ⟨opening,ready.mpr elapsed⟩]
      exact ⟨⟨opens.confirmed,opens.delay,.inr ⟨rfl,elapsed⟩⟩,iff_of_true rfl elapsed⟩
    · rw [masterTimed,if_neg fun both => elapsed (ready.mp both.2)]
      exact ⟨opens,iff_of_false (by simp [opening]) elapsed⟩
  · rw [masterTimed_of_open (by simp [opened])]
    exact ⟨opens,iff_of_true opened elapsed⟩

/-- At a later time, with the same store. -/
theorem AtStage.later {stage : Stage} (reached : AtStage program preOpenDelayMs earlierMs store stage)
    (later : earlierMs ≤ nowMs) : AtStage program preOpenDelayMs nowMs store stage := by
  cases stage with
  | opening sinceMs =>
    obtain ⟨state,opens,off⟩ := reached
    exact ⟨state,⟨opens.confirmed,opens.delay,opens.state.imp_right fun opened =>
      ⟨opened.1,opened.2.trans (UInt64.le_iff_toNat_le.mp later)⟩⟩,off⟩
  | _ => exact reached

theorem AtStage.eq_opening {stage : Stage} (reached : AtStage program preOpenDelayMs nowMs store stage)
    (state : store.program.state = .waitingMaster) : ∃ sinceMs, stage = .opening sinceMs := by
  cases stage with
  | opening sinceMs => exact ⟨sinceMs,rfl⟩
  | watering => simp [reached.2.1] at state
  | delaying => simp [reached.1] at state
  | done => simp [reached.1] at state

theorem AtStage.eq_watering {stage : Stage} (reached : AtStage program preOpenDelayMs nowMs store stage)
    (state : store.program.state = .runningZone) :
    stage = .watering store.program.currentStepIndex store.program.stepStartedAtMs := by
  cases stage with
  | opening => simp [reached.1] at state
  | watering => rw [reached.2.1]
  | delaying => simp [reached.1] at state
  | done => simp [reached.1] at state

theorem AtStage.eq_delaying {stage : Stage} (reached : AtStage program preOpenDelayMs nowMs store stage)
    (state : store.program.state = .waitingPostProgramDelay) :
    stage = .delaying store.program.stepStartedAtMs := by
  cases stage with
  | opening => simp [reached.1] at state
  | watering => simp [reached.2.1] at state
  | delaying => rw [reached.2.1]
  | done => simp [reached.1] at state

theorem AtStage.eq_done {stage : Stage} (reached : AtStage program preOpenDelayMs nowMs store stage)
    (inactive : programIsActive store = false) : stage = .done := by
  cases stage with
  | opening => simp [programIsActive,reached.1] at inactive
  | watering => simp [programIsActive,reached.2.1] at inactive
  | delaying => simp [programIsActive,reached.1] at inactive
  | done => rfl

/-- The valve's own time changes nothing once it is open. -/
theorem AtStage.masterTimed {stage : Stage} (underway : Underway program outputs store)
    (reached : AtStage program preOpenDelayMs nowMs store stage)
    (past : ∀ sinceMs, stage.sinceMs = some sinceMs → sinceMs ≤ nowMs) :
    AtStage program preOpenDelayMs nowMs (masterTimed store nowMs) stage := by
  cases stage with
  | opening sinceMs =>
    refine ⟨?_,(reached.2.1.timed (past sinceMs rfl)).1,?_⟩
    · rw [masterTimed_program]
      exact reached.1
    · simpa only [hasActiveOrUnknownOutput,masterTimed_outputStates] using reached.2.2
  | watering index sinceMs =>
    obtain ⟨zone,bound,opened⟩ := reached.2.2
    obtain ⟨id,_,found⟩ := Option.bind_eq_some_iff.mp bound
    have masterOpen := (underway.healthy.invariant.openMode zone (ZoneTable.findZone_some found).1 opened).1
    rw [masterTimed_of_open (by simp [masterOpen])]
    exact reached
  | delaying sinceMs =>
    rw [masterTimed_of_open (by simp [reached.2.2.1])]
    exact reached
  | done =>
    rw [masterTimed_of_open (by simp [reached.2])]
    exact reached

/-- Closing the zone of a watered step issues its output's off call. -/
theorem ZoneClosing.watered {index : Nat} (underway : Underway program outputs store)
    (inside : index < program.steps.length)
    (closing : ZoneClosing store (program.step index).zoneId .ok issued next) (confirmed : Confirmed issued) :
    issued = (outputs[index]?.map switchOff).toList := by
  rcases closing.closed_of_confirmed confirmed with ⟨_,zone,bound,_,rfl,_⟩ | ⟨failed,_⟩
  · rw [underway.output inside bound]
    rfl
  · exact absurd rfl failed

/-- A poll of the program is a move of the stage and issues the calls between the stages. -/
theorem ProgramProcessing.moves (underway : Underway program outputs store) {stage : Stage}
    (reached : AtStage program preOpenDelayMs nowMs store stage) (past : ∀ sinceMs, stage.sinceMs = some sinceMs → sinceMs ≤ nowMs)
    {reads : UInt64 → Prop} (reading : ∀ now, reads now → now = nowMs)
    (processing : ProgramProcessing store program nowMs reads issued next) (confirmed : Confirmed issued) :
    ∃ following, Stage.Move program preOpenDelayMs nowMs stage following ∧
      AtStage program preOpenDelayMs nowMs next following ∧
      following.calls outputs = stage.calls outputs ++ issued := by
  have positive : 0 < program.steps.length := List.length_pos_iff.mpr underway.configured.steps
  cases processing with
  | inactive idle =>
    cases reached.eq_done idle
    exact ⟨.done,.stay,reached,by simp⟩
  | waiting state notOpen notFault =>
    obtain ⟨sinceMs,rfl⟩ := reached.eq_opening state
    have early := mt (reached.2.1.timed (past sinceMs rfl)).2.mpr notOpen
    exact ⟨.opening sinceMs,.wait (by omega),reached.masterTimed underway past,by simp⟩
  | masterFault state broken => exact absurd broken (underway.healthy.masterTimed nowMs).valve_not_fault
  | entering state masterOpen opening =>
    obtain ⟨sinceMs,rfl⟩ := reached.eq_opening state
    have elapsed := (reached.2.1.timed (past sinceMs rfl)).2.mp masterOpen
    rw [underway.healthy.entering state] at opening
    have timed := underway.kept (underway.healthy.masterTimed nowMs) (.of_eq (masterTimed_zones store nowMs))
    have off : ¬hasActiveOrUnknownOutput (masterTimed store nowMs) := by
      simpa only [hasActiveOrUnknownOutput,masterTimed_outputStates] using reached.2.2
    obtain ⟨watering,calls⟩ := opening.watering timed positive masterOpen off reading confirmed
    refine ⟨.watering 0 nowMs,.enter elapsed,watering,?_⟩
    rw [calls]
    simp [Stage.calls,wateringCalls]
  | running state early =>
    cases reached.eq_watering state
    rw [elapsed_iff (past _ rfl)] at early
    exact ⟨_,.water (by omega),reached,by simp⟩
  | closeFailed state elapsed closing notOk =>
    cases reached.eq_watering state
    obtain ⟨first,_⟩ := (confirmed_append _ _).mp confirmed
    exact absurd ((closing.ok_iff underway.healthy first).mpr reached.2.2) notOk
  | advancing state elapsed closing more opening =>
    rename_i middle startedAtMs
    cases reached.eq_watering state
    obtain ⟨first,later⟩ := (confirmed_append _ _).mp confirmed
    obtain ⟨masterOpen,off,_⟩ := closing.closed_ok underway.healthy first
    have closed := underway.kept (underway.healthy.zoneClosing closing first) closing.sameZones
    have advanced := closed.setProgram ⟨.runningZone,store.program.currentStepIndex + 1,startedAtMs⟩
      middle.scheduler (by simp)
    obtain ⟨watering,on⟩ := opening.watering advanced more masterOpen off reading later
    have following : store.program.currentStepIndex + 1 < outputs.length := by rw [underway.length]; exact more
    have current : store.program.currentStepIndex < outputs.length := by omega
    rw [elapsed_iff (past _ rfl)] at elapsed
    refine ⟨_,.advance elapsed more,watering,?_⟩
    rw [closing.watered underway reached.1 first,on,Stage.calls_watering following,Stage.calls_watering current,
      wateringCalls_take_succ current,List.getElem?_eq_getElem current,List.getElem?_eq_getElem following]
    simp
  | finishing state elapsed closing last now =>
    cases reached.eq_watering state
    cases reading _ now
    obtain ⟨masterOpen,off,_⟩ := closing.closed_ok underway.healthy confirmed
    have current : store.program.currentStepIndex < outputs.length := by rw [underway.length]; exact reached.1
    have whole : outputs.take (store.program.currentStepIndex + 1) = outputs :=
      List.take_of_length_le (by rw [underway.length]; omega)
    rw [elapsed_iff (past _ rfl)] at elapsed
    refine ⟨_,.finish elapsed (by have := reached.1; omega),⟨rfl,rfl,masterOpen,off⟩,?_⟩
    have split := wateringCalls_take_succ current
    rw [whole] at split
    rw [closing.watered underway reached.1 confirmed,Stage.calls_watering current,Stage.calls,split,
      List.getElem?_eq_getElem current]
    simp
  | delaying state early =>
    cases reached.eq_delaying state
    rw [elapsed_iff (past _ rfl)] at early
    exact ⟨_,.delay (by omega),reached,by simp⟩
  | completed state elapsed closing =>
    cases reached.eq_delaying state
    rw [elapsed_iff (past _ rfl)] at elapsed
    cases closing with
    | refused _ ineligible => exact absurd ⟨.inl reached.2.2.1,reached.2.2.2⟩ ineligible
    | closed => exact ⟨.done,.complete elapsed,⟨rfl,rfl⟩,rfl⟩
    | failed _ notOk => exact absurd ((confirmed_singleton _ _).mp confirmed) notOk

end Simulation

/-! ### Executions of the services -/

/-- A poll calls `program_service_process` or `master_valve_service_process_time`. -/
inductive PollKind where
  | program | masterValve
  deriving DecidableEq, Repr

structure Poll where
  timeMs : UInt64
  kind : PollKind
  deriving DecidableEq, Repr

def Poll.command (poll : Poll) : Command :=
  match poll.kind with
  | .program => .programProcess
  | .masterValve => .masterProcessTime

structure TimedCall where
  timeMs : UInt64
  call : DriverCall
  deriving DecidableEq, Repr

/-- A world with the driver calls issued since the program was started. -/
structure Execution where
  world : World UInt64
  history : List TimedCall

/-- One operation at a time, with the calls that it issues. -/
def Execution.perform (command : Command) (timeMs : UInt64) (execution : Execution) : Execution :=
  let next := operate quietDrivers command { execution.world with environment := timeMs }
  ⟨next,execution.history ++ (next.calls.drop execution.world.calls.length).map fun call => ⟨timeMs,call⟩⟩

def Execution.poll (poll : Poll) (execution : Execution) : Execution := execution.perform poll.command poll.timeMs

/-- `program_service_start` at a time, and nothing else yet. -/
def startExecution (address : ProgramAddress) (startMs : UInt64) (world : World UInt64) : Execution :=
  Execution.perform (.programStart (some address)) startMs ⟨world,[]⟩

/-- The calls so far, by their order alone. -/
def Execution.calls (execution : Execution) : List DriverCall := execution.history.map (·.call)

/-- The state in which a program may be started on its own. -/
structure Startable (world : World UInt64) (address : ProgramAddress) : Prop where
  reached : Reached world.store
  ready : world.store.systemState = .ready
  masterClosed : world.store.masterValve.state = .closed
  outputsOff : ∀ output, world.store.outputStates output = .off
  free : world.store.program.state = .idle ∨ world.store.program.state = .completed ∨
    world.store.program.state = .aborted
  valid : programIsValid (world.memory.program address) = true
  enabled : ∀ step ∈ (world.memory.program address).steps, EnabledZone world.store step.zoneId

/-- The outputs of the steps' zones, in the order of the steps. -/
def stepOutputs (store : RuntimeState) (program : Program) : List (Fin irrigationMaxOutputs) :=
  program.steps.filterMap fun step => outputOf store step.zoneId

/-- What the driver calls of an execution and the state reached have to do with the
steps. Each call is issued once, in the order of `programCalls`, so the call that
follows `2 * index + 2` calls switches off step `index`. -/
structure FollowsSteps (program : Program) (preOpenDelayMs : UInt32) (outputs : List (Fin irrigationMaxOutputs))
    (execution : Execution) : Prop where
  ordered : execution.calls <+: programCalls outputs
  opened : [⟨.openAndConfirm,.ok⟩] <+: execution.calls
  completed : execution.world.store.program.state = .completed ↔ execution.calls = programCalls outputs
  firstOn : ∀ (output : Fin irrigationMaxOutputs) (opened : TimedCall), outputs[0]? = some output →
    execution.history.length = 1 → execution.history.getLast? = some opened →
    ∀ poll : Poll, execution.world.environment ≤ poll.timeMs →
      (execution.calls ++ [switchOn output] <+: (execution.poll poll).calls ↔
        poll.kind = .program ∧ opened.timeMs.toNat + preOpenDelayMs.toNat ≤ poll.timeMs.toNat)
  nextOn : ∀ (index : Nat) (output following : Fin irrigationMaxOutputs) (on : TimedCall),
    outputs[index]? = some output → outputs[index + 1]? = some following →
    execution.history.length = 2 * index + 2 → execution.history.getLast? = some on →
    ∀ poll : Poll, execution.world.environment ≤ poll.timeMs →
      (execution.calls ++ [switchOff output,switchOn following] <+: (execution.poll poll).calls ↔
        poll.kind = .program ∧ on.timeMs.toNat + (program.step index).durationMs.toNat ≤ poll.timeMs.toNat)
  stepOff : ∀ (index : Nat) (output : Fin irrigationMaxOutputs) (on : TimedCall), outputs[index]? = some output →
    execution.history.length = 2 * index + 2 → execution.history.getLast? = some on →
    ∀ poll : Poll, execution.world.environment ≤ poll.timeMs →
      (execution.calls ++ [switchOff output] <+: (execution.poll poll).calls ↔
        poll.kind = .program ∧ on.timeMs.toNat + (program.step index).durationMs.toNat ≤ poll.timeMs.toNat)
  masterClose : ∀ (off : TimedCall), execution.history.length = 2 * outputs.length + 1 →
    execution.history.getLast? = some off →
    ∀ poll : Poll, execution.world.environment ≤ poll.timeMs →
      (execution.calls ++ [⟨.closeAndConfirm,.ok⟩] <+: (execution.poll poll).calls ↔
        poll.kind = .program ∧ off.timeMs.toNat + program.postProgramDelayMs.toNat ≤ poll.timeMs.toNat)

/-- The invariant of an execution: the store is at a stage whose calls were issued. -/
structure Follows (program : Program) (preOpenDelayMs : UInt32) (outputs : List (Fin irrigationMaxOutputs))
    (stage : Stage) (execution : Execution) : Prop where
  underway : Underway program outputs execution.world.store
  reached : AtStage program preOpenDelayMs execution.world.environment execution.world.store stage
  current : execution.world.currentProgram = program
  calls : execution.calls = stage.calls outputs
  since : ∀ sinceMs, stage.sinceMs = some sinceMs →
    execution.history.getLast?.map (·.timeMs) = some sinceMs ∧ sinceMs ≤ execution.world.environment

section Executions

variable {program : Program} {preOpenDelayMs : UInt32} {outputs : List (Fin irrigationMaxOutputs)}

theorem quiet_steady (time : UInt64) : Steady quietDrivers time time := ⟨rfl,fun _ => rfl⟩

theorem Issued.quiet {world next : World UInt64} {issued : List DriverCall}
    (back : Issued quietDrivers world next issued) :
    Confirmed issued ∧ next.environment = world.environment := by
  refine ⟨?_,back.steady world.environment (quiet_steady _)⟩
  intro call member
  obtain ⟨_,result⟩ := back.results call member
  exact result

/-- What an operation appends to the history. -/
theorem Execution.perform_issued {execution : Execution} {command : Command} {timeMs : UInt64}
    {issued : List DriverCall} (calls : (operate quietDrivers command
      { execution.world with environment := timeMs }).calls = execution.world.calls ++ issued) :
    (execution.perform command timeMs).history = execution.history ++ issued.map fun call => ⟨timeMs,call⟩ := by
  simp only [Execution.perform,calls,List.drop_left]

theorem AtStage.inside {store : RuntimeState} {stage : Stage} (underway : Underway program outputs store)
    (reached : AtStage program preOpenDelayMs nowMs store stage) : stage.Inside outputs := by
  cases stage with
  | watering =>
    have inside := reached.1
    rw [← underway.length] at inside
    exact inside
  | _ => trivial

/-- A move either stays or issues calls now. -/
theorem Stage.Move.stays_or_issues {nowMs : UInt64} {stage following : Stage}
    (move : Stage.Move program preOpenDelayMs nowMs stage following) (length : outputs.length = program.steps.length)
    (inside : stage.Inside outputs) (insideNext : following.Inside outputs) :
    following = stage ∨ (stage.calls outputs).length < (following.calls outputs).length ∧
      ∀ sinceMs, following.sinceMs = some sinceMs → sinceMs = nowMs := by
  have before := stage.calls_length inside
  have after := following.calls_length insideNext
  cases move with
  | wait => exact .inl rfl
  | enter => exact .inr ⟨by simp only [before,after]; omega,fun _ same => (Option.some.inj same).symm⟩
  | water => exact .inl rfl
  | advance => exact .inr ⟨by simp only [before,after]; omega,fun _ same => (Option.some.inj same).symm⟩
  | finish elapsed last =>
    exact .inr ⟨by simp only [before,after]; omega,fun _ same => (Option.some.inj same).symm⟩
  | delay => exact .inl rfl
  | complete => exact .inr ⟨by simp only [before,after]; omega,nofun⟩
  | stay => exact .inl rfl

theorem Follows.perform {stage following : Stage} {execution : Execution}
    (follows : Follows program preOpenDelayMs outputs stage execution) {command : Command} {timeMs : UInt64}
    (later : execution.world.environment ≤ timeMs) {issued : List DriverCall}
    (back : Issued quietDrivers { execution.world with environment := timeMs }
      (operate quietDrivers command { execution.world with environment := timeMs }) issued)
    (underway : Underway program outputs (execution.perform command timeMs).world.store)
    (reached : AtStage program preOpenDelayMs timeMs (execution.perform command timeMs).world.store following)
    (calls : following.calls outputs = stage.calls outputs ++ issued)
    (progress : following = stage ∨ (stage.calls outputs).length < (following.calls outputs).length ∧
      ∀ sinceMs, following.sinceMs = some sinceMs → sinceMs = timeMs) :
    Follows program preOpenDelayMs outputs following (execution.perform command timeMs) := by
  have history := Execution.perform_issued back.calls
  have environment : (execution.perform command timeMs).world.environment = timeMs := back.quiet.2
  refine ⟨underway,by rw [environment]; exact reached,?_,?_,?_⟩
  · exact (World.currentProgram_eq quietDrivers back).trans follows.current
  · have appended : (execution.perform command timeMs).calls = execution.calls ++ issued := by
      rw [Execution.calls,history,List.map_append,List.map_map]
      simp [Execution.calls,Function.comp_def]
    rw [appended,follows.calls,calls]
  · intro sinceMs since
    rw [environment]
    rcases progress with rfl | ⟨longer,now⟩
    · have none : issued = [] := by simpa using calls
      obtain ⟨last,past⟩ := follows.since sinceMs since
      rw [history,none]
      simp only [List.map_nil,List.append_nil]
      exact ⟨last,UInt64.le_trans past later⟩
    · cases now sinceMs since
      have some : issued ≠ [] := by
        intro none
        simp [calls,none] at longer
      rw [history,List.getLast?_append]
      obtain ⟨front,last,rfl⟩ := List.eq_nil_or_concat issued |>.resolve_left some
      simp

theorem Follows.poll {stage : Stage} {execution : Execution} (follows : Follows program preOpenDelayMs outputs stage execution)
    {poll : Poll} (later : execution.world.environment ≤ poll.timeMs) :
    (execution.poll poll).world.environment = poll.timeMs ∧
      ∃ following, Follows program preOpenDelayMs outputs following (execution.poll poll) ∧
        (poll.kind = .program → Stage.Move program preOpenDelayMs poll.timeMs stage following) ∧
        (poll.kind = .masterValve → following = stage) := by
  obtain ⟨timeMs,kind⟩ := poll
  have past : ∀ sinceMs, stage.sinceMs = some sinceMs → sinceMs ≤ timeMs := fun sinceMs since =>
    UInt64.le_trans (follows.since sinceMs since).2 later
  cases kind with
  | program =>
    obtain ⟨issued,processing,back⟩ := programServiceProcess_cases quietDrivers
      { execution.world with environment := timeMs }
    have reading : ∀ now, Reads quietDrivers { execution.world with environment := timeMs } now → now = timeMs :=
      fun now reads => reads timeMs (quiet_steady timeMs)
    have current : ({ execution.world with environment := timeMs } : World UInt64).currentProgram = program :=
      follows.current
    rw [current] at processing
    obtain ⟨following,move,reached,calls⟩ :=
      processing.moves follows.underway (follows.reached.later later) past reading back.quiet.1
    have underway := follows.underway.kept
      (follows.underway.healthy.programProcessing processing back.quiet.1) processing.sameZones
    have progress := move.stays_or_issues underway.length (follows.reached.inside follows.underway)
      (reached.inside underway)
    exact ⟨back.quiet.2,following,follows.perform later back underway reached calls progress,fun _ => move,nofun⟩
  | masterValve =>
    obtain ⟨_,stored,back⟩ := masterValveServiceProcessTime_run quietDrivers
      { execution.world with environment := timeMs }
    have timed : (execution.perform .masterProcessTime timeMs).world.store =
        masterTimed execution.world.store timeMs := stored
    have underway : Underway program outputs (execution.perform .masterProcessTime timeMs).world.store := by
      rw [timed]
      exact follows.underway.kept (follows.underway.healthy.masterTimed timeMs)
        (.of_eq (masterTimed_zones _ timeMs))
    have reached : AtStage program preOpenDelayMs timeMs
        (execution.perform .masterProcessTime timeMs).world.store stage := by
      rw [timed]
      exact (follows.reached.later later).masterTimed follows.underway past
    exact ⟨back.quiet.2,stage,follows.perform later back underway reached (by simp) (.inl rfl),nofun,fun _ => rfl⟩

theorem Stage.next_calls_iff {stage following : Stage} (insideNext : following.Inside outputs)
    {issued : List DriverCall} (next : stage.calls outputs ++ issued <+: programCalls outputs) :
    stage.calls outputs ++ issued <+: following.calls outputs ↔
      (stage.calls outputs).length + issued.length ≤ (following.calls outputs).length := by
  rw [← List.length_append]
  exact ⟨fun extended => extended.length_le,
    List.prefix_of_prefix_length_le next (following.calls_isPrefix insideNext)⟩

theorem Stage.opening_next {output : Fin irrigationMaxOutputs} (place : outputs[0]? = some output)
    (sinceMs : UInt64) :
    (Stage.opening sinceMs).calls outputs ++ [switchOn output] <+: programCalls outputs := by
  obtain ⟨inside,rfl⟩ := List.getElem?_eq_some_iff.mp place
  have reached := (Stage.watering 0 sinceMs).calls_isPrefix inside
  rwa [Stage.calls_watering inside] at reached

theorem Stage.watering_next {index : Nat} {output : Fin irrigationMaxOutputs} (place : outputs[index]? = some output)
    (sinceMs : UInt64) :
    (Stage.watering index sinceMs).calls outputs ++ [switchOff output] <+: programCalls outputs := by
  obtain ⟨inside,rfl⟩ := List.getElem?_eq_some_iff.mp place
  rw [Stage.calls_watering inside]
  refine ⟨wateringCalls (outputs.drop (index + 1)) ++ [⟨.closeAndConfirm,.ok⟩],?_⟩
  rw [programCalls,wateringCalls_split outputs (index + 1),wateringCalls_take_succ inside]
  simp

theorem Stage.watering_nextOn {index : Nat} {output following : Fin irrigationMaxOutputs}
    (place : outputs[index]? = some output) (later : outputs[index + 1]? = some following) (sinceMs : UInt64) :
    (Stage.watering index sinceMs).calls outputs ++ [switchOff output,switchOn following] <+:
      programCalls outputs := by
  obtain ⟨inside,rfl⟩ := List.getElem?_eq_some_iff.mp place
  obtain ⟨more,rfl⟩ := List.getElem?_eq_some_iff.mp later
  have reached := (Stage.watering (index + 1) sinceMs).calls_isPrefix more
  rw [Stage.calls_watering more,wateringCalls_take_succ inside] at reached
  rw [Stage.calls_watering inside]
  simpa using reached

section Following

variable {stage : Stage} {execution : Execution}

/-- The number of the calls so far tells the stage. -/
theorem Follows.calls_length (follows : Follows program preOpenDelayMs outputs stage execution) :
    execution.history.length = (stage.calls outputs).length := by
  rw [← follows.calls,Execution.calls,List.length_map]

theorem Follows.eq_opening (follows : Follows program preOpenDelayMs outputs stage execution)
    (total : execution.history.length = 1) : ∃ sinceMs, stage = .opening sinceMs := by
  rw [follows.calls_length,stage.calls_length (follows.reached.inside follows.underway)] at total
  have positive := follows.underway.positive
  cases stage with
  | opening sinceMs => exact ⟨sinceMs,rfl⟩
  | _ => simp only at total; omega

theorem Follows.eq_watering (follows : Follows program preOpenDelayMs outputs stage execution) {index : Nat}
    (inside : index < outputs.length) (total : execution.history.length = 2 * index + 2) :
    ∃ sinceMs, stage = .watering index sinceMs := by
  rw [follows.calls_length,stage.calls_length (follows.reached.inside follows.underway)] at total
  cases stage with
  | watering other sinceMs =>
    have same : other = index := by simp only at total; omega
    exact ⟨sinceMs,by rw [same]⟩
  | _ => simp only at total; omega

theorem Follows.eq_delaying (follows : Follows program preOpenDelayMs outputs stage execution)
    (total : execution.history.length = 2 * outputs.length + 1) : ∃ sinceMs, stage = .delaying sinceMs := by
  have inside := follows.reached.inside follows.underway
  rw [follows.calls_length,stage.calls_length inside] at total
  have positive := follows.underway.positive
  cases stage with
  | delaying sinceMs => exact ⟨sinceMs,rfl⟩
  | _ => simp only [Stage.Inside] at total inside; omega

theorem Follows.time_eq (follows : Follows program preOpenDelayMs outputs stage execution) {sinceMs : UInt64}
    (since : stage.sinceMs = some sinceMs) {timed : TimedCall} (last : execution.history.getLast? = some timed) :
    timed.timeMs = sinceMs := by
  simpa [last] using (follows.since sinceMs since).1

/-- A poll issues what comes next exactly when it is a poll of the program and every move
of the stage at its time has come that far. -/
theorem Follows.poll_issues_iff (follows : Follows program preOpenDelayMs outputs stage execution) {poll : Poll}
    (later : execution.world.environment ≤ poll.timeMs) {issued : List DriverCall} (some : issued ≠ [])
    (next : stage.calls outputs ++ issued <+: programCalls outputs) {dueMs : Nat}
    (due : ∀ following, following.Inside outputs → Stage.Move program preOpenDelayMs poll.timeMs stage following →
      ((stage.calls outputs).length + issued.length ≤ (following.calls outputs).length ↔
        dueMs ≤ poll.timeMs.toNat)) :
    execution.calls ++ issued <+: (execution.poll poll).calls ↔
      poll.kind = .program ∧ dueMs ≤ poll.timeMs.toNat := by
  obtain ⟨_,following,reached,moves,stays⟩ := follows.poll later
  have insideNext := reached.reached.inside reached.underway
  rw [follows.calls,reached.calls,Stage.next_calls_iff insideNext next]
  cases kind : poll.kind with
  | program =>
    rw [due following insideNext (moves kind)]
    simp
  | masterValve =>
    cases stays kind
    have positive := List.length_pos_iff.mpr some
    simp only [reduceCtorEq,false_and,iff_false]
    omega

/-- The program is completed once the calls of the last stage were issued. -/
theorem Follows.completed_iff (follows : Follows program preOpenDelayMs outputs stage execution) :
    execution.world.store.program.state = .completed ↔ execution.calls = programCalls outputs := by
  have length := stage.calls_length (follows.reached.inside follows.underway)
  have reached := follows.reached
  rw [follows.calls]
  cases stage with
  | done => exact iff_of_true reached.1 rfl
  | opening =>
    refine iff_of_false (by simp [reached.1]) fun same => ?_
    have := congrArg List.length same
    simp [Stage.calls,programCalls] at this
  | watering index sinceMs =>
    have inside := reached.inside follows.underway
    refine iff_of_false (by simp [reached.2.1]) fun same => ?_
    rw [same] at length
    simp only [programCalls,List.cons_append,List.length_cons,List.length_append,wateringCalls_length,
      List.length_nil] at length
    simp only [Stage.Inside] at inside
    omega
  | delaying sinceMs =>
    refine iff_of_false (by simp [reached.1]) fun same => ?_
    simp [Stage.calls,programCalls] at same

theorem Follows.steps (follows : Follows program preOpenDelayMs outputs stage execution) :
    FollowsSteps program preOpenDelayMs outputs execution where
  ordered := by
    rw [follows.calls]
    exact stage.calls_isPrefix (follows.reached.inside follows.underway)
  opened := by
    rw [follows.calls]
    cases stage <;> exact ⟨_,rfl⟩
  completed := follows.completed_iff
  firstOn := by
    intro output opened place total last poll later
    obtain ⟨sinceMs,rfl⟩ := follows.eq_opening total
    rw [follows.time_eq rfl last]
    refine follows.poll_issues_iff later (by simp) (Stage.opening_next place sinceMs) fun following inside move => ?_
    rw [following.calls_length inside]
    cases move with
    | wait early => exact iff_of_false (by simp [Stage.calls]) (by omega)
    | enter elapsed => exact iff_of_true (by simp [Stage.calls]) elapsed
  nextOn := by
    intro index output following on place further total last poll later
    have bounded : index + 1 < outputs.length := (List.getElem?_eq_some_iff.mp further).1
    obtain ⟨sinceMs,rfl⟩ := follows.eq_watering (by omega) total
    rw [follows.time_eq rfl last]
    refine follows.poll_issues_iff later (by simp) (Stage.watering_nextOn place further sinceMs)
      fun reached inside move => ?_
    rw [reached.calls_length inside,← follows.calls_length,total]
    cases move with
    | water early => exact iff_of_false (by simp) (by omega)
    | advance elapsed => exact iff_of_true (by simp only [List.length_cons,List.length_nil]; omega) elapsed
    | finish elapsed last =>
      rw [← follows.underway.length] at last
      omega
  stepOff := by
    intro index output on place total last poll later
    have bounded : index < outputs.length := (List.getElem?_eq_some_iff.mp place).1
    obtain ⟨sinceMs,rfl⟩ := follows.eq_watering bounded total
    rw [follows.time_eq rfl last]
    refine follows.poll_issues_iff later (by simp) (Stage.watering_next place sinceMs) fun reached inside move => ?_
    rw [reached.calls_length inside,← follows.calls_length,total]
    cases move with
    | water early => exact iff_of_false (by simp) (by omega)
    | advance elapsed => exact iff_of_true (by simp only [List.length_singleton]; omega) elapsed
    | finish elapsed => exact iff_of_true (by simp only [List.length_singleton]; omega) elapsed
  masterClose := by
    intro off total last poll later
    obtain ⟨sinceMs,rfl⟩ := follows.eq_delaying total
    rw [follows.time_eq rfl last]
    refine follows.poll_issues_iff later (by simp) (List.prefix_refl _) fun reached inside move => ?_
    rw [reached.calls_length inside,← follows.calls_length,total]
    cases move with
    | delay early => exact iff_of_false (by simp) (by omega)
    | complete elapsed => exact iff_of_true (by simp) elapsed

end Following

theorem Startable.healthy {world : World UInt64} {address : ProgramAddress} (startable : Startable world address) :
    Healthy world.store where
  invariant := startable.reached.invariant
  faultless := by
    intro zone member faulted
    have error := startable.reached.invariant.faultMode zone member faulted
    simp [startable.ready] at error
  valve := .inl startable.masterClosed
  calm := .inl startable.ready
  entering := by
    intro waiting
    have free := startable.free
    simp [waiting] at free

theorem stepOutputs_named {store : RuntimeState} (configured : Configured store program) :
    program.steps.map (fun step => outputOf store step.zoneId) = (stepOutputs store program).map some := by
  have general : ∀ steps : List ProgramStep, (∀ step ∈ steps, EnabledZone store step.zoneId) →
      steps.map (fun step => outputOf store step.zoneId) =
        (steps.filterMap fun step => outputOf store step.zoneId).map some := by
    intro steps
    induction steps with
    | nil => intro _; rfl
    | cons step rest ih =>
      intro enabled
      obtain ⟨zone,bound,_⟩ := enabled step List.mem_cons_self
      have named : outputOf store step.zoneId = some zone.outputIndex := by simp [outputOf,bound]
      simp [named,ih fun later member => enabled later (List.mem_cons_of_mem _ member)]
  exact general program.steps configured.enabled

theorem ProgramStarting.opens {store next : RuntimeState} {result : IrrigationResult} {issued : List DriverCall}
    (starting : ProgramStarting store result issued next) (healthy : Healthy store)
    (free : store.program.state = .idle ∨ store.program.state = .completed ∨ store.program.state = .aborted)
    (masterClosed : store.masterValve.state = .closed) (confirmed : Confirmed issued) :
    issued = [⟨.openAndConfirm,.ok⟩] := by
  have waiting := healthy.program ⟨.waitingMaster,0,0⟩ store.scheduler (fun _ => rfl)
  cases starting with
  | refused _ busy =>
    rcases free with state | state | state <;> simp [state] at busy
  | started _ opening =>
    cases opening with
    | refused failed => exact absurd rfl failed
    | opening _ confirmedAtMs => rfl
    | failed _ notOk => exact absurd rfl notOk
  | failed _ opening notOk => exact absurd ((opening.ok_iff waiting confirmed).mpr masterClosed) notOk

/-- A start that gets through opens the valve at the time of its clock. -/
theorem programServiceStartLocked_opens {world : World UInt64} (address : ProgramAddress)
    (context : ProgramStartContext)
    (free : world.store.program.state = .idle ∨ world.store.program.state = .completed ∨
      world.store.program.state = .aborted) (closed : world.store.masterValve.state = .closed) :
    (programServiceStartLocked quietDrivers address context world).2.store =
      masterOpening { world.store with program := ⟨.waitingMaster,0,0⟩ } world.environment := by
  obtain ⟨waiting,waitingEq⟩ : ∃ waiting, waiting = { world.store with program := ⟨.waitingMaster,0,0⟩ } := ⟨_,rfl⟩
  obtain ⟨set,run,same,clock⟩ : ∃ set : World UInt64, setServiceProgram address context world = ((),set) ∧
      set.store = world.store ∧ set.environment = world.environment := ⟨_,rfl,rfl,rfl⟩
  have accepted : stateStoreStartProgram set.store = .ok waiting := by
    rw [same,waitingEq]
    exact if_neg (by tauto)
  obtain ⟨kept,back⟩ := publishExecutionEvent_issued quietDrivers .programExecutionStarted .fault 0 none
    { set with store := waiting }
  cases event : publishExecutionEvent quietDrivers .programExecutionStarted .fault 0 none
      { set with store := waiting } with
  | mk value published =>
    rw [event] at kept back
    simp only at kept
    have idle : published.store.masterValve.state = .closed ∨ published.store.masterValve.state = .fault :=
      .inl (by rw [kept,waitingEq]; exact closed)
    have opened := masterValveServiceOpen_confirmed quietDrivers idle rfl rfl
    have answered := (masterValveServiceOpen_ok_iff quietDrivers published).mpr ⟨idle,rfl⟩
    cases master : masterValveServiceOpen quietDrivers published with
    | mk result next =>
      rw [master] at opened answered
      simp only at opened answered
      simp only [programServiceStartLocked,run_bind,run,run_commit_ok accepted,run_ite,event,master,answered,ne_eq,
        not_true_eq_false,if_false,run_pure]
      rw [opened,kept,waitingEq,back.quiet.2.trans clock]

theorem Startable.underway {world : World UInt64} {address : ProgramAddress} (startable : Startable world address) :
    Underway (world.memory.program address) (stepOutputs world.store (world.memory.program address)) world.store := by
  have configured : Configured world.store (world.memory.program address) := by
    refine ⟨?_,startable.enabled⟩
    intro none
    simpa [programIsValid,none] using startable.valid
  exact ⟨startable.healthy,configured,stepOutputs_named configured⟩

/-- A startable program's start is not refused before it holds the lock. -/
theorem startExecution_world {world : World UInt64} {address : ProgramAddress} (startMs : UInt64)
    (startable : Startable world address) : (startExecution address startMs world).world =
      (programServiceStartLocked quietDrivers address programStartContextManual
        { world with environment := startMs }).2 := by
  have inactive : programIsActive world.store = false := by
    rcases startable.free with state | state | state <;> simp [programIsActive,state]
  rcases programServiceStartWithContext_cases quietDrivers (some address) programStartContextManual
      { world with environment := startMs } with ⟨_,unfit⟩ | ⟨_,named,_,_,_,accepted⟩
  · exact absurd (unfit address rfl startable.valid rfl) (by simp [inactive])
  · cases named
    exact congrArg Prod.snd accepted

theorem startExecution_follows {world : World UInt64} {address : ProgramAddress} (startMs : UInt64)
    (startable : Startable world address) :
    Follows (world.memory.program address) world.store.masterValve.preOpenDelayMs
        (stepOutputs world.store (world.memory.program address)) (.opening startMs)
        (startExecution address startMs world) ∧
      (startExecution address startMs world).world.environment = startMs := by
  have healthy := startable.healthy
  obtain ⟨issued,starting,back⟩ := programServiceStartLocked_cases quietDrivers address programStartContextManual
    { world with environment := startMs }
  have stored := @programServiceStartLocked_opens { world with environment := startMs } address
    programStartContextManual startable.free startable.masterClosed
  rw [← startExecution_world startMs startable] at starting back stored
  have issuedEq := starting.opens healthy startable.free startable.masterClosed back.quiet.1
  have begun := healthy.programStarting starting back.quiet.1
  have history : (startExecution address startMs world).history =
      [] ++ issued.map fun call => ⟨startMs,call⟩ := Execution.perform_issued back.calls
  have environment : (startExecution address startMs world).world.environment = startMs := back.quiet.2
  refine ⟨⟨?_,?_,?_,?_,?_⟩,environment⟩
  · rw [stored] at begun ⊢
    exact startable.underway.kept begun (.of_eq rfl)
  · rw [stored]
    refine ⟨rfl,⟨rfl,rfl,.inl rfl⟩,?_⟩
    intro active
    obtain ⟨output,on⟩ := active
    exact on (startable.outputsOff output)
  · exact World.currentProgram_eq quietDrivers back
  · rw [Execution.calls,history,issuedEq]
    rfl
  · intro sinceMs since
    cases since
    rw [environment,history,issuedEq]
    exact ⟨rfl,UInt64.le_refl _⟩

/-- The default program under half a second of pre-open delay. -/
def delayedWorld : World UInt64 := { devWorld devProgram with store := bootedStore devZones devZones_configurable 500 }

theorem delayedWorld_startable : Startable delayedWorld 0 where
  reached := .boot (boot_of_configurable devZones_configurable 500)
  ready := rfl
  masterClosed := rfl
  outputsOff := fun _ => rfl
  free := .inl rfl
  valid := by decide
  enabled := by decide

/-- Polls before the delay is over and just before the first step is. -/
def delayedPolls : List Poll := [⟨499,.program⟩,⟨500,.masterValve⟩,⟨510,.program⟩,⟨30509,.program⟩,⟨30510,.program⟩]

/-- The default program, polled over a minute. -/
example : (Runs.after Execution.poll [⟨500,.program⟩,⟨30499,.program⟩,⟨30500,.program⟩,⟨60500,.program⟩,⟨60500,.program⟩]
    (startExecution 0 0 delayedWorld)).calls = programCalls (stepOutputs delayedWorld.store devProgram) := by
  decide +kernel

end Executions

end Irrigation
