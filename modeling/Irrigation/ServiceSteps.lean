import Irrigation.Services

/-! What one service call can do to the store, case by case, with the driver calls it
issues. Every later statement about runs cites these cases and never unfolds a service. -/
namespace Irrigation

section Running

variable {ε α β : Type}

@[simp] theorem run_bind (first : Service ε α) (next : α → Service ε β) (world : World ε) :
    (first >>= next) world = next (first world).1 (first world).2 := rfl

theorem run_bind_of {first : Service ε α} {next : α → Service ε β} {world after : World ε} {value : α}
    (run : first world = (value,after)) : (first >>= next) world = next value after := by
  rw [run_bind,run]

@[simp] theorem run_pure (value : α) (world : World ε) : (pure value : Service ε α) world = (value,world) := rfl

@[simp] theorem run_get (world : World ε) : (get : Service ε (World ε)) world = (world,world) := rfl

@[simp] theorem run_pure_bind (value : α) (next : α → Service ε β) (world : World ε) :
    (pure value >>= next) world = next value world := rfl

@[simp] theorem run_snapshot_bind (next : RuntimeState → Service ε α) (world : World ε) :
    (snapshot >>= next) world = next world.store world := rfl

@[simp] theorem run_get_bind (next : World ε → Service ε α) (world : World ε) :
    ((get : Service ε (World ε)) >>= next) world = next world world := rfl

@[simp] theorem run_snapshot (world : World ε) : snapshot world = (world.store,world) := rfl

@[simp] theorem run_ite (condition : Prop) [Decidable condition] (first second : Service ε α)
    (world : World ε) :
    (if condition then first else second) world = if condition then first world else second world := by
  split <;> rfl

theorem run_commit_ok {operation : RuntimeState → Except IrrigationResult RuntimeState} {world : World ε}
    {store : RuntimeState} (accepted : operation world.store = .ok store) :
    commit operation world = (.ok,{ world with store }) := by
  simp only [commit,accepted]

theorem run_commit_error {operation : RuntimeState → Except IrrigationResult RuntimeState}
    {world : World ε} {result : IrrigationResult} (refused : operation world.store = .error result) :
    commit operation world = (result,world) := by
  simp only [commit,refused]

end Running

/-! ### Frames -/

section Frames

variable {ε : Type} (drivers : Drivers ε)

/-- The clock stands still at a time and the devices do not change the environment. -/
structure Steady (time : UInt64) (environment : ε) : Prop where
  clock : drivers.nowMs environment = (time,environment)
  devices : ∀ command, (drivers.perform command environment).2 = environment

/-- A clock reading; it is determined where the clock stands still. -/
def Reads (world : World ε) (now : UInt64) : Prop := ∀ time, Steady drivers time world.environment → now = time

/-- From one world to the next only the store, the environment and the traces changed,
and these driver calls were issued. -/
structure Issued (world next : World ε) (issued : List DriverCall) : Prop where
  calls : next.calls = world.calls ++ issued
  memory : next.memory = world.memory
  program : next.program = world.program
  startContext : next.startContext = world.startContext
  entries : next.entries = world.entries
  steady : ∀ time, Steady drivers time world.environment → next.environment = world.environment
  results : ∀ call ∈ issued, ∃ environment, call.result = (drivers.perform call.command environment).1

variable {drivers} {world middle next : World ε} {first second : List DriverCall}

theorem Issued.refl (world : World ε) : Issued drivers world world [] :=
  ⟨by simp,rfl,rfl,rfl,rfl,fun _ _ => rfl,nofun⟩

theorem Issued.steadyAt (issued : Issued drivers world next first) {time : UInt64}
    (steady : Steady drivers time world.environment) : Steady drivers time next.environment := by
  rw [issued.steady time steady]
  exact steady

theorem Issued.trans (front : Issued drivers world middle first) (back : Issued drivers middle next second) :
    Issued drivers world next (first ++ second) where
  calls := by rw [back.calls,front.calls,List.append_assoc]
  memory := back.memory.trans front.memory
  program := back.program.trans front.program
  startContext := back.startContext.trans front.startContext
  entries := back.entries.trans front.entries
  steady := fun time steady => (back.steady time (front.steadyAt steady)).trans (front.steady time steady)
  results := fun call member => (List.mem_append.mp member).elim (front.results call) (back.results call)

theorem Reads.after (issued : Issued drivers world next first) {now : UInt64} (reads : Reads drivers next now) :
    Reads drivers world now := fun time steady => reads time (issued.steadyAt steady)

theorem Issued.store (world : World ε) (store : RuntimeState) :
    Issued drivers world { world with store } [] :=
  ⟨by simp,rfl,rfl,rfl,rfl,fun _ _ => rfl,nofun⟩

variable (drivers)

theorem perform_results {command : DriverCommand} (world : World ε) :
    ∀ call ∈ [(⟨command,(drivers.perform command world.environment).1⟩ : DriverCall)],
      ∃ environment, call.result = (drivers.perform call.command environment).1 := by
  intro call member
  cases List.mem_singleton.mp member
  exact ⟨world.environment,rfl⟩

theorem outputDriverSet_run {index : Fin irrigationMaxOutputs} {enabled : Bool} {world driven : World ε}
    {result : IrrigationResult} (run : outputDriverSet drivers index enabled world = (result,driven)) :
    driven.store = world.store ∧ Issued drivers world driven [⟨.setOutput index enabled,result⟩] := by
  cases run
  exact ⟨rfl,rfl,rfl,rfl,rfl,rfl,fun _ steady => steady.devices (.setOutput index enabled),perform_results drivers world⟩

theorem masterValveDriverOpenAndConfirm_run {world driven : World ε} {result : IrrigationResult}
    (run : masterValveDriverOpenAndConfirm drivers world = (result,driven)) :
    driven.store = world.store ∧ Issued drivers world driven [⟨.openAndConfirm,result⟩] := by
  cases run
  exact ⟨rfl,rfl,rfl,rfl,rfl,rfl,fun _ steady => steady.devices .openAndConfirm,perform_results drivers world⟩

theorem masterValveDriverCloseAndConfirm_run {world driven : World ε} {result : IrrigationResult}
    (run : masterValveDriverCloseAndConfirm drivers world = (result,driven)) :
    driven.store = world.store ∧ Issued drivers world driven [⟨.closeAndConfirm,result⟩] := by
  cases run
  exact ⟨rfl,rfl,rfl,rfl,rfl,rfl,fun _ steady => steady.devices .closeAndConfirm,perform_results drivers world⟩

theorem clockNowMs_run {world read : World ε} {now : UInt64} (run : clockNowMs drivers world = (now,read)) :
    read.store = world.store ∧ Issued drivers world read [] ∧ Reads drivers world now := by
  cases run
  refine ⟨rfl,⟨by simp,rfl,rfl,rfl,rfl,?_,nofun⟩,?_⟩
  · intro time steady
    exact congrArg Prod.snd steady.clock
  · intro time steady
    exact congrArg Prod.fst steady.clock

theorem publishZoneEvent_issued (type : EventType) (zoneId : CString) (world : World ε) :
    (publishZoneEvent drivers type zoneId world).2.store = world.store ∧
      Issued drivers world (publishZoneEvent drivers type zoneId world).2 [] := by
  cases run : clockNowMs drivers world with
  | mk now read =>
    obtain ⟨same,issued,_⟩ := clockNowMs_run drivers run
    simp only [publishZoneEvent,run_bind,run]
    exact ⟨same,issued.calls,issued.memory,issued.program,issued.startContext,issued.entries,issued.steady,nofun⟩

theorem publishExecutionEvent_issued (type : EventType) (result : ProgramExecutionResult) (stepIndex : Nat)
    (zoneId : Option CString) (world : World ε) :
    (publishExecutionEvent drivers type result stepIndex zoneId world).2.store = world.store ∧
      Issued drivers world (publishExecutionEvent drivers type result stepIndex zoneId world).2 [] := by
  cases run : clockNowMs drivers world with
  | mk now read =>
    obtain ⟨same,issued,_⟩ := clockNowMs_run drivers run
    simp only [publishExecutionEvent,run_bind,run]
    exact ⟨same,issued.calls,issued.memory,issued.program,issued.startContext,issued.entries,issued.steady,nofun⟩

end Frames

/-! ### Zones -/

/-- A zone that may be opened now. -/
structure Openable (store : RuntimeState) (zoneId : CString) (zone : ZoneRuntimeState) : Prop where
  found : store.zones.findZone zoneId = some zone
  idle : zone.state = .idle
  masterOpen : store.masterValve.state = .open
  outputsOff : ¬hasActiveOrUnknownOutput store
  system : store.systemState = .ready ∨ store.systemState = .manual

def openedZone (store : RuntimeState) (zone : ZoneRuntimeState) (openedAtMs : UInt64) (durationMs : UInt32) :
    RuntimeState :=
  { store with
    systemState := .manual
    zones := store.zones.update zone.zoneId fun _ => ⟨.open,openedAtMs,durationMs⟩
    outputStates := Function.update store.outputStates zone.outputIndex .on }

def faultedZone (store : RuntimeState) (zone : ZoneRuntimeState) (outputState : OutputState) : RuntimeState :=
  { store with
    systemState := .error
    zones := store.zones.update zone.zoneId fun status => { status with state := .fault }
    outputStates := Function.update store.outputStates zone.outputIndex outputState }

/-- A zone that may be closed now. -/
structure Closable (store : RuntimeState) (zoneId : CString) (zone : ZoneRuntimeState) : Prop where
  found : store.zones.findZone zoneId = some zone
  state : zone.state = .open ∨ zone.state = .fault

inductive ZoneOpening (store : RuntimeState) (zoneId : Option CString) (durationMs : UInt32)
    (reads : UInt64 → Prop) : IrrigationResult → List DriverCall → RuntimeState → Prop
  | refused {result : IrrigationResult} (failed : result ≠ .ok)
      (notOpenable : ∀ id zone, zoneId = some id → ¬Openable store id zone) :
      ZoneOpening store zoneId durationMs reads result [] store
  | opened {id : CString} {zone : ZoneRuntimeState} (named : zoneId = some id) (openable : Openable store id zone)
      {openedAtMs : UInt64} (now : reads openedAtMs) :
      ZoneOpening store zoneId durationMs reads .ok [⟨.setOutput zone.outputIndex true,.ok⟩]
        (openedZone store zone openedAtMs (if durationMs = 0 then zone.durationMs else durationMs))
  | failed {id : CString} {zone : ZoneRuntimeState} (named : zoneId = some id) (openable : Openable store id zone)
      {failure : IrrigationResult} (notOk : failure ≠ .ok) (safeOff : IrrigationResult) :
      ZoneOpening store zoneId durationMs reads failure
        [⟨.setOutput zone.outputIndex true,failure⟩,⟨.setOutput zone.outputIndex false,safeOff⟩]
        (faultedZone store zone (if safeOff = .ok then .off else .unknown))

theorem ZoneOpening.imp {store next : RuntimeState} {zoneId : Option CString} {durationMs : UInt32}
    {reads readsMore : UInt64 → Prop} {result : IrrigationResult} {issued : List DriverCall}
    (more : ∀ now, reads now → readsMore now)
    (opening : ZoneOpening store zoneId durationMs reads result issued next) :
    ZoneOpening store zoneId durationMs readsMore result issued next := by
  cases opening with
  | refused failed notOpenable => exact .refused failed notOpenable
  | opened named openable now => exact .opened named openable (more _ now)
  | failed named openable notOk safeOff => exact .failed named openable notOk safeOff

theorem closedZone_masterValve (store : RuntimeState) (zone : ZoneRuntimeState) :
    (closedZone store zone).masterValve = store.masterValve := by
  simp only [closedZone]
  split <;> rfl

theorem closedZone_zones (store : RuntimeState) (zone : ZoneRuntimeState) :
    (closedZone store zone).zones = store.zones.update zone.zoneId fun status => ⟨.idle,0,status.durationMs⟩ := by
  simp only [closedZone]
  split <;> rfl

theorem closedZone_outputStates (store : RuntimeState) (zone : ZoneRuntimeState) : (closedZone store zone).outputStates =
    Function.update store.outputStates zone.outputIndex .off := by
  simp only [closedZone]
  split <;> rfl

inductive ZoneClosing (store : RuntimeState) (zoneId : Option CString) :
    IrrigationResult → List DriverCall → RuntimeState → Prop
  | refused {result : IrrigationResult} (failed : result ≠ .ok)
      (notClosable : ∀ id zone, zoneId = some id → ¬Closable store id zone) :
      ZoneClosing store zoneId result [] store
  | closed {id : CString} {zone : ZoneRuntimeState} (named : zoneId = some id) (closable : Closable store id zone) :
      ZoneClosing store zoneId .ok [⟨.setOutput zone.outputIndex false,.ok⟩] (closedZone store zone)
  | failed {id : CString} {zone : ZoneRuntimeState} (named : zoneId = some id) (closable : Closable store id zone)
      {failure : IrrigationResult} (notOk : failure ≠ .ok) :
      ZoneClosing store zoneId failure [⟨.setOutput zone.outputIndex false,failure⟩]
        (faultedZone store zone .unknown)

/-- Zones closed one after another. -/
inductive ZoneClosings : RuntimeState → List DriverCall → RuntimeState → Prop
  | done (store : RuntimeState) : ZoneClosings store [] store
  | next {store middle final : RuntimeState} {zoneId : Option CString} {result : IrrigationResult}
      {first later : List DriverCall} (closing : ZoneClosing store zoneId result first middle)
      (closings : ZoneClosings middle later final) : ZoneClosings store (first ++ later) final

section Zones

variable {ε : Type} (drivers : Drivers ε)

theorem masterValveServiceCheckZoneStart_run (world : World ε) :
    masterValveServiceCheckZoneStart world =
      (if world.store.masterValve.state = .open then .ok else .invalidState,world) := rfl

/-- Recording a fault of a zone that is not disabled. -/
theorem faultZone_run {world : World ε} {zoneId : CString} {zone : ZoneRuntimeState}
    (found : world.store.zones.findZone zoneId = some zone) (enabled : zone.state ≠ .disabled)
    (outputState : OutputState) :
    (faultZone drivers zoneId outputState world).2.store = faultedZone world.store zone outputState ∧
      Issued drivers world (faultZone drivers zoneId outputState world).2 [] := by
  obtain ⟨_,rfl⟩ := ZoneTable.findZone_some found
  have recorded : stateStoreRecordZoneActuationFault world.store zone.zoneId outputState =
      .ok (faultedZone world.store zone outputState) := by
    simp [stateStoreRecordZoneActuationFault,found,enabled,faultedZone]
  have run : commit (stateStoreRecordZoneActuationFault · zone.zoneId outputState) world =
      (.ok,{ world with store := faultedZone world.store zone outputState }) := run_commit_ok recorded
  obtain ⟨same,issued⟩ := publishZoneEvent_issued drivers .zoneFaulted zone.zoneId
    { world with store := faultedZone world.store zone outputState }
  simp only [faultZone,run_bind,run,run_ite,if_true,run_pure]
  exact ⟨same,(Issued.store world _).trans issued⟩

theorem zoneServiceClose_cases (zoneId : Option CString) (world : World ε) :
    ∃ issued, ZoneClosing world.store zoneId (zoneServiceClose drivers zoneId world).1 issued
        (zoneServiceClose drivers zoneId world).2.store ∧
      Issued drivers world (zoneServiceClose drivers zoneId world).2 issued := by
  cases zoneId with
  | none => exact ⟨[],.refused nofun nofun,.refl world⟩
  | some id =>
    cases found : world.store.zones.findZone id with
    | none =>
      simp only [zoneServiceClose,run_bind,run_snapshot,stateStoreGetZone,found,run_pure]
      refine ⟨[],.refused nofun ?_,.refl world⟩
      intro _ zone named closable
      cases named
      cases found.symm.trans closable.found
    | some zone =>
      simp only [zoneServiceClose,run_bind,run_snapshot,stateStoreGetZone,found,run_ite]
      split
      · rename_i unfit
        refine ⟨[],.refused nofun ?_,.refl world⟩
        intro _ other named closable
        cases named
        cases found.symm.trans closable.found
        exact closable.state.elim unfit.1 unfit.2
      · rename_i fit
        have closable : Closable world.store id zone := ⟨found,by tauto⟩
        obtain ⟨_,rfl⟩ := ZoneTable.findZone_some found
        cases run : outputDriverSet drivers zone.outputIndex false world with
        | mk result driven =>
          obtain ⟨same,front⟩ := outputDriverSet_run drivers run
          by_cases confirmed : result = .ok
          · subst confirmed
            have closes : stateStoreCloseZone driven.store zone.zoneId = .ok (closedZone world.store zone) := by
              simp only [stateStoreCloseZone,same,found]
              exact if_neg fit
            have committed : commit (stateStoreCloseZone · zone.zoneId) driven =
                (.ok,{ driven with store := closedZone world.store zone }) := run_commit_ok closes
            obtain ⟨kept,back⟩ := publishZoneEvent_issued drivers .zoneClosed zone.zoneId
              { driven with store := closedZone world.store zone }
            simp only [ne_eq,not_true_eq_false,if_false,committed,if_true,run_pure,kept]
            exact ⟨_,.closed rfl closable,(front.trans (.store driven _)).trans back⟩
          · have enabled : zone.state ≠ .disabled := by
              intro disabled
              simpa [disabled] using closable.state
            obtain ⟨stored,back⟩ := faultZone_run drivers (same.symm ▸ found : driven.store.zones.findZone _ = _) enabled .unknown
            simp only [ne_eq,confirmed,not_false_eq_true,if_true,run_pure,stored,same]
            exact ⟨_,.failed rfl closable confirmed,front.trans back⟩

/-- An open whose zone and valve were checked and whose system is MANUAL. -/
theorem zoneServiceActuateOpen_cases {id : CString} {zone : ZoneRuntimeState} {world : World ε}
    (openable : Openable world.store id zone) (manual : world.store.systemState = .manual)
    (durationMs : UInt32) :
    ∃ issued, ZoneOpening world.store (some id) durationMs (Reads drivers world)
        (zoneServiceActuateOpen drivers id durationMs world).1 issued
        (zoneServiceActuateOpen drivers id durationMs world).2.store ∧
      Issued drivers world (zoneServiceActuateOpen drivers id durationMs world).2 issued := by
  obtain ⟨_,rfl⟩ := ZoneTable.findZone_some openable.found
  have prepared : stateStorePrepareZoneOpen world.store zone.zoneId = .ok (zone.outputIndex,zone.durationMs) := by
    simp [stateStorePrepareZoneOpen,openable.found,manual,openable.idle,openable.masterOpen,openable.outputsOff]
  have enabled : zone.state ≠ .disabled := by simp [openable.idle]
  obtain ⟨effective,effectiveEq⟩ :
      ∃ effective, effective = if durationMs = 0 then zone.durationMs else durationMs := ⟨_,rfl⟩
  simp only [zoneServiceActuateOpen,run_bind,run_snapshot,prepared,← effectiveEq]
  cases run : outputDriverSet drivers zone.outputIndex true world with
  | mk result driven =>
    obtain ⟨same,front⟩ := outputDriverSet_run drivers run
    by_cases confirmed : result = .ok
    · subst confirmed
      cases clock : clockNowMs drivers driven with
      | mk now read =>
        obtain ⟨unread,middle,reads⟩ := clockNowMs_run drivers clock
        have opens : stateStoreOpenZone read.store zone.zoneId now effective =
            .ok (openedZone world.store zone now effective) := by
          simp only [stateStoreOpenZone,unread,same,prepared,openedZone,← manual]
        have committed : commit (stateStoreOpenZone · zone.zoneId now effective) read =
            (.ok,{ read with store := openedZone world.store zone now effective }) := run_commit_ok opens
        obtain ⟨kept,back⟩ := publishZoneEvent_issued drivers .zoneOpened zone.zoneId
          { read with store := openedZone world.store zone now effective }
        simp only [ne_eq,not_true_eq_false,run_ite,if_false,run_bind,clock,committed,run_pure,kept]
        refine ⟨_,?_,((front.trans middle).trans (.store read _)).trans back⟩
        simp only [effectiveEq]
        exact .opened rfl openable (reads.after front)
    · cases off : outputDriverSet drivers zone.outputIndex false driven with
      | mk safeOff released =>
        obtain ⟨still,middle⟩ := outputDriverSet_run drivers off
        have found : released.store.zones.findZone zone.zoneId = some zone := by
          rw [still,same]
          exact openable.found
        obtain ⟨stored,back⟩ := faultZone_run drivers found enabled (if safeOff = .ok then .off else .unknown)
        simp only [ne_eq,confirmed,not_false_eq_true,run_ite,if_true,run_bind,off,run_pure,stored,still,same]
        exact ⟨_,.failed rfl openable confirmed safeOff,(front.trans middle).trans back⟩

theorem ZoneOpening.of_manual {store : RuntimeState} {id : CString} {durationMs : UInt32}
    {reads : UInt64 → Prop} {result : IrrigationResult} {issued : List DriverCall} {next : RuntimeState}
    (opening : ZoneOpening { store with systemState := .manual } (some id) durationMs reads result issued next)
    {zone : ZoneRuntimeState} (openable : Openable store id zone) :
    ZoneOpening store (some id) durationMs reads result issued next := by
  cases opening with
  | refused failed notOpenable =>
    exact absurd ⟨openable.found,openable.idle,openable.masterOpen,openable.outputsOff,.inr rfl⟩
      (notOpenable id zone rfl)
  | opened named found now =>
    cases named
    cases found.found.symm.trans openable.found
    exact .opened rfl openable now
  | failed named found notOk safeOff =>
    cases named
    cases found.found.symm.trans openable.found
    exact .failed rfl openable notOk safeOff

theorem zoneServiceOpen_cases (zoneId : Option CString) (durationMs : UInt32) (world : World ε) :
    ∃ issued, ZoneOpening world.store zoneId durationMs (Reads drivers world)
        (zoneServiceOpen drivers zoneId durationMs world).1 issued
        (zoneServiceOpen drivers zoneId durationMs world).2.store ∧
      Issued drivers world (zoneServiceOpen drivers zoneId durationMs world).2 issued := by
  cases zoneId with
  | none => exact ⟨[],.refused nofun nofun,.refl world⟩
  | some id =>
    have refusing : ∀ result : IrrigationResult, result ≠ .ok → (∀ zone, ¬Openable world.store id zone) →
        ∃ issued, ZoneOpening world.store (some id) durationMs (Reads drivers world) result issued world.store ∧
          Issued drivers world world issued := by
      intro result failed notOpenable
      refine ⟨[],.refused failed ?_,.refl world⟩
      intro other zone named
      cases named
      exact notOpenable zone
    cases found : world.store.zones.findZone id with
    | none =>
      simp only [zoneServiceOpen,run_snapshot_bind,stateStoreGetZone,found,run_pure]
      exact refusing _ nofun fun zone openable => nomatch found.symm.trans openable.found
    | some zone =>
      have unique : ∀ other, Openable world.store id other → Openable world.store id zone := by
        intro other openable
        cases found.symm.trans openable.found
        exact openable
      by_cases idle : zone.state = .idle
      case neg =>
        simp only [zoneServiceOpen,run_snapshot_bind,stateStoreGetZone,found,run_ite,ne_eq,idle,
          not_false_eq_true,if_true,run_pure]
        exact refusing _ nofun fun other openable => idle (unique other openable).idle
      by_cases masterOpen : world.store.masterValve.state = .open
      case neg =>
        simp only [zoneServiceOpen,run_snapshot_bind,stateStoreGetZone,found,run_ite,ne_eq,idle,masterOpen,
          not_false_eq_true,not_true_eq_false,if_true,if_false,run_pure]
        exact refusing _ nofun fun other openable => masterOpen openable.masterOpen
      by_cases active : hasActiveOrUnknownOutput world.store
      case pos =>
        simp only [zoneServiceOpen,run_snapshot_bind,stateStoreGetZone,found,run_ite,ne_eq,idle,masterOpen,
          active,not_true_eq_false,if_true,if_false,run_pure]
        exact refusing _ nofun fun other openable => openable.outputsOff active
      simp only [zoneServiceOpen,run_snapshot_bind,stateStoreGetZone,found,run_ite,ne_eq,idle,masterOpen,
        active,not_true_eq_false,if_false]
      simp only [run_bind,masterValveServiceCheckZoneStart_run,masterOpen,run_ite,if_true,not_true_eq_false,
        if_false]
      by_cases ready : world.store.systemState = .ready
      · have openable : Openable world.store id zone := ⟨found,idle,masterOpen,active,.inl ready⟩
        have allowed : stateStoreTransitionSystem world.store .manual =
            .ok { world.store with systemState := .manual } := by
          simp [stateStoreTransitionSystem,ready,systemTransitionIsAllowed]
        have committed : commit (stateStoreTransitionSystem · .manual) world =
            (.ok,{ world with store := { world.store with systemState := .manual } }) := run_commit_ok allowed
        have manual : Openable { world.store with systemState := .manual } id zone :=
          ⟨found,idle,masterOpen,active,.inr rfl⟩
        obtain ⟨issued,opening,back⟩ : ∃ issued, ZoneOpening _ (some id) durationMs _
            (zoneServiceActuateOpen drivers id durationMs
              { world with store := { world.store with systemState := .manual } }).1 issued _ ∧ _ :=
          zoneServiceActuateOpen_cases drivers manual rfl durationMs
        simp only [ready,if_true,committed,not_true_eq_false,if_false]
        exact ⟨issued,opening.of_manual openable,(Issued.store world _).trans back⟩
      · simp only [ready,if_false,run_pure,not_true_eq_false]
        by_cases manual : world.store.systemState = .manual
        · exact zoneServiceActuateOpen_cases drivers ⟨found,idle,masterOpen,active,.inr manual⟩ manual durationMs
        · have unprepared : stateStorePrepareZoneOpen world.store id = .error .invalidState := by
            simp [stateStorePrepareZoneOpen,found,manual]
          simp only [zoneServiceActuateOpen,run_bind,run_snapshot,unprepared,run_pure]
          exact refusing _ nofun fun other openable => openable.system.elim ready manual

theorem closeActiveZones_cases (state : RuntimeState) (zones : List ZoneRuntimeState)
    (firstFailure : IrrigationResult) (world : World ε) :
    ∃ issued, ZoneClosings world.store issued (closeActiveZones drivers state zones firstFailure world).2.store ∧
      Issued drivers world (closeActiveZones drivers state zones firstFailure world).2 issued := by
  induction zones generalizing firstFailure world with
  | nil => exact ⟨[],.done _,.refl world⟩
  | cons zone rest ih =>
    simp only [closeActiveZones,run_ite]
    split
    · obtain ⟨first,closing,front⟩ := zoneServiceClose_cases drivers (some zone.zoneId) world
      simp only [run_bind]
      obtain ⟨later,closings,back⟩ := ih
        (if firstFailure = .ok then (zoneServiceClose drivers (some zone.zoneId) world).1 else firstFailure)
        (zoneServiceClose drivers (some zone.zoneId) world).2
      exact ⟨_,.next closing closings,front.trans back⟩
    · exact ih firstFailure world

theorem closeTimedOutZones_cases (nowMs : UInt64) (zones : List ZoneRuntimeState) (world : World ε) :
    ∃ issued, ZoneClosings world.store issued (closeTimedOutZones drivers nowMs zones world).2.store ∧
      Issued drivers world (closeTimedOutZones drivers nowMs zones world).2 issued := by
  induction zones generalizing world with
  | nil => exact ⟨[],.done _,.refl world⟩
  | cons zone rest ih =>
    simp only [closeTimedOutZones,run_ite]
    split
    · obtain ⟨first,closing,front⟩ := zoneServiceClose_cases drivers (some zone.zoneId) world
      simp only [run_bind]
      by_cases closed : (zoneServiceClose drivers (some zone.zoneId) world).1 = .ok
      · obtain ⟨same,middle⟩ := publishZoneEvent_issued drivers .zoneTimedOut zone.zoneId
          (zoneServiceClose drivers (some zone.zoneId) world).2
        obtain ⟨later,closings,back⟩ := ih (publishZoneEvent drivers .zoneTimedOut zone.zoneId
          (zoneServiceClose drivers (some zone.zoneId) world).2).2
        simp only [ne_eq,closed,not_true_eq_false,if_false,run_bind]
        rw [same] at closings
        exact ⟨_,.next closing closings,front.trans (middle.trans back)⟩
      · simp only [ne_eq,closed,not_false_eq_true,if_true,run_pure]
        exact ⟨_,.next closing (.done _),front.trans (.refl _)⟩
    · exact ih world

theorem zoneServiceSafeClose_cases (world : World ε) :
    ∃ issued, ZoneClosings world.store issued (zoneServiceSafeClose drivers world).2.store ∧
      Issued drivers world (zoneServiceSafeClose drivers world).2 issued :=
  closeActiveZones_cases drivers world.store world.store.zones.entries .ok world

theorem zoneServiceProcessTimeouts_cases (world : World ε) :
    ∃ issued, ZoneClosings world.store issued (zoneServiceProcessTimeouts drivers world).2.store ∧
      Issued drivers world (zoneServiceProcessTimeouts drivers world).2 issued := by
  cases clock : clockNowMs drivers world with
  | mk now read =>
    obtain ⟨same,front,_⟩ := clockNowMs_run drivers clock
    obtain ⟨issued,closings,back⟩ := closeTimedOutZones_cases drivers now world.store.zones.entries read
    simp only [zoneServiceProcessTimeouts,run_bind,run_snapshot,clock]
    rw [same] at closings
    exact ⟨issued,closings,front.trans back⟩

end Zones

/-! ### The master valve -/

def masterOpening (store : RuntimeState) (confirmedAtMs : UInt64) : RuntimeState :=
  { store with masterValve :=
    { store.masterValve with state := .opening, openingConfirmedAtMs := confirmedAtMs } }

/-- The valve counts as open once its pre-open delay is over. -/
def masterTimed (store : RuntimeState) (nowMs : UInt64) : RuntimeState :=
  if store.masterValve.state = .opening ∧
      ¬nowMs - store.masterValve.openingConfirmedAtMs < store.masterValve.preOpenDelayMs.toUInt64 then
    { store with masterValve := { store.masterValve with state := .open } }
  else store

def masterClosed (store : RuntimeState) : RuntimeState :=
  { store with masterValve := { store.masterValve with state := .closed, openingConfirmedAtMs := 0 } }

def masterFaulted (store : RuntimeState) : RuntimeState :=
  { store with masterValve := { store.masterValve with state := .fault } }

theorem masterTimed_zones (store : RuntimeState) (nowMs : UInt64) :
    (masterTimed store nowMs).zones = store.zones := by
  unfold masterTimed
  split <;> rfl

theorem masterTimed_outputStates (store : RuntimeState) (nowMs : UInt64) :
    (masterTimed store nowMs).outputStates = store.outputStates := by
  unfold masterTimed
  split <;> rfl

inductive MasterOpening (store : RuntimeState) : IrrigationResult → List DriverCall → RuntimeState → Prop
  | refused {result : IrrigationResult} (failed : result ≠ .ok) (busy : store.masterValve.state ≠ .closed)
      (working : store.masterValve.state ≠ .fault) : MasterOpening store result [] store
  | opening (idle : store.masterValve.state = .closed ∨ store.masterValve.state = .fault)
      (confirmedAtMs : UInt64) :
      MasterOpening store .ok [⟨.openAndConfirm,.ok⟩] (masterOpening store confirmedAtMs)
  | failed (idle : store.masterValve.state = .closed ∨ store.masterValve.state = .fault)
      {failure : IrrigationResult} (notOk : failure ≠ .ok) :
      MasterOpening store failure [⟨.openAndConfirm,failure⟩] (masterFaulted store)

inductive MasterClosing (store : RuntimeState) : IrrigationResult → List DriverCall → RuntimeState → Prop
  | refused {result : IrrigationResult} (failed : result ≠ .ok)
      (ineligible : ¬stateStoreMasterValveCloseIsEligible store) : MasterClosing store result [] store
  | closed (eligible : stateStoreMasterValveCloseIsEligible store) :
      MasterClosing store .ok [⟨.closeAndConfirm,.ok⟩] (masterClosed store)
  | failed (eligible : stateStoreMasterValveCloseIsEligible store)
      {failure : IrrigationResult} (notOk : failure ≠ .ok) :
      MasterClosing store failure [⟨.closeAndConfirm,failure⟩] (masterFaulted store)

section Master

variable {ε : Type} (drivers : Drivers ε)

/-- An open by hand, and that the driver's answer alone decides whether an idle valve opens. -/
theorem masterValveServiceOpen_answered (world : World ε) :
    ∃ issued, MasterOpening world.store (masterValveServiceOpen drivers world).1 issued
        (masterValveServiceOpen drivers world).2.store ∧
      Issued drivers world (masterValveServiceOpen drivers world).2 issued ∧
      ((masterValveServiceOpen drivers world).1 = .ok ↔
        (world.store.masterValve.state = .closed ∨ world.store.masterValve.state = .fault) ∧
          (drivers.perform .openAndConfirm world.environment).1 = .ok) := by
  simp only [masterValveServiceOpen,run_snapshot_bind,run_ite]
  split
  · rename_i busy
    refine ⟨[],.refused nofun busy.1 busy.2,.refl world,?_⟩
    exact iff_of_false (by simp) fun idle => idle.1.elim busy.1 busy.2
  · rename_i notBusy
    have idle : world.store.masterValve.state = .closed ∨ world.store.masterValve.state = .fault := by tauto
    simp only [run_bind]
    cases run : masterValveDriverOpenAndConfirm drivers world with
    | mk result driven =>
      have answer : (drivers.perform .openAndConfirm world.environment).1 = result := congrArg Prod.fst run
      obtain ⟨same,front⟩ := masterValveDriverOpenAndConfirm_run drivers run
      rw [answer]
      by_cases confirmed : result = .ok
      · subst confirmed
        cases clock : clockNowMs drivers driven with
        | mk now read =>
          obtain ⟨unread,middle,_⟩ := clockNowMs_run drivers clock
          have begins : stateStoreBeginMasterValveOpen read.store now = .ok (masterOpening world.store now) := by
            simp only [stateStoreBeginMasterValveOpen,unread,same]
            exact if_neg notBusy
          have committed : commit (stateStoreBeginMasterValveOpen · now) read =
              (.ok,{ read with store := masterOpening world.store now }) := run_commit_ok begins
          simp only [if_true,run_bind,clock,committed,ne_eq,not_true_eq_false,if_false,run_pure,run_ite]
          exact ⟨_,.opening idle now,(front.trans middle).trans (.store read _),iff_of_true trivial ⟨idle,trivial⟩⟩
      · have faulted : commit stateStoreRecordMasterValveFault driven =
            (.ok,{ driven with store := masterFaulted world.store }) := by
          rw [← same]
          exact run_commit_ok rfl
        simp only [confirmed,if_false,run_pure_bind,ne_eq,not_false_eq_true,run_ite,if_true]
        simp only [run_bind,faulted,run_pure]
        refine ⟨_,.failed idle confirmed,front.trans (.store driven _),?_⟩
        exact iff_of_false confirmed fun opens => opens.2

theorem masterValveServiceOpen_cases (world : World ε) :
    ∃ issued, MasterOpening world.store (masterValveServiceOpen drivers world).1 issued
        (masterValveServiceOpen drivers world).2.store ∧
      Issued drivers world (masterValveServiceOpen drivers world).2 issued := by
  obtain ⟨issued,opening,front,_⟩ := masterValveServiceOpen_answered drivers world
  exact ⟨issued,opening,front⟩

theorem masterValveServiceOpen_ok_iff (world : World ε) : (masterValveServiceOpen drivers world).1 = .ok ↔
    (world.store.masterValve.state = .closed ∨ world.store.masterValve.state = .fault) ∧
      (drivers.perform .openAndConfirm world.environment).1 = .ok := by
  obtain ⟨_,_,_,answered⟩ := masterValveServiceOpen_answered drivers world
  exact answered

theorem masterValveServiceProcessTime_run (world : World ε) :
    (masterValveServiceProcessTime drivers world).1 = .ok ∧
      (masterValveServiceProcessTime drivers world).2.store =
        masterTimed world.store (drivers.nowMs world.environment).1 ∧
      Issued drivers world (masterValveServiceProcessTime drivers world).2 [] := by
  by_cases opening : world.store.masterValve.state = .opening
  · cases clock : clockNowMs drivers world with
    | mk now read =>
      obtain ⟨same,issued,_⟩ := clockNowMs_run drivers clock
      have reading : (drivers.nowMs world.environment).1 = now := congrArg Prod.fst clock
      simp only [masterValveServiceProcessTime,run_snapshot_bind,run_ite,opening,if_true]
      simp only [run_bind,clock]
      rw [reading]
      by_cases early : now - world.store.masterValve.openingConfirmedAtMs <
          world.store.masterValve.preOpenDelayMs.toUInt64
      · have refused : stateStoreCompleteMasterValvePreOpenDelay read.store now = .error .timeout := by
          simp [stateStoreCompleteMasterValvePreOpenDelay,same,opening,early]
        rw [run_commit_error refused]
        refine ⟨rfl,?_,issued⟩
        simp only [run_pure,masterTimed,early,not_true_eq_false,and_false,if_false,same]
      · have accepted : stateStoreCompleteMasterValvePreOpenDelay read.store now =
            .ok (masterTimed world.store now) := by
          simp [stateStoreCompleteMasterValvePreOpenDelay,same,opening,early,masterTimed]
        rw [run_commit_ok accepted]
        exact ⟨rfl,rfl,issued.trans (.store read _)⟩
  · simp only [masterValveServiceProcessTime,run_snapshot_bind,run_ite,opening,if_false,run_pure,masterTimed,
      false_and]
    exact ⟨trivial,trivial,.refl world⟩

/-- A close by hand, and that an eligible one returns what the driver answers. -/
theorem masterValveServiceClose_answered (world : World ε) :
    ∃ issued, MasterClosing world.store (masterValveServiceClose drivers world).1 issued
        (masterValveServiceClose drivers world).2.store ∧
      Issued drivers world (masterValveServiceClose drivers world).2 issued ∧
      (stateStoreMasterValveCloseIsEligible world.store →
        (masterValveServiceClose drivers world).1 = (drivers.perform .closeAndConfirm world.environment).1) := by
  by_cases eligible : stateStoreMasterValveCloseIsEligible world.store
  · obtain ⟨closing,closingEq⟩ : ∃ store, store = { world.store with masterValve :=
        { world.store.masterValve with state := .closing } } := ⟨_,rfl⟩
    have begins : stateStoreBeginMasterValveClose world.store = .ok closing := by
      simp [stateStoreBeginMasterValveClose,eligible,closingEq]
    have begun : commit stateStoreBeginMasterValveClose world = (.ok,{ world with store := closing }) :=
      run_commit_ok begins
    simp only [masterValveServiceClose,run_bind,begun,ne_eq,not_true_eq_false,if_false]
    cases run : masterValveDriverCloseAndConfirm drivers { world with store := closing } with
    | mk result driven =>
      have answer : (drivers.perform .closeAndConfirm world.environment).1 = result := congrArg Prod.fst run
      obtain ⟨same,issued⟩ := masterValveDriverCloseAndConfirm_run drivers run
      rw [answer]
      have front := (Issued.store world closing).trans issued
      by_cases confirmed : result = .ok
      · subst confirmed
        have completes : stateStoreCompleteMasterValveClose driven.store = .ok (masterClosed world.store) := by
          simp [stateStoreCompleteMasterValveClose,same,closingEq,masterClosed]
        simp only [if_true,run_bind,run_commit_ok completes,not_true_eq_false,if_false,run_pure]
        exact ⟨_,.closed eligible,front.trans (.store driven _),fun _ => trivial⟩
      · have records : stateStoreRecordMasterValveFault driven.store = .ok (masterFaulted world.store) := by
          simp [stateStoreRecordMasterValveFault,same,closingEq,masterFaulted]
        simp only [confirmed,if_false,run_pure_bind,not_false_eq_true,run_ite,if_true]
        simp only [run_bind,run_commit_ok records,run_pure]
        exact ⟨_,.failed eligible confirmed,front.trans (.store driven _),fun _ => trivial⟩
  · have refused : stateStoreBeginMasterValveClose world.store = .error .invalidState := by
      simp [stateStoreBeginMasterValveClose,eligible]
    simp only [masterValveServiceClose,run_bind,run_commit_error refused]
    exact ⟨[],.refused nofun eligible,.refl world,fun closable => absurd closable eligible⟩

theorem masterValveServiceClose_cases (world : World ε) :
    ∃ issued, MasterClosing world.store (masterValveServiceClose drivers world).1 issued
        (masterValveServiceClose drivers world).2.store ∧
      Issued drivers world (masterValveServiceClose drivers world).2 issued := by
  obtain ⟨issued,closing,front,_⟩ := masterValveServiceClose_answered drivers world
  exact ⟨issued,closing,front⟩

end Master

end Irrigation
