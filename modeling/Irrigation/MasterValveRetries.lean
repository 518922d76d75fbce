import Irrigation.DeviceInvariants

/-! Which master valve closes reach the driver. The close is refused in FAULT, the state
that a failed close leaves, so a failed close cannot be retried. -/
namespace Irrigation

def DriverCommand.ofMasterValve : DriverCommand → Bool
  | .setOutput _ _ => false
  | .openAndConfirm | .closeAndConfirm => true

def lastMasterValveCall (calls : List DriverCall) : Option DriverCall :=
  (calls.filter (·.command.ofMasterValve)).getLast?

/-- The last command to the master valve's driver failed. -/
def LastMasterValveCallFailed (calls : List DriverCall) : Prop :=
  ∃ call, lastMasterValveCall calls = some call ∧ call.result ≠ .ok

instance (calls : List DriverCall) : Decidable (LastMasterValveCallFailed calls) :=
  decidable_of_iff ((lastMasterValveCall calls).any (·.result ≠ .ok))
    (by simp [LastMasterValveCallFailed,Option.any_eq_true])

theorem lastMasterValveCall_append_master (calls : List DriverCall) (call : DriverCall)
    (master : call.command.ofMasterValve = true) : lastMasterValveCall (calls ++ [call]) = some call := by
  simp [lastMasterValveCall,master]

theorem lastMasterValveCall_append_zone (calls : List DriverCall) {issued : List DriverCall}
    (zone : ∀ call ∈ issued, call.command.ofMasterValve = false) :
    lastMasterValveCall (calls ++ issued) = lastMasterValveCall calls := by
  have none : issued.filter (·.command.ofMasterValve) = [] := by simpa using zone
  simp [lastMasterValveCall,none]

theorem ZoneOpening.noMasterCall {store next : RuntimeState} {zoneId : Option CString} {durationMs : UInt32}
    {reads : UInt64 → Prop} {result : IrrigationResult} {issued : List DriverCall}
    (opening : ZoneOpening store zoneId durationMs reads result issued next) :
    next.masterValve = store.masterValve ∧ ∀ call ∈ issued, call.command.ofMasterValve = false := by
  cases opening <;> simp [openedZone,faultedZone,DriverCommand.ofMasterValve]

theorem ZoneClosing.noMasterCall {store next : RuntimeState} {zoneId : Option CString} {result : IrrigationResult}
    {issued : List DriverCall} (closing : ZoneClosing store zoneId result issued next) :
    next.masterValve = store.masterValve ∧ ∀ call ∈ issued, call.command.ofMasterValve = false := by
  cases closing <;> simp [closedZone_masterValve,faultedZone,DriverCommand.ofMasterValve]

theorem masterTimed_fault (store : RuntimeState) (nowMs : UInt64) :
    (masterTimed store nowMs).masterValve.state = .fault ↔ store.masterValve.state = .fault := by
  unfold masterTimed
  split
  · rename_i timed
    simp [timed.1]
  · rfl

/-- The store's valve is in FAULT exactly when the driver failed last. -/
def FaultRecorded {ε : Type} (store : RuntimeState) (calls : List DriverCall) (_ : ε) : Prop :=
  store.masterValve.state = .fault ↔ LastMasterValveCallFailed calls

theorem MasterClosing.ineligible {store next : RuntimeState} {result : IrrigationResult} {issued : List DriverCall}
    (closing : MasterClosing store result issued next) (refuses : ¬stateStoreMasterValveCloseIsEligible store) :
    issued = [] := by
  cases closing with
  | refused => rfl
  | closed eligible => exact absurd eligible refuses
  | failed eligible => exact absurd eligible refuses

theorem MasterClosing.eligible {store next : RuntimeState} {result : IrrigationResult} {issued : List DriverCall}
    (closing : MasterClosing store result issued next) (accepts : stateStoreMasterValveCloseIsEligible store) :
    issued = [⟨.closeAndConfirm,result⟩] ∧ (result = .ok → next.masterValve.state = .closed) := by
  cases closing with
  | refused _ ineligible => exact absurd accepts ineligible
  | closed => exact ⟨rfl,fun _ => rfl⟩
  | failed _ notOk => exact ⟨rfl,fun ok => absurd ok notOk⟩

section Retries

variable {ε : Type} (drivers : Drivers ε)

theorem faultRecorded_invariant : DeviceInvariant drivers FaultRecorded where
  zoneOpening recorded opening _ := by
    obtain ⟨same,zone⟩ := opening.noMasterCall
    simpa only [FaultRecorded,LastMasterValveCallFailed,same,lastMasterValveCall_append_zone _ zone] using recorded
  zoneClosing recorded closing _ := by
    obtain ⟨same,zone⟩ := closing.noMasterCall
    simpa only [FaultRecorded,LastMasterValveCallFailed,same,lastMasterValveCall_append_zone _ zone] using recorded
  masterOpened {_ calls _ _ _ _} _ _ _ _ := by
    have last := lastMasterValveCall_append_master calls ⟨.openAndConfirm,.ok⟩ rfl
    simp [FaultRecorded,LastMasterValveCallFailed,last,masterOpening]
  masterUnopened {_ calls _ _ failure} _ _ _ notOk := by
    have last := lastMasterValveCall_append_master calls ⟨.openAndConfirm,failure⟩ rfl
    simpa [FaultRecorded,LastMasterValveCallFailed,last,masterFaulted] using notOk
  masterTimed {store _ _ _ now} recorded _ _ := (masterTimed_fault store now).trans recorded
  masterClosing {_ _ calls _ _ _ result} recorded closing _ := by
    have last := lastMasterValveCall_append_master calls ⟨.closeAndConfirm,result⟩ rfl
    cases closing with
    | refused => simpa [FaultRecorded] using recorded
    | closed => simp [FaultRecorded,LastMasterValveCallFailed,last,masterClosed]
    | failed eligible notOk => simpa [FaultRecorded,LastMasterValveCallFailed,last,masterFaulted] using notOk
  program _ _ recorded := recorded
  tick recorded := recorded

/-- With all outputs off and the valve perhaps open, a close reaches the driver, and closes
the valve when the driver confirms. -/
def CloseRetriable (world : World ε) : Prop :=
  ¬hasActiveOrUnknownOutput world.store →
    (world.store.masterValve.state = .opening ∨ world.store.masterValve.state = .open ∨
      world.store.masterValve.state = .fault) →
    ∃ result, (operate drivers .masterClose world).calls = world.calls ++ [⟨.closeAndConfirm,result⟩] ∧
      (result = .ok → (operate drivers .masterClose world).store.masterValve.state = .closed)

theorem closeRetriable_iff (world : World ε) : CloseRetriable drivers world ↔
    (world.store.masterValve.state = .fault → hasActiveOrUnknownOutput world.store) := by
  obtain ⟨issued,closing,back⟩ := masterValveServiceClose_cases drivers world
  have called : (operate drivers .masterClose world).calls = world.calls ++ issued := back.calls
  constructor
  · intro retriable broken
    by_contra off
    obtain ⟨result,calls,_⟩ := retriable off (.inr (.inr broken))
    have none := closing.ineligible (by simp [stateStoreMasterValveCloseIsEligible,broken])
    simp [called,none] at calls
  · intro working off state
    have eligible : stateStoreMasterValveCloseIsEligible world.store := by
      refine ⟨?_,off⟩
      rcases state with opening | opened | broken
      · exact .inr opening
      · exact .inl opened
      · exact absurd (working broken) off
    obtain ⟨single,closes⟩ := closing.eligible eligible
    exact ⟨_,called.trans (by rw [single]),closes⟩

/-- Closes can be retried in every state of a run exactly when no state follows a failed
master valve command with all outputs off. -/
theorem master_close_retriable_iff {zones : List Zone} {preOpenDelayMs : UInt32} {world : World ε}
    (booted : boot zones preOpenDelayMs = .ok world.store) (fresh : world.calls = []) (commands : List Command) :
    Runs.Throughout (operate drivers) (CloseRetriable drivers) commands world ↔
      Runs.Throughout (operate drivers)
        (fun world => LastMasterValveCallFailed world.calls → hasActiveOrUnknownOutput world.store) commands world := by
  have initially : world.Meets FaultRecorded := by
    obtain ⟨_,stored⟩ := boot_ok booted
    simp [World.Meets,FaultRecorded,LastMasterValveCallFailed,lastMasterValveCall,fresh,stored,bootedStore]
  have recorded := (faultRecorded_invariant drivers).throughout initially commands
  have agree : ∀ done todo, commands = done ++ todo →
      (CloseRetriable drivers (Runs.after (operate drivers) done world) ↔
        (LastMasterValveCallFailed (Runs.after (operate drivers) done world).calls →
          hasActiveOrUnknownOutput (Runs.after (operate drivers) done world).store)) := by
    intro done todo split
    rw [closeRetriable_iff]
    exact imp_congr_left (recorded done todo split)
  exact forall₃_congr agree

end Retries

/-- The valve's driver fails a number of closes, then recovers. -/
def stuckValveDrivers : Drivers Nat where
  perform := fun command failures => match command, failures with
    | .closeAndConfirm, failures + 1 => (.internalError,failures)
    | _, failures => (.ok,failures)
  nowMs := fun failures => (0,failures)

def stuckValveWorld : World Nat := { devWorld devProgram with environment := 1 }

/-- A failed close of an open valve; the driver has recovered, and no close reaches it. -/
theorem master_close_not_retriable : ¬∀ {ε : Type} (drivers : Drivers ε) (zones : List Zone) (preOpenDelayMs : UInt32)
    (world : World ε), boot zones preOpenDelayMs = .ok world.store → world.calls = [] → ∀ commands : List Command,
      Runs.Throughout (operate drivers) (CloseRetriable drivers) commands world := by
  intro always
  have retriable := always stuckValveDrivers devZones 0 stuckValveWorld
    (boot_of_configurable devZones_configurable 0) rfl [.masterOpen,.masterProcessTime,.masterClose]
    [.masterOpen,.masterProcessTime,.masterClose] [] rfl
  have outputs := (closeRetriable_iff stuckValveDrivers _).mp retriable (by decide)
  exact absurd outputs (by decide)

theorem master_close_retriable_iff_confirmed :
    Runs.Throughout (operate stuckValveDrivers) (CloseRetriable stuckValveDrivers)
      [.masterOpen,.masterProcessTime] stuckValveWorld := by
  refine (master_close_retriable_iff stuckValveDrivers (boot_of_configurable devZones_configurable 0) rfl _).mpr ?_
  rw [Runs.throughout_cons,Runs.throughout_cons,Runs.throughout_nil]
  decide

end Irrigation
