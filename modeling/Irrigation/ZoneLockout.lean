import Irrigation.DeviceInvariants

/-! A zone output that failed once locks zones out: the system stays in ERROR, and no
output is commanded on again, while closes still reach the driver. -/
namespace Irrigation

def DriverCall.FailedOutput (call : DriverCall) : Prop :=
  (∃ index enabled, call.command = .setOutput index enabled) ∧ call.result ≠ .ok

def DriverCall.SwitchesOn (call : DriverCall) : Prop := ∃ index, call.command = .setOutput index true

/-- No output is commanded on after one failed. -/
def LockedAfterFault (calls : List DriverCall) : Prop :=
  calls.Pairwise fun earlier later => earlier.FailedOutput → ¬later.SwitchesOn

/-- A failed output leaves the system in ERROR. -/
structure FaultLocked {ε : Type} (store : RuntimeState) (calls : List DriverCall) (_ : ε) : Prop where
  error : (∃ call ∈ calls, call.FailedOutput) → store.systemState = .error
  order : LockedAfterFault calls

@[simp] theorem closedZone_error (store : RuntimeState) (zone : ZoneRuntimeState) :
    (closedZone store zone).systemState = .error ↔ store.systemState = .error := by
  simp only [closedZone]
  split
  · rename_i ended
    have manual : store.systemState = .manual := ended.2
    simp [manual]
  · rfl

theorem FaultLocked.extend {ε : Type} {store next : RuntimeState} {calls issued : List DriverCall}
    {before after : ε} (locked : FaultLocked store calls before) (ordered : LockedAfterFault issued)
    (none : store.systemState = .error → ∀ call ∈ issued, ¬call.SwitchesOn)
    (stays : store.systemState = .error → next.systemState = .error)
    (falls : (∃ call ∈ issued, call.FailedOutput) → next.systemState = .error) :
    FaultLocked next (calls ++ issued) after where
  error := by
    rintro ⟨call,member,failed⟩
    rcases List.mem_append.mp member with early | late
    · exact stays (locked.error ⟨call,early,failed⟩)
    · exact falls ⟨call,late,failed⟩
  order := by
    refine List.pairwise_append.mpr ⟨locked.order,ordered,?_⟩
    intro earlier early later late failed
    exact none (locked.error ⟨earlier,early,failed⟩) later late

section Locks

variable {ε : Type} (drivers : Drivers ε)

theorem Openable.noError {store : RuntimeState} {id : CString} {zone : ZoneRuntimeState}
    (openable : Openable store id zone) : store.systemState ≠ .error := by
  rcases openable.system with ready | manual <;> simp [*]

theorem faultLocked_invariant : DeviceInvariant drivers FaultLocked where
  zoneOpening locked opening _ := by
    cases opening with
    | refused => exact locked.extend .nil (by simp) id (by simp)
    | opened named openable =>
      refine locked.extend (List.pairwise_singleton _ _) (fun error => absurd error openable.noError)
        (fun error => absurd error openable.noError) ?_
      simp [DriverCall.FailedOutput]
    | failed named openable notOk safeOff =>
      refine locked.extend ?_ (fun error => absurd error openable.noError) (fun _ => rfl) fun _ => rfl
      simp [LockedAfterFault,DriverCall.SwitchesOn]
  zoneClosing locked closing _ := by
    cases closing with
    | refused => exact locked.extend .nil (by simp) id (by simp)
    | closed =>
      exact locked.extend (List.pairwise_singleton _ _) (by simp [DriverCall.SwitchesOn]) (by simp)
        (by simp [DriverCall.FailedOutput])
    | failed =>
      exact locked.extend (List.pairwise_singleton _ _) (by simp [DriverCall.SwitchesOn]) (fun _ => rfl) fun _ => rfl
  masterOpened locked _ _ _ :=
    locked.extend (List.pairwise_singleton _ _) (by simp [DriverCall.SwitchesOn]) id (by simp [DriverCall.FailedOutput])
  masterUnopened locked _ _ _ :=
    locked.extend (List.pairwise_singleton _ _) (by simp [DriverCall.SwitchesOn]) id (by simp [DriverCall.FailedOutput])
  masterTimed {store _ _ _ now} locked _ _ := by
    have system : (masterTimed store now).systemState = store.systemState := by
      unfold masterTimed
      split <;> rfl
    exact ⟨fun failed => system.trans (locked.error failed),locked.order⟩
  masterClosing locked closing _ := by
    cases closing with
    | refused => exact locked.extend .nil (by simp) id (by simp)
    | closed =>
      exact locked.extend (List.pairwise_singleton _ _) (by simp [DriverCall.SwitchesOn]) id
        (by simp [DriverCall.FailedOutput])
    | failed =>
      exact locked.extend (List.pairwise_singleton _ _) (by simp [DriverCall.SwitchesOn]) id
        (by simp [DriverCall.FailedOutput])
  program _ _ locked := ⟨locked.error,locked.order⟩
  tick locked := ⟨locked.error,locked.order⟩

omit drivers in
/-- A close that may be retried commands the output off and goes by the driver's answer. -/
theorem ZoneClosing.retried {store next : RuntimeState} {id : CString} {zone : ZoneRuntimeState}
    {result : IrrigationResult} {issued : List DriverCall} (closable : Closable store id zone)
    (closing : ZoneClosing store (some id) result issued next) :
    issued = [⟨.setOutput zone.outputIndex false,result⟩] ∧
      next = if result = .ok then closedZone store zone else faultedZone store zone .unknown := by
  cases closing with
  | refused failed notClosable => exact absurd closable (notClosable id zone rfl)
  | closed named other =>
    cases named
    cases closable.found.symm.trans other.found
    exact ⟨rfl,rfl⟩
  | failed named other notOk =>
    cases named
    cases closable.found.symm.trans other.found
    exact ⟨rfl,(if_neg notOk).symm⟩

/-- What a close does to a zone that may be closed: the output is commanded off, and a confirmed
command brings zone and output back without leaving ERROR. -/
structure RetriedClose (world next : World ε) (id : CString) (zone : ZoneRuntimeState) (result : IrrigationResult) :
    Prop where
  called : next.calls = world.calls ++ [⟨.setOutput zone.outputIndex false,result⟩]
  idle : result = .ok → ∃ closed, next.store.zones.findZone id = some closed ∧ closed.state = .idle
  off : result = .ok → next.store.outputStates zone.outputIndex = .off
  error : world.store.systemState = .error → next.store.systemState = .error

theorem zoneClose_retried {world : World ε} {id : CString} {zone : ZoneRuntimeState}
    (closable : Closable world.store id zone) :
    ∃ result, RetriedClose world (operate drivers (.zoneClose (some id)) world) id zone result := by
  obtain ⟨issued,closing,back⟩ := zoneServiceClose_cases drivers (some id) world
  obtain ⟨called,stored⟩ := closing.retried closable
  refine ⟨(zoneServiceClose drivers (some id) world).1,back.calls.trans (by rw [called]),?_,?_,?_⟩
  · intro ok
    obtain ⟨_,rfl⟩ := ZoneTable.findZone_some closable.found
    simp only [operate,execute,stored,ok,if_true,closedZone_zones]
    exact ⟨_,ZoneTable.findZone_update_self _ closable.found,rfl⟩
  · intro ok
    simp only [operate,execute,stored,ok,if_true,closedZone_outputStates,Function.update_self]
  · intro error
    simp only [operate,execute,stored]
    split
    · exact (closedZone_error _ _).mpr error
    · rfl

/-- Once an output command failed, no later operation commands any output on; zones can
still be closed. -/
theorem zone_fault_lockout {world : World ε} (fresh : world.calls = []) (commands : List Command) :
    LockedAfterFault (run drivers commands world).calls ∧
      ((∃ call ∈ (run drivers commands world).calls, call.FailedOutput) →
        (run drivers commands world).store.systemState = .error) ∧
      ∀ id zone, Closable (run drivers commands world).store id zone → ∃ result,
        RetriedClose (run drivers commands world)
          (operate drivers (.zoneClose (some id)) (run drivers commands world)) id zone result := by
  have initially : world.Meets FaultLocked := by
    rw [World.Meets,fresh]
    exact ⟨by simp,.nil⟩
  have locked : FaultLocked _ _ _ :=
    (faultLocked_invariant drivers).throughout initially commands commands [] (by simp)
  exact ⟨locked.order,locked.error,fun id zone closable => zoneClose_retried drivers closable⟩

end Locks

/-- A driver whose commands fail until its environment counts down to zero. -/
def recoveringDrivers : Drivers Nat where
  perform := fun command failures => match command, failures with
    | .setOutput _ _, failures + 1 => (.internalError,failures)
    | _, failures => (.ok,failures)
  nowMs := fun failures => (0,failures)

theorem zone_fault_lockout_recovering :
    LockedAfterFault (run recoveringDrivers [.masterOpen,.masterProcessTime,.zoneOpen (some (.literal "zone-1")) 0,
      .zoneOpen (some (.literal "zone-2")) 0] { devWorld devProgram with environment := 2 }).calls :=
  (zone_fault_lockout recoveringDrivers rfl _).1

end Irrigation
