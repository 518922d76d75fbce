import Irrigation.DeviceInvariants

/-! The position of the master valve against the state that the store keeps of it. Every
driver answer keeps the two in step, but the store starts from a constant and the
production driver's initialisation does not move the valve. -/
namespace Irrigation

inductive ValvePosition where
  | closed | open
  deriving DecidableEq, Repr

section Positions

variable {ε : Type} (drivers : Drivers ε) (position : ε → ValvePosition)

/-- A confirmed command leaves the valve where it was asked to be, a failed one anywhere;
outputs and clock do not move it. -/
structure Positioned : Prop where
  opens : ∀ environment, (drivers.perform .openAndConfirm environment).1 = .ok →
    position (drivers.perform .openAndConfirm environment).2 = .open
  closes : ∀ environment, (drivers.perform .closeAndConfirm environment).1 = .ok →
    position (drivers.perform .closeAndConfirm environment).2 = .closed
  outputs : ∀ index enabled environment,
    position (drivers.perform (.setOutput index enabled) environment).2 = position environment
  clock : ∀ environment, position (drivers.nowMs environment).2 = position environment

def ClosedTruly (world : World ε) : Prop :=
  world.store.masterValve.state = .closed → position world.environment = .closed

/-- What `app_main` does with the store and the services, step by step. -/
inductive AppStep where
  | transitionReady
  | configureZones (zones : List Zone)
  | masterValveServiceInit (preOpenDelayMs : UInt32)
  | operation (command : Command)

def appStep : AppStep → World ε → World ε
  | .transitionReady, world => (commit (stateStoreTransitionSystem · .ready) world).2
  | .configureZones zones, world => (commit (stateStoreConfigureZones · zones) world).2
  | .masterValveServiceInit preOpenDelayMs, world =>
    (commit (stateStoreConfigureMasterValve · preOpenDelayMs) world).2
  | .operation command, world => operate drivers command world

/-- `app_main` from `state_store_init` on, then any operations. -/
def appMain (zones : List Zone) (preOpenDelayMs : UInt32) (commands : List Command) : List AppStep :=
  .transitionReady :: .configureZones zones :: .masterValveServiceInit preOpenDelayMs ::
    commands.map .operation

variable {drivers position}

theorem Positioned.ticks {before after : ε} (positioned : Positioned drivers position)
    (ticks : Ticks drivers before after) : position after = position before :=
  ticks.keep (fun environment => position environment = position before)
    (fun environment same => (positioned.clock environment).trans same) rfl

/-- Commands to outputs do not move the valve. -/
theorem Positioned.unmoved {before after : ε} {issued : List DriverCall} (positioned : Positioned drivers position)
    (driven : Driven drivers before issued after)
    (zone : ∀ call ∈ issued, ∃ index enabled, call.command = .setOutput index enabled) :
    position after = position before := by
  induction issued generalizing before with
  | nil => exact positioned.ticks driven
  | cons call rest ih =>
    obtain ⟨reached,waits,_,later⟩ := driven
    obtain ⟨index,enabled,command⟩ := zone call (by simp)
    rw [ih later fun other member => zone other (by simp [member]),command,positioned.outputs,positioned.ticks waits]

theorem closedTruly_invariant (positioned : Positioned drivers position) :
    DeviceInvariant drivers fun store _ environment => store.masterValve.state = .closed → position environment = .closed where
  zoneOpening truly opening driven := by
    have unmoved : ∀ {issued : List DriverCall} {before after : ε}, Driven drivers before issued after →
        (∀ call ∈ issued, ∃ index enabled, call.command = .setOutput index enabled) → position after = position before :=
      positioned.unmoved
    cases opening with
    | refused => exact fun closed => (unmoved driven (by simp)).trans (truly closed)
    | opened => exact fun closed => (unmoved driven (by simp)).trans (truly closed)
    | failed => exact fun closed => (unmoved driven (by simp)).trans (truly closed)
  zoneClosing truly closing driven := by
    cases closing with
    | refused => exact fun closed => (positioned.unmoved driven (by simp)).trans (truly closed)
    | closed =>
      rw [closedZone_masterValve]
      exact fun closed => (positioned.unmoved driven (by simp)).trans (truly closed)
    | failed => exact fun closed => (positioned.unmoved driven (by simp)).trans (truly closed)
  masterOpened _ _ _ _ := nofun
  masterUnopened _ _ _ _ := nofun
  masterTimed {store _ _ _ now} _ opening _ := by
    have unclosed : (masterTimed store now).masterValve.state ≠ .closed := by
      unfold masterTimed
      split <;> simp [opening]
    exact fun closed => absurd closed unclosed
  masterClosing truly closing driven := by
    cases closing with
    | refused => exact fun closed => (positioned.unmoved driven (by simp)).trans (truly closed)
    | closed =>
      obtain ⟨reached,_,confirmed,later⟩ := driven
      intro _
      rw [positioned.ticks later]
      exact positioned.closes reached confirmed
    | failed => exact nofun
  program _ _ truly := truly
  tick truly closed := (positioned.clock _).trans (truly closed)

theorem commit_closedTruly {operation : RuntimeState → Except IrrigationResult RuntimeState} {world : World ε}
    (valve : ∀ store, operation world.store = .ok store → store.masterValve.state = world.store.masterValve.state)
    (truly : ClosedTruly position world) : ClosedTruly position (commit operation world).2 := by
  cases run : operation world.store with
  | error result =>
    rw [run_commit_error run]
    exact truly
  | ok store =>
    rw [run_commit_ok run]
    intro closed
    exact truly ((valve store run).symm.trans closed)

theorem appStep_closedTruly (positioned : Positioned drivers position) (step : AppStep) (world : World ε)
    (truly : ClosedTruly position world) : ClosedTruly position (appStep drivers step world) := by
  cases step with
  | transitionReady =>
    refine commit_closedTruly (fun store accepted => ?_) truly
    unfold stateStoreTransitionSystem at accepted
    split at accepted
    · cases accepted
      rfl
    · contradiction
  | configureZones zones =>
    refine commit_closedTruly (fun store accepted => ?_) truly
    unfold stateStoreConfigureZones at accepted
    split at accepted
    · cases accepted
      rfl
    · contradiction
  | masterValveServiceInit preOpenDelayMs =>
    refine commit_closedTruly (fun store accepted => ?_) truly
    unfold stateStoreConfigureMasterValve at accepted
    split at accepted
    · contradiction
    · cases accepted
      rfl
  | operation command => exact (closedTruly_invariant positioned).relation.operate command world truly

/-- The store's CLOSED is the valve's in every state from power-up on exactly when the
valve was closed at power-up. -/
theorem closed_truly_iff (positioned : Positioned drivers position) {world : World ε}
    (powered : world.store = stateStoreInit) (zones : List Zone) (preOpenDelayMs : UInt32) (commands : List Command) :
    Runs.Throughout (appStep drivers) (ClosedTruly position) (appMain zones preOpenDelayMs commands) world ↔
      position world.environment = .closed := by
  constructor
  · intro truly
    exact truly [] _ rfl (by rw [Runs.after_nil,powered]; rfl)
  · intro closed
    exact Runs.invariant_throughout _ (fun step world truly _ => appStep_closedTruly positioned step world truly)
      (fun _ => closed) (Runs.along_true _ world)

end Positions

/-- A valve that obeys every command, as the environment. -/
def valveDrivers : Drivers ValvePosition where
  perform := fun command position => match command with
    | .setOutput _ _ => (.ok,position)
    | .openAndConfirm => (.ok,.open)
    | .closeAndConfirm => (.ok,.closed)
  nowMs := fun position => (0,position)

theorem valveDrivers_positioned : Positioned valveDrivers id :=
  ⟨fun _ _ => rfl,fun _ _ => rfl,fun _ _ _ => rfl,fun _ => rfl⟩

def poweredWorld (position : ValvePosition) : World ValvePosition :=
  { devWorld devProgram with store := stateStoreInit, environment := position }

theorem closed_truly_iff_obedient :
    Runs.Throughout (appStep valveDrivers) (ClosedTruly id)
      (appMain devZones 500 [.masterOpen,.masterProcessTime,.masterClose]) (poweredWorld .closed) :=
  (closed_truly_iff valveDrivers_positioned rfl devZones 500 _).mpr rfl

/-- A valve left open across a reboot. -/
theorem closed_not_truly : ¬∀ {ε : Type} (drivers : Drivers ε) (position : ε → ValvePosition),
    Positioned drivers position → ∀ (world : World ε), world.store = stateStoreInit →
      ∀ (zones : List Zone) (preOpenDelayMs : UInt32) (commands : List Command),
        Runs.Throughout (appStep drivers) (ClosedTruly position) (appMain zones preOpenDelayMs commands) world := by
  intro always
  have truly := always valveDrivers id valveDrivers_positioned (poweredWorld .open) rfl devZones 500 []
    (appMain devZones 500 []) [] (by simp)
  have closed : ValvePosition.open = .closed := truly (by decide)
  contradiction

end Irrigation
