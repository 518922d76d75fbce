import Irrigation.Operations
import Irrigation.Library.Runs
import Mathlib.Logic.Function.Iterate

/-! The production board's status LED: calls of `set_state`, cut into their critical sections
and timer calls, with the blink timer's callback anywhere in between. -/
namespace Irrigation

/-! ### The driver -/

inductive StatusLedState where
  | booting | ready | networkDisconnected | fault
  deriving DecidableEq, Repr

def statusLedSlowHalfPeriodUs : UInt64 := 500000
def statusLedFastHalfPeriodUs : UInt64 := 125000

def blinkHalfPeriodUs (state : StatusLedState) : UInt64 :=
  if state = .fault then statusLedFastHalfPeriodUs else statusLedSlowHalfPeriodUs

/-- The driver, the level of its pin and the period that its timer runs with. -/
structure StatusLed where
  initialized : Bool
  state : StatusLedState
  ledOn : Bool
  level : Bool
  timer : Option UInt64
  deriving DecidableEq, Repr

namespace StatusLed

def setLedLevel (led : StatusLed) (ledOn : Bool) : StatusLed := { led with ledOn, level := ledOn }

def blinkTimerCallback (led : StatusLed) : StatusLed := led.setLedLevel (led.state == .ready || !led.ledOn)

/-- The critical section that changes the state. -/
def storeState (led : StatusLed) (state : StatusLedState) : StatusLed := { led with state }.setLedLevel true

/-- The critical section after the timer failed to start. -/
def clearLed (led : StatusLed) : StatusLed := led.setLedLevel (led.state == .ready)

end StatusLed

/-- What a call of `set_state` has yet to do. -/
inductive SetStateStage where
  | stop | store | start | clear
  deriving DecidableEq, Repr

/-- The driver with its call in progress, and the last call's state and answer. -/
structure StatusLedRun where
  led : StatusLed
  pending : Option (SetStateStage × StatusLedState)
  answered : Option (StatusLedState × IrrigationResult)
  deriving DecidableEq, Repr

namespace StatusLedRun

def answer (run : StatusLedRun) (state : StatusLedState) (result : IrrigationResult) : StatusLedRun :=
  { run with pending := none, answered := some (state,result) }

/-- A call up to the end of its first critical section. -/
def call (run : StatusLedRun) (state : StatusLedState) : StatusLedRun :=
  if ¬run.led.initialized then run.answer state .invalidState
  else if run.led.state = state then run.answer state .ok
  else { run with pending := some (.stop,state) }

/-- The next part of the call in progress; `started` is what a timer start answers. -/
def resume (run : StatusLedRun) (started : Bool) : StatusLedRun :=
  match run.pending with
  | none => run
  | some (.stop,state) => { run with led := { run.led with timer := none }, pending := some (.store,state) }
  | some (.store,state) => { run with led := run.led.storeState state, pending := some (.start,state) }
  | some (.start,state) =>
    if state = .ready then run.answer state .ok
    else if started then { run with led := { run.led with timer := some (blinkHalfPeriodUs state) } }.answer state .ok
    else { run with pending := some (.clear,state) }
  | some (.clear,state) => { run with led := run.led.clearLed }.answer state .internalError

end StatusLedRun

inductive StatusLedStep where
  | call (state : StatusLedState)
  | resume (started : Bool)
  | callback
  deriving DecidableEq, Repr

/-- One call follows another; a callback comes at any time, the timer running or not. -/
def statusLedStep : StatusLedStep → StatusLedRun → StatusLedRun
  | .call state, run => if run.pending = none then run.call state else run
  | .resume started, run => run.resume started
  | .callback, run => { run with led := run.led.blinkTimerCallback }

/-- The driver as its initialization prepares it. -/
def initializedLed : StatusLed := ⟨true,.ready,false,false,none⟩

/-- Initializing ends in a call for the booting state. -/
def bootingLed : StatusLedRun := StatusLedRun.call ⟨initializedLed,none,none⟩ .booting

/-! ### The service -/

structure StatusLedService where
  networkStateKnown : Bool
  networkConnected : Bool
  fault : Bool
  deriving DecidableEq, Repr

def selectState (service : StatusLedService) : StatusLedState :=
  if service.fault then .fault
  else if ¬service.networkStateKnown then .booting
  else if service.networkConnected then .ready
  else .networkDisconnected

def statusLedServiceInit : StatusLedService := ⟨false,false,false⟩

/-- A refresh calls the driver for the selected state. -/
def statusLedServiceRefresh (service : StatusLedService) : StatusLedStep := .call (selectState service)

/-! ### What the LED shows -/

namespace StatusLed

/-- High under any callbacks when ready; otherwise blinking with the state's half period. -/
def Displays (led : StatusLed) (state : StatusLedState) : Prop :=
  if state = .ready then ∀ callbacks, (blinkTimerCallback^[callbacks] led).level = true
  else led.timer = some (blinkHalfPeriodUs state) ∧ ∀ callbacks,
    (blinkTimerCallback^[callbacks + 1] led).level = !(blinkTimerCallback^[callbacks] led).level

variable {led : StatusLed}

@[simp] theorem blinkTimerCallback_state (led : StatusLed) : led.blinkTimerCallback.state = led.state := rfl

@[simp] theorem blinkTimerCallback_level (led : StatusLed) :
    led.blinkTimerCallback.level = led.blinkTimerCallback.ledOn := rfl

theorem callbacks_ready (ready : led.state = .ready) (high : led.level = true) (callbacks : Nat) :
    (blinkTimerCallback^[callbacks] led).level = true := by
  induction callbacks generalizing led with
  | zero => exact high
  | succ callbacks ih =>
    rw [Function.iterate_succ_apply]
    have still : led.blinkTimerCallback.state = .ready := ready
    refine ih still ?_
    simp [blinkTimerCallback,setLedLevel,ready]

theorem callbacks_blink (blinking : led.state ≠ .ready) (shown : led.level = led.ledOn) (callbacks : Nat) :
    (blinkTimerCallback^[callbacks + 1] led).level = !(blinkTimerCallback^[callbacks] led).level := by
  induction callbacks generalizing led with
  | zero => simp [blinkTimerCallback,setLedLevel,blinking,shown]
  | succ callbacks ih =>
    rw [Function.iterate_succ_apply,Function.iterate_succ_apply blinkTimerCallback callbacks]
    have still : led.blinkTimerCallback.state ≠ .ready := blinking
    exact ih still rfl

end StatusLed

/-- The last call was answered OK and none is in progress: the LED shows its state. -/
def ShowsConfirmed (run : StatusLedRun) : Prop :=
  run.pending = none → ∀ state, run.answered = some (state,.ok) → run.led.Displays state

/-- A call for the state that is stored already, while the timer that should blink it is not running. -/
def AsksUnstarted (step : StatusLedStep) (run : StatusLedRun) : Prop :=
  ∃ state, step = .call state ∧ state ≠ .ready ∧ run.pending = none ∧ run.led.state = state ∧ run.led.timer = none

/-- Between calls the driver stores the last one's state; its timer runs unless it failed to start. -/
structure Settled (led : StatusLed) (state : StatusLedState) (result : IrrigationResult) : Prop where
  stored : led.state = state
  ready : state = .ready → led.ledOn = true
  blinking : state ≠ .ready → led.timer = none ∨ led.timer = some (blinkHalfPeriodUs state)
  confirmed : state ≠ .ready → result = .ok → led.timer = some (blinkHalfPeriodUs state)

/-- What each part of a call leaves to the next. -/
def Staged (run : StatusLedRun) : Prop :=
  match run.pending with
  | none => ∃ state result, run.answered = some (state,result) ∧ Settled run.led state result
  | some (.stop,_) => True
  | some (.store,_) => run.led.timer = none
  | some (.start,state) => run.led.state = state ∧ run.led.timer = none ∧ (state = .ready → run.led.ledOn = true)
  | some (.clear,state) => run.led.state = state ∧ run.led.timer = none ∧ state ≠ .ready

structure LedInvariant (run : StatusLedRun) : Prop where
  initialized : run.led.initialized = true
  shown : run.led.level = run.led.ledOn
  staged : Staged run

theorem bootingLed_invariant : LedInvariant bootingLed := ⟨rfl,rfl,trivial⟩

theorem LedInvariant.callback {run : StatusLedRun} (invariant : LedInvariant run) :
    LedInvariant (statusLedStep .callback run) := by
  obtain ⟨initialized,shown,staged⟩ := invariant
  refine ⟨initialized,rfl,?_⟩
  have high (ready : run.led.state = .ready) : run.led.blinkTimerCallback.ledOn = true := by
    simp [StatusLed.blinkTimerCallback,StatusLed.setLedLevel,ready]
  unfold Staged at staged ⊢
  simp only [statusLedStep]
  split <;> rename_i waiting <;> simp only [waiting] at staged
  · obtain ⟨state,result,answered,settled⟩ := staged
    exact ⟨state,result,answered,settled.stored,fun ready => high (settled.stored.trans ready),settled.blinking,
      settled.confirmed⟩
  · trivial
  · exact staged
  · obtain ⟨stored,stopped,_⟩ := staged
    exact ⟨stored,stopped,fun ready => high (stored.trans ready)⟩
  · exact staged

theorem LedInvariant.call {run : StatusLedRun} (invariant : LedInvariant run) {state : StatusLedState}
    (started : ¬AsksUnstarted (.call state) run) : LedInvariant (statusLedStep (.call state) run) := by
  obtain ⟨initialized,shown,staged⟩ := invariant
  simp only [statusLedStep]
  split
  · next idle =>
    simp only [StatusLedRun.call,initialized,not_true_eq_false,if_false]
    split
    · next stored =>
      refine ⟨initialized,shown,state,.ok,rfl,?_⟩
      simp only [Staged,idle] at staged
      obtain ⟨last,result,_,settled⟩ := staged
      obtain rfl : last = state := settled.stored.symm.trans stored
      have runs (blinks : last ≠ .ready) : run.led.timer = some (blinkHalfPeriodUs last) :=
        (settled.blinking blinks).resolve_left fun stopped => started ⟨last,rfl,blinks,idle,stored,stopped⟩
      exact ⟨stored,settled.ready,settled.blinking,fun blinks _ => runs blinks⟩
    · exact ⟨initialized,shown,trivial⟩
  · exact ⟨initialized,shown,staged⟩

theorem LedInvariant.resume {run : StatusLedRun} (invariant : LedInvariant run) (started : Bool) :
    LedInvariant (statusLedStep (.resume started) run) := by
  obtain ⟨initialized,shown,staged⟩ := invariant
  simp only [statusLedStep,StatusLedRun.resume]
  split <;> rename_i waiting <;> simp only [Staged,waiting] at staged
  · exact ⟨initialized,shown,by simpa only [Staged,waiting] using staged⟩
  · exact ⟨initialized,shown,rfl⟩
  · exact ⟨initialized,rfl,rfl,staged,fun _ => rfl⟩
  · rename_i state
    obtain ⟨stored,stopped,high⟩ := staged
    split
    · next ready => exact ⟨initialized,shown,state,.ok,rfl,stored,high,fun blinks => absurd ready blinks,
        fun blinks => absurd ready blinks⟩
    · next blinks =>
      split
      · exact ⟨initialized,shown,state,.ok,rfl,stored,high,fun _ => .inr rfl,fun _ _ => rfl⟩
      · exact ⟨initialized,shown,stored,stopped,blinks⟩
  · rename_i state
    obtain ⟨stored,stopped,blinks⟩ := staged
    exact ⟨initialized,rfl,state,.internalError,rfl,stored,fun ready => absurd ready blinks,fun _ => .inl stopped,
      fun _ failed => absurd failed (by decide)⟩

theorem LedInvariant.step {run : StatusLedRun} (invariant : LedInvariant run) {step : StatusLedStep}
    (started : ¬AsksUnstarted step run) : LedInvariant (statusLedStep step run) := by
  cases step with
  | call state => exact invariant.call started
  | resume answer => exact invariant.resume answer
  | callback => exact invariant.callback

theorem LedInvariant.showsConfirmed {run : StatusLedRun} (invariant : LedInvariant run) : ShowsConfirmed run := by
  intro idle state confirmed
  have staged := invariant.staged
  simp only [Staged,idle] at staged
  obtain ⟨last,result,answered,settled⟩ := staged
  rw [confirmed,Option.some_inj,Prod.mk.injEq] at answered
  obtain ⟨rfl,rfl⟩ := answered
  unfold StatusLed.Displays
  split
  · next ready => exact StatusLed.callbacks_ready (settled.stored.trans ready) (invariant.shown.trans (settled.ready ready))
  · next blinks =>
    refine ⟨settled.confirmed blinks rfl,StatusLed.callbacks_blink ?_ invariant.shown⟩
    rw [settled.stored]
    exact blinks

/-- A call that finds its state stored and the timer stopped is answered OK and shows nothing. -/
theorem unstarted_not_shown {run : StatusLedRun} (invariant : LedInvariant run) {step : StatusLedStep}
    (asks : AsksUnstarted step run) : ¬ShowsConfirmed (statusLedStep step run) := by
  obtain ⟨state,rfl,blinks,idle,stored,stopped⟩ := asks
  have unchanged : statusLedStep (.call state) run = run.answer state .ok := by
    simp only [statusLedStep,if_pos idle,StatusLedRun.call,invariant.initialized,not_true_eq_false,if_false,if_pos stored]
  rw [unchanged]
  intro shows
  have displays := shows rfl state rfl
  rw [StatusLed.Displays,if_neg blinks] at displays
  have runs : run.led.timer = some (blinkHalfPeriodUs state) := displays.1
  rw [stopped] at runs
  contradiction

/-- From initialization on, in every interleaving of calls and callbacks, the LED shows what was
confirmed throughout exactly when no call asks for a blinking state that is stored with its timer
stopped, as a failed start leaves it. -/
theorem shows_confirmed_iff (steps : List StatusLedStep) :
    Runs.Throughout statusLedStep ShowsConfirmed steps bootingLed ↔
      Runs.Along statusLedStep (fun step run => ¬AsksUnstarted step run) steps bootingLed :=
  Runs.throughout_iff_along_of LedInvariant (fun _ invariant => invariant.showsConfirmed)
    (fun _ _ invariant started => invariant.step started)
    (fun _ _ invariant shows asks => unstarted_not_shown invariant asks shows) bootingLed_invariant

/-- The timer fails to start while the driver is initialized; the service's first refresh is told
that the LED shows the booting state. -/
theorem failed_start_confirmed :
    let steps : List StatusLedStep := [.resume true,.resume true,.resume false,.resume true,
      statusLedServiceRefresh statusLedServiceInit]
    let ended := Runs.after statusLedStep steps bootingLed
    ended.pending = none ∧ ended.answered = some (.booting,.ok) ∧ ended.led.timer = none ∧ ended.led.level = false ∧
      ¬Runs.Throughout statusLedStep ShowsConfirmed steps bootingLed := by
  intro steps ended
  have stopped : ended.led.timer = none := by decide
  have answered : ended.answered = some (.booting,.ok) := by decide
  refine ⟨by decide,answered,stopped,by decide,fun throughout => ?_⟩
  have shows : ShowsConfirmed ended := throughout steps [] (List.append_nil steps).symm
  have displays := shows (by decide) _ answered
  rw [StatusLed.Displays,if_neg (by decide),stopped] at displays
  exact absurd displays.1 (by decide)

end Irrigation
