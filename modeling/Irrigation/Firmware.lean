import Irrigation.HandledOccurrences
import Irrigation.StoreSafety
import Irrigation.WebHandlers
import Irrigation.ZoneTimeouts

/-! The firmware at work: its task and the requests of its web server take turns on the services,
the manager and the storage. What holds of one call holds of one request, and what every request
and every iteration keep holds in every state. -/
namespace Irrigation

open Numerals

/-! ### One request -/

/-- A duration of whole seconds, and not more of them than a request may give. -/
def InSeconds (step : IrrigationProgramStepConfiguration) : Prop :=
  ∃ seconds, 1 ≤ seconds ∧ seconds ≤ maxStepSeconds ∧ step.durationMs.toNat = 1000 * seconds

def Mutation.InSeconds : Mutation → Prop
  | .createProgram _ (some steps) | .updateProgram _ _ (some steps) => ∀ step ∈ steps, Irrigation.InSeconds step
  | _ => True

/-- An edit that rewrites or removes programs. -/
def Mutation.OfPrograms : Mutation → Prop
  | .createProgram _ _ | .updateProgram _ _ _ | .deleteProgram _ => True
  | _ => False

/-- An edit that a request can ask for. -/
structure WebEdit (store : RuntimeState) (mutation : Mutation) : Prop where
  incremental : ∀ candidate, mutation ≠ .replace candidate
  seconds : mutation.InSeconds
  idle : mutation.OfPrograms → programIsActive store = false

section Requests

variable {ε σ : Type} (drivers : Drivers ε) (device : Repository.ConfigurationRepositoryStorage σ)

/-- What a request does: nothing, one call of the services, or one edit of the configuration. It closes
the master valve only if it is a request to close it. -/
inductive Served (closes : Prop) (system : ManagedSystem ε σ) : WebAnswer × ManagedSystem ε σ → Prop
  | answered (answer : WebAnswer) : Served closes system (answer,system)
  | commanded (request : WebRequest) (asked : request = .closeMaster → closes) : Served closes system
      (.result (execute drivers request.command system.world).1,
        { system with world := operate drivers request.command system.world })
  | edited {mutation : Mutation} (edit : WebEdit system.world.store mutation) : Served closes system
      (.result (mutate device mutation system).1,(mutate device mutation system).2)

variable {drivers device} in
theorem Served.imp {closes closesMore : Prop} {system : ManagedSystem ε σ} {outcome : WebAnswer × ManagedSystem ε σ}
    (served : Served drivers device closes system outcome) (more : closes → closesMore) :
    Served drivers device closesMore system outcome := by
  cases served with
  | answered answer => exact .answered answer
  | commanded request asked => exact .commanded request fun same => more (asked same)
  | edited edit => exact .edited edit

theorem parseStep_inSeconds {zones : List Zone} {zone duration : List UInt8} {step : IrrigationProgramStepConfiguration}
    (parsed : parseStep zones zone duration = some step) : InSeconds step := by
  cases read : strtoul duration with
  | mk seconds rest =>
    simp only [parseStep,read] at parsed
    split at parsed
    · contradiction
    · next accepted =>
      simp only [not_or] at accepted
      obtain ⟨_,_,_,some,bounded,_⟩ := accepted
      cases parsed
      have positive : seconds.toNat ≠ 0 := fun zero => some (UInt32.toNat_inj.mp zero)
      change ¬seconds.toNat > 3600 at bounded
      refine ⟨seconds.toNat,by omega,by change seconds.toNat ≤ 3600; omega,?_⟩
      rw [UInt32.toNat_mul]
      have thousand : (1000 : UInt32).toNat = 1000 := rfl
      rw [thousand]
      omega

theorem parseTokens_inSeconds {zones : List Zone} {room : Nat} {zoneTokens durationTokens : List (List UInt8)}
    {steps : List IrrigationProgramStepConfiguration}
    (parsed : parseTokens zones room zoneTokens durationTokens = some steps) : ∀ step ∈ steps, InSeconds step := by
  induction room generalizing zoneTokens durationTokens steps with
  | zero =>
    cases zoneTokens with
    | nil =>
      cases durationTokens with
      | nil =>
        cases parsed
        exact nofun
      | cons => contradiction
    | cons => contradiction
  | succ room ih =>
    cases zoneTokens with
    | nil =>
      cases durationTokens with
      | nil =>
        cases parsed
        exact nofun
      | cons => contradiction
    | cons zone moreZones =>
      cases durationTokens with
      | nil => contradiction
      | cons duration moreDurations =>
        simp only [parseTokens,Option.bind_eq_bind,Option.bind_eq_some_iff,Option.pure_def,Option.some.injEq] at parsed
        obtain ⟨step,first,others,rest,rfl⟩ := parsed
        exact List.forall_mem_cons.mpr ⟨parseStep_inSeconds first,ih rest⟩

variable (library : QueryKeyValue) (request : HttpRequest) (zones : List Zone) (system : ManagedSystem ε σ)
  {closes : Prop}

theorem zoneHandler_served : Served drivers device closes system
    (.result (zoneHandler drivers library request system).1,(zoneHandler drivers library request system).2) := by
  unfold zoneHandler
  split
  · exact .answered _
  · next id _ =>
    split
    · exact .commanded (.openZone id) nofun
    · exact .commanded (.closeZone id) nofun

theorem masterHandler_served : Served drivers device (request.uri ≠ .literal "/master/open") system
    (.result (masterHandler drivers request system).1,(masterHandler drivers request system).2) := by
  unfold masterHandler
  split
  · exact .commanded .openMaster nofun
  · next closing => exact .commanded .closeMaster fun _ => closing

theorem programHandler_served : Served drivers device closes system
    (.result (programHandler drivers library request system).1,(programHandler drivers library request system).2) := by
  unfold programHandler
  split
  · exact .commanded .abortProgram nofun
  · exact .answered _
  · next index program _ => exact .commanded (.startProgram program) nofun

theorem zoneNameHandler_served : Served drivers device closes system
    (.result (zoneNameHandler device library request system).1,(zoneNameHandler device library request system).2) := by
  unfold zoneNameHandler
  split
  · exact .edited ⟨nofun,trivial,nofun⟩
  · exact .answered _

/-- Programs are only saved while none is active. -/
theorem programSaveHandler_served : Served drivers device closes system
    (.result (programSaveHandler device library zones request system).1,
      (programSaveHandler device library zones request system).2) := by
  unfold programSaveHandler
  split
  · exact .answered _
  · next inactive =>
    have idle : programIsActive system.world.store = false := by simpa using inactive
    split
    · split
      · exact .answered _
      · split
        · exact .answered _
        · next steps parsed =>
          have seconds := parseTokens_inSeconds parsed
          split
          · exact .edited ⟨nofun,seconds,fun _ => idle⟩
          · split
            · exact .answered _
            · exact .edited ⟨nofun,seconds,fun _ => idle⟩
    · exact .answered _

theorem programDeleteHandler_served : Served drivers device closes system
    (.result (programDeleteHandler device library request system).1,
      (programDeleteHandler device library request system).2) := by
  unfold programDeleteHandler
  split
  · exact .answered _
  · next inactive =>
    split
    · exact .answered _
    · exact .edited ⟨nofun,trivial,fun _ => by simpa using inactive⟩

theorem scheduleSaveHandler_served : Served drivers device closes system
    (.result (scheduleSaveHandler device library request system).1,
      (scheduleSaveHandler device library request system).2) := by
  unfold scheduleSaveHandler
  split
  · exact .answered _
  · dsimp only
    split
    · exact .edited ⟨nofun,trivial,nofun⟩
    · exact .edited ⟨nofun,trivial,nofun⟩

theorem scheduleDeleteHandler_served : Served drivers device closes system
    (.result (scheduleDeleteHandler device library request system).1,
      (scheduleDeleteHandler device library request system).2) := by
  unfold scheduleDeleteHandler
  split
  · exact .answered _
  · exact .edited ⟨nofun,trivial,nofun⟩

theorem scheduleHandler_served : Served drivers device closes system
    (.result (scheduleHandler device library request system).1,(scheduleHandler device library request system).2) := by
  unfold scheduleHandler
  split
  · exact .answered _
  · split
    · exact .answered _
    · split
      · exact .answered _
      · exact .edited ⟨nofun,trivial,nofun⟩

/-- A request to the handler of the master valve that does not open it. -/
def WebCall.ClosesMaster (call : WebCall) : Prop :=
  registeredHandler call.method call.path = some .masterHandler ∧ call.request.uri ≠ .literal "/master/open"

instance (call : WebCall) : Decidable call.ClosesMaster := inferInstanceAs (Decidable (_ ∧ _))

/-- Whatever the request is, and whatever the library makes of its query. -/
theorem serve_served (call : WebCall) :
    Served drivers device call.ClosesMaster system (serve drivers device library zones call system) := by
  unfold serve
  split
  · exact .answered _
  · next handler registered =>
    cases handler with
    | pageHandler | statusHandler | programsHandler | scheduleGetHandler => exact .answered _
    | zoneHandler => exact zoneHandler_served ..
    | zoneNameHandler => exact zoneNameHandler_served ..
    | masterHandler => exact (masterHandler_served ..).imp fun closing => ⟨registered,closing⟩
    | programHandler => exact programHandler_served ..
    | programSaveHandler => exact programSaveHandler_served ..
    | programDeleteHandler => exact programDeleteHandler_served ..
    | scheduleSaveHandler => exact scheduleSaveHandler_served ..
    | scheduleDeleteHandler => exact scheduleDeleteHandler_served ..
    | scheduleHandler => exact scheduleHandler_served ..

end Requests

/-! ### Requests and iterations -/

/-- The state that the task and the web server share, with the task's own tick count. -/
structure Firmware (ε σ : Type) where
  system : ManagedSystem ε σ
  tickCount : UInt16

/-- A step, with the environment it finds: time has passed since the last one. -/
inductive FirmwareStep (ε : Type) where
  | iteration (environment : ε) (time : Option SchedulerTime)
  | request (environment : ε) (call : WebCall)

def FirmwareStep.environment {ε : Type} : FirmwareStep ε → ε
  | .iteration environment _ | .request environment _ => environment

/-- The same step in another environment. -/
def FirmwareStep.found {ε ζ : Type} (environment : ζ) : FirmwareStep ε → FirmwareStep ζ
  | .iteration _ time => .iteration environment time
  | .request _ call => .request environment call

theorem FirmwareStep.found_environment {ε ζ : Type} (environment : ζ) (step : FirmwareStep ε) :
    (step.found environment).environment = environment := by
  cases step <;> rfl

section Steps

variable {ε σ : Type} (drivers : Drivers ε) (device : Repository.ConfigurationRepositoryStorage σ)
  (library : QueryKeyValue) (zones : List Zone)

def ManagedSystem.at (system : ManagedSystem ε σ) (environment : ε) : ManagedSystem ε σ :=
  { system with world := { system.world with environment } }

/-- An iteration of the task's loop. -/
def iterate (time : Option SchedulerTime) (firmware : Firmware ε σ) : Firmware ε σ :=
  let task := schedulerTaskIteration drivers time ⟨firmware.system.world,firmware.tickCount⟩
  ⟨{ firmware.system with world := task.world },task.tickCount⟩

def firmwareStep (step : FirmwareStep ε) (firmware : Firmware ε σ) : Firmware ε σ :=
  let found := { firmware with system := firmware.system.at step.environment }
  match step with
  | .iteration _ time => iterate drivers time found
  | .request _ call => { found with system := (serve drivers device library zones call found.system).2 }

/-- The steps of a run before each of which the same happens to the environment. -/
def paced (passing : ε → ε) : List (FirmwareStep Unit) → Firmware ε σ → List (FirmwareStep ε)
  | [],_ => []
  | step :: rest,firmware =>
    let found := step.found (passing firmware.system.world.environment)
    found :: paced passing rest (firmwareStep drivers device library zones found firmware)

theorem paced_along {passing : ε → ε} {passes : ε → ε → Prop}
    (passed : ∀ environment, passes environment (passing environment)) (steps : List (FirmwareStep Unit))
    (firmware : Firmware ε σ) : Runs.Along (firmwareStep drivers device library zones)
      (fun step firmware => passes firmware.system.world.environment step.environment)
      (paced drivers device library zones passing steps firmware) firmware := by
  induction steps generalizing firmware with
  | nil => trivial
  | cons step rest ih =>
    refine ⟨?_,ih _⟩
    dsimp only
    rw [FirmwareStep.found_environment]
    exact passed _

/-- What every call of the services and every edit keeps of the system. -/
structure SystemInvariant (invariant : ManagedSystem ε σ → Prop) : Prop where
  commanded : ∀ command system, invariant system →
    invariant { system with world := operate drivers command system.world }
  edited : ∀ mutation (system : ManagedSystem ε σ), invariant system → WebEdit system.world.store mutation →
    invariant (mutate device mutation system).2

variable {drivers device} {invariant : ManagedSystem ε σ → Prop} {system : ManagedSystem ε σ}

theorem SystemInvariant.served (kept : SystemInvariant drivers device invariant) (holds : invariant system)
    {closes : Prop} {outcome : WebAnswer × ManagedSystem ε σ} (served : Served drivers device closes system outcome) :
    invariant outcome.2 := by
  cases served with
  | answered => exact holds
  | commanded request => exact kept.commanded _ _ holds
  | edited edit => exact kept.edited _ _ holds edit

theorem SystemInvariant.iterate (kept : SystemInvariant drivers device invariant) {firmware : Firmware ε σ}
    (holds : invariant firmware.system) (time : Option SchedulerTime) :
    invariant (iterate drivers time firmware).system := by
  have timed := kept.commanded .masterProcessTime _ holds
  have polled : invariant { firmware.system with
      world := if programIsActive (operate drivers .masterProcessTime firmware.system.world).store then
        operate drivers .programProcess (operate drivers .masterProcessTime firmware.system.world)
        else operate drivers .masterProcessTime firmware.system.world } := by
    split
    · exact kept.commanded .programProcess _ timed
    · exact timed
  simp only [Irrigation.iterate,schedulerTaskIteration]
  by_cases due : firmware.tickCount + 1 ≥ 150
  · rw [if_pos due]
    cases time with
    | none => exact polled
    | some now => exact kept.commanded (.schedulerProcess now) _ polled
  · rw [if_neg due]
    exact polled

/-- An invariant of calls and edits that also outlives the passing of time holds in every state. -/
theorem SystemInvariant.throughout (kept : SystemInvariant drivers device invariant) (passes : ε → ε → Prop)
    (aging : ∀ environment (system : ManagedSystem ε σ), passes system.world.environment environment →
      invariant system → invariant (system.at environment))
    {firmware : Firmware ε σ} (initially : invariant firmware.system) {steps : List (FirmwareStep ε)}
    (along : Runs.Along (firmwareStep drivers device library zones)
      (fun step firmware => passes firmware.system.world.environment step.environment) steps firmware) :
    Runs.Throughout (firmwareStep drivers device library zones) (fun firmware => invariant firmware.system) steps
      firmware := by
  refine Runs.invariant_throughout _ (fun step firmware holds pass => ?_) initially along
  have found := aging step.environment firmware.system pass holds
  cases step with
  | iteration environment time => exact kept.iterate found time
  | request environment call => exact kept.served found (serve_served drivers device library zones _ call)

end Steps

end Irrigation
