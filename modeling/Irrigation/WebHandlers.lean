import Irrigation.ListMutations
import Irrigation.Operations
import Irrigation.WebRequests

/-! The web server: its table of handlers and what each of them does with a request. Whatever
is sent, one request makes at most one call of the services or one edit of the configuration. -/
namespace Irrigation

open Scanning Numerals

/-! ### Requests and handlers -/

inductive HttpMethod where
  | get | post | other
  deriving DecidableEq, Repr

/-- A request with the method and the path that the server library compares with the registered ones. -/
structure WebCall where
  method : HttpMethod
  path : CString
  request : HttpRequest
  deriving DecidableEq, Repr

inductive WebHandler where
  | pageHandler | statusHandler | programsHandler | scheduleGetHandler
  | zoneHandler | zoneNameHandler | masterHandler
  | programHandler | programSaveHandler | programDeleteHandler
  | scheduleSaveHandler | scheduleDeleteHandler | scheduleHandler
  deriving DecidableEq, Repr

/-- The URIs that `dev_kit_web_start` registers. -/
def uriHandlers : List (String × HttpMethod × WebHandler) := [
  ("/",.get,.pageHandler),
  ("/status",.get,.statusHandler),
  ("/programs",.get,.programsHandler),
  ("/schedule",.get,.scheduleGetHandler),
  ("/zone/open",.post,.zoneHandler),
  ("/zone/close",.post,.zoneHandler),
  ("/zone/name",.post,.zoneNameHandler),
  ("/master/open",.post,.masterHandler),
  ("/master/close",.post,.masterHandler),
  ("/program/start",.post,.programHandler),
  ("/program/abort",.post,.programHandler),
  ("/program/save",.post,.programSaveHandler),
  ("/program/delete",.post,.programDeleteHandler),
  ("/schedule/save",.post,.scheduleSaveHandler),
  ("/schedule/delete",.post,.scheduleDeleteHandler),
  ("/schedule/toggle",.post,.scheduleHandler)]

def registeredHandler (method : HttpMethod) (path : CString) : Option WebHandler :=
  (uriHandlers.find? fun entry => path = .literal entry.1 ∧ entry.2.1 = method).map (·.2.2)

/-- What a request is answered with; the library itself answers where nothing is registered. -/
inductive WebAnswer where
  | unregistered
  | view (handler : WebHandler)
  | result (result : IrrigationResult)
  deriving DecidableEq, Repr

/-- `strncmp(text, literal, strlen(literal)) == 0` -/
def startsWith (text literal : CString) : Bool := text.bytes.take literal.bytes.length = literal.bytes

/-! ### Schedules -/

/-- The parameters of a schedule; a new one has no index. -/
structure ScheduleRequest where
  index : Option Nat
  weekdayMask : UInt8
  hour : UInt8
  minute : UInt8
  programIndex : Nat
  deriving DecidableEq, Repr

def parseScheduleIndex (text : CString) : Option (Option Nat) :=
  if text = .literal "new" then some none else (parseValue text (irrigationMaxSchedules - 1)).map some

section Handlers

variable {ε σ : Type} (drivers : Drivers ε) (device : Repository.ConfigurationRepositoryStorage σ)
  (library : QueryKeyValue) (request : HttpRequest)

/-- The tests of `schedule_save_handler`; failing any of them rejects the request. -/
def scheduleRequest (manager : ConfigurationManager) : Option ScheduleRequest := do
  let indexText ← queryValue library request "index" 8
  let index ← parseScheduleIndex indexText
  let weekdayMaskText ← queryValue library request "weekday_mask" 4
  let hourText ← queryValue library request "hour" 3
  let minuteText ← queryValue library request "minute" 3
  let programIndexText ← queryValue library request "program_index" 2
  let weekdayMask ← parseValue weekdayMaskText 127
  if weekdayMask = 0 then none
  else
    let hour ← parseValue hourText 23
    let minute ← parseValue minuteText 59
    let programIndex ← parseValue programIndexText (irrigationMaxPrograms - 1)
    if slotValid manager programIndex then
      some ⟨index,weekdayMask.toUInt8,hour.toUInt8,minute.toUInt8,programIndex⟩
    else none

/-- The id of the program at an index of the live configuration's array. -/
def programIdAt (configuration : IrrigationConfiguration) (programIndex : Nat) : Option CString :=
  (configuration.programs.toList[programIndex]?).map (·.programId.toCString)

def scheduleSaveHandler (system : ManagedSystem ε σ) : IrrigationResult × ManagedSystem ε σ :=
  match scheduleRequest library request system.manager with
  | none => (.rejected,system)
  | some fields =>
    let programId := programIdAt system.manager.configuration fields.programIndex
    match fields.index with
    | none => mutate device (.createSchedule fields.weekdayMask fields.hour fields.minute programId) system
    | some index => mutate device (.updateSchedule index fields.weekdayMask fields.hour fields.minute programId) system

/-- The index that deleting and toggling a schedule read. -/
def scheduleIndex : Option Nat :=
  (queryValue library request "index" 8).bind (parseValue · (irrigationMaxSchedules - 1))

def scheduleDeleteHandler (system : ManagedSystem ε σ) : IrrigationResult × ManagedSystem ε σ :=
  match scheduleIndex library request with
  | none => (.rejected,system)
  | some index => mutate device (.deleteSchedule index) system

/-- Toggling reads the flag that it inverts from the live configuration. -/
def scheduleHandler (system : ManagedSystem ε σ) : IrrigationResult × ManagedSystem ε σ :=
  match scheduleIndex library request with
  | none => (.rejected,system)
  | some index =>
    if index ≥ system.manager.configuration.scheduleCount.toNat then (.notFound,system)
    else match system.manager.configuration.schedules.toList[index]? with
      | none => (.notFound,system)
      | some schedule => mutate device (.setScheduleEnabled index !schedule.enabled) system

/-! ### Zones and the master valve -/

def zoneHandler (system : ManagedSystem ε σ) : IrrigationResult × ManagedSystem ε σ :=
  match queryValue library request "id" 32 with
  | none => (.rejected,system)
  | some id =>
    if startsWith request.uri (.literal "/zone/open") then system.schedule (zoneServiceOpen drivers (some id) 0)
    else system.schedule (zoneServiceClose drivers (some id))

def zoneNameHandler (system : ManagedSystem ε σ) : IrrigationResult × ManagedSystem ε σ :=
  match queryValue library request "id" irrigationConfigurationIdSize,
      queryValue library request "name" irrigationConfigurationNameSize with
  | some id, some name => mutate device (.renameZone (some id) (some name)) system
  | _, _ => (.rejected,system)

/-- The URI is compared with its query. -/
def masterHandler (system : ManagedSystem ε σ) : IrrigationResult × ManagedSystem ε σ :=
  if request.uri = .literal "/master/open" then system.schedule (masterValveServiceOpen drivers)
  else system.schedule (masterValveServiceClose drivers)

/-! ### The server -/

variable (zones : List Zone)

/-- The views read the state and change nothing. -/
def handle (handler : WebHandler) (system : ManagedSystem ε σ) : WebAnswer × ManagedSystem ε σ :=
  let send (outcome : IrrigationResult × ManagedSystem ε σ) : WebAnswer × ManagedSystem ε σ :=
    (.result outcome.1,outcome.2)
  match handler with
  | .pageHandler | .statusHandler | .programsHandler | .scheduleGetHandler => (.view handler,system)
  | .zoneHandler => send (zoneHandler drivers library request system)
  | .zoneNameHandler => send (zoneNameHandler device library request system)
  | .masterHandler => send (masterHandler drivers request system)
  | .programHandler => send (programHandler drivers library request system)
  | .programSaveHandler => send (programSaveHandler device library zones request system)
  | .programDeleteHandler => send (programDeleteHandler device library request system)
  | .scheduleSaveHandler => send (scheduleSaveHandler device library request system)
  | .scheduleDeleteHandler => send (scheduleDeleteHandler device library request system)
  | .scheduleHandler => send (scheduleHandler device library request system)

/-- One request, dispatched by the server library. -/
def serve (call : WebCall) (system : ManagedSystem ε σ) : WebAnswer × ManagedSystem ε σ :=
  match registeredHandler call.method call.path with
  | none => (.unregistered,system)
  | some handler => handle drivers device library call.request zones handler system

end Handlers

end Irrigation
