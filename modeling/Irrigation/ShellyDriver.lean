import Irrigation.Configuration
import Irrigation.ShellyResponse

/-! The driver that opens and closes a Shelly master valve. It confirms an operation when the
device accepted the command and then reported the requested output. -/
namespace Irrigation

open Scanning Json

namespace Shelly

abbrev shellyMasterValveHostMaxLength : Nat := 64
abbrev shellyMasterValveHttpResponseCapacity : Nat := 512

/-! ### The transport -/

/-- What a GET request reports, with all the bytes that came back. -/
structure ShellyHttpOutcome where
  result : IrrigationResult
  httpStatus : Int
  response : List UInt8

/-- A transport over an arbitrary state; `get` may be NULL. -/
structure ShellyHttpTransport (τ : Type) where
  get : Option (CString → UInt16 → CString → UInt32 → Nat → τ → ShellyHttpOutcome × τ)

section Transport

variable {τ : Type}

/-- A rejected request leaves the length and the status of the caller, which are zero. -/
def shellyHttpTransportGet (transport : Option (ShellyHttpTransport τ)) (host : CString) (port : UInt16) (path : CString)
    (timeoutMs : UInt32) (responseCapacity : Nat) (state : τ) : ShellyHttpOutcome × τ :=
  match transport.bind (·.get) with
  | none => (⟨.rejected,0,[]⟩,state)
  | some get =>
    if responseCapacity = 0 ∨ timeoutMs = 0 then (⟨.rejected,0,[]⟩,state)
    else get host port path timeoutMs responseCapacity state

end Transport

/-! ### The driver -/

structure ResponseBuffer where
  memory : List UInt8
  size : memory.length = shellyMasterValveHttpResponseCapacity

/-- What a transport stores into the buffer, which ends before the bytes may. -/
def ResponseBuffer.write (buffer : ResponseBuffer) (bytes : List UInt8) : ResponseBuffer where
  memory := bytes.take shellyMasterValveHttpResponseCapacity ++ buffer.memory.drop bytes.length
  size := by
    rw [List.length_append,List.length_take,List.length_drop,buffer.size]
    omega

/-- `response[index] = '\0'` -/
def ResponseBuffer.terminate (buffer : ResponseBuffer) (index : Nat) : ResponseBuffer where
  memory := buffer.memory.set index 0
  size := by rw [List.length_set,buffer.size]

structure ShellyMasterValveConfiguration where
  host : Option CString
  port : UInt16
  switchId : UInt8
  operationTimeoutMs : UInt32

/-- A configured driver has a timeout. -/
structure ShellyMasterValveDriver (τ : Type) where
  transport : Option (ShellyHttpTransport τ)
  host : CharArray shellyMasterValveHostMaxLength
  port : UInt16
  switchId : UInt8
  operationTimeoutMs : UInt32
  configured : Bool
  response : ResponseBuffer
  timed : configured = true → operationTimeoutMs ≠ 0

section Driver

variable {τ : Type}

/-- A host of one to 63 characters, a port and a timeout. -/
def ShellyMasterValveConfiguration.usable (configuration : ShellyMasterValveConfiguration) : Bool :=
  (configuration.host.any fun host => host.bytes ≠ [] ∧ host.bytes.length < shellyMasterValveHostMaxLength) &&
    configuration.port != 0 && configuration.operationTimeoutMs != 0

def shellyMasterValveDriverInit (transport : Option (ShellyHttpTransport τ))
    (configuration : ShellyMasterValveConfiguration) : ShellyMasterValveDriver τ where
  transport := transport
  host := match configuration.host with
    | some host => if configuration.usable then copyText host else .empty
    | none => .empty
  port := configuration.port
  switchId := configuration.switchId
  operationTimeoutMs := configuration.operationTimeoutMs
  configured := configuration.usable
  response := ⟨List.replicate shellyMasterValveHttpResponseCapacity 0,List.length_replicate⟩
  timed := fun usable => by
    rw [ShellyMasterValveConfiguration.usable,Bool.and_eq_true,bne_iff_ne] at usable
    exact usable.2

def switchSetPath (switchId : UInt8) (requestedOutput : Bool) : CString :=
  .ofChars ("/rpc/Switch.Set?id=".toList ++ Nat.toDigits 10 switchId.toNat ++ "&on=".toList ++
    (if requestedOutput then "true" else "false").toList)

def switchGetStatusPath (switchId : UInt8) : CString := .numbered "/rpc/Switch.GetStatus?id=" switchId.toNat

/-- The request that the driver makes of its transport. -/
def ShellyMasterValveDriver.get (driver : ShellyMasterValveDriver τ) (path : CString) (state : τ) : ShellyHttpOutcome × τ :=
  shellyHttpTransportGet driver.transport driver.host.toCString driver.port path driver.operationTimeoutMs
    shellyMasterValveHttpResponseCapacity state

/-- No fault but a rejection can come of a terminated text, and every fault is an internal error. -/
def readResponse (text : Cursor) : Except IrrigationResult ShellyResponse :=
  match parseShellyResponse text with
  | .ok response => if response.hasError then .error .internalError else .ok response
  | .error _ => .error .internalError

def request (driver : ShellyMasterValveDriver τ) (path : CString) (state : τ) :
    Except IrrigationResult ShellyResponse × ShellyMasterValveDriver τ × τ :=
  let (outcome,state) := driver.get path state
  let driver := { driver with response := driver.response.write outcome.response }
  if outcome.result ≠ .ok then (.error outcome.result,driver,state)
  else if outcome.httpStatus < 200 ∨ outcome.httpStatus ≥ 300 ∨
      outcome.response.length ≥ shellyMasterValveHttpResponseCapacity then (.error .internalError,driver,state)
  else
    let driver := { driver with response := driver.response.terminate outcome.response.length }
    (readResponse driver.response.memory,driver,state)

/-- The capacity of the buffer that a path is printed to. -/
abbrev pathSize : Nat := 80

def setAndConfirm (driver : ShellyMasterValveDriver τ) (requestedOutput : Bool) (state : τ) :
    IrrigationResult × ShellyMasterValveDriver τ × τ :=
  if !driver.configured || driver.transport.isNone then (.rejected,driver,state)
  else if (switchSetPath driver.switchId requestedOutput).bytes.length ≥ pathSize then (.internalError,driver,state)
  else match request driver (switchSetPath driver.switchId requestedOutput) state with
    | (.error result,driver,state) => (result,driver,state)
    | (.ok _,driver,state) =>
      if (switchGetStatusPath driver.switchId).bytes.length ≥ pathSize then (.internalError,driver,state)
      else match request driver (switchGetStatusPath driver.switchId) state with
        | (.error result,driver,state) => (result,driver,state)
        | (.ok response,driver,state) =>
          (if !response.hasOutput || response.output != requestedOutput then .internalError else .ok,driver,state)

def shellyOpenAndConfirm (driver : ShellyMasterValveDriver τ) (state : τ) :
    IrrigationResult × ShellyMasterValveDriver τ × τ := setAndConfirm driver true state

def shellyCloseAndConfirm (driver : ShellyMasterValveDriver τ) (state : τ) :
    IrrigationResult × ShellyMasterValveDriver τ × τ := setAndConfirm driver false state

/-! ### A confirmed operation -/

/-- The request succeeded with a document that has these members. -/
structure ShellyHttpOutcome.Answers (outcome : ShellyHttpOutcome) (members : List Member) : Prop where
  ok : outcome.result = .ok
  success : 200 ≤ outcome.httpStatus ∧ outcome.httpStatus < 300
  short : outcome.response.length < shellyMasterValveHttpResponseCapacity
  document : Document members (outcome.response.takeWhile (· ≠ 0))
  unambiguous : Unambiguous members

/-- The command was answered, and the status shows the requested output. -/
structure Confirms (requestedOutput : Bool) (set status : ShellyHttpOutcome) : Prop where
  accepted : ∃ members, set.Answers members
  reported : ∃ members, status.Answers members ∧ ⟨ascii "output",booleanText requestedOutput⟩ ∈ members

/-- The outcomes of the two requests of an operation, the second one in the state after the first. -/
def ShellyMasterValveDriver.outcomes (driver : ShellyMasterValveDriver τ) (requestedOutput : Bool) (state : τ) :
    ShellyHttpOutcome × ShellyHttpOutcome :=
  let (set,state) := driver.get (switchSetPath driver.switchId requestedOutput) state
  (set,(driver.get (switchGetStatusPath driver.switchId) state).1)

/-! ### The buffer -/

/-- A terminated buffer holds the bytes up to their first NUL as a text. -/
theorem cut_terminated (bytes after : List UInt8) :
    ∃ later, bytes ++ 0 :: after = bytes.takeWhile (· ≠ 0) ++ 0 :: later := by
  induction bytes with
  | nil => exact ⟨after,rfl⟩
  | cons byte bytes ih =>
    by_cases nul : byte = 0
    · subst nul
      exact ⟨bytes ++ 0 :: after,rfl⟩
    · obtain ⟨later,split⟩ := ih
      refine ⟨later,?_⟩
      rw [List.takeWhile_cons_of_pos (by simpa using nul),List.cons_append,List.cons_append,split]

theorem terminate_write (buffer : ResponseBuffer) {bytes : List UInt8}
    (short : bytes.length < shellyMasterValveHttpResponseCapacity) :
    ∃ after, ((buffer.write bytes).terminate bytes.length).memory = bytes ++ 0 :: after := by
  have size := buffer.size
  have room : 0 < (buffer.memory.drop bytes.length).length := by
    rw [List.length_drop]
    omega
  obtain ⟨byte,after,split⟩ := List.exists_cons_of_length_pos room
  refine ⟨after,?_⟩
  simp only [ResponseBuffer.terminate,ResponseBuffer.write]
  rw [List.take_of_length_le (Nat.le_of_lt short),split,List.set_append_right _ _ (Nat.le_refl _),Nat.sub_self]
  rfl

theorem noNul_takeWhile (bytes : List UInt8) : 0 ∉ bytes.takeWhile (· ≠ 0) := by
  intro nul
  simpa using List.mem_takeWhile_imp nul

/-- A response is used when it is a document without an error. -/
theorem readResponse_ok_iff {body : List UInt8} (noNul : 0 ∉ body) (after : Cursor) (response : ShellyResponse) :
    readResponse (body ++ 0 :: after) = .ok response ↔
      ∃ members, Document members body ∧ Unambiguous members ∧ response = summary members noResponse := by
  have used : readResponse (body ++ 0 :: after) = .ok response ↔
      parseShellyResponse (body ++ 0 :: after) = .ok response ∧ response.hasError = false := by
    unfold readResponse
    rcases parseShellyResponse_settles body after with ⟨parsed,isParsed⟩ | rejected
    · rw [isParsed,Except.ok.injEq]
      by_cases error : parsed.hasError = true
      · refine ⟨fun used => ?_,?_⟩
        · simp [error] at used
        · rintro ⟨rfl,clean⟩
          rw [error] at clean
          contradiction
      · refine (Iff.of_eq (congrArg (· = Except.ok response) (if_neg error))).trans ?_
        rw [Except.ok.injEq,iff_self_and]
        rintro rfl
        exact Bool.not_eq_true _ ▸ error
    · simp [rejected]
  rw [used,parseShellyResponse_ok_iff noNul]
  constructor
  · rintro ⟨⟨members,document,read⟩,clean⟩
    obtain ⟨unambiguous,summarized⟩ := (read_withoutError_iff response).mp ⟨read,clean⟩
    exact ⟨members,document,unambiguous,summarized⟩
  · rintro ⟨members,document,unambiguous,summarized⟩
    obtain ⟨read,clean⟩ := (read_withoutError_iff response).mpr ⟨unambiguous,summarized⟩
    exact ⟨⟨members,document,read⟩,clean⟩

/-! ### One request -/

section Requests

variable {driver : ShellyMasterValveDriver τ} {path : CString} {state : τ}

/-- A request only changes the buffer. -/
theorem request_same : (request driver path state).2.2 = (driver.get path state).2 ∧
    ∃ response, (request driver path state).2.1 = { driver with response := response } := by
  simp only [request]
  split
  · exact ⟨rfl,_,rfl⟩
  · split <;> exact ⟨rfl,_,rfl⟩

theorem request_ok_iff (response : ShellyResponse) : (request driver path state).1 = .ok response ↔
    ∃ members, (driver.get path state).1.Answers members ∧ response = summary members noResponse := by
  simp only [request]
  generalize (driver.get path state).1 = outcome
  by_cases ok : outcome.result = .ok
  · rw [if_neg (not_not.mpr ok)]
    by_cases unusable : outcome.httpStatus < 200 ∨ outcome.httpStatus ≥ 300 ∨
        outcome.response.length ≥ shellyMasterValveHttpResponseCapacity
    · rw [if_pos unusable]
      refine ⟨nofun,?_⟩
      rintro ⟨members,⟨_,⟨least,most⟩,short,_,_⟩,_⟩
      omega
    · rw [if_neg unusable]
      have success : 200 ≤ outcome.httpStatus ∧ outcome.httpStatus < 300 := by omega
      have short : outcome.response.length < shellyMasterValveHttpResponseCapacity := by omega
      obtain ⟨after,stored⟩ := terminate_write driver.response short
      obtain ⟨later,cut⟩ := cut_terminated outcome.response after
      dsimp only
      rw [stored,cut,readResponse_ok_iff (noNul_takeWhile _)]
      constructor
      · rintro ⟨members,document,unambiguous,summarized⟩
        exact ⟨members,⟨ok,success,short,document,unambiguous⟩,summarized⟩
      · rintro ⟨members,⟨_,_,_,document,unambiguous⟩,summarized⟩
        exact ⟨members,document,unambiguous,summarized⟩
  · rw [if_pos ok]
    refine ⟨nofun,?_⟩
    rintro ⟨members,answers,_⟩
    exact absurd answers.ok ok

theorem readResponse_failed {text : Cursor} : readResponse text ≠ .error .ok := by
  unfold readResponse
  split
  · split <;> exact nofun
  · exact nofun

theorem request_failed : (request driver path state).1 ≠ .error .ok := by
  simp only [request]
  split
  · next failed => exact fun same => failed (Except.error.inj same)
  · split
    · exact nofun
    · exact readResponse_failed

end Requests

/-! ### Two requests -/

theorem toDigits_length_byte (byte : UInt8) : (Nat.toDigits 10 byte.toNat).length ≤ 3 :=
  (Nat.length_toDigits_le_iff (by decide) (by decide)).mpr (Nat.lt_trans (UInt8.toNat_lt byte) (by decide))

theorem ofChars_length_le (text : List Char) : (CString.ofChars text).bytes.length ≤ text.length := by
  have cut := (List.takeWhile_prefix (· ≠ 0) (l := text.map fun letter => letter.toNat.toUInt8)).length_le
  rw [List.length_map] at cut
  exact cut

theorem switchSetPath_fits (switchId : UInt8) (requestedOutput : Bool) :
    (switchSetPath switchId requestedOutput).bytes.length < pathSize := by
  have digits := toDigits_length_byte switchId
  have word : (if requestedOutput then "true" else "false").toList.length ≤ 5 := by cases requestedOutput <;> decide
  refine Nat.lt_of_le_of_lt (ofChars_length_le _) ?_
  rw [List.length_append,List.length_append,List.length_append]
  change 19 + _ + 4 + _ < 80
  omega

theorem switchGetStatusPath_fits (switchId : UInt8) : (switchGetStatusPath switchId).bytes.length < pathSize := by
  have digits := toDigits_length_byte switchId
  refine Nat.lt_of_le_of_lt (ofChars_length_le _) ?_
  rw [List.length_append]
  change 25 + _ < 80
  omega

/-- The second request confirms when its answer shows the requested output. -/
theorem status_ok_iff (driver : ShellyMasterValveDriver τ) (path : CString) (requestedOutput : Bool) (state : τ) :
    (match request driver path state with
      | (.error result,driver,state) => (result,driver,state)
      | (.ok response,driver,state) =>
        (if !response.hasOutput || response.output != requestedOutput then .internalError else .ok,driver,state) :
      IrrigationResult × ShellyMasterValveDriver τ × τ).1 = .ok ↔
    ∃ members, (driver.get path state).1.Answers members ∧
      ⟨ascii "output",booleanText requestedOutput⟩ ∈ members := by
  have answered := fun response => @request_ok_iff τ driver path state response
  have fails := @request_failed τ driver path state
  generalize request driver path state = outcome at *
  obtain ⟨answer,final⟩ := outcome
  cases answer with
  | error result =>
    refine ⟨fun ok => absurd (congrArg Except.error ok) fails,?_⟩
    rintro ⟨members,answers,_⟩
    exact nomatch (answered _).mpr ⟨members,answers,rfl⟩
  | ok reported =>
    have shows : (if !reported.hasOutput || reported.output != requestedOutput then IrrigationResult.internalError
        else .ok) = .ok ↔ reported.hasOutput = true ∧ reported.output = requestedOutput := by
      simp
    refine shows.trans ⟨fun shown => ?_,?_⟩
    · obtain ⟨members,answers,rfl⟩ := (answered reported).mp rfl
      exact ⟨members,answers,(answers.unambiguous.confirms_iff requestedOutput).mp shown⟩
    · rintro ⟨members,answers,listed⟩
      rw [Except.ok.inj ((answered _).mpr ⟨members,answers,rfl⟩)]
      exact (answers.unambiguous.confirms_iff requestedOutput).mpr listed

/-- Without a transport neither request is answered. -/
theorem Confirms.transport {driver : ShellyMasterValveDriver τ} {requestedOutput : Bool} {state : τ}
    (confirms : Confirms requestedOutput (driver.outcomes requestedOutput state).1 (driver.outcomes requestedOutput state).2) :
    driver.transport.isSome = true := by
  obtain ⟨⟨members,answers⟩,_⟩ := confirms
  cases missing : driver.transport with
  | some transport => rfl
  | none =>
    have unanswered : (driver.outcomes requestedOutput state).1.result = .rejected := by
      simp [ShellyMasterValveDriver.outcomes,ShellyMasterValveDriver.get,shellyHttpTransportGet,missing]
    exact nomatch unanswered.symm.trans answers.ok

/-- An operation is confirmed by the outcomes of its requests, and by nothing else. -/
theorem setAndConfirm_ok_iff (driver : ShellyMasterValveDriver τ) (requestedOutput : Bool) (state : τ) :
    (setAndConfirm driver requestedOutput state).1 = .ok ↔ driver.configured = true ∧
      Confirms requestedOutput (driver.outcomes requestedOutput state).1 (driver.outcomes requestedOutput state).2 := by
  by_cases ready : driver.configured = true ∧ driver.transport.isSome = true
  · have goesOn : (!driver.configured || driver.transport.isNone) = false := by simp [ready]
    have set := fun response => @request_ok_iff τ driver (switchSetPath driver.switchId requestedOutput) state response
    have setFails := @request_failed τ driver (switchSetPath driver.switchId requestedOutput) state
    obtain ⟨sameState,buffer,sameDriver⟩ := @request_same τ driver (switchSetPath driver.switchId requestedOutput) state
    rw [and_iff_right ready.1]
    simp only [setAndConfirm,goesOn,Bool.false_eq_true,if_false,ShellyMasterValveDriver.outcomes,
      if_neg (Nat.not_le.mpr (switchSetPath_fits driver.switchId requestedOutput))]
    generalize request driver (switchSetPath driver.switchId requestedOutput) state = outcome at *
    obtain ⟨answer,between,after⟩ := outcome
    dsimp only at sameState sameDriver set setFails
    subst sameState sameDriver
    cases answer with
    | error result =>
      refine ⟨fun ok => absurd (congrArg Except.error ok) setFails,?_⟩
      rintro ⟨⟨members,answers⟩,_⟩
      exact nomatch (set _).mpr ⟨members,answers,rfl⟩
    | ok accepted =>
      obtain ⟨members,answers,_⟩ := (set accepted).mp rfl
      simp only [if_neg (Nat.not_le.mpr (switchGetStatusPath_fits driver.switchId))]
      refine (status_ok_iff { driver with response := buffer } _ requestedOutput _).trans ?_
      exact ⟨fun reported => ⟨⟨members,answers⟩,reported⟩,Confirms.reported⟩
  · have refused : (setAndConfirm driver requestedOutput state).1 = .rejected := by
      rw [not_and,Bool.not_eq_true,Option.isSome_eq_false_iff] at ready
      by_cases configured : driver.configured = true <;> simp [setAndConfirm,configured,ready]
    rw [refused]
    refine ⟨nofun,?_⟩
    rintro ⟨configured,confirms⟩
    exact absurd ⟨configured,confirms.transport⟩ ready

/-- Opening and closing are confirmed exactly by two documents whose top level members are
unambiguous, the second with the requested output; and any terminated text is read without
a fault, from the members of its top level, no further than its terminator. -/
theorem confirmation_sound_complete (driver : ShellyMasterValveDriver τ) (state : τ) :
    ((shellyOpenAndConfirm driver state).1 = .ok ↔ driver.configured = true ∧
      Confirms true (driver.outcomes true state).1 (driver.outcomes true state).2) ∧
    ((shellyCloseAndConfirm driver state).1 = .ok ↔ driver.configured = true ∧
      Confirms false (driver.outcomes false state).1 (driver.outcomes false state).2) ∧
    ∀ body : List UInt8, 0 ∉ body →
      ((∃ response, parseShellyResponse (body ++ [0]) = .ok response) ∨
        parseShellyResponse (body ++ [0]) = .error .rejected) ∧
      (∀ after, parseShellyResponse (body ++ 0 :: after) = parseShellyResponse (body ++ [0])) ∧
      ∀ members, Document members body → parseShellyResponse (body ++ [0]) = verdict (readMembers members noResponse) :=
  ⟨setAndConfirm_ok_iff driver true state,setAndConfirm_ok_iff driver false state,fun body noNul =>
    ⟨parseShellyResponse_settles body [],fun after => parseShellyResponse_terminator noNul after [],
      fun _ document => parseShellyResponse_document document []⟩⟩

end Driver

/-- A transport that answers from a list. -/
def listTransport : ShellyHttpTransport (List ShellyHttpOutcome) where
  get := some fun _ _ _ _ _ answers => (answers.headD ⟨.timeout,0,[]⟩,answers.tail)

def devShelly : ShellyMasterValveDriver (List ShellyHttpOutcome) :=
  shellyMasterValveDriverInit (some listTransport) ⟨some (.literal "shelly-master"),80,0,1000⟩

theorem confirmation_sound_complete_devShelly :
    Confirms true ⟨.ok,200,ascii "\x7b\"was_on\":false\x7d"⟩ ⟨.ok,200,ascii "\x7b\"output\":true\x7d"⟩ :=
  ((confirmation_sound_complete devShelly
    [⟨.ok,200,ascii "\x7b\"was_on\":false\x7d"⟩,⟨.ok,200,ascii "\x7b\"output\":true\x7d"⟩]).1.mp (by decide +kernel)).2

end Shelly

end Irrigation
