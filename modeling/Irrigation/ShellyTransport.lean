import Irrigation.Library.CheckedMemory
import Irrigation.ShellyDriver

/-! The transport of the master valve's driver over the HTTP client. A response comes in pieces, which
are collected in the driver's buffer; what the driver makes of it does not depend on how it was cut. -/
namespace Irrigation

open CheckedMemory Json Scanning

namespace Shelly

/-! ### The HTTP client -/

/-- What `esp_http_client_perform` answers. -/
inductive EspHttpResult where
  | ok | timeout | fail
  deriving DecidableEq, Repr

/-- An event of the client, with the data of `HTTP_EVENT_ON_DATA`. -/
inductive EspHttpEvent where
  | onData (data : List UInt8)
  | other
  deriving DecidableEq, Repr

/-- A performed request: its events in their order, its result and the status code. -/
structure Exchange where
  events : List EspHttpEvent
  result : EspHttpResult
  statusCode : Int

/-- The client over an arbitrary state. There may be no client to be had. -/
structure EspHttpClient (τ : Type) where
  perform : CString → UInt16 → CString → UInt32 → τ → Option Exchange × τ

/-- The driver's buffer and how much of it is in use. -/
structure Esp.ResponseBuffer (n : Nat) where
  response : Vector UInt8 n
  capacity : Nat
  length : Nat
  overflow : Bool

/-- An access outside of the buffer is a fault. -/
def responseEventHandler {n : Nat} (event : EspHttpEvent) (buffer : Esp.ResponseBuffer n) :
    Except Unit (Esp.ResponseBuffer n) :=
  match event with
  | .other => .ok buffer
  | .onData data =>
    if data.length > 0 then
      let available := if buffer.capacity > buffer.length then buffer.capacity - buffer.length else 0
      if data.length > available then .ok { buffer with overflow := true }
      else do
        let response ← copyTo () buffer.response buffer.length data
        pure { buffer with response, length := buffer.length + data.length }
    else .ok buffer

/-- What `esp_get` answers and stores; the status and the length are written on success only. -/
structure Got (n : Nat) where
  result : IrrigationResult
  httpStatus : Int
  responseLength : Nat
  buffer : Esp.ResponseBuffer n

section Get

variable {τ : Type} (client : EspHttpClient τ)

/-- The capacity is not zero, which `shelly_http_transport_get` checks. -/
def espGet {capacity : Nat} (host : CString) (port : UInt16) (path : CString) (timeoutMs : UInt32)
    (response : Vector UInt8 (capacity + 1)) (state : τ) : Except Unit (Got (capacity + 1)) × τ :=
  let buffer : Esp.ResponseBuffer (capacity + 1) := ⟨response,capacity,0,false⟩
  match client.perform host port path timeoutMs state with
  | (none,state) => (.ok ⟨.internalError,0,0,buffer⟩,state)
  | (some exchange,state) =>
    (do
      let buffer ← exchange.events.foldlM (fun buffer event => responseEventHandler event buffer) buffer
      if exchange.result = .ok ∧ buffer.overflow = false then pure ⟨.ok,exchange.statusCode,buffer.length,buffer⟩
      else if exchange.result = .timeout then pure ⟨.timeout,0,0,buffer⟩
      else pure ⟨.internalError,0,0,buffer⟩,state)

end Get

/-! ### What is collected -/

/-- The bytes that came so far, and whether some did not fit. -/
structure Collected where
  stored : List UInt8
  overflow : Bool

/-- A piece that does not fit is left out. -/
def Collected.add (capacity : Nat) (collected : Collected) (data : List UInt8) : Collected :=
  if collected.stored.length + data.length ≤ capacity then { collected with stored := collected.stored ++ data }
  else { collected with overflow := true }

def EspHttpEvent.data : EspHttpEvent → List UInt8
  | .onData data => data
  | .other => []

def collect (capacity : Nat) (events : List EspHttpEvent) (collected : Collected) : Collected :=
  events.foldl (fun collected event => collected.add capacity (EspHttpEvent.data event)) collected

/-- The whole response, however it was cut. -/
def bodyOf (events : List EspHttpEvent) : List UInt8 := (events.map EspHttpEvent.data).flatten

def Exchange.body (exchange : Exchange) : List UInt8 := bodyOf exchange.events

def Exchange.collected (exchange : Exchange) (capacity : Nat) : Collected := collect capacity exchange.events ⟨[],false⟩

/-- What a request reports to the driver, with the bytes that are in its buffer. -/
def Exchange.outcome (exchange : Exchange) (capacity : Nat) : ShellyHttpOutcome :=
  let collected := exchange.collected capacity
  if exchange.result = .ok ∧ collected.overflow = false then ⟨.ok,exchange.statusCode,collected.stored⟩
  else if exchange.result = .timeout then ⟨.timeout,0,collected.stored⟩
  else ⟨.internalError,0,collected.stored⟩

/-- The outcome of `esp_get`. -/
def espAnswer {τ : Type} (client : EspHttpClient τ) (host : CString) (port : UInt16) (path : CString)
    (timeoutMs : UInt32) (responseCapacity : Nat) (state : τ) : ShellyHttpOutcome × τ :=
  match client.perform host port path timeoutMs state with
  | (none,state) => (⟨.internalError,0,[]⟩,state)
  | (some exchange,state) => (exchange.outcome (responseCapacity - 1),state)

/-- The transport that `esp_shelly_http_transport_init` sets up. -/
def espShellyHttpTransport {τ : Type} (client : EspHttpClient τ) : ShellyHttpTransport τ := ⟨some (espAnswer client)⟩

/-! ### Collecting in the buffer -/

section Collecting

variable {capacity : Nat} {collected : Collected}

theorem add_length_le (fits : collected.stored.length ≤ capacity) (data : List UInt8) :
    (collected.add capacity data).stored.length ≤ capacity := by
  unfold Collected.add
  split
  · next room =>
    rw [List.length_append]
    exact room
  · exact fits

theorem collect_overflow (events : List EspHttpEvent) (overflow : collected.overflow = true) :
    (collect capacity events collected).overflow = true := by
  induction events generalizing collected with
  | nil => exact overflow
  | cons event later ih =>
    refine ih ?_
    dsimp only [Collected.add]
    split
    · exact overflow
    · rfl

/-- A response that fits is collected as a whole. -/
theorem collect_whole (events : List EspHttpEvent) (clear : collected.overflow = false)
    (fits : collected.stored.length + (bodyOf events).length ≤ capacity) :
    collect capacity events collected = ⟨collected.stored ++ bodyOf events,false⟩ := by
  induction events generalizing collected with
  | nil =>
    rw [bodyOf,List.map_nil,List.flatten_nil,List.append_nil,← clear]
    rfl
  | cons event later ih =>
    rw [bodyOf,List.map_cons,List.flatten_cons,List.length_append] at fits
    have added : collected.add capacity event.data = { collected with stored := collected.stored ++ event.data } :=
      if_pos (by omega)
    have all : collect capacity later (collected.add capacity event.data) =
        ⟨collected.stored ++ event.data ++ bodyOf later,false⟩ := by
      rw [added]
      refine ih clear ?_
      rw [List.length_append,bodyOf]
      omega
    rw [bodyOf,List.map_cons,List.flatten_cons,← List.append_assoc]
    exact all

/-- Of one that does not, some piece overflows the buffer. -/
theorem collect_cut (events : List EspHttpEvent) (fits : collected.stored.length ≤ capacity)
    (above : capacity < collected.stored.length + (bodyOf events).length) :
    (collect capacity events collected).overflow = true := by
  induction events generalizing collected with
  | nil => exact absurd fits (Nat.not_le.mpr above)
  | cons event later ih =>
    rw [bodyOf,List.map_cons,List.flatten_cons,List.length_append] at above
    by_cases room : collected.stored.length + event.data.length ≤ capacity
    · have added : collected.add capacity event.data = { collected with stored := collected.stored ++ event.data } :=
        if_pos room
      have longer : capacity < (collected.add capacity event.data).stored.length + (bodyOf later).length := by
        rw [added,List.length_append,bodyOf]
        omega
      exact ih (add_length_le fits event.data) longer
    · exact collect_overflow later (congrArg Collected.overflow (if_neg room : collected.add capacity event.data = _))

end Collecting

/-! ### The memory -/

section Memory

variable {capacity : Nat} {memory : Vector UInt8 (capacity + 1)} {buffer : Esp.ResponseBuffer (capacity + 1)}
  {collected : Collected}

/-- The buffer holds what was collected, in front of what it held before. -/
structure Holds (memory : Vector UInt8 (capacity + 1)) (collected : Collected)
    (buffer : Esp.ResponseBuffer (capacity + 1)) : Prop where
  room : buffer.capacity = capacity
  fits : collected.stored.length ≤ capacity
  length : buffer.length = collected.stored.length
  overflow : buffer.overflow = collected.overflow
  response : buffer.response.toList = collected.stored ++ memory.toList.drop collected.stored.length

theorem Holds.handled (holds : Holds memory collected buffer) (event : EspHttpEvent) :
    ∃ next, responseEventHandler event buffer = .ok next ∧ Holds memory (collected.add capacity event.data) next := by
  have fits := holds.fits
  have nothing : collected.add capacity [] = collected := by
    rw [Collected.add,if_pos (by simpa using fits),List.append_nil]
  have available : (if buffer.capacity > buffer.length then buffer.capacity - buffer.length else 0) =
      capacity - collected.stored.length := by
    rw [holds.room,holds.length]
    split <;> omega
  cases event with
  | other => exact ⟨buffer,rfl,by rwa [EspHttpEvent.data,nothing]⟩
  | onData data =>
    simp only [responseEventHandler,available,EspHttpEvent.data]
    by_cases some : data.length > 0
    · rw [if_pos some]
      by_cases room : collected.stored.length + data.length ≤ capacity
      · obtain ⟨copied,run,bytes⟩ := copyTo_eq () buffer.response
          (by rw [holds.length]; omega : buffer.length + data.length ≤ capacity + 1)
        rw [if_neg (by omega),run]
        refine ⟨_,rfl,?_⟩
        rw [Collected.add,if_pos room]
        refine ⟨holds.room,?_,?_,holds.overflow,?_⟩
        · rw [List.length_append]
          exact room
        · rw [List.length_append,holds.length]
        · have front : (collected.stored ++ memory.toList.drop collected.stored.length).take collected.stored.length =
              collected.stored := List.take_left
          rw [bytes,holds.response,holds.length,front,List.length_append,← List.drop_drop,List.drop_left,List.drop_drop]
      · rw [if_pos (by omega)]
        refine ⟨_,rfl,?_⟩
        rw [Collected.add,if_neg room]
        exact ⟨holds.room,fits,holds.length,rfl,holds.response⟩
    · obtain rfl : data = [] := List.eq_nil_of_length_eq_zero (by omega)
      rw [if_neg some]
      exact ⟨buffer,rfl,by rwa [nothing]⟩

theorem Holds.handles (holds : Holds memory collected buffer) (events : List EspHttpEvent) :
    ∃ last, events.foldlM (fun buffer event => responseEventHandler event buffer) buffer = .ok last ∧
      Holds memory (collect capacity events collected) last := by
  induction events generalizing collected buffer with
  | nil => exact ⟨buffer,rfl,holds⟩
  | cons event later ih =>
    obtain ⟨next,run,kept⟩ := holds.handled event
    obtain ⟨last,rest,final⟩ := ih kept
    refine ⟨last,?_,final⟩
    rw [List.foldlM_cons,run]
    exact rest

/-- What `esp_get` reports is what the driver is told, and the bytes are in the buffer. -/
structure Reports (memory : Vector UInt8 (capacity + 1)) (outcome : ShellyHttpOutcome) (got : Got (capacity + 1)) :
    Prop where
  result : got.result = outcome.result
  httpStatus : got.httpStatus = outcome.httpStatus
  responseLength : got.responseLength = if outcome.result = .ok then outcome.response.length else 0
  response : got.buffer.response.toList = outcome.response ++ memory.toList.drop outcome.response.length
  terminable : outcome.response.length ≤ capacity

/-- Whatever comes, nothing is stored outside of the buffer, and its last byte is left for the NUL. -/
theorem esp_get_reports {τ : Type} (client : EspHttpClient τ) (host : CString) (port : UInt16) (path : CString)
    (timeoutMs : UInt32) (memory : Vector UInt8 (capacity + 1)) (state : τ) :
    ∃ got, espGet client host port path timeoutMs memory state =
        (.ok got,(espAnswer client host port path timeoutMs (capacity + 1) state).2) ∧
      Reports memory (espAnswer client host port path timeoutMs (capacity + 1) state).1 got := by
  have fresh : Holds memory ⟨[],false⟩ ⟨memory,capacity,0,false⟩ := ⟨rfl,Nat.zero_le _,rfl,rfl,rfl⟩
  simp only [espGet,espAnswer]
  cases client.perform host port path timeoutMs state with
  | mk answer next =>
    cases answer with
    | none => exact ⟨_,rfl,rfl,rfl,rfl,rfl,Nat.zero_le _⟩
    | some exchange =>
      obtain ⟨last,run,holds⟩ := fresh.handles exchange.events
      have fits := holds.fits
      simp only [run,Exchange.outcome,Nat.add_sub_cancel,Exchange.collected]
      rw [← holds.overflow]
      by_cases succeeded : exchange.result = .ok ∧ last.overflow = false
      · simp only [if_pos succeeded,bind,Except.bind]
        exact ⟨_,rfl,rfl,rfl,holds.length,holds.response,fits⟩
      · simp only [if_neg succeeded,bind,Except.bind]
        by_cases timeout : exchange.result = .timeout
        · simp only [if_pos timeout]
          exact ⟨_,rfl,rfl,rfl,rfl,holds.response,fits⟩
        · simp only [if_neg timeout]
          exact ⟨_,rfl,rfl,rfl,rfl,holds.response,fits⟩

end Memory

/-! ### Whole responses -/

section Responses

variable {τ : Type} {client : EspHttpClient τ} {capacity : Nat} {exchange : Exchange}

/-- A request succeeds with the whole response, if it fits, and else with nothing. -/
theorem outcome_ok_iff : (exchange.outcome capacity).result = .ok ↔
    exchange.result = .ok ∧ exchange.body.length ≤ capacity := by
  have whole : exchange.body.length ≤ capacity → (exchange.collected capacity).overflow = false := fun fits =>
    congrArg Collected.overflow (collect_whole exchange.events rfl ((Nat.zero_add _).le.trans fits))
  have cut : capacity < exchange.body.length → (exchange.collected capacity).overflow = true := fun above =>
    collect_cut exchange.events (Nat.zero_le _) (above.trans_eq (Nat.zero_add _).symm)
  simp only [Exchange.outcome]
  by_cases succeeded : exchange.result = .ok ∧ (exchange.collected capacity).overflow = false
  · rw [if_pos succeeded]
    refine iff_of_true rfl ⟨succeeded.1,Nat.not_lt.mp fun above => ?_⟩
    exact absurd (succeeded.2.symm.trans (cut above)) (by decide)
  · rw [if_neg succeeded]
    refine iff_of_false ?_ fun fits => succeeded ⟨fits.1,whole fits.2⟩
    split <;> simp

theorem outcome_of_ok (ok : (exchange.outcome capacity).result = .ok) :
    exchange.outcome capacity = ⟨.ok,exchange.statusCode,exchange.body⟩ := by
  obtain ⟨performed,fits⟩ := outcome_ok_iff.mp ok
  have whole : exchange.collected capacity = ⟨exchange.body,false⟩ :=
    collect_whole exchange.events rfl ((Nat.zero_add _).le.trans fits)
  simp only [Exchange.outcome,whole,performed,and_self,if_true]

/-- The response, as a whole, is a document with these members. -/
structure Exchange.Answers (exchange : Exchange) (members : List Member) : Prop where
  performed : exchange.result = .ok
  success : 200 ≤ exchange.statusCode ∧ exchange.statusCode < 300
  short : exchange.body.length < shellyMasterValveHttpResponseCapacity
  document : Document members (exchange.body.takeWhile (· ≠ 0))
  unambiguous : Unambiguous members

theorem outcome_answers_iff (members : List Member) :
    (exchange.outcome (shellyMasterValveHttpResponseCapacity - 1)).Answers members ↔ exchange.Answers members := by
  constructor
  · intro answers
    have whole := outcome_of_ok answers.ok
    rw [whole] at answers
    exact ⟨(outcome_ok_iff.mp (congrArg ShellyHttpOutcome.result whole)).1,answers.success,answers.short,
      answers.document,answers.unambiguous⟩
  · intro answers
    have fits : exchange.body.length ≤ shellyMasterValveHttpResponseCapacity - 1 := Nat.le_pred_of_lt answers.short
    rw [outcome_of_ok (outcome_ok_iff.mpr ⟨answers.performed,fits⟩)]
    exact ⟨rfl,answers.success,answers.short,answers.document,answers.unambiguous⟩

end Responses

/-! ### The driver over the client -/

section Driver

variable {τ : Type} {driver : ShellyMasterValveDriver τ} {path : CString} {state : τ}

/-- What a request comes to, by its outcome alone. -/
def ShellyHttpOutcome.reading (outcome : ShellyHttpOutcome) : Except IrrigationResult ShellyResponse :=
  if outcome.result ≠ .ok then .error outcome.result
  else if outcome.httpStatus < 200 ∨ outcome.httpStatus ≥ 300 ∨
      outcome.response.length ≥ shellyMasterValveHttpResponseCapacity then .error .internalError
  else readResponse (outcome.response.takeWhile (· ≠ 0) ++ [0])

/-- The bytes behind a response are not read. -/
theorem request_reading : (request driver path state).1 = (driver.get path state).1.reading := by
  simp only [request,ShellyHttpOutcome.reading]
  generalize (driver.get path state).1 = outcome
  by_cases ok : outcome.result = .ok
  · rw [if_neg (not_not.mpr ok),if_neg (not_not.mpr ok)]
    by_cases unusable : outcome.httpStatus < 200 ∨ outcome.httpStatus ≥ 300 ∨
        outcome.response.length ≥ shellyMasterValveHttpResponseCapacity
    · rw [if_pos unusable,if_pos unusable]
    · have short : outcome.response.length < shellyMasterValveHttpResponseCapacity := by omega
      obtain ⟨after,stored⟩ := terminate_write driver.response short
      obtain ⟨later,cut⟩ := cut_terminated outcome.response after
      rw [if_neg unusable,if_neg unusable]
      dsimp only
      rw [stored,cut,readResponse,readResponse,parseShellyResponse_terminator (noNul_takeWhile _) later []]
  · rw [if_pos ok,if_pos ok]

/-- The exchange of a request of the driver. -/
def ShellyMasterValveDriver.exchange (driver : ShellyMasterValveDriver τ) (client : EspHttpClient τ) (path : CString)
    (state : τ) : Option Exchange × τ :=
  client.perform driver.host.toCString driver.port path driver.operationTimeoutMs state

variable {client : EspHttpClient τ}

/-- The driver with its transport over a client. -/
def ShellyMasterValveDriver.connected (driver : ShellyMasterValveDriver τ) (client : EspHttpClient τ) :
    ShellyMasterValveDriver τ :=
  { driver with transport := some (espShellyHttpTransport client) }

variable (client driver path state) in
theorem connected_get :
    (driver.connected client).get path state = if driver.operationTimeoutMs = 0 then (⟨.rejected,0,[]⟩,state)
      else espAnswer client driver.host.toCString driver.port path driver.operationTimeoutMs
        shellyMasterValveHttpResponseCapacity state := by
  by_cases unset : driver.operationTimeoutMs = 0
  · rw [if_pos unset]
    exact if_pos (.inr unset)
  · rw [if_neg unset]
    exact if_neg (not_or.mpr ⟨by decide,unset⟩)

theorem get_over (transported : driver.transport = some (espShellyHttpTransport client))
    (configured : driver.configured = true) (path : CString) (state : τ) :
    driver.get path state = espAnswer client driver.host.toCString driver.port path driver.operationTimeoutMs
      shellyMasterValveHttpResponseCapacity state := by
  have connected : driver = driver.connected client := by rw [ShellyMasterValveDriver.connected,← transported]
  rw [connected]
  exact (connected_get driver path state client).trans (if_neg (driver.timed configured))

theorem get_answers_iff (transported : driver.transport = some (espShellyHttpTransport client))
    (configured : driver.configured = true) (path : CString) (state : τ) (members : List Member) :
    (driver.get path state).1.Answers members ↔
      ∃ exchange, (driver.exchange client path state).1 = some exchange ∧ exchange.Answers members := by
  rw [get_over transported configured]
  simp only [espAnswer,ShellyMasterValveDriver.exchange]
  cases client.perform driver.host.toCString driver.port path driver.operationTimeoutMs state with
  | mk answer next =>
    cases answer with
    | none => exact iff_of_false (fun answers => nomatch answers.ok) fun ⟨_,missing,_⟩ => nomatch missing
    | some exchange =>
      refine (outcome_answers_iff members).trans ⟨fun answers => ⟨exchange,rfl,answers⟩,?_⟩
      rintro ⟨other,same,answers⟩
      cases same
      exact answers

/-- Over the client an operation is confirmed by two whole responses, however they were cut: one to the
command, and one to the question for the status, which has the requested output. -/
theorem confirmed_over_client_iff (transported : driver.transport = some (espShellyHttpTransport client))
    (requestedOutput : Bool) (state : τ) : (setAndConfirm driver requestedOutput state).1 = .ok ↔
    driver.configured = true ∧
    let (set,between) := driver.exchange client (switchSetPath driver.switchId requestedOutput) state
    (∃ exchange members, set = some exchange ∧ exchange.Answers members) ∧
    ∃ exchange members, (driver.exchange client (switchGetStatusPath driver.switchId) between).1 = some exchange ∧
      exchange.Answers members ∧ ⟨ascii "output",booleanText requestedOutput⟩ ∈ members := by
  rw [setAndConfirm_ok_iff]
  refine and_congr_right fun configured => ?_
  have answers := get_answers_iff transported configured
  have between (path : CString) (state : τ) : (driver.get path state).2 = (driver.exchange client path state).2 := by
    rw [get_over transported configured]
    simp only [espAnswer,ShellyMasterValveDriver.exchange]
    split <;> simp [*]
  simp only [ShellyMasterValveDriver.outcomes,between]
  constructor
  · rintro ⟨⟨members,accepted⟩,⟨reported,shown,listed⟩⟩
    obtain ⟨set,performed,good⟩ := (answers _ _ members).mp accepted
    obtain ⟨status,asked,better⟩ := (answers _ _ reported).mp shown
    exact ⟨⟨set,members,performed,good⟩,status,reported,asked,better,listed⟩
  · rintro ⟨⟨set,members,performed,good⟩,status,reported,asked,better,listed⟩
    exact ⟨⟨members,(answers _ _ members).mpr ⟨set,performed,good⟩⟩,
      ⟨reported,(answers _ _ reported).mpr ⟨status,asked,better⟩,listed⟩⟩

/-- A client that answers from a list. -/
def listClient : EspHttpClient (List Exchange) where
  perform := fun _ _ _ _ exchanges => (exchanges.head?,exchanges.tail)

def devShellyOver : ShellyMasterValveDriver (List Exchange) :=
  shellyMasterValveDriverInit (some (espShellyHttpTransport listClient)) ⟨some (.literal "shelly-master"),80,0,1000⟩

/-- The command is accepted, and the status comes in two pieces. -/
def devExchanges : List Exchange :=
  [⟨[.other,.onData (ascii "\x7b\"was_on\":false\x7d")],.ok,200⟩,
    ⟨[.onData (ascii "\x7b\"output\""),.onData (ascii ":true\x7d")],.ok,200⟩]

theorem confirmed_over_client_iff_dev : devShellyOver.configured = true ∧
    let (set,between) := devShellyOver.exchange listClient (switchSetPath devShellyOver.switchId true) devExchanges
    (∃ exchange members, set = some exchange ∧ exchange.Answers members) ∧
    ∃ exchange members, (devShellyOver.exchange listClient (switchGetStatusPath devShellyOver.switchId) between).1 =
      some exchange ∧ exchange.Answers members ∧ ⟨ascii "output",booleanText true⟩ ∈ members := by
  have confirmed : (setAndConfirm devShellyOver true devExchanges).1 = .ok := by decide +kernel
  exact (confirmed_over_client_iff rfl true devExchanges).mp confirmed

/-- The same exchange, cut into other pieces. -/
inductive Recut : Option Exchange × τ → Option Exchange × τ → Prop
  | absent (state : τ) : Recut (none,state) (none,state)
  | performed {first second : Exchange} (result : first.result = second.result)
      (statusCode : first.statusCode = second.statusCode) (body : first.body = second.body) (state : τ) :
      Recut (some first,state) (some second,state)

theorem reading_of_failed {outcome : ShellyHttpOutcome} (failed : outcome.result ≠ .ok) :
    outcome.reading = .error outcome.result := if_pos failed

/-- What a failed request comes to depends on why it failed only. -/
theorem outcome_recut {first second : Exchange} (result : first.result = second.result)
    (statusCode : first.statusCode = second.statusCode) (body : first.body = second.body) (capacity : Nat) :
    (first.outcome capacity).reading = (second.outcome capacity).reading := by
  by_cases ok : (first.outcome capacity).result = .ok
  · have other : (second.outcome capacity).result = .ok := by
      rw [outcome_ok_iff,← result,← body]
      exact outcome_ok_iff.mp ok
    rw [outcome_of_ok ok,outcome_of_ok other,statusCode,body]
  · have failed : (second.outcome capacity).result ≠ .ok := by
      rw [ne_eq,outcome_ok_iff,← result,← body,← outcome_ok_iff]
      exact ok
    have answer (exchange : Exchange) (failed : (exchange.outcome capacity).result ≠ .ok) :
        (exchange.outcome capacity).result = if exchange.result = .timeout then .timeout else .internalError := by
      simp only [Exchange.outcome] at failed ⊢
      split
      · next succeeded => exact absurd (by rw [if_pos succeeded]) failed
      · split <;> rfl
    rw [reading_of_failed ok,reading_of_failed failed,answer first ok,answer second failed,result]

variable {first second : EspHttpClient τ}

/-- Two requests with the same exchange, whatever was in the buffer before. -/
theorem request_recut (recut : ∀ host port path timeoutMs state,
      Recut (first.perform host port path timeoutMs state) (second.perform host port path timeoutMs state))
    (driver : ShellyMasterValveDriver τ) (buffer : ResponseBuffer) (path : CString) (state : τ) :
    ∃ answer next one other,
      request (driver.connected first) path state = (answer,{ driver.connected first with response := one },next) ∧
      request { driver.connected second with response := buffer } path state =
        (answer,{ driver.connected second with response := other },next) := by
  have alike : ((driver.connected first).get path state).1.reading =
        ({ driver.connected second with response := buffer }.get path state).1.reading ∧
      ((driver.connected first).get path state).2 =
        ({ driver.connected second with response := buffer }.get path state).2 := by
    have other : { driver.connected second with response := buffer }.get path state =
        (driver.connected second).get path state := rfl
    rw [other,connected_get,connected_get]
    split
    · exact ⟨rfl,rfl⟩
    · have same := recut driver.host.toCString driver.port path driver.operationTimeoutMs state
      simp only [espAnswer]
      generalize first.perform driver.host.toCString driver.port path driver.operationTimeoutMs state = one at same
      generalize second.perform driver.host.toCString driver.port path driver.operationTimeoutMs state = other at same
      cases same with
      | absent => exact ⟨rfl,rfl⟩
      | performed result statusCode body => exact ⟨outcome_recut result statusCode body _,rfl⟩
  obtain ⟨state₁,one,driver₁⟩ := @request_same τ (driver.connected first) path state
  obtain ⟨state₂,other,driver₂⟩ := @request_same τ { driver.connected second with response := buffer } path state
  refine ⟨_,_,one,other,Prod.ext rfl (Prod.ext driver₁ rfl),Prod.ext ?_ (Prod.ext driver₂ ?_)⟩
  · rw [request_reading,request_reading,alike.1]
  · rw [state₁,state₂,alike.2]

/-- How a response is cut decides neither how an operation ends nor what it does to the network. -/
theorem cutting_is_invisible (recut : ∀ host port path timeoutMs state,
      Recut (first.perform host port path timeoutMs state) (second.perform host port path timeoutMs state))
    (driver : ShellyMasterValveDriver τ) (requestedOutput : Bool) (state : τ) :
    (setAndConfirm (driver.connected first) requestedOutput state).1 =
        (setAndConfirm (driver.connected second) requestedOutput state).1 ∧
      (setAndConfirm (driver.connected first) requestedOutput state).2.2 =
        (setAndConfirm (driver.connected second) requestedOutput state).2.2 := by
  cases configured : driver.configured with
  | false =>
    have refused (client : EspHttpClient τ) : setAndConfirm (driver.connected client) requestedOutput state =
        (.rejected,driver.connected client,state) :=
      if_pos (by change (!driver.configured || false) = true; rw [configured]; rfl)
    rw [refused,refused]
    exact ⟨rfl,rfl⟩
  | true =>
    have goesOn (client : EspHttpClient τ) :
        (!(driver.connected client).configured || (driver.connected client).transport.isNone) = false := by
      change (!driver.configured || false) = false
      rw [configured]
      rfl
    have setFits (client : EspHttpClient τ) :=
      Nat.not_le.mpr (switchSetPath_fits (driver.connected client).switchId requestedOutput)
    have statusFits (client : EspHttpClient τ) :=
      Nat.not_le.mpr (switchGetStatusPath_fits (driver.connected client).switchId)
    obtain ⟨answer,between,one,other,asked,again⟩ :=
      request_recut recut driver driver.response (switchSetPath driver.switchId requestedOutput) state
    have one_set : request (driver.connected first) (switchSetPath (driver.connected first).switchId requestedOutput) state =
      _ := asked
    have other_set : request (driver.connected second) (switchSetPath (driver.connected second).switchId requestedOutput)
      state = _ := again
    simp only [setAndConfirm,goesOn,Bool.false_eq_true,if_false,setFits,one_set,other_set,ge_iff_le]
    cases answer with
    | error result => exact ⟨rfl,rfl⟩
    | ok accepted =>
      obtain ⟨answer,next,_,_,asked,again⟩ := request_recut recut { driver with response := one } other
        (switchGetStatusPath driver.switchId) between
      have one_status : request { driver.connected first with response := one }
        (switchGetStatusPath (driver.connected first).switchId) between = _ := asked
      have other_status : request { driver.connected second with response := other }
        (switchGetStatusPath (driver.connected second).switchId) between = _ := again
      simp only [statusFits,if_false,one_status,other_status]
      cases answer with
      | error result => exact ⟨rfl,rfl⟩
      | ok reported => exact ⟨rfl,rfl⟩

/-- The same exchanges, each in one piece. -/
def joiningClient : EspHttpClient (List Exchange) where
  perform := fun _ _ _ _ exchanges =>
    (exchanges.head?.map fun exchange => { exchange with events := [.onData exchange.body] },exchanges.tail)

theorem cutting_is_invisible_dev :
    (setAndConfirm (devShellyOver.connected listClient) true devExchanges).1 =
        (setAndConfirm (devShellyOver.connected joiningClient) true devExchanges).1 ∧
      (setAndConfirm (devShellyOver.connected listClient) true devExchanges).2.2 =
        (setAndConfirm (devShellyOver.connected joiningClient) true devExchanges).2.2 := by
  refine cutting_is_invisible (fun _ _ _ _ exchanges => ?_) devShellyOver true devExchanges
  cases exchanges with
  | nil => exact .absent []
  | cons exchange later =>
    have joined : exchange.body = Exchange.body { exchange with events := [.onData exchange.body] } :=
      (List.append_nil _).symm
    refine .performed ?_ ?_ joined later
    · rfl
    · rfl

end Driver

end Shelly

end Irrigation
