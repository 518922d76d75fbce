import Irrigation.ConfigurationManager
import Irrigation.InstalledConfigurations
import Irrigation.Library.Numerals

/-! The web server's program endpoints: how they read the parameters of a request and what
they then ask the program service and the configuration manager for. -/
namespace Irrigation

open Scanning Numerals

/-! ### Parameters -/

/-- A request, with its query when the URI has one. -/
structure HttpRequest where
  uri : CString
  query : Option CString
  deriving DecidableEq, Repr

/-- The server library's `httpd_query_key_value`: what it stores for a key into a buffer of a
size when it answers OK. -/
abbrev QueryKeyValue := (query key : CString) → (size : Nat) → Option CString

abbrev querySize : Nat := 512

def hexDigit (digit : UInt8) : UInt8 :=
  if isdigit digit then digit - '0'.toUInt8 else (digit ||| 0x20) - 'a'.toUInt8 + 10

def urlDecodeBytes : List UInt8 → List UInt8
  | byte :: high :: low :: rest =>
    if byte = '+'.toUInt8 then ' '.toUInt8 :: urlDecodeBytes (high :: low :: rest)
    else if byte = '%'.toUInt8 ∧ isxdigit high ∧ isxdigit low then
      (16 * hexDigit high + hexDigit low) :: urlDecodeBytes rest
    else byte :: urlDecodeBytes (high :: low :: rest)
  | byte :: rest => (if byte = '+'.toUInt8 then ' '.toUInt8 else byte) :: urlDecodeBytes rest
  | [] => []

/-- An escaped NUL ends the text. -/
def urlDecode (value : CString) : CString := CString.ofBytes (urlDecodeBytes value.bytes)

def queryValue (library : QueryKeyValue) (request : HttpRequest) (key : String) (size : Nat) : Option CString := do
  let query ← request.query
  if query.bytes.length ≥ querySize then none
  else (library query (.literal key) size).map urlDecode

def slotValid (manager : ConfigurationManager) (index : Nat) : Bool :=
  index < manager.configuration.programCount.toNat

def parseValue (text : CString) (maximum : Nat) : Option Nat :=
  if text.bytes = [] then none
  else
    let (value,rest) := strtoul text.bytes
    if rest = [] ∧ value.toNat ≤ maximum then some value.toNat else none

/-! ### Program steps -/

abbrev maxStepSeconds : Nat := 3600

/-- The tokens that `strtok_r` cuts a text into. -/
def strtok (separator : UInt8) (text : CString) : List (List UInt8) :=
  (text.bytes.splitOn separator).filter (· ≠ [])

def zoneExists (zones : List Zone) (id : List UInt8) : Bool := zones.any fun zone => zone.id.bytes = id

def parseStep (zones : List Zone) (zone duration : List UInt8) : Option IrrigationProgramStepConfiguration :=
  let (seconds,rest) := strtoul duration
  if ¬zoneExists zones zone ∨ duration = [] ∨ rest ≠ [] ∨ seconds = 0 ∨ seconds.toNat > maxStepSeconds ∨
      zone.length ≥ irrigationConfigurationIdSize then none
  else some ⟨copyText (.ofBytes zone),seconds * 1000⟩

/-- The steps from the tokens that are left, with room for so many. -/
def parseTokens (zones : List Zone) : Nat → List (List UInt8) → List (List UInt8) →
    Option (List IrrigationProgramStepConfiguration)
  | _, [], [] => some []
  | room + 1, zone :: moreZones, duration :: moreDurations => do
    let step ← parseStep zones zone duration
    let steps ← parseTokens zones room moreZones moreDurations
    pure (step :: steps)
  | _, _, _ => none

def parseSteps (zones : List Zone) (zonesText durationsText : CString) :
    Option (List IrrigationProgramStepConfiguration) :=
  parseTokens zones irrigationMaxProgramSteps (strtok ','.toUInt8 zonesText) (strtok ','.toUInt8 durationsText)

/-! ### Program endpoints -/

/-- What a request to start or abort asks for. -/
inductive ProgramAction where
  | abort
  | answer (result : IrrigationResult)
  | start (index : Nat) (program : ProgramAddress)
  deriving DecidableEq, Repr

section Handlers

variable {ε σ : Type} (drivers : Drivers ε) (device : Repository.ConfigurationRepositoryStorage σ)
  (library : QueryKeyValue) (zones : List Zone) (request : HttpRequest)

/-- The branch that `program_handler` takes. -/
def programAction (manager : ConfigurationManager) : ProgramAction :=
  if request.uri = .literal "/program/abort" then .abort
  else match queryValue library request "index" 8 with
    | none => .answer .rejected
    | some indexText =>
      let index := (strtoul indexText.bytes).1.toNat
      match if slotValid manager index then configurationManagerProgramAt manager index else none with
      | none => .answer .notFound
      | some program => .start index program

def programHandler (system : ManagedSystem ε σ) : IrrigationResult × ManagedSystem ε σ :=
  match programAction library request system.manager with
  | .abort => system.schedule (programServiceAbort drivers)
  | .answer result => (result,system)
  | .start _ program => system.schedule (programServiceStart drivers (some program))

def programSaveHandler (system : ManagedSystem ε σ) : IrrigationResult × ManagedSystem ε σ :=
  if programIsActive system.world.store then (.rejected,system)
  else match queryValue library request "index" 8, queryValue library request "name" irrigationConfigurationNameSize,
      queryValue library request "zones" querySize, queryValue library request "durations" querySize with
    | some indexText, some name, some zonesText, some durationsText =>
      if name.bytes = [] then (.rejected,system)
      else match parseSteps zones zonesText durationsText with
        | none => (.rejected,system)
        | some steps =>
          if indexText = .literal "new" then mutate device (.createProgram (some name) (some steps)) system
          else match parseValue indexText (irrigationMaxPrograms - 1) with
            | none => (.rejected,system)
            | some index => mutate device (.updateProgram index (some name) (some steps)) system
    | _, _, _, _ => (.rejected,system)

def programDeleteHandler (system : ManagedSystem ε σ) : IrrigationResult × ManagedSystem ε σ :=
  if programIsActive system.world.store then (.rejected,system)
  else match (queryValue library request "index" 8).bind (parseValue · (irrigationMaxPrograms - 1)) with
    | none => (.rejected,system)
    | some index => mutate device (.deleteProgram index) system

end Handlers

/-! ### How the index is read -/

variable {library : QueryKeyValue} {request : HttpRequest} {text : CString}

/-- `parse_value` accepts the whole numerals up to a maximum. -/
theorem parseValue_eq_some_iff (text : CString) (maximum index : Nat) : parseValue text maximum = some index ↔
    WholeNumeral text.bytes ∧ (strtoul text.bytes).1.toNat = index ∧ index ≤ maximum := by
  by_cases empty : text.bytes = []
  · have digitless : ¬WholeNumeral text.bytes := by
      rintro ⟨blanks,sign,digits,split,_,_,some,_⟩
      rw [empty,List.nil_eq_append_iff] at split
      exact some split.2
    rw [parseValue,if_pos empty]
    exact iff_of_false nofun fun accepted => digitless accepted.1
  · simp only [parseValue,if_neg empty,strtoul_whole_iff empty,Option.ite_none_right_eq_some,Option.some.injEq]
    constructor
    · rintro ⟨⟨whole,small⟩,rfl⟩
      exact ⟨whole,rfl,small⟩
    · rintro ⟨whole,rfl,small⟩
      exact ⟨⟨whole,small⟩,rfl⟩

/-- Only live programs are found, and there are at most four of them. -/
theorem programAt_some {manager : ConfigurationManager} {index : Nat} {program : ProgramAddress}
    (found : configurationManagerProgramAt manager index = some program) :
    slotValid manager index = true ∧ index ≤ irrigationMaxPrograms - 1 := by
  obtain ⟨configured,given,_⟩ := Option.bind_eq_some_iff.mp found
  have inside := (List.getElem?_eq_some_iff.mp given).1
  have counted : index < min manager.configuration.programCount.toNat irrigationMaxPrograms := by
    simpa [IrrigationConfiguration.livePrograms] using inside
  refine ⟨decide_eq_true (by omega),by omega⟩

theorem programAction_start_iff (starts : request.uri ≠ .literal "/program/abort")
    (given : queryValue library request "index" 8 = some text) (manager : ConfigurationManager) (index : Nat)
    (program : ProgramAddress) : programAction library request manager = .start index program ↔
      (strtoul text.bytes).1.toNat = index ∧ configurationManagerProgramAt manager index = some program := by
  have unslotted : (if slotValid manager (strtoul text.bytes).1.toNat then
      configurationManagerProgramAt manager (strtoul text.bytes).1.toNat else none) =
      configurationManagerProgramAt manager (strtoul text.bytes).1.toNat := by
    split
    · rfl
    · next invalid =>
      cases found : configurationManagerProgramAt manager (strtoul text.bytes).1.toNat with
      | none => rfl
      | some program => exact absurd (programAt_some found).1 invalid
  simp only [programAction,if_neg starts,given,unslotted]
  cases found : configurationManagerProgramAt manager (strtoul text.bytes).1.toNat with
  | none =>
    refine iff_of_false nofun ?_
    rintro ⟨rfl,some⟩
    rw [found] at some
    contradiction
  | some address =>
    simp only [ProgramAction.start.injEq]
    constructor
    · rintro ⟨rfl,rfl⟩
      exact ⟨rfl,found⟩
    · rintro ⟨rfl,same⟩
      rw [found] at same
      exact ⟨rfl,Option.some.inj same⟩

/-- A start acts on the index that saving and deleting read, and on none that they reject. -/
structure StartsAsParsed (library : QueryKeyValue) (request : HttpRequest) (manager : ConfigurationManager)
    (text : CString) : Prop where
  accepted : ∀ index program, programAction library request manager = .start index program →
    parseValue text (irrigationMaxPrograms - 1) = some index
  rejected : parseValue text (irrigationMaxPrograms - 1) = none →
    ∀ index program, programAction library request manager ≠ .start index program

/-- That is so exactly for the whole numerals and for the texts whose leading number, zero when they
have none, is that of no program. -/
theorem starts_as_parsed_iff (starts : request.uri ≠ .literal "/program/abort")
    (given : queryValue library request "index" 8 = some text) (manager : ConfigurationManager) :
    StartsAsParsed library request manager text ↔ WholeNumeral text.bytes ∨
      configurationManagerProgramAt manager (strtoul text.bytes).1.toNat = none := by
  have started := programAction_start_iff starts given manager
  constructor
  · intro parsed
    cases found : configurationManagerProgramAt manager (strtoul text.bytes).1.toNat with
    | none => exact .inr rfl
    | some program =>
      have accepted := parsed.accepted _ program ((started _ _).mpr ⟨rfl,found⟩)
      exact .inl ((parseValue_eq_some_iff _ _ _).mp accepted).1
  · intro readable
    have accepted : ∀ index program, programAction library request manager = .start index program →
        parseValue text (irrigationMaxPrograms - 1) = some index := by
      intro index program starting
      obtain ⟨rfl,found⟩ := (started _ _).mp starting
      have whole := readable.resolve_right (by rw [found]; exact Option.some_ne_none _)
      exact (parseValue_eq_some_iff _ _ _).mpr ⟨whole,rfl,(programAt_some found).2⟩
    refine ⟨accepted,fun unread index program starting => ?_⟩
    rw [accepted index program starting] at unread
    contradiction

/-! ### An unsaved card -/

/-- A value behind its key in the pairs of a query, if it fits its buffer. -/
def pairLookup : QueryKeyValue := fun query key size =>
  ((query.bytes.splitOn '&'.toUInt8).find? fun pair => pair.take (key.bytes.length + 1) = key.bytes ++ ['='.toUInt8]).bind
    fun pair =>
      let value := pair.drop (key.bytes.length + 1)
      if value.length < size then some (.ofBytes value) else none

def startRequest (index : String) : HttpRequest :=
  ⟨.literal ("/program/start?index=" ++ index),some (.literal ("index=" ++ index))⟩

theorem starts_as_parsed_iff_plus : StartsAsParsed pairLookup (startRequest "%2B0") devManager (.literal "+0") ↔
    WholeNumeral (CString.literal "+0").bytes ∨
      configurationManagerProgramAt devManager (strtoul (CString.literal "+0").bytes).1.toNat = none :=
  starts_as_parsed_iff (by decide +kernel) (by decide +kernel) devManager

/-- The marker of an unsaved card starts the first program. -/
theorem new_starts_first : programAction pairLookup (startRequest "new") devManager = .start 0 0 ∧
    queryValue pairLookup (startRequest "new") "index" 8 = some (.literal "new") ∧
    parseValue (.literal "new") (irrigationMaxPrograms - 1) = none ∧
    ¬StartsAsParsed pairLookup (startRequest "new") devManager (.literal "new") := by
  have started : programAction pairLookup (startRequest "new") devManager = .start 0 0 := by decide +kernel
  have unread : parseValue (.literal "new") (irrigationMaxPrograms - 1) = none := by decide +kernel
  exact ⟨started,by decide +kernel,unread,fun parsed => parsed.rejected unread 0 0 started⟩

end Irrigation
