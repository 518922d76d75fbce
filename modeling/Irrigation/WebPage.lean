import Irrigation.WebQueries
import Irrigation.WebResponses

/-! The page of the web server: the cards that its script makes of the responses, and the requests
that it sends for them. -/
namespace Irrigation.Page

open Scanning Numerals UrlEncoding Json

/-! ### Values of a response -/

/-- `object.key` -/
def property (key : String) : Tree → Option Tree
  | .object members => (members.find? fun member => member.1 = ascii key).map (·.2)
  | _ => none

/-- A value where the document takes a text. -/
def shownText : Tree → Option (List UInt8)
  | .string text => some text
  | .number value => some (decimal value)
  | .boolean value => some (ascii (if value then "true" else "false"))
  | .array _ | .object _ => none

def numberOf : Tree → Option Nat
  | .number value => some value
  | _ => none

def elementsOf : Tree → Option (List Tree)
  | .array elements => some elements
  | _ => none

def textAt (key : String) (tree : Tree) : Option (List UInt8) := (property key tree).bind shownText

def numberAt (key : String) (tree : Tree) : Option Nat := (property key tree).bind numberOf

def elementsAt (key : String) (tree : Tree) : Option (List Tree) := (property key tree).bind elementsOf

/-! ### Requests -/

/-- `URLSearchParams`: letters, digits and four marks stay, and a blank becomes a plus. -/
def formEncoder : Encoder where
  plain byte := isalnum byte || byte ∈ ascii "*-._"
  plus := true
where
  isalnum (byte : UInt8) : Bool := isdigit byte || (65 ≤ byte && byte ≤ 90) || (97 ≤ byte && byte ≤ 122)

/-- `encodeURIComponent`; of what it leaves, `fetch` encodes the apostrophe. -/
def componentEncoder : Encoder where
  plain byte := formEncoder.isalnum byte || byte ∈ ascii "-_.!~*()"
  plus := false

/-- `go(uri + '?' + query)` -/
def go (uri : String) (query : List UInt8) : WebCall := ⟨.post,.literal uri,pageRequest uri query⟩

/-! ### Program cards -/

structure StepRow where
  zone : List UInt8
  seconds : List UInt8
  deriving DecidableEq, Repr

structure ProgramCard where
  index : List UInt8
  name : List UInt8
  rows : List StepRow
  deriving DecidableEq, Repr

/-- The value of a text field has no line breaks. -/
def fieldText (text : List UInt8) : List UInt8 := text.filter fun byte => byte ≠ 10 ∧ byte ≠ 13

/-- The value of a select over these options once the one that equals a text was selected. -/
def selectValue (options : List (List UInt8)) (text : List UInt8) : List UInt8 :=
  if text ∈ options then text else options.headD []

/-- `Math.floor(duration_ms/1000)||1` -/
def secondsShown (durationMs : Nat) : Nat := if durationMs / 1000 = 0 then 1 else durationMs / 1000

def step (config s : Tree) : Option StepRow := do
  let zones ← elementsAt "zones" config
  let ids ← zones.mapM (textAt "id")
  let zoneId ← textAt "zone_id" s
  let durationMs ← numberAt "duration_ms" s
  pure ⟨selectValue ids zoneId,decimal (secondsShown durationMs)⟩

def card (config p : Tree) : Option ProgramCard := do
  let index ← textAt "index" p
  let name ← textAt "name" p
  let steps ← elementsAt "steps" p
  let rows ← steps.mapM (step config)
  pure ⟨index,fieldText name,rows⟩

/-- The cards that `loadPrograms` shows. -/
def programCards (config : Tree) : Option (List ProgramCard) := do
  let programs ← elementsAt "programs" config
  programs.mapM (card config)

/-- `addProgram` -/
def newProgram : ProgramCard := ⟨ascii "new",[],[]⟩

/-- An array where a text is expected. -/
def commas (texts : List (List UInt8)) : List UInt8 := [','.toUInt8].intercalate texts

def ProgramCard.parameters (c : ProgramCard) : Parameters := [
  ("index",c.index),
  ("name",c.name),
  ("zones",commas (c.rows.map (·.zone))),
  ("durations",commas (c.rows.map (·.seconds)))]

def save (c : ProgramCard) : WebCall := go "/program/save" (encodedQuery formEncoder c.parameters)

/-! ### Schedule cards -/

structure ScheduleCard where
  index : List UInt8
  weekdays : List Bool
  hour : List UInt8
  minute : List UInt8
  program : List UInt8
  deriving DecidableEq, Repr

def scheduleCard (config s : Tree) : Option ScheduleCard := do
  let index ← textAt "index" s
  let weekdayMask ← numberAt "weekday_mask" s
  let hour ← textAt "hour" s
  let minute ← textAt "minute" s
  let programIndex ← textAt "program_index" s
  let programs ← elementsAt "programs" config
  let options ← programs.mapM (textAt "index")
  pure ⟨index,(List.range 7).map weekdayMask.testBit,hour,minute,selectValue options programIndex⟩

/-- The cards that `loadSchedule` shows. -/
def scheduleCards (config data : Tree) : Option (List ScheduleCard) := do
  let schedules ← elementsAt "schedules" data
  schedules.mapM (scheduleCard config)

/-- `if(d.checked)mask|=1<<index` over the boxes. -/
def weekdayMask (weekdays : List Bool) : Nat :=
  weekdays.zipIdx.foldl (fun mask day => if day.1 then mask ||| 1 <<< day.2 else mask) 0

def ScheduleCard.parameters (c : ScheduleCard) : Parameters := [
  ("index",c.index),
  ("weekday_mask",decimal (weekdayMask c.weekdays)),
  ("hour",c.hour),
  ("minute",c.minute),
  ("program_index",c.program)]

def saveSchedule (c : ScheduleCard) : WebCall := go "/schedule/save" (encodedQuery formEncoder c.parameters)

/-! ### Zone names -/

structure ZoneCard where
  id : List UInt8
  name : List UInt8
  deriving DecidableEq, Repr

def zoneCard (z : Tree) : Option ZoneCard := do
  let id ← textAt "id" z
  let name ← textAt "name" z
  pure ⟨id,fieldText name⟩

/-- The cards that `showZoneNames` shows. -/
def zoneCards (config : Tree) : Option (List ZoneCard) := do
  let zones ← elementsAt "zones" config
  zones.mapM zoneCard

def ZoneCard.parameters (c : ZoneCard) : Parameters := [("id",c.id),("name",c.name)]

def saveZoneName (c : ZoneCard) : WebCall := go "/zone/name" (encodedQuery componentEncoder c.parameters)

/-! ### The encoders -/

theorem formEncoder_reserves : formEncoder.Reserves := ⟨by decide,by decide,by decide,by decide⟩

theorem componentEncoder_reserves : componentEncoder.Reserves := ⟨by decide,by decide,by decide,by decide⟩

theorem program_keys (c : ProgramCard) : PlainKeys c.parameters := by
  have letters : ∀ key ∈ ["index","name","zones","durations"], KeyText (ascii key) := by decide +kernel
  refine ⟨fun parameter member => letters parameter.1 (List.mem_map_of_mem member),?_⟩
  change (["index","name","zones","durations"].map ascii).Nodup
  decide

theorem schedule_keys (c : ScheduleCard) : PlainKeys c.parameters := by
  have letters : ∀ key ∈ ["index","weekday_mask","hour","minute","program_index"], KeyText (ascii key) := by decide +kernel
  refine ⟨fun parameter member => letters parameter.1 (List.mem_map_of_mem member),?_⟩
  change (["index","weekday_mask","hour","minute","program_index"].map ascii).Nodup
  decide

theorem zone_keys (c : ZoneCard) : PlainKeys c.parameters := by
  have letters : ∀ key ∈ ["id","name"], KeyText (ascii key) := by decide +kernel
  refine ⟨fun parameter member => letters parameter.1 (List.mem_map_of_mem member),?_⟩
  change (["id","name"].map ascii).Nodup
  decide

/-- What the handlers read of a form. -/
theorem queryValue_form {library : QueryKeyValue} (reads : ReadsPairs library) {parameters : Parameters}
    (keys : PlainKeys parameters) {uri : String} (room : (encodedQuery formEncoder parameters).length < querySize)
    {key : String} {text : CString} (given : (key,text.bytes) ∈ parameters) {size : Nat}
    (fits : (formEncoder.encode text.bytes).length < size) :
    queryValue library (pageRequest uri (encodedQuery formEncoder parameters)) key size = some text := by
  rw [queryValue_encoded reads formEncoder_reserves (by decide) keys uri room given,if_pos fits]

end Irrigation.Page
