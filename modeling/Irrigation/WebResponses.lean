import Irrigation.ConfiguredZones
import Irrigation.DeviceInvariants
import Irrigation.InstalledConfigurations
import Irrigation.Library.JsonText
import Irrigation.Library.Printing
import Mathlib.Algebra.Order.BigOperators.Group.List
import Mathlib.Algebra.Order.Ring.Nat

/-! What the web server answers with. The responses are printed into fixed buffers, two of them
without a guard; a validated configuration fits, and needs no escapes. -/
namespace Irrigation

open Scanning Numerals Printing

/-! ### Printing the state and the configuration -/

abbrev statusResponseSize : Nat := 1536
abbrev programResponseSize : Nat := 4096
abbrev scheduleResponseSize : Nat := 2048

/-- What the handlers work on. The state store was configured with the zones of the web context. -/
structure DevKitWebContext where
  state : RuntimeState
  zones : List Zone
  manager : ConfigurationManager
  sameZones : state.zones.entries.map (·.zoneId) = zones.map (·.id)

/-- The answers of `time`, of `localtime_r` with its fields in their ranges, and of `strftime` for
`%V`: nothing when it returns 0. -/
structure LocalClock where
  now : Int
  tmWday : Fin 7
  tmHour : Fin 24
  tmMin : Fin 60
  tmSec : Fin 61
  isoWeek : List UInt8
  deriving DecidableEq, Repr

namespace LocalClock

variable (clock : LocalClock)

def weekdayNames : Vector String 7 :=
  #v["Sunday","Monday","Tuesday","Wednesday","Thursday","Friday","Saturday"]

def clockValid : Bool := clock.now ≥ 1700000000 && clock.isoWeek ≠ []

def day : List UInt8 := ascii (if clock.clockValid then weekdayNames[clock.tmWday] else "Unknown")

/-- `strftime` for `%H:%M:%S`. -/
def strftimeTime : List UInt8 :=
  twoDigits clock.tmHour ++ ascii ":" ++ twoDigits clock.tmMin ++ ascii ":" ++ twoDigits clock.tmSec

def timeText : List UInt8 := if clock.clockValid then clock.strftimeTime else ascii "--:--:--"

end LocalClock

/-- The separator in front of an entry. -/
def separator (index : Nat) : List UInt8 := ascii (if index = 0 then "" else ",")

def booleanText (value : Bool) : List UInt8 := ascii (if value then "true" else "false")

def resultName : IrrigationResult → String
  | .ok => "OK"
  | .rejected => "REJECTED"
  | .invalidState => "INVALID_STATE"
  | .notFound => "NOT_FOUND"
  | .referenced => "PROGRAM_REFERENCED"
  | _ => "ERROR"

def sendResult (result : IrrigationResult) : Printed :=
  snprintf 64 "\x7b\"result\":\"%s\"\x7d" [ascii (resultName result)] []

def zoneNameFor (manager : ConfigurationManager) (id : CString) : CString :=
  (configurationManagerZoneName manager (some id)).getD id

/-! ### The zones of the store -/

theorem ZoneTable.update_zoneIds (table : ZoneTable) (zoneId : CString) (status : ZoneStatus → ZoneStatus) :
    (table.update zoneId status).entries.map (·.zoneId) = table.entries.map (·.zoneId) := by
  rw [ZoneTable.update,List.map_map]
  refine List.map_congr_left fun zone _ => ?_
  exact congrArg ZoneIdentity.zoneId (ZoneTable.changeStatus_identity zoneId status zone)

section Runs

variable {ε : Type} (drivers : Drivers ε)

theorem zoneIds_kept (ids : List CString) :
    DeviceInvariant drivers fun store _ _ => store.zones.entries.map (·.zoneId) = ids where
  zoneOpening holds opening _ := by
    cases opening with
    | refused => exact holds
    | opened | failed => exact (ZoneTable.update_zoneIds _ _ _).trans holds
  zoneClosing holds closing _ := by
    cases closing with
    | refused => exact holds
    | closed => rw [closedZone_zones]; exact (ZoneTable.update_zoneIds _ _ _).trans holds
    | failed => exact (ZoneTable.update_zoneIds _ _ _).trans holds
  masterOpened holds _ _ _ := holds
  masterUnopened holds _ _ _ := holds
  masterTimed holds _ _ := by rwa [masterTimed_zones]
  masterClosing holds closing _ := by
    cases closing with
    | refused | closed | failed => exact holds
  program _ _ holds := holds
  tick holds := holds

/-- Booting configures the store with the board's zones, and no operation changes which they are. -/
theorem run_zoneIds {zones : List Zone} {preOpenDelayMs : UInt32} {world : World ε}
    (booted : boot zones preOpenDelayMs = .ok world.store) (commands : List Command) :
    (run drivers commands world).store.zones.entries.map (·.zoneId) = zones.map (·.id) := by
  have initially : world.store.zones.entries.map (·.zoneId) = zones.map (·.id) := by
    obtain ⟨accepted,stored⟩ := boot_ok booted
    rw [stored,bootedStore,configuredTable,List.map_pmap]
    exact List.pmap_eq_map _
  exact (zoneIds_kept drivers _).throughout initially commands commands [] (List.append_nil _).symm

/-- The web server's context in every state that the firmware reaches. -/
def DevKitWebContext.ofRun {zones : List Zone} {preOpenDelayMs : UInt32} {world : World ε}
    (booted : boot zones preOpenDelayMs = .ok world.store) (commands : List Command) (manager : ConfigurationManager) :
    DevKitWebContext where
  state := (run drivers commands world).store
  zones := zones
  manager := manager
  sameZones := run_zoneIds drivers booted commands

end Runs

/-! ### Handlers -/

section Handlers

variable (clock : LocalClock) (context : DevKitWebContext)

/-- An enumeration is printed as its constructor's position. -/
def printZoneStatus (used : List UInt8) (entry : ZoneRuntimeState × Nat) : Printed :=
  snprintf statusResponseSize "%s\x7b\"id\":\"%s\",\"name\":\"%s\",\"state\":%d\x7d"
    [separator entry.2,entry.1.zoneId.bytes,(zoneNameFor context.manager entry.1.zoneId).bytes,
      decimal entry.1.state.ctorIdx] used

/-- The loop over the zones stops once the buffer is full. -/
def statusHandler : Printed := do
  let used ← snprintf statusResponseSize "\x7b\"system\":%d,\"master\":%d,\"program\":%d,\"zones\":["
    [decimal context.state.systemState.ctorIdx,decimal context.state.masterValve.state.ctorIdx,
      decimal context.state.program.state.ctorIdx] []
  let used ← context.state.zones.entries.zipIdx.foldlM
    (fun used entry => if used.length < statusResponseSize then printZoneStatus context used entry else .ok used) used
  snprintf statusResponseSize "],\"clock_valid\":%s,\"day\":\"%s\",\"time\":\"%s\"\x7d"
    [booleanText clock.clockValid,clock.day,clock.timeText] used

def printZone (used : List UInt8) (entry : Zone × Nat) : Printed :=
  snprintf programResponseSize "%s\x7b\"id\":\"%s\",\"name\":\"%s\"\x7d"
    [separator entry.2,entry.1.id.bytes,(zoneNameFor context.manager entry.1.id).bytes] used

def printStep (used : List UInt8) (entry : IrrigationProgramStepConfiguration × Nat) : Printed :=
  snprintf programResponseSize "%s\x7b\"zone_id\":\"%s\",\"duration_ms\":%u\x7d"
    [separator entry.2,entry.1.zoneId.bytes,decimal entry.1.durationMs.toNat] used

def totalDurationMs (program : IrrigationProgramConfiguration) : UInt32 :=
  program.liveSteps.foldl (fun total step => total + step.durationMs) 0

def printProgram (used : List UInt8) (entry : IrrigationProgramConfiguration × Nat) : Printed := do
  let used ← snprintf programResponseSize
    "%s\x7b\"index\":%u,\"name\":\"%s\",\"total_duration_ms\":%u,\"steps\":["
    [separator entry.2,decimal entry.2,entry.1.displayName.bytes,decimal (totalDurationMs entry.1).toNat] used
  let used ← entry.1.liveSteps.zipIdx.foldlM printStep used
  snprintf programResponseSize "]\x7d" [] used

def programsHandler : Printed := do
  let used ← snprintf programResponseSize "\x7b\"zones\":[" [] []
  let used ← context.zones.zipIdx.foldlM (printZone context) used
  let used ← snprintf programResponseSize "],\"programs\":[" [] used
  let used ← context.manager.configuration.livePrograms.zipIdx.foldlM printProgram used
  snprintf programResponseSize "]\x7d" [] used

/-- Where the search for a schedule's program ends: behind the last one when there is none. -/
def programIndexFor (configuration : IrrigationConfiguration) (programId : IdText) : Nat :=
  configuration.livePrograms.findIdx fun program => program.programId = programId

def printSchedule (configuration : IrrigationConfiguration) (used : List UInt8)
    (entry : IrrigationScheduleConfiguration × Nat) : Printed :=
  snprintf scheduleResponseSize
    "%s\x7b\"index\":%u,\"weekday_mask\":%u,\"hour\":%u,\"minute\":%u,\"program_index\":%u,\"enabled\":%s\x7d"
    [separator entry.2,decimal entry.2,decimal entry.1.weekdayMask.toNat,decimal entry.1.hour.toNat,
      decimal entry.1.minute.toNat,decimal (programIndexFor configuration entry.1.programId),
      booleanText entry.1.enabled] used

/-- The loop over the schedules; nothing when one of them has no program. -/
def printSchedules (configuration : IrrigationConfiguration) :
    List (IrrigationScheduleConfiguration × Nat) → List UInt8 → Except Printing.Fault (Option (List UInt8))
  | [], used => .ok (some used)
  | entry :: rest, used =>
    if programIndexFor configuration entry.1.programId = configuration.programCount.toNat then .ok none
    else do
      let used ← printSchedule configuration used entry
      printSchedules configuration rest used

def scheduleGetHandler : Printed := do
  let configuration := context.manager.configuration
  let used ← snprintf scheduleResponseSize "\x7b\"schedules\":[" [] []
  match ← printSchedules configuration configuration.liveSchedules.zipIdx used with
  | none => sendResult .notFound
  | some used => snprintf scheduleResponseSize "]\x7d" [] used

end Handlers

/-! ### The values that they show -/

section Values

open Json

def zoneMembers (id name : CString) : List (List UInt8 × Tree) :=
  [(ascii "id",.string id.bytes),(ascii "name",.string name.bytes)]

def zoneTree (zone : IrrigationZoneConfiguration) : Tree :=
  .object (zoneMembers zone.zoneId.toCString zone.displayName.toCString)

def zoneStatusTree (zone : IrrigationZoneConfiguration) (runtime : ZoneRuntimeState) : Tree :=
  .object (zoneMembers zone.zoneId.toCString zone.displayName.toCString ++
    [(ascii "state",.number runtime.state.ctorIdx)])

def statusTree (clock : LocalClock) (state : RuntimeState) (zones : List IrrigationZoneConfiguration) : Tree :=
  .object [(ascii "system",.number state.systemState.ctorIdx),
    (ascii "master",.number state.masterValve.state.ctorIdx),
    (ascii "program",.number state.program.state.ctorIdx),
    (ascii "zones",.array (List.zipWith zoneStatusTree zones state.zones.entries)),
    (ascii "clock_valid",.boolean clock.clockValid),
    (ascii "day",.string clock.day),
    (ascii "time",.string clock.timeText)]

def stepTree (step : IrrigationProgramStepConfiguration) : Tree :=
  .object [(ascii "zone_id",.string step.zoneId.bytes),(ascii "duration_ms",.number step.durationMs.toNat)]

def programTree (entry : IrrigationProgramConfiguration × Nat) : Tree :=
  .object [(ascii "index",.number entry.2),
    (ascii "name",.string entry.1.displayName.bytes),
    (ascii "total_duration_ms",.number (entry.1.liveSteps.map (·.durationMs.toNat)).sum),
    (ascii "steps",.array (entry.1.liveSteps.map stepTree))]

def programsTree (configuration : IrrigationConfiguration) (zones : List IrrigationZoneConfiguration) : Tree :=
  .object [(ascii "zones",.array (zones.map zoneTree)),
    (ascii "programs",.array (configuration.livePrograms.zipIdx.map programTree))]

def scheduleTree (configuration : IrrigationConfiguration) (entry : IrrigationScheduleConfiguration × Nat) : Tree :=
  .object [(ascii "index",.number entry.2),
    (ascii "weekday_mask",.number entry.1.weekdayMask.toNat),
    (ascii "hour",.number entry.1.hour.toNat),
    (ascii "minute",.number entry.1.minute.toNat),
    (ascii "program_index",.number (programIndexFor configuration entry.1.programId)),
    (ascii "enabled",.boolean entry.1.enabled)]

def schedulesTree (configuration : IrrigationConfiguration) : Tree :=
  .object [(ascii "schedules",.array (configuration.liveSchedules.zipIdx.map (scheduleTree configuration)))]

/-! ### What each part prints -/

theorem separator_eq (index : Nat) : separator index = if index = 0 then [] else [','.toUInt8] := by
  rw [separator]
  split <;> rfl

/-- Entries printed behind their separators are the elements of an array. -/
theorem prints_elements {α : Type} {size : Nat} {body : List UInt8 → α × Nat → Printed} {tree : α × Nat → Tree}
    {entries : List α}
    (each : ∀ entry ∈ entries.zipIdx, Prints size (body · entry) (separator entry.2 ++ render (tree entry))) :
    Prints size (fun used => entries.zipIdx.foldlM body used) (joined ((entries.zipIdx.map tree).map render)) := by
  have printed := prints_each each
  simp only [separator_eq] at printed
  rw [joined_zipIdx fun entry => render (tree entry)] at printed
  rwa [List.map_map]

/-- The same where no element shows its index. -/
theorem prints_list {α : Type} {size : Nat} {body : List UInt8 → α × Nat → Printed} {tree : α → Tree} {entries : List α}
    (each : ∀ entry, Prints size (body · entry) (separator entry.2 ++ render (tree entry.1))) :
    Prints size (fun used => entries.zipIdx.foldlM body used) (joined ((entries.map tree).map render)) := by
  have printed : Prints size (fun used => entries.zipIdx.foldlM body used)
      (joined ((entries.zipIdx.map (tree ∘ Prod.fst)).map render)) := prints_elements fun entry _ => each entry
  rwa [← List.map_map,List.zipIdx_map_fst] at printed

theorem prints_zoneStatus (context : DevKitWebContext) (entry : ZoneRuntimeState × Nat) :
    Prints statusResponseSize (printZoneStatus context · entry) (separator entry.2 ++ render (.object
      (zoneMembers entry.1.zoneId (zoneNameFor context.manager entry.1.zoneId) ++
        [(ascii "state",.number entry.1.state.ctorIdx)]))) := by
  refine (prints_snprintf _ _ _).of_eq ?_
  simp [format,expand,zoneMembers,joined,renderMember,quoted,ascii]

theorem prints_zone (context : DevKitWebContext) (entry : Zone × Nat) :
    Prints programResponseSize (printZone context · entry) (separator entry.2 ++
      render (.object (zoneMembers entry.1.id (zoneNameFor context.manager entry.1.id)))) := by
  refine (prints_snprintf _ _ _).of_eq ?_
  simp [format,expand,zoneMembers,joined,renderMember,quoted,ascii]

theorem prints_step (entry : IrrigationProgramStepConfiguration × Nat) :
    Prints programResponseSize (printStep · entry) (separator entry.2 ++ render (stepTree entry.1)) := by
  refine (prints_snprintf _ _ _).of_eq ?_
  simp [format,expand,stepTree,joined,renderMember,quoted,ascii]

theorem prints_program {entry : IrrigationProgramConfiguration × Nat}
    (total : (totalDurationMs entry.1).toNat = (entry.1.liveSteps.map (·.durationMs.toNat)).sum) :
    Prints programResponseSize (printProgram · entry) (separator entry.2 ++ render (programTree entry)) := by
  have steps : Prints programResponseSize (fun used => entry.1.liveSteps.zipIdx.foldlM printStep used)
      (joined ((entry.1.liveSteps.map stepTree).map render)) := prints_list prints_step
  refine ((prints_snprintf _ _ _).bind (steps.bind (prints_snprintf _ _ _))).of_eq ?_
  simp [total,format,expand,programTree,joined,renderMember,quoted,ascii]

theorem prints_schedule (configuration : IrrigationConfiguration) (entry : IrrigationScheduleConfiguration × Nat) :
    Prints scheduleResponseSize (printSchedule configuration · entry)
      (separator entry.2 ++ render (scheduleTree configuration entry)) := by
  refine (prints_snprintf _ _ _).of_eq ?_
  simp [format,expand,scheduleTree,joined,renderMember,quoted,ascii,booleanText]

/-! ### What each handler prints -/

section Handlers

variable {context : DevKitWebContext} {zones : List IrrigationZoneConfiguration}

/-- The configured zones in the order of the board, under the names that the handlers find. -/
structure ShownZones (context : DevKitWebContext) (zones : List IrrigationZoneConfiguration) : Prop where
  ids : zones.map (·.zoneId.toCString) = context.zones.map (·.id)
  named : ∀ zone ∈ zones, zoneNameFor context.manager zone.zoneId.toCString = zone.displayName.toCString

theorem zones_shown (shown : ShownZones context zones) :
    (context.zones.map fun zone => Tree.object (zoneMembers zone.id (zoneNameFor context.manager zone.id))) =
      zones.map zoneTree := by
  have named : (zones.map fun zone => Tree.object (zoneMembers zone.zoneId.toCString
      (zoneNameFor context.manager zone.zoneId.toCString))) = zones.map zoneTree := by
    refine List.map_congr_left fun zone member => ?_
    rw [shown.named zone member,zoneTree]
  have ids := congrArg (List.map fun id => Tree.object (zoneMembers id (zoneNameFor context.manager id))) shown.ids
  rw [List.map_map,List.map_map] at ids
  exact ids.symm.trans named

theorem statuses_shown
    (named : ∀ zone ∈ zones, zoneNameFor context.manager zone.zoneId.toCString = zone.displayName.toCString)
    {entries : List ZoneRuntimeState} (ids : zones.map (·.zoneId.toCString) = entries.map (·.zoneId)) :
    (entries.map fun entry => Tree.object (zoneMembers entry.zoneId (zoneNameFor context.manager entry.zoneId) ++
        [(ascii "state",.number entry.state.ctorIdx)])) = List.zipWith zoneStatusTree zones entries := by
  induction zones generalizing entries with
  | nil =>
    rw [List.map_eq_nil_iff.mp ids.symm]
    rfl
  | cons zone rest ih =>
    obtain ⟨named,others⟩ := List.forall_mem_cons.mp named
    cases entries with
    | nil => contradiction
    | cons entry entries =>
      rw [List.map_cons,List.map_cons,List.cons.injEq] at ids
      rw [List.map_cons,List.zipWith_cons_cons,ih others ids.2,← ids.1,named,zoneStatusTree]

theorem statusHandler_prints (clock : LocalClock) (shown : ShownZones context zones)
    (fits : (render (statusTree clock context.state zones)).length < statusResponseSize) :
    statusHandler clock context = .ok (render (statusTree clock context.state zones)) := by
  have listed : Prints statusResponseSize (fun used => context.state.zones.entries.zipIdx.foldlM (fun used entry =>
        if used.length < statusResponseSize then printZoneStatus context used entry else .ok used) used)
      (joined ((List.zipWith zoneStatusTree zones context.state.zones.entries).map render)) := by
    rw [← statuses_shown shown.named (shown.ids.trans context.sameZones.symm)]
    exact prints_list fun entry => (prints_zoneStatus context entry).guarded
  refine (((prints_snprintf _ _ _).bind (listed.bind (prints_snprintf _ _ _))).of_eq ?_).whole fits
  simp [format,expand,statusTree,joined,renderMember,quoted,ascii,booleanText]

theorem programsHandler_prints (shown : ShownZones context zones)
    (totals : ∀ program ∈ context.manager.configuration.livePrograms,
      (totalDurationMs program).toNat = (program.liveSteps.map (·.durationMs.toNat)).sum)
    (fits : (render (programsTree context.manager.configuration zones)).length < programResponseSize) :
    programsHandler context = .ok (render (programsTree context.manager.configuration zones)) := by
  have listed : Prints programResponseSize (fun used => context.zones.zipIdx.foldlM (printZone context) used)
      (joined ((zones.map zoneTree).map render)) := by
    rw [← zones_shown shown]
    exact prints_list (prints_zone context)
  have programs : Prints programResponseSize
      (fun used => context.manager.configuration.livePrograms.zipIdx.foldlM printProgram used)
      (joined ((context.manager.configuration.livePrograms.zipIdx.map programTree).map render)) :=
    prints_elements fun entry member => prints_program (totals entry.1 (List.fst_mem_of_mem_zipIdx member))
  refine (((prints_snprintf _ _ _).bind (listed.bind ((prints_snprintf _ _ _).bind (programs.bind
    (prints_snprintf _ _ _))))).of_eq ?_).whole fits
  simp [format,expand,programsTree,joined,renderMember,quoted,ascii]

/-- With a program for every schedule, the loop only prints. -/
theorem printSchedules_found {configuration : IrrigationConfiguration}
    {entries : List (IrrigationScheduleConfiguration × Nat)}
    (found : ∀ entry ∈ entries, programIndexFor configuration entry.1.programId ≠ configuration.programCount.toNat)
    (used : List UInt8) : printSchedules configuration entries used =
      some <$> entries.foldlM (printSchedule configuration) used := by
  induction entries generalizing used with
  | nil => rfl
  | cons entry rest ih =>
    obtain ⟨first,others⟩ := List.forall_mem_cons.mp found
    rw [printSchedules,if_neg first,List.foldlM_cons]
    cases printed : printSchedule configuration used entry with
    | error fault => rfl
    | ok used => exact ih others used

theorem scheduleGetHandler_prints
    (found : ∀ schedule ∈ context.manager.configuration.liveSchedules, programIndexFor context.manager.configuration
      schedule.programId ≠ context.manager.configuration.programCount.toNat)
    (fits : (render (schedulesTree context.manager.configuration)).length < scheduleResponseSize) :
    scheduleGetHandler context = .ok (render (schedulesTree context.manager.configuration)) := by
  have prints : Prints scheduleResponseSize (fun used => do
      let used ← snprintf scheduleResponseSize "\x7b\"schedules\":[" [] used
      let used ← context.manager.configuration.liveSchedules.zipIdx.foldlM
        (printSchedule context.manager.configuration) used
      snprintf scheduleResponseSize "]\x7d" [] used) (render (schedulesTree context.manager.configuration)) := by
    have listed := prints_elements fun entry (_ : entry ∈ context.manager.configuration.liveSchedules.zipIdx) =>
      prints_schedule context.manager.configuration entry
    refine ((prints_snprintf _ _ _).bind (listed.bind (prints_snprintf _ _ _))).of_eq ?_
    simp [format,expand,schedulesTree,joined,renderMember,quoted,ascii]
  have listed := printSchedules_found fun entry (member : entry ∈ context.manager.configuration.liveSchedules.zipIdx) =>
    found entry.1 (List.fst_mem_of_mem_zipIdx member)
  simp only [scheduleGetHandler,listed,bind_map_left]
  exact prints.whole fits

end Handlers

/-! ### No text needs an escape -/

theorem textCharacter_plain {character : UInt8} (valid : textCharacterIsValid character = true) :
    plain character = true := by
  have checked : (List.range 256).all fun number =>
      !textCharacterIsValid (UInt8.ofNat number) || plain (UInt8.ofNat number) := by decide +kernel
  have this := List.all_eq_true.mp checked character.toNat (List.mem_range.mpr character.toNat_lt)
  rw [UInt8.ofNat_toNat,valid] at this
  exact this

theorem text_plain {n : Nat} {text : CharArray n} (valid : ValidText text) : ∀ byte ∈ text.bytes, plain byte = true :=
  fun byte member => textCharacter_plain (valid.characters byte member)

theorem day_plain (clock : LocalClock) : ∀ byte ∈ clock.day, plain byte = true := by
  have each : (List.finRange 7).all fun day => (ascii LocalClock.weekdayNames[day]).all plain := by decide
  refine List.all_eq_true.mp ?_
  rw [LocalClock.day]
  split
  · exact List.all_eq_true.mp each clock.tmWday (List.mem_finRange _)
  · decide

theorem timeText_plain (clock : LocalClock) : ∀ byte ∈ clock.timeText, plain byte = true := by
  have hour := clock.tmHour.isLt
  have minute := clock.tmMin.isLt
  have second := clock.tmSec.isLt
  have digits {number : Nat} (small : number < 100) : (twoDigits number).all plain = true :=
    List.all_eq_true.mpr fun digit member => digit_plain (twoDigits_digits small digit member)
  have colon : (ascii ":").all plain = true := by decide
  refine List.all_eq_true.mp ?_
  rw [LocalClock.timeText]
  split
  · simp only [LocalClock.strftimeTime,List.all_append,Bool.and_eq_true,colon,and_true]
    exact ⟨⟨digits (by omega),digits (by omega)⟩,digits (by omega)⟩
  · decide

/-- The keys of an object are literals. -/
theorem plain_object {members : List (List UInt8 × Tree)} (keys : (members.map Prod.fst).all (·.all plain) = true)
    (values : ∀ value ∈ members.map Prod.snd, Plain value) : Plain (.object members) := by
  refine .object (fun member inside => ?_) fun member inside => values _ (List.mem_map_of_mem inside)
  exact List.all_eq_true.mp (List.all_eq_true.mp keys _ (List.mem_map_of_mem inside))

theorem forall_mem_zipWith {α β γ : Type} {combine : α → β → γ} {firsts : List α} {seconds : List β}
    {property : γ → Prop} (each : ∀ first ∈ firsts, ∀ second, property (combine first second)) :
    ∀ entry ∈ List.zipWith combine firsts seconds, property entry := by
  intro entry member
  rw [← List.map_uncurry_zip_eq_zipWith] at member
  obtain ⟨⟨first,second⟩,inside,rfl⟩ := List.mem_map.mp member
  exact each first (List.of_mem_zip inside).1 second

section Shown

variable {boardZones : List Zone} {zones : List IrrigationZoneConfiguration} {configuration : IrrigationConfiguration}

theorem zoneMembers_plain {zone : IrrigationZoneConfiguration} (valid : ValidZone boardZones zone) :
    ∀ member ∈ zoneMembers zone.zoneId.toCString zone.displayName.toCString, Plain member.2 := by
  simp only [zoneMembers,List.forall_mem_cons]
  exact ⟨.string (text_plain valid.zoneId),.string (text_plain valid.displayName),nofun⟩

theorem statusTree_plain (clock : LocalClock) (state : RuntimeState)
    (valid : ∀ zone ∈ zones, ValidZone boardZones zone) : Plain (statusTree clock state zones) := by
  refine plain_object rfl ?_
  simp only [List.map_cons,List.map_nil,List.forall_mem_cons]
  refine ⟨.number _,.number _,.number _,.array (forall_mem_zipWith fun zone member runtime => ?_),.boolean _,
    .string (day_plain clock),.string (timeText_plain clock),nofun⟩
  refine plain_object rfl (List.forall_mem_map.mpr ?_)
  refine List.forall_mem_append.mpr ⟨zoneMembers_plain (valid zone member),?_⟩
  exact List.forall_mem_singleton.mpr (.number _)

theorem programTree_plain {program : IrrigationProgramConfiguration} (valid : ValidProgram boardZones program.live)
    (index : Nat) : Plain (programTree (program,index)) := by
  refine plain_object rfl ?_
  simp only [List.map_cons,List.map_nil,List.forall_mem_cons]
  refine ⟨.number _,.string (text_plain valid.displayName),.number _,.array (List.forall_mem_map.mpr ?_),nofun⟩
  intro step member
  refine plain_object rfl ?_
  simp only [List.map_cons,List.map_nil,List.forall_mem_cons]
  exact ⟨.string (text_plain (valid.steps step member).zoneId),.number _,nofun⟩

theorem programsTree_plain (valid : configuration.live.Valid boardZones)
    (among : ∀ zone ∈ zones, ValidZone boardZones zone) : Plain (programsTree configuration zones) := by
  refine plain_object rfl ?_
  simp only [List.map_cons,List.map_nil,List.forall_mem_cons]
  refine ⟨.array (List.forall_mem_map.mpr fun zone member => ?_),
    .array (List.forall_mem_map.mpr fun entry member => ?_),nofun⟩
  · exact plain_object rfl (List.forall_mem_map.mpr (zoneMembers_plain (among zone member)))
  · exact programTree_plain (valid.programs _ (List.mem_map_of_mem (List.fst_mem_of_mem_zipIdx member))) entry.2

theorem schedulesTree_plain (configuration : IrrigationConfiguration) : Plain (schedulesTree configuration) := by
  refine plain_object rfl (List.forall_mem_singleton.mpr (.array (List.forall_mem_map.mpr fun entry _ => ?_)))
  refine plain_object rfl ?_
  simp only [List.map_cons,List.map_nil,List.forall_mem_cons]
  exact ⟨.number _,.number _,.number _,.number _,.number _,.boolean _,nofun⟩

/-! ### Every text fits -/

theorem enumeration_length (number : Nat) (small : number < 10) : (decimal number).length ≤ 1 :=
  decimal_length_le (by decide) small

theorem byte_length (byte : UInt8) : (decimal byte.toNat).length ≤ 3 :=
  decimal_length_le (by decide) (Nat.lt_trans byte.toNat_lt (by decide))

theorem zoneStatusTree_length {zone : IrrigationZoneConfiguration} (valid : ValidZone boardZones zone)
    (runtime : ZoneRuntimeState) : (render (zoneStatusTree zone runtime)).length ≤ 92 := by
  have id : zone.zoneId.bytes.length < 32 := valid.zoneId.terminated
  have name : zone.displayName.bytes.length < 32 := valid.displayName.terminated
  have state := enumeration_length runtime.state.ctorIdx (by cases runtime.state <;> decide)
  simp [zoneStatusTree,zoneMembers,joined,renderMember,quoted,ascii]
  omega

theorem day_length (clock : LocalClock) : clock.day.length ≤ 9 := by
  have each : (List.finRange 7).all fun day => (ascii LocalClock.weekdayNames[day]).length ≤ 9 := by decide
  rw [LocalClock.day]
  split
  · exact of_decide_eq_true (List.all_eq_true.mp each clock.tmWday (List.mem_finRange _))
  · decide

theorem timeText_length (clock : LocalClock) : clock.timeText.length = 8 := by
  rw [LocalClock.timeText]
  split <;> rfl

theorem boolean_length (value : Bool) : (if value then "true" else "false").toList.length ≤ 5 := by
  cases value <;> decide

theorem statusTree_length (clock : LocalClock) (state : RuntimeState) (room : zones.length ≤ 8)
    (valid : ∀ zone ∈ zones, ValidZone boardZones zone) : (render (statusTree clock state zones)).length < 1536 := by
  have system := enumeration_length state.systemState.ctorIdx (by cases state.systemState <;> decide)
  have master := enumeration_length state.masterValve.state.ctorIdx (by cases state.masterValve.state <;> decide)
  have program := enumeration_length state.program.state.ctorIdx (by cases state.program.state <;> decide)
  have texts : ∀ text ∈ (List.zipWith zoneStatusTree zones state.zones.entries).map render, text.length ≤ 92 :=
    List.forall_mem_map.mpr (forall_mem_zipWith fun zone member => zoneStatusTree_length (valid zone member))
  have listed := length_joined_le texts
  rw [List.length_map,List.length_zipWith] at listed
  have day := day_length clock
  have time := timeText_length clock
  have flag := boolean_length clock.clockValid
  simp [statusTree,joined,renderMember,quoted,ascii] at listed ⊢
  omega

theorem zoneTree_length {zone : IrrigationZoneConfiguration} (valid : ValidZone boardZones zone) :
    (render (zoneTree zone)).length ≤ 81 := by
  have id : zone.zoneId.bytes.length < 32 := valid.zoneId.terminated
  have name : zone.displayName.bytes.length < 32 := valid.displayName.terminated
  simp [zoneTree,zoneMembers,joined,renderMember,quoted,ascii]
  omega

theorem stepTree_length {step : IrrigationProgramStepConfiguration} (valid : ValidStep boardZones step) :
    (render (stepTree step)).length ≤ 67 := by
  have id : step.zoneId.bytes.length < 32 := valid.zoneId.terminated
  have bounded : step.durationMs.toNat ≤ 3600000 := valid.bounded
  have duration : (decimal step.durationMs.toNat).length ≤ 7 := decimal_length_le (by decide) (by omega)
  simp [stepTree,joined,renderMember,quoted,ascii]
  omega

/-- Eight steps of an hour at most. -/
theorem total_le {program : IrrigationProgramConfiguration} (valid : ValidProgram boardZones program.live) :
    (program.liveSteps.map (·.durationMs.toNat)).sum ≤ 28800000 := by
  have room : program.liveSteps.length ≤ 8 := valid.room
  have each := List.sum_le_card_nsmul (program.liveSteps.map (·.durationMs.toNat)) 3600000
    (List.forall_mem_map.mpr fun step member => (valid.steps step member).bounded)
  rw [List.length_map,Nat.nsmul_eq_mul] at each
  omega

/-- The total does not wrap. -/
theorem totalDurationMs_sum {program : IrrigationProgramConfiguration} (valid : ValidProgram boardZones program.live) :
    (totalDurationMs program).toNat = (program.liveSteps.map (·.durationMs.toNat)).sum := by
  have folded : ∀ (steps : List IrrigationProgramStepConfiguration) (total : UInt32),
      total.toNat + (steps.map (·.durationMs.toNat)).sum < 2 ^ 32 →
      (steps.foldl (fun total step => total + step.durationMs) total).toNat =
        total.toNat + (steps.map (·.durationMs.toNat)).sum := by
    intro steps
    induction steps with
    | nil => exact fun _ _ => rfl
    | cons step rest ih =>
      intro total small
      rw [List.map_cons,List.sum_cons] at small ⊢
      have added : (total + step.durationMs).toNat = total.toNat + step.durationMs.toNat := by
        rw [UInt32.toNat_add,Nat.mod_eq_of_lt (by omega)]
      rw [List.foldl_cons,ih _ (by omega),added,Nat.add_assoc]
  have small := total_le valid
  have total := folded program.liveSteps 0 (by rw [UInt32.toNat_zero]; omega)
  rwa [UInt32.toNat_zero,Nat.zero_add] at total

theorem programTree_length {program : IrrigationProgramConfiguration} {index : Nat}
    (valid : ValidProgram boardZones program.live) (small : index < 10) :
    (render (programTree (program,index))).length ≤ 637 := by
  have name : program.displayName.bytes.length < 32 := valid.displayName.terminated
  have room : program.liveSteps.length ≤ 8 := valid.room
  have number := enumeration_length index small
  have bounded := total_le valid
  have total : (decimal (program.liveSteps.map (·.durationMs.toNat)).sum).length ≤ 8 :=
    decimal_length_le (by decide) (by omega)
  have texts : ∀ text ∈ (program.liveSteps.map stepTree).map render, text.length ≤ 67 :=
    List.forall_mem_map.mpr (List.forall_mem_map.mpr fun step member => stepTree_length (valid.steps step member))
  have steps := length_joined_le texts
  rw [List.length_map,List.length_map] at steps
  simp [programTree,joined,renderMember,quoted,ascii] at steps ⊢
  omega

theorem programsTree_length (valid : configuration.live.Valid boardZones) (capacity : configuration.WithinCapacity)
    (room : zones.length ≤ 8) (among : ∀ zone ∈ zones, ValidZone boardZones zone) :
    (render (programsTree configuration zones)).length < 4096 := by
  have programRoom : configuration.livePrograms.length ≤ 4 := by
    rw [capacity.livePrograms_length]
    exact capacity.programs
  have zoneTexts : ∀ text ∈ (zones.map zoneTree).map render, text.length ≤ 81 :=
    List.forall_mem_map.mpr (List.forall_mem_map.mpr fun zone member => zoneTree_length (among zone member))
  have programTexts : ∀ text ∈ (configuration.livePrograms.zipIdx.map programTree).map render, text.length ≤ 637 := by
    refine List.forall_mem_map.mpr (List.forall_mem_map.mpr fun entry member => ?_)
    have index := List.snd_lt_of_mem_zipIdx member
    exact programTree_length (valid.programs _ (List.mem_map_of_mem (List.fst_mem_of_mem_zipIdx member))) (by omega)
  have zoneLength := length_joined_le zoneTexts
  have programLength := length_joined_le programTexts
  rw [List.length_map,List.length_map] at zoneLength
  rw [List.length_map,List.length_map,List.length_zipIdx] at programLength
  simp [programsTree,joined,renderMember,quoted,ascii] at zoneLength programLength ⊢
  omega

theorem scheduleTree_length {entry : IrrigationScheduleConfiguration × Nat} (small : entry.2 < 16)
    (program : programIndexFor configuration entry.1.programId < 10) :
    (render (scheduleTree configuration entry)).length ≤ 89 := by
  have number : (decimal entry.2).length ≤ 2 := decimal_length_le (by decide) (by omega)
  have mask := byte_length entry.1.weekdayMask
  have hour := byte_length entry.1.hour
  have minute := byte_length entry.1.minute
  have program := enumeration_length _ program
  have flag := boolean_length entry.1.enabled
  simp [scheduleTree,joined,renderMember,quoted,ascii]
  omega

/-- The search ends at a live program with the id. -/
theorem programIndexFor_found {programId : IdText}
    (found : ∃ program ∈ configuration.live.programs, program.programId = programId) :
    ∃ program, configuration.livePrograms[programIndexFor configuration programId]? = some program ∧
      program.programId = programId := by
  obtain ⟨live,member,named⟩ := found
  obtain ⟨program,inside,rfl⟩ := List.mem_map.mp member
  have index : programIndexFor configuration programId < configuration.livePrograms.length :=
    List.findIdx_lt_length_of_exists ⟨program,inside,decide_eq_true named⟩
  refine ⟨_,List.getElem?_eq_getElem index,?_⟩
  exact of_decide_eq_true (List.findIdx_getElem (w := index))

theorem schedulesTree_length (valid : configuration.live.Valid boardZones) (capacity : configuration.WithinCapacity) :
    (render (schedulesTree configuration)).length < 2048 := by
  have programRoom : configuration.livePrograms.length ≤ 4 := by
    rw [capacity.livePrograms_length]
    exact capacity.programs
  have scheduleRoom : configuration.liveSchedules.length ≤ 16 := valid.scheduleCount
  have texts : ∀ text ∈ (configuration.liveSchedules.zipIdx.map (scheduleTree configuration)).map render,
      text.length ≤ 89 := by
    refine List.forall_mem_map.mpr (List.forall_mem_map.mpr fun entry member => ?_)
    have index := List.snd_lt_of_mem_zipIdx member
    have schedule := valid.schedules entry.1 (List.fst_mem_of_mem_zipIdx member)
    obtain ⟨program,found,_⟩ := programIndexFor_found schedule.program
    have inside := (List.getElem?_eq_some_iff.mp found).1
    exact scheduleTree_length (by omega) (by omega)
  have length := length_joined_le texts
  rw [List.length_map,List.length_map,List.length_zipIdx] at length
  simp [schedulesTree,joined,renderMember,quoted,ascii] at length ⊢
  omega

end Shown

/-! ### The responses -/

/-- A handler sends a text of the grammar, and this is the value that it reads as. -/
def Shows (answer : Printed) (tree : Tree) : Prop :=
  ∃ text, answer = .ok text ∧ Value text ∧ Json.read text = some tree

theorem shows_render {answer : Printed} {tree : Tree} (isPlain : Plain tree) (printed : answer = .ok (render tree)) :
    Shows answer tree :=
  ⟨render tree,printed,isPlain.value,read_render isPlain⟩

/-- The configured zones in the order of the board. -/
theorem shownZones {context : DevKitWebContext} (valid : context.manager.configuration.live.Valid context.zones) :
    ∃ zones : List IrrigationZoneConfiguration, zones.Perm context.manager.configuration.liveZones ∧
      ShownZones context zones := by
  have paired : List.Forall₂ (fun id (zone : IrrigationZoneConfiguration) => id = zone.zoneId.toCString)
      (context.manager.configuration.liveZones.map (·.zoneId.toCString)) context.manager.configuration.liveZones :=
    List.forall₂_map_left_iff.mpr (List.forall₂_same.mpr fun _ _ => rfl)
  obtain ⟨zones,ids,perm⟩ := List.perm_comp_forall₂ valid.zoneIds_perm.symm paired
  have same := List.forall₂_map_right_iff.mpr ids
  rw [List.forall₂_eq_eq_eq] at same
  refine ⟨zones,perm,same.symm,fun zone member => ?_⟩
  rw [zoneNameFor,zoneName_of_configured valid (perm.mem_iff.mp member),Option.getD_some]

/-- What the handlers answer for a validated configuration: each fits its buffer and shows the
configuration, its zones in the order of the board. -/
structure ResponsesShow (clock : LocalClock) (context : DevKitWebContext) (zones : List IrrigationZoneConfiguration) :
    Prop where
  configured : zones.Perm context.manager.configuration.liveZones
  ids : zones.map (·.zoneId.toCString) = context.zones.map (·.id)
  status : Shows (statusHandler clock context) (statusTree clock context.state zones)
  programs : Shows (programsHandler context) (programsTree context.manager.configuration zones)
  schedules : Shows (scheduleGetHandler context) (schedulesTree context.manager.configuration)
  references : ∀ schedule ∈ context.manager.configuration.liveSchedules, ∃ program,
    context.manager.configuration.livePrograms[programIndexFor context.manager.configuration schedule.programId]? =
      some program ∧ program.programId = schedule.programId

theorem responses_show_configuration {context : DevKitWebContext} (clock : LocalClock)
    (validated : irrigationConfigurationValidate context.manager.configuration context.zones = .ok) :
    ∃ zones, ResponsesShow clock context zones := by
  obtain ⟨capacity,valid⟩ := (validate_ok_iff _ _).mp validated
  obtain ⟨zones,configured,shown⟩ := shownZones valid
  have among : ∀ zone ∈ zones, ValidZone context.zones zone :=
    fun zone member => valid.zones zone (configured.mem_iff.mp member)
  have programs : ∀ program ∈ context.manager.configuration.livePrograms, ValidProgram context.zones program.live :=
    fun program member => valid.programs _ (List.mem_map_of_mem member)
  have room : zones.length ≤ 8 := by
    rw [← List.length_map (·.zoneId.toCString),shown.ids,List.length_map]
    exact valid.boardRoom
  have references := fun schedule member => programIndexFor_found (valid.schedules schedule member).program
  have found : ∀ schedule ∈ context.manager.configuration.liveSchedules, programIndexFor context.manager.configuration
      schedule.programId ≠ context.manager.configuration.programCount.toNat := by
    intro schedule member
    obtain ⟨program,inside,_⟩ := references schedule member
    have index := (List.getElem?_eq_some_iff.mp inside).1
    rw [capacity.livePrograms_length] at index
    exact Nat.ne_of_lt index
  refine ⟨zones,configured,shown.ids,?_,?_,?_,references⟩
  · refine shows_render (statusTree_plain clock context.state among) ?_
    exact statusHandler_prints clock shown (statusTree_length clock context.state room among)
  · refine shows_render (programsTree_plain valid among) ?_
    exact programsHandler_prints shown (fun program member => totalDurationMs_sum (programs program member))
      (programsTree_length valid capacity room among)
  · refine shows_render (schedulesTree_plain _) ?_
    exact scheduleGetHandler_prints found (schedulesTree_length valid capacity)

/-- A Friday morning, after a zone was opened by hand. -/
def devContext : DevKitWebContext :=
  have booted : boot devZones 0 = .ok (devWorld devProgram).store := boot_of_configurable devZones_configurable 0
  .ofRun quietDrivers booted [.masterOpen,.masterProcessTime,.zoneOpen (some (.literal "zone-2")) 60000] devManager

theorem responses_show_configuration_dev : ∃ zones, ResponsesShow ⟨1800000000,5,9,0,0,ascii "02"⟩ devContext zones := by
  refine responses_show_configuration _ ?_
  obtain ⟨_,defaults,_⟩ := init_faithful devManager_initialized
  change irrigationConfigurationValidate devManager.configuration devZones = .ok
  rw [defaults]
  exact devKitDefaults_valid devZones_usable

end Values

end Irrigation
