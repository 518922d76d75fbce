import Irrigation.ProgramCards

/-! Saving a schedule card: weekdays go through a mask, and the program through the index under
which the page shows it. -/
namespace Irrigation.Page

open Scanning Numerals UrlEncoding Json

/-! ### Weekdays -/

/-- The boxes that a mask checks. -/
def maskDays (mask : UInt8) : List Bool := (List.range 7).map mask.toNat.testBit

/-- The page sends the mask back that it was shown. -/
theorem weekdayMask_maskDays {mask : UInt8} (small : mask < 128) : weekdayMask (maskDays mask) = mask.toNat := by
  have each : (List.range 128).all fun number => weekdayMask ((List.range 7).map number.testBit) = number := by
    decide +kernel
  have bounded : mask.toNat < 128 := UInt8.lt_iff_toNat_lt.mp small
  exact of_decide_eq_true (List.all_eq_true.mp each mask.toNat (List.mem_range.mpr bounded))

/-! ### A saved schedule -/

/-- A card with the schedule that it stands for. -/
structure FilledSchedule (live : LiveConfiguration) (c : ScheduleCard) (mask hour minute : UInt8) (programIndex : Nat)
    (program : LiveProgram) : Prop where
  time : ValidTime mask hour minute
  weekdays : c.weekdays = maskDays mask
  hour : c.hour = decimal hour.toNat
  minute : c.minute = decimal minute.toNat
  chosen : c.program = decimal programIndex
  given : live.programs[programIndex]? = some program

/-- The edit that saving a card asks for. -/
def scheduledAs (index : Option Nat) (mask hour minute : UInt8) (programId : CString) : Mutation :=
  match index with
  | none => .createSchedule mask hour minute (some programId)
  | some index => .updateSchedule index mask hour minute (some programId)

theorem parseScheduleIndex_shown {index : Option Nat} (small : ∀ number ∈ index, number ≤ irrigationMaxSchedules - 1) :
    parseScheduleIndex (.ofBytes (indexText index)) = some index := by
  cases index with
  | none => decide
  | some number =>
    have read := parseValue_decimal (small number rfl) (by decide)
    rw [parseScheduleIndex,indexText,if_neg (decimal_not_new number),read]
    rfl

section Saving

variable {ε σ : Type} {library : QueryKeyValue} {zones : List Zone} {system : ManagedSystem ε σ} {c : ScheduleCard}
  {mask hour minute : UInt8} {programIndex : Nat} {program : LiveProgram}

theorem programIdAt_live {configuration : IrrigationConfiguration}
    (given : configuration.live.programs[programIndex]? = some program) :
    programIdAt configuration programIndex = some program.programId.toCString := by
  change (configuration.livePrograms.map (·.live))[programIndex]? = some program at given
  rw [List.getElem?_map,Option.map_eq_some_iff] at given
  obtain ⟨configured,inside,rfl⟩ := given
  rw [IrrigationConfiguration.livePrograms,List.getElem?_take] at inside
  rw [programIdAt,(Option.ite_none_right_eq_some.mp inside).2]
  rfl

/-- A numeral of a form is read into a buffer that it fits. -/
theorem queryValue_decimal (reads : ReadsPairs library) {parameters : Parameters} (keys : PlainKeys parameters)
    {uri : String} (room : (encodedQuery formEncoder parameters).length < querySize) {key : String} {number size : Nat}
    (given : (key,decimal number) ∈ parameters) (some : 0 < size) (fits : number < 10 ^ size) :
    queryValue library (pageRequest uri (encodedQuery formEncoder parameters)) key (size + 1) =
      .some (.ofBytes (decimal number)) := by
  have length := form_decimal some fits
  exact queryValue_form reads keys room (by rw [decimal_bytes]; exact given) (by rw [decimal_bytes]; omega)

/-- The texts of a card are the numbers that the server checks. -/
theorem FilledSchedule.request (reads : ReadsPairs library) (sound : Sound zones system)
    (filled : FilledSchedule system.manager.configuration.live c mask hour minute programIndex program)
    {index : Option Nat} (small : ∀ number ∈ index, number ≤ irrigationMaxSchedules - 1)
    (shown : c.index = indexText index) :
    scheduleRequest library (saveSchedule c).request system.manager = some ⟨index,mask,hour,minute,programIndex⟩ := by
  have cardIndex : CardIndex c.index := by
    rw [shown]
    cases index with
    | none => exact cardIndex_new
    | some number =>
      have bounded : number ≤ 15 := small number rfl
      exact cardIndex_decimal (by omega)
  have maskBound : mask.toNat ≤ 127 := Nat.le_of_lt_succ (UInt8.lt_iff_toNat_lt.mp filled.time.weekdays)
  have hourBound : hour.toNat ≤ 23 := Nat.le_of_lt_succ (UInt8.lt_iff_toNat_lt.mp filled.time.hour)
  have minuteBound : minute.toNat ≤ 59 := Nat.le_of_lt_succ (UInt8.lt_iff_toNat_lt.mp filled.time.minute)
  have inside := (List.getElem?_eq_some_iff.mp filled.given).1
  have programs : system.manager.configuration.live.programs.length ≤ 4 := sound.valid.programCount
  have programBound : programIndex ≤ irrigationMaxPrograms - 1 := by change _ ≤ 3; omega
  have slot : slotValid system.manager programIndex = true := by
    change decide (programIndex < _) = true
    rw [← sound.faithful.capacity.livePrograms_length,
      ← List.length_map IrrigationProgramConfiguration.live]
    exact decide_eq_true inside
  have keys := schedule_keys c
  have parameters : c.parameters = [("index",c.index),("weekday_mask",decimal mask.toNat),("hour",decimal hour.toNat),
      ("minute",decimal minute.toNat),("program_index",decimal programIndex)] := by
    rw [ScheduleCard.parameters,filled.weekdays,weekdayMask_maskDays filled.time.weekdays,filled.hour,filled.minute,
      filled.chosen]
  have room : (encodedQuery formEncoder c.parameters).length < querySize := by
    have indexLength := form_length cardIndex.characters
    have indexShort := cardIndex.short
    have maskLength : (formEncoder.encode (decimal mask.toNat)).length ≤ 3 := form_decimal (by decide) (by omega)
    have hourLength : (formEncoder.encode (decimal hour.toNat)).length ≤ 2 := form_decimal (by decide) (by omega)
    have minuteLength : (formEncoder.encode (decimal minute.toNat)).length ≤ 2 := form_decimal (by decide) (by omega)
    have programLength : (formEncoder.encode (decimal programIndex)).length ≤ 1 := form_decimal (by decide) (by omega)
    have lengths : (ascii "index").length = 5 ∧ (ascii "weekday_mask").length = 12 ∧ (ascii "hour").length = 4 ∧
      (ascii "minute").length = 6 ∧ (ascii "program_index").length = 13 := by decide
    simp only [parameters,encodedQuery,encodedPairs,queryText,pairText,List.map_cons,List.map_nil,
      List.intercalate_cons_cons,List.intercalate_singleton,List.length_append,List.length_cons,List.length_nil]
    change _ < 512
    omega
  have indexBytes : (CString.ofBytes c.index).bytes = c.index :=
    ofBytes_of_noNul fun character member => accepted_noNul (cardIndex.characters character member)
  have index8 : queryValue library (saveSchedule c).request "index" 8 = some (.ofBytes c.index) := by
    have indexLength := form_length cardIndex.characters
    have indexShort := cardIndex.short
    exact queryValue_form reads keys room (by rw [indexBytes]; exact .head _) (by rw [indexBytes]; omega)
  have mask4 : queryValue library (saveSchedule c).request "weekday_mask" 4 = some (.ofBytes (decimal mask.toNat)) :=
    queryValue_decimal reads keys room (by rw [parameters]; exact .tail _ (.head _)) (by decide) (by omega)
  have hour3 : queryValue library (saveSchedule c).request "hour" 3 = some (.ofBytes (decimal hour.toNat)) :=
    queryValue_decimal reads keys room (by rw [parameters]; exact .tail _ (.tail _ (.head _))) (by decide) (by omega)
  have minute3 : queryValue library (saveSchedule c).request "minute" 3 = some (.ofBytes (decimal minute.toNat)) :=
    queryValue_decimal reads keys room (by rw [parameters]; exact .tail _ (.tail _ (.tail _ (.head _)))) (by decide)
      (by omega)
  have program2 : queryValue library (saveSchedule c).request "program_index" 2 = some (.ofBytes (decimal programIndex)) :=
    queryValue_decimal reads keys room (by rw [parameters]; exact .tail _ (.tail _ (.tail _ (.tail _ (.head _)))))
      (by decide) (by omega)
  have someDay : mask.toNat ≠ 0 := fun zero => filled.time.someDay (UInt8.toNat_inj.mp zero)
  have indexRead := parseScheduleIndex_shown small
  rw [← shown] at indexRead
  simp only [scheduleRequest,index8,indexRead,mask4,hour3,minute3,program2,parseValue_decimal maskBound (by decide),
    parseValue_decimal hourBound (by decide),parseValue_decimal minuteBound (by decide),
    parseValue_decimal programBound (by decide),Option.bind_eq_bind,Option.bind_some,if_neg someDay,slot,if_true,
    UInt8.ofNat_toNat]

/-- The server gets what the card shows. -/
theorem saveSchedule_served (drivers : Drivers ε) (device : Repository.ConfigurationRepositoryStorage σ)
    (reads : ReadsPairs library) (sound : Sound zones system)
    (filled : FilledSchedule system.manager.configuration.live c mask hour minute programIndex program)
    {index : Option Nat} (small : ∀ number ∈ index, number ≤ irrigationMaxSchedules - 1)
    (shown : c.index = indexText index) : serve drivers device library zones (saveSchedule c) system =
      (.result (mutate device (scheduledAs index mask hour minute program.programId.toCString) system).1,
        (mutate device (scheduledAs index mask hour minute program.programId.toCString) system).2) := by
  have registered : registeredHandler (saveSchedule c).method (saveSchedule c).path = some .scheduleSaveHandler := by
    change registeredHandler .post (.literal "/schedule/save") = _
    decide +kernel
  simp only [serve,registered,handle,scheduleSaveHandler,filled.request reads sound small shown,
    programIdAt_live filled.given]
  cases index with
  | none => rfl
  | some number => rfl

end Saving

/-! ### The cards of a configuration -/

def shownSchedule (programs : List LiveProgram) (index : Nat) (schedule : IrrigationScheduleConfiguration) : ScheduleCard :=
  ⟨decimal index,maskDays schedule.weekdayMask,decimal schedule.hour.toNat,decimal schedule.minute.toNat,
    decimal (programs.findIdx fun program => program.programId = schedule.programId)⟩

/-- A card for each schedule. -/
def shownSchedules (live : LiveConfiguration) : List ScheduleCard :=
  live.schedules.mapIdx (shownSchedule live.programs)

section Shown

variable {zones : List IrrigationZoneConfiguration} {configuration : IrrigationConfiguration}

theorem programIndexFor_live (programId : IdText) : programIndexFor configuration programId =
    configuration.live.programs.findIdx fun program => program.programId = programId := by
  change _ = (configuration.livePrograms.map (·.live)).findIdx fun program => program.programId = programId
  rw [List.findIdx_map]
  rfl

theorem options_read : (configuration.livePrograms.zipIdx.map programTree).mapM (textAt "index") =
    some (configuration.livePrograms.zipIdx.map fun entry => decimal entry.2) :=
  mapM_map_some fun _ _ => rfl

theorem scheduleCard_shown {entry : IrrigationScheduleConfiguration × Nat}
    (found : ∃ program ∈ configuration.live.programs, program.programId = entry.1.programId) :
    scheduleCard (programsTree configuration zones) (scheduleTree configuration entry) =
      some (shownSchedule configuration.live.programs entry.2 entry.1) := by
  have programs : elementsAt "programs" (programsTree configuration zones) =
      some (configuration.livePrograms.zipIdx.map programTree) := rfl
  have index : textAt "index" (scheduleTree configuration entry) = some (decimal entry.2) := rfl
  have weekdayMask : numberAt "weekday_mask" (scheduleTree configuration entry) = some entry.1.weekdayMask.toNat := rfl
  have hour : textAt "hour" (scheduleTree configuration entry) = some (decimal entry.1.hour.toNat) := rfl
  have minute : textAt "minute" (scheduleTree configuration entry) = some (decimal entry.1.minute.toNat) := rfl
  have programIndex : textAt "program_index" (scheduleTree configuration entry) =
      some (decimal (programIndexFor configuration entry.1.programId)) := rfl
  obtain ⟨program,given,_⟩ := programIndexFor_found found
  have listed : decimal (programIndexFor configuration entry.1.programId) ∈
      configuration.livePrograms.zipIdx.map fun entry => decimal entry.2 :=
    List.mem_map.mpr ⟨(program,programIndexFor configuration entry.1.programId),
      List.mem_zipIdx_iff_getElem?.mpr given,rfl⟩
  rw [scheduleCard,index,weekdayMask,hour,minute,programIndex,programs]
  simp only [Option.bind_eq_bind,Option.bind_some,Option.pure_def,options_read,selectValue,if_pos listed]
  rw [programIndexFor_live]
  rfl

theorem scheduleCards_shown
    (references : ∀ schedule ∈ configuration.liveSchedules, ∃ program ∈ configuration.live.programs,
      program.programId = schedule.programId) :
    scheduleCards (programsTree configuration zones) (schedulesTree configuration) =
      some (shownSchedules configuration.live) := by
  have schedules : elementsAt "schedules" (schedulesTree configuration) =
      some (configuration.liveSchedules.zipIdx.map (scheduleTree configuration)) := rfl
  have cards : (configuration.liveSchedules.zipIdx.map (scheduleTree configuration)).mapM
      (scheduleCard (programsTree configuration zones)) =
      some (configuration.liveSchedules.zipIdx.map fun entry =>
        shownSchedule configuration.live.programs entry.2 entry.1) :=
    mapM_map_some fun entry member => scheduleCard_shown (references entry.1 (List.fst_mem_of_mem_zipIdx member))
  rw [scheduleCards,schedules,Option.bind_eq_bind,Option.bind_some,cards,shownSchedules]
  change _ = some (configuration.liveSchedules.mapIdx (shownSchedule configuration.live.programs))
  rw [List.mapIdx_eq_zipIdx_map]

end Shown

/-! ### Cards after a save -/

/-- What the page makes of the responses when it is opened. -/
def loadSchedules (context : DevKitWebContext) : Option (List ScheduleCard) :=
  match programsHandler context, scheduleGetHandler context with
  | .ok programs, .ok schedules => (Json.read programs).bind fun config => (Json.read schedules).bind (scheduleCards config)
  | _, _ => none

def replaceSchedule (cards : List ScheduleCard) (index : Option Nat) (c : ScheduleCard) : List ScheduleCard :=
  match index with
  | none => cards ++ [{ c with index := decimal cards.length }]
  | some index => cards.set index c

/-- The card of the development kit's schedule. -/
def devScheduleCard : ScheduleCard :=
  shownSchedule [(defaultProgram devZones).live] 0 (defaultSchedule.enable true)

section Saved

variable {ε σ : Type} {drivers : Drivers ε} {device : Repository.ConfigurationRepositoryStorage σ}
  {library : QueryKeyValue} {zones : List Zone} {system : ManagedSystem ε σ} {c : ScheduleCard}
  {mask hour minute : UInt8} {programIndex : Nat} {program : LiveProgram}

theorem loadSchedules_sound (sound : Sound zones system) :
    loadSchedules (webContext sound) = some (shownSchedules system.manager.configuration.live) := by
  have valid := sound.valid
  have capacity := sound.faithful.capacity
  obtain ⟨shownZones,_,among,printed⟩ := programsHandler_sound sound
  have found : ∀ schedule ∈ system.manager.configuration.liveSchedules,
      programIndexFor system.manager.configuration schedule.programId ≠
        system.manager.configuration.programCount.toNat := by
    intro schedule member
    obtain ⟨program,inside,_⟩ := programIndexFor_found (valid.schedules schedule member).program
    have index := (List.getElem?_eq_some_iff.mp inside).1
    rw [capacity.livePrograms_length] at index
    exact Nat.ne_of_lt index
  have listed : scheduleGetHandler (webContext sound) = .ok (render (schedulesTree system.manager.configuration)) :=
    scheduleGetHandler_prints found (schedulesTree_length valid capacity)
  rw [loadSchedules,printed,listed]
  simp only [read_render (programsTree_plain valid among),read_render (schedulesTree_plain _),Option.bind_some]
  exact scheduleCards_shown fun schedule member => (valid.schedules schedule member).program

/-- The page finds the program again that it was given. -/
theorem programIndex_found {live : LiveConfiguration} (valid : live.Valid zones)
    (given : live.programs[programIndex]? = some program) :
    (live.programs.findIdx fun other => other.programId = program.programId) = programIndex := by
  obtain ⟨inside,rfl⟩ := List.getElem?_eq_some_iff.mp given
  rw [List.findIdx_eq inside]
  refine ⟨decide_eq_true rfl,fun earlier before => decide_eq_false fun same => ?_⟩
  have among : earlier < live.programs.length := Nat.lt_trans before inside
  have ids : (live.programs.map (·.programId))[earlier]? = (live.programs.map (·.programId))[programIndex]? := by
    rw [List.getElem?_map,List.getElem?_map,List.getElem?_eq_getElem among,List.getElem?_eq_getElem inside]
    exact congrArg some same
  have room : earlier < (live.programs.map (·.programId)).length := by rwa [List.length_map]
  have together := (List.getElem?_inj room valid.programsDistinct).mp ids
  omega

theorem FilledSchedule.shown {live : LiveConfiguration} (valid : live.Valid zones)
    (filled : FilledSchedule live c mask hour minute programIndex program) (index : Nat) (scheduleId : IdText)
    (enabled : Bool) : shownSchedule live.programs index ⟨scheduleId,enabled,mask,hour,minute,program.programId⟩ =
      { c with index := decimal index } := by
  simp only [shownSchedule]
  rw [programIndex_found valid filled.given,← filled.weekdays,← filled.hour,← filled.minute,← filled.chosen]

theorem scheduledAs_cards {live next : LiveConfiguration} (valid : live.Valid zones)
    (filled : FilledSchedule live c mask hour minute programIndex program) {index : Option Nat}
    (shown : c.index = indexText index)
    (result : (scheduledAs index mask hour minute program.programId.toCString).Result live next) :
    shownSchedules next = replaceSchedule (shownSchedules live) index c := by
  cases index with
  | none =>
    obtain ⟨enabled,id,named,rfl⟩ := result
    rw [CharArray.toCString_injective named,shownSchedules,List.mapIdx_append,List.mapIdx_singleton,Nat.zero_add,
      filled.shown valid live.schedules.length,replaceSchedule,shownSchedules,List.length_mapIdx]
  | some index =>
    obtain ⟨schedule,id,_,named,rfl⟩ := result
    rw [CharArray.toCString_injective named,shownSchedules,List.mapIdx_set,filled.shown valid index,replaceSchedule,
      shownSchedules]
    rw [indexText] at shown
    rw [← shown]

theorem scheduledAs_short (valid : ValidText program.programId) (index : Option Nat) (mask hour minute : UInt8) :
    (scheduledAs index mask hour minute program.programId.toCString).ShortTexts := by
  cases index with
  | none => exact Nat.le_of_lt_succ valid.terminated
  | some index => exact Nat.le_of_lt_succ valid.terminated

theorem scheduledAs_edits (index : Option Nat) (mask hour minute : UInt8) (programId : CString)
    (candidate : Option IrrigationConfiguration) : scheduledAs index mask hour minute programId ≠ .replace candidate := by
  cases index with
  | none => nofun
  | some index => nofun

/-- Every card that the page shows is filled in with its schedule and a program of its id. -/
theorem shownSchedule_filled {live : LiveConfiguration} (valid : live.Valid zones) {index : Nat}
    {schedule : IrrigationScheduleConfiguration} (given : live.schedules[index]? = some schedule) :
    ∃ programIndex program, FilledSchedule live (shownSchedule live.programs index schedule) schedule.weekdayMask
      schedule.hour schedule.minute programIndex program ∧ program.programId = schedule.programId := by
  have known := valid.schedules schedule (List.mem_of_getElem? given)
  obtain ⟨program,member,named⟩ := known.program
  have inside : (live.programs.findIdx fun other => other.programId = schedule.programId) < live.programs.length :=
    List.findIdx_lt_length_of_exists ⟨program,member,decide_eq_true named⟩
  have found := of_decide_eq_true (List.findIdx_getElem (w := inside))
  refine ⟨_,_,⟨⟨known.weekday,?_,known.hour,known.minute⟩,rfl,rfl,rfl,rfl,List.getElem?_eq_getElem inside⟩,found⟩
  exact (weekdaysOnly_iff _).mp known.weekdays

/-- Schedules on a page: a save that is answered OK shows the card as it was filled in, whatever
program was chosen, and any other answer leaves the page as it was. -/
theorem saved_schedule_is_shown (reads : ReadsPairs library) (sound : Sound zones system)
    (filled : FilledSchedule system.manager.configuration.live c mask hour minute programIndex program)
    {index : Option Nat} (small : ∀ number ∈ index, number ≤ irrigationMaxSchedules - 1)
    (shown : c.index = indexText index) {cards : List ScheduleCard} (loaded : loadSchedules (webContext sound) = some cards) :
    ∃ result next, serve drivers device library zones (saveSchedule c) system = (.result result,next) ∧
      ∃ after : Sound zones next, loadSchedules (webContext after) =
        some (if result = .ok then replaceSchedule cards index c else cards) := by
  have served := saveSchedule_served drivers device reads sound filled small shown
  have kept : Sound zones (serve drivers device library zones (saveSchedule c) system).2 :=
    sound_kept.served sound (serve_served drivers device library zones system (saveSchedule c))
  rw [loadSchedules_sound] at loaded
  cases loaded
  rw [served] at kept
  refine ⟨_,_,served,kept,?_⟩
  rw [loadSchedules_sound]
  have named := (sound.valid.programs program (List.mem_of_getElem? filled.given)).programId
  rcases sound.answered device (scheduledAs_edits index mask hour minute _) (scheduledAs_short named index mask hour minute)
    with ⟨ok,result⟩ | ⟨failed,same⟩
  · rw [if_pos ok]
    exact congrArg some (scheduledAs_cards sound.valid filled shown result)
  · rw [if_neg failed,same]

/-- The development kit's card with another time and three days. -/
def devEditedSchedule : ScheduleCard :=
  { devScheduleCard with hour := ascii "18", minute := ascii "30", weekdays := [true,false,true,false,true,false,false] }

theorem devEditedSchedule_filled : FilledSchedule (devSystem true true).manager.configuration.live devEditedSchedule
    21 18 30 0 (defaultProgram devZones).live :=
  ⟨⟨by decide,by decide,by decide,by decide⟩,by decide +kernel,by decide +kernel,by decide +kernel,by decide +kernel,
    devProgram_given⟩

theorem saved_schedule_is_shown_devSystem : ∃ next,
    serve quietDrivers Repository.memoryStorage pairLookup devZones (saveSchedule devEditedSchedule) (devSystem true true) =
        (.result .ok,next) ∧
      ∃ after : Sound devZones next, loadSchedules (webContext after) = some [devEditedSchedule] := by
  have sound := devSystem_sound true true
  obtain ⟨result,next,served,after,cards⟩ := @saved_schedule_is_shown _ _ quietDrivers Repository.memoryStorage _ _ _ _ _ _
    _ _ _ pairLookup_readsPairs sound devEditedSchedule_filled (some 0) (by decide) rfl _ (loadSchedules_sound sound)
  have answered : (serve quietDrivers Repository.memoryStorage pairLookup devZones (saveSchedule devEditedSchedule)
      (devSystem true true)).1 = .result .ok := by decide +kernel
  rw [served] at answered
  cases answered
  have shown : replaceSchedule (shownSchedules (devSystem true true).manager.configuration.live) (some 0) devEditedSchedule =
      [devEditedSchedule] := by decide +kernel
  rw [if_pos rfl,shown] at cards
  exact ⟨next,served,after,cards⟩

/-- A schedule is saved as the card shows it: saving a card that nobody edited is the update of its schedule with
the schedule's own time and program, which changes nothing, and is answered OK exactly when it persists. -/
theorem unedited_schedule_changes_nothing (reads : ReadsPairs library) (sound : Sound zones system)
    {cards : List ScheduleCard} (loaded : loadSchedules (webContext sound) = some cards) {index : Nat}
    (given : cards[index]? = some c) :
    ∃ schedule candidate, system.manager.configuration.live.schedules[index]? = some schedule ∧
      let update := .updateSchedule index schedule.weekdayMask schedule.hour schedule.minute
        (some schedule.programId.toCString)
      let saved := mutate device update system
      serve drivers device library zones (saveSchedule c) system = (.result saved.1,saved.2) ∧
      update.prepare system.manager.configuration = .ok candidate ∧
      candidate.live = system.manager.configuration.live ∧
      (saved.1 = .ok ↔ Persists device candidate system) ∧
      saved.2.manager.configuration.live = system.manager.configuration.live := by
  rw [loadSchedules_sound] at loaded
  cases loaded
  rw [shownSchedules,List.getElem?_mapIdx,Option.map_eq_some_iff] at given
  obtain ⟨schedule,given,rfl⟩ := given
  obtain ⟨programIndex,program,filled,named⟩ := shownSchedule_filled sound.valid given
  have inside := (List.getElem?_eq_some_iff.mp given).1
  have room : system.manager.configuration.live.schedules.length ≤ 16 := sound.valid.scheduleCount
  have small : ∀ number ∈ some index, number ≤ irrigationMaxSchedules - 1 := by
    rintro number ⟨⟩
    change index ≤ 15
    omega
  have member := List.mem_of_getElem? filled.given
  have valid := (sound.valid.programs program member).programId
  have served := saveSchedule_served drivers device reads sound filled small rfl
  rw [named] at valid served
  have edits := scheduledAs_edits (some index) schedule.weekdayMask schedule.hour schedule.minute
    schedule.programId.toCString
  have short : (scheduledAs (some index) schedule.weekdayMask schedule.hour schedule.minute
      schedule.programId.toCString).ShortTexts := Nat.le_of_lt_succ valid.terminated
  have unchanged {next : LiveConfiguration} (result : (scheduledAs (some index) schedule.weekdayMask schedule.hour
      schedule.minute schedule.programId.toCString).Result system.manager.configuration.live next) :
      next = system.manager.configuration.live := by
    obtain ⟨old,id,found,sameId,made⟩ := result
    rw [given] at found
    cases found
    have sameSchedule : (⟨schedule.scheduleId,schedule.enabled,schedule.weekdayMask,schedule.hour,schedule.minute,id⟩ :
        IrrigationScheduleConfiguration) = system.manager.configuration.live.schedules[index] := by
      rw [CharArray.toCString_injective sameId,← Option.some.inj ((List.getElem?_eq_getElem inside).symm.trans given)]
    rw [made,sameSchedule,List.set_getElem_self]
  obtain ⟨candidate,prepared,result,persists⟩ := sound.saves device edits short
    ⟨inside,filled.time,program,member,congrArg CharArray.toCString named⟩
  refine ⟨schedule,candidate,given,served,prepared,unchanged result,persists,?_⟩
  rcases sound.answered device edits short with ⟨_,result⟩ | ⟨_,same⟩
  · exact unchanged result
  · exact congrArg IrrigationConfiguration.live same

theorem unedited_schedule_changes_nothing_devSystem :
    (serve quietDrivers Repository.memoryStorage pairLookup devZones (saveSchedule devScheduleCard) (devSystem true true)
        ).1 = .result .ok ∧
      (serve quietDrivers Repository.memoryStorage pairLookup devZones (saveSchedule devScheduleCard) (devSystem true true)
        ).2.manager.configuration.live = (devSystem true true).manager.configuration.live := by
  have sound := devSystem_sound true true
  have answered : (serve quietDrivers Repository.memoryStorage pairLookup devZones (saveSchedule devScheduleCard)
      (devSystem true true)).1 = .result .ok := by decide +kernel
  have card : (shownSchedules (devSystem true true).manager.configuration.live)[0]? = some devScheduleCard := by
    decide +kernel
  obtain ⟨schedule,candidate,_,served,_,_,_,same⟩ := @unedited_schedule_changes_nothing _ _ quietDrivers
    Repository.memoryStorage _ _ _ _ pairLookup_readsPairs sound _ (loadSchedules_sound sound) _ card
  refine ⟨answered,?_⟩
  rw [served]
  dsimp only
  exact same

end Saved

end Irrigation.Page
