import Irrigation.SoundFirmware
import Irrigation.WebPage

/-! Saving a program card: the server gets the name and the steps that the card shows, and a card
that nobody edited shows the program's own, its durations in whole seconds. -/
namespace Irrigation.Page

open Scanning Numerals UrlEncoding Json

/-! ### Lengths of a form -/

theorem form_kept {character : UInt8} (valid : textCharacterIsValid character = true) :
    (formEncoder.plus = true ∧ character = ' '.toUInt8) ∨ formEncoder.plain character = true := by
  have checked : (List.range 256).all fun number => !textCharacterIsValid (UInt8.ofNat number) ||
      UInt8.ofNat number == ' '.toUInt8 || formEncoder.plain (UInt8.ofNat number) := by decide +kernel
  have this := List.all_eq_true.mp checked character.toNat (List.mem_range.mpr character.toNat_lt)
  rw [UInt8.ofNat_toNat,valid,Bool.not_true,Bool.false_or,Bool.or_eq_true,beq_iff_eq] at this
  exact this.imp (fun blank => ⟨rfl,blank⟩) id

/-- A text of accepted characters takes no more room in a form. -/
theorem form_length {text : List UInt8} (valid : ∀ character ∈ text, textCharacterIsValid character = true) :
    (formEncoder.encode text).length = text.length := by
  have each : ∀ byte ∈ text, (fun _ => false) byte = true ↔
      ¬((formEncoder.plus = true ∧ byte = ' '.toUInt8) ∨ formEncoder.plain byte = true) :=
    fun byte member => iff_of_false Bool.false_ne_true (not_not.mpr (form_kept (valid byte member)))
  have length := Encoder.encode_length each
  rwa [List.countP_false] at length

theorem digit_accepted {digit : UInt8} (isDigit : isdigit digit = true) : textCharacterIsValid digit = true := by
  simp only [isdigit,Bool.and_eq_true,decide_eq_true_eq] at isDigit
  simp [textCharacterIsValid,isDigit]

theorem form_decimal {number digits : Nat} (some : 0 < digits) (small : number < 10 ^ digits) :
    (formEncoder.encode (decimal number)).length ≤ digits := by
  rw [form_length fun digit member => digit_accepted (decimal_digits number digit member)]
  exact decimal_length_le some small

/-- Every comma takes three bytes. -/
theorem form_commas {texts : List (List UInt8)} {bound : Nat}
    (each : ∀ text ∈ texts, (formEncoder.encode text).length ≤ bound) :
    (formEncoder.encode (commas texts)).length ≤ texts.length * (bound + 3) := by
  induction texts with
  | nil => simp [commas]
  | cons text rest ih =>
    obtain ⟨first,others⟩ := List.forall_mem_cons.mp each
    cases rest with
    | nil =>
      have alone : commas [text] = text := by simp [commas]
      rw [alone,List.length_singleton]
      omega
    | cons next more =>
      have split : commas (text :: next :: more) = text ++ ([','.toUInt8] ++ commas (next :: more)) := by
        simp [commas,List.intercalate_cons_cons]
      have comma : (formEncoder.encode [','.toUInt8]).length = 3 := by decide
      have later := ih others
      rw [split,Encoder.encode_append,Encoder.encode_append,List.length_append,List.length_append,comma,
        List.length_cons,Nat.succ_mul]
      omega

/-! ### Tokens of a form -/

/-- Nonempty texts without commas are the tokens of their list. -/
theorem strtok_commas {texts : List (List UInt8)} (plain : ∀ text ∈ texts, text ≠ [] ∧ ','.toUInt8 ∉ text)
    {joined : CString} (bytes : joined.bytes = commas texts) : strtok ','.toUInt8 joined = texts := by
  rw [strtok,bytes]
  cases texts with
  | nil => rfl
  | cons text rest =>
    rw [commas,List.splitOn_intercalate _ (fun text member => (plain text member).2) (by simp),List.filter_eq_self]
    exact fun text member => by simpa using (plain text member).1

/-- A row that stands for a step of the board. -/
structure Gives (zones : List Zone) (row : StepRow) (step : IrrigationProgramStepConfiguration) : Prop where
  zone : row.zone = step.zoneId.bytes
  valid : ValidStep zones step
  seconds : ∃ seconds, 1 ≤ seconds ∧ seconds ≤ maxStepSeconds ∧ row.seconds = decimal seconds ∧
    step.durationMs.toNat = 1000 * seconds

theorem strtoul_decimal {number : Nat} (small : number < 2 ^ 32) : strtoul (decimal number) = (number.toUInt32,[]) := by
  rw [strtoul_digits (decimal_ne_nil number) (decimal_digits number) (by rw [decimalValue_decimal]; exact small),
    decimalValue_decimal]

theorem Gives.parsed {zones : List Zone} {row : StepRow} {step : IrrigationProgramStepConfiguration}
    (gives : Gives zones row step) : parseStep zones row.zone row.seconds = some step := by
  obtain ⟨seconds,some,bounded,shown,duration⟩ := gives.seconds
  have small : seconds ≤ 3600 := bounded
  have listed : zoneExists zones step.zoneId.bytes = true := by
    obtain ⟨zone,member,named⟩ := gives.valid.onBoard
    exact List.any_eq_true.mpr ⟨zone,member,decide_eq_true (congrArg CString.bytes named)⟩
  have read : seconds.toUInt32.toNat = seconds := by simp; omega
  have positive : seconds.toUInt32 ≠ 0 := by
    intro zero
    rw [zero] at read
    change 0 = seconds at read
    omega
  have short := gives.valid.zoneId.terminated
  have accepted : ¬(¬zoneExists zones step.zoneId.bytes = true ∨ decimal seconds = [] ∨ ([] : List UInt8) ≠ [] ∨
      seconds.toUInt32 = 0 ∨ seconds.toUInt32.toNat > maxStepSeconds ∨
      step.zoneId.bytes.length ≥ irrigationConfigurationIdSize) := by
    simp only [listed,decimal_ne_nil,positive,read,not_true_eq_false,false_or,ne_eq,not_or,Nat.not_lt,ge_iff_le,
      Nat.not_le,gt_iff_lt]
    exact ⟨bounded,short⟩
  have kept : (copyText (CString.ofBytes step.zoneId.bytes) : IdText) = step.zoneId := by
    rw [CString.ofBytes_bytes]
    exact copyText_of_lt step.zoneId short
  have product : seconds.toUInt32 * 1000 = step.durationMs := by
    apply UInt32.toNat_inj.mp
    have thousand : (1000 : UInt32).toNat = 1000 := rfl
    rw [UInt32.toNat_mul,read,thousand,duration]
    omega
  rw [parseStep,gives.zone,shown,strtoul_decimal (by omega)]
  dsimp only
  rw [if_neg accepted,kept,product]

theorem parseTokens_rows {zones : List Zone} {rows : List StepRow} {steps : List IrrigationProgramStepConfiguration}
    (gives : List.Forall₂ (Gives zones) rows steps) {room : Nat} (fits : rows.length ≤ room) :
    parseTokens zones room (rows.map (·.zone)) (rows.map (·.seconds)) = some steps := by
  induction gives generalizing room with
  | nil => cases room <;> rfl
  | @cons row step rows steps first _ ih =>
    cases room with
    | zero => contradiction
    | succ room =>
      rw [List.map_cons,List.map_cons,parseTokens,first.parsed,ih (Nat.le_of_succ_le_succ fits)]
      rfl

theorem Gives.exists_row {zones : List Zone} {rows : List StepRow} {steps : List IrrigationProgramStepConfiguration}
    (gives : List.Forall₂ (Gives zones) rows steps) {step : IrrigationProgramStepConfiguration} (member : step ∈ steps) :
    ∃ row ∈ rows, Gives zones row step := by
  induction gives with
  | nil => exact absurd member List.not_mem_nil
  | @cons row _ _ _ first _ ih =>
    rcases List.mem_cons.mp member with rfl | later
    · exact ⟨row,List.mem_cons_self,first⟩
    · obtain ⟨other,inside,given⟩ := ih later
      exact ⟨other,List.mem_cons_of_mem _ inside,given⟩

theorem Gives.exists_step {zones : List Zone} {rows : List StepRow} {steps : List IrrigationProgramStepConfiguration}
    (gives : List.Forall₂ (Gives zones) rows steps) {row : StepRow} (member : row ∈ rows) :
    ∃ step, Gives zones row step := by
  induction gives with
  | nil => exact absurd member List.not_mem_nil
  | cons first _ ih =>
    rcases List.mem_cons.mp member with rfl | later
    · exact ⟨_,first⟩
    · exact ih later

theorem row_tokens {zones : List Zone} {rows : List StepRow} {steps : List IrrigationProgramStepConfiguration}
    (gives : List.Forall₂ (Gives zones) rows steps) :
    (∀ text ∈ rows.map (·.zone), (∀ character ∈ text, textCharacterIsValid character = true) ∧ text ≠ [] ∧
      text.length ≤ 31) ∧
    ∀ text ∈ rows.map (·.seconds), (∀ character ∈ text, textCharacterIsValid character = true) ∧ text ≠ [] ∧
      text.length ≤ 4 := by
  constructor
  · intro text member
    obtain ⟨row,inside,rfl⟩ := List.mem_map.mp member
    obtain ⟨step,given⟩ := Gives.exists_step gives inside
    rw [given.zone]
    exact ⟨given.valid.zoneId.characters,given.valid.zoneId.nonempty,Nat.le_of_lt_succ given.valid.zoneId.terminated⟩
  · intro text member
    obtain ⟨row,inside,rfl⟩ := List.mem_map.mp member
    obtain ⟨step,given⟩ := Gives.exists_step gives inside
    obtain ⟨seconds,_,bounded,shown,_⟩ := given.seconds
    have small : seconds ≤ 3600 := bounded
    rw [shown]
    exact ⟨fun digit member => digit_accepted (decimal_digits seconds digit member),decimal_ne_nil seconds,
      decimal_length_le (by decide) (by omega)⟩

/-! ### Indices -/

theorem accepted_noNul {character : UInt8} (valid : textCharacterIsValid character = true) : character ≠ 0 := by
  rintro rfl
  exact absurd valid (by decide)

theorem decimal_bytes (number : Nat) : (CString.ofBytes (decimal number)).bytes = decimal number :=
  ofBytes_of_noNul fun digit member => accepted_noNul (digit_accepted (decimal_digits number digit member))

theorem decimal_not_new (number : Nat) : CString.ofBytes (decimal number) ≠ .literal "new" := by
  intro same
  have bytes := congrArg CString.bytes same
  rw [decimal_bytes] at bytes
  have digit := decimal_digits number 'n'.toUInt8 (by rw [bytes]; decide)
  exact absurd digit (by decide)

/-- A printed number is read as itself. -/
theorem parseValue_decimal {number maximum : Nat} (bounded : number ≤ maximum) (small : maximum < 2 ^ 32) :
    parseValue (.ofBytes (decimal number)) maximum = some number := by
  have read : number.toUInt32.toNat = number := by simp; omega
  rw [parseValue,decimal_bytes,if_neg (decimal_ne_nil number),strtoul_decimal (by omega)]
  dsimp only
  rw [read,if_pos ⟨rfl,bounded⟩]

/-! ### A saved card -/

/-- A card with the program that it stands for. -/
structure Filled (zones : List Zone) (c : ProgramCard) (displayName : CString)
    (steps : List IrrigationProgramStepConfiguration) : Prop where
  named : c.name = displayName.bytes
  valid : ValidName displayName
  room : c.rows.length ≤ irrigationMaxProgramSteps
  rows : List.Forall₂ (Gives zones) c.rows steps

/-- The index of a card of the page. -/
structure CardIndex (text : List UInt8) : Prop where
  short : text.length ≤ 3
  characters : ∀ character ∈ text, textCharacterIsValid character = true

theorem cardIndex_decimal {index : Nat} (small : index < 1000) : CardIndex (decimal index) :=
  ⟨decimal_length_le (by decide) small,fun digit member => digit_accepted (decimal_digits index digit member)⟩

theorem cardIndex_new : CardIndex (ascii "new") := ⟨by decide,by decide +kernel⟩

theorem mem_commas {texts : List (List UInt8)} {character : UInt8} (member : character ∈ commas texts) :
    character = ','.toUInt8 ∨ ∃ text ∈ texts, character ∈ text := by
  induction texts with
  | nil => exact absurd member List.not_mem_nil
  | cons text rest ih =>
    cases rest with
    | nil => exact .inr ⟨text,List.mem_singleton_self text,by simpa [commas] using member⟩
    | cons next more =>
      have split : commas (text :: next :: more) = text ++ ','.toUInt8 :: commas (next :: more) := by
        simp [commas,List.intercalate_cons_cons]
      rw [split] at member
      rcases List.mem_append.mp member with first | second
      · exact .inr ⟨text,List.mem_cons_self,first⟩
      · rcases List.mem_cons.mp second with comma | later
        · exact .inl comma
        · rcases ih later with comma | ⟨other,inside,within⟩
          · exact .inl comma
          · exact .inr ⟨other,List.mem_cons_of_mem _ inside,within⟩

theorem commas_bytes {texts : List (List UInt8)}
    (valid : ∀ text ∈ texts, ∀ character ∈ text, textCharacterIsValid character = true) :
    (CString.ofBytes (commas texts)).bytes = commas texts := by
  refine ofBytes_of_noNul fun character member => ?_
  rcases mem_commas member with rfl | ⟨text,inside,within⟩
  · decide
  · exact accepted_noNul (valid text inside character within)

section Saving

variable {zones : List Zone} {c : ProgramCard} {displayName : CString} {steps : List IrrigationProgramStepConfiguration}

theorem Filled.lengths (filled : Filled zones c displayName steps) :
    (formEncoder.encode (commas (c.rows.map (·.zone)))).length ≤ c.rows.length * 34 ∧
    (formEncoder.encode (commas (c.rows.map (·.seconds)))).length ≤ c.rows.length * 7 := by
  obtain ⟨zoneTokens,secondTokens⟩ := row_tokens filled.rows
  constructor
  · have bounded : (formEncoder.encode (commas (c.rows.map (·.zone)))).length ≤ (c.rows.map (·.zone)).length * (31 + 3) :=
      form_commas fun text member => by
        rw [form_length (zoneTokens text member).1]
        exact (zoneTokens text member).2.2
    rwa [List.length_map] at bounded
  · have bounded : (formEncoder.encode (commas (c.rows.map (·.seconds)))).length ≤
        (c.rows.map (·.seconds)).length * (4 + 3) :=
      form_commas fun text member => by
        rw [form_length (secondTokens text member).1]
        exact (secondTokens text member).2.2
    rwa [List.length_map] at bounded

/-- Eight rows with the longest ids fit the query. -/
theorem Filled.query (filled : Filled zones c displayName steps) (index : CardIndex c.index) :
    (encodedQuery formEncoder c.parameters).length < querySize := by
  obtain ⟨zoneLength,secondLength⟩ := filled.lengths
  have room : c.rows.length ≤ 8 := filled.room
  have indexLength := form_length index.characters
  have indexShort := index.short
  have nameLength := form_length filled.valid.characters
  have nameShort := filled.valid.short
  rw [← filled.named] at nameLength nameShort
  simp only [encodedQuery,encodedPairs,ProgramCard.parameters,queryText,pairText,List.map_cons,List.map_nil,
    List.intercalate_cons_cons,List.intercalate_singleton,List.length_append,List.length_cons,List.length_nil,
    indexLength,nameLength]
  have keys : (ascii "index").length = 5 ∧ (ascii "name").length = 4 ∧ (ascii "zones").length = 5 ∧
    (ascii "durations").length = 9 := by decide
  change _ < 512
  omega

theorem Filled.parsed (filled : Filled zones c displayName steps) : parseSteps zones
    (.ofBytes (commas (c.rows.map (·.zone)))) (.ofBytes (commas (c.rows.map (·.seconds)))) = some steps := by
  obtain ⟨zoneTokens,secondTokens⟩ := row_tokens filled.rows
  have separate {text : List UInt8} (valid : ∀ character ∈ text, textCharacterIsValid character = true) :
      ','.toUInt8 ∉ text := fun member => absurd (valid _ member) (by decide)
  have zoneTexts := strtok_commas (fun text member => ⟨(zoneTokens text member).2.1,separate (zoneTokens text member).1⟩)
    (commas_bytes fun text member => (zoneTokens text member).1)
  have secondTexts := strtok_commas
    (fun text member => ⟨(secondTokens text member).2.1,separate (secondTokens text member).1⟩)
    (commas_bytes fun text member => (secondTokens text member).1)
  rw [parseSteps,zoneTexts,secondTexts]
  exact parseTokens_rows filled.rows filled.room

variable {ε σ : Type} {drivers : Drivers ε} {device : Repository.ConfigurationRepositoryStorage σ}
  {library : QueryKeyValue} {system : ManagedSystem ε σ}

/-- The edit that saving a card asks for. -/
def savedAs (index : Option Nat) (displayName : CString) (steps : List IrrigationProgramStepConfiguration) : Mutation :=
  match index with
  | none => .createProgram (some displayName) (some steps)
  | some index => .updateProgram index (some displayName) (some steps)

def indexText : Option Nat → List UInt8
  | none => ascii "new"
  | some index => decimal index

/-- The server gets what the card shows. -/
theorem save_served (drivers : Drivers ε) (device : Repository.ConfigurationRepositoryStorage σ)
    (reads : ReadsPairs library) (idle : programIsActive system.world.store = false)
    (filled : Filled zones c displayName steps) {index : Option Nat}
    (small : ∀ number ∈ index, number ≤ irrigationMaxPrograms - 1) (shown : c.index = indexText index) :
    serve drivers device library zones (save c) system =
      (.result (mutate device (savedAs index displayName steps) system).1,
        (mutate device (savedAs index displayName steps) system).2) := by
  have cardIndex : CardIndex c.index := by
    rw [shown]
    cases index with
    | none => exact cardIndex_new
    | some number =>
      have bounded : number ≤ 3 := small number rfl
      exact cardIndex_decimal (by omega)
  have room := filled.query cardIndex
  have indexBytes : (CString.ofBytes c.index).bytes = c.index :=
    ofBytes_of_noNul fun character member => accepted_noNul (cardIndex.characters character member)
  obtain ⟨zoneTokens,secondTokens⟩ := row_tokens filled.rows
  have zonesBytes := commas_bytes fun text member => (zoneTokens text member).1
  have durationsBytes := commas_bytes fun text member => (secondTokens text member).1
  obtain ⟨zoneLength,secondLength⟩ := filled.lengths
  have rows : c.rows.length ≤ 8 := filled.room
  have keys := program_keys c
  have indexLength := form_length cardIndex.characters
  have indexShort := cardIndex.short
  have nameLength := form_length filled.valid.characters
  have nameShort := filled.valid.short
  have index8 : queryValue library (save c).request "index" 8 = some (.ofBytes c.index) :=
    queryValue_form reads keys room (by rw [indexBytes]; exact .head _) (by rw [indexBytes]; omega)
  have name : queryValue library (save c).request "name" irrigationConfigurationNameSize = some displayName :=
    queryValue_form reads keys room (by rw [← filled.named]; exact .tail _ (.head _))
      (by change _ < 32; omega)
  have zonesText : queryValue library (save c).request "zones" querySize =
      some (.ofBytes (commas (c.rows.map (·.zone)))) :=
    queryValue_form reads keys room (by rw [zonesBytes]; exact .tail _ (.tail _ (.head _)))
      (by rw [zonesBytes]; change _ < 512; omega)
  have durationsText : queryValue library (save c).request "durations" querySize =
      some (.ofBytes (commas (c.rows.map (·.seconds)))) :=
    queryValue_form reads keys room (by rw [durationsBytes]; exact .tail _ (.tail _ (.tail _ (.head _))))
      (by rw [durationsBytes]; change _ < 512; omega)
  have registered : registeredHandler (save c).method (save c).path = some .programSaveHandler := by
    change registeredHandler .post (.literal "/program/save") = _
    decide +kernel
  simp only [serve,registered,handle,programSaveHandler,idle,index8,name,zonesText,durationsText,filled.parsed,
    filled.valid.nonempty,Bool.false_eq_true,if_false]
  rw [shown]
  cases index with
  | none => rfl
  | some number =>
    have read := parseValue_decimal (small number rfl) (by decide)
    rw [indexText,if_neg (decimal_not_new number),read]
    rfl

end Saving

/-! ### The cards of a configuration -/

def shownRow (step : IrrigationProgramStepConfiguration) : StepRow :=
  ⟨step.zoneId.bytes,decimal (secondsShown step.durationMs.toNat)⟩

def shownCard (index : Nat) (program : LiveProgram) : ProgramCard :=
  ⟨decimal index,program.displayName.bytes,program.steps.map shownRow⟩

/-- A card for each program. -/
def shownCards (live : LiveConfiguration) : List ProgramCard := live.programs.mapIdx shownCard

theorem mapM_map_some {α β γ : Type} {read : β → Option γ} {write : α → β} {shown : α → γ} {entries : List α}
    (each : ∀ entry ∈ entries, read (write entry) = some (shown entry)) :
    (entries.map write).mapM read = some (entries.map shown) := by
  induction entries with
  | nil => rfl
  | cons entry rest ih =>
    obtain ⟨first,others⟩ := List.forall_mem_cons.mp each
    rw [List.map_cons,List.mapM_cons,first,ih others]
    rfl

/-- Accepted characters are no line breaks. -/
theorem fieldText_valid {text : List UInt8} (valid : ∀ character ∈ text, textCharacterIsValid character = true) :
    fieldText text = text := by
  refine List.filter_eq_self.mpr fun character member => ?_
  have accepted := valid character member
  have apart : character ≠ 10 ∧ character ≠ 13 := by
    constructor
    · rintro rfl
      exact absurd accepted (by decide)
    · rintro rfl
      exact absurd accepted (by decide)
  exact decide_eq_true apart

section Shown

variable {boardZones : List Zone} {zones : List IrrigationZoneConfiguration} {configuration : IrrigationConfiguration}

theorem elementsAt_zones : elementsAt "zones" (programsTree configuration zones) = some (zones.map zoneTree) := rfl

theorem zoneIds_read : (zones.map zoneTree).mapM (textAt "id") = some (zones.map (·.zoneId.bytes)) :=
  mapM_map_some fun _ _ => rfl

theorem step_shown {s : IrrigationProgramStepConfiguration} (listed : s.zoneId.bytes ∈ zones.map (·.zoneId.bytes)) :
    step (programsTree configuration zones) (stepTree s) = some (shownRow s) := by
  have zoneId : textAt "zone_id" (stepTree s) = some s.zoneId.bytes := rfl
  have durationMs : numberAt "duration_ms" (stepTree s) = some s.durationMs.toNat := rfl
  rw [step,elementsAt_zones,Option.bind_eq_bind,Option.bind_some,zoneIds_read,zoneId,durationMs]
  simp only [Option.bind_eq_bind,Option.bind_some,Option.pure_def,selectValue,if_pos listed,shownRow]

theorem card_shown {entry : IrrigationProgramConfiguration × Nat} (valid : ValidProgram boardZones entry.1.live)
    (listed : ∀ step ∈ entry.1.liveSteps, step.zoneId.bytes ∈ zones.map (·.zoneId.bytes)) :
    card (programsTree configuration zones) (programTree entry) = some (shownCard entry.2 entry.1.live) := by
  have index : textAt "index" (programTree entry) = some (decimal entry.2) := rfl
  have name : textAt "name" (programTree entry) = some entry.1.displayName.bytes := rfl
  have steps : elementsAt "steps" (programTree entry) = some (entry.1.liveSteps.map stepTree) := rfl
  have rows : (entry.1.liveSteps.map stepTree).mapM (step (programsTree configuration zones)) =
      some (entry.1.liveSteps.map shownRow) := mapM_map_some fun step member => step_shown (listed step member)
  have unbroken : fieldText entry.1.displayName.bytes = entry.1.displayName.bytes :=
    fieldText_valid valid.displayName.characters
  rw [card,index,name,steps]
  simp only [Option.bind_eq_bind,Option.bind_some,Option.pure_def,rows,unbroken]
  rfl

/-- What the page shows of a validated configuration. -/
theorem programCards_shown (valid : configuration.live.Valid boardZones)
    (ids : zones.map (·.zoneId.toCString) = boardZones.map (·.id)) :
    programCards (programsTree configuration zones) = some (shownCards configuration.live) := by
  have programs : elementsAt "programs" (programsTree configuration zones) =
      some (configuration.livePrograms.zipIdx.map programTree) := rfl
  have listed (program : IrrigationProgramConfiguration) (member : program ∈ configuration.livePrograms) :
      ∀ step ∈ program.liveSteps, step.zoneId.bytes ∈ zones.map (·.zoneId.bytes) := by
    intro step inside
    obtain ⟨zone,onBoard,named⟩ := ((valid.programs _ (List.mem_map_of_mem member)).steps step inside).onBoard
    have among : step.zoneId.toCString ∈ zones.map (·.zoneId.toCString) := by
      rw [ids]
      exact List.mem_map.mpr ⟨zone,onBoard,named⟩
    obtain ⟨shown,present,same⟩ := List.mem_map.mp among
    exact List.mem_map.mpr ⟨shown,present,congrArg CString.bytes same⟩
  have cards : (configuration.livePrograms.zipIdx.map programTree).mapM (card (programsTree configuration zones)) =
      some (configuration.livePrograms.zipIdx.map fun entry => shownCard entry.2 entry.1.live) := by
    refine mapM_map_some fun entry member => ?_
    have present := List.fst_mem_of_mem_zipIdx member
    exact card_shown (valid.programs _ (List.mem_map_of_mem present)) (listed _ present)
  rw [programCards,programs,Option.bind_eq_bind,Option.bind_some,cards,shownCards]
  change _ = some ((configuration.livePrograms.map (·.live)).mapIdx shownCard)
  rw [List.mapIdx_eq_zipIdx_map,List.zipIdx_map,List.map_map]
  rfl

end Shown

/-! ### Cards after a save -/

/-- What `loadPrograms` makes of the response. -/
def loadPrograms (context : DevKitWebContext) : Option (List ProgramCard) :=
  match programsHandler context with
  | .ok text => (Json.read text).bind programCards
  | .error _ => none

/-- The cards once one of them is saved; a new one gets the next index. -/
def replaceCard (cards : List ProgramCard) (index : Option Nat) (c : ProgramCard) : List ProgramCard :=
  match index with
  | none => cards ++ [{ c with index := decimal cards.length }]
  | some index => cards.set index c

section Rows

variable {zones : List Zone} {c : ProgramCard} {displayName : CString} {steps : List IrrigationProgramStepConfiguration}

theorem Gives.shown {row : StepRow} {step : IrrigationProgramStepConfiguration} (gives : Gives zones row step) :
    shownRow step = row := by
  obtain ⟨seconds,some,_,text,duration⟩ := gives.seconds
  have whole : secondsShown step.durationMs.toNat = seconds := by
    rw [secondsShown,duration,Nat.mul_div_cancel_left seconds (by decide),if_neg (by omega)]
  rw [shownRow,← gives.zone,whole,← text]

theorem gives_shown {rows : List StepRow} (gives : List.Forall₂ (Gives zones) rows steps) : steps.map shownRow = rows := by
  induction gives with
  | nil => rfl
  | cons first _ ih => rw [List.map_cons,first.shown,ih]

/-- A step of whole seconds is given by the row that shows it. -/
theorem shown_gives (valid : ∀ step ∈ steps, ValidStep zones step) (seconds : ∀ step ∈ steps, InSeconds step) :
    List.Forall₂ (Gives zones) (steps.map shownRow) steps := by
  refine List.forall₂_map_left_iff.mpr (List.forall₂_same.mpr fun step member => ?_)
  obtain ⟨number,some,bounded,duration⟩ := seconds step member
  have whole : secondsShown step.durationMs.toNat = number := by
    rw [secondsShown,duration,Nat.mul_div_cancel_left number (by decide),if_neg (by omega)]
  exact ⟨rfl,valid step member,number,some,bounded,by rw [shownRow,whole],duration⟩

theorem Filled.content (filled : Filled zones c displayName steps) : ValidContent zones displayName steps where
  name := filled.valid
  room := by
    rw [← filled.rows.length_eq]
    exact filled.room
  steps step member := by
    obtain ⟨row,_,gives⟩ := Gives.exists_row filled.rows member
    exact gives.valid

theorem Filled.shown (filled : Filled zones c displayName steps) (program : LiveProgram) (index : Nat)
    (named : program.displayName.toCString = displayName) (made : program.steps = steps) :
    shownCard index program = { c with index := decimal index } := by
  have name : program.displayName.bytes = displayName.bytes := congrArg CString.bytes named
  rw [shownCard,name,made,gives_shown filled.rows,← filled.named]

end Rows

/-- The card of the development kit's program. -/
def devCard : ProgramCard := shownCard 0 (defaultProgram devZones).live

theorem devProgram_given :
    (devSystem true true).manager.configuration.live.programs[0]? = some (defaultProgram devZones).live := by
  decide +kernel

theorem devSystem_idle : programIsActive (devSystem true true).world.store = false := by
  decide +kernel

section Saved

variable {ε σ : Type} {drivers : Drivers ε} {device : Repository.ConfigurationRepositoryStorage σ}
  {library : QueryKeyValue} {zones : List Zone} {system : ManagedSystem ε σ} {c : ProgramCard} {displayName : CString}
  {steps : List IrrigationProgramStepConfiguration}

/-- The web server's context in a sound system. -/
def webContext (sound : Sound zones system) : DevKitWebContext :=
  ⟨system.world.store,zones,system.manager,sound.shown⟩

theorem programsHandler_sound (sound : Sound zones system) : ∃ shownZones : List IrrigationZoneConfiguration,
    ShownZones (webContext sound) shownZones ∧ (∀ zone ∈ shownZones, ValidZone zones zone) ∧
    programsHandler (webContext sound) = .ok (render (programsTree system.manager.configuration shownZones)) := by
  have valid := sound.valid
  have inContext : (webContext sound).manager.configuration.live.Valid (webContext sound).zones := valid
  obtain ⟨shownZones,configured,shown⟩ := shownZones inContext
  have among : ∀ zone ∈ shownZones, ValidZone zones zone :=
    fun zone member => valid.zones zone (configured.mem_iff.mp member)
  have programs : ∀ program ∈ system.manager.configuration.livePrograms, ValidProgram zones program.live :=
    fun program member => valid.programs _ (List.mem_map_of_mem member)
  have room : shownZones.length ≤ 8 := by
    rw [← List.length_map (·.zoneId.toCString),shown.ids,List.length_map]
    exact valid.boardRoom
  refine ⟨shownZones,shown,among,?_⟩
  exact programsHandler_prints shown (fun program member => totalDurationMs_sum (programs program member))
    (programsTree_length valid sound.faithful.capacity room among)

/-- The page shows the live configuration. -/
theorem loadPrograms_sound (sound : Sound zones system) :
    loadPrograms (webContext sound) = some (shownCards system.manager.configuration.live) := by
  obtain ⟨shownZones,shown,among,printed⟩ := programsHandler_sound sound
  rw [loadPrograms,printed]
  change (Json.read (render (programsTree system.manager.configuration shownZones))).bind programCards = _
  rw [read_render (programsTree_plain sound.valid among),Option.bind_some]
  exact programCards_shown sound.valid shown.ids

theorem savedAs_short (valid : ValidName displayName) (steps : List IrrigationProgramStepConfiguration)
    (index : Option Nat) : (savedAs index displayName steps).ShortTexts := by
  cases index with
  | none => exact valid.short
  | some index => exact valid.short

theorem savedAs_edits (displayName : CString) (steps : List IrrigationProgramStepConfiguration) (index : Option Nat)
    (candidate : Option IrrigationConfiguration) : savedAs index displayName steps ≠ .replace candidate := by
  cases index with
  | none => nofun
  | some index => nofun

/-- The lists that a save leads to have the cards with that one replaced. -/
theorem savedAs_cards {live next : LiveConfiguration} (filled : Filled zones c displayName steps) {index : Option Nat}
    (shown : c.index = indexText index) (result : (savedAs index displayName steps).Result live next) :
    shownCards next = replaceCard (shownCards live) index c := by
  cases index with
  | none =>
    obtain ⟨name,named,rfl⟩ := result
    rw [shownCards,List.mapIdx_append,List.mapIdx_singleton,Nat.zero_add,
      filled.shown ⟨live.nextProgram,name,steps⟩ live.programs.length named rfl,replaceCard,shownCards,
      List.length_mapIdx]
  | some index =>
    obtain ⟨program,name,_,named,rfl⟩ := result
    rw [shownCards,List.mapIdx_set,filled.shown ⟨program.programId,name,steps⟩ index named rfl,replaceCard,
      shownCards]
    rw [indexText] at shown
    rw [← shown]

/-- Every card that the page shows is filled in with its program. -/
theorem shownCard_filled (sound : Sound zones system) {index : Nat} {program : LiveProgram}
    (given : system.manager.configuration.live.programs[index]? = some program) :
    Filled zones (shownCard index program) program.displayName.toCString program.steps := by
  have member := List.mem_of_getElem? given
  have valid := sound.valid.programs program member
  have name := valid.displayName
  refine ⟨rfl,⟨name.nonempty,Nat.le_of_lt_succ name.terminated,name.characters⟩,?_,?_⟩
  · change (program.steps.map shownRow).length ≤ _
    rw [List.length_map]
    exact valid.room
  · exact shown_gives valid.steps (sound.seconds program member)

/-- Programs on a page: saving a card is the edit with exactly the name and the steps that it was filled in
with. An answer of OK shows the card in its place, and any other leaves the page as it was. -/
theorem saved_card_is_shown (reads : ReadsPairs library) (sound : Sound zones system)
    (idle : programIsActive system.world.store = false) (filled : Filled zones c displayName steps) {index : Option Nat}
    (small : ∀ number ∈ index, number ≤ irrigationMaxPrograms - 1) (shown : c.index = indexText index)
    {cards : List ProgramCard} (loaded : loadPrograms (webContext sound) = some cards) :
    let saved := mutate device (savedAs index displayName steps) system
    serve drivers device library zones (save c) system = (.result saved.1,saved.2) ∧
      ∃ after : Sound zones saved.2, loadPrograms (webContext after) =
        some (if saved.1 = .ok then replaceCard cards index c else cards) := by
  intro saved
  have served := save_served drivers device reads idle filled small shown
  have kept : Sound zones (serve drivers device library zones (save c) system).2 :=
    sound_kept.served sound (serve_served drivers device library zones system (save c))
  rw [loadPrograms_sound] at loaded
  cases loaded
  rw [served] at kept
  refine ⟨served,kept,?_⟩
  rw [loadPrograms_sound]
  rcases sound.answered device (savedAs_edits displayName steps index)
    (savedAs_short filled.valid steps index) with
    ⟨ok,result⟩ | ⟨failed,same⟩
  · rw [if_pos ok]
    exact congrArg some (savedAs_cards filled shown result)
  · rw [if_neg failed,same]

/-- A new card, filled in with one step of ninety seconds. -/
def devNewCard : ProgramCard := { newProgram with name := ascii "lawn", rows := [⟨ascii "zone-2",ascii "90"⟩] }

def devNewSteps : List IrrigationProgramStepConfiguration := [⟨copyText (.literal "zone-2"),90000⟩]

theorem devNewCard_filled : Filled devZones devNewCard (.literal "lawn") devNewSteps where
  named := rfl
  valid := ⟨by decide,by decide,by decide +kernel⟩
  room := by decide
  rows := by
    refine .cons ⟨by decide +kernel,⟨⟨by decide +kernel,by decide +kernel,by decide +kernel⟩,?_,by decide,by decide⟩,90,
      by decide,by decide,by decide +kernel,by decide⟩ .nil
    exact ⟨devZones[1],by decide +kernel,by decide +kernel⟩

theorem saved_card_is_shown_devSystem : ∃ next,
    serve quietDrivers Repository.memoryStorage pairLookup devZones (save devNewCard) (devSystem true true) =
        (.result .ok,next) ∧
      ∃ after : Sound devZones next, loadPrograms (webContext after) =
        some (shownCards (devSystem true true).manager.configuration.live ++ [{ devNewCard with index := ascii "1" }]) := by
  have sound := devSystem_sound true true
  obtain ⟨served,after,cards⟩ := @saved_card_is_shown _ _ quietDrivers Repository.memoryStorage _ _ _ _ _ _
    pairLookup_readsPairs sound devSystem_idle devNewCard_filled none nofun rfl _ (loadPrograms_sound sound)
  have ok : (mutate Repository.memoryStorage (savedAs none (.literal "lawn") devNewSteps) (devSystem true true)).1 = .ok := by
    decide +kernel
  have place : (shownCards (devSystem true true).manager.configuration.live).length = 1 := by decide +kernel
  rw [if_pos ok,replaceCard,place] at cards
  rw [ok] at served
  exact ⟨_,served,after,cards⟩

/-- A program is saved as the card shows it: saving a card that nobody edited is the update of its program with the
program's own name and steps, which changes nothing, and is answered OK exactly when it persists. -/
theorem unedited_card_changes_nothing (reads : ReadsPairs library) (sound : Sound zones system)
    (idle : programIsActive system.world.store = false) {cards : List ProgramCard}
    (loaded : loadPrograms (webContext sound) = some cards) {index : Nat} (given : cards[index]? = some c) :
    ∃ program candidate, system.manager.configuration.live.programs[index]? = some program ∧
      let update := .updateProgram index (some program.displayName.toCString) (some program.steps)
      let saved := mutate device update system
      serve drivers device library zones (save c) system = (.result saved.1,saved.2) ∧
      update.prepare system.manager.configuration = .ok candidate ∧
      candidate.live = system.manager.configuration.live ∧
      (saved.1 = .ok ↔ Persists device candidate system) ∧
      saved.2.manager.configuration.live = system.manager.configuration.live := by
  rw [loadPrograms_sound] at loaded
  cases loaded
  rw [shownCards,List.getElem?_mapIdx,Option.map_eq_some_iff] at given
  obtain ⟨program,given,rfl⟩ := given
  have filled := shownCard_filled sound given
  have inside := (List.getElem?_eq_some_iff.mp given).1
  have room : system.manager.configuration.live.programs.length ≤ 4 := sound.valid.programCount
  have small : ∀ number ∈ some index, number ≤ irrigationMaxPrograms - 1 := by
    rintro number ⟨⟩
    change index ≤ 3
    omega
  have edits := savedAs_edits program.displayName.toCString program.steps (some index)
  have short := savedAs_short filled.valid program.steps (some index)
  have unchanged {next : LiveConfiguration} (result : (savedAs (some index) program.displayName.toCString
      program.steps).Result system.manager.configuration.live next) : next = system.manager.configuration.live := by
    obtain ⟨old,name,found,named,made⟩ := result
    rw [given] at found
    cases found
    have sameProgram : (⟨program.programId,name,program.steps⟩ : LiveProgram) =
        system.manager.configuration.live.programs[index] := by
      rw [CharArray.toCString_injective named,← Option.some.inj ((List.getElem?_eq_getElem inside).symm.trans given)]
    rw [made,sameProgram,List.set_getElem_self]
  obtain ⟨candidate,prepared,result,persists⟩ := sound.saves device edits short ⟨inside,filled.content⟩
  refine ⟨program,candidate,given,save_served drivers device reads idle filled small rfl,prepared,unchanged result,
    persists,?_⟩
  rcases sound.answered device edits short with ⟨_,result⟩ | ⟨_,same⟩
  · exact unchanged result
  · exact congrArg IrrigationConfiguration.live same

theorem unedited_card_changes_nothing_devSystem :
    (serve quietDrivers Repository.memoryStorage pairLookup devZones (save devCard) (devSystem true true)).1 = .result .ok ∧
      (serve quietDrivers Repository.memoryStorage pairLookup devZones (save devCard) (devSystem true true)
        ).2.manager.configuration.live = (devSystem true true).manager.configuration.live := by
  have sound := devSystem_sound true true
  have card : (shownCards (devSystem true true).manager.configuration.live)[0]? = some devCard := by
    rw [shownCards,List.getElem?_mapIdx,devProgram_given]
    rfl
  obtain ⟨program,candidate,given,served,_,_,_,same⟩ := @unedited_card_changes_nothing _ _ quietDrivers
    Repository.memoryStorage _ _ _ _ pairLookup_readsPairs sound devSystem_idle _ (loadPrograms_sound sound) _ card
  obtain rfl : (defaultProgram devZones).live = program := Option.some.inj (devProgram_given.symm.trans given)
  have ok : (mutate Repository.memoryStorage (.updateProgram 0 (some (defaultProgram devZones).live.displayName.toCString)
      (some (defaultProgram devZones).live.steps)) (devSystem true true)).1 = .ok := by decide +kernel
  rw [served,ok]
  dsimp only
  exact ⟨rfl,same⟩

end Saved

end Irrigation.Page
