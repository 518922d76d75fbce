import Irrigation.Configuration

/-! The development kit: its board table and the configuration it starts with. -/
namespace Irrigation

def devOutput (number : Nat) : Output := ⟨.numbered "dev-output-" number,number - 1⟩

def devZone (number : Nat) : Zone := ⟨.numbered "zone-" number,devOutput number,true,30000⟩

/-- `DEV_ZONES` of the firmware's main module. -/
def devZones : List Zone := [devZone 1,devZone 2,devZone 3,devZone 4]

def defaultProgram (boardZones : List Zone) : IrrigationProgramConfiguration where
  programId := copyText (.literal "dev-program")
  displayName := copyText (.literal "dev-program")
  steps := fill zeroStep ((boardZones.take 2).map fun zone => ⟨copyText zone.id,30000⟩)
  stepCount := 2

def defaultSchedule : IrrigationScheduleConfiguration where
  scheduleId := copyText (.literal "dev-monday-0600")
  enabled := false
  weekdayMask := 1
  hour := 6
  minute := 0
  programId := copyText (.literal "dev-program")

def defaultZones (boardZones : List Zone) : List IrrigationZoneConfiguration :=
  boardZones.zipIdx.map fun (zone,index) =>
    ⟨copyText zone.id,copyText (.numbered "Zone " (index + 1))⟩

/-- The configuration that `configuration_manager_init_dev_kit_defaults` builds. -/
def devKitDefaults (boardZones : List Zone) : IrrigationConfiguration where
  schemaVersion := irrigationConfigurationSchemaVersion
  zones := fill zeroZone (defaultZones boardZones)
  programs := fill zeroProgram [defaultProgram boardZones]
  schedules := fill zeroSchedule [defaultSchedule]
  zoneCount := boardZones.length.toUInt8
  programCount := 1
  scheduleCount := 1
  nextProgramId := 1
  nextScheduleId := 1

/-- A board whose ids are usable as configuration ids and distinct. -/
structure UsableBoard (boardZones : List Zone) : Prop where
  atLeast : 2 ≤ boardZones.length
  atMost : boardZones.length ≤ irrigationMaxZones
  ids : ∀ zone ∈ boardZones, zone.id.bytes.length < irrigationConfigurationIdSize ∧
    ValidText (copyText zone.id : IdText)
  distinct : (boardZones.map (·.id)).Nodup

instance {n : Nat} (text : CharArray n) : Decidable (ValidText text) :=
  decidable_of_iff (textIsValid text n = true) (textIsValid_iff text)

theorem devZones_usable : UsableBoard devZones where
  atLeast := by decide
  atMost := by decide
  ids := by decide
  distinct := by decide

theorem copyText_toCString {n : Nat} (source : CString) (room : source.bytes.length < n) :
    (copyText source : CharArray n).toCString = source := by
  apply CString.ext
  exact List.take_of_length_le (by omega)

theorem UsableBoard.onBoard {boardZones : List Zone} (usable : UsableBoard boardZones) {zone : Zone}
    (member : zone ∈ boardZones) : OnBoard boardZones (copyText zone.id) :=
  ⟨zone,member,(copyText_toCString _ (usable.ids zone member).1).symm⟩

theorem displayName_valid : ∀ index < irrigationMaxZones,
    ValidText (copyText (.numbered "Zone " (index + 1)) : NameText) := by
  decide

theorem defaultZone_valid {boardZones : List Zone} (usable : UsableBoard boardZones)
    {configured : IrrigationZoneConfiguration} (member : configured ∈ defaultZones boardZones) :
    ValidZone boardZones configured := by
  simp only [defaultZones,List.mem_map] at member
  obtain ⟨⟨zone,index⟩,position,rfl⟩ := member
  have inside := List.mem_zipIdx position
  have boardMember : zone ∈ boardZones := by
    have h := List.fst_mem_of_mem_zipIdx position
    simpa using h
  have room := usable.atMost
  exact ⟨(usable.ids zone boardMember).2,displayName_valid index (by omega),usable.onBoard boardMember⟩

theorem defaultStep_valid {boardZones : List Zone} (usable : UsableBoard boardZones) {zone : Zone}
    (member : zone ∈ boardZones) : ValidStep boardZones ⟨copyText zone.id,30000⟩ :=
  ⟨(usable.ids zone member).2,usable.onBoard member,(by decide : (30000 : UInt32) ≠ 0),
    (by decide : (30000 : UInt32) ≤ irrigationConfigurationMaxStepDurationMs)⟩

@[simp] theorem defaultProgram_liveSteps {boardZones : List Zone} (atLeast : 2 ≤ boardZones.length) :
    (defaultProgram boardZones).liveSteps =
      (boardZones.take 2).map fun zone => ⟨copyText zone.id,30000⟩ := by
  have h := fill_toList_take 8 zeroStep
    ((boardZones.take 2).map fun zone => (⟨copyText zone.id,30000⟩ : IrrigationProgramStepConfiguration))
    (by simp)
  rw [List.length_map,List.length_take,Nat.min_eq_left atLeast] at h
  exact h

theorem defaultProgram_valid {boardZones : List Zone} (usable : UsableBoard boardZones) :
    ValidProgram boardZones (defaultProgram boardZones).live where
  programId := (by decide : ValidText (copyText (.literal "dev-program") : IdText))
  displayName := (by decide : ValidText (copyText (.literal "dev-program") : NameText))
  room := by simp [IrrigationProgramConfiguration.liveSteps]
  steps := by
    simp only [IrrigationProgramConfiguration.live_steps,defaultProgram_liveSteps usable.atLeast]
    intro step member
    obtain ⟨zone,taken,rfl⟩ := List.mem_map.mp member
    exact defaultStep_valid usable (List.mem_of_mem_take taken)

theorem defaultSchedule_valid (boardZones : List Zone) :
    ValidSchedule [(defaultProgram boardZones).live] defaultSchedule where
  scheduleId := (by decide : ValidText (copyText (.literal "dev-monday-0600") : IdText))
  programId := (by decide : ValidText (copyText (.literal "dev-program") : IdText))
  program := ⟨_,List.mem_singleton_self _,rfl⟩
  weekday := by decide
  weekdays := by decide
  hour := by decide
  minute := by decide

theorem defaultZones_distinct {boardZones : List Zone} (usable : UsableBoard boardZones) :
    ((defaultZones boardZones).map (·.zoneId)).Nodup := by
  have ids : (defaultZones boardZones).map (·.zoneId) = (boardZones.map (·.id)).map copyText := by
    rw [defaultZones,List.map_map,List.map_map]
    conv_rhs => rw [← List.zipIdx_map_fst 0 boardZones,List.map_map]
    rfl
  rw [ids]
  apply usable.distinct.map_on
  intro first firstMember second secondMember same
  obtain ⟨zone,member,rfl⟩ := List.mem_map.mp firstMember
  obtain ⟨other,otherMember,rfl⟩ := List.mem_map.mp secondMember
  rw [← copyText_toCString zone.id (usable.ids zone member).1,same,
    copyText_toCString other.id (usable.ids other otherMember).1]

theorem devKitDefaults_liveZones {boardZones : List Zone} (atMost : boardZones.length ≤ irrigationMaxZones) :
    (devKitDefaults boardZones).liveZones = defaultZones boardZones := by
  have size : (defaultZones boardZones).length = boardZones.length := by simp [defaultZones]
  have count : boardZones.length.toUInt8.toNat = (defaultZones boardZones).length := by
    have room : boardZones.length ≤ 8 := atMost
    rw [size]
    simp
    omega
  have taken := fill_toList_take 8 zeroZone (defaultZones boardZones) (size.trans_le atMost)
  rw [← count] at taken
  exact taken

theorem devKitDefaults_livePrograms (boardZones : List Zone) :
    (devKitDefaults boardZones).livePrograms = [defaultProgram boardZones] :=
  fill_toList_take 4 zeroProgram [defaultProgram boardZones] (by simp)

theorem devKitDefaults_liveSchedules (boardZones : List Zone) :
    (devKitDefaults boardZones).liveSchedules = [defaultSchedule] :=
  fill_toList_take 16 zeroSchedule [defaultSchedule] (by simp)

/-- The defaults that the firmware builds for a usable board pass its own validator. -/
theorem devKitDefaults_valid {boardZones : List Zone} (usable : UsableBoard boardZones) :
    irrigationConfigurationValidate (devKitDefaults boardZones) boardZones = .ok := by
  have atMost : boardZones.length ≤ 8 := usable.atMost
  have zones := devKitDefaults_liveZones usable.atMost
  have programs := devKitDefaults_livePrograms boardZones
  have schedules := devKitDefaults_liveSchedules boardZones
  refine (validate_ok_iff _ _).mpr ⟨⟨?_,?_,?_,?_⟩,?_⟩
  · change boardZones.length.toUInt8.toNat ≤ 8
    simp
    omega
  · exact (by decide : (1 : UInt8).toNat ≤ 4)
  · exact (by decide : (1 : UInt8).toNat ≤ 16)
  · rw [programs]
    exact List.forall_mem_singleton.mpr (by decide : (2 : UInt8).toNat ≤ 8)
  · rw [IrrigationConfiguration.live,zones,programs,schedules]
    exact {
      schemaVersion := rfl
      boardRoom := usable.atMost
      zoneCount := by simp [defaultZones]
      programCount := (by decide : 1 ≤ 4)
      scheduleCount := (by decide : 1 ≤ 16)
      zones := fun zone member => defaultZone_valid usable member
      zonesDistinct := defaultZones_distinct usable
      programs := by simpa using defaultProgram_valid usable
      programsDistinct := by simp
      schedules := by simpa using defaultSchedule_valid boardZones
      schedulesDistinct := by simp }

theorem devKitDefaults_live_valid : (devKitDefaults devZones).live.Valid devZones :=
  ((validate_ok_iff _ _).mp (devKitDefaults_valid devZones_usable)).2

/-- A second configuration of the development kit. -/
def renumberedDefaults : IrrigationConfiguration := { devKitDefaults devZones with nextProgramId := 2 }

theorem renumberedDefaults_valid : irrigationConfigurationValidate renumberedDefaults devZones = .ok :=
  devKitDefaults_valid devZones_usable

end Irrigation
