import Irrigation.ConfigurationManager
import Mathlib.Data.List.Perm.Subperm

/-! The zones that a valid configuration names. The validator only looks for each of them on
the board; that none of the board is left out follows from their number. -/
namespace Irrigation

variable {boardZones : List Zone}

theorem OnBoard.mem {zoneId : IdText} (onBoard : OnBoard boardZones zoneId) :
    zoneId.toCString ∈ boardZones.map (·.id) := by
  obtain ⟨zone,member,named⟩ := onBoard
  rw [← named]
  exact List.mem_map_of_mem member

namespace LiveConfiguration.Valid

variable {live : LiveConfiguration}

theorem zoneIds_nodup (valid : live.Valid boardZones) : (live.zones.map (·.zoneId.toCString)).Nodup := by
  have distinct := valid.zonesDistinct.map CharArray.toCString_injective
  rwa [List.map_map] at distinct

theorem zoneIds_subset (valid : live.Valid boardZones) :
    live.zones.map (·.zoneId.toCString) ⊆ boardZones.map (·.id) := by
  intro id member
  obtain ⟨zone,configured,rfl⟩ := List.mem_map.mp member
  exact (valid.zones zone configured).onBoard.mem

/-- As many distinct ids as the board has zones, all of them on the board, are the board's. -/
theorem zoneIds_perm (valid : live.Valid boardZones) :
    (live.zones.map (·.zoneId.toCString)).Perm (boardZones.map (·.id)) := by
  have within := List.subperm_of_subset valid.zoneIds_nodup valid.zoneIds_subset
  apply within.perm_of_length_le
  rw [List.length_map,List.length_map,valid.zoneCount]

theorem boardIds_nodup (valid : live.Valid boardZones) : (boardZones.map (·.id)).Nodup :=
  valid.zoneIds_perm.nodup_iff.mp valid.zoneIds_nodup

/-- Every board zone is configured. -/
theorem configured (valid : live.Valid boardZones) {zone : Zone} (member : zone ∈ boardZones) :
    ∃ configured ∈ live.zones, configured.zoneId.toCString = zone.id :=
  List.mem_map.mp (valid.zoneIds_perm.mem_iff.mpr (List.mem_map_of_mem member))

end LiveConfiguration.Valid

/-- The name of a configured zone is found under its id. -/
theorem zoneName_of_configured {manager : ConfigurationManager}
    (valid : manager.configuration.live.Valid boardZones) {configured : IrrigationZoneConfiguration}
    (member : configured ∈ manager.configuration.liveZones) :
    configurationManagerZoneName manager (some configured.zoneId.toCString) = some configured.displayName.toCString := by
  have found : manager.configuration.liveZones.find?
      (fun zone => zone.zoneId.toCString = configured.zoneId.toCString) = some configured := by
    rw [List.find?_eq_some_iff_append]
    refine ⟨by simp,?_⟩
    obtain ⟨before,after,split⟩ := List.append_of_mem member
    refine ⟨before,after,split,fun earlier inside => ?_⟩
    have distinct : ((before ++ configured :: after).map (·.zoneId)).Nodup := split ▸ valid.zonesDistinct
    rw [List.map_append,List.map_cons,List.nodup_append] at distinct
    simpa using distinct.2.2 _ (List.mem_map_of_mem inside) _ List.mem_cons_self
  simp only [configurationManagerZoneName,Option.bind_eq_bind,Option.bind_some,found]
  rfl

/-- What a manager holding a configuration says about the zones of its board. -/
structure NamesBoard (configuration : IrrigationConfiguration) (boardZones : List Zone) : Prop where
  permutation : (configuration.liveZones.map (·.zoneId.toCString)).Perm (boardZones.map (·.id))
  distinct : (boardZones.map (·.id)).Nodup
  steps : ∀ program ∈ configuration.livePrograms, ∀ step ∈ program.liveSteps,
    ∃ zone ∈ boardZones, zone.id = step.zoneId.toCString
  named : ∀ manager : ConfigurationManager, manager.configuration = configuration → ∀ zone ∈ boardZones,
    ∃ configured ∈ configuration.liveZones, configured.zoneId.toCString = zone.id ∧
      configurationManagerZoneName manager (some zone.id) = some configured.displayName.toCString

/-- A validated configuration names every board zone exactly once. -/
theorem validated_names_board {configuration : IrrigationConfiguration} {boardZones : List Zone}
    (validated : irrigationConfigurationValidate configuration boardZones = .ok) :
    NamesBoard configuration boardZones := by
  have valid := ((validate_ok_iff _ _).mp validated).2
  refine ⟨valid.zoneIds_perm,valid.boardIds_nodup,?_,?_⟩
  · intro program member step inside
    exact ((valid.programs _ (List.mem_map_of_mem member)).steps step inside).onBoard
  · rintro manager rfl zone member
    obtain ⟨configured,inside,named⟩ := valid.configured member
    refine ⟨configured,inside,named,?_⟩
    rw [← named]
    exact zoneName_of_configured valid inside

/-- The zones of the board in another order. -/
def permutedZones : IrrigationConfiguration :=
  { devKitDefaults devZones with zones := fill zeroZone (defaultZones devZones).reverse }

theorem validated_names_board_permuted : NamesBoard permutedZones devZones :=
  validated_names_board (by decide +kernel)

end Irrigation
