import Irrigation.ScheduleCards

/-! Renaming a zone on the page. Its request is encoded in another way than the forms: a blank takes
three bytes of a buffer, so that fewer names get through than the configuration accepts. -/
namespace Irrigation.Page

open Scanning Numerals UrlEncoding Json

/-! ### Lengths of a component -/

/-- The room that a text takes in the request. -/
def componentLength (text : List UInt8) : Nat := text.length + 2 * text.countP (· == ' '.toUInt8)

theorem componentLength_le (text : List UInt8) : componentLength text ≤ 3 * text.length := by
  have blanks : text.countP (· == ' '.toUInt8) ≤ text.length := List.countP_le_length
  rw [componentLength]
  omega

theorem component_escaped {character : UInt8} (valid : textCharacterIsValid character = true) :
    (character == ' '.toUInt8) = true ↔ ¬((componentEncoder.plus = true ∧ character = ' '.toUInt8) ∨
      componentEncoder.plain character = true) := by
  have checked : (List.range 256).all fun number => !textCharacterIsValid (UInt8.ofNat number) ||
      (UInt8.ofNat number == ' '.toUInt8) != componentEncoder.plain (UInt8.ofNat number) := by decide +kernel
  have this := List.all_eq_true.mp checked character.toNat (List.mem_range.mpr character.toNat_lt)
  rw [UInt8.ofNat_toNat,valid,Bool.not_true,Bool.false_or,bne_iff_ne] at this
  have plus : componentEncoder.plus = false := rfl
  rw [plus]
  cases blank : character == ' '.toUInt8 <;> cases plain : componentEncoder.plain character <;> simp_all

theorem component_length {text : List UInt8} (valid : ∀ character ∈ text, textCharacterIsValid character = true) :
    (componentEncoder.encode text).length = componentLength text :=
  Encoder.encode_length fun character member => component_escaped (valid character member)

/-! ### A saved name -/

section Saving

variable {ε σ : Type} {library : QueryKeyValue} {id name : CString}

/-- Both texts fit the buffers of the handler. -/
def NameFits (id name : CString) : Prop := componentLength id.bytes < 32 ∧ componentLength name.bytes < 32

instance : Decidable (NameFits id name) := by unfold NameFits; infer_instance

theorem zoneName_room (validId : ValidName id) (validName : ValidName name) :
    (encodedQuery componentEncoder (ZoneCard.parameters ⟨id.bytes,name.bytes⟩)).length < querySize := by
  have idLength := component_length validId.characters
  have nameLength := component_length validName.characters
  have idRoom := componentLength_le id.bytes
  have nameRoom := componentLength_le name.bytes
  have idShort := validId.short
  have nameShort := validName.short
  have keys : (ascii "id").length = 2 ∧ (ascii "name").length = 4 := by decide
  simp only [ZoneCard.parameters,encodedQuery,encodedPairs,queryText,pairText,List.map_cons,List.map_nil,
    List.intercalate_cons_cons,List.intercalate_singleton,List.length_append,List.length_cons,List.length_nil]
  rw [idLength,nameLength]
  change _ < 512
  omega

/-- The server gets the id and the name, or rejects the request. -/
theorem saveZoneName_served (drivers : Drivers ε) (device : Repository.ConfigurationRepositoryStorage σ)
    (reads : ReadsPairs library) (zones : List Zone) (system : ManagedSystem ε σ) (validId : ValidName id)
    (validName : ValidName name) : serve drivers device library zones (saveZoneName ⟨id.bytes,name.bytes⟩) system =
      if NameFits id name then (.result (mutate device (.renameZone (some id) (some name)) system).1,
        (mutate device (.renameZone (some id) (some name)) system).2)
      else (.result .rejected,system) := by
  have keys := zone_keys ⟨id.bytes,name.bytes⟩
  have room := zoneName_room validId validName
  have idRead : queryValue library (saveZoneName ⟨id.bytes,name.bytes⟩).request "id" 32 =
      if componentLength id.bytes < 32 then some id else none := by
    rw [← component_length validId.characters]
    exact queryValue_encoded reads componentEncoder_reserves (by decide) keys _ room (.head _) 32
  have nameRead : queryValue library (saveZoneName ⟨id.bytes,name.bytes⟩).request "name" 32 =
      if componentLength name.bytes < 32 then some name else none := by
    rw [← component_length validName.characters]
    exact queryValue_encoded reads componentEncoder_reserves (by decide) keys _ room (.tail _ (.head _)) 32
  have registered : registeredHandler (saveZoneName ⟨id.bytes,name.bytes⟩).method
      (saveZoneName ⟨id.bytes,name.bytes⟩).path = some .zoneNameHandler := by
    change registeredHandler .post (.literal "/zone/name") = _
    decide +kernel
  simp only [serve,registered,handle,zoneNameHandler,idRead,nameRead,NameFits]
  by_cases idFits : componentLength id.bytes < 32
  · by_cases nameFits : componentLength name.bytes < 32
    · simp only [idFits,nameFits,and_self,if_true]
    · simp only [idFits,nameFits,and_false,if_true,if_false]
  · simp only [idFits,false_and,if_false]

end Saving

/-! ### The cards of a configuration -/

/-- What the page makes of the zones in the response. -/
def loadZones (context : DevKitWebContext) : Option (List ZoneCard) :=
  match programsHandler context with
  | .ok text => (Json.read text).bind zoneCards
  | .error _ => none

/-- A card for each zone of the board. -/
def shownZoneCards (manager : ConfigurationManager) (zones : List Zone) : List ZoneCard :=
  zones.map fun zone => ⟨zone.id.bytes,(zoneNameFor manager zone.id).bytes⟩

/-- The cards with another name for one zone. -/
def renameCard (cards : List ZoneCard) (id name : CString) : List ZoneCard :=
  cards.map fun card => if card.id = id.bytes then ⟨id.bytes,name.bytes⟩ else card

section Saved

variable {ε σ : Type} {drivers : Drivers ε} {device : Repository.ConfigurationRepositoryStorage σ}
  {library : QueryKeyValue} {zones : List Zone} {system : ManagedSystem ε σ} {id name : CString}

theorem loadZones_sound (sound : Sound zones system) :
    loadZones (webContext sound) = some (shownZoneCards system.manager zones) := by
  obtain ⟨shownZones,shown,among,printed⟩ := programsHandler_sound sound
  have cards : zoneCards (programsTree system.manager.configuration shownZones) =
      some (shownZones.map fun zone => ⟨zone.zoneId.bytes,zone.displayName.bytes⟩) := by
    have elements : elementsAt "zones" (programsTree system.manager.configuration shownZones) =
      some (shownZones.map zoneTree) := rfl
    rw [zoneCards,elements]
    refine mapM_map_some fun zone member => ?_
    have idText : textAt "id" (zoneTree zone) = some zone.zoneId.bytes := rfl
    have nameText : textAt "name" (zoneTree zone) = some zone.displayName.bytes := rfl
    rw [zoneCard,idText,nameText]
    simp only [Option.bind_eq_bind,Option.bind_some,Option.pure_def]
    rw [fieldText_valid (among zone member).displayName.characters]
  have same : (shownZones.map fun zone => (⟨zone.zoneId.bytes,zone.displayName.bytes⟩ : ZoneCard)) =
      shownZoneCards system.manager zones := by
    have named (zone : IrrigationZoneConfiguration) (member : zone ∈ shownZones) :
        (⟨zone.zoneId.bytes,zone.displayName.bytes⟩ : ZoneCard) =
          ⟨zone.zoneId.bytes,(zoneNameFor system.manager zone.zoneId.toCString).bytes⟩ := by
      have name : zoneNameFor system.manager zone.zoneId.toCString = zone.displayName.toCString := shown.named zone member
      rw [name]
    have ids := congrArg (List.map fun id : CString =>
      (⟨id.bytes,(zoneNameFor system.manager id).bytes⟩ : ZoneCard)) shown.ids
    rw [List.map_map,List.map_map] at ids
    exact (List.map_congr_left named).trans ids
  rw [loadZones,printed]
  change (Json.read (render (programsTree system.manager.configuration shownZones))).bind zoneCards = _
  rw [read_render (programsTree_plain sound.valid among),Option.bind_some,cards,same]

theorem zoneNameFor_configured {manager : ConfigurationManager} (valid : manager.configuration.live.Valid zones)
    {zone : IrrigationZoneConfiguration} (member : zone ∈ manager.configuration.live.zones) :
    zoneNameFor manager zone.zoneId.toCString = zone.displayName.toCString := by
  rw [zoneNameFor,zoneName_of_configured valid member,Option.getD_some]

/-- Only the card of the zone changes. -/
theorem renamed_cards {manager next : ConfigurationManager} (valid : manager.configuration.live.Valid zones)
    (nextValid : next.configuration.live.Valid zones)
    (result : (Mutation.renameZone (some id) (some name)).Result manager.configuration.live next.configuration.live) :
    shownZoneCards next zones = renameCard (shownZoneCards manager zones) id name := by
  obtain ⟨index,zone,newName,given,rfl,named,made⟩ := result
  have inside := (List.getElem?_eq_some_iff.mp given).1
  have listed : next.configuration.live.zones = manager.configuration.live.zones.set index ⟨zone.zoneId,newName⟩ :=
    congrArg LiveConfiguration.zones made
  have changed : (⟨zone.zoneId,newName⟩ : IrrigationZoneConfiguration) ∈ next.configuration.live.zones := by
    rw [listed]
    exact List.mem_set inside _
  rw [shownZoneCards,renameCard,shownZoneCards,List.map_map]
  refine List.map_congr_left fun boardZone onBoard => ?_
  by_cases same : boardZone.id = zone.zoneId.toCString
  · have shown := zoneNameFor_configured nextValid changed
    have sameBytes : boardZone.id.bytes = zone.zoneId.bytes := congrArg CString.bytes same
    rw [Function.comp_apply,if_pos sameBytes,same,shown,named]
  · have apart : boardZone.id.bytes ≠ zone.zoneId.bytes := fun bytes => same (CString.ext bytes)
    obtain ⟨other,configured,identified⟩ := valid.configured onBoard
    obtain ⟨position,present⟩ := List.mem_iff_getElem?.mp configured
    have elsewhere : index ≠ position := by
      rintro rfl
      rw [given] at present
      cases present
      exact same identified.symm
    have kept : other ∈ next.configuration.live.zones := by
      rw [listed]
      exact List.mem_of_getElem? ((List.getElem?_set_ne elsewhere).trans present)
    have before := zoneNameFor_configured valid configured
    have after := zoneNameFor_configured nextValid kept
    rw [identified] at before after
    rw [Function.comp_apply,if_neg apart,before,after]

/-- Zone names on a page: the request of a card is carried out exactly when the id and the name fit
the buffers with three bytes for each blank; otherwise it is rejected, however valid the name is. A
rename that is answered OK shows on the card of that zone and on no other. -/
theorem saved_zone_name_is_shown (reads : ReadsPairs library) (sound : Sound zones system) (validId : ValidName id)
    (validName : ValidName name) {cards : List ZoneCard} (loaded : loadZones (webContext sound) = some cards) :
    ∃ result next, serve drivers device library zones (saveZoneName ⟨id.bytes,name.bytes⟩) system =
        (.result result,next) ∧
      (NameFits id name → (result,next) = mutate device (.renameZone (some id) (some name)) system) ∧
      (¬NameFits id name → result = .rejected ∧ next = system) ∧
      ∃ after : Sound zones next, loadZones (webContext after) =
        some (if result = .ok then renameCard cards id name else cards) := by
  have served := saveZoneName_served drivers device reads zones system validId validName
  have kept : Sound zones (serve drivers device library zones (saveZoneName ⟨id.bytes,name.bytes⟩) system).2 :=
    sound_kept.served sound (serve_served drivers device library zones system _)
  rw [loadZones_sound] at loaded
  cases loaded
  by_cases fits : NameFits id name
  · rw [if_pos fits] at served
    rw [served] at kept
    refine ⟨_,_,served,fun _ => rfl,fun misfit => absurd fits misfit,kept,?_⟩
    rw [loadZones_sound]
    have edits : ∀ candidate, Mutation.renameZone (some id) (some name) ≠ .replace candidate := nofun
    rcases sound.answered device edits validName.short with ⟨ok,result⟩ | ⟨failed,same⟩
    · rw [if_pos ok]
      exact congrArg some (renamed_cards sound.valid kept.valid result)
    · rw [if_neg failed]
      simp only [shownZoneCards,zoneNameFor,configurationManagerZoneName,same]
  · rw [if_neg fits] at served
    rw [served] at kept
    refine ⟨_,_,served,fun fitting => absurd fitting fits,fun _ => ⟨rfl,rfl⟩,kept,?_⟩
    rw [if_neg (by decide)]
    exact loadZones_sound kept

theorem saved_zone_name_is_shown_devSystem : ∃ result next,
    serve quietDrivers Repository.memoryStorage pairLookup devZones
        (saveZoneName ⟨(CString.literal "zone-1").bytes,(CString.literal "Rose bed").bytes⟩) (devSystem true true) =
        (.result result,next) ∧
      ∃ after : Sound devZones next, loadZones (webContext after) = some (if result = .ok then
        renameCard (shownZoneCards (devSystem true true).manager devZones) (.literal "zone-1") (.literal "Rose bed")
        else shownZoneCards (devSystem true true).manager devZones) :=
  have sound := devSystem_sound true true
  have ⟨result,next,served,_,_,shown⟩ := saved_zone_name_is_shown pairLookup_readsPairs sound
    ⟨by decide,by decide,by decide +kernel⟩ ⟨by decide,by decide,by decide +kernel⟩ (loadZones_sound sound)
  ⟨result,next,served,shown⟩

end Saved

end Irrigation.Page
