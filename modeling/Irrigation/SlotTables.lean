import Irrigation.Library.FilledSlots
import Irrigation.MirroredSystems

/-! Which lists the scheduler takes, by the ids in the slots of the views. Ids in use keep their
slots and new ones take the free slots in order; behind the schedules that find one, the array
holds what it held before. -/
namespace Irrigation

open KeyedSlots

/-- The slots of the views with the ids in them. -/
structure IdSlots where
  programs : Slots irrigationMaxPrograms IdText Unit
  schedules : Slots irrigationMaxSchedules IdText Unit

def RuntimeViews.idSlots (views : RuntimeViews) : IdSlots := ⟨views.programs.bare,views.scheduleIds.bare⟩

/-! ### A rebuild by ids -/

def storedProgramIds (configuration : IrrigationConfiguration) : List IdText :=
  configuration.livePrograms.map fun program => copyText program.programId.toCString

def IrrigationScheduleConfiguration.key (schedule : IrrigationScheduleConfiguration) : IdText :=
  copyText schedule.scheduleId.toCString

/-- The schedule's program is configured and in a slot. -/
def Provided (programs : Slots irrigationMaxPrograms IdText Unit) (configuration : IrrigationConfiguration)
    (schedule : IrrigationScheduleConfiguration) : Prop :=
  schedule.programId ∈ configuration.livePrograms.map (·.programId) ∧ schedule.programId ∈ programs.keys

instance (programs : Slots irrigationMaxPrograms IdText Unit) (configuration : IrrigationConfiguration) :
    DecidablePred (Provided programs configuration) := fun _ => inferInstanceAs (Decidable (_ ∧ _))

namespace IdSlots

variable (slots : IdSlots) (configuration : IrrigationConfiguration) (changed : Bool)

/-- Changed programs all find a slot. -/
def ProgramsFit : Prop := changed = true → slots.programs.Room (storedProgramIds configuration)

instance : Decidable (slots.ProgramsFit configuration changed) := inferInstanceAs (Decidable (_ → _))

def withPrograms : Slots irrigationMaxPrograms IdText Unit :=
  if changed then slots.programs.refilled (storedProgramIds configuration) else slots.programs

/-- The schedules before the first without a program. -/
def provided : List IrrigationScheduleConfiguration :=
  configuration.liveSchedules.takeWhile fun schedule => Provided (slots.withPrograms configuration changed) configuration schedule

/-- The schedules that find a program and a slot: those before the first that does not, and none if the
programs did not fit. -/
def listed : List IrrigationScheduleConfiguration :=
  if slots.ProgramsFit configuration changed then
    (slots.provided configuration changed).takeWhile fun schedule =>
      (slots.schedules.place ((slots.provided configuration changed).map (·.key)) schedule.key).isSome
  else []

def rebuilt : IdSlots where
  programs := slots.withPrograms configuration changed
  schedules :=
    if slots.ProgramsFit configuration changed then
      if slots.provided configuration changed = configuration.liveSchedules then
        slots.schedules.refilled ((slots.provided configuration changed).map (·.key))
      else slots.schedules.filled ((slots.provided configuration changed).map (·.key))
    else slots.schedules

end IdSlots

section Rebuild

variable {views : RuntimeViews} {configuration : IrrigationConfiguration}

theorem scheduledProgram_eq (views : RuntimeViews) (configuration : IrrigationConfiguration)
    (configured : IrrigationScheduleConfiguration) : scheduledProgram views configuration configured =
      if configured.programId ∈ configuration.livePrograms.map (·.programId) then
        programSlotForId views configured.programId else none := by
  unfold scheduledProgram
  cases found : programIndexForId configuration configured.programId with
  | none =>
    rw [if_neg]
    · rfl
    · intro member
      obtain ⟨program,inside,named⟩ := List.mem_map.mp member
      have absent := List.findIdx?_eq_none_iff.mp found program inside
      simp [named] at absent
  | some index =>
    obtain ⟨bound,hit,_⟩ := List.findIdx?_eq_some_iff_getElem.mp found
    have named : configuration.livePrograms[index].programId = configured.programId := by simpa using hit
    rw [if_pos (List.mem_map.mpr ⟨_,List.getElem_mem bound,named⟩)]
    simp only [Option.bind_eq_bind,Option.bind_some,List.getElem?_eq_getElem bound,named]

theorem scheduledProgram_isSome (views : RuntimeViews) (configuration : IrrigationConfiguration)
    (configured : IrrigationScheduleConfiguration) : (scheduledProgram views configuration configured).isSome =
      decide (Provided views.programs.bare configuration configured) := by
  rw [scheduledProgram_eq,Bool.eq_iff_iff,decide_eq_true_iff,Provided]
  split
  · next known =>
    rw [Option.isSome_iff_ne_none,ne_eq,programSlotForId,Slots.slotForKey_eq_none_iff,not_not]
    exact ⟨fun held => ⟨known,held⟩,And.right⟩
  · next unknown => exact iff_of_false Bool.false_ne_true fun provided => unknown provided.1

/-- The schedules of a configuration before the first without a program. -/
def providedBy (views : RuntimeViews) (configuration : IrrigationConfiguration) : List IrrigationScheduleConfiguration :=
  configuration.liveSchedules.takeWhile fun schedule => Provided views.programs.bare configuration schedule

/-- The loop over the schedules is a pass over those with a program. -/
theorem storeSchedules_provided (views : RuntimeViews) (configuration : IrrigationConfiguration) :
    let stored := Slots.storeAll ((providedBy views configuration).map scheduleEntry) views.scheduleIds
    storeSchedules views configuration =
      { stored with complete := stored.complete && decide (providedBy views configuration = configuration.liveSchedules) } := by
  have entry (configured : IrrigationScheduleConfiguration) :
      ((scheduledProgram views configuration configured).map fun _ => scheduleEntry configured).isSome =
        decide (Provided views.programs.bare configuration configured) := by
    rw [Option.isSome_map,scheduledProgram_isSome]
  have present : ((configuration.liveSchedules.map fun configured =>
      (scheduledProgram views configuration configured).map fun _ => scheduleEntry configured).takeWhile
        Option.isSome).reduceOption = (providedBy views configuration).map scheduleEntry := by
    rw [List.takeWhile_map]
    simp only [Function.comp_def,entry]
    change ((providedBy views configuration).map _).reduceOption = _
    have held : ∀ configured ∈ providedBy views configuration,
        (scheduledProgram views configuration configured).isSome := by
      intro configured member
      rw [scheduledProgram_isSome]
      have provided := List.mem_takeWhile_imp member
      exact provided
    generalize providedBy views configuration = provided at held
    induction provided with
    | nil => rfl
    | cons configured rest ih =>
      obtain ⟨slot,found⟩ := Option.isSome_iff_exists.mp (held configured List.mem_cons_self)
      rw [List.map_cons,List.map_cons,found,Option.map_some,List.reduceOption_cons_of_some,
        ih fun other member => held other (List.mem_cons_of_mem _ member)]
  have whole : ((configuration.liveSchedules.map fun configured =>
      (scheduledProgram views configuration configured).map fun _ => scheduleEntry configured).all Option.isSome) =
        decide (providedBy views configuration = configuration.liveSchedules) := by
    rw [List.all_map,Bool.eq_iff_iff,List.all_eq_true,decide_eq_true_iff,providedBy,List.takeWhile_eq_self_iff]
    simp only [Function.comp_apply,entry]
  intro stored
  rw [storeSchedules,Slots.pass_present]
  simp only [present,whole]
  rfl

theorem providedBy_keys (views : RuntimeViews) (configuration : IrrigationConfiguration) :
    ((providedBy views configuration).map scheduleEntry).map (·.key) = (providedBy views configuration).map (·.key) := by
  rw [List.map_map]
  rfl

theorem settledSchedules_bare (views : RuntimeViews) (configuration : IrrigationConfiguration) :
    (Slots.settle (storeSchedules views configuration)).bare =
      if providedBy views configuration = configuration.liveSchedules then
        views.scheduleIds.bare.refilled ((providedBy views configuration).map (·.key))
      else views.scheduleIds.bare.filled ((providedBy views configuration).map (·.key)) := by
  rw [storeSchedules_provided,← providedBy_keys]
  split
  · next whole =>
    rw [← Slots.settle_refilled]
    simp only [whole,decide_true,Bool.and_true]
  · next cut =>
    rw [← (Slots.storeAll_filling _ _).slots]
    simp only [cut,decide_false,Bool.and_false]
    rfl

end Rebuild

/-- The schedules that a rebuild over these program slots puts into entries. -/
def listedBy (views : RuntimeViews) (configuration : IrrigationConfiguration) : List IrrigationScheduleConfiguration :=
  (providedBy views configuration).takeWhile fun schedule =>
    (views.scheduleIds.place ((providedBy views configuration).map (·.key)) schedule.key).isSome

section Listed

variable {views : RuntimeViews} {configuration : IrrigationConfiguration}

theorem listedBy_begins (views : RuntimeViews) (configuration : IrrigationConfiguration) :
    listedBy views configuration <+: configuration.liveSchedules :=
  (List.takeWhile_prefix _).trans (List.takeWhile_prefix _)

theorem storeSchedules_chosen (views : RuntimeViews) (configuration : IrrigationConfiguration) :
    (storeSchedules views configuration).chosen.length = (listedBy views configuration).length := by
  have filling := Slots.storeAll_filling ((providedBy views configuration).map scheduleEntry) views.scheduleIds
  have lengths := congrArg List.length filling.chosen
  rw [providedBy_keys,List.length_map,List.length_map,Slots.reached,List.takeWhile_map,List.length_map] at lengths
  rw [storeSchedules_provided]
  exact lengths

theorem listedBy_given {index : Nat} {schedule : IrrigationScheduleConfiguration}
    (given : (listedBy views configuration)[index]? = some schedule) :
    configuration.liveSchedules[index]? = some schedule ∧ Provided views.programs.bare configuration schedule := by
  obtain ⟨inside,rfl⟩ := List.getElem?_eq_some_iff.mp given
  have provided := List.mem_takeWhile_imp ((List.takeWhile_subset _) (List.getElem_mem inside))
  exact ⟨List.prefix_iff_getElem?.mp (listedBy_begins views configuration) index inside,by simpa using provided⟩

/-- The slot chosen for a listed schedule is in use under its key. -/
theorem chosen_listed {index : Nat} {schedule : IrrigationScheduleConfiguration}
    (given : (listedBy views configuration)[index]? = some schedule) : ∃ slot,
      (storeSchedules views configuration).chosen[index]? = some slot ∧
      (Slots.settle (storeSchedules views configuration)).used slot = true ∧
      (Slots.settle (storeSchedules views configuration)).key slot = schedule.key := by
  have inside := (List.getElem?_eq_some_iff.mp given).1
  rw [← storeSchedules_chosen] at inside
  have chosen := List.getElem?_eq_getElem inside
  refine ⟨_,chosen,?_⟩
  have entry : ((providedBy views configuration).map scheduleEntry)[index]? = some (scheduleEntry schedule) := by
    obtain ⟨bound,rfl⟩ := List.getElem?_eq_some_iff.mp given
    rw [List.getElem?_map,List.prefix_iff_getElem?.mp (List.takeWhile_prefix _) index bound]
    rfl
  have passing := Slots.storeAll_passing ((providedBy views configuration).map scheduleEntry) views.scheduleIds
  have stored := storeSchedules_provided views configuration
  dsimp only at stored
  have same : (storeSchedules views configuration).chosen = (Slots.storeAll ((providedBy views configuration).map
      scheduleEntry) views.scheduleIds).chosen := by rw [stored]
  have kept : (storeSchedules views configuration).slots = (Slots.storeAll ((providedBy views configuration).map
      scheduleEntry) views.scheduleIds).slots := by rw [stored]
  have atPass : (Slots.storeAll ((providedBy views configuration).map scheduleEntry) views.scheduleIds).chosen[index]? =
      some ((storeSchedules views configuration).chosen[index]) := by rw [← same,chosen]
  obtain ⟨used,named⟩ := passing.chosen entry atPass
  rw [← kept] at used named
  unfold Slots.settle
  split
  · exact ⟨Slots.mem_retain.mpr (List.mem_of_getElem? chosen),named⟩
  · exact ⟨used,named⟩

/-- A listed schedule is written with its slot and its program's. -/
theorem rebuildSchedules_written {index : Nat} {schedule : IrrigationScheduleConfiguration}
    (given : (listedBy views configuration)[index]? = some schedule) : ∃ slot program,
      (rebuildSchedules views configuration).schedules index = runtimeSchedule slot program schedule ∧
      (rebuildSchedules views configuration).scheduleIds.used slot = true ∧
      (rebuildSchedules views configuration).scheduleIds.key slot = schedule.key ∧
      programSlotForId views schedule.programId = some program := by
  obtain ⟨live,provided⟩ := listedBy_given given
  obtain ⟨slot,chosen,used,named⟩ := chosen_listed given
  have held := scheduledProgram_isSome views configuration schedule
  rw [decide_eq_true provided,Option.isSome_iff_exists] at held
  obtain ⟨program,scheduled⟩ := held
  have found := scheduledProgram_eq views configuration schedule
  rw [if_pos provided.1,scheduled] at found
  refine ⟨slot,program,?_,used,named,found.symm⟩
  change (writtenSchedule views configuration index).getD _ = _
  simp only [writtenSchedule,chosen,live,scheduled,Option.bind_eq_bind,Option.bind_some]
  rfl

/-- Behind the listed schedules the array keeps its entries. -/
theorem rebuildSchedules_kept {index : Nat} (behind : (listedBy views configuration)[index]? = none) :
    (rebuildSchedules views configuration).schedules index = views.schedules index := by
  rw [List.getElem?_eq_none_iff,← storeSchedules_chosen,← List.getElem?_eq_none_iff] at behind
  change (writtenSchedule views configuration index).getD _ = _
  simp only [writtenSchedule,behind,Option.bind_eq_bind,Option.bind_none]
  rfl

/-- A list that was cut short keeps every slot in use. -/
theorem rebuildSchedules_keeps (short : (listedBy views configuration).length < configuration.liveSchedules.length) :
    views.scheduleIds.Keeps (rebuildSchedules views configuration).scheduleIds := by
  have passing := Slots.storeAll_passing ((providedBy views configuration).map scheduleEntry) views.scheduleIds
  have stored := storeSchedules_provided views configuration
  dsimp only at stored
  have stopped : (storeSchedules views configuration).complete ≠ true := by
    intro complete
    rw [stored,Bool.and_eq_true,decide_eq_true_iff] at complete
    have lengths := passing.chosen_length.2 complete.1
    have chosen := storeSchedules_chosen views configuration
    rw [stored] at chosen
    dsimp only at chosen
    rw [chosen,List.length_map,complete.2] at lengths
    omega
  change views.scheduleIds.Keeps (Slots.settle (storeSchedules views configuration))
  rw [Slots.settle,if_neg stopped,stored]
  exact passing.keeps

end Listed

/-! ### Both loops -/

/-- The views once the loop over the programs is through. -/
def rebuildPrograms (views : RuntimeViews) (configuration : IrrigationConfiguration) (changed : Bool) : RuntimeViews :=
  if changed then { views with programs := Slots.settle (storePrograms views configuration) } else views

/-- How a rebuild goes, by the ids in the slots. -/
inductive RebuiltBy (views : RuntimeViews) (configuration : IrrigationConfiguration) (changed : Bool) :
    RuntimeViews → Prop
  | programs (unfit : ¬views.idSlots.ProgramsFit configuration changed)
      (listed : views.idSlots.listed configuration changed = []) :
      RebuiltBy views configuration changed (rebuildPrograms views configuration changed)
  | schedules (fits : views.idSlots.ProgramsFit configuration changed)
      (listed : views.idSlots.listed configuration changed =
        listedBy (rebuildPrograms views configuration changed) configuration) :
      RebuiltBy views configuration changed
        (rebuildSchedules (rebuildPrograms views configuration changed) configuration)

section Rebuilt

variable (views : RuntimeViews) (configuration : IrrigationConfiguration) (changed : Bool)

theorem rebuildPrograms_bare :
    (rebuildPrograms views configuration changed).programs.bare = views.idSlots.withPrograms configuration changed := by
  unfold rebuildPrograms IdSlots.withPrograms
  cases changed with
  | false => rfl
  | true =>
    rw [if_pos rfl,if_pos rfl]
    have settled := Slots.settle_refilled (configuration.livePrograms.map programEntry) views.programs
    rw [List.map_map] at settled
    exact settled

theorem rebuildPrograms_scheduleIds : (rebuildPrograms views configuration changed).scheduleIds = views.scheduleIds := by
  unfold rebuildPrograms
  split <;> rfl

theorem rebuildPrograms_schedules : (rebuildPrograms views configuration changed).schedules = views.schedules := by
  unfold rebuildPrograms
  split <;> rfl

theorem provided_rebuildPrograms : views.idSlots.provided configuration changed =
    providedBy (rebuildPrograms views configuration changed) configuration := by
  rw [IdSlots.provided,providedBy,rebuildPrograms_bare]

theorem rebuildRuntimeViews_rebuiltBy :
    RebuiltBy views configuration changed (rebuildRuntimeViews views configuration changed) := by
  have complete := (Slots.storeAll_filling (configuration.livePrograms.map programEntry) views.programs).complete
  rw [List.map_map] at complete
  have listed (fits : views.idSlots.ProgramsFit configuration changed) :
      views.idSlots.listed configuration changed =
        listedBy (rebuildPrograms views configuration changed) configuration := by
    rw [IdSlots.listed,if_pos fits,listedBy,rebuildPrograms_scheduleIds,provided_rebuildPrograms]
    rfl
  cases changed with
  | false => exact .schedules nofun (listed nofun)
  | true =>
    by_cases fits : views.idSlots.ProgramsFit configuration true
    · have done : (storePrograms views configuration).complete = true := complete.mpr (fits rfl)
      simp only [rebuildRuntimeViews,if_true,done]
      exact .schedules fits (listed fits)
    · have stopped : (storePrograms views configuration).complete ≠ true := fun done => fits fun _ => complete.mp done
      simp only [rebuildRuntimeViews,if_true,stopped]
      exact .programs fits (by rw [IdSlots.listed,if_neg fits])

end Rebuilt

section RebuiltBy

variable {views later : RuntimeViews} {configuration : IrrigationConfiguration} {changed : Bool}

theorem RebuiltBy.idSlots (rebuilt : RebuiltBy views configuration changed later) :
    later.idSlots = views.idSlots.rebuilt configuration changed := by
  have programs := rebuildPrograms_bare views configuration changed
  cases rebuilt with
  | programs unfit =>
    rw [RuntimeViews.idSlots,IdSlots.rebuilt,programs,if_neg unfit,rebuildPrograms_scheduleIds]
    rfl
  | schedules fits =>
    rw [RuntimeViews.idSlots,IdSlots.rebuilt,if_pos fits,provided_rebuildPrograms]
    change (⟨(rebuildPrograms views configuration changed).programs.bare,
      (Slots.settle (storeSchedules (rebuildPrograms views configuration changed) configuration)).bare⟩ : IdSlots) = _
    rw [settledSchedules_bare,rebuildPrograms_scheduleIds,programs]
    rfl

/-- A listed schedule's entry shows it and its slot keeps its id. -/
theorem RebuiltBy.written (rebuilt : RebuiltBy views configuration changed later) {index : Nat}
    {schedule : IrrigationScheduleConfiguration}
    (given : (views.idSlots.listed configuration changed)[index]? = some schedule) : ∃ slot program,
      later.schedules index = runtimeSchedule slot program schedule ∧ later.scheduleIds.used slot = true ∧
      later.scheduleIds.key slot = schedule.key ∧ programSlotForId later schedule.programId = some program := by
  cases rebuilt with
  | programs _ listed =>
    rw [listed] at given
    contradiction
  | schedules _ listed =>
    rw [listed] at given
    exact rebuildSchedules_written given

theorem RebuiltBy.kept (rebuilt : RebuiltBy views configuration changed later) {index : Nat}
    (behind : (views.idSlots.listed configuration changed)[index]? = none) :
    later.schedules index = views.schedules index := by
  cases rebuilt with
  | programs => rw [rebuildPrograms_schedules]
  | schedules _ listed =>
    rw [listed] at behind
    rw [rebuildSchedules_kept behind,rebuildPrograms_schedules]

theorem RebuiltBy.given (rebuilt : RebuiltBy views configuration changed later) :
    views.idSlots.listed configuration changed <+: configuration.liveSchedules := by
  cases rebuilt with
  | programs _ listed =>
    rw [listed]
    exact List.nil_prefix
  | schedules _ listed =>
    rw [listed]
    exact listedBy_begins _ _

/-- A list that was cut short keeps every slot in use. -/
theorem RebuiltBy.keeps (rebuilt : RebuiltBy views configuration changed later)
    (short : (views.idSlots.listed configuration changed).length < configuration.liveSchedules.length) :
    views.scheduleIds.Keeps later.scheduleIds := by
  cases rebuilt with
  | programs =>
    rw [rebuildPrograms_scheduleIds]
    exact .refl _
  | schedules _ listed =>
    rw [listed] at short
    have keeps := rebuildSchedules_keeps short
    rwa [rebuildPrograms_scheduleIds] at keeps

end RebuiltBy

/-! ### What the scheduler finds -/

/-- The text at an address of the schedule ids. -/
def slotText (slots : Slots irrigationMaxSchedules IdText Unit) (address : TextAddress) : CString :=
  if inside : address < irrigationMaxSchedules then (slots.key ⟨address,inside⟩).toCString else .literal ""

/-- The id at an index: that of the schedule listed there, or what an entry from before points to. -/
def foundId (slots : Slots irrigationMaxSchedules IdText Unit) (listed : List IrrigationScheduleConfiguration)
    (old : Nat → SchedulerEntry) (index : Nat) : Option CString :=
  match listed[index]? with
  | some schedule => some schedule.key.toCString
  | none => (old index).id.map (slotText slots)

def IrrigationScheduleConfiguration.Timed (schedule : IrrigationScheduleConfiguration) : Prop :=
  schedule.weekdayMask ≠ 0 ∧ schedule.weekdayMask &&& ~~~(127 : UInt8) = 0 ∧ schedule.hour < 24 ∧ schedule.minute < 60

instance (schedule : IrrigationScheduleConfiguration) : Decidable schedule.Timed :=
  inferInstanceAs (Decidable (_ ∧ _ ∧ _ ∧ _))

def FoundValid (listed : List IrrigationScheduleConfiguration) (old : Nat → SchedulerEntry) (index : Nat) : Prop :=
  match listed[index]? with
  | some schedule => schedule.Timed
  | none => entryIsValid (old index) = true

instance (listed : List IrrigationScheduleConfiguration) (old : Nat → SchedulerEntry) (index : Nat) :
    Decidable (FoundValid listed old index) := by
  unfold FoundValid
  split <;> infer_instance

/-- The scheduler takes a list: each entry is valid and no id occurs twice. -/
def Takes (slots : Slots irrigationMaxSchedules IdText Unit) (listed : List IrrigationScheduleConfiguration)
    (old : Nat → SchedulerEntry) (count : Nat) : Prop :=
  (∀ index < count, FoundValid listed old index) ∧ ((List.range count).map (foundId slots listed old)).Nodup

instance (slots : Slots irrigationMaxSchedules IdText Unit) (listed : List IrrigationScheduleConfiguration)
    (old : Nat → SchedulerEntry) (count : Nat) : Decidable (Takes slots listed old count) :=
  inferInstanceAs (Decidable (_ ∧ _))

theorem runtimeSchedule_valid (slot : Fin irrigationMaxSchedules) (program : Fin irrigationMaxPrograms)
    (schedule : IrrigationScheduleConfiguration) :
    entryIsValid (runtimeSchedule slot program schedule) = true ↔ schedule.Timed := by
  change (true && schedule.weekdayMask != 0 && (schedule.weekdayMask &&& ~~~(127 : UInt8)) == 0 &&
    decide (schedule.hour < 24) && decide (schedule.minute < 60) && true) = true ↔ _
  simp only [IrrigationScheduleConfiguration.Timed,Bool.true_and,Bool.and_true,Bool.and_eq_true,bne_iff_ne,beq_iff_eq,
    decide_eq_true_eq,and_assoc]

theorem takes_iff {views : RuntimeViews} {listed : List IrrigationScheduleConfiguration} {old : Nat → SchedulerEntry}
    {count : Nat} (written : ∀ index schedule, index < count → listed[index]? = some schedule → ∃ slot program,
      views.schedules index = runtimeSchedule slot program schedule ∧ views.scheduleIds.key slot = schedule.key)
    (kept : ∀ index, index < count → listed[index]? = none → views.schedules index = old index) :
    entriesAreAccepted views.memory (views.entries count) = true ↔
      Takes views.scheduleIds.bare listed old count := by
  have valid (index : Nat) (inside : index < count) :
      entryIsValid (views.schedules index) = true ↔ FoundValid listed old index := by
    unfold FoundValid
    cases given : listed[index]? with
    | none => rw [kept index inside given]
    | some schedule =>
      obtain ⟨slot,program,entry,_⟩ := written index schedule inside given
      rw [entry]
      exact runtimeSchedule_valid slot program schedule
  have ids : (views.entries count).map (·.idText views.memory) =
      (List.range count).map (foundId views.scheduleIds.bare listed old) := by
    rw [RuntimeViews.entries,List.map_map]
    apply List.map_congr_left
    intro index member
    have inside := List.mem_range.mp member
    rw [Function.comp_apply,foundId]
    cases given : listed[index]? with
    | none =>
      rw [kept index inside given]
      rfl
    | some schedule =>
      obtain ⟨slot,program,entry,named⟩ := written index schedule inside given
      rw [entry]
      change some (views.memory.text slot) = some schedule.key.toCString
      rw [RuntimeViews.memory_text,named]
  rw [entriesAreAccepted_iff,ids,Takes,RuntimeViews.entries,List.forall_mem_map]
  simp only [List.mem_range]
  exact and_congr_left fun _ => forall₂_congr valid

/-- The scheduler accepts what the views rebuilt for a candidate hold. -/
def CandidateAccepted (manager : ConfigurationManager) (candidate : IrrigationConfiguration) : Prop :=
  entriesAreAccepted (candidateViews manager candidate).memory
    ((candidateViews manager candidate).entries candidate.scheduleCount.toNat) = true

/-- The scheduler accepts what the views rebuilt for a candidate and back hold. -/
def RestoredAccepted (manager : ConfigurationManager) (candidate : IrrigationConfiguration) : Prop :=
  entriesAreAccepted (restoredViews manager candidate).memory
    ((restoredViews manager candidate).entries manager.configuration.scheduleCount.toNat) = true

section Taken

variable (manager : ConfigurationManager) (candidate : IrrigationConfiguration)

/-- The candidate's schedules that find a slot. -/
def candidateListed : List IrrigationScheduleConfiguration :=
  manager.views.idSlots.listed candidate (programsChanged manager candidate)

/-- The slots once they are in theirs. -/
def candidateSlots : IdSlots := manager.views.idSlots.rebuilt candidate (programsChanged manager candidate)

/-- The live schedules that find a slot on the way back. -/
def restoredListed : List IrrigationScheduleConfiguration :=
  (candidateSlots manager candidate).listed manager.configuration (programsChanged manager candidate)

def restoredSlots : IdSlots :=
  (candidateSlots manager candidate).rebuilt manager.configuration (programsChanged manager candidate)

/-- The scheduler takes the candidate's listed schedules with the old entries behind them. -/
def CandidateTaken : Prop :=
  Takes (candidateSlots manager candidate).schedules (candidateListed manager candidate) manager.views.schedules
    candidate.scheduleCount.toNat

/-- The scheduler takes the live schedules listed on the way back, with what else the candidate had
listed and the old entries behind them. -/
def LiveTaken : Prop :=
  Takes (restoredSlots manager candidate).schedules
    (restoredListed manager candidate ++ (candidateListed manager candidate).drop (restoredListed manager candidate).length)
    manager.views.schedules manager.configuration.scheduleCount.toNat

instance : Decidable (CandidateTaken manager candidate) := inferInstanceAs (Decidable (Takes _ _ _ _))

instance : Decidable (LiveTaken manager candidate) := inferInstanceAs (Decidable (Takes _ _ _ _))

theorem candidateViews_rebuiltBy : RebuiltBy manager.views candidate (programsChanged manager candidate)
    (candidateViews manager candidate) := rebuildRuntimeViews_rebuiltBy ..

theorem restoredViews_rebuiltBy : RebuiltBy (candidateViews manager candidate) manager.configuration
    (programsChanged manager candidate) (restoredViews manager candidate) := rebuildRuntimeViews_rebuiltBy ..

theorem candidateViews_idSlots : (candidateViews manager candidate).idSlots = candidateSlots manager candidate :=
  (candidateViews_rebuiltBy manager candidate).idSlots

theorem restoredViews_idSlots : (restoredViews manager candidate).idSlots = restoredSlots manager candidate := by
  rw [(restoredViews_rebuiltBy manager candidate).idSlots,candidateViews_idSlots,restoredSlots]

theorem candidateAccepted_iff : CandidateAccepted manager candidate ↔ CandidateTaken manager candidate := by
  have rebuilt := candidateViews_rebuiltBy manager candidate
  have slots : (candidateViews manager candidate).scheduleIds.bare = (candidateSlots manager candidate).schedules :=
    congrArg IdSlots.schedules (candidateViews_idSlots manager candidate)
  rw [CandidateTaken,← slots]
  refine takes_iff (fun index schedule _ given => ?_) fun index _ behind => rebuilt.kept behind
  obtain ⟨slot,program,entry,_,named,_⟩ := rebuilt.written given
  exact ⟨slot,program,entry,named⟩

theorem restoredAccepted_iff : RestoredAccepted manager candidate ↔ LiveTaken manager candidate := by
  have first := candidateViews_rebuiltBy manager candidate
  have second := restoredViews_rebuiltBy manager candidate
  have slots : (restoredViews manager candidate).scheduleIds.bare = (restoredSlots manager candidate).schedules :=
    congrArg IdSlots.schedules (restoredViews_idSlots manager candidate)
  have listed : (candidateViews manager candidate).idSlots.listed manager.configuration
      (programsChanged manager candidate) = restoredListed manager candidate := by
    rw [candidateViews_idSlots,restoredListed]
  rw [LiveTaken,← slots]
  refine takes_iff (fun index schedule inside given => ?_) fun index _ behind => ?_
  · by_cases reached : index < (restoredListed manager candidate).length
    · rw [List.getElem?_append_left reached,← listed] at given
      obtain ⟨slot,program,entry,_,named,_⟩ := second.written given
      exact ⟨slot,program,entry,named⟩
    · -- an entry of the candidate stands behind, in a slot that the shorter list left alone
      have beyond := Nat.not_lt.mp reached
      rw [List.getElem?_append_right beyond,List.getElem?_drop,Nat.add_sub_cancel' beyond] at given
      obtain ⟨slot,program,entry,used,named,_⟩ := first.written given
      have behind : (restoredListed manager candidate)[index]? = none := List.getElem?_eq_none beyond
      rw [← listed] at behind
      have short : (restoredListed manager candidate).length < manager.configuration.liveSchedules.length := by
        have bound := (List.getElem?_eq_some_iff.mp (List.prefix_iff_getElem?.mp first.given index
          (List.getElem?_eq_some_iff.mp given).1)).1
        rw [IrrigationConfiguration.liveSchedules,List.length_take,Vector.length_toList] at bound ⊢
        omega
      rw [← listed] at short
      refine ⟨slot,program,(second.kept behind).trans entry,?_⟩
      exact (second.keeps short slot used).2.trans named
  · rw [List.getElem?_eq_none_iff,List.length_append,List.length_drop] at behind
    have neither : (restoredListed manager candidate)[index]? = none := List.getElem?_eq_none (by omega)
    have nor : (candidateListed manager candidate)[index]? = none := List.getElem?_eq_none (by omega)
    rw [← listed] at neither
    rw [second.kept neither]
    exact first.kept nor

end Taken

end Irrigation
