import Irrigation.Library.Numbering
import Irrigation.LiveMutations
import Irrigation.Operations
import Irrigation.RestartedManagers

/-! The ids that the manager gives to new programs and schedules: a counter in the stored
configuration numbers them, and no id of a program or schedule that ever existed comes back. -/
namespace Irrigation

open Repository

/-! ### Numbered ids -/

def numberedId (stem : String) (number : Nat) : IdText := copyText (.numbered stem number)

theorem digit_byte {digit : Char} (isDigit : digit.isDigit = true) :
    digit.toNat.toUInt8 ≠ 0 ∧ Char.ofNat digit.toNat.toUInt8.toNat = digit := by
  have range : 48 ≤ digit.toNat ∧ digit.toNat ≤ 57 := by
    simpa [Char.isDigit,UInt32.le_iff_toNat_le] using isDigit
  have byte : digit.toNat.toUInt8.toNat = digit.toNat := by
    simp
    omega
  refine ⟨fun zero => ?_,by rw [byte,Char.ofNat_toNat]⟩
  rw [zero] at byte
  have none : (0 : UInt8).toNat = 0 := rfl
  omega

/-- A stem without NUL that leaves room for ten digits. -/
structure PlainStem (stem : String) : Prop where
  plain : stem.toList.all (fun letter => letter.toNat.toUInt8 ≠ 0) = true
  short : stem.toList.length ≤ 21

theorem numberedId_bytes {stem : String} (plain : PlainStem stem) {number : Nat} (small : number < 2 ^ 32) :
    (numberedId stem number).bytes = (stem.toList ++ Nat.toDigits 10 number).map fun letter => letter.toNat.toUInt8 := by
  have digits : (Nat.toDigits 10 number).length ≤ 10 :=
    (Nat.length_toDigits_le_iff (by decide) (by decide)).mpr (Nat.lt_trans small (by decide))
  have whole : (CString.numbered stem number).bytes =
      (stem.toList ++ Nat.toDigits 10 number).map fun letter => letter.toNat.toUInt8 := by
    apply List.takeWhile_eq_self_iff.mpr
    intro byte member
    obtain ⟨letter,inside,rfl⟩ := List.mem_map.mp member
    rcases List.mem_append.mp inside with stem | digit
    · exact List.all_eq_true.mp plain.plain letter stem
    · simpa using (digit_byte (Nat.isDigit_of_mem_toDigits (by decide) (by decide) digit)).1
  rw [numberedId,copyText_bytes,whole,List.take_of_length_le]
  have short := plain.short
  rw [List.length_map,List.length_append]
  change _ ≤ 31
  omega

/-- The decimal text of a number determines it. -/
theorem numberedId_injective {stem : String} (plain : PlainStem stem) :
    Set.InjOn (numberedId stem) {number | number < 2 ^ 32} := by
  intro first firstSmall second secondSmall same
  have bytes : (numberedId stem first).bytes = (numberedId stem second).bytes := by rw [same]
  rw [numberedId_bytes plain firstSmall,numberedId_bytes plain secondSmall,List.map_append,List.map_append] at bytes
  have digits := congrArg (List.map fun byte : UInt8 => Char.ofNat byte.toNat) (List.append_cancel_left bytes)
  have readBack (number : Nat) : ((Nat.toDigits 10 number).map fun letter => letter.toNat.toUInt8).map
      (fun byte => Char.ofNat byte.toNat) = Nat.toDigits 10 number := by
    rw [List.map_map]
    conv_rhs => rw [← List.map_id (Nat.toDigits 10 number)]
    apply List.map_congr_left
    intro digit member
    exact (digit_byte (Nat.isDigit_of_mem_toDigits (by decide) (by decide) member)).2
  rw [readBack,readBack] at digits
  calc first = Nat.ofDigitChars 10 (Nat.toDigits 10 first) 0 := Nat.ofDigitChars_ten_toDigits.symm
    _ = Nat.ofDigitChars 10 (Nat.toDigits 10 second) 0 := by rw [digits]
    _ = second := Nat.ofDigitChars_ten_toDigits

theorem numberedId_apart {stem : String} (plain : PlainStem stem) {first : IdText}
    (head : first.bytes.head? ≠ (stem.toList.map fun letter => letter.toNat.toUInt8).head?)
    (letters : stem.toList ≠ []) {number : Nat} (small : number < 2 ^ 32) : numberedId stem number ∉ ({first} : Set IdText) := by
  intro same
  have equal : numberedId stem number = first := same
  apply head
  rw [← equal,numberedId_bytes plain small,List.map_append,List.head?_append_of_ne_nil _ (by simpa using letters)]

/-! ### Programs and schedules -/

/-- The programs or the schedules of a configuration, as their ids and counter show them. -/
structure IdSpace where
  stem : String
  default : IdText
  ids : LiveConfiguration → List IdText
  next : LiveConfiguration → UInt32

def programSpace : IdSpace where
  stem := "program-"
  default := (defaultProgram []).programId
  ids := fun live => live.programs.map (·.programId)
  next := (·.nextProgramId)

def scheduleSpace : IdSpace where
  stem := "schedule-"
  default := defaultSchedule.scheduleId
  ids := fun live => live.schedules.map (·.scheduleId)
  next := (·.nextScheduleId)

theorem programSpace_ids (configuration : IrrigationConfiguration) :
    programSpace.ids configuration.live = configuration.livePrograms.map (·.programId) := by
  change configuration.live.programs.map (·.programId) = _
  exact List.map_map ..

theorem scheduleSpace_ids (configuration : IrrigationConfiguration) :
    scheduleSpace.ids configuration.live = configuration.liveSchedules.map (·.scheduleId) := rfl

abbrev IdSpace.Distinct (space : IdSpace) : Prop :=
  Numbering.Distinct {space.default} (numberedId space.stem) (2 ^ 32)

theorem programSpace_distinct : programSpace.Distinct where
  apart := fun _ small => numberedId_apart ⟨by decide,by decide⟩ (by decide) (by decide) small
  injective := numberedId_injective ⟨by decide,by decide⟩

theorem scheduleSpace_distinct : scheduleSpace.Distinct where
  apart := fun _ small => numberedId_apart ⟨by decide,by decide⟩ (by decide) (by decide) small
  injective := numberedId_injective ⟨by decide,by decide⟩

/-! ### One call -/

def Mutation.creates : Mutation → Bool
  | .createProgram _ _ | .createSchedule _ _ _ _ => true
  | _ => false

/-- A call that keeps the ids, takes one away, or gives one more. -/
structure IdSpace.Steps (space : IdSpace) (creates : Bool) (live next : LiveConfiguration) : Prop where
  allots : Numbering.Allots (numberedId space.stem) (space.ids live) (space.next live).toNat (space.ids next)
    (space.next next).toNat
  counted : (space.next next).toNat ≤ (space.next live).toNat + creates.toNat

/-- What becomes of the programs and of the schedules. -/
def Stepping (creates : Bool) (live next : LiveConfiguration) : Prop :=
  programSpace.Steps creates live next ∧ scheduleSpace.Steps creates live next

section Calls

variable {live next : LiveConfiguration} {mutation : Mutation} {revived : Bool}

theorem IdSpace.Steps.of_kept {space : IdSpace} {creates : Bool} (among : space.ids next ⊆ space.ids live)
    (counter : space.next next = space.next live) : space.Steps creates live next where
  allots := by
    rw [counter]
    exact .kept among
  counted := by
    rw [counter]
    exact Nat.le_add_right _ _

theorem toNat_next_id {counter : UInt32} (room : counter.toNat + 1 < 2 ^ 32) : (counter + 1).toNat = counter.toNat + 1 := by
  rw [UInt32.toNat_add]
  have one : (1 : UInt32).toNat = 1 := rfl
  omega

theorem IdSpace.Steps.of_given {space : IdSpace} {creates : Bool} (created : creates = true)
    (room : (space.next live).toNat + 1 < 2 ^ 32)
    (ids : space.ids next = space.ids live ++ [numberedId space.stem (space.next live).toNat])
    (counter : space.next next = space.next live + 1) : space.Steps creates live next where
  allots := by
    rw [ids,counter,toNat_next_id room]
    exact .given
  counted := by
    rw [counter,toNat_next_id room,created]
    rfl

theorem modify_ids {α : Type} (key : α → IdText) (entries : List α) (index : Nat) (change : α → α)
    (kept : ∀ entry, key (change entry) = key entry) : (entries.modify index change).map key ⊆ entries.map key := by
  rw [map_modify key change id kept entries index,List.modify_id]
  exact List.Subset.refl _

theorem eraseIdx_ids {α : Type} (key : α → IdText) (entries : List α) (index : Nat) :
    (entries.eraseIdx index).map key ⊆ entries.map key :=
  List.map_subset key List.eraseIdx_subset

theorem steps_kept {creates : Bool} (programs : next.programs = live.programs) (schedules : next.schedules = live.schedules)
    (nextProgramId : next.nextProgramId = live.nextProgramId) (nextScheduleId : next.nextScheduleId = live.nextScheduleId) :
    Stepping creates live next := by
  constructor
  · refine .of_kept ?_ nextProgramId
    simp only [programSpace,programs]
    exact List.Subset.refl _
  · refine .of_kept ?_ nextScheduleId
    simp only [scheduleSpace,schedules]
    exact List.Subset.refl _

theorem renameZone_steps {zoneId displayName : Option CString} (prepared : live.renameZone zoneId displayName = .ok next) :
    Stepping mutation.creates live next := by
  unfold LiveConfiguration.renameZone at prepared
  split at prepared
  · split at prepared <;> cases prepared
    exact steps_kept rfl rfl rfl rfl
  · contradiction

theorem createProgram_live {displayName : Option CString} {steps : Option (List IrrigationProgramStepConfiguration)}
    (prepared : live.saveProgram none displayName steps = .ok next) : ∃ name liveSteps, next = { live with
      programs := live.programs ++ [⟨numberedId programSpace.stem live.nextProgramId.toNat,name,liveSteps⟩]
      nextProgramId := live.nextProgramId + 1 } := by
  unfold LiveConfiguration.saveProgram at prepared
  split at prepared
  · split at prepared
    · contradiction
    · dsimp only at prepared
      split at prepared <;> cases prepared
      exact ⟨_,_,rfl⟩
  · contradiction

theorem createProgram_steps {displayName : Option CString} {steps : Option (List IrrigationProgramStepConfiguration)}
    (room : live.nextProgramId.toNat + 1 < 2 ^ 32) (creates : mutation.creates = true)
    (prepared : live.saveProgram none displayName steps = .ok next) : Stepping mutation.creates live next := by
  obtain ⟨_,_,rfl⟩ := createProgram_live prepared
  exact ⟨.of_given creates room List.map_append rfl,.of_kept (List.Subset.refl _) rfl⟩

theorem updateProgram_steps {programIndex : Nat} {displayName : Option CString}
    {steps : Option (List IrrigationProgramStepConfiguration)}
    (prepared : live.saveProgram (some programIndex) displayName steps = .ok next) :
    Stepping mutation.creates live next := by
  unfold LiveConfiguration.saveProgram at prepared
  split at prepared
  · split at prepared
    · contradiction
    · dsimp only at prepared
      split at prepared <;> cases prepared
      exact ⟨.of_kept (modify_ids _ live.programs programIndex _ fun _ => rfl) rfl,.of_kept (List.Subset.refl _) rfl⟩
  · contradiction

theorem deleteProgram_steps {programIndex : Nat} (prepared : live.deleteProgram programIndex = .ok next) :
    Stepping mutation.creates live next := by
  unfold LiveConfiguration.deleteProgram at prepared
  split at prepared
  · contradiction
  · split at prepared <;> cases prepared
    exact ⟨.of_kept (eraseIdx_ids _ live.programs programIndex) rfl,.of_kept (List.Subset.refl _) rfl⟩

theorem createSchedule_live {weekdayMask hour minute : UInt8} {programId : Option CString}
    (prepared : live.saveSchedule revived none weekdayMask hour minute programId = .ok next) :
    ∃ schedule, schedule.scheduleId = numberedId scheduleSpace.stem live.nextScheduleId.toNat ∧ next = { live with
      schedules := live.schedules ++ [schedule]
      nextScheduleId := live.nextScheduleId + 1 } := by
  unfold LiveConfiguration.saveSchedule at prepared
  split at prepared
  · contradiction
  · dsimp only at prepared
    split at prepared <;> cases prepared
    exact ⟨_,rfl,rfl⟩

theorem createSchedule_steps {weekdayMask hour minute : UInt8} {programId : Option CString}
    (room : live.nextScheduleId.toNat + 1 < 2 ^ 32) (creates : mutation.creates = true)
    (prepared : live.saveSchedule revived none weekdayMask hour minute programId = .ok next) :
    Stepping mutation.creates live next := by
  obtain ⟨schedule,numbered,rfl⟩ := createSchedule_live prepared
  refine ⟨.of_kept (List.Subset.refl _) rfl,.of_given creates room ?_ rfl⟩
  change _ = _ ++ [numberedId scheduleSpace.stem live.nextScheduleId.toNat]
  rw [← numbered]
  exact List.map_append

theorem updateSchedule_steps {scheduleIndex : Nat} {weekdayMask hour minute : UInt8} {programId : Option CString}
    (prepared : live.saveSchedule revived (some scheduleIndex) weekdayMask hour minute programId = .ok next) :
    Stepping mutation.creates live next := by
  unfold LiveConfiguration.saveSchedule at prepared
  split at prepared
  · contradiction
  · dsimp only at prepared
    split at prepared <;> cases prepared
    exact ⟨.of_kept (List.Subset.refl _) rfl,.of_kept (modify_ids _ live.schedules scheduleIndex _ fun _ => rfl) rfl⟩

theorem deleteSchedule_steps {scheduleIndex : Nat} (prepared : live.deleteSchedule scheduleIndex = .ok next) :
    Stepping mutation.creates live next := by
  unfold LiveConfiguration.deleteSchedule at prepared
  split at prepared <;> cases prepared
  exact ⟨.of_kept (List.Subset.refl _) rfl,.of_kept (eraseIdx_ids _ live.schedules scheduleIndex) rfl⟩

theorem setScheduleEnabled_steps {scheduleIndex : Nat} {enabled : Bool}
    (prepared : live.setScheduleEnabled scheduleIndex enabled = .ok next) :
    Stepping mutation.creates live next := by
  unfold LiveConfiguration.setScheduleEnabled at prepared
  split at prepared <;> cases prepared
  exact ⟨.of_kept (List.Subset.refl _) rfl,.of_kept (modify_ids _ live.schedules scheduleIndex _ fun _ => rfl) rfl⟩

theorem prepareLive_steps (incremental : ∀ candidate, mutation ≠ .replace (some candidate))
    (programRoom : live.nextProgramId.toNat + 1 < 2 ^ 32) (scheduleRoom : live.nextScheduleId.toNat + 1 < 2 ^ 32)
    (prepared : mutation.prepareLive live revived = .ok next) :
    Stepping mutation.creates live next := by
  cases mutation with
  | renameZone => exact renameZone_steps prepared
  | createProgram => exact createProgram_steps programRoom rfl prepared
  | updateProgram => exact updateProgram_steps prepared
  | deleteProgram => exact deleteProgram_steps prepared
  | createSchedule weekdayMask hour minute programId =>
    have prepared : live.saveSchedule revived none weekdayMask hour minute programId = .ok next := prepared
    exact createSchedule_steps scheduleRoom rfl prepared
  | updateSchedule scheduleIndex weekdayMask hour minute programId =>
    have prepared : live.saveSchedule revived (some scheduleIndex) weekdayMask hour minute programId = .ok next := prepared
    exact updateSchedule_steps prepared
  | deleteSchedule => exact deleteSchedule_steps prepared
  | setScheduleEnabled => exact setScheduleEnabled_steps prepared
  | replace candidate =>
    cases candidate with
    | none => contradiction
    | some candidate => exact absurd rfl (incremental candidate)

end Calls

/-! ### Runs of calls and restarts -/

/-- A call, a reboot, or the scheduler and the services at work between them. -/
inductive ManagerAction (ε : Type) where
  | mutate (mutation : Mutation)
  | restart (persistenceRequired scheduler : Bool) (world : World ε)
  | elapse (world : World ε)

section Actions

variable {ε σ : Type} (device : ConfigurationRepositoryStorage σ) (boardZones : List Zone)

def act (action : ManagerAction ε) (system : ManagedSystem ε σ) : ManagedSystem ε σ :=
  match action with
  | .mutate mutation => mutated device mutation system
  | .restart persistenceRequired scheduler world => restart device boardZones persistenceRequired scheduler world system
  | .elapse world => { system with world := world }

/-- Whether an action is a creation that goes through. -/
def ManagerAction.creates (action : ManagerAction ε) (system : ManagedSystem ε σ) : Bool :=
  match action with
  | .mutate mutation => mutation.creates && (Irrigation.mutate device mutation system).1 == .ok
  | .restart _ _ _ | .elapse _ => false

/-- The creations of a run. -/
def creations : List (ManagerAction ε) → ManagedSystem ε σ → Nat
  | [],_ => 0
  | action :: rest,system => (action.creates device system).toNat + creations rest (act device boardZones action system)

/-- A whole configuration from outside is only offered where it fails validation. -/
def Permitted (action : ManagerAction ε) (system : ManagedSystem ε σ) : Prop :=
  ∀ candidate, action = .mutate (.replace (some candidate)) →
    irrigationConfigurationValidate candidate system.manager.boardZones ≠ .ok

variable {device boardZones} {contents : σ → SlotContents} {system : ManagedSystem ε σ}

theorem act_stepping (reliable : Reliable device contents) (bootable : Bootable boardZones)
    (durable : Durable contents boardZones system) {action : ManagerAction ε} (permitted : Permitted action system)
    (programRoom : system.manager.configuration.nextProgramId.toNat + 1 < 2 ^ 32)
    (scheduleRoom : system.manager.configuration.nextScheduleId.toNat + 1 < 2 ^ 32) :
    Durable contents boardZones (act device boardZones action system) ∧
      Stepping (action.creates device system) system.manager.configuration.live
        (act device boardZones action system).manager.configuration.live := by
  cases action with
  | elapse world =>
    exact ⟨⟨durable.repository,durable.board,durable.valid,durable.intact,durable.stored⟩,steps_kept rfl rfl rfl rfl⟩
  | restart persistenceRequired scheduler world =>
    obtain ⟨durable,same⟩ := restart_durable reliable bootable durable persistenceRequired scheduler world
    refine ⟨durable,?_⟩
    simp only [act,same]
    exact steps_kept rfl rfl rfl rfl
  | mutate mutation =>
    obtain ⟨next,refused | ⟨accepted,prepared⟩⟩ := mutate_durable reliable durable mutation
    · refine ⟨next,?_⟩
      simp only [act,refused.2]
      exact steps_kept rfl rfl rfl rfl
    · refine ⟨next,?_⟩
      have counts : (ManagerAction.mutate mutation).creates device system = mutation.creates := by
        simp [ManagerAction.creates,accepted]
      rw [counts]
      have capacity := ((validate_ok_iff _ _).mp durable.valid).1
      have live := prepare_live capacity mutation
      rw [prepared] at live
      have incremental : ∀ candidate, mutation ≠ .replace (some candidate) := by
        rintro candidate rfl
        have invalid := permitted candidate rfl
        rw [durable.board] at invalid
        have same : candidate = (mutated device (.replace (some candidate)) system).manager.configuration :=
          Except.ok.inj prepared
        rw [same] at invalid
        exact invalid next.valid
      exact prepareLive_steps incremental programRoom scheduleRoom live.symm

/-- The counters stay behind the number of creations, so every step numbers afresh. -/
theorem actions_stepping (reliable : Reliable device contents) (bootable : Bootable boardZones)
    (actions : List (ManagerAction ε)) {count : Nat} (durable : Durable contents boardZones system)
    (permitted : Runs.Along (act device boardZones) Permitted actions system)
    (programs : system.manager.configuration.nextProgramId.toNat ≤ count + 1)
    (schedules : system.manager.configuration.nextScheduleId.toNat ≤ count + 1)
    (few : count + creations device boardZones actions system + 2 < 2 ^ 32) :
    Durable contents boardZones (Runs.after (act device boardZones) actions system) ∧
      (Runs.after (act device boardZones) actions system).manager.configuration.nextProgramId.toNat ≤
        count + creations device boardZones actions system + 1 ∧
      (Runs.after (act device boardZones) actions system).manager.configuration.nextScheduleId.toNat ≤
        count + creations device boardZones actions system + 1 ∧
      Runs.Along (act device boardZones) (fun action system => Stepping (action.creates device system)
        system.manager.configuration.live (act device boardZones action system).manager.configuration.live)
        actions system := by
  induction actions generalizing system count with
  | nil => exact ⟨durable,programs,schedules,trivial⟩
  | cons action rest ih =>
    rw [creations] at few ⊢
    obtain ⟨next,stepping⟩ := act_stepping reliable bootable durable permitted.1 (by omega) (by omega)
    have programCount : (act device boardZones action system).manager.configuration.nextProgramId.toNat ≤
        system.manager.configuration.nextProgramId.toNat + (action.creates device system).toNat := stepping.1.counted
    have scheduleCount : (act device boardZones action system).manager.configuration.nextScheduleId.toNat ≤
        system.manager.configuration.nextScheduleId.toNat + (action.creates device system).toNat := stepping.2.counted
    have fewer : count + (action.creates device system).toNat + creations device boardZones rest (act device boardZones action system) + 2 < 2 ^ 32 := by omega
    obtain ⟨final,programsAfter,schedulesAfter,along⟩ := ih next permitted.2 (by omega) (by omega) fewer
    rw [← Nat.add_assoc]
    exact ⟨final,programsAfter,schedulesAfter,stepping,along⟩

/-- No entry of a run has the id that the counter gives after it. -/
theorem IdSpace.fresh (space : IdSpace) (distinct : space.Distinct) {actions : List (ManagerAction ε)}
    (along : Runs.Along (act device boardZones) (fun action system => space.Steps (action.creates device system)
      system.manager.configuration.live (act device boardZones action system).manager.configuration.live) actions system)
    (first : space.ids system.manager.configuration.live = [space.default]) :
    Runs.Throughout (act device boardZones) (fun earlier => numberedId space.stem
      (space.next (Runs.after (act device boardZones) actions system).manager.configuration.live).toNat ∉
        space.ids earlier.manager.configuration.live) actions system := by
  have allots := along.imp fun action system (steps : space.Steps _ _ _) => steps.allots
  have known : ∀ id ∈ space.ids system.manager.configuration.live, id ∈ Numbering.Given {space.default}
      (numberedId space.stem) (space.next system.manager.configuration.live).toNat := by
    intro id member
    rw [first] at member
    exact .inl (List.mem_singleton.mp member)
  have given := (Numbering.ever_given (fun system : ManagedSystem ε σ => space.ids system.manager.configuration.live)
    (fun system => (space.next system.manager.configuration.live).toNat) allots known).2
  intro done todo split reused
  exact distinct.fresh (UInt32.toNat_lt _) (given done todo split _ reused)

theorem saveProgram_created {configuration candidate : IrrigationConfiguration} {displayName : Option CString}
    {steps : Option (List IrrigationProgramStepConfiguration)} (capacity : configuration.WithinCapacity)
    (prepared : saveProgram configuration none displayName steps = .ok candidate) :
    candidate.livePrograms.map (·.programId) = configuration.livePrograms.map (·.programId) ++
      [numberedId programSpace.stem configuration.nextProgramId.toNat] := by
  have live := saveProgram_live capacity none displayName steps
  rw [prepared] at live
  obtain ⟨name,liveSteps,created⟩ := createProgram_live live.symm
  have made : candidate.live = _ := created
  rw [← programSpace_ids,← programSpace_ids,made]
  exact List.map_append

theorem saveSchedule_created {configuration candidate : IrrigationConfiguration} {weekdayMask hour minute : UInt8}
    {programId : Option CString} (capacity : configuration.WithinCapacity)
    (prepared : saveSchedule configuration none weekdayMask hour minute programId = .ok candidate) :
    candidate.liveSchedules.map (·.scheduleId) = configuration.liveSchedules.map (·.scheduleId) ++
      [numberedId scheduleSpace.stem configuration.nextScheduleId.toNat] := by
  have live := saveSchedule_live capacity none weekdayMask hour minute programId
  rw [prepared] at live
  obtain ⟨schedule,numbered,created⟩ := createSchedule_live live.symm
  have made : candidate.live = _ := created
  have named : schedule.scheduleId = numberedId scheduleSpace.stem configuration.nextScheduleId.toNat := numbered
  rw [← scheduleSpace_ids,← scheduleSpace_ids,made,← named]
  exact List.map_append

/-- What a successful create reports and installs. -/
theorem createdIndex_ok {index : Nat} {next : ManagedSystem ε σ} {count : UInt8} {mutation : Mutation}
    (created : createdIndex count (mutate device mutation system) = (.ok,some index,next)) :
    (mutate device mutation system).1 = .ok ∧ index = count.toNat ∧ next = mutated device mutation system := by
  have ok : (mutate device mutation system).1 = .ok := congrArg Prod.fst created
  have position := congrArg (fun outcome => outcome.2.1) created
  have installed := congrArg (fun outcome => outcome.2.2) created
  simp only [createdIndex,ok,if_true,Option.some.injEq] at position installed
  exact ⟨ok,position.symm,installed.symm⟩

theorem getElem_last {α : Type} {key : α → IdText} {entries : List α} {old : List IdText} {new : IdText} {index : Nat}
    (ids : entries.map key = old ++ [new]) (size : old.length = index) :
    ∃ entry, entries[index]? = some entry ∧ key entry = new := by
  have last : (entries.map key)[index]? = some new := by
    rw [ids,← size]
    exact List.getElem?_concat_length
  rw [List.getElem?_map] at last
  exact Option.map_eq_some_iff.mp last

theorem createProgram_ok (reliable : Reliable device contents) (durable : Durable contents boardZones system)
    {displayName : Option CString} {steps : Option (List IrrigationProgramStepConfiguration)} {index : Nat}
    {next : ManagedSystem ε σ}
    (created : configurationManagerCreateProgram device displayName steps system = (.ok,some index,next)) :
    ∃ program, next.manager.configuration.livePrograms[index]? = some program ∧
      program.programId = numberedId programSpace.stem system.manager.configuration.nextProgramId.toNat := by
  have capacity := ((validate_ok_iff _ _).mp durable.valid).1
  have call : configurationManagerCreateProgram device displayName steps system = createdIndex
      system.manager.configuration.programCount (mutate device (.createProgram displayName steps) system) := by
    rw [mutate_eq]
    rfl
  rw [call] at created
  obtain ⟨ok,rfl,rfl⟩ := createdIndex_ok created
  obtain ⟨_,refused | ⟨_,prepared⟩⟩ := mutate_durable reliable durable (.createProgram displayName steps)
  · exact absurd ok refused.1
  · refine getElem_last (saveProgram_created capacity prepared) ?_
    rw [List.length_map,capacity.livePrograms_length]

theorem createSchedule_ok (reliable : Reliable device contents) (durable : Durable contents boardZones system)
    {weekdayMask hour minute : UInt8} {programId : Option CString} {index : Nat} {next : ManagedSystem ε σ}
    (created : configurationManagerCreateSchedule device weekdayMask hour minute programId system =
      (.ok,some index,next)) :
    ∃ schedule, next.manager.configuration.liveSchedules[index]? = some schedule ∧
      schedule.scheduleId = numberedId scheduleSpace.stem system.manager.configuration.nextScheduleId.toNat := by
  have capacity := ((validate_ok_iff _ _).mp durable.valid).1
  have call : configurationManagerCreateSchedule device weekdayMask hour minute programId system = createdIndex
      system.manager.configuration.scheduleCount
      (mutate device (.createSchedule weekdayMask hour minute programId) system) := by
    rw [mutate_eq]
    rfl
  rw [call] at created
  obtain ⟨ok,rfl,rfl⟩ := createdIndex_ok created
  obtain ⟨_,refused | ⟨_,prepared⟩⟩ := mutate_durable reliable durable
    (.createSchedule weekdayMask hour minute programId)
  · exact absurd ok refused.1
  · refine getElem_last (saveSchedule_created capacity prepared) ?_
    rw [List.length_map,capacity.liveSchedules_length]

variable (device boardZones)

/-- The ids of the programs that were in the configuration at some point of a run. -/
def everProgramIds (actions : List (ManagerAction ε)) (system : ManagedSystem ε σ) : Set IdText :=
  {id | ∃ done todo, actions = done ++ todo ∧
    id ∈ (Runs.after (act device boardZones) done system).manager.configuration.livePrograms.map (·.programId)}

def everScheduleIds (actions : List (ManagerAction ε)) (system : ManagedSystem ε σ) : Set IdText :=
  {id | ∃ done todo, actions = done ++ todo ∧
    id ∈ (Runs.after (act device boardZones) done system).manager.configuration.liveSchedules.map (·.scheduleId)}

/-- A program (schedule) created after a run has an id that none ever had, and the ids of
its candidate do not clash. -/
structure CreatesFresh (actions : List (ManagerAction ε)) (system final : ManagedSystem ε σ) : Prop where
  program : ∀ displayName steps index next,
    configurationManagerCreateProgram device displayName steps final = (.ok,some index,next) →
      ∃ program, next.manager.configuration.livePrograms[index]? = some program ∧
        program.programId ∉ everProgramIds device boardZones actions system
  programClash : ∀ displayName steps candidate,
    saveProgram final.manager.configuration none displayName steps = .ok candidate →
      (candidate.livePrograms.map (·.programId)).Nodup
  schedule : ∀ weekdayMask hour minute programId index next,
    configurationManagerCreateSchedule device weekdayMask hour minute programId final = (.ok,some index,next) →
      ∃ schedule, next.manager.configuration.liveSchedules[index]? = some schedule ∧
        schedule.scheduleId ∉ everScheduleIds device boardZones actions system
  scheduleClash : ∀ weekdayMask hour minute programId candidate,
    saveSchedule final.manager.configuration none weekdayMask hour minute programId = .ok candidate →
      (candidate.liveSchedules.map (·.scheduleId)).Nodup

variable {device boardZones}

/-- Ids are never reused, from the first boot on an empty store through any calls and
restarts with fewer than 2 ^ 32 - 1 creations, the next one included. -/
theorem created_ids_fresh (reliable : Reliable device contents) (bootable : Bootable boardZones)
    {unbooted : ManagedSystem ε σ} (empty : ∀ key, contents unbooted.storage key = none)
    (persistenceRequired scheduler : Bool) (world : World ε) (actions : List (ManagerAction ε)) :
    let booted := restart device boardZones persistenceRequired scheduler world unbooted
    Runs.Along (act device boardZones) Permitted actions booted → creations device boardZones actions booted + 1 < 2 ^ 32 - 1 →
      CreatesFresh device boardZones actions booted (Runs.after (act device boardZones) actions booted) := by
  intro booted permitted few
  obtain ⟨durable,defaults⟩ := restart_empty reliable bootable empty persistenceRequired scheduler world
  have programs : booted.manager.configuration.nextProgramId.toNat ≤ 0 + 1 := by rw [defaults]; exact Nat.le_refl 1
  have schedules : booted.manager.configuration.nextScheduleId.toNat ≤ 0 + 1 := by rw [defaults]; exact Nat.le_refl 1
  have room : 0 + creations device boardZones actions booted + 2 < 2 ^ 32 := by omega
  obtain ⟨final,_,_,along⟩ := actions_stepping reliable bootable actions durable permitted programs schedules room
  have capacity := ((validate_ok_iff _ _).mp final.valid).1
  have live := ((validate_ok_iff _ _).mp final.valid).2
  have noProgram := programSpace.fresh programSpace_distinct (along.imp fun _ _ => And.left)
    (by rw [defaults,programSpace_ids,devKitDefaults_livePrograms]; rfl)
  have noSchedule := scheduleSpace.fresh scheduleSpace_distinct (along.imp fun _ _ => And.right)
    (by rw [defaults,scheduleSpace_ids,devKitDefaults_liveSchedules]; rfl)
  have whole : actions = actions ++ [] := (List.append_nil actions).symm
  constructor
  · intro displayName steps index next created
    obtain ⟨program,found,numbered⟩ := createProgram_ok reliable final created
    refine ⟨program,found,?_⟩
    rintro ⟨done,todo,split,reused⟩
    rw [numbered,← programSpace_ids] at reused
    exact noProgram done todo split reused
  · intro displayName steps candidate prepared
    have unused := noProgram actions [] whole
    beta_reduce at unused
    rw [programSpace_ids] at unused
    rw [saveProgram_created capacity prepared]
    refine List.nodup_append_comm.mp (List.nodup_cons.mpr ⟨unused,?_⟩)
    rw [← programSpace_ids]
    exact live.programsDistinct
  · intro weekdayMask hour minute programId index next created
    obtain ⟨schedule,found,numbered⟩ := createSchedule_ok reliable final created
    refine ⟨schedule,found,?_⟩
    rintro ⟨done,todo,split,reused⟩
    rw [numbered,← scheduleSpace_ids] at reused
    exact noSchedule done todo split reused
  · intro weekdayMask hour minute programId candidate prepared
    have unused := noSchedule actions [] whole
    beta_reduce at unused
    rw [scheduleSpace_ids] at unused
    rw [saveSchedule_created capacity prepared]
    exact List.nodup_append_comm.mp (List.nodup_cons.mpr ⟨unused,live.schedulesDistinct⟩)

theorem creations_le_length (actions : List (ManagerAction ε)) (system : ManagedSystem ε σ) :
    creations device boardZones actions system ≤ actions.length := by
  induction actions generalizing system with
  | nil => exact Nat.le_refl 0
  | cons action rest ih =>
    have further := ih (act device boardZones action system)
    have one := Bool.toNat_le (action.creates device system)
    rw [creations,List.length_cons]
    omega

end Actions

theorem devZones_bootable : Bootable devZones := by
  intro manager
  have board : ¬(devZones.length < 2 ∨ devZones.length > irrigationMaxZones) := by decide
  simp only [configurationManagerInitDevKitDefaults,if_neg board,devKitDefaults_valid devZones_usable]

/-- A program is created and deleted, and the controller restarts. -/
def devActions : List (ManagerAction UInt64) := [
  .mutate (.createProgram (some (.literal "lawn")) (some [])),
  .mutate (.deleteProgram 1),
  .elapse (devWorld devProgram),
  .restart true true (devWorld devProgram)]

theorem created_ids_fresh_restarted :
    let booted := restart memoryStorage devZones true true (devWorld devProgram)
      ⟨zeroManager,devWorld devProgram,fun _ => none⟩
    CreatesFresh memoryStorage devZones devActions booted
      (Runs.after (act memoryStorage devZones) devActions booted) := by
  refine created_ids_fresh memoryStorage_reliable devZones_bootable (fun _ => rfl) true true (devWorld devProgram)
    devActions ?_ ?_
  · simp [devActions,Runs.Along,Permitted]
  · have short : creations memoryStorage devZones devActions (restart memoryStorage devZones true true
      (devWorld devProgram) ⟨zeroManager,devWorld devProgram,fun _ => none⟩) ≤ 4 := creations_le_length ..
    omega

end Irrigation
