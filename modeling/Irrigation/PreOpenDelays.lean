import Irrigation.MasterValveRetries

/-! The pre-open delay of the master valve, over runs with a clock that never goes back:
an output is commanded on only when the valve's last command was an open that was
confirmed at least the delay before. -/
namespace Irrigation

/-- A driver call with the times at which it was issued and answered. -/
structure RecordedCall where
  call : DriverCall
  issuedAtMs : UInt64
  answeredAtMs : UInt64

/-- The devices with a record of the calls to them. -/
structure RecordedDevices (ε : Type) where
  devices : ε
  record : List RecordedCall

section Timing

variable {ε : Type} (drivers : Drivers ε) (time : ε → UInt64)

/-- The drivers, recording when they are called and when they answer. -/
def recordingDrivers : Drivers (RecordedDevices ε) where
  perform := fun command timed =>
    let (result,devices) := drivers.perform command timed.devices
    (result,⟨devices,timed.record ++ [⟨⟨command,result⟩,time timed.devices,time devices⟩]⟩)
  nowMs := fun timed =>
    let (now,devices) := drivers.nowMs timed.devices
    (now,{ timed with devices })

/-- The clock does not go back, and a reading lies between its beginning and its end. -/
structure Nondecreasing : Prop where
  perform : ∀ command environment, time environment ≤ time (drivers.perform command environment).2
  before : ∀ environment, time environment ≤ (drivers.nowMs environment).1
  after : ∀ environment, (drivers.nowMs environment).1 ≤ time (drivers.nowMs environment).2

end Timing

def lastValveCall (record : List RecordedCall) : Option RecordedCall :=
  (record.filter (·.call.command.ofMasterValve)).getLast?

theorem lastValveCall_append_master (record : List RecordedCall) {timed : RecordedCall}
    (master : timed.call.command.ofMasterValve = true) : lastValveCall (record ++ [timed]) = some timed := by
  simp [lastValveCall,master]

theorem lastValveCall_append_output (record : List RecordedCall) {timed : RecordedCall}
    (output : timed.call.command.ofMasterValve = false) : lastValveCall (record ++ [timed]) = lastValveCall record := by
  simp [lastValveCall,output]

/-- The last command to the valve was an open, confirmed at this time at the latest. -/
def ConfirmedOpenBy (record : List RecordedCall) (timeMs : UInt64) : Prop :=
  ∃ opening, lastValveCall record = some opening ∧ opening.call = ⟨.openAndConfirm,.ok⟩ ∧ opening.answeredAtMs ≤ timeMs

/-- Before every on command the valve's last command was an open, confirmed the delay before. -/
def DelayHonoured (preOpenDelayMs : UInt32) (record : List RecordedCall) : Prop :=
  ∀ earlier timed later, record = earlier ++ timed :: later → (∃ index, timed.call.command = .setOutput index true) →
    ∃ opening, lastValveCall earlier = some opening ∧ opening.call = ⟨.openAndConfirm,.ok⟩ ∧
      opening.answeredAtMs.toNat + preOpenDelayMs.toNat ≤ timed.issuedAtMs.toNat

theorem DelayHonoured.extend {preOpenDelayMs : UInt32} {record : List RecordedCall} {timed : RecordedCall}
    (honoured : DelayHonoured preOpenDelayMs record) (fits : (∃ index, timed.call.command = .setOutput index true) →
      ∃ opening, lastValveCall record = some opening ∧ opening.call = ⟨.openAndConfirm,.ok⟩ ∧
        opening.answeredAtMs.toNat + preOpenDelayMs.toNat ≤ timed.issuedAtMs.toNat) :
    DelayHonoured preOpenDelayMs (record ++ [timed]) := by
  intro earlier other later split on
  rcases List.eq_nil_or_concat later with rfl | ⟨front,last,rfl⟩
  · obtain ⟨rfl,same⟩ := List.append_inj' split rfl
    cases List.cons.inj same with
    | intro head _ =>
      subst head
      exact fits on
  · have inside : record = earlier ++ other :: front := by
      have regrouped : record ++ [timed] = (earlier ++ other :: front) ++ [last] := by simpa using split
      exact (List.append_inj' regrouped rfl).1
    exact honoured earlier other front inside on

/-- What carries a run: an open valve's confirmation is the last call to it, and as old as
the delay. -/
structure Delayed {ε : Type} (time : ε → UInt64) (preOpenDelayMs : UInt32) (store : RuntimeState)
    (timed : RecordedDevices ε) : Prop where
  delay : store.masterValve.preOpenDelayMs = preOpenDelayMs
  confirmed : store.masterValve.state = .opening ∨ store.masterValve.state = .open →
    ConfirmedOpenBy timed.record store.masterValve.openingConfirmedAtMs ∧
      store.masterValve.openingConfirmedAtMs ≤ time timed.devices
  ripe : store.masterValve.state = .open →
    store.masterValve.openingConfirmedAtMs.toNat + preOpenDelayMs.toNat ≤ (time timed.devices).toNat
  honoured : DelayHonoured preOpenDelayMs timed.record

section Delays

variable {ε : Type} {drivers : Drivers ε} {time : ε → UInt64} {preOpenDelayMs : UInt32} {store next : RuntimeState}
  {timed after : RecordedDevices ε}

theorem Delayed.of_valve (delayed : Delayed time preOpenDelayMs store timed)
    (same : next.masterValve = store.masterValve) : Delayed time preOpenDelayMs next timed :=
  ⟨by rw [same]; exact delayed.delay,by rw [same]; exact delayed.confirmed,by rw [same]; exact delayed.ripe,
    delayed.honoured⟩

/-- Later, with the same calls recorded. -/
theorem Delayed.later (delayed : Delayed time preOpenDelayMs store timed) (record : after.record = timed.record)
    (later : time timed.devices ≤ time after.devices) : Delayed time preOpenDelayMs store after where
  delay := delayed.delay
  confirmed watched := by
    obtain ⟨confirmed,past⟩ := delayed.confirmed watched
    rw [record]
    exact ⟨confirmed,UInt64.le_trans past later⟩
  ripe opened := (delayed.ripe opened).trans (UInt64.le_iff_toNat_le.mp later)
  honoured := by
    rw [record]
    exact delayed.honoured

variable (clock : Nondecreasing drivers time)

include clock in
theorem Delayed.tick (delayed : Delayed time preOpenDelayMs store timed) :
    Delayed time preOpenDelayMs store ((recordingDrivers drivers time).nowMs timed).2 :=
  delayed.later rfl (UInt64.le_trans (clock.before timed.devices) (clock.after timed.devices))

include clock in
theorem Delayed.ticks (delayed : Delayed time preOpenDelayMs store timed)
    (ticks : Ticks (recordingDrivers drivers time) timed after) : Delayed time preOpenDelayMs store after :=
  ticks.keep (Delayed time preOpenDelayMs store) (fun _ delayed => delayed.tick clock) delayed

include clock in
/-- A command to an output; the valve is open for an on command. -/
theorem Delayed.output (delayed : Delayed time preOpenDelayMs store timed) {index : Fin irrigationMaxOutputs}
    {enabled : Bool} (opened : enabled = true → store.masterValve.state = .open) :
    Delayed time preOpenDelayMs store ((recordingDrivers drivers time).perform (.setOutput index enabled) timed).2 where
  delay := delayed.delay
  confirmed watched := by
    obtain ⟨⟨opening,last,confirmed⟩,past⟩ := delayed.confirmed watched
    exact ⟨⟨opening,(lastValveCall_append_output _ rfl).trans last,confirmed⟩,UInt64.le_trans past (clock.perform _ _)⟩
  ripe watched := (delayed.ripe watched).trans (UInt64.le_iff_toNat_le.mp (clock.perform _ _))
  honoured := by
    refine delayed.honoured.extend ?_
    rintro ⟨_,on⟩
    have masterOpen := opened (by cases on; rfl)
    obtain ⟨⟨opening,last,confirmed,early⟩,_⟩ := delayed.confirmed (.inr masterOpen)
    refine ⟨opening,last,confirmed,?_⟩
    exact (Nat.add_le_add_right (UInt64.le_iff_toNat_le.mp early) _).trans (delayed.ripe masterOpen)

include clock in
theorem Delayed.outputs {before : RecordedDevices ε} {issued : List DriverCall}
    (delayed : Delayed time preOpenDelayMs store before)
    (driven : Driven (recordingDrivers drivers time) before issued after)
    (opened : ∀ call ∈ issued, ∃ index enabled, call.command = .setOutput index enabled ∧
      (enabled = true → store.masterValve.state = .open)) : Delayed time preOpenDelayMs store after := by
  induction issued generalizing before with
  | nil => exact delayed.ticks clock driven
  | cons call rest ih =>
    obtain ⟨reached,waits,_,later⟩ := driven
    obtain ⟨index,enabled,command,masterOpen⟩ := opened call (by simp)
    rw [command] at later
    exact ih ((delayed.ticks clock waits).output clock masterOpen) later fun other member => opened other (by simp [member])

omit clock in
/-- A command to the valve that leaves it neither opening nor open in the store. -/
theorem Delayed.shut (drivers : Drivers ε) (next : RuntimeState) (delayed : Delayed time preOpenDelayMs store timed)
    {command : DriverCommand} (master : command.ofMasterValve = true) (delay : next.masterValve.preOpenDelayMs = store.masterValve.preOpenDelayMs)
    (shut : next.masterValve.state = .closed ∨ next.masterValve.state = .fault) :
    Delayed time preOpenDelayMs next ((recordingDrivers drivers time).perform command timed).2 where
  delay := delay.trans delayed.delay
  confirmed watched := by rcases shut with closed | broken <;> simp [*] at watched
  ripe opened := by rcases shut with closed | broken <;> simp [*] at opened
  honoured := by
    refine delayed.honoured.extend ?_
    rintro ⟨index,on⟩
    have output : command = .setOutput index true := on
    rw [output] at master
    contradiction

/-- Once the delay has passed since a time in the past, without wrapping around. -/
theorem elapsed_of_not_lt {sinceMs nowMs : UInt64} {delayMs : UInt32} (past : sinceMs ≤ nowMs)
    (elapsed : ¬nowMs - sinceMs < delayMs.toUInt64) : sinceMs.toNat + delayMs.toNat ≤ nowMs.toNat := by
  have difference : (nowMs - sinceMs).toNat = nowMs.toNat - sinceMs.toNat := UInt64.toNat_sub_of_le _ _ past
  rw [UInt64.lt_iff_toNat_lt,difference,UInt32.toNat_toUInt64] at elapsed
  have ordered := UInt64.le_iff_toNat_le.mp past
  omega

include clock in
/-- A confirmed open, at the time that is read after it. -/
theorem Delayed.opened {read : RecordedDevices ε} {now : UInt64} (delayed : Delayed time preOpenDelayMs store timed)
    (answered : (recordingDrivers drivers time).perform .openAndConfirm timed = (.ok,after))
    (reading : (recordingDrivers drivers time).nowMs after = (now,read)) :
    Delayed time preOpenDelayMs (masterOpening store now) read := by
  have result : (drivers.perform .openAndConfirm timed.devices).1 = .ok := congrArg Prod.fst answered
  have reached : after = ⟨(drivers.perform .openAndConfirm timed.devices).2,timed.record ++
      [⟨⟨.openAndConfirm,.ok⟩,time timed.devices,time (drivers.perform .openAndConfirm timed.devices).2⟩]⟩ := by
    rw [← result]
    exact (congrArg Prod.snd answered).symm
  have now_eq : (drivers.nowMs after.devices).1 = now := congrArg Prod.fst reading
  have read_eq : read = { after with devices := (drivers.nowMs after.devices).2 } := (congrArg Prod.snd reading).symm
  constructor
  case delay => exact delayed.delay
  case confirmed =>
    intro _
    rw [read_eq,reached]
    refine ⟨⟨_,lastValveCall_append_master _ rfl,rfl,?_⟩,?_⟩
    · rw [← now_eq,reached]
      exact clock.before _
    · rw [← now_eq,reached]
      exact clock.after _
  case ripe => exact nofun
  case honoured =>
    rw [read_eq,reached]
    exact delayed.honoured.extend nofun

include clock in
theorem Delayed.masterTimed {read : RecordedDevices ε} {now : UInt64} (delayed : Delayed time preOpenDelayMs store timed)
    (opening : store.masterValve.state = .opening)
    (reading : (recordingDrivers drivers time).nowMs timed = (now,read)) :
    Delayed time preOpenDelayMs (masterTimed store now) read := by
  have now_eq : (drivers.nowMs timed.devices).1 = now := congrArg Prod.fst reading
  have later : Delayed time preOpenDelayMs store read := by
    have ticked := delayed.tick clock
    rwa [reading] at ticked
  have read_eq : read.devices = (drivers.nowMs timed.devices).2 := congrArg (·.2.devices) reading.symm
  obtain ⟨confirmed,past⟩ := delayed.confirmed (.inl opening)
  unfold Irrigation.masterTimed
  split
  · rename_i ready
    have elapsed := elapsed_of_not_lt (UInt64.le_trans past (by rw [← now_eq]; exact clock.before _)) ready.2
    refine ⟨later.delay,fun _ => later.confirmed (.inl opening),fun _ => ?_,later.honoured⟩
    rw [read_eq,← delayed.delay]
    refine elapsed.trans (UInt64.le_iff_toNat_le.mp ?_)
    rw [← now_eq]
    exact clock.after _
  · exact later

theorem delayed_invariant (clock : Nondecreasing drivers time) :
    DeviceInvariant (recordingDrivers drivers time) fun store _ timed => Delayed time preOpenDelayMs store timed where
  zoneOpening delayed opening driven := by
    cases opening with
    | refused => exact (delayed.outputs clock driven (by simp)).of_valve rfl
    | opened named openable =>
      exact (delayed.outputs clock driven (by simp [openable.masterOpen])).of_valve rfl
    | failed named openable =>
      exact (delayed.outputs clock driven (by simp [openable.masterOpen])).of_valve rfl
  zoneClosing delayed closing driven := by
    cases closing with
    | refused => exact (delayed.outputs clock driven (by simp)).of_valve rfl
    | closed => exact (delayed.outputs clock driven (by simp)).of_valve (closedZone_masterValve _ _)
    | failed => exact (delayed.outputs clock driven (by simp)).of_valve rfl
  masterOpened delayed _ answered reading := delayed.opened clock answered reading
  masterUnopened {store _ before _ _} delayed _ answered _ := by
    have shut := Delayed.shut drivers (masterFaulted store) delayed (rfl : DriverCommand.openAndConfirm.ofMasterValve = true)
      rfl (.inr rfl)
    rw [answered] at shut
    exact shut
  masterTimed delayed opening reading := delayed.masterTimed clock opening reading
  masterClosing {store _ _ _ _ _ _} delayed closing driven := by
    cases closing with
    | refused => exact delayed.outputs clock driven (by simp)
    | closed =>
      obtain ⟨reached,waits,_,later⟩ := driven
      exact (Delayed.shut drivers (masterClosed store) (delayed.ticks clock waits) rfl rfl (.inl rfl)).ticks clock later
    | failed =>
      obtain ⟨reached,waits,_,later⟩ := driven
      exact (Delayed.shut drivers (masterFaulted store) (delayed.ticks clock waits) rfl rfl (.inr rfl)).ticks clock later
  program _ _ delayed := delayed.of_valve rfl
  tick delayed := delayed.tick clock

/-- Every on command of a run comes at least the delay after the open of the valve that was
confirmed last, with no other command to the valve in between. -/
theorem pre_open_delay_honoured (clock : Nondecreasing drivers time) {zones : List Zone}
    {world : World (RecordedDevices ε)} (booted : boot zones preOpenDelayMs = .ok world.store)
    (fresh : world.environment.record = []) (commands : List Command) :
    DelayHonoured preOpenDelayMs (run (recordingDrivers drivers time) commands world).environment.record := by
  have initially : world.Meets fun store _ timed => Delayed time preOpenDelayMs store timed := by
    obtain ⟨_,stored⟩ := boot_ok booted
    refine ⟨by rw [stored]; rfl,?_,?_,?_⟩
    · simp [stored,bootedStore]
    · simp [stored,bootedStore]
    · rw [fresh]
      intro earlier timed later split
      simp at split
  exact Delayed.honoured ((delayed_invariant clock).throughout initially commands commands [] (by simp))

end Delays

theorem quietDrivers_nondecreasing : Nondecreasing quietDrivers id :=
  ⟨fun _ _ => UInt64.le_refl _,fun _ => UInt64.le_refl _,fun _ => UInt64.le_refl _⟩

/-- Every reading takes a quarter of a second, for the first half. -/
def quarterDrivers : Drivers UInt64 where
  perform := fun _ now => (.ok,now)
  nowMs := fun now => (now,if now < 500 then now + 250 else now)

theorem quarterDrivers_nondecreasing : Nondecreasing quarterDrivers id := by
  refine ⟨fun _ _ => UInt64.le_refl _,fun _ => UInt64.le_refl _,fun now => ?_⟩
  change now ≤ if now < 500 then now + 250 else now
  split
  · next early =>
    rw [UInt64.lt_iff_toNat_lt] at early
    rw [UInt64.le_iff_toNat_le,UInt64.toNat_add]
    simp only [UInt64.reduceToNat] at early ⊢
    omega
  · exact UInt64.le_refl _

/-- The first zone comes too early, the second once the delay has passed. -/
def earlyZone : List Command :=
  [.masterOpen,.masterProcessTime,.zoneOpen (some (.literal "zone-1")) 0,.masterProcessTime,
    .zoneOpen (some (.literal "zone-2")) 0]

theorem pre_open_delay_honoured_quarter :
    let world : World (RecordedDevices UInt64) := { devWorld devProgram with
      store := bootedStore devZones devZones_configurable 500, environment := ⟨0,[]⟩ }
    let record := (run (recordingDrivers quarterDrivers id) earlyZone world).environment.record
    DelayHonoured 500 record ∧ record.map (·.call.command) = [.openAndConfirm,.setOutput ⟨1,by decide⟩ true] := by
  refine ⟨pre_open_delay_honoured quarterDrivers_nondecreasing (boot_of_configurable devZones_configurable 500) rfl _,?_⟩
  decide +kernel

end Irrigation
