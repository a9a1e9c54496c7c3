import MudController.Heartbeat

/-!
# `Version.Configuration` — the configuration of the tables

What `create_configuration` computes from the stored devices and their stored profiles, as a function of
the tables. It does not depend on the clock, on what fetching yields, or on any table but the two; a
heartbeat answers with it as long as no profile is due for a refresh (`heartbeat_configuration`).
-/

namespace MudController

open Logic

variable [Platform]

/-- The profile stored under a URL. A row that does not parse is no profile. -/
def Tables.storedProfile (t : Tables) (url : String) : Option MudData := (t.mudRow url).bind MudDbo.parseData

theorem Tables.storedProfile_row {t : Tables} {url : String} {mud : MudDbo} (hrow : t.mudRow url = some mud) :
    t.storedProfile url = mud.parseData := by
  unfold Tables.storedProfile
  rw [hrow, Option.bind_some]

/-- A device with what is stored of its references. -/
def Tables.withStoredRefs (t : Tables) (device : Device) : DeviceWithRefs where
  inner := device
  room := device.roomId.bind t.room
  mudData := device.mudUrl.bind t.storedProfile

/-- The stored devices with what is stored of their references. -/
def Tables.storedRefs (t : Tables) : List DeviceWithRefs := t.storedDevices.map t.withStoredRefs

/-- The `FirewallDevice`s of the tables. -/
def Tables.fwDevices (t : Tables) : List FirewallDevice := (createConfiguration t.version t.storedRefs).devices

/-- The rules that a device has from its profile. -/
def profileRules (mudData : Option MudData) : List FirewallRule :=
  match mudData with
  | none => []
  | some mudData => compileRules mudData

/-- A `FirewallDevice` is made of the device and the rules of its profile. -/
theorem convertDeviceToFwRules_congr {a b : DeviceWithRefs} (hinner : a.inner = b.inner)
    (hrules : profileRules a.mudData = profileRules b.mudData) :
    convertDeviceToFwRules a = convertDeviceToFwRules b := by
  obtain ⟨a, ra, ma⟩ := a
  obtain ⟨b, rb, mb⟩ := b
  cases hinner
  exact congrArg (fun rules => FirewallDevice.mk a.id a.ipv4Addr a.ipv6Addr rules a.collectInfo) hrules

theorem Tables.fwDevices_eq (t : Tables) :
    t.fwDevices = (t.storedDevices.filter (·.addressed)).map fun d =>
      convertDeviceToFwRules (t.withStoredRefs d) := by
  show ((t.storedDevices.map t.withStoredRefs).filter (·.inner.addressed)).map convertDeviceToFwRules = _
  rw [List.filter_map, List.map_map]
  rfl

/-- With the same devices, the configuration is the same exactly if every device with an address has the same
    rules. -/
theorem Tables.fwDevices_eq_iff {a b : Tables} (hdevices : b.devices = a.devices) :
    b.fwDevices = a.fwDevices ↔
      ∀ d ∈ a.storedDevices, d.addressed →
        profileRules (d.mudUrl.bind b.storedProfile) = profileRules (d.mudUrl.bind a.storedProfile) := by
  have hstored : b.storedDevices = a.storedDevices := by
    unfold Tables.storedDevices
    rw [hdevices]
  rw [Tables.fwDevices_eq, Tables.fwDevices_eq, hstored, List.map_inj_left]
  constructor
  · intro h d hd haddressed
    exact congrArg FirewallDevice.rules (h d (List.mem_filter.mpr ⟨hd, haddressed⟩))
  · intro h d hd
    obtain ⟨hd, haddressed⟩ := List.mem_filter.mp hd
    exact convertDeviceToFwRules_congr rfl (h d hd haddressed)

/-- A stored profile depends on the profiles only. -/
theorem storedProfile_congr {a b : Tables} (h : b.mudData = a.mudData) (url : String) :
    b.storedProfile url = a.storedProfile url := by
  unfold Tables.storedProfile Tables.mudRow
  rw [h]

/-- The configuration depends on the devices and the profiles only. -/
theorem Tables.fwDevices_congr {a b : Tables} (hdevices : b.devices = a.devices)
    (hmudData : b.mudData = a.mudData) : b.fwDevices = a.fwDevices := by
  apply (Tables.fwDevices_eq_iff hdevices).mpr
  intro d _ _
  have hprofile : b.storedProfile = a.storedProfile := funext (storedProfile_congr hmudData)
  rw [hprofile]

/-- The version depends on the configuration table only. -/
theorem Tables.version_congr {a b : Tables} (hconfig : b.config = a.config) : b.version = a.version := by
  unfold Tables.version Tables.configRow
  rw [hconfig]

theorem Tables.counter_congr {a b : Tables} (hconfig : b.config = a.config) : b.counter = a.counter := by
  unfold Tables.counter Tables.configRow
  rw [hconfig]

/-! ## What a heartbeat makes of it -/

/-- No profile of a stored device is due for a refresh, now or later. -/
def World.ProfilesCurrent (w : World) : Prop :=
  ∀ d ∈ w.db.storedDevices, ∀ url ∈ d.mudUrl,
    ∃ mud data, w.stored url = some (mud, data) ∧ ∀ n, mud.expiration > w.clock n

theorem World.stored_profile {w : World} {url : String} {mud : MudDbo} {data : MudData}
    (h : w.stored url = some (mud, data)) : w.db.storedProfile url = some data := by
  obtain ⟨hrow, hparse, _⟩ := World.stored_url h
  unfold Tables.storedProfile
  rw [hrow]
  exact hparse

/-- Loading a profile that has not expired reads the clock once. -/
theorem run_getOrFetchMud_current {w : World} {url : String} {mud : MudDbo} {data : MudData}
    (hstored : w.stored url = some (mud, data)) (hcurrent : mud.expiration > w.clock 0) :
    (getOrFetchMud url).run w = (.ok data, w.tick) := by
  obtain ⟨hrow, hparse, _⟩ := World.stored_url hstored
  rw [run_getOrFetchMud, hrow, afterLookup_stored hparse, run_checkExpired, if_pos hcurrent]
  rfl

/-- Loading the references of a stored device whose profile has not expired. -/
theorem run_loadRefs_current {w : World} {d : Device} (hd : d ∈ w.db.storedDevices)
    (hprofile : ∀ url ∈ d.mudUrl, ∃ mud data, w.stored url = some (mud, data) ∧ mud.expiration > w.clock 0) :
    ∃ n, (loadRefs d).run w = (.ok (w.db.withStoredRefs d), w.ticks n) := by
  have hroom : ∀ id ∈ d.roomId, (w.db.room id).isSome := by
    obtain ⟨row, hrow, rfl⟩ := List.mem_map.mp hd
    exact w.db.schema.room_isSome hrow
  unfold Tables.withStoredRefs
  cases hurl : d.mudUrl with
  | none => exact ⟨0, run_loadRefs_plain hroom hurl⟩
  | some url =>
      obtain ⟨mud, data, hstored, hcurrent⟩ := hprofile url hurl
      refine ⟨1, ?_⟩
      rw [run_loadRefs_ok hroom hurl (run_getOrFetchMud_current hstored hcurrent), Option.bind_some,
        World.stored_profile hstored]
      rfl

theorem loadOutcomes_current {w : World} (hcurrent : w.ProfilesCurrent) (devices : List Device)
    (hdevices : ∀ d ∈ devices, d ∈ w.db.storedDevices) (n : Nat) :
    loadOutcomes devices (w.ticks n) = devices.map fun d => .ok (w.db.withStoredRefs d) := by
  induction devices generalizing n with
  | nil => rfl
  | cons d devices ih =>
      have hd := hdevices d List.mem_cons_self
      obtain ⟨m, hrun⟩ := @run_loadRefs_current _ (w.ticks n) d hd fun url hurl => by
        obtain ⟨mud, data, hstored, hlasts⟩ := hcurrent d hd url hurl
        exact ⟨mud, data, hstored, hlasts _⟩
      have hrest := ih (fun d hd => hdevices d (List.mem_cons_of_mem _ hd)) (m + n)
      have hticks : (w.ticks n).ticks m = w.ticks (m + n) := by
        refine World.ext rfl ?_ rfl rfl
        funext k
        show w.clock (k + m + n) = w.clock (k + (m + n))
        rw [Nat.add_assoc]
      rw [loadOutcomes, hrun, hticks, hrest]
      rfl

/-- **A heartbeat and the tables.** As long as no profile is due for a refresh, a heartbeat with an outdated
    version answers with the configuration of the tables. -/
theorem heartbeat_configuration {w : World} (hcurrent : w.ProfilesCurrent) {version : Option String}
    (hversion : some w.db.version ≠ version) :
    ((heartbeat version).run w).1 = .ok (some (createConfiguration w.db.version w.db.storedRefs)) := by
  have hloads : loadOutcomes w.db.storedDevices w = w.db.storedRefs.map .ok := by
    have h := loadOutcomes_current hcurrent w.db.storedDevices (fun _ hd => hd) 0
    unfold Tables.storedRefs
    rw [List.map_map]
    exact h
  rw [run_heartbeat hversion, hloads, collect_map_ok]
  rfl

end MudController
