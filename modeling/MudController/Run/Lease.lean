import MudController.Run.Device

/-!
# `Run.Lease` — a DHCP lease, run by itself

`upsertDeviceFromDhcpLease` looks a device up, clears the addresses it is about to give it from every row,
loads its references and writes it. `lease_leases` says what comes of it: either the lease completes, or it
fails with the addresses cleared and the rest of the devices table as it was.
-/

namespace MudController

open Logic

variable [Platform]

/-! ## What a lease is about to write -/

/-- Whether a new device collects data. -/
def World.leaseCollects (w : World) (lease : DhcpLeaseInformation) : Bool :=
  lease.mudUrl.isNone &&
    ((w.db.configRow ConfigKeys.collectDeviceData.asRef).bind fun entry => parse entry.value).getD false

/-- The row that a lease is for. -/
def World.leaseRow (w : World) (lease : DhcpLeaseInformation) : Option DeviceDbo :=
  w.db.leaseTarget lease.macAddress lease.duid

/-- The device that a lease is about to write. -/
def World.leaseDevice (w : World) (lease : DhcpLeaseInformation) : Device :=
  match w.leaseRow lease with
  | some d => (Device.fromDbo d).apply lease
  | none => Device.new lease (w.leaseCollects lease) (w.clock 0)

/-- The world in which the references are loaded, up to the cleared addresses: a new device has read the
    clock. -/
def World.leaseWorld (w : World) (lease : DhcpLeaseInformation) : World :=
  match w.leaseRow lease with
  | some _ => w
  | none => w.tick

/-- The device rows without the addresses of the leased device. -/
def World.clearedDevices (w : World) (lease : DhcpLeaseInformation) : List DeviceDbo :=
  w.db.devices.map (DeviceDbo.withoutIps (w.leaseDevice lease).ipv4Addr (w.leaseDevice lease).ipv6Addr)

/-- The device rows after a lease that completes. -/
def World.leasedDevices (w : World) (lease : DhcpLeaseInformation) : List DeviceDbo :=
  match w.leaseRow lease with
  | some _ => replaceRow (·.id) (w.leaseDevice lease).toDbo (w.clearedDevices lease)
  | none => w.clearedDevices lease ++ [{ (w.leaseDevice lease).toDbo with id := w.db.deviceSeq + 1 }]

/-- The profile of the leased device loads. -/
def World.LeaseLoads (w : World) (lease : DhcpLeaseInformation) : Prop :=
  ∀ url ∈ (w.leaseDevice lease).mudUrl, ((w.leaseWorld lease).loaded url).isSome

/-- No row but the lease's own has the pair of MAC address and DUID that the lease is about to write. -/
def World.LeasePairFree (w : World) (lease : DhcpLeaseInformation) : Prop :=
  ∀ d ∈ w.leaseRow lease, ∀ d' ∈ w.db.devices, d'.id ≠ d.id →
    ∀ x, d'.macDuid = some x → (w.leaseDevice lease).toDbo.macDuid ≠ some x

/-- Nothing is in the way of a lease: its profile loads and its identity is free. -/
def World.LeaseCompletes (w : World) (lease : DhcpLeaseInformation) : Prop :=
  w.LeaseLoads lease ∧ w.LeasePairFree lease

/-- The possible outcomes of a lease. -/
inductive Leases (w : World) (lease : DhcpLeaseInformation) : Except Error Unit × World → Prop where
  | done (w' : World) (hcompletes : w.LeaseCompletes lease)
      (hdevices : w'.db.devices = w.leasedDevices lease)
      (hversion : w'.db.version = toText (w.db.counter + 1)) : Leases w lease (.ok (), w')
  | failed (e : Error) (w' : World) (hcompletes : ¬ w.LeaseCompletes lease)
      (hdevices : w'.db.devices = w.clearedDevices lease)
      (hconfig : w'.db.config = w.db.config)
      (hrefreshes : Refreshes (w.leaseWorld lease) (w.leaseDevice lease).mudUrl w'.db.mudData) :
      Leases w lease (.error e, w')

theorem World.leaseDevice_known {w : World} {lease : DhcpLeaseInformation} {d : DeviceDbo}
    (h : w.leaseRow lease = some d) : w.leaseDevice lease = (Device.fromDbo d).apply lease := by
  unfold World.leaseDevice
  rw [h]

theorem World.leaseDevice_new {w : World} {lease : DhcpLeaseInformation} (h : w.leaseRow lease = none) :
    w.leaseDevice lease = Device.new lease (w.leaseCollects lease) (w.clock 0) := by
  unfold World.leaseDevice
  rw [h]

theorem World.leaseWorld_known {w : World} {lease : DhcpLeaseInformation} {d : DeviceDbo}
    (h : w.leaseRow lease = some d) : w.leaseWorld lease = w := by
  unfold World.leaseWorld
  rw [h]

theorem World.leaseWorld_new {w : World} {lease : DhcpLeaseInformation} (h : w.leaseRow lease = none) :
    w.leaseWorld lease = w.tick := by
  unfold World.leaseWorld
  rw [h]

/-! ## The steps -/

theorem run_leaseCollectInfo (lease : DhcpLeaseInformation) (w : World) :
    (leaseCollectInfo lease).run w = (.ok (w.leaseCollects lease), w) := by
  unfold leaseCollectInfo World.leaseCollects
  cases lease.mudUrl with
  | some url => rfl
  | none =>
      simp only [Option.isNone_none, if_true, Bool.true_and]
      rw [run_unwrapOr, run_getConfigValue]
      cases w.db.configRow ConfigKeys.collectDeviceData.asRef with
      | none => rfl
      | some entry =>
          simp only [Option.bind_some]
          cases (parse entry.value : Option Bool) <;> rfl

/-- After clearing, no row has an address of the device. -/
theorem ipv4_free {device : Device} {l : List DeviceDbo} {d : DeviceDbo}
    (hd : d ∈ l.map (DeviceDbo.withoutIps device.ipv4Addr device.ipv6Addr)) :
    ∀ a, d.ipv4Addr = some a → device.toDbo.ipv4Addr ≠ some a := by
  intro a ha hrow
  obtain ⟨d₀, _, rfl⟩ := List.mem_map.mp hd
  obtain ⟨b, hb, rfl⟩ := Option.map_eq_some_iff.mp hrow
  exact d₀.withoutIps_ipv4 device.ipv4Addr device.ipv6Addr b hb ha

theorem ipv6_free {device : Device} {l : List DeviceDbo} {d : DeviceDbo}
    (hd : d ∈ l.map (DeviceDbo.withoutIps device.ipv4Addr device.ipv6Addr)) :
    ∀ a, d.ipv6Addr = some a → device.toDbo.ipv6Addr ≠ some a := by
  intro a ha hrow
  obtain ⟨d₀, _, rfl⟩ := List.mem_map.mp hd
  obtain ⟨b, hb, rfl⟩ := Option.map_eq_some_iff.mp hrow
  exact d₀.withoutIps_ipv6 device.ipv4Addr device.ipv6Addr b hb ha

/-- The version after a bump of tables with the configuration of `t`. -/
theorem bumped_version_of_config {t : Tables} (t' : Tables) (h : t'.config = t.config) :
    t'.bumped.version = toText (t.counter + 1) := by
  rw [Tables.bumped_version]
  unfold Tables.counter Tables.configRow
  rw [h]

/-- After clearing, the unique columns of the device are free if its identity is. -/
theorem free_cleared {t : Tables} {device : Device} {l : List DeviceDbo} {other : DeviceDbo → Prop}
    (hdevices : t.devices = l.map (DeviceDbo.withoutIps device.ipv4Addr device.ipv6Addr))
    (hpair : ∀ d ∈ l, other (d.withoutIps device.ipv4Addr device.ipv6Addr) →
      ∀ x, d.macDuid = some x → device.toDbo.macDuid ≠ some x) :
    Free t device.toDbo other := by
  refine ⟨?_, ?_, ?_⟩
  · intro d hd _
    rw [hdevices] at hd
    exact ipv4_free hd
  · intro d hd _
    rw [hdevices] at hd
    exact ipv6_free hd
  · intro d hd hother x hx
    rw [hdevices] at hd
    obtain ⟨d₀, hd₀, rfl⟩ := List.mem_map.mp hd
    rw [(clears_withoutIps _ _).macDuid] at hx
    exact hpair d₀ hd₀ hother x hx

/-! ## Up to the write -/

/-- What both branches of a lease do before they write: clear the addresses and load the references. -/
def clearAndLoad (device : Device) : Action DeviceWithRefs := do
  removeExistingIps device.ipv4Addr device.ipv6Addr
  loadRefs device

theorem updateLeasedDevice_eq (device : Device) :
    updateLeasedDevice device =
      clearAndLoad device >>= fun deviceData => updateDevice deviceData >>= fun _ => pure () := by
  unfold updateLeasedDevice clearAndLoad
  rw [Prog.bind_assoc]

/-- The possible outcomes of a lease up to its write. -/
inductive ReadiesLease (w : World) (lease : DhcpLeaseInformation) :
    Except Error DeviceWithRefs × World → Prop where
  | ready (room : Option Room) (mudData : Option MudData) (w' : World) (hloads : w.LeaseLoads lease)
      (hdevices : w'.db.devices = w.clearedDevices lease) (hdeviceSeq : w'.db.deviceSeq = w.db.deviceSeq)
      (hconfig : w'.db.config = w.db.config) (hrooms : w'.db.rooms = w.db.rooms)
      (hrefreshes : Refreshes (w.leaseWorld lease) (w.leaseDevice lease).mudUrl w'.db.mudData)
      (hmem : ∀ url ∈ (w.leaseDevice lease).mudUrl, url ∈ w'.db.mudData.map (·.url)) :
      ReadiesLease w lease (.ok ⟨w.leaseDevice lease, room, mudData⟩, w')
  | failed (e : Error) (w' : World) (hloads : ¬ w.LeaseLoads lease)
      (hdevices : w'.db.devices = w.clearedDevices lease) (hconfig : w'.db.config = w.db.config)
      (hrefreshes : Refreshes (w.leaseWorld lease) (w.leaseDevice lease).mudUrl w'.db.mudData) :
      ReadiesLease w lease (.error e, w')

theorem World.leaseWorld_db (w : World) (lease : DhcpLeaseInformation) : (w.leaseWorld lease).db = w.db := by
  unfold World.leaseWorld
  cases w.leaseRow lease <;> rfl

theorem clearAndLoad_readies {w : World} {lease : DhcpLeaseInformation}
    (hroom : ∀ id ∈ (w.leaseDevice lease).roomId, (w.db.room id).isSome) :
    ReadiesLease w lease ((clearAndLoad (w.leaseDevice lease)).run (w.leaseWorld lease)) := by
  have hdb := w.leaseWorld_db lease
  unfold clearAndLoad
  rw [Action.run_bind_ok (run_removeExistingIps _ _ _)]
  have hroom' : ∀ id ∈ (w.leaseDevice lease).roomId,
      (((w.leaseWorld lease).withoutIps (w.leaseDevice lease).ipv4Addr
        (w.leaseDevice lease).ipv6Addr).db.room id).isSome := by
    intro id hid
    show ((w.leaseWorld lease).db.room id).isSome
    rw [hdb]
    exact hroom id hid
  have hcleared : ((w.leaseWorld lease).withoutIps (w.leaseDevice lease).ipv4Addr
      (w.leaseDevice lease).ipv6Addr).db.devices = w.clearedDevices lease := by
    show (w.leaseWorld lease).db.devices.map _ = _
    rw [hdb]
    rfl
  have hrest : (w.leaseWorld lease).db.config = w.db.config ∧
      (w.leaseWorld lease).db.deviceSeq = w.db.deviceSeq ∧ (w.leaseWorld lease).db.rooms = w.db.rooms := by
    rw [hdb]
    exact ⟨rfl, rfl, rfl⟩
  obtain ⟨hconfig, hdeviceSeq, hrooms⟩ := hrest
  have hloads := loadRefs_loads hroom'
  generalize (loadRefs (w.leaseDevice lease)).run _ = r at hloads
  cases hloads with
  | failed e w₂ url hurl hloaded hdb₂ hrefreshes =>
      refine .failed e w₂ ?_ ?_ ?_ hrefreshes.of_withoutIps
      · intro hload
        have hsome := hload url hurl
        rw [← World.withoutIps_loaded _ (w.leaseDevice lease).ipv4Addr (w.leaseDevice lease).ipv6Addr,
          hloaded] at hsome
        cases hsome
      · rw [hdb₂, hcleared]
      · rw [hdb₂]
        exact hconfig
  | ok room mudData w₂ hloaded hmudData honly hrefreshes hmem =>
      exact .ready room mudData w₂ hloaded (honly.devices.trans hcleared) (honly.deviceSeq.trans hdeviceSeq)
        (honly.config.trans hconfig) (honly.rooms.trans hrooms) hrefreshes.of_withoutIps hmem

/-! ## A known device -/

/-- The row written for a known device keeps its id. -/
theorem leaseDevice_id {w : World} {lease : DhcpLeaseInformation} {d : DeviceDbo}
    (hrow : w.leaseRow lease = some d) : (w.leaseDevice lease).toDbo.id = d.id := by
  rw [World.leaseDevice_known hrow]
  rfl

/-- A known device stays in its room. -/
theorem leaseDevice_roomId {w : World} {lease : DhcpLeaseInformation} {d : DeviceDbo}
    (hrow : w.leaseRow lease = some d) : (w.leaseDevice lease).roomId = d.roomId := by
  rw [World.leaseDevice_known hrow]
  rfl

/-- **The write of a known device.** The schema allows it exactly if no other row has its pair. -/
theorem schema_updateDevice_iff {w : World} {lease : DhcpLeaseInformation} {d : DeviceDbo} {db : Db}
    (hrow : w.leaseRow lease = some d) (hdevices : db.devices = w.clearedDevices lease)
    (hrooms : db.rooms = w.db.rooms)
    (hmem : ∀ url ∈ (w.leaseDevice lease).mudUrl, url ∈ db.mudData.map (·.url)) :
    Schema (db.updateDevice (w.leaseDevice lease).toDbo) ↔ w.LeasePairFree lease := by
  have hd : d ∈ w.db.devices := Tables.leaseTarget_mem hrow
  have hid := leaseDevice_id hrow
  have hmemId : (w.leaseDevice lease).toDbo.id ∈ db.devices.map (·.id) := by
    rw [hdevices, World.clearedDevices, Clears.map_eq (clears_withoutIps _ _).id, hid]
    exact List.mem_map_of_mem hd
  constructor
  · intro hschema d₁ hd₁ d' hd' hne x hx hx'
    -- both rows of the result would have the pair
    rw [hrow] at hd₁
    cases hd₁
    have hmem' : d'.withoutIps (w.leaseDevice lease).ipv4Addr (w.leaseDevice lease).ipv6Addr ∈
        db.devices := hdevices ▸ List.mem_map_of_mem hd'
    refine not_schema_updateDevice hmemId hmem' ?_ ?_ hx' hschema
    · rw [(clears_withoutIps _ _).id, hid]
      exact hne
    · rw [(clears_withoutIps _ _).macDuid]
      exact hx
  · intro hpair
    have hfree : Free db.toTables (w.leaseDevice lease).toDbo fun d' =>
        d'.id ≠ (w.leaseDevice lease).toDbo.id := by
      apply free_cleared hdevices
      intro d₀ hd₀ hne x hx
      rw [(clears_withoutIps _ _).id, hid] at hne
      exact hpair d hrow d₀ hd₀ hne x hx
    have hrefers : Refers db.toTables (w.leaseDevice lease).toDbo := by
      refine ⟨hmem, ?_⟩
      intro id hidr
      have hidr' : id ∈ d.roomId := leaseDevice_roomId hrow ▸ hidr
      rw [hrooms]
      exact w.db.schema.roomIdRef d hd id hidr'
    exact db.schema.updateDevice hmemId hfree hrefers

theorem updateLeasedDevice_leases {w : World} {lease : DhcpLeaseInformation} {d : DeviceDbo}
    (hrow : w.leaseRow lease = some d) :
    Leases w lease ((updateLeasedDevice ((Device.fromDbo d).apply lease)).run w) := by
  have hreadies : ReadiesLease w lease ((clearAndLoad (w.leaseDevice lease)).run (w.leaseWorld lease)) := by
    apply clearAndLoad_readies
    rw [leaseDevice_roomId hrow]
    exact w.db.schema.room_isSome (Tables.leaseTarget_mem hrow)
  rw [World.leaseWorld_known hrow] at hreadies
  rw [← World.leaseDevice_known hrow, updateLeasedDevice_eq]
  cases hr : (clearAndLoad (w.leaseDevice lease)).run w with
  | mk r w₂ =>
      rw [hr] at hreadies
      cases hreadies with
      | failed e w₂ hloads hdevices hconfig hrefreshes =>
          -- a reference does not load: the addresses stay cleared
          rw [Action.run_bind_error hr]
          exact .failed e w₂ (fun hcompletes => hloads hcompletes.1) hdevices hconfig hrefreshes
      | ready room mudData w₂ hloads hdevices hdeviceSeq hconfig hrooms hrefreshes hmem =>
          rw [Action.run_bind_ok hr]
          have hschema := schema_updateDevice_iff hrow hdevices hrooms hmem
          by_cases hpair : w.LeasePairFree lease
          · obtain ⟨updated, hrun⟩ :=
              run_updateDevice ⟨w.leaseDevice lease, room, mudData⟩ (hschema.mpr hpair)
            rw [Action.run_bind_ok hrun]
            refine .done _ ⟨hloads, hpair⟩ ?_ ?_
            · unfold World.leasedDevices
              rw [hrow]
              show replaceRow (·.id) (w.leaseDevice lease).toDbo w₂.db.devices = _
              rw [hdevices]
            · exact bumped_version_of_config (w₂.db.updateDevice (w.leaseDevice lease).toDbo) hconfig
          · -- the write is refused, after the addresses were cleared
            have hrun := run_updateDevice_refused ⟨w.leaseDevice lease, room, mudData⟩ fun h =>
              hpair (hschema.mp h)
            rw [Action.run_bind_error hrun]
            exact .failed _ w₂ (fun hcompletes => hpair hcompletes.2) hdevices hconfig hrefreshes

/-! ## A new device -/

/-- Without a row of its MAC address or DUID, no row has the pair of a lease. -/
theorem Tables.macDuid_ne_of_leaseTarget_none {t : Tables} {macAddr : Option MacAddr}
    {duid : Option String} (h : t.leaseTarget macAddr duid = none) {d : DeviceDbo} (hd : d ∈ t.devices)
    {x : MacAddr × String} (hx : d.macDuid = some x) : macAddr ≠ some x.1 := by
  rintro rfl
  have hmac : d.macAddr = some x.1 := DeviceDbo.macDuid_macAddr hx
  have hnone : t.deviceByMac x.1 = none := (Option.or_eq_none_iff.mp h).1
  have hall := List.find?_eq_none.mp hnone d hd
  exact hall (by simpa using hmac)

/-- **The write of a new device.** The schema allows it: no row has its pair, and it has no room yet. -/
theorem schema_insertDevice {w : World} {lease : DhcpLeaseInformation} {db : Db}
    (hrow : w.leaseRow lease = none) (hdevices : db.devices = w.clearedDevices lease)
    (hmem : ∀ url ∈ (w.leaseDevice lease).mudUrl, url ∈ db.mudData.map (·.url)) :
    Schema (db.insertDevice (w.leaseDevice lease).toDbo) := by
  have hdevice := World.leaseDevice_new hrow
  have hfree : Free db.toTables (w.leaseDevice lease).toDbo fun _ => True := by
    apply free_cleared hdevices
    intro d₀ hd₀ _ x hx hx'
    have hmac : lease.macAddress = some x.1 := by
      rw [hdevice] at hx'
      exact DeviceDbo.macDuid_macAddr hx'
    exact Tables.macDuid_ne_of_leaseTarget_none hrow hd₀ hx hmac
  have hrefers : Refers db.toTables (w.leaseDevice lease).toDbo := by
    refine ⟨hmem, ?_⟩
    intro id hid
    rw [hdevice] at hid
    cases hid
  exact db.schema.insertDevice hfree hrefers

theorem insertLeasedDevice_eq (lease : DhcpLeaseInformation) :
    insertLeasedDevice lease = leaseCollectInfo lease >>= fun collectInfo => now >>= fun t =>
      clearAndLoad (Device.new lease collectInfo t) >>= fun deviceData =>
        insertDevice deviceData >>= fun _ => pure () := by
  unfold insertLeasedDevice clearAndLoad
  simp only [Prog.bind_assoc]

theorem insertLeasedDevice_leases {w : World} {lease : DhcpLeaseInformation}
    (hrow : w.leaseRow lease = none) : Leases w lease ((insertLeasedDevice lease).run w) := by
  have hdevice := World.leaseDevice_new hrow
  have hpair : w.LeasePairFree lease := by
    intro d hd
    rw [hrow] at hd
    cases hd
  have hreadies : ReadiesLease w lease ((clearAndLoad (w.leaseDevice lease)).run (w.leaseWorld lease)) := by
    apply clearAndLoad_readies
    intro id hid
    rw [hdevice] at hid
    cases hid
  rw [World.leaseWorld_new hrow] at hreadies
  rw [insertLeasedDevice_eq, Action.run_bind_ok (run_leaseCollectInfo lease w), Action.run_now_bind, ← hdevice]
  cases hr : (clearAndLoad (w.leaseDevice lease)).run w.tick with
  | mk r w₂ =>
      rw [hr] at hreadies
      cases hreadies with
      | failed e w₂ hloads hdevices hconfig hrefreshes =>
          rw [Action.run_bind_error hr]
          exact .failed e w₂ (fun hcompletes => hloads hcompletes.1) hdevices hconfig hrefreshes
      | ready room mudData w₂ hloads hdevices hdeviceSeq hconfig hrooms hrefreshes hmem =>
          rw [Action.run_bind_ok hr]
          obtain ⟨id, tasks, hrun⟩ := run_insertDevice ⟨w.leaseDevice lease, room, mudData⟩
            (schema_insertDevice hrow hdevices hmem)
          rw [Action.run_bind_ok hrun]
          refine .done _ ⟨hloads, hpair⟩ ?_ ?_
          · unfold World.leasedDevices
            rw [hrow]
            show w₂.db.devices ++ [{ (w.leaseDevice lease).toDbo with id := w₂.db.deviceSeq + 1 }] = _
            rw [hdevices, hdeviceSeq]
          · exact bumped_version_of_config (w₂.db.insertDevice (w.leaseDevice lease).toDbo) hconfig

/-- **A lease**, run by itself. -/
theorem lease_leases (w : World) (lease : DhcpLeaseInformation) :
    Leases w lease ((upsertDeviceFromDhcpLease lease).run w) := by
  unfold upsertDeviceFromDhcpLease
  rw [Action.run_attempt_bind, run_findByMacOrDuid]
  cases hrow : w.db.leaseTarget lease.macAddress lease.duid with
  | some d => exact updateLeasedDevice_leases hrow
  | none => exact insertLeasedDevice_leases hrow

end MudController
