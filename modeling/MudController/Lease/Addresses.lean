import MudController.Lease.Identity
import MudController.Run.Quiet

/-!
# `Lease.Addresses` — a lease that succeeds moves its addresses

The row of the leased device is written as `apply` or `new` prescribes, and of the other rows it takes the
addresses that it now has; nothing else of the devices table changes (`lease_moves_addresses`). The addresses
were taken away before the write, so they are never in its way: with no address in the table at all, the same
leases would fail.
-/

namespace MudController

open Logic

section

variable [Platform]

/-- The address columns hold what the controller writes. -/
structure DeviceDbo.Canonical (d : DeviceDbo) : Prop where
  ipv4Addr : ∀ s ∈ d.ipv4Addr, ∃ addr : Ipv4Addr, s = toText addr
  ipv6Addr : ∀ s ∈ d.ipv6Addr, ∃ addr : Ipv6Addr, s = toText addr

/-- A row after another one, `row`, has come to have its addresses. -/
def DeviceDbo.yieldTo (d row : DeviceDbo) : DeviceDbo :=
  { d with
    ipv4Addr := if d.ipv4Addr = row.ipv4Addr then none else d.ipv4Addr
    ipv6Addr := if d.ipv6Addr = row.ipv6Addr then none else d.ipv6Addr }

theorem clears_withoutAddresses : Clears DeviceDbo.withoutAddresses :=
  ⟨fun _ => rfl, fun _ => .inr rfl, fun _ => .inr rfl, fun _ => rfl, fun _ => rfl, fun _ => rfl, fun _ => rfl⟩

/-- The world without any address in the devices table. -/
def World.withoutAddresses (w : World) : World := w.mapDevices DeviceDbo.withoutAddresses clears_withoutAddresses

/-- The row that a lease writes. -/
structure World.LeaseWrites (w : World) (lease : DhcpLeaseInformation) (row : DeviceDbo) : Prop where
  known : ∀ d, w.leaseRow lease = some d →
    row.id = d.id ∧ Device.fromDbo row = (Device.fromDbo d).apply lease ∧
      ((∃ addr, lease.ipAddr = .v4 addr) → row.ipv6Addr = d.ipv6Addr) ∧
      ((∃ addr, lease.ipAddr = .v6 addr) → row.ipv4Addr = d.ipv4Addr)
  new : w.leaseRow lease = none →
    row.id = w.db.deviceSeq + 1 ∧
      Device.fromDbo row =
        { Device.new lease (w.leaseCollects lease) (w.clock 0) with id := w.db.deviceSeq + 1 }
  ipv4 : ∀ addr, lease.ipAddr = .v4 addr → row.ipv4Addr = some (toText addr)
  ipv6 : ∀ addr, lease.ipAddr = .v6 addr → row.ipv6Addr = some (toText addr)

/-! ## The rows -/

theorem DeviceDbo.withoutIpv4_eq (addr : String) (d : DeviceDbo) :
    d.withoutIpv4 addr = { d with ipv4Addr := if d.ipv4Addr = some addr then none else d.ipv4Addr } := by
  unfold DeviceDbo.withoutIpv4
  by_cases h : d.ipv4Addr = some addr
  · rw [if_pos h, if_pos h]
  · rw [if_neg h, if_neg h]

theorem DeviceDbo.withoutIpv6_eq (addr : String) (d : DeviceDbo) :
    d.withoutIpv6 addr = { d with ipv6Addr := if d.ipv6Addr = some addr then none else d.ipv6Addr } := by
  unfold DeviceDbo.withoutIpv6
  by_cases h : d.ipv6Addr = some addr
  · rw [if_pos h, if_pos h]
  · rw [if_neg h, if_neg h]

omit [Platform] in
/-- A row that has no address of the kind has none to yield. -/
theorem ite_none_self (column : Option String) : (if column = none then none else column) = column := by
  cases column <;> rfl

/-- What is cleared of a row is what it yields to the row of the device. -/
theorem DeviceDbo.withoutIps_eq (device : Device) (id : Int) (d : DeviceDbo) :
    d.withoutIps device.ipv4Addr device.ipv6Addr = d.yieldTo { device.toDbo with id := id } := by
  have hipv4 : device.toDbo.ipv4Addr = device.ipv4Addr.map toText := rfl
  have hipv6 : device.toDbo.ipv6Addr = device.ipv6Addr.map toText := rfl
  unfold DeviceDbo.withoutIps DeviceDbo.yieldTo
  simp only [hipv4, hipv6]
  cases device.ipv4Addr <;> cases device.ipv6Addr <;>
    simp only [Option.map_none, Option.map_some, ite_none_self, DeviceDbo.withoutIpv4_eq,
      DeviceDbo.withoutIpv6_eq]

omit [Platform] in
/-- A text that the controller has written is read and written back. -/
theorem text_parse {α : Type} [TextForm α] {column : Option String}
    (h : ∀ s ∈ column, ∃ a : α, s = toText a) : (column.bind fun s => (parse s : Option α)).map toText = column := by
  cases column with
  | none => rfl
  | some s =>
      obtain ⟨a, rfl⟩ := h s rfl
      rw [Option.bind_some, parse_toText]
      rfl

/-- A lease of an IPv4 address keeps the IPv6 address, and the other way round. -/
theorem apply_keeps_address {d : DeviceDbo} (hcanonical : d.Canonical) (lease : DhcpLeaseInformation) :
    ((∃ addr, lease.ipAddr = .v4 addr) → ((Device.fromDbo d).apply lease).toDbo.ipv6Addr = d.ipv6Addr) ∧
    ((∃ addr, lease.ipAddr = .v6 addr) → ((Device.fromDbo d).apply lease).toDbo.ipv4Addr = d.ipv4Addr) := by
  constructor
  · rintro ⟨addr, haddr⟩
    unfold Device.apply
    rw [haddr]
    exact text_parse hcanonical.ipv6Addr
  · rintro ⟨addr, haddr⟩
    unfold Device.apply
    rw [haddr]
    exact text_parse hcanonical.ipv4Addr

/-- The leased device holds the address of the lease. -/
theorem leaseDevice_address (w : World) (lease : DhcpLeaseInformation) :
    (∀ addr, lease.ipAddr = .v4 addr → (w.leaseDevice lease).toDbo.ipv4Addr = some (toText addr)) ∧
    (∀ addr, lease.ipAddr = .v6 addr → (w.leaseDevice lease).toDbo.ipv6Addr = some (toText addr)) := by
  unfold World.leaseDevice
  cases w.leaseRow lease <;> constructor <;> intro addr haddr <;>
    simp [Device.apply, Device.new, Device.toDbo, haddr]

theorem World.clearedDevices_eq (w : World) (lease : DhcpLeaseInformation) (id : Int) :
    w.clearedDevices lease = w.db.devices.map (·.yieldTo { (w.leaseDevice lease).toDbo with id := id }) :=
  List.map_congr_left fun d _ => DeviceDbo.withoutIps_eq _ id d

theorem DeviceDbo.map_id_yieldTo (row : DeviceDbo) (devices : List DeviceDbo) :
    (devices.map (·.yieldTo row)).map (·.id) = devices.map (·.id) :=
  Clears.map_eq (g := (·.yieldTo row)) (fun _ => rfl) devices

/-- A device that is known is written to its own row. -/
theorem leasedDevices_upsert_known {w : World} {lease : DhcpLeaseInformation} {d : DeviceDbo}
    (hrow : w.leaseRow lease = some d) (hcanonical : d.Canonical) :
    w.LeaseWrites lease (w.leaseDevice lease).toDbo ∧
      w.leasedDevices lease =
        upsertRow (·.id) (w.leaseDevice lease).toDbo (w.db.devices.map (·.yieldTo (w.leaseDevice lease).toDbo)) := by
  obtain ⟨hv4, hv6⟩ := leaseDevice_address w lease
  have hdevice := World.leaseDevice_known hrow
  refine ⟨⟨?_, ?_, hv4, hv6⟩, ?_⟩
  · rintro d' hd'
    rw [hrow] at hd'
    cases hd'
    have hkeeps := apply_keeps_address hcanonical lease
    rw [hdevice]
    exact ⟨rfl, Device.fromDbo_toDbo _, hkeeps.1, hkeeps.2⟩
  · intro hnone
    rw [hrow] at hnone
    cases hnone
  · have hmem : (w.leaseDevice lease).toDbo.id ∈
        (w.db.devices.map (·.yieldTo (w.leaseDevice lease).toDbo)).map (·.id) := by
      rw [DeviceDbo.map_id_yieldTo, leaseDevice_id hrow]
      exact List.mem_map_of_mem (Tables.leaseTarget_mem hrow)
    rw [leasedDevices_known hrow, w.clearedDevices_eq lease (w.leaseDevice lease).toDbo.id, upsertRow, if_pos hmem]

/-- A device that is not known is written to a new row. -/
theorem leasedDevices_upsert_new {w : World} {lease : DhcpLeaseInformation} (hrow : w.leaseRow lease = none) :
    w.LeaseWrites lease { (w.leaseDevice lease).toDbo with id := w.db.deviceSeq + 1 } ∧
      w.leasedDevices lease = upsertRow (·.id) { (w.leaseDevice lease).toDbo with id := w.db.deviceSeq + 1 }
        (w.db.devices.map (·.yieldTo { (w.leaseDevice lease).toDbo with id := w.db.deviceSeq + 1 })) := by
  obtain ⟨hv4, hv6⟩ := leaseDevice_address w lease
  have hdevice := World.leaseDevice_new hrow
  refine ⟨⟨?_, ?_, hv4, hv6⟩, ?_⟩
  · intro d hd
    rw [hrow] at hd
    cases hd
  · intro _
    rw [hdevice]
    refine ⟨rfl, ?_⟩
    exact Device.fromDbo_toDbo { Device.new lease (w.leaseCollects lease) (w.clock 0) with
      id := w.db.deviceSeq + 1 }
  · have hfresh : w.db.deviceSeq + 1 ∉ w.db.devices.map (·.id) := by
      intro hmem
      obtain ⟨d, hd, hid⟩ := List.mem_map.mp hmem
      have hseq := w.db.schema.deviceSeq d hd
      omega
    rw [leasedDevices_new hrow, w.clearedDevices_eq lease (w.db.deviceSeq + 1), upsertRow,
      DeviceDbo.map_id_yieldTo, if_neg hfresh]

/-- **The table that a completed lease leaves**: the device's row replaced or added, the other rows without the
    addresses that it now has. -/
theorem leasedDevices_upsert {w : World} (hcanonical : ∀ d ∈ w.db.devices, d.Canonical)
    (lease : DhcpLeaseInformation) :
    ∃ row, w.LeaseWrites lease row ∧
      w.leasedDevices lease = upsertRow (·.id) row (w.db.devices.map (·.yieldTo row)) := by
  cases hrow : w.leaseRow lease with
  | some d => exact ⟨_, leasedDevices_upsert_known hrow (hcanonical d (Tables.leaseTarget_mem hrow))⟩
  | none => exact ⟨_, leasedDevices_upsert_new hrow⟩

/-! ## What makes a lease fail -/

theorem lease_fails_iff (w : World) (lease : DhcpLeaseInformation) :
    (∃ e, ((upsertDeviceFromDhcpLease lease).run w).1 = .error e) ↔ ¬ w.LeaseCompletes lease := by
  have hleases := lease_leases w lease
  generalize (upsertDeviceFromDhcpLease lease).run w = r at hleases
  cases hleases with
  | done w' hcompletes hdevices hversion => exact iff_of_false nofun fun h => h hcompletes
  | failed e w' hcompletes hdevices hconfig hrefreshes => exact iff_of_true ⟨e, rfl⟩ hcompletes

theorem find?_clears {g : DeviceDbo → DeviceDbo} {p : DeviceDbo → Bool} (hp : ∀ d, p (g d) = p d)
    (l : List DeviceDbo) : (l.map g).find? p = (l.find? p).map g := by
  rw [List.find?_map]
  exact congrArg (fun q => (l.find? q).map g) (funext hp)

section Clears

variable {g : DeviceDbo → DeviceDbo} (hg : Clears g) (w : World) (lease : DhcpLeaseInformation)

/-- Taking addresses away does not change which row a lease is for. -/
theorem leaseRow_mapDevices : (w.mapDevices g hg).leaseRow lease = (w.leaseRow lease).map g := by
  have hmac (mac : MacAddr) : (w.mapDevices g hg).db.deviceByMac mac = (w.db.deviceByMac mac).map g :=
    find?_clears (fun d => by rw [hg.macAddr]) w.db.devices
  have hduid (duid : String) : (w.mapDevices g hg).db.deviceByDuid duid = (w.db.deviceByDuid duid).map g :=
    find?_clears (fun d => by rw [hg.duid]) w.db.devices
  unfold World.leaseRow Tables.leaseTarget
  cases lease.macAddress <;> cases lease.duid <;> simp [hmac, hduid, Option.map_or]

/-- Taking addresses away changes neither the MUD URL nor the identity that a lease is about to write. -/
theorem leaseDevice_mapDevices :
    ((w.mapDevices g hg).leaseDevice lease).mudUrl = (w.leaseDevice lease).mudUrl ∧
    ((w.mapDevices g hg).leaseDevice lease).toDbo.macDuid = (w.leaseDevice lease).toDbo.macDuid := by
  unfold World.leaseDevice
  rw [leaseRow_mapDevices]
  cases w.leaseRow lease with
  | none => exact ⟨rfl, rfl⟩
  | some d =>
      have hmudUrl : (Device.fromDbo (g d)).mudUrl = (Device.fromDbo d).mudUrl := hg.mudUrl d
      have hmac : (Device.fromDbo (g d)).macAddr = (Device.fromDbo d).macAddr := hg.macAddr d
      have hduid : (Device.fromDbo (g d)).duid = (Device.fromDbo d).duid := hg.duid d
      refine ⟨?_, ?_⟩
      · show (if (Device.fromDbo (g d)).mudUrl.isNone ∧ _ then _ else (Device.fromDbo (g d)).mudUrl) = _
        rw [hmudUrl]
        rfl
      · show (((Device.fromDbo (g d)).apply lease).macAddr.bind fun mac =>
          ((Device.fromDbo (g d)).apply lease).duid.map fun duid => (mac, duid)) = _
        rw [Device.apply_macAddr, Device.apply_duid, hmac, hduid, ← Device.apply_macAddr, ← Device.apply_duid]
        rfl

/-- Taking addresses away does not decide whether a lease completes. -/
theorem leaseCompletes_mapDevices :
    (w.mapDevices g hg).LeaseCompletes lease ↔ w.LeaseCompletes lease := by
  obtain ⟨hmudUrl, hpair⟩ := leaseDevice_mapDevices hg w lease
  have hloaded (url : String) :
      ((w.mapDevices g hg).leaseWorld lease).loaded url = (w.leaseWorld lease).loaded url := by
    unfold World.leaseWorld
    rw [leaseRow_mapDevices]
    cases w.leaseRow lease <;> rfl
  have hloads : (w.mapDevices g hg).LeaseLoads lease ↔ w.LeaseLoads lease := by
    unfold World.LeaseLoads
    rw [hmudUrl]
    simp only [hloaded]
  have hfree : (w.mapDevices g hg).LeasePairFree lease ↔ w.LeasePairFree lease := by
    unfold World.LeasePairFree
    rw [hpair, leaseRow_mapDevices]
    constructor
    · intro h d hd d' hd' hne x hx
      refine h (g d) (Option.mem_map_of_mem g hd) (g d') (List.mem_map_of_mem hd') ?_ x ?_
      · rw [hg.id, hg.id]
        exact hne
      · rw [hg.macDuid]
        exact hx
    · intro h d₁ hd₁ d₁' hd₁' hne x hx
      obtain ⟨d, hd, rfl⟩ := Option.map_eq_some_iff.mp hd₁
      obtain ⟨d', hd', rfl⟩ := List.mem_map.mp hd₁'
      rw [hg.id, hg.id] at hne
      rw [hg.macDuid] at hx
      exact h d hd d' hd' hne x hx
  exact and_congr hloads hfree

end Clears

/-- **A lease that succeeds moves exactly its addresses**, and no lease fails for an address: one fails exactly
    if its profile does not load or another row has its pair of MAC address and DUID, and so also where no row
    has an address. -/
theorem lease_moves_addresses (w : World) (hcanonical : ∀ d ∈ w.db.devices, d.Canonical)
    (lease : DhcpLeaseInformation) :
    (∀ w', (upsertDeviceFromDhcpLease lease).run w = (.ok (), w') →
      (∃ row, w.LeaseWrites lease row ∧
        w'.db.devices = upsertRow (·.id) row (w.db.devices.map (·.yieldTo row))) ∧
      (w'.db.devices.filterMap (·.ipv4Addr)).Nodup ∧ (w'.db.devices.filterMap (·.ipv6Addr)).Nodup) ∧
    ((∃ e, ((upsertDeviceFromDhcpLease lease).run w).1 = .error e) ↔
      ¬ (w.LeaseLoads lease ∧ w.LeasePairFree lease)) ∧
    ((∃ e, ((upsertDeviceFromDhcpLease lease).run w).1 = .error e) ↔
      ∃ e, ((upsertDeviceFromDhcpLease lease).run w.withoutAddresses).1 = .error e) := by
  refine ⟨fun w' hrun => ⟨?_, w'.db.schema.ipv4Unique, w'.db.schema.ipv6Unique⟩, lease_fails_iff w lease, ?_⟩
  · have hleases := lease_leases w lease
    rw [hrun] at hleases
    cases hleases with
    | done _ hcompletes hdevices hversion =>
        rw [hdevices]
        exact leasedDevices_upsert hcanonical lease
  · rw [lease_fails_iff, lease_fails_iff]
    exact not_congr (leaseCompletes_mapDevices clears_withoutAddresses w lease).symm

end

section

attribute [local instance] Reference.platform

theorem oneDevice_canonical : ∀ d ∈ Reference.oneDevice.db.devices, d.Canonical := by
  intro d hd
  cases List.mem_singleton.mp hd
  refine ⟨fun s hs => ⟨⟨0x0A000005⟩, ?_⟩, nofun⟩
  cases hs
  decide

/-- A new device is given the address of the stored one. -/
theorem lease_moves_addresses_taken :
    ∃ row, Reference.oneDevice.LeaseWrites (leaseOf .v4 (.v4 ⟨0x0A000005⟩) (some 2)) row ∧
      (Reference.oneDevice.lease (leaseOf .v4 (.v4 ⟨0x0A000005⟩) (some 2))).db.devices =
        upsertRow (·.id) row (Reference.oneDevice.db.devices.map (·.yieldTo row)) :=
  ((lease_moves_addresses Reference.oneDevice oneDevice_canonical
    (leaseOf .v4 (.v4 ⟨0x0A000005⟩) (some 2))).1 _ rfl).1

end

end MudController
