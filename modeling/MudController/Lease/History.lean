import MudController.Reference

/-!
# `Lease.History` — the leases of a device determine it

A device that leases have introduced and updated has the first MUD URL that one of them offered, the last of
everything else that leases carry, and the rest as it was introduced (`lease_history`).
-/

namespace MudController

open Logic

section

variable [Platform]

/-- A device of which nothing is known. -/
def Device.blank (collectInfo : Bool) (now : DateTime) : Device where
  id := 0
  name := none
  ipv4Addr := none
  ipv6Addr := none
  macAddr := none
  duid := none
  hostname := ""
  vendorClass := ""
  mudUrl := none
  collectInfo := collectInfo
  lastInteraction := now
  roomId := none
  clipart := none

/-- The address of a lease has the IP version of its other information. -/
def DhcpLeaseInformation.VersionAgrees (lease : DhcpLeaseInformation) : Prop :=
  lease.versionSpecificInformation = .v4 ↔ ∃ addr, lease.ipAddr = .v4 addr

/-- The leases of an IPv4 address. -/
def ipv4Leases (leases : List DhcpLeaseInformation) : List DhcpLeaseInformation :=
  leases.filter (·.versionSpecificInformation = .v4)

/-- The leases of an IPv6 address. -/
def ipv6Leases (leases : List DhcpLeaseInformation) : List DhcpLeaseInformation :=
  leases.filter (·.versionSpecificInformation ≠ .v4)

/-- A device has of each field what its leases have offered first or last. -/
structure Device.Determined (leases : List DhcpLeaseInformation) (device : Device) : Prop where
  mudUrl : device.mudUrl = (leases.filterMap (·.mudUrl)).head?
  hostname : device.hostname = (leases.filterMap (·.hostname)).getLast?.getD ""
  macAddr : device.macAddr = (leases.filterMap (·.macAddress)).getLast?
  duid : device.duid = (leases.filterMap (·.duid)).getLast?
  ipv4Addr : device.ipv4Addr.map IpAddr.v4 = (ipv4Leases leases).getLast?.map (·.ipAddr)
  ipv6Addr : device.ipv6Addr.map IpAddr.v6 = (ipv6Leases leases).getLast?.map (·.ipAddr)

/-- Two devices have the same fields that leases do not carry. -/
structure Device.SameRecord (a b : Device) : Prop where
  id : a.id = b.id
  name : a.name = b.name
  vendorClass : a.vendorClass = b.vendorClass
  collectInfo : a.collectInfo = b.collectInfo
  lastInteraction : a.lastInteraction = b.lastInteraction
  roomId : a.roomId = b.roomId
  clipart : a.clipart = b.clipart

/-! ## What was offered first and last -/

omit [Platform] in
theorem head?_filterMap_snoc {α β : Type} (f : α → Option β) (l : List α) (a : α) :
    ((l ++ [a]).filterMap f).head? = ((l.filterMap f).head?).or (f a) := by
  rw [List.filterMap_append, List.head?_append]
  cases h : f a <;> simp [h]

omit [Platform] in
theorem getLast?_filterMap_snoc {α β : Type} (f : α → Option β) (l : List α) (a : α) :
    ((l ++ [a]).filterMap f).getLast? = (f a).or (l.filterMap f).getLast? := by
  rw [List.filterMap_append, List.getLast?_append]
  cases h : f a <;> simp [h]

omit [Platform] in
theorem getLast?_filter_snoc {α : Type} (p : α → Bool) (l : List α) (a : α) :
    ((l ++ [a]).filter p).getLast? = if p a then some a else (l.filter p).getLast? := by
  rw [List.filter_append, List.getLast?_append]
  cases h : p a <;> simp [h]

/-! ## One lease -/

theorem Device.apply_hostname (device : Device) (lease : DhcpLeaseInformation) :
    (device.apply lease).hostname = lease.hostname.getD device.hostname := by
  unfold Device.apply
  cases lease.hostname <;> rfl

theorem Device.apply_mudUrl (device : Device) (lease : DhcpLeaseInformation) :
    (device.apply lease).mudUrl = device.mudUrl.or lease.mudUrl := by
  unfold Device.apply
  cases device.mudUrl <;> cases lease.mudUrl <;> rfl

theorem DhcpLeaseInformation.VersionAgrees.ne_v4 {lease : DhcpLeaseInformation} (hversion : lease.VersionAgrees)
    {addr : Ipv6Addr} (haddr : lease.ipAddr = .v6 addr) : lease.versionSpecificInformation ≠ .v4 := by
  intro hv4
  obtain ⟨addr', haddr'⟩ := hversion.mp hv4
  rw [haddr] at haddr'
  cases haddr'

theorem Device.apply_ipv4Addr {lease : DhcpLeaseInformation} (hversion : lease.VersionAgrees) (device : Device) :
    (device.apply lease).ipv4Addr.map IpAddr.v4 =
      if lease.versionSpecificInformation = .v4 then some lease.ipAddr else device.ipv4Addr.map IpAddr.v4 := by
  unfold Device.apply
  cases haddr : lease.ipAddr with
  | v4 addr => rw [if_pos (hversion.mpr ⟨addr, haddr⟩)]; rfl
  | v6 addr => rw [if_neg (hversion.ne_v4 haddr)]

theorem Device.apply_ipv6Addr {lease : DhcpLeaseInformation} (hversion : lease.VersionAgrees) (device : Device) :
    (device.apply lease).ipv6Addr.map IpAddr.v6 =
      if lease.versionSpecificInformation = .v4 then device.ipv6Addr.map IpAddr.v6 else some lease.ipAddr := by
  unfold Device.apply
  cases haddr : lease.ipAddr with
  | v4 addr => rw [if_pos (hversion.mpr ⟨addr, haddr⟩)]
  | v6 addr => rw [if_neg (hversion.ne_v4 haddr)]; rfl

/-- **`new` is `apply` on a blank device.** -/
theorem Device.new_eq_apply (lease : DhcpLeaseInformation) (collectInfo : Bool) (now : DateTime) :
    Device.new lease collectInfo now = (Device.blank collectInfo now).apply lease := by
  obtain ⟨information, ipAddr, macAddress, mudUrl, hostname⟩ := lease
  cases information <;> cases ipAddr <;> cases macAddress <;> cases mudUrl <;> cases hostname <;> rfl

/-- Applying a lease once more changes nothing. -/
theorem Device.apply_apply (device : Device) (lease : DhcpLeaseInformation) :
    (device.apply lease).apply lease = device.apply lease := by
  obtain ⟨information, ipAddr, macAddress, mudUrl, hostname⟩ := lease
  obtain ⟨id, name, ipv4Addr, ipv6Addr, mac, duid, host, vendorClass, url, collectInfo, now, roomId, clipart⟩ := device
  cases information <;> cases ipAddr <;> cases macAddress <;> cases mudUrl <;> cases hostname <;> cases url <;> rfl

theorem Device.determined_blank (collectInfo : Bool) (now : DateTime) :
    Device.Determined [] (Device.blank collectInfo now) :=
  ⟨rfl, rfl, rfl, rfl, rfl, rfl⟩

/-- **One lease more.** -/
theorem Device.Determined.apply {leases : List DhcpLeaseInformation} {device : Device}
    (h : Device.Determined leases device) {lease : DhcpLeaseInformation} (hversion : lease.VersionAgrees) :
    Device.Determined (leases ++ [lease]) (device.apply lease) where
  mudUrl := by rw [Device.apply_mudUrl, head?_filterMap_snoc, h.mudUrl]
  hostname := by
    rw [Device.apply_hostname, getLast?_filterMap_snoc, h.hostname]
    cases lease.hostname <;> rfl
  macAddr := by rw [Device.apply_macAddr, getLast?_filterMap_snoc, h.macAddr]
  duid := by rw [Device.apply_duid, getLast?_filterMap_snoc, h.duid]
  ipv4Addr := by
    unfold ipv4Leases
    rw [Device.apply_ipv4Addr hversion, getLast?_filter_snoc, h.ipv4Addr]
    by_cases hv4 : lease.versionSpecificInformation = .v4
    · rw [if_pos hv4, if_pos (decide_eq_true hv4), Option.map_some]
    · rw [if_neg hv4, if_neg (by simpa using hv4)]
      rfl
  ipv6Addr := by
    unfold ipv6Leases
    rw [Device.apply_ipv6Addr hversion, getLast?_filter_snoc, h.ipv6Addr]
    by_cases hv4 : lease.versionSpecificInformation = .v4
    · rw [if_pos hv4, if_neg (by simpa using hv4)]
      rfl
    · rw [if_neg hv4, if_pos (by simpa using hv4), Option.map_some]

/-! ## Any number of leases -/

theorem Device.Determined.foldl {leases : List DhcpLeaseInformation} {device : Device}
    (h : Device.Determined leases device) (rest : List DhcpLeaseInformation)
    (hversion : ∀ lease ∈ rest, lease.VersionAgrees) :
    Device.Determined (leases ++ rest) (rest.foldl Device.apply device) := by
  induction rest generalizing leases device with
  | nil => rwa [List.append_nil]
  | cons lease rest ih =>
      obtain ⟨hfirst, hrest⟩ := List.forall_mem_cons.mp hversion
      have hnext := ih (h.apply hfirst) hrest
      rwa [List.append_assoc] at hnext

theorem Device.sameRecord_foldl (rest : List DhcpLeaseInformation) (device : Device) :
    Device.SameRecord (rest.foldl Device.apply device) device := by
  induction rest generalizing device with
  | nil => exact ⟨rfl, rfl, rfl, rfl, rfl, rfl, rfl⟩
  | cons lease rest ih =>
      have hrest := ih (device.apply lease)
      exact ⟨hrest.id, hrest.name, hrest.vendorClass, hrest.collectInfo, hrest.lastInteraction, hrest.roomId,
        hrest.clipart⟩

/-- **The leases of a device determine it**; `new` agrees with `apply`, and a lease can be applied again. -/
theorem lease_history (first : DhcpLeaseInformation) (rest : List DhcpLeaseInformation) (collectInfo : Bool)
    (now : DateTime) (hversion : ∀ lease ∈ first :: rest, lease.VersionAgrees) :
    Device.Determined (first :: rest) (rest.foldl Device.apply (Device.new first collectInfo now)) ∧
    Device.SameRecord (rest.foldl Device.apply (Device.new first collectInfo now))
      (Device.new first collectInfo now) ∧
    Device.new first collectInfo now = (Device.blank collectInfo now).apply first ∧
    ∀ (device : Device) (lease : DhcpLeaseInformation),
      (device.apply lease).apply lease = device.apply lease := by
  refine ⟨?_, Device.sameRecord_foldl rest _, Device.new_eq_apply first collectInfo now, Device.apply_apply⟩
  rw [Device.new_eq_apply]
  exact (Device.determined_blank collectInfo now).foldl (first :: rest) hversion

end

section

attribute [local instance] Reference.platform

/-- A device that gets an IPv4 address, an IPv6 address and another IPv4 address. -/
def roamingLeases : List DhcpLeaseInformation :=
  [{ versionSpecificInformation := .v6 "00:01", ipAddr := .v6 ⟨1⟩, macAddress := none, mudUrl := none,
     hostname := some "lamp" },
   { versionSpecificInformation := .v4, ipAddr := .v4 ⟨0x0A000006⟩, macAddress := none, mudUrl := some lampUrl,
     hostname := none }]

/-- Such a device, introduced by an IPv4 lease. -/
theorem lease_history_roaming :
    Device.Determined (⟨.v4, .v4 ⟨0x0A000005⟩, some (1 : BitVec 48), none, none⟩ :: roamingLeases)
      (roamingLeases.foldl Device.apply
        (Device.new ⟨.v4, .v4 ⟨0x0A000005⟩, some (1 : BitVec 48), none, none⟩ true 0)) := by
  refine (lease_history ⟨.v4, .v4 ⟨0x0A000005⟩, some (1 : BitVec 48), none, none⟩ roamingLeases true 0 ?_).1
  have hv4 (addr : Ipv4Addr) (lease : DhcpLeaseInformation) (h : lease.versionSpecificInformation = .v4)
      (haddr : lease.ipAddr = .v4 addr) : lease.VersionAgrees :=
    iff_of_true h ⟨addr, haddr⟩
  simp only [roamingLeases, List.forall_mem_cons]
  refine ⟨hv4 _ _ rfl rfl, ⟨nofun, ?_⟩, hv4 _ _ rfl rfl, nofun⟩
  rintro ⟨addr, haddr⟩
  cases haddr

end

end MudController
