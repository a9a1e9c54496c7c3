import MudController.Models.Mud

/-!
# `Models.Device` — devices, leases and rooms (`device_model.rs`, `room_model.rs`)
-/

namespace MudController

open Logic

/-- A row of `rooms`. -/
structure Room where
  roomId : Int
  name : String
  color : String
  deriving DecidableEq

variable [Platform]

/-- A row of `devices`. The address columns hold text. The MAC column holds the text of a MAC address
    (reading anything else panics), so the model keeps the address. -/
structure DeviceDbo where
  id : Int
  name : Option String
  ipv4Addr : Option String
  ipv6Addr : Option String
  macAddr : Option MacAddr
  duid : Option String
  hostname : String
  vendorClass : String
  mudUrl : Option String
  collectInfo : Bool
  lastInteraction : DateTime
  roomId : Option Int
  clipart : Option String
  deriving DecidableEq

structure Device where
  id : Int
  name : Option String
  ipv4Addr : Option Ipv4Addr
  ipv6Addr : Option Ipv6Addr
  macAddr : Option MacAddr
  duid : Option String
  hostname : String
  vendorClass : String
  mudUrl : Option String
  collectInfo : Bool
  lastInteraction : DateTime
  roomId : Option Int
  clipart : Option String
  deriving DecidableEq

structure DeviceWithRefs where
  inner : Device
  room : Option Room
  mudData : Option MudData

/-- `From<DeviceDbo> for Device`: an address column that does not parse is read as absent. -/
def Device.fromDbo (device : DeviceDbo) : Device where
  id := device.id
  name := device.name
  ipv4Addr := device.ipv4Addr.bind parse
  ipv6Addr := device.ipv6Addr.bind parse
  macAddr := device.macAddr
  duid := device.duid
  hostname := device.hostname
  vendorClass := device.vendorClass
  mudUrl := device.mudUrl
  collectInfo := device.collectInfo
  lastInteraction := device.lastInteraction
  roomId := device.roomId
  clipart := device.clipart

/-- The columns that `insert_device` and `update_device` write for a device. -/
def Device.toDbo (device : Device) : DeviceDbo where
  id := device.id
  name := device.name
  ipv4Addr := device.ipv4Addr.map toText
  ipv6Addr := device.ipv6Addr.map toText
  macAddr := device.macAddr
  duid := device.duid
  hostname := device.hostname
  vendorClass := device.vendorClass
  mudUrl := device.mudUrl
  collectInfo := device.collectInfo
  lastInteraction := device.lastInteraction
  roomId := device.roomId
  clipart := device.clipart

/-- What the controller wrote is read back: the two address columns survive their text form. -/
@[simp] theorem Device.fromDbo_toDbo (device : Device) : Device.fromDbo device.toDbo = device := by
  obtain ⟨id, name, v4, v6⟩ := device
  cases v4 <;> cases v6 <;> simp [Device.fromDbo, Device.toDbo]

/-! ## Leases (`namib_shared::models`) -/

inductive DhcpLeaseVersionSpecificInformation where
  | v4
  | v6 (duid : String)
  deriving DecidableEq

/-- A DHCP lease. `ipAddr` is the result of the method `ip_addr()`, and a DUID is kept as its text: the
    controller uses nothing else of it. -/
structure DhcpLeaseInformation where
  versionSpecificInformation : DhcpLeaseVersionSpecificInformation
  ipAddr : IpAddr
  macAddress : Option MacAddr
  mudUrl : Option String
  hostname : Option String
  deriving DecidableEq

/-- `DhcpLeaseInformation::duid`. -/
def DhcpLeaseInformation.duid (lease : DhcpLeaseInformation) : Option String :=
  match lease.versionSpecificInformation with
  | .v4 => none
  | .v6 duid => some duid

/-- `Device::new`, at the time `now`. -/
def Device.new (lease : DhcpLeaseInformation) (collectInfo : Bool) (now : DateTime) : Device where
  id := 0
  name := none
  macAddr := lease.macAddress
  ipv4Addr := match lease.ipAddr with
    | .v4 addr => some addr
    | .v6 _ => none
  ipv6Addr := match lease.ipAddr with
    | .v6 addr => some addr
    | .v4 _ => none
  duid := match lease.versionSpecificInformation with
    | .v6 duid => some duid
    | .v4 => none
  hostname := lease.hostname.getD ""
  vendorClass := ""
  mudUrl := lease.mudUrl
  collectInfo := collectInfo
  lastInteraction := now
  roomId := none
  clipart := none

/-- `Device::apply`: overwrite what the lease carries; a known MUD URL is kept. -/
def Device.apply (device : Device) (lease : DhcpLeaseInformation) : Device :=
  { device with
    ipv4Addr := match lease.ipAddr with
      | .v4 ip => some ip
      | .v6 _ => device.ipv4Addr
    ipv6Addr := match lease.ipAddr with
      | .v4 _ => device.ipv6Addr
      | .v6 ip => some ip
    macAddr := match lease.macAddress with
      | some mac => some mac
      | none => device.macAddr
    duid := match lease.versionSpecificInformation with
      | .v6 duid => some duid
      | .v4 => device.duid
    hostname := match lease.hostname with
      | some hostname => hostname
      | none => device.hostname
    mudUrl := if device.mudUrl.isNone ∧ lease.mudUrl.isSome then lease.mudUrl else device.mudUrl }

theorem Device.apply_macAddr (device : Device) (lease : DhcpLeaseInformation) :
    (device.apply lease).macAddr = lease.macAddress.or device.macAddr := by
  unfold Device.apply
  cases lease.macAddress <;> rfl

theorem Device.apply_duid (device : Device) (lease : DhcpLeaseInformation) :
    (device.apply lease).duid = lease.duid.or device.duid := by
  unfold Device.apply DhcpLeaseInformation.duid
  cases lease.versionSpecificInformation <;> rfl

theorem Device.new_duid (lease : DhcpLeaseInformation) (collects : Bool) (now : DateTime) :
    (Device.new lease collects now).duid = lease.duid := by
  unfold Device.new DhcpLeaseInformation.duid
  cases lease.versionSpecificInformation <;> rfl

end MudController
