import MudController.Services.Mud

/-!
# `Services.Device` — stored devices and DHCP leases (`device_service.rs`, `device_model.rs`)
-/

namespace MudController

open Logic

variable [Platform]

/-- `room_service::find_by_id`. -/
def findRoomById (id : Int) : Action Room := fetchOne (stmt (.selectRoom id))

/-- The first half of `Device::load_refs`. -/
def loadRoom (roomId : Option Int) : Action (Option Room) := do
  match roomId with
  | some roomId => return some (← findRoomById roomId)
  | none => return none

/-- The second half of `Device::load_refs`: the profile may be fetched for it. -/
def loadMudData (mudUrl : Option String) : Action (Option MudData) := do
  match mudUrl with
  | some mudUrl => return some (← getOrFetchMud mudUrl)
  | none => return none

/-- `Device::load_refs`. -/
def loadRefs (device : Device) : Action DeviceWithRefs := do
  let room ← loadRoom device.roomId
  let mudData ← loadMudData device.mudUrl
  return { inner := device, room := room, mudData := mudData }

/-- `get_all_devices` of the service. -/
def getAllDevices : Action (List Device) := do
  let devices ← stmt .selectDevices
  return devices.map Device.fromDbo

/-- `find_by_id`. -/
def findById (id : Int) : Action Device := do
  let device ← fetchOne (stmt (.selectDeviceById id))
  return Device.fromDbo device

/-- The first lookup of `find_by_mac_or_duid`. -/
def selectByMac (macAddr : Option MacAddr) : Action (Option DeviceDbo) := do
  match macAddr with
  | some macAddr => stmt (.selectDeviceByMac macAddr)
  | none => return none

/-- The second lookup of `find_by_mac_or_duid`, made only if the first found nothing. -/
def selectByDuid (device : Option DeviceDbo) (duid : Option String) : Action (Option DeviceDbo) := do
  match device, duid with
  | none, some duid => stmt (.selectDeviceByDuid duid)
  | device, _ => return device

/-- `find_by_mac_or_duid`. -/
def findByMacOrDuid (macAddr : Option MacAddr) (duid : Option String) : Action Device := do
  let byMac ← selectByMac macAddr
  let device ← selectByDuid byMac duid
  match device with
  | some device => return Device.fromDbo device
  | none => Prog.fail (.databaseError .rowNotFound)

/-- `insert_device`. -/
def insertDevice (deviceData : DeviceWithRefs) : Action Int := do
  let result ← execute (stmt (.insertDevice deviceData.inner.toDbo))
  if deviceData.inner.collectInfo then
    -- runs in the background; its outcome is never asked for
    stmt (.spawn (.addDevice result deviceData.inner))
  updateConfigVersion
  return result

/-- `update_device` of the service. -/
def updateDevice (deviceData : DeviceWithRefs) : Action Bool := do
  let updCount ← execute (stmt (.updateDevice deviceData.inner.toDbo))
  -- announced even if there was no row to update
  updateConfigVersion
  return updCount == 1

/-- `delete_device` of the service. -/
def deleteDevice (id : Int) : Action Bool := do
  let delCount ← execute (stmt (.deleteDevice id))
  updateConfigVersion
  return delCount == 1

/-- The first half of `remove_existing_ips`. -/
def removeExistingIpv4 (ipv4 : Option Ipv4Addr) : Action Unit := do
  match ipv4 with
  | some ipv4 =>
    let _ ← execute (stmt (.clearIpv4 (toText ipv4)))
    return ()
  | none => return ()

/-- The second half of `remove_existing_ips`. -/
def removeExistingIpv6 (ipv6 : Option Ipv6Addr) : Action Unit := do
  match ipv6 with
  | some ipv6 =>
    let _ ← execute (stmt (.clearIpv6 (toText ipv6)))
    return ()
  | none => return ()

/-- `remove_existing_ips`. -/
def removeExistingIps (ipv4 : Option Ipv4Addr) (ipv6 : Option Ipv6Addr) : Action Unit := do
  removeExistingIpv4 ipv4
  removeExistingIpv6 ipv6

/-- Whether a device that a lease introduces collects data: not if the lease brings a MUD URL. -/
def leaseCollectInfo (lease : DhcpLeaseInformation) : Action Bool := do
  if lease.mudUrl.isNone then
    unwrapOr (getConfigValue Bool ConfigKeys.collectDeviceData.asRef) false
  else return false

/-- The first branch of `upsert_device_from_dhcp_lease`: a known device. -/
def updateLeasedDevice (device : Device) : Action Unit := do
  -- not rolled back if what follows fails
  removeExistingIps device.ipv4Addr device.ipv6Addr
  let deviceData ← loadRefs device
  let _ ← updateDevice deviceData
  return ()

/-- The second branch of `upsert_device_from_dhcp_lease`: a new device. -/
def insertLeasedDevice (lease : DhcpLeaseInformation) : Action Unit := do
  let collectInfo ← leaseCollectInfo lease
  let device := Device.new lease collectInfo (← now)
  removeExistingIps device.ipv4Addr device.ipv6Addr
  let deviceData ← loadRefs device
  let _ ← insertDevice deviceData
  return ()

/-- `upsert_device_from_dhcp_lease`. -/
def upsertDeviceFromDhcpLease (lease : DhcpLeaseInformation) : Action Unit := do
  match ← (findByMacOrDuid lease.macAddress lease.duid).attempt with
  | .ok device => updateLeasedDevice (device.apply lease)
  -- any error of the lookup, not only a missing row, makes it a new device
  | .error _ => insertLeasedDevice lease

end MudController
