import MudController.Routes.Mud
import MudController.Services.Device

/-!
# `Routes.Device` — the device endpoint (`device_controller.rs`)
-/

namespace MudController

open Logic

inductive DeviceType where
  | managed
  | detecting
  | unknown
  deriving DecidableEq

variable [Platform]

/-- `Device::get_type`. -/
def Device.getType (device : Device) : DeviceType :=
  if device.mudUrl.isSome then .managed
  else if device.collectInfo then .detecting
  else .unknown

structure DeviceDto where
  id : Int
  name : Option String
  ipv4Addr : Option String
  ipv6Addr : Option String
  macAddr : Option String
  duid : Option String
  hostname : String
  vendorClass : String
  mudUrl : Option String
  lastInteraction : DateTime
  mudData : Option MudData
  clipart : Option String
  room : Option Room
  type : DeviceType

/-- `From<DeviceWithRefs> for DeviceDto`. -/
def DeviceDto.ofRefs (d : DeviceWithRefs) : DeviceDto where
  id := d.inner.id
  name := d.inner.name
  ipv4Addr := d.inner.ipv4Addr.map toText
  ipv6Addr := d.inner.ipv6Addr.map toText
  macAddr := d.inner.macAddr.map toText
  duid := d.inner.duid
  hostname := d.inner.hostname
  vendorClass := d.inner.vendorClass
  mudUrl := d.inner.mudUrl
  lastInteraction := d.inner.lastInteraction
  mudData := d.mudData
  clipart := d.inner.clipart
  room := d.room
  type := d.inner.getType

/-- `get_all_devices`: `GET /devices`. The first device whose references fail to load ends the list with its
    error. -/
def listDevices (auth : AuthToken) : Action (List DeviceDto) := do
  auth.requirePermission .deviceList
  auth.requirePermission .deviceRead
  let devices ← getAllDevices
  let refs ← devices.mapM loadRefs
  return refs.map DeviceDto.ofRefs

/-! ## Creating and updating -/

/-- The body of a creation or of an update. A field that the request leaves out is `none`. -/
structure DeviceCreationUpdateDto where
  name : Option String := none
  ipv4Addr : Option String := none
  ipv6Addr : Option String := none
  macAddr : Option String := none
  duid : Option String := none
  hostname : Option String := none
  vendorClass : Option String := none
  mudUrl : Option String := none
  mudUrlFromGuess : Option Bool := none
  clipart : Option String := none
  roomId : Option Int := none
  collectInfo : Option Bool := none

/-- `Validate::validate`: the only bound is on the clipart. -/
def DeviceCreationUpdateDto.validate (dto : DeviceCreationUpdateDto) : Bool :=
  dto.clipart.all (·.length ≤ 512)

/-- The MAC address of a new device. -/
def DeviceCreationUpdateDto.newMacAddr (dto : DeviceCreationUpdateDto) : Except Error (Option MacAddr) :=
  match dto.macAddr with
  | none => .ok none
  | some m =>
    match parse m with
    | some mac => .ok (some mac)
    | none => .error .macParseError

/-- `into_device`, at the time `now`. The name of the request is not used. -/
def DeviceCreationUpdateDto.intoDevice (dto : DeviceCreationUpdateDto) (collectInfo : Bool)
    (now : DateTime) : Except Error Device := do
  let macAddr ← dto.newMacAddr
  return {
    id := 0
    name := none
    macAddr := macAddr
    duid := dto.duid
    ipv4Addr := dto.ipv4Addr.bind parse
    ipv6Addr := dto.ipv6Addr.bind parse
    hostname := dto.hostname.getD ""
    vendorClass := dto.vendorClass.getD ""
    mudUrl := dto.mudUrl
    collectInfo := dto.collectInfo.getD collectInfo
    lastInteraction := now
    clipart := dto.clipart
    roomId := dto.roomId }

/-- `apply_to`. An address that does not parse takes the stored one away, a MAC address too. -/
def DeviceCreationUpdateDto.applyTo (dto : DeviceCreationUpdateDto) (device : Device) : Device :=
  { device with
    name := match dto.name with
      | some name => some name
      | none => device.name
    ipv4Addr := match dto.ipv4Addr with
      | some v4 => parse v4
      | none => device.ipv4Addr
    ipv6Addr := match dto.ipv6Addr with
      | some v6 => parse v6
      | none => device.ipv6Addr
    mudUrl := match dto.mudUrl with
      | some mudUrl => some mudUrl
      | none => device.mudUrl
    hostname := match dto.hostname with
      | some hostname => hostname
      | none => device.hostname
    vendorClass := match dto.vendorClass with
      | some vendorClass => vendorClass
      | none => device.vendorClass
    clipart := match dto.clipart with
      | some clipart => some clipart
      | none => device.clipart
    roomId := match dto.roomId with
      | some roomId => some roomId
      | none => device.roomId
    macAddr := match dto.macAddr with
      | some macAddr => parse macAddr
      | none => device.macAddr
    duid := match dto.duid with
      | some duid => some duid
      | none => device.duid
    collectInfo := match dto.collectInfo with
      | some collectInfo => collectInfo
      | none => device.collectInfo }

/-- `Device::mac_or_duid`: `none` where the unwrapping panics. -/
def Device.macOrDuid (device : Device) : Option String := (device.macAddr.map toText).or device.duid

/-- The validation of a request body. -/
def validateDto (dto : DeviceCreationUpdateDto) : Action Unit :=
  if dto.validate then return () else Prog.fail (.responseError 400 none)

/-- `find_device`. -/
def findDevice (id : Int) : Action Device := orNotFound (findById id) "No device with this Id found"

/-- What an update tells the neo4things service, in the background. -/
def notifyThings (device : Device) (mudUrlFromGuess collectInfoBefore : Bool) : Action Unit := do
  match mudUrlFromGuess, device.mudUrl with
  | true, some mudUrl =>
    match device.macOrDuid with
    | some macOrDuid => stmt (.spawn (.describeThing macOrDuid mudUrl))
    | none => Prog.fail .panicked
  | _, _ =>
    if device.collectInfo && !collectInfoBefore then stmt (.spawn (.addDevice device.id device))
    else return ()

namespace DeviceController

/-- `create_device`: `POST /devices`. -/
def createDevice (auth : AuthToken) (dto : DeviceCreationUpdateDto) : Action DeviceDto := do
  auth.requirePermission .deviceWrite
  validateDto dto
  let collectInfo := dto.mudUrl.isNone
  let device ← Prog.ofExcept (dto.intoDevice collectInfo (← now))
  let id ← insertDevice (← loadRefs device)
  let createdDevice ← findDevice id
  return DeviceDto.ofRefs (← loadRefs createdDevice)

/-- `update_device`: `PUT /devices/{id}`. -/
def updateDevice (auth : AuthToken) (id : Int) (dto : DeviceCreationUpdateDto) : Action DeviceDto := do
  auth.requirePermission .deviceWrite
  validateDto dto
  let device ← findDevice id
  let collectInfoBefore := device.collectInfo
  let mudUrlFromGuess := dto.mudUrlFromGuess.getD false
  -- every column is written back, also those that the request leaves out
  let deviceWithRefs ← loadRefs (dto.applyTo device)
  let _ ← MudController.updateDevice deviceWithRefs
  notifyThings deviceWithRefs.inner mudUrlFromGuess collectInfoBefore
  return DeviceDto.ofRefs deviceWithRefs

end DeviceController

end MudController
