import MudController.Routes.Device
import MudController.Routes.Token
import MudController.Services.Enforcer
import MudController.Services.Room

/-!
# `Routes.Room` — rooms, enforcers, and single devices and settings

The endpoints of `room_controller.rs` and `enforcer_controller.rs`, and those of `device_controller.rs` and
`config_controller.rs` that look up or delete by key.
-/

namespace MudController

open Logic

variable [Platform]

/-! ## Rooms -/

structure RoomDto where
  id : Int
  name : String
  color : String
  deriving DecidableEq

/-- `From<Room> for RoomDto`. -/
def RoomDto.ofRoom (room : Room) : RoomDto := ⟨room.roomId, room.name, room.color⟩

structure RoomCreationUpdateDto where
  name : String
  color : String

/-- The validators: `length(max = 50)` and `length(max = 10)`. -/
def RoomCreationUpdateDto.validate (dto : RoomCreationUpdateDto) : Bool :=
  decide (dto.name.length ≤ 50) && decide (dto.color.length ≤ 10)

/-- `into_room`. -/
def RoomCreationUpdateDto.intoRoom (dto : RoomCreationUpdateDto) (id : Int) : Room := ⟨id, dto.name, dto.color⟩

namespace RoomController

/-- `get_all_rooms`: `GET /rooms`. -/
def getAllRooms (auth : Claims) : BackendAction (List RoomDto) := do
  auth.requirePermission .roomList
  auth.requirePermission .roomRead
  let res ← RoomService.getAllRooms
  return res.map RoomDto.ofRoom

/-- `get_room`: `GET /rooms/{id}`. -/
def getRoom (auth : Claims) (id : Int) : BackendAction RoomDto := do
  auth.requirePermission .roomRead
  let res ← BackendAction.orElse (RoomService.findById id) 404 (some "Room can not be found.")
  return RoomDto.ofRoom res

/-- `get_all_devices_inside_room`: `GET /rooms/{id}/devices`. -/
def getAllDevicesInsideRoom (auth : Claims) (id : Int) : BackendAction (List DeviceDto) := do
  auth.requirePermission .roomRead
  auth.requirePermission .deviceList
  auth.requirePermission .deviceRead
  let _ ← BackendAction.orElse (RoomService.findById id) 404 (some "Room can not be found.")
  let res ← BackendAction.orElse (RoomService.getAllDevicesInsideRoom id) 404
    (some "No devices found in the room.")
  let refs ← BackendAction.ofWorld (res.mapM loadRefs)
  return refs.map DeviceDto.ofRefs

/-- `create_room`: `POST /rooms`. It asks for `room/write`; nothing asks for `room/create`. -/
def createRoom (auth : Claims) (dto : RoomCreationUpdateDto) : BackendAction RoomDto := do
  auth.requirePermission .roomWrite
  BackendAction.validated dto.validate none
  match ← (RoomService.findByName dto.name).attempt with
  | .ok _ => Prog.fail (.responseError 409 (some "Room already exists."))
  | .error _ =>
    let room := dto.intoRoom 0
    let _ ← RoomService.insertRoom room
    let res ← BackendAction.orElse (RoomService.findByName room.name) 404 (some "Could not insert room.")
    return RoomDto.ofRoom res

/-- The room that has the name; a name that cannot be looked up counts as the given room's own. -/
def nameHolder (name : String) (id : Int) : BackendAction Int := do
  match ← (RoomService.findByName name).attempt with
  | .ok room => return room.roomId
  | .error _ => return id

/-- `update_room`: `PUT /rooms/{id}`. -/
def updateRoom (auth : Claims) (id : Int) (dto : RoomCreationUpdateDto) : BackendAction RoomDto := do
  auth.requirePermission .roomWrite
  BackendAction.validated dto.validate none
  let room := dto.intoRoom id
  let holder ← nameHolder room.name id
  if holder ≠ id then Prog.fail (.responseError 409 (some "Room already exists."))
  else
    let updated ← BackendAction.orElse (RoomService.update room) 400 (some "Could not update room.")
    if updated then return RoomDto.ofRoom room
    else Prog.fail (.responseError 404 (some "Room can not be found."))

/-- `delete_room`: `DELETE /rooms/{id}`. The room is found by its id and deleted by its name. -/
def deleteRoom (auth : Claims) (id : Int) : BackendAction Unit := do
  auth.requirePermission .roomDelete
  let room ← BackendAction.orElse (RoomService.findById id) 404 none
  let _ ← RoomService.deleteRoom room.name
  return ()

end RoomController

/-! ## Enforcers -/

namespace EnforcerService

/-- `get_enforcers`. -/
def getEnforcers : BackendAction (List EnforcerDbo) := BackendAction.stmt .selectEnforcers

/-- `get_enforcer`. -/
def getEnforcer (certId : String) : EnforcerAction EnforcerDbo :=
  EnforcerAction.fetchOne (EnforcerAction.stmt (.selectEnforcer certId))

end EnforcerService

namespace EnforcerController

/-- `get_enforcers`: `GET /enforcers`. -/
def getEnforcers (auth : Claims) : BackendAction (List EnforcerDbo) := do
  auth.requirePermission .enforcerRead
  auth.requirePermission .enforcerList
  EnforcerService.getEnforcers

/-- `get_enforcer`: `GET /enforcers/{cert_id}`. -/
def getEnforcer (auth : Claims) (certId : String) : BackendAction EnforcerDbo := do
  auth.requirePermission .enforcerRead
  BackendAction.ofEnforcers (EnforcerService.getEnforcer certId)

/-- `update_enforcer`: `PUT /enforcers/{cert_id}`. -/
def updateEnforcer (auth : Claims) (certId : String) (allowed : Bool) : BackendAction EnforcerDbo := do
  auth.requirePermission .enforcerUpdate
  BackendAction.ofEnforcers (EnforcerService.setEnforcerAllowed certId allowed)

end EnforcerController

/-! ## Single devices -/

namespace DeviceController

/-- `get_device`: `GET /devices/{id}`. -/
def getDevice (auth : AuthToken) (id : Int) : Action DeviceDto := do
  auth.requirePermission .deviceRead
  let device ← findDevice id
  return DeviceDto.ofRefs (← loadRefs device)

/-- `delete_device`: `DELETE /devices/{id}`. -/
def deleteDevice (auth : AuthToken) (id : Int) : Action Unit := do
  auth.requirePermission .deviceDelete
  let existingDevice ← findDevice id
  let _ ← MudController.deleteDevice existingDevice.id
  return ()

/-- `guess_thing`: `GET /devices/{id}/guesses`, up to the identifier that the neo4things service is asked about. -/
def guessThing (auth : AuthToken) (id : Int) : Action String := do
  auth.requirePermission .deviceRead
  let device ← findDevice id
  match device.macOrDuid with
  | some identifier => return identifier
  | none => Prog.fail .panicked

end DeviceController

/-! ## Settings of the system -/

namespace ConfigController

/-- The `HashMap<String, String>` of a request, in the order in which it is iterated. -/
structure ConfigSetDto where
  entries : List (String × String)
  keys : (entries.map (·.1)).Nodup

/-- `set_configs`: `PATCH /config`. Every key may be set, the token secret too. -/
def setConfigs (auth : AuthToken) (configSetDto : ConfigSetDto) : Action ConfigMap := do
  auth.requirePermission .configWrite
  configSetDto.entries.forM fun entry => setConfigValue entry.1 entry.2
  getConfigsLoop ConfigMap.empty (configSetDto.entries.map (·.1))

/-- The loop of `delete_config`, into the `HashMap<String, bool>` of the response. -/
def deleteConfigLoop (deletionMap : String → Option Bool) : List String → Action (String → Option Bool)
  | [] => return deletionMap
  | key :: rest => do
    let value ← deleteConfigKey key
    deleteConfigLoop (Function.update deletionMap key (some value)) rest

/-- `delete_config`: `DELETE /config`. -/
def deleteConfig (auth : AuthToken) (configDeleteDto : List String) : Action (String → Option Bool) := do
  auth.requirePermission .configDelete
  deleteConfigLoop (fun _ => none) configDeleteDto

end ConfigController

end MudController
