import MudController.Db.Backend
import MudController.Services.Device

/-!
# `Services.Room` — rooms (`room_service.rs`)
-/

namespace MudController

open Logic

variable [Platform]

namespace RoomService

/-- `get_all_rooms`. -/
def getAllRooms : BackendAction (List Room) := BackendAction.stmt .selectRooms

/-- `find_by_id`. -/
def findById (id : Int) : BackendAction Room := BackendAction.ofWorld (findRoomById id)

/-- `find_by_name`. -/
def findByName (name : String) : BackendAction Room :=
  BackendAction.fetchOne (BackendAction.stmt (.selectRoomByName name))

/-- `update`. -/
def update (room : Room) : BackendAction Bool := do
  let updCount ← BackendAction.execute (BackendAction.stmt (.updateRoom room))
  return updCount == 1

/-- `get_all_devices_inside_room`. -/
def getAllDevicesInsideRoom (roomId : Int) : BackendAction (List Device) := do
  let devices ← BackendAction.stmt (.selectDevicesIn roomId)
  return devices.map Device.fromDbo

/-- `insert_room`: the id of the room is not used. -/
def insertRoom (room : Room) : BackendAction Nat :=
  BackendAction.execute (BackendAction.stmt (.insertRoom room.name room.color))

/-- `delete_room`. -/
def deleteRoom (name : String) : BackendAction Nat :=
  BackendAction.execute (BackendAction.stmt (.deleteRoom name))

end RoomService

end MudController
