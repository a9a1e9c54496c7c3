import MudController.Db.Accounts
import MudController.Db.Enforcers
import MudController.Db.Stmt
import MudController.Logic.Embedding

/-!
# `Db.Backend` — the whole database

The requests of the API work on all of the tables: the accounts, the settings that users keep, the enforcers, and
the devices, profiles, rooms and configuration of the main world, whose clock is the one clock of the process. A
`Backend` puts the parts together with the constraints between them. The statements of a part are its own
(`account`, `world`, `enforcer`); the others are those that only requests of the API make.
-/

namespace MudController

open Logic

/-- A row of `user_configs`. -/
structure UserConfig where
  key : String
  userId : Int
  value : String
  deriving DecidableEq

/-- The columns of `PRIMARY KEY (key, user_id)`. -/
def UserConfig.primaryKey (config : UserConfig) : String × Int := (config.key, config.userId)

variable [Platform]

structure Backend where
  accounts : Accounts
  userConfigs : List UserConfig
  enforcers : EnforcerTable
  world : World
  /-- The largest room id handed out so far. -/
  roomSeq : Int
  userConfigKeys : (userConfigs.map UserConfig.primaryKey).Nodup
  userConfigRef : ∀ config ∈ userConfigs, config.userId ∈ accounts.users.map (·.id)
  roomIds : ∀ room ∈ world.db.rooms, room.roomId ≤ roomSeq
  roomNames : (world.db.rooms.map (·.name)).Nodup

/-! ## Writing statements -/

/-- `UPDATE users SET … WHERE id = …`, with a change that leaves the id alone. -/
def AccountTables.updateUser (t : AccountTables) (id : Int) (f : UserDbo → UserDbo) : AccountTables :=
  { t with users := t.users.map fun user => if user.id = id then f user else user }

/-- `SELECT * FROM users WHERE username = $1`. -/
def AccountTables.userByName (t : AccountTables) (username : String) : Option UserDbo :=
  t.users.find? (·.username = username)

/-- The row with another name and another password. -/
def UserDbo.withCredentials (username password : String) (salt : List UInt8) (user : UserDbo) : UserDbo :=
  { user with username := username, password := password, salt := salt }

/-- The row with another password. -/
def UserDbo.withPassword (password : String) (salt : List UInt8) (user : UserDbo) : UserDbo :=
  { user with password := password, salt := salt }

/-- The row of a user who was seen. -/
def UserDbo.seenAt (stamp : DateTime) (user : UserDbo) : UserDbo := { user with lastInteraction := stamp }

/-- `INSERT INTO rooms …`. -/
def Tables.insertRoom (t : Tables) (id : Int) (name color : String) : Tables :=
  { t with rooms := t.rooms ++ [⟨id, name, color⟩] }

/-- `UPDATE rooms SET name = $1, color = $2 WHERE room_id = $3`. -/
def Tables.updateRoom (t : Tables) (room : Room) : Tables := { t with rooms := replaceRow (·.roomId) room t.rooms }

/-- `DELETE FROM rooms WHERE name = $1`: the devices in the room are in none after it. -/
def Tables.deleteRoom (t : Tables) (name : String) : Tables :=
  { t with
    rooms := t.rooms.filter (·.name ≠ name)
    devices := t.devices.map fun device =>
      if device.roomId ∈ ((t.rooms.filter (·.name = name)).map fun room => some room.roomId) then
        { device with roomId := none }
      else device }

namespace Backend

/-- The users that a statement leaves behind keep their settings (`ON DELETE CASCADE`). -/
def withAccounts (b : Backend) (accounts : Accounts) : Backend :=
  { b with
    accounts := accounts
    userConfigs := b.userConfigs.filter fun config => config.userId ∈ accounts.users.map (·.id)
    userConfigKeys := b.userConfigKeys.sublist (List.filter_sublist.map _)
    userConfigRef := fun _ hconfig => of_decide_eq_true (List.mem_filter.mp hconfig).2 }

/-- Execute a write on the accounts. -/
def writeAccounts {α : Type} (b : Backend) (f : AccountTables → AccountTables) (answer : α) :
    Except DbError α × Backend :=
  ((b.accounts.write f answer).1, b.withAccounts (b.accounts.write f answer).2)

/-- A world with the same rooms. -/
def withWorld (b : Backend) (world : World) (h : world.db.rooms = b.world.db.rooms) : Backend :=
  { b with
    world := world
    roomIds := fun room hroom => b.roomIds room (h ▸ hroom)
    roomNames := h ▸ b.roomNames }

/-- Execute a write on the rooms. -/
def writeRooms {α : Type} (b : Backend) (f : Tables → Tables) (roomSeq : Int) (answer : α) :
    Except DbError α × Backend :=
  if h : Schema (f b.world.db.toTables) ∧ (∀ room ∈ (f b.world.db.toTables).rooms, room.roomId ≤ roomSeq) ∧
      ((f b.world.db.toTables).rooms.map (·.name)).Nodup then
    (.ok answer,
      { b with
        world := { b.world with db := ⟨f b.world.db.toTables, h.1⟩ }
        roomSeq := roomSeq
        roomIds := h.2.1
        roomNames := h.2.2 })
  else (.error .constraint, b)

/-- `SELECT * FROM user_configs WHERE user_id = $1`. -/
def configsOf (b : Backend) (userId : Int) : List UserConfig := b.userConfigs.filter (·.userId = userId)

/-- `SELECT * FROM user_configs WHERE user_id = $1 AND key = $2`. -/
def configOf (b : Backend) (userId : Int) (key : String) : Option UserConfig :=
  b.userConfigs.find? (·.primaryKey = (key, userId))

/-- `INSERT INTO user_configs … ON CONFLICT(user_id, key) DO UPDATE SET value = excluded.value`. -/
def upsertUserConfig (b : Backend) (config : UserConfig) : Written × Backend :=
  if h : config.userId ∈ b.accounts.users.map (·.id) then
    (.ok 1,
      { b with
        userConfigs := upsertRow UserConfig.primaryKey config b.userConfigs
        userConfigKeys := nodup_map_key_upsertRow b.userConfigKeys
        userConfigRef := by
          intro other hother
          unfold upsertRow at hother
          split at hother
          · rcases mem_of_mem_replaceRow hother with rfl | ⟨hother, _⟩
            · exact h
            · exact b.userConfigRef other hother
          · rcases List.mem_append.mp hother with hother | hother
            · exact b.userConfigRef other hother
            · rwa [List.mem_singleton.mp hother] })
  else (.error .constraint, b)

/-- `DELETE FROM user_configs WHERE key = $1 AND user_id = $2`. -/
def deleteUserConfig (b : Backend) (key : String) (userId : Int) : Written × Backend :=
  (.ok (b.userConfigs.filter (·.primaryKey = (key, userId))).length,
    { b with
      userConfigs := b.userConfigs.filter (·.primaryKey ≠ (key, userId))
      userConfigKeys := b.userConfigKeys.sublist (List.filter_sublist.map _)
      userConfigRef := fun config hconfig => b.userConfigRef config (List.mem_of_mem_filter hconfig) })

/-- The table of enforcers and the clock. -/
def enforcerWorld (b : Backend) : EnforcerWorld := ⟨b.enforcers, b.world.clock⟩

/-- Another table of enforcers, and the clock after it. -/
def withEnforcers (b : Backend) (w : EnforcerWorld) : Backend :=
  { b with enforcers := w.table, world := { b.world with clock := w.clock } }

end Backend

/-- No statement of the main world changes the rooms. -/
theorem Stmt.exec_rooms (s : Stmt) (w : World) : (s.exec w).2.db.rooms = w.db.rooms := by
  have hwrite {α : Type} (f : Tables → Tables) (affected : α) (hf : (f w.db.toTables).rooms = w.db.rooms) :
      (w.write f affected).2.db.rooms = w.db.rooms := World.write_kept Tables.rooms hf affected
  cases s with
  | selectConfig key => rfl
  | selectConfigs => rfl
  | upsertConfig key value => exact hwrite _ _ rfl
  | deleteConfig key => exact hwrite _ _ rfl
  | selectDevices => rfl
  | selectDeviceById id => rfl
  | selectDeviceByMac mac => rfl
  | selectDeviceByDuid duid => rfl
  | insertDevice row => exact hwrite _ _ rfl
  | updateDevice row => exact hwrite _ _ rfl
  | deleteDevice id => exact hwrite _ _ rfl
  | clearIpv4 addr => exact hwrite _ _ rfl
  | clearIpv6 addr => exact hwrite _ _ rfl
  | selectMud url => rfl
  | selectMuds => rfl
  | selectMudExpirations => rfl
  | selectMudUser url => rfl
  | insertMud row => exact hwrite _ _ rfl
  | upsertMud row => exact hwrite _ _ rfl
  | deleteMud url => exact hwrite _ _ rfl
  | selectRoom id => rfl
  | now => rfl
  | fetch url => rfl
  | spawn task => rfl

/-! ## Statements -/

inductive BackendStmt where
  | account (s : AccountStmt)
  | world (s : Stmt)
  | enforcer (s : EnforcerStmt)
  | selectEnforcers
  | selectUserByName (username : String)
  /-- `update users SET username = $1, password = $2, salt = $3 WHERE id = $4`. -/
  | updateUser (id : Int) (username password : String) (salt : List UInt8)
  | updatePassword (id : Int) (password : String) (salt : List UInt8)
  | updateLastInteraction (id : Int) (stamp : DateTime)
  | selectUserConfigs (userId : Int)
  | selectUserConfig (userId : Int) (key : String)
  | upsertUserConfig (config : UserConfig)
  | deleteUserConfig (key : String) (userId : Int)
  | selectRooms
  | selectRoomByName (name : String)
  | selectDevicesIn (roomId : Int)
  | insertRoom (name color : String)
  | updateRoom (room : Room)
  | deleteRoom (name : String)

/-- The answer to a statement. -/
abbrev BackendStmt.Answer : BackendStmt → Type
  | .account s => s.Answer
  | .world s => s.Answer
  | .enforcer s => s.Answer
  | .selectEnforcers => List EnforcerDbo
  | .selectUserByName _ => Option UserDbo
  | .updateUser _ _ _ _ => Written
  | .updatePassword _ _ _ => Written
  | .updateLastInteraction _ _ => Written
  | .selectUserConfigs _ => List UserConfig
  | .selectUserConfig _ _ => Option UserConfig
  | .upsertUserConfig _ => Written
  | .deleteUserConfig _ _ => Written
  | .selectRooms => List Room
  | .selectRoomByName _ => Option Room
  | .selectDevicesIn _ => List DeviceDbo
  | .insertRoom _ _ => Written
  | .updateRoom _ => Written
  | .deleteRoom _ => Written

/-- The rows of `users` that a statement on one user affects. -/
def Backend.affectedUsers (b : Backend) (id : Int) : Nat := (b.accounts.users.filter (·.id = id)).length

/-- What a statement does. -/
def BackendStmt.exec : (s : BackendStmt) → Backend → s.Answer × Backend
  | .account s, b => ((s.exec b.accounts).1, b.withAccounts (s.exec b.accounts).2)
  | .world s, b => ((s.exec b.world).1, b.withWorld (s.exec b.world).2 (s.exec_rooms b.world))
  | .enforcer s, b => ((s.exec b.enforcerWorld).1, b.withEnforcers (s.exec b.enforcerWorld).2)
  | .selectEnforcers, b => (b.enforcers.rows, b)
  | .selectUserByName username, b => (b.accounts.userByName username, b)
  | .updateUser id username password salt, b =>
      b.writeAccounts (·.updateUser id (.withCredentials username password salt)) (b.affectedUsers id)
  | .updatePassword id password salt, b =>
      b.writeAccounts (·.updateUser id (.withPassword password salt)) (b.affectedUsers id)
  | .updateLastInteraction id stamp, b =>
      b.writeAccounts (·.updateUser id (.seenAt stamp)) (b.affectedUsers id)
  | .selectUserConfigs userId, b => (b.configsOf userId, b)
  | .selectUserConfig userId key, b => (b.configOf userId key, b)
  | .upsertUserConfig config, b => b.upsertUserConfig config
  | .deleteUserConfig key userId, b => b.deleteUserConfig key userId
  | .selectRooms, b => (b.world.db.rooms, b)
  | .selectRoomByName name, b => (b.world.db.rooms.find? (·.name = name), b)
  | .selectDevicesIn roomId, b => (b.world.db.devices.filter (·.roomId = some roomId), b)
  | .insertRoom name color, b => b.writeRooms (·.insertRoom (b.roomSeq + 1) name color) (b.roomSeq + 1) 1
  | .updateRoom room, b =>
      b.writeRooms (·.updateRoom room) b.roomSeq (b.world.db.rooms.filter (·.roomId = room.roomId)).length
  | .deleteRoom name, b =>
      b.writeRooms (·.deleteRoom name) b.roomSeq (b.world.db.rooms.filter (·.name = name)).length

/-- What a request does. -/
abbrev BackendAction (α : Type) := Prog BackendStmt BackendStmt.Answer Error α

/-- The statements of the accounts, of the main world and of the enforcers among all of them. -/
def accountPart : Embedding AccountStmt AccountStmt.Answer BackendStmt BackendStmt.Answer where
  stmt := .account
  answer _ a := a

def worldPart : Embedding Stmt Stmt.Answer BackendStmt BackendStmt.Answer where
  stmt := .world
  answer _ a := a

def enforcerPart : Embedding EnforcerStmt EnforcerStmt.Answer BackendStmt BackendStmt.Answer where
  stmt := .enforcer
  answer _ a := a

namespace BackendAction

variable {α β : Type}

/-- Run a request by itself. -/
def run (p : BackendAction α) (b : Backend) : Except Error α × Backend := Prog.run BackendStmt.exec p b

/-- Execute a statement and go on with its answer. -/
def stmt (s : BackendStmt) : BackendAction s.Answer := Prog.call s

/-- `execute(conn).await?`. -/
def execute (p : BackendAction (Except DbError α)) : BackendAction α := do
  match ← p with
  | .ok a => return a
  | .error e => Prog.fail (.databaseError e)

/-- `fetch_one(conn).await?`. -/
def fetchOne (p : BackendAction (Option α)) : BackendAction α := do
  match ← p with
  | some a => return a
  | none => Prog.fail (.databaseError .rowNotFound)

/-- `or_else` with a response of its own. -/
def orElse (p : BackendAction α) (status : Nat) (message : Option String) : BackendAction α := do
  match ← p.attempt with
  | .ok a => return a
  | .error _ => Prog.fail (.responseError status message)

/-- A validated request body, or a response. -/
def validated (valid : Bool) (message : Option String) : BackendAction Unit :=
  if valid then return () else Prog.fail (.responseError 400 message)

/-- `Utc::now()`. -/
def now : BackendAction DateTime := stmt (.world .now)

/-- A call of the services of the accounts. -/
def ofAccounts (p : AccountAction α) : BackendAction α := p.lift accountPart

/-- A call of the services of the main world. -/
def ofWorld (p : Action α) : BackendAction α := p.lift worldPart

/-- A call of `enforcer_service`. -/
def ofEnforcers (p : EnforcerAction α) : BackendAction α := p.lift enforcerPart

end BackendAction

end MudController
