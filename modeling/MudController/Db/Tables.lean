import MudController.Logic.Rows
import MudController.Models.Device

/-!
# `Db.Tables` — the tables and the schema of the database

`Tables` holds the rows; `Schema` is what the migrations declare of them (primary keys, `UNIQUE`,
`REFERENCES`); a `Db` is tables together with the proof that they satisfy the schema, so a state that the
database would refuse cannot be written down. Statements go through `Db.update`: the new tables replace
the old ones if they satisfy the schema, and otherwise the statement has no effect.
-/

namespace MudController

open Logic

/-- A row of `config`. -/
structure Config where
  key : String
  value : String
  deriving DecidableEq

variable [Platform]

structure Tables where
  devices : List DeviceDbo
  /-- The largest device id handed out so far (`AUTOINCREMENT`). -/
  deviceSeq : Int
  mudData : List MudDbo
  config : List Config
  rooms : List Room

/-- The columns of `UNIQUE (mac_addr, duid)`; a row with a null in one of them conflicts with no row. -/
def DeviceDbo.macDuid (device : DeviceDbo) : Option (MacAddr × String) :=
  device.macAddr.bind fun mac => device.duid.map fun duid => (mac, duid)

theorem DeviceDbo.macDuid_macAddr {device : DeviceDbo} {x : MacAddr × String}
    (h : device.macDuid = some x) : device.macAddr = some x.1 := by
  obtain ⟨mac, hmac, hrest⟩ := Option.bind_eq_some_iff.mp h
  obtain ⟨duid, _, rfl⟩ := Option.map_eq_some_iff.mp hrest
  exact hmac

/-- The constraints of the migrations on the tables of this model. -/
structure Schema (t : Tables) : Prop where
  deviceIds : (t.devices.map (·.id)).Nodup
  deviceSeq : ∀ d ∈ t.devices, d.id ≤ t.deviceSeq
  ipv4Unique : (t.devices.filterMap (·.ipv4Addr)).Nodup
  ipv6Unique : (t.devices.filterMap (·.ipv6Addr)).Nodup
  macDuidUnique : (t.devices.filterMap DeviceDbo.macDuid).Nodup
  mudUrlRef : ∀ d ∈ t.devices, ∀ url ∈ d.mudUrl, url ∈ t.mudData.map (·.url)
  roomIdRef : ∀ d ∈ t.devices, ∀ id ∈ d.roomId, id ∈ t.rooms.map (·.roomId)
  mudUrls : (t.mudData.map (·.url)).Nodup
  configKeys : (t.config.map (·.key)).Nodup
  roomIds : (t.rooms.map (·.roomId)).Nodup

instance (t : Tables) : Decidable (Schema t) :=
  decidable_of_iff
    ((t.devices.map (·.id)).Nodup ∧ (∀ d ∈ t.devices, d.id ≤ t.deviceSeq) ∧
      (t.devices.filterMap (·.ipv4Addr)).Nodup ∧ (t.devices.filterMap (·.ipv6Addr)).Nodup ∧
      (t.devices.filterMap DeviceDbo.macDuid).Nodup ∧
      (∀ d ∈ t.devices, ∀ url ∈ d.mudUrl, url ∈ t.mudData.map (·.url)) ∧
      (∀ d ∈ t.devices, ∀ id ∈ d.roomId, id ∈ t.rooms.map (·.roomId)) ∧
      (t.mudData.map (·.url)).Nodup ∧ (t.config.map (·.key)).Nodup ∧ (t.rooms.map (·.roomId)).Nodup)
    ⟨fun ⟨h₁, h₂, h₃, h₄, h₅, h₆, h₇, h₈, h₉, h₁₀⟩ => ⟨h₁, h₂, h₃, h₄, h₅, h₆, h₇, h₈, h₉, h₁₀⟩,
     fun ⟨h₁, h₂, h₃, h₄, h₅, h₆, h₇, h₈, h₉, h₁₀⟩ => ⟨h₁, h₂, h₃, h₄, h₅, h₆, h₇, h₈, h₉, h₁₀⟩⟩

/-- A database: tables that satisfy the schema. -/
structure Db extends Tables where
  schema : Schema toTables

/-- Databases with the same rows are the same. -/
theorem Db.ext {a b : Db} (h : a.toTables = b.toTables) : a = b := by
  obtain ⟨ta, ha⟩ := a
  obtain ⟨tb, hb⟩ := b
  cases h
  rfl

/-- Execute one writing statement: atomically, or not at all if it would violate the schema. -/
def Db.update (db : Db) (f : Tables → Tables) : Option Db :=
  if h : Schema (f db.toTables) then some ⟨f db.toTables, h⟩ else none

theorem Db.update_of_schema {db : Db} {f : Tables → Tables} (h : Schema (f db.toTables)) :
    db.update f = some ⟨f db.toTables, h⟩ := dif_pos h

theorem Db.update_of_not_schema {db : Db} {f : Tables → Tables} (h : ¬ Schema (f db.toTables)) :
    db.update f = none := dif_neg h

/-- The database after the migrations, without the seeded rows. -/
def Db.empty : Db where
  devices := []
  deviceSeq := 0
  mudData := []
  config := []
  rooms := []
  schema := by constructor <;> simp

/-! ## Lookups -/

/-- `SELECT * FROM config WHERE key = $1`. -/
def Tables.configRow (t : Tables) (key : String) : Option Config := t.config.find? (·.key = key)

/-- `SELECT * FROM mud_data WHERE url = $1`. -/
def Tables.mudRow (t : Tables) (url : String) : Option MudDbo := t.mudData.find? (·.url = url)

/-- `SELECT * FROM rooms WHERE room_id = $1`. -/
def Tables.room (t : Tables) (id : Int) : Option Room := t.rooms.find? (·.roomId = id)

/-- `SELECT * FROM devices WHERE id = $1`. -/
def Tables.deviceById (t : Tables) (id : Int) : Option DeviceDbo := t.devices.find? (·.id = id)

/-- `SELECT * FROM devices WHERE mac_addr = $1`, the first row. -/
def Tables.deviceByMac (t : Tables) (mac : MacAddr) : Option DeviceDbo :=
  t.devices.find? (·.macAddr = some mac)

/-- `SELECT * FROM devices WHERE duid = $1`, the first row. -/
def Tables.deviceByDuid (t : Tables) (duid : String) : Option DeviceDbo :=
  t.devices.find? (·.duid = some duid)

/-! ## Writing statements, as functions of the tables -/

/-- `INSERT INTO devices …`: the row gets the next id. -/
def Tables.insertDevice (t : Tables) (row : DeviceDbo) : Tables :=
  { t with devices := t.devices ++ [{ row with id := t.deviceSeq + 1 }], deviceSeq := t.deviceSeq + 1 }

/-- `UPDATE devices SET … WHERE id = $13`. -/
def Tables.updateDevice (t : Tables) (row : DeviceDbo) : Tables :=
  { t with devices := replaceRow (·.id) row t.devices }

/-- `DELETE FROM devices WHERE id = $1`. -/
def Tables.deleteDevice (t : Tables) (id : Int) : Tables :=
  { t with devices := t.devices.filter (·.id ≠ id) }

/-- `UPDATE devices SET ipv4_addr = NULL WHERE ipv4_addr = $1`. -/
def Tables.clearIpv4 (t : Tables) (addr : String) : Tables :=
  { t with devices := t.devices.map fun d =>
      if d.ipv4Addr = some addr then { d with ipv4Addr := none } else d }

/-- `UPDATE devices SET ipv6_addr = NULL WHERE ipv6_addr = $1`. -/
def Tables.clearIpv6 (t : Tables) (addr : String) : Tables :=
  { t with devices := t.devices.map fun d =>
      if d.ipv6Addr = some addr then { d with ipv6Addr := none } else d }

/-- `INSERT INTO mud_data …`. -/
def Tables.insertMud (t : Tables) (row : MudDbo) : Tables := { t with mudData := t.mudData ++ [row] }

/-- `INSERT INTO mud_data … ON CONFLICT(url) DO UPDATE SET …`. -/
def Tables.upsertMud (t : Tables) (row : MudDbo) : Tables :=
  { t with mudData := upsertRow (·.url) row t.mudData }

/-- `DELETE FROM mud_data WHERE url = $1`. -/
def Tables.deleteMud (t : Tables) (url : String) : Tables :=
  { t with mudData := t.mudData.filter (·.url ≠ url) }

/-- `INSERT INTO config … ON CONFLICT(key) DO UPDATE SET value = excluded.value`. -/
def Tables.upsertConfig (t : Tables) (key value : String) : Tables :=
  { t with config := upsertRow (·.key) ⟨key, value⟩ t.config }

/-- `DELETE FROM config WHERE key = $1`. -/
def Tables.deleteConfig (t : Tables) (key : String) : Tables :=
  { t with config := t.config.filter (·.key ≠ key) }

/-! ## Lookups after a write -/

@[simp] theorem Tables.configRow_upsertConfig (t : Tables) (key value : String) :
    (t.upsertConfig key value).configRow key = some ⟨key, value⟩ :=
  @find?_upsertRow_self Config String _ Config.key ⟨key, value⟩ t.config

@[simp] theorem Tables.mudRow_upsertMud (t : Tables) (row : MudDbo) :
    (t.upsertMud row).mudRow row.url = some row :=
  @find?_upsertRow_self MudDbo String _ MudDbo.url row t.mudData

theorem Tables.mudRow_upsertMud_other (t : Tables) (row : MudDbo) {url : String} (h : url ≠ row.url) :
    (t.upsertMud row).mudRow url = t.mudRow url :=
  @find?_upsertRow_other MudDbo String _ MudDbo.url row t.mudData url h

end MudController
