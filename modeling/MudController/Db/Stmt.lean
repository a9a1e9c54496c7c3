import MudController.Logic.Prog
import MudController.Db.Tables
import MudController.Error

/-!
# `Db.Stmt` — the atomic statements of the services

One constructor for each thing a service does in one indivisible step: the SQL statements of the source
and the three effects outside the database (reading the clock, fetching a URL, spawning a background
task). `Stmt.exec` says what each does to the `World`. Reads return rows; a write returns the affected
rows or the constraint violation that made it have no effect.
-/

namespace MudController

open Logic

variable [Platform]

/-- A task handed to `tokio::spawn`. -/
inductive Task where
  /-- `neo4things_service::add_device`. -/
  | addDevice (id : Int) (device : Device)
  /-- `neo4things_service::describe_thing`. -/
  | describeThing (macOrDuid mudUrl : String)

/-- The database and its surroundings. `clock` and `network` are the answers still to come: the n-th
    reading of the clock from now, and what the n-th fetch from now yields for each URL. Both are
    arbitrary. -/
structure World where
  db : Db
  clock : Nat → DateTime
  network : Nat → String → Except Error String
  tasks : List Task

/-- Worlds with the same tables and surroundings are the same. -/
theorem World.ext {a b : World} (hdb : a.db.toTables = b.db.toTables) (hclock : a.clock = b.clock)
    (hnetwork : a.network = b.network) (htasks : a.tasks = b.tasks) : a = b := by
  obtain ⟨da, ca, na, ta⟩ := a
  obtain ⟨db, cb, nb, tb⟩ := b
  cases Db.ext hdb
  cases hclock
  cases hnetwork
  cases htasks
  rfl

inductive Stmt where
  | selectConfig (key : String)
  | selectConfigs
  | upsertConfig (key value : String)
  | deleteConfig (key : String)
  | selectDevices
  | selectDeviceById (id : Int)
  | selectDeviceByMac (mac : MacAddr)
  | selectDeviceByDuid (duid : String)
  | insertDevice (row : DeviceDbo)
  | updateDevice (row : DeviceDbo)
  | deleteDevice (id : Int)
  | clearIpv4 (addr : String)
  | clearIpv6 (addr : String)
  | selectMud (url : String)
  | selectMuds
  | selectMudExpirations
  /-- `SELECT * FROM devices WHERE mud_url = $1`. -/
  | selectMudUser (url : String)
  | insertMud (row : MudDbo)
  | upsertMud (row : MudDbo)
  | deleteMud (url : String)
  | selectRoom (id : Int)
  | now
  | fetch (url : String)
  | spawn (task : Task)

/-- What the database answers to a write: the rows affected, or the violated constraint. -/
abbrev Written := Except DbError Nat

/-- The answer to a statement. -/
abbrev Stmt.Answer : Stmt → Type
  | .selectConfig _ => Option Config
  | .selectConfigs => List Config
  | .selectDevices => List DeviceDbo
  | .selectDeviceById _ => Option DeviceDbo
  | .selectDeviceByMac _ => Option DeviceDbo
  | .selectDeviceByDuid _ => Option DeviceDbo
  | .insertDevice _ => Except DbError Int
  | .selectMud _ => Option MudDbo
  | .selectMuds => List MudDbo
  | .selectMudExpirations => List MudDboRefresh
  | .selectMudUser _ => Option DeviceDbo
  | .selectRoom _ => Option Room
  | .now => DateTime
  | .fetch _ => Except Error String
  | .spawn _ => Unit
  | .upsertConfig _ _ => Written
  | .deleteConfig _ => Written
  | .updateDevice _ => Written
  | .deleteDevice _ => Written
  | .clearIpv4 _ => Written
  | .clearIpv6 _ => Written
  | .insertMud _ => Written
  | .upsertMud _ => Written
  | .deleteMud _ => Written

/-- Execute a write on the tables; `affected` rows are reported if the schema allows it. -/
def World.write {α : Type} (w : World) (f : Tables → Tables) (affected : α) :
    Except DbError α × World :=
  match w.db.update f with
  | some db => (.ok affected, { w with db := db })
  | none => (.error .constraint, w)

/-- What a statement does. -/
def Stmt.exec : (s : Stmt) → World → s.Answer × World
  | .selectConfig key, w => (w.db.configRow key, w)
  | .selectConfigs, w => (w.db.config, w)
  | .upsertConfig key value, w => w.write (·.upsertConfig key value) 1
  | .deleteConfig key, w =>
      w.write (·.deleteConfig key) (w.db.config.filter (·.key = key)).length
  | .selectDevices, w => (w.db.devices, w)
  | .selectDeviceById id, w => (w.db.deviceById id, w)
  | .selectDeviceByMac mac, w => (w.db.deviceByMac mac, w)
  | .selectDeviceByDuid duid, w => (w.db.deviceByDuid duid, w)
  | .insertDevice row, w => w.write (·.insertDevice row) (w.db.deviceSeq + 1)
  | .updateDevice row, w =>
      w.write (·.updateDevice row) (w.db.devices.filter (·.id = row.id)).length
  | .deleteDevice id, w => w.write (·.deleteDevice id) (w.db.devices.filter (·.id = id)).length
  | .clearIpv4 addr, w =>
      w.write (·.clearIpv4 addr) (w.db.devices.filter (·.ipv4Addr = some addr)).length
  | .clearIpv6 addr, w =>
      w.write (·.clearIpv6 addr) (w.db.devices.filter (·.ipv6Addr = some addr)).length
  | .selectMud url, w => (w.db.mudRow url, w)
  | .selectMuds, w => (w.db.mudData, w)
  | .selectMudExpirations, w => (w.db.mudData.map fun m => ⟨m.url, m.expiration⟩, w)
  | .selectMudUser url, w => (w.db.devices.find? (·.mudUrl = some url), w)
  | .insertMud row, w => w.write (·.insertMud row) 1
  | .upsertMud row, w => w.write (·.upsertMud row) 1
  | .deleteMud url, w => w.write (·.deleteMud url) (w.db.mudData.filter (·.url = url)).length
  | .selectRoom id, w => (w.db.room id, w)
  | .now, w => (w.clock 0, { w with clock := fun n => w.clock (n + 1) })
  | .fetch url, w => (w.network 0 url, { w with network := fun n => w.network (n + 1) })
  | .spawn task, w => ((), { w with tasks := w.tasks ++ [task] })

/-- A service call. -/
abbrev Action (α : Type) := Prog Stmt Stmt.Answer Error α

/-- Run a service call by itself, from its first statement to its last. -/
def Action.run {α : Type} (p : Action α) (w : World) : Except Error α × World := Prog.run Stmt.exec p w

namespace Action

variable {α β : Type}

@[simp] theorem run_done (r : Except Error α) (w : World) :
    Action.run (Prog.done r) w = (r, w) := rfl

@[simp] theorem run_stmt (s : Stmt) (k : s.Answer → Action α) (w : World) :
    Action.run (Prog.stmt s k) w = Action.run (k (s.exec w).1) (s.exec w).2 := rfl

@[simp] theorem run_fail (e : Error) (w : World) :
    Action.run (Prog.fail e : Action α) w = (.error e, w) := rfl

@[simp] theorem run_ofExcept (r : Except Error α) (w : World) :
    Action.run (Prog.ofExcept r) w = (r, w) := rfl

@[simp] theorem run_attempt (p : Action α) (w : World) :
    Action.run p.attempt w = (.ok (Action.run p w).1, (Action.run p w).2) :=
  Prog.run_attempt Stmt.exec p w

theorem run_bind_ok {p : Action α} {f : α → Action β} {w w' : World} {a : α}
    (h : Action.run p w = (.ok a, w')) : Action.run (p >>= f) w = Action.run (f a) w' :=
  Prog.run_bind_ok Stmt.exec h

theorem run_bind_error {p : Action α} {f : α → Action β} {w w' : World} {e : Error}
    (h : Action.run p w = (.error e, w')) : Action.run (p >>= f) w = (.error e, w') :=
  Prog.run_bind_error Stmt.exec h

theorem exists_of_run_bind_ok {p : Action α} {f : α → Action β} {w w' : World} {b : β}
    (h : Action.run (p >>= f) w = (.ok b, w')) :
    ∃ a w₁, Action.run p w = (.ok a, w₁) ∧ Action.run (f a) w₁ = (.ok b, w') :=
  Prog.exists_of_run_bind_ok Stmt.exec h

/-- `attempt` hands its continuation the result, whatever it is. -/
theorem run_attempt_bind (p : Action α) (f : Except Error α → Action β) (w : World) :
    Action.run (p.attempt >>= f) w = Action.run (f (Action.run p w).1) (Action.run p w).2 :=
  run_bind_ok (run_attempt p w)

/-- A continuation that leaves the world alone does not matter to it. -/
theorem run_bind_world {p : Action α} {f : α → Action β} (hf : ∀ a w, (Action.run (f a) w).2 = w)
    (w : World) : (Action.run (p >>= f) w).2 = (Action.run p w).2 := by
  cases hr : Action.run p w with
  | mk r w' =>
      cases r with
      | ok a =>
          rw [run_bind_ok hr]
          exact hf a w'
      | error e => rw [run_bind_error hr]

end Action

/-- Execute a statement and go on with its answer. -/
abbrev stmt (s : Stmt) : Action s.Answer := Prog.call s

/-- Execute a write; a violated constraint is a `DatabaseError`. -/
def execute {α : Type} (p : Action (Except DbError α)) : Action α := do
  match ← p with
  | .ok a => return a
  | .error e => Prog.fail (.databaseError e)

/-- `fetch_one`: an absent row is a `DatabaseError`. -/
def fetchOne {α : Type} (p : Action (Option α)) : Action α := do
  match ← p with
  | some a => return a
  | none => Prog.fail (.databaseError .rowNotFound)

/-- `Utc::now()`. -/
def now : Action DateTime := stmt .now

/-- The world after a reading of the clock. -/
def World.tick (w : World) : World := { w with clock := fun n => w.clock (n + 1) }

theorem Action.run_stmt_of_exec {s : Stmt} {w w' : World} {a : s.Answer} (h : s.exec w = (a, w')) :
    Action.run (stmt s) w = (.ok a, w') := by
  show (Except.ok (s.exec w).1, (s.exec w).2) = _
  rw [h]

theorem Action.run_execute_ok {α : Type} {p : Action (Except DbError α)} {w w' : World} {a : α}
    (h : p.run w = (.ok (.ok a), w')) : (execute p).run w = (.ok a, w') := by
  unfold execute
  exact Action.run_bind_ok h

theorem Action.run_execute_error {α : Type} {p : Action (Except DbError α)} {w w' : World} {e : DbError}
    (h : p.run w = (.ok (.error e), w')) : (execute p).run w = (.error (.databaseError e), w') := by
  unfold execute
  exact Action.run_bind_ok h

/-- A write that the schema allows takes effect. -/
theorem World.write_ok {α : Type} {w : World} {f : Tables → Tables} (h : Schema (f w.db.toTables))
    (affected : α) : w.write f affected = (.ok affected, { w with db := ⟨f w.db.toTables, h⟩ }) := by
  unfold World.write
  rw [Db.update_of_schema h]

/-- A write that the schema does not allow has no effect. -/
theorem World.write_refused {α : Type} {w : World} {f : Tables → Tables}
    (h : ¬ Schema (f w.db.toTables)) (affected : α) : w.write f affected = (.error .constraint, w) := by
  unfold World.write
  rw [Db.update_of_not_schema h]

/-- What a write leaves alone in the tables stays as it is, whether the write takes place or not. -/
theorem World.write_kept {α β : Type} (view : Tables → β) {w : World} {f : Tables → Tables}
    (h : view (f w.db.toTables) = view w.db.toTables) (affected : α) :
    view (w.write f affected).2.db.toTables = view w.db.toTables := by
  by_cases hschema : Schema (f w.db.toTables)
  · rw [World.write_ok hschema]
    exact h
  · rw [World.write_refused hschema]

theorem Action.run_stmt_bind {α : Type} (s : Stmt) (f : s.Answer → Action α) (w : World) :
    Action.run (stmt s >>= f) w = Action.run (f (s.exec w).1) (s.exec w).2 := rfl

theorem Action.run_now_bind {α : Type} (f : DateTime → Action α) (w : World) :
    Action.run (now >>= f) w = Action.run (f (w.clock 0)) w.tick := rfl

end MudController
