import MudController.Routes.Device
import MudController.Run.Announce
import MudController.Run.Device

/-!
# `Run.Quiet` — calls that leave the devices alone

Which statements a service can come to execute: most of them do not touch the devices table, a lease also
takes addresses away from its rows, and a call that creates or updates a device writes one row once. The
predicates are about single statements; `Prog.All` and `Prog.Once` say them of a whole call, whatever the
answers, so they hold of a call that runs by itself and of one whose statements are interleaved with others.
-/

namespace MudController

open Logic

variable [Platform]

/-! ## Statements -/

/-- The statement does not touch the devices table. -/
def Stmt.KeepsDevices : Stmt → Prop
  | .insertDevice _ => False
  | .updateDevice _ => False
  | .deleteDevice _ => False
  | .clearIpv4 _ => False
  | .clearIpv6 _ => False
  | _ => True

/-- The statement changes nothing in the devices table but takes addresses away. -/
def Stmt.KeepsButAddresses : Stmt → Prop
  | .insertDevice _ => False
  | .updateDevice _ => False
  | .deleteDevice _ => False
  | _ => True

/-- The statement touches neither the devices table nor the spawned tasks. -/
def Stmt.Quiet : Stmt → Prop
  | .spawn _ => False
  | s => s.KeepsDevices

theorem Stmt.Quiet.keepsDevices {s : Stmt} (h : s.Quiet) : s.KeepsDevices := by
  cases s <;> trivial

theorem Stmt.KeepsDevices.butAddresses {s : Stmt} (h : s.KeepsDevices) : s.KeepsButAddresses := by
  cases s <;> trivial

theorem Stmt.Bumps.quiet {s : Stmt} (h : s.Bumps) : s.Quiet := by
  cases s <;> trivial

/-- A write of other tables leaves the devices alone. -/
theorem devices_write {α : Type} {w : World} {f : Tables → Tables}
    (hf : (f w.db.toTables).devices = w.db.devices) (affected : α) :
    (w.write f affected).2.db.devices = w.db.devices := World.write_kept Tables.devices hf affected

theorem Stmt.KeepsDevices.exec {s : Stmt} (h : s.KeepsDevices) (w : World) :
    (s.exec w).2.db.devices = w.db.devices := by
  cases s with
  | upsertConfig key value => exact devices_write rfl _
  | deleteConfig key => exact devices_write rfl _
  | insertMud row => exact devices_write rfl _
  | upsertMud row => exact devices_write rfl _
  | deleteMud url => exact devices_write rfl _
  | insertDevice row => cases h
  | updateDevice row => cases h
  | deleteDevice id => cases h
  | clearIpv4 addr => cases h
  | clearIpv6 addr => cases h
  | _ => rfl

theorem tasks_write {α : Type} (w : World) (f : Tables → Tables) (affected : α) :
    (w.write f affected).2.tasks = w.tasks := by
  by_cases h : Schema (f w.db.toTables)
  · rw [World.write_ok h]
  · rw [World.write_refused h]

theorem Stmt.Quiet.exec_tasks {s : Stmt} (h : s.Quiet) (w : World) : (s.exec w).2.tasks = w.tasks := by
  cases s with
  | upsertConfig key value => exact tasks_write w _ _
  | deleteConfig key => exact tasks_write w _ _
  | insertMud row => exact tasks_write w _ _
  | upsertMud row => exact tasks_write w _ _
  | deleteMud url => exact tasks_write w _ _
  | insertDevice row => cases h
  | updateDevice row => cases h
  | deleteDevice id => cases h
  | clearIpv4 addr => cases h
  | clearIpv6 addr => cases h
  | spawn task => cases h
  | _ => rfl

/-- A row without its addresses. -/
def DeviceDbo.withoutAddresses (d : DeviceDbo) : DeviceDbo := { d with ipv4Addr := none, ipv6Addr := none }

theorem DeviceDbo.withoutIpv4_withoutAddresses (addr : String) (d : DeviceDbo) :
    (d.withoutIpv4 addr).withoutAddresses = d.withoutAddresses := by
  unfold DeviceDbo.withoutIpv4
  split <;> rfl

theorem DeviceDbo.withoutIpv6_withoutAddresses (addr : String) (d : DeviceDbo) :
    (d.withoutIpv6 addr).withoutAddresses = d.withoutAddresses := by
  unfold DeviceDbo.withoutIpv6
  split <;> rfl

theorem Stmt.KeepsButAddresses.exec {s : Stmt} (h : s.KeepsButAddresses) (w : World) :
    (s.exec w).2.db.devices.map DeviceDbo.withoutAddresses =
      w.db.devices.map DeviceDbo.withoutAddresses := by
  cases s with
  | insertDevice row => cases h
  | updateDevice row => cases h
  | deleteDevice id => cases h
  | clearIpv4 addr =>
      have hexec : (Stmt.clearIpv4 addr).exec w = (.ok _, w.mapDevices _ (clears_withoutIpv4 addr)) :=
        World.write_ok (w.db.schema.clear (clears_withoutIpv4 addr)) _
      rw [hexec]
      exact Clears.map_eq (DeviceDbo.withoutIpv4_withoutAddresses addr) w.db.devices
  | clearIpv6 addr =>
      have hexec : (Stmt.clearIpv6 addr).exec w = (.ok _, w.mapDevices _ (clears_withoutIpv6 addr)) :=
        World.write_ok (w.db.schema.clear (clears_withoutIpv6 addr)) _
      rw [hexec]
      exact Clears.map_eq (DeviceDbo.withoutIpv6_withoutAddresses addr) w.db.devices
  | _ => exact congrArg (List.map DeviceDbo.withoutAddresses) (Stmt.KeepsDevices.exec (by trivial) w)

/-! ## Services -/

section

variable {P : Stmt → Prop}

theorem execute_all {α : Type} {p : Action (Except DbError α)} (h : p.All P) : (execute p).All P :=
  h.bind fun r => by cases r <;> trivial

theorem fetchOne_all {α : Type} {p : Action (Option α)} (h : p.All P) : (fetchOne p).All P :=
  h.bind fun r => by cases r <;> trivial

theorem orNotFound_all {α : Type} {p : Action α} (h : p.All P) (message : String) :
    (orNotFound p message).All P :=
  h.attempt.bind fun r => by cases r <;> trivial

end

theorem stmt_quiet {s : Stmt} (h : s.Quiet) : (stmt s).All Stmt.Quiet :=
  Prog.All.call h

theorem updateConfigVersion_quiet : updateConfigVersion.All Stmt.Quiet :=
  Prog.All.mono (fun _ h => h.quiet) updateConfigVersion_bumps

theorem okOr_quiet {α : Type} (o : Option α) (e : Error) : (okOr o e).All Stmt.Quiet := by
  cases o <;> trivial

theorem storeFetched_quiet (url : String) (data : MudData) :
    (storeFetched url data).All Stmt.Quiet := by
  refine (stmt_quiet (by trivial)).bind fun createdAt => ?_
  refine Prog.All.bind ((execute_all (stmt_quiet (by trivial))).bind fun _ => trivial) fun _ => trivial

theorem parseMud_quiet (url json : String) : (parseMud url json).All Stmt.Quiet := by
  unfold parseMud
  cases Platform.mudJsonFromStr json with
  | some mudJson => exact (stmt_quiet (by trivial)).bind fun _ => trivial
  | none => trivial

theorem fetchAndStore_quiet (url : String) (expired : Option MudData) :
    (fetchAndStore url expired).All Stmt.Quiet := by
  have hfetch : (fetchMud url).All Stmt.Quiet := (stmt_quiet (by trivial)).bind fun _ => trivial
  unfold fetchAndStore
  split
  · trivial
  · refine hfetch.attempt.bind fun fetched => ?_
    cases fetched with
    | error e => exact okOr_quiet _ _
    | ok mudJson =>
        refine (parseMud_quiet url mudJson).attempt.bind fun parsed => ?_
        cases parsed with
        | error e => exact okOr_quiet _ _
        | ok data => exact storeFetched_quiet _ _

theorem getOrFetchMud_quiet (url : String) : (getOrFetchMud url).All Stmt.Quiet := by
  refine (stmt_quiet (by trivial)).bind fun row => ?_
  cases row with
  | none => exact fetchAndStore_quiet _ _
  | some mud =>
      cases hparse : mud.parseData with
      | none =>
          simp only [hparse]
          exact fetchAndStore_quiet _ _
      | some data =>
          simp only [hparse]
          refine (stmt_quiet (by trivial)).bind fun t => ?_
          split
          · trivial
          · exact fetchAndStore_quiet _ _

theorem loadRoom_quiet (roomId : Option Int) : (loadRoom roomId).All Stmt.Quiet := by
  cases roomId with
  | none => trivial
  | some id => exact (fetchOne_all (stmt_quiet (by trivial))).bind fun _ => trivial

theorem loadMudData_quiet (mudUrl : Option String) : (loadMudData mudUrl).All Stmt.Quiet := by
  cases mudUrl with
  | none => trivial
  | some url => exact (getOrFetchMud_quiet url).bind fun _ => trivial

theorem loadRefs_quiet (device : Device) : (loadRefs device).All Stmt.Quiet :=
  (loadRoom_quiet _).bind fun _ => (loadMudData_quiet _).bind fun _ => trivial

theorem findDevice_quiet (id : Int) : (findDevice id).All Stmt.Quiet := by
  have hfind : (findById id).All Stmt.Quiet :=
    (fetchOne_all (stmt_quiet (by trivial))).bind fun _ => trivial
  exact orNotFound_all hfind _

/-- A quiet call leaves the devices alone. -/
theorem keepsDevices_of_quiet {α : Type} {p : Action α} (h : p.All Stmt.Quiet) : p.All Stmt.KeepsDevices :=
  h.mono fun _ h => h.keepsDevices

theorem notifyThings_keepsDevices (device : Device) (mudUrlFromGuess collectInfoBefore : Bool) :
    (notifyThings device mudUrlFromGuess collectInfoBefore).All Stmt.KeepsDevices := by
  unfold notifyThings
  split
  · split
    · exact Prog.All.call (by trivial)
    · trivial
  · split
    · exact Prog.All.call (by trivial)
    · trivial

theorem removeExistingIps_keepsButAddresses (ipv4 : Option Ipv4Addr) (ipv6 : Option Ipv6Addr) :
    (removeExistingIps ipv4 ipv6).All Stmt.KeepsButAddresses := by
  have h4 : (removeExistingIpv4 ipv4).All Stmt.KeepsButAddresses := by
    cases ipv4 with
    | none => trivial
    | some a => exact (execute_all (Prog.All.call (by trivial))).bind fun _ => trivial
  have h6 : (removeExistingIpv6 ipv6).All Stmt.KeepsButAddresses := by
    cases ipv6 with
    | none => trivial
    | some a => exact (execute_all (Prog.All.call (by trivial))).bind fun _ => trivial
  exact h4.bind fun _ => h6

/-! ## Calls that write one device -/

/-- A write that violates a constraint. -/
def Refused {α : Type} (answer : Except DbError α) : Prop := ∃ e, answer = .error e

/-- The call updates one row of the devices, and for the rest leaves the devices alone, except that the
    statements ahead of the update satisfy `Before`. -/
abbrev UpdatesDevice {α : Type} (Before : Stmt → Prop) (row : DeviceDbo) (p : Action α) : Prop :=
  p.Once Before Stmt.KeepsDevices (.updateDevice row) Refused

/-- Loading references does not change what is written afterwards: they come with the device itself. -/
theorem loadRefs_once {α : Type} {Before : Stmt → Prop} (hBefore : ∀ s, s.KeepsDevices → Before s)
    {write : Stmt} {refused : write.Answer → Prop} {device : Device} {f : DeviceWithRefs → Action α}
    (hf : ∀ room mudData, (f ⟨device, room, mudData⟩).Once Before Stmt.KeepsDevices write refused) :
    (loadRefs device >>= f).Once Before Stmt.KeepsDevices write refused := by
  unfold loadRefs
  rw [Prog.bind_assoc]
  refine ((keepsDevices_of_quiet (loadRoom_quiet _)).mono hBefore).bind_once fun room => ?_
  rw [Prog.bind_assoc]
  exact ((keepsDevices_of_quiet (loadMudData_quiet _)).mono hBefore).bind_once fun mudData => hf room mudData

theorem updateDevice_updates {Before : Stmt → Prop} (deviceData : DeviceWithRefs) :
    UpdatesDevice Before deviceData.inner.toDbo (updateDevice deviceData) := by
  refine .write _ ?_ ?_
  · rintro answer ⟨e, rfl⟩
    exact ⟨.databaseError e, rfl⟩
  · intro answer hanswer
    cases answer with
    | error e => exact absurd ⟨e, rfl⟩ hanswer
    | ok n => exact (keepsDevices_of_quiet updateConfigVersion_quiet).bind fun _ => trivial

end MudController
