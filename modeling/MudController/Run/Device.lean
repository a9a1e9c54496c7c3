import MudController.Run.Config
import MudController.Run.Mud
import MudController.Services.Device

/-!
# `Run.Device` — device calls run by themselves

The parts of `upsert_device_from_dhcp_lease`, each with the world it leaves: the lookup reads, the clearing
of addresses always succeeds, loading references may store a profile, and the final write succeeds if the
schema allows it and is followed by a bump of the version.
-/

namespace MudController

open Logic

variable [Platform]

/-! ## The lookup -/

/-- The stored device of a lease: the first row with its MAC address, or else the first with its DUID. -/
def Tables.leaseTarget (t : Tables) (macAddr : Option MacAddr) (duid : Option String) : Option DeviceDbo :=
  (macAddr.bind t.deviceByMac).or (duid.bind t.deviceByDuid)

theorem run_selectByMac (macAddr : Option MacAddr) (w : World) :
    (selectByMac macAddr).run w = (.ok (macAddr.bind w.db.deviceByMac), w) := by
  cases macAddr <;> rfl

theorem run_selectByDuid (device : Option DeviceDbo) (duid : Option String) (w : World) :
    (selectByDuid device duid).run w = (.ok (device.or (duid.bind w.db.deviceByDuid)), w) := by
  cases device <;> cases duid <;> rfl

theorem run_findByMacOrDuid (macAddr : Option MacAddr) (duid : Option String) (w : World) :
    (findByMacOrDuid macAddr duid).run w =
      (match w.db.leaseTarget macAddr duid with
       | some device => .ok (Device.fromDbo device)
       | none => .error (.databaseError .rowNotFound), w) := by
  unfold findByMacOrDuid
  rw [Action.run_bind_ok (run_selectByMac macAddr w), Action.run_bind_ok (run_selectByDuid _ duid w)]
  unfold Tables.leaseTarget
  cases (macAddr.bind w.db.deviceByMac).or (duid.bind w.db.deviceByDuid) <;> rfl

/-- A row with the MAC address is the one. -/
theorem Tables.leaseTarget_of_mac {t : Tables} {macAddr : Option MacAddr} {d : DeviceDbo}
    (h : macAddr.bind t.deviceByMac = some d) (duid : Option String) : t.leaseTarget macAddr duid = some d := by
  unfold Tables.leaseTarget
  rw [h, Option.some_or]

/-- Without one it is the row with the DUID. -/
theorem Tables.leaseTarget_of_no_mac {t : Tables} {macAddr : Option MacAddr}
    (h : macAddr.bind t.deviceByMac = none) (duid : Option String) :
    t.leaseTarget macAddr duid = duid.bind t.deviceByDuid := by
  unfold Tables.leaseTarget
  rw [h, Option.none_or]

theorem Tables.leaseTarget_mem {t : Tables} {macAddr : Option MacAddr} {duid : Option String}
    {d : DeviceDbo} (h : t.leaseTarget macAddr duid = some d) : d ∈ t.devices := by
  rcases Option.or_eq_some_iff.mp h with h | ⟨_, h⟩
  · obtain ⟨mac, _, hfind⟩ := Option.bind_eq_some_iff.mp h
    exact List.mem_of_find?_eq_some hfind
  · obtain ⟨id, _, hfind⟩ := Option.bind_eq_some_iff.mp h
    exact List.mem_of_find?_eq_some hfind

/-! ## Clearing addresses -/

/-- A row after the given addresses were taken away from all rows. -/
def DeviceDbo.withoutIps (ipv4 : Option Ipv4Addr) (ipv6 : Option Ipv6Addr) (d : DeviceDbo) : DeviceDbo :=
  let d := match ipv4 with
    | some ipv4 => d.withoutIpv4 (toText ipv4)
    | none => d
  match ipv6 with
  | some ipv6 => d.withoutIpv6 (toText ipv6)
  | none => d

theorem clears_withoutIps (ipv4 : Option Ipv4Addr) (ipv6 : Option Ipv6Addr) :
    Clears (DeviceDbo.withoutIps ipv4 ipv6) := by
  cases ipv4 <;> cases ipv6
  · exact Clears.id_fun
  · exact clears_withoutIpv6 _
  · exact clears_withoutIpv4 _
  · exact (clears_withoutIpv6 _).comp (clears_withoutIpv4 _)

/-- A row that had one of the addresses has lost it. -/
theorem DeviceDbo.withoutIps_ipv4 (ipv4 : Option Ipv4Addr) (ipv6 : Option Ipv6Addr) (d : DeviceDbo) :
    ∀ a ∈ ipv4, (d.withoutIps ipv4 ipv6).ipv4Addr ≠ some (toText a) := by
  rintro a rfl
  have hlost : (d.withoutIpv4 (toText a)).ipv4Addr ≠ some (toText a) := by
    unfold DeviceDbo.withoutIpv4
    by_cases h : d.ipv4Addr = some (toText a) <;> simp [h]
  cases ipv6 with
  | none => exact hlost
  | some b =>
      have hkeep : ((d.withoutIpv4 (toText a)).withoutIpv6 (toText b)).ipv4Addr =
          (d.withoutIpv4 (toText a)).ipv4Addr := by
        conv => lhs; unfold DeviceDbo.withoutIpv6
        split <;> rfl
      show ((d.withoutIpv4 (toText a)).withoutIpv6 (toText b)).ipv4Addr ≠ _
      rw [hkeep]
      exact hlost

theorem DeviceDbo.withoutIps_ipv6 (ipv4 : Option Ipv4Addr) (ipv6 : Option Ipv6Addr) (d : DeviceDbo) :
    ∀ a ∈ ipv6, (d.withoutIps ipv4 ipv6).ipv6Addr ≠ some (toText a) := by
  rintro a rfl
  have hlost (d : DeviceDbo) : (d.withoutIpv6 (toText a)).ipv6Addr ≠ some (toText a) := by
    unfold DeviceDbo.withoutIpv6
    by_cases h : d.ipv6Addr = some (toText a) <;> simp [h]
  cases ipv4 with
  | none => exact hlost d
  | some b => exact hlost _

/-- A row keeps everything exactly if it has none of the addresses. -/
theorem DeviceDbo.withoutIps_eq_self_iff (ipv4 : Option Ipv4Addr) (ipv6 : Option Ipv6Addr)
    (d : DeviceDbo) :
    d.withoutIps ipv4 ipv6 = d ↔
      (∀ a ∈ ipv4, d.ipv4Addr ≠ some (toText a)) ∧ (∀ a ∈ ipv6, d.ipv6Addr ≠ some (toText a)) := by
  constructor
  · intro h
    have h4 := d.withoutIps_ipv4 ipv4 ipv6
    have h6 := d.withoutIps_ipv6 ipv4 ipv6
    rw [h] at h4 h6
    exact ⟨h4, h6⟩
  · rintro ⟨h4, h6⟩
    have hkeep4 : ∀ a ∈ ipv4, d.withoutIpv4 (toText a) = d := fun a ha => if_neg (h4 a ha)
    have hkeep6 : ∀ a ∈ ipv6, d.withoutIpv6 (toText a) = d := fun a ha => if_neg (h6 a ha)
    unfold DeviceDbo.withoutIps
    cases ipv4 <;> cases ipv6
    · rfl
    · exact hkeep6 _ rfl
    · exact hkeep4 _ rfl
    · simp only [hkeep4 _ rfl, hkeep6 _ rfl]

/-- The world with every device row changed by a function that takes addresses away. -/
def World.mapDevices (w : World) (g : DeviceDbo → DeviceDbo) (hg : Clears g) : World :=
  { w with db := ⟨{ w.db.toTables with devices := w.db.devices.map g }, w.db.schema.clear hg⟩ }

theorem World.mapDevices_id (w : World) : w.mapDevices (fun d => d) Clears.id_fun = w := by
  refine World.ext ?_ rfl rfl rfl
  show { w.db.toTables with devices := w.db.devices.map fun d => d } = w.db.toTables
  rw [List.map_id']

theorem World.mapDevices_mapDevices (w : World) {f g : DeviceDbo → DeviceDbo} (hf : Clears f)
    (hg : Clears g) :
    (w.mapDevices g hg).mapDevices f hf = w.mapDevices (fun d => f (g d)) (hf.comp hg) := by
  refine World.ext ?_ rfl rfl rfl
  show { w.db.toTables with devices := (w.db.devices.map g).map f } =
    { w.db.toTables with devices := w.db.devices.map fun d => f (g d) }
  rw [List.map_map]
  rfl

/-- The world after `removeExistingIps`. -/
def World.withoutIps (w : World) (ipv4 : Option Ipv4Addr) (ipv6 : Option Ipv6Addr) : World :=
  w.mapDevices (DeviceDbo.withoutIps ipv4 ipv6) (clears_withoutIps ipv4 ipv6)

theorem run_clearIpv4 (a : Ipv4Addr) (w : World) :
    (removeExistingIpv4 (some a)).run w = (.ok (), w.mapDevices _ (clears_withoutIpv4 (toText a))) := by
  have hexec : (Stmt.clearIpv4 (toText a)).exec w = (.ok _, w.mapDevices _ (clears_withoutIpv4 (toText a))) :=
    World.write_ok (w.db.schema.clear (clears_withoutIpv4 (toText a))) _
  exact Action.run_bind_ok (Action.run_execute_ok (Action.run_stmt_of_exec hexec))

theorem run_clearIpv6 (a : Ipv6Addr) (w : World) :
    (removeExistingIpv6 (some a)).run w = (.ok (), w.mapDevices _ (clears_withoutIpv6 (toText a))) := by
  have hexec : (Stmt.clearIpv6 (toText a)).exec w = (.ok _, w.mapDevices _ (clears_withoutIpv6 (toText a))) :=
    World.write_ok (w.db.schema.clear (clears_withoutIpv6 (toText a))) _
  exact Action.run_bind_ok (Action.run_execute_ok (Action.run_stmt_of_exec hexec))

/-- Clearing always succeeds. -/
theorem run_removeExistingIps (ipv4 : Option Ipv4Addr) (ipv6 : Option Ipv6Addr) (w : World) :
    (removeExistingIps ipv4 ipv6).run w = (.ok (), w.withoutIps ipv4 ipv6) := by
  have hnone4 : (removeExistingIpv4 none).run w = (.ok (), w) := rfl
  have hnone6 (w : World) : (removeExistingIpv6 none).run w = (.ok (), w) := rfl
  unfold removeExistingIps
  cases ipv4 <;> cases ipv6
  · rw [Action.run_bind_ok hnone4, hnone6]
    exact congrArg (fun w' => (Except.ok (), w')) w.mapDevices_id.symm
  · rw [Action.run_bind_ok hnone4]
    exact run_clearIpv6 _ w
  · rw [Action.run_bind_ok (run_clearIpv4 _ w)]
    exact hnone6 _
  · rw [Action.run_bind_ok (run_clearIpv4 _ w), run_clearIpv6, World.mapDevices_mapDevices]
    rfl

/-- Clearing addresses does not change what loading a profile yields. -/
@[simp] theorem World.withoutIps_loaded (w : World) (ipv4 : Option Ipv4Addr) (ipv6 : Option Ipv6Addr)
    (url : String) : (w.withoutIps ipv4 ipv6).loaded url = w.loaded url := rfl

/-! ## Loading references -/

/-- The tables differ in profiles only, and no profile is missing that was there. -/
structure OnlyProfiles (a b : Tables) : Prop where
  devices : b.devices = a.devices
  deviceSeq : b.deviceSeq = a.deviceSeq
  config : b.config = a.config
  rooms : b.rooms = a.rooms
  mudData : ∀ url ∈ a.mudData.map (·.url), url ∈ b.mudData.map (·.url)

theorem OnlyProfiles.refl (a : Tables) : OnlyProfiles a a := ⟨rfl, rfl, rfl, rfl, fun _ h => h⟩

theorem OnlyProfiles.trans {a b c : Tables} (hab : OnlyProfiles a b) (hbc : OnlyProfiles b c) :
    OnlyProfiles a c :=
  ⟨hbc.devices.trans hab.devices, hbc.deviceSeq.trans hab.deviceSeq, hbc.config.trans hab.config,
    hbc.rooms.trans hab.rooms, fun url h => hbc.mudData url (hab.mudData url h)⟩

theorem OnlyProfiles.upsertMud (t : Tables) (row : MudDbo) : OnlyProfiles t (t.upsertMud row) :=
  ⟨rfl, rfl, rfl, rfl, fun _ h => mem_map_key_upsertRow.mpr (.inr h)⟩

/-- A profile that is missing was not there. -/
theorem OnlyProfiles.absent {a b : Tables} (h : OnlyProfiles a b) {url : String}
    (hnone : b.mudRow url = none) : a.mudRow url = none := by
  cases hrow : a.mudRow url with
  | none => rfl
  | some mud =>
      have hurl : mud.url = url := by simpa using List.find?_some hrow
      have hmem := h.mudData url (hurl ▸ List.mem_map_of_mem (List.mem_of_find?_eq_some hrow))
      obtain ⟨mud', hmud', hurl'⟩ := List.mem_map.mp hmem
      exact absurd (List.find?_eq_none.mp hnone mud' hmud') (by simpa using hurl')

theorem Loads.onlyProfiles {w : World} {url : String} {r : Except Error MudData × World}
    (h : Loads w url r) : OnlyProfiles w.db.toTables r.2.db.toTables := by
  cases h with
  | kept data w' hrefreshed hkept hdb => exact hdb ▸ .refl _
  | failed e w' hrefreshed hkept hdb => exact hdb ▸ .refl _
  | refreshed data createdAt w' hrefreshed hdb =>
      show OnlyProfiles w.db.toTables w'.db.toTables
      rw [hdb]
      exact .upsertMud _ _

/-- A profile that was loaded is stored. -/
theorem Loads.mem_mudData {w w' : World} {url : String} {data : MudData}
    (h : Loads w url (.ok data, w')) : url ∈ w'.db.mudData.map (·.url) := by
  cases h with
  | kept data w' hrefreshed hkept hdb =>
      have hsome : ∃ mud, w.db.mudRow url = some mud := by
        unfold World.kept World.stored at hkept
        cases hrow : w.db.mudRow url with
        | none => simp [hrow] at hkept
        | some mud => exact ⟨mud, rfl⟩
      obtain ⟨mud, hrow⟩ := hsome
      have hurl : mud.url = url := by simpa using List.find?_some hrow
      rw [hdb, ← hurl]
      exact List.mem_map_of_mem (List.mem_of_find?_eq_some hrow)
  | refreshed data createdAt w' hrefreshed hdb =>
      rw [hdb]
      exact mem_map_key_upsertRow.mpr (.inl rfl)

/-- The profiles after loading the one a device names, if it names one. -/
inductive Refreshes (w : World) : Option String → List MudDbo → Prop where
  | none : Refreshes w none w.db.mudData
  | unchanged (url : String) (hrefreshed : w.refreshed url = none) : Refreshes w (some url) w.db.mudData
  | stored (url : String) (data : MudData) (createdAt : DateTime)
      (hrefreshed : w.refreshed url = some data) :
      Refreshes w (some url) (upsertRow (·.url) (fetchedRow url data createdAt) w.db.mudData)

theorem Loads.refreshes {w : World} {url : String} {r : Except Error MudData × World}
    (h : Loads w url r) : Refreshes w (some url) r.2.db.mudData := by
  cases h with
  | kept data w' hrefreshed hkept hdb => exact hdb ▸ .unchanged url hrefreshed
  | failed e w' hrefreshed hkept hdb => exact hdb ▸ .unchanged url hrefreshed
  | refreshed data createdAt w' hrefreshed hdb =>
      show Refreshes w (some url) w'.db.mudData
      rw [hdb]
      exact .stored url data createdAt hrefreshed

/-- Clearing addresses before does not matter to the profiles. -/
theorem Refreshes.of_withoutIps {w : World} {ipv4 : Option Ipv4Addr} {ipv6 : Option Ipv6Addr}
    {url : Option String} {mudData : List MudDbo} (h : Refreshes (w.withoutIps ipv4 ipv6) url mudData) :
    Refreshes w url mudData := by
  cases h with
  | none => exact .none
  | unchanged url hrefreshed => exact .unchanged url hrefreshed
  | stored url data createdAt hrefreshed => exact .stored url data createdAt hrefreshed

/-- The possible outcomes of loading the references of a device whose room exists. -/
inductive LoadsRefs (w : World) (device : Device) : Except Error DeviceWithRefs × World → Prop where
  | ok (room : Option Room) (mudData : Option MudData) (w' : World)
      (hloaded : ∀ url ∈ device.mudUrl, (w.loaded url).isSome)
      (hmudData : mudData = device.mudUrl.bind w.loaded)
      (honly : OnlyProfiles w.db.toTables w'.db.toTables)
      (hrefreshes : Refreshes w device.mudUrl w'.db.mudData)
      (hmem : ∀ url ∈ device.mudUrl, url ∈ w'.db.mudData.map (·.url)) :
      LoadsRefs w device (.ok ⟨device, room, mudData⟩, w')
  | failed (e : Error) (w' : World) (url : String) (hurl : url ∈ device.mudUrl)
      (hloaded : w.loaded url = none) (hdb : w'.db = w.db)
      (hrefreshes : Refreshes w device.mudUrl w'.db.mudData) : LoadsRefs w device (.error e, w')

theorem run_loadRoom {roomId : Option Int} {w : World} (h : ∀ id ∈ roomId, (w.db.room id).isSome) :
    (loadRoom roomId).run w = (.ok (roomId.bind w.db.room), w) := by
  cases roomId with
  | none => rfl
  | some id =>
      obtain ⟨room, hroom⟩ := Option.isSome_iff_exists.mp (h id rfl)
      have hexec : (Stmt.selectRoom id).exec w = (some room, w) := congrArg (·, w) hroom
      have hfind : (findRoomById id).run w = (.ok room, w) :=
        Action.run_bind_ok (Action.run_stmt_of_exec hexec)
      rw [Option.bind_some, hroom]
      exact Action.run_bind_ok hfind

/-- A device without a MUD URL. -/
theorem run_loadRefs_plain {device : Device} {w : World} (hroom : ∀ id ∈ device.roomId, (w.db.room id).isSome)
    (hurl : device.mudUrl = none) :
    (loadRefs device).run w = (.ok ⟨device, device.roomId.bind w.db.room, none⟩, w) := by
  unfold loadRefs
  rw [Action.run_bind_ok (run_loadRoom hroom), hurl]
  rfl

/-- A device whose profile loads. -/
theorem run_loadRefs_ok {device : Device} {w w' : World} {url : String} {data : MudData}
    (hroom : ∀ id ∈ device.roomId, (w.db.room id).isSome) (hurl : device.mudUrl = some url)
    (hload : (getOrFetchMud url).run w = (.ok data, w')) :
    (loadRefs device).run w = (.ok ⟨device, device.roomId.bind w.db.room, some data⟩, w') := by
  have hmud : (loadMudData (some url)).run w = (.ok (some data), w') := Action.run_bind_ok hload
  unfold loadRefs
  rw [Action.run_bind_ok (run_loadRoom hroom), hurl, Action.run_bind_ok hmud]
  rfl

/-- A device whose profile does not load. -/
theorem run_loadRefs_error {device : Device} {w w' : World} {url : String} {e : Error}
    (hroom : ∀ id ∈ device.roomId, (w.db.room id).isSome) (hurl : device.mudUrl = some url)
    (hload : (getOrFetchMud url).run w = (.error e, w')) : (loadRefs device).run w = (.error e, w') := by
  unfold loadRefs
  rw [Action.run_bind_ok (run_loadRoom hroom), hurl]
  exact Action.run_bind_error (Action.run_bind_error hload)

theorem loadRefs_loads {device : Device} {w : World}
    (hroom : ∀ id ∈ device.roomId, (w.db.room id).isSome) :
    LoadsRefs w device ((loadRefs device).run w) := by
  cases hmudUrl : device.mudUrl with
  | none =>
      rw [run_loadRefs_plain hroom hmudUrl]
      refine .ok _ none w (by simp [hmudUrl]) (by simp [hmudUrl]) (.refl _) ?_ (by simp [hmudUrl])
      rw [hmudUrl]
      exact .none
  | some url =>
      have hloads := getOrFetchMud_loads url w
      have hresult := getOrFetchMud_result url w
      have honly := hloads.onlyProfiles
      have hrefreshes := hloads.refreshes
      cases hr : (getOrFetchMud url).run w with
      | mk r w' =>
          rw [hr] at hloads hresult honly hrefreshes
          cases r with
          | ok data =>
              have hsome : w.loaded url = some data := hresult.symm
              rw [run_loadRefs_ok hroom hmudUrl hr]
              refine .ok _ (some data) w' ?_ ?_ honly (hmudUrl ▸ hrefreshes) ?_
              · intro u hu
                rw [hmudUrl] at hu
                cases hu
                simp [hsome]
              · rw [hmudUrl]
                exact hsome.symm
              · intro u hu
                rw [hmudUrl] at hu
                cases hu
                exact hloads.mem_mudData
          | error e =>
              have hnone : w.loaded url = none := hresult.symm
              rw [run_loadRefs_error hroom hmudUrl hr]
              refine .failed e w' url hmudUrl hnone ?_ (hmudUrl ▸ hrefreshes)
              cases hloads with
              | failed e w' hrefreshed hkept hdb => exact hdb

/-- The room of a stored device exists. -/
theorem Schema.room_isSome {t : Tables} (h : Schema t) {d : DeviceDbo} (hd : d ∈ t.devices) :
    ∀ id ∈ d.roomId, (t.room id).isSome := by
  intro id hid
  obtain ⟨room, hroom, rfl⟩ := List.mem_map.mp (h.roomIdRef d hd id hid)
  exact List.find?_isSome.mpr ⟨room, hroom, by simp⟩

/-! ## Writing devices -/

theorem run_updateDevice (deviceData : DeviceWithRefs) {w : World}
    (h : Schema (w.db.updateDevice deviceData.inner.toDbo)) :
    ∃ updated, (updateDevice deviceData).run w =
      (.ok updated, { w with db := Db.bumped ⟨w.db.updateDevice deviceData.inner.toDbo, h⟩ }) := by
  have hexec : (Stmt.updateDevice deviceData.inner.toDbo).exec w =
      (.ok _, { w with db := ⟨w.db.updateDevice deviceData.inner.toDbo, h⟩ }) := World.write_ok h _
  have hrow := Action.run_execute_ok (Action.run_stmt_of_exec hexec)
  unfold updateDevice
  rw [Action.run_bind_ok hrow, Action.run_bind_ok (run_updateConfigVersion _)]
  exact ⟨_, rfl⟩

theorem run_updateDevice_refused (deviceData : DeviceWithRefs) {w : World}
    (h : ¬ Schema (w.db.updateDevice deviceData.inner.toDbo)) :
    (updateDevice deviceData).run w = (.error (.databaseError .constraint), w) := by
  have hexec : (Stmt.updateDevice deviceData.inner.toDbo).exec w = (.error .constraint, w) :=
    World.write_refused h _
  unfold updateDevice
  exact Action.run_bind_error (Action.run_execute_error (Action.run_stmt_of_exec hexec))

/-- The task for a new device: it is registered if it collects data. -/
def insertTasks (id : Int) (device : Device) : List Task :=
  if device.collectInfo then [.addDevice id device] else []

theorem run_insertDevice_tasks (deviceData : DeviceWithRefs) {w : World}
    (h : Schema (w.db.insertDevice deviceData.inner.toDbo)) :
    (insertDevice deviceData).run w =
      (.ok (w.db.deviceSeq + 1), { w with
        db := Db.bumped ⟨w.db.insertDevice deviceData.inner.toDbo, h⟩
        tasks := w.tasks ++ insertTasks (w.db.deviceSeq + 1) deviceData.inner }) := by
  have hexec : (Stmt.insertDevice deviceData.inner.toDbo).exec w =
      (.ok (w.db.deviceSeq + 1), { w with db := ⟨w.db.insertDevice deviceData.inner.toDbo, h⟩ }) :=
    World.write_ok h _
  have hrow := Action.run_execute_ok (Action.run_stmt_of_exec hexec)
  unfold insertDevice insertTasks
  rw [Action.run_bind_ok hrow]
  by_cases hcollect : deviceData.inner.collectInfo
  · simp only [hcollect, if_true]
    rw [Action.run_stmt_bind, Action.run_bind_ok (run_updateConfigVersion _)]
    rfl
  · simp only [hcollect, Bool.false_eq_true, if_false, List.append_nil]
    exact Action.run_bind_ok (run_updateConfigVersion _)

theorem run_insertDevice (deviceData : DeviceWithRefs) {w : World}
    (h : Schema (w.db.insertDevice deviceData.inner.toDbo)) :
    ∃ id tasks, (insertDevice deviceData).run w =
      (.ok id, { w with
        db := Db.bumped ⟨w.db.insertDevice deviceData.inner.toDbo, h⟩
        tasks := tasks }) :=
  ⟨_, _, run_insertDevice_tasks deviceData h⟩

theorem run_insertDevice_refused (deviceData : DeviceWithRefs) {w : World}
    (h : ¬ Schema (w.db.insertDevice deviceData.inner.toDbo)) :
    (insertDevice deviceData).run w = (.error (.databaseError .constraint), w) := by
  have hexec : (Stmt.insertDevice deviceData.inner.toDbo).exec w = (.error .constraint, w) :=
    World.write_refused h _
  unfold insertDevice
  exact Action.run_bind_error (Action.run_execute_error (Action.run_stmt_of_exec hexec))

end MudController
