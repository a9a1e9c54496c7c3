import MudController.Run.Quiet

/-!
# `Run.Endpoint` — creating and updating a device, run by themselves

The two requests of the device endpoint that write check the caller and the body, load the references of the
device and write its row; what comes behind the write does not touch the devices any more. So a request
either stores its device, or leaves the devices as they were (`DeviceCreated`, `DeviceEdited`).
-/

namespace MudController

open Logic

variable [Platform]

/-- The device can be stored: its references load, and its unique columns are free among the rows that `other`
    selects. -/
structure World.Fits (w : World) (device : Device) (other : DeviceDbo → Prop) : Prop where
  room : ∀ id ∈ device.roomId, (w.db.room id).isSome
  loads : ∀ url ∈ device.mudUrl, (w.loaded url).isSome
  free : Free w.db.toTables device.toDbo other

/-- The device that a creation stores, if it is let through. -/
structure World.StoresNew (w : World) (auth : AuthToken) (dto : DeviceCreationUpdateDto) (device : Device) :
    Prop where
  granted : auth.Grants .deviceWrite
  valid : dto.validate = true
  intoDevice : dto.intoDevice dto.mudUrl.isNone (w.clock 0) = .ok device
  fits : w.tick.Fits device fun _ => True

/-- The update of the stored row is let through. -/
structure World.StoresEdit (w : World) (auth : AuthToken) (dto : DeviceCreationUpdateDto) (row : DeviceDbo) :
    Prop where
  granted : auth.Grants .deviceWrite
  valid : dto.validate = true
  stored : w.db.deviceById row.id = some row
  fits : w.Fits (dto.applyTo (Device.fromDbo row)) fun d => d.id ≠ row.id

/-- The devices after a creation. -/
inductive DeviceCreated (w : World) (auth : AuthToken) (dto : DeviceCreationUpdateDto) : World → Prop where
  | stored (device : Device) (w' : World) (hstores : w.StoresNew auth dto device)
      (hdevices : w'.db.devices = w.db.devices ++ [{ device.toDbo with id := w.db.deviceSeq + 1 }]) :
      DeviceCreated w auth dto w'
  | refused (w' : World) (hrefused : ∀ device, ¬ w.StoresNew auth dto device)
      (hdevices : w'.db.devices = w.db.devices) : DeviceCreated w auth dto w'

/-- The devices after an update. -/
inductive DeviceEdited (w : World) (auth : AuthToken) (id : Int) (dto : DeviceCreationUpdateDto) :
    World → Prop where
  | stored (row : DeviceDbo) (w' : World) (hid : row.id = id) (hstores : w.StoresEdit auth dto row)
      (hdevices : w'.db.devices = replaceRow (·.id) (dto.applyTo (Device.fromDbo row)).toDbo w.db.devices) :
      DeviceEdited w auth id dto w'
  | refused (w' : World) (hrefused : ∀ row, row.id = id → ¬ w.StoresEdit auth dto row)
      (hdevices : w'.db.devices = w.db.devices) : DeviceEdited w auth id dto w'

/-! ## References -/

theorem run_loadRefs_noRoom {device : Device} {w : World} {id : Int} (hid : device.roomId = some id)
    (hroom : w.db.room id = none) : (loadRefs device).run w = (.error (.databaseError .rowNotFound), w) := by
  have hexec : (Stmt.selectRoom id).exec w = (none, w) := congrArg (·, w) hroom
  have hfind : (findRoomById id).run w = (.error (.databaseError .rowNotFound), w) :=
    Action.run_bind_ok (Action.run_stmt_of_exec hexec)
  unfold loadRefs
  rw [hid]
  exact Action.run_bind_error (Action.run_bind_error hfind)

/-- The possible outcomes of loading the references of a device. -/
inductive ReadiesDevice (w : World) (device : Device) : Except Error DeviceWithRefs × World → Prop where
  | ready (room : Option Room) (mudData : Option MudData) (w' : World)
      (hroom : ∀ id ∈ device.roomId, (w.db.room id).isSome)
      (hloads : ∀ url ∈ device.mudUrl, (w.loaded url).isSome)
      (honly : OnlyProfiles w.db.toTables w'.db.toTables) (hrefers : Refers w'.db.toTables device.toDbo) :
      ReadiesDevice w device (.ok ⟨device, room, mudData⟩, w')
  | failed (e : Error) (w' : World) (hfails : ∀ other, ¬ w.Fits device other)
      (hdevices : w'.db.devices = w.db.devices) : ReadiesDevice w device (.error e, w')

theorem loadRefs_readies (device : Device) (w : World) : ReadiesDevice w device ((loadRefs device).run w) := by
  by_cases hroom : ∀ id ∈ device.roomId, (w.db.room id).isSome
  · have hloads := loadRefs_loads hroom
    generalize (loadRefs device).run w = outcome at hloads ⊢
    cases hloads with
    | ok room mudData w' hloaded hmudData honly hrefreshes hmem =>
        refine .ready room mudData w' hroom hloaded honly ⟨hmem, fun id hid => ?_⟩
        obtain ⟨found, hfound⟩ := Option.isSome_iff_exists.mp (hroom id hid)
        obtain rfl : found.roomId = id := by simpa using List.find?_some hfound
        rw [honly.rooms]
        exact List.mem_map_of_mem (List.mem_of_find?_eq_some hfound)
    | failed e w' url hurl hloaded hdb hrefreshes =>
        refine .failed e w' (fun other hfits => ?_) (by rw [hdb])
        have hsome := hfits.loads url hurl
        rw [hloaded] at hsome
        cases hsome
  · have hmissing := hroom
    push Not at hmissing
    obtain ⟨id, hid, hnone⟩ := hmissing
    rw [run_loadRefs_noRoom hid (by simpa using hnone)]
    exact .failed _ w (fun other hfits => hroom hfits.room) rfl

/-- Whether columns are free is a matter of the devices only. -/
theorem free_congr {t t' : Tables} (h : t'.devices = t.devices) {row : DeviceDbo} {other : DeviceDbo → Prop} :
    Free t' row other ↔ Free t row other := by
  constructor
  · rintro ⟨hipv4, hipv6, hpair⟩
    rw [h] at hipv4 hipv6 hpair
    exact ⟨hipv4, hipv6, hpair⟩
  · rintro ⟨hipv4, hipv6, hpair⟩
    rw [← h] at hipv4 hipv6 hpair
    exact ⟨hipv4, hipv6, hpair⟩

/-! ## The requests -/

/-- What only reads devices, run by itself. -/
theorem devices_of_keepsDevices {α : Type} {p : Action α} (h : p.All Stmt.KeepsDevices) (w : World) :
    (p.run w).2.db.devices = w.db.devices := by
  have hstep (s : Stmt) (w' : World) (hs : s.KeepsDevices) (hw' : w'.db.devices = w.db.devices) :
      (s.exec w').2.db.devices = w.db.devices := (hs.exec w').trans hw'
  exact h.run_preserves Stmt.exec hstep rfl

/-- The device after it was stored is read back and answered. -/
theorem answer_keepsDevices (id : Int) :
    (findDevice id >>= fun device => loadRefs device >>= fun refs =>
      (pure (DeviceDto.ofRefs refs) : Action DeviceDto)).All Stmt.KeepsDevices :=
  keepsDevices_of_quiet
    ((findDevice_quiet id).bind fun device => (loadRefs_quiet device).bind fun _ => trivial)

/-- A device that was updated is announced and answered. -/
theorem notified_keepsDevices (refs : DeviceWithRefs) (mudUrlFromGuess collectInfoBefore : Bool) :
    (notifyThings refs.inner mudUrlFromGuess collectInfoBefore >>= fun _ =>
      (pure (DeviceDto.ofRefs refs) : Action DeviceDto)).All Stmt.KeepsDevices :=
  (notifyThings_keepsDevices _ _ _).bind fun _ => trivial

/-- A caller without the permission is turned away. -/
theorem createDevice_denied {auth : AuthToken} {e : Error} (h : requireOneOf .deviceWrite auth.permissions = .error e)
    (dto : DeviceCreationUpdateDto) (w : World) : (DeviceController.createDevice auth dto).run w = (.error e, w) := by
  unfold DeviceController.createDevice AuthToken.requirePermission
  rw [h]
  rfl

theorem run_createDevice {auth : AuthToken} {dto : DeviceCreationUpdateDto} (hgranted : auth.Grants .deviceWrite)
    (hvalid : dto.validate = true) (w : World) :
    (DeviceController.createDevice auth dto).run w =
      Action.run (Prog.ofExcept (dto.intoDevice dto.mudUrl.isNone (w.clock 0)) >>= fun device =>
        loadRefs device >>= fun refs => insertDevice refs >>= fun id =>
          findDevice id >>= fun device => loadRefs device >>= fun refs => pure (DeviceDto.ofRefs refs)) w.tick := by
  unfold DeviceController.createDevice AuthToken.requirePermission validateDto
  rw [show requireOneOf .deviceWrite auth.permissions = .ok () from hgranted, if_pos hvalid]
  rfl

/-- Loading the references of a device, and then what stores it if its columns are free: it is stored exactly
    if it fits. -/
theorem stores_iff_fits {α : Type} {w : World} {device : Device} {other : DeviceDbo → Prop}
    {store : DeviceWithRefs → Action α} {devices : List DeviceDbo}
    (hstores : ∀ room mudData w', OnlyProfiles w.db.toTables w'.db.toTables → Refers w'.db.toTables device.toDbo →
      Free w.db.toTables device.toDbo other → ((store ⟨device, room, mudData⟩).run w').2.db.devices = devices)
    (hrefuses : ∀ room mudData w', OnlyProfiles w.db.toTables w'.db.toTables → Refers w'.db.toTables device.toDbo →
      ¬ Free w.db.toTables device.toDbo other →
        ((store ⟨device, room, mudData⟩).run w').2.db.devices = w.db.devices) :
    (w.Fits device other ∧ (Action.run (loadRefs device >>= store) w).2.db.devices = devices) ∨
      (¬ w.Fits device other ∧ (Action.run (loadRefs device >>= store) w).2.db.devices = w.db.devices) := by
  have hreadies := loadRefs_readies device w
  cases hr : (loadRefs device).run w with
  | mk r w' =>
      rw [hr] at hreadies
      cases hreadies with
      | failed e w' hfails hdevices =>
          rw [Action.run_bind_error hr]
          exact .inr ⟨hfails other, hdevices⟩
      | ready room mudData w' hroom hloads honly hrefers =>
          rw [Action.run_bind_ok hr]
          by_cases hfree : Free w.db.toTables device.toDbo other
          · exact .inl ⟨⟨hroom, hloads, hfree⟩, hstores room mudData w' honly hrefers hfree⟩
          · exact .inr ⟨fun hfits => hfree hfits.free, hrefuses room mudData w' honly hrefers hfree⟩

/-- The part of a creation that writes. -/
theorem insertDevice_stores (device : Device) (w : World) {α : Type} {rest : Int → Action α}
    (hrest : ∀ id, (rest id).All Stmt.KeepsDevices) :
    (w.Fits device (fun _ => True) ∧
      (Action.run (loadRefs device >>= fun refs => insertDevice refs >>= rest) w).2.db.devices =
        w.db.devices ++ [{ device.toDbo with id := w.db.deviceSeq + 1 }]) ∨
    (¬ w.Fits device (fun _ => True) ∧
      (Action.run (loadRefs device >>= fun refs => insertDevice refs >>= rest) w).2.db.devices = w.db.devices) := by
  apply stores_iff_fits
  · intro room mudData w' honly hrefers hfree
    have hiff := (w'.db.schema.insertDevice_iff hrefers).trans (free_congr honly.devices)
    obtain ⟨id, tasks, hrun⟩ := run_insertDevice ⟨device, room, mudData⟩ (hiff.mpr hfree)
    rw [Action.run_bind_ok hrun, devices_of_keepsDevices (hrest id)]
    show w'.db.devices ++ [{ device.toDbo with id := w'.db.deviceSeq + 1 }] = _
    rw [honly.devices, honly.deviceSeq]
  · intro room mudData w' honly hrefers hnot
    have hiff := (w'.db.schema.insertDevice_iff hrefers).trans (free_congr honly.devices)
    rw [Action.run_bind_error (run_insertDevice_refused ⟨device, room, mudData⟩ fun h => hnot (hiff.mp h))]
    exact honly.devices

theorem createDevice_created (auth : AuthToken) (dto : DeviceCreationUpdateDto) (w : World) :
    DeviceCreated w auth dto ((DeviceController.createDevice auth dto).run w).2 := by
  rcases auth.grants_or_denied .deviceWrite with hgranted | ⟨e, hdenied⟩
  · by_cases hvalid : dto.validate = true
    · rw [run_createDevice hgranted hvalid]
      cases hdevice : dto.intoDevice dto.mudUrl.isNone (w.clock 0) with
      | error e =>
          refine .refused _ (fun device hstores => ?_) rfl
          have hdevice' := hstores.intoDevice
          rw [hdevice] at hdevice'
          cases hdevice'
      | ok device =>
          show DeviceCreated w auth dto (Action.run (loadRefs device >>= _) w.tick).2
          rcases insertDevice_stores device w.tick answer_keepsDevices with ⟨hfits, hstored⟩ | ⟨hnot, hkept⟩
          · exact .stored device _ ⟨hgranted, hvalid, hdevice, hfits⟩ hstored
          · refine .refused _ (fun device' hstores => ?_) hkept
            have hdevice' := hstores.intoDevice
            rw [hdevice] at hdevice'
            cases hdevice'
            exact hnot hstores.fits
    · refine .refused _ (fun device hstores => hvalid hstores.valid) ?_
      unfold DeviceController.createDevice AuthToken.requirePermission validateDto
      rw [show requireOneOf .deviceWrite auth.permissions = .ok () from hgranted, if_neg hvalid]
      rfl
  · rw [createDevice_denied hdenied]
    exact .refused _ (fun device hstores => AuthToken.not_grants hdenied hstores.granted) rfl

theorem run_findDevice {id : Int} {w : World} {row : DeviceDbo} (h : w.db.deviceById id = some row) :
    (findDevice id).run w = (.ok (Device.fromDbo row), w) := by
  have hexec : (Stmt.selectDeviceById id).exec w = (some row, w) := congrArg (·, w) h
  have hfind : (findById id).run w = (.ok (Device.fromDbo row), w) :=
    Action.run_bind_ok (Action.run_bind_ok (Action.run_stmt_of_exec hexec))
  unfold findDevice orNotFound
  rw [Action.run_attempt_bind, hfind]
  rfl

theorem run_findDevice_missing {id : Int} {w : World} (h : w.db.deviceById id = none) :
    (findDevice id).run w = (.error (.responseError 404 (some "No device with this Id found")), w) := by
  have hexec : (Stmt.selectDeviceById id).exec w = (none, w) := congrArg (·, w) h
  have hfind : (findById id).run w = (.error (.databaseError .rowNotFound), w) :=
    Action.run_bind_error (Action.run_bind_ok (Action.run_stmt_of_exec hexec))
  unfold findDevice orNotFound
  rw [Action.run_attempt_bind, hfind]
  rfl

/-- A caller without the permission is turned away. -/
theorem updateDevice_denied {auth : AuthToken} {e : Error} (h : requireOneOf .deviceWrite auth.permissions = .error e)
    (id : Int) (dto : DeviceCreationUpdateDto) (w : World) :
    (DeviceController.updateDevice auth id dto).run w = (.error e, w) := by
  unfold DeviceController.updateDevice AuthToken.requirePermission
  rw [h]
  rfl

theorem run_updateDevice_checked {auth : AuthToken} {dto : DeviceCreationUpdateDto}
    (hgranted : auth.Grants .deviceWrite) (hvalid : dto.validate = true) (id : Int) (w : World) :
    (DeviceController.updateDevice auth id dto).run w =
      Action.run (findDevice id >>= fun device => loadRefs (dto.applyTo device) >>= fun refs =>
        updateDevice refs >>= fun _ =>
          notifyThings refs.inner (dto.mudUrlFromGuess.getD false) device.collectInfo >>= fun _ =>
            pure (DeviceDto.ofRefs refs)) w := by
  unfold DeviceController.updateDevice AuthToken.requirePermission validateDto
  rw [show requireOneOf .deviceWrite auth.permissions = .ok () from hgranted, if_pos hvalid]
  rfl

/-- The part of an update that writes. -/
theorem updateDevice_stores (device : Device) {w : World} (hmem : device.toDbo.id ∈ w.db.devices.map (·.id))
    {α : Type} {rest : DeviceWithRefs → Action α} (hrest : ∀ refs, (rest refs).All Stmt.KeepsDevices) :
    (w.Fits device (fun d => d.id ≠ device.toDbo.id) ∧
      (Action.run (loadRefs device >>= fun refs => updateDevice refs >>= fun _ => rest refs) w).2.db.devices =
        replaceRow (·.id) device.toDbo w.db.devices) ∨
    (¬ w.Fits device (fun d => d.id ≠ device.toDbo.id) ∧
      (Action.run (loadRefs device >>= fun refs => updateDevice refs >>= fun _ => rest refs) w).2.db.devices =
        w.db.devices) := by
  apply stores_iff_fits
  · intro room mudData w' honly hrefers hfree
    have hmem' : device.toDbo.id ∈ w'.db.devices.map (·.id) := honly.devices ▸ hmem
    have hiff := (w'.db.schema.updateDevice_iff hmem' hrefers).trans (free_congr honly.devices)
    obtain ⟨updated, hrun⟩ := run_updateDevice ⟨device, room, mudData⟩ (hiff.mpr hfree)
    rw [Action.run_bind_ok hrun, devices_of_keepsDevices (hrest _)]
    show replaceRow (·.id) device.toDbo w'.db.devices = _
    rw [honly.devices]
  · intro room mudData w' honly hrefers hnot
    have hmem' : device.toDbo.id ∈ w'.db.devices.map (·.id) := honly.devices ▸ hmem
    have hiff := (w'.db.schema.updateDevice_iff hmem' hrefers).trans (free_congr honly.devices)
    rw [Action.run_bind_error (run_updateDevice_refused ⟨device, room, mudData⟩ fun h => hnot (hiff.mp h))]
    exact honly.devices

theorem updateDevice_edited (auth : AuthToken) (id : Int) (dto : DeviceCreationUpdateDto) (w : World) :
    DeviceEdited w auth id dto ((DeviceController.updateDevice auth id dto).run w).2 := by
  rcases auth.grants_or_denied .deviceWrite with hgranted | ⟨e, hdenied⟩
  · by_cases hvalid : dto.validate = true
    · rw [run_updateDevice_checked hgranted hvalid]
      cases hrow : w.db.deviceById id with
      | none =>
          rw [Action.run_bind_error (run_findDevice_missing hrow)]
          refine .refused _ (fun row hid hstores => ?_) rfl
          have hstored := hstores.stored
          rw [hid, hrow] at hstored
          cases hstored
      | some row =>
          obtain rfl : row.id = id := by simpa using List.find?_some hrow
          have hmem : row.id ∈ w.db.devices.map (·.id) := List.mem_map_of_mem (List.mem_of_find?_eq_some hrow)
          rw [Action.run_bind_ok (run_findDevice hrow)]
          rcases updateDevice_stores (dto.applyTo (Device.fromDbo row)) hmem
              fun refs => notified_keepsDevices refs _ _ with ⟨hfits, hstored⟩ | ⟨hnot, hkept⟩
          · exact .stored row _ rfl ⟨hgranted, hvalid, hrow, hfits⟩ hstored
          · refine .refused _ (fun row' hid hstores => ?_) hkept
            have hstored := hstores.stored
            rw [hid, hrow] at hstored
            cases hstored
            exact hnot hstores.fits
    · refine .refused _ (fun row _ hstores => hvalid hstores.valid) ?_
      unfold DeviceController.updateDevice AuthToken.requirePermission validateDto
      rw [show requireOneOf .deviceWrite auth.permissions = .ok () from hgranted, if_neg hvalid]
      rfl
  · rw [updateDevice_denied hdenied]
    exact .refused _ (fun row _ hstores => AuthToken.not_grants hdenied hstores.granted) rfl

end MudController
