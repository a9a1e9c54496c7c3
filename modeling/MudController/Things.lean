import MudController.Identified

/-!
# `Things` — devices that collect data are registered with neo4things

Three calls can set `collect_info` of a row. A creation and a lease of a new device hand `add_device` to the
background right behind their insert. An update does so only if it has no guessed MUD URL to tell: the two
notifications share an `if … else if`. `collecting_registered_iff` says over every run which updates
set the flag without a registration.
-/

namespace MudController

open Logic

section

variable [Platform]

/-- The call returns no error. -/
def DeviceCall.Succeeds (w : World) : DeviceCall → Prop
  | .createDevice auth dto => ∃ answer, ((DeviceController.createDevice auth dto).run w).1 = .ok answer
  | .updateDevice auth id dto => ∃ answer, ((DeviceController.updateDevice auth id dto).run w).1 = .ok answer
  | .upsertDeviceFromDhcpLease lease => ((MudController.upsertDeviceFromDhcpLease lease).run w).1 = .ok ()

/-- Every row of the later world that collects data, and did not in the earlier one, has been registered in
    between, with what is stored of the device. -/
def World.Registered (w w' : World) : Prop :=
  ∀ row ∈ w'.db.devices, row.collectInfo = true →
    (∀ before ∈ w.db.devices, before.id = row.id → before.collectInfo = false) →
    ∃ device : Device, { device.toDbo with id := row.id } = row ∧
      .addDevice row.id device ∈ w'.tasks.drop w.tasks.length

/-- If the call succeeds, it hands over `add_device` for every device that it makes collect data. -/
def DeviceCall.Registers (w : World) (call : DeviceCall) : Prop :=
  call.Succeeds w → w.Registered (call.after w)

/-- The device has a MAC address or a DUID after the update. -/
def DeviceCreationUpdateDto.LeavesIdentity (dto : DeviceCreationUpdateDto) (row : DeviceDbo) : Prop :=
  (dto.macAddr.elim row.macAddr parse).isSome ∨ dto.duid.isSome ∨ row.duid.isSome

/-- An update that is let through and makes a device collect data does not mark the MUD URL that the device
    has after it as guessed. (For a device without MAC address and DUID such an update panics.) -/
def DeviceCall.StartsPlainly (w : World) : DeviceCall → Prop
  | .updateDevice auth id dto => ∀ row, row.id = id → w.StoresEdit auth dto row →
      row.collectInfo = false → dto.collectInfo = some true → dto.mudUrlFromGuess = some true →
      dto.LeavesIdentity row → dto.mudUrl = none ∧ row.mudUrl = none
  | _ => True

/-! ## Calls without tasks -/

/-- What is quiet leaves the devices and the tasks alone. -/
theorem quiet_run {α : Type} {p : Action α} (h : p.All Stmt.Quiet) {w w' : World} {r : Except Error α}
    (hrun : p.run w = (r, w')) : w'.db.devices = w.db.devices ∧ w'.tasks = w.tasks := by
  have hstep (s : Stmt) (w₁ : World) (hs : s.Quiet)
      (hw₁ : w₁.db.devices = w.db.devices ∧ w₁.tasks = w.tasks) :
      (s.exec w₁).2.db.devices = w.db.devices ∧ (s.exec w₁).2.tasks = w.tasks :=
    ⟨(hs.keepsDevices.exec w₁).trans hw₁.1, (hs.exec_tasks w₁).trans hw₁.2⟩
  have hkept : (p.run w).2.db.devices = w.db.devices ∧ (p.run w).2.tasks = w.tasks :=
    h.run_preserves Stmt.exec hstep ⟨rfl, rfl⟩
  rw [hrun] at hkept
  exact hkept

/-! ## New devices -/

theorem insertDevice_ok {refs : DeviceWithRefs} {w w' : World} {id : Int}
    (h : (insertDevice refs).run w = (.ok id, w')) :
    w'.db.devices = w.db.devices ++ [{ refs.inner.toDbo with id := id }] ∧
      w'.tasks = w.tasks ++ insertTasks id refs.inner := by
  by_cases hschema : Schema (w.db.insertDevice refs.inner.toDbo)
  · rw [run_insertDevice_tasks refs hschema] at h
    cases h
    exact ⟨rfl, rfl⟩
  · rw [run_insertDevice_refused refs hschema] at h
    cases h

/-- Where one row was inserted, and its task handed over. -/
theorem registered_of_inserted {w w' : World} {device : Device} {id : Int} {rows : List DeviceDbo}
    (hdevices : w'.db.devices = rows ++ [{ device.toDbo with id := id }])
    (htasks : w'.tasks = w.tasks ++ insertTasks id device)
    (hrows : ∀ row ∈ rows, ∃ before ∈ w.db.devices, before.id = row.id ∧ before.collectInfo = row.collectInfo) :
    w.Registered w' := by
  intro row hrow hcollects hbefore
  rw [hdevices] at hrow
  rcases List.mem_append.mp hrow with hold | hnew
  · obtain ⟨before, hmem, hid, hsame⟩ := hrows row hold
    rw [← hsame, hbefore before hmem hid] at hcollects
    cases hcollects
  · obtain rfl := List.mem_singleton.mp hnew
    have hcollectInfo : device.collectInfo = true := hcollects
    refine ⟨device, rfl, ?_⟩
    rw [htasks, List.drop_left, insertTasks, if_pos hcollectInfo]
    exact List.mem_singleton_self _

theorem createDevice_ok {auth : AuthToken} {dto : DeviceCreationUpdateDto} {w w' : World} {answer : DeviceDto}
    (h : (DeviceController.createDevice auth dto).run w = (.ok answer, w')) :
    ∃ device id, w'.db.devices = w.db.devices ++ [{ device.toDbo with id := id }] ∧
      w'.tasks = w.tasks ++ insertTasks id device := by
  rcases auth.grants_or_denied .deviceWrite with hgranted | ⟨e, hdenied⟩
  · by_cases hvalid : dto.validate = true
    · rw [run_createDevice hgranted hvalid] at h
      obtain ⟨device, w₁, hinto, h⟩ := Action.exists_of_run_bind_ok h
      obtain ⟨_, rfl⟩ := Prod.mk.inj hinto
      obtain ⟨refs, w₁, hload, h⟩ := Action.exists_of_run_bind_ok h
      obtain ⟨id, w₂, hinsert, h⟩ := Action.exists_of_run_bind_ok h
      obtain ⟨hdevices₁, htasks₁⟩ := quiet_run (loadRefs_quiet _) hload
      obtain ⟨hdevices₂, htasks₂⟩ := insertDevice_ok hinsert
      -- reading the new device back hands nothing over
      have hanswer : (findDevice id >>= fun device => loadRefs device >>= fun refs =>
          (pure (DeviceDto.ofRefs refs) : Action DeviceDto)).All Stmt.Quiet :=
        (findDevice_quiet id).bind fun device => (loadRefs_quiet device).bind fun _ => trivial
      obtain ⟨hdevices₃, htasks₃⟩ := quiet_run hanswer h
      exact ⟨refs.inner, id, by rw [hdevices₃, hdevices₂, hdevices₁]; rfl,
        by rw [htasks₃, htasks₂, htasks₁]; rfl⟩
    · unfold DeviceController.createDevice AuthToken.requirePermission validateDto at h
      rw [show requireOneOf .deviceWrite auth.permissions = .ok () from hgranted, if_neg hvalid] at h
      cases h
  · rw [createDevice_denied hdenied] at h
    cases h

theorem insertLeasedDevice_ok {lease : DhcpLeaseInformation} {w w' : World}
    (h : (insertLeasedDevice lease).run w = (.ok (), w')) :
    ∃ device id ipv4 ipv6, w'.db.devices = w.db.devices.map (DeviceDbo.withoutIps ipv4 ipv6) ++
        [{ device.toDbo with id := id }] ∧
      w'.tasks = w.tasks ++ insertTasks id device := by
  unfold insertLeasedDevice at h
  rw [Action.run_bind_ok (run_leaseCollectInfo lease w), Action.run_now_bind,
    Action.run_bind_ok (run_removeExistingIps _ _ _)] at h
  obtain ⟨refs, w₁, hload, h⟩ := Action.exists_of_run_bind_ok h
  obtain ⟨id, w₂, hinsert, h⟩ := Action.exists_of_run_bind_ok h
  cases h
  obtain ⟨hdevices₁, htasks₁⟩ := quiet_run (loadRefs_quiet _) hload
  obtain ⟨hdevices₂, htasks₂⟩ := insertDevice_ok hinsert
  exact ⟨refs.inner, id, _, _, by rw [hdevices₂, hdevices₁]; rfl, by rw [htasks₂, htasks₁]; rfl⟩

/-! ## Updates -/

/-- The tasks of an update, or `none` where it panics: the device is to be described, and has neither a MAC
    address nor a DUID. -/
def updateTasks (device : Device) (mudUrlFromGuess collectInfoBefore : Bool) : Option (List Task) :=
  match mudUrlFromGuess, device.mudUrl with
  | true, some mudUrl => device.macOrDuid.map fun macOrDuid => [.describeThing macOrDuid mudUrl]
  | _, _ => some (if device.collectInfo && !collectInfoBefore then [.addDevice device.id device] else [])

/-- Without a guess, a device that starts to collect data is registered. -/
theorem notifyThings_plain {device : Device} {mudUrlFromGuess : Bool}
    (h : mudUrlFromGuess = true → device.mudUrl = none) (collectInfoBefore : Bool) :
    notifyThings device mudUrlFromGuess collectInfoBefore =
        (if device.collectInfo && !collectInfoBefore then stmt (.spawn (.addDevice device.id device)) else return ()) ∧
      updateTasks device mudUrlFromGuess collectInfoBefore =
        some (if device.collectInfo && !collectInfoBefore then [.addDevice device.id device] else []) := by
  cases mudUrlFromGuess with
  | false => exact ⟨rfl, rfl⟩
  | true =>
      unfold notifyThings updateTasks
      rw [h rfl]
      exact ⟨rfl, rfl⟩

theorem guess_cases (device : Device) (mudUrlFromGuess : Bool) :
    (mudUrlFromGuess = true → device.mudUrl = none) ∨
      mudUrlFromGuess = true ∧ ∃ mudUrl, device.mudUrl = some mudUrl := by
  cases device.mudUrl with
  | none => exact .inl fun _ => rfl
  | some mudUrl =>
      cases mudUrlFromGuess with
      | false => exact .inl fun h => absurd h Bool.false_ne_true
      | true => exact .inr ⟨rfl, mudUrl, rfl⟩

theorem run_notifyThings {device : Device} {mudUrlFromGuess collectInfoBefore : Bool} {tasks : List Task}
    (h : updateTasks device mudUrlFromGuess collectInfoBefore = some tasks) (w : World) :
    (notifyThings device mudUrlFromGuess collectInfoBefore).run w =
      (.ok (), { w with tasks := w.tasks ++ tasks }) := by
  rcases guess_cases device mudUrlFromGuess with hplain | ⟨rfl, mudUrl, hurl⟩
  · obtain ⟨hnotify, htasks⟩ := notifyThings_plain hplain collectInfoBefore
    rw [hnotify]
    cases htasks.symm.trans h
    split
    · rfl
    · have hnone : w = { w with tasks := w.tasks ++ [] } := World.ext rfl rfl rfl (List.append_nil _).symm
      exact congrArg (Prod.mk _) hnone
  · unfold updateTasks at h
    rw [hurl] at h
    obtain ⟨macOrDuid, hmac, rfl⟩ := Option.map_eq_some_iff.mp h
    unfold notifyThings
    rw [hurl, hmac]
    rfl

theorem run_notifyThings_panicked {device : Device} {mudUrlFromGuess collectInfoBefore : Bool}
    (h : updateTasks device mudUrlFromGuess collectInfoBefore = none) (w : World) :
    (notifyThings device mudUrlFromGuess collectInfoBefore).run w = (.error .panicked, w) := by
  rcases guess_cases device mudUrlFromGuess with hplain | ⟨rfl, mudUrl, hurl⟩
  · cases (notifyThings_plain hplain collectInfoBefore).2.symm.trans h
  · unfold updateTasks at h
    rw [hurl] at h
    have hmac := Option.map_eq_none_iff.mp h
    unfold notifyThings
    rw [hurl, hmac]
    rfl

/-- What an update returns and leaves behind. -/
inductive EditRun (w : World) (auth : AuthToken) (id : Int) (dto : DeviceCreationUpdateDto) :
    Except Error DeviceDto × World → Prop where
  | stored (row : DeviceDbo) (answer : DeviceDto) (tasks : List Task) (w' : World) (hid : row.id = id)
      (hstores : w.StoresEdit auth dto row)
      (hdevices : w'.db.devices = replaceRow (·.id) (dto.applyTo (Device.fromDbo row)).toDbo w.db.devices)
      (hsome : updateTasks (dto.applyTo (Device.fromDbo row)) (dto.mudUrlFromGuess.getD false)
        row.collectInfo = some tasks)
      (htasks : w'.tasks = w.tasks ++ tasks) : EditRun w auth id dto (.ok answer, w')
  | panicked (row : DeviceDbo) (w' : World) (hid : row.id = id) (hstores : w.StoresEdit auth dto row)
      (hnone : updateTasks (dto.applyTo (Device.fromDbo row)) (dto.mudUrlFromGuess.getD false)
        row.collectInfo = none) : EditRun w auth id dto (.error .panicked, w')
  | refused (e : Error) (w' : World) (hrefused : ∀ row, row.id = id → ¬ w.StoresEdit auth dto row) :
      EditRun w auth id dto (.error e, w')

/-- The part of an update that writes, from when the row is read. -/
theorem editRun_found {auth : AuthToken} {dto : DeviceCreationUpdateDto} {w : World} {row : DeviceDbo}
    (hgranted : auth.Grants .deviceWrite) (hvalid : dto.validate = true)
    (hrow : w.db.deviceById row.id = some row) :
    EditRun w auth row.id dto (Action.run (loadRefs (dto.applyTo (Device.fromDbo row)) >>= fun refs =>
      updateDevice refs >>= fun _ =>
        notifyThings refs.inner (dto.mudUrlFromGuess.getD false) (Device.fromDbo row).collectInfo >>= fun _ =>
          pure (DeviceDto.ofRefs refs)) w) := by
  have hrefused (hnot : ¬ w.Fits (dto.applyTo (Device.fromDbo row)) fun d => d.id ≠ row.id) :
      ∀ row', row'.id = row.id → ¬ w.StoresEdit auth dto row' := by
    intro row' hid hstores
    have hstored := hstores.stored
    rw [hid, hrow] at hstored
    cases hstored
    exact hnot hstores.fits
  have hmem : (dto.applyTo (Device.fromDbo row)).toDbo.id ∈ w.db.devices.map (·.id) :=
    List.mem_map.mpr ⟨row, List.mem_of_find?_eq_some hrow, rfl⟩
  have hreadies := loadRefs_readies (dto.applyTo (Device.fromDbo row)) w
  rcases hload : (loadRefs (dto.applyTo (Device.fromDbo row))).run w with ⟨r, w₁⟩
  rw [hload] at hreadies
  cases hreadies with
  | failed e w₁ hfails hdevices =>
      rw [Action.run_bind_error hload]
      exact .refused e w₁ (hrefused (hfails _))
  | ready room mudData w₁ hroom hloads honly hrefers =>
      have htasks := (quiet_run (loadRefs_quiet _) hload).2
      have hmem₁ : (dto.applyTo (Device.fromDbo row)).toDbo.id ∈ w₁.db.devices.map (·.id) :=
        honly.devices ▸ hmem
      have hiff := (w₁.db.schema.updateDevice_iff hmem₁ hrefers).trans (free_congr honly.devices)
      rw [Action.run_bind_ok hload]
      by_cases hfree : Free w.db.toTables (dto.applyTo (Device.fromDbo row)).toDbo fun d =>
          d.id ≠ (dto.applyTo (Device.fromDbo row)).toDbo.id
      · have hstores : w.StoresEdit auth dto row := ⟨hgranted, hvalid, hrow, hroom, hloads, hfree⟩
        obtain ⟨updated, hupdate⟩ :=
          run_updateDevice ⟨dto.applyTo (Device.fromDbo row), room, mudData⟩ (hiff.mpr hfree)
        rw [Action.run_bind_ok hupdate]
        show EditRun w auth row.id dto (Action.run (notifyThings (dto.applyTo (Device.fromDbo row))
          (dto.mudUrlFromGuess.getD false) row.collectInfo >>= fun _ => _) _)
        cases hupdateTasks : updateTasks (dto.applyTo (Device.fromDbo row)) (dto.mudUrlFromGuess.getD false)
            row.collectInfo with
        | none =>
            rw [Action.run_bind_error (run_notifyThings_panicked hupdateTasks _)]
            exact .panicked row _ rfl hstores hupdateTasks
        | some tasks =>
            rw [Action.run_bind_ok (run_notifyThings hupdateTasks _)]
            refine .stored row _ tasks _ rfl hstores ?_ hupdateTasks ?_
            · show replaceRow (·.id) _ w₁.db.devices = _
              rw [honly.devices]
            · show w₁.tasks ++ tasks = _
              rw [htasks]
      · rw [Action.run_bind_error (run_updateDevice_refused _ fun h => hfree (hiff.mp h))]
        exact .refused _ w₁ (hrefused fun hfits => hfree hfits.free)

theorem editRun (auth : AuthToken) (id : Int) (dto : DeviceCreationUpdateDto) (w : World) :
    EditRun w auth id dto ((DeviceController.updateDevice auth id dto).run w) := by
  rcases auth.grants_or_denied .deviceWrite with hgranted | ⟨e, hdenied⟩
  · by_cases hvalid : dto.validate = true
    · rw [run_updateDevice_checked hgranted hvalid]
      cases hrow : w.db.deviceById id with
      | none =>
          rw [Action.run_bind_error (run_findDevice_missing hrow)]
          refine .refused _ w fun row hid hstores => ?_
          have hstored := hstores.stored
          rw [hid, hrow] at hstored
          cases hstored
      | some row =>
          obtain rfl : row.id = id := by simpa using List.find?_some hrow
          rw [Action.run_bind_ok (run_findDevice hrow)]
          exact editRun_found hgranted hvalid hrow
    · unfold DeviceController.updateDevice AuthToken.requirePermission validateDto
      rw [show requireOneOf .deviceWrite auth.permissions = .ok () from hgranted, if_neg hvalid]
      exact .refused _ w fun row _ hstores => hvalid hstores.valid
  · rw [updateDevice_denied hdenied]
    exact .refused e w fun row _ hstores => AuthToken.not_grants hdenied hstores.granted

/-! ## Which updates register -/

theorem applyTo_mudUrl (dto : DeviceCreationUpdateDto) (device : Device) :
    (dto.applyTo device).mudUrl = dto.mudUrl.or device.mudUrl := by
  unfold DeviceCreationUpdateDto.applyTo
  cases dto.mudUrl <;> rfl

theorem applyTo_collectInfo (dto : DeviceCreationUpdateDto) (device : Device) :
    (dto.applyTo device).collectInfo = dto.collectInfo.getD device.collectInfo := by
  unfold DeviceCreationUpdateDto.applyTo
  cases dto.collectInfo <;> rfl

theorem leavesIdentity_iff (dto : DeviceCreationUpdateDto) (row : DeviceDbo) :
    dto.LeavesIdentity row ↔ (dto.applyTo (Device.fromDbo row)).macOrDuid.isSome := by
  have hmac : (dto.applyTo (Device.fromDbo row)).macAddr = dto.macAddr.elim row.macAddr parse := by
    cases hm : dto.macAddr with
    | none => exact applyTo_macAddr_none hm _
    | some m => exact applyTo_macAddr_some hm _
  unfold DeviceCreationUpdateDto.LeavesIdentity Device.macOrDuid
  rw [hmac, applyTo_duid, Option.isSome_or, Option.isSome_or, Option.isSome_map, Bool.or_eq_true, Bool.or_eq_true]
  rfl

/-- A guessed MUD URL is told, and nothing else. -/
theorem updateTasks_describe {device : Device} {mudUrl macOrDuid : String} (hurl : device.mudUrl = some mudUrl)
    (hmac : device.macOrDuid = some macOrDuid) (collectInfoBefore : Bool) :
    updateTasks device true collectInfoBefore = some [.describeThing macOrDuid mudUrl] := by
  unfold updateTasks
  rw [hurl, hmac]
  rfl

/-- Otherwise a device that starts to collect data is registered. -/
theorem updateTasks_add {device : Device} {mudUrlFromGuess : Bool}
    (hnone : mudUrlFromGuess = true → device.mudUrl = none) (hstarts : device.collectInfo = true) :
    updateTasks device mudUrlFromGuess false = some [.addDevice device.id device] := by
  rw [(notifyThings_plain hnone false).2, hstarts]
  rfl

/-- The row of an update that stores its device. -/
theorem eq_of_storesEdit {w : World} {auth : AuthToken} {dto : DeviceCreationUpdateDto} {row row' : DeviceDbo}
    (h : w.StoresEdit auth dto row) (h' : w.StoresEdit auth dto row') (hid : row'.id = row.id) : row' = row :=
  Option.some.inj (h'.stored.symm.trans (hid ▸ h.stored))

section

variable {w w' : World} {auth : AuthToken} {dto : DeviceCreationUpdateDto} {row : DeviceDbo} {tasks : List Task}

/-- The device is to be described: it has a MUD URL and an identity. -/
theorem updateTasks_guessed (hguess : dto.mudUrlFromGuess = some true) (hidentity : dto.LeavesIdentity row)
    (hurl : (dto.applyTo (Device.fromDbo row)).mudUrl ≠ none) :
    ∃ macOrDuid mudUrl, updateTasks (dto.applyTo (Device.fromDbo row)) (dto.mudUrlFromGuess.getD false)
      row.collectInfo = some [.describeThing macOrDuid mudUrl] := by
  obtain ⟨mudUrl, hmudUrl⟩ := Option.ne_none_iff_exists'.mp hurl
  obtain ⟨macOrDuid, hmac⟩ := Option.isSome_iff_exists.mp ((leavesIdentity_iff dto row).mp hidentity)
  rw [hguess]
  exact ⟨macOrDuid, mudUrl, updateTasks_describe hmudUrl hmac _⟩

/-- An update that has not panicked and has a guess to tell leaves the device an identity. -/
theorem leavesIdentity_of_updateTasks (hguess : dto.mudUrlFromGuess = some true)
    (hurl : (dto.applyTo (Device.fromDbo row)).mudUrl ≠ none)
    (hsome : updateTasks (dto.applyTo (Device.fromDbo row)) (dto.mudUrlFromGuess.getD false)
      row.collectInfo = some tasks) : dto.LeavesIdentity row := by
  obtain ⟨mudUrl, hmudUrl⟩ := Option.ne_none_iff_exists'.mp hurl
  unfold updateTasks at hsome
  rw [hguess, hmudUrl] at hsome
  obtain ⟨macOrDuid, hmac, _⟩ := Option.map_eq_some_iff.mp hsome
  exact (leavesIdentity_iff dto row).mpr (by rw [hmac]; rfl)

/-- An update that starts a device without a guess registers it. -/
theorem registered_of_plain (hstores : w.StoresEdit auth dto row)
    (hdevices : w'.db.devices = replaceRow (·.id) (dto.applyTo (Device.fromDbo row)).toDbo w.db.devices)
    (hsome : updateTasks (dto.applyTo (Device.fromDbo row)) (dto.mudUrlFromGuess.getD false)
      row.collectInfo = some tasks)
    (htasks : w'.tasks = w.tasks ++ tasks)
    (hplain : row.collectInfo = false → dto.collectInfo = some true → dto.mudUrlFromGuess = some true →
      dto.LeavesIdentity row → dto.mudUrl = none ∧ row.mudUrl = none) :
    w.Registered w' := by
  have hmem : row ∈ w.db.devices := List.mem_of_find?_eq_some hstores.stored
  intro row' hrow' hcollects hbefore
  rw [hdevices] at hrow'
  rcases mem_of_mem_replaceRow hrow' with rfl | ⟨hold, _⟩
  · have hoff : row.collectInfo = false := hbefore row hmem rfl
    have hon : dto.collectInfo = some true := by
      have hset : dto.collectInfo.getD row.collectInfo = true := (applyTo_collectInfo dto _).symm.trans hcollects
      rw [hoff] at hset
      exact Option.getD_eq_iff.mp hset |>.resolve_right (by simp)
    have hnone : dto.mudUrlFromGuess.getD false = true →
        (dto.applyTo (Device.fromDbo row)).mudUrl = none := by
      intro hguessed
      have hguess : dto.mudUrlFromGuess = some true :=
        Option.getD_eq_iff.mp hguessed |>.resolve_right (by simp)
      by_contra hurl
      have hidentity := leavesIdentity_of_updateTasks hguess hurl hsome
      exact hurl ((applyTo_mudUrl dto _).trans (Option.or_eq_none_iff.mpr (hplain hoff hon hguess hidentity)))
    rw [hoff, updateTasks_add hnone hcollects] at hsome
    cases hsome
    refine ⟨dto.applyTo (Device.fromDbo row), rfl, ?_⟩
    rw [htasks, List.drop_left]
    exact List.mem_singleton_self _
  · rw [hbefore row' hold rfl] at hcollects
    cases hcollects

/-- An update that starts a device and has a guess to tell does not register it. -/
theorem plain_of_registered (hstores : w.StoresEdit auth dto row)
    (hdevices : w'.db.devices = replaceRow (·.id) (dto.applyTo (Device.fromDbo row)).toDbo w.db.devices)
    (hsome : updateTasks (dto.applyTo (Device.fromDbo row)) (dto.mudUrlFromGuess.getD false)
      row.collectInfo = some tasks)
    (htasks : w'.tasks = w.tasks ++ tasks) (hregistered : w.Registered w')
    (hoff : row.collectInfo = false) (hon : dto.collectInfo = some true)
    (hguess : dto.mudUrlFromGuess = some true) (hidentity : dto.LeavesIdentity row) :
    dto.mudUrl = none ∧ row.mudUrl = none := by
  have hmem : row ∈ w.db.devices := List.mem_of_find?_eq_some hstores.stored
  have hkey : (dto.applyTo (Device.fromDbo row)).toDbo.id ∈ w.db.devices.map (·.id) :=
    List.mem_map.mpr ⟨row, hmem, rfl⟩
  by_contra hurls
  have hurl : (dto.applyTo (Device.fromDbo row)).mudUrl ≠ none := fun hnone =>
    hurls (Option.or_eq_none_iff.mp ((applyTo_mudUrl dto _).symm.trans hnone))
  obtain ⟨macOrDuid, mudUrl, hdescribe⟩ := updateTasks_guessed hguess hidentity hurl
  rw [hdescribe] at hsome
  cases hsome
  have hcollects : (dto.applyTo (Device.fromDbo row)).toDbo.collectInfo = true := by
    refine (applyTo_collectInfo dto _).trans ?_
    rw [hon]
    rfl
  have hbefore : ∀ before ∈ w.db.devices, before.id = row.id → before.collectInfo = false := by
    intro before hbefore hid
    rw [List.inj_on_of_nodup_map w.db.schema.deviceIds hbefore hmem hid]
    exact hoff
  -- the only task is another one
  obtain ⟨device, _, hadd⟩ := hregistered _ (hdevices ▸ mem_replaceRow_self hkey) hcollects hbefore
  rw [htasks, List.drop_left] at hadd
  simp at hadd

end

theorem updateDevice_registers_iff (auth : AuthToken) (id : Int) (dto : DeviceCreationUpdateDto) (w : World) :
    (DeviceCall.updateDevice auth id dto).Registers w ↔ (DeviceCall.updateDevice auth id dto).StartsPlainly w := by
  have hrun := editRun auth id dto w
  show ((∃ answer, ((DeviceController.updateDevice auth id dto).run w).1 = .ok answer) →
    w.Registered ((DeviceController.updateDevice auth id dto).run w).2) ↔ _
  generalize (DeviceController.updateDevice auth id dto).run w = outcome at hrun ⊢
  cases hrun with
  | refused e w' hrefused =>
      refine iff_of_true ?_ fun row hid hstores => absurd hstores (hrefused row hid)
      rintro ⟨answer, hok⟩
      cases hok
  | panicked row w' hid hstores hnone =>
      refine iff_of_true ?_ fun row' hid' hstores' _ _ hguess hidentity => ?_
      · rintro ⟨answer, hok⟩
        cases hok
      · -- an update that panics had no identity to unwrap
        obtain rfl := eq_of_storesEdit hstores hstores' (hid'.trans hid.symm)
        by_contra hurls
        have hurl : (dto.applyTo (Device.fromDbo row')).mudUrl ≠ none := fun hnone =>
          hurls (Option.or_eq_none_iff.mp ((applyTo_mudUrl dto _).symm.trans hnone))
        obtain ⟨macOrDuid, mudUrl, hdescribe⟩ := updateTasks_guessed hguess hidentity hurl
        rw [hdescribe] at hnone
        cases hnone
  | stored row answer tasks w' hid hstores hdevices hsome htasks =>
      constructor
      · intro hregisters row' hid' hstores'
        obtain rfl := eq_of_storesEdit hstores hstores' (hid'.trans hid.symm)
        exact plain_of_registered hstores hdevices hsome htasks (hregisters ⟨answer, rfl⟩)
      · intro hplain _
        exact registered_of_plain hstores hdevices hsome htasks (hplain row hid hstores)

/-! ## Creations and leases -/

theorem createDevice_registers (auth : AuthToken) (dto : DeviceCreationUpdateDto) (w : World) :
    (DeviceCall.createDevice auth dto).Registers w := by
  rintro ⟨answer, hok⟩
  obtain ⟨device, id, hdevices, htasks⟩ := createDevice_ok (Prod.ext hok rfl)
  exact registered_of_inserted hdevices htasks fun row hrow => ⟨row, hrow, rfl, rfl⟩

/-- Taking addresses away keeps what a row collects. -/
theorem clears_collectInfo {g : DeviceDbo → DeviceDbo} {w : World} (hid : ∀ d, (g d).id = d.id)
    (hcollect : ∀ d, (g d).collectInfo = d.collectInfo) :
    ∀ row ∈ w.db.devices.map g, ∃ before ∈ w.db.devices,
      before.id = row.id ∧ before.collectInfo = row.collectInfo := by
  intro row hrow
  obtain ⟨before, hmem, rfl⟩ := List.mem_map.mp hrow
  exact ⟨before, hmem, (hid before).symm, (hcollect before).symm⟩

theorem withoutIps_collectInfo (ipv4 : Option Ipv4Addr) (ipv6 : Option Ipv6Addr) (d : DeviceDbo) :
    (d.withoutIps ipv4 ipv6).collectInfo = d.collectInfo := by
  unfold DeviceDbo.withoutIps DeviceDbo.withoutIpv4 DeviceDbo.withoutIpv6
  cases ipv4 <;> cases ipv6 <;> dsimp only <;> split_ifs <;> rfl

/-- A lease of a device that is not known yet. -/
theorem registered_of_newLease {w : World} {lease : DhcpLeaseInformation} (hrow : w.leaseRow lease = none)
    (hok : ((MudController.upsertDeviceFromDhcpLease lease).run w).1 = .ok ()) :
    w.Registered ((MudController.upsertDeviceFromDhcpLease lease).run w).2 := by
  have hrun : (MudController.upsertDeviceFromDhcpLease lease).run w = (insertLeasedDevice lease).run w := by
    unfold MudController.upsertDeviceFromDhcpLease
    rw [Action.run_attempt_bind, run_findByMacOrDuid, show w.db.leaseTarget lease.macAddress lease.duid = none
      from hrow]
  rw [hrun] at hok ⊢
  obtain ⟨device, id, ipv4, ipv6, hdevices, htasks⟩ := insertLeasedDevice_ok (Prod.ext hok rfl)
  exact registered_of_inserted hdevices htasks
    (clears_collectInfo (clears_withoutIps ipv4 ipv6).id (withoutIps_collectInfo ipv4 ipv6))

/-- A lease of a known device makes no device collect data. -/
theorem registered_of_knownLease {w : World} {lease : DhcpLeaseInformation} {d : DeviceDbo}
    (hrow : w.leaseRow lease = some d)
    (hok : ((MudController.upsertDeviceFromDhcpLease lease).run w).1 = .ok ()) :
    w.Registered ((MudController.upsertDeviceFromDhcpLease lease).run w).2 := by
  have hleases := lease_leases w lease
  generalize (MudController.upsertDeviceFromDhcpLease lease).run w = outcome at hok hleases ⊢
  cases hleases with
  | failed e w' hcompletes hdevices hconfig hrefreshes => cases hok
  | done w' hcompletes hdevices hversion =>
      intro row hmem hcollects hbefore
      have hold : ∃ before ∈ w.db.devices, before.id = row.id ∧ before.collectInfo = row.collectInfo := by
        rw [show w'.db.devices = replaceRow (·.id) (w.leaseDevice lease).toDbo (w.clearedDevices lease) by
          rw [hdevices, World.leasedDevices, hrow]] at hmem
        rcases mem_of_mem_replaceRow hmem with rfl | ⟨hcleared, _⟩
        · refine ⟨d, Tables.leaseTarget_mem hrow, (leaseDevice_id hrow).symm, ?_⟩
          rw [World.leaseDevice_known hrow]
          rfl
        · exact clears_collectInfo (clears_withoutIps _ _).id (withoutIps_collectInfo _ _) row hcleared
      obtain ⟨before, hstored, hid, hsame⟩ := hold
      rw [← hsame, hbefore before hstored hid] at hcollects
      cases hcollects

theorem lease_registers (lease : DhcpLeaseInformation) (w : World) :
    (DeviceCall.upsertDeviceFromDhcpLease lease).Registers w := by
  intro hok
  cases hrow : w.leaseRow lease with
  | none => exact registered_of_newLease hrow hok
  | some d => exact registered_of_knownLease hrow hok

/-! ## All calls -/

theorem DeviceCall.registers_iff (w : World) (call : DeviceCall) : call.Registers w ↔ call.StartsPlainly w := by
  cases call with
  | createDevice auth dto => exact iff_of_true (createDevice_registers auth dto w) trivial
  | updateDevice auth id dto => exact updateDevice_registers_iff auth id dto w
  | upsertDeviceFromDhcpLease lease => exact iff_of_true (lease_registers lease w) trivial

/-- **Collecting devices are registered.** Over a run, every call that succeeds registers the devices that it
    makes collect data if and only if no update of the run makes a device collect data under a MUD URL that
    it marks as guessed. -/
theorem collecting_registered_iff (w : World) (calls : List DeviceCall) :
    (∀ pre call post, calls = pre ++ call :: post → call.Registers (pre.foldl DeviceCall.after w)) ↔
      ∀ pre call post, calls = pre ++ call :: post → call.StartsPlainly (pre.foldl DeviceCall.after w) := by
  constructor
  · intro h pre call post hcalls
    exact (call.registers_iff _).mp (h pre call post hcalls)
  · intro h pre call post hcalls
    exact (call.registers_iff _).mpr (h pre call post hcalls)

end

section

attribute [local instance] Reference.platform

/-- A lamp that does not collect data. Its profile is stored. -/
def idleLamp : World :=
  Reference.offline
    (Reference.tables [Reference.row 1 (some "10.0.0.5") (some 1) none none]
      [⟨lampUrl, serialize (Reference.profile [] []), 0, 1⟩] [])
    (by decide)

/-- The guessed profile is taken over, and data collected from now on. -/
def guessedUpdate : DeviceCall :=
  .updateDevice rootAuth 1
    { mudUrl := some lampUrl, mudUrlFromGuess := some true, collectInfo := some true }

set_option maxRecDepth 20000 in
/-- The update makes the lamp collect data, and only tells the MUD URL. -/
theorem guessed_update_not_registered :
    guessedUpdate.Succeeds idleLamp ∧
    (guessedUpdate.after idleLamp).db.devices.map (·.collectInfo) = [true] ∧
    (guessedUpdate.after idleLamp).tasks = [.describeThing "00:00:00:00:00:01" lampUrl] ∧
    ¬ guessedUpdate.Registers idleLamp := by
  have hsucceeds : guessedUpdate.Succeeds idleLamp := ⟨_, rfl⟩
  have htasks : (guessedUpdate.after idleLamp).tasks = [.describeThing "00:00:00:00:00:01" lampUrl] := rfl
  refine ⟨hsucceeds, by decide, htasks, fun hregisters => ?_⟩
  obtain ⟨device, _, hadd⟩ := hregisters hsucceeds _ (List.mem_of_getElem? (i := 0) rfl) (by decide) (by decide)
  rw [htasks] at hadd
  exact absurd (List.mem_of_mem_drop hadd) (by simp)

end

end MudController
