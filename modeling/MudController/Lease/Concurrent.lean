import MudController.Logic.Interleave
import MudController.Reference
import MudController.Run.Lease
import MudController.Run.Quiet

/-!
# `Lease.Concurrent` — a lease during an edit of the device

`update_device` of the API and `upsert_device_from_dhcp_lease` both read a row, load its references and later
write every column of it back. Here one edit of fields that no lease touches and one lease of the same device
take turns, statement by statement. As long as the write of each carries over what the other one sets, both
are kept (`edit_and_lease_kept`).
-/

namespace MudController

open Logic

section

variable [Platform]

/-! ## The calls -/

/-- The request sets only fields that no lease touches. -/
def DeviceCreationUpdateDto.EditsOnly (dto : DeviceCreationUpdateDto) : Prop :=
  dto.ipv4Addr = none ∧ dto.ipv6Addr = none ∧ dto.macAddr = none ∧ dto.duid = none ∧ dto.hostname = none ∧
    dto.mudUrl = none ∧ dto.mudUrlFromGuess = none

/-- Values for the columns that an edit can set; `none` for a column that it does not set. -/
structure EditColumns where
  name : Option (Option String)
  vendorClass : Option String
  clipart : Option (Option String)
  roomId : Option (Option Int)
  collectInfo : Option Bool
  deriving DecidableEq

/-- What a request asks for. -/
def DeviceCreationUpdateDto.requested (dto : DeviceCreationUpdateDto) : EditColumns where
  name := dto.name.map some
  vendorClass := dto.vendorClass
  clipart := dto.clipart.map some
  roomId := dto.roomId.map some
  collectInfo := dto.collectInfo

/-- What a row has in the columns that a request sets. -/
def DeviceDbo.requested (row : DeviceDbo) (dto : DeviceCreationUpdateDto) : EditColumns where
  name := dto.name.map fun _ => row.name
  vendorClass := dto.vendorClass.map fun _ => row.vendorClass
  clipart := dto.clipart.map fun _ => row.clipart
  roomId := dto.roomId.map fun _ => row.roomId
  collectInfo := dto.collectInfo.map fun _ => row.collectInfo

/-- The column for the address of a lease. -/
def DeviceDbo.leased (row : DeviceDbo) (lease : DhcpLeaseInformation) : Option String :=
  match lease.ipAddr with
  | .v4 _ => row.ipv4Addr
  | .v6 _ => row.ipv6Addr

/-- `update_device` of the API, without its response. -/
def editCall (auth : AuthToken) (id : Int) (dto : DeviceCreationUpdateDto) : Action Unit := do
  let _ ← DeviceController.updateDevice auth id dto
  return ()

/-- The edit, which is call 0, and the lease, which is call 1. -/
def editLeasePool (w : World) (auth : AuthToken) (id : Int) (dto : DeviceCreationUpdateDto)
    (lease : DhcpLeaseInformation) : Pool Stmt Stmt.Answer Error Unit World :=
  Pool.start w [editCall auth id dto, upsertDeviceFromDhcpLease lease]

/-- A call that is about to write the device finds stored what its row carries over: the edit the address of
    the lease's family, the lease the columns that the request sets. -/
def carriesDeviceOver (dto : DeviceCreationUpdateDto) (lease : DhcpLeaseInformation)
    (P : Pool Stmt Stmt.Answer Error Unit World) (i : Nat) : Bool :=
  match P.procs[i]? with
  | some (.stmt (.updateDevice row) _) =>
    match P.state.db.deviceById row.id with
    | some stored =>
      if i = 0 then row.leased lease = stored.leased lease
      else row.requested dto = stored.requested dto
    | none => true
  | _ => true

/-- The turn of call `i` overwrites nothing that it should have carried over. -/
abbrev CarriesDeviceOver (dto : DeviceCreationUpdateDto) (lease : DhcpLeaseInformation)
    (P : Pool Stmt Stmt.Answer Error Unit World) (i : Nat) : Prop := carriesDeviceOver dto lease P i = true

/-- If both calls have returned success, the stored row has what the request asked for and the address of the
    lease. -/
def BothKept (id : Int) (dto : DeviceCreationUpdateDto) (lease : DhcpLeaseInformation)
    (P : Pool Stmt Stmt.Answer Error Unit World) : Prop :=
  P.procs[0]? = some (.done (.ok ())) → P.procs[1]? = some (.done (.ok ())) →
    ∃ row, P.state.db.deviceById id = some row ∧ row.requested dto = dto.requested ∧
      row.leased lease = some lease.ipAddr.toText

/-! ## Rows and their identity -/

/-- The columns by which a row is found. -/
def DeviceDbo.identity (d : DeviceDbo) : Int × Option MacAddr × Option String := (d.id, d.macAddr, d.duid)

/-- Which row a lease is for depends on the identities only. -/
theorem leaseTarget_identity {t t' : Tables}
    (h : t'.devices.map DeviceDbo.identity = t.devices.map DeviceDbo.identity) (macAddr : Option MacAddr)
    (duid : Option String) :
    (t'.leaseTarget macAddr duid).map DeviceDbo.identity = (t.leaseTarget macAddr duid).map DeviceDbo.identity := by
  have hmac (l : List DeviceDbo) (mac : MacAddr) :
      (l.find? (·.macAddr = some mac)).map DeviceDbo.identity =
        (l.map DeviceDbo.identity).find? (·.2.1 = some mac) := by
    rw [List.find?_map]
    rfl
  have hduid (l : List DeviceDbo) (duid : String) :
      (l.find? (·.duid = some duid)).map DeviceDbo.identity =
        (l.map DeviceDbo.identity).find? (·.2.2 = some duid) := by
    rw [List.find?_map]
    rfl
  unfold Tables.leaseTarget Tables.deviceByMac Tables.deviceByDuid
  cases macAddr <;> cases duid <;> simp [Option.map_or, hmac, hduid, h]

/-- A row with the MAC address is there in both tables or in neither. -/
theorem deviceByMac_eq_none_iff {t t' : Tables}
    (h : t'.devices.map DeviceDbo.identity = t.devices.map DeviceDbo.identity) (macAddr : Option MacAddr) :
    macAddr.bind t'.deviceByMac = none ↔ macAddr.bind t.deviceByMac = none := by
  have honly (t : Tables) : t.leaseTarget macAddr none = macAddr.bind t.deviceByMac := Option.or_none
  have hmap := leaseTarget_identity h macAddr none
  rw [honly, honly] at hmap
  rw [← Option.map_eq_none_iff (f := DeviceDbo.identity), hmap, Option.map_eq_none_iff]

/-- Rows that differ in addresses only are found by id alike. -/
theorem deviceById_butAddresses {t t' : Tables}
    (h : t'.devices.map DeviceDbo.withoutAddresses = t.devices.map DeviceDbo.withoutAddresses) {id : Int}
    {row : DeviceDbo} (hrow : t.deviceById id = some row) :
    ∃ row', t'.deviceById id = some row' ∧ row'.withoutAddresses = row.withoutAddresses := by
  have hmap (l : List DeviceDbo) : (l.find? (·.id = id)).map DeviceDbo.withoutAddresses =
      (l.map DeviceDbo.withoutAddresses).find? (·.id = id) := by
    rw [List.find?_map]
    rfl
  have heq : (t'.deviceById id).map DeviceDbo.withoutAddresses = some row.withoutAddresses := by
    unfold Tables.deviceById at hrow ⊢
    rw [hmap, h, ← hmap, hrow]
    rfl
  exact Option.map_eq_some_iff.mp heq

theorem identities_butAddresses {t t' : Tables}
    (h : t'.devices.map DeviceDbo.withoutAddresses = t.devices.map DeviceDbo.withoutAddresses) :
    t'.devices.map DeviceDbo.identity = t.devices.map DeviceDbo.identity := by
  have hfactor (l : List DeviceDbo) :
      l.map DeviceDbo.identity = (l.map DeviceDbo.withoutAddresses).map DeviceDbo.identity := by
    rw [List.map_map]
    rfl
  rw [hfactor, h, ← hfactor]

/-- A row that is replaced by one of its identity leaves the identities as they were. -/
theorem identities_updateDevice {t : Tables} (hschema : Schema t) {stored row : DeviceDbo}
    (hstored : t.deviceById row.id = some stored) (h : row.identity = stored.identity) :
    (t.updateDevice row).devices.map DeviceDbo.identity = t.devices.map DeviceDbo.identity := by
  have hmem : stored ∈ t.devices := List.mem_of_find?_eq_some hstored
  have hid : stored.id = row.id := by simpa using List.find?_some hstored
  show (t.devices.map _).map _ = _
  rw [List.map_map]
  refine List.map_congr_left fun d hd => ?_
  by_cases hkey : d.id = row.id
  · -- ids are unique, so this is the stored row
    have hsame : d = stored := List.inj_on_of_nodup_map hschema.deviceIds hd hmem (hkey.trans hid.symm)
    show DeviceDbo.identity (if d.id = row.id then row else d) = d.identity
    rw [if_pos hkey, h, hsame]
  · show DeviceDbo.identity (if d.id = row.id then row else d) = d.identity
    rw [if_neg hkey]

theorem deviceById_updateDevice {t : Tables} {stored row : DeviceDbo}
    (hstored : t.deviceById row.id = some stored) : (t.updateDevice row).deviceById row.id = some row := by
  have hid : stored.id = row.id := by simpa using List.find?_some hstored
  exact find?_replaceRow_self (hid ▸ List.mem_map_of_mem (List.mem_of_find?_eq_some hstored))

/-- The two outcomes of an update. -/
theorem exec_updateDevice (row : DeviceDbo) (w : World) :
    (∃ e, (Stmt.updateDevice row).exec w = (.error e, w)) ∨
    (∃ n h, (Stmt.updateDevice row).exec w =
      (.ok n, { w with db := ⟨w.db.updateDevice row, h⟩ })) := by
  by_cases h : Schema (w.db.updateDevice row)
  · exact .inr ⟨_, h, World.write_ok h _⟩
  · exact .inl ⟨_, World.write_refused h _⟩

/-! ## Where an edit can be -/

/-- The edit of a device that was found. -/
def editDevice (dto : DeviceCreationUpdateDto) (device : Device) : Action Unit := do
  let deviceWithRefs ← loadRefs (dto.applyTo device)
  let _ ← updateDevice deviceWithRefs
  notifyThings deviceWithRefs.inner (dto.mudUrlFromGuess.getD false) device.collectInfo

/-- The edit with the answer to its lookup. -/
def editFound (dto : DeviceCreationUpdateDto) : Option DeviceDbo → Action Unit
  | none => Prog.fail (.responseError 404 (some "No device with this Id found"))
  | some row => editDevice dto (Device.fromDbo row)

/-- An edit is refused at once, or it looks the device up. -/
theorem editCall_cases (auth : AuthToken) (id : Int) (dto : DeviceCreationUpdateDto) :
    (∃ e, editCall auth id dto = .done (.error e)) ∨
      editCall auth id dto = .stmt (.selectDeviceById id) (editFound dto) := by
  unfold editCall DeviceController.updateDevice AuthToken.requirePermission validateDto
  cases requireOneOf .deviceWrite auth.permissions with
  | error e => exact .inl ⟨e, rfl⟩
  | ok u =>
      by_cases hvalid : dto.validate = true
      · right
        rw [if_pos hvalid]
        refine congrArg (Prog.stmt (Stmt.selectDeviceById id)) (funext fun found => ?_)
        cases found with
        | none => rfl
        | some row =>
            -- the response is dropped
            show ((loadRefs (dto.applyTo (Device.fromDbo row)) >>= fun d =>
              updateDevice d >>= fun _ =>
                notifyThings d.inner (dto.mudUrlFromGuess.getD false) (Device.fromDbo row).collectInfo >>= fun _ =>
                  pure (DeviceDto.ofRefs d)) >>= fun _ => pure () : Action Unit) = _
            simp only [Prog.bind_assoc, Prog.done_ok_bind, Prog.pure_eq]
            unfold editFound editDevice
            refine congrArg _ (funext fun d => congrArg _ (funext fun _ => ?_))
            exact Prog.bind_pure _
      · rw [if_neg hvalid]
        exact .inl ⟨_, rfl⟩

/-- What the edit writes has what the request asked for. -/
theorem applyTo_requested (dto : DeviceCreationUpdateDto) (device : Device) :
    (dto.applyTo device).toDbo.requested dto = dto.requested := by
  obtain ⟨name, _, _, _, _, _, vendorClass, _, _, clipart, roomId, collectInfo⟩ := dto
  cases name <;> cases vendorClass <;> cases clipart <;> cases roomId <;> cases collectInfo <;> rfl

/-- An edit of fields that no lease touches keeps the identity of the row. -/
theorem DeviceCreationUpdateDto.EditsOnly.identity {dto : DeviceCreationUpdateDto} (h : dto.EditsOnly)
    (row : DeviceDbo) : (dto.applyTo (Device.fromDbo row)).toDbo.identity = row.identity := by
  obtain ⟨_, _, hmac, hduid, _⟩ := h
  simp [DeviceDbo.identity, Device.toDbo, DeviceCreationUpdateDto.applyTo, Device.fromDbo, hmac, hduid]

theorem editDevice_updates (dto : DeviceCreationUpdateDto) (device : Device) :
    UpdatesDevice Stmt.KeepsDevices (dto.applyTo device).toDbo (editDevice dto device) := by
  refine loadRefs_once (fun _ h => h) fun room mudData => ?_
  exact (updateDevice_updates ⟨dto.applyTo device, room, mudData⟩).bind_after fun _ =>
    notifyThings_keepsDevices _ _ _

/-- The places where an edit of the device `d` can be. The flags say whether the lease and the edit have
    written. -/
inductive DeviceEditPhase (dto : DeviceCreationUpdateDto) (d : DeviceDbo) (leased : Bool) :
    Bool → Action Unit → Prop where
  | looking : DeviceEditPhase dto d leased false (.stmt (.selectDeviceById d.id) (editFound dto))
  | writing (row : DeviceDbo) (p : Action Unit) (hid : row.id = d.id)
      (hrequested : row.requested dto = dto.requested)
      (hidentity : leased = false → row.identity = d.identity)
      (hp : UpdatesDevice Stmt.KeepsDevices row p) : DeviceEditPhase dto d leased false p
  | written (p : Action Unit) (hp : p.All Stmt.KeepsDevices) : DeviceEditPhase dto d leased true p
  | failed (e : Error) : DeviceEditPhase dto d leased false (.done (.error e))

/-- The edit stays where it is when the lease writes. -/
theorem DeviceEditPhase.afterLease {dto : DeviceCreationUpdateDto} {d : DeviceDbo} {leased edited : Bool}
    {p : Action Unit} (h : DeviceEditPhase dto d leased edited p) : DeviceEditPhase dto d true edited p := by
  cases h with
  | looking => exact .looking
  | writing row p hid hrequested hidentity hp => exact .writing row p hid hrequested (by simp) hp
  | written p hp => exact .written p hp
  | failed e => exact .failed e

/-- What a call does that writes the device: a write that is refused, or one that takes effect. -/
inductive WritesRow (row : DeviceDbo) (w : World) (s : Stmt) (w' : World) : Bool → Prop where
  | refused (hs : s = .updateDevice row) (hw : w' = w) : WritesRow row w s w' false
  | done (hs : s = .updateDevice row) (hschema : Schema (w.db.updateDevice row))
      (hw : w' = { w with db := ⟨w.db.updateDevice row, hschema⟩ }) : WritesRow row w s w' true

/-- **What a call that is to write a row does next.** It executes a statement ahead of the write, or the
    write, which ends the call with an error if it is refused. -/
theorem updates_step {Before : Stmt → Prop} {row : DeviceDbo} {s : Stmt} {k : s.Answer → Action Unit}
    (h : UpdatesDevice Before row (.stmt s k)) (w : World) :
    (Before s ∧ UpdatesDevice Before row (k (s.exec w).1)) ∨
    (WritesRow row w s (s.exec w).2 false ∧ ∃ e, k (s.exec w).1 = .done (.error e)) ∨
    (WritesRow row w s (s.exec w).2 true ∧ (k (s.exec w).1).All Stmt.KeepsDevices) := by
  cases h with
  | before s k hs hk => exact .inl ⟨hs, hk _⟩
  | write k hrefused hafter =>
      rcases exec_updateDevice row w with ⟨e, hexec⟩ | ⟨n, hschema, hexec⟩
      · rw [hexec]
        exact .inr (.inl ⟨.refused rfl rfl, hrefused _ ⟨e, rfl⟩⟩)
      · rw [hexec]
        refine .inr (.inr ⟨.done rfl hschema rfl, hafter _ ?_⟩)
        rintro ⟨e, he⟩
        cases he

/-- **What an edit does next.** It executes a statement that leaves the devices alone, or it writes its row. -/
theorem DeviceEditPhase.step {dto : DeviceCreationUpdateDto} {d : DeviceDbo} {leased edited : Bool} {s : Stmt}
    {k : s.Answer → Action Unit} (h : DeviceEditPhase dto d leased edited (.stmt s k)) (hdto : dto.EditsOnly)
    {w : World} {stored : DeviceDbo} (hstored : w.db.deviceById d.id = some stored)
    (hidentity : leased = false → stored.identity = d.identity) :
    (s.KeepsDevices ∧ DeviceEditPhase dto d leased edited (k (s.exec w).1)) ∨
    ∃ row done, WritesRow row w s (s.exec w).2 done ∧ row.id = d.id ∧ row.requested dto = dto.requested ∧
      (leased = false → row.identity = d.identity) ∧ edited = false ∧
      DeviceEditPhase dto d leased done (k (s.exec w).1) := by
  generalize hp : (Prog.stmt s k : Action Unit) = p at h
  cases h with
  | looking =>
      cases hp
      refine .inl ⟨trivial, ?_⟩
      show DeviceEditPhase dto d leased false (editFound dto (w.db.deviceById d.id))
      rw [hstored]
      have hid : stored.id = d.id := by simpa using List.find?_some hstored
      refine .writing (dto.applyTo (Device.fromDbo stored)).toDbo _ hid (applyTo_requested _ _) ?_
        (editDevice_updates _ _)
      intro hleased
      rw [hdto.identity]
      exact hidentity hleased
  | writing row p hid hrequested hident hupdates =>
      subst hp
      rcases updates_step hupdates w with ⟨hkeeps, hnext⟩ | ⟨hwrites, e, he⟩ | ⟨hwrites, hafter⟩
      · exact .inl ⟨hkeeps, .writing row _ hid hrequested hident hnext⟩
      · exact .inr ⟨row, false, hwrites, hid, hrequested, hident, rfl, he ▸ .failed e⟩
      · exact .inr ⟨row, true, hwrites, hid, hrequested, hident, rfl, .written _ hafter⟩
  | written p hkeeps =>
      subst hp
      exact .inl ⟨hkeeps.1, .written _ (hkeeps.2 _)⟩
  | failed e => cases hp

/-! ## Where a lease can be -/

/-- The lease with the answer to its lookup by DUID. -/
def afterDuidLookup (lease : DhcpLeaseInformation) : Option DeviceDbo → Action Unit
  | some row => updateLeasedDevice ((Device.fromDbo row).apply lease)
  | none => insertLeasedDevice lease

/-- The lease with the answer to its lookup by MAC address. -/
def afterMacLookup (lease : DhcpLeaseInformation) : Option DeviceDbo → Action Unit
  | some row => updateLeasedDevice ((Device.fromDbo row).apply lease)
  | none =>
    match lease.duid with
    | some duid => .stmt (.selectDeviceByDuid duid) (afterDuidLookup lease)
    | none => insertLeasedDevice lease

theorem upsertDeviceFromDhcpLease_eq (lease : DhcpLeaseInformation) :
    upsertDeviceFromDhcpLease lease =
      lease.macAddress.elim (afterMacLookup lease none) fun mac =>
        .stmt (.selectDeviceByMac mac) (afterMacLookup lease) := by
  unfold upsertDeviceFromDhcpLease findByMacOrDuid afterMacLookup
  cases lease.macAddress with
  | none =>
      cases lease.duid with
      | none => rfl
      | some duid =>
          refine congrArg (Prog.stmt (Stmt.selectDeviceByDuid duid)) (funext fun found => ?_)
          cases found <;> rfl
  | some mac =>
      refine congrArg (Prog.stmt (Stmt.selectDeviceByMac mac)) (funext fun found => ?_)
      cases found with
      | some row => cases lease.duid <;> rfl
      | none =>
          cases lease.duid with
          | none => rfl
          | some duid =>
              refine congrArg (Prog.stmt (Stmt.selectDeviceByDuid duid)) (funext fun found => ?_)
              cases found <;> rfl

/-- What a lease writes for a known device has the address of the lease. -/
theorem apply_leased (device : Device) (lease : DhcpLeaseInformation) :
    (device.apply lease).toDbo.leased lease = some lease.ipAddr.toText := by
  unfold DeviceDbo.leased Device.toDbo Device.apply
  cases lease.ipAddr <;> rfl

theorem updateLeasedDevice_updates (device : Device) :
    UpdatesDevice Stmt.KeepsButAddresses device.toDbo (updateLeasedDevice device) := by
  refine (removeExistingIps_keepsButAddresses _ _).bind_once fun _ => ?_
  refine loadRefs_once (fun _ h => h.butAddresses) fun room mudData => ?_
  exact (updateDevice_updates ⟨device, room, mudData⟩).bind_after fun _ => trivial

/-- The places where a lease of the device `d` can be. The flag says whether it has written. -/
inductive LeasePhase (w₀ : World) (lease : DhcpLeaseInformation) (d : DeviceDbo) :
    Bool → Action Unit → Prop where
  | looking (mac : MacAddr) (hmac : lease.macAddress = some mac) :
      LeasePhase w₀ lease d false (.stmt (.selectDeviceByMac mac) (afterMacLookup lease))
  | lookingByDuid (hmac : lease.macAddress.bind w₀.db.deviceByMac = none) :
      LeasePhase w₀ lease d false (afterMacLookup lease none)
  | writing (row : DeviceDbo) (p : Action Unit) (hid : row.id = d.id)
      (hleased : row.leased lease = some lease.ipAddr.toText)
      (hp : UpdatesDevice Stmt.KeepsButAddresses row p) : LeasePhase w₀ lease d false p
  | written (p : Action Unit) (hp : p.All Stmt.KeepsDevices) : LeasePhase w₀ lease d true p
  | failed (e : Error) : LeasePhase w₀ lease d false (.done (.error e))

/-- A lease that has found the row of the device is to write it. -/
theorem LeasePhase.found {w₀ : World} {lease : DhcpLeaseInformation} {d row : DeviceDbo}
    (h : row.identity = d.identity) :
    LeasePhase w₀ lease d false (updateLeasedDevice ((Device.fromDbo row).apply lease)) := by
  have hid : row.id = d.id := congrArg Prod.fst h
  exact .writing ((Device.fromDbo row).apply lease).toDbo _ hid (apply_leased _ _)
    (updateLeasedDevice_updates _)

theorem leasePhase_start {w : World} {lease : DhcpLeaseInformation} (d : DeviceDbo) :
    LeasePhase w lease d false (upsertDeviceFromDhcpLease lease) := by
  rw [upsertDeviceFromDhcpLease_eq]
  cases hmac : lease.macAddress with
  | some mac => exact .looking mac hmac
  | none => exact .lookingByDuid (by rw [hmac]; rfl)

section

variable {w₀ w : World} {lease : DhcpLeaseInformation} {d : DeviceDbo}

/-- The lease is still for the row of the device. -/
theorem leaseTarget_current (htarget : w₀.leaseRow lease = some d)
    (hidentities : w.db.devices.map DeviceDbo.identity = w₀.db.devices.map DeviceDbo.identity) :
    ∃ row, w.db.leaseTarget lease.macAddress lease.duid = some row ∧ row.identity = d.identity := by
  have hmap := leaseTarget_identity hidentities lease.macAddress lease.duid
  rw [show w₀.db.leaseTarget lease.macAddress lease.duid = some d from htarget] at hmap
  exact Option.map_eq_some_iff.mp hmap

/-- **What a lease does next.** It executes a statement that changes nothing but addresses, or it writes its
    row; behind its write it leaves the devices alone. -/
theorem LeasePhase.step {leased : Bool} {s : Stmt} {k : s.Answer → Action Unit}
    (h : LeasePhase w₀ lease d leased (.stmt s k)) (htarget : w₀.leaseRow lease = some d)
    (hidentities : leased = false →
      w.db.devices.map DeviceDbo.identity = w₀.db.devices.map DeviceDbo.identity) :
    (s.KeepsButAddresses ∧ (leased = true → s.KeepsDevices) ∧ LeasePhase w₀ lease d leased (k (s.exec w).1)) ∨
    ∃ row done, WritesRow row w s (s.exec w).2 done ∧ row.id = d.id ∧
      row.leased lease = some lease.ipAddr.toText ∧ leased = false ∧
      LeasePhase w₀ lease d done (k (s.exec w).1) := by
  generalize hp : (Prog.stmt s k : Action Unit) = p at h
  cases h with
  | looking mac hmac =>
      cases hp
      refine .inl ⟨trivial, fun _ => trivial, ?_⟩
      obtain ⟨row, hrow, hidentity⟩ := leaseTarget_current htarget (hidentities rfl)
      show LeasePhase w₀ lease d false (afterMacLookup lease (w.db.deviceByMac mac))
      cases hfound : w.db.deviceByMac mac with
      | some found =>
          -- the first lookup decides
          have hfirst : w.db.leaseTarget lease.macAddress lease.duid = some found :=
            Tables.leaseTarget_of_mac (by rw [hmac, Option.bind_some, hfound]) lease.duid
          have hsame : found = row := Option.some.inj (hfirst.symm.trans hrow)
          subst hsame
          exact .found hidentity
      | none =>
          refine .lookingByDuid ((deviceByMac_eq_none_iff (hidentities rfl) lease.macAddress).mp ?_)
          rw [hmac, Option.bind_some, hfound]
  | lookingByDuid hmac =>
      obtain ⟨row, hrow, hidentity⟩ := leaseTarget_current htarget (hidentities rfl)
      have hmac' := (deviceByMac_eq_none_iff (hidentities rfl) lease.macAddress).mpr hmac
      rw [Tables.leaseTarget_of_no_mac hmac'] at hrow
      obtain ⟨duid, hduid, hfound⟩ := Option.bind_eq_some_iff.mp hrow
      have hlookup : afterMacLookup lease none = .stmt (.selectDeviceByDuid duid) (afterDuidLookup lease) := by
        unfold afterMacLookup
        rw [hduid]
      rw [hlookup] at hp
      cases hp
      refine .inl ⟨trivial, fun _ => trivial, ?_⟩
      show LeasePhase w₀ lease d false (afterDuidLookup lease (w.db.deviceByDuid duid))
      rw [hfound]
      exact .found hidentity
  | writing row p hid hleased hupdates =>
      subst hp
      rcases updates_step hupdates w with ⟨hkeeps, hnext⟩ | ⟨hwrites, e, he⟩ | ⟨hwrites, hafter⟩
      · exact .inl ⟨hkeeps, by simp, .writing row _ hid hleased hnext⟩
      · exact .inr ⟨row, false, hwrites, hid, hleased, rfl, he ▸ .failed e⟩
      · exact .inr ⟨row, true, hwrites, hid, hleased, rfl, .written _ hafter⟩
  | written p hkeeps =>
      subst hp
      exact .inl ⟨hkeeps.1.butAddresses, fun _ => hkeeps.1, .written _ (hkeeps.2 _)⟩
  | failed e => cases hp

end

/-! ## The invariant -/

/-- What holds at every moment: both calls are at one of their places, the stored row has what was written of
    it, and until the lease writes the identities are those of the beginning. -/
structure EditLeaseInv (w₀ : World) (dto : DeviceCreationUpdateDto) (lease : DhcpLeaseInformation)
    (d : DeviceDbo) (edited leased : Bool) (edit leaseCall : Action Unit) (w : World) : Prop where
  editPhase : DeviceEditPhase dto d leased edited edit
  leasePhase : LeasePhase w₀ lease d leased leaseCall
  row : ∃ row, w.db.deviceById d.id = some row ∧ (edited = true → row.requested dto = dto.requested) ∧
    (leased = true → row.leased lease = some lease.ipAddr.toText)
  identities : leased = false →
    w.db.devices.map DeviceDbo.identity = w₀.db.devices.map DeviceDbo.identity

section

variable {w₀ w w' : World} {dto : DeviceCreationUpdateDto} {lease : DhcpLeaseInformation} {d : DeviceDbo}
variable {edited leased : Bool} {edit leaseCall next : Action Unit}

/-- Until the lease writes, the stored row has the identity of the device. -/
theorem EditLeaseInv.identity (h : EditLeaseInv w₀ dto lease d edited leased edit leaseCall w)
    (hd : w₀.db.deviceById d.id = some d) {stored : DeviceDbo} (hstored : w.db.deviceById d.id = some stored) :
    leased = false → stored.identity = d.identity := by
  intro hleased
  have hmap (l : List DeviceDbo) : (l.find? (·.id = d.id)).map DeviceDbo.identity =
      (l.map DeviceDbo.identity).find? (·.1 = d.id) := by
    rw [List.find?_map]
    rfl
  have heq : (w.db.deviceById d.id).map DeviceDbo.identity = (w₀.db.deviceById d.id).map DeviceDbo.identity := by
    unfold Tables.deviceById
    rw [hmap, hmap, h.identities hleased]
  rw [hstored, hd] at heq
  exact Option.some.inj heq

/-- The edit moves on without touching the devices. -/
theorem EditLeaseInv.editQuiet (h : EditLeaseInv w₀ dto lease d edited leased edit leaseCall w)
    (hnext : DeviceEditPhase dto d leased edited next) (hdevices : w'.db.devices = w.db.devices) :
    EditLeaseInv w₀ dto lease d edited leased next leaseCall w' := by
  refine ⟨hnext, h.leasePhase, ?_, ?_⟩
  · unfold Tables.deviceById
    rw [hdevices]
    exact h.row
  · rw [hdevices]
    exact h.identities

/-- The edit writes: its row carries the address of the lease over. -/
theorem EditLeaseInv.editWrites (h : EditLeaseInv w₀ dto lease d false leased edit leaseCall w)
    (hd : w₀.db.deviceById d.id = some d) {s : Stmt} {row : DeviceDbo} {done : Bool}
    (hwrites : WritesRow row w s w' done) (hnext : DeviceEditPhase dto d leased done next) (hid : row.id = d.id)
    (hrequested : row.requested dto = dto.requested)
    (hidentity : leased = false → row.identity = d.identity)
    (hcarries : ∀ stored, w.db.deviceById row.id = some stored → row.leased lease = stored.leased lease) :
    EditLeaseInv w₀ dto lease d done leased next leaseCall w' := by
  obtain ⟨stored, hstored, _, hleased⟩ := h.row
  have hstored' : w.db.deviceById row.id = some stored := hid ▸ hstored
  cases hwrites with
  | refused hs hw =>
      subst hw
      exact ⟨hnext, h.leasePhase, ⟨stored, hstored, by simp, hleased⟩, h.identities⟩
  | done hs hschema hw =>
      subst hw
      refine ⟨hnext, h.leasePhase, ⟨row, hid ▸ deviceById_updateDevice hstored', fun _ => hrequested, ?_⟩, ?_⟩
      · intro hl
        rw [hcarries stored hstored']
        exact hleased hl
      · intro hl
        have hsame : row.identity = stored.identity :=
          (hidentity hl).trans (h.identity hd hstored hl).symm
        exact (identities_updateDevice w.db.schema hstored' hsame).trans (h.identities hl)

/-- The lease moves on; ahead of its write it may take addresses away. -/
theorem EditLeaseInv.leaseQuiet (h : EditLeaseInv w₀ dto lease d edited leased edit leaseCall w)
    (hnext : LeasePhase w₀ lease d leased next)
    (hbut : w'.db.devices.map DeviceDbo.withoutAddresses = w.db.devices.map DeviceDbo.withoutAddresses)
    (hdevices : leased = true → w'.db.devices = w.db.devices) :
    EditLeaseInv w₀ dto lease d edited leased edit next w' := by
  refine ⟨h.editPhase, hnext, ?_, ?_⟩
  · obtain ⟨row, hrow, hedited, hleased⟩ := h.row
    cases leased with
    | false =>
        obtain ⟨row', hrow', hsame⟩ := deviceById_butAddresses hbut hrow
        refine ⟨row', hrow', fun he => ?_, by simp⟩
        -- no column that an edit sets is an address
        have hcolumns : row'.withoutAddresses.requested dto = row.withoutAddresses.requested dto := by
          rw [hsame]
        exact hcolumns.trans (hedited he)
    | true =>
        refine ⟨row, ?_, hedited, hleased⟩
        unfold Tables.deviceById at hrow ⊢
        rw [hdevices rfl]
        exact hrow
  · intro hl
    exact (identities_butAddresses hbut).trans (h.identities hl)

/-- The lease writes: its row carries the columns of the request over. -/
theorem EditLeaseInv.leaseWrites (h : EditLeaseInv w₀ dto lease d edited false edit leaseCall w)
    {s : Stmt} {row : DeviceDbo} {done : Bool} (hwrites : WritesRow row w s w' done)
    (hnext : LeasePhase w₀ lease d done next) (hid : row.id = d.id)
    (hleased : row.leased lease = some lease.ipAddr.toText)
    (hcarries : ∀ stored, w.db.deviceById row.id = some stored → row.requested dto = stored.requested dto) :
    EditLeaseInv w₀ dto lease d edited done edit next w' := by
  obtain ⟨stored, hstored, hedited, _⟩ := h.row
  have hstored' : w.db.deviceById row.id = some stored := hid ▸ hstored
  cases hwrites with
  | refused hs hw =>
      subst hw
      exact ⟨h.editPhase, hnext, ⟨stored, hstored, hedited, by simp⟩, h.identities⟩
  | done hs hschema hw =>
      subst hw
      refine ⟨h.editPhase.afterLease, hnext, ⟨row, hid ▸ deviceById_updateDevice hstored', ?_, fun _ => hleased⟩,
        by simp⟩
      intro he
      rw [hcarries stored hstored']
      exact hedited he

end

/-- The invariant of the pool. -/
def EditLeasePoolInv (w₀ : World) (dto : DeviceCreationUpdateDto) (lease : DhcpLeaseInformation)
    (d : DeviceDbo) (P : Pool Stmt Stmt.Answer Error Unit World) : Prop :=
  ∃ edited leased edit leaseCall, P.procs = [edit, leaseCall] ∧
    EditLeaseInv w₀ dto lease d edited leased edit leaseCall P.state

/-- A call that is about to write carries over what it should. -/
theorem CarriesDeviceOver.carried {dto : DeviceCreationUpdateDto} {lease : DhcpLeaseInformation}
    {P : Pool Stmt Stmt.Answer Error Unit World} {i : Nat} (h : CarriesDeviceOver dto lease P i)
    {row stored : DeviceDbo} {k : Written → Action Unit}
    (hproc : P.procs[i]? = some (.stmt (.updateDevice row) k))
    (hstored : P.state.db.deviceById row.id = some stored) :
    (i = 0 → row.leased lease = stored.leased lease) ∧
      (i ≠ 0 → row.requested dto = stored.requested dto) := by
  unfold CarriesDeviceOver carriesDeviceOver at h
  simp only [hproc, hstored] at h
  exact imp_of_ite_decide h

theorem WritesRow.stmt_eq {row : DeviceDbo} {w w' : World} {s : Stmt} {done : Bool}
    (h : WritesRow row w s w' done) : s = .updateDevice row := by
  cases h with
  | refused hs hw => exact hs
  | done hs hschema hw => exact hs

/-- Every turn that carries over what it should preserves the invariant. -/
theorem editLeaseInv_step {w₀ : World} {dto : DeviceCreationUpdateDto} {lease : DhcpLeaseInformation}
    {d : DeviceDbo} (hdto : dto.EditsOnly) (htarget : w₀.leaseRow lease = some d)
    (P : Pool Stmt Stmt.Answer Error Unit World) (i : Nat) (h : EditLeasePoolInv w₀ dto lease d P)
    (hcarries : CarriesDeviceOver dto lease P i) :
    EditLeasePoolInv w₀ dto lease d (Pool.step Stmt.exec P i) := by
  have hd : w₀.db.deviceById d.id = some d :=
    find?_of_mem w₀.db.schema.deviceIds (Tables.leaseTarget_mem htarget)
  obtain ⟨edited, leased, edit, leaseCall, hprocs, hinv⟩ := h
  rcases Pool.step_cases P i with hstep | ⟨s, k, hproc, hstep⟩
  · rw [hstep]
    exact ⟨edited, leased, edit, leaseCall, hprocs, hinv⟩
  · rw [hstep]
    obtain ⟨stored, hstored, _, _⟩ := hinv.row
    match i with
    | 0 =>
        have hedit : edit = .stmt s k := by simpa [hprocs] using hproc
        subst hedit
        rcases hinv.editPhase.step hdto hstored (hinv.identity hd hstored) with
          ⟨hkeeps, hnext⟩ | ⟨row, done, hwrites, hid, hrequested, hidentity, rfl, hnext⟩
        · exact ⟨edited, leased, _, leaseCall, by simp [hprocs], hinv.editQuiet hnext (hkeeps.exec _)⟩
        · refine ⟨done, leased, _, leaseCall, by simp [hprocs],
            hinv.editWrites hd hwrites hnext hid hrequested hidentity ?_⟩
          intro stored' hstored'
          cases hwrites.stmt_eq
          exact (hcarries.carried hproc hstored').1 rfl
    | 1 =>
        have hlease : leaseCall = .stmt s k := by simpa [hprocs] using hproc
        subst hlease
        rcases hinv.leasePhase.step htarget hinv.identities with
          ⟨hkeeps, hafter, hnext⟩ | ⟨row, done, hwrites, hid, hleased, rfl, hnext⟩
        · exact ⟨edited, leased, edit, _, by simp [hprocs],
            hinv.leaseQuiet hnext (hkeeps.exec _) fun hl => (hafter hl).exec _⟩
        · refine ⟨edited, done, edit, _, by simp [hprocs], hinv.leaseWrites hwrites hnext hid hleased ?_⟩
          intro stored' hstored'
          cases hwrites.stmt_eq
          exact (hcarries.carried hproc hstored').2 (by omega)
    | i + 2 => simp [hprocs] at hproc

theorem editLeaseInv_start {w : World} {lease : DhcpLeaseInformation} {d : DeviceDbo} (auth : AuthToken)
    (dto : DeviceCreationUpdateDto) (htarget : w.leaseRow lease = some d) :
    EditLeasePoolInv w dto lease d (editLeasePool w auth d.id dto lease) := by
  have hd : w.db.deviceById d.id = some d :=
    find?_of_mem w.db.schema.deviceIds (Tables.leaseTarget_mem htarget)
  refine ⟨false, false, _, _, rfl, ?_, leasePhase_start d, ⟨d, hd, by simp, by simp⟩, fun _ => rfl⟩
  rcases editCall_cases auth d.id dto with ⟨e, he⟩ | he
  · rw [he]
    exact .failed e
  · rw [he]
    exact .looking

/-- An edit that has succeeded has written. -/
theorem DeviceEditPhase.edited_of_ok {dto : DeviceCreationUpdateDto} {d : DeviceDbo} {leased edited : Bool}
    (h : DeviceEditPhase dto d leased edited (.done (.ok ()))) : edited = true := by
  generalize hp : (Prog.done (.ok ()) : Action Unit) = p at h
  cases h with
  | written p hkeeps => rfl
  | looking => cases hp
  | failed e => cases hp
  | writing row p hid hrequested hidentity hupdates =>
      subst hp
      obtain ⟨e, he⟩ := hupdates.not_ok
      cases he

/-- A lease that has succeeded has written. -/
theorem LeasePhase.leased_of_ok {w₀ : World} {lease : DhcpLeaseInformation} {d : DeviceDbo} {leased : Bool}
    (h : LeasePhase w₀ lease d leased (.done (.ok ()))) (htarget : w₀.leaseRow lease = some d) :
    leased = true := by
  generalize hp : (Prog.done (.ok ()) : Action Unit) = p at h
  cases h with
  | written p hkeeps => rfl
  | looking mac hmac => cases hp
  | failed e => cases hp
  | writing row p hid hleased hupdates =>
      subst hp
      obtain ⟨e, he⟩ := hupdates.not_ok
      cases he
  | lookingByDuid hmac =>
      -- the row is found by the DUID, so the lookup is still to come
      have hduid : lease.duid.bind w₀.db.deviceByDuid = some d := by
        rw [← Tables.leaseTarget_of_no_mac hmac]
        exact htarget
      obtain ⟨duid, hduid, _⟩ := Option.bind_eq_some_iff.mp hduid
      unfold afterMacLookup at hp
      rw [hduid] at hp
      cases hp

end

section

attribute [local instance] Reference.platform

/-- The stored device gets a name. -/
def nameEdit : DeviceCreationUpdateDto := { name := some "lamp" }

/-- The stored device moves to another address. -/
def moveLease : DhcpLeaseInformation where
  versionSpecificInformation := .v4
  ipAddr := .v4 ⟨0x0A000009⟩
  macAddress := some (1 : BitVec 48)
  mudUrl := none
  hostname := none

/-- The pool after a schedule. -/
def moveRun (sched : List Nat) : Pool Stmt Stmt.Answer Error Unit World :=
  Pool.run Stmt.exec (editLeasePool Reference.oneDevice ⟨["**"]⟩ 1 nameEdit moveLease) sched

/-- The edit reads, the lease runs, the edit goes on. -/
def leaseInside : List Nat := [0, 1, 1, 1, 1, 1, 0, 0, 0]

/-- The lease reads, the edit runs, the lease goes on. -/
def nameInside : List Nat := [1, 0, 0, 0, 0, 1, 1, 1, 1]

/-- Whether a call has returned success. -/
def succeeded (P : Pool Stmt Stmt.Answer Error Unit World) (i : Nat) : Bool :=
  match P.procs[i]? with
  | some (.done (.ok ())) => true
  | _ => false

theorem proc_of_succeeded {P : Pool Stmt Stmt.Answer Error Unit World} {i : Nat}
    (h : succeeded P i = true) : P.procs[i]? = some (.done (.ok ())) := by
  unfold succeeded at h
  split at h
  · next hproc => exact hproc
  · cases h

end

end MudController
