import MudController.Logic.Sequence
import MudController.Reference
import MudController.Run.Endpoint
import MudController.Run.Lease

/-!
# `Identified` — devices that can be identified, over a run

`mac_or_duid` unwraps the MAC address or else the DUID of a device. Nothing in the schema or in a request says
that a stored device has one: a creation may bring neither, an update may take the MAC address away with a text
that does not parse, and a lease of an IPv4 address may come without a MAC address. A run keeps the devices
identified exactly if no request that stores its device does so
(`stored_devices_identified_iff`).
-/

namespace MudController

open Logic

section

variable [Platform]

/-- A row that has a MAC address or a DUID. -/
def DeviceDbo.Identified (d : DeviceDbo) : Prop := d.macAddr.isSome ∨ d.duid.isSome

instance (d : DeviceDbo) : Decidable d.Identified := inferInstanceAs (Decidable (_ ∨ _))

/-- Every stored device has a MAC address or a DUID, and `mac_or_duid` does not panic on it. -/
structure World.Identified (w : World) : Prop where
  rows : ∀ d ∈ w.db.devices, d.Identified
  unwraps : ∀ d ∈ w.db.devices, (Device.fromDbo d).macOrDuid.isSome

/-- Creating or updating a device through the API, or a lease. -/
inductive DeviceCall where
  | createDevice (auth : AuthToken) (dto : DeviceCreationUpdateDto)
  | updateDevice (auth : AuthToken) (id : Int) (dto : DeviceCreationUpdateDto)
  | upsertDeviceFromDhcpLease (lease : DhcpLeaseInformation)

/-- The world after a call. -/
def DeviceCall.after (w : World) : DeviceCall → World
  | .createDevice auth dto => ((DeviceController.createDevice auth dto).run w).2
  | .updateDevice auth id dto => ((DeviceController.updateDevice auth id dto).run w).2
  | .upsertDeviceFromDhcpLease lease => ((MudController.upsertDeviceFromDhcpLease lease).run w).2

/-- A creation that stores its device brings a MAC address or a DUID; an update that stores its device brings
    no MAC address that does not parse, unless the request or the row has a DUID; and a lease that completes
    has a MAC address or a DUID. -/
def DeviceCall.Identifies (w : World) : DeviceCall → Prop
  | .createDevice auth dto => ∀ device, w.StoresNew auth dto device → dto.macAddr.isSome ∨ dto.duid.isSome
  | .updateDevice auth id dto => ∀ row, row.id = id → w.StoresEdit auth dto row →
      (∀ m ∈ dto.macAddr, (parse m : Option MacAddr).isSome) ∨ dto.duid.isSome ∨ row.duid.isSome
  | .upsertDeviceFromDhcpLease lease => w.LeaseCompletes lease → lease.macAddress.isSome ∨ lease.duid.isSome

/-! ## Rows -/

theorem macOrDuid_isSome_iff (d : DeviceDbo) : (Device.fromDbo d).macOrDuid.isSome ↔ d.Identified := by
  unfold Device.macOrDuid DeviceDbo.Identified
  show ((d.macAddr.map toText).or d.duid).isSome ↔ _
  cases d.macAddr <;> simp

theorem World.identified_iff {w : World} : w.Identified ↔ ∀ d ∈ w.db.devices, d.Identified :=
  ⟨fun h => h.rows, fun h => ⟨h, fun d hd => (macOrDuid_isSome_iff d).mpr (h d hd)⟩⟩

/-- A new device is identified exactly if its request brings something: a MAC address that does not parse is
    refused. -/
theorem intoDevice_identified_iff {dto : DeviceCreationUpdateDto} {collectInfo : Bool} {now : DateTime}
    {device : Device} (h : dto.intoDevice collectInfo now = .ok device) :
    device.toDbo.Identified ↔ dto.macAddr.isSome ∨ dto.duid.isSome := by
  obtain ⟨macAddr, hmac, hdevice⟩ := exists_of_bind_ok h
  cases hdevice
  have hsome : macAddr.isSome ↔ dto.macAddr.isSome := by
    unfold DeviceCreationUpdateDto.newMacAddr at hmac
    cases hm : dto.macAddr with
    | none =>
        rw [hm] at hmac
        cases hmac
        exact Iff.rfl
    | some m =>
        rw [hm] at hmac
        cases hparse : (parse m : Option MacAddr) with
        | none =>
            simp only [hparse] at hmac
            cases hmac
        | some mac =>
            simp only [hparse] at hmac
            cases hmac
            exact iff_of_true rfl rfl
  exact or_congr hsome Iff.rfl

theorem applyTo_macAddr_none {dto : DeviceCreationUpdateDto} (h : dto.macAddr = none) (device : Device) :
    (dto.applyTo device).macAddr = device.macAddr := by
  unfold DeviceCreationUpdateDto.applyTo
  rw [h]

theorem applyTo_macAddr_some {dto : DeviceCreationUpdateDto} {m : String} (h : dto.macAddr = some m)
    (device : Device) : (dto.applyTo device).macAddr = parse m := by
  unfold DeviceCreationUpdateDto.applyTo
  rw [h]

theorem applyTo_duid (dto : DeviceCreationUpdateDto) (device : Device) :
    (dto.applyTo device).duid = dto.duid.or device.duid := by
  unfold DeviceCreationUpdateDto.applyTo
  cases dto.duid <;> rfl

/-- An update of an identified device leaves it identified exactly if it does not take its only address
    away. -/
theorem applyTo_identified_iff {row : DeviceDbo} (h : row.Identified) (dto : DeviceCreationUpdateDto) :
    (dto.applyTo (Device.fromDbo row)).toDbo.Identified ↔
      (∀ m ∈ dto.macAddr, (parse m : Option MacAddr).isSome) ∨ dto.duid.isSome ∨ row.duid.isSome := by
  show (dto.applyTo (Device.fromDbo row)).macAddr.isSome ∨ (dto.applyTo (Device.fromDbo row)).duid.isSome ↔ _
  rw [applyTo_duid, Option.isSome_or, Bool.or_eq_true]
  cases hm : dto.macAddr with
  | none =>
      rw [applyTo_macAddr_none hm]
      refine iff_of_true ?_ (.inl fun m hm => nomatch hm)
      exact h.imp id .inr
  | some m =>
      rw [applyTo_macAddr_some hm]
      exact or_congr ⟨fun hparse m' hm' => Option.some.inj hm' ▸ hparse, fun hall => hall m rfl⟩ Iff.rfl

/-- A lease leaves a device identified. -/
theorem apply_identified {row : DeviceDbo} (h : row.Identified) (lease : DhcpLeaseInformation) :
    ((Device.fromDbo row).apply lease).toDbo.Identified := by
  show ((Device.fromDbo row).apply lease).macAddr.isSome ∨ ((Device.fromDbo row).apply lease).duid.isSome
  rw [Device.apply_macAddr, Device.apply_duid, Option.isSome_or, Option.isSome_or, Bool.or_eq_true, Bool.or_eq_true]
  exact h.imp .inr .inr

/-- The device that a lease introduces. -/
theorem new_identified_iff (lease : DhcpLeaseInformation) (collectInfo : Bool) (now : DateTime) :
    (Device.new lease collectInfo now).toDbo.Identified ↔ lease.macAddress.isSome ∨ lease.duid.isSome := by
  show (Device.new lease collectInfo now).macAddr.isSome ∨ (Device.new lease collectInfo now).duid.isSome ↔ _
  rw [Device.new_duid]
  exact Iff.rfl

/-! ## Steps -/

/-- Taking addresses away identifies nobody less. -/
theorem clearedDevices_identified {w : World} (h : w.Identified) (lease : DhcpLeaseInformation) :
    ∀ d ∈ w.clearedDevices lease, d.Identified := by
  intro d hd
  obtain ⟨d₀, hd₀, rfl⟩ := List.mem_map.mp hd
  have hrow := h.rows d₀ hd₀
  unfold DeviceDbo.Identified at hrow ⊢
  rw [(clears_withoutIps _ _).macAddr, (clears_withoutIps _ _).duid]
  exact hrow

/-- One more row. -/
theorem append_identified_iff {l : List DeviceDbo} (h : ∀ d ∈ l, d.Identified) (device : Device) (id : Int) :
    (∀ d ∈ l ++ [{ device.toDbo with id := id }], d.Identified) ↔ device.toDbo.Identified := by
  constructor
  · intro hall
    exact hall { device.toDbo with id := id } (List.mem_append_right _ (List.mem_singleton_self _))
  · intro hnew
    exact forall_mem_append h (show DeviceDbo.Identified { device.toDbo with id := id } from hnew)

/-- The rows after a lease that completes. -/
theorem leasedDevices_identified_iff {w : World} (h : w.Identified) (lease : DhcpLeaseInformation) :
    (∀ d ∈ w.leasedDevices lease, d.Identified) ↔ lease.macAddress.isSome ∨ lease.duid.isSome := by
  have hcleared := clearedDevices_identified h lease
  unfold World.leasedDevices
  cases hrow : w.leaseRow lease with
  | none =>
      rw [World.leaseDevice_new hrow]
      exact (append_identified_iff hcleared _ _).trans (new_identified_iff lease _ _)
  | some d =>
      -- the row was found by its MAC address or its DUID
      have hfound : lease.macAddress.isSome ∨ lease.duid.isSome := by
        by_contra hnone
        rw [not_or, Option.not_isSome_iff_eq_none, Option.not_isSome_iff_eq_none] at hnone
        unfold World.leaseRow Tables.leaseTarget at hrow
        rw [hnone.1, hnone.2] at hrow
        cases hrow
      have hmem := Tables.leaseTarget_mem hrow
      have hid : (w.leaseDevice lease).toDbo.id ∈ (w.clearedDevices lease).map (·.id) := by
        rw [World.clearedDevices, Clears.map_eq (clears_withoutIps _ _).id, leaseDevice_id hrow]
        exact List.mem_map_of_mem hmem
      refine iff_of_true ?_ hfound
      refine (forall_mem_replaceRow_iff hid hcleared).mpr ?_
      rw [World.leaseDevice_known hrow]
      exact apply_identified (h.rows d hmem) lease

/-- **What a call does to the devices' identities.** -/
theorem DeviceCall.identified_after_iff {w : World} (h : w.Identified) (call : DeviceCall) :
    (call.after w).Identified ↔ call.Identifies w := by
  rw [World.identified_iff]
  cases call with
  | createDevice auth dto =>
      have hcreated := createDevice_created auth dto w
      show (∀ d ∈ ((DeviceController.createDevice auth dto).run w).2.db.devices, d.Identified) ↔ _
      generalize ((DeviceController.createDevice auth dto).run w).2 = w' at hcreated ⊢
      cases hcreated with
      | stored device w' hstores hdevices =>
          rw [hdevices, append_identified_iff h.rows, intoDevice_identified_iff hstores.intoDevice]
          exact ⟨fun hid _ _ => hid, fun hid => hid device hstores⟩
      | refused w' hrefused hdevices =>
          rw [hdevices]
          exact iff_of_true h.rows fun device hstores => absurd hstores (hrefused device)
  | updateDevice auth id dto =>
      have hedited := updateDevice_edited auth id dto w
      show (∀ d ∈ ((DeviceController.updateDevice auth id dto).run w).2.db.devices, d.Identified) ↔ _
      generalize ((DeviceController.updateDevice auth id dto).run w).2 = w' at hedited ⊢
      cases hedited with
      | stored row w' hid hstores hdevices =>
          have hmem : row ∈ w.db.devices := List.mem_of_find?_eq_some hstores.stored
          have hkey : (dto.applyTo (Device.fromDbo row)).toDbo.id ∈ w.db.devices.map (·.id) :=
            List.mem_map.mpr ⟨row, hmem, rfl⟩
          rw [hdevices, forall_mem_replaceRow_iff hkey h.rows, applyTo_identified_iff (h.rows row hmem)]
          constructor
          · intro hkeeps row' hid' hstores'
            have hsame : row' = row :=
              Option.some.inj (hstores'.stored.symm.trans ((hid'.trans hid.symm) ▸ hstores.stored))
            exact hsame ▸ hkeeps
          · exact fun hkeeps => hkeeps row hid hstores
      | refused w' hrefused hdevices =>
          rw [hdevices]
          exact iff_of_true h.rows fun row hid hstores => absurd hstores (hrefused row hid)
  | upsertDeviceFromDhcpLease lease =>
      have hleases := lease_leases w lease
      show (∀ d ∈ ((MudController.upsertDeviceFromDhcpLease lease).run w).2.db.devices, d.Identified) ↔ _
      generalize (MudController.upsertDeviceFromDhcpLease lease).run w = outcome at hleases ⊢
      cases hleases with
      | done w' hcompletes hdevices hversion =>
          show (∀ d ∈ w'.db.devices, d.Identified) ↔ _
          rw [hdevices, leasedDevices_identified_iff h]
          exact ⟨fun hid _ => hid, fun hid => hid hcompletes⟩
      | failed e w' hcompletes hdevices hconfig hrefreshes =>
          show (∀ d ∈ w'.db.devices, d.Identified) ↔ _
          rw [hdevices]
          exact iff_of_true (clearedDevices_identified h lease) fun hyes => absurd hyes hcompletes

/-- **Devices stay identified.** From a world in which every stored device has a MAC address or a DUID, that
    is so after every call of a run, and `mac_or_duid` never panics on a stored device, if and only if every
    call that stores its device leaves it one of them. -/
theorem stored_devices_identified_iff {w : World} (h : w.Identified) (calls : List DeviceCall) :
    (∀ pre post, calls = pre ++ post → (pre.foldl DeviceCall.after w).Identified) ↔
      ∀ pre call post, calls = pre ++ call :: post → call.Identifies (pre.foldl DeviceCall.after w) := by
  have hstep (w : World) (call : DeviceCall) (h : w.Identified) : (call.after w).Identified ↔ call.Identifies w :=
    DeviceCall.identified_after_iff h call
  exact run_keeps_iff hstep h calls

end

section

attribute [local instance] Reference.platform

/-- A lease of an IPv4 address without a MAC address. -/
def namelessLease : DhcpLeaseInformation where
  versionSpecificInformation := .v4
  ipAddr := .v4 ⟨0x0A000005⟩
  macAddress := none
  mudUrl := none
  hostname := none

/-- A creation with an empty body, an update with a MAC address that does not parse, and a lease without a MAC
    address each leave a device that cannot be identified. -/
theorem devices_not_identified :
    ¬ ((DeviceCall.createDevice rootAuth {}).after Reference.noDevices).Identified ∧
    ¬ ((DeviceCall.updateDevice rootAuth 1 { macAddr := some "lamp" }).after Reference.oneDevice).Identified ∧
    ¬ ((DeviceCall.upsertDeviceFromDhcpLease namelessLease).after Reference.noDevices).Identified := by
  refine ⟨?_, ?_, ?_⟩ <;> rw [World.identified_iff] <;> decide

theorem noDevices_identified : Reference.noDevices.Identified :=
  World.identified_iff.mpr fun _ hd => nomatch hd

/-- A creation with a DUID. -/
theorem created_device_identified :
    ((DeviceCall.createDevice rootAuth { duid := some "00:01" }).after Reference.noDevices).Identified := by
  apply (stored_devices_identified_iff noDevices_identified [.createDevice rootAuth { duid := some "00:01" }]).mpr _
    [.createDevice rootAuth { duid := some "00:01" }] [] rfl
  exact forall_split_singleton fun _ _ => .inr rfl

end

end MudController
