import MudController.Reference
import MudController.Run.Lease

/-!
# `Lease.Intact` — a failed lease and the devices table

`upsert_device_from_dhcp_lease` clears addresses before the steps that can fail, so a lease that fails
leaves the devices table as it was only if there was nothing to clear (`lease_intact_iff`).
-/

namespace MudController

open Logic

section

variable [Platform]

/-- If the lease fails, every row of the devices table is what it was. -/
def LeaseIntact (w : World) (lease : DhcpLeaseInformation) : Prop :=
  ∀ e, ((upsertDeviceFromDhcpLease lease).run w).1 = .error e →
    ((upsertDeviceFromDhcpLease lease).run w).2.db.devices = w.db.devices

/-- No stored row has an address that the lease is about to write. -/
def World.LeaseAddressesFree (w : World) (lease : DhcpLeaseInformation) : Prop :=
  ∀ d ∈ w.db.devices,
    (∀ a ∈ (w.leaseDevice lease).ipv4Addr, d.ipv4Addr ≠ some (toText a)) ∧
    (∀ a ∈ (w.leaseDevice lease).ipv6Addr, d.ipv6Addr ≠ some (toText a))

/-- Clearing changes nothing exactly if no row has one of the addresses. -/
theorem clearedDevices_eq_iff (w : World) (lease : DhcpLeaseInformation) :
    w.clearedDevices lease = w.db.devices ↔ w.LeaseAddressesFree lease := by
  have hmap : w.clearedDevices lease = w.db.devices ↔
      ∀ d ∈ w.db.devices,
        d.withoutIps (w.leaseDevice lease).ipv4Addr (w.leaseDevice lease).ipv6Addr = d := by
    unfold World.clearedDevices
    rw [← List.map_inj_left, List.map_id']
  rw [hmap]
  unfold World.LeaseAddressesFree
  constructor
  · intro h d hd
    exact (DeviceDbo.withoutIps_eq_self_iff _ _ d).mp (h d hd)
  · intro h d hd
    exact (DeviceDbo.withoutIps_eq_self_iff _ _ d).mpr (h d hd)

theorem lease_intact_of_completes {w : World} {lease : DhcpLeaseInformation}
    (h : w.LeaseCompletes lease) : LeaseIntact w lease := by
  intro e he
  have hleases := lease_leases w lease
  generalize (upsertDeviceFromDhcpLease lease).run w = r at hleases he
  cases hleases with
  | done w' hcompletes hdevices hversion => cases he
  | failed e' w' hcompletes hdevices hconfig hrefreshes => exact absurd h hcompletes

theorem lease_fails {w : World} {lease : DhcpLeaseInformation} (h : ¬ w.LeaseCompletes lease) :
    (∃ e, ((upsertDeviceFromDhcpLease lease).run w).1 = .error e) ∧
      ((upsertDeviceFromDhcpLease lease).run w).2.db.devices = w.clearedDevices lease := by
  have hleases := lease_leases w lease
  generalize (upsertDeviceFromDhcpLease lease).run w = r at hleases
  cases hleases with
  | done w' hcompletes hdevices hversion => exact absurd hcompletes h
  | failed e w' hcompletes hdevices hconfig hrefreshes => exact ⟨⟨e, rfl⟩, hdevices⟩

theorem not_lease_intact {w : World} {lease : DhcpLeaseInformation}
    (hcompletes : ¬ w.LeaseCompletes lease) (hfree : ¬ w.LeaseAddressesFree lease) :
    ¬ LeaseIntact w lease := by
  intro hintact
  obtain ⟨⟨e, he⟩, hdevices⟩ := lease_fails hcompletes
  exact hfree ((clearedDevices_eq_iff w lease).mp (hdevices.symm.trans (hintact e he)))

/-- **When a failed lease is harmless.** It leaves the devices table as it was exactly if there was no
    address to clear, or nothing that could fail: the profile loads and no other row has the pair of MAC
    address and DUID. -/
theorem lease_intact_iff (w : World) (lease : DhcpLeaseInformation) :
    LeaseIntact w lease ↔ w.LeaseAddressesFree lease ∨ w.LeaseCompletes lease := by
  constructor
  · intro hintact
    by_contra hneither
    rw [not_or] at hneither
    exact not_lease_intact hneither.2 hneither.1 hintact
  · rintro (hfree | hcompletes)
    · intro e he
      by_cases hcompletes : w.LeaseCompletes lease
      · exact lease_intact_of_completes hcompletes e he
      · rw [(lease_fails hcompletes).2]
        exact (clearedDevices_eq_iff w lease).mpr hfree
    · exact lease_intact_of_completes hcompletes

end

section

attribute [local instance] Reference.platform

/-- A new device at the same address, with a MUD URL. -/
def strangerLease : DhcpLeaseInformation where
  versionSpecificInformation := .v4
  ipAddr := .v4 ⟨0x0A000005⟩
  macAddress := some (2 : BitVec 48)
  mudUrl := some "https://mud.example/lamp"
  hostname := none

/-- A lease that fails to load its profile has taken the address of another device away. -/
theorem strangerLease_not_intact : ¬ LeaseIntact Reference.oneDevice strangerLease := by
  refine not_lease_intact ?_ ?_
  · rintro ⟨hloads, _⟩
    exact absurd (hloads "https://mud.example/lamp" rfl) (by decide)
  · intro hfree
    have hrow := (hfree (Reference.row 1 (some "10.0.0.5") (some 1) none none) List.mem_cons_self).1
    exact hrow ⟨0x0A000005⟩ rfl (by decide)

end

end MudController
