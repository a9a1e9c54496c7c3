import MudController.Lease.History
import MudController.Routes.Device

/-!
# `Creation` — creating a device and updating a blank one

`into_device` and `apply_to` read the same request. They make the same of every field but the name, which a
creation drops (`creation_agrees_iff`).
-/

namespace MudController

section

variable [Platform]

/-- Two devices have the same fields, except for the id and the last interaction. -/
structure Device.SameFields (a b : Device) : Prop where
  name : a.name = b.name
  ipv4Addr : a.ipv4Addr = b.ipv4Addr
  ipv6Addr : a.ipv6Addr = b.ipv6Addr
  macAddr : a.macAddr = b.macAddr
  duid : a.duid = b.duid
  hostname : a.hostname = b.hostname
  vendorClass : a.vendorClass = b.vendorClass
  mudUrl : a.mudUrl = b.mudUrl
  collectInfo : a.collectInfo = b.collectInfo
  roomId : a.roomId = b.roomId
  clipart : a.clipart = b.clipart

/-- A MAC address that a creation accepts is the one that an update reads. -/
theorem DeviceCreationUpdateDto.newMacAddr_eq {dto : DeviceCreationUpdateDto} {macAddr : Option MacAddr}
    (h : dto.newMacAddr = .ok macAddr) : macAddr = dto.macAddr.bind Logic.parse := by
  unfold DeviceCreationUpdateDto.newMacAddr at h
  cases hmac : dto.macAddr with
  | none =>
      rw [hmac] at h
      exact (Except.ok.inj h).symm
  | some text =>
      simp only [hmac] at h
      cases hparse : (Logic.parse text : Option MacAddr) with
      | none => simp only [hparse] at h; cases h
      | some mac =>
          simp only [hparse] at h
          exact (Except.ok.inj h).symm.trans hparse.symm

/-- **Creating a device agrees with updating a blank one** exactly if the request has no name. -/
theorem creation_agrees_iff (dto : DeviceCreationUpdateDto) (collectInfo : Bool) (now later : DateTime)
    (device : Device) (h : dto.intoDevice collectInfo now = .ok device) :
    Device.SameFields device (dto.applyTo (Device.blank collectInfo later)) ↔ dto.name = none := by
  obtain ⟨macAddr, hmac, h⟩ := Logic.exists_of_bind_ok h
  have hmacAddr := DeviceCreationUpdateDto.newMacAddr_eq hmac
  cases h
  constructor
  · intro hsame
    cases hname : dto.name with
    | none => rfl
    | some name =>
        have hlost := hsame.name
        unfold DeviceCreationUpdateDto.applyTo at hlost
        rw [hname] at hlost
        cases hlost
  · intro hname
    -- a field that is left out keeps the value of the blank device
    unfold DeviceCreationUpdateDto.applyTo
    constructor
    case name => rw [hname]; rfl
    case ipv4Addr => cases dto.ipv4Addr <;> rfl
    case ipv6Addr => cases dto.ipv6Addr <;> rfl
    case macAddr => rw [hmacAddr]; cases dto.macAddr <;> rfl
    case duid => cases dto.duid <;> rfl
    case hostname => cases dto.hostname <;> rfl
    case vendorClass => cases dto.vendorClass <;> rfl
    case mudUrl => cases dto.mudUrl <;> rfl
    case collectInfo => cases dto.collectInfo <;> rfl
    case roomId => cases dto.roomId <;> rfl
    case clipart => cases dto.clipart <;> rfl

end

section

attribute [local instance] Reference.platform

/-- A request for a device of this name and host name. -/
def lampDto (name : Option String) : DeviceCreationUpdateDto where
  name := name
  hostname := some "lamp"
  ipv4Addr := some "10.0.0.5"

/-- Without a name, creating and updating agree. -/
theorem creation_agrees_unnamed :
    Device.SameFields { Device.blank true 0 with hostname := "lamp", ipv4Addr := some ⟨0x0A000005⟩ }
      ((lampDto none).applyTo (Device.blank true 1)) :=
  (creation_agrees_iff (lampDto none) true 0 1 _ rfl).mpr rfl

/-- The name of a new device is lost. -/
theorem creation_drops_name :
    (lampDto (some "Lamp")).intoDevice true 0 =
      .ok { Device.blank true 0 with hostname := "lamp", ipv4Addr := some ⟨0x0A000005⟩ } ∧
    ¬ Device.SameFields { Device.blank true 0 with hostname := "lamp", ipv4Addr := some ⟨0x0A000005⟩ }
      ((lampDto (some "Lamp")).applyTo (Device.blank true 0)) :=
  ⟨rfl, fun hsame => nomatch hsame.name⟩

end

end MudController
