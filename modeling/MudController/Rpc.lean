import MudController.Services.Acme
import MudController.Services.Device
import MudController.Services.Enforcer
import MudController.Services.Firewall

/-!
# `Rpc` — the enforcer's connection and its calls (`rpc_server.rs`)
-/

namespace MudController

open Logic

variable [Platform]

/-- The devices that a heartbeat compiles: all of them with their references, or none if one device's
    references fail to load (`try_collect` ends at the first error, `unwrap_or_default` hides it). -/
def initDevices (devices : List Device) : Action (List DeviceWithRefs) :=
  unwrapOr (devices.mapM loadRefs) []

/-- `heartbeat`. -/
def heartbeat (version : Option String) : Action (Option EnforcerConfig) := do
  let currentConfigVersion ← getConfigVersion
  -- the devices are read after the version
  if some currentConfigVersion ≠ version then
    let devices ← unwrapOr getAllDevices []
    let initDevices ← initDevices devices
    return some (createConfiguration currentConfigVersion initDevices)
  else return none

/-- `DhcpEvent`, with the leases that the controller handles. -/
inductive DhcpEvent where
  | leaseAdded (leaseInfo : DhcpLeaseInformation)
  | existingLeaseUpdate (leaseInfo : DhcpLeaseInformation)
  | other

/-- `dhcp_request`: an error is logged and dropped. -/
def dhcpRequest (dhcpEvent : DhcpEvent) : Action Unit := do
  match dhcpEvent with
  | .leaseAdded leaseInfo => unwrapOr (upsertDeviceFromDhcpLease leaseInfo) ()
  | .existingLeaseUpdate leaseInfo => unwrapOr (upsertDeviceFromDhcpLease leaseInfo) ()
  | .other => return ()

/-! ## Connections -/

/-- `std::net::SocketAddr`. -/
structure SocketAddr where
  ip : IpAddr
  port : UInt16
  deriving DecidableEq

/-- What `listen` reads of a channel: the address of its TCP stream and the certificates of its TLS session. -/
structure Channel where
  peerAddr : Option SocketAddr
  peerCertificates : Option (List (List UInt8))

/-- `NamibRpcServer`, apart from its database. -/
structure NamibRpcServer where
  clientIp : SocketAddr
  clientId : CertId

/-- The future that the closure of `listen` returns for a channel: a server for it, or none if the enforcer is
    not let through. -/
def serveClient (clientIp : SocketAddr) (clientId : CertId) : EnforcerAction (Option NamibRpcServer) := do
  match ← (EnforcerService.registerEnforcer clientIp.ip clientId).attempt with
  | .error _ => return none
  | .ok () => return some { clientIp, clientId }

/-- The closure of `listen` that is called with each channel: `none` where it panics. -/
def acceptChannel [CertCrates] (channel : Channel) : Option (EnforcerAction (Option NamibRpcServer)) := do
  let clientIp ← channel.peerAddr
  let cert ← channel.peerCertificates.bind List.head?
  let clientId ← CertId.new cert
  return serveClient clientIp clientId

end MudController
