import MudController.Models.Device
import MudController.Models.Firewall

/-!
# `Services.Firewall` — compiling profiles to rules (`firewall_configuration_service.rs`)
-/

namespace MudController

/-- `merge_acls`: the original ACLs whose name no override has, then the overrides. -/
def mergeAcls (original overrideWith : List Acl) : List Acl :=
  let overrideKeys := overrideWith.map (·.name)
  original.filter (fun x => !overrideKeys.contains x.name) ++ overrideWith

/-- The firewall protocol of an ACE: a protocol number is not supported and becomes `All`. -/
def compileProtocol : Option AceProtocol → Protocol
  | none => .all
  | some .tcp => .tcp
  | some .udp => .udp
  | some (.protocol _) => .all

def compileAction : AceAction → Verdict
  | .accept => .accept
  | .deny => .reject

variable [Platform]

/-- The remote side a DNS name stands for: an address if it reads as one, else a host name. -/
def compileHost (dnsName : String) : RuleTargetHost :=
  match IpAddr.parse dnsName with
  | some addr => .ip addr
  | none => .hostname dnsName

/-- The rule of one ACE, numbered `index`. -/
def compileRule (acl : Acl) (ace : Ace) (index : Nat) (dnsName : String) : FirewallRule :=
  let fwDevice : RuleTarget := ⟨some .firewallDevice, none⟩
  let remoteHost : RuleTarget := ⟨some (compileHost dnsName), none⟩
  { ruleName := "rule_" ++ toString index
    src := match acl.packetDirection with
      | .fromDevice => fwDevice
      | .toDevice => remoteHost
    dst := match acl.packetDirection with
      | .fromDevice => remoteHost
      | .toDevice => fwDevice
    -- ports, address masks and initiation have no place in a rule
    protocol := compileProtocol ace.aceMatches.protocol
    verdict := compileAction ace.action }

/-- The inner loop's body: an ACE without a DNS name produces no rule, but is counted. -/
def pushAce (acl : Acl) (st : Nat × List FirewallRule) (ace : Ace) : Nat × List FirewallRule :=
  match ace.aceMatches.dnsname with
  | some dnsName => (st.1 + 1, st.2 ++ [compileRule acl ace st.1 dnsName])
  | none => (st.1 + 1, st.2)

/-- The outer loop's body. -/
def pushAcl (st : Nat × List FirewallRule) (acl : Acl) : Nat × List FirewallRule :=
  acl.ace.foldl (pushAce acl) st

/-- The two closing rules: nothing else from the device, nothing else to it. -/
def defaultRules (index : Nat) : List FirewallRule :=
  [{ ruleName := "rule_default_" ++ toString index
     src := ⟨some .firewallDevice, none⟩
     dst := ⟨none, none⟩
     protocol := .all
     verdict := .reject },
   { ruleName := "rule_default_" ++ toString (index + 1)
     src := ⟨none, none⟩
     dst := ⟨some .firewallDevice, none⟩
     protocol := .all
     verdict := .reject }]

/-- The ACLs that are compiled; without an override the profile's own, unmerged. -/
def mergedAcls (mudData : MudData) : List Acl :=
  if mudData.aclOverride.isEmpty then mudData.acllist
  else mergeAcls mudData.acllist mudData.aclOverride

/-- The rule list of a profile: both loops, then the closing rules. -/
def compileRules (mudData : MudData) : List FirewallRule :=
  let st := (mergedAcls mudData).foldl pushAcl (0, [])
  st.2 ++ defaultRules st.1

/-- `convert_device_to_fw_rules`. -/
def convertDeviceToFwRules (device : DeviceWithRefs) : FirewallDevice where
  id := device.inner.id
  ipv4Addr := device.inner.ipv4Addr
  ipv6Addr := device.inner.ipv6Addr
  rules := match device.mudData with
    | none => []
    | some mudData => compileRules mudData
  collectData := device.inner.collectInfo

/-- A device that an enforcer can be given rules for. -/
def Device.addressed (d : Device) : Bool := d.ipv4Addr.isSome || d.ipv6Addr.isSome

/-- `create_configuration`. -/
def createConfiguration (version : String) (devices : List DeviceWithRefs) : EnforcerConfig where
  version := version
  devices := (devices.filter (·.inner.addressed)).map convertDeviceToFwRules
  acmeDomain := Platform.domain

end MudController
