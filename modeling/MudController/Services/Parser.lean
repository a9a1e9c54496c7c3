import MudController.Error
import MudController.Models.Mud

/-!
# `Services.Parser` — from a MUD file to a profile (`parser.rs`)
-/

namespace MudController

variable [Platform]

/-- `ensure!(cond, MudError { message })`. -/
def ensureMud (cond : Bool) (message : String) : Except Error Unit :=
  if cond then .ok () else .error (.mudError message)

/-- `parse_mud_port`. -/
def parseMudPort (port : MudJson.Port) : Except Error AcePort :=
  match port.port, port.upperPort, port.lowerPort with
  | some p, _, _ => do
      ensureMud (port.operator = some "eq") "Only 'eq' operator is supported"
      return .single p
  | none, some upper, some lower => do
      ensureMud port.operator.isNone "No operator for port range"
      return .range lower upper
  | _, _, _ => .error (.mudError "Invalid port definition")

/-- `port.as_ref().and_then(|p| parse_mud_port(p).ok())`. -/
def parseMudPort? (port : Option MudJson.Port) : Option AcePort :=
  port.bind fun p => (parseMudPort p).toOption

/-- The `ietf-mud:direction-initiated` text of a TCP section. -/
def parseDirectionInitiated : Option String → Except Error (Option AclDirection)
  | none => .ok none
  | some dir =>
      if dir = "from-device" then .ok (some .fromDevice)
      else if dir = "to-device" then .ok (some .toDevice)
      else .error (.mudError "Invalid direction")

/-- The network of an address section as the parser keeps it: the source network, or else the destination
    network, if it parses as a single address. -/
def parseAddressMask (source destination : Option String) : Option String :=
  ((source.or destination).bind IpAddr.parse).map IpAddr.toText

/-- What the transport section of an ACE yields: `udp`, or else `tcp`. -/
def parseTransport (m : MudJson.Matches) : Except Error AceMatches :=
  match m.udp, m.tcp with
  | some udp, _ => .ok
      { protocol := some .udp
        -- a port definition that does not parse is dropped, without an error
        sourcePort := parseMudPort? udp.sourcePort
        destinationPort := parseMudPort? udp.destinationPort }
  | none, some tcp => do
      let directionInitiated ← parseDirectionInitiated tcp.directionInitiated
      return { protocol := some .tcp
               directionInitiated := directionInitiated
               sourcePort := parseMudPort? tcp.sourcePort
               destinationPort := parseMudPort? tcp.destinationPort }
  | none, none => .ok {}

/-- The address section of an ACE, `ipv6` or else `ipv4`, added to what the transport section yielded:
    the protocol is overwritten by the section's number, present or not. -/
def parseAddresses (aclType : AclType) (m : MudJson.Matches) (acc : AceMatches) :
    Except Error AceMatches :=
  match m.ipv6, m.ipv4 with
  | some ipv6, _ => do
      ensureMud (aclType = .ipv6) "IPv6 ACE in IPv4 ACL"
      return { acc with
        protocol := ipv6.protocol.map .protocol
        addressMask := parseAddressMask ipv6.sourceIpv6Network ipv6.destinationIpv6Network
        dnsname := ipv6.dstDnsname.or ipv6.srcDnsname }
  | none, some ipv4 => do
      ensureMud (aclType = .ipv4) "IPv4 ACE in IPv6 ACL"
      return { acc with
        protocol := ipv4.protocol.map .protocol
        addressMask := parseAddressMask ipv4.sourceIpv4Network ipv4.destinationIpv4Network
        dnsname := ipv4.dstDnsname.or ipv4.srcDnsname }
  | none, none => .ok acc

/-- One ACE of a referenced ACL. -/
def parseAce (aclType : AclType) (aceitem : MudJson.Ace) : Except Error Ace := do
  let transport ← parseTransport aceitem.aceMatches
  let aceMatches ← parseAddresses aclType aceitem.aceMatches transport
  return { name := aceitem.name
           action := if aceitem.actions.forwarding = "accept" then .accept else .deny
           aceMatches := aceMatches }

/-- The ACL type that a `type` text selects. -/
def parseAclType (typeField : String) : AclType :=
  if typeField = "ipv4-acl-type" then .ipv4 else .ipv6

/-- One name of a policy: the first ACL of that name, with all its ACEs. -/
def parseAccessList (mudJson : MudJson) (dir : AclDirection) (accessList : MudJson.AccessList) :
    Except Error Acl :=
  match mudJson.acls.acl.find? (·.name = accessList.name) with
  | some aclitem => do
      let ace ← aclitem.aces.ace.mapM (parseAce (parseAclType aclitem.typeField))
      return { name := accessList.name
               packetDirection := dir
               aclType := parseAclType aclitem.typeField
               ace := ace }
  | none => .error (.mudError "MUD-File has dangling ACL policy")

/-- `parse_device_policy`: the ACLs that it appends to `acllist`. -/
def parseDevicePolicy (policy : MudJson.Policy) (mudJson : MudJson) (dir : AclDirection) :
    Except Error (List Acl) :=
  policy.accessLists.accessList.mapM (parseAccessList mudJson dir)

/-- The MASA server, if the file declares the extension `masa`. -/
def parseMasa (mud : MudJson.MudDefinition) : Option String :=
  if "masa" ∈ mud.extensions.getD [] then mud.masaServer else none

/-- `parse_mud` on the deserialized file, at the time `now`. -/
def parseMudJson (now : DateTime) (url : String) (mudJson : MudJson) : Except Error MudData := do
  let mud := mudJson.mud
  ensureMud (mud.mudVersion = 1) "Unsupported MUD Version"
  let cachevalidity := mud.cacheValidity.getD 48
  ensureMud (cachevalidity ≥ 1 ∧ cachevalidity ≤ 168) "MUD-File has invalid 'cache-validity'"
  let fromDevice ← parseDevicePolicy mud.fromDevicePolicy mudJson .fromDevice
  let toDevice ← parseDevicePolicy mud.toDevicePolicy mudJson .toDevice
  return { url := url
           masaUrl := parseMasa mud
           lastUpdate := mud.lastUpdate
           systeminfo := mud.systeminfo
           mfgName := mud.mfgName
           modelName := mud.modelName
           documentation := mud.documentation
           expiration := now + hours cachevalidity
           acllist := fromDevice ++ toDevice
           aclOverride := [] }

end MudController
