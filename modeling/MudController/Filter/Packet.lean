import MudController.Logic.FirstMatch
import MudController.Services.Firewall

/-!
# `Filter.Packet` — what rules and profiles say about a packet

The meaning of both ends of the compiler, for a packet between a device and a remote host: which rules
apply to it (a missing host or port applies to anything, `All` to every protocol) and which entries of a
profile it satisfies (an absent clause is satisfied by anything). Rules and entries are read top-down and
the first one decides.
-/

namespace MudController

/-- The remote end of a packet: the addresses and host names it goes by, and the networks (as the text of
    an address mask) it lies in. -/
structure RemoteHost where
  hasAddr : IpAddr → Bool
  hasName : String → Bool
  inNetwork : String → Bool

structure Packet where
  /-- From the device to the remote host, or back. -/
  direction : AclDirection
  remote : RemoteHost
  /-- The IP protocol number. -/
  protocol : UInt8
  sourcePort : Option UInt16
  destinationPort : Option UInt16
  /-- The side that opened the connection. -/
  initiated : AclDirection

/-- Protocol number 6. -/
def Packet.isTcp (p : Packet) : Bool := p.protocol = 6

/-- Protocol number 17. -/
def Packet.isUdp (p : Packet) : Bool := p.protocol = 17

/-- A host that goes by one name. -/
def RemoteHost.named (name : String) : RemoteHost where
  hasAddr _ := false
  hasName := (· = name)
  inNetwork _ := false

/-- A packet from the device to a host. -/
def Packet.toHost (host : RemoteHost) (protocol : UInt8) (destinationPort : Option UInt16) : Packet where
  direction := .fromDevice
  remote := host
  protocol := protocol
  sourcePort := none
  destinationPort := destinationPort
  initiated := .fromDevice

/-! ## Rules -/

/-- One of the two ends of a packet. -/
inductive Endpoint where
  | device
  | remote (host : RemoteHost)

def RuleTargetHost.appliesTo : RuleTargetHost → Endpoint → Bool
  | .firewallDevice, .device => true
  | .ip addr, .remote host => host.hasAddr addr
  | .hostname name, .remote host => host.hasName name
  | _, _ => false

def RuleTarget.appliesTo (t : RuleTarget) (e : Endpoint) (port : Option UInt16) : Bool :=
  t.host.all (·.appliesTo e) && t.port.all (some · = port)

def Protocol.appliesTo : Protocol → Packet → Bool
  | .all, _ => true
  | .tcp, p => p.isTcp
  | .udp, p => p.isUdp

/-- Where a packet comes from. -/
def Packet.source (p : Packet) : Endpoint :=
  match p.direction with
  | .fromDevice => .device
  | .toDevice => .remote p.remote

/-- Where a packet goes to. -/
def Packet.destination (p : Packet) : Endpoint :=
  match p.direction with
  | .fromDevice => .remote p.remote
  | .toDevice => .device

def FirewallRule.appliesTo (r : FirewallRule) (p : Packet) : Bool :=
  r.protocol.appliesTo p && r.src.appliesTo p.source p.sourcePort &&
    r.dst.appliesTo p.destination p.destinationPort

/-- What a rule decides of a packet. -/
def FirewallRule.decides (p : Packet) (r : FirewallRule) : Option Verdict :=
  if r.appliesTo p then some r.verdict else none

/-- The verdict of a rule list: that of the first rule that applies. -/
def rulesVerdict (rules : List FirewallRule) (p : Packet) : Option Verdict :=
  rules.findSome? (FirewallRule.decides p)

/-! ## Profiles -/

def AceProtocol.admits (p : Packet) : AceProtocol → Bool
  | .tcp => p.isTcp
  | .udp => p.isUdp
  | .protocol num => p.protocol.toNat = num.toNat

def AcePort.admits (port : Option UInt16) : AcePort → Bool
  | .single number => port.any fun q => q.toNat = number.toNat
  | .range lower upper => port.any fun q => lower.toNat ≤ q.toNat && q.toNat ≤ upper.toNat

variable [Platform]

/-- The remote host goes by a DNS name, read as the compiler reads it. -/
def RemoteHost.goesBy (host : RemoteHost) (dnsName : String) : Bool :=
  (compileHost dnsName).appliesTo (.remote host)

/-- Every clause is satisfied. -/
def AceMatches.satisfiedBy (m : AceMatches) (p : Packet) : Bool :=
  m.dnsname.all p.remote.goesBy && m.protocol.all (AceProtocol.admits p) &&
    m.sourcePort.all (AcePort.admits p.sourcePort) &&
    m.destinationPort.all (AcePort.admits p.destinationPort) &&
    m.addressMask.all p.remote.inNetwork && m.directionInitiated.all (· = p.initiated)

/-- The entries of an ACL list in order, each with its ACL. -/
def entries (acls : List Acl) : List (Acl × Ace) := acls.flatMap fun acl => acl.ace.map fun ace => (acl, ace)

/-- What an entry decides of a packet: its action, if its ACL has the packet's direction and the packet
    satisfies its clauses. -/
def entryDecides (p : Packet) (e : Acl × Ace) : Option AceAction :=
  if e.1.packetDirection = p.direction && e.2.aceMatches.satisfiedBy p then some e.2.action else none

/-- The action of the first entry of a profile that a packet satisfies. -/
def profileAction (acls : List Acl) (p : Packet) : Option AceAction :=
  (entries acls).findSome? (entryDecides p)

/-- A profile read with default deny. -/
def profileVerdict (acls : List Acl) (p : Packet) : Verdict :=
  ((profileAction acls p).map compileAction).getD .reject

/-- The clauses that a rule of the compiler can express, and no other: a DNS name, and TCP, UDP or no
    protocol. -/
structure AceMatches.Expressible (m : AceMatches) : Prop where
  dnsname : m.dnsname.isSome
  protocol : ∀ num, m.protocol ≠ some (.protocol num)
  sourcePort : m.sourcePort = none
  destinationPort : m.destinationPort = none
  addressMask : m.addressMask = none
  directionInitiated : m.directionInitiated = none

end MudController
