import Mathlib.Data.Set.Basic
import MudController.Filter.Packet
import MudController.Profile.Policy
import MudController.Reference

/-!
# `Profile.Clauses` — which clauses of an ACE survive parsing

An ACE restricts a packet by its transport section (`udp`, or else `tcp`) and by its address section (`ipv6`,
or else `ipv4`). `Matches.Parsed` says what `parse_mud` keeps of the two. After it, for an ACE that a policy
refers to, the exact conditions under which the protocol (`transport_kept_iff`), the ports
(`ports_honoured_iff`) and the remote side (`remote_kept_iff`) are what the file says.
-/

namespace MudController

open Logic

/-! ## An ACE and its place -/

namespace MudJson

/-- The two address sections, which differ in their fields' names only. -/
structure AddressSection where
  protocol : Option UInt32
  sourceNetwork : Option String
  destinationNetwork : Option String
  srcDnsname : Option String
  dstDnsname : Option String

def Ipv4.toSection (ipv4 : Ipv4) : AddressSection :=
  ⟨ipv4.protocol, ipv4.sourceIpv4Network, ipv4.destinationIpv4Network, ipv4.srcDnsname, ipv4.dstDnsname⟩

def Ipv6.toSection (ipv6 : Ipv6) : AddressSection :=
  ⟨ipv6.protocol, ipv6.sourceIpv6Network, ipv6.destinationIpv6Network, ipv6.srcDnsname, ipv6.dstDnsname⟩

/-- The address section that counts: `ipv6`, or else `ipv4`. -/
def Matches.addressSection (m : Matches) : Option AddressSection :=
  (m.ipv6.map Ipv6.toSection).or (m.ipv4.map Ipv4.toSection)

/-- The `source-port` of the transport section that counts: of `udp`, or else of `tcp`. -/
def Matches.sourcePort (m : Matches) : Option Port :=
  if m.udp.isSome then m.udp.bind (·.sourcePort) else m.tcp.bind (·.sourcePort)

/-- The `destination-port` of the transport section that counts. -/
def Matches.destinationPort (m : Matches) : Option Port :=
  if m.udp.isSome then m.udp.bind (·.destinationPort) else m.tcp.bind (·.destinationPort)

end MudJson

/-- The ACE at place `i` of the ACL that the `k`-th reference names. -/
def MudJson.aceAt (mudJson : MudJson) (k i : Nat) : Option MudJson.Ace :=
  mudJson.references[k]?.bind fun ref => (mudJson.firstAcl ref.2).bind fun aclitem => aclitem.aces.ace[i]?

/-- The parsed ACE at place `i` of the `k`-th ACL. -/
def MudData.aceAt (data : MudData) (k i : Nat) : Option Ace :=
  data.acllist[k]?.bind fun acl => acl.ace[i]?

/-- The protocol that the transport section alone asks for. -/
def transportProtocol (m : MudJson.Matches) : Option AceProtocol :=
  if m.udp.isSome then some .udp else if m.tcp.isSome then some .tcp else none

section

variable [Platform]

/-- What `parse_mud` keeps of the sections of an ACE. -/
structure AceMatches.Parsed (m : MudJson.Matches) (parsed : AceMatches) : Prop where
  -- the number of an address section replaces the protocol, also if the section has none
  protocol : parsed.protocol =
    m.addressSection.elim (transportProtocol m) fun addresses => addresses.protocol.map .protocol
  addressMask : parsed.addressMask = m.addressSection.bind fun addresses =>
    parseAddressMask addresses.sourceNetwork addresses.destinationNetwork
  dnsname : parsed.dnsname = m.addressSection.bind fun addresses => addresses.dstDnsname.or addresses.srcDnsname
  sourcePort : parsed.sourcePort = parseMudPort? m.sourcePort
  destinationPort : parsed.destinationPort = parseMudPort? m.destinationPort

omit [Platform] in
/-- What the transport section leaves for the address section to add to. -/
theorem parseTransport_spec {m : MudJson.Matches} {transport : AceMatches}
    (h : parseTransport m = .ok transport) :
    transport.protocol = transportProtocol m ∧ transport.addressMask = none ∧ transport.dnsname = none ∧
      transport.sourcePort = parseMudPort? m.sourcePort ∧
      transport.destinationPort = parseMudPort? m.destinationPort := by
  unfold parseTransport at h
  unfold transportProtocol MudJson.Matches.sourcePort MudJson.Matches.destinationPort
  cases hudp : m.udp with
  | some udp =>
      rw [hudp] at h
      cases h
      exact ⟨rfl, rfl, rfl, rfl, rfl⟩
  | none =>
      cases htcp : m.tcp with
      | some tcp =>
          rw [hudp, htcp] at h
          obtain ⟨dir, -, h⟩ := exists_of_bind_ok h
          cases h
          exact ⟨rfl, rfl, rfl, rfl, rfl⟩
      | none =>
          rw [hudp, htcp] at h
          cases h
          exact ⟨rfl, rfl, rfl, rfl, rfl⟩

/-- What a parsed ACE has of its sections. -/
theorem parseAce_parsed {aclType : AclType} {aceitem : MudJson.Ace} {ace : Ace}
    (h : parseAce aclType aceitem = .ok ace) : AceMatches.Parsed aceitem.aceMatches ace.aceMatches := by
  obtain ⟨transport, htransport, h⟩ := exists_of_bind_ok h
  obtain ⟨aceMatches, haddresses, h⟩ := exists_of_bind_ok h
  cases h
  obtain ⟨hprotocol, hmask, hname, hsource, hdestination⟩ := parseTransport_spec htransport
  unfold parseAddresses at haddresses
  cases hipv6 : aceitem.aceMatches.ipv6 with
  | some ipv6 =>
      rw [hipv6] at haddresses
      obtain ⟨_, -, haddresses⟩ := exists_of_bind_ok haddresses
      cases haddresses
      have hsection : aceitem.aceMatches.addressSection = some ipv6.toSection := by
        simp [MudJson.Matches.addressSection, hipv6]
      exact ⟨by rw [hsection]; rfl, by rw [hsection]; rfl, by rw [hsection]; rfl, hsource, hdestination⟩
  | none =>
      cases hipv4 : aceitem.aceMatches.ipv4 with
      | some ipv4 =>
          rw [hipv6, hipv4] at haddresses
          obtain ⟨_, -, haddresses⟩ := exists_of_bind_ok haddresses
          cases haddresses
          have hsection : aceitem.aceMatches.addressSection = some ipv4.toSection := by
            simp [MudJson.Matches.addressSection, hipv6, hipv4]
          exact ⟨by rw [hsection]; rfl, by rw [hsection]; rfl, by rw [hsection]; rfl, hsource, hdestination⟩
      | none =>
          rw [hipv6, hipv4] at haddresses
          cases haddresses
          have hsection : aceitem.aceMatches.addressSection = none := by
            simp [MudJson.Matches.addressSection, hipv6, hipv4]
          exact ⟨by rw [hsection]; exact hprotocol, by rw [hsection]; exact hmask,
            by rw [hsection]; exact hname, hsource, hdestination⟩

/-- An ACE of an accepted file has its parsed ACE at its place. -/
theorem aceAt_parsed {now : DateTime} {url : String} {mudJson : MudJson} {data : MudData} {k i : Nat}
    {aceitem : MudJson.Ace} (h : Parser.parseMud now url mudJson = .ok data)
    (hace : mudJson.aceAt k i = some aceitem) :
    ∃ ace, data.aceAt k i = some ace ∧ AceMatches.Parsed aceitem.aceMatches ace.aceMatches := by
  obtain ⟨ref, href, hace⟩ := Option.bind_eq_some_iff.mp hace
  obtain ⟨aclitem, haclitem, hace⟩ := Option.bind_eq_some_iff.mp hace
  obtain ⟨-, -, acllist, hacllist, rfl⟩ := parseMud_eq_ok_iff.mp h
  obtain ⟨acl, hacl, hparse⟩ := mapM_getElem? hacllist href
  have hfirst : mudJson.acls.acl.find? (·.name = ref.2) = some aclitem := haclitem
  unfold parseReference parseAccessList at hparse
  rw [hfirst] at hparse
  obtain ⟨aces, haces, hparse⟩ := exists_of_bind_ok hparse
  cases hparse
  obtain ⟨ace, haceAt, hparse⟩ := mapM_getElem? haces hace
  exact ⟨ace, Option.bind_eq_some_iff.mpr ⟨_, hacl, haceAt⟩, parseAce_parsed hparse⟩

/-- What a condition on the clauses says of every parsed ACE, it says of the one at its place. -/
theorem parsedAt_iff {now : DateTime} {url : String} {mudJson : MudJson} {data : MudData} {k i : Nat}
    {aceitem : MudJson.Ace} (h : Parser.parseMud now url mudJson = .ok data)
    (hace : mudJson.aceAt k i = some aceitem) {p : AceMatches → Prop} {q : Prop}
    (hiff : ∀ parsed, AceMatches.Parsed aceitem.aceMatches parsed → (p parsed ↔ q)) :
    (∃ ace, data.aceAt k i = some ace ∧ p ace.aceMatches) ↔ q := by
  obtain ⟨ace, haceAt, hparsed⟩ := aceAt_parsed h hace
  constructor
  · rintro ⟨ace', haceAt', hp⟩
    rw [haceAt] at haceAt'
    cases haceAt'
    exact (hiff ace.aceMatches hparsed).mp hp
  · intro hq
    exact ⟨ace, haceAt, (hiff ace.aceMatches hparsed).mpr hq⟩

end

section

attribute [local instance] Reference.platform

/-- A file whose two policies name one ACL, with one ACE of these sections. -/
def Reference.oneAceFile (m : MudJson.Matches) : MudJson where
  mud := { Reference.mudFileJson.mud with
    fromDevicePolicy := ⟨⟨[⟨"acl"⟩]⟩⟩, toDevicePolicy := ⟨⟨[⟨"acl"⟩]⟩⟩ }
  acls := ⟨[⟨"acl", "ipv4-acl-type", ⟨[⟨"ace", m, ⟨"accept"⟩⟩]⟩⟩]⟩

/-- The profile of such a file. -/
def Reference.oneAceProfile (m : MudJson.Matches) (parsed : AceMatches) : MudData :=
  profileOf 0 lampUrl (Reference.oneAceFile m)
    [⟨"acl", .fromDevice, .ipv4, [⟨"ace", .accept, parsed⟩]⟩, ⟨"acl", .toDevice, .ipv4, [⟨"ace", .accept, parsed⟩]⟩]

end

/-! ## The protocol -/

/-- Every packet that the parsed protocol admits is one of these. -/
def AceMatches.OnlyAdmits (parsed : AceMatches) (ofProtocol : Packet → Bool) : Prop :=
  ∀ p : Packet, parsed.protocol.all (AceProtocol.admits p) → ofProtocol p

/-- The transport section still restricts the packets to its protocol. -/
structure AceMatches.TransportKept (m : MudJson.Matches) (parsed : AceMatches) : Prop where
  udp : m.udp.isSome → parsed.OnlyAdmits Packet.isUdp
  tcp : m.udp = none → m.tcp.isSome → parsed.OnlyAdmits Packet.isTcp

/-- The address section, if there is one, gives this protocol number, or one that no packet has. -/
def MudJson.Matches.NumberIs (m : MudJson.Matches) (number : UInt8) : Prop :=
  ∀ addresses ∈ m.addressSection, ∃ n ∈ addresses.protocol, n.toNat = number.toNat ∨ 256 ≤ n.toNat

/-- The address section repeats the protocol of the transport section as its number. -/
structure MudJson.Matches.NumberAgrees (m : MudJson.Matches) : Prop where
  udp : m.udp.isSome → m.NumberIs 17
  tcp : m.udp = none → m.tcp.isSome → m.NumberIs 6

/-- A packet with this protocol number. -/
def Packet.numbered (number : UInt8) : Packet := .toHost (.named "") number none

/-- A number, or none, admits the packets of one protocol only if it is the number of the protocol or of no
    packet. -/
theorem onlyAdmits_number_iff {parsed : AceMatches} {n? : Option UInt32} {number : UInt8}
    (h : parsed.protocol = n?.map .protocol) :
    parsed.OnlyAdmits (·.protocol = number) ↔ ∃ n ∈ n?, n.toNat = number.toNat ∨ 256 ≤ n.toNat := by
  unfold AceMatches.OnlyAdmits
  rw [h]
  cases n? with
  | none =>
      refine iff_of_false (fun hall => ?_) nofun
      have hother := hall (.numbered (number + 1)) rfl
      have hne : number + 1 ≠ number := by grind
      exact hne (of_decide_eq_true hother)
  | some n =>
      simp only [Option.map_some, Option.all_some, AceProtocol.admits, decide_eq_true_eq, Option.mem_def,
        Option.some.injEq, exists_eq_left']
      constructor
      · intro hall
        by_contra hno
        obtain ⟨hne, hlt⟩ := not_or.mp hno
        have hpacket : (Packet.numbered (UInt8.ofNat n.toNat)).protocol.toNat = n.toNat := by
          show (UInt8.ofNat n.toNat).toNat = n.toNat
          rw [UInt8.toNat_ofNat']
          omega
        refine hne (hpacket.symm.trans ?_)
        exact congrArg UInt8.toNat (hall _ hpacket)
      · rintro (heq | hlarge) p hp
        · exact UInt8.toNat_inj.mp (hp.trans heq)
        · have := p.protocol.toNat_lt
          omega

section

variable [Platform]

/-- A protocol that the transport section asks for is kept exactly if the address section repeats it. -/
theorem onlyAdmits_iff {m : MudJson.Matches} {parsed : AceMatches} (h : AceMatches.Parsed m parsed)
    {protocol : AceProtocol} {number : UInt8} (htransport : transportProtocol m = some protocol)
    (hprotocol : ∀ p, protocol.admits p = decide (p.protocol = number)) :
    parsed.OnlyAdmits (·.protocol = number) ↔ m.NumberIs number := by
  unfold MudJson.Matches.NumberIs
  have hparsed := h.protocol
  cases hsection : m.addressSection with
  | none =>
      rw [hsection] at hparsed
      refine iff_of_true (fun p hp => ?_) nofun
      rw [hparsed, Option.elim_none, htransport, Option.all_some, hprotocol] at hp
      exact hp
  | some addresses =>
      rw [hsection] at hparsed
      rw [onlyAdmits_number_iff hparsed]
      simp

/-- **A transport section survives** exactly if the address section beside it, if there is one, repeats its
    protocol as a number. -/
theorem transport_kept_iff (now : DateTime) (url : String) (mudJson : MudJson) (data : MudData)
    (h : Parser.parseMud now url mudJson = .ok data) (k i : Nat) (aceitem : MudJson.Ace)
    (hace : mudJson.aceAt k i = some aceitem) :
    (∃ ace, data.aceAt k i = some ace ∧ AceMatches.TransportKept aceitem.aceMatches ace.aceMatches) ↔
      aceitem.aceMatches.NumberAgrees := by
  refine parsedAt_iff h hace fun parsed hparsed => ?_
  have hudp (hu : aceitem.aceMatches.udp.isSome) :
      parsed.OnlyAdmits Packet.isUdp ↔ aceitem.aceMatches.NumberIs 17 :=
    onlyAdmits_iff hparsed (if_pos hu) fun _ => rfl
  have htcp (hu : aceitem.aceMatches.udp = none) (ht : aceitem.aceMatches.tcp.isSome) :
      parsed.OnlyAdmits Packet.isTcp ↔ aceitem.aceMatches.NumberIs 6 := by
    have htransport : transportProtocol aceitem.aceMatches = some .tcp := by
      rw [transportProtocol, hu, if_neg (by decide), if_pos ht]
    exact onlyAdmits_iff hparsed htransport fun _ => rfl
  constructor
  · intro hk
    exact ⟨fun hu => (hudp hu).mp (hk.udp hu), fun hu ht => (htcp hu ht).mp (hk.tcp hu ht)⟩
  · intro hagrees
    exact ⟨fun hu => (hudp hu).mpr (hagrees.udp hu), fun hu ht => (htcp hu ht).mpr (hagrees.tcp hu ht)⟩

end

section

attribute [local instance] Reference.platform

/-- A UDP section beside an IPv4 section with this number. -/
def dnsMatches (protocol : Option UInt32) : MudJson.Matches where
  ipv4 := some { protocol := protocol, dstDnsname := some "cloud.example" }
  udp := some {}

theorem transport_kept_numbered :
    ∃ ace, (Reference.oneAceProfile (dnsMatches (some 17))
        { protocol := some (.protocol 17), dnsname := some "cloud.example" }).aceAt 0 0 = some ace ∧
      AceMatches.TransportKept (dnsMatches (some 17)) ace.aceMatches := by
  refine (transport_kept_iff 0 lampUrl (Reference.oneAceFile (dnsMatches (some 17))) _ rfl 0 0
    ⟨"ace", dnsMatches (some 17), ⟨"accept"⟩⟩ rfl).mpr ⟨fun _ addresses haddresses => ?_, nofun⟩
  cases haddresses
  exact ⟨17, rfl, .inl rfl⟩

/-- Beside an IPv4 section without a number, the UDP section is lost, and the ACE admits TCP too. -/
theorem transport_not_kept :
    Parser.parseMud 0 lampUrl (Reference.oneAceFile (dnsMatches none)) =
      .ok (Reference.oneAceProfile (dnsMatches none) { dnsname := some "cloud.example" }) ∧
    (Reference.oneAceFile (dnsMatches none)).aceAt 0 0 = some ⟨"ace", dnsMatches none, ⟨"accept"⟩⟩ ∧
    ¬ ∃ ace, (Reference.oneAceProfile (dnsMatches none) { dnsname := some "cloud.example" }).aceAt 0 0 = some ace ∧
      AceMatches.TransportKept (dnsMatches none) ace.aceMatches := by
  refine ⟨rfl, rfl, ?_⟩
  rintro ⟨ace, hace, hkept⟩
  cases hace
  exact absurd (hkept.udp rfl (.numbered 6) rfl) (by decide)

end

/-! ## The ports -/

/-- The ports that a clause describes: one, with or without its operator, or an inclusive range. -/
def MudJson.Port.ports (port : MudJson.Port) : Option (Set UInt32) :=
  match port.port, port.lowerPort, port.upperPort with
  | some p, _, _ => if port.operator = none ∨ port.operator = some "eq" then some {p} else none
  | none, some lower, some upper => some {p | lower ≤ p ∧ p ≤ upper}
  | none, _, _ => none

/-- The ports that a parsed clause admits. -/
def AcePort.ports : AcePort → Set UInt32
  | .single p => {p}
  | .range lower upper => {p | lower ≤ p ∧ p ≤ upper}

/-- A clause, if there is one, is parsed to the ports that it describes. -/
def PortHonoured (clause : Option MudJson.Port) (parsed : Option AcePort) : Prop :=
  ∀ port ∈ clause, ∃ acePort ∈ parsed, port.ports = some acePort.ports

structure AceMatches.PortsHonoured (m : MudJson.Matches) (parsed : AceMatches) : Prop where
  sourcePort : PortHonoured m.sourcePort parsed.sourcePort
  destinationPort : PortHonoured m.destinationPort parsed.destinationPort

/-- The clauses that the parser reads: one port with the operator `eq`, or a range without an operator. -/
def MudJson.Port.Supported (port : MudJson.Port) : Prop :=
  (port.port.isSome ∧ port.operator = some "eq") ∨
  (port.port = none ∧ port.lowerPort.isSome ∧ port.upperPort.isSome ∧ port.operator = none)

theorem parseMudPort_single {port : MudJson.Port} {p : UInt32} (hport : port.port = some p)
    (heq : port.operator = some "eq") : parseMudPort port = .ok (.single p) := by
  unfold parseMudPort
  rw [hport, heq]
  rfl

theorem parseMudPort_range {port : MudJson.Port} {lower upper : UInt32} (hport : port.port = none)
    (hlower : port.lowerPort = some lower) (hupper : port.upperPort = some upper)
    (hnone : port.operator = none) : parseMudPort port = .ok (.range lower upper) := by
  unfold parseMudPort
  rw [hport, hlower, hupper, hnone]
  rfl

theorem parseMudPort_supported {port : MudJson.Port} {acePort : AcePort}
    (h : parseMudPort port = .ok acePort) : port.Supported := by
  unfold parseMudPort at h
  cases hport : port.port with
  | some p =>
      rw [hport] at h
      obtain ⟨_, heq, -⟩ := exists_of_bind_ok h
      exact .inl ⟨by rw [hport]; rfl, of_decide_eq_true (ensureMud_eq_ok_iff.mp heq)⟩
  | none =>
      cases hupper : port.upperPort with
      | none => rw [hport, hupper] at h; cases h
      | some upper =>
          cases hlower : port.lowerPort with
          | none => rw [hport, hupper, hlower] at h; cases h
          | some lower =>
              rw [hport, hupper, hlower] at h
              obtain ⟨_, hnone, -⟩ := exists_of_bind_ok h
              exact .inr ⟨hport, by rw [hlower]; rfl, by rw [hupper]; rfl,
                Option.isNone_iff_eq_none.mp (ensureMud_eq_ok_iff.mp hnone)⟩

/-- A clause is honoured exactly if the parser reads it: what it does not read it drops. -/
theorem portHonoured_iff {clause : Option MudJson.Port} :
    PortHonoured clause (parseMudPort? clause) ↔ ∀ port ∈ clause, port.Supported := by
  cases clause with
  | none => exact iff_of_true nofun nofun
  | some port =>
      constructor
      · intro h port' hport'
        cases hport'
        obtain ⟨acePort, hparsed, -⟩ := h port rfl
        have hparse : (parseMudPort port).toOption = some acePort := hparsed
        cases hresult : parseMudPort port with
        | error e => rw [hresult] at hparse; cases hparse
        | ok _ => exact parseMudPort_supported hresult
      · intro h port' hport'
        cases hport'
        rcases h port rfl with ⟨hport, heq⟩ | ⟨hport, hlower, hupper, hnone⟩
        · obtain ⟨p, hp⟩ := Option.isSome_iff_exists.mp hport
          refine ⟨.single p, ?_, ?_⟩
          · show (parseMudPort port).toOption = _
            rw [parseMudPort_single hp heq]
            rfl
          · unfold MudJson.Port.ports
            rw [hp, heq]
            exact if_pos (Or.inr rfl)
        · obtain ⟨lower, hl⟩ := Option.isSome_iff_exists.mp hlower
          obtain ⟨upper, hu⟩ := Option.isSome_iff_exists.mp hupper
          refine ⟨.range lower upper, ?_, ?_⟩
          · show (parseMudPort port).toOption = _
            rw [parseMudPort_range hport hl hu hnone]
            rfl
          · unfold MudJson.Port.ports
            rw [hport, hl, hu]
            rfl

section

variable [Platform]

/-- **The port clauses of an ACE are honoured**, or the file rejected, exactly if the parser reads them or the
    file is not well-formed anyway. -/
theorem ports_honoured_iff (now : DateTime) (url : String) (mudJson : MudJson) (k i : Nat)
    (aceitem : MudJson.Ace) (hace : mudJson.aceAt k i = some aceitem) :
    (∀ data, Parser.parseMud now url mudJson = .ok data →
      ∃ ace, data.aceAt k i = some ace ∧ AceMatches.PortsHonoured aceitem.aceMatches ace.aceMatches) ↔
    (mudJson.WellFormed →
      (∀ port ∈ aceitem.aceMatches.sourcePort, port.Supported) ∧
      ∀ port ∈ aceitem.aceMatches.destinationPort, port.Supported) := by
  have hparsed (parsed : AceMatches) (hp : AceMatches.Parsed aceitem.aceMatches parsed) :
      AceMatches.PortsHonoured aceitem.aceMatches parsed ↔
        (∀ port ∈ aceitem.aceMatches.sourcePort, port.Supported) ∧
        ∀ port ∈ aceitem.aceMatches.destinationPort, port.Supported := by
    rw [← portHonoured_iff, ← portHonoured_iff, ← hp.sourcePort, ← hp.destinationPort]
    exact ⟨fun h => ⟨h.sourcePort, h.destinationPort⟩, fun h => ⟨h.1, h.2⟩⟩
  constructor
  · intro h hwell
    obtain ⟨data, hdata⟩ : ∃ data, Parser.parseMud now url mudJson = .ok data := parseMud_isOk_iff.mpr hwell
    exact (parsedAt_iff hdata hace hparsed).mp (h data hdata)
  · intro h data hdata
    exact (parsedAt_iff hdata hace hparsed).mpr (h (parseMud_isOk_iff.mp ⟨data, hdata⟩))

end

section

attribute [local instance] Reference.platform

/-- A UDP section for destination port 53, with this operator. -/
def portMatches (operator : Option String) : MudJson.Matches where
  udp := some { destinationPort := some { operator := operator, port := some 53 } }

theorem ports_honoured_eq :
    ∃ ace, (Reference.oneAceProfile (portMatches (some "eq"))
        { protocol := some .udp, destinationPort := some (.single 53) }).aceAt 0 0 = some ace ∧
      AceMatches.PortsHonoured (portMatches (some "eq")) ace.aceMatches := by
  refine (ports_honoured_iff 0 lampUrl (Reference.oneAceFile (portMatches (some "eq"))) 0 0
    ⟨"ace", portMatches (some "eq"), ⟨"accept"⟩⟩ rfl).mpr (fun _ => ⟨nofun, fun port hport => ?_⟩) _ rfl
  cases hport
  exact .inl ⟨rfl, rfl⟩

/-- A port without an operator is dropped, and the ACE admits every destination port. -/
theorem port_dropped :
    Parser.parseMud 0 lampUrl (Reference.oneAceFile (portMatches none)) =
      .ok (Reference.oneAceProfile (portMatches none) { protocol := some .udp }) ∧
    (Reference.oneAceFile (portMatches none)).aceAt 0 0 = some ⟨"ace", portMatches none, ⟨"accept"⟩⟩ ∧
    ¬ ∃ ace, (Reference.oneAceProfile (portMatches none) { protocol := some .udp }).aceAt 0 0 = some ace ∧
      AceMatches.PortsHonoured (portMatches none) ace.aceMatches := by
  refine ⟨rfl, rfl, ?_⟩
  rintro ⟨ace, hace, honoured⟩
  cases hace
  obtain ⟨_, hnone, -⟩ := honoured.destinationPort _ rfl
  cases hnone

end

/-! ## The remote side -/

/-- The network of the remote side: the destination of what the device sends, the source of what it gets. -/
def MudJson.AddressSection.remoteNetwork (addresses : MudJson.AddressSection) : AclDirection → Option String
  | .fromDevice => addresses.destinationNetwork
  | .toDevice => addresses.sourceNetwork

/-- The DNS name of the remote side. -/
def MudJson.AddressSection.remoteDnsname (addresses : MudJson.AddressSection) : AclDirection → Option String
  | .fromDevice => addresses.dstDnsname
  | .toDevice => addresses.srcDnsname

section

variable [Platform]

/-- A mask says what the text of a network says: it is the text, or the text of the address that it denotes. -/
def TakenFrom (mask network : String) : Prop :=
  mask = network ∨ ∃ addr, IpAddr.parse network = some addr ∧ mask = addr.toText

/-- The parsed ACE is still restricted to the remote side. -/
structure AceMatches.RemoteKept (dir : AclDirection) (m : MudJson.Matches) (parsed : AceMatches) : Prop where
  dnsname : ∀ addresses ∈ m.addressSection, ∀ name ∈ addresses.remoteDnsname dir, parsed.dnsname = some name
  addressMask : ∀ addresses ∈ m.addressSection, ∀ network ∈ addresses.remoteNetwork dir,
    ∃ mask ∈ parsed.addressMask, TakenFrom mask network

/-- The sides that the parser prefers, the destination of the names and the source of the networks, do not get
    in the way of the remote side, and what it takes as a network is a single address. -/
structure MudJson.AddressSection.RemoteFirst (dir : AclDirection) (addresses : MudJson.AddressSection) : Prop where
  dnsname : dir = .toDevice → ∀ src ∈ addresses.srcDnsname, ∀ dst ∈ addresses.dstDnsname, dst = src
  source : dir = .toDevice → ∀ network ∈ addresses.sourceNetwork, (IpAddr.parse network).isSome
  destination : dir = .fromDevice → addresses.sourceNetwork = none →
    ∀ network ∈ addresses.destinationNetwork, (IpAddr.parse network).isSome
  bothNetworks : dir = .fromDevice → ∀ source ∈ addresses.sourceNetwork, ∀ network ∈ addresses.destinationNetwork,
    ∃ addr, IpAddr.parse source = some addr ∧ TakenFrom addr.toText network

theorem takenFrom_parse {network : String} {addr : IpAddr} (h : IpAddr.parse network = some addr) :
    TakenFrom addr.toText network :=
  .inr ⟨addr, h, rfl⟩

omit [Platform] in
/-- The destination's name is preferred, so it is the remote one that is lost only to a device. -/
theorem dnsname_kept_iff {dir : AclDirection} {addresses : MudJson.AddressSection} :
    (∀ name ∈ addresses.remoteDnsname dir, addresses.dstDnsname.or addresses.srcDnsname = some name) ↔
      (dir = .toDevice → ∀ src ∈ addresses.srcDnsname, ∀ dst ∈ addresses.dstDnsname, dst = src) := by
  unfold MudJson.AddressSection.remoteDnsname
  cases dir with
  | fromDevice =>
      refine iff_of_true (fun name hname => ?_) nofun
      have hdst : addresses.dstDnsname = some name := hname
      rw [hdst, Option.some_or]
  | toDevice =>
      cases addresses.dstDnsname with
      | none => simp
      | some dst => simp

/-- The mask is that of the source network, or else of the destination network. -/
theorem addressMask_kept_iff {source destination : Option String} {network : String} :
    (∃ mask ∈ parseAddressMask source destination, TakenFrom mask network) ↔
      ∃ kept ∈ source.or destination, ∃ addr, IpAddr.parse kept = some addr ∧ TakenFrom addr.toText network := by
  unfold parseAddressMask
  cases source.or destination with
  | none => simp
  | some kept =>
      cases hparse : IpAddr.parse kept with
      | none => simp [hparse]
      | some addr => simp [hparse]

/-- **What a section keeps of the remote side.** -/
theorem remoteFirst_iff {dir : AclDirection} {addresses : MudJson.AddressSection} :
    addresses.RemoteFirst dir ↔
      (∀ name ∈ addresses.remoteDnsname dir, addresses.dstDnsname.or addresses.srcDnsname = some name) ∧
      ∀ network ∈ addresses.remoteNetwork dir,
        ∃ mask ∈ parseAddressMask addresses.sourceNetwork addresses.destinationNetwork, TakenFrom mask network := by
  rw [dnsname_kept_iff]
  simp only [addressMask_kept_iff]
  unfold MudJson.AddressSection.remoteNetwork
  constructor
  · intro h
    refine ⟨h.dnsname, fun network hnetwork => ?_⟩
    cases dir with
    | toDevice =>
        obtain ⟨addr, haddr⟩ := Option.isSome_iff_exists.mp (h.source rfl network hnetwork)
        have hsource : addresses.sourceNetwork = some network := hnetwork
        rw [hsource]
        exact ⟨network, rfl, addr, haddr, takenFrom_parse haddr⟩
    | fromDevice =>
        cases hsource : addresses.sourceNetwork with
        | some source => exact ⟨source, rfl, h.bothNetworks rfl source hsource network hnetwork⟩
        | none =>
            obtain ⟨addr, haddr⟩ := Option.isSome_iff_exists.mp (h.destination rfl hsource network hnetwork)
            exact ⟨network, hnetwork, addr, haddr, takenFrom_parse haddr⟩
  · rintro ⟨hname, hmask⟩
    refine ⟨hname, ?_, ?_, ?_⟩
    · rintro rfl network hnetwork
      obtain ⟨kept, hkept, addr, haddr, -⟩ := hmask network hnetwork
      rw [Option.mem_def.mp hnetwork] at hkept
      cases hkept
      rw [haddr]
      rfl
    · rintro rfl hsource network hnetwork
      obtain ⟨kept, hkept, addr, haddr, -⟩ := hmask network hnetwork
      rw [hsource, Option.none_or, Option.mem_def.mp hnetwork] at hkept
      cases hkept
      rw [haddr]
      rfl
    · rintro rfl source hsource network hnetwork
      obtain ⟨kept, hkept, addr, haddr, htaken⟩ := hmask network hnetwork
      rw [Option.mem_def.mp hsource, Option.some_or] at hkept
      cases hkept
      exact ⟨addr, haddr, htaken⟩

/-- **The remote side of an ACE survives**, for the direction `dir` of its policy, exactly if the parser's
    preference for the destination's name and the source's network does not hide it and its network is a single
    address. -/
theorem remote_kept_iff (now : DateTime) (url : String) (mudJson : MudJson) (data : MudData)
    (h : Parser.parseMud now url mudJson = .ok data) (k i : Nat) (aceitem : MudJson.Ace)
    (hace : mudJson.aceAt k i = some aceitem) (dir : AclDirection) :
    (∃ ace, data.aceAt k i = some ace ∧ AceMatches.RemoteKept dir aceitem.aceMatches ace.aceMatches) ↔
      ∀ addresses ∈ aceitem.aceMatches.addressSection, addresses.RemoteFirst dir := by
  refine parsedAt_iff h hace fun parsed hparsed => ?_
  have hname := hparsed.dnsname
  have hmask := hparsed.addressMask
  constructor
  · intro hkept addresses haddresses
    rw [Option.mem_def.mp haddresses, Option.bind_some] at hname hmask
    exact remoteFirst_iff.mpr
      ⟨hname ▸ hkept.dnsname addresses haddresses, hmask ▸ hkept.addressMask addresses haddresses⟩
  · intro hfirst
    refine ⟨fun addresses haddresses => ?_, fun addresses haddresses => ?_⟩
    · rw [Option.mem_def.mp haddresses, Option.bind_some] at hname
      exact hname ▸ (remoteFirst_iff.mp (hfirst addresses haddresses)).1
    · rw [Option.mem_def.mp haddresses, Option.bind_some] at hmask
      exact hmask ▸ (remoteFirst_iff.mp (hfirst addresses haddresses)).2

end

section

attribute [local instance] Reference.platform

/-- An IPv4 section for this destination network. -/
def networkMatches (network : String) : MudJson.Matches where
  ipv4 := some { destinationIpv4Network := some network }

theorem remote_kept_address :
    ∃ ace, (Reference.oneAceProfile (networkMatches "8.8.8.8") { addressMask := some "8.8.8.8" }).aceAt 0 0 =
        some ace ∧
      AceMatches.RemoteKept .fromDevice (networkMatches "8.8.8.8") ace.aceMatches := by
  refine (remote_kept_iff 0 lampUrl (Reference.oneAceFile (networkMatches "8.8.8.8")) _ rfl 0 0
    ⟨"ace", networkMatches "8.8.8.8", ⟨"accept"⟩⟩ rfl .fromDevice).mpr fun addresses haddresses => ?_
  cases haddresses
  refine ⟨nofun, nofun, fun _ _ network hnetwork => ?_, fun _ => nofun⟩
  cases hnetwork
  decide

/-- A prefix is not an address, and the ACE is parsed without its network. -/
theorem remote_prefix_dropped :
    Parser.parseMud 0 lampUrl (Reference.oneAceFile (networkMatches "8.8.8.8/32")) =
      .ok (Reference.oneAceProfile (networkMatches "8.8.8.8/32") {}) ∧
    (Reference.oneAceFile (networkMatches "8.8.8.8/32")).aceAt 0 0 =
      some ⟨"ace", networkMatches "8.8.8.8/32", ⟨"accept"⟩⟩ ∧
    (Reference.oneAceFile (networkMatches "8.8.8.8/32")).references[0]?.map (·.1) = some .fromDevice ∧
    ¬ ∃ ace, (Reference.oneAceProfile (networkMatches "8.8.8.8/32") {}).aceAt 0 0 = some ace ∧
      AceMatches.RemoteKept .fromDevice (networkMatches "8.8.8.8/32") ace.aceMatches := by
  refine ⟨rfl, rfl, rfl, ?_⟩
  rintro ⟨ace, hace, hkept⟩
  cases hace
  obtain ⟨_, hnone, -⟩ := hkept.addressMask _ rfl "8.8.8.8/32" rfl
  cases hnone

end

end MudController
