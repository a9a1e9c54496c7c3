import MudController.Filter.Compile
import MudController.Profile.Clauses

/-!
# `Profile.Pipeline` — from a MUD file to verdicts

`parse_mud` makes a profile of a file, `convert_device_to_fw_rules` makes rules of the profile, and the enforcer
reads the rules from the top. Put together (`pipeline_verdict`), the firewall enforces a reading of the file itself:
the entries of the policies in their order, each by its direction, its DNS name and its action. Whatever else an
entry asks for, its transport section, its ports, its networks, an IP protocol, is gone on the way: every rule is
for all protocols and all ports.
-/

namespace MudController

open Logic

section

variable [Platform]

/-! ## The file, read as it is enforced -/

/-- The ACEs that the policies refer to, in their order, each with the direction of its policy. -/
def MudJson.entries (mudJson : MudJson) : List (AclDirection × MudJson.Ace) :=
  mudJson.references.flatMap fun ref =>
    (mudJson.firstAcl ref.2).elim [] fun aclitem => aclitem.aces.ace.map fun aceitem => (ref.1, aceitem)

/-- The DNS name that an ACE is enforced by: that of the destination, or else that of the source, of the address
    section that counts. -/
def MudJson.Ace.enforcedName (aceitem : MudJson.Ace) : Option String :=
  aceitem.aceMatches.addressSection.bind fun addresses => addresses.dstDnsname.or addresses.srcDnsname

/-- The verdict that an ACE asks for. -/
def MudJson.Ace.verdict (aceitem : MudJson.Ace) : Verdict :=
  if aceitem.actions.forwarding = "accept" then .accept else .reject

/-- What an entry of a file decides of a packet, by its direction and its DNS name alone. -/
def MudJson.entryDecides (p : Packet) (e : AclDirection × MudJson.Ace) : Option Verdict :=
  if e.1 = p.direction && e.2.enforcedName.any p.remote.goesBy then some e.2.verdict else none

/-- A file, read from the top with default deny. -/
def MudJson.verdict (mudJson : MudJson) (p : Packet) : Verdict :=
  (mudJson.entries.findSome? (MudJson.entryDecides p)).getD .reject

/-! ## The parsed profile against the file -/

/-- An entry of the profile is the parsed entry of the file. -/
structure EntryParsed (source : AclDirection × MudJson.Ace) (entry : Acl × Ace) : Prop where
  direction : entry.1.packetDirection = source.1
  mirrors : Ace.Mirrors source.2 entry.2
  parsed : AceMatches.Parsed source.2.aceMatches entry.2.aceMatches

/-- The entries of one reference and of the ACL that it is parsed to. -/
theorem parseReference_entries {mudJson : MudJson} {ref : AclDirection × String} {acl : Acl}
    (h : parseReference mudJson ref = .ok acl) :
    List.Forall₂ EntryParsed
      ((mudJson.firstAcl ref.2).elim [] fun aclitem => aclitem.aces.ace.map fun aceitem => (ref.1, aceitem))
      (acl.ace.map fun ace => (acl, ace)) := by
  unfold parseReference parseAccessList at h
  unfold MudJson.firstAcl
  cases hfirst : mudJson.acls.acl.find? (·.name = ref.2) with
  | none =>
      rw [hfirst] at h
      cases h
  | some aclitem =>
      rw [hfirst] at h
      obtain ⟨ace, hace, h⟩ := exists_of_bind_ok h
      cases h
      rw [Option.elim_some, List.forall₂_map_left_iff, List.forall₂_map_right_iff]
      exact (mapM_ok_iff.mp hace).imp fun _ _ hparse => ⟨rfl, parseAce_mirrors hparse, parseAce_parsed hparse⟩

/-- The entries of a file and of its profile. -/
theorem entries_parsed {now : DateTime} {url : String} {mudJson : MudJson} {data : MudData}
    (h : Parser.parseMud now url mudJson = .ok data) :
    List.Forall₂ EntryParsed mudJson.entries (profileEntries data) := by
  obtain ⟨-, -, acllist, hacllist, rfl⟩ := parseMud_eq_ok_iff.mp h
  have hentries : profileEntries (profileOf now url mudJson acllist) = entries acllist := by
    unfold profileEntries profileOf
    simp [mergeAcls]
  rw [hentries]
  have hreferences := mapM_ok_iff.mp hacllist
  unfold MudJson.entries entries
  clear hacllist hentries h
  generalize mudJson.references = references at hreferences
  induction hreferences with
  | nil => exact .nil
  | cons href _ ih =>
      rw [List.flatMap_cons, List.flatMap_cons]
      exact List.rel_append (parseReference_entries href) ih

/-- An entry with a DNS name has an address section, and that has taken the protocol of the transport section
    away. -/
theorem EntryParsed.protocol_all {source : AclDirection × MudJson.Ace} {entry : Acl × Ace}
    (h : EntryParsed source entry) {name : String} (hname : entry.2.aceMatches.dnsname = some name) :
    compileProtocol entry.2.aceMatches.protocol = .all := by
  have hprotocol := h.parsed.protocol
  rw [h.parsed.dnsname] at hname
  obtain ⟨addresses, haddresses, _⟩ := Option.bind_eq_some_iff.mp hname
  rw [haddresses, Option.elim_some] at hprotocol
  rw [hprotocol]
  cases addresses.protocol <;> rfl

/-- A parsed entry is compiled to what the entry of the file decides. -/
theorem EntryParsed.decides {source : AclDirection × MudJson.Ace} {entry : Acl × Ace} (h : EntryParsed source entry)
    (p : Packet) : MudJson.entryDecides p source = (entryLooselyDecides p entry).map compileAction := by
  have hverdict : source.2.verdict = compileAction entry.2.action := by
    unfold MudJson.Ace.verdict
    by_cases haccept : source.2.actions.forwarding = "accept"
    · rw [if_pos haccept, h.mirrors.action.mpr haccept]
      rfl
    · rw [if_neg haccept]
      cases haction : entry.2.action with
      | accept => exact absurd (h.mirrors.action.mp haction) haccept
      | deny => rfl
  have hloosely : entry.2.aceMatches.looselySatisfiedBy p = source.2.enforcedName.any p.remote.goesBy := by
    unfold AceMatches.looselySatisfiedBy
    rw [show source.2.enforcedName = entry.2.aceMatches.dnsname from h.parsed.dnsname.symm]
    cases hname : entry.2.aceMatches.dnsname with
    | none => rfl
    | some name =>
        rw [h.protocol_all hname]
        exact Bool.and_true _
  unfold MudJson.entryDecides entryLooselyDecides
  rw [h.direction, hloosely, hverdict]
  split <;> rfl

theorem exists_of_mem {sources : List (AclDirection × MudJson.Ace)} {es : List (Acl × Ace)}
    (h : List.Forall₂ EntryParsed sources es) {entry : Acl × Ace} (hentry : entry ∈ es) :
    ∃ source, EntryParsed source entry := by
  induction h with
  | nil => cases hentry
  | cons hsource _ ih =>
      rcases List.mem_cons.mp hentry with rfl | hentry
      · exact ⟨_, hsource⟩
      · exact ih hentry

/-- **The whole pipeline.** The rules of a device with a parsed file decide every packet as the file does when it is
    read by directions, DNS names and actions alone; and each of them is for all protocols and all ports. -/
theorem pipeline_verdict {now : DateTime} {url : String} {mudJson : MudJson} {data : MudData}
    (h : Parser.parseMud now url mudJson = .ok data) (inner : Device) (room : Option Room) :
    (∀ p, rulesVerdict (convertDeviceToFwRules ⟨inner, room, some data⟩).rules p = some (mudJson.verdict p)) ∧
    ∀ rule ∈ (convertDeviceToFwRules ⟨inner, room, some data⟩).rules,
      rule.protocol = .all ∧ rule.src.port = none ∧ rule.dst.port = none := by
  have hentries := entries_parsed h
  refine ⟨fun p => ?_, fun rule hrule => ?_⟩
  · have hcompiled : rulesVerdict (convertDeviceToFwRules ⟨inner, room, some data⟩).rules p =
        some (((looseAction data p).map compileAction).getD .reject) := compileRules_verdict data p
    have hdecides : mudJson.entries.findSome? (MudJson.entryDecides p) =
        (looseAction data p).map compileAction := by
      unfold looseAction
      rw [List.map_findSome?]
      exact findSome?_forall₂ (hentries.imp fun _ _ hentry => hentry.decides p)
    rw [hcompiled, MudJson.verdict, hdecides]
  · rcases mem_compileRules hrule with ⟨entry, hentry, index, name, hname, rfl⟩ | hdefault
    · obtain ⟨source, hsource⟩ := exists_of_mem hentries hentry
      refine ⟨hsource.protocol_all hname, ?_⟩
      unfold compileRule
      cases entry.1.packetDirection <;> exact ⟨rfl, rfl⟩
    · simp only [defaultRules, List.mem_cons, List.not_mem_nil, or_false] at hdefault
      rcases hdefault with rfl | rfl <;> exact ⟨rfl, rfl, rfl⟩

end

section

attribute [local instance] Reference.platform

/-- The profile of a file whose one ACE is for UDP packets to a host. -/
def udpProfile : MudData := Reference.oneAceProfile (dnsMatches none) { dnsname := some "cloud.example" }

/-- Whether a packet to the host is UDP makes no difference. -/
theorem pipeline_verdict_udp :
    (∀ p, rulesVerdict (convertDeviceToFwRules ⟨Reference.device, none, some udpProfile⟩).rules p =
      some ((Reference.oneAceFile (dnsMatches none)).verdict p)) ∧
    ∀ rule ∈ (convertDeviceToFwRules ⟨Reference.device, none, some udpProfile⟩).rules,
      rule.protocol = .all ∧ rule.src.port = none ∧ rule.dst.port = none :=
  pipeline_verdict (show Parser.parseMud 0 lampUrl (Reference.oneAceFile (dnsMatches none)) = .ok udpProfile from rfl)
    Reference.device none

end

end MudController
