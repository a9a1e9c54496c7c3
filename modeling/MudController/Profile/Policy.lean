import MudController.Services.ParserLoop

/-!
# `Profile.Policy` — what `parse_mud` accepts, and the ACLs it makes of it

The names in the two policies refer to ACLs of the file, each name to the first ACL of the name. A file is
accepted if its version and its validity are in order and every name refers to an ACL whose ACEs are in order
(`parse_mud_ok_iff`), and then every name gives one ACL of the profile (`acllist_mirrors`).
-/

namespace MudController

open Logic

/-- The names that the policies list, each with the direction of its policy. -/
def MudJson.references (mudJson : MudJson) : List (AclDirection × String) :=
  mudJson.mud.fromDevicePolicy.accessLists.accessList.map (fun accessList => (.fromDevice, accessList.name)) ++
    mudJson.mud.toDevicePolicy.accessLists.accessList.map fun accessList => (.toDevice, accessList.name)

/-- The ACL that a name refers to. -/
def MudJson.firstAcl (mudJson : MudJson) (name : String) : Option MudJson.Acl :=
  mudJson.acls.acl.find? (·.name = name)

/-- An ACE that an ACL of this type can have. -/
structure MudJson.Ace.WellFormed (typeField : String) (aceitem : MudJson.Ace) : Prop where
  directionInitiated : aceitem.aceMatches.udp = none → ∀ tcp ∈ aceitem.aceMatches.tcp,
    ∀ dir ∈ tcp.directionInitiated, dir = "from-device" ∨ dir = "to-device"
  ipv6 : aceitem.aceMatches.ipv6.isSome → typeField ≠ "ipv4-acl-type"
  ipv4 : aceitem.aceMatches.ipv6 = none → aceitem.aceMatches.ipv4.isSome → typeField = "ipv4-acl-type"

/-- A MUD file whose policies are in order. -/
structure MudJson.WellFormed (mudJson : MudJson) : Prop where
  mudVersion : mudJson.mud.mudVersion = 1
  cacheValidity : 1 ≤ mudJson.mud.cacheValidity.getD 48 ∧ mudJson.mud.cacheValidity.getD 48 ≤ 168
  policies : ∀ ref ∈ mudJson.references, ∃ aclitem, mudJson.firstAcl ref.2 = some aclitem ∧
    ∀ aceitem ∈ aclitem.aces.ace, aceitem.WellFormed aclitem.typeField

/-- The parsed ACE has the name of the ACE, and accepts exactly if the ACE forwards with `accept`. -/
structure Ace.Mirrors (aceitem : MudJson.Ace) (ace : Ace) : Prop where
  name : ace.name = aceitem.name
  action : ace.action = .accept ↔ aceitem.actions.forwarding = "accept"

/-- The parsed ACL has the name and the direction of the policy's entry, and the type and the ACEs of the ACL
    that the name refers to. -/
structure Acl.Mirrors (mudJson : MudJson) (ref : AclDirection × String) (acl : Acl) : Prop where
  name : acl.name = ref.2
  packetDirection : acl.packetDirection = ref.1
  source : ∃ aclitem, mudJson.firstAcl ref.2 = some aclitem ∧
    (acl.aclType = .ipv4 ↔ aclitem.typeField = "ipv4-acl-type") ∧
    List.Forall₂ Ace.Mirrors aclitem.aces.ace acl.ace

variable [Platform]

/-- What one entry of the two policies parses to. -/
def parseReference (mudJson : MudJson) (ref : AclDirection × String) : Except Error Acl :=
  parseAccessList mudJson ref.1 ⟨ref.2⟩

/-- The profile that a MUD file gives with these ACLs. -/
def profileOf (now : DateTime) (url : String) (mudJson : MudJson) (acllist : List Acl) : MudData where
  url := url
  masaUrl := parseMasa mudJson.mud
  lastUpdate := mudJson.mud.lastUpdate
  systeminfo := mudJson.mud.systeminfo
  mfgName := mudJson.mud.mfgName
  modelName := mudJson.mud.modelName
  documentation := mudJson.mud.documentation
  expiration := now + hours (mudJson.mud.cacheValidity.getD 48)
  acllist := acllist
  aclOverride := []

/-! ## One ACE -/

omit [Platform] in
theorem ensureMud_eq_ok_iff {cond : Bool} {message : String} {u : Unit} :
    ensureMud cond message = .ok u ↔ cond = true := by
  unfold ensureMud
  cases cond with
  | true => exact iff_of_true rfl rfl
  | false => exact iff_of_false nofun nofun

omit [Platform] in
theorem parseDirectionInitiated_isOk_iff {text : Option String} :
    (∃ dir, parseDirectionInitiated text = .ok dir) ↔
      ∀ dir ∈ text, dir = "from-device" ∨ dir = "to-device" := by
  cases text with
  | none => exact iff_of_true ⟨none, rfl⟩ nofun
  | some dir =>
      unfold parseDirectionInitiated
      by_cases hfrom : dir = "from-device"
      · simp [hfrom]
      by_cases hto : dir = "to-device"
      · simp [hto]
      · simp [hfrom, hto]

omit [Platform] in
theorem parseTransport_isOk_iff {m : MudJson.Matches} :
    (∃ transport, parseTransport m = .ok transport) ↔
      (m.udp = none → ∀ tcp ∈ m.tcp, ∀ dir ∈ tcp.directionInitiated,
        dir = "from-device" ∨ dir = "to-device") := by
  unfold parseTransport
  cases m.udp with
  | some udp => exact iff_of_true ⟨_, rfl⟩ nofun
  | none =>
      cases m.tcp with
      | none => exact iff_of_true ⟨_, rfl⟩ fun _ _ htcp => nomatch htcp
      | some tcp =>
          refine bind_isOk_iff.trans ?_
          simpa [pure, Except.pure] using parseDirectionInitiated_isOk_iff

/-- An address section is accepted in an ACL of its version. -/
theorem parseAddresses_isOk_iff {aclType : AclType} {m : MudJson.Matches} {acc : AceMatches} :
    (∃ aceMatches, parseAddresses aclType m acc = .ok aceMatches) ↔
      (m.ipv6.isSome → aclType = .ipv6) ∧ (m.ipv6 = none → m.ipv4.isSome → aclType = .ipv4) := by
  unfold parseAddresses
  cases m.ipv6 with
  | some ipv6 =>
      refine bind_isOk_iff.trans ?_
      simp [ensureMud_eq_ok_iff, pure, Except.pure]
  | none =>
      cases m.ipv4 with
      | none => exact iff_of_true ⟨_, rfl⟩ ⟨nofun, fun _ => nofun⟩
      | some ipv4 =>
          refine bind_isOk_iff.trans ?_
          simp [ensureMud_eq_ok_iff, pure, Except.pure]

omit [Platform] in
theorem parseAclType_eq_ipv4_iff {typeField : String} :
    parseAclType typeField = .ipv4 ↔ typeField = "ipv4-acl-type" := by
  unfold parseAclType
  by_cases h : typeField = "ipv4-acl-type"
  · simp [h]
  · simp [h]

omit [Platform] in
theorem parseAclType_eq_ipv6_iff {typeField : String} :
    parseAclType typeField = .ipv6 ↔ typeField ≠ "ipv4-acl-type" := by
  rw [Ne, ← parseAclType_eq_ipv4_iff]
  cases parseAclType typeField <;> decide

theorem parseAce_isOk_iff {typeField : String} {aceitem : MudJson.Ace} :
    (∃ ace, parseAce (parseAclType typeField) aceitem = .ok ace) ↔ aceitem.WellFormed typeField := by
  have haddresses (transport : AceMatches) :
      (∃ aceMatches, parseAddresses (parseAclType typeField) aceitem.aceMatches transport = .ok aceMatches) ↔
        (aceitem.aceMatches.ipv6.isSome → typeField ≠ "ipv4-acl-type") ∧
        (aceitem.aceMatches.ipv6 = none → aceitem.aceMatches.ipv4.isSome → typeField = "ipv4-acl-type") := by
    rw [parseAddresses_isOk_iff, parseAclType_eq_ipv4_iff, parseAclType_eq_ipv6_iff]
  constructor
  · intro h
    obtain ⟨transport, htransport, h⟩ := bind_isOk_iff.mp h
    obtain ⟨aceMatches, haceMatches, -⟩ := bind_isOk_iff.mp h
    obtain ⟨hipv6, hipv4⟩ := (haddresses transport).mp ⟨aceMatches, haceMatches⟩
    exact ⟨parseTransport_isOk_iff.mp ⟨transport, htransport⟩, hipv6, hipv4⟩
  · intro h
    obtain ⟨transport, htransport⟩ := parseTransport_isOk_iff.mpr h.directionInitiated
    obtain ⟨aceMatches, haceMatches⟩ := (haddresses transport).mpr ⟨h.ipv6, h.ipv4⟩
    exact bind_isOk_iff.mpr ⟨transport, htransport, bind_isOk_iff.mpr ⟨aceMatches, haceMatches, _, rfl⟩⟩

theorem parseAce_mirrors {aclType : AclType} {aceitem : MudJson.Ace} {ace : Ace}
    (h : parseAce aclType aceitem = .ok ace) : Ace.Mirrors aceitem ace := by
  obtain ⟨transport, -, h⟩ := exists_of_bind_ok h
  obtain ⟨aceMatches, -, h⟩ := exists_of_bind_ok h
  cases h
  refine ⟨rfl, ?_⟩
  by_cases haccept : aceitem.actions.forwarding = "accept"
  · simp [haccept]
  · simp [haccept]

/-! ## The policies -/

theorem parseReference_isOk_iff {mudJson : MudJson} {ref : AclDirection × String} :
    (∃ acl, parseReference mudJson ref = .ok acl) ↔
      ∃ aclitem, mudJson.firstAcl ref.2 = some aclitem ∧
        ∀ aceitem ∈ aclitem.aces.ace, aceitem.WellFormed aclitem.typeField := by
  unfold parseReference parseAccessList MudJson.firstAcl
  cases mudJson.acls.acl.find? (·.name = ref.2) with
  | none => exact iff_of_false nofun nofun
  | some aclitem =>
      refine bind_isOk_iff.trans ?_
      simp only [pure, Except.pure, Except.ok.injEq, exists_eq', and_true, mapM_isOk_iff, parseAce_isOk_iff,
        Option.some.injEq, exists_eq_left']

theorem parseReference_mirrors {mudJson : MudJson} {ref : AclDirection × String} {acl : Acl}
    (h : parseReference mudJson ref = .ok acl) : Acl.Mirrors mudJson ref acl := by
  unfold parseReference parseAccessList at h
  cases hfirst : mudJson.acls.acl.find? (·.name = ref.2) with
  | none => rw [hfirst] at h; cases h
  | some aclitem =>
      rw [hfirst] at h
      obtain ⟨ace, hace, h⟩ := exists_of_bind_ok h
      cases h
      exact ⟨rfl, rfl, aclitem, hfirst, parseAclType_eq_ipv4_iff,
        (mapM_ok_iff.mp hace).imp fun _ _ => parseAce_mirrors⟩

/-- **The two policies are one list** of references, parsed in order. -/
theorem parseMud_eq_references (now : DateTime) (url : String) (mudJson : MudJson) :
    Parser.parseMud now url mudJson = (do
      ensureMud (mudJson.mud.mudVersion = 1) "Unsupported MUD Version"
      ensureMud (mudJson.mud.cacheValidity.getD 48 ≥ 1 ∧ mudJson.mud.cacheValidity.getD 48 ≤ 168)
        "MUD-File has invalid 'cache-validity'"
      let acllist ← mudJson.references.mapM (parseReference mudJson)
      return profileOf now url mudJson acllist) := by
  rw [Parser.parseMud_eq]
  unfold parseMudJson MudJson.references
  simp only [List.mapM_append, List.mapM_map, bind_assoc, pure_bind]
  rfl

/-- A file is parsed to a profile exactly if its header is in order and its references parse to the ACLs of
    the profile. -/
theorem parseMud_eq_ok_iff {now : DateTime} {url : String} {mudJson : MudJson} {data : MudData} :
    Parser.parseMud now url mudJson = .ok data ↔
      mudJson.mud.mudVersion = 1 ∧
      (1 ≤ mudJson.mud.cacheValidity.getD 48 ∧ mudJson.mud.cacheValidity.getD 48 ≤ 168) ∧
      ∃ acllist, mudJson.references.mapM (parseReference mudJson) = .ok acllist ∧
        data = profileOf now url mudJson acllist := by
  rw [parseMud_eq_references]
  constructor
  · intro h
    obtain ⟨_, hversion, h⟩ := exists_of_bind_ok h
    obtain ⟨_, hvalidity, h⟩ := exists_of_bind_ok h
    obtain ⟨acllist, hacllist, h⟩ := exists_of_bind_ok h
    cases h
    exact ⟨of_decide_eq_true (ensureMud_eq_ok_iff.mp hversion),
      of_decide_eq_true (ensureMud_eq_ok_iff.mp hvalidity), acllist, hacllist, rfl⟩
  · rintro ⟨hversion, hvalidity, acllist, hacllist, rfl⟩
    rw [ensureMud_eq_ok_iff (u := ()).mpr (decide_eq_true hversion),
      ensureMud_eq_ok_iff (u := ()).mpr (decide_eq_true hvalidity), hacllist]
    rfl

theorem parseMud_isOk_iff {now : DateTime} {url : String} {mudJson : MudJson} :
    (∃ data, Parser.parseMud now url mudJson = .ok data) ↔ mudJson.WellFormed := by
  have hpolicies : (∃ acllist, mudJson.references.mapM (parseReference mudJson) = .ok acllist) ↔ _ :=
    mapM_isOk_iff.trans (forall₂_congr fun _ _ => parseReference_isOk_iff)
  constructor
  · rintro ⟨data, h⟩
    obtain ⟨hversion, hvalidity, acllist, hacllist, -⟩ := parseMud_eq_ok_iff.mp h
    exact ⟨hversion, hvalidity, hpolicies.mp ⟨acllist, hacllist⟩⟩
  · intro h
    obtain ⟨acllist, hacllist⟩ := hpolicies.mpr h.policies
    exact ⟨_, parseMud_eq_ok_iff.mpr ⟨h.mudVersion, h.cacheValidity, acllist, hacllist, rfl⟩⟩

/-- The ACLs of a file matter through the first ACL of each name that a policy lists. -/
theorem parseMud_congr {now : DateTime} {url : String} {mudJson : MudJson} {acls : List MudJson.Acl}
    (h : ∀ ref ∈ mudJson.references, acls.find? (·.name = ref.2) = mudJson.firstAcl ref.2) :
    Parser.parseMud now url { mudJson with acls := ⟨acls⟩ } = Parser.parseMud now url mudJson := by
  have hparse : mudJson.references.mapM (parseReference { mudJson with acls := ⟨acls⟩ }) =
      mudJson.references.mapM (parseReference mudJson) := by
    refine mapM_congr_mem fun ref href => ?_
    have hfind : acls.find? (·.name = ref.2) = mudJson.acls.acl.find? (·.name = ref.2) := h ref href
    unfold parseReference parseAccessList
    rw [hfind]
  rw [parseMud_eq_references, parseMud_eq_references]
  show (do ensureMud _ _; ensureMud _ _; let acllist ← mudJson.references.mapM _; return _) = _
  rw [hparse]
  rfl

omit [Platform] in
/-- An ACL is the first of its name for no reference if none has its name, or if an earlier ACL has it. -/
theorem find?_hidden {pre post : List MudJson.Acl} {aclitem : MudJson.Acl} {name : String}
    (h : aclitem.name ≠ name ∨ ∃ earlier ∈ pre, earlier.name = aclitem.name) :
    (pre ++ post).find? (·.name = name) = (pre ++ aclitem :: post).find? (·.name = name) := by
  rw [List.find?_append, List.find?_append]
  by_cases hname : aclitem.name = name
  · obtain ⟨earlier, hearlier, hsame⟩ := h.resolve_left (not_not_intro hname)
    have hsome : (pre.find? (·.name = name)).isSome :=
      List.find?_isSome.mpr ⟨earlier, hearlier, decide_eq_true (hsame.trans hname)⟩
    obtain ⟨first, hfirst⟩ := Option.isSome_iff_exists.mp hsome
    rw [hfirst]
    rfl
  · rw [List.find?_cons_of_neg (by simpa using hname)]

/-- **`parse_mud` accepts exactly the well-formed files**, and an ACL that no policy lists, or that follows
    another one of its name, makes no difference. -/
theorem parse_mud_ok_iff (now : DateTime) (url : String) (mudJson : MudJson) :
    ((∃ data, Parser.parseMud now url mudJson = .ok data) ↔ mudJson.WellFormed) ∧
    ∀ pre aclitem post, mudJson.acls.acl = pre ++ aclitem :: post →
      ((∀ ref ∈ mudJson.references, aclitem.name ≠ ref.2) ∨ ∃ earlier ∈ pre, earlier.name = aclitem.name) →
      ((∃ data, Parser.parseMud now url { mudJson with acls := ⟨pre ++ post⟩ } = .ok data) ↔
        ∃ data, Parser.parseMud now url mudJson = .ok data) := by
  refine ⟨parseMud_isOk_iff, fun pre aclitem post hacls hhidden => ?_⟩
  rw [parseMud_congr]
  intro ref href
  rw [MudJson.firstAcl, hacls]
  exact find?_hidden (hhidden.imp_left fun hname => hname ref href)

/-- **The ACLs of a profile mirror the policies**: one for each name, in order, made of the first ACL of the
    name; and nothing else of the ACLs matters for what `parse_mud` returns. -/
theorem acllist_mirrors (now : DateTime) (url : String) (mudJson : MudJson) :
    (∀ data, Parser.parseMud now url mudJson = .ok data →
      List.Forall₂ (Acl.Mirrors mudJson) mudJson.references data.acllist) ∧
    ∀ acls : List MudJson.Acl,
      (∀ ref ∈ mudJson.references, acls.find? (·.name = ref.2) = mudJson.firstAcl ref.2) →
      Parser.parseMud now url { mudJson with acls := ⟨acls⟩ } = Parser.parseMud now url mudJson := by
  refine ⟨fun data h => ?_, fun acls => parseMud_congr⟩
  obtain ⟨-, -, acllist, hacllist, rfl⟩ := parseMud_eq_ok_iff.mp h
  exact (mapM_ok_iff.mp hacllist).imp fun _ _ => parseReference_mirrors

end MudController
