import MudController.Filter.Compile
import MudController.Logic.Merge
import MudController.Profile.Clauses

/-!
# `Filter.Merge` — merging ACLs by name

`merge_acls` is `mergeBy` on the names (`mergeAcls_eq`), and has its laws (`merge_acls_algebra`). The parser tells
ACLs of one name apart by their direction, the merge does not: an override for one direction takes the ACL of
the other direction away with it, unless it overrides that too (`override_direction_iff`).
-/

namespace MudController

open Logic

/-! ## The algebra -/

theorem mergeAcls_eq (original overrideWith : List Acl) :
    mergeAcls original overrideWith = mergeBy Acl.name original overrideWith := by
  unfold mergeAcls mergeBy
  refine congrArg (· ++ overrideWith) (List.filter_congr fun acl _ => ?_)
  rw [List.contains_eq_mem, decide_not]

/-- **The algebra of merging.** It is associative, the empty list is its unit, the same override once more changes
    nothing, and it keeps the ACLs whose name no override has, in order and ahead of all overrides. -/
theorem merge_acls_algebra (a b c : List Acl) :
    mergeAcls (mergeAcls a b) c = mergeAcls a (mergeAcls b c) ∧
    mergeAcls a [] = a ∧ mergeAcls [] b = b ∧
    mergeAcls (mergeAcls a b) b = mergeAcls a b ∧
    mergeAcls a b = (a.filter fun acl => ∀ o ∈ b, o.name ≠ acl.name) ++ b ∧
    ((mergeAcls a b).filter fun acl => ∃ o ∈ b, o.name = acl.name) = b ∧
    ∀ mudData : MudData, mergedAcls mudData = mergeAcls mudData.acllist mudData.aclOverride := by
  have hnames (acl : Acl) : (∃ o ∈ b, o.name = acl.name) ↔ acl.name ∈ b.map Acl.name := List.mem_map.symm
  simp only [mergeAcls_eq]
  refine ⟨mergeBy_assoc a b c, mergeBy_nil a, nil_mergeBy b, mergeBy_mergeBy_self a b, ?_, ?_, ?_⟩
  · unfold mergeBy
    refine congrArg (· ++ b) (List.filter_congr fun acl _ => decide_eq_decide.mpr ?_)
    rw [← hnames, not_exists]
    exact forall_congr' fun o => not_and
  · simp only [hnames]
    exact filter_mergeBy_keys a b
  · exact fun mudData => (mergedAcls_eq mudData).trans (mergeAcls_eq _ _)

/-! ## One direction -/

section

variable [Platform]

/-- What the compiler makes of these ACLs and overrides. -/
def verdictWith (inner : Device) (room : Option Room) (mudData : MudData) (acllist override : List Acl)
    (p : Packet) : Option Verdict :=
  rulesVerdict (convertDeviceToFwRules ⟨inner, room,
    some { mudData with acllist := acllist, aclOverride := override }⟩).rules p

/-- An override takes away only ACLs of the name and the direction of one of its own, and if it is for one
    direction only, it does not change what becomes of a packet of the other. -/
structure LeavesOtherDirection (acllist override : List Acl) : Prop where
  overridden : ∀ acl ∈ acllist, acl ∉ mergeAcls acllist override →
    ∃ o ∈ override, o.name = acl.name ∧ o.packetDirection = acl.packetDirection
  verdict : ∀ dir, (∀ o ∈ override, o.packetDirection = dir) → ∀ inner room mudData (p : Packet),
    p.direction ≠ dir →
      verdictWith inner room mudData acllist override p = verdictWith inner room mudData acllist [] p

omit [Platform] in
/-- The override has for every name that it shares with a policy an ACL of the policy's direction. -/
def OverriddenAlike (mudJson : MudJson) (override : List Acl) : Prop :=
  ∀ ref ∈ mudJson.references, (∃ o ∈ override, o.name = ref.2) →
    ∃ o ∈ override, o.name = ref.2 ∧ o.packetDirection = ref.1

/-- Only the entries of a packet's own direction decide of it. -/
theorem entries_findSome?_filter (acls : List Acl) (p : Packet) :
    (entries acls).findSome? (entryLooselyDecides p) =
      (entries (acls.filter (·.packetDirection = p.direction))).findSome? (entryLooselyDecides p) := by
  induction acls with
  | nil => rfl
  | cons acl acls ih =>
      have hcons (acls : List Acl) : entries (acl :: acls) = (acl.ace.map fun ace => (acl, ace)) ++ entries acls :=
        List.flatMap_cons
      by_cases h : acl.packetDirection = p.direction
      · rw [List.filter_cons, if_pos (decide_eq_true h), hcons, hcons, List.findSome?_append,
          List.findSome?_append, ih]
      · have hsilent : (acl.ace.map fun ace => (acl, ace)).findSome? (entryLooselyDecides p) = none := by
          rw [List.findSome?_eq_none_iff]
          intro e he
          obtain ⟨ace, -, rfl⟩ := List.mem_map.mp he
          unfold entryLooselyDecides
          rw [decide_eq_false h, Bool.false_and]
          rfl
        rw [List.filter_cons, if_neg (by simpa using h), hcons, List.findSome?_append, hsilent, Option.none_or, ih]

theorem verdictWith_eq (inner : Device) (room : Option Room) (mudData : MudData) (acllist override : List Acl)
    (p : Packet) : verdictWith inner room mudData acllist override p =
      some ((((entries ((mergeAcls acllist override).filter (·.packetDirection = p.direction))).findSome?
        (entryLooselyDecides p)).map compileAction).getD .reject) := by
  rw [← entries_findSome?_filter]
  exact compileRules_verdict _ p

/-- An override that takes away only ACLs of its own names and directions changes nothing in a direction that it
    does not have. -/
theorem verdictWith_other {acllist override : List Acl}
    (hoverridden : ∀ acl ∈ acllist, acl ∉ mergeAcls acllist override →
      ∃ o ∈ override, o.name = acl.name ∧ o.packetDirection = acl.packetDirection)
    {dir : AclDirection} (hdir : ∀ o ∈ override, o.packetDirection = dir) (inner : Device) (room : Option Room)
    (mudData : MudData) {p : Packet} (hp : p.direction ≠ dir) :
    verdictWith inner room mudData acllist override p = verdictWith inner room mudData acllist [] p := by
  have hnone : ∀ o ∈ override, decide (o.packetDirection = p.direction) = false := fun o ho =>
    decide_eq_false fun h => hp (h.symm.trans (hdir o ho))
  have hkept : ∀ acl ∈ acllist, decide (acl.packetDirection = p.direction) = true →
      acl.name ∉ override.map Acl.name := by
    intro acl hacl hdirection hname
    have hacldir : acl.packetDirection ≠ dir := fun h => hp ((of_decide_eq_true hdirection).symm.trans h)
    -- it is not in the merge, neither as one of the originals nor as an override
    have hgone : acl ∉ mergeAcls acllist override := by
      rw [mergeAcls_eq, mem_mergeBy]
      rintro (⟨-, hfree⟩ | hover)
      · exact hfree hname
      · exact hacldir (hdir acl hover)
    obtain ⟨o, ho, -, hsame⟩ := hoverridden acl hacl hgone
    exact hacldir (hsame.symm.trans (hdir o ho))
  rw [verdictWith_eq, verdictWith_eq, mergeAcls_eq, mergeAcls_eq, mergeBy_nil,
    filter_mergeBy_of_none hnone hkept]

/-- The ACLs that the two policies parse to are those of the file's references, one for each. -/
theorem parsed_references {mudJson : MudJson} {fromDevice acllist : List Acl}
    (hfrom : Parser.parseDevicePolicy mudJson.mud.fromDevicePolicy mudJson [] .fromDevice = .ok fromDevice)
    (hto : Parser.parseDevicePolicy mudJson.mud.toDevicePolicy mudJson fromDevice .toDevice = .ok acllist) :
    List.Forall₂ (Acl.Mirrors mudJson) mudJson.references acllist := by
  have hparse : mudJson.references.mapM (parseReference mudJson) = .ok acllist := by
    rw [Parser.parseDevicePolicy_eq] at hfrom hto
    unfold MudController.parseDevicePolicy at hfrom hto
    unfold MudJson.references
    rw [List.mapM_append, List.mapM_map, List.mapM_map]
    show (List.mapM (parseAccessList mudJson .fromDevice) _ >>= fun _ => _) = _
    cases hfirst : mudJson.mud.fromDevicePolicy.accessLists.accessList.mapM
        (parseAccessList mudJson .fromDevice) with
    | error e => rw [hfirst] at hfrom; cases hfrom
    | ok acls =>
        rw [hfirst] at hfrom
        cases hfrom
        exact hto
  exact (mapM_ok_iff.mp hparse).imp fun _ _ => parseReference_mirrors

/-- **An override leaves the other direction alone** exactly if it overrides in its own direction every name of a
    policy that it overrides at all. -/
theorem override_direction_iff (mudJson : MudJson) (fromDevice acllist : List Acl)
    (hfrom : Parser.parseDevicePolicy mudJson.mud.fromDevicePolicy mudJson [] .fromDevice = .ok fromDevice)
    (hto : Parser.parseDevicePolicy mudJson.mud.toDevicePolicy mudJson fromDevice .toDevice = .ok acllist)
    (override : List Acl) : LeavesOtherDirection acllist override ↔ OverriddenAlike mudJson override := by
  have hparsed := parsed_references hfrom hto
  constructor
  · intro h ref href hname
    obtain ⟨acl, hacl, hmirrors⟩ := exists_right_of_mem hparsed href
    by_cases hmem : acl ∈ mergeAcls acllist override
    · -- still there under an overridden name: it is one of the overrides
      rw [mergeAcls_eq, mem_mergeBy] at hmem
      have hover : acl ∈ override := hmem.resolve_left fun hfree =>
        hfree.2 (hmirrors.name ▸ List.mem_map.mpr hname)
      exact ⟨acl, hover, hmirrors.name, hmirrors.packetDirection⟩
    · obtain ⟨o, ho, hoName, hoDir⟩ := h.overridden acl hacl hmem
      exact ⟨o, ho, hoName.trans hmirrors.name, hoDir.trans hmirrors.packetDirection⟩
  · intro h
    have hoverridden : ∀ acl ∈ acllist, acl ∉ mergeAcls acllist override →
        ∃ o ∈ override, o.name = acl.name ∧ o.packetDirection = acl.packetDirection := by
      intro acl hacl hgone
      obtain ⟨ref, href, hmirrors⟩ := exists_left_of_mem hparsed hacl
      rw [hmirrors.name, hmirrors.packetDirection]
      refine h ref href (List.mem_map.mp ?_)
      rw [mergeAcls_eq, mem_mergeBy] at hgone
      by_contra hfree
      exact hgone (.inl ⟨hacl, hmirrors.name ▸ hfree⟩)
    exact ⟨hoverridden, fun dir hdir inner room mudData p => verdictWith_other hoverridden hdir inner room mudData⟩

end

section

attribute [local instance] Reference.platform

/-- The clauses of an ACE for `cloud.example`, on either side. -/
def cloudMatches : MudJson.Matches where
  ipv4 := some { srcDnsname := some "cloud.example", dstDnsname := some "cloud.example" }

/-- What they are parsed to. -/
def cloudAce : Ace := ⟨"ace", .accept, { dnsname := some "cloud.example" }⟩

/-- An override of the file's ACL for one direction. -/
def denyAcl (dir : AclDirection) : Acl := ⟨"acl", dir, .ipv4, [Reference.hostAce .deny "cloud.example"]⟩

/-- A packet that `cloud.example` sends to the device. -/
def cloudPacket : Packet := { Packet.toHost (.named "cloud.example") 6 none with direction := .toDevice }

/-- Overridden in both directions, the file's ACL is overridden alike. -/
theorem override_direction_both :
    LeavesOtherDirection [⟨"acl", .fromDevice, .ipv4, [cloudAce]⟩, ⟨"acl", .toDevice, .ipv4, [cloudAce]⟩]
      [denyAcl .fromDevice, denyAcl .toDevice] := by
  refine (override_direction_iff (Reference.oneAceFile cloudMatches) [⟨"acl", .fromDevice, .ipv4, [cloudAce]⟩]
    _ rfl rfl _).mpr ?_
  intro ref href _
  have hrefs : ref = (.fromDevice, "acl") ∨ ref = (.toDevice, "acl") := by
    simpa [MudJson.references, Reference.oneAceFile] using href
  rcases hrefs with rfl | rfl
  · exact ⟨denyAcl .fromDevice, by simp, rfl, rfl⟩
  · exact ⟨denyAcl .toDevice, by simp, rfl, rfl⟩

/-- An override of the file's from-device ACL takes its to-device ACL away, and with it what that accepted. -/
theorem override_other_direction :
    Parser.parseDevicePolicy (Reference.oneAceFile cloudMatches).mud.fromDevicePolicy
      (Reference.oneAceFile cloudMatches) [] .fromDevice = .ok [⟨"acl", .fromDevice, .ipv4, [cloudAce]⟩] ∧
    Parser.parseDevicePolicy (Reference.oneAceFile cloudMatches).mud.toDevicePolicy
      (Reference.oneAceFile cloudMatches) [⟨"acl", .fromDevice, .ipv4, [cloudAce]⟩] .toDevice =
      .ok [⟨"acl", .fromDevice, .ipv4, [cloudAce]⟩, ⟨"acl", .toDevice, .ipv4, [cloudAce]⟩] ∧
    verdictWith Reference.device none (Reference.profile [] [])
      [⟨"acl", .fromDevice, .ipv4, [cloudAce]⟩, ⟨"acl", .toDevice, .ipv4, [cloudAce]⟩] [] cloudPacket =
      some .accept ∧
    verdictWith Reference.device none (Reference.profile [] [])
      [⟨"acl", .fromDevice, .ipv4, [cloudAce]⟩, ⟨"acl", .toDevice, .ipv4, [cloudAce]⟩]
      [denyAcl .fromDevice] cloudPacket = some .reject ∧
    ¬ LeavesOtherDirection [⟨"acl", .fromDevice, .ipv4, [cloudAce]⟩, ⟨"acl", .toDevice, .ipv4, [cloudAce]⟩]
      [denyAcl .fromDevice] := by
  refine ⟨rfl, rfl, by decide, by decide, fun h => ?_⟩
  obtain ⟨o, ho, -, hdir⟩ := h.overridden ⟨"acl", .toDevice, .ipv4, [cloudAce]⟩ (by simp) (by decide)
  rw [List.mem_singleton.mp ho] at hdir
  cases hdir

end

end MudController
