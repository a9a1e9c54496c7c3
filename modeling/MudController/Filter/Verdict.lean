import MudController.Filter.Compile
import MudController.Reference

/-!
# `Filter.Verdict` — compiled verdicts against profile verdicts

Three comparisons of `convert_device_to_fw_rules` with the profile it was given: an accept rule stays
within an accept entry, a deny entry keeps its precedence, and on profiles whose clauses the rules can
express the two verdicts are equal. The first two hold up to what the compiler leaves out by design: ports,
address masks and initiation have no place in a rule, a protocol number becomes `All`, and an entry
without a DNS name has no rule.
-/

namespace MudController

open Logic

section

variable [Platform]

/-! ## Entries whose clauses are all kept -/

omit [Platform] in
/-- A compiled protocol that is not a number means the same. -/
theorem compileProtocol_appliesTo {m : AceMatches} {p : Packet}
    (h : ∀ num, m.protocol ≠ some (.protocol num)) :
    (compileProtocol m.protocol).appliesTo p = m.protocol.all (AceProtocol.admits p) := by
  cases hp : m.protocol with
  | none => rfl
  | some protocol =>
      cases protocol with
      | tcp => rfl
      | udp => rfl
      | protocol num => exact absurd hp (h num)

/-- Where every clause is expressible, nothing is left out. -/
theorem AceMatches.Expressible.satisfiedBy_eq {m : AceMatches} (h : m.Expressible) (p : Packet) :
    m.satisfiedBy p = m.looselySatisfiedBy p := by
  obtain ⟨name, hname⟩ := Option.isSome_iff_exists.mp h.dnsname
  unfold AceMatches.satisfiedBy AceMatches.looselySatisfiedBy
  rw [compileProtocol_appliesTo h.protocol, h.sourcePort, h.destinationPort, h.addressMask,
    h.directionInitiated, hname]
  simp

/-- A packet that satisfies an entry with a DNS name satisfies it loosely. -/
theorem AceMatches.looselySatisfiedBy_of_satisfiedBy {m : AceMatches} {p : Packet}
    (hname : m.dnsname.isSome) (h : m.satisfiedBy p = true) : m.looselySatisfiedBy p = true := by
  obtain ⟨name, hname⟩ := Option.isSome_iff_exists.mp hname
  unfold AceMatches.satisfiedBy at h
  unfold AceMatches.looselySatisfiedBy
  simp only [hname, Option.all_some, Option.any_some, Bool.and_eq_true] at h ⊢
  refine ⟨h.1.1.1.1.1, ?_⟩
  have hprotocol := h.1.1.1.1.2
  cases hp : m.protocol with
  | none => rfl
  | some protocol =>
      rw [hp] at hprotocol
      cases protocol with
      | tcp => exact hprotocol
      | udp => exact hprotocol
      | protocol num => rfl

theorem entryDecides_eq_of_expressible {e : Acl × Ace} (h : e.2.aceMatches.Expressible) (p : Packet) :
    entryDecides p e = entryLooselyDecides p e := by
  unfold entryDecides entryLooselyDecides
  rw [h.satisfiedBy_eq p]

/-! ## Accept rules -/

/-- The DNS name, protocol and port clauses hold of a packet. -/
def AceMatches.clausesHold (m : AceMatches) (p : Packet) : Prop :=
  m.dnsname.all p.remote.goesBy ∧ m.protocol.all (AceProtocol.admits p) ∧
    m.sourcePort.all (AcePort.admits p.sourcePort) ∧
    m.destinationPort.all (AcePort.admits p.destinationPort)

instance (m : AceMatches) (p : Packet) : Decidable (m.clausesHold p) := inferInstanceAs (Decidable (_ ∧ _))

/-- Every accept rule of a device stays within the clauses of one accept entry of its profile. -/
def AcceptRulesWithinClauses (device : DeviceWithRefs) (mudData : MudData) : Prop :=
  ∀ rule ∈ (convertDeviceToFwRules device).rules, rule.verdict = .accept →
    ∃ acl ∈ mergeAcls mudData.acllist mudData.aclOverride, ∃ ace ∈ acl.ace, ace.action = .accept ∧
      ∀ p : Packet, rule.appliesTo p →
        p.direction = acl.packetDirection ∧ ace.aceMatches.clausesHold p

end

section

attribute [local instance] Reference.platform

/-- A profile of one ACL of one entry, for packets to `cloud.example`. -/
def cloudProfile (ace : Ace) : MudData := Reference.profile [⟨"from", .fromDevice, .ipv4, [ace]⟩] []

/-- An entry that accepts a protocol by its number. -/
def icmpAce : Ace := ⟨"icmp", .accept, { dnsname := some "cloud.example", protocol := some (.protocol 1) }⟩

/-- An entry that accepts one destination port. -/
def httpsAce : Ace :=
  ⟨"https", .accept,
    { dnsname := some "cloud.example", protocol := some .tcp, destinationPort := some (.single 443) }⟩

/-- The only candidate entry of such a profile is the one it was made of. -/
theorem not_acceptRulesWithinClauses {ace : Ace} {p : Packet} (haccept : ace.action = .accept)
    (hname : ace.aceMatches.dnsname = some "cloud.example")
    (hrule : (compileRule ⟨"from", .fromDevice, .ipv4, [ace]⟩ ace 0 "cloud.example").appliesTo p)
    (hclauses : ¬ ace.aceMatches.clausesHold p) :
    ¬ AcceptRulesWithinClauses ⟨Reference.device, none, some (cloudProfile ace)⟩ (cloudProfile ace) := by
  intro h
  have hmem : compileRule ⟨"from", .fromDevice, .ipv4, [ace]⟩ ace 0 "cloud.example" ∈
      (convertDeviceToFwRules ⟨Reference.device, none, some (cloudProfile ace)⟩).rules := by
    simp [convertDeviceToFwRules, compileRules, mergedAcls, cloudProfile, Reference.profile, pushAcl,
      pushAce, hname]
  obtain ⟨acl, hacl, ace', hace, _, hall⟩ := h _ hmem (by simp [compileRule, compileAction, haccept])
  have hacl' : acl = ⟨"from", .fromDevice, .ipv4, [ace]⟩ := List.mem_singleton.mp hacl
  subst hacl'
  have hace' : ace' = ace := List.mem_singleton.mp hace
  subst hace'
  exact hclauses (hall p hrule).2

end

/-! ## Deny entries -/

section

variable [Platform]

/-- A packet whose first satisfied entry denies is rejected by the rules. -/
def DenyDecides (device : DeviceWithRefs) (mudData : MudData) (p : Packet) : Prop :=
  profileAction (mergeAcls mudData.acllist mudData.aclOverride) p = some .deny →
    rulesVerdict (convertDeviceToFwRules device).rules p = some .reject

/-- The rules reject a packet unless the first entry that it loosely satisfies accepts. -/
theorem rules_reject_iff (inner : Device) (room : Option Room) (mudData : MudData) (p : Packet) :
    rulesVerdict (convertDeviceToFwRules ⟨inner, room, some mudData⟩).rules p = some .reject ↔
      looseAction mudData p ≠ some .accept := by
  have hverdict : rulesVerdict (convertDeviceToFwRules ⟨inner, room, some mudData⟩).rules p =
      some (((looseAction mudData p).map compileAction).getD .reject) := compileRules_verdict mudData p
  rw [hverdict]
  cases looseAction mudData p with
  | none => simp
  | some action => cases action <;> simp [compileAction]

/-- A deny entry that a packet satisfies has a rule that applies, if it has a DNS name. -/
theorem entryLooselyDecides_deny {e : Acl × Ace} {p : Packet}
    (hname : e.2.action = .deny → e.2.aceMatches.dnsname.isSome) (h : entryDecides p e = some .deny) :
    entryLooselyDecides p e = some .deny := by
  unfold entryDecides at h
  unfold entryLooselyDecides
  split at h
  · next hsat =>
      simp only [Bool.and_eq_true, decide_eq_true_eq] at hsat
      have haction : e.2.action = .deny := Option.some.inj h
      rw [if_pos, haction]
      simp only [Bool.and_eq_true, decide_eq_true_eq]
      exact ⟨hsat.1, AceMatches.looselySatisfiedBy_of_satisfiedBy (hname haction) hsat.2⟩
  · cases h

/-- An accept entry whose rule applies is satisfied, if its clauses are expressible: an entry that is silent
    can only come to deny. -/
theorem entryLooselyDecides_silent {e : Acl × Ace} {p : Packet}
    (hexpr : e.2.action = .accept → e.2.aceMatches.dnsname.isSome → e.2.aceMatches.Expressible)
    (h : entryDecides p e = none) :
    entryLooselyDecides p e = none ∨ entryLooselyDecides p e = some .deny := by
  cases haction : e.2.action with
  | deny =>
      unfold entryLooselyDecides
      rw [haction]
      split
      · exact .inr rfl
      · exact .inl rfl
  | accept =>
      left
      by_cases hname : e.2.aceMatches.dnsname.isSome
      · rw [← entryDecides_eq_of_expressible (hexpr haction hname)]
        exact h
      · -- without a DNS name there is no rule
        have hnone : e.2.aceMatches.dnsname = none := by simpa using hname
        simp [entryLooselyDecides, AceMatches.looselySatisfiedBy, hnone]

/-- **When a deny entry decides.** Of a packet whose first satisfied entry denies, the rules reject exactly
    if the first entry it satisfies *loosely* does not accept. That is so in particular where every deny
    entry has a DNS name and every accept entry with a DNS name has only expressible clauses. -/
theorem deny_precedence (inner : Device) (room : Option Room) (mudData : MudData) (p : Packet)
    (hdeny : profileAction (mergeAcls mudData.acllist mudData.aclOverride) p = some .deny) :
    (rulesVerdict (convertDeviceToFwRules ⟨inner, room, some mudData⟩).rules p = some .reject ↔
      looseAction mudData p ≠ some .accept) ∧
    ((∀ acl ∈ mergeAcls mudData.acllist mudData.aclOverride, ∀ ace ∈ acl.ace,
        (ace.action = .deny → ace.aceMatches.dnsname.isSome) ∧
        (ace.action = .accept → ace.aceMatches.dnsname.isSome → ace.aceMatches.Expressible)) →
      rulesVerdict (convertDeviceToFwRules ⟨inner, room, some mudData⟩).rules p = some .reject) := by
  have hiff := rules_reject_iff inner room mudData p
  refine ⟨hiff, ?_⟩
  intro hclauses
  have hloose : looseAction mudData p = some .deny := by
    refine findSome?_of_widened ?_ ?_ hdeny
    · intro e he h
      obtain ⟨hacl, hace⟩ := mem_entries.mp he
      exact entryLooselyDecides_deny (hclauses e.1 hacl e.2 hace).1 h
    · intro e he h
      obtain ⟨hacl, hace⟩ := mem_entries.mp he
      exact entryLooselyDecides_silent (hclauses e.1 hacl e.2 hace).2 h
  rw [hiff, hloose]
  simp

end

section

attribute [local instance] Reference.platform

/-- A profile that denies all TCP traffic and then accepts one host. -/
def denyTcpProfile : MudData :=
  Reference.profile
    [⟨"from", .fromDevice, .ipv4,
      [⟨"no-tcp", .deny, { protocol := some .tcp }⟩, Reference.hostAce .accept "cloud.example"]⟩] []

/-- A profile that accepts one port of a host and denies the others. -/
def onePortProfile : MudData :=
  Reference.profile
    [⟨"from", .fromDevice, .ipv4, [httpsAce, Reference.hostAce .deny "cloud.example"]⟩] []

/-- A deny entry without a DNS name has no rule, so that an accept entry behind it decides; and the rule of
    an accept entry with a port decides of the other ports before the deny entry behind it. -/
theorem denyDecides_fails :
    ¬ DenyDecides ⟨Reference.device, none, some denyTcpProfile⟩ denyTcpProfile
      (Packet.toHost (.named "cloud.example") 6 none) ∧
    ¬ DenyDecides ⟨Reference.device, none, some onePortProfile⟩ onePortProfile
      (Packet.toHost (.named "cloud.example") 6 (some 80)) :=
  ⟨fun h => absurd (h (by decide)) (by decide), fun h => absurd (h (by decide)) (by decide)⟩

/-- A profile that denies one host and then accepts it. -/
def denyHostProfile : MudData :=
  Reference.profile
    [⟨"from", .fromDevice, .ipv4,
      [Reference.hostAce .deny "cloud.example", Reference.hostAce .accept "cloud.example"]⟩] []

theorem deny_precedence_host :
    looseAction denyHostProfile (Packet.toHost (.named "cloud.example") 6 none) ≠ some .accept :=
  (deny_precedence Reference.device none denyHostProfile (Packet.toHost (.named "cloud.example") 6 none)
    (by decide)).1.mp (by decide)

end

/-! ## Expressible profiles -/

section

variable [Platform]

/-- Where every clause is expressible, loosely satisfied entries are satisfied. -/
theorem looseAction_of_expressible {mudData : MudData}
    (hexpr : ∀ acl ∈ mergeAcls mudData.acllist mudData.aclOverride, ∀ ace ∈ acl.ace,
      ace.aceMatches.Expressible) (p : Packet) :
    looseAction mudData p = profileAction (mergeAcls mudData.acllist mudData.aclOverride) p := by
  refine (findSome?_agree fun e he => ?_).symm
  obtain ⟨hacl, hace⟩ := mem_entries.mp he
  exact entryDecides_eq_of_expressible (hexpr e.1 hacl e.2 hace) p

/-- **Exactness.** On a profile whose clauses are all expressible, the rules give every packet the verdict
    of the profile read in order with default deny, with and without overrides. -/
theorem compile_exact (inner : Device) (room : Option Room) (mudData : MudData)
    (hexpr : ∀ acl ∈ mergeAcls mudData.acllist mudData.aclOverride, ∀ ace ∈ acl.ace,
      ace.aceMatches.Expressible) (p : Packet) :
    rulesVerdict (convertDeviceToFwRules ⟨inner, room, some mudData⟩).rules p =
      some (profileVerdict (mergeAcls mudData.acllist mudData.aclOverride) p) := by
  rw [profileVerdict, ← looseAction_of_expressible hexpr]
  exact compileRules_verdict mudData p

end

section

attribute [local instance] Reference.platform

theorem hostAce_expressible (action : AceAction) (name : String) :
    (Reference.hostAce action name).aceMatches.Expressible :=
  ⟨rfl, nofun, rfl, rfl, rfl, rfl⟩

/-- A profile whose only ACL is overridden. -/
def overriddenProfile : MudData :=
  Reference.profile
    [⟨"from", .fromDevice, .ipv4, [Reference.hostAce .accept "cloud.example"]⟩]
    [⟨"from", .fromDevice, .ipv4,
      [Reference.hostAce .deny "cloud.example", Reference.hostAce .accept "mirror.example"]⟩]

theorem compile_exact_overridden :
    rulesVerdict (convertDeviceToFwRules ⟨Reference.device, none, some overriddenProfile⟩).rules
      (Packet.toHost (.named "mirror.example") 6 none) = some .accept := by
  have hexpr : ∀ acl ∈ mergeAcls overriddenProfile.acllist overriddenProfile.aclOverride,
      ∀ ace ∈ acl.ace, ace.aceMatches.Expressible := by
    intro acl hacl ace hace
    have hacl' : acl = ⟨"from", .fromDevice, .ipv4,
        [Reference.hostAce .deny "cloud.example", Reference.hostAce .accept "mirror.example"]⟩ :=
      List.mem_singleton.mp hacl
    subst hacl'
    rcases List.mem_cons.mp hace with rfl | hace
    · exact hostAce_expressible _ _
    · rw [List.mem_singleton.mp hace]
      exact hostAce_expressible _ _
  rw [compile_exact Reference.device none overriddenProfile hexpr]
  decide

end

end MudController
