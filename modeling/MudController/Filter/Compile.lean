import MudController.Filter.Packet

/-!
# `Filter.Compile` — what the compiled rules mean

The two nested loops of `convert_device_to_fw_rules` push one rule for each entry with a DNS name, numbered
by its position, and two closing rules. `compileRules_eq` says so without the accumulator; after it the
rule list is compared with the profile entry by entry, through `Logic.FirstMatch`.
-/

namespace MudController

open Logic

variable [Platform]

/-! ## The loops -/

/-- The rule of an entry at its position, if it has a DNS name. -/
def entryRule (e : (Acl × Ace) × Nat) : Option FirewallRule :=
  e.1.2.aceMatches.dnsname.map (compileRule e.1.1 e.1.2 e.2)

/-- The loops as one loop over the entries. -/
def pushEntry (st : Nat × List FirewallRule) (e : Acl × Ace) : Nat × List FirewallRule :=
  pushAce e.1 st e.2

theorem foldl_pushAcl (acls : List Acl) (st : Nat × List FirewallRule) :
    acls.foldl pushAcl st = (entries acls).foldl pushEntry st := by
  induction acls generalizing st with
  | nil => rfl
  | cons acl acls ih =>
      have hacl : (acl.ace.map fun ace => (acl, ace)).foldl pushEntry st = pushAcl st acl := by
        rw [List.foldl_map]
        rfl
      rw [List.foldl_cons, ih]
      simp only [entries, List.flatMap_cons, List.foldl_append]
      rw [hacl]

theorem foldl_pushEntry (es : List (Acl × Ace)) (st : Nat × List FirewallRule) :
    es.foldl pushEntry st = (st.1 + es.length, st.2 ++ (es.zipIdx st.1).filterMap entryRule) := by
  induction es generalizing st with
  | nil => simp
  | cons e es ih =>
      rw [List.foldl_cons, ih, List.zipIdx_cons, List.filterMap_cons]
      cases hname : e.2.aceMatches.dnsname with
      | none =>
          have hrule : entryRule (e, st.1) = none := by simp [entryRule, hname]
          simp only [pushEntry, pushAce, hname, hrule, List.length_cons, Nat.add_assoc, Nat.add_comm 1]
      | some name =>
          have hrule : entryRule (e, st.1) = some (compileRule e.1 e.2 st.1 name) := by
            simp [entryRule, hname]
          simp only [pushEntry, pushAce, hname, hrule, List.length_cons, Nat.add_assoc, Nat.add_comm 1,
            List.append_assoc, List.cons_append, List.nil_append]

omit [Platform] in
/-- Without an override, the fast path compiles what the merge would yield. -/
theorem mergedAcls_eq (mudData : MudData) :
    mergedAcls mudData = mergeAcls mudData.acllist mudData.aclOverride := by
  unfold mergedAcls
  cases h : mudData.aclOverride with
  | nil => simp [mergeAcls]
  | cons acl acls => simp

/-- The entries that a profile's rules are compiled from. -/
def profileEntries (mudData : MudData) : List (Acl × Ace) :=
  entries (mergeAcls mudData.acllist mudData.aclOverride)

/-- **The rule list, without the loops.** -/
theorem compileRules_eq (mudData : MudData) :
    compileRules mudData =
      ((profileEntries mudData).zipIdx 0).filterMap entryRule ++
        defaultRules (profileEntries mudData).length := by
  simp only [compileRules, foldl_pushAcl, foldl_pushEntry, mergedAcls_eq, profileEntries, List.nil_append,
    Nat.zero_add]

omit [Platform] in
theorem mem_entries {acls : List Acl} {e : Acl × Ace} :
    e ∈ entries acls ↔ e.1 ∈ acls ∧ e.2 ∈ e.1.ace := by
  simp only [entries, List.mem_flatMap, List.mem_map]
  constructor
  · rintro ⟨acl, hacl, ace, hace, rfl⟩
    exact ⟨hacl, hace⟩
  · rintro ⟨hacl, hace⟩
    exact ⟨e.1, hacl, e.2, hace, rfl⟩

/-- A rule is the rule of an entry, or a closing rule. -/
theorem mem_compileRules {mudData : MudData} {rule : FirewallRule} (h : rule ∈ compileRules mudData) :
    (∃ e ∈ profileEntries mudData, ∃ index name, e.2.aceMatches.dnsname = some name ∧
      rule = compileRule e.1 e.2 index name) ∨
    rule ∈ defaultRules (profileEntries mudData).length := by
  rw [compileRules_eq, List.mem_append, List.mem_filterMap] at h
  rcases h with ⟨⟨e, index⟩, he, hrule⟩ | hdefault
  · have hmem : e ∈ profileEntries mudData := by
      have := List.fst_mem_of_mem_zipIdx he
      exact this
    obtain ⟨name, hname, rfl⟩ := Option.map_eq_some_iff.mp hrule
    exact .inl ⟨e, hmem, index, name, hname, rfl⟩
  · exact .inr hdefault

/-! ## What one rule applies to -/

/-- What the compiler keeps of an entry's clauses: the DNS name, without which there is no rule, and the
    protocol, a number standing for every protocol. -/
def AceMatches.looselySatisfiedBy (m : AceMatches) (p : Packet) : Bool :=
  m.dnsname.any p.remote.goesBy && (compileProtocol m.protocol).appliesTo p

/-- What an entry decides by the clauses that the compiler keeps. -/
def entryLooselyDecides (p : Packet) (e : Acl × Ace) : Option AceAction :=
  if e.1.packetDirection = p.direction && e.2.aceMatches.looselySatisfiedBy p then some e.2.action
  else none

/-- The action of the first entry that a packet loosely satisfies. -/
def looseAction (mudData : MudData) (p : Packet) : Option AceAction :=
  (profileEntries mudData).findSome? (entryLooselyDecides p)

/-- The rule of an entry applies to the packets of the ACL's direction whose remote host goes by the DNS
    name and whose protocol the compiled one covers. -/
theorem compileRule_appliesTo (acl : Acl) (ace : Ace) (index : Nat) (name : String) (p : Packet) :
    (compileRule acl ace index name).appliesTo p =
      (decide (acl.packetDirection = p.direction) && p.remote.goesBy name &&
        (compileProtocol ace.aceMatches.protocol).appliesTo p) := by
  have hdevice (host : RemoteHost) : RuleTargetHost.firewallDevice.appliesTo (.remote host) = false := rfl
  have hself : RuleTargetHost.firewallDevice.appliesTo .device = true := rfl
  have hremote : (compileHost name).appliesTo .device = false := by
    unfold compileHost
    cases IpAddr.parse name <;> rfl
  unfold FirewallRule.appliesTo compileRule RuleTarget.appliesTo Packet.source Packet.destination
    RemoteHost.goesBy
  cases acl.packetDirection <;> cases p.direction <;>
    simp [hdevice, hself, hremote, Bool.and_comm]

omit [Platform] in
/-- One of the closing rules applies to every packet, and both reject. -/
theorem defaultRules_verdict (index : Nat) (p : Packet) :
    rulesVerdict (defaultRules index) p = some .reject := by
  have hall : Protocol.all.appliesTo p = true := rfl
  unfold rulesVerdict defaultRules FirewallRule.decides FirewallRule.appliesTo RuleTarget.appliesTo
    Packet.source Packet.destination
  cases p.direction <;> simp [hall, RuleTargetHost.appliesTo]

omit [Platform] in
theorem defaultRules_reject {index : Nat} {rule : FirewallRule} (h : rule ∈ defaultRules index) :
    rule.verdict = .reject := by
  simp only [defaultRules, List.mem_cons, List.not_mem_nil, or_false] at h
  rcases h with rfl | rfl <;> rfl

/-- What the rule of an entry decides is what the entry loosely decides. -/
theorem entryRule_decides (p : Packet) (e : Acl × Ace) (index : Nat) :
    (entryRule (e, index)).bind (FirewallRule.decides p) =
      (entryLooselyDecides p e).map compileAction := by
  unfold entryRule entryLooselyDecides AceMatches.looselySatisfiedBy
  cases e.2.aceMatches.dnsname with
  | none => simp
  | some name =>
      simp only [Option.map_some, Option.bind_some, Option.any_some, FirewallRule.decides,
        compileRule_appliesTo, Bool.and_assoc]
      split <;> rfl

/-- **The compiled verdict.** The rules of a profile decide as the first entry that the packet loosely
    satisfies, and reject without one. -/
theorem compileRules_verdict (mudData : MudData) (p : Packet) :
    rulesVerdict (compileRules mudData) p =
      some (((looseAction mudData p).map compileAction).getD .reject) := by
  have hentries : (((profileEntries mudData).zipIdx 0).filterMap entryRule).findSome?
      (FirewallRule.decides p) = (looseAction mudData p).map compileAction := by
    rw [findSome?_compile _ 0 (fun e _ index => entryRule_decides p e index), looseAction,
      List.map_findSome?]
    rfl
  have hdefault := defaultRules_verdict (profileEntries mudData).length p
  unfold rulesVerdict at hdefault ⊢
  rw [compileRules_eq, List.findSome?_append, hentries, hdefault]
  cases looseAction mudData p <;> rfl

end MudController
