import MudController.Filter.Compile
import MudController.Logic.Fallible
import Mathlib.Data.List.Nodup

/-!
# `Filter.Shape` — the rule list of a device

The rules of a device with MUD data are, in order, one for each ACE with a DNS name, named after the position of
the ACE among all ACEs, and then the two that reject everything (`rules_shape`). No two rules have one name.
-/

namespace MudController

open Logic

variable [Platform]

/-- A host is what a DNS name stands for: an address if it reads as one, else a host name. -/
def StandsFor (dnsName : String) (host : RuleTargetHost) : Prop :=
  match IpAddr.parse dnsName with
  | some addr => host = .ip addr
  | none => host = .hostname dnsName

/-- A rule is that of a numbered ACE: it lets through or rejects what goes from the device to the ACE's host, or
    from that host to the device, as the direction of the ACL says. -/
structure RuleOfAce (e : (Acl × Ace) × Nat) (rule : FirewallRule) : Prop where
  ruleName : rule.ruleName = "rule_" ++ toString e.2
  sides : ∃ dnsName host, e.1.2.aceMatches.dnsname = some dnsName ∧ StandsFor dnsName host ∧
    (e.1.1.packetDirection = .fromDevice →
      rule.src = ⟨some .firewallDevice, none⟩ ∧ rule.dst = ⟨some host, none⟩) ∧
    (e.1.1.packetDirection = .toDevice →
      rule.src = ⟨some host, none⟩ ∧ rule.dst = ⟨some .firewallDevice, none⟩)
  protocol : rule.protocol = compileProtocol e.1.2.aceMatches.protocol
  verdict : rule.verdict = compileAction e.1.2.action

/-- The ACEs of a profile that have a DNS name, each with its number among all ACEs. -/
def namedAces (mudData : MudData) : List ((Acl × Ace) × Nat) :=
  (profileEntries mudData).zipIdx.filter fun e => e.1.2.aceMatches.dnsname.isSome

/-- The rules of a device with MUD data. -/
structure RulesShape (mudData : MudData) (rules : List FirewallRule) : Prop where
  shape : ∃ aceRules, List.Forall₂ RuleOfAce (namedAces mudData) aceRules ∧
    rules = aceRules ++
      [⟨"rule_default_" ++ toString (profileEntries mudData).length,
          ⟨some .firewallDevice, none⟩, ⟨none, none⟩, .all, .reject⟩,
       ⟨"rule_default_" ++ toString ((profileEntries mudData).length + 1),
          ⟨none, none⟩, ⟨some .firewallDevice, none⟩, .all, .reject⟩] ∧
    -- default deny, in both directions
    ∀ p : Packet, (∀ rule ∈ aceRules, rule.appliesTo p = false) → rulesVerdict rules p = some .reject
  names : (rules.map (·.ruleName)).Nodup

theorem standsFor_compileHost (dnsName : String) : StandsFor dnsName (compileHost dnsName) := by
  unfold StandsFor compileHost
  cases IpAddr.parse dnsName <;> rfl

/-- The compiler's rule for an ACE is the rule of the ACE. -/
theorem entryRule_ruleOfAce {e : (Acl × Ace) × Nat} {rule : FirewallRule} (h : entryRule e = some rule) :
    RuleOfAce e rule := by
  obtain ⟨dnsName, hname, rfl⟩ := Option.map_eq_some_iff.mp h
  refine ⟨rfl, ⟨dnsName, compileHost dnsName, hname, standsFor_compileHost dnsName, ?_, ?_⟩, rfl, rfl⟩
  · intro hdir
    unfold compileRule
    rw [hdir]
    exact ⟨rfl, rfl⟩
  · intro hdir
    unfold compileRule
    rw [hdir]
    exact ⟨rfl, rfl⟩

theorem forall₂_aceRules (mudData : MudData) :
    List.Forall₂ RuleOfAce (namedAces mudData) ((profileEntries mudData).zipIdx.filterMap entryRule) := by
  refine forall₂_filterMap (fun e _ rule h => entryRule_ruleOfAce h) fun e => ?_
  unfold entryRule
  rw [Option.isSome_map]

/-! ## Names -/

/-- The names of the rules of ACEs are the numbers of the ACEs. -/
theorem map_ruleName {es : List ((Acl × Ace) × Nat)} {rules : List FirewallRule}
    (h : List.Forall₂ RuleOfAce es rules) :
    rules.map (·.ruleName) = (es.map (·.2)).map fun k => "rule_" ++ toString k := by
  induction h with
  | nil => rfl
  | cons hrule _ ih => rw [List.map_cons, List.map_cons, List.map_cons, ih, hrule.ruleName]

omit [Platform] in
theorem namedAces_numbers_nodup (mudData : MudData) : ((namedAces mudData).map (·.2)).Nodup := by
  have hsublist : ((namedAces mudData).map (·.2)).Sublist ((profileEntries mudData).zipIdx.map (·.2)) :=
    List.filter_sublist.map _
  rw [List.zipIdx_map_snd] at hsublist
  exact hsublist.nodup List.nodup_range'

omit [Platform] in
theorem prefix_injective (name : String) : Function.Injective fun k : Nat => name ++ toString k :=
  fun _ _ h => toString_nat_injective ((String.append_right_inj name).mp h)

omit [Platform] in
/-- No numbered rule has the name of a closing one. -/
theorem rule_ne_default (k n : Nat) : "rule_" ++ toString k ≠ "rule_default_" ++ toString n := by
  intro h
  have hlist := congrArg String.toList h
  have hrule : "rule_".toList = ['r', 'u', 'l', 'e', '_'] := by decide
  have hdefault : "rule_default_".toList = 'r' :: 'u' :: 'l' :: 'e' :: '_' :: 'd' :: "efault_".toList := by decide
  rw [String.toList_append, String.toList_append, hrule, hdefault] at hlist
  simp only [List.cons_append, List.nil_append, List.cons.injEq, true_and] at hlist
  exact absurd (isDigit_of_toString_eq_cons hlist) (by decide)

/-- **Shape and naming of the rule list.** -/
theorem rules_shape (inner : Device) (room : Option Room) (mudData : MudData) :
    RulesShape mudData (convertDeviceToFwRules ⟨inner, room, some mudData⟩).rules := by
  have hrules : (convertDeviceToFwRules ⟨inner, room, some mudData⟩).rules =
      (profileEntries mudData).zipIdx.filterMap entryRule ++ defaultRules (profileEntries mudData).length :=
    compileRules_eq mudData
  have haces := forall₂_aceRules mudData
  rw [hrules]
  constructor
  case shape =>
    refine ⟨_, haces, rfl, fun p hsilent => ?_⟩
    have hnone : ((profileEntries mudData).zipIdx.filterMap entryRule).findSome? (FirewallRule.decides p) = none :=
      List.findSome?_eq_none_iff.mpr fun rule hrule => if_neg (by rw [hsilent rule hrule]; exact Bool.false_ne_true)
    unfold rulesVerdict
    rw [List.findSome?_append, hnone, Option.none_or]
    exact defaultRules_verdict _ p
  case names =>
    rw [List.map_append, map_ruleName haces]
    refine List.nodup_append.mpr ⟨(List.nodup_map_iff (prefix_injective "rule_")).mpr (namedAces_numbers_nodup mudData), ?_, ?_⟩
    · have hne : "rule_default_" ++ toString (profileEntries mudData).length ≠
          "rule_default_" ++ toString ((profileEntries mudData).length + 1) :=
        fun h => absurd (prefix_injective "rule_default_" h) (Nat.ne_of_lt (Nat.lt_succ_self _))
      exact List.nodup_cons.mpr ⟨fun h => hne (List.mem_singleton.mp h), List.pairwise_singleton _ _⟩
    · intro name hname other hother
      obtain ⟨k, -, rfl⟩ := List.mem_map.mp hname
      rcases List.mem_cons.mp hother with rfl | hother
      · exact rule_ne_default k _
      · rw [List.mem_singleton.mp hother]
        exact rule_ne_default k _

end MudController
