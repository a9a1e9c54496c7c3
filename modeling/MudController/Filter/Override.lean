import MudController.Filter.Verdict

/-!
# `Filter.Override` — overrides against the vendor's profile

An override replaces the vendor's ACLs of its name; the vendor's other ACLs stay, and they stay ahead of all
overrides. So an override decides of the packets on which none of those speaks (`override_verdict`).
-/

namespace MudController

open Logic

section

variable [Platform]

omit [Platform] in
/-- The vendor's ACLs whose name no override has. -/
def remainingAcls (mudData : MudData) : List Acl :=
  mudData.acllist.filter fun acl => !(mudData.aclOverride.map (·.name)).contains acl.name

/-- Profiles that are read one behind the other. -/
theorem profileAction_append (a b : List Acl) (p : Packet) :
    profileAction (a ++ b) p = (profileAction a p).or (profileAction b p) := by
  unfold profileAction entries
  rw [List.flatMap_append, List.findSome?_append]

/-- The first override that a packet satisfies decides, whatever the vendor says. -/
def OverrideDecides (device : DeviceWithRefs) (mudData : MudData) (p : Packet) : Prop :=
  ∀ action, profileAction mudData.aclOverride p = some action →
    rulesVerdict (convertDeviceToFwRules device).rules p = some (compileAction action)

/-- **When an override decides.** On a profile whose clauses are all expressible, a packet that satisfies an
    override gets the action of the first entry that it satisfies of the vendor's remaining ACLs, and that of
    the first override if it satisfies none of them. -/
theorem override_verdict (inner : Device) (room : Option Room) (mudData : MudData)
    (hexpr : ∀ acl ∈ mudData.acllist ++ mudData.aclOverride, ∀ ace ∈ acl.ace, ace.aceMatches.Expressible)
    (p : Packet) (action : AceAction) (hoverride : profileAction mudData.aclOverride p = some action) :
    rulesVerdict (convertDeviceToFwRules ⟨inner, room, some mudData⟩).rules p =
      some (compileAction ((profileAction (remainingAcls mudData) p).getD action)) := by
  have hmerged : ∀ acl ∈ mergeAcls mudData.acllist mudData.aclOverride, ∀ ace ∈ acl.ace,
      ace.aceMatches.Expressible := by
    intro acl hacl
    refine hexpr acl ?_
    rcases List.mem_append.mp hacl with hacl | hacl
    · exact List.mem_append_left _ (List.mem_of_mem_filter hacl)
    · exact List.mem_append_right _ hacl
  have hsplit : mergeAcls mudData.acllist mudData.aclOverride =
      remainingAcls mudData ++ mudData.aclOverride := rfl
  have hverdict : rulesVerdict (convertDeviceToFwRules ⟨inner, room, some mudData⟩).rules p =
      some (((looseAction mudData p).map compileAction).getD .reject) := compileRules_verdict mudData p
  rw [hverdict, looseAction_of_expressible hmerged, hsplit, profileAction_append, hoverride]
  cases profileAction (remainingAcls mudData) p <;> rfl

end

section

attribute [local instance] Reference.platform

/-- The vendor accepts a host under one name, and the override denies it under this one. -/
def deniedAs (name : String) : MudData :=
  Reference.profile
    [⟨"from", .fromDevice, .ipv4, [Reference.hostAce .accept "cloud.example"]⟩]
    [⟨name, .fromDevice, .ipv4, [Reference.hostAce .deny "cloud.example"]⟩]

theorem deniedAs_expressible (name : String) :
    ∀ acl ∈ (deniedAs name).acllist ++ (deniedAs name).aclOverride, ∀ ace ∈ acl.ace,
      ace.aceMatches.Expressible := by
  intro acl hacl ace hace
  rcases List.mem_cons.mp hacl with rfl | hacl
  · rw [List.mem_singleton.mp hace]
    exact hostAce_expressible _ _
  · rw [List.mem_singleton.mp hacl] at hace
    rw [List.mem_singleton.mp hace]
    exact hostAce_expressible _ _

/-- Under another name than the vendor's, the override does not decide. -/
theorem override_behind_vendor :
    (∀ acl ∈ (deniedAs "mine").acllist ++ (deniedAs "mine").aclOverride, ∀ ace ∈ acl.ace,
      ace.aceMatches.Expressible) ∧
    ¬ OverrideDecides ⟨Reference.device, none, some (deniedAs "mine")⟩ (deniedAs "mine")
      (Packet.toHost (.named "cloud.example") 6 none) :=
  ⟨deniedAs_expressible "mine", fun h => absurd (h .deny (by decide)) (by decide)⟩

/-- Under the vendor's name, it does. -/
theorem override_verdict_replaced :
    rulesVerdict (convertDeviceToFwRules ⟨Reference.device, none, some (deniedAs "from")⟩).rules
      (Packet.toHost (.named "cloud.example") 6 none) = some .reject :=
  override_verdict Reference.device none (deniedAs "from") (deniedAs_expressible "from")
    (Packet.toHost (.named "cloud.example") 6 none) .deny (by decide)

end

end MudController
