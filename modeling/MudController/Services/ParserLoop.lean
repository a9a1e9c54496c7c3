import MudController.Logic.Fallible
import MudController.Services.Parser

/-!
# `Services.ParserLoop` — the loops of `parser.rs`

`parse_device_policy` pushes onto the list of ACLs that it is handed, in three nested loops with a flag and a
`break`; `parse_mud` runs it twice on one list. These are the functions as the source has them; each is the
function of `Services.Parser` on the accumulator (`parseDevicePolicy_eq`, `parseMud_eq`).
-/

namespace MudController

open Logic

variable [Platform]

namespace Parser

/-- `parse_device_policy`. -/
def parseDevicePolicy (policy : MudJson.Policy) (mudJson : MudJson) (acllist : List Acl)
    (dir : AclDirection) : Except Error (List Acl) := do
  let mut acllist := acllist
  for accessList in policy.accessLists.accessList do
    let mut found := false
    for aclitem in mudJson.acls.acl do
      if aclitem.name = accessList.name then
        let aclType := parseAclType aclitem.typeField
        let mut ace := []
        for aceitem in aclitem.aces.ace do
          ace := ace ++ [← parseAce aclType aceitem]
        acllist := acllist ++ [{ name := accessList.name, packetDirection := dir, aclType := aclType, ace := ace }]
        found := true
        break
    ensureMud found "MUD-File has dangling ACL policy"
  return acllist

/-- The loop over the extensions. -/
def parseMasa (mud : MudJson.MudDefinition) : Option String := Id.run do
  let mut masaUri := none
  if let some extensions := mud.extensions then
    for ext in extensions do
      if ext = "masa" then
        if let some masa := mud.masaServer then
          masaUri := some masa
  return masaUri

/-- `parse_mud` on the deserialized file, at the time `now`. -/
def parseMud (now : DateTime) (url : String) (mudJson : MudJson) : Except Error MudData := do
  let mudData := mudJson.mud
  ensureMud (mudData.mudVersion = 1) "Unsupported MUD Version"
  let cachevalidity := mudData.cacheValidity.getD 48
  ensureMud (cachevalidity ≥ 1 ∧ cachevalidity ≤ 168) "MUD-File has invalid 'cache-validity'"
  let exptime := now + hours cachevalidity
  let masaUri := parseMasa mudData
  let acllist ← parseDevicePolicy mudData.fromDevicePolicy mudJson [] .fromDevice
  let acllist ← parseDevicePolicy mudData.toDevicePolicy mudJson acllist .toDevice
  return { url := url
           masaUrl := masaUri
           lastUpdate := mudData.lastUpdate
           systeminfo := mudData.systeminfo
           mfgName := mudData.mfgName
           modelName := mudData.modelName
           documentation := mudData.documentation
           expiration := exptime
           acllist := acllist
           aclOverride := [] }

/-! ## The functions without the loops -/

/-- The loop over the ACEs of an ACL. -/
theorem aceLoop_eq (aclType : AclType) (aces : List MudJson.Ace) :
    (forIn aces [] fun aceitem ace => do
      let parsed ← parseAce aclType aceitem
      pure (.yield (ace ++ [parsed]))) = aces.mapM (parseAce aclType) := by
  refine (forIn_push (parseAce aclType) aces []).trans ?_
  exact id_map _

/-- What one name of a policy does to the list: the first ACL of the name is parsed and pushed. -/
theorem aclLoop_eq (mudJson : MudJson) (dir : AclDirection) (accessList : MudJson.AccessList)
    (acllist : List Acl) :
    (do
      let s ← forIn mudJson.acls.acl (acllist, false) fun aclitem s =>
        if aclitem.name = accessList.name then do
          let ace ← forIn aclitem.aces.ace [] fun aceitem ace => do
            let parsed ← parseAce (parseAclType aclitem.typeField) aceitem
            pure (.yield (ace ++ [parsed]))
          pure (.done (s.1 ++ [⟨accessList.name, dir, parseAclType aclitem.typeField, ace⟩], true))
        else pure (.yield s)
      ensureMud s.2 "MUD-File has dangling ACL policy"
      pure (.yield s.1)) =
    (do
      let acl ← parseAccessList mudJson dir accessList
      pure (.yield (acllist ++ [acl])) : Except Error (ForInStep (List Acl))) := by
  -- what is pushed for the ACL with the name, the flag set
  let push (aclitem : MudJson.Acl) (s : List Acl × Bool) : Except Error (List Acl × Bool) := do
    let ace ← aclitem.aces.ace.mapM (parseAce (parseAclType aclitem.typeField))
    let acl : Acl := ⟨accessList.name, dir, parseAclType aclitem.typeField, ace⟩
    pure (s.1 ++ [acl], true)
  have hloop := forIn_first (·.name = accessList.name) push mudJson.acls.acl (acllist, false)
  simp only [push, bind_assoc, pure_bind] at hloop
  simp only [aceLoop_eq, hloop]
  unfold parseAccessList
  cases mudJson.acls.acl.find? (·.name = accessList.name) with
  | none => rfl
  | some aclitem =>
      show (_ >>= _ : Except Error _) >>= _ = (_ >>= _ : Except Error _) >>= _
      rw [bind_assoc, bind_assoc]
      rfl

/-- `parse_device_policy` appends what its policy parses to. -/
theorem parseDevicePolicy_eq (policy : MudJson.Policy) (mudJson : MudJson) (acllist : List Acl)
    (dir : AclDirection) :
    parseDevicePolicy policy mudJson acllist dir =
      (acllist ++ ·) <$> MudController.parseDevicePolicy policy mudJson dir := by
  refine Eq.trans ?_ (forIn_push (parseAccessList mudJson dir) policy.accessLists.accessList acllist)
  unfold parseDevicePolicy
  rw [bind_pure]
  refine congrArg (forIn policy.accessLists.accessList acllist) (funext fun accessList => funext fun acllist => ?_)
  exact aclLoop_eq mudJson dir accessList acllist

omit [Platform] in
/-- A loop over the extensions that sets a value at each `masa`. -/
theorem masaLoop_eq (masa : String) (extensions : List String) (masaUri : Option String) :
    (forIn extensions masaUri fun ext masaUri =>
      if ext = "masa" then (pure (.yield (some masa)) : Id (ForInStep (Option String)))
      else pure (.yield masaUri)).run =
    if "masa" ∈ extensions then some masa else masaUri := by
  induction extensions generalizing masaUri with
  | nil => rfl
  | cons ext extensions ih =>
      rw [List.forIn_cons]
      by_cases h : ext = "masa"
      · rw [if_pos h, pure_bind, if_pos (h ▸ List.mem_cons_self)]
        exact (ih (some masa)).trans (ite_self _)
      · rw [if_neg h, pure_bind]
        refine (ih masaUri).trans ?_
        simp [Ne.symm h]

omit [Platform] in
theorem parseMasa_eq (mud : MudJson.MudDefinition) : parseMasa mud = MudController.parseMasa mud := by
  unfold parseMasa MudController.parseMasa
  cases mud.extensions with
  | none => rfl
  | some extensions =>
      cases mud.masaServer with
      | some masa => exact masaLoop_eq masa extensions none
      | none => simp

/-- **The loops and the functions without them** are one parser. -/
theorem parseMud_eq (now : DateTime) (url : String) (mudJson : MudJson) :
    parseMud now url mudJson = parseMudJson now url mudJson := by
  unfold parseMud parseMudJson
  simp only [parseDevicePolicy_eq, parseMasa_eq, bind_map_left, List.nil_append]

end Parser

end MudController
