import MudController.Routes.Auth
import MudController.Services.Mud

/-!
# `Routes.Mud` — the profile endpoints (`mud_controller.rs`)
-/

namespace MudController

open Logic

variable [Platform]

structure MudQueryDto where
  mudUrl : Option String

structure MudUpdateQueryDto where
  mudUrl : String

structure MudCreationDto where
  mudUrl : String
  aclOverride : Option (List Acl)

structure MudUpdateDto where
  aclOverride : Option (List Acl)

/-- `or_else` with a 404. -/
def orNotFound {α : Type} (p : Action α) (message : String) : Action α := do
  match ← p.attempt with
  | .ok a => return a
  | .error _ => Prog.fail (.responseError 404 (some message))

/-- Parse every stored row; one that does not parse is an error. -/
def parseAllMuds : List MudDbo → Except Error (List MudData)
  | [] => .ok []
  | mud :: rest => do
    let some data := mud.parseData | .error .serdeError
    return data :: (← parseAllMuds rest)

/-- `get_muds`: `GET /mud`. -/
def getMuds (auth : AuthToken) (query : MudQueryDto) : Action (List MudData) := do
  auth.requirePermission .mudRead
  match query.mudUrl with
  | some url =>
    let mud ← orNotFound (getOrFetchMud url) "Couldn't find MUD-Profile"
    return [mud]
  | none =>
    auth.requirePermission .mudList
    Prog.ofExcept (parseAllMuds (← getAllMuds))

/-- The row that `update_mud` writes back: the row it read, with the new override inside. -/
def withOverride (mudDbo : MudDbo) (mudData : MudData) (aclOverride : List Acl) : MudDbo :=
  { mudDbo with data := serialize { mudData with aclOverride := aclOverride } }

/-- `update_mud`: `PUT /mud`. -/
def updateMud (auth : AuthToken) (query : MudUpdateQueryDto) (mudUpdateDto : MudUpdateDto) :
    Action MudData := do
  auth.requirePermission .mudWrite
  match ← getMud query.mudUrl with
  | none => Prog.fail (.responseError 404 (some "Couldn't find MUD-Profile"))
  | some mudDbo =>
    -- the whole row is written back, with the ACLs and the expiration as they were read
    match mudDbo.parseData with
    | none => Prog.fail .serdeError
    | some mudData =>
      let aclOverride := mudUpdateDto.aclOverride.getD []
      upsertMud (withOverride mudDbo mudData aclOverride)
      updateConfigVersion
      return { mudData with aclOverride := aclOverride }

/-- `delete_mud`: `DELETE /mud`. -/
def deleteMud (auth : AuthToken) (query : MudUpdateQueryDto) : Action Unit := do
  auth.requirePermission .mudDelete
  let url := query.mudUrl
  if (← getMud url).isNone then
    Prog.fail (.responseError 404 (some "No MUD-Profile with this URL"))
  else if ← isMudUsed url then
    Prog.fail (.responseError 409 (some "MUD is being used elsewhere, can't delete it."))
  else
    let _ ← deleteMudRow url
    return ()

/-- `create_mud`: `POST /mud`. -/
def createMud (auth : AuthToken) (mudCreationDto : MudCreationDto) : Action MudData := do
  auth.requirePermission .mudCreate
  if (← getMud mudCreationDto.mudUrl).isSome then
    Prog.fail (.responseError 409 (some "MUD-URL key already exists"))
  else if isUrl mudCreationDto.mudUrl then
    getOrFetchMud mudCreationDto.mudUrl
  else
    let emptyMud := generateEmptyCustomMudProfile mudCreationDto.mudUrl
      (mudCreationDto.aclOverride.getD []) (← now)
    let createdAt ← now
    createMudRow
      { url := mudCreationDto.mudUrl
        data := serialize emptyMud
        createdAt := createdAt
        expiration := emptyMud.expiration }
    return emptyMud

end MudController
