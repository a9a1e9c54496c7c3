import MudController.Routes.Auth
import MudController.Services.User

/-!
# `Routes.Role` — the role endpoints (`role_manager_controller.rs`)

and the access token that is made of a user.
-/

namespace MudController

open Logic

/-- `AuthToken::generate_access_token`, the part that the permission checks use. -/
def AuthToken.generateAccessToken (user : User) : AuthToken where
  permissions := user.permissions

variable [Platform]

/-- `AuthToken::require_permission`, ahead of statements on the account tables. -/
def AuthToken.requireAccountPermission (auth : AuthToken) (permission : Permission) : AccountAction Unit :=
  Prog.ofExcept (requireOneOf permission auth.permissions)

/-- The check of the permission names in a request. -/
def checkPermissionNames (roleDto : RoleUpdateDto) : AccountAction Unit :=
  match RoleService.validatePermissionName roleDto.permissions with
  | .ok () => return ()
  | .error message => Prog.fail (.responseError 400 (some message))

/-- The two responses of `edit_role`. -/
inductive EditResponse where
  | noContent
  | notFound
  deriving DecidableEq

/-- `create_role`: `POST /roles`. A `RoleUpdateDto` has no validators of its own. -/
def createRole (auth : AuthToken) (roleDto : RoleUpdateDto) : AccountAction RoleDto := do
  auth.requireAccountPermission .roleWrite
  checkPermissionNames roleDto
  RoleService.roleCreate roleDto

/-- `edit_role`: `PUT /roles/{role_id}`. -/
def editRole (auth : AuthToken) (roleId : Int) (roleDto : RoleUpdateDto) : AccountAction EditResponse := do
  auth.requireAccountPermission .roleWrite
  match ← (RoleService.roleGet roleId).attempt with
  | .error _ => Prog.fail (.responseError 404 (some "Role not found"))
  | .ok _ =>
    checkPermissionNames roleDto
    if ← RoleService.roleUpdate roleId roleDto then return .noContent
    else return .notFound

/-- `delete_role`: `DELETE /roles/{role_id}`. -/
def deleteRole (auth : AuthToken) (roleId : Int) : AccountAction Unit := do
  auth.requireAccountPermission .roleDelete
  let _ ← RoleService.roleDelete roleId
  return ()

end MudController
