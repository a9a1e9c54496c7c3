import MudController.Routes.Session
import MudController.Routes.User

/-!
# `Routes.Management` — users and their roles, for administrators

The endpoints of `users_management_controller.rs` and `role_manager_controller.rs` beside `create_user` and those
that edit a role, and the status page.
-/

namespace MudController

open Logic

variable [Platform]

namespace ManagementController

/-- `get_all_users`: `GET /management/users`. -/
def getAllUsers (auth : Claims) : BackendAction (List User) := do
  auth.requirePermission .userManagementList
  BackendAction.ofAccounts UserService.getAll

/-- `get_user_by_id`: `GET /management/users/{user_id}`. -/
def getUserById (auth : Claims) (userId : Int) : BackendAction User := do
  auth.requirePermission .userManagementRead
  BackendAction.ofAccounts (UserService.findById userId)

/-- `MgmUpdateUserBasicDto`: of the password nothing is asked. -/
structure MgmUpdateUserBasicDto where
  username : String
  password : Option String

def MgmUpdateUserBasicDto.validate (dto : MgmUpdateUserBasicDto) : Bool := validUsername dto.username

/-- The two responses of `update_user_by_id`. -/
inductive UpdateUserResponse where
  | conflict
  | noContent

/-- Another user has the name, as far as it can be read. -/
def nameTaken (username : String) (userId : Int) : BackendAction Bool := do
  match ← (UserService.findByUsername username).attempt with
  | .ok sameNameUser => return decide (sameNameUser.id ≠ userId)
  | .error _ => return false

/-- The user with the password of the request, if it has one. -/
def withNewPassword [Crypto] (user : User) (salt : Salt) : Option String → Except Error User
  | some password => user.updatePassword salt password
  | none => .ok user

/-- `update_user_by_id`: `PUT /management/users/{user_id}`. Without a new password, the one that was read is
    written back. -/
def updateUserById [Crypto] (auth : Claims) (salt : Salt) (userId : Int) (dto : MgmUpdateUserBasicDto) :
    BackendAction UpdateUserResponse := do
  auth.requirePermission .userManagementWrite
  BackendAction.validated dto.validate none
  if ← nameTaken dto.username userId then return .conflict
  else
    let user ← BackendAction.ofAccounts (UserService.findById userId)
    let user ← Prog.ofExcept (withNewPassword { user with username := dto.username } salt dto.password)
    let _ ← UserService.update user
    return .noContent

/-- `delete_user_by_id`: `DELETE /management/users/{user_id}`. -/
def deleteUserById (auth : Claims) (userId : Int) : BackendAction Unit := do
  auth.requirePermission .userManagementDelete
  let _ ← BackendAction.ofAccounts (UserService.delete userId)
  return ()

end ManagementController

/-! ## Roles -/

/-- `Permission::iter()`, in the order of the variants. -/
def Permission.all : List Permission :=
  [.configRead, .configList, .configWrite, .configDelete, .deviceList, .deviceRead, .deviceWrite, .deviceDelete,
    .roleList, .roleRead, .roleWrite, .roleDelete, .roleAssign, .mudList, .mudRead, .mudWrite, .mudDelete,
    .mudCreate, .userManagementList, .userManagementRead, .userManagementWrite, .userManagementCreate,
    .userManagementDelete, .roomList, .roomRead, .roomWrite, .roomDelete, .roomCreate, .enforcerList,
    .enforcerRead, .enforcerUpdate]

/-- `permissions_get_all`. -/
def RoleService.permissionsGetAll : List String := Permission.all.map Permission.asRef

namespace RoleController

structure RoleAssignDto where
  roleId : Int
  userId : Int

/-- `get_roles`: `GET /roles`. -/
def getRoles (auth : Claims) : BackendAction (List RoleDto) := do
  auth.requirePermission .roleList
  BackendAction.ofAccounts RoleService.rolesGetAll

/-- `get_role`: `GET /roles/{role_id}`. -/
def getRole (auth : Claims) (roleId : Int) : BackendAction RoleDto := do
  auth.requirePermission .roleRead
  BackendAction.ofAccounts (RoleService.roleGet roleId)

/-- `assign_role`: `POST /roles/assign`. -/
def assignRole (auth : Claims) (assignment : RoleAssignDto) : BackendAction Unit := do
  auth.requirePermission .roleAssign
  BackendAction.ofAccounts (RoleService.addRoleToUser assignment.userId assignment.roleId)

/-- `unassign_role`: `POST /roles/unassign`. -/
def unassignRole (auth : Claims) (assignment : RoleAssignDto) : BackendAction Unit := do
  auth.requirePermission .roleAssign
  BackendAction.ofAccounts (RoleService.roleDeleteFromUser assignment.userId assignment.roleId)

/-- `available_permissions`: `GET /roles/available-permissions`, for every user. -/
def availablePermissions (_ : Claims) : BackendAction (List String) := return RoleService.permissionsGetAll

end RoleController

/-! ## Status -/

structure StatusDto where
  setupRequired : Bool
  signupAllowed : Bool
  version : String
  secureName : Option String

/-- `get_status`: `GET /status`, with `VERSION` and the answer of `secure_name`. -/
def getStatus (version : String) (secureName : Option String) : BackendAction StatusDto := do
  let hasAnyUsers ← UserService.hasAnyUsers
  let signupAllowed ← BackendAction.ofWorld (getConfigValue Bool ConfigKeys.allowUserSignup.asRef)
  return { setupRequired := !hasAnyUsers, signupAllowed := signupAllowed, version := version, secureName := secureName }

end MudController
