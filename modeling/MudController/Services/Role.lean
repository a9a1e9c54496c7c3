import MudController.Db.Accounts

/-!
# `Services.Role` — roles and their assignment (`role_service/service.rs`)
-/

namespace MudController

open Logic

/-- A stored role as it is returned. -/
def RoleDto.ofDbo (role : RoleDbo) : RoleDto where
  id := role.id
  name := role.name
  permissions := role.permissionList

namespace RoleService

/-- `role_get`. -/
def roleGet (roleId : Int) : AccountAction RoleDto := do
  let roleDb ← AccountAction.fetchOne (AccountAction.stmt (.selectRoleById roleId))
  return RoleDto.ofDbo roleDb

/-- `role_create`. -/
def roleCreate (role : RoleUpdateDto) : AccountAction RoleDto := do
  let permissions := joinText ',' role.permissions
  let result ← AccountAction.execute (AccountAction.stmt (.insertRole role.name permissions))
  roleGet result

/-- `role_update`. -/
def roleUpdate (roleId : Int) (updatedRole : RoleUpdateDto) : AccountAction Bool := do
  let permissions := joinText ',' updatedRole.permissions
  let result ← AccountAction.execute (AccountAction.stmt (.updateRole ⟨roleId, updatedRole.name, permissions⟩))
  return result == 1

/-- `role_delete`. -/
def roleDelete (roleId : Int) : AccountAction Bool := do
  let delCount ← AccountAction.execute (AccountAction.stmt (.deleteRole roleId))
  return delCount == 1

/-- `roles_get_all`. -/
def rolesGetAll : AccountAction (List RoleDto) := do
  let roles ← AccountAction.stmt .selectRoles
  return roles.map RoleDto.ofDbo

/-- `add_role_to_user`. -/
def addRoleToUser (userId roleId : Int) : AccountAction Unit := do
  let _ ← AccountAction.execute (AccountAction.stmt (.insertUserRole userId roleId))
  return ()

/-- `role_delete_from_user`: the role must exist, the assignment need not. -/
def roleDeleteFromUser (userId roleId : Int) : AccountAction Unit := do
  let roleDb ← AccountAction.fetchOne (AccountAction.stmt (.selectRoleById roleId))
  let _ ← AccountAction.execute (AccountAction.stmt (.deleteUserRole userId roleDb.id))
  return ()

/-- `validate_permission_name`: the text of the error, if there is one. -/
def validatePermissionName (permissions : List String) : Except String Unit :=
  if permissions.any fun name => name.toList.contains ',' then .error "Name must not contain a comma."
  else .ok ()

end RoleService

end MudController
