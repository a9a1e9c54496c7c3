import MudController.Services.Role

/-!
# `Services.User` — users with their roles (`user_service.rs`)

`find_by_id` reads the rows of a user's roles; `get_all` lets the database join names, ids and permissions to
one text each, and splits them again.
-/

namespace MudController

open Logic

namespace UserService

/-- The loop of `get_roles`: it ends with the first id that is missing or no number, or with the names. -/
def getRolesLoop : List String → List String → List Role
  | id :: ids, name :: names =>
    match signed? id with
    | some id => ⟨id, name⟩ :: getRolesLoop ids names
    | none => []
  | _, _ => []

/-- `get_roles`. -/
def getRoles (ids names : String) : List Role := getRolesLoop (splitText ',' ids) (splitText ',' names)

/-- A row of `get_all` as a user; a missing text reads as the empty one. -/
def ofRow (row : UserWithRoles) : User where
  id := row.user.id
  username := row.user.username
  password := row.user.password
  salt := row.user.salt
  lastInteraction := row.user.lastInteraction
  roles := getRoles (row.rolesIds.getD "") (row.roles.getD "")
  permissions := (splitText ',' (row.permissions.getD "")).filter (· ≠ "")

/-- `get_all`. -/
def getAll : AccountAction (List User) := do
  let users ← AccountAction.stmt .selectUsersWithRoles
  return users.map ofRow

/-- A user with the rows of their roles. -/
def ofRoles (user : UserDbo) (roles : List RoleDbo) : User where
  id := user.id
  username := user.username
  password := user.password
  salt := user.salt
  lastInteraction := user.lastInteraction
  permissions := roles.flatMap RoleDbo.permissionList
  roles := roles.map Role.fromDbo

/-- `with_roles`. -/
def withRoles (user : UserDbo) : AccountAction User := do
  let roles ← AccountAction.stmt (.selectRolesOf user.id)
  return ofRoles user roles

/-- `find_by_id`. -/
def findById (id : Int) : AccountAction User := do
  let user ← AccountAction.fetchOne (AccountAction.stmt (.selectUserById id))
  withRoles user

/-- `insert`: the first user becomes an administrator. Three statements, and no transaction around them. -/
def insert (user : User) : AccountAction Int := do
  let result ← AccountAction.execute (AccountAction.stmt (.insertUser user.username user.password user.salt))
  let userCount ← AccountAction.stmt .countUsers
  if userCount == 1 then
    RoleService.addRoleToUser result roleIdAdmin
  return result

/-- `delete`. -/
def delete (id : Int) : AccountAction Bool := do
  let delCount ← AccountAction.execute (AccountAction.stmt (.deleteUser id))
  return delCount == 1

end UserService

end MudController
