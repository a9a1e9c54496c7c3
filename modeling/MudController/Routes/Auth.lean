import MudController.Db.Stmt

/-!
# `Routes.Auth` — permissions of a request (`auth.rs`, `role_service/permission.rs`)
-/

namespace MudController

open Logic

inductive Permission where
  | configRead
  | configList
  | configWrite
  | configDelete
  | deviceList
  | deviceRead
  | deviceWrite
  | deviceDelete
  | roleList
  | roleRead
  | roleWrite
  | roleDelete
  | roleAssign
  | mudList
  | mudRead
  | mudWrite
  | mudDelete
  | mudCreate
  | userManagementList
  | userManagementRead
  | userManagementWrite
  | userManagementCreate
  | userManagementDelete
  | roomList
  | roomRead
  | roomWrite
  | roomDelete
  | roomCreate
  | enforcerList
  | enforcerRead
  | enforcerUpdate
  deriving DecidableEq

/-- `Permission::as_ref`. -/
def Permission.asRef : Permission → String
  | .configRead => "config/read"
  | .configList => "config/list"
  | .configWrite => "config/write"
  | .configDelete => "config/delete"
  | .deviceList => "device/list"
  | .deviceRead => "device/read"
  | .deviceWrite => "device/write"
  | .deviceDelete => "device/delete"
  | .roleList => "role/list"
  | .roleRead => "role/read"
  | .roleWrite => "role/write"
  | .roleDelete => "role/delete"
  | .roleAssign => "role/assign"
  | .mudList => "mud/list"
  | .mudRead => "mud/read"
  | .mudWrite => "mud/write"
  | .mudDelete => "mud/delete"
  | .mudCreate => "mud/create"
  | .userManagementList => "user/management/list"
  | .userManagementRead => "user/management/read"
  | .userManagementWrite => "user/management/write"
  | .userManagementCreate => "user/management/create"
  | .userManagementDelete => "user/management/delete"
  | .roomList => "room/list"
  | .roomRead => "room/read"
  | .roomWrite => "room/write"
  | .roomDelete => "room/delete"
  | .roomCreate => "room/create"
  | .enforcerList => "enforcer/list"
  | .enforcerRead => "enforcer/read"
  | .enforcerUpdate => "enforcer/update"

/-- The claims of an access token that the modelled routes use. -/
structure AuthToken where
  permissions : List String

variable [Platform]

/-- The loop of `require_permission`: a pattern that does not compile ends it with an error. -/
def requireOneOf (permission : Permission) : List String → Except Error Unit
  | [] => .error (.responseError 403 (some "Forbidden"))
  | perm :: rest =>
      match Platform.globPattern perm with
      | none => .error .patternError
      | some glob => if glob permission.asRef then .ok () else requireOneOf permission rest

/-- `AuthToken::require_permission`. -/
def AuthToken.requirePermission (auth : AuthToken) (permission : Permission) : Action Unit :=
  Prog.ofExcept (requireOneOf permission auth.permissions)

end MudController
