import MudController.Error
import MudController.Logic.Separated
import MudController.Platform

/-!
# `Models.User` — users and roles (`user_model.rs`, `users_dto.rs`)
-/

namespace MudController

/-- A row of `users`. -/
structure UserDbo where
  id : Int
  username : String
  password : String
  salt : List UInt8
  lastInteraction : DateTime
  deriving DecidableEq

/-- A row of `roles`: the permissions are kept in one text, separated by commas. -/
structure RoleDbo where
  id : Int
  name : String
  permissions : String
  deriving DecidableEq

/-- A row of `users_roles`, without its id. -/
structure UserRole where
  userId : Int
  roleId : Int
  deriving DecidableEq

structure Role where
  id : Int
  name : String
  deriving DecidableEq

structure User where
  id : Int
  username : String
  password : String
  salt : List UInt8
  lastInteraction : DateTime
  roles : List Role
  permissions : List String
  deriving DecidableEq

/-- `SALT_LENGTH`. -/
def saltLength : Nat := 32

/-- What `generate_salt` returns: random bytes. -/
structure Salt where
  bytes : List UInt8
  length : bytes.length = saltLength

/-- `User::new`: `hashEncoded` is `argon2::hash_encoded` under the default settings, `salt` the random salt and
    `utcNow` the reading of the clock. -/
def User.new (hashEncoded : String → List UInt8 → Option String) (salt : Salt) (utcNow : DateTime)
    (username password : String) : Except Error User := do
  let hash ←
    match hashEncoded password salt.bytes with
    | some hash => .ok hash
    | none => .error .argonError
  return {
    id := 0
    username := username
    password := hash
    salt := salt.bytes
    lastInteraction := utcNow
    roles := []
    permissions := [] }

/-- `From<RoleDbo> for Role`. -/
def Role.fromDbo (role : RoleDbo) : Role where
  id := role.id
  name := role.name

/-- The permissions of a role, as every reader splits them. -/
def RoleDbo.permissionList (role : RoleDbo) : List String := Logic.splitText ',' role.permissions

structure RoleDto where
  id : Int
  name : String
  permissions : List String
  deriving DecidableEq

structure RoleUpdateDto where
  name : String
  permissions : List String
  deriving DecidableEq

/-- `ROLE_ID_ADMIN`. -/
def roleIdAdmin : Int := 0

end MudController
