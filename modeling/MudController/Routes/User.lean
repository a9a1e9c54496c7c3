import MudController.Routes.Role

/-!
# `Routes.User` — creating a user for somebody else (`users_management_controller.rs`)
-/

namespace MudController

open Logic

/-- `MgmCreateUserDto`. -/
structure MgmCreateUserDto where
  username : String
  password : String
  rolesIds : List Int

/-- The validators of the fields; a length counts characters. -/
def MgmCreateUserDto.validate (dto : MgmCreateUserDto) : Bool :=
  decide (1 ≤ dto.username.length) && decide (dto.username.length ≤ 128) && decide (6 ≤ dto.password.length)

variable [Platform]

/-- `create_user`: `POST /management/users`. The roles are assigned one statement after another, and only if
    the caller may assign roles at all. -/
def createUser (hashEncoded : String → List UInt8 → Option String) (salt : Salt) (utcNow : DateTime)
    (auth : AuthToken) (createUserDto : MgmCreateUserDto) : AccountAction User := do
  auth.requireAccountPermission .userManagementCreate
  if !createUserDto.validate then
    Prog.fail (.responseError 400 (some "Invalid POST data"))
  else
    let user ←
      Prog.ofExcept (User.new hashEncoded salt utcNow createUserDto.username createUserDto.password)
    let newUserId ← UserService.insert user
    if (requireOneOf .roleAssign auth.permissions).isOk then
      createUserDto.rolesIds.forM (RoleService.addRoleToUser newUserId)
    UserService.findById newUserId

end MudController
