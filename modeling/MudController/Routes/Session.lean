import MudController.Routes.Token
import MudController.Services.UserConfig

/-!
# `Routes.Session` — the endpoints of a user (`users_controller.rs`)

Signing up, logging in, renewing a token, and what users change about themselves.
-/

namespace MudController

open Logic

/-- `length(min = 1, max = 128)`, in characters. -/
def validUsername (username : String) : Bool := decide (1 ≤ username.length) && decide (username.length ≤ 128)

/-- `length(min = 6)`. -/
def validPassword (password : String) : Bool := decide (6 ≤ password.length)

structure SignupDto where
  username : String
  password : String

def SignupDto.validate (dto : SignupDto) : Bool := validUsername dto.username && validPassword dto.password

structure LoginDto where
  username : String
  password : String

def LoginDto.validate (dto : LoginDto) : Bool := validUsername dto.username && validPassword dto.password

structure UpdatePasswordDto where
  oldPassword : String
  newPassword : String

def UpdatePasswordDto.validate (dto : UpdatePasswordDto) : Bool :=
  validPassword dto.oldPassword && validPassword dto.newPassword

structure UpdateUserDto where
  username : Option String

def UpdateUserDto.validate (dto : UpdateUserDto) : Bool := dto.username.all validUsername

structure TokenDto where
  token : String

structure SuccessDto where
  status : String

structure UserConfigDto where
  key : String
  value : String

/-- `UserConfigValueDto`, which has no validators. -/
structure UserConfigValueDto where
  value : String

/-- A stored setting as it is returned. -/
def UserConfigDto.ofConfig (config : UserConfig) : UserConfigDto := ⟨config.key, config.value⟩

variable [Platform] [Crypto]

namespace UsersController

/-- `signup`: `POST /users/signup`. -/
def signup (salt : Salt) (utcNow : DateTime) (signupDto : SignupDto) : BackendAction SuccessDto := do
  let enabled ← BackendAction.ofWorld (unwrapOr (getConfigValue Bool ConfigKeys.allowUserSignup.asRef) false)
  if !enabled then Prog.fail (.responseError 400 (some "Signup is not enabled"))
  else
    BackendAction.validated signupDto.validate none
    let user ← Prog.ofExcept (User.new Crypto.hashEncoded salt utcNow signupDto.username signupDto.password)
    let _ ← BackendAction.orElse (BackendAction.ofAccounts (UserService.insert user)) 400 none
    return ⟨"ok"⟩

/-- `login`: `POST /users/login`. -/
def login (loginDto : LoginDto) : BackendAction TokenDto := do
  BackendAction.validated loginDto.validate none
  let user ← BackendAction.orElse (UserService.findByUsername loginDto.username) 401 none
  match user.verifyPassword loginDto.password with
  | .error _ => Prog.fail (.responseError 401 none)
  | .ok () =>
    let _ ← UserService.updateLastInteractionStamp user.id
    let timeNow ← BackendAction.now
    let token ← encodeToken (.generateAccessToken timeNow user.id user.username user.permissions)
    return ⟨token⟩

/-- `refresh_token`: `GET /users/refresh_token`. -/
def refreshToken (auth : Claims) : BackendAction TokenDto := do
  let user ← BackendAction.orElse (BackendAction.ofAccounts (UserService.findById auth.sub)) 400 none
  let timeNow ← BackendAction.now
  let token ← encodeToken (.generateAccessToken timeNow auth.sub user.username user.permissions)
  return ⟨token⟩

omit [Crypto] in
/-- `get_me`: `GET /users/me`. -/
def getMe (auth : Claims) : BackendAction User := BackendAction.ofAccounts (UserService.findById auth.sub)

omit [Crypto] in
/-- `update_me`: `POST /users/me`. The password is written back as it was read. -/
def updateMe (auth : Claims) (updateUserDto : UpdateUserDto) : BackendAction SuccessDto := do
  BackendAction.validated updateUserDto.validate none
  let user ← BackendAction.ofAccounts (UserService.findById auth.sub)
  let _ ← UserService.update { user with username := updateUserDto.username.getD user.username }
  return ⟨"ok"⟩

/-- `update_password`: `POST /users/password`. -/
def updatePassword (auth : Claims) (salt : Salt) (updatePasswordDto : UpdatePasswordDto) :
    BackendAction SuccessDto := do
  BackendAction.validated updatePasswordDto.validate none
  let user ← BackendAction.ofAccounts (UserService.findById auth.sub)
  match user.verifyPassword updatePasswordDto.oldPassword with
  | .error _ => Prog.fail (.responseError 401 none)
  | .ok () =>
    let _ ← UserService.updatePassword auth.sub salt updatePasswordDto.newPassword
    return ⟨"ok"⟩

omit [Crypto] in
/-- `get_users_configs`: `GET /users/configs`. -/
def getUsersConfigs (auth : Claims) : BackendAction (List UserConfigDto) := do
  let userConfigs ← UserConfigService.getAllConfigsForUser auth.sub
  return userConfigs.map UserConfigDto.ofConfig

omit [Crypto] in
/-- `get_users_config`: `GET /users/configs/{key}`. -/
def getUsersConfig (auth : Claims) (key : String) : BackendAction UserConfigDto := do
  let userConfig ←
    BackendAction.orElse (UserConfigService.getConfigForUser auth.sub key) 404 (some "Key not found")
  return UserConfigDto.ofConfig userConfig

omit [Crypto] in
/-- `set_users_config`: `POST /users/configs/{key}`. -/
def setUsersConfig (auth : Claims) (key : String) (dto : UserConfigValueDto) : BackendAction Unit :=
  UserConfigService.upsertConfigForUser auth.sub key dto.value

omit [Crypto] in
/-- `delete_users_config`: `DELETE /users/configs/{key}`. -/
def deleteUsersConfig (auth : Claims) (key : String) : BackendAction Unit := do
  let _ ← UserConfigService.deleteConfigForUser auth.sub key
  return ()

end UsersController

end MudController
