import MudController.Routes.Management
import MudController.Routes.Room

/-!
# `Api` — the requests of the API, and all that runs beside them

`ApiEndpoint` lists the endpoints that ask for an access token, each with what its request brings; `ApiRequest` adds
the three that do not. A `Call` is a request, the contact of an enforcer, or something that an accepted enforcer or
a job does on the main world. All of them share one database, and take turns on it statement by statement.
-/

namespace MudController

open Logic

variable [Platform]

/-- An endpoint behind `AuthToken`, with the rest of the request. -/
inductive ApiEndpoint where
  | refreshToken
  | getMe
  | updateMe (dto : UpdateUserDto)
  | updatePassword (salt : Salt) (dto : UpdatePasswordDto)
  | getUsersConfigs
  | getUsersConfig (key : String)
  | setUsersConfig (key : String) (dto : UserConfigValueDto)
  | deleteUsersConfig (key : String)
  | getAllUsers
  | getUserById (userId : Int)
  | createUser (salt : Salt) (utcNow : DateTime) (dto : MgmCreateUserDto)
  | updateUserById (salt : Salt) (userId : Int) (dto : ManagementController.MgmUpdateUserBasicDto)
  | deleteUserById (userId : Int)
  | getRoles
  | getRole (roleId : Int)
  | createRole (dto : RoleUpdateDto)
  | editRole (roleId : Int) (dto : RoleUpdateDto)
  | deleteRole (roleId : Int)
  | assignRole (dto : RoleController.RoleAssignDto)
  | unassignRole (dto : RoleController.RoleAssignDto)
  | availablePermissions
  | getConfigs (query : ConfigQueryDto)
  | setConfigs (dto : ConfigController.ConfigSetDto)
  | deleteConfig (keys : List String)
  | getAllDevices
  | getDevice (id : Int)
  | createDevice (dto : DeviceCreationUpdateDto)
  | updateDevice (id : Int) (dto : DeviceCreationUpdateDto)
  | deleteDevice (id : Int)
  | guessThing (id : Int)
  | getMuds (query : MudQueryDto)
  | updateMud (query : MudUpdateQueryDto) (dto : MudUpdateDto)
  | deleteMud (query : MudUpdateQueryDto)
  | createMud (dto : MudCreationDto)
  | getAllRooms
  | getRoom (id : Int)
  | getAllDevicesInsideRoom (id : Int)
  | createRoom (dto : RoomCreationUpdateDto)
  | updateRoom (id : Int) (dto : RoomCreationUpdateDto)
  | deleteRoom (id : Int)
  | getEnforcers
  | getEnforcer (certId : String)
  | updateEnforcer (certId : String) (allowed : Bool)

/-- A response, as far as other requests depend on it. -/
inductive ApiResponse where
  | token (dto : TokenDto)
  | other

/-- The response of an endpoint that returns no token. -/
def respond {α : Type} (p : BackendAction α) : BackendAction ApiResponse := do
  let _ ← p
  return .other

variable [Crypto]

/-- The handler of an endpoint. -/
def ApiEndpoint.handler (auth : Claims) : ApiEndpoint → BackendAction ApiResponse
  | .refreshToken => do return .token (← UsersController.refreshToken auth)
  | .getMe => respond (UsersController.getMe auth)
  | .updateMe dto => respond (UsersController.updateMe auth dto)
  | .updatePassword salt dto => respond (UsersController.updatePassword auth salt dto)
  | .getUsersConfigs => respond (UsersController.getUsersConfigs auth)
  | .getUsersConfig key => respond (UsersController.getUsersConfig auth key)
  | .setUsersConfig key dto => respond (UsersController.setUsersConfig auth key dto)
  | .deleteUsersConfig key => respond (UsersController.deleteUsersConfig auth key)
  | .getAllUsers => respond (ManagementController.getAllUsers auth)
  | .getUserById userId => respond (ManagementController.getUserById auth userId)
  | .createUser salt utcNow dto =>
      respond (.ofAccounts (MudController.createUser Crypto.hashEncoded salt utcNow auth.toAuthToken dto))
  | .updateUserById salt userId dto => respond (ManagementController.updateUserById auth salt userId dto)
  | .deleteUserById userId => respond (ManagementController.deleteUserById auth userId)
  | .getRoles => respond (RoleController.getRoles auth)
  | .getRole roleId => respond (RoleController.getRole auth roleId)
  | .createRole dto => respond (.ofAccounts (MudController.createRole auth.toAuthToken dto))
  | .editRole roleId dto => respond (.ofAccounts (MudController.editRole auth.toAuthToken roleId dto))
  | .deleteRole roleId => respond (.ofAccounts (MudController.deleteRole auth.toAuthToken roleId))
  | .assignRole dto => respond (RoleController.assignRole auth dto)
  | .unassignRole dto => respond (RoleController.unassignRole auth dto)
  | .availablePermissions => respond (RoleController.availablePermissions auth)
  | .getConfigs query => respond (.ofWorld (MudController.getConfigs auth.toAuthToken query))
  | .setConfigs dto => respond (.ofWorld (ConfigController.setConfigs auth.toAuthToken dto))
  | .deleteConfig keys => respond (.ofWorld (ConfigController.deleteConfig auth.toAuthToken keys))
  | .getAllDevices => respond (.ofWorld (MudController.listDevices auth.toAuthToken))
  | .getDevice id => respond (.ofWorld (DeviceController.getDevice auth.toAuthToken id))
  | .createDevice dto => respond (.ofWorld (DeviceController.createDevice auth.toAuthToken dto))
  | .updateDevice id dto => respond (.ofWorld (DeviceController.updateDevice auth.toAuthToken id dto))
  | .deleteDevice id => respond (.ofWorld (DeviceController.deleteDevice auth.toAuthToken id))
  | .guessThing id => respond (.ofWorld (DeviceController.guessThing auth.toAuthToken id))
  | .getMuds query => respond (.ofWorld (MudController.getMuds auth.toAuthToken query))
  | .updateMud query dto => respond (.ofWorld (MudController.updateMud auth.toAuthToken query dto))
  | .deleteMud query => respond (.ofWorld (MudController.deleteMud auth.toAuthToken query))
  | .createMud dto => respond (.ofWorld (MudController.createMud auth.toAuthToken dto))
  | .getAllRooms => respond (RoomController.getAllRooms auth)
  | .getRoom id => respond (RoomController.getRoom auth id)
  | .getAllDevicesInsideRoom id => respond (RoomController.getAllDevicesInsideRoom auth id)
  | .createRoom dto => respond (RoomController.createRoom auth dto)
  | .updateRoom id dto => respond (RoomController.updateRoom auth id dto)
  | .deleteRoom id => respond (RoomController.deleteRoom auth id)
  | .getEnforcers => respond (EnforcerController.getEnforcers auth)
  | .getEnforcer certId => respond (EnforcerController.getEnforcer auth certId)
  | .updateEnforcer certId allowed => respond (EnforcerController.updateEnforcer auth certId allowed)

/-- A request, with what it brings. -/
inductive ApiRequest where
  | getStatus (version : String) (secureName : Option String)
  | signup (salt : Salt) (utcNow : DateTime) (dto : SignupDto)
  | login (dto : LoginDto)
  /-- A request with a header `authorization`. -/
  | authenticated (authorization : Option String) (endpoint : ApiEndpoint)

/-- What a request does. -/
def ApiRequest.call : ApiRequest → BackendAction ApiResponse
  | .getStatus version secureName => respond (MudController.getStatus version secureName)
  | .signup salt utcNow dto => respond (UsersController.signup salt utcNow dto)
  | .login dto => do return .token (← UsersController.login dto)
  | .authenticated authorization endpoint => do
    let auth ← fromRequest authorization
    endpoint.handler auth

/-- Whatever takes turns on the database. -/
inductive Call where
  | request (r : ApiRequest)
  /-- An enforcer makes contact. -/
  | contact (ipAddr : IpAddr) (certId : CertId)
  /-- An accepted enforcer or a job works on the main world. -/
  | background (p : Action Unit)

/-- What a call does. -/
def Call.program : Call → BackendAction ApiResponse
  | .request r => r.call
  | .contact ipAddr certId => respond (.ofEnforcers (EnforcerService.registerEnforcer ipAddr certId))
  | .background p => respond (.ofWorld p)

/-- The calls and the database that they share. -/
abbrev ApiPool := Pool BackendStmt BackendStmt.Answer Error ApiResponse Backend

/-- The calls, as they are started. -/
def apiPool (b : Backend) (calls : List Call) : ApiPool := Pool.start b (calls.map Call.program)

end MudController
