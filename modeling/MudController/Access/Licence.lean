import MudController.Accounts.Bootstrap
import MudController.Api
import MudController.Run.Quiet

/-!
# `Access.Licence` — what a token must grant for a statement

The permission checks stand at the head of the handlers, the statements that they guard at the leaves of the
services below. `BackendStmt.Licence` says of every statement which permissions of the caller it takes: a table of
the whole API. `ApiEndpoint.handler_licensed` checks the handlers against it: none of them can come to execute a
statement for which its token has no licence, whatever the database answers.
-/

namespace MudController

open Logic

variable [Platform]

/-! ## The table -/

/-- What may have profiles fetched from the network and stored. -/
def AuthToken.MayLoadProfiles (auth : AuthToken) : Prop :=
  auth.Grants .mudRead ∨ auth.Grants .mudCreate ∨ auth.Grants .deviceRead ∨ auth.Grants .deviceWrite

/-- What may announce a new configuration. -/
def AuthToken.MayAnnounce (auth : AuthToken) : Prop :=
  auth.Grants .deviceWrite ∨ auth.Grants .deviceDelete ∨ auth.Grants .mudWrite

/-- The licence for a statement on users and roles. -/
def AccountStmt.Licence (auth : AuthToken) : AccountStmt → Prop
  | .insertUser _ _ _ => auth.Grants .userManagementCreate
  | .deleteUser _ => auth.Grants .userManagementDelete
  | .selectUsersWithRoles => auth.Grants .userManagementList
  | .insertRole _ _ => auth.Grants .roleWrite
  | .updateRole _ => auth.Grants .roleWrite
  | .deleteRole _ => auth.Grants .roleDelete
  | .selectRoles => auth.Grants .roleList
  | .insertUserRole _ _ => auth.Grants .roleAssign
  | .deleteUserRole _ _ => auth.Grants .roleAssign
  | _ => True

/-- The licence for a statement on the main world. -/
def Stmt.Licence (auth : AuthToken) : Stmt → Prop
  | .selectConfigs => auth.Grants .configRead ∧ auth.Grants .configList
  | .upsertConfig key _ =>
      auth.Grants .configWrite ∨ (key = ConfigKeys.firewallConfigVersion.asRef ∧ auth.MayAnnounce)
  | .deleteConfig _ => auth.Grants .configDelete
  | .selectDevices => auth.Grants .deviceList ∧ auth.Grants .deviceRead
  | .insertDevice _ => auth.Grants .deviceWrite
  | .updateDevice _ => auth.Grants .deviceWrite
  | .deleteDevice _ => auth.Grants .deviceDelete
  -- only leases take addresses away
  | .clearIpv4 _ => False
  | .clearIpv6 _ => False
  | .selectMuds => auth.Grants .mudRead ∧ auth.Grants .mudList
  | .selectMudExpirations => False
  | .insertMud _ => auth.Grants .mudCreate
  | .upsertMud _ => auth.Grants .mudWrite ∨ auth.MayLoadProfiles
  | .deleteMud _ => auth.Grants .mudDelete
  | .fetch _ => auth.MayLoadProfiles
  | .spawn _ => auth.Grants .deviceWrite
  | _ => True

/-- The licence for a statement on the enforcers: their contacts are none of the API's business. -/
def EnforcerStmt.Licence (auth : AuthToken) : EnforcerStmt → Prop
  | .updateAllowed _ _ => auth.Grants .enforcerUpdate
  | .updateSeen _ _ _ => False
  | .insertEnforcer _ => False
  | _ => True

/-- **The licence for a statement.** What concerns one user's own row or settings needs no permission. -/
def BackendStmt.Licence (auth : Claims) : BackendStmt → Prop
  | .account s => s.Licence auth.toAuthToken
  | .world s => s.Licence auth.toAuthToken
  | .enforcer s => s.Licence auth.toAuthToken
  | .selectEnforcers => auth.Grants .enforcerRead ∧ auth.Grants .enforcerList
  | .updateUser id _ _ _ => id = auth.sub ∨ auth.Grants .userManagementWrite
  | .updatePassword id _ _ => id = auth.sub
  | .updateLastInteraction id _ => id = auth.sub
  | .selectUserConfigs userId => userId = auth.sub
  | .selectUserConfig userId _ => userId = auth.sub
  | .upsertUserConfig config => config.userId = auth.sub
  | .deleteUserConfig _ userId => userId = auth.sub
  | .selectRooms => auth.Grants .roomList ∧ auth.Grants .roomRead
  | .selectDevicesIn _ => auth.Grants .roomRead ∧ auth.Grants .deviceList ∧ auth.Grants .deviceRead
  | .insertRoom _ _ => auth.Grants .roomWrite
  | .updateRoom _ => auth.Grants .roomWrite
  | .deleteRoom _ => auth.Grants .roomDelete
  | _ => True

/-! ## Services -/

section

variable {P : BackendStmt → Prop} {α : Type}

theorem BackendAction.execute_all {p : BackendAction (Except DbError α)} (h : p.All P) :
    (BackendAction.execute p).All P := h.bind fun r => by cases r <;> trivial

theorem BackendAction.fetchOne_all {p : BackendAction (Option α)} (h : p.All P) :
    (BackendAction.fetchOne p).All P := h.bind fun r => by cases r <;> trivial

theorem BackendAction.orElse_all {p : BackendAction α} (h : p.All P) (status : Nat) (message : Option String) :
    (BackendAction.orElse p status message).All P := h.attempt.bind fun r => by cases r <;> trivial

theorem BackendAction.validated_bind_all {valid : Bool} {message : Option String} {f : Unit → BackendAction α}
    (h : (f ()).All P) : (BackendAction.validated valid message >>= f).All P := by
  cases valid with
  | true => exact h
  | false => trivial

end

section

omit [Platform]

variable {P : AccountStmt → Prop} {α : Type}

theorem AccountAction.execute_all {p : AccountAction (Except DbError α)} (h : p.All P) :
    (AccountAction.execute p).All P := h.bind fun r => by cases r <;> trivial

theorem AccountAction.fetchOne_all {p : AccountAction (Option α)} (h : p.All P) :
    (AccountAction.fetchOne p).All P := h.bind fun r => by cases r <;> trivial

end

variable {auth : AuthToken}

/-! ### Users and roles -/

section

omit [Platform]

variable {P : AccountStmt → Prop}

theorem withRoles_all {user : UserDbo} (h : P (.selectRolesOf user.id)) : (UserService.withRoles user).All P :=
  Prog.All.bind (Prog.All.call h) fun _ => trivial

theorem findById_all {id : Int} (hfind : P (.selectUserById id)) (hroles : ∀ id, P (.selectRolesOf id)) :
    (UserService.findById id).All P :=
  Prog.All.bind (AccountAction.fetchOne_all (Prog.All.call hfind)) fun user => withRoles_all (hroles user.id)

theorem addRoleToUser_all {userId roleId : Int} (h : P (.insertUserRole userId roleId)) :
    (RoleService.addRoleToUser userId roleId).All P :=
  Prog.All.bind (AccountAction.execute_all (Prog.All.call h)) fun _ => trivial

theorem roleGet_all {roleId : Int} (h : P (.selectRoleById roleId)) : (RoleService.roleGet roleId).All P :=
  Prog.All.bind (AccountAction.fetchOne_all (Prog.All.call h)) fun _ => trivial

theorem roleDeleteFromUser_all {userId roleId : Int} (hget : P (.selectRoleById roleId))
    (hdelete : ∀ id, P (.deleteUserRole userId id)) : (RoleService.roleDeleteFromUser userId roleId).All P :=
  Prog.All.bind (AccountAction.fetchOne_all (Prog.All.call hget)) fun role =>
    Prog.All.bind (AccountAction.execute_all (Prog.All.call (hdelete role.id))) fun _ => trivial

theorem deleteUser_all {userId : Int} (h : P (.deleteUser userId)) : (UserService.delete userId).All P :=
  Prog.All.bind (AccountAction.execute_all (Prog.All.call h)) fun _ => trivial

theorem checkPermissionNames_all (dto : RoleUpdateDto) : (checkPermissionNames dto).All P := by
  unfold checkPermissionNames
  split <;> trivial

end

section

variable {P : AccountStmt → Prop}

theorem createRole_all {dto : RoleUpdateDto}
    (hinsert : auth.Grants .roleWrite → ∀ name permissions, P (.insertRole name permissions))
    (hget : ∀ id, P (.selectRoleById id)) : (createRole auth dto).All P := by
  refine Prog.All.ofExcept_bind fun _ hwrite => (checkPermissionNames_all dto).bind fun _ => ?_
  exact Prog.All.bind (AccountAction.execute_all (Prog.All.call (hinsert hwrite _ _))) fun id => roleGet_all (hget id)

theorem editRole_all {roleId : Int} {dto : RoleUpdateDto} (hget : P (.selectRoleById roleId))
    (hupdate : auth.Grants .roleWrite → ∀ role, P (.updateRole role)) : (editRole auth roleId dto).All P := by
  refine Prog.All.ofExcept_bind fun _ hwrite => (roleGet_all hget).attempt.bind fun found => ?_
  cases found with
  | error e => trivial
  | ok role =>
      have hcall : (RoleService.roleUpdate roleId dto).All P :=
        Prog.All.bind (AccountAction.execute_all (Prog.All.call (hupdate hwrite _))) fun _ => trivial
      refine (checkPermissionNames_all dto).bind fun _ => hcall.bind fun updated => ?_
      cases updated <;> trivial

theorem deleteRole_all {roleId : Int} (h : auth.Grants .roleDelete → P (.deleteRole roleId)) :
    (deleteRole auth roleId).All P :=
  Prog.All.ofExcept_bind fun _ hdelete =>
    Prog.All.bind (Prog.All.bind (AccountAction.execute_all (Prog.All.call (h hdelete))) fun _ => trivial)
      fun _ => trivial

end

/-! ### Profiles, devices and settings -/

theorem Stmt.licensed {s : Stmt} (h : s.Licence auth) : (stmt s).All (·.Licence auth) := Prog.All.call h

section

variable {P : Stmt → Prop} {α : Type}

theorem getConfigValue_all [TextForm α] {key : String} (h : P (.selectConfig key)) : (getConfigValue α key).All P := by
  refine Prog.All.bind (fetchOne_all (Prog.All.call h)) fun entry => ?_
  split <;> trivial

theorem setConfigValue_all [TextForm α] {key : String} {value : α} (h : P (.upsertConfig key (toText value))) :
    (setConfigValue key value).All P := Prog.All.bind (execute_all (Prog.All.call h)) fun _ => trivial

theorem updateConfigVersion_all (hread : P (.selectConfig ConfigKeys.firewallConfigVersion.asRef))
    (hwrite : ∀ value, P (.upsertConfig ConfigKeys.firewallConfigVersion.asRef value)) :
    updateConfigVersion.All P := by
  rw [updateConfigVersion_eq]
  exact ⟨hread, fun row => setConfigValue_all (hwrite _)⟩

theorem okOr_all (o : Option α) (e : Error) : (okOr o e).All P := by
  cases o <;> trivial

end

theorem announce_licensed (h : auth.MayAnnounce) : updateConfigVersion.All (·.Licence auth) :=
  updateConfigVersion_all trivial fun _ => .inr ⟨rfl, h⟩

theorem fetchAndStore_licensed (h : auth.MayLoadProfiles) (url : String) (expired : Option MudData) :
    (fetchAndStore url expired).All (·.Licence auth) := by
  have hfetch : (fetchMud url).All (·.Licence auth) := Prog.All.bind (Stmt.licensed h) fun _ => trivial
  have hparse (json : String) : (parseMud url json).All (·.Licence auth) := by
    unfold parseMud
    split
    · exact Prog.All.bind (Stmt.licensed trivial) fun _ => trivial
    · trivial
  have hstore (data : MudData) : (storeFetched url data).All (·.Licence auth) := by
    have hupsert (row : MudDbo) : (upsertMud row).All (·.Licence auth) :=
      Prog.All.bind (execute_all (Stmt.licensed (.inr h))) fun _ => trivial
    exact Prog.All.bind (Stmt.licensed trivial) fun createdAt => (hupsert _).bind fun _ => trivial
  unfold fetchAndStore
  split
  · trivial
  · refine hfetch.attempt.bind fun fetched => ?_
    cases fetched with
    | error e => exact okOr_all _ _
    | ok json =>
        refine (hparse json).attempt.bind fun parsed => ?_
        cases parsed with
        | error e => exact okOr_all _ _
        | ok data => exact hstore _

theorem getOrFetchMud_licensed (h : auth.MayLoadProfiles) (url : String) :
    (getOrFetchMud url).All (·.Licence auth) := by
  refine Prog.All.bind (Stmt.licensed trivial) fun row => ?_
  cases row with
  | none => exact fetchAndStore_licensed h url none
  | some mud =>
      dsimp only
      split
      · refine Prog.All.bind (Stmt.licensed trivial) fun t => ?_
        split
        · trivial
        · exact fetchAndStore_licensed h url _
      · exact fetchAndStore_licensed h url none

theorem loadRefs_licensed (h : auth.MayLoadProfiles) (device : Device) : (loadRefs device).All (·.Licence auth) := by
  have hroom : (loadRoom device.roomId).All (·.Licence auth) := by
    cases device.roomId with
    | none => trivial
    | some id => exact Prog.All.bind (fetchOne_all (Stmt.licensed trivial)) fun _ => trivial
  have hmud : (loadMudData device.mudUrl).All (·.Licence auth) := by
    cases device.mudUrl with
    | none => trivial
    | some url => exact Prog.All.bind (getOrFetchMud_licensed h url) fun _ => trivial
  exact hroom.bind fun _ => hmud.bind fun _ => trivial

theorem findDevice_licensed (id : Int) : (findDevice id).All (·.Licence auth) := by
  have hfind : (findById id).All (·.Licence auth) :=
    Prog.All.bind (fetchOne_all (Stmt.licensed trivial)) fun _ => trivial
  exact orNotFound_all hfind _

theorem validateDto_licensed (dto : DeviceCreationUpdateDto) : (validateDto dto).All (·.Licence auth) := by
  unfold validateDto
  split <;> trivial

theorem insertDevice_licensed (h : auth.Grants .deviceWrite) (deviceData : DeviceWithRefs) :
    (insertDevice deviceData).All (·.Licence auth) := by
  refine Prog.All.bind (execute_all (Stmt.licensed h)) fun result => ?_
  split
  · exact Prog.All.bind (Stmt.licensed h) fun _ => Prog.All.bind (announce_licensed (.inl h)) fun _ => trivial
  · exact Prog.All.bind (announce_licensed (.inl h)) fun _ => trivial

theorem updateDevice_licensed (h : auth.Grants .deviceWrite) (deviceData : DeviceWithRefs) :
    (updateDevice deviceData).All (·.Licence auth) :=
  Prog.All.bind (execute_all (Stmt.licensed h)) fun _ => Prog.All.bind (announce_licensed (.inl h)) fun _ => trivial

theorem deleteDevice_licensed (h : auth.Grants .deviceDelete) (id : Int) :
    (deleteDevice id).All (·.Licence auth) :=
  Prog.All.bind (execute_all (Stmt.licensed h)) fun _ =>
    Prog.All.bind (announce_licensed (.inr (.inl h))) fun _ => trivial

theorem notifyThings_licensed (h : auth.Grants .deviceWrite) (device : Device)
    (mudUrlFromGuess collectInfoBefore : Bool) :
    (notifyThings device mudUrlFromGuess collectInfoBefore).All (·.Licence auth) := by
  unfold notifyThings
  split
  · split
    · exact Stmt.licensed h
    · trivial
  · split
    · exact Stmt.licensed h
    · trivial

theorem listDevices_licensed : (listDevices auth).All (·.Licence auth) := by
  refine Prog.All.ofExcept_bind fun _ hlist => Prog.All.ofExcept_bind fun _ hread => ?_
  refine Prog.All.bind (Prog.All.bind (Stmt.licensed ⟨hlist, hread⟩) fun _ => trivial) fun devices => ?_
  exact Prog.All.bind (Prog.All.mapM (loadRefs_licensed (.inr (.inr (.inl hread)))) devices) fun _ => trivial

theorem getDevice_licensed (id : Int) : (DeviceController.getDevice auth id).All (·.Licence auth) :=
  Prog.All.ofExcept_bind fun _ hread => (findDevice_licensed id).bind fun device =>
    Prog.All.bind (loadRefs_licensed (.inr (.inr (.inl hread))) device) fun _ => trivial

theorem createDevice_licensed (dto : DeviceCreationUpdateDto) :
    (DeviceController.createDevice auth dto).All (·.Licence auth) := by
  refine Prog.All.ofExcept_bind fun _ hwrite => (validateDto_licensed dto).bind fun _ => ?_
  have hload (device : Device) : (loadRefs device).All (·.Licence auth) :=
    loadRefs_licensed (.inr (.inr (.inr hwrite))) device
  refine Prog.All.bind (Stmt.licensed trivial) fun t => Prog.All.ofExcept_bind fun device _ => ?_
  refine (hload device).bind fun refs => Prog.All.bind (insertDevice_licensed hwrite refs) fun id => ?_
  exact (findDevice_licensed id).bind fun created => (hload created).bind fun _ => trivial

theorem updateDeviceById_licensed (id : Int) (dto : DeviceCreationUpdateDto) :
    (DeviceController.updateDevice auth id dto).All (·.Licence auth) := by
  refine Prog.All.ofExcept_bind fun _ hwrite => (validateDto_licensed dto).bind fun _ => ?_
  refine (findDevice_licensed id).bind fun device => ?_
  refine Prog.All.bind (loadRefs_licensed (.inr (.inr (.inr hwrite))) _) fun refs => ?_
  exact Prog.All.bind (updateDevice_licensed hwrite refs) fun _ =>
    Prog.All.bind (notifyThings_licensed hwrite _ _ _) fun _ => trivial

theorem deleteDeviceById_licensed (id : Int) : (DeviceController.deleteDevice auth id).All (·.Licence auth) :=
  Prog.All.ofExcept_bind fun _ hdelete => (findDevice_licensed id).bind fun device =>
    Prog.All.bind (deleteDevice_licensed hdelete device.id) fun _ => trivial

theorem guessThing_licensed (id : Int) : (DeviceController.guessThing auth id).All (·.Licence auth) := by
  refine Prog.All.ofExcept_bind fun _ _ => (findDevice_licensed id).bind fun device => ?_
  split <;> trivial

theorem getMuds_licensed (query : MudQueryDto) : (getMuds auth query).All (·.Licence auth) := by
  refine Prog.All.ofExcept_bind fun _ hread => ?_
  split
  · exact Prog.All.bind (orNotFound_all (getOrFetchMud_licensed (.inl hread) _) _) fun _ => trivial
  · exact Prog.All.ofExcept_bind fun _ hlist => Prog.All.bind (Stmt.licensed ⟨hread, hlist⟩) fun _ => trivial

theorem updateMud_licensed (query : MudUpdateQueryDto) (dto : MudUpdateDto) :
    (updateMud auth query dto).All (·.Licence auth) := by
  refine Prog.All.ofExcept_bind fun _ hwrite => Prog.All.bind (Stmt.licensed trivial) fun row => ?_
  cases row with
  | none => trivial
  | some mud =>
      dsimp only
      split
      · trivial
      · have hupsert (row : MudDbo) : (upsertMud row).All (·.Licence auth) :=
          Prog.All.bind (execute_all (Stmt.licensed (.inl hwrite))) fun _ => trivial
        exact (hupsert _).bind fun _ => Prog.All.bind (announce_licensed (.inr (.inr hwrite))) fun _ => trivial

theorem deleteMud_licensed (query : MudUpdateQueryDto) : (deleteMud auth query).All (·.Licence auth) := by
  refine Prog.All.ofExcept_bind fun _ hdelete => Prog.All.bind (Stmt.licensed trivial) fun row => ?_
  split
  · trivial
  · refine Prog.All.bind (Prog.All.bind (Stmt.licensed trivial) fun _ => trivial) fun used => ?_
    split
    · trivial
    · exact Prog.All.bind (Prog.All.bind (execute_all (Stmt.licensed hdelete)) fun _ => trivial) fun _ => trivial

theorem createMud_licensed (dto : MudCreationDto) : (createMud auth dto).All (·.Licence auth) := by
  refine Prog.All.ofExcept_bind fun _ hcreate => Prog.All.bind (Stmt.licensed trivial) fun row => ?_
  split
  · trivial
  · split
    · exact getOrFetchMud_licensed (.inr (.inl hcreate)) _
    · have hinsert (row : MudDbo) : (createMudRow row).All (·.Licence auth) :=
        Prog.All.bind (execute_all (Stmt.licensed hcreate)) fun _ => trivial
      exact Prog.All.bind (Stmt.licensed trivial) fun t => Prog.All.bind (Stmt.licensed trivial) fun createdAt =>
        (hinsert _).bind fun _ => trivial

theorem getConfigsLoop_licensed (configMap : ConfigMap) (keys : List String) :
    (getConfigsLoop configMap keys).All (·.Licence auth) := by
  induction keys generalizing configMap with
  | nil => trivial
  | cons key rest ih =>
      refine (getConfigValue_all trivial).attempt.bind fun found => ?_
      cases found with
      | ok value => exact ih _
      | error e => exact ih _

theorem getConfigs_licensed (query : ConfigQueryDto) : (getConfigs auth query).All (·.Licence auth) := by
  refine Prog.All.ofExcept_bind fun _ hread => ?_
  split
  · exact Prog.All.ofExcept_bind fun _ hlist => Prog.All.bind (Stmt.licensed ⟨hread, hlist⟩) fun _ => trivial
  · exact getConfigsLoop_licensed _ _

theorem setConfigs_licensed (dto : ConfigController.ConfigSetDto) :
    (ConfigController.setConfigs auth dto).All (·.Licence auth) :=
  Prog.All.ofExcept_bind fun _ hwrite =>
    (Prog.All.forM (fun _ => setConfigValue_all (.inl hwrite)) dto.entries).bind fun _ => getConfigsLoop_licensed _ _

theorem deleteConfig_licensed (keys : List String) : (ConfigController.deleteConfig auth keys).All (·.Licence auth) := by
  refine Prog.All.ofExcept_bind fun _ hdelete => ?_
  generalize (fun _ => none : String → Option Bool) = deletionMap
  induction keys generalizing deletionMap with
  | nil => trivial
  | cons key rest ih =>
      have hkey : (deleteConfigKey key).All (·.Licence auth) :=
        Prog.All.bind (execute_all (Stmt.licensed hdelete)) fun _ => trivial
      exact hkey.bind fun value => ih _

/-! ## Handlers -/

/-- An answer that the database can give. -/
def BackendStmt.Possible (s : BackendStmt) (a : s.Answer) : Prop := ∃ b, (s.exec b).1 = a

variable {claims : Claims} {α : Type}

/-- A statement of the database with its answer. -/
abbrev Seen := Answered BackendStmt BackendStmt.Answer

/-- The user was stored, and then was the only one. -/
def FirstUser (seen : List Seen) (id : Int) : Prop :=
  ∃ username password salt, List.Sublist [⟨.account (.insertUser username password salt), .ok id⟩,
    ⟨.account .countUsers, 1⟩] seen

/-- The first user to be stored is made administrator without an assignment. -/
def Promotes (claims : Claims) (seen : List Seen) (s : BackendStmt) : Prop :=
  claims.Grants .userManagementCreate ∧ ∃ id, s = .account (.insertUserRole id roleIdAdmin) ∧ FirstUser seen id

theorem Promotes.append_left {seen : List Seen} {s : BackendStmt} (h : Promotes claims seen s) (more : List Seen) :
    Promotes claims (more ++ seen) s := by
  obtain ⟨hcreate, id, hs, username, password, salt, hsub⟩ := h
  exact ⟨hcreate, id, hs, username, password, salt, hsub.trans (List.sublist_append_right more seen)⟩

/-- The token has the licence for the statement, or the first user is stored. -/
def InOrder (claims : Claims) (seen : List Seen) (s : BackendStmt) : Prop :=
  (∀ x ∈ seen, x.stmt.Possible x.answer) → s.Licence claims ∨ Promotes claims seen s

/-- The handler keeps to the licence of its token, whatever the database answers. -/
abbrev Licensed (claims : Claims) (p : BackendAction α) : Prop := p.Follows (InOrder claims) []

theorem BackendStmt.licensed {s : BackendStmt} (h : s.Licence claims) :
    (BackendAction.stmt s).All (·.Licence claims) := Prog.All.call h

theorem licensed_of_all {p : BackendAction α} (h : p.All (·.Licence claims)) : Licensed claims p :=
  h.follows fun _ _ hs _ => .inl hs

theorem respond_licensed {p : BackendAction α} (h : p.All (·.Licence claims)) : Licensed claims (respond p) :=
  licensed_of_all (h.bind fun _ => trivial)

theorem Licensed.respond {p : BackendAction α} (h : Licensed claims p) : Licensed claims (respond p) :=
  h.bind fun _ _ _ => trivial

section

variable {P : BackendStmt → Prop}

theorem ofAccounts_all {p : AccountAction α} (h : p.All fun s => P (.account s)) : (BackendAction.ofAccounts p).All P :=
  h.lift accountPart fun _ hs => hs

theorem ofWorld_all {p : Action α} (h : p.All fun s => P (.world s)) : (BackendAction.ofWorld p).All P :=
  h.lift worldPart fun _ hs => hs

theorem ofEnforcers_all {p : EnforcerAction α} (h : p.All fun s => P (.enforcer s)) :
    (BackendAction.ofEnforcers p).All P := h.lift enforcerPart fun _ hs => hs

theorem findByUsername_all {username : String} (hfind : P (.selectUserByName username))
    (hroles : ∀ id, P (.account (.selectRolesOf id))) : (UserService.findByUsername username).All P :=
  Prog.All.bind (BackendAction.fetchOne_all (Prog.All.call hfind)) fun user =>
    ofAccounts_all (withRoles_all (hroles user.id))

theorem update_all {user : User} (h : P (.updateUser user.id user.username user.password user.salt)) :
    (UserService.update user).All P :=
  Prog.All.bind (BackendAction.execute_all (Prog.All.call h)) fun _ => trivial

theorem nameTaken_all {username : String} (hfind : P (.selectUserByName username))
    (hroles : ∀ id, P (.account (.selectRolesOf id))) (userId : Int) :
    (ManagementController.nameTaken username userId).All P := by
  refine (findByUsername_all hfind hroles).attempt.bind fun found => ?_
  cases found <;> trivial

theorem findRoom_all {id : Int} (h : P (.world (.selectRoom id))) : (RoomService.findById id).All P := by
  have hfind : (findRoomById id).All fun s => P (.world s) := fetchOne_all (Prog.All.call h)
  exact ofWorld_all hfind

theorem findRoomByName_all {name : String} (h : P (.selectRoomByName name)) : (RoomService.findByName name).All P :=
  BackendAction.fetchOne_all (Prog.All.call h)

theorem nameHolder_all {name : String} (h : P (.selectRoomByName name)) (id : Int) :
    (RoomController.nameHolder name id).All P :=
  (findRoomByName_all h).attempt.bind fun found => by cases found <;> trivial

theorem getRoom_all {id : Int} (h : P (.world (.selectRoom id))) : (RoomController.getRoom claims id).All P :=
  Prog.All.ofExcept_bind fun _ _ => Prog.All.bind (BackendAction.orElse_all (findRoom_all h) _ _) fun _ => trivial

theorem setEnforcerAllowed_all {certId : String} {allowed : Bool}
    (hupdate : P (.enforcer (.updateAllowed allowed certId))) (hselect : P (.enforcer (.selectEnforcer certId))) :
    (BackendAction.ofEnforcers (EnforcerService.setEnforcerAllowed certId allowed)).All P := by
  refine ofEnforcers_all (Prog.All.bind (Prog.All.bind (Prog.All.call hupdate) fun answer => ?_) fun _ => ?_)
  · cases answer <;> trivial
  · exact Prog.All.bind (Prog.All.call hselect) fun row => by cases row <;> trivial

theorem getEnforcer_all {certId : String} (h : P (.enforcer (.selectEnforcer certId))) :
    (EnforcerController.getEnforcer claims certId).All P := by
  refine Prog.All.ofExcept_bind fun _ _ => ofEnforcers_all ?_
  exact Prog.All.bind (Prog.All.call h) fun row => by cases row <;> trivial

end

/-- The user that is found by an id has it. -/
theorem findById_returns {id : Int} {user : User}
    (h : (BackendAction.ofAccounts (UserService.findById id)).Returns BackendStmt.Possible (.ok user)) :
    user.id = id := by
  obtain ⟨seen, hseen, hpath⟩ := h
  obtain ⟨answer, rest, rfl, hrest⟩ := Prog.Path.of_stmt hpath
  obtain ⟨b, hb⟩ := (List.forall_mem_cons.mp hseen).1
  cases answer with
  | none => exact nomatch (hrest.of_done).2
  | some row =>
      obtain ⟨roles, rest', rfl, hrest'⟩ := Prog.Path.of_stmt hrest
      obtain rfl := Except.ok.inj (Prog.done.inj hrest'.of_done.2)
      have hfind : b.accounts.userById id = some row := hb
      have hid : row.id = id := by simpa using List.find?_some hfind
      exact hid

theorem updateMe_under (dto : UpdateUserDto) :
    (UsersController.updateMe claims dto).AllUnder BackendStmt.Possible (·.Licence claims) := by
  unfold UsersController.updateMe BackendAction.validated
  cases dto.validate with
  | false => trivial
  | true =>
      show Prog.AllUnder _ _ (BackendAction.ofAccounts (UserService.findById claims.sub) >>= _)
      refine Prog.AllUnder.bind (ofAccounts_all (findById_all trivial fun _ => trivial)).under fun user huser => ?_
      have hown : user.id = claims.sub := findById_returns huser
      have hupdate : (UserService.update { user with username := dto.username.getD user.username }).All
          (·.Licence claims) := update_all (.inl hown)
      exact Prog.All.under (hupdate.bind fun _ => trivial)

theorem updateMe_licensed (dto : UpdateUserDto) : Licensed claims (UsersController.updateMe claims dto) :=
  Prog.AllUnder.follows (fun _ => updateMe_under dto) fun _ _ hs hseen => .inl (hs hseen)

/-! ### Creating a user -/

omit [Platform] in
/-- A user is stored, counted, and made an administrator after a count of one. -/
theorem insert_follows {J : List (Answered AccountStmt AccountStmt.Answer) → AccountStmt → Prop}
    {seen : List (Answered AccountStmt AccountStmt.Answer)} {user : User}
    (hinsert : J seen (.insertUser user.username user.password user.salt))
    (hcount : ∀ later, J (seen ++ later) .countUsers)
    (hpromote : ∀ id, J (seen ++ [⟨.insertUser user.username user.password user.salt, .ok id⟩,
      ⟨.countUsers, 1⟩]) (.insertUserRole id roleIdAdmin)) : (UserService.insert user).Follows J seen := by
  rw [insert_eq]
  refine ⟨hinsert, fun answer => ?_⟩
  cases answer with
  | error e => trivial
  | ok id =>
      refine ⟨hcount _, fun count => ?_⟩
      by_cases hone : count = 1
      · subst hone
        refine ⟨?_, fun answer => by cases answer <;> trivial⟩
        rw [List.append_assoc]
        exact hpromote id
      · rw [promoteFirst_ne_one hone]
        trivial

/-- What a call of the accounts has seen, as the request sees it. -/
theorem copies_account {l : List (Answered AccountStmt AccountStmt.Answer)} {l' : List Seen}
    (h : l.Forall₂ (Prog.Copies accountPart) l') : l' = l.map fun x => ⟨.account x.stmt, x.answer⟩ := by
  induction h with
  | nil => rfl
  | cons hx _ ih =>
      obtain ⟨a', rfl, ha⟩ := hx
      rw [ih, List.map_cons, ← ha]
      rfl

/-- What the accounts are asked, as the request asks it. -/
theorem ofAccounts_follows {α : Type} {J : List Seen → BackendStmt → Prop} {seen : List Seen} {p : AccountAction α}
    (h : p.Follows (fun later s => J (seen ++ later.map fun x => ⟨.account x.stmt, x.answer⟩) (.account s)) []) :
    (BackendAction.ofAccounts p).Follows J seen := by
  refine h.lift accountPart fun later later' s hcopies hs => ?_
  rw [copies_account hcopies]
  exact hs

theorem createUser_licensed (hashEncoded : String → List UInt8 → Option String) (salt : Salt) (utcNow : DateTime)
    (dto : MgmCreateUserDto) :
    Licensed claims (.ofAccounts (createUser hashEncoded salt utcNow claims.toAuthToken dto)) := by
  refine ofAccounts_follows (Prog.Follows.ofExcept_bind fun _ hcreate => ?_)
  split
  · trivial
  · refine Prog.Follows.ofExcept_bind fun user _ => Prog.Follows.bind ?_ fun newUserId before _ => ?_
    · exact insert_follows (fun _ => .inl hcreate) (fun _ _ => .inl trivial) fun id _ =>
        .inr ⟨hcreate, id, rfl, _, _, _, .refl _⟩
    · have hrest : Prog.All (·.Licence claims.toAuthToken) (do
          if (requireOneOf .roleAssign claims.permissions).isOk then
            dto.rolesIds.forM (RoleService.addRoleToUser newUserId)
          UserService.findById newUserId) := by
        split
        · next hassign =>
            have hgrants : claims.Grants .roleAssign := by
              unfold AuthToken.Grants
              cases hr : requireOneOf .roleAssign claims.permissions with
              | ok u => rfl
              | error e =>
                  rw [hr] at hassign
                  cases hassign
            exact Prog.All.bind (Prog.All.forM (fun _ => addRoleToUser_all hgrants) _) fun _ =>
              findById_all trivial fun _ => trivial
        · exact findById_all trivial fun _ => trivial
      exact hrest.follows fun _ _ hs _ => .inl hs

/-! ### Rooms and enforcers -/

theorem getAllDevicesInsideRoom_licensed (id : Int) :
    (RoomController.getAllDevicesInsideRoom claims id).All (·.Licence claims) := by
  refine Prog.All.ofExcept_bind fun _ hroom => Prog.All.ofExcept_bind fun _ hlist => ?_
  refine Prog.All.ofExcept_bind fun _ hread => ?_
  have hdevices : (RoomService.getAllDevicesInsideRoom id).All (·.Licence claims) :=
    Prog.All.bind (BackendStmt.licensed ⟨hroom, hlist, hread⟩) fun _ => trivial
  have hload (devices : List Device) : (devices.mapM loadRefs).All (·.Licence claims.toAuthToken) :=
    Prog.All.mapM (loadRefs_licensed (.inr (.inr (.inl hread)))) devices
  refine Prog.All.bind (BackendAction.orElse_all (findRoom_all trivial) _ _) fun _ => ?_
  refine Prog.All.bind (BackendAction.orElse_all hdevices _ _) fun devices => ?_
  exact Prog.All.bind (ofWorld_all (hload devices)) fun _ => trivial

theorem createRoom_licensed (dto : RoomCreationUpdateDto) :
    (RoomController.createRoom claims dto).All (·.Licence claims) := by
  refine Prog.All.ofExcept_bind fun _ hwrite => BackendAction.validated_bind_all ?_
  refine (findRoomByName_all trivial).attempt.bind fun found => ?_
  cases found with
  | ok room => trivial
  | error e =>
      refine Prog.All.bind (BackendAction.execute_all (BackendStmt.licensed hwrite)) fun _ => ?_
      exact Prog.All.bind (BackendAction.orElse_all (findRoomByName_all trivial) _ _) fun _ => trivial

theorem updateRoom_licensed (id : Int) (dto : RoomCreationUpdateDto) :
    (RoomController.updateRoom claims id dto).All (·.Licence claims) := by
  refine Prog.All.ofExcept_bind fun _ hwrite => BackendAction.validated_bind_all ?_
  have hupdate (room : Room) : (RoomService.update room).All (·.Licence claims) :=
    Prog.All.bind (BackendAction.execute_all (BackendStmt.licensed hwrite)) fun _ => trivial
  refine (nameHolder_all trivial id).bind fun holder => ?_
  split
  · trivial
  · refine Prog.All.bind (BackendAction.orElse_all (hupdate _) _ _) fun updated => ?_
    split <;> trivial

theorem deleteRoom_licensed (id : Int) : (RoomController.deleteRoom claims id).All (·.Licence claims) := by
  refine Prog.All.ofExcept_bind fun _ hdelete => ?_
  refine Prog.All.bind (BackendAction.orElse_all (findRoom_all trivial) _ _) fun room => ?_
  exact Prog.All.bind (BackendAction.execute_all (BackendStmt.licensed hdelete)) fun _ => trivial

section

variable [Crypto]

theorem expectSecret_all {P : BackendStmt → Prop} (h : P (.world (.selectConfig jwtSecret))) : expectSecret.All P := by
  rw [expectSecret_eq]
  refine ⟨h, fun found => ?_⟩
  cases found with
  | none => trivial
  | some row =>
      dsimp only
      split <;> trivial

theorem encodeToken_all {P : BackendStmt → Prop} (h : P (.world (.selectConfig jwtSecret))) (auth : Claims) :
    (encodeToken auth).All P := (expectSecret_all h).bind fun _ => trivial

theorem refreshToken_licensed : (UsersController.refreshToken claims).All (·.Licence claims) := by
  refine (BackendAction.orElse_all (ofAccounts_all (findById_all trivial fun _ => trivial)) _ _).bind fun user => ?_
  refine Prog.All.bind (BackendStmt.licensed trivial) fun timeNow => ?_
  exact Prog.All.bind (encodeToken_all trivial _) fun _ => trivial

theorem updatePassword_licensed (salt : Salt) (dto : UpdatePasswordDto) :
    (UsersController.updatePassword claims salt dto).All (·.Licence claims) := by
  refine BackendAction.validated_bind_all ((ofAccounts_all (findById_all trivial fun _ => trivial)).bind fun user => ?_)
  have hupdate : (UserService.updatePassword claims.sub salt dto.newPassword).All (·.Licence claims) :=
    Prog.All.ofExcept_bind fun hash _ =>
      Prog.All.bind (BackendAction.execute_all (BackendStmt.licensed rfl)) fun _ => trivial
  split
  · trivial
  · exact hupdate.bind fun _ => trivial

theorem updateUserById_licensed (salt : Salt) (userId : Int) (dto : ManagementController.MgmUpdateUserBasicDto) :
    (ManagementController.updateUserById claims salt userId dto).All (·.Licence claims) := by
  refine Prog.All.ofExcept_bind fun _ hwrite => BackendAction.validated_bind_all ?_
  refine (nameTaken_all trivial (fun _ => trivial) _).bind fun taken => ?_
  split
  · trivial
  · refine (ofAccounts_all (findById_all trivial fun _ => trivial)).bind fun user =>
      Prog.All.ofExcept_bind fun user' _ => ?_
    exact Prog.All.bind (update_all (.inr hwrite)) fun _ => trivial

/-- **No handler goes beyond its token.** -/
theorem ApiEndpoint.handler_licensed (claims : Claims) (endpoint : ApiEndpoint) :
    Licensed claims (endpoint.handler claims) := by
  cases endpoint with
  | refreshToken => exact licensed_of_all (Prog.All.bind refreshToken_licensed fun _ => trivial)
  | getMe => exact respond_licensed (ofAccounts_all (findById_all trivial fun _ => trivial))
  | updateMe dto => exact (updateMe_licensed dto).respond
  | updatePassword salt dto => exact respond_licensed (updatePassword_licensed salt dto)
  | getUsersConfigs => exact respond_licensed (Prog.All.bind ⟨rfl, fun _ => trivial⟩ fun _ => trivial)
  | getUsersConfig key =>
      have hrow : (UserConfigService.getConfigForUser claims.sub key).All (·.Licence claims) :=
        BackendAction.fetchOne_all ⟨rfl, fun _ => trivial⟩
      exact respond_licensed (Prog.All.bind (BackendAction.orElse_all hrow _ _) fun _ => trivial)
  | setUsersConfig key dto =>
      exact respond_licensed (Prog.All.bind (BackendAction.execute_all (BackendStmt.licensed rfl)) fun _ => trivial)
  | deleteUsersConfig key =>
      exact respond_licensed (Prog.All.bind (Prog.All.bind (BackendAction.execute_all
        (BackendStmt.licensed rfl)) fun _ => trivial) fun _ => trivial)
  | getAllUsers =>
      exact respond_licensed (Prog.All.ofExcept_bind fun _ hlist =>
        ofAccounts_all (Prog.All.bind (Prog.All.call hlist) fun _ => trivial))
  | getUserById userId =>
      exact respond_licensed (Prog.All.ofExcept_bind fun _ _ => ofAccounts_all (findById_all trivial fun _ => trivial))
  | createUser salt utcNow dto => exact (createUser_licensed _ _ _ _).respond
  | updateUserById salt userId dto => exact respond_licensed (updateUserById_licensed salt userId dto)
  | deleteUserById userId =>
      refine respond_licensed (Prog.All.ofExcept_bind fun _ hdelete => ?_)
      exact (ofAccounts_all (deleteUser_all hdelete)).bind fun _ => trivial
  | getRoles =>
      exact respond_licensed (Prog.All.ofExcept_bind fun _ hlist =>
        ofAccounts_all (Prog.All.bind (Prog.All.call hlist) fun _ => trivial))
  | getRole roleId =>
      exact respond_licensed (Prog.All.ofExcept_bind fun _ _ => ofAccounts_all (roleGet_all trivial))
  | createRole dto =>
      exact respond_licensed (ofAccounts_all (createRole_all (fun hwrite _ _ => hwrite) fun _ => trivial))
  | editRole roleId dto => exact respond_licensed (ofAccounts_all (editRole_all trivial fun hwrite _ => hwrite))
  | deleteRole roleId => exact respond_licensed (ofAccounts_all (deleteRole_all id))
  | assignRole dto =>
      exact respond_licensed (Prog.All.ofExcept_bind fun _ hassign =>
        ofAccounts_all (addRoleToUser_all hassign))
  | unassignRole dto =>
      exact respond_licensed (Prog.All.ofExcept_bind fun _ hassign =>
        ofAccounts_all (roleDeleteFromUser_all trivial fun _ => hassign))
  | availablePermissions => trivial
  | getConfigs query => exact respond_licensed (ofWorld_all (getConfigs_licensed query))
  | setConfigs dto => exact respond_licensed (ofWorld_all (setConfigs_licensed dto))
  | deleteConfig keys => exact respond_licensed (ofWorld_all (deleteConfig_licensed keys))
  | getAllDevices => exact respond_licensed (ofWorld_all listDevices_licensed)
  | getDevice id => exact respond_licensed (ofWorld_all (getDevice_licensed id))
  | createDevice dto => exact respond_licensed (ofWorld_all (createDevice_licensed dto))
  | updateDevice id dto => exact respond_licensed (ofWorld_all (updateDeviceById_licensed id dto))
  | deleteDevice id => exact respond_licensed (ofWorld_all (deleteDeviceById_licensed id))
  | guessThing id => exact respond_licensed (ofWorld_all (guessThing_licensed id))
  | getMuds query => exact respond_licensed (ofWorld_all (getMuds_licensed query))
  | updateMud query dto => exact respond_licensed (ofWorld_all (updateMud_licensed query dto))
  | deleteMud query => exact respond_licensed (ofWorld_all (deleteMud_licensed query))
  | createMud dto => exact respond_licensed (ofWorld_all (createMud_licensed dto))
  | getAllRooms =>
      exact respond_licensed (Prog.All.ofExcept_bind fun _ hlist => Prog.All.ofExcept_bind fun _ hread =>
        Prog.All.bind (BackendStmt.licensed ⟨hlist, hread⟩) fun _ => trivial)
  | getRoom id => exact respond_licensed (getRoom_all trivial)
  | getAllDevicesInsideRoom id => exact respond_licensed (getAllDevicesInsideRoom_licensed id)
  | createRoom dto => exact respond_licensed (createRoom_licensed dto)
  | updateRoom id dto => exact respond_licensed (updateRoom_licensed id dto)
  | deleteRoom id => exact respond_licensed (deleteRoom_licensed id)
  | getEnforcers =>
      exact respond_licensed (Prog.All.ofExcept_bind fun _ hread => Prog.All.ofExcept_bind fun _ hlist =>
        BackendStmt.licensed ⟨hread, hlist⟩)
  | getEnforcer certId => exact respond_licensed (getEnforcer_all trivial)
  | updateEnforcer certId allowed =>
      exact respond_licensed (Prog.All.ofExcept_bind fun _ hupdate => setEnforcerAllowed_all hupdate trivial)

end

end MudController
