import MudController.Access.Provenance

/-!
# `Access.Origin` — what a request writes is what it asks for

The users' credentials and settings, the rooms and the decisions about enforcers are written by few endpoints, each
of which writes what its request names, or what it has read for it. `ApiEndpoint.Asks` is the table of them. Whoever
finds such a write in a run finds the request for it, with its accepted token and the licence of it (`exists_asked`).
-/

namespace MudController

open Logic

variable [Platform]

/-! ## The table -/

/-- The statement adds and deletes no user. -/
def AccountStmt.Idle : AccountStmt → Prop
  | .insertUser _ _ _ => False
  | .deleteUser _ => False
  | _ => True

/-- The statement is no decision. -/
def EnforcerStmt.Idle : EnforcerStmt → Prop
  | .updateAllowed _ _ => False
  | _ => True

/-- The statement leaves credentials, settings, rooms and decisions alone. -/
def BackendStmt.Idle : BackendStmt → Prop
  | .account s => s.Idle
  | .world _ => True
  | .enforcer s => s.Idle
  | .updateUser _ _ _ _ => False
  | .updatePassword _ _ _ => False
  | .upsertUserConfig _ => False
  | .deleteUserConfig _ _ => False
  | .insertRoom _ _ => False
  | .updateRoom _ => False
  | .deleteRoom _ => False
  | _ => True

variable [Crypto]

/-- The endpoint is there to execute the statement, given what the request has seen. -/
inductive ApiEndpoint.Asks (auth : Claims) : ApiEndpoint → List Seen → BackendStmt → Prop where
  | idle {endpoint : ApiEndpoint} {seen : List Seen} {s : BackendStmt} (h : s.Idle) : Asks auth endpoint seen s
  | createUser {salt : Salt} {utcNow : DateTime} {dto : MgmCreateUserDto} {seen : List Seen} {hash : String}
      (hhash : Crypto.hashEncoded dto.password salt.bytes = some hash) :
      Asks auth (.createUser salt utcNow dto) seen (.account (.insertUser dto.username hash salt.bytes))
  | deleteUser {id : Int} {seen : List Seen} : Asks auth (.deleteUserById id) seen (.account (.deleteUser id))
  -- the credentials are written back as they were read
  | updateMe {dto : UpdateUserDto} {seen : List Seen} {row : UserDbo}
      (hread : ⟨.account (.selectUserById auth.sub), some row⟩ ∈ seen) :
      Asks auth (.updateMe dto) seen
        (.updateUser row.id (dto.username.getD row.username) row.password row.salt)
  | renameUser {salt : Salt} {id : Int} {dto : ManagementController.MgmUpdateUserBasicDto} {seen : List Seen}
      {row : UserDbo} (hread : ⟨.account (.selectUserById id), some row⟩ ∈ seen) (hkept : dto.password = none)
      (hgrants : auth.Grants .userManagementWrite) :
      Asks auth (.updateUserById salt id dto) seen (.updateUser row.id dto.username row.password row.salt)
  | resetPassword {salt : Salt} {id : Int} {dto : ManagementController.MgmUpdateUserBasicDto} {seen : List Seen}
      {row : UserDbo} {password hash : String} (hread : ⟨.account (.selectUserById id), some row⟩ ∈ seen)
      (hnew : dto.password = some password) (hhash : Crypto.hashEncoded password salt.bytes = some hash)
      (hgrants : auth.Grants .userManagementWrite) :
      Asks auth (.updateUserById salt id dto) seen (.updateUser row.id dto.username hash salt.bytes)
  | updatePassword {salt : Salt} {dto : UpdatePasswordDto} {seen : List Seen} {row : UserDbo} {hash : String}
      (hread : ⟨.account (.selectUserById auth.sub), some row⟩ ∈ seen)
      (hold : Crypto.verifyEncoded row.password dto.oldPassword = some true)
      (hhash : Crypto.hashEncoded dto.newPassword salt.bytes = some hash) :
      Asks auth (.updatePassword salt dto) seen (.updatePassword auth.sub hash salt.bytes)
  | setConfig {key : String} {dto : UserConfigValueDto} {seen : List Seen} :
      Asks auth (.setUsersConfig key dto) seen (.upsertUserConfig ⟨key, auth.sub, dto.value⟩)
  | deleteConfig {key : String} {seen : List Seen} :
      Asks auth (.deleteUsersConfig key) seen (.deleteUserConfig key auth.sub)
  | createRoom {dto : RoomCreationUpdateDto} {seen : List Seen} :
      Asks auth (.createRoom dto) seen (.insertRoom dto.name dto.color)
  | updateRoom {id : Int} {dto : RoomCreationUpdateDto} {seen : List Seen} :
      Asks auth (.updateRoom id dto) seen (.updateRoom (dto.intoRoom id))
  -- the room is deleted by the name that it was read under
  | deleteRoom {id : Int} {seen : List Seen} {room : Room} (hread : ⟨.world (.selectRoom id), some room⟩ ∈ seen) :
      Asks auth (.deleteRoom id) seen (.deleteRoom room.name)
  | decision {certId : String} {allowed : Bool} {seen : List Seen} :
      Asks auth (.updateEnforcer certId allowed) seen (.enforcer (.updateAllowed allowed certId))

theorem ApiEndpoint.Asks.append_left {auth : Claims} {endpoint : ApiEndpoint} {seen : List Seen} {s : BackendStmt}
    (h : endpoint.Asks auth seen s) (more : List Seen) : endpoint.Asks auth (more ++ seen) s := by
  have hmem {x : Seen} (hx : x ∈ seen) : x ∈ more ++ seen := List.mem_append_right more hx
  cases h with
  | idle h => exact .idle h
  | createUser hhash => exact .createUser hhash
  | deleteUser => exact .deleteUser
  | updateMe hread => exact .updateMe (hmem hread)
  | renameUser hread hkept hgrants => exact .renameUser (hmem hread) hkept hgrants
  | resetPassword hread hnew hhash hgrants => exact .resetPassword (hmem hread) hnew hhash hgrants
  | updatePassword hread hold hhash => exact .updatePassword (hmem hread) hold hhash
  | setConfig => exact .setConfig
  | deleteConfig => exact .deleteConfig
  | createRoom => exact .createRoom
  | updateRoom => exact .updateRoom
  | deleteRoom hread => exact .deleteRoom (hmem hread)
  | decision => exact .decision

/-! ## The handlers -/

variable {auth : Claims} {endpoint : ApiEndpoint} {α : Type}

theorem asks_of_idle {p : BackendAction α} {seen : List Seen} (h : p.All BackendStmt.Idle) :
    p.Follows (endpoint.Asks auth) seen := h.follows fun _ _ hs => .idle hs

theorem respond_asks {p : BackendAction α} {seen : List Seen} (h : p.Follows (endpoint.Asks auth) seen) :
    (respond p).Follows (endpoint.Asks auth) seen := h.bind fun _ _ _ => trivial

omit [Crypto] in
theorem respond_idle {p : BackendAction α} (h : p.All BackendStmt.Idle) : (respond p).All BackendStmt.Idle :=
  Prog.All.bind h fun _ => trivial

omit [Crypto] in
/-- The main world has none of them. -/
theorem ofWorld_idle (p : Action α) : (BackendAction.ofWorld p).All BackendStmt.Idle :=
  ofWorld_all (Prog.All.of_forall (fun _ => trivial) p)

omit [Crypto] in
theorem respond_ofWorld_idle (p : Action α) : (respond (.ofWorld p)).All BackendStmt.Idle :=
  respond_idle (ofWorld_idle p)

omit [Crypto] in
theorem ofFindById_idle (id : Int) :
    (BackendAction.ofAccounts (UserService.findById id)).All BackendStmt.Idle :=
  ofAccounts_all (findById_all trivial fun _ => trivial)

/-- The one write of a request, and then its response. -/
theorem write_asks {n : Type} {s : BackendStmt} {seen : List Seen} {f : s.Answer → BackendAction n}
    (h : endpoint.Asks auth seen s) (hf : ∀ a, (f a).All BackendStmt.Idle) :
    Prog.Follows (endpoint.Asks auth) seen (Prog.stmt s f) :=
  ⟨h, fun a => asks_of_idle (hf a)⟩

theorem updateMe_asks (dto : UpdateUserDto) :
    (UsersController.updateMe auth dto).Follows (ApiEndpoint.Asks auth (.updateMe dto)) [] := by
  refine validated_follows fun _ => Prog.Follows.bind (asks_of_idle (ofFindById_idle _)) fun user before hbefore => ?_
  obtain ⟨row, roles, rfl, rfl⟩ := findById_path hbefore
  refine write_asks (.updateMe List.mem_cons_self) fun answer => ?_
  cases answer <;> trivial

omit [Platform] in
theorem hashPassword_eq {password hash : String} {salt : List UInt8} (h : hashPassword password salt = .ok hash) :
    Crypto.hashEncoded password salt = some hash := by
  unfold hashPassword at h
  cases hhash : Crypto.hashEncoded password salt with
  | none => simp [hhash] at h
  | some hash' => simpa [hhash] using h

omit [Platform] in
/-- A user with another password. -/
theorem updatePassword_eq {user user' : User} {salt : Salt} {password : String}
    (h : user.updatePassword salt password = .ok user') :
    ∃ hash, Crypto.hashEncoded password salt.bytes = some hash ∧
      user' = { user with salt := salt.bytes, password := hash } := by
  unfold User.updatePassword at h
  cases hhash : hashPassword password salt.bytes with
  | error e =>
      rw [hhash] at h
      cases h
  | ok hash =>
      rw [hhash] at h
      cases h
      exact ⟨hash, hashPassword_eq hhash, rfl⟩

theorem updatePassword_asks (salt : Salt) (dto : UpdatePasswordDto) :
    (UsersController.updatePassword auth salt dto).Follows (ApiEndpoint.Asks auth (.updatePassword salt dto)) [] := by
  refine validated_follows fun _ => Prog.Follows.bind (asks_of_idle (ofFindById_idle _)) fun user before hbefore => ?_
  obtain ⟨row, roles, rfl, rfl⟩ := findById_path hbefore
  split
  · trivial
  · next hverify =>
      refine Prog.Follows.bind (Prog.Follows.ofExcept_bind fun hash hhash => ?_) fun _ _ _ => trivial
      refine write_asks (.updatePassword List.mem_cons_self (verified_eq hverify) (hashPassword_eq hhash)) ?_
      rintro (_ | _) <;> trivial

theorem updateUserById_asks (salt : Salt) (id : Int) (dto : ManagementController.MgmUpdateUserBasicDto) :
    (ManagementController.updateUserById auth salt id dto).Follows
      (ApiEndpoint.Asks auth (.updateUserById salt id dto)) [] := by
  refine Prog.Follows.ofExcept_bind fun _ hgrants => validated_follows fun _ => ?_
  refine Prog.Follows.bind (asks_of_idle (nameTaken_all trivial (fun _ => trivial) id)) fun taken before _ => ?_
  split
  · trivial
  · refine Prog.Follows.bind (asks_of_idle (ofFindById_idle id)) fun user read hread => ?_
    obtain ⟨row, roles, rfl, rfl⟩ := findById_path hread
    have hmem : (⟨.account (.selectUserById id), some row⟩ : Seen) ∈
        [] ++ before ++ [⟨.account (.selectUserById id), some row⟩, Seen.roles row.id roles] := by simp
    refine Prog.Follows.ofExcept_bind fun user' huser' => Prog.Follows.bind ?_ fun _ _ _ => trivial
    cases hpassword : dto.password with
    | none =>
        rw [hpassword] at huser'
        obtain rfl := Except.ok.inj huser'
        refine write_asks (.renameUser hmem hpassword hgrants) ?_
        rintro (_ | _) <;> trivial
    | some password =>
        rw [hpassword] at huser'
        obtain ⟨hash, hhash, rfl⟩ := updatePassword_eq huser'
        refine write_asks (.resetPassword hmem hpassword hhash hgrants) ?_
        rintro (_ | _) <;> trivial

theorem createUser_asks (salt : Salt) (utcNow : DateTime) (dto : MgmCreateUserDto) :
    Prog.Follows (ApiEndpoint.Asks auth (.createUser salt utcNow dto)) []
      (BackendAction.ofAccounts (createUser Crypto.hashEncoded salt utcNow auth.toAuthToken dto)) := by
  refine ofAccounts_follows (Prog.Follows.ofExcept_bind fun _ _ => ?_)
  split
  · trivial
  · refine Prog.Follows.ofExcept_bind fun user huser => ?_
    obtain ⟨hname, hsalt, hhash⟩ := new_eq huser
    refine Prog.Follows.bind ?_ fun newUserId before _ => ?_
    · refine insert_follows ?_ (fun _ => .idle trivial) fun _ => .idle trivial
      rw [hname, hsalt]
      exact .createUser hhash
    · have hrest : Prog.All AccountStmt.Idle (do
          if (requireOneOf .roleAssign auth.permissions).isOk then
            dto.rolesIds.forM (RoleService.addRoleToUser newUserId)
          UserService.findById newUserId) := by
        split
        · exact Prog.All.bind (Prog.All.forM (fun _ => addRoleToUser_all trivial) _) fun _ =>
            findById_all trivial fun _ => trivial
        · exact findById_all trivial fun _ => trivial
      exact hrest.follows fun _ _ hs => .idle hs

omit [Crypto] in
/-- The roles of users are another matter. -/
theorem respond_ofAccounts_idle {p : AccountAction α} (h : p.All AccountStmt.Idle) :
    (respond (.ofAccounts p)).All BackendStmt.Idle := respond_idle (ofAccounts_all h)

/-! ### Rooms -/

theorem createRoom_asks (dto : RoomCreationUpdateDto) :
    (RoomController.createRoom auth dto).Follows (ApiEndpoint.Asks auth (.createRoom dto)) [] := by
  refine Prog.Follows.ofExcept_bind fun _ _ => validated_follows fun _ => ?_
  refine Prog.Follows.bind (asks_of_idle (findRoomByName_all trivial).attempt) fun found _ _ => ?_
  cases found with
  | ok room => trivial
  | error e =>
      have hread : (BackendAction.orElse (RoomService.findByName dto.name) 404
          (some "Could not insert room.")).All BackendStmt.Idle :=
        BackendAction.orElse_all (findRoomByName_all trivial) _ _
      refine Prog.Follows.bind (write_asks .createRoom ?_) fun _ _ _ => ?_
      · rintro (_ | _) <;> trivial
      · exact asks_of_idle (Prog.All.bind hread fun _ => trivial)

theorem updateRoom_asks (id : Int) (dto : RoomCreationUpdateDto) :
    (RoomController.updateRoom auth id dto).Follows (ApiEndpoint.Asks auth (.updateRoom id dto)) [] := by
  refine Prog.Follows.ofExcept_bind fun _ _ => validated_follows fun _ => ?_
  refine Prog.Follows.bind (asks_of_idle (nameHolder_all trivial id)) fun holder _ _ => ?_
  split
  · trivial
  · refine Prog.Follows.bind (orElse_follows (write_asks .updateRoom ?_) _ _) fun updated _ _ => ?_
    · rintro (_ | _) <;> trivial
    · split <;> trivial

theorem deleteRoom_asks (id : Int) :
    (RoomController.deleteRoom auth id).Follows (ApiEndpoint.Asks auth (.deleteRoom id)) [] := by
  refine Prog.Follows.ofExcept_bind fun _ _ => ?_
  refine Prog.Follows.bind (asks_of_idle (BackendAction.orElse_all (findRoom_all trivial) _ _))
    fun room before hbefore => ?_
  obtain ⟨found, rest, rfl, hrest⟩ := Prog.Path.of_stmt (BackendAction.orElse_path hbefore)
  cases found with
  | none => exact nomatch hrest.of_done.2
  | some row =>
      obtain ⟨rfl, hroom⟩ := hrest.of_done
      obtain rfl := Except.ok.inj (Prog.done.inj hroom)
      refine write_asks (.deleteRoom List.mem_cons_self) ?_
      rintro (_ | _) <;> trivial

/-! ### All of them -/

/-- **What a handler is there for.** -/
theorem ApiEndpoint.handler_asks (auth : Claims) (endpoint : ApiEndpoint) :
    (endpoint.handler auth).Follows (endpoint.Asks auth) [] := by
  cases endpoint with
  | refreshToken =>
      have hread : (UsersController.refreshToken auth).All BackendStmt.Idle := by
        refine Prog.All.bind (BackendAction.orElse_all (ofFindById_idle _) _ _) fun user => ?_
        exact ⟨trivial, fun t => (encodeToken_all trivial _).bind fun _ => trivial⟩
      exact asks_of_idle (hread.bind fun _ => trivial)
  | getMe => exact asks_of_idle (respond_idle (ofFindById_idle _))
  | updateMe dto => exact respond_asks (updateMe_asks dto)
  | updatePassword salt dto => exact respond_asks (updatePassword_asks salt dto)
  | getUsersConfigs => exact asks_of_idle (respond_idle ⟨trivial, fun _ => trivial⟩)
  | getUsersConfig key =>
      have hread : (UserConfigService.getConfigForUser auth.sub key).All BackendStmt.Idle :=
        BackendAction.fetchOne_all ⟨trivial, fun _ => trivial⟩
      exact asks_of_idle (respond_idle (Prog.All.bind (BackendAction.orElse_all hread _ _) fun _ => trivial))
  | setUsersConfig key dto =>
      refine respond_asks (write_asks .setConfig ?_)
      rintro (_ | _) <;> trivial
  | deleteUsersConfig key =>
      refine respond_asks (write_asks .deleteConfig ?_)
      rintro (_ | _) <;> trivial
  | getAllUsers =>
      exact asks_of_idle (respond_idle (Prog.All.ofExcept_bind fun _ _ =>
        ofAccounts_all (Prog.All.bind (Prog.All.call trivial) fun _ => trivial)))
  | getUserById userId =>
      exact asks_of_idle (respond_idle (Prog.All.ofExcept_bind fun _ _ => ofFindById_idle userId))
  | createUser salt utcNow dto => exact respond_asks (createUser_asks salt utcNow dto)
  | updateUserById salt userId dto => exact respond_asks (updateUserById_asks salt userId dto)
  | deleteUserById userId =>
      refine respond_asks (Prog.Follows.ofExcept_bind fun _ _ => write_asks .deleteUser ?_)
      rintro (_ | _) <;> trivial
  | getRoles =>
      exact asks_of_idle (respond_idle (Prog.All.ofExcept_bind fun _ _ =>
        ofAccounts_all (Prog.All.bind (Prog.All.call trivial) fun _ => trivial)))
  | getRole roleId =>
      exact asks_of_idle (respond_idle (Prog.All.ofExcept_bind fun _ _ => ofAccounts_all (roleGet_all trivial)))
  | createRole dto =>
      exact asks_of_idle (respond_ofAccounts_idle (createRole_all (fun _ _ _ => trivial) fun _ => trivial))
  | editRole roleId dto =>
      exact asks_of_idle (respond_ofAccounts_idle (editRole_all trivial fun _ _ => trivial))
  | deleteRole roleId => exact asks_of_idle (respond_ofAccounts_idle (deleteRole_all fun _ => trivial))
  | assignRole dto =>
      exact asks_of_idle (respond_idle (Prog.All.ofExcept_bind fun _ _ => ofAccounts_all (addRoleToUser_all trivial)))
  | unassignRole dto =>
      exact asks_of_idle (respond_idle (Prog.All.ofExcept_bind fun _ _ =>
        ofAccounts_all (roleDeleteFromUser_all trivial fun _ => trivial)))
  | availablePermissions => exact asks_of_idle (respond_idle trivial)
  | getConfigs query | setConfigs dto | deleteConfig keys | getAllDevices | getDevice id | createDevice dto
  | updateDevice id dto | deleteDevice id | guessThing id | getMuds query | updateMud query dto | deleteMud query
  | createMud dto => exact asks_of_idle (respond_ofWorld_idle _)
  | getAllRooms =>
      exact asks_of_idle (respond_idle (Prog.All.ofExcept_bind fun _ _ => Prog.All.ofExcept_bind fun _ _ =>
        ⟨trivial, fun _ => trivial⟩))
  | getRoom id => exact asks_of_idle (respond_idle (getRoom_all trivial))
  | getAllDevicesInsideRoom id =>
      have hdevices : (RoomService.getAllDevicesInsideRoom id).All BackendStmt.Idle := ⟨trivial, fun _ => trivial⟩
      refine asks_of_idle (respond_idle (Prog.All.ofExcept_bind fun _ _ => Prog.All.ofExcept_bind fun _ _ => ?_))
      refine Prog.All.ofExcept_bind fun _ _ => Prog.All.bind (BackendAction.orElse_all (findRoom_all trivial) _ _) ?_
      intro room
      refine Prog.All.bind (BackendAction.orElse_all hdevices _ _) fun devices => ?_
      exact Prog.All.bind (ofWorld_idle _) fun _ => trivial
  | createRoom dto => exact respond_asks (createRoom_asks dto)
  | updateRoom id dto => exact respond_asks (updateRoom_asks id dto)
  | deleteRoom id => exact respond_asks (deleteRoom_asks id)
  | getEnforcers =>
      exact asks_of_idle (respond_idle (Prog.All.ofExcept_bind fun _ _ => Prog.All.ofExcept_bind fun _ _ =>
        ⟨trivial, fun _ => trivial⟩))
  | getEnforcer certId => exact asks_of_idle (respond_idle (getEnforcer_all trivial))
  | updateEnforcer certId allowed =>
      refine respond_asks (Prog.Follows.ofExcept_bind fun _ _ => write_asks .decision fun answer => ?_)
      cases answer with
      | error e => trivial
      | ok n => exact ⟨trivial, fun row => by cases row <;> trivial⟩

/-! ## Whole requests -/

/-- The request is there to execute the statement, and entitled to, given what it has seen. -/
inductive ApiRequest.Asks : ApiRequest → List Seen → BackendStmt → Prop where
  | signup {salt : Salt} {utcNow : DateTime} {dto : SignupDto} {seen : List Seen} {hash : String}
      (hhash : Crypto.hashEncoded dto.password salt.bytes = some hash) :
      Asks (.signup salt utcNow dto) seen (.account (.insertUser dto.username hash salt.bytes))
  | token {authorization : Option String} {endpoint : ApiEndpoint} {seen : List Seen} {s : BackendStmt} {auth : Claims}
      (haccepted : Accepted authorization seen auth) (hlicence : s.Licence auth) (hasks : endpoint.Asks auth seen s) :
      Asks (.authenticated authorization endpoint) seen s

omit [Crypto] in
theorem Promotes.idle {claims : Claims} {seen : List Seen} {s : BackendStmt} (h : Promotes claims seen s) : s.Idle := by
  obtain ⟨_, id, rfl, _⟩ := h
  trivial

omit [Crypto] in
theorem BackendStmt.Public.idle {s : BackendStmt} (h : s.Public) : s.Idle := by
  cases s with
  | account s =>
      cases s with
      | insertUser username password salt => exact absurd h id
      | deleteUser id' => exact absurd h id
      | _ => trivial
  | world s => trivial
  | selectUserByName username => trivial
  | _ => exact absurd h id

/-- Letting a request through leaves a stamp, and no more. -/
theorem fromRequest_idle (authorization : Option String) : (fromRequest authorization).All BackendStmt.Idle := by
  have hthrough (auth : Claims) : (letThrough auth).All BackendStmt.Idle :=
    ⟨trivial, fun t => ⟨trivial, fun answer => by cases answer <;> trivial⟩⟩
  rw [fromRequest_eq]
  cases authorization.bind extractTokenFromHeader with
  | none => trivial
  | some token =>
      refine ⟨trivial, fun found => ?_⟩
      cases found with
      | none => trivial
      | some row =>
          unfold withSecret
          dsimp only
          split
          · refine ⟨trivial, fun t => ?_⟩
            dsimp only
            cases Crypto.decode row.value (timestamp t) token with
            | none => trivial
            | some auth => exact hthrough auth
          · trivial

/-- **What a request is there for.** -/
theorem ApiRequest.call_asks (r : ApiRequest) :
    r.call.Follows (fun seen s => (∀ x ∈ seen, x.stmt.Possible x.answer) → s.Idle ∨ r.Asks seen s) [] := by
  have hentitled := ApiRequest.call_follows r
  cases r with
  | getStatus version secureName =>
      refine hentitled.mono fun seen s hs hpossible => ?_
      cases hs hpossible with
      | anyone hpublic => exact .inl hpublic.idle
  | signup salt utcNow dto =>
      refine hentitled.mono fun seen s hs hpossible => ?_
      cases hs hpossible with
      | anyone hpublic => exact .inl hpublic.idle
      | signup hopen hvalid hhash => exact .inr (.signup hhash)
      | promote hopen hfirst => exact .inl trivial
  | login dto =>
      refine hentitled.mono fun seen s hs hpossible => ?_
      cases hs hpossible with
      | anyone hpublic => exact .inl hpublic.idle
      | login hfound hpassword => exact .inl trivial
  | authenticated authorization endpoint =>
      refine Prog.Follows.bind ?_ fun auth before hbefore => ?_
      · exact (fromRequest_idle authorization).follows fun _ _ hs _ => .inl hs
      · have haccepted : Accepted authorization ([] ++ before) auth := fromRequest_path hbefore
        have hboth := (endpoint.handler_licensed auth).and (endpoint.handler_asks auth)
        refine hboth.shift fun later s hs hpossible => ?_
        rcases hs.1 fun x hx => hpossible x (List.mem_append_right _ hx) with hlicence | hpromotes
        · exact .inr (.token (haccepted.append later) hlicence (hs.2.append_left before))
        · exact .inl hpromotes.idle

/-! ## Runs -/

variable {b : Backend} {calls : List Call} {sched : List Nat}

/-- What runs beside the requests has other things to do. -/
theorem idle_of_call {c : Call} (h : ∀ r, c ≠ .request r) : c.program.All BackendStmt.Idle := by
  cases c with
  | request r => exact absurd rfl (h r)
  | background p => exact respond_ofWorld_idle p
  | contact ipAddr certId =>
      refine respond_idle (ofEnforcers_all ?_)
      refine ⟨trivial, fun t => ⟨trivial, fun found => ?_⟩⟩
      cases found with
      | none => exact ⟨trivial, fun answer => by cases answer <;> trivial⟩
      | some allowed =>
          refine ⟨trivial, fun answer => ?_⟩
          cases answer with
          | error e => trivial
          | ok n => cases allowed <;> trivial

/-- **Who writes.** Whatever in a run is not idle is what some request is there for. -/
theorem exists_asked {i j : Nat} {x : Seen} (hx : ApiAnswered b calls sched i j x) (hidle : ¬ x.stmt.Idle) :
    ∃ r seen, calls[i]? = some (.request r) ∧ ApiSaw b calls sched i j seen ∧ r.Asks seen x.stmt := by
  obtain ⟨k, hk⟩ := hx.next
  obtain ⟨c, hc⟩ := exists_call hk
  by_cases hrequest : ∃ r, c = .request r
  · obtain ⟨r, rfl⟩ := hrequest
    obtain ⟨seen, hsaw, hasks⟩ := Pool.saw_of_follows (apiPool_procs hc) r.call_asks hx
    refine ⟨r, seen, hc, hsaw, (hasks fun y hy => ?_).resolve_left hidle⟩
    obtain ⟨turn, _, hy⟩ := hsaw.mem hy
    exact ApiAnswered.possible hy
  · have hall : c.program.Follows (fun _ s => s.Idle) [] :=
      (idle_of_call fun r hr => hrequest ⟨r, hr⟩).follows fun _ _ hs => hs
    obtain ⟨_, _, hs⟩ := Pool.saw_of_follows (apiPool_procs hc) hall hx
    exact absurd hs hidle

/-- At turn `k` call `i` executes the statement, for a request to this endpoint with the accepted token `auth`. -/
structure AskedAt (b : Backend) (calls : List Call) (sched : List Nat) (i k : Nat) (auth : Claims)
    (endpoint : ApiEndpoint) (s : BackendStmt) : Prop where
  request : ∃ authorization, calls[i]? = some (.request (.authenticated authorization endpoint))
  accepted : ∃ j < k, ∃ token t, AcceptedAt b calls sched i j token t auth
  licence : s.Licence auth
  executed : ∃ answer, ApiAnswered b calls sched i k ⟨s, answer⟩

theorem askedAt {i k : Nat} {authorization : Option String} {endpoint : ApiEndpoint} {seen : List Seen} {auth : Claims}
    {s : BackendStmt} {answer : s.Answer}
    (hc : calls[i]? = some (.request (.authenticated authorization endpoint))) (hsaw : ApiSaw b calls sched i k seen)
    (haccepted : Accepted authorization seen auth) (hlicence : s.Licence auth)
    (hx : ApiAnswered b calls sched i k ⟨s, answer⟩) : AskedAt b calls sched i k auth endpoint s :=
  ⟨⟨authorization, hc⟩, exists_acceptedAt hc hsaw haccepted, hlicence, answer, hx⟩

/-- Who deletes a user. -/
theorem deleteUser_asked {i k : Nat} {id : Int} {answer : Written}
    (hx : ApiAnswered b calls sched i k ⟨.account (.deleteUser id), answer⟩) :
    ∃ auth, AskedAt b calls sched i k auth (.deleteUserById id) (.account (.deleteUser id)) := by
  obtain ⟨r, seen, hc, hsaw, hasks⟩ := exists_asked hx fun h => h
  cases hasks with
  | token haccepted hlicence hasks =>
      cases hasks with
      | idle h => exact absurd h fun h => h
      | deleteUser => exact ⟨_, askedAt hc hsaw haccepted hlicence hx⟩

end MudController
