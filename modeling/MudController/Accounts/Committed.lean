import Mathlib.Data.List.TakeWhile
import MudController.Reference
import MudController.Routes.User
import MudController.Run.Accounts
import MudController.Run.Config

/-!
# `Accounts.Committed` — what a failed creation of a user leaves behind

`create_user` executes its statements one after another, without a transaction. Until its user is stored a
failure leaves the accounts alone; after that, whatever has been executed stays. `createUserRun` lists
the four ends of a request.
-/

namespace MudController

open Logic AccountAction

/-! ## Assigning roles -/

/-- The tables with some roles assigned to a user. -/
def AccountTables.assign (t : AccountTables) (userId : Int) (roleIds : List Int) : AccountTables :=
  { t with usersRoles := t.usersRoles ++ roleIds.map (⟨userId, ·⟩) }

/-- The id of a role. -/
def AccountTables.isRole (t : AccountTables) (roleId : Int) : Bool := decide (roleId ∈ t.roles.map (·.id))

/-- The loop has assigned the roles `done`. -/
def Assigned (db : Accounts) (userId : Int) (done : List Int) (db' : Accounts) : Prop :=
  db'.toAccountTables = db.assign userId done

section

variable {db db' : Accounts} {userId roleId : Int} {done : List Int}

theorem Assigned.users (h : Assigned db userId done db') : db'.users = db.users := congrArg (·.users) h

theorem Assigned.roles (h : Assigned db userId done db') : db'.roles = db.roles := congrArg (·.roles) h

/-- A role is assigned to an existing user exactly if it exists. -/
theorem Assigned.schema_iff (h : Assigned db userId done db') (huser : userId ∈ db.users.map (·.id)) :
    AccountSchema (db'.insertUserRole userId roleId) ↔ db.isRole roleId = true := by
  rw [db'.schema.insertUserRole_iff, h.users, h.roles]
  unfold AccountTables.isRole
  rw [decide_eq_true_iff]
  exact ⟨fun hids => hids.2, fun hrole => ⟨huser, hrole⟩⟩

theorem Assigned.next (h : Assigned db userId done db') (huser : userId ∈ db.users.map (·.id))
    (hrole : db.isRole roleId = true) :
    ∃ db'', (RoleService.addRoleToUser userId roleId).run db' = (.ok (), db'') ∧
      Assigned db userId (done ++ [roleId]) db'' := by
  have hschema := (h.schema_iff huser).mpr hrole
  refine ⟨_, run_addRoleToUser hschema, ?_⟩
  show (db'.insertUserRole userId roleId) = _
  rw [h]
  simp [AccountTables.insertUserRole, AccountTables.assign]

theorem Assigned.refused (h : Assigned db userId done db') (huser : userId ∈ db.users.map (·.id))
    (hrole : db.isRole roleId = false) :
    (RoleService.addRoleToUser userId roleId).run db' = (.error (.databaseError .constraint), db') := by
  refine run_addRoleToUser_refused fun hschema => ?_
  rw [(h.schema_iff huser).mp hschema] at hrole
  cases hrole

/-- The loop assigns the ids in front of the first one that is no role. -/
theorem run_assignRoles (huser : userId ∈ db.users.map (·.id)) (roleIds : List Int) :
    ∃ db', AccountAction.run (roleIds.forM (RoleService.addRoleToUser userId)) db =
        (if roleIds.all db.isRole then .ok () else .error (.databaseError .constraint), db') ∧
      Assigned db userId (roleIds.takeWhile db.isRole) db' := by
  have hstart : Assigned db userId [] db := by simp [Assigned, AccountTables.assign]
  exact Prog.run_forM_prefix AccountStmt.exec (fun _ _ _ hrole h => Assigned.next h huser hrole)
    (fun _ _ _ hrole h => Assigned.refused h huser hrole) roleIds hstart

end

/-! ## Storing the user -/

/-- The tables with a new user, who is an administrator if there was no user before. -/
def AccountTables.withNewUser (t : AccountTables) (user : User) : AccountTables :=
  if t.users = [] then (t.withUser user).insertUserRole (t.userSeq + 1) roleIdAdmin else t.withUser user

theorem AccountTables.withNewUser_users (t : AccountTables) (user : User) :
    (t.withNewUser user).users = t.users ++ [⟨t.userSeq + 1, user.username, user.password, user.salt, 0⟩] := by
  unfold withNewUser
  split <;> rfl

theorem AccountTables.withNewUser_roles (t : AccountTables) (user : User) :
    (t.withNewUser user).roles = t.roles := by
  unfold withNewUser
  split <;> rfl

section

variable {db db' : Accounts} {user : User}

theorem withUser_schema_iff : AccountSchema (db.withUser user) ↔ user.username ∉ db.users.map (·.username) :=
  db.schema.insertUser_iff user.username user.password user.salt

theorem run_insert_new (hfree : user.username ∉ db.users.map (·.username))
    (hadmin : db.users = [] → db.isRole roleIdAdmin = true) :
    ∃ db', (UserService.insert user).run db = (.ok (db.userSeq + 1), db') ∧
      db'.toAccountTables = db.withNewUser user := by
  have hschema := withUser_schema_iff.mpr hfree
  by_cases hfirst : db.users = []
  · have hpromoted := (hschema.promote_iff roleIdAdmin).mpr (of_decide_eq_true (hadmin hfirst))
    exact ⟨_, run_insert_first hfirst hschema hpromoted, (if_pos hfirst).symm⟩
  · exact ⟨_, run_insert_later hfirst hschema, (if_neg hfirst).symm⟩

/-- A user that was stored last is found. -/
theorem run_findById_new (h : db'.users = (db.withNewUser user).users) :
    ∃ user', (UserService.findById (db.userSeq + 1)).run db' = (.ok user', db') := by
  have hmem : ⟨db.userSeq + 1, user.username, user.password, user.salt, 0⟩ ∈ db'.users := by
    rw [h, AccountTables.withNewUser_users]
    exact List.mem_append_right _ (List.mem_singleton_self _)
  exact ⟨_, run_findById_some (find?_of_mem db'.schema.userIds hmem)⟩

end

/-! ## A request -/

section

variable [Platform]
variable (hashEncoded : String → List UInt8 → Option String) (salt : Salt) (utcNow : DateTime)
variable (auth : AuthToken) (createUserDto : MgmCreateUserDto) (db : Accounts)

/-- The user that a request asks for, or the reason why it is turned away before any statement. -/
def requestedUser : Except Error User := do
  requireOneOf .userManagementCreate auth.permissions
  if !createUserDto.validate then
    .error (.responseError 400 (some "Invalid POST data"))
  else
    User.new hashEncoded salt utcNow createUserDto.username createUserDto.password

/-- What a request does for the user it asks for. -/
def storeUser (user : User) : AccountAction User := do
  let newUserId ← UserService.insert user
  if (requireOneOf .roleAssign auth.permissions).isOk then
    createUserDto.rolesIds.forM (RoleService.addRoleToUser newUserId)
  UserService.findById newUserId

theorem createUser_eq :
    createUser hashEncoded salt utcNow auth createUserDto =
      Prog.ofExcept (requestedUser hashEncoded salt utcNow auth createUserDto) >>=
        storeUser auth createUserDto := by
  unfold createUser requestedUser AuthToken.requireAccountPermission
  cases requireOneOf .userManagementCreate auth.permissions with
  | error e => rfl
  | ok u =>
      cases createUserDto.validate with
      | false => rfl
      | true => rfl

/-- The ids that a request assigns: none if the caller may not, else those in front of the first one that is
    no role. -/
def assignedIds : List Int :=
  if (requireOneOf .roleAssign auth.permissions).isOk then createUserDto.rolesIds.takeWhile db.isRole else []

/-- What a request returns and leaves behind. -/
inductive CreateUserRun : Except Error User × Accounts → Prop where
  /-- It is turned away before any statement. -/
  | rejected (e : Error) (hrejected : requestedUser hashEncoded salt utcNow auth createUserDto = .error e) :
      CreateUserRun (.error e, db)
  /-- The name is in use. -/
  | taken (user : User) (hasked : requestedUser hashEncoded salt utcNow auth createUserDto = .ok user)
      (htaken : user.username ∈ db.users.map (·.username)) :
      CreateUserRun (.error (.databaseError .constraint), db)
  /-- The first user cannot become an administrator. -/
  | noAdminRole (user : User) (hasked : requestedUser hashEncoded salt utcNow auth createUserDto = .ok user)
      (hfree : user.username ∉ db.users.map (·.username)) (hfirst : db.users = [])
      (hrole : db.isRole roleIdAdmin = false) (db' : Accounts)
      (htables : db'.toAccountTables = db.withUser user) :
      CreateUserRun (.error (.databaseError .constraint), db')
  /-- One of the ids is no role. -/
  | missingRole (user : User) (hasked : requestedUser hashEncoded salt utcNow auth createUserDto = .ok user)
      (hfree : user.username ∉ db.users.map (·.username))
      (hadmin : db.users = [] → db.isRole roleIdAdmin = true)
      (hmay : (requireOneOf .roleAssign auth.permissions).isOk = true)
      (hmissing : createUserDto.rolesIds.all db.isRole = false) (db' : Accounts)
      (htables : db'.toAccountTables =
        (db.withNewUser user).assign (db.userSeq + 1) (assignedIds auth createUserDto db)) :
      CreateUserRun (.error (.databaseError .constraint), db')
  | created (user user' : User)
      (hasked : requestedUser hashEncoded salt utcNow auth createUserDto = .ok user)
      (hfree : user.username ∉ db.users.map (·.username))
      (hadmin : db.users = [] → db.isRole roleIdAdmin = true)
      (hroles : (requireOneOf .roleAssign auth.permissions).isOk = true →
        createUserDto.rolesIds.all db.isRole = true) (db' : Accounts)
      (htables : db'.toAccountTables =
        (db.withNewUser user).assign (db.userSeq + 1) (assignedIds auth createUserDto db)) :
      CreateUserRun (.ok user', db')

variable {hashEncoded salt utcNow auth createUserDto db}

/-- The loop over the ids, after the insert of the user that they are assigned to. -/
theorem run_assignRoles_new {user : User} {db₁ : Accounts} (htables : db₁.toAccountTables = db.withNewUser user)
    (hmay : (requireOneOf .roleAssign auth.permissions).isOk = true) :
    ∃ db₂, AccountAction.run (createUserDto.rolesIds.forM (RoleService.addRoleToUser (db.userSeq + 1))) db₁ =
        (if createUserDto.rolesIds.all db.isRole then .ok () else .error (.databaseError .constraint), db₂) ∧
      db₂.toAccountTables =
        (db.withNewUser user).assign (db.userSeq + 1) (assignedIds auth createUserDto db) := by
  have hnew : db.userSeq + 1 ∈ db₁.users.map (·.id) := by
    rw [htables, AccountTables.withNewUser_users, List.map_append]
    exact List.mem_append_right _ (List.mem_singleton_self _)
  have hroles : db₁.isRole = db.isRole := by
    have h : db₁.roles = db.roles := (congrArg (·.roles) htables).trans (db.withNewUser_roles user)
    unfold AccountTables.isRole
    rw [h]
  obtain ⟨db₂, hloop, hassigned⟩ := run_assignRoles hnew createUserDto.rolesIds
  rw [hroles] at hloop hassigned
  refine ⟨db₂, hloop, ?_⟩
  unfold assignedIds
  rw [if_pos hmay, ← htables]
  exact hassigned

/-- What follows the insert of a user. -/
theorem storeUser_inserted {user : User} {db₁ : Accounts}
    (hasked : requestedUser hashEncoded salt utcNow auth createUserDto = .ok user)
    (hfree : user.username ∉ db.users.map (·.username))
    (hadmin : db.users = [] → db.isRole roleIdAdmin = true)
    (hinsert : (UserService.insert user).run db = (.ok (db.userSeq + 1), db₁))
    (htables : db₁.toAccountTables = db.withNewUser user) :
    CreateUserRun hashEncoded salt utcNow auth createUserDto db ((storeUser auth createUserDto user).run db) := by
  unfold storeUser
  rw [run_bind_ok hinsert]
  cases hmay : (requireOneOf .roleAssign auth.permissions).isOk with
  | false =>
      obtain ⟨user', hfind⟩ := run_findById_new (congrArg (·.users) htables)
      show CreateUserRun _ _ _ _ _ _ ((UserService.findById (db.userSeq + 1)).run db₁)
      rw [hfind]
      refine .created user user' hasked hfree hadmin (fun h => ?_) db₁ ?_
      · rw [hmay] at h
        cases h
      · rw [htables]
        simp [AccountTables.assign, assignedIds, hmay]
  | true =>
      obtain ⟨db₂, hloop, htables₂⟩ := run_assignRoles_new htables hmay
      show CreateUserRun _ _ _ _ _ _ (AccountAction.run
        (createUserDto.rolesIds.forM (RoleService.addRoleToUser (db.userSeq + 1)) >>= fun _ =>
          UserService.findById (db.userSeq + 1)) db₁)
      cases hall : createUserDto.rolesIds.all db.isRole with
      | true =>
          rw [hall] at hloop
          obtain ⟨user', hfind⟩ := run_findById_new (congrArg (·.users) htables₂)
          rw [run_bind_ok hloop, hfind]
          exact .created user user' hasked hfree hadmin (fun _ => hall) db₂ htables₂
      | false =>
          rw [hall] at hloop
          rw [run_bind_error hloop]
          exact .missingRole user hasked hfree hadmin hmay hall db₂ htables₂

theorem storeUser_run {user : User} (hasked : requestedUser hashEncoded salt utcNow auth createUserDto = .ok user) :
    CreateUserRun hashEncoded salt utcNow auth createUserDto db ((storeUser auth createUserDto user).run db) := by
  by_cases hfree : user.username ∉ db.users.map (·.username)
  · by_cases hadmin : db.users = [] → db.isRole roleIdAdmin = true
    · obtain ⟨db₁, hinsert, htables⟩ := run_insert_new hfree hadmin
      exact storeUser_inserted hasked hfree hadmin hinsert htables
    · obtain ⟨hfirst, hnone⟩ := Classical.not_imp.mp hadmin
      have hschema := withUser_schema_iff.mpr hfree
      have hnot : ¬ AccountSchema ((db.withUser user).insertUserRole (db.userSeq + 1) roleIdAdmin) :=
        fun h => hnone (decide_eq_true ((hschema.promote_iff roleIdAdmin).mp h))
      unfold storeUser
      rw [run_bind_error (run_insert_noRole hfirst hschema hnot)]
      exact .noAdminRole user hasked hfree hfirst (Bool.eq_false_iff.mpr hnone) _ rfl
  · have hnot : ¬ AccountSchema (db.withUser user) := fun h => hfree (withUser_schema_iff.mp h)
    unfold storeUser
    rw [run_bind_error (run_insert_refused hnot)]
    exact .taken user hasked (not_not.mp hfree)

variable (hashEncoded salt utcNow auth createUserDto db) in
/-- **The ends of a request** to create a user. -/
theorem createUserRun :
    CreateUserRun hashEncoded salt utcNow auth createUserDto db
      ((createUser hashEncoded salt utcNow auth createUserDto).run db) := by
  rw [createUser_eq]
  cases hasked : requestedUser hashEncoded salt utcNow auth createUserDto with
  | error e => exact .rejected e hasked
  | ok user => exact storeUser_run hasked

/-! ## Failed requests -/

variable (hashEncoded salt utcNow auth createUserDto db) in
/-- The request gets as far as storing its user. -/
def StoresUser : Prop :=
  ∃ user, requestedUser hashEncoded salt utcNow auth createUserDto = .ok user ∧
    user.username ∉ db.users.map (·.username)

variable (auth createUserDto db) in
/-- The roles that a request which has stored its user assigns to it. -/
def storedIds : List Int :=
  if db.users = [] then
    if db.isRole roleIdAdmin then roleIdAdmin :: assignedIds auth createUserDto db else []
  else assignedIds auth createUserDto db

theorem withNewUser_assign {user : User} (hadmin : db.users = [] → db.isRole roleIdAdmin = true) :
    ((db.withNewUser user).assign (db.userSeq + 1) (assignedIds auth createUserDto db)).usersRoles =
      db.usersRoles ++ (storedIds auth createUserDto db).map (⟨db.userSeq + 1, ·⟩) := by
  unfold AccountTables.assign AccountTables.withNewUser storedIds
  by_cases hfirst : db.users = []
  · rw [if_pos hfirst, if_pos hfirst, if_pos (hadmin hfirst)]
    simp [AccountTables.insertUserRole, AccountTables.withUser, AccountTables.insertUser]
  · rw [if_neg hfirst, if_neg hfirst]
    rfl

/-- **What a failed request leaves behind.** As long as its user is not stored, the accounts are as before.
    Otherwise its row stays, and with it every assignment that was made before the failure. -/
theorem createUser_error_keeps {e : Error} {db' : Accounts}
    (h : (createUser hashEncoded salt utcNow auth createUserDto).run db = (.error e, db')) :
    (¬ StoresUser hashEncoded salt utcNow auth createUserDto db →
      db'.users = db.users ∧ db'.usersRoles = db.usersRoles) ∧
    ∀ user, requestedUser hashEncoded salt utcNow auth createUserDto = .ok user →
      user.username ∉ db.users.map (·.username) →
      db'.users = db.users ++ [⟨db.userSeq + 1, user.username, user.password, user.salt, 0⟩] ∧
      db'.usersRoles = db.usersRoles ++ (storedIds auth createUserDto db).map (⟨db.userSeq + 1, ·⟩) := by
  have hrun := createUserRun hashEncoded salt utcNow auth createUserDto db
  rw [h] at hrun
  cases hrun with
  | rejected e hrejected =>
      refine ⟨fun _ => ⟨rfl, rfl⟩, fun user hasked _ => ?_⟩
      rw [hrejected] at hasked
      cases hasked
  | taken user hasked htaken =>
      refine ⟨fun _ => ⟨rfl, rfl⟩, fun user' hasked' hfree => ?_⟩
      rw [hasked] at hasked'
      cases hasked'
      exact absurd htaken hfree
  | noAdminRole user hasked hfree hfirst hrole db' htables =>
      refine ⟨fun hnot => absurd ⟨user, hasked, hfree⟩ hnot, fun user' hasked' _ => ?_⟩
      rw [hasked] at hasked'
      cases hasked'
      have hnone : storedIds auth createUserDto db = [] := by simp [storedIds, hfirst, hrole]
      rw [hnone, List.map_nil, List.append_nil]
      exact ⟨congrArg (·.users) htables, congrArg (·.usersRoles) htables⟩
  | missingRole user hasked hfree hadmin hmay hmissing db' htables =>
      refine ⟨fun hnot => absurd ⟨user, hasked, hfree⟩ hnot, fun user' hasked' _ => ?_⟩
      rw [hasked] at hasked'
      cases hasked'
      refine ⟨(congrArg (·.users) htables).trans (db.withNewUser_users user), ?_⟩
      rw [← withNewUser_assign hadmin]
      exact congrArg (·.usersRoles) htables

end

section

attribute [local instance] Reference.platform

/-- A hash as `argon2` encodes it. -/
def encodedHash (_ : String) (_ : List UInt8) : Option String :=
  some "$argon2i$v=19$m=4096,t=3,p=1$AAAAAAAAAAAAAAAAAAAAAA$mmX8sn0FzqvFAhsX2A9UrQ"

/-- A salt of zeros. -/
def zeroSalt : Salt := ⟨List.replicate saltLength 0, by decide⟩

/-- The migrated accounts, with an administrator. -/
def withRoot : Accounts := (UserService.insert (signupUser "root")).after Accounts.migrated

/-- A new user for whom a role is asked that exists, and one that does not. -/
def guestRequest : MgmCreateUserDto := ⟨"guest", "secret", [1, 7]⟩

/-- A request fails at the second of its role ids, and its user and the first role stay. -/
theorem createUser_not_atomic :
    ((createUser encodedHash zeroSalt 0 rootAuth guestRequest).run withRoot).1 =
      .error (.databaseError .constraint) ∧
    ((createUser encodedHash zeroSalt 0 rootAuth guestRequest).after withRoot).users ≠ withRoot.users ∧
    ((createUser encodedHash zeroSalt 0 rootAuth guestRequest).after withRoot).usersRoles ≠
      withRoot.usersRoles := by
  decide

/-- The user of that request. -/
def guestUser : User where
  id := 0
  username := "guest"
  password := (encodedHash "secret" zeroSalt.bytes).getD ""
  salt := zeroSalt.bytes
  lastInteraction := 0
  roles := []
  permissions := []

/-- What stays of that request. -/
theorem createUser_guest_keeps :
    ((createUser encodedHash zeroSalt 0 rootAuth guestRequest).after withRoot).users =
      withRoot.users ++ [⟨2, "guest", guestUser.password, zeroSalt.bytes, 0⟩] ∧
    ((createUser encodedHash zeroSalt 0 rootAuth guestRequest).after withRoot).usersRoles =
      withRoot.usersRoles ++ [⟨2, 1⟩] :=
  have hfailed : (createUser encodedHash zeroSalt 0 rootAuth guestRequest).run withRoot =
      (.error (.databaseError .constraint),
        (createUser encodedHash zeroSalt 0 rootAuth guestRequest).after withRoot) :=
    Prod.ext (by decide) rfl
  (createUser_error_keeps hfailed).2 guestUser (by decide) (by decide)

end

end MudController
