import MudController.Services.User

/-!
# `Run.Accounts` — calls on users and roles, run by themselves

When the schema allows each write, and what a call of `user_service` or `role_service` returns and leaves
behind.
-/

namespace MudController

open Logic

/-! ## When the schema allows a write -/

theorem AccountSchema.insertUser_iff {t : AccountTables} (h : AccountSchema t) (username password : String)
    (salt : List UInt8) :
    AccountSchema (t.insertUser username password salt) ↔ username ∉ t.users.map (·.username) := by
  constructor
  · intro hschema
    exact ((nodup_map_append UserDbo.username _ t.users).mp hschema.usernames).2
  · intro hfree
    refine ⟨?_, ?_, ?_, h.roleIds, h.roleSeq, h.roleNames, ?_, h.roleRef⟩
    · exact (nodup_map_append UserDbo.id _ t.users).mpr ⟨h.userIds, succ_not_mem h.userSeq⟩
    · exact forall_mem_append (fun u hu => Int.le_add_one (h.userSeq u hu)) (Int.le_refl _)
    · exact (nodup_map_append UserDbo.username _ t.users).mpr ⟨h.usernames, hfree⟩
    · intro m hm
      exact List.map_append ▸ List.mem_append_left _ (h.userRef m hm)

theorem AccountSchema.deleteUser {t : AccountTables} (h : AccountSchema t) (id : Int) :
    AccountSchema (t.deleteUser id) := by
  refine ⟨h.userIds.sublist (List.filter_sublist.map _), fun u hu => h.userSeq u (List.mem_of_mem_filter hu),
    h.usernames.sublist (List.filter_sublist.map _), h.roleIds, h.roleSeq, h.roleNames, ?_,
    fun m hm => h.roleRef m (List.mem_of_mem_filter hm)⟩
  intro m hm
  obtain ⟨hm, hne⟩ := List.mem_filter.mp hm
  obtain ⟨u, hu, hid⟩ := List.mem_map.mp (h.userRef m hm)
  exact List.mem_map.mpr ⟨u, List.mem_filter.mpr ⟨hu, by simpa [hid] using hne⟩, hid⟩

theorem AccountSchema.insertRole_iff {t : AccountTables} (h : AccountSchema t) (name permissions : String) :
    AccountSchema (t.insertRole name permissions) ↔ name ∉ t.roles.map (·.name) := by
  constructor
  · intro hschema
    exact ((nodup_map_append RoleDbo.name _ t.roles).mp hschema.roleNames).2
  · intro hfree
    refine ⟨h.userIds, h.userSeq, h.usernames, ?_, ?_, ?_, h.userRef, ?_⟩
    · exact (nodup_map_append RoleDbo.id _ t.roles).mpr ⟨h.roleIds, succ_not_mem h.roleSeq⟩
    · exact forall_mem_append (fun r hr => Int.le_add_one (h.roleSeq r hr)) (Int.le_refl _)
    · exact (nodup_map_append RoleDbo.name _ t.roles).mpr ⟨h.roleNames, hfree⟩
    · intro m hm
      exact List.map_append ▸ List.mem_append_left _ (h.roleRef m hm)

/-- A role that somebody holds cannot be deleted. -/
theorem AccountSchema.deleteRole_iff {t : AccountTables} (h : AccountSchema t) (id : Int) :
    AccountSchema (t.deleteRole id) ↔ ∀ m ∈ t.usersRoles, m.roleId ≠ id := by
  constructor
  · intro hschema m hm hid
    obtain ⟨r, hr, hrid⟩ := List.mem_map.mp (hschema.roleRef m hm)
    exact absurd (hrid.trans hid) (by simpa using (List.mem_filter.mp hr).2)
  · intro hunused
    refine ⟨h.userIds, h.userSeq, h.usernames, h.roleIds.sublist (List.filter_sublist.map _),
      fun r hr => h.roleSeq r (List.mem_of_mem_filter hr), h.roleNames.sublist (List.filter_sublist.map _),
      h.userRef, ?_⟩
    intro m hm
    obtain ⟨r, hr, hid⟩ := List.mem_map.mp (h.roleRef m hm)
    exact List.mem_map.mpr ⟨r, List.mem_filter.mpr ⟨hr, by simpa [hid] using hunused m hm⟩, hid⟩

/-- Only an existing role can be assigned, and only to an existing user. -/
theorem AccountSchema.insertUserRole_iff {t : AccountTables} (h : AccountSchema t) (userId roleId : Int) :
    AccountSchema (t.insertUserRole userId roleId) ↔
      userId ∈ t.users.map (·.id) ∧ roleId ∈ t.roles.map (·.id) := by
  have hmem : (⟨userId, roleId⟩ : UserRole) ∈ (t.insertUserRole userId roleId).usersRoles :=
    List.mem_append_right _ (List.mem_singleton_self _)
  constructor
  · intro hschema
    exact ⟨hschema.userRef _ hmem, hschema.roleRef _ hmem⟩
  · rintro ⟨huser, hrole⟩
    exact ⟨h.userIds, h.userSeq, h.usernames, h.roleIds, h.roleSeq, h.roleNames,
      forall_mem_append h.userRef huser, forall_mem_append h.roleRef hrole⟩

theorem AccountSchema.deleteUserRole {t : AccountTables} (h : AccountSchema t) (userId roleId : Int) :
    AccountSchema (t.deleteUserRole userId roleId) :=
  ⟨h.userIds, h.userSeq, h.usernames, h.roleIds, h.roleSeq, h.roleNames,
    fun m hm => h.userRef m (List.mem_of_mem_filter hm), fun m hm => h.roleRef m (List.mem_of_mem_filter hm)⟩

/-- Without users, nobody holds a role. -/
theorem Accounts.usersRoles_of_users {db : Accounts} (h : db.users = []) : db.usersRoles = [] := by
  apply List.eq_nil_iff_forall_not_mem.mpr
  intro m hm
  have hmem := db.schema.userRef m hm
  rw [h] at hmem
  cases hmem

/-- A write that the schema allows takes effect. -/
theorem Accounts.write_ok {α : Type} {db : Accounts} (f : AccountTables → AccountTables)
    (h : AccountSchema (f db.toAccountTables)) (answer : α) :
    db.write f answer = (.ok answer, ⟨f db.toAccountTables, h⟩) := dif_pos h

/-- A write that the schema does not allow has no effect. -/
theorem Accounts.write_refused {α : Type} {db : Accounts} (f : AccountTables → AccountTables)
    (h : ¬ AccountSchema (f db.toAccountTables)) (answer : α) :
    db.write f answer = (.error .constraint, db) := dif_neg h

/-! ## Calls -/

namespace AccountAction

variable {α β : Type} {db db' : Accounts}

theorem run_stmt_of_exec {s : AccountStmt} {a : s.Answer} (h : s.exec db = (a, db')) :
    run (stmt s) db = (.ok a, db') := by
  show (Except.ok (s.exec db).1, (s.exec db).2) = _
  rw [h]

theorem run_execute_ok {p : AccountAction (Except DbError α)} {a : α} (h : run p db = (.ok (.ok a), db')) :
    run (execute p) db = (.ok a, db') := run_bind_ok h

theorem run_execute_error {p : AccountAction (Except DbError α)} {e : DbError}
    (h : run p db = (.ok (.error e), db')) : run (execute p) db = (.error (.databaseError e), db') :=
  run_bind_ok h

theorem run_fetchOne_some {p : AccountAction (Option α)} {a : α} (h : run p db = (.ok (some a), db')) :
    run (fetchOne p) db = (.ok a, db') := run_bind_ok h

theorem run_fetchOne_none {p : AccountAction (Option α)} (h : run p db = (.ok none, db')) :
    run (fetchOne p) db = (.error (.databaseError .rowNotFound), db') := run_bind_ok h

theorem run_attempt {p : AccountAction α} {r : Except Error α} (h : run p db = (r, db')) :
    AccountAction.run p.attempt db = (.ok r, db') := by
  have hattempt := Prog.run_attempt AccountStmt.exec p db
  rw [show Prog.run AccountStmt.exec p db = (r, db') from h] at hattempt
  exact hattempt

/-- What follows a call without writing leaves the accounts as the call does. -/
theorem after_bind {p : AccountAction α} {f : α → AccountAction β} (h : ∀ a db', (f a).after db' = db') :
    AccountAction.after (p >>= f) db = p.after db := by
  unfold after
  cases hr : p.run db with
  | mk r db' =>
      cases r with
      | ok a =>
          rw [run_bind_ok hr]
          exact h a db'
      | error e => rw [run_bind_error hr]

end AccountAction

open AccountAction

/-- `find_by_id` finds the stored users, each with the rows of their roles. -/
theorem run_findById_some {id : Int} {db : Accounts} {user : UserDbo} (h : db.userById id = some user) :
    (UserService.findById id).run db = (.ok (UserService.ofRoles user (db.rolesOf user.id)), db) := by
  have hexec : (AccountStmt.selectUserById id).exec db = (some user, db) := congrArg (·, db) h
  exact run_bind_ok (run_fetchOne_some (run_stmt_of_exec hexec))

theorem run_getAll (db : Accounts) :
    UserService.getAll.run db = (.ok (db.usersWithRoles.map UserService.ofRow), db) := rfl

section

variable {db : Accounts}

/-- An assignment to an existing user of an existing role. -/
theorem run_addRoleToUser {userId roleId : Int} (h : AccountSchema (db.insertUserRole userId roleId)) :
    (RoleService.addRoleToUser userId roleId).run db = (.ok (), ⟨db.insertUserRole userId roleId, h⟩) := by
  have hexec : (AccountStmt.insertUserRole userId roleId).exec db =
      (.ok 1, ⟨db.insertUserRole userId roleId, h⟩) :=
    Accounts.write_ok (·.insertUserRole userId roleId) h _
  exact run_bind_ok (run_execute_ok (run_stmt_of_exec hexec))

theorem run_addRoleToUser_refused {userId roleId : Int}
    (h : ¬ AccountSchema (db.insertUserRole userId roleId)) :
    (RoleService.addRoleToUser userId roleId).run db = (.error (.databaseError .constraint), db) := by
  have hexec : (AccountStmt.insertUserRole userId roleId).exec db = (.error .constraint, db) :=
    Accounts.write_refused (·.insertUserRole userId roleId) h _
  exact run_bind_error (run_execute_error (run_stmt_of_exec hexec))

/-- Taking an existing role away from a user, whether they hold it or not. -/
theorem run_roleDeleteFromUser {userId : Int} {role : RoleDbo} (hrole : db.roleById role.id = some role) :
    (RoleService.roleDeleteFromUser userId role.id).run db =
      (.ok (), ⟨db.deleteUserRole userId role.id, db.schema.deleteUserRole userId role.id⟩) := by
  have hselect : (AccountStmt.selectRoleById role.id).exec db = (some role, db) := congrArg (·, db) hrole
  have hexec : (AccountStmt.deleteUserRole userId role.id).exec db =
      (.ok _, ⟨db.deleteUserRole userId role.id, db.schema.deleteUserRole userId role.id⟩) :=
    Accounts.write_ok (·.deleteUserRole userId role.id) (db.schema.deleteUserRole userId role.id) _
  unfold RoleService.roleDeleteFromUser
  rw [run_bind_ok (run_fetchOne_some (run_stmt_of_exec hselect))]
  exact run_bind_ok (run_execute_ok (run_stmt_of_exec hexec))

theorem run_roleDeleteFromUser_missing {userId roleId : Int} (hrole : db.roleById roleId = none) :
    (RoleService.roleDeleteFromUser userId roleId).run db = (.error (.databaseError .rowNotFound), db) := by
  have hselect : (AccountStmt.selectRoleById roleId).exec db = (none, db) := congrArg (·, db) hrole
  exact run_bind_error (run_fetchOne_none (run_stmt_of_exec hselect))

/-- Deleting a user always succeeds. -/
theorem run_deleteUser (id : Int) :
    ∃ deleted, (UserService.delete id).run db = (.ok deleted, ⟨db.deleteUser id, db.schema.deleteUser id⟩) := by
  have hexec : (AccountStmt.deleteUser id).exec db =
      (.ok _, ⟨db.deleteUser id, db.schema.deleteUser id⟩) :=
    Accounts.write_ok (·.deleteUser id) (db.schema.deleteUser id) _
  exact ⟨_, run_bind_ok (run_execute_ok (run_stmt_of_exec hexec))⟩

/-! ### Roles -/

theorem run_roleCreate {roleDto : RoleUpdateDto}
    (h : AccountSchema (db.insertRole roleDto.name (joinText ',' roleDto.permissions))) :
    (RoleService.roleCreate roleDto).run db =
      (.ok (RoleDto.ofDbo ⟨db.roleSeq + 1, roleDto.name, joinText ',' roleDto.permissions⟩),
        ⟨db.insertRole roleDto.name (joinText ',' roleDto.permissions), h⟩) := by
  have hexec : (AccountStmt.insertRole roleDto.name (joinText ',' roleDto.permissions)).exec db =
      (.ok (db.roleSeq + 1), ⟨db.insertRole roleDto.name (joinText ',' roleDto.permissions), h⟩) :=
    Accounts.write_ok (·.insertRole roleDto.name (joinText ',' roleDto.permissions)) h _
  -- the new row is the one with its id
  have hfind : (db.insertRole roleDto.name (joinText ',' roleDto.permissions)).roleById (db.roleSeq + 1) =
      some ⟨db.roleSeq + 1, roleDto.name, joinText ',' roleDto.permissions⟩ :=
    find?_of_mem h.roleIds (List.mem_append_right _ (List.mem_singleton_self _))
  have hselect : (AccountStmt.selectRoleById (db.roleSeq + 1)).exec
      ⟨db.insertRole roleDto.name (joinText ',' roleDto.permissions), h⟩ = (some _, _) := congrArg (·, _) hfind
  unfold RoleService.roleCreate
  rw [run_bind_ok (run_execute_ok (run_stmt_of_exec hexec))]
  exact run_bind_ok (run_fetchOne_some (run_stmt_of_exec hselect))

theorem run_roleCreate_refused {roleDto : RoleUpdateDto}
    (h : ¬ AccountSchema (db.insertRole roleDto.name (joinText ',' roleDto.permissions))) :
    (RoleService.roleCreate roleDto).run db = (.error (.databaseError .constraint), db) := by
  have hexec : (AccountStmt.insertRole roleDto.name (joinText ',' roleDto.permissions)).exec db =
      (.error .constraint, db) :=
    Accounts.write_refused (·.insertRole roleDto.name (joinText ',' roleDto.permissions)) h _
  exact run_bind_error (run_execute_error (run_stmt_of_exec hexec))

theorem run_roleGet {role : RoleDbo} (h : db.roleById role.id = some role) :
    (RoleService.roleGet role.id).run db = (.ok (RoleDto.ofDbo role), db) := by
  have hselect : (AccountStmt.selectRoleById role.id).exec db = (some role, db) := congrArg (·, db) h
  exact run_bind_ok (run_fetchOne_some (run_stmt_of_exec hselect))

theorem run_roleGet_missing {roleId : Int} (h : db.roleById roleId = none) :
    (RoleService.roleGet roleId).run db = (.error (.databaseError .rowNotFound), db) := by
  have hselect : (AccountStmt.selectRoleById roleId).exec db = (none, db) := congrArg (·, db) h
  exact run_bind_error (run_fetchOne_none (run_stmt_of_exec hselect))

theorem run_roleUpdate {roleId : Int} {roleDto : RoleUpdateDto}
    (h : AccountSchema (db.updateRole ⟨roleId, roleDto.name, joinText ',' roleDto.permissions⟩)) :
    (RoleService.roleUpdate roleId roleDto).run db =
      (.ok ((db.roles.filter (·.id = roleId)).length == 1),
        ⟨db.updateRole ⟨roleId, roleDto.name, joinText ',' roleDto.permissions⟩, h⟩) := by
  have hexec : (AccountStmt.updateRole ⟨roleId, roleDto.name, joinText ',' roleDto.permissions⟩).exec db =
      (.ok _, ⟨db.updateRole ⟨roleId, roleDto.name, joinText ',' roleDto.permissions⟩, h⟩) :=
    Accounts.write_ok (·.updateRole ⟨roleId, roleDto.name, joinText ',' roleDto.permissions⟩) h _
  exact run_bind_ok (run_execute_ok (run_stmt_of_exec hexec))

theorem run_roleUpdate_refused {roleId : Int} {roleDto : RoleUpdateDto}
    (h : ¬ AccountSchema (db.updateRole ⟨roleId, roleDto.name, joinText ',' roleDto.permissions⟩)) :
    (RoleService.roleUpdate roleId roleDto).run db = (.error (.databaseError .constraint), db) := by
  have hexec : (AccountStmt.updateRole ⟨roleId, roleDto.name, joinText ',' roleDto.permissions⟩).exec db =
      (.error .constraint, db) :=
    Accounts.write_refused (·.updateRole ⟨roleId, roleDto.name, joinText ',' roleDto.permissions⟩) h _
  exact run_bind_error (run_execute_error (run_stmt_of_exec hexec))

theorem run_roleDelete {roleId : Int} (h : AccountSchema (db.deleteRole roleId)) :
    ∃ deleted, (RoleService.roleDelete roleId).run db = (.ok deleted, ⟨db.deleteRole roleId, h⟩) := by
  have hexec : (AccountStmt.deleteRole roleId).exec db = (.ok _, ⟨db.deleteRole roleId, h⟩) :=
    Accounts.write_ok (·.deleteRole roleId) h _
  exact ⟨_, run_bind_ok (run_execute_ok (run_stmt_of_exec hexec))⟩

theorem run_roleDelete_refused {roleId : Int} (h : ¬ AccountSchema (db.deleteRole roleId)) :
    (RoleService.roleDelete roleId).run db = (.error (.databaseError .constraint), db) := by
  have hexec : (AccountStmt.deleteRole roleId).exec db = (.error .constraint, db) :=
    Accounts.write_refused (·.deleteRole roleId) h _
  exact run_bind_error (run_execute_error (run_stmt_of_exec hexec))

/-- What a write leaves behind: the written tables, or the accounts as they were if the schema refuses it. -/
inductive WrittenAccounts (db : Accounts) (t : AccountTables) : Accounts → Prop where
  | done (h : AccountSchema t) : WrittenAccounts db t ⟨t, h⟩
  | refused (h : ¬ AccountSchema t) : WrittenAccounts db t db

/-- What holds before a write and of the written tables holds after it. -/
theorem WrittenAccounts.holds {t : AccountTables} {db' : Accounts} {P : Accounts → Prop}
    (h : WrittenAccounts db t db') (hbefore : P db) (hwritten : ∀ hschema : AccountSchema t, P ⟨t, hschema⟩) : P db' := by
  cases h with
  | done hschema => exact hwritten hschema
  | refused _ => exact hbefore

theorem roleCreate_written (db : Accounts) (roleDto : RoleUpdateDto) :
    WrittenAccounts db (db.insertRole roleDto.name (joinText ',' roleDto.permissions))
      ((RoleService.roleCreate roleDto).after db) := by
  unfold AccountAction.after
  by_cases hschema : AccountSchema (db.insertRole roleDto.name (joinText ',' roleDto.permissions))
  · rw [run_roleCreate hschema]
    exact .done hschema
  · rw [run_roleCreate_refused hschema]
    exact .refused hschema

theorem roleUpdate_written (db : Accounts) (roleId : Int) (roleDto : RoleUpdateDto) :
    WrittenAccounts db (db.updateRole ⟨roleId, roleDto.name, joinText ',' roleDto.permissions⟩)
      ((RoleService.roleUpdate roleId roleDto).after db) := by
  unfold AccountAction.after
  by_cases hschema : AccountSchema (db.updateRole ⟨roleId, roleDto.name, joinText ',' roleDto.permissions⟩)
  · rw [run_roleUpdate hschema]
    exact .done hschema
  · rw [run_roleUpdate_refused hschema]
    exact .refused hschema

theorem roleDelete_written (db : Accounts) (roleId : Int) :
    WrittenAccounts db (db.deleteRole roleId) ((RoleService.roleDelete roleId).after db) := by
  unfold AccountAction.after
  by_cases hschema : AccountSchema (db.deleteRole roleId)
  · obtain ⟨deleted, hrun⟩ := run_roleDelete hschema
    rw [hrun]
    exact .done hschema
  · rw [run_roleDelete_refused hschema]
    exact .refused hschema

/-! ### New users -/

/-- The tables with a new user. -/
def AccountTables.withUser (t : AccountTables) (user : User) : AccountTables :=
  t.insertUser user.username user.password user.salt

/-- What `insert` does behind its first statement: the first user becomes an administrator. -/
def promoteFirst (result : Int) (userCount : Nat) : AccountAction Int := do
  if userCount == 1 then
    RoleService.addRoleToUser result roleIdAdmin
  return result

theorem run_insert {user : User} (h : AccountSchema (db.withUser user)) :
    (UserService.insert user).run db =
      (promoteFirst (db.userSeq + 1) (db.users.length + 1)).run ⟨db.withUser user, h⟩ := by
  have hexec : (AccountStmt.insertUser user.username user.password user.salt).exec db =
      (.ok (db.userSeq + 1), ⟨db.withUser user, h⟩) :=
    Accounts.write_ok (·.insertUser user.username user.password user.salt) h _
  have hcount : AccountStmt.countUsers.exec ⟨db.withUser user, h⟩ = (db.users.length + 1, ⟨db.withUser user, h⟩) :=
    congrArg (·, _) List.length_append
  unfold UserService.insert
  rw [run_bind_ok (run_execute_ok (run_stmt_of_exec hexec))]
  exact run_bind_ok (run_stmt_of_exec hcount)

theorem run_insert_refused {user : User} (h : ¬ AccountSchema (db.withUser user)) :
    (UserService.insert user).run db = (.error (.databaseError .constraint), db) := by
  have hexec : (AccountStmt.insertUser user.username user.password user.salt).exec db =
      (.error .constraint, db) :=
    Accounts.write_refused (·.insertUser user.username user.password user.salt) h _
  exact run_bind_error (run_execute_error (run_stmt_of_exec hexec))

/-- What `insert` returns and leaves behind. -/
inductive InsertRun (user : User) (db : Accounts) : Except Error Int × Accounts → Prop where
  | taken (hmore : db.users ≠ []) : InsertRun user db (.error (.databaseError .constraint), db)
  | later (hmore : db.users ≠ []) (h : AccountSchema (db.withUser user)) :
      InsertRun user db (.ok (db.userSeq + 1), ⟨db.withUser user, h⟩)
  | noRole (hfirst : db.users = []) (hrole : roleIdAdmin ∉ db.roles.map (·.id))
      (h : AccountSchema (db.withUser user)) :
      InsertRun user db (.error (.databaseError .constraint), ⟨db.withUser user, h⟩)
  | first (hfirst : db.users = []) (hrole : roleIdAdmin ∈ db.roles.map (·.id))
      (h : AccountSchema ((db.withUser user).insertUserRole (db.userSeq + 1) roleIdAdmin)) :
      InsertRun user db
        (.ok (db.userSeq + 1), ⟨(db.withUser user).insertUserRole (db.userSeq + 1) roleIdAdmin, h⟩)

theorem promoteFirst_ne_one {id : Int} {count : Nat} (h : count ≠ 1) : promoteFirst id count = .done (.ok id) := by
  unfold promoteFirst
  rw [if_neg (by simpa using h)]
  rfl

theorem promoteFirst_one_run {id : Int} (h : AccountSchema (db.insertUserRole id roleIdAdmin)) :
    (promoteFirst id 1).run db = (.ok id, ⟨db.insertUserRole id roleIdAdmin, h⟩) := by
  show run (RoleService.addRoleToUser id roleIdAdmin >>= fun _ => pure id) db = _
  rw [run_bind_ok (run_addRoleToUser h)]
  rfl

theorem promoteFirst_one_refused {id : Int} (h : ¬ AccountSchema (db.insertUserRole id roleIdAdmin)) :
    (promoteFirst id 1).run db = (.error (.databaseError .constraint), db) :=
  run_bind_error (run_addRoleToUser_refused h)

theorem run_insert_later {user : User} (hmore : db.users ≠ []) (h : AccountSchema (db.withUser user)) :
    (UserService.insert user).run db = (.ok (db.userSeq + 1), ⟨db.withUser user, h⟩) := by
  rw [run_insert h, promoteFirst_ne_one (by simpa using hmore)]
  rfl

theorem run_insert_first {user : User} (hfirst : db.users = []) (hschema : AccountSchema (db.withUser user))
    (h : AccountSchema ((db.withUser user).insertUserRole (db.userSeq + 1) roleIdAdmin)) :
    (UserService.insert user).run db =
      (.ok (db.userSeq + 1), ⟨(db.withUser user).insertUserRole (db.userSeq + 1) roleIdAdmin, h⟩) := by
  have hone : db.users.length + 1 = 1 := congrArg (·.length + 1) hfirst
  rw [run_insert hschema, hone]
  exact promoteFirst_one_run h

theorem run_insert_noRole {user : User} (hfirst : db.users = []) (hschema : AccountSchema (db.withUser user))
    (h : ¬ AccountSchema ((db.withUser user).insertUserRole (db.userSeq + 1) roleIdAdmin)) :
    (UserService.insert user).run db = (.error (.databaseError .constraint), ⟨db.withUser user, hschema⟩) := by
  have hone : db.users.length + 1 = 1 := congrArg (·.length + 1) hfirst
  rw [run_insert hschema, hone]
  exact promoteFirst_one_refused h

/-- The new user can be given every role that exists. -/
theorem AccountSchema.promote_iff {user : User} (hschema : AccountSchema (db.withUser user)) (roleId : Int) :
    AccountSchema ((db.withUser user).insertUserRole (db.userSeq + 1) roleId) ↔
      roleId ∈ db.roles.map (·.id) := by
  have hnew : db.userSeq + 1 ∈ (db.withUser user).users.map (·.id) :=
    List.mem_map_of_mem (List.mem_append_right _ (List.mem_singleton_self _))
  rw [hschema.insertUserRole_iff]
  exact ⟨fun h => h.2, fun h => ⟨hnew, h⟩⟩

theorem insertRun (user : User) (db : Accounts) : InsertRun user db ((UserService.insert user).run db) := by
  by_cases hschema : AccountSchema (db.withUser user)
  · by_cases hfirst : db.users = []
    · by_cases hrole : roleIdAdmin ∈ db.roles.map (·.id)
      · have hassigned := (hschema.promote_iff roleIdAdmin).mpr hrole
        rw [run_insert_first hfirst hschema hassigned]
        exact .first hfirst hrole hassigned
      · rw [run_insert_noRole hfirst hschema fun h => hrole ((hschema.promote_iff roleIdAdmin).mp h)]
        exact .noRole hfirst hrole hschema
    · rw [run_insert_later hfirst hschema]
      exact .later hfirst hschema
  · rw [run_insert_refused hschema]
    refine .taken fun hempty => hschema ?_
    refine (db.schema.insertUser_iff user.username user.password user.salt).mpr ?_
    rw [hempty]
    exact List.not_mem_nil

end

end MudController
