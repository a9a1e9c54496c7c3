import MudController.Error
import MudController.Logic.Prog
import MudController.Logic.Rows
import MudController.Models.User

/-!
# `Db.Accounts` — users, roles and who holds which

The tables `users`, `roles` and `users_roles`, what the migrations declare of them, and the statements that
`user_service` and `role_service` execute on them. As with the other tables, a database is tables together
with the proof that they satisfy the schema, and a write that would violate it has no effect.
-/

namespace MudController

open Logic

structure AccountTables where
  users : List UserDbo
  /-- The largest user id handed out so far (`AUTOINCREMENT`). -/
  userSeq : Int
  roles : List RoleDbo
  /-- The largest role id handed out so far. -/
  roleSeq : Int
  usersRoles : List UserRole

/-- The constraints of the migrations. `users_roles` has no unique columns but its id. -/
structure AccountSchema (t : AccountTables) : Prop where
  userIds : (t.users.map (·.id)).Nodup
  userSeq : ∀ u ∈ t.users, u.id ≤ t.userSeq
  usernames : (t.users.map (·.username)).Nodup
  roleIds : (t.roles.map (·.id)).Nodup
  roleSeq : ∀ r ∈ t.roles, r.id ≤ t.roleSeq
  roleNames : (t.roles.map (·.name)).Nodup
  userRef : ∀ m ∈ t.usersRoles, m.userId ∈ t.users.map (·.id)
  roleRef : ∀ m ∈ t.usersRoles, m.roleId ∈ t.roles.map (·.id)

instance (t : AccountTables) : Decidable (AccountSchema t) :=
  decidable_of_iff
    ((t.users.map (·.id)).Nodup ∧ (∀ u ∈ t.users, u.id ≤ t.userSeq) ∧
      (t.users.map (·.username)).Nodup ∧ (t.roles.map (·.id)).Nodup ∧
      (∀ r ∈ t.roles, r.id ≤ t.roleSeq) ∧ (t.roles.map (·.name)).Nodup ∧
      (∀ m ∈ t.usersRoles, m.userId ∈ t.users.map (·.id)) ∧
      (∀ m ∈ t.usersRoles, m.roleId ∈ t.roles.map (·.id)))
    ⟨fun ⟨h₁, h₂, h₃, h₄, h₅, h₆, h₇, h₈⟩ => ⟨h₁, h₂, h₃, h₄, h₅, h₆, h₇, h₈⟩,
     fun ⟨h₁, h₂, h₃, h₄, h₅, h₆, h₇, h₈⟩ => ⟨h₁, h₂, h₃, h₄, h₅, h₆, h₇, h₈⟩⟩

/-- The tables, satisfying the schema. -/
structure Accounts extends AccountTables where
  schema : AccountSchema toAccountTables

theorem Accounts.ext {a b : Accounts} (h : a.toAccountTables = b.toAccountTables) : a = b := by
  obtain ⟨ta, ha⟩ := a
  obtain ⟨tb, hb⟩ := b
  cases h
  rfl

/-- Execute a write; `answer` is reported if the schema allows it. -/
def Accounts.write {α : Type} (db : Accounts) (f : AccountTables → AccountTables) (answer : α) :
    Except DbError α × Accounts :=
  if h : AccountSchema (f db.toAccountTables) then (.ok answer, ⟨f db.toAccountTables, h⟩)
  else (.error .constraint, db)

/-- The database after the migrations: no users, and the two roles that they insert. -/
def Accounts.migrated : Accounts where
  users := []
  userSeq := 0
  roles := [⟨0, "admin", "**"⟩, ⟨1, "reader", "**/list,**/read"⟩]
  roleSeq := 1
  usersRoles := []
  schema := by decide

/-! ## Lookups -/

/-- `SELECT * FROM users WHERE id = $1`. -/
def AccountTables.userById (t : AccountTables) (id : Int) : Option UserDbo := t.users.find? (·.id = id)

/-- `SELECT * FROM roles WHERE id = $1`. -/
def AccountTables.roleById (t : AccountTables) (id : Int) : Option RoleDbo := t.roles.find? (·.id = id)

/-- The user holds the role, once or more often. -/
def AccountTables.Holds (t : AccountTables) (userId roleId : Int) : Prop := ⟨userId, roleId⟩ ∈ t.usersRoles

instance (t : AccountTables) (userId roleId : Int) : Decidable (t.Holds userId roleId) :=
  inferInstanceAs (Decidable (_ ∈ _))

/-- `SELECT * FROM roles WHERE id IN (SELECT role_id FROM users_roles WHERE user_id = $1)`. -/
def AccountTables.rolesOf (t : AccountTables) (userId : Int) : List RoleDbo :=
  t.roles.filter fun role => t.Holds userId role.id

/-- The rows of `users_roles ur JOIN roles r ON r.id = ur.role_id WHERE user_id = …`: a role comes once for
    every time that it was assigned. -/
def AccountTables.joinedRoles (t : AccountTables) (userId : Int) : List RoleDbo :=
  (t.usersRoles.filter (·.userId = userId)).flatMap fun m => t.roles.filter (·.id = m.roleId)

/-- A row of the query of `get_all`. -/
structure UserWithRoles where
  user : UserDbo
  roles : Option String
  rolesIds : Option String
  permissions : Option String

/-- The query of `get_all`: names, ids and permissions of a user's roles, each joined to one text. -/
def AccountTables.usersWithRoles (t : AccountTables) : List UserWithRoles :=
  t.users.map fun user => {
    user := user
    roles := groupConcat ',' ((t.joinedRoles user.id).map (·.name))
    rolesIds := groupConcat ',' ((t.joinedRoles user.id).map fun role => signedText role.id)
    permissions := groupConcat ',' ((t.joinedRoles user.id).map (·.permissions)) }

/-! ## Writing statements, as functions of the tables -/

/-- `INSERT INTO users …`; the last interaction has its default. -/
def AccountTables.insertUser (t : AccountTables) (username password : String) (salt : List UInt8) :
    AccountTables :=
  { t with
    users := t.users ++ [⟨t.userSeq + 1, username, password, salt, 0⟩]
    userSeq := t.userSeq + 1 }

/-- `DELETE FROM users WHERE id = $1`: the roles of the user go with it. -/
def AccountTables.deleteUser (t : AccountTables) (id : Int) : AccountTables :=
  { t with users := t.users.filter (·.id ≠ id), usersRoles := t.usersRoles.filter (·.userId ≠ id) }

/-- `INSERT INTO roles …`. -/
def AccountTables.insertRole (t : AccountTables) (name permissions : String) : AccountTables :=
  { t with roles := t.roles ++ [⟨t.roleSeq + 1, name, permissions⟩], roleSeq := t.roleSeq + 1 }

/-- `UPDATE roles SET name = $1, permissions = $2 WHERE id = $3`. -/
def AccountTables.updateRole (t : AccountTables) (role : RoleDbo) : AccountTables :=
  { t with roles := replaceRow (·.id) role t.roles }

/-- `DELETE FROM roles WHERE id = $1`. -/
def AccountTables.deleteRole (t : AccountTables) (id : Int) : AccountTables :=
  { t with roles := t.roles.filter (·.id ≠ id) }

/-- `INSERT INTO users_roles …`. -/
def AccountTables.insertUserRole (t : AccountTables) (userId roleId : Int) : AccountTables :=
  { t with usersRoles := t.usersRoles ++ [⟨userId, roleId⟩] }

/-- `DELETE FROM users_roles WHERE user_id = $1 AND role_id = $2`. -/
def AccountTables.deleteUserRole (t : AccountTables) (userId roleId : Int) : AccountTables :=
  { t with usersRoles := t.usersRoles.filter (· ≠ ⟨userId, roleId⟩) }

/-! ## Statements -/

inductive AccountStmt where
  | insertUser (username password : String) (salt : List UInt8)
  | deleteUser (id : Int)
  | countUsers
  | selectUserById (id : Int)
  | selectUsersWithRoles
  | selectRolesOf (userId : Int)
  | insertRole (name permissions : String)
  | updateRole (role : RoleDbo)
  | deleteRole (id : Int)
  | selectRoleById (id : Int)
  | selectRoles
  | insertUserRole (userId roleId : Int)
  | deleteUserRole (userId roleId : Int)
  deriving DecidableEq

/-- The answer to a statement. -/
abbrev AccountStmt.Answer : AccountStmt → Type
  | .insertUser _ _ _ => Except DbError Int
  | .deleteUser _ => Except DbError Nat
  | .countUsers => Nat
  | .selectUserById _ => Option UserDbo
  | .selectUsersWithRoles => List UserWithRoles
  | .selectRolesOf _ => List RoleDbo
  | .insertRole _ _ => Except DbError Int
  | .updateRole _ => Except DbError Nat
  | .deleteRole _ => Except DbError Nat
  | .selectRoleById _ => Option RoleDbo
  | .selectRoles => List RoleDbo
  | .insertUserRole _ _ => Except DbError Nat
  | .deleteUserRole _ _ => Except DbError Nat

/-- What a statement does. -/
def AccountStmt.exec : (s : AccountStmt) → Accounts → s.Answer × Accounts
  | .insertUser username password salt, db => db.write (·.insertUser username password salt) (db.userSeq + 1)
  | .deleteUser id, db => db.write (·.deleteUser id) (db.users.filter (·.id = id)).length
  | .countUsers, db => (db.users.length, db)
  | .selectUserById id, db => (db.userById id, db)
  | .selectUsersWithRoles, db => (db.usersWithRoles, db)
  | .selectRolesOf userId, db => (db.rolesOf userId, db)
  | .insertRole name permissions, db => db.write (·.insertRole name permissions) (db.roleSeq + 1)
  | .updateRole role, db => db.write (·.updateRole role) (db.roles.filter (·.id = role.id)).length
  | .deleteRole id, db => db.write (·.deleteRole id) (db.roles.filter (·.id = id)).length
  | .selectRoleById id, db => (db.roleById id, db)
  | .selectRoles, db => (db.roles, db)
  | .insertUserRole userId roleId, db => db.write (·.insertUserRole userId roleId) 1
  | .deleteUserRole userId roleId, db =>
      db.write (·.deleteUserRole userId roleId) (db.usersRoles.filter (· = ⟨userId, roleId⟩)).length

/-- A call of `user_service` or `role_service`. -/
abbrev AccountAction (α : Type) := Prog AccountStmt AccountStmt.Answer Error α

namespace AccountAction

variable {α β : Type}

/-- Run a call by itself. -/
def run (p : AccountAction α) (db : Accounts) : Except Error α × Accounts := Prog.run AccountStmt.exec p db

/-- The accounts after a call, whether it succeeds or fails. -/
def after (p : AccountAction α) (db : Accounts) : Accounts := (p.run db).2

/-- Execute a statement and go on with its answer. -/
def stmt (s : AccountStmt) : AccountAction s.Answer := Prog.call s

/-- `execute(conn).await?`. -/
def execute (p : AccountAction (Except DbError α)) : AccountAction α := do
  match ← p with
  | .ok a => return a
  | .error e => Prog.fail (.databaseError e)

/-- `fetch_one(conn).await?`. -/
def fetchOne (p : AccountAction (Option α)) : AccountAction α := do
  match ← p with
  | some a => return a
  | none => Prog.fail (.databaseError .rowNotFound)

@[simp] theorem run_done (r : Except Error α) (db : Accounts) :
    AccountAction.run (Prog.done r) db = (r, db) := rfl

theorem run_bind_ok {p : AccountAction α} {f : α → AccountAction β} {db db' : Accounts} {a : α}
    (h : run p db = (.ok a, db')) : run (p >>= f) db = run (f a) db' := Prog.run_bind_ok _ h

theorem run_bind_error {p : AccountAction α} {f : α → AccountAction β} {db db' : Accounts} {e : Error}
    (h : run p db = (.error e, db')) : run (p >>= f) db = (.error e, db') := Prog.run_bind_error _ h

end AccountAction

end MudController
