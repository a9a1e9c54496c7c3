import MudController.Accounts.Readers
import MudController.Logic.InForce

/-!
# `Accounts.History` — who holds which role, after any calls

The assignments and removals that succeeded, in order, are a log (`Logic.InForce`) on the pairs of a user and
a role. Whatever users and roles were inserted, edited and deleted in between, the stored users hold exactly
the roles that are in force (`Recorded`), and `find_by_id` reports those roles
(`assignment_faithful`).
-/

namespace MudController

open Logic

/-- A call of `user_service` or `role_service` that writes. -/
inductive AccountCall where
  | insert (user : User)
  | delete (userId : Int)
  | roleCreate (roleDto : RoleUpdateDto)
  | roleUpdate (roleId : Int) (roleDto : RoleUpdateDto)
  | roleDelete (roleId : Int)
  | addRoleToUser (userId roleId : Int)
  | roleDeleteFromUser (userId roleId : Int)

/-- The accounts after a call. -/
def AccountCall.after (db : Accounts) : AccountCall → Accounts
  | .insert user => (UserService.insert user).after db
  | .delete userId => (UserService.delete userId).after db
  | .roleCreate roleDto => (RoleService.roleCreate roleDto).after db
  | .roleUpdate roleId roleDto => (RoleService.roleUpdate roleId roleDto).after db
  | .roleDelete roleId => (RoleService.roleDelete roleId).after db
  | .addRoleToUser userId roleId => (RoleService.addRoleToUser userId roleId).after db
  | .roleDeleteFromUser userId roleId => (RoleService.roleDeleteFromUser userId roleId).after db

/-- An assignment of a role to a user, or its removal. -/
abbrev Assignment := Change (Int × Int)

/-- The assignment or removal that a call makes, if it succeeds. The insertion of the first user assigns the
    role of the administrators to it. -/
def AccountCall.entries (db : Accounts) : AccountCall → List Assignment
  | .insert user =>
    match (UserService.insert user).run db with
    | (.ok userId, _) => if db.users = [] then [.set (userId, roleIdAdmin)] else []
    | (.error _, _) => []
  | .addRoleToUser userId roleId =>
    match (RoleService.addRoleToUser userId roleId).run db with
    | (.ok _, _) => [.set (userId, roleId)]
    | (.error _, _) => []
  | .roleDeleteFromUser userId roleId =>
    match (RoleService.roleDeleteFromUser userId roleId).run db with
    | (.ok _, _) => [.clear (userId, roleId)]
    | (.error _, _) => []
  | _ => []

/-- The accounts, and the assignments and removals that led to them. -/
structure AccountHistory where
  accounts : Accounts
  log : List Assignment

/-- One call. -/
def AccountHistory.step (history : AccountHistory) (call : AccountCall) : AccountHistory where
  accounts := call.after history.accounts
  log := history.log ++ call.entries history.accounts

/-- The history of these calls. -/
def historyAfter (db : Accounts) (calls : List AccountCall) : AccountHistory :=
  calls.foldl AccountHistory.step ⟨db, []⟩

/-- The last successful assignment or removal of the role was an assignment. -/
def LastAssigned (userId roleId : Int) (log : List Assignment) : Prop := InForce (userId, roleId) log

/-! ## The invariant -/

/-- The stored users hold the roles in force, and nobody's id has been used ahead of time. -/
structure Recorded (t : AccountTables) (log : List Assignment) : Prop where
  held : ∀ user ∈ t.users, ∀ roleId, t.Holds user.id roleId ↔ LastAssigned user.id roleId log
  fresh : ∀ userId roleId, .set (userId, roleId) ∈ log → userId ≤ t.userSeq

namespace Recorded

variable {t : AccountTables} {log : List Assignment}

/-- A new user holds nothing yet. -/
theorem withUser (h : Recorded t log) (schema : AccountSchema t) (user : User) :
    Recorded (t.withUser user) log := by
  constructor
  · refine forall_mem_append h.held fun roleId => ?_
    -- neither the table nor the log knows the new id
    have hnot : ¬ t.Holds (t.userSeq + 1) roleId := fun hholds =>
      succ_not_mem schema.userSeq (schema.userRef _ hholds)
    have hlog : ¬ LastAssigned (t.userSeq + 1) roleId log := fun hlast =>
      absurd (h.fresh _ _ hlast.set_mem) (by omega)
    exact iff_of_false hnot hlog
  · intro userId roleId hset
    exact Int.le_add_one (h.fresh userId roleId hset)

/-- The roles of a deleted user go with it, those of the others stay. -/
theorem deleteUser (h : Recorded t log) (id : Int) : Recorded (t.deleteUser id) log := by
  constructor
  · intro user huser roleId
    obtain ⟨huser, hne⟩ := List.mem_filter.mp huser
    rw [← h.held user huser roleId]
    unfold AccountTables.Holds AccountTables.deleteUser
    rw [List.mem_filter]
    exact and_iff_left hne
  · exact h.fresh

/-- An assignment. -/
theorem assign (h : Recorded t log) {userId : Int} (roleId : Int) (hseq : userId ≤ t.userSeq) :
    Recorded (t.insertUserRole userId roleId) (log ++ [.set (userId, roleId)]) := by
  constructor
  · intro user huser id
    have hbefore := h.held user huser id
    unfold LastAssigned at hbefore ⊢
    rw [inForce_append_set, ← hbefore]
    unfold AccountTables.Holds AccountTables.insertUserRole
    simp
  · refine fun other id hset => ?_
    rcases List.mem_append.mp hset with hset | hset
    · exact h.fresh other id hset
    · obtain ⟨rfl, rfl⟩ := Prod.mk.inj (Change.set.inj (List.mem_singleton.mp hset))
      exact hseq

/-- A removal takes every assignment of the role away, however often it was made. -/
theorem unassign (h : Recorded t log) (userId roleId : Int) :
    Recorded (t.deleteUserRole userId roleId) (log ++ [.clear (userId, roleId)]) := by
  constructor
  · intro user huser id
    have hbefore := h.held user huser id
    unfold LastAssigned at hbefore ⊢
    rw [inForce_append_clear, ← hbefore]
    unfold AccountTables.Holds AccountTables.deleteUserRole
    rw [List.mem_filter, decide_eq_true_iff]
    simp only [ne_eq, UserRole.mk.injEq, Prod.mk.injEq]
  · refine fun other id hset => h.fresh other id ?_
    simpa using hset

end Recorded

/-! ## The calls keep it -/

/-- A call that writes nothing but roles leaves the users and what they hold as they are. -/
theorem Recorded.written {db db' : Accounts} {t : AccountTables} {log : List Assignment}
    (h : Recorded db.toAccountTables log) (hwritten : WrittenAccounts db t db') (husers : t.users = db.users)
    (hseq : t.userSeq = db.userSeq) (hroles : t.usersRoles = db.usersRoles) :
    Recorded db'.toAccountTables (log ++ []) := by
  rw [List.append_nil]
  refine hwritten.holds (P := fun db => Recorded db.toAccountTables log) h fun hschema => ⟨?_, hseq ▸ h.fresh⟩
  intro user huser roleId
  show t.Holds user.id roleId ↔ _
  unfold AccountTables.Holds
  rw [hroles]
  exact h.held user (husers ▸ huser) roleId

theorem recorded_step {history : AccountHistory} (call : AccountCall)
    (h : Recorded history.accounts.toAccountTables history.log) :
    Recorded (history.step call).accounts.toAccountTables (history.step call).log := by
  obtain ⟨db, log⟩ := history
  cases call with
  | insert user =>
      show Recorded ((UserService.insert user).run db).2.toAccountTables
        (log ++ (AccountCall.insert user).entries db)
      rw [AccountCall.entries]
      have hinsert := insertRun user db
      generalize (UserService.insert user).run db = outcome at hinsert ⊢
      cases hinsert with
      | taken hmore => simpa using h
      | later hmore hschema => simpa [hmore] using h.withUser db.schema user
      | noRole hfirst hrole hschema => simpa using h.withUser db.schema user
      | first hfirst hrole hschema =>
          simp only [if_pos hfirst]
          exact (h.withUser db.schema user).assign roleIdAdmin (Int.le_refl _)
  | delete userId =>
      obtain ⟨deleted, hrun⟩ := run_deleteUser userId
      show Recorded ((UserService.delete userId).run db).2.toAccountTables (log ++ [])
      rw [hrun, List.append_nil]
      exact h.deleteUser userId
  | roleCreate roleDto =>
      exact h.written (roleCreate_written db roleDto) rfl rfl rfl
  | roleUpdate roleId roleDto =>
      exact h.written (roleUpdate_written db roleId roleDto) rfl rfl rfl
  | roleDelete roleId =>
      exact h.written (roleDelete_written db roleId) rfl rfl rfl
  | addRoleToUser userId roleId =>
      show Recorded ((RoleService.addRoleToUser userId roleId).run db).2.toAccountTables
        (log ++ (AccountCall.addRoleToUser userId roleId).entries db)
      rw [AccountCall.entries]
      by_cases hschema : AccountSchema (db.insertUserRole userId roleId)
      · simp only [run_addRoleToUser hschema]
        obtain ⟨huser, _⟩ := (db.schema.insertUserRole_iff userId roleId).mp hschema
        obtain ⟨user, hstored, hid⟩ := List.mem_map.mp huser
        exact h.assign roleId (hid ▸ db.schema.userSeq user hstored)
      · simp only [run_addRoleToUser_refused hschema, List.append_nil]
        exact h
  | roleDeleteFromUser userId roleId =>
      show Recorded ((RoleService.roleDeleteFromUser userId roleId).run db).2.toAccountTables
        (log ++ (AccountCall.roleDeleteFromUser userId roleId).entries db)
      rw [AccountCall.entries]
      cases hfind : db.roleById roleId with
      | none =>
          simp only [run_roleDeleteFromUser_missing hfind, List.append_nil]
          exact h
      | some role =>
          obtain rfl : role.id = roleId := by simpa using List.find?_some hfind
          simp only [run_roleDeleteFromUser hfind]
          exact h.unassign userId role.id

/-- The invariant holds after any calls, from a database without users. -/
theorem recorded_historyAfter {db : Accounts} (hempty : db.users = []) (calls : List AccountCall) :
    Recorded (historyAfter db calls).accounts.toAccountTables (historyAfter db calls).log := by
  unfold historyAfter
  induction calls using List.reverseRecOn with
  | nil =>
      refine ⟨fun user huser => ?_, fun _ _ hset => ?_⟩
      · have hnone : user ∈ ([] : List UserDbo) := hempty ▸ huser
        cases hnone
      · cases hset
  | append_singleton calls call ih =>
      rw [List.foldl_append]
      exact recorded_step call ih

/-! ## What is reported -/

/-- **Role assignment is faithful.** After any calls on a database without users, `find_by_id` finds every
    stored user, with exactly the roles whose last successful assignment or removal was an assignment, each
    once, under the names and with the permissions that are stored for them now. -/
theorem assignment_faithful {db : Accounts} (hempty : db.users = []) (calls : List AccountCall)
    {user : UserDbo} (huser : user ∈ (historyAfter db calls).accounts.users) :
    ∃ found, ((UserService.findById user.id).run (historyAfter db calls).accounts).1 = .ok found ∧
      (found.roles.map (·.id)).Nodup ∧
      (∀ roleId, roleId ∈ found.roles.map (·.id) ↔
        LastAssigned user.id roleId (historyAfter db calls).log) ∧
      ∃ rows : List RoleDbo, (∀ row ∈ rows, row ∈ (historyAfter db calls).accounts.roles) ∧
        found.roles = rows.map Role.fromDbo ∧ found.permissions = rows.flatMap RoleDbo.permissionList := by
  have hrecorded := recorded_historyAfter hempty calls
  generalize historyAfter db calls = history at huser hrecorded ⊢
  obtain ⟨db, log⟩ := history
  have hselect : db.userById user.id = some user := find?_of_mem db.schema.userIds huser
  have hids : ((db.rolesOf user.id).map Role.fromDbo).map (·.id) = (db.rolesOf user.id).map (·.id) := by
    rw [List.map_map]
    rfl
  refine ⟨UserService.ofRoles user (db.rolesOf user.id), congrArg Prod.fst (run_findById_some hselect), ?_, ?_,
    db.rolesOf user.id, fun row hrow => (mem_rolesOf.mp hrow).1, rfl, rfl⟩
  · show (((db.rolesOf user.id).map Role.fromDbo).map (·.id)).Nodup
    rw [hids]
    exact db.schema.roleIds.sublist (List.filter_sublist.map _)
  · intro roleId
    show roleId ∈ ((db.rolesOf user.id).map Role.fromDbo).map (·.id) ↔ _
    rw [hids, ← hrecorded.held user huser roleId, List.mem_map]
    constructor
    · rintro ⟨row, hrow, rfl⟩
      exact (mem_rolesOf.mp hrow).2
    · intro hholds
      -- a role that is held is stored
      obtain ⟨row, hrow, rfl⟩ := List.mem_map.mp (db.schema.roleRef _ hholds)
      exact ⟨row, mem_rolesOf.mpr ⟨hrow, hholds⟩, rfl⟩

/-- A role that was assigned twice, and the administrators' role, which was taken away. -/
def watchCalls : List AccountCall :=
  [.insert (signupUser "root"), .roleCreate ⟨"watch", ["device/list"]⟩, .addRoleToUser 1 2, .addRoleToUser 1 2,
    .roleDeleteFromUser 1 0]

set_option maxRecDepth 20000 in
theorem assignment_faithful_watch :
    ∃ found, ((UserService.findById 1).run (historyAfter Accounts.migrated watchCalls).accounts).1 = .ok found ∧
      2 ∈ found.roles.map (·.id) ∧ 0 ∉ found.roles.map (·.id) := by
  have huser : (⟨1, "root", "", [], 0⟩ : UserDbo) ∈ (historyAfter Accounts.migrated watchCalls).accounts.users := by
    decide
  have hlog : (historyAfter Accounts.migrated watchCalls).log =
      [.set (1, 0), .set (1, 2), .set (1, 2), .clear (1, 0)] := by decide
  obtain ⟨found, hfound, _, hroles, _⟩ := assignment_faithful rfl watchCalls huser
  refine ⟨found, hfound, (hroles 2).mpr ?_, fun hmem => ?_⟩
  · rw [hlog]
    exact ⟨[.set (1, 0), .set (1, 2)], [.clear (1, 0)], rfl, by decide⟩
  · have hlast := (hroles 0).mp hmem
    rw [hlog] at hlast
    change InForce ((1, 0) : Int × Int) ([.set (1, 0), .set (1, 2), .set (1, 2)] ++ [.clear (1, 0)]) at hlast
    exact (inForce_append_clear.mp hlast).2 rfl

end MudController
