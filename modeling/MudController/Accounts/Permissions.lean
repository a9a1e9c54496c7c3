import MudController.Accounts.Readers

/-!
# `Accounts.Permissions` — what is read back of a role's permissions

A role keeps its permissions in one text, joined by commas, and every reader splits the text again. Names
without a comma come back as they were, in their order; but an empty list is stored as the empty text, which
splits into one empty name.
-/

namespace MudController

open Logic AccountAction

/-- The user holds this role and no other. -/
def AccountTables.HoldsOnly (t : AccountTables) (userId roleId : Int) : Prop :=
  ∀ other, t.Holds userId other ↔ other = roleId

/-- A call that has stored the list of permissions in the role `roleId`, and what it left behind. -/
inductive StoredRole (db : Accounts) (roleDto : RoleUpdateDto) : Int → Accounts → Prop where
  | create (role : RoleDto) (db' : Accounts)
      (hrun : (RoleService.roleCreate roleDto).run db = (.ok role, db')) : StoredRole db roleDto role.id db'
  | update (roleId : Int) (db' : Accounts)
      (hrun : (RoleService.roleUpdate roleId roleDto).run db = (.ok true, db')) :
      StoredRole db roleDto roleId db'

/-- Every reader answers with these permissions for the role: `role_get`, `roles_get_all`, and `find_by_id` for
    a user who holds only that role, from when the role is assigned to them. -/
structure ReadBack (db : Accounts) (roleId : Int) (permissions : List String) : Prop where
  get : ∃ role, (RoleService.roleGet roleId).run db = (.ok role, db) ∧ role.permissions = permissions
  getAll : ∃ roles, RoleService.rolesGetAll.run db = (.ok roles, db) ∧ roleId ∈ roles.map (·.id) ∧
    ∀ role ∈ roles, role.id = roleId → role.permissions = permissions
  findById : ∀ later : Accounts, later.roles = db.roles → ∀ user ∈ later.users,
    later.HoldsOnly user.id roleId →
    ∃ found, (UserService.findById user.id).run later = (.ok found, later) ∧ found.permissions = permissions

section

variable {db db' : Accounts} {roleDto : RoleUpdateDto} {roleId : Int}

/-- The stored list is one text in the row of the role. -/
theorem StoredRole.row (h : StoredRole db roleDto roleId db') :
    ⟨roleId, roleDto.name, joinText ',' roleDto.permissions⟩ ∈ db'.roles := by
  cases h with
  | create role db' hrun =>
      by_cases hschema : AccountSchema (db.insertRole roleDto.name (joinText ',' roleDto.permissions))
      · rw [run_roleCreate hschema] at hrun
        cases hrun
        exact List.mem_append_right _ (List.mem_singleton_self _)
      · rw [run_roleCreate_refused hschema] at hrun
        cases hrun
  | update roleId db' hrun =>
      by_cases hschema : AccountSchema (db.updateRole ⟨roleId, roleDto.name, joinText ',' roleDto.permissions⟩)
      · rw [run_roleUpdate hschema] at hrun
        obtain ⟨hcount, rfl⟩ := Prod.mk.inj hrun
        -- one row was changed, so there is a row with the id
        have hone : (db.roles.filter (·.id = roleId)).length = 1 := by simpa using hcount
        obtain ⟨row, hrow⟩ := List.exists_mem_of_length_pos (by omega : 0 < (db.roles.filter (·.id = roleId)).length)
        obtain ⟨hmem, hid⟩ := List.mem_filter.mp hrow
        exact mem_replaceRow_self (List.mem_map.mpr ⟨row, hmem, of_decide_eq_true hid⟩)
      · rw [run_roleUpdate_refused hschema] at hrun
        cases hrun

/-- A user who holds one role has the permissions of that role. -/
theorem rolesOf_holdsOnly {role : RoleDbo} (hrole : role ∈ db.roles) {userId : Int}
    (h : db.HoldsOnly userId role.id) : db.rolesOf userId = [role] := by
  unfold AccountTables.rolesOf
  simp only [h _]
  exact filter_of_mem db.schema.roleIds hrole

/-- All readers split the text of the row. -/
theorem readBack_iff {role : RoleDbo} (hrole : role ∈ db.roles) {permissions : List String} :
    ReadBack db role.id permissions ↔ role.permissionList = permissions := by
  have hselect : db.roleById role.id = some role := find?_of_mem db.schema.roleIds hrole
  constructor
  · intro h
    obtain ⟨read, hrun, hpermissions⟩ := h.get
    rw [run_roleGet hselect] at hrun
    cases hrun
    exact hpermissions
  · rintro rfl
    refine ⟨⟨_, run_roleGet hselect, rfl⟩, ⟨_, rfl, ?_, ?_⟩, ?_⟩
    · exact List.mem_map.mpr ⟨RoleDto.ofDbo role, List.mem_map_of_mem hrole, rfl⟩
    · intro read hread hid
      obtain ⟨row, hrow, rfl⟩ := List.mem_map.mp hread
      have hrow : row = role := List.inj_on_of_nodup_map db.schema.roleIds hrow hrole hid
      rw [hrow]
      rfl
    · intro later hroles user huser honly
      have hstored : role ∈ later.roles := hroles ▸ hrole
      refine ⟨_, run_findById_some (find?_of_mem later.schema.userIds huser), ?_⟩
      show (later.rolesOf user.id).flatMap RoleDbo.permissionList = _
      rw [rolesOf_holdsOnly hstored honly, List.flatMap_singleton]

/-- **Permissions come back** from every reader exactly if there are any. -/
theorem permissions_readBack_iff (hvalid : RoleService.validatePermissionName roleDto.permissions = .ok ())
    (hstored : StoredRole db roleDto roleId db') :
    ReadBack db' roleId roleDto.permissions ↔ roleDto.permissions ≠ [] := by
  have hcommas := validatePermissionName_ok_iff.mp hvalid
  refine (readBack_iff hstored.row).trans ⟨?_, ?_⟩
  · intro hread hempty
    -- no list comes back empty
    rw [hempty] at hread
    exact splitText_ne_nil _ hread
  · intro hsome
    exact splitText_joinText_of_not_mem hsome hcommas

end

/-- The accounts after a role with these permissions is made. -/
def withWatch (permissions : List String) : Accounts :=
  (RoleService.roleCreate ⟨"watch", permissions⟩).after Accounts.migrated

/-- A new role. -/
theorem storedRole_watch {permissions : List String}
    (h : AccountSchema (Accounts.migrated.insertRole "watch" (joinText ',' permissions))) :
    StoredRole Accounts.migrated ⟨"watch", permissions⟩ 2 (withWatch permissions) :=
  .create (RoleDto.ofDbo ⟨2, "watch", joinText ',' permissions⟩) (withWatch permissions)
    (Prod.ext (congrArg Prod.fst (@run_roleCreate Accounts.migrated ⟨"watch", permissions⟩ h)) rfl)

/-- The empty list is let through, and comes back as one empty name. -/
theorem permissions_empty_not_readBack :
    RoleService.validatePermissionName [] = .ok () ∧
    StoredRole Accounts.migrated ⟨"watch", []⟩ 2 (withWatch []) ∧
    ((RoleService.roleGet 2).run (withWatch [])).1 = .ok ⟨2, "watch", [""]⟩ ∧
    ¬ ReadBack (withWatch []) 2 [] := by
  refine ⟨rfl, storedRole_watch (by decide), by decide, fun h => ?_⟩
  obtain ⟨role, hrun, hpermissions⟩ := h.get
  have hread : ((RoleService.roleGet 2).run (withWatch [])).1 = .ok ⟨2, "watch", [""]⟩ := by decide
  rw [hrun] at hread
  cases hread
  cases hpermissions

/-- Names without a comma, one of them empty. -/
theorem permissions_watch_readBack :
    ReadBack (withWatch ["device/list", "", "mud/*"]) 2 ["device/list", "", "mud/*"] :=
  have hstored : StoredRole Accounts.migrated ⟨"watch", ["device/list", "", "mud/*"]⟩ 2
      (withWatch ["device/list", "", "mud/*"]) := storedRole_watch (by decide)
  (permissions_readBack_iff (by decide) hstored).mpr (by decide)

end MudController
