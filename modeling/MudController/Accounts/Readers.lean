import MudController.Logic.Sequence
import MudController.Reference
import MudController.Routes.Role
import MudController.Run.Accounts
import MudController.Run.Config

/-!
# `Accounts.Readers` — the two readers of a user

`find_by_id` reads the rows of a user's roles. `get_all` has the database join their ids, names and
permissions to three texts, and splits those again. The two agree exactly as long as nobody holds a role
twice and the held roles survive the joining (`readersAgree_iff`), and over a run exactly as long as every
step keeps it so (`readers_agree_iff`).
-/

namespace MudController

open Logic

/-- Two readings of a user with the same roles and the same permissions, in any order. -/
structure User.Alike (a b : User) : Prop where
  roles : a.roles.Perm b.roles
  permissions : a.permissions.Perm b.permissions

/-- `get_all` lists the stored users, each like `find_by_id` finds it. -/
def Accounts.ReadersAgree (db : Accounts) : Prop :=
  ∃ users, (UserService.getAll.run db).1 = .ok users ∧ users.map (·.id) = db.users.map (·.id) ∧
    ∀ listed ∈ users, ∃ found, ((UserService.findById listed.id).run db).1 = .ok found ∧ listed.Alike found

/-- A role that survives being joined with others: no comma in its name, and no empty permission. -/
structure RoleDbo.Plain (role : RoleDbo) : Prop where
  name : ',' ∉ role.name.toList
  permissions : "" ∉ role.permissionList

instance (role : RoleDbo) : Decidable role.Plain :=
  decidable_of_iff (',' ∉ role.name.toList ∧ "" ∉ role.permissionList)
    ⟨fun ⟨hname, hpermissions⟩ => ⟨hname, hpermissions⟩, fun h => ⟨h.name, h.permissions⟩⟩

/-! ## What `get_all` makes of the joined texts -/

theorem getRolesLoop_signedText (ids : List Int) (names : List String) :
    UserService.getRolesLoop (ids.map signedText) names = List.zipWith Role.mk ids names := by
  induction ids generalizing names with
  | nil => rfl
  | cons id ids ih =>
      cases names with
      | nil => rfl
      | cons name names =>
          rw [List.map_cons, UserService.getRolesLoop, signed?_signedText]
          exact congrArg (_ :: ·) (ih names)

/-- The joined ids come apart into the ids. -/
theorem splitText_ids {roles : List RoleDbo} (h : roles ≠ []) :
    splitText ',' ((groupConcat ',' (roles.map fun role => signedText role.id)).getD "") =
      (roles.map (·.id)).map signedText := by
  have hne : roles.map (fun role => signedText role.id) ≠ [] := by simpa using h
  have hcomma : ∀ p ∈ roles.map (fun role => signedText role.id), ',' ∉ p.toList := by
    intro p hp hmem
    obtain ⟨role, _, rfl⟩ := List.mem_map.mp hp
    rcases isDigit_of_mem_signedText hmem with h | h
    · exact absurd h (by decide)
    · exact absurd h (by decide)
  rw [groupConcat, if_neg hne, Option.getD_some, splitText_joinText_of_not_mem hne hcomma, List.map_map]
  rfl

/-- The roles that `get_all` lists: the ids, each with the next piece of the joined names. -/
theorem getRoles_joined (roles : List RoleDbo) :
    UserService.getRoles ((groupConcat ',' (roles.map fun role => signedText role.id)).getD "")
        ((groupConcat ',' (roles.map (·.name))).getD "") =
      List.zipWith Role.mk (roles.map (·.id)) ((roles.map (·.name)).flatMap (splitText ',')) := by
  by_cases h : roles = []
  · subst h
    rfl
  · have hne : roles.map (·.name) ≠ [] := by simpa using h
    rw [UserService.getRoles, splitText_ids h, getRolesLoop_signedText, splitText_groupConcat, if_neg hne]

/-- The permissions that `get_all` lists. -/
theorem permissions_joined (roles : List RoleDbo) :
    (splitText ',' ((groupConcat ',' (roles.map (·.permissions))).getD "")).filter (· ≠ "") =
      (roles.flatMap RoleDbo.permissionList).filter (· ≠ "") := by
  rw [splitText_groupConcat]
  by_cases h : roles = []
  · subst h
    rfl
  · rw [if_neg (by simpa using h), List.flatMap_map]
    rfl

/-- Names without commas come apart into themselves. -/
theorem names_joined {roles : List RoleDbo} (h : ∀ role ∈ roles, ',' ∉ role.name.toList) :
    (roles.map (·.name)).flatMap (splitText ',') = roles.map (·.name) := by
  induction roles with
  | nil => rfl
  | cons role roles ih =>
      rw [List.map_cons, List.flatMap_cons, splitText_of_not_mem (h role List.mem_cons_self),
        ih fun r hr => h r (List.mem_cons_of_mem role hr)]
      rfl

/-- There are at least as many pieces of the names as there are names. -/
theorem length_names_le (roles : List RoleDbo) :
    roles.length ≤ ((roles.map (·.name)).flatMap (splitText ',')).length := by
  induction roles with
  | nil => exact Nat.le_refl _
  | cons role roles ih =>
      have hpos : 0 < (splitText ',' role.name).length := List.length_pos_of_ne_nil (splitText_ne_nil role.name)
      rw [List.map_cons, List.flatMap_cons, List.length_append, List.length_cons]
      omega

/-- The listed ids are those of the joined roles. -/
theorem map_id_zipWith {ids : List Int} {names : List String} (h : ids.length ≤ names.length) :
    (List.zipWith Role.mk ids names).map (·.id) = ids := by
  induction ids generalizing names with
  | nil => rfl
  | cons id ids ih =>
      cases names with
      | nil => simp at h
      | cons name names => exact congrArg (id :: ·) (ih (by simpa using h))

/-! ## One user -/

section

variable {joined roles : List RoleDbo}

/-- A role that `get_all` lists has a name without a comma. -/
theorem not_mem_of_listed {role : Role}
    (h : role ∈ List.zipWith Role.mk (joined.map (·.id)) ((joined.map (·.name)).flatMap (splitText ','))) :
    ',' ∉ role.name.toList := by
  obtain ⟨i, hi⟩ := List.getElem?_of_mem h
  obtain ⟨id, name, _, hname, rfl⟩ := List.getElem?_zipWith_eq_some.mp hi
  obtain ⟨full, _, hpiece⟩ := List.mem_flatMap.mp (List.mem_of_getElem? hname)
  exact not_mem_of_mem_splitText hpiece

/-- **The two readings of one user.** `joined` are the roles as the join lists them, `roles` the same roles,
    each once. -/
theorem joined_alike_iff (hroles : (roles.map (·.id)).Nodup) (hmem : ∀ role, role ∈ joined ↔ role ∈ roles) :
    ((List.zipWith Role.mk (joined.map (·.id)) ((joined.map (·.name)).flatMap (splitText ','))).Perm
        (roles.map Role.fromDbo) ∧
      ((joined.flatMap RoleDbo.permissionList).filter (· ≠ "")).Perm (roles.flatMap RoleDbo.permissionList)) ↔
      (joined.map (·.id)).Nodup ∧ ∀ role ∈ roles, role.Plain := by
  constructor
  · rintro ⟨hlisted, hpermissions⟩
    constructor
    · have hids := hlisted.map (·.id)
      rw [map_id_zipWith (by simpa using length_names_le joined), List.map_map] at hids
      exact hids.nodup_iff.mpr hroles
    · intro role hrole
      constructor
      · -- the role is listed under its name
        exact not_mem_of_listed (hlisted.mem_iff.mpr (List.mem_map_of_mem hrole))
      · intro hempty
        have hlisted := hpermissions.mem_iff.mpr (List.mem_flatMap.mpr ⟨role, hrole, hempty⟩)
        simp at hlisted
  · rintro ⟨honce, hplain⟩
    have hperm : joined.Perm roles :=
      (List.perm_ext_iff_of_nodup (honce.of_map _) (hroles.of_map _)).mpr hmem
    constructor
    · rw [names_joined fun role hrole => (hplain role ((hmem role).mp hrole)).name, List.zipWith_map]
      have hzip : List.zipWith (fun a b : RoleDbo => Role.mk a.id b.name) joined joined =
          joined.map Role.fromDbo := List.zipWith_self
      rw [hzip]
      exact hperm.map _
    · have hkept : (joined.flatMap RoleDbo.permissionList).filter (· ≠ "") =
          joined.flatMap RoleDbo.permissionList := by
        refine List.filter_eq_self.mpr fun p hp => ?_
        obtain ⟨role, hrole, hp⟩ := List.mem_flatMap.mp hp
        have hplain := (hplain role ((hmem role).mp hrole)).permissions
        exact decide_eq_true fun he => hplain (he ▸ hp)
      rw [hkept]
      exact hperm.flatMap_right _

end

/-! ## The tables -/

/-- Nobody holds a role twice, and every role that somebody holds is plain. -/
structure Accounts.Plain (db : Accounts) : Prop where
  once : db.usersRoles.Nodup
  roles : ∀ m ∈ db.usersRoles, ∀ role ∈ db.roles, role.id = m.roleId → role.Plain

instance (db : Accounts) : Decidable db.Plain :=
  decidable_of_iff
    (db.usersRoles.Nodup ∧ ∀ m ∈ db.usersRoles, ∀ role ∈ db.roles, role.id = m.roleId → role.Plain)
    ⟨fun ⟨honce, hroles⟩ => ⟨honce, hroles⟩, fun h => ⟨h.once, h.roles⟩⟩

section

variable {db : Accounts} {userId : Int}

theorem mem_rolesOf {role : RoleDbo} : role ∈ db.rolesOf userId ↔ role ∈ db.roles ∧ db.Holds userId role.id := by
  unfold AccountTables.rolesOf
  rw [List.mem_filter, decide_eq_true_iff]

theorem mem_joinedRoles {role : RoleDbo} : role ∈ db.joinedRoles userId ↔ role ∈ db.rolesOf userId := by
  rw [mem_rolesOf]
  unfold AccountTables.joinedRoles AccountTables.Holds
  simp only [List.mem_flatMap, List.mem_filter, decide_eq_true_eq]
  constructor
  · rintro ⟨⟨u, r⟩, ⟨hm, rfl⟩, hrole, rfl⟩
    exact ⟨hrole, hm⟩
  · rintro ⟨hrole, hm⟩
    exact ⟨_, ⟨hm, rfl⟩, hrole, rfl⟩

/-- The join lists one role for every assignment. -/
theorem map_id_joinedRoles :
    (db.joinedRoles userId).map (·.id) = (db.usersRoles.filter (·.userId = userId)).map (·.roleId) := by
  unfold AccountTables.joinedRoles
  have href : ∀ m ∈ db.usersRoles.filter (·.userId = userId), m.roleId ∈ db.roles.map (·.id) :=
    fun m hm => db.schema.roleRef m (List.mem_of_mem_filter hm)
  generalize db.usersRoles.filter (·.userId = userId) = ms at href
  induction ms with
  | nil => rfl
  | cons m ms ih =>
      obtain ⟨role, hrole, hid⟩ := List.mem_map.mp (href m List.mem_cons_self)
      rw [List.flatMap_cons, List.map_append, ih fun m' hm' => href m' (List.mem_cons_of_mem m hm'), ← hid,
        filter_of_mem db.schema.roleIds hrole, List.map_cons, List.map_cons, hid]
      rfl

theorem joinedRoles_nodup_iff :
    ((db.joinedRoles userId).map (·.id)).Nodup ↔ (db.usersRoles.filter (·.userId = userId)).Nodup := by
  rw [map_id_joinedRoles]
  refine ⟨List.Nodup.of_map _, List.Nodup.map_on ?_⟩
  rintro ⟨u, r⟩ hm ⟨u', r'⟩ hm' rfl
  have hu : u = userId := by simpa using (List.mem_filter.mp hm).2
  have hu' : u' = userId := by simpa using (List.mem_filter.mp hm').2
  rw [hu, hu']

/-- **When the two readings of a stored user agree.** -/
theorem listed_alike_iff (user : UserDbo) (row : UserWithRoles)
    (hrow : row = ⟨user, groupConcat ',' ((db.joinedRoles user.id).map (·.name)),
      groupConcat ',' ((db.joinedRoles user.id).map fun role => signedText role.id),
      groupConcat ',' ((db.joinedRoles user.id).map (·.permissions))⟩) :
    (UserService.ofRow row).Alike (UserService.ofRoles user (db.rolesOf user.id)) ↔
      (db.usersRoles.filter (·.userId = user.id)).Nodup ∧ ∀ role ∈ db.rolesOf user.id, role.Plain := by
  subst hrow
  have hroles : ((db.rolesOf user.id).map (·.id)).Nodup :=
    db.schema.roleIds.sublist (List.filter_sublist.map _)
  rw [← joinedRoles_nodup_iff, ← joined_alike_iff hroles fun role => mem_joinedRoles, ← getRoles_joined,
    ← permissions_joined]
  exact ⟨fun h => ⟨h.roles, h.permissions⟩, fun h => ⟨h.1, h.2⟩⟩

/-- A list without repetitions is one in which no key's part has any. -/
theorem usersRoles_nodup_iff :
    db.usersRoles.Nodup ↔ ∀ user ∈ db.users, (db.usersRoles.filter (·.userId = user.id)).Nodup := by
  constructor
  · intro h user _
    exact h.filter _
  · intro h
    rw [List.nodup_iff_count_le_one]
    intro m
    by_cases hm : m ∈ db.usersRoles
    · obtain ⟨user, huser, hid⟩ := List.mem_map.mp (db.schema.userRef m hm)
      have hcount := List.nodup_iff_count_le_one.mp (h user huser) m
      rwa [List.count_filter (by simpa using hid.symm)] at hcount
    · rw [List.count_eq_zero_of_not_mem hm]
      exact Nat.zero_le 1

end

/-- **When the two readers agree on everybody.** -/
theorem readersAgree_iff {db : Accounts} : db.ReadersAgree ↔ db.Plain := by
  have hfound (user : UserDbo) (huser : user ∈ db.users) :
      ((UserService.findById user.id).run db).1 = .ok (UserService.ofRoles user (db.rolesOf user.id)) := by
    have hselect : db.userById user.id = some user := find?_of_mem db.schema.userIds huser
    rw [run_findById_some hselect]
  have hall : db.ReadersAgree ↔ ∀ user ∈ db.users,
      (db.usersRoles.filter (·.userId = user.id)).Nodup ∧ ∀ role ∈ db.rolesOf user.id, role.Plain := by
    constructor
    · rintro ⟨users, hlist, _, hagree⟩ user huser
      rw [run_getAll] at hlist
      cases hlist
      obtain ⟨found, hfind, halike⟩ := hagree _ (List.mem_map_of_mem (List.mem_map_of_mem huser))
      have hsame := (hfound user huser).symm.trans hfind
      cases hsame
      exact (listed_alike_iff user _ rfl).mp halike
    · intro h
      refine ⟨_, congrArg Prod.fst (run_getAll db), ?_, ?_⟩
      · unfold AccountTables.usersWithRoles
        rw [List.map_map, List.map_map]
        rfl
      · intro listed hlisted
        obtain ⟨row, hrow, rfl⟩ := List.mem_map.mp hlisted
        obtain ⟨user, huser, rfl⟩ := List.mem_map.mp hrow
        exact ⟨_, hfound user huser, (listed_alike_iff user _ rfl).mpr (h user huser)⟩
  rw [hall]
  constructor
  · intro h
    refine ⟨usersRoles_nodup_iff.mpr fun user huser => (h user huser).1, ?_⟩
    rintro ⟨userId, roleId⟩ hm role hrole rfl
    obtain ⟨user, huser, rfl⟩ := List.mem_map.mp (db.schema.userRef _ hm)
    exact (h user huser).2 role (mem_rolesOf.mpr ⟨hrole, hm⟩)
  · rintro ⟨honce, hroles⟩ user huser
    refine ⟨usersRoles_nodup_iff.mp honce user huser, fun role hrole => ?_⟩
    obtain ⟨hrole, hholds⟩ := mem_rolesOf.mp hrole
    exact hroles _ hholds role hrole rfl

/-! ## Changes to the tables -/

/-- Nothing new is held where the assignments and the roles only become fewer. -/
theorem Accounts.Plain.shrink {db db' : Accounts} (h : db.Plain) (hroles : db'.roles.Sublist db.roles)
    (husersRoles : db'.usersRoles.Sublist db.usersRoles) : db'.Plain :=
  ⟨h.once.sublist husersRoles, fun m hm role hrole => h.roles m (husersRoles.subset hm) role (hroles.subset hrole)⟩

/-- One more assignment. -/
theorem Accounts.Plain.assign_iff {db : Accounts} (h : db.Plain) {userId roleId : Int} (db' : Accounts)
    (hroles : db'.roles = db.roles) (husersRoles : db'.usersRoles = db.usersRoles ++ [⟨userId, roleId⟩]) :
    db'.Plain ↔ ¬ db.Holds userId roleId ∧ ∀ role ∈ db.roles, role.id = roleId → role.Plain := by
  constructor
  · intro h'
    have honce := husersRoles ▸ h'.once
    refine ⟨fun hholds => ?_, fun role hrole hid => ?_⟩
    · exact (List.nodup_append'.mp honce).2.2 hholds (List.mem_singleton_self _)
    · refine h'.roles ⟨userId, roleId⟩ ?_ role (hroles ▸ hrole) hid
      rw [husersRoles]
      exact List.mem_append_right _ (List.mem_singleton_self _)
  · rintro ⟨hnew, hplain⟩
    constructor
    · rw [husersRoles]
      refine List.nodup_append'.mpr ⟨h.once, List.nodup_singleton _, ?_⟩
      rw [List.disjoint_singleton]
      exact hnew
    · rw [husersRoles, hroles]
      exact forall_mem_append h.roles hplain

/-- An edit of a role. -/
theorem Accounts.Plain.edit_iff {db : Accounts} (h : db.Plain) (role : RoleDbo) (db' : Accounts)
    (hstored : role.id ∈ db.roles.map (·.id)) (hroles : db'.roles = replaceRow (·.id) role db.roles)
    (husersRoles : db'.usersRoles = db.usersRoles) :
    db'.Plain ↔ ((∃ m ∈ db.usersRoles, m.roleId = role.id) → role.Plain) := by
  constructor
  · rintro h' ⟨m, hm, hid⟩
    refine h'.roles m (husersRoles ▸ hm) role ?_ hid.symm
    rw [hroles]
    exact mem_replaceRow_self hstored
  · intro hplain
    refine ⟨husersRoles ▸ h.once, fun m hm other hother hid => ?_⟩
    rw [husersRoles] at hm
    rw [hroles] at hother
    rcases mem_of_mem_replaceRow hother with rfl | ⟨hother, _⟩
    · exact hplain ⟨m, hm, hid.symm⟩
    · exact h.roles m hm other hother hid

/-! ## Requests -/

theorem validatePermissionName_ok_iff {permissions : List String} :
    RoleService.validatePermissionName permissions = .ok () ↔ ∀ p ∈ permissions, ',' ∉ p.toList := by
  unfold RoleService.validatePermissionName
  split
  · next h =>
    refine iff_of_false (fun h => nomatch h) fun hnone => ?_
    obtain ⟨p, hp, hcomma⟩ := List.any_eq_true.mp h
    exact hnone p hp (by simpa using hcomma)
  · next h =>
    refine iff_of_true rfl fun p hp hcomma => h ?_
    exact List.any_eq_true.mpr ⟨p, hp, by simpa using hcomma⟩

section

variable [Platform]

/-- A request to the role endpoints, or a call of `user_service` or `role_service`. -/
inductive AccountRequest where
  | insert (user : User)
  | delete (userId : Int)
  | createRole (auth : AuthToken) (roleDto : RoleUpdateDto)
  | editRole (auth : AuthToken) (roleId : Int) (roleDto : RoleUpdateDto)
  | deleteRole (auth : AuthToken) (roleId : Int)
  | addRoleToUser (userId roleId : Int)
  | roleDeleteFromUser (userId roleId : Int)

/-- The accounts after a request. -/
def AccountRequest.after (db : Accounts) : AccountRequest → Accounts
  | .insert user => (UserService.insert user).after db
  | .delete userId => (UserService.delete userId).after db
  | .createRole auth roleDto => (MudController.createRole auth roleDto).after db
  | .editRole auth roleId roleDto => (MudController.editRole auth roleId roleDto).after db
  | .deleteRole auth roleId => (MudController.deleteRole auth roleId).after db
  | .addRoleToUser userId roleId => (RoleService.addRoleToUser userId roleId).after db
  | .roleDeleteFromUser userId roleId => (RoleService.roleDeleteFromUser userId roleId).after db

/-- The row that an edit writes. -/
def editedRole (roleId : Int) (roleDto : RoleUpdateDto) : RoleDbo :=
  ⟨roleId, roleDto.name, joinText ',' roleDto.permissions⟩

/-- The edit is let through: the caller may write roles, the role exists, no permission holds a comma, and no
    other role has the name. -/
structure EditAllowed (db : Accounts) (auth : AuthToken) (roleId : Int) (roleDto : RoleUpdateDto) : Prop where
  granted : auth.Grants .roleWrite
  stored : roleId ∈ db.roles.map (·.id)
  permissions : ∀ p ∈ roleDto.permissions, ',' ∉ p.toList
  schema : AccountSchema (db.updateRole (editedRole roleId roleDto))

/-- What keeps the readers alike: no role is assigned to a user who holds it, and a role is plain when it is
    assigned and when it is edited while somebody holds it. -/
def AccountRequest.KeepsPlain (db : Accounts) : AccountRequest → Prop
  | .insert _ => db.users = [] → ∀ role ∈ db.roles, role.id = roleIdAdmin → role.Plain
  | .editRole auth roleId roleDto => EditAllowed db auth roleId roleDto →
      (∃ m ∈ db.usersRoles, m.roleId = roleId) → (editedRole roleId roleDto).Plain
  | .addRoleToUser userId roleId => userId ∈ db.users.map (·.id) →
      ∀ role ∈ db.roles, role.id = roleId → ¬ db.Holds userId roleId ∧ role.Plain
  | _ => True

/-! ### What the endpoints do -/

theorem after_createRole (db : Accounts) (auth : AuthToken) (roleDto : RoleUpdateDto) :
    (createRole auth roleDto).after db = db ∨
      (createRole auth roleDto).after db = (RoleService.roleCreate roleDto).after db := by
  unfold createRole AuthToken.requireAccountPermission checkPermissionNames AccountAction.after
  rcases auth.grants_or_denied .roleWrite with hgranted | ⟨e, hdenied⟩
  · rw [show requireOneOf .roleWrite auth.permissions = .ok () from hgranted]
    cases RoleService.validatePermissionName roleDto.permissions with
    | ok u => exact .inr rfl
    | error message => exact .inl rfl
  · rw [hdenied]
    exact .inl rfl

theorem after_deleteRole (db : Accounts) (auth : AuthToken) (roleId : Int) :
    (deleteRole auth roleId).after db = db ∨
      (deleteRole auth roleId).after db = (RoleService.roleDelete roleId).after db := by
  unfold deleteRole AuthToken.requireAccountPermission AccountAction.after
  rcases auth.grants_or_denied .roleDelete with hgranted | ⟨e, hdenied⟩
  · rw [show requireOneOf .roleDelete auth.permissions = .ok () from hgranted]
    right
    show (RoleService.roleDelete roleId >>= fun _ => pure ()).after db = _
    exact AccountAction.after_bind fun _ _ => rfl
  · rw [hdenied]
    exact .inl rfl

/-- An edit of a stored role by a caller who may write roles. -/
theorem after_editRole_stored {db : Accounts} {auth : AuthToken} {role : RoleDbo} {roleDto : RoleUpdateDto}
    (hgranted : auth.Grants .roleWrite) (hrole : role ∈ db.roles) :
    (editRole auth role.id roleDto).after db =
      (checkPermissionNames roleDto >>= fun _ => RoleService.roleUpdate role.id roleDto).after db := by
  have hget := AccountAction.run_attempt (run_roleGet (find?_of_mem db.schema.roleIds hrole))
  unfold editRole AuthToken.requireAccountPermission checkPermissionNames AccountAction.after
  rw [show requireOneOf .roleWrite auth.permissions = .ok () from hgranted]
  show (AccountAction.run ((RoleService.roleGet role.id).attempt >>= _) db).2 = _
  rw [AccountAction.run_bind_ok hget]
  cases RoleService.validatePermissionName roleDto.permissions with
  | error message => rfl
  | ok u =>
      -- the answer tells whether a row was found, and writes nothing
      show (RoleService.roleUpdate role.id roleDto >>= fun updated =>
        if updated then pure EditResponse.noContent else pure .notFound).after db = _
      exact AccountAction.after_bind fun updated _ => by cases updated <;> rfl

/-- An edit that is let through writes its row. -/
theorem after_editRole_allowed {db : Accounts} {auth : AuthToken} {roleId : Int} {roleDto : RoleUpdateDto}
    (h : EditAllowed db auth roleId roleDto) :
    (editRole auth roleId roleDto).after db = ⟨db.updateRole (editedRole roleId roleDto), h.schema⟩ := by
  obtain ⟨role, hrole, hid⟩ := List.mem_map.mp h.stored
  subst hid
  rw [after_editRole_stored h.granted hrole]
  unfold checkPermissionNames AccountAction.after
  rw [validatePermissionName_ok_iff.mpr h.permissions]
  exact congrArg Prod.snd (run_roleUpdate h.schema)

/-- An edit that is not let through leaves the accounts as they are. -/
theorem after_editRole_refused {db : Accounts} {auth : AuthToken} {roleId : Int} {roleDto : RoleUpdateDto}
    (h : ¬ EditAllowed db auth roleId roleDto) : (editRole auth roleId roleDto).after db = db := by
  rcases auth.grants_or_denied .roleWrite with hgranted | ⟨e, hdenied⟩
  · cases hfind : db.roleById roleId with
    | none =>
        have hget := AccountAction.run_attempt (run_roleGet_missing hfind)
        unfold editRole AuthToken.requireAccountPermission AccountAction.after
        rw [show requireOneOf .roleWrite auth.permissions = .ok () from hgranted]
        show (AccountAction.run ((RoleService.roleGet roleId).attempt >>= _) db).2 = _
        rw [AccountAction.run_bind_ok hget]
        rfl
    | some role =>
        obtain rfl : role.id = roleId := by simpa using List.find?_some hfind
        have hrole := List.mem_of_find?_eq_some hfind
        rw [after_editRole_stored hgranted hrole]
        unfold checkPermissionNames AccountAction.after
        cases hnames : RoleService.validatePermissionName roleDto.permissions with
        | error message => rfl
        | ok u =>
            have hschema : ¬ AccountSchema (db.updateRole (editedRole role.id roleDto)) := fun hschema =>
              h ⟨hgranted, List.mem_map_of_mem hrole, validatePermissionName_ok_iff.mp hnames, hschema⟩
            exact congrArg Prod.snd (run_roleUpdate_refused hschema)
  · unfold editRole AuthToken.requireAccountPermission AccountAction.after
    rw [hdenied]
    rfl

/-! ### What a request does to the agreement -/

/-- The first user gets the role of the administrator, so that its row has to be plain; later users get none. -/
theorem Accounts.Plain.insert_iff {db : Accounts} (h : db.Plain) (user : User) :
    ((AccountRequest.insert user).after db).Plain ↔ (AccountRequest.insert user).KeepsPlain db := by
  show (((UserService.insert user).run db).2).Plain ↔ _
  have hinsert := insertRun user db
  generalize (UserService.insert user).run db = outcome at hinsert ⊢
  cases hinsert with
  | taken hmore => exact iff_of_true h fun hempty => absurd hempty hmore
  | later hmore hschema =>
      exact iff_of_true (h.shrink (List.Sublist.refl _) (List.Sublist.refl _)) fun hempty => absurd hempty hmore
  | noRole hfirst hrole hschema =>
      refine iff_of_true (h.shrink (List.Sublist.refl _) (List.Sublist.refl _)) fun _ role hmem hid => ?_
      exact absurd (List.mem_map.mpr ⟨role, hmem, hid⟩) hrole
  | first hfirst hrole hschema =>
      -- the new id is nobody's yet
      have hnew : ¬ db.Holds (db.userSeq + 1) roleIdAdmin := by
        unfold AccountTables.Holds
        rw [Accounts.usersRoles_of_users hfirst]
        exact List.not_mem_nil
      have hassign :=
        h.assign_iff ⟨(db.withUser user).insertUserRole (db.userSeq + 1) roleIdAdmin, hschema⟩ rfl rfl
      exact hassign.trans ⟨fun ⟨_, hplain⟩ _ => hplain, fun hplain => ⟨hnew, hplain hfirst⟩⟩

/-- A role that is given to a stored user has to be plain, and new to the user. -/
theorem Accounts.Plain.addRoleToUser_iff {db : Accounts} (h : db.Plain) (userId roleId : Int) :
    ((AccountRequest.addRoleToUser userId roleId).after db).Plain ↔
      (AccountRequest.addRoleToUser userId roleId).KeepsPlain db := by
  show (((RoleService.addRoleToUser userId roleId).run db).2).Plain ↔ _
  have hiff := db.schema.insertUserRole_iff userId roleId
  by_cases hschema : AccountSchema (db.insertUserRole userId roleId)
  · rw [run_addRoleToUser hschema]
    obtain ⟨huser, hrole⟩ := hiff.mp hschema
    obtain ⟨stored, hstored, hid⟩ := List.mem_map.mp hrole
    refine (h.assign_iff ⟨db.insertUserRole userId roleId, hschema⟩ rfl rfl).trans ?_
    constructor
    · exact fun ⟨hnew, hplain⟩ _ role hmem hid => ⟨hnew, hplain role hmem hid⟩
    · exact fun hkeeps => ⟨(hkeeps huser stored hstored hid).1, fun role hmem hid => (hkeeps huser role hmem hid).2⟩
  · rw [run_addRoleToUser_refused hschema]
    refine iff_of_true h fun huser role hmem hid => ?_
    exact absurd (hiff.mpr ⟨huser, List.mem_map.mpr ⟨role, hmem, hid⟩⟩) hschema

/-- **What a request does to the agreement of the readers.** -/
theorem AccountRequest.plain_after_iff {db : Accounts} (h : db.Plain) (request : AccountRequest) :
    (request.after db).Plain ↔ request.KeepsPlain db := by
  cases request with
  | insert user => exact h.insert_iff user
  | delete userId =>
      obtain ⟨deleted, hrun⟩ := run_deleteUser userId
      refine iff_of_true ?_ trivial
      show (((UserService.delete userId).run db).2).Plain
      rw [hrun]
      exact h.shrink (List.Sublist.refl _) List.filter_sublist
  | createRole auth roleDto =>
      refine iff_of_true ?_ trivial
      show ((MudController.createRole auth roleDto).after db).Plain
      rcases after_createRole db auth roleDto with hafter | hafter
      · rw [hafter]
        exact h
      · rw [hafter]
        refine (roleCreate_written db roleDto).holds h fun hschema => ?_
        -- nobody holds the new role
        refine ⟨h.once, fun m hm => forall_mem_append (h.roles m hm) fun hid => ?_⟩
        exact absurd (db.schema.roleRef m hm) (hid ▸ succ_not_mem db.schema.roleSeq)
  | editRole auth roleId roleDto =>
      show ((MudController.editRole auth roleId roleDto).after db).Plain ↔ _
      by_cases hallowed : EditAllowed db auth roleId roleDto
      · rw [after_editRole_allowed hallowed]
        refine (h.edit_iff (editedRole roleId roleDto) ⟨_, hallowed.schema⟩ hallowed.stored rfl rfl).trans ?_
        exact ⟨fun hplain _ => hplain, fun hplain => hplain hallowed⟩
      · rw [after_editRole_refused hallowed]
        exact iff_of_true h fun hyes => absurd hyes hallowed
  | deleteRole auth roleId =>
      refine iff_of_true ?_ trivial
      show ((MudController.deleteRole auth roleId).after db).Plain
      rcases after_deleteRole db auth roleId with hafter | hafter
      · rw [hafter]
        exact h
      · rw [hafter]
        exact (roleDelete_written db roleId).holds h fun _ => h.shrink List.filter_sublist (List.Sublist.refl _)
  | addRoleToUser userId roleId => exact h.addRoleToUser_iff userId roleId
  | roleDeleteFromUser userId roleId =>
      refine iff_of_true ?_ trivial
      show (((RoleService.roleDeleteFromUser userId roleId).run db).2).Plain
      cases hfind : db.roleById roleId with
      | none =>
          rw [run_roleDeleteFromUser_missing hfind]
          exact h
      | some role =>
          obtain rfl : role.id = roleId := by simpa using List.find?_some hfind
          rw [run_roleDeleteFromUser hfind]
          exact h.shrink (List.Sublist.refl _) List.filter_sublist

/-- **The two readers over a run.** From accounts on which they agree, `get_all` and `find_by_id` agree on
    every user after every request if and only if every request keeps the held roles plain and assigned
    once. -/
theorem readers_agree_iff {db : Accounts} (h : db.ReadersAgree) (requests : List AccountRequest) :
    (∀ pre post, requests = pre ++ post → (pre.foldl AccountRequest.after db).ReadersAgree) ↔
      ∀ pre request post, requests = pre ++ request :: post →
        request.KeepsPlain (pre.foldl AccountRequest.after db) := by
  have hstep (db : Accounts) (request : AccountRequest) (hplain : db.Plain) :
      (request.after db).Plain ↔ request.KeepsPlain db := AccountRequest.plain_after_iff hplain request
  simp only [readersAgree_iff]
  exact run_keeps_iff hstep (readersAgree_iff.mp h) requests

end

section

attribute [local instance] Reference.platform

/-- The accounts after requests to the migrated database. -/
def migratedAfter (requests : List AccountRequest) : Accounts :=
  requests.foldl AccountRequest.after Accounts.migrated

/-- The first user signs up, and a role with this name and these permissions is made. -/
def newRole (name : String) (permissions : List String) : List AccountRequest :=
  [.insert (signupUser "root"), .createRole rootAuth ⟨name, permissions⟩]

set_option maxRecDepth 20000 in
/-- An assignment that is repeated, a comma in the name of an assigned role, and an assigned role without
    permissions each set the readers apart. -/
theorem readers_disagree :
    ¬ (migratedAfter [.insert (signupUser "root"), .addRoleToUser 1 0]).ReadersAgree ∧
    ¬ (migratedAfter (newRole "night,watch" ["device/list"] ++ [.addRoleToUser 1 2])).ReadersAgree ∧
    ¬ (migratedAfter (newRole "watch" [] ++ [.addRoleToUser 1 2])).ReadersAgree := by
  refine ⟨?_, ?_, ?_⟩ <;> rw [readersAgree_iff] <;> decide

set_option maxRecDepth 20000 in
/-- A plain role, assigned once. -/
theorem readers_agree_watch :
    ((AccountRequest.addRoleToUser 1 2).after (migratedAfter (newRole "watch" ["device/list"]))).ReadersAgree := by
  have hstart : (migratedAfter (newRole "watch" ["device/list"])).ReadersAgree :=
    readersAgree_iff.mpr (by decide)
  apply (readers_agree_iff hstart [.addRoleToUser 1 2]).mpr _ [.addRoleToUser 1 2] [] rfl
  refine forall_split_singleton ?_
  show _ → ∀ role : RoleDbo, role ∈ _ → role.id = 2 → _
  decide

end

end MudController
