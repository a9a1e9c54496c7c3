import MudController.Reference
import MudController.Routes.Role
import MudController.Run.Accounts
import MudController.Run.Config

/-!
# `Accounts.Grants` — what one more role does to a user's permissions

`require_permission` walks the patterns of a token and stops with an error at the first one that does not
compile. So a token grants a permission exactly if some pattern matches and no pattern ahead of all those that
match is rejected (`grants_iff`), and one more role can take a permission away (`assign_keeps_grants_iff`).
-/

namespace MudController

open Logic

section

variable [Platform]

/-! ## Lists of patterns -/

/-- The pattern compiles, and matches the permission. -/
def Permission.MatchedBy (permission : Permission) (pattern : String) : Prop :=
  ∃ glob, Platform.globPattern pattern = some glob ∧ glob permission.asRef = true

/-- The pattern does not compile. -/
def Uncompilable (pattern : String) : Prop := Platform.globPattern pattern = none

/-- A pattern that does not compile stands in the list, and no pattern ahead of it matches. -/
def Permission.Blocked (permission : Permission) (patterns : List String) : Prop :=
  ∃ pre p post, patterns = pre ++ p :: post ∧ Uncompilable p ∧ ∀ q ∈ pre, ¬ permission.MatchedBy q

variable {permission : Permission}

theorem not_matchedBy_of_uncompilable {p : String} (h : Uncompilable p) : ¬ permission.MatchedBy p := by
  rintro ⟨glob, hglob, _⟩
  rw [show Platform.globPattern p = none from h] at hglob
  cases hglob

theorem blocked_cons {p : String} {ps : List String} :
    permission.Blocked (p :: ps) ↔ Uncompilable p ∨ (¬ permission.MatchedBy p ∧ permission.Blocked ps) := by
  constructor
  · rintro ⟨pre, q, post, hsplit, hq, hpre⟩
    cases pre with
    | nil =>
        obtain ⟨rfl, rfl⟩ := List.cons.inj hsplit
        exact .inl hq
    | cons r pre =>
        obtain ⟨rfl, rfl⟩ := List.cons.inj hsplit
        exact .inr ⟨hpre p List.mem_cons_self,
          pre, q, post, rfl, hq, fun q hq => hpre q (List.mem_cons_of_mem p hq)⟩
  · rintro (hp | ⟨hp, pre, q, post, rfl, hq, hpre⟩)
    · exact ⟨[], p, ps, rfl, hp, by simp⟩
    · exact ⟨p :: pre, q, post, rfl, hq, by simpa using ⟨hp, hpre⟩⟩

theorem not_blocked_nil : ¬ permission.Blocked [] := by
  rintro ⟨pre, p, post, hsplit, _⟩
  simp at hsplit

/-- A list whose patterns all compile blocks nothing. -/
theorem not_blocked_of_compiles {ps : List String} (h : ∀ p ∈ ps, ¬ Uncompilable p) :
    ¬ permission.Blocked ps := by
  rintro ⟨pre, p, post, rfl, hp, _⟩
  exact h p (by simp) hp

theorem blocked_append {a b : List String} :
    permission.Blocked (a ++ b) ↔
      permission.Blocked a ∨ ((∀ q ∈ a, ¬ permission.MatchedBy q) ∧ permission.Blocked b) := by
  induction a with
  | nil => simp [not_blocked_nil]
  | cons p a ih =>
      rw [List.cons_append, blocked_cons, blocked_cons, ih, List.forall_mem_cons]
      tauto

/-- **When a token grants a permission.** -/
theorem grants_iff (patterns : List String) :
    (⟨patterns⟩ : AuthToken).Grants permission ↔
      (∃ p ∈ patterns, permission.MatchedBy p) ∧ ¬ permission.Blocked patterns := by
  unfold AuthToken.Grants
  induction patterns with
  | nil => simp [requireOneOf]
  | cons p ps ih =>
      rw [blocked_cons, List.exists_mem_cons_iff]
      unfold requireOneOf
      cases hp : Platform.globPattern p with
      | none => simp [Uncompilable, hp]
      | some glob =>
          have hcompiles : ¬ Uncompilable p := by simp [Uncompilable, hp]
          by_cases hmatch : glob permission.asRef = true
          · have hp' : permission.MatchedBy p := ⟨glob, hp, hmatch⟩
            simp [hmatch, hp', hcompiles]
          · have hp' : ¬ permission.MatchedBy p := by
              rintro ⟨glob', hglob', hmatch'⟩
              rw [hp] at hglob'
              cases hglob'
              exact hmatch hmatch'
            simpa [hmatch, hp', hcompiles] using ih

/-- Patterns that are put into a list leave a permission granted exactly if one ahead of them matches or they
    do not block it. -/
theorem grants_insert_iff {pre ps post : List String}
    (h : (⟨pre ++ post⟩ : AuthToken).Grants permission) :
    (⟨pre ++ ps ++ post⟩ : AuthToken).Grants permission ↔
      (∃ p ∈ pre, permission.MatchedBy p) ∨ ¬ permission.Blocked ps := by
  rw [grants_iff, blocked_append] at h
  rw [grants_iff, List.append_assoc, blocked_append, blocked_append]
  obtain ⟨⟨p, hp, hmatch⟩, hblocked⟩ := h
  have hsome : ∃ q ∈ pre ++ (ps ++ post), permission.MatchedBy q := by
    refine ⟨p, ?_, hmatch⟩
    rcases List.mem_append.mp hp with hp | hp
    · exact List.mem_append_left _ hp
    · exact List.mem_append_right _ (List.mem_append_right _ hp)
  have hpre : (∃ q ∈ pre, permission.MatchedBy q) ↔ ¬ ∀ q ∈ pre, ¬ permission.MatchedBy q := by
    push Not
    rfl
  rw [hpre]
  tauto

/-- The order of the patterns does not matter exactly if all of them compile or none of them matches. -/
theorem grants_perm_iff (ps : List String) :
    (∀ ps', ps'.Perm ps →
      ((⟨ps'⟩ : AuthToken).Grants permission ↔ (⟨ps⟩ : AuthToken).Grants permission)) ↔
    (∀ p ∈ ps, ¬ Uncompilable p) ∨ (∀ p ∈ ps, ¬ permission.MatchedBy p) := by
  constructor
  · intro horder
    by_contra hneither
    push Not at hneither
    obtain ⟨⟨p, hp, hbad⟩, q, hq, hmatch⟩ := hneither
    -- the matching pattern first: granted; the rejected one first: not
    have hfirst : (⟨q :: ps.erase q⟩ : AuthToken).Grants permission := by
      rw [grants_iff, blocked_cons]
      refine ⟨⟨q, List.mem_cons_self, hmatch⟩, ?_⟩
      rintro (huncompilable | ⟨hnot, _⟩)
      · exact not_matchedBy_of_uncompilable huncompilable hmatch
      · exact hnot hmatch
    have hlast : ¬ (⟨p :: ps.erase p⟩ : AuthToken).Grants permission := by
      rw [grants_iff, blocked_cons]
      exact fun h => h.2 (.inl hbad)
    have hgrants := (horder _ (List.perm_cons_erase hq).symm).mp hfirst
    exact hlast ((horder _ (List.perm_cons_erase hp).symm).mpr hgrants)
  · intro h ps' hperm
    rw [grants_iff, grants_iff]
    have hmatched : (∃ p ∈ ps', permission.MatchedBy p) ↔ ∃ p ∈ ps, permission.MatchedBy p := by
      simp only [hperm.mem_iff]
    rw [hmatched]
    rcases h with hcompile | hnone
    · have hps' : ¬ permission.Blocked ps' :=
        not_blocked_of_compiles fun p hp => hcompile p (hperm.mem_iff.mp hp)
      simp [hps', not_blocked_of_compiles hcompile]
    · have hno : ¬ ∃ p ∈ ps, permission.MatchedBy p := by
        rintro ⟨p, hp, hmatch⟩
        exact hnone p hp hmatch
      simp [hno]

/-! ## Tokens of stored users -/

omit [Platform] in
/-- The role stands between the roles of lower and of higher ids, which have other ids. -/
theorem AccountSchema.roles_split {t : AccountTables} (h : AccountSchema t) {role : RoleDbo}
    (hrole : role ∈ t.roles) :
    ∃ behind, t.roles = t.roles.takeWhile (·.id ≠ role.id) ++ role :: behind ∧
      (∀ r ∈ t.roles.takeWhile (·.id ≠ role.id), r.id ≠ role.id) ∧ ∀ r ∈ behind, r.id ≠ role.id := by
  obtain ⟨ahead, behind, hsplit⟩ := List.append_of_mem hrole
  have hids := h.roleIds
  rw [hsplit, List.map_append, List.map_cons, List.nodup_append'] at hids
  obtain ⟨_, hbehind, hdisjoint⟩ := hids
  have hahead : ∀ r ∈ ahead, r.id ≠ role.id := by
    intro r hr he
    exact hdisjoint (List.mem_map_of_mem hr) (he ▸ List.mem_cons_self)
  have htake : t.roles.takeWhile (·.id ≠ role.id) = ahead := by
    rw [hsplit, List.takeWhile_append_of_pos (by simpa using hahead)]
    simp
  refine ⟨behind, by rw [htake]; exact hsplit, htake ▸ hahead, ?_⟩
  intro r hr he
  exact (List.nodup_cons.mp hbehind).1 (he ▸ List.mem_map_of_mem hr)

/-- The token of a stored user, made of what `find_by_id` returns. -/
def Accounts.accessToken (db : Accounts) (userId : Int) : Option AuthToken :=
  match (UserService.findById userId).run db with
  | (.ok user, _) => some (.generateAccessToken user)
  | (.error _, _) => none

/-- The accounts after a role was assigned to a user. -/
def Accounts.assigned (db : Accounts) (userId roleId : Int) : Accounts :=
  (RoleService.addRoleToUser userId roleId).after db

/-- Ahead of the role, the user holds another one with a pattern that matches. -/
def Accounts.MatchedAhead (db : Accounts) (userId : Int) (role : RoleDbo) (permission : Permission) : Prop :=
  ∃ r ∈ db.roles.takeWhile (·.id ≠ role.id), db.Holds userId r.id ∧
    ∃ p ∈ r.permissionList, permission.MatchedBy p

omit [Platform] in
theorem accessToken_of_user {db : Accounts} {userId : Int} {user : UserDbo}
    (h : db.userById userId = some user) :
    db.accessToken userId = some ⟨(db.rolesOf userId).flatMap RoleDbo.permissionList⟩ := by
  have hid : user.id = userId := by simpa using List.find?_some h
  unfold Accounts.accessToken
  rw [run_findById_some h, hid]
  rfl

omit [Platform] in
theorem userById_of_accessToken {db : Accounts} {userId : Int} {auth : AuthToken}
    (h : db.accessToken userId = some auth) : ∃ user, db.userById userId = some user := by
  cases huser : db.userById userId with
  | some user => exact ⟨user, rfl⟩
  | none =>
      have hexec : (AccountStmt.selectUserById userId).exec db = (none, db) := congrArg (·, db) huser
      have hrun : (UserService.findById userId).run db = (.error (.databaseError .rowNotFound), db) :=
        AccountAction.run_bind_error (AccountAction.run_fetchOne_none (AccountAction.run_stmt_of_exec hexec))
      unfold Accounts.accessToken at h
      rw [hrun] at h
      cases h

omit [Platform] in
theorem assigned_tables {db : Accounts} {userId : Int} {user : UserDbo} {role : RoleDbo}
    (huser : db.userById userId = some user) (hrole : role ∈ db.roles) :
    (db.assigned userId role.id).toAccountTables = db.insertUserRole userId role.id := by
  have hid : user.id = userId := by simpa using List.find?_some huser
  have hmem : userId ∈ db.users.map (·.id) := hid ▸ List.mem_map_of_mem (List.mem_of_find?_eq_some huser)
  have hschema : AccountSchema (db.insertUserRole userId role.id) :=
    (db.schema.insertUserRole_iff userId role.id).mpr ⟨hmem, List.mem_map_of_mem hrole⟩
  unfold Accounts.assigned AccountAction.after
  rw [run_addRoleToUser hschema]

omit [Platform] in
/-- A role more is held by the user it was assigned to. -/
theorem holds_insertUserRole {t : AccountTables} {userId roleId id : Int} :
    (t.insertUserRole userId roleId).Holds userId id ↔ t.Holds userId id ∨ id = roleId := by
  unfold AccountTables.Holds AccountTables.insertUserRole
  simp

omit [Platform] in
/-- The rows of a user's roles after one more was assigned, in the order of the table. -/
theorem rolesOf_insertUserRole {t : AccountTables} (h : AccountSchema t) {userId : Int} {role : RoleDbo}
    (hrole : role ∈ t.roles) (hnew : ¬ t.Holds userId role.id) :
    ∃ behind, t.rolesOf userId =
        (t.roles.takeWhile (·.id ≠ role.id)).filter (fun r => t.Holds userId r.id) ++ behind ∧
      (t.insertUserRole userId role.id).rolesOf userId =
        (t.roles.takeWhile (·.id ≠ role.id)).filter (fun r => t.Holds userId r.id) ++ role :: behind := by
  obtain ⟨behind, hsplit, hahead, hbehind⟩ := h.roles_split hrole
  have hsame (l : List RoleDbo) (hl : ∀ r ∈ l, r.id ≠ role.id) :
      l.filter (fun r => (t.insertUserRole userId role.id).Holds userId r.id) =
        l.filter fun r => t.Holds userId r.id := by
    refine List.filter_congr fun r hr => ?_
    simp [holds_insertUserRole, hl r hr]
  refine ⟨behind.filter fun r => t.Holds userId r.id, ?_, ?_⟩
  · unfold AccountTables.rolesOf
    conv => lhs; rw [hsplit]
    rw [List.filter_append, List.filter_cons, if_neg (by simpa using hnew)]
  · unfold AccountTables.rolesOf
    conv => lhs; rw [show (t.insertUserRole userId role.id).roles = t.roles from rfl, hsplit]
    rw [List.filter_append, List.filter_cons, if_pos (by simp [holds_insertUserRole]), hsame _ hahead,
      hsame _ hbehind]

omit [Platform] in
/-- A role that is held already changes nothing. -/
theorem rolesOf_insertUserRole_held {t : AccountTables} {userId roleId : Int} (h : t.Holds userId roleId) :
    (t.insertUserRole userId roleId).rolesOf userId = t.rolesOf userId := by
  refine List.filter_congr fun r _ => ?_
  have hsame : (t.insertUserRole userId roleId).Holds userId r.id ↔ t.Holds userId r.id := by
    rw [holds_insertUserRole]
    exact ⟨fun hr => hr.elim id fun he => he ▸ h, .inl⟩
  simp [hsame]

/-- One more role leaves a user's permission granted exactly if it is held already, or a role ahead of it has a
    matching pattern, or no pattern of it is rejected ahead of its first match. -/
theorem assigned_grants_iff {db : Accounts} {userId : Int} {role : RoleDbo} {auth : AuthToken}
    (hrole : role ∈ db.roles) (hauth : db.accessToken userId = some auth) (h : auth.Grants permission) :
    ∃ auth', (db.assigned userId role.id).accessToken userId = some auth' ∧
      (auth'.Grants permission ↔ db.Holds userId role.id ∨ db.MatchedAhead userId role permission ∨
        ¬ permission.Blocked role.permissionList) := by
  obtain ⟨user, huser⟩ := userById_of_accessToken hauth
  have htables := assigned_tables huser hrole
  have huser' : (db.assigned userId role.id).userById userId = some user := by
    unfold AccountTables.userById
    rw [htables]
    exact huser
  have hauth' : auth = ⟨(db.rolesOf userId).flatMap RoleDbo.permissionList⟩ := by
    rw [accessToken_of_user huser] at hauth
    exact (Option.some.inj hauth).symm
  refine ⟨_, accessToken_of_user huser', ?_⟩
  rw [htables]
  by_cases hheld : db.Holds userId role.id
  · rw [rolesOf_insertUserRole_held hheld, ← hauth']
    simp [hheld, h]
  · obtain ⟨behind, hbefore, hafter⟩ := rolesOf_insertUserRole db.schema hrole hheld
    rw [hauth', hbefore, List.flatMap_append] at h
    rw [hafter, List.flatMap_append, List.flatMap_cons, ← List.append_assoc, grants_insert_iff h]
    have hahead : (∃ p ∈ ((db.roles.takeWhile (·.id ≠ role.id)).filter
          (fun r => db.Holds userId r.id)).flatMap RoleDbo.permissionList, permission.MatchedBy p) ↔
        db.MatchedAhead userId role permission := by
      unfold Accounts.MatchedAhead
      simp only [List.mem_flatMap, List.mem_filter, decide_eq_true_eq]
      constructor
      · rintro ⟨p, ⟨r, ⟨hr, hholds⟩, hp⟩, hmatch⟩
        exact ⟨r, hr, hholds, p, hp, hmatch⟩
      · rintro ⟨r, hr, hholds, p, hp, hmatch⟩
        exact ⟨p, ⟨r, ⟨hr, hholds⟩, hp⟩, hmatch⟩
    rw [hahead]
    simp [hheld]

/-- **What granting more does.** Patterns put into a list leave a permission granted exactly if one ahead of
    them matches or none of them is rejected ahead of their first match; the order of a list does not matter
    exactly if all of its patterns compile or none matches; and a role assigned to a stored user leaves a
    permission granted under the same condition on the roles in the order of the table. -/
theorem assign_keeps_grants_iff :
    (∀ (permission : Permission) (pre ps post : List String),
      (⟨pre ++ post⟩ : AuthToken).Grants permission →
        ((⟨pre ++ ps ++ post⟩ : AuthToken).Grants permission ↔
          (∃ p ∈ pre, permission.MatchedBy p) ∨ ¬ permission.Blocked ps)) ∧
    (∀ (permission : Permission) (ps : List String),
      (∀ ps', ps'.Perm ps →
        ((⟨ps'⟩ : AuthToken).Grants permission ↔ (⟨ps⟩ : AuthToken).Grants permission)) ↔
      (∀ p ∈ ps, ¬ Uncompilable p) ∨ (∀ p ∈ ps, ¬ permission.MatchedBy p)) ∧
    (∀ (permission : Permission) (db : Accounts) (userId : Int) (role : RoleDbo) (auth : AuthToken),
      role ∈ db.roles → db.accessToken userId = some auth → auth.Grants permission →
        ∃ auth', (db.assigned userId role.id).accessToken userId = some auth' ∧
          (auth'.Grants permission ↔ db.Holds userId role.id ∨ db.MatchedAhead userId role permission ∨
            ¬ permission.Blocked role.permissionList)) := by
  refine ⟨?_, ?_, ?_⟩
  · intro permission pre ps post h
    exact grants_insert_iff h
  · intro permission ps
    exact grants_perm_iff ps
  · intro permission db userId role auth hrole hauth h
    exact assigned_grants_iff hrole hauth h

end

section

/-- The reference patterns, and none with a bracket that is not closed. -/
def Reference.bracketGlob (pattern : String) : Option (String → Bool) :=
  if '[' ∈ pattern.toList ∧ ']' ∉ pattern.toList then none else Reference.glob pattern

/-- The reference platform with these patterns. -/
@[reducible] def Reference.bracketPlatform : Platform :=
  { Reference.platform with globPattern := Reference.bracketGlob }

attribute [local instance] Reference.bracketPlatform

/-- A role whose only pattern does not compile. -/
def brokenRole : RoleUpdateDto := ⟨"broken", ["["]⟩

/-- A role that lets its holders list the devices. -/
def viewerRole : RoleUpdateDto := ⟨"viewer", ["device/list"]⟩

/-- The migrated accounts with both roles, an administrator, and a guest who holds the second of them. -/
def guestAccounts : Accounts :=
  let db := (createRole rootAuth brokenRole).after Accounts.migrated
  let db := (createRole rootAuth viewerRole).after db
  let db := (UserService.insert (signupUser "root")).after db
  let db := (UserService.insert (signupUser "guest")).after db
  (RoleService.addRoleToUser 2 3).after db

set_option maxRecDepth 20000 in
/-- The first role is accepted; assigned to the guest, it takes the permission of the second one away. -/
theorem broken_role_takes_away :
    ((createRole rootAuth brokenRole).run Accounts.migrated).1.isOk = true ∧
    ∃ auth auth', guestAccounts.accessToken 2 = some auth ∧
      (guestAccounts.assigned 2 2).accessToken 2 = some auth' ∧
      auth.Grants .deviceList ∧ ¬ auth'.Grants .deviceList := by
  refine ⟨by decide, ⟨["device/list"]⟩, ⟨["[", "device/list"]⟩, rfl, rfl, rfl, ?_⟩
  intro h
  cases h

set_option maxRecDepth 20000 in
theorem reader_role_keeps :
    ∃ auth', (guestAccounts.assigned 2 1).accessToken 2 = some auth' ∧ auth'.Grants .deviceList := by
  obtain ⟨auth', hauth', hiff⟩ := assign_keeps_grants_iff.2.2 .deviceList guestAccounts 2
    ⟨1, "reader", "**/list,**/read"⟩ ⟨["device/list"]⟩ (by decide) rfl rfl
  refine ⟨auth', hauth', hiff.mpr (.inr (.inr (not_blocked_of_compiles ?_)))⟩
  unfold Uncompilable
  decide

end

end MudController
