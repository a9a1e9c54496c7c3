import MudController.Db.Backend
import MudController.Run.Accounts

/-!
# `Run.Backend` — what one statement does to the parts of the database

The facts about single statements that the invariants of whole runs are made of: what a statement does to the
accounts (`accountsTurn`), and that the clock only goes on (`exec_later`).
-/

namespace MudController

open Logic

/-- A write takes place or is refused. -/
theorem Accounts.write_cases {α : Type} (db : Accounts) (f : AccountTables → AccountTables) (answer : α) :
    (db.write f answer).2.toAccountTables = db.toAccountTables ∨
      (db.write f answer).2.toAccountTables = f db.toAccountTables := by
  by_cases h : AccountSchema (f db.toAccountTables)
  · exact .inr (congrArg (fun r => r.2.toAccountTables) (Accounts.write_ok f h answer))
  · exact .inl (congrArg (fun r => r.2.toAccountTables) (Accounts.write_refused f h answer))

/-- A write that was reported has taken place. -/
theorem Accounts.write_of_ok {α : Type} {db : Accounts} {f : AccountTables → AccountTables} {answer a : α}
    (h : (db.write f answer).1 = .ok a) : (db.write f answer).2.toAccountTables = f db.toAccountTables := by
  by_cases hschema : AccountSchema (f db.toAccountTables)
  · rw [Accounts.write_ok f hschema]
  · rw [Accounts.write_refused f hschema] at h
    cases h

variable [Platform]

/-! ## The accounts -/

/-- What a statement does to the accounts. -/
inductive AccountsTurn (t : AccountTables) : BackendStmt → AccountTables → Prop where
  | same (s : BackendStmt) : AccountsTurn t s t
  | insertUser (username password : String) (salt : List UInt8) :
      AccountsTurn t (.account (.insertUser username password salt)) (t.insertUser username password salt)
  | deleteUser (id : Int) : AccountsTurn t (.account (.deleteUser id)) (t.deleteUser id)
  | insertRole (name permissions : String) :
      AccountsTurn t (.account (.insertRole name permissions)) (t.insertRole name permissions)
  | updateRole (role : RoleDbo) : AccountsTurn t (.account (.updateRole role)) (t.updateRole role)
  | deleteRole (id : Int) : AccountsTurn t (.account (.deleteRole id)) (t.deleteRole id)
  | insertUserRole (userId roleId : Int) :
      AccountsTurn t (.account (.insertUserRole userId roleId)) (t.insertUserRole userId roleId)
  | deleteUserRole (userId roleId : Int) :
      AccountsTurn t (.account (.deleteUserRole userId roleId)) (t.deleteUserRole userId roleId)
  /-- A row of `users` is written under its id. -/
  | updateUser (s : BackendStmt) (id : Int) (f : UserDbo → UserDbo) (hid : ∀ user, (f user).id = user.id) :
      AccountsTurn t s (t.updateUser id f)

theorem AccountsTurn.of_write {α : Type} {db : Accounts} {s : BackendStmt} {f : AccountTables → AccountTables}
    (answer : α) (h : AccountsTurn db.toAccountTables s (f db.toAccountTables)) :
    AccountsTurn db.toAccountTables s (db.write f answer).2.toAccountTables := by
  rcases db.write_cases f answer with hsame | hwritten
  · rw [hsame]
    exact .same s
  · rwa [hwritten]

/-- **One statement, on the accounts.** -/
theorem BackendStmt.accountsTurn (s : BackendStmt) (b : Backend) :
    AccountsTurn b.accounts.toAccountTables s (s.exec b).2.accounts.toAccountTables := by
  cases s with
  | account s =>
      cases s with
      | insertUser username password salt => exact .of_write _ (.insertUser username password salt)
      | deleteUser id => exact .of_write _ (.deleteUser id)
      | insertRole name permissions => exact .of_write _ (.insertRole name permissions)
      | updateRole role => exact .of_write _ (.updateRole role)
      | deleteRole id => exact .of_write _ (.deleteRole id)
      | insertUserRole userId roleId => exact .of_write _ (.insertUserRole userId roleId)
      | deleteUserRole userId roleId => exact .of_write _ (.deleteUserRole userId roleId)
      | countUsers | selectUserById id | selectUsersWithRoles | selectRolesOf userId | selectRoleById id | selectRoles =>
          exact .same _
  | updateUser id username password salt =>
      exact .of_write _ (.updateUser _ id (.withCredentials username password salt) fun _ => rfl)
  | updatePassword id password salt => exact .of_write _ (.updateUser _ id (.withPassword password salt) fun _ => rfl)
  | updateLastInteraction id stamp => exact .of_write _ (.updateUser _ id (.seenAt stamp) fun _ => rfl)
  | upsertUserConfig config =>
      change AccountsTurn _ _ (b.upsertUserConfig config).2.accounts.toAccountTables
      unfold Backend.upsertUserConfig
      split <;> exact .same _
  | insertRoom name color | updateRoom room | deleteRoom name =>
      dsimp only [BackendStmt.exec]
      unfold Backend.writeRooms
      split <;> exact .same _
  | _ => exact .same _

omit [Platform] in
/-- The ids of the users after a row was written. -/
theorem AccountTables.updateUser_ids {t : AccountTables} {id : Int} {f : UserDbo → UserDbo}
    (hid : ∀ user, (f user).id = user.id) : (t.updateUser id f).users.map (·.id) = t.users.map (·.id) := by
  unfold AccountTables.updateUser
  rw [List.map_map]
  refine List.map_congr_left fun user _ => ?_
  dsimp only [Function.comp_apply]
  split
  · exact hid user
  · rfl

/-- The user with this id has been deleted. -/
def AccountTables.Gone (t : AccountTables) (id : Int) : Prop := id ≤ t.userSeq ∧ id ∉ t.users.map (·.id)

/-- A user who was deleted does not come back. -/
theorem AccountsTurn.gone {t t' : AccountTables} {s : BackendStmt} (h : AccountsTurn t s t') {id : Int}
    (hgone : t.Gone id) : t'.Gone id := by
  obtain ⟨hseq, hid⟩ := hgone
  cases h with
  | insertUser username password salt =>
      refine ⟨by unfold AccountTables.insertUser; dsimp only; omega, ?_⟩
      unfold AccountTables.insertUser
      rw [List.map_append, List.mem_append, List.map_singleton, List.mem_singleton]
      rintro (hmem | hnew)
      · exact hid hmem
      · dsimp only at hnew
        omega
  | deleteUser id' =>
      refine ⟨hseq, fun hmem => hid ?_⟩
      obtain ⟨user, huser, rfl⟩ := List.mem_map.mp hmem
      exact List.mem_map_of_mem (List.mem_of_mem_filter huser)
  | updateUser s id' f hf => exact ⟨hseq, by rwa [AccountTables.updateUser_ids hf]⟩
  | _ => exact ⟨hseq, hid⟩

/-- A user is there until they are deleted. -/
theorem AccountsTurn.ids {t t' : AccountTables} {s : BackendStmt} (h : AccountsTurn t s t') {id : Int}
    (hid : id ∈ t.users.map (·.id)) : id ∈ t'.users.map (·.id) ∨ s = .account (.deleteUser id) := by
  cases h with
  | insertUser username password salt =>
      left
      unfold AccountTables.insertUser
      simp [hid]
  | deleteUser id' =>
      by_cases hne : id = id'
      · subst hne
        exact .inr rfl
      · left
        obtain ⟨user, huser, rfl⟩ := List.mem_map.mp hid
        exact List.mem_map_of_mem (List.mem_filter.mpr ⟨huser, by simpa using hne⟩)
  | updateUser s id' f hf => exact .inl (by rwa [AccountTables.updateUser_ids hf])
  | _ => exact .inl hid

/-! ## Credentials -/

/-- What a user logs in with: the hash of the password, and its salt. -/
abbrev Credential := String × List UInt8

def UserDbo.credential (user : UserDbo) : Credential := (user.password, user.salt)

/-- The credential of the user with the id. -/
def AccountTables.credential (t : AccountTables) (id : Int) : Option Credential := (t.userById id).map UserDbo.credential

/-- What a statement makes of the credential of a user. -/
inductive CredentialTurn (t : AccountTables) (id : Int) : BackendStmt → Option Credential → Prop where
  | same (s : BackendStmt) : CredentialTurn t id s (t.credential id)
  | inserted (hnew : t.credential id = none) (username password : String) (salt : List UInt8) :
      CredentialTurn t id (.account (.insertUser username password salt)) (some (password, salt))
  | deleted : CredentialTurn t id (.account (.deleteUser id)) none
  | written (username password : String) (salt : List UInt8) :
      CredentialTurn t id (.updateUser id username password salt) (some (password, salt))
  | changed (password : String) (salt : List UInt8) :
      CredentialTurn t id (.updatePassword id password salt) (some (password, salt))

omit [Platform] in
theorem AccountTables.userById_insertUser (t : AccountTables) (username password : String) (salt : List UInt8)
    (id : Int) : (t.insertUser username password salt).userById id =
      (t.userById id).or (if t.userSeq + 1 = id then some ⟨t.userSeq + 1, username, password, salt, 0⟩ else none) := by
  unfold AccountTables.userById AccountTables.insertUser
  rw [List.find?_append]
  simp

omit [Platform] in
theorem AccountTables.userById_deleteUser (t : AccountTables) (id other : Int) :
    (t.deleteUser id).userById other = if other = id then none else t.userById other := by
  unfold AccountTables.userById AccountTables.deleteUser
  rw [List.find?_filter]
  by_cases h : other = id
  · subst h
    simp
  · rw [if_neg h]
    congr 1
    funext user
    by_cases huser : user.id = other
    · simp [huser, h]
    · simp [huser]

omit [Platform] in
theorem AccountTables.userById_updateUser (t : AccountTables) {f : UserDbo → UserDbo} (hf : ∀ user, (f user).id = user.id)
    (id other : Int) : (t.updateUser id f).userById other =
      (t.userById other).map fun user => if other = id then f user else user := by
  have hkey (user : UserDbo) : (if user.id = id then f user else user).id = user.id := by
    split
    · exact hf user
    · rfl
  unfold AccountTables.userById AccountTables.updateUser
  rw [List.find?_map]
  have hsame : (fun user : UserDbo => decide (user.id = other)) ∘ (fun user => if user.id = id then f user else user) =
      fun user => decide (user.id = other) := funext fun user => by simp only [Function.comp, hkey]
  rw [hsame]
  cases hfind : t.users.find? (fun user => decide (user.id = other)) with
  | none => rfl
  | some user =>
      have hid : user.id = other := by simpa using List.find?_some hfind
      simp [hid]

theorem CredentialTurn.of_eq {t : AccountTables} {id : Int} {s : BackendStmt} {c : Option Credential}
    (h : c = t.credential id) : CredentialTurn t id s c := h ▸ .same s

theorem CredentialTurn.of_write {α : Type} {db : Accounts} {id : Int} {s : BackendStmt}
    {f : AccountTables → AccountTables} (answer : α)
    (h : CredentialTurn db.toAccountTables id s ((f db.toAccountTables).credential id)) :
    CredentialTurn db.toAccountTables id s ((db.write f answer).2.toAccountTables.credential id) := by
  rcases db.write_cases f answer with hsame | hwritten
  · rw [hsame]
    exact .same s
  · rwa [hwritten]

/-- A row of `users` is written. -/
theorem CredentialTurn.of_updateUser {t : AccountTables} {id other : Int} {s : BackendStmt} {f : UserDbo → UserDbo}
    (hf : ∀ user, (f user).id = user.id)
    (hwritten : other = id → ∀ user, t.userById other = some user →
      CredentialTurn t other s (some (f user).credential)) :
    CredentialTurn t other s ((t.updateUser id f).credential other) := by
  have hafter : (t.updateUser id f).credential other =
      ((t.userById other).map fun user => if other = id then f user else user).map UserDbo.credential :=
    congrArg (Option.map UserDbo.credential) (t.userById_updateUser hf id other)
  rw [hafter]
  cases huser : t.userById other with
  | none => exact .of_eq (by simp [AccountTables.credential, huser])
  | some user =>
      by_cases h : other = id
      · simpa [h] using h ▸ hwritten h user huser
      · exact .of_eq (by simp [AccountTables.credential, huser, h])

/-- **One statement, on the credential of a user.** -/
theorem BackendStmt.credentialTurn (s : BackendStmt) (b : Backend) (id : Int) :
    CredentialTurn b.accounts.toAccountTables id s ((s.exec b).2.accounts.credential id) := by
  cases s with
  | account s =>
      cases s with
      | insertUser username password salt =>
          refine .of_write _ ?_
          have hafter : (b.accounts.insertUser username password salt).credential id =
              ((b.accounts.userById id).or (if b.accounts.userSeq + 1 = id then
                some ⟨b.accounts.userSeq + 1, username, password, salt, 0⟩ else none)).map UserDbo.credential :=
            congrArg (Option.map UserDbo.credential) (AccountTables.userById_insertUser _ _ _ _ _)
          rw [hafter]
          cases huser : b.accounts.userById id with
          | some user => exact .of_eq (by simp [AccountTables.credential, huser])
          | none =>
              have hnone : b.accounts.credential id = none := by simp [AccountTables.credential, huser]
              by_cases hid : b.accounts.userSeq + 1 = id
              · simpa [hid, UserDbo.credential] using .inserted hnone username password salt
              · exact .of_eq (by simp [hid, hnone])
      | deleteUser other =>
          refine .of_write _ ?_
          unfold AccountTables.credential
          rw [AccountTables.userById_deleteUser]
          by_cases hid : id = other
          · subst hid
            simpa using .deleted
          · rw [if_neg hid]
            exact .same _
      | insertRole name permissions => exact .of_write _ (.same _)
      | updateRole role => exact .of_write _ (.same _)
      | deleteRole roleId => exact .of_write _ (.same _)
      | insertUserRole userId roleId => exact .of_write _ (.same _)
      | deleteUserRole userId roleId => exact .of_write _ (.same _)
      | countUsers | selectUserById userId | selectUsersWithRoles | selectRolesOf userId | selectRoleById roleId
      | selectRoles => exact .same _
  | updateUser userId username password salt =>
      refine .of_write _ (.of_updateUser (fun _ => rfl) ?_)
      rintro rfl user _
      exact .written username password salt
  | updatePassword userId password salt =>
      refine .of_write _ (.of_updateUser (fun _ => rfl) ?_)
      rintro rfl user _
      exact .changed password salt
  | updateLastInteraction userId stamp =>
      refine .of_write _ (.of_updateUser (fun _ => rfl) fun _ user huser => .of_eq ?_)
      simp [AccountTables.credential, huser, UserDbo.credential, UserDbo.seenAt]
  | upsertUserConfig config =>
      change CredentialTurn _ _ _ ((b.upsertUserConfig config).2.accounts.credential id)
      unfold Backend.upsertUserConfig
      split <;> exact .same _
  | insertRoom name color | updateRoom room | deleteRoom name =>
      dsimp only [BackendStmt.exec]
      unfold Backend.writeRooms
      split <;> exact .same _
  | _ => exact .same _

/-! ## The settings of users -/

omit [Platform] in
theorem UserConfig.eq_of_primaryKey {config config' : UserConfig} (h : config.primaryKey = config'.primaryKey) :
    config = ⟨config'.key, config'.userId, config.value⟩ := by
  obtain ⟨hkey, huser⟩ := Prod.mk.inj h
  obtain ⟨key, userId, value⟩ := config
  dsimp only at hkey huser
  rw [hkey, huser]

/-- The rooms have nothing to do with the settings. -/
theorem Backend.writeRooms_userConfigs {α : Type} (b : Backend) (f : Tables → Tables) (roomSeq : Int) (answer : α) :
    (b.writeRooms f roomSeq answer).2.userConfigs = b.userConfigs := by
  unfold Backend.writeRooms
  split <;> rfl

/-- A setting that is there after a statement was there, or was just stored. -/
theorem BackendStmt.mem_userConfigs {s : BackendStmt} {b : Backend} {config : UserConfig}
    (h : config ∈ (s.exec b).2.userConfigs) : config ∈ b.userConfigs ∨ s = .upsertUserConfig config := by
  cases s with
  | account s => exact .inl (List.mem_of_mem_filter h)
  | updateUser id username password salt => exact .inl (List.mem_of_mem_filter h)
  | updatePassword id password salt => exact .inl (List.mem_of_mem_filter h)
  | updateLastInteraction id stamp => exact .inl (List.mem_of_mem_filter h)
  | upsertUserConfig stored =>
      change config ∈ (b.upsertUserConfig stored).2.userConfigs at h
      unfold Backend.upsertUserConfig at h
      split at h
      · dsimp only at h
        unfold upsertRow at h
        split at h
        · rcases mem_of_mem_replaceRow h with rfl | ⟨hmem, _⟩
          · exact .inr rfl
          · exact .inl hmem
        · rcases List.mem_append.mp h with hmem | hnew
          · exact .inl hmem
          · rw [List.mem_singleton.mp hnew]
            exact .inr rfl
      · exact .inl h
  | deleteUserConfig key userId => exact .inl (List.mem_of_mem_filter h)
  | insertRoom name color =>
      left
      exact b.writeRooms_userConfigs _ _ _ ▸ h
  | updateRoom room =>
      left
      exact b.writeRooms_userConfigs _ _ _ ▸ h
  | deleteRoom name =>
      left
      exact b.writeRooms_userConfigs _ _ _ ▸ h
  | _ => exact .inl h

/-- What a statement makes of a setting that is there. -/
theorem BackendStmt.userConfigs_kept {s : BackendStmt} {b : Backend} {config : UserConfig}
    (h : config ∈ b.userConfigs) :
    config ∈ (s.exec b).2.userConfigs ∨
      (∃ value, s = .upsertUserConfig ⟨config.key, config.userId, value⟩) ∨
      s = .deleteUserConfig config.key config.userId ∨ s = .account (.deleteUser config.userId) := by
  have hids := s.accountsTurn b
  cases s with
  | account s =>
      rcases hids.ids (b.userConfigRef config h) with hkept | hdeleted
      · exact .inl (List.mem_filter.mpr ⟨h, decide_eq_true hkept⟩)
      · exact .inr (.inr (.inr hdeleted))
  | updateUser id username password salt =>
      rcases hids.ids (b.userConfigRef config h) with hkept | hdeleted
      · exact .inl (List.mem_filter.mpr ⟨h, decide_eq_true hkept⟩)
      · exact nomatch hdeleted
  | updatePassword id password salt =>
      rcases hids.ids (b.userConfigRef config h) with hkept | hdeleted
      · exact .inl (List.mem_filter.mpr ⟨h, decide_eq_true hkept⟩)
      · exact nomatch hdeleted
  | updateLastInteraction id stamp =>
      rcases hids.ids (b.userConfigRef config h) with hkept | hdeleted
      · exact .inl (List.mem_filter.mpr ⟨h, decide_eq_true hkept⟩)
      · exact nomatch hdeleted
  | upsertUserConfig stored =>
      by_cases hkey : config.primaryKey = stored.primaryKey
      · right
        left
        exact ⟨stored.value, congrArg _ (UserConfig.eq_of_primaryKey hkey.symm)⟩
      · left
        change config ∈ (b.upsertUserConfig stored).2.userConfigs
        unfold Backend.upsertUserConfig
        split
        · dsimp only
          unfold upsertRow
          split
          · exact mem_replaceRow_other h hkey
          · exact List.mem_append_left _ h
        · exact h
  | deleteUserConfig key userId =>
      by_cases hkey : config.primaryKey = (key, userId)
      · obtain ⟨rfl, rfl⟩ := Prod.mk.inj hkey
        exact .inr (.inr (.inl rfl))
      · left
        exact List.mem_filter.mpr ⟨h, by simpa using hkey⟩
  | insertRoom name color =>
      left
      exact (b.writeRooms_userConfigs _ _ _).symm ▸ h
  | updateRoom room =>
      left
      exact (b.writeRooms_userConfigs _ _ _).symm ▸ h
  | deleteRoom name =>
      left
      exact (b.writeRooms_userConfigs _ _ _).symm ▸ h
  | _ => exact .inl h

/-! ## The rooms -/

/-- What a statement makes of the rooms. -/
inductive RoomsTurn (b : Backend) : BackendStmt → List Room → Prop where
  | same (s : BackendStmt) : RoomsTurn b s b.world.db.rooms
  | inserted (name color : String) :
      RoomsTurn b (.insertRoom name color) (b.world.db.rooms ++ [⟨b.roomSeq + 1, name, color⟩])
  | updated (room : Room) : RoomsTurn b (.updateRoom room) (replaceRow (·.roomId) room b.world.db.rooms)
  | deleted (name : String) : RoomsTurn b (.deleteRoom name) (b.world.db.rooms.filter (·.name ≠ name))

theorem RoomsTurn.of_write {α : Type} {b : Backend} {s : BackendStmt} {f : Tables → Tables} (roomSeq : Int)
    (answer : α) (h : RoomsTurn b s (f b.world.db.toTables).rooms) :
    RoomsTurn b s (b.writeRooms f roomSeq answer).2.world.db.rooms := by
  unfold Backend.writeRooms
  split
  · exact h
  · exact .same s

/-- **One statement, on the rooms.** -/
theorem BackendStmt.roomsTurn (s : BackendStmt) (b : Backend) : RoomsTurn b s (s.exec b).2.world.db.rooms := by
  cases s with
  | world s => exact s.exec_rooms b.world ▸ .same _
  | insertRoom name color => exact .of_write _ _ (.inserted name color)
  | updateRoom room => exact .of_write _ _ (.updated room)
  | deleteRoom name => exact .of_write _ _ (.deleted name)
  | upsertUserConfig config =>
      change RoomsTurn b _ (b.upsertUserConfig config).2.world.db.rooms
      unfold Backend.upsertUserConfig
      split <;> exact .same _
  | _ => exact .same _

/-! ## The clock -/

/-- The second database is the first one some readings of the clock later. -/
def Backend.Later (b b' : Backend) : Prop := ∃ c, ∀ n, b'.world.clock n = b.world.clock (n + c)

theorem Backend.Later.refl (b : Backend) : b.Later b := ⟨0, fun _ => rfl⟩

theorem Backend.Later.trans {b b' b'' : Backend} (h : b.Later b') (h' : b'.Later b'') : b.Later b'' := by
  obtain ⟨c, hc⟩ := h
  obtain ⟨c', hc'⟩ := h'
  exact ⟨c' + c, fun n => by rw [hc' n, hc (n + c'), Nat.add_assoc]⟩

theorem Backend.Later.of_clock {b b' : Backend} (h : b'.world.clock = b.world.clock) : b.Later b' :=
  ⟨0, fun n => congrFun h n⟩

theorem World.write_clock {α : Type} (w : World) (f : Tables → Tables) (affected : α) :
    (w.write f affected).2.clock = w.clock := by
  unfold World.write
  split <;> rfl

/-- **One statement, on the clock.** -/
theorem BackendStmt.exec_later (s : BackendStmt) (b : Backend) : b.Later (s.exec b).2 := by
  cases s with
  | world s =>
      cases s with
      | now => exact ⟨1, fun _ => rfl⟩
      | upsertConfig key value | deleteConfig key | insertDevice row | updateDevice row | deleteDevice id
      | clearIpv4 addr | clearIpv6 addr | insertMud row | upsertMud row | deleteMud url =>
          exact .of_clock (World.write_clock _ _ _)
      | _ => exact .refl b
  | enforcer s =>
      cases s with
      | now => exact ⟨1, fun _ => rfl⟩
      | insertEnforcer row =>
          refine .of_clock ?_
          dsimp only [BackendStmt.exec, EnforcerStmt.exec]
          split <;> rfl
      | _ => exact .refl b
  | upsertUserConfig config =>
      refine .of_clock ?_
      dsimp only [BackendStmt.exec]
      unfold Backend.upsertUserConfig
      split <;> rfl
  | insertRoom name color | updateRoom room | deleteRoom name =>
      refine .of_clock ?_
      dsimp only [BackendStmt.exec]
      unfold Backend.writeRooms
      split <;> rfl
  | _ => exact .refl b

end MudController
