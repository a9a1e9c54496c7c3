import MudController.Access.Origin

/-!
# `Access.Credentials` — the passwords of users

The row of a user holds the hash of their password and its salt. Requests that change only the name of a user write
both back as they have read them, so a credential can come back after it was replaced. All the same it is always one
that somebody entitled has set (`exists_setsPassword`): whoever is let in as a user has entered a password that was
set for that user (`login_knows`). And a password that was set stays, unless another one is set, or a request that
had read the row before writes it back (`password_kept`).
-/

namespace MudController

open Logic

/-- What `argon2` is relied on for: a hash verifies no other password. -/
def Crypto.Binding [Crypto] : Prop :=
  ∀ {password password' hash : String} {salt : List UInt8}, hashEncoded password salt = some hash →
    verifyEncoded hash password' = some true → password' = password

section

variable [Platform] [Crypto]

section

variable (b : Backend) (calls : List Call) (sched : List Nat)

/-- At turn `k` call `i` sets a password for the user `id`, which is what it was asked and entitled to do. -/
inductive SetsPassword (i k : Nat) (id : Int) (password : String) (salt : Salt) : Prop where
  | signup {utcNow : DateTime} {dto : SignupDto}
      (hrequest : calls[i]? = some (.request (.signup salt utcNow dto))) (hpassword : dto.password = password)
      (hnew : (stateAt b calls sched k).accounts.credential id = none)
  | created {auth : Claims} {utcNow : DateTime} {dto : MgmCreateUserDto} {s : BackendStmt}
      (hasked : AskedAt b calls sched i k auth (.createUser salt utcNow dto) s) (hpassword : dto.password = password)
      (hgrants : auth.Grants .userManagementCreate)
      (hnew : (stateAt b calls sched k).accounts.credential id = none)
  | changed {auth : Claims} {dto : UpdatePasswordDto} {s : BackendStmt}
      (hasked : AskedAt b calls sched i k auth (.updatePassword salt dto) s) (hpassword : dto.newPassword = password)
      (hown : auth.sub = id)
  | reset {auth : Claims} {dto : ManagementController.MgmUpdateUserBasicDto} {s : BackendStmt}
      (hasked : AskedAt b calls sched i k auth (.updateUserById salt id dto) s)
      (hpassword : dto.password = some password) (hgrants : auth.Grants .userManagementWrite)

/-- At turn `k` call `i` writes the credential of the user `id` back as it read it at turn `kr`. -/
inductive WritesBack (i k kr : Nat) (id : Int) (c : Credential) : Prop where
  | updateMe {auth : Claims} {dto : UpdateUserDto} {s : BackendStmt} {row : UserDbo}
      (hasked : AskedAt b calls sched i k auth (.updateMe dto) s) (hown : auth.sub = id) (hkr : kr < k)
      (hread : ApiAnswered b calls sched i kr ⟨.account (.selectUserById id), some row⟩) (hrow : row.credential = c)
  | updateUserById {auth : Claims} {salt : Salt} {dto : ManagementController.MgmUpdateUserBasicDto}
      {s : BackendStmt} {row : UserDbo} (hasked : AskedAt b calls sched i k auth (.updateUserById salt id dto) s)
      (hgrants : auth.Grants .userManagementWrite) (hkept : dto.password = none) (hkr : kr < k)
      (hread : ApiAnswered b calls sched i kr ⟨.account (.selectUserById id), some row⟩) (hrow : row.credential = c)

end

variable {b : Backend} {calls : List Call} {sched : List Nat}

omit [Crypto] in
/-- The row that was read. -/
theorem read_credential {db : Backend} {id : Int} {row : UserDbo}
    (h : (BackendStmt.exec (.account (.selectUserById id)) db).1 = some row) :
    row.id = id ∧ db.accounts.credential id = some row.credential := by
  have hfind : db.accounts.userById id = some row := h
  refine ⟨by simpa using List.find?_some hfind, ?_⟩
  unfold AccountTables.credential
  rw [hfind]
  rfl

theorem WritesBack.read {i k kr : Nat} {id : Int} {c : Credential} (h : WritesBack b calls sched i k kr id c) :
    kr < k ∧ (stateAt b calls sched kr).accounts.credential id = some c := by
  cases h with
  | updateMe hasked hown hkr hread hrow => exact ⟨hkr, hrow ▸ (read_credential hread.answer).2⟩
  | updateUserById hasked hgrants hkept hkr hread hrow => exact ⟨hkr, hrow ▸ (read_credential hread.answer).2⟩

/-- **One turn.** A credential that a statement has put in place was set or written back. -/
theorem credential_written {i k : Nat} {x : Seen} {id : Int} {c : Credential} (hx : ApiAnswered b calls sched i k x)
    (hnot : (stateAt b calls sched k).accounts.credential id ≠ some c)
    (h : (stateAt b calls sched (k + 1)).accounts.credential id = some c) :
    (∃ password salt, SetsPassword b calls sched i k id password salt ∧
      Crypto.hashEncoded password salt.bytes = some c.1 ∧ c.2 = salt.bytes) ∨
    ∃ kr, WritesBack b calls sched i k kr id c := by
  obtain ⟨s, answer⟩ := x
  have hturn : CredentialTurn (stateAt b calls sched k).accounts.toAccountTables id s (some c) := by
    rw [← h, stateAt_succ hx]
    exact s.credentialTurn _ id
  generalize hr : some c = r at hturn
  cases hturn with
  | same s => exact absurd hr.symm hnot
  | deleted => cases hr
  | inserted hnew username password salt =>
      obtain rfl := Option.some.inj hr
      obtain ⟨r, seen, hc, hsaw, hasks⟩ := exists_asked hx fun h => h
      cases hasks with
      | signup hhash => exact .inl ⟨_, _, .signup hc rfl hnew, hhash, rfl⟩
      | token haccepted hlicence hasks =>
          cases hasks with
          | idle h => exact absurd h fun h => h
          | createUser hhash =>
              exact .inl ⟨_, _, .created (askedAt hc hsaw haccepted hlicence hx) rfl hlicence hnew, hhash, rfl⟩
  | written username password salt =>
      obtain rfl := Option.some.inj hr
      obtain ⟨r, seen, hc, hsaw, hasks⟩ := exists_asked hx fun h => h
      cases hasks with
      | token haccepted hlicence hasks =>
          have hasked := askedAt hc hsaw haccepted hlicence hx
          cases hasks with
          | idle h => exact absurd h fun h => h
          | updateMe hread =>
              obtain ⟨kr, hkr, hat⟩ := hsaw.mem hread
              obtain ⟨hid, _⟩ := read_credential hat.answer
              exact .inr ⟨kr, .updateMe hasked hid.symm hkr (hid ▸ hat) rfl⟩
          | renameUser hread hkept hgrants =>
              obtain ⟨kr, hkr, hat⟩ := hsaw.mem hread
              obtain ⟨rfl, _⟩ := read_credential hat.answer
              exact .inr ⟨kr, .updateUserById hasked hgrants hkept hkr hat rfl⟩
          | resetPassword hread hnew hhash hgrants =>
              obtain ⟨kr, hkr, hat⟩ := hsaw.mem hread
              obtain ⟨rfl, _⟩ := read_credential hat.answer
              exact .inl ⟨_, _, .reset hasked hnew hgrants, hhash, rfl⟩
  | changed password salt =>
      obtain rfl := Option.some.inj hr
      obtain ⟨r, seen, hc, hsaw, hasks⟩ := exists_asked hx fun h => h
      cases hasks with
      | token haccepted hlicence hasks =>
          cases hasks with
          | idle h => exact absurd h fun h => h
          | updatePassword hread hold hhash =>
              exact .inl ⟨_, _, .changed (askedAt hc hsaw haccepted hlicence hx) rfl rfl, hhash, rfl⟩

/-- **Every credential was set.** -/
theorem exists_setsPassword {j : Nat} {id : Int} {c : Credential}
    (h : (stateAt b calls sched j).accounts.credential id = some c) :
    b.accounts.credential id = some c ∨ ∃ i k password salt, k < j ∧ SetsPassword b calls sched i k id password salt ∧
      Crypto.hashEncoded password salt.bytes = some c.1 ∧ c.2 = salt.bytes := by
  -- what is written back was there at the turn at which it was read
  induction j using Nat.strongRecOn with
  | ind j ih =>
      rcases Pool.exists_since (fun w : Backend => w.accounts.credential id = some c) (Nat.zero_le j) h with
        hheld | ⟨k, i, x, _, hk, hx, hnot, hsince⟩
      · exact .inl (hheld 0 (Nat.le_refl 0) (Nat.zero_le j))
      · rcases credential_written hx hnot (hsince (k + 1) (by omega) (by omega)) with
          ⟨password, salt, hsets, hhash, hsalt⟩ | ⟨kr, hback⟩
        · exact .inr ⟨i, k, password, salt, hk, hsets, hhash, hsalt⟩
        · obtain ⟨hkr, hread⟩ := hback.read
          rcases ih kr (by omega) hread with hstart | ⟨i', k', password, salt, hk', hset⟩
          · exact .inl hstart
          · exact .inr ⟨i', k', password, salt, by omega, hset⟩

/-- **Nobody is let in without the password.** Behind every accepted token there is a login with a password that was
    set for the user, by themselves or by somebody entitled to, unless it is the one that they had from the start. -/
theorem login_knows (hsound : Crypto.Sound) (hbinding : Crypto.Binding) (hunforged : Unforged b calls sched)
    {i j : Nat} {token : String} {t : DateTime} {auth : Claims} (h : AcceptedAt b calls sched i j token t auth) :
    ∃ i₀ j₀ dto row, j₀ < j ∧ LoggedInAt b calls sched i₀ j₀ dto row ∧ row.id = auth.sub ∧
      (b.accounts.credential auth.sub = some row.credential ∨
        ∃ i k salt, k < j₀ ∧ SetsPassword b calls sched i k auth.sub dto.password salt) := by
  obtain ⟨i₀, j₀, dto, row, hj₀, hlogin, hid⟩ := exists_login hsound hunforged h
  refine ⟨i₀, j₀, dto, row, hj₀, hlogin, hid, ?_⟩
  have hfind : (stateAt b calls sched j₀).accounts.users.find? (·.username = dto.username) = some row :=
    hlogin.found.answer
  have hcredential : (stateAt b calls sched j₀).accounts.credential auth.sub = some row.credential := by
    have hrow := find?_of_mem (stateAt b calls sched j₀).accounts.schema.userIds (List.mem_of_find?_eq_some hfind)
    exact congrArg (Option.map UserDbo.credential) (hid ▸ hrow)
  rcases exists_setsPassword hcredential with hstart | ⟨i, k, password, salt, hk, hsets, hhash, _⟩
  · exact .inl hstart
  · obtain rfl := hbinding hhash hlogin.password
    exact .inr ⟨i, k, salt, hk, hsets⟩

/-- What ends a credential that was there from turn `k` on. -/
inductive EndsCredential (b : Backend) (calls : List Call) (sched : List Nat) (k i k' : Nat) (id : Int)
    (c : Credential) : Prop where
  | set {password : String} {salt : Salt} (hsets : SetsPassword b calls sched i k' id password salt)
  | userDeleted {auth : Claims}
      (hasked : AskedAt b calls sched i k' auth (.deleteUserById id) (.account (.deleteUser id)))
  /-- The credential of before turn `k` comes back. -/
  | stale {kr : Nat} {old : Credential} (hold : old ≠ c) (hkr : kr < k)
      (hback : WritesBack b calls sched i k' kr id old)

/-- **A password stays.** In every interleaving, a credential is there until another password is set or the user is
    deleted, or until a request that had read the row before writes back what it has read. -/
theorem password_kept {k j : Nat} {id : Int} {c : Credential} (hk : k ≤ j)
    (h : (stateAt b calls sched k).accounts.credential id = some c) :
    (∀ k', k ≤ k' → k' ≤ j → (stateAt b calls sched k').accounts.credential id = some c) ∨
    ∃ i k', k ≤ k' ∧ k' < j ∧ EndsCredential b calls sched k i k' id c := by
  rcases Pool.exists_until (fun w : Backend => w.accounts.credential id = some c) hk h with
    hheld | ⟨k', i, x, hkk', hlt, hx, hbefore, hended⟩
  · exact .inl hheld
  · refine .inr ⟨i, k', hkk', hlt, ?_⟩
    have hcurrent : (stateAt b calls sched k').accounts.credential id = some c := hbefore k' hkk' (Nat.le_refl k')
    cases hafter : (stateAt b calls sched (k' + 1)).accounts.credential id with
    | none =>
        -- only a deletion leaves no credential behind
        obtain ⟨s, answer⟩ := x
        have hturn : CredentialTurn (stateAt b calls sched k').accounts.toAccountTables id s none := by
          rw [← hafter, stateAt_succ hx]
          exact s.credentialTurn _ id
        generalize hr : (none : Option Credential) = r at hturn
        cases hturn with
        | same s => exact nomatch hr.trans hcurrent
        | deleted =>
            obtain ⟨auth, hasked⟩ := deleteUser_asked hx
            exact .userDeleted hasked
        | inserted hnew username password salt => cases hr
        | written username password salt => cases hr
        | changed password salt => cases hr
    | some new =>
        have hne : new ≠ c := by
          rintro rfl
          exact hended hafter
        have hnot : (stateAt b calls sched k').accounts.credential id ≠ some new := by
          rw [hcurrent]
          exact fun he => hne (Option.some.inj he).symm
        rcases credential_written hx hnot hafter with ⟨password, salt, hsets, _⟩ | ⟨kr, hback⟩
        · exact .set hsets
        · refine .stale hne ?_ hback
          -- from turn `k` on the request would have read the current one
          by_contra hlate
          obtain ⟨hkr, hread⟩ := hback.read
          have hsame := hbefore kr (Nat.le_of_not_lt hlate) (Nat.le_of_lt hkr)
          exact hne (Option.some.inj (hread.symm.trans hsame))

end

section

attribute [local instance] Reference.platform

section

attribute [local instance] Reference.crypto

theorem Reference.crypto_binding : Crypto.Binding := by
  intro password password' hash salt hhash hverify
  have hite : (if password = "password" ∧ salt = Reference.salt.bytes then some Reference.passwordHash else none) =
      some hash := hhash
  rw [Option.ite_none_right_eq_some] at hite
  obtain ⟨⟨rfl, rfl⟩, hsome⟩ := hite
  obtain rfl := Option.some.inj hsome
  have hsame : (if Reference.passwordHash = Reference.passwordHash then some (decide (password' = "password"))
      else none) = some true := hverify
  rw [if_pos rfl] at hsame
  exact of_decide_eq_true (Option.some.inj hsame)

theorem login_knows_deletion : ∃ i j dto row, j < 12 ∧
    LoggedInAt sessionBackend deletionCalls deletionSched i j dto row ∧ row.id = 1 ∧
      (sessionBackend.accounts.credential 1 = some row.credential ∨
        ∃ i' k salt, k < j ∧ SetsPassword sessionBackend deletionCalls deletionSched i' k 1 dto.password salt) :=
  login_knows Reference.crypto_sound Reference.crypto_binding deletion_unforged deletion_accepted

end

/-- The password `passphrase` under another salt, as `argon2` encodes it. -/
def Reference.passphraseHash : String :=
  "$argon2i$v=19$m=4096,t=3,p=1$ZmVkY2JhOTg3NjU0MzIxMGZlZGNiYTk4NzY1NDMyMTA$h80U+X9AFSr2x5mlfSd9h9kLmobnVSRuYrsUoWdo6+4"

/-- The salt of it. -/
def Reference.otherSalt : Salt where
  bytes := [102, 101, 100, 99, 98, 97, 57, 56, 55, 54, 53, 52, 51, 50, 49, 48,
    102, 101, 100, 99, 98, 97, 57, 56, 55, 54, 53, 52, 51, 50, 49, 48]
  length := rfl

/-- The two crates on two passwords. -/
@[reducible] def Reference.rotationCrypto : Crypto :=
  { Reference.crypto with
    hashEncoded := fun password salt =>
      if password = "password" ∧ salt = Reference.salt.bytes then some passwordHash
      else if password = "passphrase" ∧ salt = Reference.otherSalt.bytes then some passphraseHash
      else none
    verifyEncoded := fun hash password =>
      if hash = passwordHash then some (password = "password")
      else if hash = passphraseHash then some (password = "passphrase")
      else none }

attribute [local instance] Reference.rotationCrypto

/-- The administrator changes their password, and saves their name as it is. -/
def rotationCalls : List Call :=
  [.request (.authenticated (some (headerPrefix ++ Reference.token))
      (.updatePassword Reference.otherSalt ⟨"password", "passphrase"⟩)),
    .request (.authenticated (some (headerPrefix ++ Reference.token)) (.updateMe ⟨none⟩))]

/-- The row is read for the name, then the password is changed, and then the row is written. -/
def rotationSched : List Nat := [1, 1, 1, 1, 1, 1, 0, 0, 0, 0, 0, 0, 0, 1]

set_option maxRecDepth 20000 in
theorem rotation_changed : (stateAt sessionBackend rotationCalls rotationSched 13).accounts.credential 1 =
    some (Reference.passphraseHash, Reference.otherSalt.bytes) := by
  unfold stateAt poolAt apiPool rotationCalls
  simp only [List.map_cons, Call.program, authenticated_eq]
  rfl

set_option maxRecDepth 20000 in
theorem rotation_undone : (stateAt sessionBackend rotationCalls rotationSched 14).accounts.credential 1 =
    some (Reference.passwordHash, Reference.salt.bytes) := by
  unfold stateAt poolAt apiPool rotationCalls
  simp only [List.map_cons, Call.program, authenticated_eq]
  rfl

/-- The old password is back. -/
theorem password_kept_rotation :
    (stateAt sessionBackend rotationCalls rotationSched 14).accounts.credential 1 =
      some (Reference.passwordHash, Reference.salt.bytes) ∧
    ((∀ k, 13 ≤ k → k ≤ 14 → (stateAt sessionBackend rotationCalls rotationSched k).accounts.credential 1 =
      some (Reference.passphraseHash, Reference.otherSalt.bytes)) ∨
    ∃ i k, 13 ≤ k ∧ k < 14 ∧ EndsCredential sessionBackend rotationCalls rotationSched 13 i k 1
      (Reference.passphraseHash, Reference.otherSalt.bytes)) :=
  ⟨rotation_undone, password_kept (by decide) rotation_changed⟩

end

end MudController
