import MudController.Access.Mediation
import MudController.Run.Backend

/-!
# `Access.Provenance` — what an accepted token says of the database

A token is the word of an earlier call. If requests bring only tokens that responses have returned, an accepted one
is a snapshot (`provenance`): the database had its user at one turn, and gave the user its permissions at a later
one, and the clock has moved by fifteen minutes at most since it was read for the token. So what a user has lost, a
request can still do, but not for long (`revoked_permission`, `deleted_user`): unless the token was being made at
that very moment, fifteen minutes later it is refused.
-/

namespace MudController

open Logic

section

variable [Platform] [Crypto]

section

variable (b : Backend) (calls : List Call) (sched : List Nat)

/-- The pool ahead of turn `j`. -/
abbrev poolAt (j : Nat) : ApiPool := Pool.before BackendStmt.exec (apiPool b calls) sched j

/-- The database ahead of turn `j`. -/
abbrev stateAt (j : Nat) : Backend := (poolAt b calls sched j).state

/-- At turn `j` call `i` reads the clock, and accepts its token. -/
structure AcceptedAt (i j : Nat) (token : String) (t : DateTime) (auth : Claims) : Prop where
  request : ∃ authorization endpoint, calls[i]? = some (.request (.authenticated authorization endpoint)) ∧
    authorization.bind extractTokenFromHeader = some token
  clock : ApiAnswered b calls sched i j (.now t)
  decoded : ∃ js < j, ∃ row, ApiAnswered b calls sched i js (.secret row) ∧
    Crypto.decode row.value (timestamp t) token = some auth

/-- A call has returned the token ahead of turn `j`. -/
def ReturnedBefore (j : Nat) (token : String) : Prop :=
  ∃ (i : Nat) (dto : TokenDto), (poolAt b calls sched j).procs[i]? = some (.done (.ok (.token dto))) ∧ dto.token = token

/-- No request is let through with a token that no call has returned. -/
def Unforged : Prop :=
  ∀ i j token t auth, AcceptedAt b calls sched i j token t auth → ReturnedBefore b calls sched j token

/-- Call `i` has made the claims of what the database said at its turns `ju` and `jr`, and the clock at `jn`. -/
structure Snapshot (i ju jr jn : Nat) (auth : Claims) : Prop where
  turns : sched[ju]? = some i ∧ sched[jr]? = some i ∧ sched[jn]? = some i
  order : ju < jr ∧ jr < jn
  user : ∃ row, (stateAt b calls sched ju).accounts.userById auth.sub = some row ∧ auth.username = row.username
  permissions : auth.permissions =
    ((stateAt b calls sched jr).accounts.rolesOf auth.sub).flatMap RoleDbo.permissionList
  clock : auth.exp = timestamp ((stateAt b calls sched jn).world.clock 0) + 900

end

variable {b : Backend} {calls : List Call} {sched : List Nat}

/-- The database after a turn. -/
theorem stateAt_succ {i j : Nat} {x : Seen} (h : ApiAnswered b calls sched i j x) :
    stateAt b calls sched (j + 1) = (x.stmt.exec (stateAt b calls sched j)).2 := h.after

omit [Crypto] in
/-- A user who is found has the id that they were looked up by, or their own. -/
theorem Seen.FindsUser.userById {x : Seen} {id : Int} {row : UserDbo} (h : Seen.FindsUser row x id) {db : Backend}
    (hx : (x.stmt.exec db).1 = x.answer) : db.accounts.userById id = some row ∧ row.id = id := by
  cases h with
  | byUsername username =>
      have hfind : db.accounts.users.find? (·.username = username) = some row := hx
      refine ⟨?_, rfl⟩
      exact find?_of_mem db.accounts.schema.userIds (List.mem_of_find?_eq_some hfind)
  | byId id =>
      have hfind : db.accounts.userById id = some row := hx
      exact ⟨hfind, by simpa using List.find?_some hfind⟩

/-- No call is started later. -/
theorem exists_call {i j : Nat} {p : BackendAction ApiResponse} (h : (poolAt b calls sched j).procs[i]? = some p) :
    ∃ c, calls[i]? = some c := by
  obtain ⟨p', hp'⟩ := Pool.exists_proc h
  have hcalls : (calls.map Call.program)[i]? = some p' := hp'
  rw [List.getElem?_map] at hcalls
  obtain ⟨c, hc, _⟩ := Option.map_eq_some_iff.mp hcalls
  exact ⟨c, hc⟩

theorem ReturnedBefore.mono {j j' : Nat} {token : String} (h : ReturnedBefore b calls sched j token) (hj : j ≤ j') :
    ReturnedBefore b calls sched j' token := by
  obtain ⟨i, dto, hproc, htoken⟩ := h
  exact ⟨i, dto, Pool.before_done hj hproc, htoken⟩

/-- Behind a token that a call has returned stands what the call has seen. -/
theorem ReturnedBefore.issued {j : Nat} {token : String} (h : ReturnedBefore b calls sched j token) :
    ∃ i c seen x id row, calls[i]? = some c ∧ ApiSaw b calls sched i j seen ∧ Issued seen token x id row ∧
      c.Vouches seen id row := by
  obtain ⟨i, dto, hproc, rfl⟩ := h
  obtain ⟨c, hc⟩ := exists_call hproc
  obtain ⟨seen, hpath, hsaw⟩ := Pool.exists_saw (apiPool_procs hc) hproc
  obtain ⟨x, id, row, hissued, hvouches⟩ := Call.token_path hpath
  exact ⟨i, c, seen, x, id, row, hc, hsaw, hissued, hvouches⟩

/-- A token that a call has made is a snapshot. -/
theorem Issued.snapshot {i j : Nat} {seen : List Seen} {token : String} {x : Seen} {id : Int} {row : UserDbo}
    (h : Issued seen token x id row) (hsaw : ApiSaw b calls sched i j seen) :
    ∃ ju jr jn secret auth, jn < j ∧ auth.sub = id ∧ token = Crypto.encode secret auth ∧
      Snapshot b calls sched i ju jr jn auth := by
  obtain ⟨roles, t, secret, hsub, htoken⟩ := h.token
  obtain ⟨turns, hlt, horder, hat⟩ := hsaw.sublist hsub
  obtain _ | @⟨ju, _, _, _, hu, _ | @⟨jr, _, _, _, hr, _ | @⟨jn, _, _, _, hn, _⟩⟩⟩ := hat
  obtain ⟨hfound, hid⟩ := h.finds.userById hu.answer
  rw [hid] at hr
  refine ⟨ju, jr, jn, secret.value, _, hlt jn (by simp), rfl, htoken, ⟨hu.turn, hr.turn, hn.turn⟩, ?_, ?_, ?_, ?_⟩
  · simp only [List.pairwise_cons, List.forall_mem_cons] at horder
    exact ⟨horder.1.1, horder.2.1.1⟩
  · exact ⟨row, hfound, rfl⟩
  · exact congrArg (List.flatMap RoleDbo.permissionList) hr.answer.symm
  · have ht : (stateAt b calls sched jn).world.clock 0 = t := hn.answer
    rw [Claims.generateAccessToken_exp, ht]

/-- A request that has seen its token accepted has had it accepted at a turn. -/
theorem exists_acceptedAt {i n : Nat} {authorization : Option String} {endpoint : ApiEndpoint} {seen : List Seen}
    {auth : Claims} (hcall : calls[i]? = some (.request (.authenticated authorization endpoint)))
    (hsaw : ApiSaw b calls sched i n seen) (h : Accepted authorization seen auth) :
    ∃ j < n, ∃ token t, AcceptedAt b calls sched i j token t auth := by
  obtain ⟨token, row, t, htoken, hsub, hdecode⟩ := h
  obtain ⟨turns, hlt, horder, hat⟩ := hsaw.sublist hsub
  obtain _ | @⟨js, _, _, _, hsecret, _ | @⟨j, _, _, _, hclock, _⟩⟩ := hat
  simp only [List.pairwise_cons, List.forall_mem_cons] at horder
  exact ⟨j, hlt j (by simp), token, t, ⟨authorization, endpoint, hcall, htoken⟩, hclock,
    ⟨js, horder.1.1, row, hsecret, hdecode⟩⟩

/-- Some call found the user of an accepted token, then the roles that the permissions are those of, and then read
    the clock, not more than 900 seconds before the token is accepted. -/
theorem exists_snapshot (hsound : Crypto.Sound) (hunforged : Unforged b calls sched) {i j : Nat} {token : String}
    {t : DateTime} {auth : Claims} (h : AcceptedAt b calls sched i j token t auth) :
    ∃ i' ju jr jn, jn < j ∧ Snapshot b calls sched i' ju jr jn auth ∧
      timestamp t ≤ timestamp ((stateAt b calls sched jn).world.clock 0) + 900 := by
  obtain ⟨i', c, seen, x, id, row, _, hsaw, hissued, _⟩ := (hunforged i j token t auth h).issued
  obtain ⟨ju, jr, jn, secret, claims, hjn, _, rfl, hsnapshot⟩ := hissued.snapshot hsaw
  obtain ⟨js, _, row, _, hdecode⟩ := h.decoded
  obtain rfl := hsound.claims hdecode
  exact ⟨i', ju, jr, jn, hjn, hsnapshot, hsnapshot.clock ▸ hsound.live hdecode⟩

/-- Call `i` is a login, and at turn `j` it finds the user whose password it verifies. -/
structure LoggedInAt (b : Backend) (calls : List Call) (sched : List Nat) (i j : Nat) (dto : LoginDto)
    (row : UserDbo) : Prop where
  request : calls[i]? = some (.request (.login dto))
  found : ApiAnswered b calls sched i j ⟨.selectUserByName dto.username, some row⟩
  password : Crypto.verifyEncoded row.password dto.password = some true

/-- Behind every accepted token there is a login of its user, however often it was renewed. -/
theorem exists_login (hsound : Crypto.Sound) (hunforged : Unforged b calls sched) {j : Nat} {i : Nat}
    {token : String} {t : DateTime} {auth : Claims} (h : AcceptedAt b calls sched i j token t auth) :
    ∃ i₀ j₀ dto row, j₀ < j ∧ LoggedInAt b calls sched i₀ j₀ dto row ∧ row.id = auth.sub := by
  -- the token that a renewal was asked with was accepted at an earlier turn
  induction j using Nat.strongRecOn generalizing i token t auth with
  | ind j ih =>
      obtain ⟨i', c, seen, x, id, row, hc, hsaw, hissued, hvouches⟩ := (hunforged i j token t auth h).issued
      obtain ⟨ju, jr, jn, secret, claims, hjn, hid, rfl, _⟩ := hissued.snapshot hsaw
      obtain ⟨js, _, _, _, hdecode⟩ := h.decoded
      obtain rfl := hsound.claims hdecode
      cases hvouches with
      | login hpassword hfound =>
          obtain ⟨j₀, hj₀, hat⟩ := hsaw.mem hfound
          exact ⟨i', j₀, _, row, hj₀, ⟨hc, hat, hpassword⟩, hid.symm⟩
      | token haccepted =>
          obtain ⟨j', hj', token', t', hat⟩ := exists_acceptedAt hc hsaw haccepted
          obtain ⟨i₀, j₀, dto, row', hj₀, hlogin, hrow⟩ := ih j' hj' hat
          exact ⟨i₀, j₀, dto, row', Nat.lt_trans hj₀ hj', hlogin, hrow.trans hid.symm⟩

/-- **Where an accepted token comes from.** It is a snapshot of the database, fifteen minutes old at most, and its
    user has logged in with their password. -/
theorem provenance (hsound : Crypto.Sound) (hunforged : Unforged b calls sched) {i j : Nat} {token : String}
    {t : DateTime} {auth : Claims} (h : AcceptedAt b calls sched i j token t auth) :
    (∃ i' ju jr jn, jn < j ∧ Snapshot b calls sched i' ju jr jn auth ∧
      timestamp t ≤ timestamp ((stateAt b calls sched jn).world.clock 0) + 900) ∧
    ∃ i₀ j₀ dto row, j₀ < j ∧ LoggedInAt b calls sched i₀ j₀ dto row ∧ row.id = auth.sub :=
  ⟨exists_snapshot hsound hunforged h, exists_login hsound hunforged h⟩

/-! ## What a user has lost -/

/-- The clock does not go back. -/
def Backend.Ticks (b : Backend) : Prop := ∀ m n, m ≤ n → b.world.clock m ≤ b.world.clock n

omit [Crypto] in
theorem Backend.Later.ticks {b b' : Backend} (h : b.Later b') (hticks : b.Ticks) :
    b'.Ticks ∧ b.world.clock 0 ≤ b'.world.clock 0 := by
  obtain ⟨c, hc⟩ := h
  refine ⟨fun m n hmn => ?_, ?_⟩
  · rw [hc, hc]
    exact hticks _ _ (by omega)
  · rw [hc]
    exact hticks _ _ (by omega)

theorem stateAt_later {j j' : Nat} (h : j ≤ j') : (stateAt b calls sched j).Later (stateAt b calls sched j') :=
  Pool.before_stable (stateAt b calls sched j).Later (fun s _ hlater => hlater.trans (s.exec_later _)) h (.refl _)

omit [Platform] [Crypto] in
theorem timestamp_le {t t' : DateTime} (h : t ≤ t') : timestamp t ≤ timestamp t' :=
  Int.ediv_le_ediv (by decide) h

/-- The clock is read later at a later turn. -/
theorem clock_le (hticks : b.Ticks) {j j' : Nat} (h : j ≤ j') :
    timestamp ((stateAt b calls sched j).world.clock 0) ≤ timestamp ((stateAt b calls sched j').world.clock 0) := by
  have hj : (stateAt b calls sched j).Ticks := ((stateAt_later (Nat.zero_le j)).ticks hticks).1
  exact timestamp_le ((stateAt_later h).ticks hj).2

/-- A token is accepted for fifteen minutes after a turn at most, if the clock was not read for it later. -/
theorem lapses (hticks : b.Ticks) (d : Nat) {t : DateTime} {jn : Nat}
    (hlive : timestamp t ≤ timestamp ((stateAt b calls sched jn).world.clock 0) + 900) :
    timestamp t ≤ timestamp ((stateAt b calls sched d).world.clock 0) + 900 ∨ d ≤ jn := by
  rcases Nat.le_total d jn with hlate | hbefore
  · exact .inr hlate
  · exact .inl (Int.le_trans hlive (Int.add_le_add_right (clock_le hticks hbefore) 900))

/-- The stored roles of the user grant the permission. -/
def Accounts.Grants (db : Accounts) (id : Int) (permission : Permission) : Prop :=
  (⟨(db.rolesOf id).flatMap RoleDbo.permissionList⟩ : AuthToken).Grants permission

/-- **Taking a permission away.** Once the roles of a user do not grant a permission, a token that does is accepted
    for fifteen minutes at most, if it was not in the making when they stopped to. -/
theorem revoked_permission (hsound : Crypto.Sound) (hunforged : Unforged b calls sched) (hticks : b.Ticks)
    {id : Int} {permission : Permission} {d : Nat}
    (hrevoked : ∀ j, d ≤ j → ¬ (stateAt b calls sched j).accounts.Grants id permission)
    {i j : Nat} {token : String} {t : DateTime} {auth : Claims} (h : AcceptedAt b calls sched i j token t auth)
    (hid : auth.sub = id) (hgrants : auth.Grants permission) :
    timestamp t ≤ timestamp ((stateAt b calls sched d).world.clock 0) + 900 ∨
      ∃ i' ju jr jn, Snapshot b calls sched i' ju jr jn auth ∧ jr < d ∧ d ≤ jn := by
  obtain ⟨i', ju, jr, jn, hjn, hsnapshot, hlive⟩ := exists_snapshot hsound hunforged h
  have hjr : jr < d := by
    by_contra hlate
    refine hrevoked jr (Nat.le_of_not_lt hlate) ?_
    unfold Accounts.Grants
    rw [← hid, ← hsnapshot.permissions]
    exact hgrants
  exact (lapses hticks d hlive).imp_right fun hlate => ⟨i', ju, jr, jn, hsnapshot, hjr, hlate⟩

theorem gone_stable {id : Int} {d j : Nat} (hd : d ≤ j)
    (h : (stateAt b calls sched d).accounts.toAccountTables.Gone id) :
    (stateAt b calls sched j).accounts.toAccountTables.Gone id :=
  Pool.before_stable (fun w : Backend => w.accounts.toAccountTables.Gone id)
    (fun s w hgone => (s.accountsTurn w).gone hgone) hd h

omit [Crypto] in
/-- Nobody's roles grant nothing. -/
theorem AccountTables.Gone.not_grants {db : Accounts} {id : Int} (h : db.toAccountTables.Gone id)
    (permission : Permission) : ¬ db.Grants id permission := by
  have hroles : db.rolesOf id = [] := by
    unfold AccountTables.rolesOf
    rw [List.filter_eq_nil_iff]
    intro role _ hholds
    exact h.2 (db.schema.userRef _ (of_decide_eq_true hholds))
  unfold Accounts.Grants
  rw [hroles]
  exact fun hgrants => nomatch hgrants

/-- **Deleting a user.** Once a user is deleted, their token is accepted for fifteen minutes at most, if it was not
    in the making when they were. -/
theorem deleted_user (hsound : Crypto.Sound) (hunforged : Unforged b calls sched) (hticks : b.Ticks)
    {id : Int} {d : Nat} (hgone : (stateAt b calls sched d).accounts.toAccountTables.Gone id)
    {i j : Nat} {token : String} {t : DateTime} {auth : Claims} (h : AcceptedAt b calls sched i j token t auth)
    (hid : auth.sub = id) :
    timestamp t ≤ timestamp ((stateAt b calls sched d).world.clock 0) + 900 ∨
      ∃ i' ju jr jn, Snapshot b calls sched i' ju jr jn auth ∧ ju < d ∧ d ≤ jn := by
  obtain ⟨i', ju, jr, jn, hjn, hsnapshot, hlive⟩ := exists_snapshot hsound hunforged h
  have hju : ju < d := by
    by_contra hlate
    obtain ⟨row, hrow, _⟩ := hsnapshot.user
    have hrowId : row.id = auth.sub := by simpa using List.find?_some hrow
    refine (gone_stable (Nat.le_of_not_lt hlate) hgone).2 ?_
    rw [← hid, ← hrowId]
    exact List.mem_map_of_mem (List.mem_of_find?_eq_some hrow)
  exact (lapses hticks d hlive).imp_right fun hlate => ⟨i', ju, jr, jn, hsnapshot, hju, hlate⟩

end

section

attribute [local instance] Reference.platform

theorem Reference.of_decode {issued claims : Claims} {text secret jwt : String} {now : Int}
    (h : (Reference.cryptoOf issued text).decode secret now jwt = some claims) :
    jwt = text ∧ now ≤ issued.exp ∧ claims = issued := by
  have hite : (if secret = Reference.secret ∧ jwt = text ∧ now ≤ issued.exp then some issued else none) =
      some claims := h
  rw [Option.ite_none_right_eq_some] at hite
  exact ⟨hite.1.2.1, hite.1.2.2, (Option.some.inj hite.2).symm⟩

theorem Reference.cryptoOf_sound (issued : Claims) {text : String} (htext : text ≠ "") :
    @Crypto.Sound (Reference.cryptoOf issued text) := by
  let := Reference.cryptoOf issued text
  refine ⟨fun {secret secret' now claims claims'} h => ?_, fun h => ?_⟩
  · obtain ⟨hencode, _, rfl⟩ := Reference.of_decode h
    have hite : (if secret = Reference.secret ∧ claims = claims' then text else "") = text := hencode
    split at hite
    · next hclaims => exact hclaims.2.symm
    · exact absurd hite.symm htext
  · obtain ⟨_, hlive, rfl⟩ := Reference.of_decode h
    exact hlive

/-- A run that begins with a login which returns the one token that there is. -/
theorem Reference.unforged {issued : Claims} {text : String} {b : Backend} {calls : List Call} {sched : List Nat}
    {n : Nat} {dto : LoginDto} (hlogin : calls[0]? = some (.request (.login dto)))
    (hturns : ∀ j < n, sched[j]? = some 0)
    (hreturned : @ReturnedBefore _ (Reference.cryptoOf issued text) b calls sched n text) :
    @Unforged _ (Reference.cryptoOf issued text) b calls sched := by
  let := Reference.cryptoOf issued text
  intro i j token t auth h
  obtain ⟨js, _, row, _, hdecode⟩ := h.decoded
  obtain ⟨rfl, _, _⟩ := Reference.of_decode hdecode
  rcases Nat.lt_or_ge j n with hearly | hj
  · obtain rfl := Option.some.inj ((hturns j hearly).symm.trans h.clock.turn)
    obtain ⟨authorization, endpoint, hcall, _⟩ := h.request
    exact nomatch hlogin.symm.trans hcall
  · exact hreturned.mono hj

attribute [local instance] Reference.crypto

theorem Reference.crypto_sound : Crypto.Sound := Reference.cryptoOf_sound _ (by simp [Reference.token])

/-- The administrator logs in, deletes themselves, and then lists the users. -/
def deletionCalls : List Call :=
  [.request (.login ⟨"root", "password"⟩),
    .request (.authenticated (some (headerPrefix ++ Reference.token)) (.deleteUserById 1)),
    .request (.authenticated (some (headerPrefix ++ Reference.token)) .getAllUsers)]

/-- One after the other, up to the acceptance of the last token. -/
def deletionSched : List Nat := [0, 0, 0, 0, 0, 0, 1, 1, 1, 1, 1, 2, 2]

set_option maxRecDepth 20000 in
theorem deletion_returned : ReturnedBefore sessionBackend deletionCalls deletionSched 6 Reference.token :=
  ⟨0, ⟨Reference.token⟩, rfl, rfl⟩

theorem deletion_unforged : Unforged sessionBackend deletionCalls deletionSched :=
  Reference.unforged rfl (by decide) deletion_returned

set_option maxRecDepth 20000 in
theorem deletion_accepted : AcceptedAt sessionBackend deletionCalls deletionSched 2 12 Reference.token
    1600000004000000000 Reference.claims where
  request := ⟨_, _, rfl, extractTokenFromHeader_append _⟩
  clock := by
    unfold ApiAnswered apiPool deletionCalls
    simp only [List.map_cons, Call.program, authenticated_eq]
    exact ⟨rfl, ⟨_, rfl⟩, rfl⟩
  decoded := by
    unfold ApiAnswered apiPool deletionCalls
    simp only [List.map_cons, Call.program, authenticated_eq]
    exact ⟨11, by decide, ⟨jwtSecret, Reference.secret⟩, ⟨rfl, ⟨_, rfl⟩, rfl⟩, rfl⟩

set_option maxRecDepth 20000 in
theorem deletion_gone : (stateAt sessionBackend deletionCalls deletionSched 11).accounts.toAccountTables.Gone 1 := by
  unfold stateAt poolAt apiPool deletionCalls
  simp only [List.map_cons, Call.program, authenticated_eq]
  exact ⟨by decide, by decide⟩

theorem deletion_ticks : sessionBackend.Ticks := by
  intro m n hmn
  show (1600000000 + (m : Int)) * 1000000000 ≤ (1600000000 + (n : Int)) * 1000000000
  omega

theorem provenance_deletion :
    (∃ i ju jr jn, jn < 12 ∧ Snapshot sessionBackend deletionCalls deletionSched i ju jr jn Reference.claims ∧
      timestamp 1600000004000000000 ≤
        timestamp ((stateAt sessionBackend deletionCalls deletionSched jn).world.clock 0) + 900) ∧
    ∃ i j dto row, j < 12 ∧ LoggedInAt sessionBackend deletionCalls deletionSched i j dto row ∧ row.id = 1 :=
  provenance Reference.crypto_sound deletion_unforged deletion_accepted

theorem revoked_permission_deletion :
    timestamp 1600000004000000000 ≤
        timestamp ((stateAt sessionBackend deletionCalls deletionSched 11).world.clock 0) + 900 ∨
      ∃ i ju jr jn, Snapshot sessionBackend deletionCalls deletionSched i ju jr jn Reference.claims ∧
        jr < 11 ∧ 11 ≤ jn :=
  revoked_permission Reference.crypto_sound deletion_unforged deletion_ticks
    (fun _ hj => (gone_stable hj deletion_gone).not_grants .roomList) deletion_accepted rfl rfl

theorem deleted_user_deletion :
    timestamp 1600000004000000000 ≤
        timestamp ((stateAt sessionBackend deletionCalls deletionSched 11).world.clock 0) + 900 ∨
      ∃ i ju jr jn, Snapshot sessionBackend deletionCalls deletionSched i ju jr jn Reference.claims ∧
        ju < 11 ∧ 11 ≤ jn :=
  deleted_user Reference.crypto_sound deletion_unforged deletion_ticks deletion_gone deletion_accepted rfl

end

end MudController
