import MudController.Access.Origin

/-!
# `Access.Lifetime` — how long a session lasts

A token is decoded under the secret that is stored when it is brought. So whoever was let in stays so until the token
expires, whatever else goes on, as long as nobody changes the stored secret (`session_lasts`): that takes a token
with the permission to, or a job.
-/

namespace MudController

open Logic

/-- What `jsonwebtoken` documents of tokens under this validation: of the times, only the expiration counts. -/
def Crypto.Lasting [Crypto] : Prop :=
  ∀ {secret token : String} {now now' : Int} {claims : Claims}, decode secret now token = some claims →
    now' ≤ claims.exp → decode secret now' token = some claims

section

variable [Platform]

/-! ## The stored settings -/

/-- The statement stores or deletes the setting of the server. -/
inductive BackendStmt.WritesConfig (key : String) : BackendStmt → Prop where
  | upsert (value : String) : WritesConfig key (.world (.upsertConfig key value))
  | delete : WritesConfig key (.world (.deleteConfig key))

theorem Tables.configRow_deleteConfig_other (t : Tables) {key other : String} (h : key ≠ other) :
    (t.deleteConfig other).configRow key = t.configRow key := by
  unfold Tables.configRow Tables.deleteConfig
  rw [List.find?_filter]
  congr 1
  funext row
  by_cases hrow : row.key = key
  · simp [hrow, h]
  · simp [hrow]

/-- A statement of the main world leaves every setting alone that it does not name. -/
theorem Stmt.configRow_kept (s : Stmt) (w : World) (key : String) :
    (s.exec w).2.db.configRow key = w.db.configRow key ∨ BackendStmt.WritesConfig key (.world s) := by
  cases s with
  | upsertConfig other value =>
      by_cases h : key = other
      · subst h
        exact .inr (.upsert value)
      · have hother : (w.db.upsertConfig other value).configRow key = w.db.configRow key :=
          @find?_upsertRow_other Config String _ Config.key ⟨other, value⟩ w.db.config key h
        exact .inl (World.write_kept (·.configRow key) hother _)
  | deleteConfig other =>
      by_cases h : key = other
      · subst h
        exact .inr .delete
      · exact .inl (World.write_kept (·.configRow key) (w.db.configRow_deleteConfig_other h) _)
  | insertDevice row | updateDevice row | deleteDevice id | clearIpv4 addr | clearIpv6 addr | insertMud row
  | upsertMud row | deleteMud url => exact .inl (World.write_kept (·.configRow key) rfl _)
  | _ => exact .inl rfl

/-- **One statement, on the settings of the server.** -/
theorem BackendStmt.configRow_kept (s : BackendStmt) (b : Backend) (key : String) :
    (s.exec b).2.world.db.configRow key = b.world.db.configRow key ∨ s.WritesConfig key := by
  cases s with
  | world s => exact s.configRow_kept b.world key
  | upsertUserConfig config =>
      left
      dsimp only [BackendStmt.exec]
      unfold Backend.upsertUserConfig
      split <;> rfl
  | insertRoom name color | updateRoom room | deleteRoom name =>
      left
      dsimp only [BackendStmt.exec]
      unfold Backend.writeRooms
      split <;> rfl
  | _ => exact .inl rfl

/-! ## Who changes the secret -/

variable [Crypto] {b : Backend} {calls : List Call} {sched : List Nat}

/-- At turn `k` call `i` stores or deletes the secret: for a request with a token that grants it, or as a job. -/
inductive ChangesSecret (b : Backend) (calls : List Call) (sched : List Nat) (i k : Nat) : Prop where
  | stored {auth : Claims} {endpoint : ApiEndpoint} {value : String}
      (hasked : AskedAt b calls sched i k auth endpoint (.world (.upsertConfig jwtSecret value)))
      (hgrants : auth.Grants .configWrite)
  | deleted {auth : Claims} {endpoint : ApiEndpoint}
      (hasked : AskedAt b calls sched i k auth endpoint (.world (.deleteConfig jwtSecret)))
      (hgrants : auth.Grants .configDelete)
  | job {p : Action Unit} {x : Seen} (hjob : calls[i]? = some (.background p))
      (hx : ApiAnswered b calls sched i k x) (hwrites : x.stmt.WritesConfig jwtSecret)

/-- Whatever writes the secret is a change of it that somebody may make. -/
theorem changesSecret {i k : Nat} {x : Seen} (hx : ApiAnswered b calls sched i k x)
    (hwrites : x.stmt.WritesConfig jwtSecret) : ChangesSecret b calls sched i k := by
  obtain ⟨s, answer⟩ := x
  obtain ⟨p, hp⟩ := hx.next
  obtain ⟨c, hc⟩ := exists_call hp
  obtain ⟨seen, hsaw, hentitled⟩ := mediation b calls sched hc hx
  dsimp only at hwrites hentitled
  cases c with
  | background p => exact .job hc hx hwrites
  | contact ipAddr certId =>
      cases hwrites with
      | upsert value => cases hentitled
      | delete => cases hentitled
  | request r =>
      have hrequest : r.Entitled seen s := hentitled
      cases hrequest with
      | anyone hpublic => cases hwrites <;> exact hpublic.elim
      | signup hopen hvalid hhash => cases hwrites
      | promote hopen hfirst => cases hwrites
      | login hfound hpassword => cases hwrites
      | token haccepted hlicence =>
          rcases hlicence with hlicence | ⟨_, id, rfl, _⟩
          · have hasked := askedAt hc hsaw haccepted hlicence hx
            cases hwrites with
            | upsert value =>
                rcases hlicence with hgrants | ⟨hkey, _⟩
                · exact .stored hasked hgrants
                · exact absurd hkey (by decide)
            | delete => exact .deleted hasked hlicence
          · cases hwrites

/-- **A session lasts.** Whoever was let in with a token is let in with it again, in every interleaving, until it
    expires: a later request that brings the token finds the secret under which it was accepted, and accepts it at
    every time up to its expiration. Otherwise somebody who may, or a job, has changed the secret in between. -/
theorem session_lasts (hlasting : Crypto.Lasting) {i j : Nat} {token : String} {t : DateTime} {auth : Claims}
    (h : AcceptedAt b calls sched i j token t auth) {i' js' : Nat} (hj : j ≤ js') {authorization : Option String}
    {endpoint : ApiEndpoint} (hrequest : calls[i']? = some (.request (.authenticated authorization endpoint)))
    (htoken : authorization.bind extractTokenFromHeader = some token) {found : Option Config}
    (hlookup : ApiAnswered b calls sched i' js' ⟨.world (.selectConfig jwtSecret), found⟩) :
    ∃ js < j, ∃ row, ApiAnswered b calls sched i js (.secret row) ∧
      ((found = some row ∧ ∀ j' t', js' < j' → ApiAnswered b calls sched i' j' (.now t') →
        timestamp t' ≤ auth.exp → AcceptedAt b calls sched i' j' token t' auth) ∨
      ∃ i₀ k, js ≤ k ∧ k < js' ∧ ChangesSecret b calls sched i₀ k) := by
  obtain ⟨js, hjs, row, hsecret, hdecode⟩ := h.decoded
  refine ⟨js, hjs, row, hsecret, ?_⟩
  have hstored : (stateAt b calls sched js).world.db.configRow jwtSecret = some row := hsecret.answer
  rcases Pool.exists_until (fun w : Backend => w.world.db.configRow jwtSecret = some row) (by omega : js ≤ js')
    hstored with hheld | ⟨k, i₀, x, hk, hlt, hx, hbefore, hended⟩
  · left
    have hanswer : (stateAt b calls sched js').world.db.configRow jwtSecret = found := hlookup.answer
    obtain rfl : found = some row := hanswer.symm.trans (hheld js' (by omega) (Nat.le_refl js'))
    refine ⟨rfl, fun j' t' hj' hclock hlive => ⟨⟨authorization, endpoint, hrequest, htoken⟩, hclock, ?_⟩⟩
    exact ⟨js', hj', row, hlookup, hlasting hdecode hlive⟩
  · right
    have hwrites : x.stmt.WritesConfig jwtSecret := by
      refine (x.stmt.configRow_kept (stateAt b calls sched k) jwtSecret).resolve_left fun hkept => hended ?_
      rw [hx.after]
      exact hkept.trans (hbefore k hk (Nat.le_refl k))
    exact ⟨i₀, k, hk, hlt, changesSecret hx hwrites⟩

end

section

attribute [local instance] Reference.platform Reference.crypto

theorem Reference.crypto_lasting : Crypto.Lasting := by
  intro secret token now now' claims hdecode hlive
  have hite : (if secret = Reference.secret ∧ token = Reference.token ∧ now ≤ Reference.claims.exp
      then some Reference.claims else none) = some claims := hdecode
  rw [Option.ite_none_right_eq_some] at hite
  obtain ⟨⟨rfl, rfl, _⟩, hclaims⟩ := hite
  obtain rfl := Option.some.inj hclaims
  exact if_pos ⟨rfl, rfl, hlive⟩

set_option maxRecDepth 20000 in
/-- The administrator is let in to delete themselves. -/
theorem deletion_entered : AcceptedAt sessionBackend deletionCalls deletionSched 1 7 Reference.token
    1600000002000000000 Reference.claims where
  request := ⟨_, _, rfl, extractTokenFromHeader_append _⟩
  clock := by
    unfold ApiAnswered apiPool deletionCalls
    simp only [List.map_cons, Call.program, authenticated_eq]
    exact ⟨rfl, ⟨_, rfl⟩, rfl⟩
  decoded := by
    unfold ApiAnswered apiPool deletionCalls
    simp only [List.map_cons, Call.program, authenticated_eq]
    exact ⟨6, by decide, ⟨jwtSecret, Reference.secret⟩, ⟨rfl, ⟨_, rfl⟩, rfl⟩, rfl⟩

set_option maxRecDepth 20000 in
/-- After they are gone, the secret is looked up for their token again. -/
theorem deletion_lookup : ApiAnswered sessionBackend deletionCalls deletionSched 2 11
    (.secret ⟨jwtSecret, Reference.secret⟩) := by
  unfold ApiAnswered apiPool deletionCalls
  simp only [List.map_cons, Call.program, authenticated_eq]
  exact ⟨rfl, ⟨_, rfl⟩, rfl⟩

set_option maxRecDepth 20000 in
theorem session_lasts_deletion : ∃ js < 7, ∃ row,
    ApiAnswered sessionBackend deletionCalls deletionSched 1 js (.secret row) ∧
      ((some ⟨jwtSecret, Reference.secret⟩ = some row ∧ ∀ j' t', 11 < j' →
        ApiAnswered sessionBackend deletionCalls deletionSched 2 j' (.now t') →
          timestamp t' ≤ Reference.claims.exp →
            AcceptedAt sessionBackend deletionCalls deletionSched 2 j' Reference.token t' Reference.claims) ∨
      ∃ i₀ k, js ≤ k ∧ k < 11 ∧ ChangesSecret sessionBackend deletionCalls deletionSched i₀ k) := by
  have hcall : deletionCalls[2]? = some (.request (.authenticated (some (headerPrefix ++ Reference.token))
      .getAllUsers)) := rfl
  exact session_lasts Reference.crypto_lasting deletion_entered (by decide) hcall (extractTokenFromHeader_append _)
    deletion_lookup

end

end MudController
