import MudController.Access.Licence

/-!
# `Access.Sessions` — how a token is issued and accepted

What a call has seen when it lets a request through (`fromRequest`) or returns a token (`login`,
`refresh_token`), whatever runs beside it. No other call returns one (`Call.token_path`).
-/

namespace MudController

open Logic

variable [Platform]

/-- The lookup of the stored secret. -/
abbrev Seen.secret (row : Config) : Seen := ⟨.world (.selectConfig jwtSecret), some row⟩

/-- A reading of the clock. -/
abbrev Seen.now (t : DateTime) : Seen := ⟨.world .now, t⟩

/-- The lookup of the roles of a user. -/
abbrev Seen.roles (userId : Int) (roles : List RoleDbo) : Seen := ⟨.account (.selectRolesOf userId), roles⟩

/-- A lookup that has found the user `id`, by name or by id. -/
inductive Seen.FindsUser (user : UserDbo) : Seen → Int → Prop where
  | byUsername (username : String) : FindsUser user ⟨.selectUserByName username, some user⟩ user.id
  | byId (id : Int) : FindsUser user ⟨.account (.selectUserById id), some user⟩ id

/-! ## Services -/

section

variable {α : Type} {seen : List Seen}

theorem BackendAction.orElse_path {p : BackendAction α} {status : Nat} {message : Option String} {a : α}
    (h : (BackendAction.orElse p status message).Path seen (.done (.ok a))) : p.Path seen (.done (.ok a)) := by
  obtain ⟨r, before, after, rfl, hp, hrest⟩ := h.of_bind_ok
  cases r with
  | error e => exact nomatch hrest.of_done.2
  | ok a' =>
      obtain ⟨rfl, ha⟩ := hrest.of_done
      obtain rfl := Except.ok.inj (Prog.done.inj ha)
      rw [List.append_nil]
      exact hp.of_attempt

theorem withRoles_path {row : UserDbo} {user : User}
    (h : (BackendAction.ofAccounts (UserService.withRoles row)).Path seen (.done (.ok user))) :
    ∃ roles, seen = [.roles row.id roles] ∧ user = UserService.ofRoles row roles := by
  obtain ⟨roles, rest, rfl, hrest⟩ := Prog.Path.of_stmt h
  obtain ⟨rfl, huser⟩ := hrest.of_done
  exact ⟨roles, rfl, Except.ok.inj (Prog.done.inj huser)⟩

/-- A user who was found, with the roles that were found for them. -/
theorem findByUsername_path {username : String} {user : User}
    (h : (UserService.findByUsername username).Path seen (.done (.ok user))) :
    ∃ row roles, seen = [⟨.selectUserByName username, some row⟩, .roles row.id roles] ∧
      user = UserService.ofRoles row roles := by
  obtain ⟨answer, rest, rfl, hrest⟩ := Prog.Path.of_stmt h
  cases answer with
  | none => exact nomatch hrest.of_done.2
  | some row =>
      obtain ⟨roles, rfl, huser⟩ := withRoles_path hrest
      exact ⟨row, roles, rfl, huser⟩

theorem findById_path {id : Int} {user : User}
    (h : (BackendAction.ofAccounts (UserService.findById id)).Path seen (.done (.ok user))) :
    ∃ row roles, seen = [⟨.account (.selectUserById id), some row⟩, .roles row.id roles] ∧
      user = UserService.ofRoles row roles := by
  obtain ⟨answer, rest, rfl, hrest⟩ := Prog.Path.of_stmt h
  cases answer with
  | none => exact nomatch hrest.of_done.2
  | some row =>
      obtain ⟨roles, rfl, huser⟩ := withRoles_path hrest
      exact ⟨row, roles, rfl, huser⟩

end

/-! ## Letting a request through -/

variable [Crypto]

/-- `from_request` after the token was accepted. -/
def letThrough (auth : Claims) : BackendAction Claims :=
  Prog.stmt (BackendStmt.world .now) fun t => Prog.stmt (BackendStmt.updateLastInteraction auth.sub t) fun
    | .ok _ => Prog.done (.ok auth)
    | .error e => Prog.done (.error (.databaseError e))

/-- `from_request` about to decode a token under a secret. -/
def decoding (token secret : String) : BackendAction Claims :=
  Prog.stmt (BackendStmt.world .now) fun t =>
    match Crypto.decode secret (timestamp t) token with
    | some auth => letThrough auth
    | none => Prog.done (.error (.responseError 401 (some "Unauthorized")))

/-- `from_request` with the stored secret. -/
def withSecret (token : String) : Option Config → BackendAction Claims
  | some row => if Crypto.isBase64Secret row.value then decoding token row.value else Prog.fail .panicked
  | none => Prog.fail .panicked

/-- `from_request`, statement by statement. -/
theorem fromRequest_eq (authorization : Option String) :
    fromRequest authorization =
      match authorization.bind extractTokenFromHeader with
      | some token => Prog.stmt (BackendStmt.world (.selectConfig jwtSecret)) (withSecret token)
      | none => Prog.done (.error (.responseError 401 (some "Unauthorized"))) := by
  unfold fromRequest extractAuthFromRequest
  cases authorization.bind extractTokenFromHeader with
  | none => rfl
  | some token =>
      dsimp only
      unfold decodeToken
      rw [expectSecret_eq]
      refine congrArg (Prog.stmt (BackendStmt.world (.selectConfig jwtSecret))) (funext fun found => ?_)
      cases found with
      | none => rfl
      | some row =>
          unfold withSecret
          dsimp only
          split
          · refine congrArg (Prog.stmt (BackendStmt.world .now)) (funext fun t => ?_)
            change Prog.bind (Prog.done (.ok (Crypto.decode row.value (timestamp t) token))) _ = _
            cases Crypto.decode row.value (timestamp t) token with
            | none => rfl
            | some auth =>
                refine congrArg (Prog.stmt (BackendStmt.world .now)) (funext fun t => ?_)
                refine congrArg (Prog.stmt (BackendStmt.updateLastInteraction auth.sub t)) (funext fun n => ?_)
                cases n <;> rfl
          · rfl

/-- A request with a token, once the token is read. -/
theorem authenticated_eq (token : String) (endpoint : ApiEndpoint) :
    (ApiRequest.authenticated (some (headerPrefix ++ token)) endpoint).call =
      Prog.stmt (BackendStmt.world (.selectConfig jwtSecret)) (withSecret token) >>=
        fun auth => endpoint.handler auth := by
  have hrequest : fromRequest (some (headerPrefix ++ token)) =
      Prog.stmt (BackendStmt.world (.selectConfig jwtSecret)) (withSecret token) := by
    rw [fromRequest_eq, Option.bind_some, extractTokenFromHeader_append]
  rw [← hrequest]
  rfl

/-- The token of the request is decoded under the secret that was looked up, at the time that was read. -/
def Accepted (authorization : Option String) (seen : List Seen) (auth : Claims) : Prop :=
  ∃ token row t, authorization.bind extractTokenFromHeader = some token ∧ [.secret row, .now t].Sublist seen ∧
    Crypto.decode row.value (timestamp t) token = some auth

theorem Accepted.append {authorization : Option String} {seen : List Seen} {auth : Claims}
    (h : Accepted authorization seen auth) (more : List Seen) : Accepted authorization (seen ++ more) auth := by
  obtain ⟨token, row, t, htoken, hsub, hdecode⟩ := h
  exact ⟨token, row, t, htoken, hsub.trans (List.sublist_append_left seen more), hdecode⟩

/-- A request that was let through has an accepted token. -/
theorem fromRequest_path {authorization : Option String} {seen : List Seen} {auth : Claims}
    (h : (fromRequest authorization).Path seen (.done (.ok auth))) : Accepted authorization seen auth := by
  rw [fromRequest_eq] at h
  cases htoken : authorization.bind extractTokenFromHeader with
  | none =>
      rw [htoken] at h
      exact nomatch h.of_done.2
  | some token =>
      rw [htoken] at h
      obtain ⟨found, rest, rfl, hrest⟩ := h.of_stmt
      cases found with
      | none => exact nomatch hrest.of_done.2
      | some row =>
          unfold withSecret at hrest
          dsimp only at hrest
          split at hrest
          · obtain ⟨t, after, rfl, hafter⟩ := hrest.of_stmt
            cases hdecode : Crypto.decode row.value (timestamp t) token with
            | none =>
                rw [hdecode] at hafter
                exact nomatch hafter.of_done.2
            | some claims =>
                rw [hdecode] at hafter
                obtain ⟨t', after, rfl, hstamp⟩ := hafter.of_stmt
                obtain ⟨n, after, rfl, hdone⟩ := hstamp.of_stmt
                cases n with
                | error e => exact nomatch hdone.of_done.2
                | ok n =>
                    obtain rfl := Except.ok.inj (Prog.done.inj hdone.of_done.2)
                    exact ⟨token, row, t, htoken, by simp, hdecode⟩
          · exact nomatch hrest.of_done.2

/-! ## Returning a token -/

theorem encodeToken_path {claims : Claims} {seen : List Seen} {token : String}
    (h : (encodeToken claims).Path seen (.done (.ok token))) :
    ∃ row, seen = [.secret row] ∧ token = Crypto.encode row.value claims := by
  unfold encodeToken at h
  rw [expectSecret_eq] at h
  obtain ⟨found, rest, rfl, hrest⟩ := Prog.Path.of_stmt h
  cases found with
  | none => exact nomatch hrest.of_done.2
  | some row =>
      dsimp only at hrest
      split at hrest
      · obtain ⟨rfl, htoken⟩ := hrest.of_done
        exact ⟨row, rfl, Except.ok.inj (Prog.done.inj htoken)⟩
      · exact nomatch hrest.of_done.2

/-- The time is read and a token for it is returned. -/
theorem generate_path {id : Int} {username : String} {permissions : List String} {seen : List Seen} {dto : TokenDto}
    (h : Prog.Path (do
      let timeNow ← BackendAction.now
      let token ← encodeToken (.generateAccessToken timeNow id username permissions)
      return (⟨token⟩ : TokenDto)) seen (.done (.ok dto))) :
    ∃ t row, seen = [.now t, .secret row] ∧
      dto.token = Crypto.encode row.value (.generateAccessToken t id username permissions) := by
  obtain ⟨t, rest, rfl, hrest⟩ := Prog.Path.of_stmt h
  change Prog.Path (encodeToken (.generateAccessToken t id username permissions) >>= _) rest _ at hrest
  obtain ⟨token, before, after, rfl, hbefore, hafter⟩ := hrest.of_bind_ok
  obtain ⟨row, rfl, htoken⟩ := encodeToken_path hbefore
  obtain ⟨rfl, hdto⟩ := hafter.of_done
  obtain rfl := Except.ok.inj (Prog.done.inj hdto)
  exact ⟨t, row, rfl, htoken⟩

omit [Platform] in
/-- A password that was verified. -/
theorem verified_eq {user : User} {password : String} (h : user.verifyPassword password = .ok ()) :
    Crypto.verifyEncoded user.password password = some true := by
  unfold User.verifyPassword at h
  split at h
  · cases h
  · next hverify => exact hverify
  · cases h

/-- The token of the user `id` was made of the row of the user, found by `x`, their roles, the clock and the secret,
    looked up in this order. -/
structure Issued (seen : List Seen) (token : String) (x : Seen) (id : Int) (row : UserDbo) : Prop where
  finds : Seen.FindsUser row x id
  token : ∃ roles t secret, [x, .roles row.id roles, .now t, .secret secret].Sublist seen ∧
    token = Crypto.encode secret.value
      (.generateAccessToken t id row.username (roles.flatMap RoleDbo.permissionList))

theorem Issued.append_left {seen : List Seen} {token : String} {x : Seen} {id : Int} {row : UserDbo}
    (h : Issued seen token x id row) (more : List Seen) : Issued (more ++ seen) token x id row := by
  obtain ⟨roles, t, secret, hsub, htoken⟩ := h.token
  exact ⟨h.finds, roles, t, secret, hsub.trans (List.sublist_append_right more seen), htoken⟩

theorem login_path {loginDto : LoginDto} {seen : List Seen} {dto : TokenDto}
    (h : (UsersController.login loginDto).Path seen (.done (.ok dto))) :
    ∃ row, Crypto.verifyEncoded row.password loginDto.password = some true ∧
      Issued seen dto.token ⟨.selectUserByName loginDto.username, some row⟩ row.id row := by
  obtain ⟨_, pre, rest, rfl, _, hrest⟩ := Prog.Path.of_bind_ok h
  obtain ⟨user, before, rest, rfl, hfind, hrest⟩ := hrest.of_bind_ok
  obtain ⟨row, roles, rfl, rfl⟩ := findByUsername_path (BackendAction.orElse_path hfind)
  split at hrest
  · exact nomatch hrest.of_done.2
  · next hverify =>
      obtain ⟨_, mid, rest, rfl, _, hrest⟩ := hrest.of_bind_ok
      obtain ⟨t, secret, rfl, htoken⟩ := generate_path hrest
      refine ⟨row, verified_eq hverify, .byUsername loginDto.username, roles, t, secret, ?_, htoken⟩
      have hlast : [Seen.now t, Seen.secret secret].Sublist (mid ++ [Seen.now t, Seen.secret secret]) :=
        List.sublist_append_right _ _
      exact List.sublist_append_of_sublist_right ((hlast.cons_cons _).cons_cons _)

theorem refreshToken_path {auth : Claims} {seen : List Seen} {dto : TokenDto}
    (h : (UsersController.refreshToken auth).Path seen (.done (.ok dto))) :
    ∃ row, Issued seen dto.token ⟨.account (.selectUserById auth.sub), some row⟩ auth.sub row := by
  obtain ⟨user, before, rest, rfl, hfind, hrest⟩ := Prog.Path.of_bind_ok h
  obtain ⟨row, roles, rfl, rfl⟩ := findById_path (BackendAction.orElse_path hfind)
  obtain ⟨t, secret, rfl, htoken⟩ := generate_path hrest
  exact ⟨row, .byId auth.sub, roles, t, secret, .refl _, htoken⟩

omit [Crypto] in
theorem respond_path {α : Type} {p : BackendAction α} {seen : List Seen} {r : ApiResponse}
    (h : (respond p).Path seen (.done (.ok r))) : r = .other := by
  obtain ⟨_, _, _, _, _, hrest⟩ := Prog.Path.of_bind_ok h
  exact (Except.ok.inj (Prog.done.inj hrest.of_done.2))

theorem ApiEndpoint.handler_path {auth : Claims} {endpoint : ApiEndpoint} {seen : List Seen} {dto : TokenDto}
    (h : (endpoint.handler auth).Path seen (.done (.ok (.token dto)))) :
    ∃ row, Issued seen dto.token ⟨.account (.selectUserById auth.sub), some row⟩ auth.sub row := by
  cases endpoint with
  | refreshToken =>
      obtain ⟨dto', before, rest, rfl, hrefresh, hrest⟩ := Prog.Path.of_bind_ok h
      obtain ⟨rfl, hdto⟩ := hrest.of_done
      obtain rfl := ApiResponse.token.inj (Except.ok.inj (Prog.done.inj hdto))
      rw [List.append_nil]
      exact refreshToken_path hrefresh
  | _ => exact nomatch respond_path h

/-- What entitles a call to a token for the user with this row: their password, or their token. -/
inductive Call.Vouches : Call → List Seen → Int → UserDbo → Prop where
  | login {dto : LoginDto} {seen : List Seen} {row : UserDbo}
      (hpassword : Crypto.verifyEncoded row.password dto.password = some true)
      (hfound : ⟨.selectUserByName dto.username, some row⟩ ∈ seen) : Vouches (.request (.login dto)) seen row.id row
  | token {authorization : Option String} {endpoint : ApiEndpoint} {seen : List Seen} {auth : Claims} {row : UserDbo}
      (haccepted : Accepted authorization seen auth) :
      Vouches (.request (.authenticated authorization endpoint)) seen auth.sub row

/-- **Where tokens come from.** Whatever returns a token has made it of a stored user who has vouched for it. -/
theorem Call.token_path {c : Call} {seen : List Seen} {dto : TokenDto}
    (h : c.program.Path seen (.done (.ok (.token dto)))) :
    ∃ x id row, Issued seen dto.token x id row ∧ c.Vouches seen id row := by
  cases c with
  | contact ipAddr certId => exact nomatch respond_path h
  | background p => exact nomatch respond_path h
  | request r =>
      cases r with
      | getStatus version secureName => exact nomatch respond_path h
      | signup salt utcNow dto => exact nomatch respond_path h
      | login loginDto =>
          obtain ⟨dto', before, rest, rfl, hlogin, hrest⟩ := Prog.Path.of_bind_ok h
          obtain ⟨rfl, hdto⟩ := hrest.of_done
          obtain rfl := ApiResponse.token.inj (Except.ok.inj (Prog.done.inj hdto))
          rw [List.append_nil]
          obtain ⟨row, hpassword, hissued⟩ := login_path hlogin
          obtain ⟨roles, t, secret, hsub, _⟩ := hissued.token
          exact ⟨_, _, _, hissued, .login hpassword (hsub.subset List.mem_cons_self)⟩
      | authenticated authorization endpoint =>
          obtain ⟨auth, before, rest, rfl, hbefore, hrest⟩ := Prog.Path.of_bind_ok h
          obtain ⟨row, hissued⟩ := ApiEndpoint.handler_path hrest
          exact ⟨_, _, _, hissued.append_left before, .token ((fromRequest_path hbefore).append rest)⟩

end MudController
