import MudController.Secret
import MudController.Services.Login

/-!
# `Routes.Token` — access tokens of requests (`auth.rs`)

How a token is signed, and how a request is let through: the token in its header is decoded under the secret of
`config`, and its user is recorded as seen. Whether that user still exists is not asked.
-/

namespace MudController

open Logic

/-- `HEADER_PREFIX`. -/
def headerPrefix : String := "Bearer "

/-- `extract_token_from_header`. -/
def extractTokenFromHeader (header : String) : Option String :=
  if headerPrefix.toList.isPrefixOf header.toList then
    some (String.ofList (header.toList.drop headerPrefix.toList.length))
  else none

/-- The token of a header that was made of it. -/
theorem extractTokenFromHeader_append (token : String) :
    extractTokenFromHeader (headerPrefix ++ token) = some token := by
  have h : headerPrefix.toList.isPrefixOf (headerPrefix ++ token).toList = true := by
    rw [String.toList_append, List.isPrefixOf_iff_prefix]
    exact List.prefix_append _ _
  unfold extractTokenFromHeader
  rw [if_pos h, String.toList_append, List.drop_left, String.ofList_toList]

variable [Platform]

/-- `AuthToken::require_permission`, ahead of statements on any table. -/
def Claims.requirePermission (auth : Claims) (permission : Permission) : BackendAction Unit :=
  Prog.ofExcept (requireOneOf permission auth.permissions)

/-- `initialize_jwt_secret`, with the base64 text of the random octets. -/
def initializeJwtSecret (random : String) : Action Unit := do
  match ← (getConfigValue String jwtSecret).attempt with
  | .error (.databaseError .rowNotFound) => setConfigValue jwtSecret random
  | .error e => Prog.fail e
  | .ok _ => return ()

variable [Crypto]

/-- The stored secret; without one, or with one that is no base64, `expect` panics. -/
def expectSecret : BackendAction String := do
  match ← (BackendAction.ofWorld (getConfigValue String jwtSecret)).attempt with
  | .ok secret => if Crypto.isBase64Secret secret then return secret else Prog.fail .panicked
  | .error _ => Prog.fail .panicked

/-- The stored secret, in one statement. -/
theorem expectSecret_eq :
    expectSecret = Prog.stmt (BackendStmt.world (.selectConfig jwtSecret)) fun
      | some row => if Crypto.isBase64Secret row.value then Prog.done (.ok row.value) else Prog.fail .panicked
      | none => Prog.fail .panicked := by
  refine congrArg (Prog.stmt (BackendStmt.world (.selectConfig jwtSecret))) (funext fun found => ?_)
  cases found <;> rfl

/-- `AuthToken::encode_token`. -/
def encodeToken (auth : Claims) : BackendAction String := do
  let secret ← expectSecret
  return Crypto.encode secret auth

/-- `AuthToken::decode_token`. -/
def decodeToken (token : String) : BackendAction (Option Claims) := do
  let secret ← expectSecret
  -- the clock is read by `jsonwebtoken`
  let utcNow ← BackendAction.now
  return Crypto.decode secret (timestamp utcNow) token

/-- `extract_auth_from_request`, on the header `authorization`. -/
def extractAuthFromRequest (authorization : Option String) : BackendAction (Option Claims) :=
  match authorization.bind extractTokenFromHeader with
  | some token => decodeToken token
  | none => return none

/-- `AuthToken::from_request`. -/
def fromRequest (authorization : Option String) : BackendAction Claims := do
  match ← extractAuthFromRequest authorization with
  | some auth =>
    -- the answer is not looked at: the user may be gone
    let _ ← UserService.updateLastInteractionStamp auth.sub
    return auth
  | none => Prog.fail (.responseError 401 (some "Unauthorized"))

end MudController
