import MudController.Routes.Auth
import MudController.Models.User

/-!
# `Models.Token` — access tokens and what they rest on

All claims of an access token (`auth.rs`), and the two crates that passwords and tokens rest on, as parameters:
`argon2` and `jsonwebtoken`. Of the latter, `Crypto.Sound` states what it documents of `HS256`.
-/

namespace MudController

variable [Platform]

deriving instance DecidableEq for AuthToken

/-- `AuthToken` with all its claims; the times are in seconds. -/
structure Claims extends AuthToken where
  nbf : Int
  exp : Int
  sub : Int
  username : String
  deriving DecidableEq

/-- `NaiveDateTime::timestamp`. -/
def timestamp (t : DateTime) : Int := t / 1000000000

/-- `chrono::Duration::minutes`. -/
def minutes (n : Int) : Int := n * 60 * 1000000000

/-- `AuthToken::generate_access_token`, at the time `timeNow`. -/
def Claims.generateAccessToken (timeNow : DateTime) (id : Int) (username : String) (permissions : List String) :
    Claims where
  nbf := timestamp timeNow
  exp := timestamp (timeNow + minutes 15)
  sub := id
  username := username
  permissions := permissions

omit [Platform] in
/-- A token that was generated expires 900 seconds later. -/
@[simp] theorem Claims.generateAccessToken_exp (timeNow : DateTime) (id : Int) (username : String)
    (permissions : List String) :
    (Claims.generateAccessToken timeNow id username permissions).exp = timestamp timeNow + 900 := by
  have h (t : Int) : (t + 15 * 60 * 1000000000) / 1000000000 = t / 1000000000 + 900 := by omega
  exact h timeNow

/-- The crates behind passwords and tokens. -/
class Crypto where
  /-- `argon2::hash_encoded` under the default settings: the encoded hash of a password under a salt. -/
  hashEncoded : String → List UInt8 → Option String
  /-- `argon2::verify_encoded`, on an encoded hash and a password. -/
  verifyEncoded : String → String → Option Bool
  /-- `from_base64_secret(..).is_ok()`. -/
  isBase64Secret : String → Bool
  /-- `jsonwebtoken::encode` under `HS256`, with a secret. -/
  encode : String → Claims → String
  /-- `jsonwebtoken::decode` under `Validation::new(Algorithm::HS256)`, with a secret and at a time. -/
  decode : String → Int → String → Option Claims

/-- What `jsonwebtoken` documents: a token is decoded to the claims that it was made of, and not after they have
    expired. -/
structure Crypto.Sound [Crypto] : Prop where
  claims : ∀ {secret secret' : String} {now : Int} {claims claims' : Claims},
    decode secret' now (encode secret claims) = some claims' → claims' = claims
  live : ∀ {secret token : String} {now : Int} {claims : Claims}, decode secret now token = some claims → now ≤ claims.exp

variable [Crypto]

inductive VerifyError where
  | argonError
  | passwordVerifyError
  deriving DecidableEq

/-- `User::verify_password`. -/
def User.verifyPassword (user : User) (password : String) : Except VerifyError Unit :=
  match Crypto.verifyEncoded user.password password with
  | none => .error .argonError
  | some true => .ok ()
  | some false => .error .passwordVerifyError

/-- `User::hash_password`. -/
def hashPassword (password : String) (salt : List UInt8) : Except Error String :=
  match Crypto.hashEncoded password salt with
  | some hash => .ok hash
  | none => .error .argonError

/-- `User::update_password`, with the random salt. -/
def User.updatePassword (user : User) (salt : Salt) (password : String) : Except Error User := do
  let hash ← hashPassword password salt.bytes
  return { user with salt := salt.bytes, password := hash }

end MudController
