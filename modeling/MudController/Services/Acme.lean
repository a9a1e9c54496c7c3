import MudController.Db.Enforcers
import MudController.Logic.Base64
import MudController.Logic.Decoder

/-!
# `Services.Acme` — the id of a certificate (`acme_service.rs`)

`CertId::new`: the digest of a certificate in URL-safe base64, in lower case, without the two marks of that
alphabet, and of what is left the first 20 bytes. The `sha3`, `base64` and `regex` crates are parameters
(`CertCrates`); of the digest nothing is assumed. How certificates are requested is not modelled.
-/

namespace MudController

open Logic

/-- `regex::Captures`: the text of every group that matched, by its number. -/
abbrev Captures := Nat → Option String

/-- The crates that make an id of a certificate. -/
class CertCrates where
  /-- `Sha3_224::digest`. -/
  sha3_224 : List UInt8 → Vector UInt8 28
  /-- `base64::encode_config(_, base64::URL_SAFE_NO_PAD)`. -/
  encodeUrlSafeNoPad : List UInt8 → String
  /-- `Regex::new(pattern).unwrap().replace_all(text, _)`. -/
  replaceAll : (pattern text : String) → (Captures → String) → String

namespace CertId

/-- `PATTERN`. -/
def pattern : String := "([A-Z])|([_-])"

/-- A match of `PATTERN` is one character: what it captures, if the character is one. Group 0 is the match. -/
def captures (c : Char) : Option Captures :=
  if c.isUpper then some fun i => if i = 0 ∨ i = 1 then some (String.ofList [c]) else none
  else if c = '_' ∨ c = '-' then some fun i => if i = 0 ∨ i = 2 then some (String.ofList [c]) else none
  else none

/-- `str::to_lowercase`, for the letters that `PATTERN` captures. -/
def toLowercase (s : String) : String := String.ofList (s.toList.map Char.toLower)

/-- What a match is replaced by: the letter in lower case, and nothing for a mark. -/
def replacement (c : Captures) : String := ((c 1).map toLowercase).getD ""

/-- `&s[..n]`: `none` where it panics. -/
def sliceTo (s : String) (n : Nat) : Option String := (splitAtByte s n).map Prod.fst

variable [CertCrates]

/-- The text that an id is cut from. -/
def fullText (cert : List UInt8) : String :=
  CertCrates.replaceAll pattern (CertCrates.encodeUrlSafeNoPad (CertCrates.sha3_224 cert).toList) replacement

/-- `CertId::new`: `none` where it panics. -/
def new (cert : List UInt8) : Option CertId := (sliceTo (fullText cert) 20).map CertId.mk

end CertId

/-- What the documentation of the crates says. -/
structure CertCrates.Lawful [CertCrates] : Prop where
  /-- `URL_SAFE_NO_PAD`: the URL-safe alphabet, and no padding. -/
  encodes : ∀ octets, encodeUrlSafeNoPad octets = String.ofList (Base64.encode Base64.urlSafe octets)
  /-- Every match is replaced, and what is between the matches stays. -/
  replaces : ∀ text f, replaceAll CertId.pattern text f = String.ofList (text.toList.flatMap fun c =>
    match CertId.captures c with
    | some m => (f m).toList
    | none => [c])

end MudController
