/-!
# `Services.CertResolver` — the certificate of the web frontend (`acme_service.rs`)

Any number of handshakes (`CertResolver::resolve`) and of runs of `update_certs` take turns, one access to the lock or
to the persisted certificate each. `ACME_CERTIFIED_KEY` is a cache behind a `RwLock`; `update_certs` persists a new
certificate without it, and then clears the cache. `acme_lib` and `rustls` are parameters: what comes of a call to
them is given with the call (`AccountAnswer`, `Renewal`), and the certificate is persisted as a whole.
-/

namespace MudController

/-- `acme_lib::Certificate`. -/
structure Certificate where
  certificateDer : List UInt8
  privateKeyDer : List UInt8
deriving DecidableEq

/-- The crate that reads a private key. -/
class TlsCrate where
  SigningKey : Type
  /-- `rustls::sign::any_supported_type`. -/
  anySupportedType : List UInt8 → Option SigningKey

/-! ## The lock -/

/-- Who is inside a `RwLock`. Nobody stays inside for reading. -/
inductive LockState where
  | free
  | writer (call : Nat)
  /-- A writer panicked inside. -/
  | poisoned
deriving DecidableEq

/-- What comes of `read()` or `write()`. -/
inductive Acquired where
  | guard
  | poisonError
  /-- The call has to wait. -/
  | waits

/-- `std::sync::RwLock`. -/
structure RwLock (α : Type) where
  value : α
  state : LockState

def RwLock.acquire {α : Type} (lock : RwLock α) : Acquired :=
  match lock.state with
  | .free => .guard
  | .poisoned => .poisonError
  | .writer _ => .waits

variable [TlsCrate]

/-- `rustls::sign::CertifiedKey`. -/
structure CertifiedKey where
  cert : List (List UInt8)
  key : TlsCrate.SigningKey

/-- The `CertifiedKey` of a persisted certificate, if its private key is supported. -/
def Certificate.certifiedKey (c : Certificate) : Option CertifiedKey :=
  (TlsCrate.anySupportedType c.privateKeyDer).map fun key => ⟨[c.certificateDer], key⟩

/-- What the calls share. -/
structure CertWorld where
  /-- What `ACCOUNT.certificate(&DOMAIN)` finds on disk. -/
  persisted : Option Certificate
  /-- `ACME_CERTIFIED_KEY`. -/
  acmeCertifiedKey : RwLock (Option CertifiedKey)

namespace CertWorld

def setLock (w : CertWorld) (state : LockState) : CertWorld :=
  { w with acmeCertifiedKey := { w.acmeCertifiedKey with state := state } }

/-- `*g = value`, and the guard is dropped. -/
def store (w : CertWorld) (value : Option CertifiedKey) : CertWorld :=
  { w with acmeCertifiedKey := ⟨value, .free⟩ }

end CertWorld

/-! ## `CertResolver::resolve` -/

/-- What comes of `ACCOUNT.certificate(&DOMAIN)` in a call. -/
inductive AccountAnswer where
  /-- What is persisted. -/
  | persisted
  | error
  /-- The account or the domain cannot be initialised. -/
  | panic

/-- Where a handshake is. -/
inductive Resolve where
  /-- Before `read()`. -/
  | read
  /-- Before `write()`. -/
  | write
  /-- With the guard, before another look at the cache. -/
  | check
  /-- With the guard, before the look at the disk. -/
  | load
  /-- With the guard and the certificate. -/
  | loaded (c : Certificate)
  | returned (answer : Option CertifiedKey)
  | panicked

/-- The next turn of a handshake, which is call `i`: `none` while it waits, and when it is over. -/
def Resolve.step (i : Nat) (account : AccountAnswer) (w : CertWorld) : Resolve → Option (CertWorld × Resolve)
  | .read =>
    match w.acmeCertifiedKey.acquire with
    | .waits => none
    | .poisonError => some (w, .write)
    | .guard =>
      match w.acmeCertifiedKey.value with
      | some c => some (w, .returned (some c))
      | none => some (w, .write)
  | .write =>
    match w.acmeCertifiedKey.acquire with
    | .waits => none
    | .poisonError => some (w, .returned none)
    | .guard => some (w.setLock (.writer i), .check)
  | .check =>
    match w.acmeCertifiedKey.value with
    | some c => some (w.setLock .free, .returned (some c))
    | none => some (w, .load)
  | .load =>
    match account with
    | .persisted =>
      match w.persisted with
      | some c => some (w, .loaded c)
      | none => some (w.setLock .free, .returned none)
    | .error => some (w.setLock .free, .returned none)
    -- the panic goes through the guard
    | .panic => some (w.setLock .poisoned, .panicked)
  | .loaded c =>
    match c.certifiedKey with
    | some cert => some (w.store (some cert), .returned (some cert))
    | none => some (w.setLock .free, .returned none)
  | .returned _ | .panicked => none

/-! ## `update_certs` -/

/-- What comes of the outside in a run of `update_certs`. -/
structure Renewal where
  /-- `fs::create_dir_all`. -/
  dirCreated : Bool
  account : AccountAnswer
  /-- `valid_days_left`, on the day of the run. -/
  validDaysLeft : Certificate → Int
  /-- The certificate that was ordered and downloaded, if nothing failed on the way. -/
  ordered : Option Certificate

/-- Where a run of `update_certs` is. -/
inductive UpdateCerts where
  | start
  /-- Before the look at the certificate that is persisted. -/
  | check
  /-- Before the order. -/
  | order
  /-- The new certificate is persisted, before `write()`. -/
  | saved
  /-- Whether it is `Ok`. -/
  | returned (ok : Bool)
  | panicked

/-- The next turn of a run of `update_certs`: `none` while it waits, and when it is over. -/
def UpdateCerts.step (renewal : Renewal) (w : CertWorld) : UpdateCerts → Option (CertWorld × UpdateCerts)
  | .start => some (w, if renewal.dirCreated then .check else .returned false)
  | .check =>
    match renewal.account, w.persisted with
    | .panic, _ => some (w, .panicked)
    | .persisted, some c => some (w, if renewal.validDaysLeft c ≥ 15 then .returned true else .order)
    -- `unwrap_or(None)`
    | .persisted, none | .error, _ => some (w, .order)
  | .order =>
    match renewal.ordered with
    | none => some (w, .returned false)
    | some c => some ({ w with persisted := some c }, .saved)
  | .saved =>
    match w.acmeCertifiedKey.acquire with
    | .waits => none
    | .poisonError => some (w, .returned true)
    | .guard => some (w.store none, .returned true)
  | .returned _ | .panicked => none

/-! ## Turns -/

/-- A call in progress. -/
inductive CertCall where
  | resolve (account : AccountAnswer) (stage : Resolve)
  | updateCerts (renewal : Renewal) (stage : UpdateCerts)

/-- The next turn of the call `i`. -/
def CertCall.step (i : Nat) (w : CertWorld) : CertCall → Option (CertWorld × CertCall)
  | .resolve account stage => (stage.step i account w).map fun (w, stage) => (w, .resolve account stage)
  | .updateCerts renewal stage => (stage.step renewal w).map fun (w, stage) => (w, .updateCerts renewal stage)

structure CertState where
  world : CertWorld
  calls : List CertCall

/-- Call `i` has a turn; a call that waits, a call that is over and no call leave everything as it is. -/
def CertState.step (s : CertState) (i : Nat) : CertState :=
  match s.calls[i]?.bind (CertCall.step i s.world) with
  | some (world, call) => ⟨world, s.calls.set i call⟩
  | none => s

/-- One interleaving of the calls. -/
def CertState.run (s : CertState) (sched : List Nat) : CertState := sched.foldl CertState.step s

end MudController
