/-!
# `Error` — the errors of the services (`error.rs`)

The variants that the modelled functions produce; a backtrace is not modelled.
-/

namespace MudController

/-- What `sqlx` reports for a statement. -/
inductive DbError where
  | rowNotFound
  /-- A constraint of the schema would be violated. -/
  | constraint
  deriving DecidableEq

inductive Error where
  | argonError
  | databaseError (source : DbError)
  | addrParseError
  | responseError (status : Nat) (message : Option String)
  | mudError (message : String)
  | serdeError
  | patternError
  | parseIntError
  | chronoParseError
  | fromStrError
  | noneError
  | reqwestError
  | macParseError
  | mudFileInvalid
  | enforcerNotAllowed
  /-- No variant of the source: the call panicked. -/
  | panicked
  deriving DecidableEq

end MudController
