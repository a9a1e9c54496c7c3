import MudController.Db.Backend
import MudController.Models.Token
import MudController.Services.User

/-!
# `Services.Login` — finding and changing users (`user_service.rs`)

The functions of `user_service` that only requests of the API call.
-/

namespace MudController

open Logic

variable [Platform]

namespace UserService

/-- `has_any_users`. -/
def hasAnyUsers : BackendAction Bool := do
  let usrCount ← BackendAction.stmt (.account .countUsers)
  return decide (usrCount > 0)

/-- `find_by_username`. -/
def findByUsername (username : String) : BackendAction User := do
  let usr ← BackendAction.fetchOne (BackendAction.stmt (.selectUserByName username))
  BackendAction.ofAccounts (withRoles usr)

/-- `update`: name and password are written together. -/
def update (user : User) : BackendAction Bool := do
  let updCount ←
    BackendAction.execute (BackendAction.stmt (.updateUser user.id user.username user.password user.salt))
  return updCount == 1

/-- `update_last_interaction_stamp`. -/
def updateLastInteractionStamp (id : Int) : BackendAction Bool := do
  let utcNow ← BackendAction.now
  let updCount ← BackendAction.execute (BackendAction.stmt (.updateLastInteraction id utcNow))
  return updCount == 1

/-- `update_password`, with the random salt. -/
def updatePassword [Crypto] (id : Int) (salt : Salt) (password : String) : BackendAction Bool := do
  let password ← Prog.ofExcept (hashPassword password salt.bytes)
  let updCount ← BackendAction.execute (BackendAction.stmt (.updatePassword id password salt.bytes))
  return updCount == 1

end UserService

end MudController
