import MudController.Db.Backend

/-!
# `Services.UserConfig` — the settings that a user keeps (`user_config_service.rs`)
-/

namespace MudController

open Logic

variable [Platform]

namespace UserConfigService

/-- `get_all_configs_for_user`. -/
def getAllConfigsForUser (userId : Int) : BackendAction (List UserConfig) :=
  BackendAction.stmt (.selectUserConfigs userId)

/-- `get_config_for_user`. -/
def getConfigForUser (userId : Int) (key : String) : BackendAction UserConfig :=
  BackendAction.fetchOne (BackendAction.stmt (.selectUserConfig userId key))

/-- `upsert_config_for_user`. -/
def upsertConfigForUser (userId : Int) (key value : String) : BackendAction Unit := do
  let _ ← BackendAction.execute (BackendAction.stmt (.upsertUserConfig ⟨key, userId, value⟩))
  return ()

/-- `delete_config_for_user`. -/
def deleteConfigForUser (userId : Int) (key : String) : BackendAction Bool := do
  let delCount ← BackendAction.execute (BackendAction.stmt (.deleteUserConfig key userId))
  return delCount == 1

end UserConfigService

end MudController
