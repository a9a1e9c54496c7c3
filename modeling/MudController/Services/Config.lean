import MudController.Db.Stmt

/-!
# `Services.Config` — the key-value configuration (`config_service.rs`)

and the firewall version that is kept in it (`get_config_version`, `update_config_version` of
`firewall_configuration_service.rs`).
-/

namespace MudController

open Logic

variable [Platform]

/-- `Result::unwrap_or`. -/
def unwrapOr {α : Type} (p : Action α) (default : α) : Action α := do
  match ← p.attempt with
  | .ok a => return a
  | .error _ => return default

inductive ConfigKeys where
  | collectDeviceData
  | allowUserSignup
  | firewallConfigVersion
  deriving DecidableEq

/-- `ConfigKeys::as_ref`: the name of the variant. -/
def ConfigKeys.asRef : ConfigKeys → String
  | .collectDeviceData => "CollectDeviceData"
  | .allowUserSignup => "AllowUserSignup"
  | .firewallConfigVersion => "FirewallConfigVersion"

/-- `get_config_value`. -/
def getConfigValue (α : Type) [TextForm α] (key : String) : Action α := do
  let entry ← fetchOne (stmt (.selectConfig key))
  match (parse entry.value : Option α) with
  | some value => return value
  | none => Prog.fail .fromStrError

/-- `get_all_config_data`. -/
def getAllConfigData : Action (List Config) := stmt .selectConfigs

/-- `set_config_value`. -/
def setConfigValue {α : Type} [TextForm α] (key : String) (value : α) : Action Unit := do
  let _ ← execute (stmt (.upsertConfig key (toText value)))
  return ()

/-- `delete_config_key`. -/
def deleteConfigKey (key : String) : Action Bool := do
  let count ← execute (stmt (.deleteConfig key))
  return count == 1

/-- `get_config_version`. -/
def getConfigVersion : Action String :=
  unwrapOr (getConfigValue String ConfigKeys.firewallConfigVersion.asRef) "0"

/-- `update_config_version`: one read of the counter, then one write. -/
def updateConfigVersion : Action Unit := do
  -- a version that is no number counts from 0 again
  let oldConfigVersion ← unwrapOr (getConfigValue UInt64 ConfigKeys.firewallConfigVersion.asRef) 0
  setConfigValue ConfigKeys.firewallConfigVersion.asRef (oldConfigVersion + 1)

end MudController
