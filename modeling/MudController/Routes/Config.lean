import MudController.Routes.Auth
import MudController.Services.Config

/-!
# `Routes.Config` — the configuration endpoint (`config_controller.rs`)
-/

namespace MudController

open Logic

variable [Platform]

/-- The `HashMap<String, Option<String>>` of a response, as its lookup function. -/
abbrev ConfigMap := String → Option (Option String)

/-- The empty map. -/
def ConfigMap.empty : ConfigMap := fun _ => none

/-- `HashMap::insert`. -/
def ConfigMap.insert (m : ConfigMap) (key : String) (value : Option String) : ConfigMap :=
  fun k => if k = key then some value else m k

structure ConfigQueryDto where
  keys : List String

/-- The loop of `get_configs` over the queried keys: a key that cannot be read is reported as absent. -/
def getConfigsLoop (configMap : ConfigMap) : List String → Action ConfigMap
  | [] => return configMap
  | key :: rest => do
    match ← (getConfigValue String key).attempt with
    | .ok value => getConfigsLoop (configMap.insert key (some value)) rest
    | .error _ => getConfigsLoop (configMap.insert key none) rest

/-- `get_configs`: `GET /config`. -/
def getConfigs (auth : AuthToken) (configQueryDto : ConfigQueryDto) : Action ConfigMap := do
  auth.requirePermission .configRead
  if configQueryDto.keys.isEmpty then
    auth.requirePermission .configList
    let data ← getAllConfigData
    return data.foldl (fun configMap config => configMap.insert config.key (some config.value))
      ConfigMap.empty
  else
    getConfigsLoop ConfigMap.empty configQueryDto.keys

end MudController
