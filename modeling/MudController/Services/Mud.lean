import MudController.Services.Config
import MudController.Services.Parser

/-!
# `Services.Mud` — stored profiles and their refresh (`mud_service/mod.rs`)
-/

namespace MudController

open Logic

variable [Platform]

/-- `upsert_mud`. -/
def upsertMud (mudProfile : MudDbo) : Action Unit := do
  let _ ← execute (stmt (.upsertMud mudProfile))
  return ()

/-- `create_mud` of the service. -/
def createMudRow (mudProfile : MudDbo) : Action Unit := do
  let _ ← execute (stmt (.insertMud mudProfile))
  return ()

/-- `get_mud`. -/
def getMud (url : String) : Action (Option MudDbo) := stmt (.selectMud url)

/-- `get_all_muds`. -/
def getAllMuds : Action (List MudDbo) := stmt .selectMuds

/-- `delete_mud` of the service. -/
def deleteMudRow (url : String) : Action Bool := do
  let count ← execute (stmt (.deleteMud url))
  return count == 1

/-- `is_mud_used`. -/
def isMudUsed (url : String) : Action Bool := do
  let deviceUsingMud ← stmt (.selectMudUser url)
  return deviceUsingMud.isSome

/-- `get_all_mud_expiration`. -/
def getAllMudExpiration : Action (List MudDboRefresh) := stmt .selectMudExpirations

/-- `fetch_mud`. -/
def fetchMud (url : String) : Action String := do
  Prog.ofExcept (← stmt (.fetch url))

/-- `parse_mud`: the file is deserialized and parsed at the current time. -/
def parseMud (url json : String) : Action MudData := do
  match Platform.mudJsonFromStr json with
  | some mudJson => Prog.ofExcept (parseMudJson (← now) url mudJson)
  | none => Prog.fail .serdeError

/-- `is_url`. -/
def isUrl (url : String) : Bool := Platform.urlParses url

/-- `url.starts_with("https://")`. -/
def startsWithHttps (url : String) : Bool := "https://".toList.isPrefixOf url.toList

/-- The URLs that `get_or_fetch_mud` fetches. -/
def fetchable (url : String) : Bool := isUrl url && startsWithHttps url

/-- `Option::ok_or`. -/
def okOr {α : Type} (o : Option α) (e : Error) : Action α :=
  match o with
  | some a => return a
  | none => Prog.fail e

/-- The overrides of the expired profile are kept. -/
def keepOverride (expired : Option MudData) (data : MudData) : MudData :=
  match expired with
  | some old => { data with aclOverride := old.aclOverride }
  | none => data

/-- The end of `get_or_fetch_mud`: store the fetched profile. -/
def storeFetched (url : String) (data : MudData) : Action MudData := do
  let createdAt ← now
  upsertMud { url := url, data := serialize data, createdAt := createdAt, expiration := data.expiration }
  return data

/-- `get_or_fetch_mud` after the lookup: fetch, parse and store, or fall back to the expired profile. -/
def fetchAndStore (url : String) (expired : Option MudData) : Action MudData := do
  -- checked after the lookup: an expired profile is no fallback here
  if !fetchable url then
    Prog.fail .mudFileInvalid
  else
    match ← (fetchMud url).attempt with
    | .error e => okOr expired e
    | .ok mudJson =>
      match ← (parseMud url mudJson).attempt with
      | .error e => okOr expired e
      | .ok data => storeFetched url (keepOverride expired data)

/-- `get_or_fetch_mud`. -/
def getOrFetchMud (url : String) : Action MudData := do
  match ← getMud url with
  | some mud =>
    -- a row that does not deserialize is treated as absent: its override is lost
    match mud.parseData with
    | some mudData =>
      if mud.expiration > (← now) then return mudData
      else fetchAndStore url (some mudData)
    | none => fetchAndStore url none
  | none => fetchAndStore url none

/-- `get_custom_mud_expiration`: 31 January 2060, in nanoseconds since the epoch. -/
def getCustomMudExpiration : DateTime := 2842732800 * 1000000000

/-- `generate_empty_custom_mud_profile`, at the time `now`. -/
def generateEmptyCustomMudProfile (url : String) (aclOverride : List Acl) (now : DateTime) : MudData where
  url := url
  masaUrl := none
  lastUpdate := Platform.naiveDateTimeToString now
  systeminfo := none
  mfgName := none
  modelName := none
  documentation := none
  expiration := getCustomMudExpiration
  acllist := []
  aclOverride := aclOverride

/-- `update_mud_urls`: refresh one after another; the first error ends the loop. -/
def updateMudUrls : List String → Action Unit
  | [] => return ()
  | url :: rest => do
    let _ ← getOrFetchMud url
    updateMudUrls rest

/-- The URLs of the rows that have expired; the clock is read for every row. -/
def outdatedUrls : List MudDboRefresh → Action (List String)
  | [] => return []
  | mud :: rest => do
    let t ← now
    let urls ← outdatedUrls rest
    return if mud.expiration < t then mud.url :: urls else urls

/-- `update_outdated_profiles`. -/
def updateOutdatedProfiles : Action Unit := do
  let mudData ← getAllMudExpiration
  let mudVec ← outdatedUrls mudData
  if mudVec.isEmpty then return ()
  else
    -- one profile that does not load, and the refreshed ones before it are not announced
    updateMudUrls mudVec
    updateConfigVersion

end MudController
