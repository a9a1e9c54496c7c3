import MudController.Routes.Device
import MudController.Version.Configuration

/-!
# `Version.Loads` — profiles loaded one after another

`GET /devices`, the hourly refresh and a lease load profiles one after another, until one does not load. What
is stored on the way is a list of URLs with their profiles (`storedByLoads`); the configuration of the tables
stays what it is exactly if the last profile stored for each URL in use means the same rules as the one
before (`fwDevices_eq_iff_rulesKept`).
-/

namespace MudController

open Logic

variable [Platform]

/-- The world after loading a profile. -/
def World.afterLoad (w : World) (url : String) : World := ((getOrFetchMud url).run w).2

/-- The profiles that loading these URLs one after another stores; the first that does not load ends it. -/
def storedByLoads : List String → World → List (String × MudData)
  | [], _ => []
  | url :: urls, w =>
      ((w.refreshed url).map fun data => (url, data)).toList ++
        if (w.loaded url).isSome then storedByLoads urls (w.afterLoad url) else []

/-- Every one of these URLs loads. -/
def LoadsEach : List String → World → Prop
  | [], _ => True
  | url :: urls, w => (w.loaded url).isSome ∧ LoadsEach urls (w.afterLoad url)

/-- The profile stored last for a URL. -/
def lastStored (url : String) : List (String × MudData) → Option MudData
  | [] => none
  | (u, data) :: log => (lastStored url log).or (if u = url then some data else none)

omit [Platform] in
theorem lastStored_append (url : String) (log log' : List (String × MudData)) :
    lastStored url (log ++ log') = (lastStored url log').or (lastStored url log) := by
  induction log with
  | nil => simp [lastStored]
  | cons entry log ih =>
      obtain ⟨u, data⟩ := entry
      simp [lastStored, ih, Option.or_assoc]

/-! ## Stored profiles after loads -/

theorem storedProfile_upsertMud (t : Tables) (url : String) (data : MudData) (createdAt : DateTime)
    (other : String) :
    (t.upsertMud (fetchedRow url data createdAt)).storedProfile other =
      if url = other then some data else t.storedProfile other := by
  unfold Tables.storedProfile
  by_cases h : url = other
  · subst h
    have hrow : (t.upsertMud (fetchedRow url data createdAt)).mudRow url =
        some (fetchedRow url data createdAt) := Tables.mudRow_upsertMud _ _
    rw [hrow, if_pos rfl]
    exact MudDbo.parseData_serialize _ _ _ _
  · have hrow : (t.upsertMud (fetchedRow url data createdAt)).mudRow other = t.mudRow other :=
      Tables.mudRow_upsertMud_other _ _ (Ne.symm h)
    rw [hrow, if_neg h]

/-- A load stores the refreshed profile, if there is one, and nothing else. -/
theorem Loads.storedProfile {w : World} {url : String} {r : Except Error MudData × World}
    (h : Loads w url r) (other : String) :
    r.2.db.storedProfile other =
      (lastStored other ((w.refreshed url).map fun data => (url, data)).toList).or
        (w.db.storedProfile other) := by
  cases h with
  | kept data w' hrefreshed hkept hdb =>
      rw [hrefreshed]
      exact congrArg (fun db : Db => db.storedProfile other) hdb
  | failed e w' hrefreshed hkept hdb =>
      rw [hrefreshed]
      exact congrArg (fun db : Db => db.storedProfile other) hdb
  | refreshed data createdAt w' hrefreshed hdb =>
      show w'.db.storedProfile other = _
      rw [hrefreshed, hdb, storedProfile_upsertMud]
      by_cases hother : url = other <;> simp [lastStored, hother]

/-- Loading profiles one after another, until one does not load. -/
theorem updateMudUrls_loads (urls : List String) (w : World) :
    (((updateMudUrls urls).run w).1.toOption.isSome ↔ LoadsEach urls w) ∧
    OnlyProfiles w.db.toTables ((updateMudUrls urls).run w).2.db.toTables ∧
    ∀ url, ((updateMudUrls urls).run w).2.db.storedProfile url =
      (lastStored url (storedByLoads urls w)).or (w.db.storedProfile url) := by
  induction urls generalizing w with
  | nil => exact ⟨by simp [updateMudUrls, LoadsEach, Except.toOption], .refl _, fun url => rfl⟩
  | cons url urls ih =>
      have hloads := getOrFetchMud_loads url w
      have hresult := getOrFetchMud_result url w
      have hprofile := hloads.storedProfile
      have honly := hloads.onlyProfiles
      unfold LoadsEach storedByLoads updateMudUrls World.afterLoad
      rw [← hresult]
      cases hr : (getOrFetchMud url).run w with
      | mk r w' =>
          rw [hr] at hprofile honly
          cases r with
          -- the first profile that does not load ends the loop
          | error e =>
              rw [Action.run_bind_error hr]
              refine ⟨by simp [Except.toOption], honly, ?_⟩
              intro other
              rw [hprofile]
              simp [Except.toOption]
          | ok data =>
              obtain ⟨hsuccess, honly', hprofile'⟩ := ih w'
              rw [Action.run_bind_ok hr]
              refine ⟨by simp [Except.toOption] at hsuccess ⊢; exact hsuccess, honly.trans honly', ?_⟩
              intro other
              rw [hprofile', hprofile]
              simp [Except.toOption, lastStored_append, Option.or_assoc]

/-- Loading the references of devices leaves the world that loading their profiles leaves. -/
theorem run_mapM_loadRefs_world (devices : List Device) (w : World)
    (hrooms : ∀ d ∈ devices, ∀ id ∈ d.roomId, (w.db.room id).isSome) :
    ((devices.mapM loadRefs).run w).2 =
      ((updateMudUrls (devices.filterMap (·.mudUrl))).run w).2 := by
  induction devices generalizing w with
  | nil => rfl
  | cons d devices ih =>
      have hroom := hrooms d List.mem_cons_self
      have hrest := fun d' hd' => hrooms d' (List.mem_cons_of_mem d hd')
      rw [List.mapM_cons]
      cases hurl : d.mudUrl with
      | none =>
          rw [List.filterMap_cons_none hurl, ← ih w hrest, Action.run_bind_ok (run_loadRefs_plain hroom hurl)]
          exact Action.run_bind_world (fun _ _ => rfl) w
      | some url =>
          rw [List.filterMap_cons_some hurl]
          unfold updateMudUrls
          have honly := (getOrFetchMud_loads url w).onlyProfiles
          cases hr : (getOrFetchMud url).run w with
          | mk r w' =>
              rw [hr] at honly
              cases r with
              | error e =>
                  rw [Action.run_bind_error (run_loadRefs_error hroom hurl hr), Action.run_bind_error hr]
              | ok data =>
                  -- the rooms are still there for the other devices
                  have hrooms' : ∀ d' ∈ devices, ∀ id ∈ d'.roomId, (w'.db.room id).isSome := by
                    intro d' hd' id hid
                    unfold Tables.room
                    rw [honly.rooms]
                    exact hrest d' hd' id hid
                  rw [Action.run_bind_ok (run_loadRefs_ok hroom hurl hr), Action.run_bind_ok hr,
                    ← ih w' hrooms']
                  exact Action.run_bind_world (fun _ _ => rfl) w'

/-! ## Rules after loads -/

/-- The profiles of the log, once stored, mean the same rules to every device with an address as the profiles
    that are stored. -/
def RulesKept (t : Tables) (log : List (String × MudData)) : Prop :=
  ∀ d ∈ t.storedDevices, d.addressed → ∀ url ∈ d.mudUrl, ∀ data ∈ lastStored url log,
    compileRules data = profileRules (t.storedProfile url)

/-- With the same devices, storing the profiles of the log leaves the configuration as it is exactly if they
    mean the same rules. -/
theorem fwDevices_eq_iff_rulesKept {a b : Tables} {log : List (String × MudData)}
    (hdevices : b.devices = a.devices)
    (hprofile : ∀ url, b.storedProfile url = (lastStored url log).or (a.storedProfile url)) :
    b.fwDevices = a.fwDevices ↔ RulesKept a log := by
  rw [Tables.fwDevices_eq_iff hdevices]
  constructor
  · intro h d hd haddressed url hurl data hdata
    have hrules := h d hd haddressed
    rw [show d.mudUrl = some url from hurl, Option.bind_some, Option.bind_some, hprofile,
      show lastStored url log = some data from hdata] at hrules
    exact hrules
  · intro h d hd haddressed
    cases hurl : d.mudUrl with
    | none => rfl
    | some url =>
        rw [Option.bind_some, Option.bind_some, hprofile]
        cases hdata : lastStored url log with
        | none => rfl
        | some data => exact h d hd haddressed url hurl data hdata

end MudController
