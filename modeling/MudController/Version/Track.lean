import MudController.Lease.Intact
import MudController.Logic.Sequence
import MudController.Run.Profiles
import MudController.Version.Loads

/-!
# `Version.Track` — whether the version tracks the configuration

Every operation that writes devices or profiles, run by itself to its end, against the version that it
leaves. The operations that write a row bump the version after it; the ones that refresh a profile on the
way, or fail half-way, do not. `version_tracks_iff` says of every run which steps are harmless: those that
announce what they change, or leave the configuration as it is.
-/

namespace MudController

open Logic

section

variable [Platform]

/-! ## Operations -/

/-- An operation on devices and profiles, under its name in the source. -/
inductive Operation where
  | insertDevice (deviceData : DeviceWithRefs)
  | updateDevice (deviceData : DeviceWithRefs)
  | deleteDevice (id : Int)
  | upsertDeviceFromDhcpLease (lease : DhcpLeaseInformation)
  | updateMud (auth : AuthToken) (query : MudUpdateQueryDto) (mudUpdateDto : MudUpdateDto)
  | createMud (auth : AuthToken) (mudCreationDto : MudCreationDto)
  | deleteMud (auth : AuthToken) (query : MudUpdateQueryDto)
  | updateOutdatedProfiles
  | getOrFetchMud (url : String)
  | getMuds (auth : AuthToken) (query : MudQueryDto)
  | listDevices (auth : AuthToken)

/-- The world after an operation, whether it succeeds or fails. -/
def Operation.after (w : World) : Operation → World
  | .insertDevice deviceData => ((MudController.insertDevice deviceData).run w).2
  | .updateDevice deviceData => ((MudController.updateDevice deviceData).run w).2
  | .deleteDevice id => ((MudController.deleteDevice id).run w).2
  | .upsertDeviceFromDhcpLease lease => ((MudController.upsertDeviceFromDhcpLease lease).run w).2
  | .updateMud auth query mudUpdateDto => ((MudController.updateMud auth query mudUpdateDto).run w).2
  | .createMud auth mudCreationDto => ((MudController.createMud auth mudCreationDto).run w).2
  | .deleteMud auth query => ((MudController.deleteMud auth query).run w).2
  | .updateOutdatedProfiles => (MudController.updateOutdatedProfiles.run w).2
  | .getOrFetchMud url => ((MudController.getOrFetchMud url).run w).2
  | .getMuds auth query => ((MudController.getMuds auth query).run w).2
  | .listDevices auth => ((MudController.listDevices auth).run w).2

/-- If the configuration is different in `w'`, then `get_config_version` answers differently. -/
def Tracks (w w' : World) : Prop :=
  w'.db.fwDevices ≠ w.db.fwDevices → (getConfigVersion.run w').1 ≠ (getConfigVersion.run w).1

/-! ## Bumps and quiet writes -/

/-- After a bump, whatever else was written, the version is another one. -/
theorem tracks_of_bumped {w w' : World} (h : w'.db.version = toText (w.db.counter + 1)) : Tracks w w' := by
  intro _ heq
  rw [run_getConfigVersion, run_getConfigVersion] at heq
  have hversion : w'.db.version = w.db.version := Except.ok.inj heq
  apply w.db.bumped_version_ne
  rw [Tables.bumped_version, ← h, hversion]

/-- Without a bump, the configuration has to stay. -/
theorem tracks_iff_of_config {w w' : World} (h : w'.db.config = w.db.config) :
    Tracks w w' ↔ w'.db.fwDevices = w.db.fwDevices := by
  have hversion : w'.db.version = w.db.version := Tables.version_congr h
  constructor
  · intro htracks
    by_contra hne
    apply htracks hne
    rw [run_getConfigVersion, run_getConfigVersion, hversion]
  · intro heq hne
    exact absurd heq hne

theorem tracks_of_db {w w' : World} (h : w'.db = w.db) : Tracks w w' := by
  intro hne
  rw [h] at hne
  exact absurd rfl hne

/-- A device names a profile that is stored. -/
theorem Schema.mudRow_ne_none {t : Tables} (h : Schema t) {d : DeviceDbo} (hd : d ∈ t.devices)
    {url : String} (hurl : d.mudUrl = some url) : t.mudRow url ≠ none := by
  obtain ⟨row, hrow, heq⟩ := List.mem_map.mp (h.mudUrlRef d hd url hurl)
  intro hnone
  have hall := List.find?_eq_none.mp hnone row hrow
  exact hall (by simpa using heq)

/-- The profile of a URL that no device names does not matter. -/
theorem fwDevices_of_unused {a b : Tables} {url : String} (hunused : ∀ d ∈ a.devices, d.mudUrl ≠ some url)
    (hdevices : b.devices = a.devices)
    (hprofile : ∀ other, other ≠ url → b.storedProfile other = a.storedProfile other) :
    b.fwDevices = a.fwDevices := by
  apply (Tables.fwDevices_eq_iff hdevices).mpr
  intro d hd _
  obtain ⟨row, hrow, rfl⟩ := List.mem_map.mp hd
  show profileRules (row.mudUrl.bind b.storedProfile) = profileRules (row.mudUrl.bind a.storedProfile)
  cases hother : row.mudUrl with
  | none => rfl
  | some other =>
      have hne : other ≠ url := by
        rintro rfl
        exact hunused row hrow hother
      rw [Option.bind_some, Option.bind_some, hprofile other hne]

/-! ## The operations that write devices -/

theorem insertDevice_tracks (deviceData : DeviceWithRefs) (w : World) :
    Tracks w ((insertDevice deviceData).run w).2 := by
  by_cases h : Schema (w.db.insertDevice deviceData.inner.toDbo)
  · obtain ⟨id, tasks, hrun⟩ := run_insertDevice deviceData h
    rw [hrun]
    exact tracks_of_bumped (bumped_version_of_config _ rfl)
  · rw [run_insertDevice_refused deviceData h]
    exact tracks_of_db rfl

theorem updateDevice_tracks (deviceData : DeviceWithRefs) (w : World) :
    Tracks w ((updateDevice deviceData).run w).2 := by
  by_cases h : Schema (w.db.updateDevice deviceData.inner.toDbo)
  · obtain ⟨updated, hrun⟩ := run_updateDevice deviceData h
    rw [hrun]
    exact tracks_of_bumped (bumped_version_of_config _ rfl)
  · rw [run_updateDevice_refused deviceData h]
    exact tracks_of_db rfl

theorem deleteDevice_tracks (id : Int) (w : World) : Tracks w ((deleteDevice id).run w).2 := by
  unfold deleteDevice
  by_cases h : Schema (w.db.deleteDevice id)
  · have hexec : (Stmt.deleteDevice id).exec w = (.ok _, { w with db := ⟨w.db.deleteDevice id, h⟩ }) :=
      World.write_ok h _
    rw [Action.run_bind_ok (Action.run_execute_ok (Action.run_stmt_of_exec hexec)),
      Action.run_bind_ok (run_updateConfigVersion _)]
    exact tracks_of_bumped (bumped_version_of_config _ rfl)
  · have hexec : (Stmt.deleteDevice id).exec w = (.error .constraint, w) := World.write_refused h _
    rw [Action.run_bind_error (Action.run_execute_error (Action.run_stmt_of_exec hexec))]
    exact tracks_of_db rfl

/-! ## The operations that write profiles -/

theorem updateMud_tracks (auth : AuthToken) (query : MudUpdateQueryDto) (mudUpdateDto : MudUpdateDto)
    (w : World) : Tracks w ((updateMud auth query mudUpdateDto).run w).2 := by
  have hupdates := updateMud_updates auth query mudUpdateDto w
  generalize (updateMud auth query mudUpdateDto).run w = outcome at hupdates ⊢
  cases hupdates with
  | refused e => exact tracks_of_db rfl
  | updated mud data data' w' hstored hdb =>
      refine tracks_of_bumped ?_
      rw [hdb]
      exact bumped_version_of_config _ rfl

/-- A profile that is created or deleted is one that no device uses. -/
theorem tracks_of_unused {w w' : World} {url : String} (hunused : ∀ d ∈ w.db.devices, d.mudUrl ≠ some url)
    (hdevices : w'.db.devices = w.db.devices) (hconfig : w'.db.config = w.db.config)
    (hprofile : ∀ other, other ≠ url → w'.db.storedProfile other = w.db.storedProfile other) :
    Tracks w w' :=
  (tracks_iff_of_config hconfig).mpr (fwDevices_of_unused hunused hdevices hprofile)

theorem storedProfile_of_mudRow {t t' : Tables} {url : String} (h : t'.mudRow url = t.mudRow url) :
    t'.storedProfile url = t.storedProfile url := by
  unfold Tables.storedProfile
  rw [h]

theorem createMud_tracks (auth : AuthToken) (mudCreationDto : MudCreationDto) (w : World) :
    Tracks w ((createMud auth mudCreationDto).run w).2 := by
  have hcreates := createMud_creates auth mudCreationDto w
  generalize (createMud auth mudCreationDto).run w = outcome at hcreates ⊢
  have hunused (hrow : w.db.mudRow mudCreationDto.mudUrl = none) :
      ∀ d ∈ w.db.devices, d.mudUrl ≠ some mudCreationDto.mudUrl :=
    fun d hd hd' => w.db.schema.mudRow_ne_none hd hd' hrow
  cases hcreates with
  | refused e hno => exact tracks_of_db rfl
  | loading outcome hgrants hrow hurl hloads =>
      refine tracks_of_unused (hunused hrow) hloads.onlyProfiles.devices hloads.onlyProfiles.config ?_
      intro other hother
      rw [hloads.storedProfile]
      cases w.refreshed mudCreationDto.mudUrl <;> simp [lastStored, Ne.symm hother]
  | custom data now createdAt w' hrow hurl hdb =>
      refine tracks_of_unused (hunused hrow) (by rw [hdb]; rfl) (by rw [hdb]; rfl) fun other hother => ?_
      rw [hdb]
      exact storedProfile_of_mudRow (Tables.mudRow_insertMud_other _ _ hother)

theorem deleteMud_tracks (auth : AuthToken) (query : MudUpdateQueryDto) (w : World) :
    Tracks w ((deleteMud auth query).run w).2 := by
  have hdeletes := deleteMud_deletes auth query w
  generalize (deleteMud auth query).run w = outcome at hdeletes ⊢
  cases hdeletes with
  | refused e => exact tracks_of_db rfl
  | deleted w' hunused hdb =>
      refine tracks_of_unused hunused (by rw [hdb]; rfl) (by rw [hdb]; rfl) fun other hother => ?_
      rw [hdb]
      exact storedProfile_of_mudRow (Tables.mudRow_deleteMud_other _ hother)

/-! ## The operations that refresh profiles on the way -/

/-- Loads track exactly if the rules are kept. -/
theorem updateMudUrls_tracks_iff (urls : List String) {w w' : World} (hdb : w'.db = w.db) :
    Tracks w ((updateMudUrls urls).run w').2 ↔ RulesKept w.db.toTables (storedByLoads urls w') := by
  obtain ⟨_, honly, hprofile⟩ := updateMudUrls_loads urls w'
  rw [hdb] at honly hprofile
  rw [tracks_iff_of_config honly.config]
  exact fwDevices_eq_iff_rulesKept honly.devices hprofile

theorem getOrFetchMud_tracks_iff (url : String) (w : World) :
    Tracks w ((getOrFetchMud url).run w).2 ↔ RulesKept w.db.toTables (storedByLoads [url] w) := by
  have hworld : ((updateMudUrls [url]).run w).2 = ((getOrFetchMud url).run w).2 :=
    Action.run_bind_world (fun _ _ => rfl) w
  rw [← hworld]
  exact updateMudUrls_tracks_iff [url] rfl

theorem run_orNotFound {α : Type} (p : Action α) (message : String) (w : World) :
    (orNotFound p message).run w =
      (match (p.run w).1 with
       | .ok a => .ok a
       | .error _ => .error (.responseError 404 (some message)), (p.run w).2) := by
  unfold orNotFound
  rw [Action.run_attempt_bind]
  cases (p.run w).1 <;> rfl

theorem getMuds_tracks_iff (auth : AuthToken) (query : MudQueryDto) (w : World) :
    Tracks w ((getMuds auth query).run w).2 ↔
      (auth.Grants .mudRead → ∀ url ∈ query.mudUrl, RulesKept w.db.toTables (storedByLoads [url] w)) := by
  unfold getMuds
  rcases auth.grants_or_denied .mudRead with hgrants | ⟨e, hdenied⟩
  · rw [auth.run_granted hgrants]
    cases hurl : query.mudUrl with
    | none =>
        have hsame : Tracks w (Action.run (do
            auth.requirePermission .mudList
            Prog.ofExcept (parseAllMuds (← getAllMuds))) w).2 := by
          rcases auth.grants_or_denied .mudList with hlist | ⟨e, hlist⟩
          · rw [auth.run_granted hlist]
            exact tracks_of_db rfl
          · rw [auth.run_denied hlist]
            exact tracks_of_db rfl
        exact iff_of_true hsame fun _ url hu => by cases hu
    | some url =>
        show Tracks w (Action.run (do
            let mud ← orNotFound (getOrFetchMud url) "Couldn't find MUD-Profile"
            return [mud]) w).2 ↔ _
        rw [Action.run_bind_world fun _ _ => rfl, run_orNotFound, getOrFetchMud_tracks_iff]
        constructor
        · intro h _ u hu
          cases hu
          exact h
        · intro h
          exact h hgrants url rfl
  · rw [auth.run_denied hdenied]
    exact iff_of_true (tracks_of_db rfl) fun hgrants => absurd hgrants (AuthToken.not_grants hdenied)

/-- The URLs that `GET /devices` loads. -/
def Tables.deviceUrls (t : Tables) : List String := t.storedDevices.filterMap (·.mudUrl)

theorem listDevices_tracks_iff (auth : AuthToken) (w : World) :
    Tracks w ((listDevices auth).run w).2 ↔
      (auth.Grants .deviceList → auth.Grants .deviceRead →
        RulesKept w.db.toTables (storedByLoads w.db.deviceUrls w)) := by
  unfold listDevices
  rcases auth.grants_or_denied .deviceList with hlist | ⟨e, hlist⟩
  · rw [auth.run_granted hlist]
    rcases auth.grants_or_denied .deviceRead with hread | ⟨e, hread⟩
    · rw [auth.run_granted hread, Action.run_bind_ok (run_getAllDevices w)]
      have hrooms : ∀ d ∈ w.db.storedDevices, ∀ id ∈ d.roomId, (w.db.room id).isSome := by
        intro d hd
        obtain ⟨row, hrow, rfl⟩ := List.mem_map.mp hd
        exact w.db.schema.room_isSome hrow
      rw [Action.run_bind_world fun _ _ => rfl, run_mapM_loadRefs_world _ _ hrooms]
      change Tracks w ((updateMudUrls w.db.deviceUrls).run w).2 ↔ _
      rw [updateMudUrls_tracks_iff _ rfl]
      exact ⟨fun h _ _ => h, fun h => h hlist hread⟩
    · rw [auth.run_denied hread]
      exact iff_of_true (tracks_of_db rfl) fun _ hgrants => absurd hgrants (AuthToken.not_grants hread)
  · rw [auth.run_denied hlist]
    exact iff_of_true (tracks_of_db rfl) fun hgrants => absurd hgrants (AuthToken.not_grants hlist)

/-! ## The hourly refresh -/

theorem updateOutdatedProfiles_tracks_iff (w : World) :
    Tracks w (updateOutdatedProfiles.run w).2 ↔
      LoadsEach w.outdated w.afterOutdated ∨
        RulesKept w.db.toTables (storedByLoads w.outdated w.afterOutdated) := by
  have hdb : w.afterOutdated.db = w.db := rfl
  obtain ⟨hsuccess, honly, _⟩ := updateMudUrls_loads w.outdated w.afterOutdated
  have htracks := updateMudUrls_tracks_iff w.outdated hdb
  have hrefreshes := updateOutdatedProfiles_refreshes w
  generalize updateOutdatedProfiles.run w = outcome at hrefreshes ⊢
  cases hrefreshes with
  | nothing hnone =>
      rw [hnone]
      exact iff_of_true (tracks_of_db hdb) (.inl trivial)
  | refreshed w' hrun =>
      rw [hrun] at hsuccess honly
      -- every profile has loaded: the version is bumped
      refine iff_of_true (tracks_of_bumped ?_) (.inl (hsuccess.mp rfl))
      exact bumped_version_of_config w'.db.toTables (honly.config.trans (congrArg (·.config) hdb))
  | failed e w' hrun =>
      rw [hrun] at hsuccess htracks
      rw [htracks]
      have hnot : ¬ LoadsEach w.outdated w.afterOutdated := fun h => by cases hsuccess.mpr h
      exact ⟨.inr, fun h => h.resolve_left hnot⟩

/-! ## Leases -/

theorem storedByLoads_singleton (url : String) (w : World) :
    storedByLoads [url] w = ((w.refreshed url).map fun data => (url, data)).toList := by
  simp [storedByLoads]

/-- The profiles after the load that a lease makes. -/
theorem Refreshes.storedProfile {w : World} {url : Option String} {t : Tables}
    (h : Refreshes w url t.mudData) (other : String) :
    t.storedProfile other =
      (lastStored other (storedByLoads url.toList w)).or (w.db.storedProfile other) := by
  generalize hmudData : t.mudData = mudData at h
  cases h with
  | none => exact storedProfile_congr hmudData other
  | unchanged url hrefreshed =>
      show _ = (lastStored other (storedByLoads [url] w)).or _
      rw [storedByLoads_singleton, hrefreshed]
      exact storedProfile_congr hmudData other
  | stored url data createdAt hrefreshed =>
      show _ = (lastStored other (storedByLoads [url] w)).or _
      have hrow : t.mudData = (w.db.upsertMud (fetchedRow url data createdAt)).mudData := hmudData
      rw [storedByLoads_singleton, hrefreshed, storedProfile_congr hrow, storedProfile_upsertMud]
      by_cases hother : url = other <;> simp [lastStored, hother]

theorem mem_fwDevices {t : Tables} {e : FirewallDevice} :
    e ∈ t.fwDevices ↔ ∃ d ∈ t.devices, (Device.fromDbo d).addressed ∧
      convertDeviceToFwRules (t.withStoredRefs (Device.fromDbo d)) = e := by
  rw [Tables.fwDevices_eq]
  unfold Tables.storedDevices
  simp [and_assoc]

omit [Platform] in
/-- An address column that has lost its address does not read as before. -/
theorem parse_ne_of_lost {α : Type} [TextForm α] {a : α} {before after : Option String}
    (h : after = before ∨ after = none) (hbefore : before = some (toText a)) (hlost : after ≠ some (toText a)) :
    after.bind (parse : String → Option α) ≠ before.bind parse := by
  rcases h with hkeep | hnone
  · exact absurd (hkeep.trans hbefore) hlost
  · rw [hnone, hbefore, Option.bind_some, parse_toText]
    simp

/-- An address that a lease takes away is missing from the configuration. -/
theorem addressesFree_of_fwDevices {w w' : World} {lease : DhcpLeaseInformation}
    (hdevices : w'.db.devices = w.clearedDevices lease) (hfw : w'.db.fwDevices = w.db.fwDevices) :
    w.LeaseAddressesFree lease := by
  intro d hd
  have hclears := clears_withoutIps (w.leaseDevice lease).ipv4Addr (w.leaseDevice lease).ipv6Addr
  generalize hcleared : d.withoutIps (w.leaseDevice lease).ipv4Addr (w.leaseDevice lease).ipv6Addr = d₁
  have hentry (haddressed : (Device.fromDbo d).addressed) :
      (Device.fromDbo d₁).ipv4Addr = (Device.fromDbo d).ipv4Addr ∧
        (Device.fromDbo d₁).ipv6Addr = (Device.fromDbo d).ipv6Addr := by
    -- the entry of the row is still there, and comes from the one row with its id
    have hmem := mem_fwDevices.mpr ⟨d, hd, haddressed, rfl⟩
    rw [← hfw] at hmem
    obtain ⟨d', hd', _, heq⟩ := mem_fwDevices.mp hmem
    have hid : d'.id = d.id := congrArg FirewallDevice.id heq
    have hsame : d' = d₁ := by
      rw [hdevices] at hd'
      obtain ⟨d₀, hd₀, rfl⟩ := List.mem_map.mp hd'
      rw [hclears.id] at hid
      rw [List.inj_on_of_nodup_map w.db.schema.deviceIds hd₀ hd hid, hcleared]
    rw [← hsame]
    exact ⟨congrArg FirewallDevice.ipv4Addr heq, congrArg FirewallDevice.ipv6Addr heq⟩
  constructor
  · intro a ha hrow
    -- a lost address shows in the entry of its row
    have hparsed : (Device.fromDbo d).ipv4Addr = some a := by
      show d.ipv4Addr.bind parse = some a
      rw [hrow, Option.bind_some, parse_toText]
    have hlost := d.withoutIps_ipv4 _ (w.leaseDevice lease).ipv6Addr a ha
    rw [hcleared] at hlost
    apply parse_ne_of_lost (hcleared ▸ hclears.ipv4Addr d) hrow hlost
    exact (hentry (by simp [Device.addressed, hparsed])).1
  · intro a ha hrow
    have hparsed : (Device.fromDbo d).ipv6Addr = some a := by
      show d.ipv6Addr.bind parse = some a
      rw [hrow, Option.bind_some, parse_toText]
    have hlost := d.withoutIps_ipv6 (w.leaseDevice lease).ipv4Addr _ a ha
    rw [hcleared] at hlost
    apply parse_ne_of_lost (hcleared ▸ hclears.ipv6Addr d) hrow hlost
    exact (hentry (by simp [Device.addressed, hparsed])).2

/-- The profiles that a lease stores on the way. -/
def World.storedByLease (w : World) (lease : DhcpLeaseInformation) : List (String × MudData) :=
  storedByLoads (w.leaseDevice lease).mudUrl.toList (w.leaseWorld lease)

theorem lease_tracks_iff (w : World) (lease : DhcpLeaseInformation) :
    Tracks w ((upsertDeviceFromDhcpLease lease).run w).2 ↔
      w.LeaseCompletes lease ∨
        (w.LeaseAddressesFree lease ∧ RulesKept w.db.toTables (w.storedByLease lease)) := by
  have hleases := lease_leases w lease
  generalize (upsertDeviceFromDhcpLease lease).run w = r at hleases
  cases hleases with
  | done w' hcompletes hdevices hversion => exact iff_of_true (tracks_of_bumped hversion) (.inl hcompletes)
  | failed e w' hcompletes hdevices hconfig hrefreshes =>
      have hprofile : ∀ url, w'.db.storedProfile url =
          (lastStored url (w.storedByLease lease)).or (w.db.storedProfile url) := by
        intro url
        have h := hrefreshes.storedProfile url
        rw [w.leaseWorld_db lease] at h
        exact h
      rw [tracks_iff_of_config hconfig]
      -- without a bump, both what was cleared and what was stored have to be harmless
      constructor
      · intro hfw
        have hfree := addressesFree_of_fwDevices hdevices hfw
        have hsame := hdevices.trans ((clearedDevices_eq_iff w lease).mpr hfree)
        exact .inr ⟨hfree, (fwDevices_eq_iff_rulesKept hsame hprofile).mp hfw⟩
      · intro h
        obtain ⟨hfree, hkept⟩ := h.resolve_left hcompletes
        have hsame := hdevices.trans ((clearedDevices_eq_iff w lease).mpr hfree)
        exact (fwDevices_eq_iff_rulesKept hsame hprofile).mpr hkept

/-! ## All operations -/

/-- The operation announces what it changes, or keeps the configuration: it writes a row and bumps the
    version, or only a profile that no device uses; the profiles that it refreshes without a bump
    mean the same rules as before; and a lease that fails has taken no address away. -/
def Operation.Accounted (w : World) : Operation → Prop
  | .insertDevice _ => True
  | .updateDevice _ => True
  | .deleteDevice _ => True
  | .updateMud _ _ _ => True
  | .createMud _ _ => True
  | .deleteMud _ _ => True
  | .upsertDeviceFromDhcpLease lease =>
      w.LeaseCompletes lease ∨
        (w.LeaseAddressesFree lease ∧ RulesKept w.db.toTables (w.storedByLease lease))
  | .updateOutdatedProfiles =>
      LoadsEach w.outdated w.afterOutdated ∨
        RulesKept w.db.toTables (storedByLoads w.outdated w.afterOutdated)
  | .getOrFetchMud url => RulesKept w.db.toTables (storedByLoads [url] w)
  | .getMuds auth query =>
      auth.Grants .mudRead → ∀ url ∈ query.mudUrl, RulesKept w.db.toTables (storedByLoads [url] w)
  | .listDevices auth =>
      auth.Grants .deviceList → auth.Grants .deviceRead →
        RulesKept w.db.toTables (storedByLoads w.db.deviceUrls w)

/-- **One operation**: the version tracks the configuration exactly if the operation is accounted for. -/
theorem operation_tracks_iff (w : World) (op : Operation) :
    Tracks w (op.after w) ↔ op.Accounted w := by
  cases op with
  | insertDevice deviceData => exact iff_of_true (insertDevice_tracks deviceData w) trivial
  | updateDevice deviceData => exact iff_of_true (updateDevice_tracks deviceData w) trivial
  | deleteDevice id => exact iff_of_true (deleteDevice_tracks id w) trivial
  | upsertDeviceFromDhcpLease lease => exact lease_tracks_iff w lease
  | updateMud auth query mudUpdateDto => exact iff_of_true (updateMud_tracks auth query mudUpdateDto w) trivial
  | createMud auth mudCreationDto => exact iff_of_true (createMud_tracks auth mudCreationDto w) trivial
  | deleteMud auth query => exact iff_of_true (deleteMud_tracks auth query w) trivial
  | updateOutdatedProfiles => exact updateOutdatedProfiles_tracks_iff w
  | getOrFetchMud url => exact getOrFetchMud_tracks_iff url w
  | getMuds auth query => exact getMuds_tracks_iff auth query w
  | listDevices auth => exact listDevices_tracks_iff auth w

/-- The world after a run of operations. -/
def Operation.run (w : World) (ops : List Operation) : World := ops.foldl Operation.after w

/-- **When the version tracks the configuration.** In every run of operations, every step tracks exactly if
    every step is accounted for. -/
theorem version_tracks_iff (w : World) (ops : List Operation) :
    (∀ pre op post, ops = pre ++ op :: post →
      Tracks (Operation.run w pre) (op.after (Operation.run w pre))) ↔
    (∀ pre op post, ops = pre ++ op :: post → op.Accounted (Operation.run w pre)) := by
  constructor
  · intro h pre op post hops
    exact (operation_tracks_iff _ op).mp (h pre op post hops)
  · intro h pre op post hops
    exact (operation_tracks_iff _ op).mpr (h pre op post hops)

end

section

attribute [local instance] Reference.platform

/-- A device whose expired profile has no ACLs, and a network that has its MUD file. -/
def lampInUse : World :=
  { Reference.offline
      (Reference.tables
        [Reference.row 1 (some "10.0.0.5") (some 1) none (some "https://mud.example/lamp")]
        [⟨"https://mud.example/lamp", serialize (Reference.profile [] []), 0, 0⟩] [])
      (by decide) with
    network := fun _ _ => .ok Reference.mudFile }

set_option maxRecDepth 20000 in
/-- A profile refreshed on the way, and an address taken away by a lease that fails, change the configuration
    under the same version. -/
theorem version_not_tracks :
    ¬ Tracks lampInUse (Operation.after lampInUse (.getOrFetchMud "https://mud.example/lamp")) ∧
    ¬ Tracks Reference.oneDevice (Operation.after Reference.oneDevice (.upsertDeviceFromDhcpLease strangerLease)) := by
  constructor
  · intro htracks
    exact absurd ((tracks_iff_of_config (by decide)).mp htracks) (by decide)
  · intro htracks
    exact absurd ((tracks_iff_of_config (by decide)).mp htracks) (by decide)

end

end MudController
