import MudController.Logic.Sequence
import MudController.Reference
import MudController.Run.Device
import MudController.Run.Profiles

/-!
# `Override` — the override of an administrator over a run

The override of a profile is kept inside the stored profile, which five operations rewrite. Beside the
world, a run carries the list that was last supplied for every stored profile; a custom profile starts with
the list of its request, a profile behind a URL starts without one, whatever its request says. So the stored
overrides are the supplied ones exactly as long as no request for a URL that loads brings a list
(`overrides_kept_iff`).
-/

namespace MudController

open Logic

section

variable [Platform]

/-! ## Calls -/

/-- An operation on profiles, under its name in the source. -/
inductive MudCall where
  | createMud (auth : AuthToken) (mudCreationDto : MudCreationDto)
  | updateMud (auth : AuthToken) (query : MudUpdateQueryDto) (mudUpdateDto : MudUpdateDto)
  | deleteMud (auth : AuthToken) (query : MudUpdateQueryDto)
  | getOrFetchMud (url : String)
  | updateOutdatedProfiles

/-- The list that a request brings, with the URL it is for; without one, it brings the empty list. -/
def MudCall.override : MudCall → Option (String × List Acl)
  | .createMud _ mudCreationDto => some (mudCreationDto.mudUrl, mudCreationDto.aclOverride.getD [])
  | .updateMud _ query mudUpdateDto => some (query.mudUrl, mudUpdateDto.aclOverride.getD [])
  | _ => none

/-- Whether a call of the source succeeds, and the world after it. -/
def outcomeOf {α : Type} (p : Action α) (w : World) : Bool × World := ((p.run w).1.isOk, (p.run w).2)

/-- Run a call by itself. -/
def MudCall.run (w : World) : MudCall → Bool × World
  | .createMud auth mudCreationDto => outcomeOf (MudController.createMud auth mudCreationDto) w
  | .updateMud auth query mudUpdateDto => outcomeOf (MudController.updateMud auth query mudUpdateDto) w
  | .deleteMud auth query => outcomeOf (MudController.deleteMud auth query) w
  | .getOrFetchMud url => outcomeOf (MudController.getOrFetchMud url) w
  | .updateOutdatedProfiles => outcomeOf MudController.updateOutdatedProfiles w

/-- A world, with the override last supplied for every profile. -/
structure Overseen where
  world : World
  supplied : String → List Acl

/-- The list that a successful request brings is the one supplied for its URL. -/
def resupplied (supplied : String → List Acl) (success : Bool) :
    Option (String × List Acl) → String → List Acl
  | some (url, aclOverride) => if success then Function.update supplied url aclOverride else supplied
  | none => supplied

/-- Nothing is supplied for what is not stored. -/
def World.forgotten (w : World) (supplied : String → List Acl) (url : String) : List Acl :=
  if (w.db.mudRow url).isNone then [] else supplied url

/-- One call, with the lists supplied after it. -/
def Overseen.step (o : Overseen) (call : MudCall) : Overseen where
  world := (call.run o.world).2
  supplied := (call.run o.world).2.forgotten (resupplied o.supplied (call.run o.world).1 call.override)

/-- Every stored profile parses, and has the override that `supplied` names for its URL. -/
def StoresOverrides (t : Tables) (supplied : String → List Acl) : Prop :=
  ∀ url mud, t.mudRow url = some mud → ∃ data, mud.parseData = some data ∧ data.aclOverride = supplied url

/-- Every stored profile has the override that was last supplied for it. -/
structure OverridesKept (o : Overseen) : Prop where
  stored : StoresOverrides o.world.db.toTables o.supplied
  absent : ∀ url, o.world.db.mudRow url = none → o.supplied url = []

/-- The request does not lose its list: it brings none, or its profile is a custom one, or exists, or does not
    load. -/
def MudCall.KeepsList (w : World) : MudCall → Prop
  | .createMud auth mudCreationDto =>
      auth.Grants .mudCreate → w.db.mudRow mudCreationDto.mudUrl = none → isUrl mudCreationDto.mudUrl = true →
        (w.refreshed mudCreationDto.mudUrl).isSome → mudCreationDto.aclOverride.getD [] = []
  | _ => True

/-! ## Writes -/

section

variable {t t' : Tables} {supplied : String → List Acl}

theorem StoresOverrides.of_mudData (h : StoresOverrides t supplied) (hdb : t'.mudData = t.mudData) :
    StoresOverrides t' supplied := by
  unfold StoresOverrides Tables.mudRow at h ⊢
  rw [hdb]
  exact h

/-- A profile that is written under its URL has the override that is written. -/
theorem StoresOverrides.write_iff (h : StoresOverrides t supplied) {row : MudDbo} {data : MudData}
    (hparse : row.parseData = some data) (aclOverride : List Acl) (hrow : t'.mudRow row.url = some row)
    (hother : ∀ url, url ≠ row.url → t'.mudRow url = t.mudRow url) :
    StoresOverrides t' (Function.update supplied row.url aclOverride) ↔ data.aclOverride = aclOverride := by
  constructor
  · intro h'
    obtain ⟨data', hparse', hoverride⟩ := h' row.url row hrow
    rw [hparse] at hparse'
    cases hparse'
    rwa [Function.update_self] at hoverride
  · rintro rfl url mud hmud
    by_cases hurl : url = row.url
    · subst hurl
      rw [hrow] at hmud
      cases hmud
      exact ⟨data, hparse, by rw [Function.update_self]⟩
    · rw [Function.update_of_ne hurl]
      exact h url mud (hother url hurl ▸ hmud)

theorem StoresOverrides.upsertMud_iff (h : StoresOverrides t supplied) {row : MudDbo} {data : MudData}
    (hparse : row.parseData = some data) (aclOverride : List Acl) :
    StoresOverrides (t.upsertMud row) (Function.update supplied row.url aclOverride) ↔
      data.aclOverride = aclOverride :=
  h.write_iff hparse aclOverride (t.mudRow_upsertMud row) fun _ hurl => t.mudRow_upsertMud_other row hurl

/-- A profile written with the override that it is to have. -/
theorem StoresOverrides.upsertMud (h : StoresOverrides t supplied) {row : MudDbo} {data : MudData}
    (hparse : row.parseData = some data) (hoverride : data.aclOverride = supplied row.url) :
    StoresOverrides (t.upsertMud row) supplied := by
  have hwritten := (h.upsertMud_iff hparse (supplied row.url)).mpr hoverride
  rwa [Function.update_eq_self] at hwritten

theorem StoresOverrides.insertMud_iff (h : StoresOverrides t supplied) {row : MudDbo} {data : MudData}
    (hnew : t.mudRow row.url = none) (hparse : row.parseData = some data) (aclOverride : List Acl) :
    StoresOverrides (t.insertMud row) (Function.update supplied row.url aclOverride) ↔
      data.aclOverride = aclOverride :=
  h.write_iff hparse aclOverride (t.mudRow_insertMud hnew) fun _ hurl => t.mudRow_insertMud_other row hurl

theorem StoresOverrides.deleteMud (h : StoresOverrides t supplied) (url : String) :
    StoresOverrides (t.deleteMud url) supplied := by
  intro other mud hmud
  by_cases hother : other = url
  · rw [hother, Tables.mudRow_deleteMud] at hmud
    cases hmud
  · rw [Tables.mudRow_deleteMud_other t hother] at hmud
    exact h other mud hmud

end

/-! ## Loads -/

/-- A file brings no override. -/
theorem parseMudJson_override {now : DateTime} {url : String} {mudJson : MudJson} {data : MudData}
    (h : parseMudJson now url mudJson = .ok data) : data.aclOverride = [] := by
  unfold parseMudJson at h
  obtain ⟨_, _, h⟩ := exists_of_bind_ok h
  obtain ⟨_, _, h⟩ := exists_of_bind_ok h
  obtain ⟨_, _, h⟩ := exists_of_bind_ok h
  obtain ⟨_, _, h⟩ := exists_of_bind_ok h
  cases h
  rfl

theorem fetchedProfile_override {answer : Except Error String} {url : String} {now : DateTime}
    {data : MudData} (h : fetchedProfile answer url now = some data) : data.aclOverride = [] := by
  obtain ⟨mudJson, _, hparse⟩ := Option.bind_eq_some_iff.mp h
  cases hresult : parseMudJson now url mudJson with
  | error e =>
      rw [hresult] at hparse
      cases hparse
  | ok data' =>
      rw [hresult] at hparse
      cases hparse
      exact parseMudJson_override hresult

/-- What a load stores: the override of the profile that it replaces, or none. -/
theorem World.fetched_override {w : World} {url : String} {expired : Option MudData} {now : DateTime}
    {data : MudData} (h : w.fetched url expired now = some data) :
    data.aclOverride = (expired.map (·.aclOverride)).getD [] := by
  unfold World.fetched at h
  split at h
  · obtain ⟨fetched, hfetched, rfl⟩ := Option.map_eq_some_iff.mp h
    cases expired with
    | none => exact fetchedProfile_override hfetched
    | some old => rfl
  · cases h

section

variable {w : World} {supplied : String → List Acl}

/-- A stored profile is found with its row under the invariant. -/
theorem StoresOverrides.stored (h : StoresOverrides w.db.toTables supplied) {url : String} {mud : MudDbo}
    (hrow : w.db.mudRow url = some mud) :
    ∃ data, w.stored url = some (mud, data) ∧ data.aclOverride = supplied url := by
  obtain ⟨data, hparse, hoverride⟩ := h url mud hrow
  refine ⟨data, ?_, hoverride⟩
  unfold World.stored
  rw [hrow, Option.bind_some, hparse]
  rfl

theorem World.stored_of_no_row {url : String} (hrow : w.db.mudRow url = none) : w.stored url = none := by
  unfold World.stored
  rw [hrow]
  rfl

/-- A refreshed profile has the override that was last supplied. -/
theorem StoresOverrides.refreshed (h : StoresOverrides w.db.toTables supplied)
    (habsent : ∀ url, w.db.mudRow url = none → supplied url = []) {url : String} {data : MudData}
    (hrefreshed : w.refreshed url = some data) : data.aclOverride = supplied url := by
  cases hrow : w.db.mudRow url with
  | none =>
      rw [World.refreshed_absent (World.stored_of_no_row hrow)] at hrefreshed
      rw [World.fetched_override hrefreshed, habsent url hrow]
      rfl
  | some mud =>
      obtain ⟨old, hstored, hoverride⟩ := h.stored hrow
      rw [World.refreshed_stored hstored] at hrefreshed
      split at hrefreshed
      · cases hrefreshed
      · rw [World.fetched_override hrefreshed]
        exact hoverride

/-- **A load keeps the overrides.** -/
theorem OverridesKept.loads (h : OverridesKept ⟨w, supplied⟩) {url : String}
    {outcome : Except Error MudData × World} (hloads : Loads w url outcome) :
    OverridesKept ⟨outcome.2, supplied⟩ := by
  constructor
  · cases hloads with
    | kept data w' hrefreshed hkept hdb => exact h.stored.of_mudData (congrArg (·.mudData) hdb)
    | failed e w' hrefreshed hkept hdb => exact h.stored.of_mudData (congrArg (·.mudData) hdb)
    | refreshed data createdAt w' hrefreshed hdb =>
        show StoresOverrides w'.db.toTables supplied
        rw [hdb]
        exact h.stored.upsertMud (MudDbo.parseData_serialize _ _ _ _) (h.stored.refreshed h.absent hrefreshed)
  · intro url hnone
    exact h.absent url (hloads.onlyProfiles.absent hnone)

/-- Loading profiles one after another keeps the overrides. -/
theorem OverridesKept.updateMudUrls (h : OverridesKept ⟨w, supplied⟩) (urls : List String) :
    OverridesKept ⟨((updateMudUrls urls).run w).2, supplied⟩ := by
  induction urls generalizing w with
  | nil => exact h
  | cons url urls ih =>
      have hloads := h.loads (getOrFetchMud_loads url w)
      unfold MudController.updateMudUrls
      cases hr : (getOrFetchMud url).run w with
      | mk r w' =>
          rw [hr] at hloads
          cases r with
          | error e =>
              rw [Action.run_bind_error hr]
              exact hloads
          | ok data =>
              rw [Action.run_bind_ok hr]
              exact ih hloads

end

/-! ## One call -/

/-- What is not stored after a call has nothing supplied. -/
theorem overridesKept_step_iff {α : Type} {o : Overseen} {call : MudCall} (p : Action α)
    (hcall : call.run o.world = outcomeOf p o.world) :
    OverridesKept (o.step call) ↔ StoresOverrides (p.run o.world).2.db.toTables
      (resupplied o.supplied (p.run o.world).1.isOk call.override) := by
  unfold Overseen.step World.forgotten
  rw [hcall]
  unfold outcomeOf
  generalize p.run o.world = outcome
  have hstored (url : String) (mud : MudDbo) (hrow : outcome.2.db.mudRow url = some mud) :
      (if (outcome.2.db.mudRow url).isNone then [] else resupplied o.supplied outcome.1.isOk call.override url) =
        resupplied o.supplied outcome.1.isOk call.override url := if_neg (by simp [hrow])
  constructor
  · intro h url mud hrow
    obtain ⟨data, hparse, hoverride⟩ := h.stored url mud hrow
    exact ⟨data, hparse, hoverride.trans (hstored url mud hrow)⟩
  · intro h
    refine ⟨fun url mud hrow => ?_, fun url hnone => if_pos (by simp [hnone])⟩
    obtain ⟨data, hparse, hoverride⟩ := h url mud hrow
    exact ⟨data, hparse, hoverride.trans (hstored url mud hrow).symm⟩

/-- A profile that is loaded for the first time has no override. -/
theorem OverridesKept.creates_iff {o : Overseen} (h : OverridesKept o) {url : String} {w' : World}
    {r : Except Error MudData} (hrow : o.world.db.mudRow url = none) (hloads : Loads o.world url (r, w'))
    (aclOverride : List Acl) :
    StoresOverrides w'.db.toTables (resupplied o.supplied r.isOk (some (url, aclOverride))) ↔
      ((o.world.refreshed url).isSome → aclOverride = []) := by
  have hkept := World.kept_absent (World.stored_of_no_row hrow)
  cases hloads with
  | kept data w' hrefreshed hkept' hdb =>
      rw [hkept] at hkept'
      cases hkept'
  | failed e w' hrefreshed hkept hdb =>
      refine iff_of_true (h.stored.of_mudData (congrArg (·.mudData) hdb)) ?_
      rw [hrefreshed]
      exact fun hsome => nomatch hsome
  | refreshed data createdAt w' hrefreshed hdb =>
      have hempty : data.aclOverride = [] :=
        (h.stored.refreshed h.absent hrefreshed).trans (h.absent url hrow)
      have hparse : (fetchedRow url data createdAt).parseData = some data := MudDbo.parseData_serialize _ _ _ _
      rw [hdb]
      refine (h.stored.upsertMud_iff hparse aclOverride).trans ?_
      rw [hempty, hrefreshed]
      exact ⟨fun he _ => he.symm, fun he => (he rfl).symm⟩

/-- An update has the list that it brings, or leaves the profiles as they are. -/
theorem StoresOverrides.updates {w : World} {supplied : String → List Acl}
    (h : StoresOverrides w.db.toTables supplied) {url : String} {mudUpdateDto : MudUpdateDto} {outcome : Except Error MudData × World}
    (hupdates : UpdatesMud w url mudUpdateDto outcome) :
    StoresOverrides outcome.2.db.toTables
      (resupplied supplied outcome.1.isOk (some (url, mudUpdateDto.aclOverride.getD []))) := by
  cases hupdates with
  | refused e => exact h
  | updated mud data data' w' hstored hdb =>
      obtain ⟨_, _, hurl⟩ := World.stored_url hstored
      have hparse : (withOverride mud data (mudUpdateDto.aclOverride.getD [])).parseData =
          some { data with aclOverride := mudUpdateDto.aclOverride.getD [] } :=
        MudDbo.parseData_serialize _ _ _ _
      have hwritten := (h.upsertMud_iff hparse (mudUpdateDto.aclOverride.getD [])).mpr rfl
      rw [show (withOverride mud data (mudUpdateDto.aclOverride.getD [])).url = url from hurl] at hwritten
      rw [hdb]
      exact hwritten.of_mudData rfl

/-- A refresh of the expired profiles keeps the overrides. -/
theorem OverridesKept.refreshes {w : World} {supplied : String → List Acl} (h : OverridesKept ⟨w, supplied⟩)
    {outcome : Except Error Unit × World} (hrefreshes : RefreshesOutdated w outcome) :
    StoresOverrides outcome.2.db.toTables supplied := by
  have hbefore : OverridesKept ⟨w.afterOutdated, supplied⟩ := ⟨h.stored, h.absent⟩
  have hloaded := hbefore.updateMudUrls w.outdated
  cases hrefreshes with
  | nothing hnone => exact h.stored
  | refreshed w' hrun =>
      rw [hrun] at hloaded
      exact hloaded.stored.of_mudData rfl
  | failed e w' hrun =>
      rw [hrun] at hloaded
      exact hloaded.stored

/-- **What a call does to the overrides.** -/
theorem Overseen.step_kept_iff {o : Overseen} (h : OverridesKept o) (call : MudCall) :
    OverridesKept (o.step call) ↔ call.KeepsList o.world := by
  cases call with
  | createMud auth mudCreationDto =>
      have hcreates := createMud_creates auth mudCreationDto o.world
      rw [overridesKept_step_iff (createMud auth mudCreationDto) rfl]
      generalize (createMud auth mudCreationDto).run o.world = outcome at hcreates
      unfold MudCall.KeepsList MudCall.override
      cases hcreates with
      | refused e hno => exact iff_of_true h.stored fun hgrants hrow => absurd ⟨hgrants, hrow⟩ hno
      | loading outcome hgrants hrow hurl hloads =>
          rw [h.creates_iff hrow hloads]
          exact ⟨fun hempty _ _ _ => hempty, fun hempty => hempty hgrants hrow hurl⟩
      | custom data now createdAt w' hrow hurl hdb =>
          -- a custom profile starts with the list of its request
          refine iff_of_true ?_ fun _ _ hurl' => absurd hurl' hurl
          have hparse : (customRow mudCreationDto now createdAt).parseData = some
              (generateEmptyCustomMudProfile mudCreationDto.mudUrl (mudCreationDto.aclOverride.getD []) now) :=
            MudDbo.parseData_serialize _ _ _ _
          rw [hdb]
          exact (h.stored.insertMud_iff hrow hparse _).mpr rfl
  | updateMud auth query mudUpdateDto =>
      rw [overridesKept_step_iff (updateMud auth query mudUpdateDto) rfl]
      exact iff_of_true (h.stored.updates (updateMud_updates auth query mudUpdateDto o.world)) trivial
  | deleteMud auth query =>
      have hdeletes := deleteMud_deletes auth query o.world
      rw [overridesKept_step_iff (deleteMud auth query) rfl]
      generalize (deleteMud auth query).run o.world = outcome at hdeletes
      refine iff_of_true ?_ trivial
      cases hdeletes with
      | refused e => exact h.stored
      | deleted w' hunused hdb =>
          rw [hdb]
          exact h.stored.deleteMud query.mudUrl
  | getOrFetchMud url =>
      rw [overridesKept_step_iff (getOrFetchMud url) rfl]
      exact iff_of_true (h.loads (getOrFetchMud_loads url o.world)).stored trivial
  | updateOutdatedProfiles =>
      rw [overridesKept_step_iff updateOutdatedProfiles rfl]
      exact iff_of_true (h.refreshes (updateOutdatedProfiles_refreshes o.world)) trivial

/-- **The override of an administrator.** From a state in which every stored profile has the override last
    supplied for it, this holds after every call of a run if and only if no request of the run to create a
    profile behind a URL that loads brings a list. -/
theorem overrides_kept_iff {o : Overseen} (h : OverridesKept o) (calls : List MudCall) :
    (∀ pre post, calls = pre ++ post → OverridesKept (pre.foldl Overseen.step o)) ↔
      ∀ pre call post, calls = pre ++ call :: post → call.KeepsList (pre.foldl Overseen.step o).world := by
  have hstep (o : Overseen) (call : MudCall) (h : OverridesKept o) :
      OverridesKept (o.step call) ↔ call.KeepsList o.world := Overseen.step_kept_iff h call
  exact run_keeps_iff hstep h calls

end

section

attribute [local instance] Reference.platform

/-- No profiles, and a network that has the MUD file. -/
def noProfiles : Overseen where
  world := { Reference.noDevices with network := fun _ _ => .ok Reference.mudFile }
  supplied _ := []

/-- An override that denies a host. -/
def denyCloud : List Acl := [⟨"from", .fromDevice, .ipv4, [Reference.hostAce .deny "cloud.example"]⟩]

theorem noProfiles_kept : OverridesKept noProfiles where
  stored _ _ hrow := nomatch hrow
  absent _ _ := rfl

set_option maxRecDepth 20000 in
/-- The override in a request for the profile behind a URL is dropped, although the request succeeds. -/
theorem override_dropped :
    ((MudCall.createMud rootAuth ⟨lampUrl, some denyCloud⟩).run noProfiles.world).1 = true ∧
    ¬ OverridesKept (noProfiles.step (.createMud rootAuth ⟨lampUrl, some denyCloud⟩)) := by
  refine ⟨by decide, fun h => ?_⟩
  have hempty : denyCloud = [] :=
    (Overseen.step_kept_iff noProfiles_kept _).mp h (by rfl) (by rfl) (by decide) (by decide)
  cases hempty

/-- The override in a request for a custom profile is kept. -/
theorem override_kept_custom :
    OverridesKept (noProfiles.step (.createMud rootAuth ⟨"lamp", some denyCloud⟩)) := by
  apply (overrides_kept_iff noProfiles_kept [.createMud rootAuth ⟨"lamp", some denyCloud⟩]).mpr _
    [.createMud rootAuth ⟨"lamp", some denyCloud⟩] [] rfl
  exact forall_split_singleton fun _ _ hurl => absurd hurl (by decide)

end

end MudController
