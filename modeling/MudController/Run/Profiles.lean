import MudController.Run.Announce
import MudController.Run.Mud

/-!
# `Run.Profiles` — the profile endpoints, run by themselves

What `create_mud`, `update_mud` and `delete_mud` return, and the tables that they leave behind.
-/

namespace MudController

open Logic

variable [Platform]

/-! ## Rows of other profiles -/

theorem Tables.mudRow_insertMud_other (t : Tables) (row : MudDbo) {url : String} (h : url ≠ row.url) :
    (t.insertMud row).mudRow url = t.mudRow url := by
  have hnone : [row].find? (fun m => decide (m.url = url)) = none := by simp [Ne.symm h]
  show (t.mudData ++ [row]).find? _ = _
  rw [List.find?_append, hnone, Option.or_none]
  rfl

theorem Tables.mudRow_insertMud (t : Tables) {row : MudDbo} (h : t.mudRow row.url = none) :
    (t.insertMud row).mudRow row.url = some row := by
  show (t.mudData ++ [row]).find? _ = _
  rw [List.find?_append, show t.mudData.find? _ = none from h, Option.none_or]
  simp

theorem Tables.mudRow_deleteMud_other (t : Tables) {url other : String} (h : other ≠ url) :
    (t.deleteMud url).mudRow other = t.mudRow other := by
  show (t.mudData.filter _).find? _ = t.mudData.find? _
  rw [List.find?_filter]
  congr 1
  funext m
  by_cases hm : m.url = other <;> simp [hm, h]

theorem Tables.mudRow_deleteMud (t : Tables) (url : String) : (t.deleteMud url).mudRow url = none := by
  refine List.find?_eq_none.mpr fun m hm => ?_
  simpa using (List.mem_filter.mp hm).2

/-- A row under a new URL never violates the schema. -/
theorem Schema.insertMud {t : Tables} (h : Schema t) {row : MudDbo} (hnew : t.mudRow row.url = none) :
    Schema (t.insertMud row) := by
  have hfree : row.url ∉ t.mudData.map (·.url) := by
    intro hmem
    obtain ⟨m, hm, hurl⟩ := List.mem_map.mp hmem
    exact absurd (List.find?_eq_none.mp hnew m hm) (by simpa using hurl)
  refine ⟨h.deviceIds, h.deviceSeq, h.ipv4Unique, h.ipv6Unique, h.macDuidUnique, ?_, h.roomIdRef,
    (nodup_map_append MudDbo.url row t.mudData).mpr ⟨h.mudUrls, hfree⟩, h.configKeys, h.roomIds⟩
  intro d hd url hurl
  exact List.map_append ▸ List.mem_append_left _ (h.mudUrlRef d hd url hurl)

/-! ## `create_mud` -/

/-- The row of a profile that is made under a custom name. -/
def customRow (mudCreationDto : MudCreationDto) (now createdAt : DateTime) : MudDbo where
  url := mudCreationDto.mudUrl
  data := serialize
    (generateEmptyCustomMudProfile mudCreationDto.mudUrl (mudCreationDto.aclOverride.getD []) now)
  createdAt := createdAt
  expiration := getCustomMudExpiration

/-- The possible outcomes of `create_mud`. -/
inductive CreatesMud (w : World) (auth : AuthToken) (mudCreationDto : MudCreationDto) :
    Except Error MudData × World → Prop where
  | refused (e : Error) (hno : ¬ (auth.Grants .mudCreate ∧ w.db.mudRow mudCreationDto.mudUrl = none)) :
      CreatesMud w auth mudCreationDto (.error e, w)
  | loading (outcome : Except Error MudData × World) (hgrants : auth.Grants .mudCreate)
      (hrow : w.db.mudRow mudCreationDto.mudUrl = none) (hurl : isUrl mudCreationDto.mudUrl = true)
      (hloads : Loads w mudCreationDto.mudUrl outcome) :
      CreatesMud w auth mudCreationDto outcome
  | custom (data : MudData) (now createdAt : DateTime) (w' : World)
      (hrow : w.db.mudRow mudCreationDto.mudUrl = none) (hurl : ¬ isUrl mudCreationDto.mudUrl = true)
      (hdb : w'.db.toTables = w.db.insertMud (customRow mudCreationDto now createdAt)) :
      CreatesMud w auth mudCreationDto (.ok data, w')

theorem createMud_creates (auth : AuthToken) (mudCreationDto : MudCreationDto) (w : World) :
    CreatesMud w auth mudCreationDto ((createMud auth mudCreationDto).run w) := by
  unfold createMud
  rcases auth.grants_or_denied .mudCreate with hgrants | ⟨e, hdenied⟩
  · rw [auth.run_granted hgrants]
    show CreatesMud w auth mudCreationDto
      (Action.run (if (w.db.mudRow mudCreationDto.mudUrl).isSome then _ else _) w)
    cases hrow : w.db.mudRow mudCreationDto.mudUrl with
    | some mud =>
        exact .refused _ fun ⟨_, hnone⟩ => by simp [hrow] at hnone
    | none =>
        rw [if_neg (by simp)]
        by_cases hurl : isUrl mudCreationDto.mudUrl
        · rw [if_pos hurl]
          exact .loading _ hgrants hrow hurl (getOrFetchMud_loads _ w)
        · have hschema : Schema (w.db.insertMud (customRow mudCreationDto (w.clock 0) (w.clock 1))) :=
            w.db.schema.insertMud hrow
          have hexec : (Stmt.insertMud (customRow mudCreationDto (w.clock 0) (w.clock 1))).exec w.tick.tick =
              (.ok _, { w.tick.tick with db := ⟨_, hschema⟩ }) := World.write_ok hschema 1
          rw [if_neg hurl, Action.run_now_bind, Action.run_now_bind]
          unfold createMudRow
          show CreatesMud w auth mudCreationDto (Action.run ((execute (stmt (.insertMud
            (customRow mudCreationDto (w.clock 0) (w.clock 1)))) >>= _) >>= _) w.tick.tick)
          rw [Action.run_bind_ok (Action.run_bind_ok (Action.run_execute_ok (Action.run_stmt_of_exec hexec)))]
          exact .custom _ _ _ _ hrow hurl rfl
  · rw [auth.run_denied hdenied]
    exact .refused e fun ⟨hgrants, _⟩ => auth.not_grants hdenied hgrants

/-! ## `update_mud` -/

/-- The possible outcomes of `update_mud`. -/
inductive UpdatesMud (w : World) (url : String) (mudUpdateDto : MudUpdateDto) :
    Except Error MudData × World → Prop where
  | refused (e : Error) : UpdatesMud w url mudUpdateDto (.error e, w)
  | updated (mud : MudDbo) (data data' : MudData) (w' : World) (hstored : w.stored url = some (mud, data))
      (hdb : w'.db.toTables =
        (w.db.upsertMud (withOverride mud data (mudUpdateDto.aclOverride.getD []))).bumped) :
      UpdatesMud w url mudUpdateDto (.ok data', w')

theorem updateMud_updates (auth : AuthToken) (query : MudUpdateQueryDto) (mudUpdateDto : MudUpdateDto)
    (w : World) : UpdatesMud w query.mudUrl mudUpdateDto ((updateMud auth query mudUpdateDto).run w) := by
  rcases auth.grants_or_denied .mudWrite with hgrants | ⟨e, hdenied⟩
  · rw [updateMud_granted hgrants]
    show UpdatesMud w _ mudUpdateDto ((afterEditLookup mudUpdateDto (w.db.mudRow query.mudUrl)).run w)
    unfold afterEditLookup
    cases hrow : w.db.mudRow query.mudUrl with
    | none => exact .refused _
    | some mud =>
        cases hparse : mud.parseData with
        | none =>
            simp only [hparse]
            exact .refused _
        | some data =>
            have hstored : w.stored query.mudUrl = some (mud, data) := by
              unfold World.stored
              rw [hrow, Option.bind_some, hparse]
              rfl
            simp only [hparse]
            unfold storeOverride
            rw [Action.run_bind_ok (run_upsertMud _ w), Action.run_bind_ok (run_updateConfigVersion _)]
            exact .updated mud data _ _ hstored rfl
  · rw [updateMud_denied hdenied]
    exact .refused e

/-! ## `delete_mud` -/

/-- The possible outcomes of `delete_mud`. -/
inductive DeletesMud (w : World) (url : String) : Except Error Unit × World → Prop where
  | refused (e : Error) : DeletesMud w url (.error e, w)
  | deleted (w' : World) (hunused : ∀ d ∈ w.db.devices, d.mudUrl ≠ some url)
      (hdb : w'.db.toTables = w.db.deleteMud url) : DeletesMud w url (.ok (), w')

theorem deleteMud_deletes (auth : AuthToken) (query : MudUpdateQueryDto) (w : World) :
    DeletesMud w query.mudUrl ((deleteMud auth query).run w) := by
  unfold deleteMud
  rcases auth.grants_or_denied .mudDelete with hgrants | ⟨e, hdenied⟩
  · rw [auth.run_granted hgrants]
    generalize query.mudUrl = url
    have hlookup : (getMud url).run w = (.ok (w.db.mudRow url), w) := rfl
    rw [Action.run_bind_ok hlookup]
    by_cases hrow : (w.db.mudRow url).isNone
    · rw [if_pos hrow]
      exact .refused _
    · rw [if_neg hrow]
      have hisUsed : (isMudUsed url).run w =
          (.ok (w.db.devices.find? (·.mudUrl = some url)).isSome, w) := rfl
      rw [Action.run_bind_ok hisUsed]
      by_cases hused : (w.db.devices.find? (·.mudUrl = some url)).isSome
      · rw [if_pos hused]
        exact .refused _
      · rw [if_neg hused]
        have hunused : ∀ d ∈ w.db.devices, d.mudUrl ≠ some url := by
          intro d hd hurl
          apply hused
          rw [List.find?_isSome]
          exact ⟨d, hd, by simp [hurl]⟩
        unfold deleteMudRow
        by_cases h : Schema (w.db.deleteMud url)
        · have hexec : (Stmt.deleteMud url).exec w = (.ok _, { w with db := ⟨w.db.deleteMud url, h⟩ }) :=
            World.write_ok h _
          rw [Action.run_bind_ok (Action.run_bind_ok (Action.run_execute_ok (Action.run_stmt_of_exec hexec)))]
          exact .deleted _ hunused rfl
        · have hexec : (Stmt.deleteMud url).exec w = (.error .constraint, w) := World.write_refused h _
          rw [Action.run_bind_error (Action.run_bind_error
            (Action.run_execute_error (Action.run_stmt_of_exec hexec)))]
          exact .refused _
  · rw [auth.run_denied hdenied]
    exact .refused e

/-! ## The hourly refresh -/

/-- The URLs of the rows that have expired; the clock is read for every row. -/
def expiredUrls : (Nat → DateTime) → List MudDboRefresh → List String
  | _, [] => []
  | clock, mud :: rest =>
      let urls := expiredUrls (fun n => clock (n + 1)) rest
      if mud.expiration < clock 0 then mud.url :: urls else urls

theorem run_outdatedUrls (rows : List MudDboRefresh) (w : World) :
    (outdatedUrls rows).run w = (.ok (expiredUrls w.clock rows), w.ticks rows.length) := by
  induction rows generalizing w with
  | nil => rfl
  | cons mud rest ih =>
      unfold outdatedUrls expiredUrls
      rw [Action.run_now_bind, Action.run_bind_ok (ih w.tick)]
      rfl

/-- The rows that the hourly refresh looks at. -/
def Tables.expirations (t : Tables) : List MudDboRefresh := t.mudData.map fun m => ⟨m.url, m.expiration⟩

/-- The URLs that the hourly refresh loads. -/
def World.outdated (w : World) : List String := expiredUrls w.clock w.db.expirations

/-- The world in which it begins to load them. -/
def World.afterOutdated (w : World) : World := w.ticks w.db.expirations.length

/-- The possible outcomes of `update_outdated_profiles`. -/
inductive RefreshesOutdated (w : World) : Except Error Unit × World → Prop where
  | nothing (hnone : w.outdated = []) : RefreshesOutdated w (.ok (), w.afterOutdated)
  | refreshed (w' : World) (hrun : (updateMudUrls w.outdated).run w.afterOutdated = (.ok (), w')) :
      RefreshesOutdated w (.ok (), { w' with db := w'.db.bumped })
  | failed (e : Error) (w' : World) (hrun : (updateMudUrls w.outdated).run w.afterOutdated = (.error e, w')) :
      RefreshesOutdated w (.error e, w')

theorem updateOutdatedProfiles_refreshes (w : World) :
    RefreshesOutdated w (updateOutdatedProfiles.run w) := by
  have hrows : getAllMudExpiration.run w = (.ok w.db.expirations, w) := rfl
  have hurls : (outdatedUrls w.db.expirations).run w = (.ok w.outdated, w.afterOutdated) :=
    run_outdatedUrls _ w
  unfold updateOutdatedProfiles
  rw [Action.run_bind_ok hrows, Action.run_bind_ok hurls]
  by_cases hnone : w.outdated = []
  · rw [if_pos (by simp [hnone])]
    exact .nothing hnone
  · rw [if_neg (by simpa using hnone)]
    cases hrun : (updateMudUrls w.outdated).run w.afterOutdated with
    | mk r w' =>
        cases r with
        | error e =>
            rw [Action.run_bind_error hrun]
            exact .failed e w' hrun
        | ok u =>
            rw [Action.run_bind_ok hrun, run_updateConfigVersion]
            exact .refreshed w' hrun

end MudController
