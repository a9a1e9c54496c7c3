import MudController.Profile.Loading
import MudController.Reference
import MudController.Run.Profiles
import MudController.Version.Loads

/-!
# `Profile.Outdated` — which profiles the hourly refresh reaches

`update_mud_urls` loads the expired rows in the order of the table and stops at the first that does not load:
a row that has no file to fetch, or that neither parses nor can be replaced. The rows up to there are
refreshed, the ones behind it are not (`outdated_refreshed_iff`).
-/

namespace MudController

open Logic

section

variable [Platform]

/-! ## What a run leaves of the clock and the network -/

/-- A world that a run leads to: what its clock and its network answer has been still to come before. -/
structure World.Later (w w' : World) : Prop where
  clock : ∃ k, ∀ n, w'.clock n = w.clock (n + k)
  network : ∃ k, ∀ n, w'.network n = w.network (n + k)

theorem World.Later.refl (w : World) : w.Later w := ⟨⟨0, fun _ => rfl⟩, ⟨0, fun _ => rfl⟩⟩

theorem World.Later.trans {w w' w'' : World} (h : w.Later w') (h' : w'.Later w'') : w.Later w'' := by
  obtain ⟨⟨k, hk⟩, ⟨j, hj⟩⟩ := h
  obtain ⟨⟨k', hk'⟩, ⟨j', hj'⟩⟩ := h'
  refine ⟨⟨k' + k, fun n => ?_⟩, ⟨j' + j, fun n => ?_⟩⟩
  · rw [hk', hk, Nat.add_assoc]
  · rw [hj', hj, Nat.add_assoc]

theorem World.later_write {α : Type} (w : World) (f : Tables → Tables) (affected : α) :
    w.Later (w.write f affected).2 := by
  unfold World.write
  cases w.db.update f with
  | none => exact .refl w
  | some db => exact ⟨⟨0, fun _ => rfl⟩, ⟨0, fun _ => rfl⟩⟩

theorem Stmt.exec_later (s : Stmt) (w : World) : w.Later (s.exec w).2 := by
  cases s with
  | now => exact ⟨⟨1, fun _ => rfl⟩, ⟨0, fun _ => rfl⟩⟩
  | fetch url => exact ⟨⟨0, fun _ => rfl⟩, ⟨1, fun _ => rfl⟩⟩
  | spawn task => exact ⟨⟨0, fun _ => rfl⟩, ⟨0, fun _ => rfl⟩⟩
  | _ => first | exact .refl w | exact w.later_write _ _

theorem Action.run_later {α : Type} (p : Action α) (w : World) : w.Later (p.run w).2 := by
  induction p generalizing w with
  | done r => exact .refl w
  | stmt s k ih => exact (s.exec_later w).trans (ih _ _)

/-- A world whose network answers the same for a URL whenever it is asked, and whose clock does not go back. -/
structure World.Steady (w : World) (fetch : String → Except Error String) : Prop where
  network : ∀ n, w.network n = fetch
  clock : ∀ n m, n ≤ m → w.clock n ≤ w.clock m

theorem World.Steady.later {w w' : World} {fetch : String → Except Error String} (h : w.Steady fetch)
    (hlater : w.Later w') : w'.Steady fetch ∧ w.clock 0 ≤ w'.clock 0 := by
  obtain ⟨⟨k, hk⟩, ⟨j, hj⟩⟩ := hlater
  refine ⟨⟨fun n => (hj n).trans (h.network _), fun n m hnm => ?_⟩, ?_⟩
  · rw [hk, hk]
    exact h.clock _ _ (Nat.add_le_add_right hnm k)
  · rw [hk]
    exact h.clock _ _ (Nat.zero_le _)

/-! ## Loading an expired row -/

/-- Loading the row, if it has expired, fetches a file that is accepted. -/
def MudDbo.Refreshable (fetch : String → Except Error String) (mud : MudDbo) : Prop :=
  fetchable mud.url = true ∧ ∃ now fresh, FetchedAt (fetch mud.url) mud.url now fresh

/-- Loading the row, if it has expired, fails: there is no file to fetch, or neither the fetched file nor the
    stored profile can be read. -/
def MudDbo.LoadFails (fetch : String → Except Error String) (mud : MudDbo) : Prop :=
  ¬ fetchable mud.url = true ∨
    (mud.parseData = none ∧ ∀ now fresh, ¬ FetchedAt (fetch mud.url) mud.url now fresh)

/-- An expired row is not one that has not expired. -/
theorem World.not_unexpired {w : World} {url : String} {mud : MudDbo} (hrow : w.db.mudRow url = some mud)
    (hexpired : mud.expiration < w.clock 0) (old : MudData) : ¬ w.Unexpired url old := by
  rintro ⟨mud', hrow', -, hfresh⟩
  rw [hrow] at hrow'
  cases hrow'
  exact absurd hexpired (Int.not_lt.mpr (Int.le_of_lt hfresh))

/-- An expired row loads unless it is one of those that fail. -/
theorem World.loaded_isSome_iff {w : World} {fetch : String → Except Error String} (hsteady : w.Steady fetch)
    {mud : MudDbo} (hrow : w.db.mudRow mud.url = some mud) (hexpired : mud.expiration < w.clock 0) :
    (w.loaded mud.url).isSome ↔ ¬ mud.LoadFails fetch := by
  have hdata := Tables.storedProfile_row hrow
  unfold World.loaded MudDbo.LoadFails
  rw [← hsteady.network 0]
  constructor
  · rintro hsome (hno | ⟨hnone, hfail⟩)
    -- not an address to fetch from: neither a fetched profile nor an expired one
    · cases hrefreshed : w.refreshed mud.url with
      | some data => exact hno (World.refreshed_fetched hrefreshed).1
      | none =>
          rw [hrefreshed, Option.none_or, World.kept_expired hrow hexpired hno] at hsome
          cases hsome
    · cases hrefreshed : w.refreshed mud.url with
      | some data =>
          obtain ⟨-, _, -, fresh, hfetch, -⟩ := World.refreshed_fetched hrefreshed
          exact hfail _ fresh hfetch
      | none =>
          rw [hrefreshed, Option.none_or] at hsome
          obtain ⟨data, hkept⟩ := Option.isSome_iff_exists.mp hsome
          rw [World.kept_storedProfile hkept] at hdata
          rw [← hdata] at hnone
          cases hnone
  · intro hloads
    obtain ⟨hfetchable, hreadable⟩ := not_or.mp hloads
    have hfetchable := not_not.mp hfetchable
    by_cases hfetch : ∃ now fresh, FetchedAt (w.network 0 mud.url) mud.url now fresh
    · obtain ⟨now, fresh, hfetch⟩ := hfetch
      obtain ⟨data, hdata⟩ := World.refreshed_isSome hfetchable (World.not_unexpired hrow hexpired) hfetch
      rw [hdata]
      rfl
    · have hsome : mud.parseData ≠ none := fun hnone =>
        hreadable ⟨hnone, fun now fresh h => hfetch ⟨now, fresh, h⟩⟩
      obtain ⟨old, hold⟩ := Option.ne_none_iff_exists'.mp hsome
      rw [World.kept_fetchable hfetchable, hdata, hold]
      cases w.refreshed mud.url <;> rfl

/-- A row holds what was fetched for it at a time since, with the override that it had. -/
def MudDbo.HoldsFresh (fetch : String → Except Error String) (w : World) (mud : MudDbo) (t : Tables) : Prop :=
  ∃ n fresh createdAt, FetchedAt (fetch mud.url) mud.url (w.clock n) fresh ∧
    t.mudRow mud.url =
      some ⟨mud.url, serialize (keepOverride mud.parseData fresh), createdAt, fresh.expiration⟩

/-- Loading an expired row that can be refreshed refreshes it. -/
theorem getOrFetchMud_refreshes {w : World} {fetch : String → Except Error String} (hsteady : w.Steady fetch)
    {mud : MudDbo} (hrow : w.db.mudRow mud.url = some mud) (hexpired : mud.expiration < w.clock 0)
    (hrefreshable : mud.Refreshable fetch) :
    mud.HoldsFresh fetch w ((getOrFetchMud mud.url).run w).2.db.toTables := by
  obtain ⟨hurl, now, fresh, hfetch⟩ := hrefreshable
  rw [← hsteady.network 0] at hfetch
  obtain ⟨data, hrefreshed⟩ := World.refreshed_isSome hurl (World.not_unexpired hrow hexpired) hfetch
  obtain ⟨-, n, -, fresh', hfetch', hkeep⟩ := World.refreshed_fetched hrefreshed
  have hloads := getOrFetchMud_loads mud.url w
  generalize (getOrFetchMud mud.url).run w = r at hloads
  cases hloads with
  | kept data' w' hnone hkept hdb => rw [hrefreshed] at hnone; cases hnone
  | failed e w' hnone hkept hdb => rw [hrefreshed] at hnone; cases hnone
  | refreshed data' createdAt w' hrefreshed' hdb =>
      rw [hrefreshed] at hrefreshed'
      cases hrefreshed'
      refine ⟨n, fresh', createdAt, hsteady.network 0 ▸ hfetch', ?_⟩
      have hrow' := Tables.mudRow_upsertMud w.db.toTables (fetchedRow mud.url data createdAt)
      rw [hdb, ← Tables.storedProfile_row hrow, ← hkeep]
      refine hrow'.trans ?_
      unfold fetchedRow
      rw [hkeep, keepOverride_expiration]

/-! ## The loop -/

theorem getOrFetchMud_mudRow_other {url other : String} (h : other ≠ url) (w : World) :
    ((getOrFetchMud url).run w).2.db.mudRow other = w.db.mudRow other := by
  have hloads := getOrFetchMud_loads url w
  generalize (getOrFetchMud url).run w = r at hloads
  cases hloads with
  | kept data w' _ _ hdb => exact congrArg (fun db : Db => db.mudRow other) hdb
  | failed e w' _ _ hdb => exact congrArg (fun db : Db => db.mudRow other) hdb
  | refreshed data createdAt w' _ hdb =>
      show w'.db.mudRow other = _
      rw [hdb]
      exact Tables.mudRow_upsertMud_other _ _ h

theorem updateMudUrls_mudRow_other {urls : List String} {other : String} (h : other ∉ urls) (w : World) :
    ((updateMudUrls urls).run w).2.db.mudRow other = w.db.mudRow other := by
  induction urls generalizing w with
  | nil => rfl
  | cons url urls ih =>
      obtain ⟨hurl, hurls⟩ := List.ne_and_not_mem_of_not_mem_cons h
      have hother := getOrFetchMud_mudRow_other hurl w
      unfold updateMudUrls
      cases hr : (getOrFetchMud url).run w with
      | mk r w' =>
          rw [hr] at hother
          cases r with
          | error e => rw [Action.run_bind_error hr]; exact hother
          | ok data => rw [Action.run_bind_ok hr]; exact (ih hurls w').trans hother

/-- A loop that begins with a row leaves of it what loading it leaves. -/
theorem updateMudUrls_mudRow_first {url : String} {urls : List String} (h : url ∉ urls) (w : World) :
    ((updateMudUrls (url :: urls)).run w).2.db.mudRow url = ((getOrFetchMud url).run w).2.db.mudRow url := by
  unfold updateMudUrls
  cases hr : (getOrFetchMud url).run w with
  | mk r w' =>
      cases r with
      | error e => rw [Action.run_bind_error hr]
      | ok data => rw [Action.run_bind_ok hr]; exact updateMudUrls_mudRow_other h w'

theorem updateMudUrls_append (urls rest : List String) :
    updateMudUrls (urls ++ rest) = updateMudUrls urls >>= fun _ => updateMudUrls rest := by
  induction urls with
  | nil => rfl
  | cons url urls ih =>
      show (getOrFetchMud url >>= fun _ => updateMudUrls (urls ++ rest)) =
        (getOrFetchMud url >>= fun _ => updateMudUrls urls) >>= _
      rw [ih, bind_assoc]

/-- Every expired row loads exactly if none of them is one of those that fail: at its turn it is what it was
    before. -/
theorem loadsEach_iff {fetch : String → Except Error String} {rows : List MudDbo} {w : World}
    (hsteady : w.Steady fetch) (hdistinct : (rows.map (·.url)).Nodup)
    (hrows : ∀ mud ∈ rows, w.db.mudRow mud.url = some mud ∧ mud.expiration < w.clock 0) :
    LoadsEach (rows.map (·.url)) w ↔ ∀ mud ∈ rows, ¬ mud.LoadFails fetch := by
  induction rows generalizing w with
  | nil => exact iff_of_true trivial nofun
  | cons mud rows ih =>
      obtain ⟨⟨hrow, hexpired⟩, hrows⟩ := List.forall_mem_cons.mp hrows
      obtain ⟨hnew, hdistinct⟩ := List.nodup_cons.mp hdistinct
      obtain ⟨hsteady', hclock⟩ := hsteady.later ((getOrFetchMud mud.url).run_later w)
      rw [List.forall_mem_cons]
      refine and_congr (World.loaded_isSome_iff hsteady hrow hexpired) ?_
      refine ih hsteady' hdistinct fun mud' hmud' => ⟨?_, ?_⟩
      · have hne : mud'.url ≠ mud.url := fun heq => hnew (List.mem_map.mpr ⟨mud', hmud', heq⟩)
        exact (getOrFetchMud_mudRow_other hne w).trans (hrows mud' hmud').1
      · exact Int.lt_of_lt_of_le (hrows mud' hmud').2 hclock

/-- What a loop leaves of a row that it comes to once: what loading it leaves if the loop gets there, or else
    what it was. -/
theorem updateMudUrls_mudRow_mem {before behind : List String} {url : String} (hbefore : url ∉ before)
    (hbehind : url ∉ behind) (w : World) :
    (LoadsEach before w → ((updateMudUrls (before ++ url :: behind)).run w).2.db.mudRow url =
      ((getOrFetchMud url).run ((updateMudUrls before).run w).2).2.db.mudRow url) ∧
    (¬ LoadsEach before w →
      ((updateMudUrls (before ++ url :: behind)).run w).2.db.mudRow url = w.db.mudRow url) := by
  have hsuccess := (updateMudUrls_loads before w).1
  have hsame := updateMudUrls_mudRow_other hbefore w
  rw [← hsuccess, updateMudUrls_append]
  cases hr : (updateMudUrls before).run w with
  | mk r w' =>
      rw [hr] at hsame
      cases r with
      | error e =>
          rw [Action.run_bind_error hr]
          exact ⟨nofun, fun _ => hsame⟩
      | ok u =>
          rw [Action.run_bind_ok hr]
          exact ⟨fun _ => updateMudUrls_mudRow_first hbehind w', fun h => absurd rfl h⟩

/-! ## The rows that the refresh loads -/

/-- The rows that have expired at the reading of the clock that is made for them. -/
def expiredRows : (Nat → DateTime) → List MudDbo → List MudDbo
  | _, [] => []
  | clock, mud :: rest =>
      let rows := expiredRows (fun n => clock (n + 1)) rest
      if mud.expiration < clock 0 then mud :: rows else rows

omit [Platform] in
theorem expiredRows_cons (clock : Nat → DateTime) (mud : MudDbo) (rest : List MudDbo) :
    expiredRows clock (mud :: rest) =
      if mud.expiration < clock 0 then mud :: expiredRows (fun n => clock (n + 1)) rest
      else expiredRows (fun n => clock (n + 1)) rest := rfl

omit [Platform] in
theorem expiredUrls_eq (clock : Nat → DateTime) (rows : List MudDbo) :
    expiredUrls clock (rows.map fun m => ⟨m.url, m.expiration⟩) = (expiredRows clock rows).map (·.url) := by
  induction rows generalizing clock with
  | nil => rfl
  | cons mud rows ih =>
      rw [List.map_cons, expiredRows_cons]
      unfold expiredUrls
      rw [ih]
      by_cases h : mud.expiration < clock 0
      · rw [if_pos h, if_pos h]
        rfl
      · rw [if_neg h, if_neg h]

omit [Platform] in
theorem expiredRows_append (clock : Nat → DateTime) (rows rest : List MudDbo) :
    expiredRows clock (rows ++ rest) =
      expiredRows clock rows ++ expiredRows (fun n => clock (n + rows.length)) rest := by
  induction rows generalizing clock with
  | nil => rfl
  | cons mud rows ih =>
      rw [List.cons_append, expiredRows_cons, expiredRows_cons, ih]
      have hshift : (fun n => clock (n + rows.length + 1)) = fun n => clock (n + (mud :: rows).length) := rfl
      by_cases h : mud.expiration < clock 0
      · rw [if_pos h, if_pos h, hshift]
        rfl
      · rw [if_neg h, if_neg h, hshift]

omit [Platform] in
theorem mem_expiredRows {clock : Nat → DateTime} {rows : List MudDbo} {mud : MudDbo} :
    mud ∈ expiredRows clock rows ↔ ∃ i, rows[i]? = some mud ∧ mud.expiration < clock i := by
  induction rows generalizing clock with
  | nil => exact iff_of_false List.not_mem_nil (by simp)
  | cons head rows ih =>
      have hhead : (∃ i, (head :: rows)[i]? = some mud ∧ mud.expiration < clock i) ↔
          (head = mud ∧ mud.expiration < clock 0) ∨ mud ∈ expiredRows (fun n => clock (n + 1)) rows := by
        rw [ih]
        constructor
        · rintro ⟨i, hi, hexpired⟩
          cases i with
          | zero => exact .inl ⟨Option.some.inj hi, hexpired⟩
          | succ i => exact .inr ⟨i, hi, hexpired⟩
        · rintro (⟨rfl, hexpired⟩ | ⟨i, hi, hexpired⟩)
          · exact ⟨0, rfl, hexpired⟩
          · exact ⟨i + 1, hi, hexpired⟩
      rw [hhead, expiredRows_cons]
      by_cases h : head.expiration < clock 0
      · rw [if_pos h, List.mem_cons]
        constructor
        · rintro (rfl | hmem)
          · exact .inl ⟨rfl, h⟩
          · exact .inr hmem
        · rintro (⟨rfl, _⟩ | hmem)
          · exact .inl rfl
          · exact .inr hmem
      · rw [if_neg h]
        refine ⟨.inr, ?_⟩
        rintro (⟨rfl, hexpired⟩ | hmem)
        · exact absurd hexpired h
        · exact hmem

omit [Platform] in
theorem expiredRows_sublist (clock : Nat → DateTime) (rows : List MudDbo) :
    (expiredRows clock rows).Sublist rows := by
  induction rows generalizing clock with
  | nil => exact .slnil
  | cons mud rows ih =>
      rw [expiredRows_cons]
      by_cases h : mud.expiration < clock 0
      · rw [if_pos h]
        exact (ih _).cons_cons mud
      · rw [if_neg h]
        exact (ih _).cons mud

/-- The rows of the profiles are what the loop over the outdated ones makes of them. -/
theorem mudRow_updateOutdatedProfiles (w : World) (url : String) :
    (updateOutdatedProfiles.run w).2.db.mudRow url =
      ((updateMudUrls w.outdated).run w.afterOutdated).2.db.mudRow url := by
  have hrefreshes := updateOutdatedProfiles_refreshes w
  generalize updateOutdatedProfiles.run w = r at hrefreshes
  cases hrefreshes with
  | nothing hnone => rw [hnone]; rfl
  | refreshed w' hrun => rw [hrun]; rfl
  | failed e w' hrun => rw [hrun]

theorem MudDbo.HoldsFresh.of_later {fetch : String → Except Error String} {w w' : World} {mud : MudDbo}
    {t : Tables} (hlater : w.Later w') (h : mud.HoldsFresh fetch w' t) : mud.HoldsFresh fetch w t := by
  obtain ⟨n, fresh, createdAt, hfetch, hrow⟩ := h
  obtain ⟨k, hk⟩ := hlater.clock
  exact ⟨n + k, fresh, createdAt, hk n ▸ hfetch, hrow⟩

theorem MudDbo.holdsFresh_congr {fetch : String → Except Error String} {w : World} {mud : MudDbo}
    {t t' : Tables} (h : t.mudRow mud.url = t'.mudRow mud.url) :
    mud.HoldsFresh fetch w t ↔ mud.HoldsFresh fetch w t' := by
  unfold MudDbo.HoldsFresh
  rw [h]

theorem FetchedAt.expiration {answer : Except Error String} {url : String} {now : DateTime} {fresh : MudData}
    (h : FetchedAt answer url now fresh) : now < fresh.expiration := by
  obtain ⟨text, mudJson, -, -, hparse⟩ := h
  obtain ⟨-, hvalidity, acllist, -, rfl⟩ := parseMud_eq_ok_iff.mp hparse
  have hhours : 0 < hours (mudJson.mud.cacheValidity.getD 48) := by
    unfold hours
    omega
  exact Int.lt_add_of_pos_right now hhours

/-- A row that is what it was before is not fresh: what is fetched has not expired then. -/
theorem MudDbo.not_holdsFresh {fetch : String → Except Error String} {w : World} (hsteady : w.Steady fetch)
    {mud : MudDbo} {t : Tables} (hrow : t.mudRow mud.url = some mud) (hexpired : mud.expiration < w.clock 0) :
    ¬ mud.HoldsFresh fetch w t := by
  rintro ⟨n, fresh, createdAt, hfetch, hfresh⟩
  have hlater := hfetch.expiration
  have hclock := hsteady.clock 0 n (Nat.zero_le n)
  rw [hrow] at hfresh
  have hexpiration : mud.expiration = fresh.expiration := congrArg MudDbo.expiration (Option.some.inj hfresh)
  have hafter : mud.expiration < fresh.expiration :=
    Int.lt_trans hexpired (Int.lt_of_le_of_lt hclock hlater)
  exact absurd hexpiration (Int.ne_of_lt hafter)

theorem World.later_afterOutdated (w : World) : w.Later w.afterOutdated :=
  ⟨⟨w.db.expirations.length, fun _ => rfl⟩, ⟨0, fun _ => rfl⟩⟩

/-- The rows that the refresh loads are in the table, and have expired when it begins to load them. -/
theorem World.expiredRows_outdated {w : World} {fetch : String → Except Error String} (hsteady : w.Steady fetch)
    {mud : MudDbo} (h : mud ∈ expiredRows w.clock w.db.mudData) :
    w.afterOutdated.db.mudRow mud.url = some mud ∧ mud.expiration < w.afterOutdated.clock 0 := by
  obtain ⟨i, hi, hexpired⟩ := mem_expiredRows.mp h
  refine ⟨find?_of_mem w.db.schema.mudUrls (List.mem_of_getElem? hi), ?_⟩
  have hlength : i < w.db.mudData.length := (List.getElem?_eq_some_iff.mp hi).1
  have hcount : w.db.expirations.length = w.db.mudData.length := List.length_map _
  refine Int.lt_of_lt_of_le hexpired (hsteady.clock i (0 + w.db.expirations.length) ?_)
  omega

/-- The rows that the refresh loads, split at an expired one. -/
theorem World.expiredRows_split {w : World} {fetch : String → Except Error String} (hsteady : w.Steady fetch)
    {pre post : List MudDbo} {mud : MudDbo} (hrows : w.db.mudData = pre ++ mud :: post)
    (hexpired : mud.expiration < w.clock 0) :
    ∃ after, expiredRows w.clock w.db.mudData = expiredRows w.clock pre ++ mud :: after ∧
      w.outdated = (expiredRows w.clock pre).map (·.url) ++ mud.url :: after.map (·.url) := by
  have hnow : mud.expiration < w.clock (0 + pre.length) :=
    Int.lt_of_lt_of_le hexpired (hsteady.clock _ _ (Nat.zero_le _))
  have hsplit : ∃ after, expiredRows w.clock w.db.mudData = expiredRows w.clock pre ++ mud :: after := by
    rw [hrows, expiredRows_append, expiredRows_cons, if_pos hnow]
    exact ⟨_, rfl⟩
  obtain ⟨after, hsplit⟩ := hsplit
  refine ⟨after, hsplit, ?_⟩
  have hurls : w.outdated = (expiredRows w.clock w.db.mudData).map (·.url) := expiredUrls_eq _ _
  rw [hurls, hsplit, List.map_append, List.map_cons]

end

section

attribute [local instance] Reference.platform

/-- A network that has one file. -/
def lampNetwork (url : String) : Except Error String :=
  if url = lampUrl then .ok Reference.mudFile else .error .reqwestError

/-- An expired row with a profile. -/
def lampRow : MudDbo := ⟨lampUrl, serialize (Reference.profile [] []), 0, 0⟩

/-- An expired row whose data is not a profile. -/
def unreadableRow : MudDbo := ⟨"https://mud.example/old", .null, 0, 0⟩

/-- A world with these profiles, after the beginning of 1970. -/
def outdatedWorld (rows : List MudDbo) (schema : Schema (Reference.tables [] rows [])) : World :=
  { Reference.offline (Reference.tables [] rows []) schema with
    clock := fun _ => 1
    network := fun _ => lampNetwork }

theorem outdatedWorld_steady (rows : List MudDbo) (schema : Schema (Reference.tables [] rows [])) :
    (outdatedWorld rows schema).Steady lampNetwork :=
  ⟨fun _ => rfl, fun _ _ _ => Int.le_refl 1⟩

theorem lampRow_refreshable : lampRow.Refreshable lampNetwork :=
  ⟨by decide, 0, _, Reference.mudFile, Reference.mudFileJson, if_pos rfl, if_pos rfl, rfl⟩

end

end MudController
