import MudController.Db.Schema
import MudController.Services.Mud

/-!
# `Run.Mud` — loading a profile, run by itself

`getOrFetchMud` either refreshes the stored row, or leaves the database alone and answers with what is
stored or with an error. Which of the three, and the profile it answers with, are functions of the world
before the call (`World.refreshed`, `World.kept`); `getOrFetchMud_loads` is the one lemma that later proofs
use of it.
-/

namespace MudController

open Logic

variable [Platform]

/-- The world after some readings of the clock. -/
def World.ticks (w : World) (n : Nat) : World := { w with clock := fun m => w.clock (m + n) }

/-- The stored profile of a URL, with its row. A row that does not parse counts as absent. -/
def World.stored (w : World) (url : String) : Option (MudDbo × MudData) :=
  (w.db.mudRow url).bind fun mud => mud.parseData.map fun data => (mud, data)

/-- A fetched file as a profile, at the time `now`. -/
def fetchedProfile (answer : Except Error String) (url : String) (now : DateTime) : Option MudData :=
  (answer.toOption.bind Platform.mudJsonFromStr).bind fun mudJson => (parseMudJson now url mudJson).toOption

/-- What fetching yields on top of an expired profile. -/
def World.fetched (w : World) (url : String) (expired : Option MudData) (now : DateTime) :
    Option MudData :=
  if fetchable url then (fetchedProfile (w.network 0 url) url now).map (keepOverride expired) else none

/-- The profile that loading `url` would store now: none if the stored one has not expired, or if there is
    no fetching and parsing of another. -/
def World.refreshed (w : World) (url : String) : Option MudData :=
  match w.stored url with
  | some (mud, old) => if mud.expiration > w.clock 0 then none else w.fetched url (some old) (w.clock 1)
  | none => w.fetched url none (w.clock 0)

/-- The stored profile that loading `url` answers with if it stores no other: a profile that has not
    expired, or an expired one whose URL can be fetched. -/
def World.kept (w : World) (url : String) : Option MudData :=
  match w.stored url with
  | some (mud, old) => if mud.expiration > w.clock 0 ∨ fetchable url then some old else none
  | none => none

theorem World.refreshed_absent {w : World} {url : String} (h : w.stored url = none) :
    w.refreshed url = w.fetched url none (w.clock 0) := by
  unfold World.refreshed
  rw [h]

theorem World.refreshed_stored {w : World} {url : String} {mud : MudDbo} {old : MudData}
    (h : w.stored url = some (mud, old)) :
    w.refreshed url = if mud.expiration > w.clock 0 then none else w.fetched url (some old) (w.clock 1) := by
  unfold World.refreshed
  rw [h]

theorem World.kept_absent {w : World} {url : String} (h : w.stored url = none) : w.kept url = none := by
  unfold World.kept
  rw [h]

theorem World.kept_stored {w : World} {url : String} {mud : MudDbo} {old : MudData}
    (h : w.stored url = some (mud, old)) :
    w.kept url = if mud.expiration > w.clock 0 ∨ fetchable url then some old else none := by
  unfold World.kept
  rw [h]

/-- The profile that loading `url` yields, if it succeeds. -/
def World.loaded (w : World) (url : String) : Option MudData := (w.refreshed url).or (w.kept url)

/-- The row that storing a fetched profile writes. -/
def fetchedRow (url : String) (data : MudData) (createdAt : DateTime) : MudDbo where
  url := url
  data := serialize data
  createdAt := createdAt
  expiration := data.expiration

/-- The possible outcomes of loading `url` from the world `w`. -/
inductive Loads (w : World) (url : String) : Except Error MudData × World → Prop where
  | kept (data : MudData) (w' : World) (hrefreshed : w.refreshed url = none)
      (hkept : w.kept url = some data) (hdb : w'.db = w.db) : Loads w url (.ok data, w')
  | failed (e : Error) (w' : World) (hrefreshed : w.refreshed url = none)
      (hkept : w.kept url = none) (hdb : w'.db = w.db) : Loads w url (.error e, w')
  | refreshed (data : MudData) (createdAt : DateTime) (w' : World)
      (hrefreshed : w.refreshed url = some data)
      (hdb : w'.db.toTables = w.db.upsertMud (fetchedRow url data createdAt)) :
      Loads w url (.ok data, w')

/-- The row under a URL that a profile is stored in. -/
theorem World.stored_url {w : World} {url : String} {mud : MudDbo} {data : MudData}
    (h : w.stored url = some (mud, data)) : w.db.mudRow url = some mud ∧ mud.parseData = some data ∧
      mud.url = url := by
  obtain ⟨mud', hrow, hrest⟩ := Option.bind_eq_some_iff.mp h
  obtain ⟨data', hparse, heq⟩ := Option.map_eq_some_iff.mp hrest
  cases heq
  exact ⟨hrow, hparse, by simpa using List.find?_some hrow⟩

/-! ## The steps of `get_or_fetch_mud` -/

/-- `get_or_fetch_mud` after it has read a row that parses. -/
def checkExpired (url : String) (mud : MudDbo) (old : MudData) : Action MudData := do
  if mud.expiration > (← now) then return old
  else fetchAndStore url (some old)

/-- `get_or_fetch_mud` with the answer to its lookup. -/
def afterLookup (url : String) (row : Option MudDbo) : Action MudData :=
  match row with
  | some mud =>
    match mud.parseData with
    | some mudData => checkExpired url mud mudData
    | none => fetchAndStore url none
  | none => fetchAndStore url none

theorem afterLookup_stored {url : String} {mud : MudDbo} {data : MudData} (h : mud.parseData = some data) :
    afterLookup url (some mud) = checkExpired url mud data := by
  unfold afterLookup
  simp only [h]

/-- Without a stored profile, the file is fetched. -/
theorem afterLookup_absent {w : World} {url : String} (h : w.stored url = none) :
    afterLookup url (w.db.mudRow url) = fetchAndStore url none := by
  unfold World.stored at h
  unfold afterLookup
  cases hrow : w.db.mudRow url with
  | none => rfl
  | some mud =>
      rw [hrow, Option.bind_some] at h
      cases hparse : mud.parseData with
      | none => simp only [hparse]
      | some data =>
          rw [hparse] at h
          cases h

theorem run_getOrFetchMud (url : String) (w : World) :
    (getOrFetchMud url).run w = (afterLookup url (w.db.mudRow url)).run w := rfl

theorem run_checkExpired (url : String) (mud : MudDbo) (old : MudData) (w : World) :
    (checkExpired url mud old).run w =
      Action.run (if mud.expiration > w.clock 0 then pure old else fetchAndStore url (some old)) w.tick := rfl

theorem run_upsertMud (row : MudDbo) (w : World) :
    (upsertMud row).run w =
      (.ok (), { w with db := ⟨w.db.toTables.upsertMud row, w.db.schema.upsertMud row⟩ }) := by
  have hexec : (Stmt.upsertMud row).exec w = (.ok 1, _) := World.write_ok (w.db.schema.upsertMud row) 1
  unfold upsertMud
  exact Action.run_bind_ok (Action.run_execute_ok (Action.run_stmt_of_exec hexec))

theorem run_storeFetched (url : String) (data : MudData) (w : World) :
    ∃ (createdAt : DateTime) (w' : World),
      w'.db.toTables = w.db.upsertMud (fetchedRow url data createdAt) ∧
      (storeFetched url data).run w = (.ok data, w') := by
  have hrun := run_upsertMud (fetchedRow url data (w.clock 0)) w.tick
  generalize hw : World.mk _ _ _ _ = w' at hrun
  refine ⟨w.clock 0, w', by rw [← hw]; rfl, ?_⟩
  unfold storeFetched
  rw [Action.run_now_bind]
  exact Action.run_bind_ok hrun

/-- Deserializing and parsing may read the clock, and yields the file as a profile of that time. -/
theorem run_parseMud (url text : String) (w : World) :
    ((parseMud url text).run w).2.db = w.db ∧
      ((parseMud url text).run w).1.toOption =
        (Platform.mudJsonFromStr text).bind fun mudJson => (parseMudJson (w.clock 0) url mudJson).toOption := by
  unfold parseMud
  cases Platform.mudJsonFromStr text <;> exact ⟨rfl, rfl⟩

/-- Fetching changes nothing but what later fetches yield. -/
theorem run_fetchMud (url : String) (w : World) :
    (fetchMud url).run w = (w.network 0 url, { w with network := fun n => w.network (n + 1) }) := rfl

/-- The possible outcomes of `fetchAndStore`. -/
inductive Fetches (w : World) (url : String) (expired : Option MudData) :
    Except Error MudData × World → Prop where
  | fellBack (old : MudData) (w' : World) (hfetched : w.fetched url expired (w.clock 0) = none)
      (hurl : fetchable url) (hexpired : expired = some old) (hdb : w'.db = w.db) :
      Fetches w url expired (.ok old, w')
  | failed (e : Error) (w' : World) (hfetched : w.fetched url expired (w.clock 0) = none)
      (hno : ¬ fetchable url ∨ expired = none) (hdb : w'.db = w.db) : Fetches w url expired (.error e, w')
  | stored (data : MudData) (createdAt : DateTime) (w' : World)
      (hfetched : w.fetched url expired (w.clock 0) = some data)
      (hdb : w'.db.toTables = w.db.upsertMud (fetchedRow url data createdAt)) :
      Fetches w url expired (.ok data, w')

/-- Falling back to the expired profile, if there is one. -/
theorem fetches_okOr {w w' : World} {url : String} {expired : Option MudData} {e : Error}
    (hurl : fetchable url) (hfetched : w.fetched url expired (w.clock 0) = none) (hdb : w'.db = w.db) :
    Fetches w url expired ((okOr expired e).run w') := by
  cases expired with
  | none => exact .failed e w' hfetched (.inr rfl) hdb
  | some old => exact .fellBack old w' hfetched hurl rfl hdb

theorem run_fetchAndStore (url : String) (expired : Option MudData) (w : World) :
    Fetches w url expired ((fetchAndStore url expired).run w) := by
  by_cases hurl : fetchable url
  · unfold fetchAndStore
    rw [if_neg (by simp [hurl]), Action.run_attempt_bind, run_fetchMud]
    have hfetch : w.fetched url expired (w.clock 0) =
        (fetchedProfile (w.network 0 url) url (w.clock 0)).map (keepOverride expired) := if_pos hurl
    cases hanswer : w.network 0 url with
    | error e =>
        rw [hanswer] at hfetch
        exact fetches_okOr hurl hfetch rfl
    | ok text =>
        rw [hanswer] at hfetch
        obtain ⟨hdb, hparse⟩ := run_parseMud url text { w with network := fun n => w.network (n + 1) }
        have hprofile : fetchedProfile (.ok text) url (w.clock 0) = _ := hparse.symm
        rw [hprofile] at hfetch
        show Fetches w url expired (Action.run ((parseMud url text).attempt >>= _) _)
        rw [Action.run_attempt_bind]
        cases hres : ((parseMud url text).run { w with network := fun n => w.network (n + 1) }).1 with
        | error e =>
            rw [hres] at hfetch
            exact fetches_okOr hurl hfetch hdb
        | ok data =>
            rw [hres] at hfetch
            obtain ⟨createdAt, w', htables, hrun⟩ := run_storeFetched url (keepOverride expired data)
              ((parseMud url text).run { w with network := fun n => w.network (n + 1) }).2
            show Fetches w url expired ((storeFetched url (keepOverride expired data)).run _)
            rw [hrun]
            exact .stored _ createdAt w' hfetch (by rw [htables, hdb])
  · have hfetch : w.fetched url expired (w.clock 0) = none := if_neg hurl
    unfold fetchAndStore
    rw [if_pos (by simp [hurl])]
    exact .failed _ w hfetch (.inl hurl) rfl

/-- **Loading a profile.** -/
theorem getOrFetchMud_loads (url : String) (w : World) : Loads w url ((getOrFetchMud url).run w) := by
  rw [run_getOrFetchMud]
  cases hstored : w.stored url with
  | none =>
      -- nothing to fall back to
      have hrefreshed := World.refreshed_absent hstored
      rw [afterLookup_absent hstored]
      have hfetches := run_fetchAndStore url none w
      generalize (fetchAndStore url none).run w = r at hfetches
      cases hfetches with
      | fellBack old w' hfetched hurl hexpired hdb => cases hexpired
      | failed e w' hfetched hno hdb =>
          exact .failed e w' (hrefreshed.trans hfetched) (World.kept_absent hstored) hdb
      | stored data createdAt w' hfetched hdb =>
          exact .refreshed data createdAt w' (hrefreshed.trans hfetched) hdb
  | some row =>
      obtain ⟨mud, old⟩ := row
      obtain ⟨hrow, hparse, _⟩ := World.stored_url hstored
      have hrefreshed := World.refreshed_stored hstored
      have hkept := World.kept_stored hstored
      rw [hrow, afterLookup_stored hparse, run_checkExpired]
      by_cases hfresh : mud.expiration > w.clock 0
      · rw [if_pos hfresh] at hrefreshed ⊢
        rw [if_pos (.inl hfresh)] at hkept
        exact .kept old _ hrefreshed hkept rfl
      · -- expired: the expired profile is what is left if the fetch fails
        rw [if_neg hfresh] at hrefreshed ⊢
        have hfetches := run_fetchAndStore url (some old) w.tick
        generalize (fetchAndStore url (some old)).run w.tick = r at hfetches
        cases hfetches with
        | fellBack old' w' hfetched hurl hexpired hdb =>
            cases hexpired
            rw [if_pos (.inr hurl)] at hkept
            exact .kept old w' (hrefreshed.trans hfetched) hkept hdb
        | failed e w' hfetched hno hdb =>
            have hurl : ¬ fetchable url := hno.resolve_right (by simp)
            rw [if_neg (by simp [hfresh, hurl])] at hkept
            exact .failed e w' (hrefreshed.trans hfetched) hkept hdb
        | stored data createdAt w' hfetched hdb =>
            exact .refreshed data createdAt w' (hrefreshed.trans hfetched) hdb

/-- Loading succeeds exactly if there is a profile to answer with. -/
theorem getOrFetchMud_result (url : String) (w : World) :
    ((getOrFetchMud url).run w).1.toOption = w.loaded url := by
  have hloads := getOrFetchMud_loads url w
  generalize (getOrFetchMud url).run w = r at hloads
  unfold World.loaded
  cases hloads with
  | kept data w' hrefreshed hkept hdb =>
      rw [hrefreshed, hkept]
      rfl
  | failed e w' hrefreshed hkept hdb =>
      rw [hrefreshed, hkept]
      rfl
  | refreshed data createdAt w' hrefreshed hdb =>
      rw [hrefreshed]
      rfl

end MudController
