import MudController.Profile.Fetching
import MudController.Profile.Policy
import MudController.Version.Configuration

/-!
# `Profile.Loading` — `get_or_fetch_mud` is all or nothing

A call that fetches and parses a file stores the fresh profile, with the override of the stored one; any other
call leaves the table alone and answers with the stored profile, or with an error. In either case an answer is
what the table then has (`get_or_fetch_mud_whole`).
-/

namespace MudController

open Logic

variable [Platform]

/-- Fetching and parsing a MUD file at a time yield this profile. -/
def FetchedAt (answer : Except Error String) (url : String) (now : DateTime) (fresh : MudData) : Prop :=
  ∃ text mudJson, answer = .ok text ∧ Platform.mudJsonFromStr text = some mudJson ∧
    Parser.parseMud now url mudJson = .ok fresh

theorem fetchedProfile_eq_some_iff {answer : Except Error String} {url : String} {now : DateTime}
    {fresh : MudData} : fetchedProfile answer url now = some fresh ↔ FetchedAt answer url now fresh := by
  unfold fetchedProfile FetchedAt
  constructor
  · intro h
    obtain ⟨mudJson, hjson, hparse⟩ := Option.bind_eq_some_iff.mp h
    obtain ⟨text, htext, hjson⟩ := Option.bind_eq_some_iff.mp hjson
    refine ⟨text, mudJson, ?_, hjson, ?_⟩
    · cases answer with
      | error e => cases htext
      | ok text' => exact congrArg Except.ok (Option.some.inj htext)
    · rw [Parser.parseMud_eq]
      cases hresult : parseMudJson now url mudJson with
      | error e => rw [hresult] at hparse; cases hparse
      | ok data =>
          rw [hresult] at hparse
          exact congrArg Except.ok (Option.some.inj hparse)
  · rintro ⟨text, mudJson, rfl, hjson, hparse⟩
    rw [Parser.parseMud_eq] at hparse
    show (Platform.mudJsonFromStr text).bind _ = _
    rw [hjson, Option.bind_some, hparse]
    rfl

/-- Whether a file is accepted does not depend on the time. -/
theorem FetchedAt.anytime {answer : Except Error String} {url : String} {now : DateTime} {fresh : MudData}
    (h : FetchedAt answer url now fresh) (later : DateTime) : ∃ fresh', FetchedAt answer url later fresh' := by
  obtain ⟨text, mudJson, htext, hjson, hparse⟩ := h
  obtain ⟨fresh', hfresh'⟩ := parseMud_isOk_iff.mpr (parseMud_isOk_iff.mp ⟨fresh, hparse⟩)
  exact ⟨fresh', text, mudJson, htext, hjson, hfresh'⟩

/-- The row of a URL is parseable and has not expired. -/
def World.Unexpired (w : World) (url : String) (old : MudData) : Prop :=
  ∃ mud, w.db.mudRow url = some mud ∧ mud.parseData = some old ∧ w.clock 0 < mud.expiration

/-- What a call of `get_or_fetch_mud` returns and leaves behind. -/
structure LoadsWhole (w : World) (url : String) (r : Except Error MudData × World) : Prop where
  otherRows : r.2.db.mudData.filter (·.url ≠ url) = w.db.mudData.filter (·.url ≠ url)
  unexpired : ∀ old, w.Unexpired url old → r.1 = .ok old ∧ r.2.db = w.db
  notHttps : ¬ fetchable url → r.2.db = w.db
  fallback : (∀ now fresh, ¬ FetchedAt (w.network 0 url) url now fresh) →
    r.2.db = w.db ∧ (fetchable url → ∀ old, w.db.storedProfile url = some old → r.1 = .ok old)
  refreshed : fetchable url → (∀ old, ¬ w.Unexpired url old) →
    (∃ now fresh, FetchedAt (w.network 0 url) url now fresh) →
    ∃ n ≤ 1, ∃ fresh createdAt, FetchedAt (w.network 0 url) url (w.clock n) fresh ∧
      r.1 = .ok (keepOverride (w.db.storedProfile url) fresh) ∧
      r.2.db.mudRow url =
        some ⟨url, serialize (keepOverride (w.db.storedProfile url) fresh), createdAt, fresh.expiration⟩
  answered : ∀ data, r.1 = .ok data → r.2.db.storedProfile url = some data

/-! ## The cases of a call -/

theorem World.storedProfile_eq (w : World) (url : String) :
    w.db.storedProfile url = (w.stored url).map (·.2) := by
  unfold Tables.storedProfile World.stored
  cases w.db.mudRow url with
  | none => rfl
  | some mud =>
      rw [Option.bind_some, Option.bind_some, Option.map_map]
      exact (congrFun Option.map_id _).symm

omit [Platform] in
theorem keepOverride_expiration (expired : Option MudData) (data : MudData) :
    (keepOverride expired data).expiration = data.expiration := by
  cases expired <;> rfl

theorem World.refreshed_unexpired {w : World} {url : String} {old : MudData} (h : w.Unexpired url old) :
    w.refreshed url = none ∧ w.kept url = some old := by
  obtain ⟨mud, hrow, hparse, hfresh⟩ := h
  have hstored : w.stored url = some (mud, old) := by
    unfold World.stored
    rw [hrow, Option.bind_some, hparse]
    rfl
  exact ⟨(World.refreshed_stored hstored).trans (if_pos hfresh),
    (World.kept_stored hstored).trans (if_pos (.inl hfresh))⟩

/-- A refreshed profile is a fetched one, on top of the stored one. -/
theorem World.refreshed_fetched {w : World} {url : String} {data : MudData} (h : w.refreshed url = some data) :
    fetchable url = true ∧ ∃ n ≤ 1, ∃ fresh, FetchedAt (w.network 0 url) url (w.clock n) fresh ∧
      data = keepOverride (w.db.storedProfile url) fresh := by
  -- at the reading of the clock that the parser makes
  have hfetched {n : Nat} (hn : n ≤ 1) (h : w.fetched url (w.db.storedProfile url) (w.clock n) = some data) :
      fetchable url = true ∧ ∃ n ≤ 1, ∃ fresh, FetchedAt (w.network 0 url) url (w.clock n) fresh ∧
        data = keepOverride (w.db.storedProfile url) fresh := by
    unfold World.fetched at h
    by_cases hurl : fetchable url
    · rw [if_pos hurl] at h
      obtain ⟨fresh, hfresh, rfl⟩ := Option.map_eq_some_iff.mp h
      exact ⟨hurl, n, hn, fresh, fetchedProfile_eq_some_iff.mp hfresh, rfl⟩
    · rw [if_neg hurl] at h
      cases h
  have hdata := w.storedProfile_eq url
  cases hstored : w.stored url with
  | none =>
      rw [hstored] at hdata
      rw [World.refreshed_absent hstored] at h
      exact hfetched (Nat.zero_le 1) (hdata ▸ h)
  | some row =>
      obtain ⟨mud, old⟩ := row
      rw [hstored] at hdata
      rw [World.refreshed_stored hstored] at h
      by_cases hfresh : mud.expiration > w.clock 0
      · rw [if_pos hfresh] at h
        cases h
      · rw [if_neg hfresh] at h
        exact hfetched (Nat.le_refl 1) (hdata ▸ h)

/-- A URL that can be fetched is refreshed unless its row has not expired. -/
theorem World.refreshed_isSome {w : World} {url : String} (hurl : fetchable url = true)
    (hexpired : ∀ old, ¬ w.Unexpired url old) {now : DateTime} {fresh : MudData}
    (hfetch : FetchedAt (w.network 0 url) url now fresh) : ∃ data, w.refreshed url = some data := by
  have hfetched (expired : Option MudData) (later : DateTime) :
      ∃ data, w.fetched url expired later = some data := by
    obtain ⟨fresh', hfresh'⟩ := hfetch.anytime later
    unfold World.fetched
    rw [if_pos hurl, fetchedProfile_eq_some_iff.mpr hfresh']
    exact ⟨_, rfl⟩
  cases hstored : w.stored url with
  | none =>
      rw [World.refreshed_absent hstored]
      exact hfetched none (w.clock 0)
  | some row =>
      obtain ⟨mud, old⟩ := row
      obtain ⟨hrow, hparse, _⟩ := World.stored_url hstored
      rw [World.refreshed_stored hstored, if_neg fun hfresh => hexpired old ⟨mud, hrow, hparse, hfresh⟩]
      exact hfetched (some old) (w.clock 1)

/-- What is kept is what is stored. -/
theorem World.kept_storedProfile {w : World} {url : String} {data : MudData} (h : w.kept url = some data) :
    w.db.storedProfile url = some data := by
  rw [World.storedProfile_eq]
  cases hstored : w.stored url with
  | none =>
      rw [World.kept_absent hstored] at h
      cases h
  | some row =>
      obtain ⟨mud, old⟩ := row
      rw [World.kept_stored hstored] at h
      by_cases hkeep : mud.expiration > w.clock 0 ∨ fetchable url
      · rw [if_pos hkeep] at h
        exact h
      · rw [if_neg hkeep] at h
        cases h

theorem World.kept_fetchable {w : World} {url : String} (hurl : fetchable url = true) :
    w.kept url = w.db.storedProfile url := by
  rw [World.storedProfile_eq]
  cases hstored : w.stored url with
  | none => exact World.kept_absent hstored
  | some row => exact (World.kept_stored hstored).trans (if_pos (.inr hurl))

/-- An expired row without an address to fetch from is not answered with. -/
theorem World.kept_expired {w : World} {url : String} {mud : MudDbo} (hrow : w.db.mudRow url = some mud)
    (hexpired : mud.expiration < w.clock 0) (hurl : ¬ fetchable url = true) : w.kept url = none := by
  cases hstored : w.stored url with
  | none => exact World.kept_absent hstored
  | some row =>
      obtain ⟨mud', old⟩ := row
      obtain ⟨hrow', -, -⟩ := World.stored_url hstored
      rw [hrow] at hrow'
      cases hrow'
      exact (World.kept_stored hstored).trans
        (if_neg (not_or.mpr ⟨Int.not_lt.mpr (Int.le_of_lt hexpired), hurl⟩))

/-- A call that stores nothing answers with what it keeps. -/
theorem LoadsWhole.of_kept {w w' : World} {url : String} {r : Except Error MudData}
    (hrefreshed : w.refreshed url = none) (hresult : r.toOption = w.kept url) (hdb : w'.db = w.db) :
    LoadsWhole w url (r, w') := by
  have hok {data : MudData} (hkept : w.kept url = some data) : r = .ok data := by
    rw [hkept] at hresult
    cases r with
    | error e => cases hresult
    | ok data' => exact congrArg Except.ok (Option.some.inj hresult)
  constructor
  case otherRows => rw [hdb]
  case unexpired =>
    intro old hold
    exact ⟨hok (World.refreshed_unexpired hold).2, hdb⟩
  case notHttps => exact fun _ => hdb
  case fallback =>
    intro _
    refine ⟨hdb, fun hurl old hold => ?_⟩
    exact hok ((World.kept_fetchable hurl).trans hold)
  case refreshed =>
    rintro hurl hexpired ⟨now, fresh, hfetch⟩
    obtain ⟨data, hdata⟩ := World.refreshed_isSome hurl hexpired hfetch
    rw [hrefreshed] at hdata
    cases hdata
  case answered =>
    intro data hdata
    rw [show r = .ok data from hdata] at hresult
    show w'.db.storedProfile url = some data
    rw [hdb]
    exact World.kept_storedProfile hresult.symm

/-- A call that stores a profile answers with it. -/
theorem LoadsWhole.of_refreshed {w w' : World} {url : String} {data : MudData} {createdAt : DateTime}
    (hrefreshed : w.refreshed url = some data)
    (hdb : w'.db.toTables = w.db.upsertMud (fetchedRow url data createdAt)) :
    LoadsWhole w url (.ok data, w') := by
  obtain ⟨hurl, n, hn, fresh, hfetch, hdata⟩ := World.refreshed_fetched hrefreshed
  have hrow : w'.db.mudRow url = some (fetchedRow url data createdAt) := by
    rw [hdb]
    exact Tables.mudRow_upsertMud _ _
  have hexpiration : data.expiration = fresh.expiration := by
    rw [hdata, keepOverride_expiration]
  constructor
  case otherRows =>
    show w'.db.mudData.filter _ = _
    rw [hdb]
    exact @filter_upsertRow_other MudDbo String _ MudDbo.url (fetchedRow url data createdAt) w.db.mudData
  case unexpired =>
    intro old hold
    rw [(World.refreshed_unexpired hold).1] at hrefreshed
    cases hrefreshed
  case notHttps => exact fun hno => absurd hurl hno
  case fallback => exact fun hno => absurd hfetch (hno _ _)
  case refreshed =>
    intro _ _ _
    refine ⟨n, hn, fresh, createdAt, hfetch, by rw [hdata], ?_⟩
    rw [← hdata, ← hexpiration]
    exact hrow
  case answered =>
    intro data' hdata'
    cases hdata'
    show (w'.db.mudRow url).bind _ = _
    rw [hrow, Option.bind_some]
    exact MudDbo.parseData_serialize _ _ _ _

/-- **`get_or_fetch_mud` is all or nothing**, and falls back to what is stored. -/
theorem get_or_fetch_mud_whole (url : String) (w : World) : LoadsWhole w url ((getOrFetchMud url).run w) := by
  have hloads := getOrFetchMud_loads url w
  generalize (getOrFetchMud url).run w = r at hloads
  cases hloads with
  | kept data w' hrefreshed hkept hdb => exact .of_kept hrefreshed hkept.symm hdb
  | failed e w' hrefreshed hkept hdb => exact .of_kept hrefreshed hkept.symm hdb
  | refreshed data createdAt w' hrefreshed hdb => exact .of_refreshed hrefreshed hdb

/-! ## Responses -/

section

variable [Charsets] {m : Meaning Charsets.Decoder}

/-- What fetching yields is what `fetch_mud` makes of the answers `sent` to its requests. -/
def World.Receives (w : World) (sent : Nat → String → Except Error Response) : Prop :=
  ∀ n url, ∃ turns, fetchMudFrom turns (sent n url) = some (w.network n url)

/-- So a fresh profile is parsed from the text of the whole body of a response. -/
theorem FetchedAt.of_response (hlaw : Charsets.decodeToStr.Lawful m bufferSize)
    (husable : ∀ encoding, m.usable (Charsets.newDecoder encoding)) {w : World}
    {sent : Nat → String → Except Error Response} (hreceives : w.Receives sent) {n : Nat} {url : String}
    {now : DateTime} {fresh : MudData} (h : FetchedAt (w.network n url) url now fresh) :
    ∃ response mudJson, sent n url = .ok response ∧
      Platform.mudJsonFromStr (m.text response.decoder response.chunks.flatten) = some mudJson ∧
      Parser.parseMud now url mudJson = .ok fresh := by
  obtain ⟨text, mudJson, htext, hjson, hparse⟩ := h
  obtain ⟨turns, hfetch⟩ := hreceives n url
  rw [htext] at hfetch
  obtain ⟨response, hsent, rfl⟩ := text_of_fetchMudFrom hlaw husable hfetch
  exact ⟨response, mudJson, hsent, hjson, hparse⟩

end

end MudController
