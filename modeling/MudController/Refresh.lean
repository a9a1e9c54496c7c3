import MudController.Logic.Interleave
import MudController.Reference
import MudController.Run.Announce
import MudController.Run.Mud

/-!
# `Refresh` — a profile refresh among override edits

`get_or_fetch_mud` and `update_mud` both read the row of a profile and later write a whole row back: the
refresh carries the override over that it read, an edit carries the ACLs and the expiration over. Here one
refresh of an expired profile and any number of edits take turns, statement by statement. As long as no call
overwrites what it should have carried over, neither side loses anything (`refresh_keeps_edits`).
-/

namespace MudController

open Logic

section

variable [Platform]

/-! ## The calls -/

/-- A call of `update_mud`. -/
structure OverrideEdit where
  auth : AuthToken
  dto : MudUpdateDto

/-- The override that an edit writes. -/
def OverrideEdit.aclOverride (edit : OverrideEdit) : List Acl := edit.dto.aclOverride.getD []

def OverrideEdit.call (url : String) (edit : OverrideEdit) : Action MudData :=
  updateMud edit.auth ⟨url⟩ edit.dto

/-- One refresh, which is call 0, and the edits, which are the calls from 1 on. -/
def refreshPool (w : World) (url : String) (edits : List OverrideEdit) :
    Pool Stmt Stmt.Answer Error MudData World :=
  Pool.start w (getOrFetchMud url :: edits.map (OverrideEdit.call url))

/-- A statement that writes a profile. -/
def Stmt.storesMud : Stmt → Bool
  | .upsertMud _ => true
  | _ => false

/-- The refresh has written the profile. -/
def refreshStored : List (Nat × Stmt) → Bool
  | [] => false
  | (i, s) :: trace => (i == 0 && s.storesMud) || refreshStored trace

/-- The override written by the last edit that wrote, or else the original one. -/
def lastOverride (original : List Acl) (edits : List OverrideEdit) : List (Nat × Stmt) → List Acl
  | [] => original
  | (i, s) :: trace =>
      if s.storesMud then
        match i with
        | 0 => lastOverride original edits trace
        | i + 1 => (edits[i]?.map OverrideEdit.aclOverride).getD (lastOverride original edits trace)
      else lastOverride original edits trace

/-- A call that is about to write the profile finds stored what its row carries over: the refresh the
    override, an edit the ACLs and the expiration. -/
def carriesOver (url : String) (P : Pool Stmt Stmt.Answer Error MudData World) (i : Nat) : Bool :=
  match P.procs[i]? with
  | some (.stmt (.upsertMud row) _) =>
    match P.state.stored url, row.parseData with
    | some (mud, data), some data' =>
      if i = 0 then data'.aclOverride = data.aclOverride
      else data'.acllist = data.acllist ∧ data'.expiration = data.expiration ∧
        row.expiration = mud.expiration
    | _, _ => true
  | _ => true

/-- The turn of call `i` overwrites nothing that it should have carried over. -/
abbrev CarriesOver (url : String) (P : Pool Stmt Stmt.Answer Error MudData World) (i : Nat) : Prop :=
  carriesOver url P i = true

theorem CarriesOver.kept {url : String} {P : Pool Stmt Stmt.Answer Error MudData World} {i : Nat}
    (h : CarriesOver url P i) {row mud : MudDbo} {data data' : MudData}
    {k : Written → Action MudData} (hproc : P.procs[i]? = some (.stmt (.upsertMud row) k))
    (hstored : P.state.stored url = some (mud, data)) (hparse : row.parseData = some data') :
    (i = 0 → data'.aclOverride = data.aclOverride) ∧
    (i ≠ 0 → data'.acllist = data.acllist ∧ data'.expiration = data.expiration ∧
      row.expiration = mud.expiration) := by
  unfold CarriesOver carriesOver at h
  simp only [hproc, hstored, hparse] at h
  exact imp_of_ite_decide h

/-! ## Where a refresh can be -/

/-- The refresh after it has fetched a file. -/
def parseAndStore (url : String) (old : MudData) (text : String) : Action MudData := do
  match ← (parseMud url text).attempt with
  | .error e => okOr (some old) e
  | .ok data => storeFetched url (keepOverride (some old) data)

/-- The refresh with the answer to its fetch. -/
def afterFetch (url : String) (old : MudData) : Except Error String → Action MudData
  | .error e => okOr (some old) e
  | .ok text => parseAndStore url old text

theorem fetchAndStore_fetchable {url : String} (hurl : fetchable url) (old : MudData) :
    fetchAndStore url (some old) = .stmt (.fetch url) (afterFetch url old) := by
  unfold fetchAndStore
  rw [if_neg (by simp [hurl])]
  refine congrArg (Prog.stmt (Stmt.fetch url)) (funext fun answer => ?_)
  cases answer <;> rfl

/-- The refresh with the file as a profile of the current time. -/
def afterParse (url : String) (old : MudData) (parsed : Except Error MudData) : Action MudData :=
  match parsed with
  | .error e => okOr (some old) e
  | .ok data => storeFetched url (keepOverride (some old) data)

theorem parseAndStore_json {url text : String} {mudJson : MudJson}
    (hjson : Platform.mudJsonFromStr text = some mudJson) (old : MudData) :
    parseAndStore url old text = .stmt .now fun t => afterParse url old (parseMudJson t url mudJson) := by
  unfold parseAndStore parseMud
  rw [hjson]
  rfl

/-- A file that is a profile deserializes and parses. -/
theorem fetchedProfile_ok {text url : String} {t : DateTime} {fresh : MudData}
    (h : fetchedProfile (.ok text) url t = some fresh) :
    ∃ mudJson, Platform.mudJsonFromStr text = some mudJson ∧ parseMudJson t url mudJson = .ok fresh := by
  obtain ⟨mudJson, hjson, hparse⟩ := Option.bind_eq_some_iff.mp h
  refine ⟨mudJson, hjson, ?_⟩
  cases hres : parseMudJson t url mudJson with
  | error e =>
      rw [hres] at hparse
      cases hparse
  | ok data =>
      rw [hres] at hparse
      cases hparse
      rfl

/-- The refresh about to write its row. -/
def storeRow (url : String) (data : MudData) (createdAt : DateTime) : Action MudData := do
  upsertMud (fetchedRow url data createdAt)
  return data

/-- The places where a refresh can be, with the clock and the network it has left: only the refresh reads
    these. The flag says whether it has written. -/
inductive RefreshPhase (w₀ : World) (url : String) (fresh : MudData) (w : World) :
    Bool → Action MudData → Prop where
  | reading (hclock : w.clock = w₀.clock) (hnetwork : w.network = w₀.network) :
      RefreshPhase w₀ url fresh w false (getOrFetchMud url)
  | checking (mud : MudDbo) (old : MudData) (hclock : w.clock = w₀.clock)
      (hnetwork : w.network = w₀.network) (hexpired : mud.expiration ≤ w₀.clock 0) :
      RefreshPhase w₀ url fresh w false (checkExpired url mud old)
  | fetching (old : MudData) (hclock : w.clock = w₀.tick.clock) (hnetwork : w.network = w₀.network) :
      RefreshPhase w₀ url fresh w false (fetchAndStore url (some old))
  | parsing (old : MudData) (text : String) (hclock : w.clock = w₀.tick.clock)
      (hanswer : w₀.network 0 url = .ok text) :
      RefreshPhase w₀ url fresh w false (parseAndStore url old text)
  | storing (old : MudData) :
      RefreshPhase w₀ url fresh w false (storeFetched url (keepOverride (some old) fresh))
  | writing (old : MudData) (createdAt : DateTime) :
      RefreshPhase w₀ url fresh w false (storeRow url (keepOverride (some old) fresh) createdAt)
  | finished (r : Except Error MudData) : RefreshPhase w₀ url fresh w true (.done r)

/-- Other calls do not move the refresh as long as they leave clock and network alone. -/
theorem RefreshPhase.congr {w₀ w w' : World} {url : String} {fresh : MudData} {written : Bool}
    {p : Action MudData} (h : RefreshPhase w₀ url fresh w written p) (hclock : w'.clock = w.clock)
    (hnetwork : w'.network = w.network) : RefreshPhase w₀ url fresh w' written p := by
  cases h with
  | reading hc hn => exact .reading (hclock.trans hc) (hnetwork.trans hn)
  | checking mud old hc hn hexpired =>
      exact .checking mud old (hclock.trans hc) (hnetwork.trans hn) hexpired
  | fetching old hc hn => exact .fetching old (hclock.trans hc) (hnetwork.trans hn)
  | parsing old text hc hanswer => exact .parsing old text (hclock.trans hc) hanswer
  | storing old => exact .storing old
  | writing old createdAt => exact .writing old createdAt
  | finished r => exact .finished r

/-- **What a refresh does next.** It writes its row, which carries an override over that it read, or it
    executes a statement that leaves the database alone. -/
theorem RefreshPhase.step {w₀ w : World} {url : String} {fresh : MudData} {written : Bool}
    {s : Stmt} {k : s.Answer → Action MudData} (h : RefreshPhase w₀ url fresh w written (.stmt s k))
    (hurl : fetchable url) (hfresh : fetchedProfile (w₀.network 0 url) url (w₀.clock 1) = some fresh)
    {mud : MudDbo} {data : MudData} (hstored : w.stored url = some (mud, data))
    (hexpired : written = false → mud.expiration ≤ w₀.clock 0) :
    written = false ∧
    ((s.storesMud = false ∧ (s.exec w).2.db = w.db ∧
        RefreshPhase w₀ url fresh (s.exec w).2 false (k (s.exec w).1)) ∨
      (∃ old createdAt, s = .upsertMud (fetchedRow url (keepOverride (some old) fresh) createdAt) ∧
        RefreshPhase w₀ url fresh (s.exec w).2 true (k (s.exec w).1))) := by
  generalize hp : (Prog.stmt s k : Action MudData) = p at h
  cases h with
  | reading hclock hnetwork =>
      cases hp
      obtain ⟨hrow, hparse, _⟩ := World.stored_url hstored
      refine ⟨rfl, .inl ⟨rfl, rfl, ?_⟩⟩
      show RefreshPhase w₀ url fresh w false (afterLookup url (w.db.mudRow url))
      rw [hrow, afterLookup_stored hparse]
      exact .checking mud data hclock hnetwork (hexpired rfl)
  | checking mud' old hclock hnetwork hexp =>
      cases hp
      refine ⟨rfl, .inl ⟨rfl, rfl, ?_⟩⟩
      -- the first reading of the clock, so the row is still expired
      have hnot : ¬ mud'.expiration > w.clock 0 := by
        rw [hclock]
        exact Int.not_lt.mpr hexp
      show RefreshPhase w₀ url fresh w.tick false
        (if mud'.expiration > w.clock 0 then pure old else fetchAndStore url (some old))
      rw [if_neg hnot]
      refine .fetching old ?_ hnetwork
      show (fun n => w.clock (n + 1)) = fun n => w₀.clock (n + 1)
      rw [hclock]
  | fetching old hclock hnetwork =>
      rw [fetchAndStore_fetchable hurl] at hp
      cases hp
      refine ⟨rfl, .inl ⟨rfl, rfl, ?_⟩⟩
      show RefreshPhase w₀ url fresh _ false (afterFetch url old (w.network 0 url))
      rw [hnetwork]
      -- `hfresh` excludes a fetch that fails
      cases hanswer : w₀.network 0 url with
      | error e =>
          rw [hanswer] at hfresh
          cases hfresh
      | ok text => exact .parsing old text hclock hanswer
  | parsing old text hclock hanswer =>
      rw [hanswer] at hfresh
      obtain ⟨mudJson, hjson, hparsed⟩ := fetchedProfile_ok hfresh
      rw [parseAndStore_json hjson] at hp
      cases hp
      refine ⟨rfl, .inl ⟨rfl, rfl, ?_⟩⟩
      -- the clock is at its second reading
      have hnow : w.clock 0 = w₀.clock 1 := by
        rw [hclock]
        rfl
      show RefreshPhase w₀ url fresh w.tick false (afterParse url old (parseMudJson (w.clock 0) url mudJson))
      rw [hnow, hparsed]
      exact .storing old
  | storing old =>
      cases hp
      exact ⟨rfl, .inl ⟨rfl, rfl, .writing old (w.clock 0)⟩⟩
  | writing old createdAt =>
      cases hp
      refine ⟨rfl, .inr ⟨old, createdAt, rfl, ?_⟩⟩
      have hexec : (Stmt.upsertMud (fetchedRow url (keepOverride (some old) fresh) createdAt)).exec w =
          (.ok 1, _) := World.write_ok (w.db.schema.upsertMud _) 1
      rw [hexec]
      exact .finished (.ok (keepOverride (some old) fresh))
  | finished r => cases hp

/-! ## Where an edit can be -/

/-- The places where an edit can be. -/
inductive EditPhase (url : String) (edit : OverrideEdit) : Action MudData → Prop where
  | reading : EditPhase url edit (edit.call url)
  | writing (mud : MudDbo) (data : MudData) (hurl : mud.url = url) :
      EditPhase url edit (storeOverride mud data edit.aclOverride)
  | written (p : Action MudData) (hbumps : p.All Stmt.Bumps) : EditPhase url edit p

/-- A statement leaves the profiles, the clock and the network alone. -/
structure Apart (w w' : World) : Prop where
  mudData : w'.db.mudData = w.db.mudData
  clock : w'.clock = w.clock
  network : w'.network = w.network

theorem Apart.stored {w w' : World} (h : Apart w w') (url : String) : w'.stored url = w.stored url := by
  unfold World.stored Tables.mudRow
  rw [h.mudData]

/-- A write of other tables leaves the profiles, the clock and the network alone. -/
theorem apart_write {α : Type} {w : World} {f : Tables → Tables}
    (hf : (f w.db.toTables).mudData = w.db.mudData) (affected : α) : Apart w (w.write f affected).2 := by
  by_cases h : Schema (f w.db.toTables)
  · rw [World.write_ok h]
    exact ⟨hf, rfl, rfl⟩
  · rw [World.write_refused h]
    exact ⟨rfl, rfl, rfl⟩

theorem Stmt.Bumps.apart {s : Stmt} (h : s.Bumps) (w : World) : Apart w (s.exec w).2 := by
  cases s with
  | selectConfig key => exact ⟨rfl, rfl, rfl⟩
  | upsertConfig key value => exact apart_write rfl _
  | _ => cases h

theorem Stmt.Bumps.storesMud {s : Stmt} (h : s.Bumps) : s.storesMud = false := by
  cases s <;> first | rfl | cases h

/-- **What an edit does next.** It writes back a row of the profile with its override in it, or it executes
    a statement that leaves the profiles alone. -/
theorem EditPhase.step {url : String} {edit : OverrideEdit} {s : Stmt} {k : s.Answer → Action MudData}
    (h : EditPhase url edit (.stmt s k)) {w : World} {mud : MudDbo} {data : MudData}
    (hstored : w.stored url = some (mud, data)) :
    (s.storesMud = false ∧ Apart w (s.exec w).2 ∧ EditPhase url edit (k (s.exec w).1)) ∨
    (∃ mud' data', mud'.url = url ∧ s = .upsertMud (withOverride mud' data' edit.aclOverride) ∧
      EditPhase url edit (k (s.exec w).1)) := by
  obtain ⟨hrow, hparse, hurl⟩ := World.stored_url hstored
  generalize hp : (Prog.stmt s k : Action MudData) = p at h
  cases h with
  | reading =>
      unfold OverrideEdit.call at hp
      -- without the permission, the edit ends before its first statement
      rcases edit.auth.grants_or_denied .mudWrite with hgrants | ⟨e, hdenied⟩
      · rw [updateMud_granted hgrants] at hp
        cases hp
        refine .inl ⟨rfl, ⟨rfl, rfl, rfl⟩, ?_⟩
        show EditPhase url edit (afterEditLookup edit.dto (w.db.mudRow url))
        rw [hrow]
        unfold afterEditLookup
        simp only [hparse]
        exact .writing mud data hurl
      · rw [updateMud_denied hdenied] at hp
        cases hp
  | writing mud' data' hurl' =>
      cases hp
      refine .inr ⟨mud', data', hurl', rfl, .written _ ?_⟩
      have hexec : (Stmt.upsertMud (withOverride mud' data' edit.aclOverride)).exec w = (.ok 1, _) :=
        World.write_ok (w.db.schema.upsertMud _) 1
      rw [hexec]
      show Prog.All Stmt.Bumps (updateConfigVersion >>= fun _ =>
        pure { data' with aclOverride := edit.aclOverride })
      exact Prog.All.bind updateConfigVersion_bumps fun _ => trivial
  | written p hbumps =>
      subst hp
      exact .inl ⟨hbumps.1.storesMud, hbumps.1.apart w, .written _ (hbumps.2 _)⟩

/-! ## The invariant -/

/-- The ACLs and the expiration that the stored profile should have. -/
structure Base where
  acllist : List Acl
  expiration : DateTime
  rowExpiration : DateTime

/-- The ACLs and the expiration of a stored profile. -/
def base (mud : MudDbo) (data : MudData) : Base := ⟨data.acllist, data.expiration, mud.expiration⟩

/-- The base of a profile that was fetched. -/
def fetchedBase (fresh : MudData) : Base := ⟨fresh.acllist, fresh.expiration, fresh.expiration⟩

/-- What holds at every moment: every call is at one of its places, and the stored profile has the base of
    the refresh, once that has written, and the override of the last edit that has. -/
structure RefreshInv (w₀ : World) (url : String) (mud₀ : MudDbo) (old fresh : MudData)
    (edits : List OverrideEdit) (P : Pool Stmt Stmt.Answer Error MudData World) : Prop where
  count : P.procs.length = edits.length + 1
  refresh : ∃ p, P.procs[0]? = some p ∧ RefreshPhase w₀ url fresh P.state (refreshStored P.trace) p
  edit : ∀ i e, edits[i]? = some e → ∃ p, P.procs[i + 1]? = some p ∧ EditPhase url e p
  stored : ∃ mud data, P.state.stored url = some (mud, data) ∧
    data.aclOverride = lastOverride old.aclOverride edits P.trace ∧
    base mud data = if refreshStored P.trace then fetchedBase fresh else base mud₀ old

/-- After an upsert, the row that was written is the stored one. -/
theorem stored_upsertMud (w : World) {row : MudDbo} {data : MudData} (hparse : row.parseData = some data) :
    ((Stmt.upsertMud row).exec w).2.stored row.url = some (row, data) := by
  have hexec : (Stmt.upsertMud row).exec w = (.ok 1, _) := World.write_ok (w.db.schema.upsertMud row) 1
  have hrow : (w.db.toTables.upsertMud row).mudRow row.url = some row := Tables.mudRow_upsertMud _ row
  rw [hexec]
  show ((w.db.toTables.upsertMud row).mudRow row.url).bind _ = _
  rw [hrow, Option.bind_some, hparse]
  rfl

/-- An upsert leaves clock and network alone. -/
theorem exec_upsertMud_surroundings (w : World) (row : MudDbo) :
    ((Stmt.upsertMud row).exec w).2.clock = w.clock ∧
      ((Stmt.upsertMud row).exec w).2.network = w.network := by
  have hexec : (Stmt.upsertMud row).exec w = (.ok 1, _) := World.write_ok (w.db.schema.upsertMud row) 1
  rw [hexec]
  exact ⟨rfl, rfl⟩

theorem refreshInv_start {w : World} {url : String} {mud : MudDbo} {old : MudData} (fresh : MudData)
    (edits : List OverrideEdit) (hstored : w.stored url = some (mud, old)) :
    RefreshInv w url mud old fresh edits (refreshPool w url edits) where
  count := by simp [refreshPool, Pool.start]
  refresh := ⟨_, rfl, .reading rfl rfl⟩
  edit i e he := ⟨e.call url, by simp [refreshPool, Pool.start, he], .reading⟩
  stored := ⟨mud, old, hstored, rfl, rfl⟩

section

variable {w₀ : World} {url : String} {mud₀ : MudDbo} {old fresh : MudData} {edits : List OverrideEdit}
variable {P : Pool Stmt Stmt.Answer Error MudData World}

/-- The refresh has moved to a place. -/
theorem RefreshInv.moveRefresh (h : RefreshInv w₀ url mud₀ old fresh edits P) {p : Action MudData} {w : World}
    {trace : List (Nat × Stmt)} (hphase : RefreshPhase w₀ url fresh w (refreshStored trace) p)
    {mud : MudDbo} {data : MudData} (hstored : w.stored url = some (mud, data))
    (hoverride : data.aclOverride = lastOverride old.aclOverride edits trace)
    (hbase : base mud data = if refreshStored trace then fetchedBase fresh else base mud₀ old) :
    RefreshInv w₀ url mud₀ old fresh edits ⟨w, P.procs.set 0 p, trace⟩ := by
  obtain ⟨q, hq, _⟩ := h.refresh
  have hlt : 0 < P.procs.length := (List.getElem?_eq_some_iff.mp hq).1
  refine ⟨?_, ⟨p, List.getElem?_set_self hlt, hphase⟩, ?_, mud, data, hstored, hoverride, hbase⟩
  · show (P.procs.set 0 p).length = edits.length + 1
    rw [List.length_set]
    exact h.count
  · intro j e he
    obtain ⟨q, hq, hedit⟩ := h.edit j e he
    refine ⟨q, ?_, hedit⟩
    rw [List.getElem?_set_ne (by omega)]
    exact hq

/-- An edit has moved to a place, and the refresh is where it was. -/
theorem RefreshInv.moveEdit (h : RefreshInv w₀ url mud₀ old fresh edits P) {j : Nat} {e : OverrideEdit}
    (he : edits[j]? = some e) {p : Action MudData} {w : World} {trace : List (Nat × Stmt)}
    (hedit : EditPhase url e p) (hclock : w.clock = P.state.clock) (hnetwork : w.network = P.state.network)
    (htrace : refreshStored trace = refreshStored P.trace)
    {mud : MudDbo} {data : MudData} (hstored : w.stored url = some (mud, data))
    (hoverride : data.aclOverride = lastOverride old.aclOverride edits trace)
    (hbase : base mud data = if refreshStored trace then fetchedBase fresh else base mud₀ old) :
    RefreshInv w₀ url mud₀ old fresh edits ⟨w, P.procs.set (j + 1) p, trace⟩ := by
  obtain ⟨q, hq, _⟩ := h.edit j e he
  have hlt : j + 1 < P.procs.length := (List.getElem?_eq_some_iff.mp hq).1
  refine ⟨?_, ?_, ?_, mud, data, hstored, hoverride, hbase⟩
  · show (P.procs.set (j + 1) p).length = edits.length + 1
    rw [List.length_set]
    exact h.count
  · obtain ⟨r, hr, hphase⟩ := h.refresh
    refine ⟨r, ?_, htrace ▸ hphase.congr hclock hnetwork⟩
    rw [List.getElem?_set_ne (by omega)]
    exact hr
  · intro l e' hl
    by_cases hlj : l = j
    · subst hlj
      rw [he] at hl
      cases hl
      exact ⟨p, List.getElem?_set_self hlt, hedit⟩
    · obtain ⟨r, hr, hedit'⟩ := h.edit l e' hl
      refine ⟨r, ?_, hedit'⟩
      rw [List.getElem?_set_ne (by omega)]
      exact hr

/-- **The refresh takes a turn.** It writes a row that carries the stored override over, or moves to its next
    place. -/
theorem RefreshInv.refreshTurn (h : RefreshInv w₀ url mud₀ old fresh edits P)
    (hexpired : mud₀.expiration ≤ w₀.clock 0) (hurl : fetchable url)
    (hfresh : fetchedProfile (w₀.network 0 url) url (w₀.clock 1) = some fresh)
    (hcarries : CarriesOver url P 0) {s : Stmt} {k : s.Answer → Action MudData}
    (hproc : P.procs[0]? = some (.stmt s k)) :
    RefreshInv w₀ url mud₀ old fresh edits
      ⟨(s.exec P.state).2, P.procs.set 0 (k (s.exec P.state).1), (0, s) :: P.trace⟩ := by
  obtain ⟨mud, data, hstored, hoverride, hbase⟩ := h.stored
  obtain ⟨p, hp, hphase⟩ := h.refresh
  rw [hproc] at hp
  cases hp
  have hexp : refreshStored P.trace = false → mud.expiration ≤ w₀.clock 0 := by
    intro hnot
    rw [hnot] at hbase
    -- until the refresh writes, the row has the expiration that it began with
    have hrow : mud.expiration = mud₀.expiration := congrArg Base.rowExpiration hbase
    rw [hrow]
    exact hexpired
  obtain ⟨hnot, hnext⟩ := hphase.step hurl hfresh hstored hexp
  rcases hnext with ⟨hquiet, hdb, hphase'⟩ | ⟨expired, createdAt, hs, hphase'⟩
  · -- a statement that leaves the database alone
    have htrace : refreshStored ((0, s) :: P.trace) = refreshStored P.trace := by
      simp [refreshStored, hquiet]
    have hstored' : (s.exec P.state).2.stored url = some (mud, data) := by
      unfold World.stored at hstored ⊢
      rw [hdb]
      exact hstored
    apply h.moveRefresh _ hstored'
    · rw [hoverride]
      simp [lastOverride, hquiet]
    · rw [htrace]
      exact hbase
    · rw [htrace, hnot]
      exact hphase'
  · -- the write: the override is the stored one, the base is the fetched one
    subst hs
    have hparse : (fetchedRow url (keepOverride (some expired) fresh) createdAt).parseData =
        some (keepOverride (some expired) fresh) := MudDbo.parseData_serialize _ _ _ _
    have hkept := (hcarries.kept hproc hstored hparse).1 rfl
    exact h.moveRefresh hphase' (stored_upsertMud P.state hparse) (hkept.trans hoverride) rfl

/-- **An edit takes a turn.** It writes its override into a row that carries the stored base over, or moves to
    its next place. -/
theorem RefreshInv.editTurn (h : RefreshInv w₀ url mud₀ old fresh edits P) {j : Nat}
    (hcarries : CarriesOver url P (j + 1)) {s : Stmt} {k : s.Answer → Action MudData}
    (hproc : P.procs[j + 1]? = some (.stmt s k)) :
    RefreshInv w₀ url mud₀ old fresh edits
      ⟨(s.exec P.state).2, P.procs.set (j + 1) (k (s.exec P.state).1), (j + 1, s) :: P.trace⟩ := by
  obtain ⟨mud, data, hstored, hoverride, hbase⟩ := h.stored
  have hj : j < edits.length := by
    have hlt := (List.getElem?_eq_some_iff.mp hproc).1
    have hcount := h.count
    omega
  have he : edits[j]? = some edits[j] := List.getElem?_eq_getElem hj
  obtain ⟨q, hq, hedit⟩ := h.edit j edits[j] he
  rw [hproc] at hq
  cases hq
  have htrace : refreshStored ((j + 1, s) :: P.trace) = refreshStored P.trace := by
    simp [refreshStored]
  rcases hedit.step hstored with ⟨hquiet, hapart, hnext⟩ | ⟨mud', data', hurl', hs, hnext⟩
  · -- a statement that leaves the profiles, the clock and the network alone
    have hstored' : (s.exec P.state).2.stored url = some (mud, data) := by
      rw [hapart.stored]
      exact hstored
    apply h.moveEdit he hnext hapart.clock hapart.network htrace hstored'
    · rw [hoverride]
      simp [lastOverride, hquiet]
    · rw [htrace]
      exact hbase
  · -- the write: the override is the edit's, the base is the stored one
    subst hs
    have hparse : (withOverride mud' data' edits[j].aclOverride).parseData =
        some { data' with aclOverride := edits[j].aclOverride } := MudDbo.parseData_serialize _ _ _ _
    obtain ⟨hacls, hexpiration, hrowExpiration⟩ := (hcarries.kept hproc hstored hparse).2 (by omega)
    have hstored' := stored_upsertMud P.state hparse
    have hrowUrl : (withOverride mud' data' edits[j].aclOverride).url = url := hurl'
    rw [hrowUrl] at hstored'
    obtain ⟨hclock, hnetwork⟩ :=
      exec_upsertMud_surroundings P.state (withOverride mud' data' edits[j].aclOverride)
    apply h.moveEdit he hnext hclock hnetwork htrace hstored'
    · simp [lastOverride, Stmt.storesMud, he]
    · rw [htrace, ← hbase]
      unfold base
      rw [hrowExpiration]
      exact congrArg₂ (fun a e => Base.mk a e mud.expiration) hacls hexpiration

/-- Every turn that carries over what it should preserves the invariant. -/
theorem refreshInv_step (hexpired : mud₀.expiration ≤ w₀.clock 0) (hurl : fetchable url)
    (hfresh : fetchedProfile (w₀.network 0 url) url (w₀.clock 1) = some fresh)
    (P : Pool Stmt Stmt.Answer Error MudData World) (i : Nat)
    (h : RefreshInv w₀ url mud₀ old fresh edits P) (hcarries : CarriesOver url P i) :
    RefreshInv w₀ url mud₀ old fresh edits (Pool.step Stmt.exec P i) := by
  rcases Pool.step_cases P i with hstep | ⟨s, k, hproc, hstep⟩
  · rw [hstep]
    exact h
  · rw [hstep]
    cases i with
    | zero => exact h.refreshTurn hexpired hurl hfresh hcarries hproc
    | succ j => exact h.editTurn hcarries hproc

end

/-- After all calls have finished, the stored profile has the override of the last edit that wrote and the
    ACLs and the expiration that were fetched. -/
def NothingLost (url : String) (old fresh : MudData) (edits : List OverrideEdit)
    (P : Pool Stmt Stmt.Answer Error MudData World) : Prop :=
  P.Finished → ∃ mud data, P.state.stored url = some (mud, data) ∧
    data.aclOverride = lastOverride old.aclOverride edits P.trace ∧
    data.acllist = fresh.acllist ∧ data.expiration = fresh.expiration ∧
    mud.expiration = fresh.expiration

/-- A refresh that has finished has written. -/
theorem RefreshPhase.written_of_done {w₀ w : World} {url : String} {fresh : MudData} {written : Bool}
    {r : Except Error MudData} (h : RefreshPhase w₀ url fresh w written (.done r)) (hurl : fetchable url)
    (hfresh : fetchedProfile (w₀.network 0 url) url (w₀.clock 1) = some fresh) : written = true := by
  generalize hdone : (Prog.done r : Action MudData) = p at h
  cases h with
  | finished r' => rfl
  | fetching old hclock hnetwork =>
      rw [fetchAndStore_fetchable hurl] at hdone
      cases hdone
  | parsing old text hclock hanswer =>
      rw [hanswer] at hfresh
      obtain ⟨mudJson, hjson, _⟩ := fetchedProfile_ok hfresh
      rw [parseAndStore_json hjson] at hdone
      cases hdone
  | _ => cases hdone

/-- **A refresh among edits.** Let the stored profile be expired, and let its fetch and parse succeed. In
    every interleaving of the refresh with any number of edits in which each call that writes finds stored
    what it carries over, neither the override of the last edit nor what was fetched is lost. -/
theorem refresh_keeps_edits {w : World} {url : String} {mud : MudDbo} {old fresh : MudData}
    (edits : List OverrideEdit) (hstored : w.stored url = some (mud, old))
    (hexpired : mud.expiration ≤ w.clock 0) (hurl : fetchable url)
    (hfresh : fetchedProfile (w.network 0 url) url (w.clock 1) = some fresh) (sched : List Nat)
    (hcarries : Pool.Along Stmt.exec (CarriesOver url) (refreshPool w url edits) sched) :
    NothingLost url old fresh edits (Pool.run Stmt.exec (refreshPool w url edits) sched) := by
  have hinv := Pool.run_invariant (refreshInv_step hexpired hurl hfresh) sched
    (refreshPool w url edits) (refreshInv_start fresh edits hstored) hcarries
  intro hfinished
  obtain ⟨p, hp, hphase⟩ := hinv.refresh
  obtain ⟨r, rfl⟩ := Prog.eq_done_of_isDone (hfinished p (List.mem_of_getElem? hp))
  have hwritten := hphase.written_of_done hurl hfresh
  obtain ⟨mud', data, hstored', hoverride, hbase⟩ := hinv.stored
  rw [hwritten, if_pos rfl] at hbase
  exact ⟨mud', data, hstored', hoverride, congrArg Base.acllist hbase, congrArg Base.expiration hbase,
    congrArg Base.rowExpiration hbase⟩

end

section

attribute [local instance] Reference.platform

/-- An expired profile without ACLs, and a network that has the file. -/
def expiredLamp : World :=
  { Reference.offline
      (Reference.tables [] [⟨lampUrl, serialize (Reference.profile [] []), 0, 0⟩] []) (by decide) with
    network := fun _ _ => .ok Reference.mudFile }

/-- What the file says at the beginning of 1970. -/
def freshLamp : MudData :=
  { Reference.profile
      [⟨"from", .fromDevice, .ipv4, [Reference.hostAce .accept "cloud.example"]⟩] [] with
    expiration := hours 48 }

/-- An edit that denies a host. -/
def denyEdit : OverrideEdit where
  auth := ⟨["**"]⟩
  dto := ⟨some [⟨"from", .fromDevice, .ipv4, [Reference.hostAce .deny "cloud.example"]⟩]⟩

/-- A refresh reads, an edit runs, the refresh goes on. -/
def editInside : List Nat := [0, 1, 1, 1, 1, 0, 0, 0, 0, 0]

/-- An edit reads, a refresh runs, the edit goes on. -/
def refreshInside : List Nat := [1, 0, 0, 0, 0, 0, 0, 1, 1, 1]

/-- The pool after a schedule. -/
def lampRun (sched : List Nat) : Pool Stmt Stmt.Answer Error MudData World :=
  Pool.run Stmt.exec (refreshPool expiredLamp lampUrl [denyEdit]) sched

/-- The profile that the world starts with. -/
def oldLamp : MudData := Reference.profile [] []

set_option maxRecDepth 20000 in
/-- A refresh around an edit loses the override; an edit around a refresh loses what was fetched. -/
theorem refresh_loses_edits :
    ¬ NothingLost lampUrl oldLamp freshLamp [denyEdit] (lampRun editInside) ∧
    ¬ NothingLost lampUrl oldLamp freshLamp [denyEdit] (lampRun refreshInside) := by
  constructor
  · intro h
    obtain ⟨mud, data, hstored, hoverride, _⟩ := h (by decide)
    have hlost : ((lampRun editInside).state.stored lampUrl).map (·.2.aclOverride) = some [] := by decide
    rw [hstored, Option.map_some, hoverride] at hlost
    exact absurd hlost (by decide)
  · intro h
    obtain ⟨mud, data, hstored, _, hacllist, _⟩ := h (by decide)
    have hlost : ((lampRun refreshInside).state.stored lampUrl).map (·.2.acllist) = some [] := by decide
    rw [hstored, Option.map_some, hacllist] at hlost
    exact absurd hlost (by decide)

set_option maxRecDepth 20000 in
theorem refresh_keeps_edits_serial :
    NothingLost lampUrl oldLamp freshLamp [denyEdit] (lampRun [0, 0, 0, 0, 0, 0, 1, 1, 1, 1]) :=
  have hstored : expiredLamp.stored lampUrl = some (⟨lampUrl, serialize oldLamp, 0, 0⟩, oldLamp) := rfl
  refresh_keeps_edits [denyEdit] hstored (by decide) (by decide) (by decide) _ (by decide)

end

end MudController
