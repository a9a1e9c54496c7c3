import MudController.Logic.Interleave
import MudController.Logic.Versioned
import MudController.Run.Announce
import MudController.Version.Configuration

/-!
# `Version.Fleet` — writers and enforcers at the same time

Any number of calls write a row and then bump the version; any number of enforcers send heartbeats. All
take turns, one statement each. A bump is not atomic, so the version can move backwards, to a label that was
already handed out; `fleet_no_stale` says that this is the only thing that can leave an enforcer
with outdated rules. The system is related to the readers of a counted view of `Logic.Versioned`.
-/

namespace MudController

open Logic

section

variable [Platform]

/-! ## The system -/

/-- A call that writes a row and bumps the version. -/
inductive RowWrite where
  | insertDevice (deviceData : DeviceWithRefs)
  | updateDevice (deviceData : DeviceWithRefs)
  | deleteDevice (id : Int)
  | updateMud (auth : AuthToken) (query : MudUpdateQueryDto) (mudUpdateDto : MudUpdateDto)

/-- The call; nothing depends on its result. -/
def RowWrite.call : RowWrite → Action Unit
  | .insertDevice deviceData => do
    let _ ← MudController.insertDevice deviceData
    return ()
  | .updateDevice deviceData => do
    let _ ← MudController.updateDevice deviceData
    return ()
  | .deleteDevice id => do
    let _ ← MudController.deleteDevice id
    return ()
  | .updateMud auth query mudUpdateDto => do
    let _ ← MudController.updateMud auth query mudUpdateDto
    return ()

/-- An enforcer: the configuration that it received last, and the version that a heartbeat in progress has
    read. -/
structure Enforcer where
  held : Option EnforcerConfig
  pending : Option String

/-- The version label that an enforcer sends with its heartbeat. -/
def Enforcer.label (e : Enforcer) : Option String := e.held.map (·.version)

/-- The first read of a heartbeat. An enforcer with the current label is answered `None`. -/
def Enforcer.readVersion (e : Enforcer) (t : Tables) : Enforcer :=
  if some t.version ≠ e.label then { e with pending := some t.version } else { e with pending := none }

/-- The second read of a heartbeat, and its answer. -/
def Enforcer.readDevices (e : Enforcer) (t : Tables) : Enforcer :=
  match e.pending with
  | some version => ⟨some (createConfiguration version t.storedRefs), none⟩
  | none => e

structure Fleet where
  pool : Pool Stmt Stmt.Answer Error Unit World
  enforcers : List Enforcer

/-- The tables at the moment. -/
def Fleet.tables (F : Fleet) : Tables := F.pool.state.db.toTables

/-- The calls about to begin, and enforcers that have received nothing. -/
def Fleet.start (w : World) (writes : List RowWrite) (enforcers : Nat) : Fleet where
  pool := Pool.start w (writes.map RowWrite.call)
  enforcers := List.replicate enforcers ⟨none, none⟩

/-- Whose turn it is. -/
inductive Turn where
  | write (i : Nat)
  | readVersion (j : Nat)
  | readDevices (j : Nat)

/-- Enforcer `j` takes a turn; where there is none, nothing happens. -/
def Fleet.turnEnforcer (F : Fleet) (j : Nat) (f : Enforcer → Enforcer) : Fleet :=
  match F.enforcers[j]? with
  | some e => { F with enforcers := F.enforcers.set j (f e) }
  | none => F

def Fleet.step (F : Fleet) : Turn → Fleet
  | .write i => { F with pool := F.pool.step Stmt.exec i }
  | .readVersion j => F.turnEnforcer j (·.readVersion F.tables)
  | .readDevices j => F.turnEnforcer j (·.readDevices F.tables)

/-- One interleaving. -/
def Fleet.run (F : Fleet) (turns : List Turn) : Fleet := turns.foldl Fleet.step F

/-- When all writers have finished, an enforcer that a heartbeat answers `None` holds the configuration of the
    tables. -/
def Fleet.NoStale (F : Fleet) : Prop :=
  F.pool.Finished → ∀ e ∈ F.enforcers, ∀ config ∈ e.held,
    ((heartbeat (some config.version)).run F.pool.state).1 = .ok none →
      config = createConfiguration F.tables.version F.tables.storedRefs

/-- A call that is about to store a version stores none below the stored one. -/
def countsForward (F : Fleet) (turn : Turn) : Bool :=
  match turn with
  | .write i =>
    match F.pool.procs[i]? with
    | some (.stmt (.upsertConfig _ value) _) => F.tables.counter ≤ ((parse value : Option UInt64).getD 0)
    | _ => true
  | _ => true

/-- The turn does not set the version back. -/
abbrev CountsForward (F : Fleet) (turn : Turn) : Prop := countsForward F turn = true

/-- A heartbeat is answered `None` exactly if its label is the version. -/
theorem heartbeat_none_iff (w : World) (version : String) :
    ((heartbeat (some version)).run w).1 = .ok none ↔ w.db.version = version := by
  constructor
  · intro h
    by_contra hne
    have hsome : some w.db.version ≠ some version := fun heq => hne (Option.some.inj heq)
    rw [run_heartbeat hsome] at h
    cases h
  · intro h
    unfold heartbeat
    rw [Action.run_bind_ok (run_getConfigVersion w), if_neg (by simp [h])]
    rfl

/-- The two reads are those of a heartbeat that runs by itself while no profile is due for a refresh. -/
theorem Enforcer.heartbeat_held {w : World} (hcurrent : w.ProfilesCurrent) (e : Enforcer)
    {answer : Option EnforcerConfig} (h : ((heartbeat e.label).run w).1 = .ok answer) :
    ((e.readVersion w.db.toTables).readDevices w.db.toTables).held = answer.or e.held := by
  unfold Enforcer.readVersion
  by_cases hlabel : some w.db.version ≠ e.label
  · rw [heartbeat_configuration hcurrent hlabel] at h
    cases h
    rw [if_pos hlabel]
    rfl
  · rw [if_neg hlabel]
    rw [← not_not.mp hlabel] at h
    rw [(heartbeat_none_iff w w.db.version).mpr rfl] at h
    cases h
    rfl

/-! ## What is left of a writer -/

open Versioned (Phase)

/-- The program of a writer that is at a phase. Until it writes its row, it leaves the database alone; then it
    reads the counter, and then stores one more than it read. -/
def Writer : Phase → Action Unit → Prop
  | .quiet, .done _ => True
  | .changed, .done _ => False
  | .counted _, .done _ => False
  | .quiet, .stmt s k => ∀ w,
      ((s.exec w).2.db = w.db ∧ Writer .quiet (k (s.exec w).1)) ∨
      ((s.exec w).2.db.config = w.db.config ∧ Writer .changed (k (s.exec w).1))
  | .changed, .stmt s k => ∀ w, (s.exec w).2.db = w.db ∧
      (Writer .changed (k (s.exec w).1) ∨ Writer (.counted w.db.counter.toNat) (k (s.exec w).1))
  | .counted n, .stmt s k => ∃ c : UInt64, n = c.toNat ∧
      s = .upsertConfig ConfigKeys.firewallConfigVersion.asRef (toText (c + 1)) ∧ ∀ a, Writer .quiet (k a)

theorem writer_bump {f : Unit → Action Unit} (hf : ∀ r, Writer .quiet (f r)) :
    Writer .changed (updateConfigVersion >>= f) := by
  rw [updateConfigVersion_eq]
  intro w
  refine ⟨rfl, .inr ⟨w.db.counter, rfl, rfl, fun a => ?_⟩⟩
  cases a with
  | ok n => exact hf ()
  | error e => trivial

/-- A write of rows has no effect and an error, or leaves the configuration alone. -/
theorem write_config {α : Type} {w : World} {f : Tables → Tables}
    (hf : (f w.db.toTables).config = w.db.config) (affected : α) :
    (∃ e, (w.write f affected).1 = .error e ∧ (w.write f affected).2.db = w.db) ∨
    (∃ a, (w.write f affected).1 = .ok a ∧ (w.write f affected).2.db.config = w.db.config) := by
  by_cases h : Schema (f w.db.toTables)
  · rw [World.write_ok h]
    exact .inr ⟨affected, rfl, hf⟩
  · rw [World.write_refused h]
    exact .inl ⟨.constraint, rfl, rfl⟩

/-- A writer about to write its row. -/
theorem writer_execute {α : Type} {s : Stmt} {answer : s.Answer → Except DbError α} {f : α → Action Unit}
    (hexec : ∀ w, (∃ e, answer (s.exec w).1 = .error e ∧ (s.exec w).2.db = w.db) ∨
      (∃ a, answer (s.exec w).1 = .ok a ∧ (s.exec w).2.db.config = w.db.config))
    (hf : ∀ a, Writer .changed (f a)) :
    Writer .quiet (execute (.stmt s fun a => .done (.ok (answer a))) >>= f) := by
  intro w
  rcases hexec w with ⟨e, herror, hdb⟩ | ⟨a, hok, hconfig⟩
  · refine .inl ⟨hdb, ?_⟩
    show Writer .quiet (execute (.done (.ok (answer (s.exec w).1))) >>= f)
    rw [herror]
    trivial
  · refine .inr ⟨hconfig, ?_⟩
    show Writer .changed (execute (.done (.ok (answer (s.exec w).1))) >>= f)
    rw [hok]
    exact hf a

/-- A bump at the end of a call whose result is dropped. -/
theorem writer_bump_pure {α : Type} (a : α) :
    Writer .changed ((do updateConfigVersion; return a : Action α) >>= fun _ => pure ()) := by
  rw [Prog.bind_assoc]
  exact writer_bump fun _ => trivial

theorem writer_insertDevice (deviceData : DeviceWithRefs) :
    Writer .quiet (RowWrite.insertDevice deviceData).call := by
  show Writer .quiet (MudController.insertDevice deviceData >>= fun _ => pure ())
  unfold MudController.insertDevice
  rw [Prog.bind_assoc]
  refine @writer_execute _ Int (.insertDevice deviceData.inner.toDbo) id _ (fun w => write_config rfl _) ?_
  intro result
  by_cases hcollect : deviceData.inner.collectInfo
  · simp only [hcollect, if_true]
    intro w
    exact ⟨rfl, .inl (writer_bump_pure result)⟩
  · simp only [hcollect]
    exact writer_bump_pure result

theorem writer_updateDevice (deviceData : DeviceWithRefs) :
    Writer .quiet (RowWrite.updateDevice deviceData).call := by
  show Writer .quiet (MudController.updateDevice deviceData >>= fun _ => pure ())
  unfold MudController.updateDevice
  rw [Prog.bind_assoc]
  refine @writer_execute _ Nat (.updateDevice deviceData.inner.toDbo) id _ (fun w => write_config rfl _) ?_
  intro updCount
  exact writer_bump_pure _

theorem writer_deleteDevice (id : Int) : Writer .quiet (RowWrite.deleteDevice id).call := by
  show Writer .quiet (MudController.deleteDevice id >>= fun _ => pure ())
  unfold MudController.deleteDevice
  rw [Prog.bind_assoc]
  refine @writer_execute _ Nat (.deleteDevice id) (fun a => a) _ (fun w => write_config rfl _) ?_
  intro delCount
  exact writer_bump_pure _

theorem writer_storeOverride (mud : MudDbo) (data : MudData) (aclOverride : List Acl) :
    Writer .quiet (storeOverride mud data aclOverride >>= fun _ => pure ()) := by
  unfold storeOverride upsertMud
  rw [Prog.bind_assoc, Prog.bind_assoc]
  refine @writer_execute _ Nat (.upsertMud (withOverride mud data aclOverride)) id _
    (fun w => write_config rfl _) ?_
  intro count
  exact writer_bump_pure _

theorem writer_updateMud (auth : AuthToken) (query : MudUpdateQueryDto) (mudUpdateDto : MudUpdateDto) :
    Writer .quiet (RowWrite.updateMud auth query mudUpdateDto).call := by
  show Writer .quiet (MudController.updateMud auth query mudUpdateDto >>= fun _ => pure ())
  rcases auth.grants_or_denied .mudWrite with hgrants | ⟨e, hdenied⟩
  · rw [updateMud_granted hgrants]
    intro w
    refine .inl ⟨rfl, ?_⟩
    show Writer .quiet (afterEditLookup mudUpdateDto (w.db.mudRow query.mudUrl) >>= fun _ => pure ())
    unfold afterEditLookup
    cases w.db.mudRow query.mudUrl with
    | none => trivial
    | some mud =>
        cases hparse : mud.parseData with
        | none =>
            simp only [hparse]
            trivial
        | some data =>
            simp only [hparse]
            exact writer_storeOverride mud data _
  · rw [updateMud_denied hdenied]
    trivial

theorem writer_call (write : RowWrite) : Writer .quiet write.call := by
  cases write with
  | insertDevice deviceData => exact writer_insertDevice deviceData
  | updateDevice deviceData => exact writer_updateDevice deviceData
  | deleteDevice id => exact writer_deleteDevice id
  | updateMud auth query mudUpdateDto => exact writer_updateMud auth query mudUpdateDto

/-! ## The system as readers of a counted view -/

/-- The number that a version stands for. -/
def versionNumber (version : String) : Nat := ((parse version : Option UInt64).getD 0).toNat

theorem Tables.counter_eq (t : Tables) : t.counter.toNat = versionNumber t.version := by
  unfold Tables.counter Tables.version versionNumber
  cases t.configRow ConfigKeys.firewallConfigVersion.asRef with
  | none => rfl
  | some entry => rfl

/-- An enforcer as a reader. -/
def Enforcer.reader (e : Enforcer) : Versioned.Reader (List FirewallDevice) where
  label := e.pending.map versionNumber
  held := e.held.map fun config => (versionNumber config.version, config.devices)

/-- The fleet as writers and readers of a counted view: the view is the configuration of the tables. -/
structure Refines (F : Fleet) (s : Versioned.State (List FirewallDevice)) : Prop where
  view : s.view = F.tables.fwDevices
  counter : s.counter = F.tables.counter.toNat
  writers : List.Forall₂ Writer s.writers F.pool.procs
  readers : s.readers = F.enforcers.map Enforcer.reader
  domain : ∀ e ∈ F.enforcers, ∀ config ∈ e.held, config.acmeDomain = Platform.domain

theorem refines_start (w : World) (writes : List RowWrite) (enforcers : Nat) :
    Refines (Fleet.start w writes enforcers)
      (.initial w.db.fwDevices w.db.counter.toNat writes.length enforcers) where
  view := rfl
  counter := rfl
  writers := by
    show List.Forall₂ Writer (List.replicate writes.length .quiet) (writes.map RowWrite.call)
    induction writes with
    | nil => exact .nil
    | cons write writes ih => exact .cons (writer_call write) ih
  readers := by
    show List.replicate enforcers _ = (List.replicate enforcers _).map Enforcer.reader
    rw [List.map_replicate]
    rfl
  domain e he config hconfig := by
    rw [List.eq_of_mem_replicate he] at hconfig
    cases hconfig

/-- What storing a version leaves. -/
theorem exec_upsertVersion (w : World) (c : UInt64) :
    ∃ w' answer, (Stmt.upsertConfig ConfigKeys.firewallConfigVersion.asRef (toText c)).exec w = (answer, w') ∧
      w'.db.devices = w.db.devices ∧ w'.db.mudData = w.db.mudData ∧ w'.db.counter = c := by
  have hexec : (Stmt.upsertConfig ConfigKeys.firewallConfigVersion.asRef (toText c)).exec w = (.ok 1, _) :=
    World.write_ok (w.db.schema.upsertConfig _ _) 1
  refine ⟨_, _, hexec, rfl, rfl, ?_⟩
  have hrow := w.db.configRow_upsertConfig ConfigKeys.firewallConfigVersion.asRef (toText c)
  show (((w.db.upsertConfig ConfigKeys.firewallConfigVersion.asRef (toText c)).configRow _).bind _).getD 0 = c
  rw [hrow, Option.bind_some, parse_toText]
  rfl

/-- A call about to store a version under the condition does not store less than is stored. -/
theorem CountsForward.le {F : Fleet} {i : Nat} (h : CountsForward F (.write i)) {key : String} {c : UInt64}
    {k : Written → Action Unit} (hproc : F.pool.procs[i]? = some (.stmt (.upsertConfig key (toText c)) k)) :
    F.tables.counter ≤ c := by
  unfold CountsForward countsForward at h
  simp only [hproc, parse_toText, Option.getD_some] at h
  exact of_decide_eq_true h

omit [Platform] in
/-- Counting up has not wrapped around if the counter does not go back by it. -/
theorem toNat_succ_of_le {c counter : UInt64} (hread : c.toNat ≤ counter.toNat) (hforward : counter ≤ c + 1) :
    (c + 1).toNat = c.toNat + 1 := by
  have hone : (1 : UInt64).toNat = 1 := rfl
  have hlt := c.toNat_lt
  have hle : counter.toNat ≤ (c + 1).toNat := hforward
  have hadd : (c + 1).toNat = (c.toNat + 1) % 2 ^ 64 := by rw [UInt64.toNat_add, hone]
  omega

/-- A statement that leaves the database alone moves its writer only. -/
theorem Refines.move {F : Fleet} {s : Versioned.State (List FirewallDevice)} (h : Refines F s) {w : World}
    (hdb : w.db = F.pool.state.db) (i : Nat) {after : Phase} {p : Action Unit} (hafter : Writer after p)
    (trace : List (Nat × Stmt)) :
    Refines { F with pool := ⟨w, F.pool.procs.set i p, trace⟩ }
      { s with writers := s.writers.set i after } := by
  refine ⟨h.view.trans ?_, h.counter.trans ?_, Versioned.forall₂_set h.writers i hafter, h.readers, h.domain⟩
  · exact congrArg (fun db : Db => db.fwDevices) hdb.symm
  · exact congrArg (fun db : Db => db.counter.toNat) hdb.symm

/-- **A writer's turn** is a step of its phase, or none. -/
theorem Refines.write {F : Fleet} {s : Versioned.State (List FirewallDevice)} {i : Nat} (h : Refines F s)
    (hsound : Versioned.Sound s) (hforward : CountsForward F (.write i)) :
    ∃ s', Relation.ReflGen Versioned.Step s s' ∧ Refines (F.step (.write i)) s' := by
  have hstep : F.step (.write i) = { F with pool := F.pool.step Stmt.exec i } := rfl
  rcases Pool.step_cases F.pool i with hsame | ⟨st, k, hproc, hpool⟩
  · rw [hstep, hsame]
    exact ⟨s, .refl, h⟩
  · rw [hstep, hpool]
    obtain ⟨phase, hphase, hwriter⟩ := Versioned.forall₂_getElem? h.writers hproc
    cases phase with
    | quiet =>
        rcases hwriter F.pool.state with ⟨hdb, hafter⟩ | ⟨hconfig, hafter⟩
        · have hnext := h.move hdb i hafter ((i, st) :: F.pool.trace)
          rw [Versioned.set_of_getElem? hphase] at hnext
          exact ⟨s, .refl, hnext⟩
        · -- the row is written
          refine ⟨_, .single (.change s i (st.exec F.pool.state).2.db.fwDevices hphase), rfl, ?_,
            Versioned.forall₂_set h.writers i hafter, h.readers, h.domain⟩
          exact h.counter.trans (congrArg UInt64.toNat (Tables.counter_congr hconfig).symm)
    | changed =>
        obtain ⟨hdb, hafter | hafter⟩ := hwriter F.pool.state
        · have hnext := h.move hdb i hafter ((i, st) :: F.pool.trace)
          rw [Versioned.set_of_getElem? hphase] at hnext
          exact ⟨s, .refl, hnext⟩
        · -- the counter is read
          have hcounter : F.pool.state.db.counter.toNat = s.counter := h.counter.symm
          rw [hcounter] at hafter
          exact ⟨_, .single (.count s i hphase), h.move hdb i hafter _⟩
    | counted n =>
        -- the counter is stored
        obtain ⟨c, rfl, rfl, hafter⟩ := hwriter
        have hle : F.tables.counter ≤ c + 1 := hforward.le hproc
        have hread : c.toNat ≤ F.tables.counter.toNat := h.counter ▸ hsound.counted i c.toNat hphase
        have hsucc : (c + 1).toNat = c.toNat + 1 := toNat_succ_of_le hread hle
        obtain ⟨w', answer, hexec, hdevices, hmudData, hcounter⟩ := exec_upsertVersion F.pool.state (c + 1)
        rw [hexec]
        refine ⟨_, .single (.bump s i c.toNat hphase ?_), ?_, ?_,
          Versioned.forall₂_set h.writers i (hafter answer), h.readers, h.domain⟩
        · rw [h.counter, ← hsucc]
          exact hle
        · exact h.view.trans (Tables.fwDevices_congr hdevices hmudData).symm
        · show c.toNat + 1 = w'.db.counter.toNat
          rw [hcounter, hsucc]

/-- **The first read of a heartbeat** labels the reader, or makes it forget its label. -/
theorem Refines.readVersion {F : Fleet} {s : Versioned.State (List FirewallDevice)} {j : Nat}
    (h : Refines F s) :
    ∃ s', Relation.ReflGen Versioned.Step s s' ∧ Refines (F.step (.readVersion j)) s' := by
  show ∃ s', _ ∧ Refines (F.turnEnforcer j (·.readVersion F.tables)) s'
  unfold Fleet.turnEnforcer
  cases he : F.enforcers[j]? with
  | none => exact ⟨s, .refl, h⟩
  | some e =>
      have hreader : s.readers[j]? = some e.reader := by rw [h.readers, List.getElem?_map, he]; rfl
      have hdomain (pending : Option String) : ∀ e' ∈ F.enforcers.set j { e with pending := pending },
          ∀ config ∈ e'.held, config.acmeDomain = Platform.domain := by
        intro e' he'
        rcases List.mem_or_eq_of_mem_set he' with hmem | rfl
        · exact h.domain e' hmem
        · exact h.domain e (List.mem_of_getElem? he)
      simp only
      unfold Enforcer.readVersion
      by_cases hlabel : some F.tables.version ≠ e.label
      · rw [if_pos hlabel]
        refine ⟨_, .single (.label s j e.reader hreader), h.view, h.counter, h.writers, ?_, hdomain _⟩
        show s.readers.set j _ = (F.enforcers.set j _).map Enforcer.reader
        rw [List.map_set, h.readers, h.counter, Tables.counter_eq]
        rfl
      · rw [if_neg hlabel]
        refine ⟨_, .single (.forget s j e.reader hreader), h.view, h.counter, h.writers, ?_, hdomain _⟩
        show s.readers.set j _ = (F.enforcers.set j _).map Enforcer.reader
        rw [List.map_set, h.readers]
        rfl

/-- **The second read of a heartbeat** hands the reader the view. -/
theorem Refines.readDevices {F : Fleet} {s : Versioned.State (List FirewallDevice)} {j : Nat}
    (h : Refines F s) :
    ∃ s', Relation.ReflGen Versioned.Step s s' ∧ Refines (F.step (.readDevices j)) s' := by
  show ∃ s', _ ∧ Refines (F.turnEnforcer j (·.readDevices F.tables)) s'
  unfold Fleet.turnEnforcer
  cases he : F.enforcers[j]? with
  | none => exact ⟨s, .refl, h⟩
  | some e =>
      have hreader : s.readers[j]? = some e.reader := by rw [h.readers, List.getElem?_map, he]; rfl
      simp only
      unfold Enforcer.readDevices
      cases hpending : e.pending with
      | none =>
          simp only
          rw [Versioned.set_of_getElem? he]
          exact ⟨s, .refl, h⟩
      | some version =>
          have hlabel : e.reader.label = some (versionNumber version) := by
            unfold Enforcer.reader
            rw [hpending]
            rfl
          refine ⟨_, .single (.receive s j _ e.reader hreader hlabel), h.view, h.counter, h.writers, ?_, ?_⟩
          · show s.readers.set j _ = (F.enforcers.set j _).map Enforcer.reader
            rw [List.map_set, h.readers, h.view]
            rfl
          · intro e' he' config hconfig
            rcases List.mem_or_eq_of_mem_set he' with hmem | rfl
            · exact h.domain e' hmem config hconfig
            · cases hconfig
              rfl

/-- Every turn that does not set the version back is a step of the counted view, or none. -/
theorem Refines.step {F : Fleet} {s : Versioned.State (List FirewallDevice)} (h : Refines F s)
    (hsound : Versioned.Sound s) (turn : Turn) (hforward : CountsForward F turn) :
    ∃ s', Relation.ReflGen Versioned.Step s s' ∧ Refines (F.step turn) s' := by
  cases turn with
  | write i => exact h.write hsound hforward
  | readVersion j => exact h.readVersion
  | readDevices j => exact h.readDevices

/-- Every interleaving that does not set the version back is a run of the counted view. -/
theorem fleet_refines {w : World} {writes : List RowWrite} {enforcers : Nat} {turns : List Turn}
    (hforward : Along Fleet.step CountsForward (Fleet.start w writes enforcers) turns) :
    ∃ s, Versioned.Sound s ∧ Refines ((Fleet.start w writes enforcers).run turns) s := by
  let s₀ : Versioned.State (List FirewallDevice) :=
    .initial w.db.fwDevices w.db.counter.toNat writes.length enforcers
  have hstep : ∀ F turn, (∃ s, Relation.ReflTransGen Versioned.Step s₀ s ∧ Refines F s) →
      CountsForward F turn → ∃ s, Relation.ReflTransGen Versioned.Step s₀ s ∧ Refines (F.step turn) s := by
    rintro F turn ⟨s, hsteps, hrefines⟩ hturn
    have hsound := Versioned.sound_of_reachable (Versioned.sound_initial _ _ _ _) hsteps
    obtain ⟨s', hs', hrefines'⟩ := hrefines.step hsound turn hturn
    exact ⟨s', hsteps.trans hs'.to_reflTransGen, hrefines'⟩
  obtain ⟨s, hsteps, hrefines⟩ := foldl_invariant hstep turns (Fleet.start w writes enforcers)
    ⟨s₀, .refl, refines_start w writes enforcers⟩ hforward
  exact ⟨s, Versioned.sound_of_reachable (Versioned.sound_initial _ _ _ _) hsteps, hrefines⟩

/-- A call that is done has announced its write, or written nothing. -/
theorem Writer.quiet_of_done {phase : Phase} {p : Action Unit} (h : Writer phase p) (hdone : p.isDone = true) :
    phase = .quiet := by
  obtain ⟨r, rfl⟩ := Prog.eq_done_of_isDone hdone
  cases phase with
  | quiet => rfl
  | changed => exact h.elim
  | counted n => exact h.elim

theorem Refines.settled {F : Fleet} {s : Versioned.State (List FirewallDevice)} (h : Refines F s)
    (hfinished : F.pool.Finished) : ∀ phase ∈ s.writers, phase = .quiet := by
  intro phase hphase
  obtain ⟨i, hi⟩ := List.mem_iff_getElem?.mp hphase
  obtain ⟨p, hp, hwriter⟩ := Versioned.forall₂_getElem? (List.Forall₂.flip h.writers) hi
  exact hwriter.quiet_of_done (hfinished p (List.mem_of_getElem? hp))

/-- **No stale enforcer.** In every interleaving in which no call stores a version below the stored one, an
    enforcer that is answered `None` after all writers have finished holds the configuration of the tables.
    Two writers may well count up once only. -/
theorem fleet_no_stale (w : World) (writes : List RowWrite) (enforcers : Nat) (turns : List Turn)
    (hforward : Along Fleet.step CountsForward (Fleet.start w writes enforcers) turns) :
    ((Fleet.start w writes enforcers).run turns).NoStale := by
  obtain ⟨s, hsound, hrefines⟩ := fleet_refines hforward
  generalize (Fleet.start w writes enforcers).run turns = F at hrefines
  intro hfinished e he config hconfig hnone
  have hversion : F.tables.version = config.version := (heartbeat_none_iff _ _).mp hnone
  have hsettled := hrefines.settled hfinished
  obtain ⟨j, hj⟩ := List.mem_iff_getElem?.mp he
  have hreader : s.readers[j]? = some e.reader := by rw [hrefines.readers, List.getElem?_map, hj]; rfl
  have hheld : e.reader.held = some (versionNumber config.version, config.devices) := by
    unfold Enforcer.reader
    rw [show e.held = some config from hconfig]
    rfl
  have hlabel : versionNumber config.version = s.counter := by
    rw [hrefines.counter, Tables.counter_eq, hversion]
  -- the label is the counter, and no writer is left to cover an old view
  have hview := Versioned.current_of_settled hsound hsettled hreader hheld hlabel
  have hdevices : config.devices = F.tables.fwDevices := hview.trans hrefines.view
  have hdomain := hrefines.domain e he config hconfig
  obtain ⟨version, devices, acmeDomain⟩ := config
  cases hversion
  cases hdevices
  cases hdomain
  rfl

end

section

attribute [local instance] Reference.platform

/-- A device with an address, about to be inserted. -/
def arrival (ipv4Addr : BitVec 32) : RowWrite :=
  .insertDevice ⟨{ Reference.device with ipv4Addr := some ⟨ipv4Addr⟩ }, none, none⟩

/-- A controller without devices, three of them about to be inserted, and one enforcer. -/
def arrivals : Fleet :=
  Fleet.start Reference.noDevices [arrival 0x0A000001, arrival 0x0A000002, arrival 0x0A000003] 1

/-- The first call reads the counter, and stores it only after the two others have counted further. -/
def setBack : List Turn :=
  [.write 0, .write 0, .write 1, .write 1, .write 1, .readVersion 0, .readDevices 0,
   .write 2, .write 2, .write 2, .write 0]

/-- What the enforcer has received then: the first two devices, under version 1. -/
def twoArrivals : EnforcerConfig where
  version := "1"
  devices := [⟨1, some ⟨0x0A000001⟩, none, [], false⟩, ⟨2, some ⟨0x0A000002⟩, none, [], false⟩]
  acmeDomain := "controller.example"

/-- Setting the version back to a label that was handed out hides the third device from the enforcer. -/
theorem setBack_stale : ¬ (arrivals.run setBack).NoStale := by
  intro h
  have henforcer : (arrivals.run setBack).enforcers = [⟨some twoArrivals, none⟩] := rfl
  have hmem : (⟨some twoArrivals, none⟩ : Enforcer) ∈ (arrivals.run setBack).enforcers := by
    rw [henforcer]
    exact List.mem_singleton_self _
  have hnone := (heartbeat_none_iff (arrivals.run setBack).pool.state "1").mpr (by decide)
  have heq := h (by decide) _ hmem twoArrivals rfl hnone
  have hlength : twoArrivals.devices.length = (arrivals.run setBack).tables.fwDevices.length :=
    congrArg (fun config : EnforcerConfig => config.devices.length) heq
  exact absurd hlength (by decide)

/-- The first two calls count up once only, before the enforcer asks. -/
def countedOnce : List Turn :=
  [.write 0, .write 1, .write 0, .write 1, .write 0, .write 1, .readVersion 0, .readDevices 0,
   .write 2, .write 2, .write 2]

theorem fleet_no_stale_countedOnce : (arrivals.run countedOnce).NoStale :=
  fleet_no_stale _ _ 1 countedOnce (by decide)

end

end MudController
