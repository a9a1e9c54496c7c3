import MudController.Reference
import MudController.Rpc
import MudController.Run.Device

/-!
# `Heartbeat` — the configuration a heartbeat hands out

An enforcer with an outdated version is sent the rules of all devices, or of none: the references of the
devices are loaded one after another, and one that fails to load makes the whole list empty. So the
configuration is complete exactly if all loads succeed, or if none that succeeds is of a device with an
address (`heartbeat_complete_iff`).
-/

namespace MudController

open Logic

section

variable [Platform]

/-- What loading the references of each device yields, one device after another. -/
def loadOutcomes : List Device → World → List (Except Error DeviceWithRefs)
  | [], _ => []
  | device :: devices, w =>
      ((loadRefs device).run w).1 :: loadOutcomes devices ((loadRefs device).run w).2

/-- Loading all of them succeeds if each of them does. -/
theorem run_mapM_loadRefs (devices : List Device) (w : World) :
    ((devices.mapM loadRefs).run w).1.toOption = (loadOutcomes devices w).mapM Except.toOption := by
  induction devices generalizing w with
  | nil => rfl
  | cons device devices ih =>
      rw [List.mapM_cons, loadOutcomes, List.mapM_cons]
      cases hr : (loadRefs device).run w with
      | mk r w' =>
          cases r with
          | error e =>
              rw [Action.run_bind_error hr]
              rfl
          | ok refs =>
              rw [Action.run_bind_ok hr, ← ih w']
              cases hrest : (devices.mapM loadRefs).run w' with
              | mk rs w'' =>
                  cases rs with
                  | error e =>
                      rw [Action.run_bind_error hrest]
                      rfl
                  | ok rest =>
                      rw [Action.run_bind_ok hrest]
                      rfl

/-- The devices that a heartbeat compiles. -/
theorem run_initDevices (devices : List Device) (w : World) :
    ((initDevices devices).run w).1 =
      .ok (((loadOutcomes devices w).mapM Except.toOption).getD []) := by
  unfold initDevices
  rw [run_unwrapOr, ← run_mapM_loadRefs]
  cases ((devices.mapM loadRefs).run w).1 <;> rfl

/-- The devices stored in a database. -/
def Tables.storedDevices (t : Tables) : List Device := t.devices.map Device.fromDbo

theorem run_getAllDevices (w : World) : getAllDevices.run w = (.ok w.db.storedDevices, w) := rfl

/-- The answer to a heartbeat with an outdated version. -/
theorem run_heartbeat {w : World} {version : Option String} (h : some w.db.version ≠ version) :
    ((heartbeat version).run w).1 =
      .ok (some (createConfiguration w.db.version
        (((loadOutcomes w.db.storedDevices w).mapM Except.toOption).getD []))) := by
  have hdevices : (unwrapOr getAllDevices []).run w = (.ok w.db.storedDevices, w) := by
    rw [run_unwrapOr, run_getAllDevices]
  unfold heartbeat
  rw [Action.run_bind_ok (run_getConfigVersion w), if_pos h, Action.run_bind_ok hdevices]
  have hinit := run_initDevices w.db.storedDevices w
  cases hr : (initDevices w.db.storedDevices).run w with
  | mk r w' =>
      rw [hr] at hinit
      have hinit' : r = _ := hinit
      subst hinit'
      rw [Action.run_bind_ok hr]
      rfl

/-! ## Completeness -/

/-- The configuration of a heartbeat has the rules of every device with an address whose references
    loaded. -/
def HeartbeatComplete (w : World) (version : Option String) : Prop :=
  ∀ config, ((heartbeat version).run w).1 = .ok (some config) →
    config.version = w.db.version ∧
    ∀ refs, .ok refs ∈ loadOutcomes w.db.storedDevices w → refs.inner.addressed →
      convertDeviceToFwRules refs ∈ config.devices

/-- Every load succeeds. -/
def AllLoad (w : World) : Prop := ∀ outcome ∈ loadOutcomes w.db.storedDevices w, ∃ refs, outcome = .ok refs

/-- No load of a device with an address succeeds. -/
def NoAddressedLoads (w : World) : Prop :=
  ∀ refs, .ok refs ∈ loadOutcomes w.db.storedDevices w → ¬ refs.inner.addressed

omit [Platform] in
/-- Values are collected to a list of them. -/
theorem collect_map_ok {α : Type} (as : List α) :
    (as.map (Except.ok : α → Except Error α)).mapM Except.toOption = some as := by
  induction as with
  | nil => rfl
  | cons a as ih =>
      rw [List.map_cons, List.mapM_cons, ih]
      rfl

omit [Platform] in
/-- Outcomes that are all values are collected to these values. -/
theorem mem_collect_of_all_ok {α : Type} {outcomes : List (Except Error α)}
    (h : ∀ outcome ∈ outcomes, ∃ a, outcome = .ok a) {a : α} (ha : .ok a ∈ outcomes) :
    a ∈ (outcomes.mapM Except.toOption).getD [] := by
  obtain ⟨as, has⟩ : ∃ as : List α, outcomes = as.map Except.ok := by
    clear ha
    induction outcomes with
    | nil => exact ⟨[], rfl⟩
    | cons outcome outcomes ih =>
        obtain ⟨b, rfl⟩ := h outcome List.mem_cons_self
        obtain ⟨as, rfl⟩ := ih fun o ho => h o (List.mem_cons_of_mem _ ho)
        exact ⟨b :: as, rfl⟩
  subst has
  rw [collect_map_ok]
  simpa using ha

omit [Platform] in
/-- One error empties the collection. -/
theorem collect_of_error {α : Type} {outcomes : List (Except Error α)} {e : Error}
    (h : .error e ∈ outcomes) : (outcomes.mapM Except.toOption).getD [] = [] := by
  have hnone : outcomes.mapM Except.toOption = none := by
    induction outcomes with
    | nil => cases h
    | cons outcome outcomes ih =>
        rw [List.mapM_cons]
        cases outcome with
        | error e' => rfl
        | ok a =>
            have htail : .error e ∈ outcomes := by simpa using h
            rw [ih htail]
            rfl
  rw [hnone]
  rfl

theorem not_heartbeatComplete {w : World} {version : Option String} (hversion : some w.db.version ≠ version)
    {e : Error} (herror : .error e ∈ loadOutcomes w.db.storedDevices w) {refs : DeviceWithRefs}
    (hrefs : .ok refs ∈ loadOutcomes w.db.storedDevices w) (haddressed : refs.inner.addressed) :
    ¬ HeartbeatComplete w version := by
  intro hcomplete
  have hmem := (hcomplete _ (run_heartbeat hversion)).2 refs hrefs haddressed
  rw [collect_of_error herror] at hmem
  cases hmem

/-- **When a heartbeat is complete.** An enforcer with an outdated version receives the rules of every
    device with an address whose references load exactly if all references load, or none of a device with an
    address. -/
theorem heartbeat_complete_iff (w : World) (version : Option String)
    (hversion : some w.db.version ≠ version) :
    HeartbeatComplete w version ↔ AllLoad w ∨ NoAddressedLoads w := by
  constructor
  · intro hcomplete
    by_contra hneither
    rw [not_or] at hneither
    obtain ⟨hsome, haddressed⟩ := hneither
    unfold AllLoad at hsome
    unfold NoAddressedLoads at haddressed
    push Not at hsome haddressed
    obtain ⟨outcome, houtcome, hnot⟩ := hsome
    obtain ⟨refs, hrefs, haddr⟩ := haddressed
    cases outcome with
    | ok refs' => exact hnot refs' rfl
    -- one error, and an addressed device that loads: its rules are missing
    | error e => exact not_heartbeatComplete hversion houtcome hrefs haddr hcomplete
  · intro hloads config hconfig
    rw [run_heartbeat hversion] at hconfig
    cases hconfig
    refine ⟨rfl, ?_⟩
    intro refs hrefs haddressed
    rcases hloads with hall | hnone
    · refine List.mem_map_of_mem (List.mem_filter.mpr ⟨?_, haddressed⟩)
      exact mem_collect_of_all_ok hall hrefs
    · exact absurd haddressed (hnone refs hrefs)

end

section

attribute [local instance] Reference.platform

/-- A device without a MUD URL, and one whose stored profile does not parse and cannot be fetched. -/
def brokenProfile : World :=
  Reference.offline
    (Reference.tables
      [Reference.row 1 (some "10.0.0.5") (some 1) none none,
       Reference.row 2 (some "10.0.0.6") (some 2) none (some "https://mud.example/lamp")]
      [⟨"https://mud.example/lamp", .null, 0, 0⟩] [])
    (by decide)

/-- The profile of one device makes the rules of the other disappear. -/
theorem brokenProfile_not_complete : ¬ HeartbeatComplete brokenProfile none := by
  have herror : .error .reqwestError ∈ loadOutcomes brokenProfile.db.storedDevices brokenProfile :=
    List.mem_cons_of_mem _ List.mem_cons_self
  have hloads : .ok ⟨Device.fromDbo (Reference.row 1 (some "10.0.0.5") (some 1) none none), none, none⟩ ∈
      loadOutcomes brokenProfile.db.storedDevices brokenProfile := List.mem_cons_self
  exact not_heartbeatComplete (by simp) herror hloads (by decide)

theorem heartbeat_complete_plain : HeartbeatComplete Reference.oneDevice (some "7") := by
  refine (heartbeat_complete_iff Reference.oneDevice (some "7") (by decide)).mpr (.inl ?_)
  intro outcome houtcome
  exact ⟨_, List.mem_singleton.mp houtcome⟩

end

end MudController
