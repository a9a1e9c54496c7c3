import MudController.Db.Schema
import MudController.Routes.Config

/-!
# `Run.Config` — configuration calls run by themselves

What `get_config_value` and `get_configs` answer, as functions of the table. Neither changes the world.
-/

namespace MudController

open Logic

variable [Platform]

/-- `getConfigValue` reads the row of its key. -/
theorem run_getConfigValue {α : Type} [TextForm α] (key : String) (w : World) :
    (getConfigValue α key).run w =
      (match w.db.configRow key with
       | none => .error (.databaseError .rowNotFound)
       | some entry =>
         match (parse entry.value : Option α) with
         | some value => .ok value
         | none => .error .fromStrError, w) := by
  unfold getConfigValue fetchOne stmt
  simp only [Prog.call_bind, Prog.stmt_bind, Action.run_stmt, Stmt.exec]
  cases w.db.configRow key with
  | none => rfl
  | some entry =>
      simp only [Prog.pure_eq, Prog.done_ok_bind]
      cases (parse entry.value : Option α) <;> rfl

/-- A string entry is returned as it is. -/
theorem run_getConfigValue_string (key : String) (w : World) :
    (getConfigValue String key).run w =
      (match w.db.configRow key with
       | none => .error (.databaseError .rowNotFound)
       | some entry => .ok entry.value, w) := by
  rw [run_getConfigValue]
  cases w.db.configRow key <;> rfl

theorem run_unwrapOr {α : Type} (p : Action α) (default : α) (w : World) :
    (unwrapOr p default).run w =
      (.ok (match (p.run w).1 with
            | .ok a => a
            | .error _ => default), (p.run w).2) := by
  unfold unwrapOr
  rw [Action.run_attempt_bind]
  cases (p.run w).1 <;> rfl

/-! ## The firewall version -/

/-- The version that `get_config_version` reports. -/
def Tables.version (t : Tables) : String :=
  ((t.configRow ConfigKeys.firewallConfigVersion.asRef).map (·.value)).getD "0"

/-- The counter that `update_config_version` increments: 0 where the stored version is no number. -/
def Tables.counter (t : Tables) : UInt64 :=
  ((t.configRow ConfigKeys.firewallConfigVersion.asRef).bind fun entry => parse entry.value).getD 0

theorem run_getConfigVersion (w : World) : getConfigVersion.run w = (.ok w.db.version, w) := by
  unfold getConfigVersion Tables.version
  rw [run_unwrapOr, run_getConfigValue_string]
  cases w.db.configRow ConfigKeys.firewallConfigVersion.asRef <;> rfl

/-- The tables after a call of `update_config_version`. -/
def Tables.bumped (t : Tables) : Tables :=
  t.upsertConfig ConfigKeys.firewallConfigVersion.asRef (toText (t.counter + 1))

theorem Schema.bumped {t : Tables} (h : Schema t) : Schema t.bumped := h.upsertConfig _ _

/-- The database after a call of `update_config_version`. -/
def Db.bumped (db : Db) : Db := ⟨db.toTables.bumped, db.schema.bumped⟩

/-- Run by itself, `update_config_version` always succeeds. -/
theorem run_updateConfigVersion (w : World) :
    updateConfigVersion.run w = (.ok (), { w with db := w.db.bumped }) := by
  have hread : (unwrapOr (getConfigValue UInt64 ConfigKeys.firewallConfigVersion.asRef) 0).run w =
      (.ok w.db.counter, w) := by
    unfold Tables.counter
    rw [run_unwrapOr, run_getConfigValue]
    cases hrow : w.db.configRow ConfigKeys.firewallConfigVersion.asRef with
    | none => rfl
    | some entry =>
        simp only [Option.bind_some]
        cases (parse entry.value : Option UInt64) <;> rfl
  have hexec : (Stmt.upsertConfig ConfigKeys.firewallConfigVersion.asRef
      (toText (w.db.counter + 1))).exec w = (.ok 1, { w with db := w.db.bumped }) :=
    World.write_ok w.db.schema.bumped 1
  unfold updateConfigVersion
  rw [Action.run_bind_ok hread]
  unfold setConfigValue
  exact Action.run_bind_ok (Action.run_execute_ok (Action.run_stmt_of_exec hexec))

theorem Tables.bumped_version (t : Tables) : t.bumped.version = toText (t.counter + 1) := by
  have hrow : t.bumped.configRow ConfigKeys.firewallConfigVersion.asRef =
      some ⟨ConfigKeys.firewallConfigVersion.asRef, toText (t.counter + 1)⟩ :=
    t.configRow_upsertConfig _ _
  unfold Tables.version
  rw [hrow]
  rfl

/-- A version that is the text of a number is counted from that number. -/
theorem Tables.counter_of_version {t : Tables} {n : UInt64} (h : t.version = toText n) : t.counter = n := by
  unfold Tables.version at h
  unfold Tables.counter
  cases hrow : t.configRow ConfigKeys.firewallConfigVersion.asRef with
  | none =>
      rw [hrow] at h
      have hzero : (toText (0 : UInt64) : String) = toText n := h
      exact toText_injective hzero
  | some entry =>
      rw [hrow] at h
      have htext : entry.value = toText n := h
      rw [Option.bind_some, htext, parse_toText, Option.getD_some]

/-- **Every bump changes the version**, also where the stored text was no number. -/
theorem Tables.bumped_version_ne (t : Tables) : t.bumped.version ≠ t.version := by
  intro h
  rw [Tables.bumped_version] at h
  have hcounter : t.counter = t.counter + 1 := t.counter_of_version h.symm
  have hnat := congrArg UInt64.toNat hcounter
  rw [UInt64.toNat_add] at hnat
  have hone : (1 : UInt64).toNat = 1 := rfl
  have hlt := t.counter.toNat_lt
  omega

/-! ## `GET /config` -/

/-- The queried keys, each with its value where it has one, on top of what the map already holds. -/
def reportKeys (t : Tables) (configMap : ConfigMap) (keys : List String) : ConfigMap :=
  fun k => if k ∈ keys then some ((t.configRow k).map (·.value)) else configMap k

theorem reportKeys_cons (t : Tables) (configMap : ConfigMap) (key : String) (keys : List String) :
    reportKeys t (configMap.insert key ((t.configRow key).map (·.value))) keys =
      reportKeys t configMap (key :: keys) := by
  funext k
  unfold reportKeys ConfigMap.insert
  by_cases hk : k ∈ keys
  · rw [if_pos hk, if_pos (List.mem_cons_of_mem key hk)]
  · by_cases he : k = key
    · subst he
      rw [if_neg hk, if_pos rfl, if_pos List.mem_cons_self]
    · rw [if_neg hk, if_neg he, if_neg (by simp [he, hk])]

/-- The loop over the queried keys. -/
theorem run_getConfigsLoop (configMap : ConfigMap) (keys : List String) (w : World) :
    (getConfigsLoop configMap keys).run w = (.ok (reportKeys w.db.toTables configMap keys), w) := by
  induction keys generalizing configMap with
  | nil => rfl
  | cons key keys ih =>
      unfold getConfigsLoop
      rw [Action.run_attempt_bind, run_getConfigValue_string, ← reportKeys_cons]
      cases w.db.configRow key with
      | none => exact ih _
      | some entry => exact ih _

/-- The whole table as a map, the last row of a key winning. -/
def reportAll (data : List Config) : ConfigMap :=
  data.foldl (fun configMap config => configMap.insert config.key (some config.value)) ConfigMap.empty

/-- The caller has a permission. -/
def AuthToken.Grants (auth : AuthToken) (permission : Permission) : Prop :=
  requireOneOf permission auth.permissions = .ok ()

theorem AuthToken.run_denied {α : Type} {auth : AuthToken} {permission : Permission} {e : Error}
    (h : requireOneOf permission auth.permissions = .error e) (f : Unit → Action α) (w : World) :
    Action.run (auth.requirePermission permission >>= f) w = (.error e, w) := by
  unfold AuthToken.requirePermission
  rw [h]
  rfl

theorem AuthToken.run_granted {α : Type} {auth : AuthToken} {permission : Permission}
    (h : auth.Grants permission) (f : Unit → Action α) (w : World) :
    Action.run (auth.requirePermission permission >>= f) w = (f ()).run w := by
  unfold AuthToken.requirePermission
  rw [show requireOneOf permission auth.permissions = .ok () from h]
  rfl

theorem AuthToken.grants_or_denied (auth : AuthToken) (permission : Permission) :
    auth.Grants permission ∨ ∃ e, requireOneOf permission auth.permissions = .error e := by
  unfold AuthToken.Grants
  cases requireOneOf permission auth.permissions with
  | ok u => exact .inl rfl
  | error e => exact .inr ⟨e, rfl⟩

/-- A caller who is refused does not have the permission. -/
theorem AuthToken.not_grants {auth : AuthToken} {permission : Permission} {e : Error}
    (h : requireOneOf permission auth.permissions = .error e) : ¬ auth.Grants permission := by
  intro hgrants
  rw [show requireOneOf permission auth.permissions = .ok () from hgrants] at h
  cases h

/-- The response to a query for all entries. -/
theorem run_getConfigs_all {auth : AuthToken} (hread : auth.Grants .configRead)
    (hlist : auth.Grants .configList) (w : World) :
    (getConfigs auth ⟨[]⟩).run w = (.ok (reportAll w.db.config), w) := by
  unfold getConfigs
  rw [auth.run_granted hread]
  exact auth.run_granted hlist _ w

/-- The response to a query for some keys. -/
theorem run_getConfigs_keys {auth : AuthToken} (hread : auth.Grants .configRead) {keys : List String}
    (hkeys : keys ≠ []) (w : World) :
    (getConfigs auth ⟨keys⟩).run w = (.ok (reportKeys w.db.toTables ConfigMap.empty keys), w) := by
  unfold getConfigs
  rw [auth.run_granted hread]
  have hempty : keys.isEmpty = false := by simpa using hkeys
  simp only [hempty]
  exact run_getConfigsLoop ConfigMap.empty keys w

end MudController
