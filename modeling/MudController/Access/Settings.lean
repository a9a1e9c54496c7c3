import MudController.Access.Origin

/-!
# `Access.Settings` — the settings of users

A setting is stored under its user's id by a request with its user's token. What anybody else does leaves it alone,
short of deleting the user (`settings_own`).
-/

namespace MudController

open Logic

section

variable [Platform] [Crypto] {b : Backend} {calls : List Call} {sched : List Nat}

/-- Who stores a setting. -/
theorem upsertUserConfig_asked {i k : Nat} {config : UserConfig} {answer : Written}
    (hx : ApiAnswered b calls sched i k ⟨.upsertUserConfig config, answer⟩) :
    ∃ auth dto, AskedAt b calls sched i k auth (.setUsersConfig config.key dto) (.upsertUserConfig config) ∧
      auth.sub = config.userId ∧ dto.value = config.value := by
  obtain ⟨r, seen, hc, hsaw, hasks⟩ := exists_asked hx id
  cases hasks with
  | token haccepted hlicence hasks =>
      cases hasks with
      | idle h => exact absurd h id
      | setConfig => exact ⟨_, _, askedAt hc hsaw haccepted hlicence hx, rfl, rfl⟩

theorem deleteUserConfig_asked {i k : Nat} {key : String} {userId : Int} {answer : Written}
    (hx : ApiAnswered b calls sched i k ⟨.deleteUserConfig key userId, answer⟩) :
    ∃ auth, AskedAt b calls sched i k auth (.deleteUsersConfig key) (.deleteUserConfig key userId) ∧
      auth.sub = userId := by
  obtain ⟨r, seen, hc, hsaw, hasks⟩ := exists_asked hx id
  cases hasks with
  | token haccepted hlicence hasks =>
      cases hasks with
      | idle h => exact absurd h id
      | deleteConfig => exact ⟨_, askedAt hc hsaw haccepted hlicence hx, rfl⟩

/-- What ends a setting: its user stores another or deletes it, or is deleted. -/
inductive EndsSetting (config : UserConfig) (auth : Claims) : ApiEndpoint → BackendStmt → Prop where
  | replaced {dto : UserConfigValueDto} (hown : auth.sub = config.userId) :
      EndsSetting config auth (.setUsersConfig config.key dto)
        (.upsertUserConfig ⟨config.key, config.userId, dto.value⟩)
  | deleted (hown : auth.sub = config.userId) :
      EndsSetting config auth (.deleteUsersConfig config.key) (.deleteUserConfig config.key config.userId)
  | userDeleted (hgrants : auth.Grants .userManagementDelete) :
      EndsSetting config auth (.deleteUserById config.userId) (.account (.deleteUser config.userId))

/-- **Settings are their user's own.** In every interleaving, a setting that is stored has been there from an earlier
    turn on, or since its user has stored it; and it stays, or is ended by its user or with them. -/
theorem settings_own (config : UserConfig) {j j' : Nat} (hj : j ≤ j') :
    (config ∈ (stateAt b calls sched j').userConfigs →
      (∀ k, j ≤ k → k ≤ j' → config ∈ (stateAt b calls sched k).userConfigs) ∨
      ∃ i k auth dto, j ≤ k ∧ k < j' ∧ dto.value = config.value ∧ auth.sub = config.userId ∧
        AskedAt b calls sched i k auth (.setUsersConfig config.key dto) (.upsertUserConfig config) ∧
        ∀ k', k < k' → k' ≤ j' → config ∈ (stateAt b calls sched k').userConfigs) ∧
    (config ∈ (stateAt b calls sched j).userConfigs →
      (∀ k, j ≤ k → k ≤ j' → config ∈ (stateAt b calls sched k).userConfigs) ∨
      ∃ i k auth endpoint s, j ≤ k ∧ k < j' ∧ AskedAt b calls sched i k auth endpoint s ∧
        EndsSetting config auth endpoint s) := by
  constructor
  · intro hstored
    rcases Pool.exists_since (fun w : Backend => config ∈ w.userConfigs) hj hstored with hheld | hsince
    · exact .inl hheld
    · obtain ⟨k, i, ⟨s, answer⟩, hk, hlt, hx, hnot, hsince⟩ := hsince
      have hafter : config ∈ (s.exec (stateAt b calls sched k)).2.userConfigs :=
        hx.after ▸ hsince (k + 1) (by omega) (by omega)
      obtain rfl := (BackendStmt.mem_userConfigs hafter).resolve_left hnot
      obtain ⟨auth, dto, hasked, hown, hvalue⟩ := upsertUserConfig_asked hx
      exact .inr ⟨i, k, auth, dto, hk, hlt, hvalue, hown, hasked, hsince⟩
  · intro hstored
    rcases Pool.exists_until (fun w : Backend => config ∈ w.userConfigs) hj hstored with hheld | huntil
    · exact .inl hheld
    · obtain ⟨k, i, ⟨s, answer⟩, hk, hlt, hx, hbefore, hended⟩ := huntil
      rw [hx.after] at hended
      right
      rcases (BackendStmt.userConfigs_kept (hbefore k hk (Nat.le_refl k))).resolve_left hended with
        ⟨value, rfl⟩ | rfl | rfl
      · obtain ⟨auth, dto, hasked, hown, rfl⟩ := upsertUserConfig_asked hx
        exact ⟨i, k, auth, _, _, hk, hlt, hasked, .replaced hown⟩
      · obtain ⟨auth, hasked, hown⟩ := deleteUserConfig_asked hx
        exact ⟨i, k, auth, _, _, hk, hlt, hasked, .deleted hown⟩
      · obtain ⟨auth, hasked⟩ := deleteUser_asked hx
        exact ⟨i, k, auth, _, _, hk, hlt, hasked, .userDeleted hasked.licence⟩

end

section

attribute [local instance] Reference.platform Reference.crypto

/-- The administrator stores a setting. -/
def themeCalls : List Call :=
  [.request (.authenticated (some (headerPrefix ++ Reference.token)) (.setUsersConfig "theme" ⟨"dark"⟩))]

def theme : UserConfig := ⟨"theme", 1, "dark"⟩

set_option maxRecDepth 20000 in
theorem theme_stored : theme ∈ (stateAt sessionBackend themeCalls [0, 0, 0, 0, 0] 5).userConfigs := by
  unfold stateAt poolAt apiPool themeCalls
  simp only [List.map_cons, Call.program, authenticated_eq]
  exact List.mem_cons_self

theorem settings_own_theme :
    (∀ k, 0 ≤ k → k ≤ 5 → theme ∈ (stateAt sessionBackend themeCalls [0, 0, 0, 0, 0] k).userConfigs) ∨
    ∃ i k auth dto, 0 ≤ k ∧ k < 5 ∧ dto.value = "dark" ∧ auth.sub = 1 ∧
      AskedAt sessionBackend themeCalls [0, 0, 0, 0, 0] i k auth (.setUsersConfig "theme" dto)
        (.upsertUserConfig theme) ∧
      ∀ k', k < k' → k' ≤ 5 → theme ∈ (stateAt sessionBackend themeCalls [0, 0, 0, 0, 0] k').userConfigs :=
  (settings_own theme (Nat.zero_le 5)).1 theme_stored

end

end MudController
