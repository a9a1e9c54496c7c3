import Mathlib.Data.List.Forall2
import MudController.Reference
import MudController.Run.Config

/-!
# `Secret` — the token secret and the configuration endpoint

The secret that signs access tokens is a row of `config`, next to the public settings. The two-run question
is whether a response of `GET /config` depends on it: `LowEq` relates the tables that differ at most in that
row, and `getConfigs_hides_iff` says for which callers and queries related tables give equal responses.
-/

namespace MudController

/-- The key that `initialize_jwt_secret` writes. -/
def jwtSecret : String := "jwt_secret"

/-- Tables with the same keys, and the same values except that of the secret. -/
def LowEq (a b : List Config) : Prop :=
  List.Forall₂ (fun x y => x.key = y.key ∧ (x.key ≠ jwtSecret → x.value = y.value)) a b

/-- The same rows are found under the other keys. -/
theorem LowEq.find?_eq {a b : List Config} (h : LowEq a b) {key : String} (hkey : key ≠ jwtSecret) :
    a.find? (·.key = key) = b.find? (·.key = key) := by
  induction h with
  | nil => rfl
  | @cons x y a b hxy _ ih =>
      obtain ⟨kx, vx⟩ := x
      obtain ⟨ky, vy⟩ := y
      obtain ⟨hk, hv⟩ := hxy
      subst hk
      by_cases hx : kx = key
      · subst hx
        rw [show vx = vy from hv hkey]
        simp
      · rw [List.find?_cons_of_neg (by simpa using hx), List.find?_cons_of_neg (by simpa using hx), ih]

section

variable [Platform]

/-- The response of `get_configs` shows the caller the secret. -/
def Reveals (auth : AuthToken) (query : ConfigQueryDto) : Prop :=
  auth.Grants .configRead ∧
    ((query.keys = [] ∧ auth.Grants .configList) ∨ jwtSecret ∈ query.keys)

/-- `get_configs` gives the same response on all tables that differ at most in the secret. -/
def Hides (auth : AuthToken) (query : ConfigQueryDto) : Prop :=
  ∀ w w' : World, LowEq w.db.config w'.db.config →
    ((getConfigs auth query).run w).1 = ((getConfigs auth query).run w').1

/-! ## A query that does not reveal -/

theorem hides_of_not_reveals {auth : AuthToken} {query : ConfigQueryDto} (h : ¬ Reveals auth query) :
    Hides auth query := by
  intro w w' hlow
  obtain ⟨keys⟩ := query
  rcases auth.grants_or_denied .configRead with hread | ⟨e, hread⟩
  · by_cases hkeys : keys = []
    · subst hkeys
      rcases auth.grants_or_denied .configList with hlist | ⟨e, hlist⟩
      · exact absurd ⟨hread, .inl ⟨rfl, hlist⟩⟩ h
      · have hdenied (w : World) : (getConfigs auth ⟨[]⟩).run w = (.error e, w) := by
          unfold getConfigs
          rw [auth.run_granted hread]
          exact auth.run_denied hlist _ w
        rw [hdenied w, hdenied w']
    · rw [run_getConfigs_keys hread hkeys, run_getConfigs_keys hread hkeys]
      refine congrArg Except.ok (funext fun k => ?_)
      unfold reportKeys
      by_cases hk : k ∈ keys
      · have hother : k ≠ jwtSecret := fun he => h ⟨hread, .inr (he ▸ hk)⟩
        rw [if_pos hk, if_pos hk]
        exact congrArg (fun row : Option Config => some (row.map (·.value))) (hlow.find?_eq hother)
      · rw [if_neg hk, if_neg hk]
  · have hdenied (w : World) : (getConfigs auth ⟨keys⟩).run w = (.error e, w) :=
      auth.run_denied hread _ w
    rw [hdenied w, hdenied w']

/-! ## A query that reveals -/

/-- A world whose only configuration entry is the secret. -/
def secretWorld (secret : String) : World where
  db := { Db.empty with
    config := [⟨jwtSecret, secret⟩]
    schema := by constructor <;> simp [Db.empty] }
  clock _ := 0
  network _ _ := .error .reqwestError
  tasks := []

theorem secretWorld_lowEq (a b : String) :
    LowEq (secretWorld a).db.config (secretWorld b).db.config :=
  .cons ⟨rfl, fun h => absurd rfl h⟩ .nil

/-- What a revealing query reports under the secret's key. -/
theorem run_getConfigs_secret {auth : AuthToken} {query : ConfigQueryDto} (h : Reveals auth query)
    (secret : String) :
    ∃ configMap, ((getConfigs auth query).run (secretWorld secret)).1 = .ok configMap ∧
      configMap jwtSecret = some (some secret) := by
  obtain ⟨keys⟩ := query
  obtain ⟨hread, ⟨hnil, hlist⟩ | hmem⟩ := h
  · have hkeys : keys = [] := hnil
    subst hkeys
    refine ⟨_, congrArg Prod.fst (run_getConfigs_all hread hlist _), ?_⟩
    simp [reportAll, secretWorld, ConfigMap.insert]
  · refine ⟨_, congrArg Prod.fst (run_getConfigs_keys hread (List.ne_nil_of_mem hmem) _), ?_⟩
    have hmem' : jwtSecret ∈ keys := hmem
    simp [reportKeys, hmem', secretWorld, Tables.configRow]

theorem not_hides_of_reveals {auth : AuthToken} {query : ConfigQueryDto} (h : Reveals auth query) :
    ¬ Hides auth query := by
  intro hhides
  obtain ⟨m, hm, hma⟩ := run_getConfigs_secret h "a"
  obtain ⟨m', hm', hmb⟩ := run_getConfigs_secret h "b"
  have heq := hhides _ _ (secretWorld_lowEq "a" "b")
  rw [hm, hm'] at heq
  cases heq
  rw [hma] at hmb
  exact absurd hmb (by decide)

/-- **Who sees the secret.** The responses of `get_configs` are independent of the secret exactly for the
    callers and queries that do not reveal it: those without `config/read`, those that list everything
    without `config/list`, and those that query other keys. -/
theorem getConfigs_hides_iff (auth : AuthToken) (query : ConfigQueryDto) :
    Hides auth query ↔ ¬ Reveals auth query := by
  constructor
  · intro hhides hreveals
    exact not_hides_of_reveals hreveals hhides
  · exact hides_of_not_reveals

end

section

attribute [local instance] Reference.platform

/-- A caller with the permissions of the shipped role `reader`. -/
def reader : AuthToken := ⟨["**/list", "**/read"]⟩

/-- A reader who lists the configuration is shown the secret. -/
theorem reader_not_hides : ¬ Hides reader ⟨[]⟩ := not_hides_of_reveals ⟨rfl, .inl ⟨rfl, rfl⟩⟩

end

end MudController
