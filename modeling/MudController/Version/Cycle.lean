import MudController.Reference
import MudController.Run.Config

/-!
# `Version.Cycle` — no version comes twice within a cycle

Enforcers compare versions as texts, and the counter behind them wraps at `2 ^ 64`. The version before the
first bump is whatever text is stored: it may be missing, no number at all, or a numeral that the printer
never writes. None of this makes a version repeat before the counter has gone all the way round.
-/

namespace MudController

open Logic

section

variable [Platform]

/-- The version that is reported now, then the one that is reported after each of `k` bumps. -/
def reportBumps : Nat → Action (List String)
  | 0 => do
    let version ← getConfigVersion
    return [version]
  | k + 1 => do
    let version ← getConfigVersion
    updateConfigVersion
    let versions ← reportBumps k
    return version :: versions

/-- The version of the tables, then their version after each of `k` bumps. -/
def Tables.versions (t : Tables) : Nat → List String
  | 0 => [t.version]
  | k + 1 => t.version :: t.bumped.versions k

theorem run_reportBumps (k : Nat) (w : World) : ((reportBumps k).run w).1 = .ok (w.db.versions k) := by
  induction k generalizing w with
  | zero =>
      unfold reportBumps
      rw [Action.run_bind_ok (run_getConfigVersion w)]
      rfl
  | succ k ih =>
      unfold reportBumps
      rw [Action.run_bind_ok (run_getConfigVersion w), Action.run_bind_ok (run_updateConfigVersion w)]
      have hrest := ih { w with db := w.db.bumped }
      rcases hrun : (reportBumps k).run { w with db := w.db.bumped } with ⟨r, w'⟩
      rw [hrun] at hrest
      cases hrest
      rw [Action.run_bind_ok hrun]
      rfl

theorem Tables.counter_bumped (t : Tables) : t.bumped.counter = t.counter + 1 :=
  counter_of_version t.bumped_version

theorem Tables.length_versions (t : Tables) (k : Nat) : (t.versions k).length = k + 1 := by
  induction k generalizing t with
  | zero => rfl
  | succ k ih => simp [versions, ih]

/-- After a bump, every version is the numeral of a later count. -/
theorem Tables.later_of_mem_versions {t : Tables} {k : Nat} {version : String}
    (h : version ∈ t.bumped.versions k) :
    ∃ i, 0 < i ∧ i ≤ k + 1 ∧ version = toText (t.counter + UInt64.ofNat i) := by
  induction k generalizing t with
  | zero =>
      rw [versions, List.mem_singleton, bumped_version] at h
      exact ⟨1, by omega, by omega, h⟩
  | succ k ih =>
      rcases List.mem_cons.mp h with h | h
      · rw [bumped_version] at h
        exact ⟨1, by omega, by omega, h⟩
      · obtain ⟨i, hpos, hle, hversion⟩ := ih h
        refine ⟨i + 1, by omega, by omega, ?_⟩
        rw [hversion, counter_bumped, UInt64.ofNat_add, UInt64.add_assoc, UInt64.add_comm 1]
        rfl

omit [Platform] in
/-- Less than a full cycle does not lead a counter back to where it was. -/
theorem counter_ne_later {counter : UInt64} {i : Nat} (hpos : 0 < i) (hcycle : i < 2 ^ 64) :
    counter ≠ counter + UInt64.ofNat i := by
  intro h
  have hnat := congrArg UInt64.toNat h
  rw [UInt64.toNat_add, UInt64.toNat_ofNat_of_lt' hcycle] at hnat
  have hlt := counter.toNat_lt
  omega

theorem Tables.nodup_versions (t : Tables) {k : Nat} (hcycle : k < 2 ^ 64) : (t.versions k).Nodup := by
  induction k generalizing t with
  | zero => exact List.nodup_singleton _
  | succ k ih =>
      refine List.nodup_cons.mpr ⟨fun hmem => ?_, ih t.bumped (by omega)⟩
      obtain ⟨i, hpos, hle, hversion⟩ := later_of_mem_versions hmem
      -- the text before the first bump can only be the numeral of the counter itself
      exact counter_ne_later hpos (by omega) (counter_of_version hversion)

/-- **No version comes twice within a cycle**, whatever text the version entry holds at the start. -/
theorem versions_pairwise_different (w : World) (k : Nat) (hcycle : k < 2 ^ 64) :
    ∃ versions, ((reportBumps k).run w).1 = .ok versions ∧ versions.length = k + 1 ∧ versions.Nodup :=
  ⟨w.db.versions k, run_reportBumps k w, w.db.length_versions k, w.db.nodup_versions hcycle⟩

end

section

attribute [local instance] Reference.platform

/-- A version that is about to wrap around. -/
def lastVersion : World :=
  Reference.offline
    (Reference.tables [] [] [⟨ConfigKeys.firewallConfigVersion.asRef, "+18446744073709551615"⟩]) (by decide)

example : ((reportBumps 2).run lastVersion).1 = .ok ["+18446744073709551615", "0", "1"] := by decide

/-- The versions around the wrap. -/
theorem versions_different_at_wrap :
    ∃ versions, ((reportBumps 2).run lastVersion).1 = .ok versions ∧ versions.length = 3 ∧ versions.Nodup :=
  versions_pairwise_different lastVersion 2 (by decide)

end

end MudController
