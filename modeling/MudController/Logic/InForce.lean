import Mathlib.Data.List.Induction

/-!
# `Logic.InForce` — what a log leaves in force

A log sets things and clears them again, in any order and any number of times. In force is what was set and
not cleared since: one more entry decides about its own thing, and about no other (`inForce_append_singleton`).
-/

namespace Logic

/-- An entry of a log. -/
inductive Change (κ : Type) where
  | set (k : κ)
  | clear (k : κ)
  deriving DecidableEq

variable {κ : Type}

/-- The last entry about `k` sets it. -/
def InForce (k : κ) (log : List (Change κ)) : Prop :=
  ∃ before after, log = before ++ .set k :: after ∧ .clear k ∉ after

/-- What is in force was set. -/
theorem InForce.set_mem {k : κ} {log : List (Change κ)} (h : InForce k log) : .set k ∈ log := by
  obtain ⟨before, after, rfl, _⟩ := h
  exact List.mem_append_right before List.mem_cons_self

/-- One more entry. -/
theorem inForce_append_singleton {k : κ} {log : List (Change κ)} {e : Change κ} :
    InForce k (log ++ [e]) ↔ e = .set k ∨ (e ≠ .clear k ∧ InForce k log) := by
  constructor
  · rintro ⟨before, after, hsplit, hkept⟩
    rcases List.eq_nil_or_concat after with rfl | ⟨after, last, rfl⟩
    · obtain ⟨_, he⟩ := List.append_inj' hsplit rfl
      exact .inl (List.cons.inj he).1
    · have hsplit' : log ++ [e] = (before ++ .set k :: after) ++ [last] := by simpa using hsplit
      obtain ⟨rfl, he⟩ := List.append_inj' hsplit' rfl
      obtain rfl := (List.cons.inj he).1
      refine .inr ⟨?_, before, after, rfl, fun hmem => hkept (by simp [hmem])⟩
      rintro rfl
      exact hkept (by simp)
  · rintro (rfl | ⟨hother, before, after, rfl, hkept⟩)
    · exact ⟨log, [], rfl, List.not_mem_nil⟩
    · refine ⟨before, after ++ [e], by simp, fun hmem => ?_⟩
      rcases List.mem_append.mp hmem with hmem | hmem
      · exact hkept hmem
      · exact hother (List.mem_singleton.mp hmem).symm

theorem inForce_append_set {k other : κ} {log : List (Change κ)} :
    InForce k (log ++ [.set other]) ↔ InForce k log ∨ k = other := by
  rw [inForce_append_singleton]
  constructor
  · rintro (he | ⟨_, hlog⟩)
    · exact .inr (Change.set.inj he).symm
    · exact .inl hlog
  · rintro (hlog | rfl)
    · exact .inr ⟨nofun, hlog⟩
    · exact .inl rfl

theorem inForce_append_clear {k other : κ} {log : List (Change κ)} :
    InForce k (log ++ [.clear other]) ↔ InForce k log ∧ k ≠ other := by
  rw [inForce_append_singleton]
  constructor
  · rintro (he | ⟨hne, hlog⟩)
    · exact nomatch he
    · exact ⟨hlog, fun h => hne (congrArg Change.clear h.symm)⟩
  · rintro ⟨hlog, hne⟩
    exact .inr ⟨fun he => hne (Change.clear.inj he).symm, hlog⟩

end Logic
