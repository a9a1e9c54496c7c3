import Mathlib.Data.List.Induction
import Mathlib.Logic.Function.Basic

/-!
# `Logic.Gate` — admission by decision

A gate knows, of every party that has made contact, whether it is admitted: at first contact it is not, and
a decision about a known party changes it. Decisions about unknown parties have no effect. So the gate admits
exactly the parties about which the last decision was to admit, and made after their first contact
(`gate_admits_iff`).
-/

namespace Logic

/-- What can happen at a gate. -/
inductive GateEvent (κ : Type) where
  | contact (k : κ)
  | decision (k : κ) (allow : Bool)

/-- A gate: the decision in force about every known party. -/
abbrev Gate (κ : Type) := κ → Option Bool

variable {κ : Type} [DecidableEq κ]

/-- One event. -/
def Gate.step (gate : Gate κ) : GateEvent κ → Gate κ
  | .contact k => Function.update gate k (some ((gate k).getD false))
  | .decision k allow => Function.update gate k ((gate k).map fun _ => allow)

@[simp] theorem Gate.step_contact_self (gate : Gate κ) (k : κ) :
    gate.step (.contact k) k = some ((gate k).getD false) := Function.update_self _ _ _

@[simp] theorem Gate.step_decision_self (gate : Gate κ) (k : κ) (allow : Bool) :
    gate.step (.decision k allow) k = (gate k).map fun _ => allow := Function.update_self _ _ _

theorem Gate.step_contact_other (gate : Gate κ) {k other : κ} (h : k ≠ other) :
    gate.step (.contact other) k = gate k := Function.update_of_ne h _ _

theorem Gate.step_decision_other (gate : Gate κ) {k other : κ} (h : k ≠ other) (allow : Bool) :
    gate.step (.decision other allow) k = gate k := Function.update_of_ne h _ _

/-- The gate after these events, from one that knows nobody. -/
def Gate.after (events : List (GateEvent κ)) : Gate κ := events.foldl Gate.step fun _ => none

omit [DecidableEq κ] in
/-- The last decision about the party is to admit it, and was made after a contact. -/
def Admitted (k : κ) (events : List (GateEvent κ)) : Prop :=
  ∃ before after, events = before ++ .decision k true :: after ∧ .contact k ∈ before ∧
    ∀ allow, .decision k allow ∉ after

omit [DecidableEq κ] in
/-- One more event admits a known party, or leaves it admitted. -/
theorem admitted_append_singleton {k : κ} {events : List (GateEvent κ)} {e : GateEvent κ} :
    Admitted k (events ++ [e]) ↔
      (e = .decision k true ∧ .contact k ∈ events) ∨ ((∀ allow, e ≠ .decision k allow) ∧ Admitted k events) := by
  constructor
  · rintro ⟨before, after, hsplit, hcontact, hlast⟩
    rcases List.eq_nil_or_concat after with rfl | ⟨after, last, rfl⟩
    · obtain ⟨rfl, he⟩ := List.append_inj' hsplit rfl
      exact .inl ⟨(List.cons.inj he).1, hcontact⟩
    · have hsplit' : events ++ [e] = (before ++ .decision k true :: after) ++ [last] := by simpa using hsplit
      obtain ⟨rfl, he⟩ := List.append_inj' hsplit' rfl
      obtain rfl := (List.cons.inj he).1
      refine .inr ⟨?_, before, after, rfl, hcontact, fun allow hmem => hlast allow (by simp [hmem])⟩
      rintro allow rfl
      exact hlast allow (by simp)
  · rintro (⟨rfl, hcontact⟩ | ⟨hother, before, after, rfl, hcontact, hlast⟩)
    · exact ⟨events, [], rfl, hcontact, by simp⟩
    · refine ⟨before, after ++ [e], by simp, hcontact, fun allow hmem => ?_⟩
      rcases List.mem_append.mp hmem with hmem | hmem
      · exact hlast allow hmem
      · exact hother allow (List.mem_singleton.mp hmem).symm

theorem Gate.after_append_singleton (events : List (GateEvent κ)) (e : GateEvent κ) :
    Gate.after (events ++ [e]) = (Gate.after events).step e := by
  unfold Gate.after
  rw [List.foldl_append]
  rfl

/-- Only a contact makes a party known. -/
theorem Gate.step_isSome_iff (gate : Gate κ) (e : GateEvent κ) (k : κ) :
    (gate.step e k).isSome = true ↔ (gate k).isSome = true ∨ e = .contact k := by
  cases e with
  | contact other =>
      by_cases h : k = other
      · subst h
        simp
      · simp [Gate.step_contact_other _ h, Ne.symm h]
  | decision other allow =>
      by_cases h : k = other
      · subst h
        simp
      · simp [Gate.step_decision_other _ h]

/-- A gate knows the parties that have made contact. -/
theorem gate_knows_iff (k : κ) (events : List (GateEvent κ)) :
    (Gate.after events k).isSome ↔ .contact k ∈ events := by
  induction events using List.reverseRecOn with
  | nil => simp [Gate.after]
  | append_singleton events e ih =>
      rw [Gate.after_append_singleton, Gate.step_isSome_iff, ih, List.mem_append, List.mem_singleton, eq_comm]

/-- **Whom a gate admits.** -/
theorem gate_admits_iff (k : κ) (events : List (GateEvent κ)) :
    Gate.after events k = some true ↔ Admitted k events := by
  induction events using List.reverseRecOn with
  | nil => simp [Gate.after, Admitted]
  | append_singleton events e ih =>
      rw [Gate.after_append_singleton, admitted_append_singleton, ← ih, ← gate_knows_iff]
      cases e with
      | contact other =>
          by_cases h : k = other
          · -- a contact decides nothing
            subst h
            cases hk : Gate.after events k <;> simp [hk]
          · simp [Gate.step_contact_other _ h]
      | decision other allow =>
          by_cases h : k = other
          · subst h
            cases hk : Gate.after events k <;> simp [hk]
          · simp [Gate.step_decision_other _ h, Ne.symm h]

end Logic
