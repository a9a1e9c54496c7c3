import Mathlib.Algebra.GroupWithZero.Nat
import Mathlib.Data.List.Induction

/-!
# `Logic.Progress` — runs that get somewhere

A measure that every step makes smaller, unless it changes nothing, tells how many rounds a run takes to its end
(`measure_zero_of_rounds`), as long as some input of every round changes something.
-/

namespace Logic

/-- What holds at first and not at last ends at some turn between. -/
theorem exists_last (P : Nat → Prop) {m n : Nat} (hmn : m ≤ n) (hm : P m) (hn : ¬ P n) :
    ∃ k, m ≤ k ∧ k < n ∧ P k ∧ ¬ P (k + 1) := by
  induction hmn with
  | refl => exact absurd hm hn
  | @step n hmn ih =>
      by_cases h : P n
      · exact ⟨n, hmn, Nat.lt_succ_self n, h, hn⟩
      · obtain ⟨k, hmk, hkn, hk⟩ := ih h
        exact ⟨k, hmk, Nat.lt_succ_of_lt hkn, hk⟩

/-- A sum gets smaller with one of its terms. -/
theorem sum_set_lt {l : List Nat} {i m n : Nat} (h : l[i]? = some n) (hlt : m < n) : (l.set i m).sum < l.sum := by
  induction l generalizing i with
  | nil => simp at h
  | cons a l ih =>
      cases i with
      | zero =>
          obtain rfl : a = n := by simpa using h
          simpa using hlt
      | succ i => simpa using ih (by simpa using h)

variable {σ α : Type} {step : σ → α → σ}

/-- Where every step changes nothing or makes the measure smaller, so does a run; if it changes nothing, none of its
    steps does. -/
theorem foldl_fixed_or_less {μ : σ → Nat} (hstep : ∀ s a, step s a = s ∨ μ (step s a) < μ s) (as : List α) (s : σ) :
    (as.foldl step s = s ∧ ∀ a ∈ as, step s a = s) ∨ μ (as.foldl step s) < μ s := by
  induction as generalizing s with
  | nil => exact .inl ⟨rfl, by simp⟩
  | cons a as ih =>
      rw [List.foldl_cons]
      rcases hstep s a with hsame | hless
      · rw [hsame]
        exact (ih s).imp_left fun ⟨hfixed, hall⟩ => ⟨hfixed, by simpa [hsame] using hall⟩
      · right
        rcases ih (step s a) with ⟨hfixed, _⟩ | hless'
        · rwa [hfixed]
        · exact Nat.lt_trans hless' hless

/-- **Rounds.** Where every step changes nothing or makes the measure smaller, and in every state with the invariant
    in which the measure is not zero some input of every round makes it smaller, as many rounds as the measure says
    bring it to zero. -/
theorem measure_zero_of_rounds {μ : σ → Nat} (Inv : σ → Prop) (hstep : ∀ s a, step s a = s ∨ μ (step s a) < μ s)
    (hinv : ∀ s a, Inv s → Inv (step s a)) {rounds : List (List α)}
    (hround : ∀ s, Inv s → μ s ≠ 0 → ∀ round ∈ rounds, ∃ a ∈ round, step s a ≠ s) {s : σ} (h : Inv s)
    (hlong : μ s ≤ rounds.length) : μ (rounds.flatten.foldl step s) = 0 := by
  induction rounds generalizing s with
  | nil => simpa using hlong
  | cons round rounds ih =>
      rw [List.flatten_cons, List.foldl_append]
      have hkept : Inv (round.foldl step s) := by
        clear hround hlong ih
        induction round generalizing s with
        | nil => exact h
        | cons a round ih => exact ih (hinv s a h)
      apply ih (fun s' hs' hμ r hr => hround s' hs' hμ r (List.mem_cons_of_mem _ hr)) hkept
      rw [List.length_cons] at hlong
      by_cases hzero : μ s = 0
      · rcases foldl_fixed_or_less hstep round s with ⟨hfixed, _⟩ | hless
        · rw [hfixed]
          omega
        · omega
      · obtain ⟨a, ha, hmoves⟩ := hround s h hzero round List.mem_cons_self
        rcases foldl_fixed_or_less hstep round s with ⟨_, hall⟩ | hless
        · exact absurd (hall a ha) hmoves
        · omega

end Logic
