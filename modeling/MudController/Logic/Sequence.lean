import Mathlib.Data.List.Induction

/-!
# `Logic.Sequence` — runs of one step after another

A run applies `step` to a list of inputs, one after another (`List.foldl`). The rules below turn what one
step does to an invariant into what a whole run does to it.
-/

namespace Logic

variable {σ α : Type} {step : σ → α → σ}

/-- **Runs that keep an invariant.** Where a step from a state with the invariant keeps it exactly if the
    condition `Ok` holds before the step, the states of a run all have the invariant exactly if every step
    of the run is taken under the condition. -/
theorem run_keeps_iff {Inv : σ → Prop} {Ok : σ → α → Prop}
    (hstep : ∀ s a, Inv s → (Inv (step s a) ↔ Ok s a)) {s : σ} (h : Inv s) (as : List α) :
    (∀ pre post, as = pre ++ post → Inv (pre.foldl step s)) ↔
      ∀ pre a post, as = pre ++ a :: post → Ok (pre.foldl step s) a := by
  constructor
  · intro hall pre a post hsplit
    have hbefore : Inv (pre.foldl step s) := hall pre (a :: post) hsplit
    have hafter : Inv ((pre ++ [a]).foldl step s) := hall (pre ++ [a]) post (by simp [hsplit])
    rw [List.foldl_append] at hafter
    exact (hstep _ a hbefore).mp hafter
  · intro hok pre
    -- by induction on the part of the run that has been taken
    induction pre using List.reverseRecOn with
    | nil => exact fun _ _ => h
    | append_singleton pre a ih =>
        intro post hsplit
        have hsplit' : as = pre ++ a :: post := by simp [hsplit]
        rw [List.foldl_append]
        exact (hstep _ a (ih (a :: post) hsplit')).mpr (hok pre a post hsplit')

/-- A run of one step can be split at that step only. -/
theorem forall_split_singleton {a : α} {Q : List α → α → List α → Prop} (h : Q [] a []) :
    ∀ pre b post, [a] = pre ++ b :: post → Q pre b post := by
  intro pre b post hsplit
  cases pre with
  | nil =>
      obtain ⟨rfl, rfl⟩ := List.cons.inj hsplit
      exact h
  | cons first pre => simp at hsplit

variable (step) in
/-- Every step of a run is taken under the condition `Ok` on the state before it. -/
def Along (Ok : σ → α → Prop) : σ → List α → Prop
  | _, [] => True
  | s, a :: as => Ok s a ∧ Along Ok (step s a) as

instance decidableAlong {Ok : σ → α → Prop} [∀ s a, Decidable (Ok s a)] :
    (s : σ) → (as : List α) → Decidable (Along step Ok s as)
  | _, [] => .isTrue trivial
  | s, a :: as => @instDecidableAnd _ _ inferInstance (decidableAlong (step s a) as)

/-- **Invariant rule.** An invariant that every step taken under the condition preserves holds after every
    run of such steps. -/
theorem foldl_invariant {Inv : σ → Prop} {Ok : σ → α → Prop}
    (hstep : ∀ s a, Inv s → Ok s a → Inv (step s a)) :
    ∀ (as : List α) (s : σ), Inv s → Along step Ok s as → Inv (as.foldl step s) := by
  intro as
  induction as with
  | nil => intro s hs _; exact hs
  | cons a as ih =>
      intro s hs hok
      exact ih (step s a) (hstep s a hs hok.1) hok.2

/-- **Trap rule.** Where a step under the condition keeps a good state good, a step against it falls into a
    trap, and no step leaves the trap, a run ends well exactly if every step is taken under the condition. -/
theorem foldl_good_or_trapped {Good Trapped : σ → Prop} {Ok : σ → α → Prop}
    (hgood : ∀ s a, Good s → Ok s a → Good (step s a))
    (hfall : ∀ s a, Good s → ¬ Ok s a → Trapped (step s a))
    (hstay : ∀ s a, Trapped s → Trapped (step s a)) :
    ∀ (as : List α) (s : σ), Good s →
      (Along step Ok s as ∧ Good (as.foldl step s)) ∨ (¬ Along step Ok s as ∧ Trapped (as.foldl step s)) := by
  have htrapped : ∀ (as : List α) (s : σ), Trapped s → Trapped (as.foldl step s) := by
    intro as
    induction as with
    | nil => exact fun s hs => hs
    | cons a as ih => exact fun s hs => ih (step s a) (hstay s a hs)
  intro as
  induction as with
  | nil => exact fun s hs => .inl ⟨trivial, hs⟩
  | cons a as ih =>
      intro s hs
      by_cases hok : Ok s a
      · rcases ih (step s a) (hgood s a hs hok) with ⟨halong, hend⟩ | ⟨halong, hend⟩
        · exact .inl ⟨⟨hok, halong⟩, hend⟩
        · exact .inr ⟨fun h => halong h.2, hend⟩
      · exact .inr ⟨fun h => hok h.1, htrapped as _ (hfall s a hs hok)⟩

end Logic
