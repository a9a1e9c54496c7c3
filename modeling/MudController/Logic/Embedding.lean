import MudController.Logic.Path

/-!
# `Logic.Embedding` — programs of a part, as programs of the whole

A system has parts with statements of their own. An `Embedding` names a part's statements among those of the
whole; `Prog.lift` carries the part's programs over, statement by statement. What is known of a program of the
part carries over with it: what it may execute (`All.lift`), and what it has seen when it executes it
(`Follows.lift`).
-/

namespace Logic

/-- The statements of a part among those of the whole, and the part's answers among the whole's. -/
structure Embedding (S : Type) (Ans : S → Type) (S' : Type) (Ans' : S' → Type) where
  stmt : S → S'
  answer : (s : S) → Ans' (stmt s) → Ans s

namespace Prog

variable {S : Type} {Ans : S → Type} {S' : Type} {Ans' : S' → Type} {ε α : Type}

/-- A program of the part, as a program of the whole. -/
def lift (e : Embedding S Ans S' Ans') : Prog S Ans ε α → Prog S' Ans' ε α
  | .done r => .done r
  | .stmt s k => .stmt (e.stmt s) fun a => (k (e.answer s a)).lift e

variable (e : Embedding S Ans S' Ans')

/-- What the part's program may execute, its copy in the whole may. -/
theorem All.lift {P : S → Prop} {Q : S' → Prop} (hPQ : ∀ s, P s → Q (e.stmt s)) {p : Prog S Ans ε α}
    (h : p.All P) : (p.lift e).All Q := by
  induction p with
  | done r => trivial
  | stmt s k ih => exact ⟨hPQ s h.1, fun a => ih _ (h.2 _)⟩

/-- What the part's program has seen, as the whole's copy of it has seen it. -/
def Copies (x : Answered S Ans) (x' : Answered S' Ans') : Prop :=
  ∃ a', x' = ⟨e.stmt x.stmt, a'⟩ ∧ e.answer x.stmt a' = x.answer

/-- What the part's program has seen ahead of a statement, its copy has. -/
theorem Follows.lift {J : List (Answered S Ans) → S → Prop} {J' : List (Answered S' Ans') → S' → Prop}
    {seen : List (Answered S Ans)} {seen' : List (Answered S' Ans')} {p : Prog S Ans ε α} (h : p.Follows J seen)
    (hJ : ∀ later later' s, later.Forall₂ (Copies e) later' → J (seen ++ later) s →
      J' (seen' ++ later') (e.stmt s)) : (p.lift e).Follows J' seen' := by
  induction p generalizing seen seen' with
  | done r => trivial
  | stmt s k ih =>
      refine ⟨?_, fun a' => ih _ (h.2 (e.answer s a')) fun later later' s' hcopies hs' => ?_⟩
      · simpa using hJ [] [] s .nil (by simpa using h.1)
      · rw [List.append_assoc] at hs' ⊢
        exact hJ _ _ s' (.cons ⟨a', rfl, rfl⟩ hcopies) hs'

end Prog

end Logic
