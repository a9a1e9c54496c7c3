import MudController.Logic.Prog
import MudController.Logic.Sequence

/-!
# `Logic.Interleave` — calls that take turns, one atomic statement each

A `Pool` is a shared state and the calls in progress, each a `Prog` reduced to what it still has to do.
A schedule names, turn by turn, the call that executes its next statement; every interleaving of the
calls' statements is the run of some schedule. The trace is a ghost: it records which call executed
which statement, so that "the last write of …" can be said of a run.
-/

namespace Logic

/-- Concurrent calls over a shared state. -/
structure Pool (S : Type) (Ans : S → Type) (ε α σ : Type) where
  state : σ
  procs : List (Prog S Ans ε α)
  /-- The statements executed so far, the latest first, each with the index of its call. -/
  trace : List (Nat × S)

namespace Pool

variable {S : Type} {Ans : S → Type} {ε α σ : Type}

/-- The calls as they are started on the state `w`. -/
def start (w : σ) (procs : List (Prog S Ans ε α)) : Pool S Ans ε α σ := ⟨w, procs, []⟩

variable (exec : (s : S) → σ → Ans s × σ)

/-- Call `i` executes its next statement; a finished call (or no call) leaves everything as it is. -/
def step (P : Pool S Ans ε α σ) (i : Nat) : Pool S Ans ε α σ :=
  match P.procs[i]? with
  | some (.stmt s k) =>
      { state := (exec s P.state).2
        procs := P.procs.set i (k (exec s P.state).1)
        trace := (i, s) :: P.trace }
  | _ => P

/-- One interleaving of the calls. -/
def run (P : Pool S Ans ε α σ) (sched : List Nat) : Pool S Ans ε α σ := sched.foldl (step exec) P

/-- Every call has finished. -/
def Finished (P : Pool S Ans ε α σ) : Prop := ∀ p ∈ P.procs, p.isDone = true

instance (P : Pool S Ans ε α σ) : Decidable P.Finished :=
  inferInstanceAs (Decidable (∀ p ∈ P.procs, p.isDone = true))

variable {exec}

/-- **What a turn can do.** Either nothing, or the call `i` is at a statement, which is executed. -/
theorem step_cases (P : Pool S Ans ε α σ) (i : Nat) :
    step exec P i = P ∨
    ∃ s k, P.procs[i]? = some (.stmt s k) ∧
      step exec P i = ⟨(exec s P.state).2, P.procs.set i (k (exec s P.state).1), (i, s) :: P.trace⟩ := by
  unfold step
  split
  · next s k h => exact .inr ⟨s, k, h, rfl⟩
  · exact .inl rfl

/-- The turn of a call that is at a statement. -/
theorem step_of_stmt {P : Pool S Ans ε α σ} {i : Nat} {s : S} {k : Ans s → Prog S Ans ε α}
    (h : P.procs[i]? = some (.stmt s k)) :
    step exec P i = ⟨(exec s P.state).2, P.procs.set i (k (exec s P.state).1), (i, s) :: P.trace⟩ := by
  unfold step
  rw [h]

variable (exec) in
/-- Every turn of the schedule is taken under the condition `C` on the pool before it. -/
abbrev Along (C : Pool S Ans ε α σ → Nat → Prop) (P : Pool S Ans ε α σ) (sched : List Nat) : Prop :=
  Logic.Along (step exec) C P sched

/-- An invariant that every turn taken under the condition preserves holds after every run of such
    turns. -/
theorem run_invariant {Inv : Pool S Ans ε α σ → Prop} {C : Pool S Ans ε α σ → Nat → Prop}
    (hstep : ∀ P i, Inv P → C P i → Inv (step exec P i)) (sched : List Nat) (P : Pool S Ans ε α σ)
    (hP : Inv P) (hC : Along exec C P sched) : Inv (run exec P sched) :=
  foldl_invariant hstep sched P hP hC

end Pool

/-- A check that depends on which call is next, for either call. -/
theorem imp_of_ite_decide {c p q : Prop} [Decidable c] [Decidable p] [Decidable q]
    (h : (if c then decide p else decide q) = true) : (c → p) ∧ (¬c → q) := by
  constructor
  · intro hc
    rw [if_pos hc] at h
    exact of_decide_eq_true h
  · intro hc
    rw [if_neg hc] at h
    exact of_decide_eq_true h

end Logic
